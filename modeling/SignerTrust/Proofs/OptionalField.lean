import Mathlib.Data.List.Forall2
import SignerTrust.Holder
import SignerTrust.Proofs.ClassificationOrder

/-!
# A bad field harms no other

Each field of a holder is read from the extension of its own name, and the names of different fields
differ also across authorities (`HolderField.extensionName_inj`).  So the values of the extensions
of one field bear on nothing but that field: two certificates that differ in these values alone are
classified alike, fail alike, and agree in all other fields (`AgreesOutside.get_eq`).

An identity number that no extension gives is the first that decodes among the alternative names.
Names of it that do not decode are passed over, but the names are read all together: one among them
that is no general name leaves none of them (`holderDetails_frame`).
-/

namespace SignerTrust

/-! ### Names of fields -/

theorem HolderField.number_injective : Function.Injective HolderField.number := by
  intro f g h
  cases f <;> cases g <;> first | rfl | exact absurd h (by decide)

theorem Ecosystem.marker_length {e : Ecosystem} {p : Profile} (h : e.profile? = some p) :
    p.marker.toList.length = 19 := by
  cases e <;> first | (cases h; decide +kernel) | cases h

theorem HolderField.extensionName_inj {e e' : Ecosystem} {p p' : Profile}
    (hp : e.profile? = some p) (hp' : e'.profile? = some p') {f g : HolderField}
    (h : f.extensionName p = g.extensionName p') : f = g := by
  have hl := congrArg String.toList h
  simp only [extensionName, String.toList_append] at hl
  have hlen : (p.marker.toList ++ ".".toList).length = (p'.marker.toList ++ ".".toList).length := by
    rw [List.length_append, List.length_append, Ecosystem.marker_length hp,
      Ecosystem.marker_length hp']
  have hnumber := congrArg (fun digits => Nat.ofDigitChars 10 digits 0)
    (List.append_inj_right hl hlen)
  exact HolderField.number_injective (by simpa [Nat.toString_eq_ofList_toDigits] using hnumber)

/-- An identifier whose text does not start with a marker is not the name of a field. -/
theorem HolderField.dotted_ne_extensionName {name : Oid} {p : Profile}
    (h : name.dottedStartsWith p.marker = false) (f : HolderField) :
    name.dotted ≠ f.extensionName p := by
  intro he
  have hstart : p.marker.toList <+: name.dotted.toList := by
    rw [he, extensionName, String.toList_append, String.toList_append, List.append_assoc]
    exact List.prefix_append _ _
  rw [Oid.dottedStartsWith, List.isPrefixOf_iff_prefix.2 hstart] at h
  cases h

theorem HolderField.ne_policiesName {e : Ecosystem} {p : Profile} (hp : e.profile? = some p)
    (f : HolderField) : Certificate.policiesName.dotted ≠ f.extensionName p := by
  refine dotted_ne_extensionName ?_ f
  cases e <;> first | (cases hp; decide +kernel) | cases hp

theorem HolderField.ne_subjectAltName {e : Ecosystem} {p : Profile} (hp : e.profile? = some p)
    (f : HolderField) : Certificate.subjectAltName.dotted ≠ f.extensionName p := by
  refine dotted_ne_extensionName ?_ f
  cases e <;> first | (cases hp; decide +kernel) | cases hp

/-! ### Certificates that differ in the values of one name -/

/-- Whether two extensions differ at most in their values, and in these only if `name` is their
dotted name. -/
def Extension.AgreesOutside (name : String) (x x' : Extension) : Prop :=
  x'.name = x.name ∧ x'.critical = x.critical ∧ (x.name.dotted ≠ name → x'.value = x.value)

/-- Whether two certificates differ at most in the values of the extensions of a dotted name, and in
the bytes and the signature that cover these. -/
def Certificate.AgreesOutside (name : String) (c c' : Certificate) : Prop :=
  List.Forall₂ (Extension.AgreesOutside name) c.extensions c'.extensions
    ∧ ∃ signedPart signature,
      c' = { c with extensions := c'.extensions, signedPart := signedPart, signature := signature }

theorem Extension.AgreesOutside.eq {name : String} {x x' : Extension}
    (h : AgreesOutside name x x') (hn : x.name.dotted ≠ name) : x' = x := by
  obtain ⟨hname, hcritical, hvalue⟩ := h
  rcases x with ⟨n, critical, value⟩
  rcases x' with ⟨n', critical', value'⟩
  obtain rfl : n' = n := hname
  obtain rfl : critical' = critical := hcritical
  obtain rfl : value' = value := hvalue hn
  rfl

/-- The extensions that are chosen by names other than `name` are the same. -/
theorem Extension.filter_agreesOutside {name : String} (chosen : Oid → Bool)
    (hc : ∀ n, chosen n = true → n.dotted ≠ name) : ∀ {xs xs' : List Extension},
    List.Forall₂ (AgreesOutside name) xs xs' →
      xs'.filter (fun x => chosen x.name) = xs.filter fun x => chosen x.name
  | _, _, .nil => rfl
  | x :: xs, x' :: xs', .cons h hs => by
    have ih := filter_agreesOutside chosen hc hs
    rw [List.filter_cons, List.filter_cons, h.1, ih]
    split_ifs with hx
    · rw [h.eq (hc _ hx)]
    · rfl

theorem Extension.map_name_agreesOutside {name : String} : ∀ {xs xs' : List Extension},
    List.Forall₂ (AgreesOutside name) xs xs' → xs'.map (·.name) = xs.map (·.name)
  | _, _, .nil => rfl
  | _, _, .cons h hs => by
    rw [List.map_cons, List.map_cons, h.1, map_name_agreesOutside hs]

/-- The field of a holder's data. -/
def HolderDetails.get (d : HolderDetails) : HolderField → Option String
  | .cedula => d.cedula
  | .givenNames => d.givenNames
  | .firstSurname => d.firstSurname
  | .secondSurname => d.secondSurname
  | .position => d.position
  | .institution => d.institution
  | .address => d.address
  | .phone => d.phone
  | .city => d.city
  | .companyName => d.companyName
  | .ruc => d.ruc

namespace Certificate

variable {c c' : Certificate} {e : Ecosystem} {p : Profile} {f : HolderField} {name : String}

theorem AgreesOutside.version_eq (h : c.AgreesOutside name c') : c'.version = c.version := by
  obtain ⟨-, signedPart, signature, he⟩ := h
  rw [he]

theorem AgreesOutside.issuer_eq (h : c.AgreesOutside name c') : c'.issuer = c.issuer := by
  obtain ⟨-, signedPart, signature, he⟩ := h
  rw [he]

theorem AgreesOutside.isMarkedLike (h : c.AgreesOutside name c') : c.IsMarkedLike c' := by
  refine ⟨fun n => ?_, by rw [isTestIssuer, isTestIssuer, h.issuer_eq]⟩
  have hmem : ∀ xs : List Extension, (∃ x ∈ xs, x.name = n) ↔ n ∈ xs.map (·.name) := fun xs =>
    List.mem_map.symm
  rw [hmem, hmem, Extension.map_name_agreesOutside h.1]

theorem AgreesOutside.extension?_eq (h : c.AgreesOutside name c') {n : Oid}
    (hn : n.dotted ≠ name) : c'.extension? n = c.extension? n := by
  have hnamed : Extension.named n c'.extensions = Extension.named n c.extensions :=
    Extension.filter_agreesOutside (fun m => decide (m = n))
      (fun _ hm => of_decide_eq_true hm ▸ hn) h.1
  rw [extension?, extension?, Extension.unique?, Extension.unique?, hnamed]

theorem AgreesOutside.extensionText?_eq (h : c.AgreesOutside name c') {other : String}
    (hn : other ≠ name) : c'.extensionText? other = c.extensionText? other := by
  have hfilter := Extension.filter_agreesOutside (fun m => decide (m.dotted = other))
    (fun m hm => by rw [of_decide_eq_true hm]; exact hn) h.1
  rw [extensionText?, extensionText?, ← List.head?_filter, ← List.head?_filter, hfilter]

/-- The values of the extensions of one field do not bear on classification. -/
theorem AgreesOutside.classify_eq (hp : e.profile? = some p)
    (h : c.AgreesOutside (f.extensionName p) c') : c'.classify = c.classify := by
  refine (classify_eq_of (by rw [looksLike_congr h.isMarkedLike])
    (hasPolicy_congr fun _ => ?_)).symm
  rw [policies, policies, h.version_eq, h.extension?_eq (HolderField.ne_policiesName hp f)]

theorem AgreesOutside.altNames_eq (hp : e.profile? = some p)
    (h : c.AgreesOutside (f.extensionName p) c') : c'.altNames = c.altNames := by
  rw [altNames, altNames, h.extension?_eq (HolderField.ne_subjectAltName hp f)]

/-! ### What is read of a holder -/

/-- The text of a field.  An identity number that no extension gives is looked up among the
alternative names. -/
def fieldText? (c : Certificate) (p : Profile) (f : HolderField) : Option String :=
  (c.extensionText? (f.extensionName p)).or
    (if f = .cedula then c.altNames.findSome? (GeneralName.otherText? (f.extensionName p))
    else none)

theorem holderDetails_of_classify {holder : HolderType} (hc : c.classify = .ok (e, holder))
    (hp : e.profile? = some p) : ∃ d, c.holderDetails = .ok d ∧ d.ecosystem = e
      ∧ d.holderType = holder ∧ ∀ f, d.get f = c.fieldText? p f := by
  simp only [holderDetails, hc, Except.bind, bind, hp, pure, Except.pure]
  refine ⟨_, rfl, rfl, rfl, fun f => ?_⟩
  cases f <;> simp [HolderDetails.get, fieldText?]

theorem holderDetails_of_error {err : ClassifyError} (hc : c.classify = .error err) :
    c.holderDetails = .error err := by
  simp only [holderDetails, hc, Except.bind, bind]

/-- The data of a holder fail exactly as classification does. -/
theorem holderDetails_eq_error_iff {err : ClassifyError} :
    c.holderDetails = .error err ↔ c.classify = .error err := by
  constructor
  · intro h
    rcases hc : c.classify with err' | ⟨e, holder⟩
    · cases (holderDetails_of_error hc).symm.trans h
      rfl
    · obtain ⟨-, p, hp, -⟩ := classify_eq_ok_iff.1 hc
      obtain ⟨d, hd, -⟩ := holderDetails_of_classify hc hp
      rw [hd] at h
      cases h
  · exact holderDetails_of_error

theorem classify_of_holderDetails {d : HolderDetails} (h : c.holderDetails = .ok d) :
    c.classify = .ok (d.ecosystem, d.holderType)
      ∧ ∃ p, d.ecosystem.profile? = some p ∧ ∀ f, d.get f = c.fieldText? p f := by
  rcases hc : c.classify with err | ⟨e, holder⟩
  · rw [holderDetails_of_error hc] at h
    cases h
  · obtain ⟨-, p, hp, -⟩ := classify_eq_ok_iff.1 hc
    obtain ⟨d', hd, rfl, rfl, hget⟩ := holderDetails_of_classify hc hp
    cases hd.symm.trans h
    exact ⟨rfl, p, hp, hget⟩

/-- The values of the extensions of one field bear on no other field. -/
theorem AgreesOutside.get_eq (hp : e.profile? = some p)
    (h : c.AgreesOutside (f.extensionName p) c') {d : HolderDetails}
    (hd : c.holderDetails = .ok d) : ∃ d', c'.holderDetails = .ok d' ∧ d'.ecosystem = d.ecosystem
      ∧ d'.holderType = d.holderType ∧ ∀ g, g ≠ f → d'.get g = d.get g := by
  obtain ⟨hc, q, hq, hget⟩ := classify_of_holderDetails hd
  rw [← h.classify_eq hp] at hc
  obtain ⟨d', hd', he, hh, hget'⟩ := holderDetails_of_classify hc hq
  refine ⟨d', hd', he, hh, fun g hg => ?_⟩
  have hname : g.extensionName q ≠ f.extensionName p := fun heq =>
    hg (HolderField.extensionName_inj hq hp heq)
  rw [hget, hget', fieldText?, fieldText?, h.extensionText?_eq hname, h.altNames_eq hp]

theorem altNames_of_named {x : Extension} {names : List GeneralName}
    (hx : Extension.named subjectAltName c.extensions = [x])
    (hr : readAltNames? x.value = some names) : c.altNames = names := by
  simp only [altNames, extension?, Extension.unique?, hx, Option.bind_some, hr, Option.getD_some]

theorem altNames_eq_nil (h : ∀ x names, Extension.named subjectAltName c.extensions = [x] →
    readAltNames? x.value ≠ some names) : c.altNames = [] := by
  rw [altNames, extension?, Extension.unique?]
  split
  · rename_i x hx
    rw [Option.bind_some, Option.eq_none_iff_forall_ne_some.2 fun names => h x names hx]
    rfl
  · rfl

theorem cedula_eq_findSome? {d : HolderDetails} (hd : c.holderDetails = .ok d)
    (hp : d.ecosystem.profile? = some p)
    (hx : ∀ x, (c.extensions.find? fun x => x.name.dotted = HolderField.cedula.extensionName p)
      = some x → decodeText? x.value = none) :
    d.cedula = c.altNames.findSome?
      (GeneralName.otherText? (HolderField.cedula.extensionName p)) := by
  obtain ⟨-, q, hq, hget⟩ := classify_of_holderDetails hd
  obtain rfl := Option.some.inj (hp.symm.trans hq)
  have htext : c.extensionText? (HolderField.cedula.extensionName p) = none := by
    rcases hfind : c.extensions.find? fun x => x.name.dotted = HolderField.cedula.extensionName p
      with _ | x
    · rw [extensionText?, hfind]
      rfl
    · rw [extensionText?, hfind]
      exact hx x hfind
  have hcedula := hget .cedula
  rw [fieldText?, htext, Option.none_or, if_pos rfl] at hcedula
  exact hcedula

/-- Certificates that differ in the values of the extensions of one field alone are classified
alike, fail alike and agree in all other fields.  An identity number that its first extension does
not give is that of the first alternative name of its kind that decodes; without one alternative
names extension all names of which can be read there is none. -/
theorem holderDetails_frame {e : Ecosystem} {p : Profile} (hp : e.profile? = some p) :
    (∀ (f : HolderField) (c c' : Certificate), c.AgreesOutside (f.extensionName p) c' →
      c'.classify = c.classify
      ∧ (∀ err, c.holderDetails = .error err ↔ c'.holderDetails = .error err)
      ∧ ∀ d, c.holderDetails = .ok d → ∃ d', c'.holderDetails = .ok d'
        ∧ d'.ecosystem = d.ecosystem ∧ d'.holderType = d.holderType
        ∧ ∀ g, g ≠ f → d'.get g = d.get g)
    ∧ ∀ (c : Certificate) (d : HolderDetails), c.holderDetails = .ok d → d.ecosystem = e →
      (∀ x, (c.extensions.find? fun x =>
          x.name.dotted = HolderField.cedula.extensionName p) = some x →
        decodeText? x.value = none) →
      (∀ x names, Extension.named subjectAltName c.extensions = [x] →
        readAltNames? x.value = some names →
        (∀ text, d.cedula = some text ↔ ∃ before name after, names = before ++ name :: after
          ∧ name.otherText? (HolderField.cedula.extensionName p) = some text
          ∧ ∀ other ∈ before, other.otherText? (HolderField.cedula.extensionName p) = none)
        ∧ (d.cedula = none ↔
          ∀ name ∈ names, name.otherText? (HolderField.cedula.extensionName p) = none))
      ∧ ((∀ x names, Extension.named subjectAltName c.extensions = [x] →
        readAltNames? x.value ≠ some names) → d.cedula = none) := by
  refine ⟨fun f c c' h => ⟨h.classify_eq hp, fun err => ?_, fun d => h.get_eq hp⟩,
    fun c d hd he hx => ?_⟩
  · rw [holderDetails_eq_error_iff, holderDetails_eq_error_iff, h.classify_eq hp]
  · have hcedula := cedula_eq_findSome? hd (he ▸ hp) hx
    refine ⟨fun x names hnamed hr => ?_, fun hnone => ?_⟩
    · rw [hcedula, altNames_of_named hnamed hr]
      exact ⟨fun text => List.findSome?_eq_some_iff, List.findSome?_eq_none_iff⟩
    · rw [hcedula, altNames_eq_nil hnone]
      rfl

/-- An alternative name of the kind of the identity number. -/
def numberName (value : Bytes) : Bytes :=
  Der.encode 0xa0 (Der.encode 0x06 (Oid.ofArcs [1, 3, 6, 1, 4, 1, 37947, 3, 1]).content
    ++ Der.encode 0xa0 value)

/-- A link whose byte is no text. -/
def unreadableName : Bytes :=
  Der.encode 0x86 [0xff]

/-- A certificate with a value for the identity number and with alternative names. -/
def sampleHolder (value : Bytes) (names : List Bytes) : Certificate :=
  sampleOf [{ sampleField 37947 with value := value }, samplePolicies [1],
    ⟨subjectAltName, false, Der.encode 0x30 names.flatten⟩]

/-- An alternative name with a number for its text, and one with a text. -/
def sampleNames : List Bytes :=
  [numberName (Der.encode 0x02 [0x11]), numberName (Der.encode 0x0c [0x31, 0x37])]

theorem holderDetails_frame_of_sample :
    ∃ d d', (sampleHolder [] sampleNames).holderDetails = .ok d
      ∧ (sampleHolder [0x0c, 0x01, 0x31] sampleNames).holderDetails = .ok d'
      ∧ (∀ g, g ≠ .cedula → d'.get g = d.get g) ∧ d.cedula = some "17" := by
  obtain ⟨hframe, hnumber⟩ := @holderDetails_frame .bancoCentral _ rfl
  have hagrees : (sampleHolder [] sampleNames).AgreesOutside
      (HolderField.cedula.extensionName ⟨"1.3.6.1.4.1.37947.3", "1.3.6.1.4.1.37947.2"⟩)
      (sampleHolder [0x0c, 0x01, 0x31] sampleNames) := by
    refine ⟨.cons ⟨rfl, rfl, fun hn => absurd ?_ hn⟩ (.cons ⟨rfl, rfl, fun _ => rfl⟩
      (.cons ⟨rfl, rfl, fun _ => rfl⟩ .nil)), [], ⟨0, []⟩, rfl⟩
    decide +kernel
  have hd : (sampleHolder [] sampleNames).holderDetails = .ok ⟨.bancoCentral, .naturalPerson,
      some "17", none, none, none, none, none, none, none, none, none, none⟩ := by
    decide +kernel
  obtain ⟨d', hd', -, -, hget⟩ := (hframe _ _ _ hagrees).2.2 _ hd
  have hfield : ∀ x, ((sampleHolder [] sampleNames).extensions.find? fun x => x.name.dotted
      = HolderField.cedula.extensionName ⟨"1.3.6.1.4.1.37947.3", "1.3.6.1.4.1.37947.2"⟩) = some x →
      decodeText? x.value = none := by
    decide +kernel
  have hnamed : Extension.named subjectAltName (sampleHolder [] sampleNames).extensions
      = [⟨subjectAltName, false, Der.encode 0x30 sampleNames.flatten⟩] := by
    decide +kernel
  have hnames : readAltNames? (Der.encode 0x30 sampleNames.flatten)
      = some [.otherName (.ofArcs [1, 3, 6, 1, 4, 1, 37947, 3, 1])
          (Der.encode 0xa0 (Der.encode 0x02 [0x11])),
        .otherName (.ofArcs [1, 3, 6, 1, 4, 1, 37947, 3, 1])
          (Der.encode 0xa0 (Der.encode 0x0c [0x31, 0x37]))] := by
    decide +kernel
  have hcedula := ((hnumber _ _ hd rfl hfield).1 _ _ hnamed hnames).1 "17"
  exact ⟨_, d', hd, hd', hget, hcedula.2 ⟨[_], _, [], rfl, by decide +kernel, by decide +kernel⟩⟩

/-- A link that is no text takes the identity number away that stands after it. -/
theorem sampleHolder_loses_cedula :
    (Extension.named subjectAltName
        (sampleHolder [] (unreadableName :: sampleNames)).extensions).length = 1
      ∧ GeneralName.read? unreadableName = none
      ∧ (GeneralName.read? (numberName (Der.encode 0x0c [0x31, 0x37]))).map
        (fun r => r.1.otherText? "1.3.6.1.4.1.37947.3.1") = some (some "17")
      ∧ (sampleHolder [] (unreadableName :: sampleNames)).extensionText? "1.3.6.1.4.1.37947.3.1"
        = none
      ∧ ∃ d, (sampleHolder [] (unreadableName :: sampleNames)).holderDetails = .ok d
        ∧ d.cedula = none := by
  refine ⟨by decide +kernel, by decide +kernel, by decide +kernel, by decide +kernel,
    ⟨.bancoCentral, .naturalPerson, none, none, none, none, none, none, none, none, none, none,
      none⟩, by decide +kernel, rfl⟩

end Certificate

end SignerTrust
