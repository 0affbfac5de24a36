import Mathlib.Tactic.Common
import SignerTrust.Network.Directory
import SignerTrust.Proofs.PercentEncoding

/-!
# Links to entries

A link that is put together from a scheme, the name of a host, a port and the percent-encoded name
of an entry is taken apart again into these (`parse?_eq_some`), and so is the attribute that it asks
for, whatever follows it (`leadsTo_linkText_cons`).  The characters before the query are neither
blanks nor breaks, so that all of them count (`significant_append`), no at sign is among them that
would end a user's name (`dropUser_host`), and each part stops at the sign that the next one starts
with.  A link of another scheme, or one that has no host, leads nowhere
(`parse?_eq_none_of_leadsNowhere`).
-/

namespace SignerTrust.DirectoryUrl

/-! ### Links as they are put together -/

/-- Whether a character occurs in the names of hosts. -/
def isHostNameChar (c : Char) : Bool :=
  c.isLower || c.isDigit || c = '-' || c = '.' || c = '_'

/-- Whether a text is the name of a host, in lower case. -/
def IsHostName (host : String) : Prop :=
  host ≠ "" ∧ host.toList.all isHostNameChar = true

instance (host : String) : Decidable (IsHostName host) :=
  inferInstanceAs (Decidable (_ ∧ _))

/-- A port behind its colon. -/
def portText : Option Nat → String
  | none => ""
  | some p => ":" ++ toString p

/-- A link with the encoded name of an entry and, behind the question mark, a query. -/
def linkText (scheme : DirectoryScheme) (host : String) (port : Option Nat)
    (path query : List Char) : String :=
  scheme.name ++ "://" ++ host ++ portText port ++ "/" ++ String.ofList (path ++ query)

/-- The server of such a link; the port is that of the scheme if the link has none. -/
def serverText (scheme : DirectoryScheme) (host : String) (port : Option Nat) : String :=
  match scheme, port with
  | .plain, none => "ldap://" ++ host ++ ":389"
  | .secured, none => "ldaps://" ++ host ++ ":636"
  | .plain, some p => "ldap://" ++ host ++ ":" ++ toString p
  | .secured, some p => "ldaps://" ++ host ++ ":" ++ toString p

/-- Whether a link is read as that of an entry of a server, and of an attribute if it asks for
one. -/
def LeadsTo (url server entryName : String) (attributeName : Option String) : Prop :=
  ∃ u, parse? url = some u ∧ u.server = server ∧ u.entryName = entryName
    ∧ u.attributeName = attributeName

/-- Whether characters can follow the first attribute of a query: they are none, or start with
another attribute or with another part. -/
def FollowsAttribute (cs : List Char) : Prop :=
  cs = [] ∨ cs.head? = some ',' ∨ cs.head? = some '?'

instance : DecidablePred FollowsAttribute := fun _ =>
  inferInstanceAs (Decidable (_ ∨ _))

/-! ### Links that lead nowhere -/

/-- Whether a character occurs in the names of schemes. -/
def isSchemeChar (c : Char) : Bool :=
  c.isAlphanum || c = '+' || c = '-' || c = '.'

/-- The scheme of a link in lower case, if the link has one: a letter and more letters, digits and
signs before the first colon. -/
def schemeName? (cs : List Char) : Option String :=
  let name := cs.takeWhile (· ≠ ':')
  if name ≠ cs ∧ name.head?.any Char.isAlpha ∧ name.all isSchemeChar then
    some (String.ofList (name.map Char.toLower))
  else none

/-- What follows the scheme and its colon. -/
def afterScheme (cs : List Char) : List Char :=
  (cs.dropWhile (· ≠ ':')).drop 1

/-- Whether what follows a scheme has no host: two slashes are missing, or nothing stands behind
them but perhaps a user, who is told by the last at sign, and a port. -/
inductive LacksHost : List Char → Prop
  | noSlashes {cs : List Char} (h : ¬ ['/', '/'] <+: cs) : LacksHost cs
  | noHost {user port rest : List Char} (huser : user = [] ∨ user.getLast? = some '@')
      (hport : port = [] ∨ port.head? = some ':') (hat : '@' ∉ port)
      (hends : ∀ c ∈ user ++ port, endsAuthority c = false)
      (hrest : ∀ c ∈ rest.head?, endsAuthority c = true) :
      LacksHost (['/', '/'] ++ (user ++ (port ++ rest)))

/-- Whether a link leads to no directory: its scheme is another one, or it has no host. -/
def LeadsNowhere (url : String) : Prop :=
  schemeName? (significant url) ∉ [some "ldap", some "ldaps"]
    ∨ LacksHost (afterScheme (significant url))

/-! ### The characters that count -/

theorem forall_isSpelling {p : Char → Bool}
    (h : ∀ n < 128, isSpelling (Char.ofNat n) = true → p (Char.ofNat n) = true) {c : Char}
    (hc : isSpelling c = true) : p c = true := by
  rw [← Char.ofNat_toNat c] at hc ⊢
  exact h _ (by simpa using lt_of_isSpelling hc) hc

/-- A character of a spelling is none of the signs that part a link. -/
theorem ne_of_isSpelling {c d : Char} (h : isSpelling c = true) (hd : isSpelling d = false) :
    c ≠ d := by
  rintro rfl
  exact Bool.noConfusion (h.symm.trans hd)

theorem not_endsAuthority_of_isSpelling {c : Char} (h : isSpelling c = true) :
    endsAuthority c = false := by
  simp only [endsAuthority, Bool.or_eq_false_iff, decide_eq_false_iff_not]
  exact ⟨⟨ne_of_isSpelling h rfl, ne_of_isSpelling h rfl⟩, ne_of_isSpelling h rfl⟩

theorem not_isEdgeBlank_of_isSpelling {c : Char} (h : isSpelling c = true) :
    isEdgeBlank c = false := by
  simpa using forall_isSpelling (p := fun c => !isEdgeBlank c) (by decide) h

theorem isSpelling_of_isHostNameChar {c : Char} (h : isHostNameChar c = true) :
    isSpelling c = true := by
  have hlower : c.isLower = true → c.isAlphanum = true := fun h => by
    show (c.isUpper || c.isLower || c.isDigit) = true
    rw [h, Bool.or_true, Bool.true_or]
  simp only [isHostNameChar, isSpelling, isUnreserved, Char.isAlphanum, Bool.or_eq_true,
    decide_eq_true_eq] at h hlower ⊢
  tauto

theorem IsHostName.isSpelling {host : String} (h : IsHostName host) :
    ∀ c ∈ host.toList, DirectoryUrl.isSpelling c = true := fun c hc =>
  isSpelling_of_isHostNameChar (List.all_eq_true.1 h.2 c hc)

theorem isSpelling_of_isDigit {c : Char} (h : c.isDigit = true) : isSpelling c = true := by
  simp [isSpelling, isUnreserved, Char.isAlphanum, h]

theorem isBreak_of_not_isEdgeBlank {c : Char} (h : isEdgeBlank c = false) : isBreak c = false := by
  refine Bool.eq_false_iff.2 fun hb => ?_
  simp only [isBreak, Bool.or_eq_true, decide_eq_true_eq] at hb
  rcases hb with (rfl | rfl) | rfl <;> exact absurd h (by decide)

/-- What is left of the end of a link. -/
def tidied (cs : List Char) : List Char :=
  (cs.reverse.dropWhile isEdgeBlank).reverse.filter fun c => !isBreak c

theorem dropWhile_eq_self {p : Char → Bool} : ∀ {cs : List Char}, (∀ c ∈ cs, p c = false) →
    cs.dropWhile p = cs
  | [], _ => rfl
  | c :: cs, h => by rw [List.dropWhile_cons, if_neg (by simp [h c])]

theorem tidied_append {front : List Char} (h : ∀ c ∈ front, isEdgeBlank c = false)
    (rest : List Char) : tidied (front ++ rest) = front ++ tidied rest := by
  have hend : ((front ++ rest).reverse.dropWhile isEdgeBlank).reverse
      = front ++ (rest.reverse.dropWhile isEdgeBlank).reverse := by
    rw [List.reverse_append, List.dropWhile_append]
    split
    · rename_i hempty
      rw [dropWhile_eq_self fun d hd => h d (List.mem_reverse.1 hd), List.isEmpty_iff.1 hempty]
      simp
    · rw [List.reverse_append, List.reverse_reverse]
  have hkeep : front.filter (fun c => !isBreak c) = front :=
    List.filter_eq_self.2 fun d hd => by rw [isBreak_of_not_isEdgeBlank (h d hd)]; rfl
  rw [tidied, hend, List.filter_append, hkeep]
  rfl

/-- Characters that are no blanks count if they stand at the front of a link. -/
theorem significant_append {front rest : List Char} (hne : front ≠ [])
    (h : ∀ c ∈ front, isEdgeBlank c = false) :
    significant (String.ofList (front ++ rest)) = front ++ tidied rest := by
  have hstart : (front ++ rest).dropWhile isEdgeBlank = front ++ rest := by
    obtain ⟨c, cs, rfl⟩ := List.exists_cons_of_ne_nil hne
    rw [List.cons_append, List.dropWhile_cons, if_neg (by simp [h c])]
  rw [significant, String.toList_ofList, hstart]
  exact tidied_append h rest

theorem followsAttribute_cons {c : Char} {cs : List Char} :
    FollowsAttribute (c :: cs) ↔ c = ',' ∨ c = '?' := by
  simp [FollowsAttribute]

theorem FollowsAttribute.tidied {cs : List Char} (h : FollowsAttribute cs) :
    FollowsAttribute (DirectoryUrl.tidied cs) := by
  cases cs with
  | nil => exact h
  | cons c cs =>
    have hc := followsAttribute_cons.1 h
    have hblank : isEdgeBlank c = false := by
      rcases hc with rfl | rfl <;> rfl
    rw [← List.singleton_append, tidied_append (List.forall_mem_singleton.2 hblank)]
    exact followsAttribute_cons.2 hc

/-! ### The parts of a link -/

theorem scheme?_append (scheme : DirectoryScheme) (rest : List Char) :
    scheme? (scheme.name.toList ++ "://".toList ++ rest) = some (scheme, rest) := by
  cases scheme <;> rfl

/-- Characters up to one that ends them. -/
theorem takeWhile_append_of_head? {p : Char → Bool} {cs rest : List Char}
    (hcs : ∀ c ∈ cs, p c = true) (hrest : ∀ c ∈ rest.head?, p c = false) :
    (cs ++ rest).takeWhile p = cs := by
  rw [List.takeWhile_append_of_pos hcs]
  cases rest with
  | nil => simp
  | cons c rest => simp [hrest c rfl]

/-- A user is dropped with the at sign that ends it, up to the last one. -/
theorem dropUser_append {user host rest : List Char} (huser : user = [] ∨ user.getLast? = some '@')
    (hat : '@' ∉ host) (hends : ∀ c ∈ user ++ host, endsAuthority c = false)
    (hrest : ∀ c ∈ rest.head?, endsAuthority c = true) :
    dropUser (user ++ (host ++ rest)) = host ++ rest := by
  have hauthority : (user ++ (host ++ rest)).takeWhile (fun c => !endsAuthority c)
      = user ++ host := by
    rw [← List.append_assoc]
    exact takeWhile_append_of_head? (fun c hc => by simp [hends c hc])
      fun c hc => by simp [hrest c hc]
  have hafter : (user ++ host).reverse.takeWhile (· ≠ '@') = host.reverse := by
    rw [List.reverse_append]
    refine takeWhile_append_of_head? (fun c hc => ?_) fun c hc => ?_
    · exact decide_eq_true fun h => hat (h ▸ List.mem_reverse.1 hc)
    · rcases huser with rfl | huser
      · exact absurd hc (by simp)
      · rw [List.head?_reverse, huser, Option.mem_some_iff] at hc
        simp [← hc]
  simp only [dropUser]
  rw [hauthority, hafter, List.reverse_reverse, ← List.append_assoc user, List.drop_left]

/-- A host goes on up to its port or to its end. -/
theorem splitHost_append {rest : List Char}
    (hrest : ∀ c ∈ rest.head?, (endsAuthority c || c = ':') = true) : ∀ {host : List Char},
    (∀ c ∈ host, endsAuthority c = false ∧ c ≠ ':' ∧ c ≠ '[') →
    splitHost false (host ++ rest) = (host, rest)
  | [], _ => by
    cases rest with
    | nil => rfl
    | cons c cs =>
      rw [List.nil_append, splitHost, if_pos (by simpa using hrest c rfl)]
  | c :: host, h => by
    obtain ⟨⟨hends, hcolon, hbracket⟩, h⟩ := List.forall_mem_cons.1 h
    rw [List.cons_append, splitHost, if_neg (by simp [hends, hcolon])]
    simp only [hbracket, decide_false, Bool.or_false, Bool.false_and, splitHost_append hrest h]

theorem host?_toList {host : String} (h : IsHostName host) : host? host.toList = some host := by
  obtain ⟨c, cs, hc⟩ := List.exists_cons_of_ne_nil (show host.toList ≠ [] by simpa using h.1)
  have hspelling : ∀ d ∈ c :: cs, isSpelling d = true := hc ▸ h.isSpelling
  have hne : c ≠ '[' := by
    rintro rfl
    exact absurd (hspelling _ List.mem_cons_self) (by decide)
  have hallowed : (c :: cs).any hostForbidden.contains = false := by
    refine List.any_eq_false.2 fun d hd => ?_
    simpa using forall_isSpelling (p := fun c => !hostForbidden.contains c) (by decide)
      (hspelling d hd)
  have hshown : (c :: cs).flatMap hostChar = c :: cs := by
    have hself : ∀ d ∈ c :: cs, hostChar d = [d] := fun d hd => by
      simpa using forall_isSpelling (p := fun c => decide (hostChar c = [c])) (by decide)
        (hspelling d hd)
    rw [List.flatMap_def, List.map_congr_left hself, ← List.flatMap_def, List.flatMap_singleton']
  rw [hc, host?, hallowed, hshown, ← hc, String.ofList_toList]
  · rfl
  · exact nofun
  · exact fun _ h => hne (List.cons.inj h).1

theorem foldl_digits {ds : List Char} (n : Nat) :
    ds.foldl (fun n c => n * 10 + (c.toNat - '0'.toNat)) n = Nat.ofDigitChars 10 ds n := by
  induction ds generalizing n with
  | nil => rfl
  | cons c ds ih => rw [List.foldl_cons, ih, Nat.ofDigitChars_cons, Nat.mul_comm]

theorem toList_portText_some (p : Nat) : (portText (some p)).toList = ':' :: Nat.toDigits 10 p := by
  rw [portText, String.toList_append, Nat.toString_eq_repr, Nat.toList_repr]
  rfl

/-- A port is read up to the slash. -/
theorem port?_append {port : Option Nat} (h : ∀ p ∈ port, p ≤ maxPort) (rest : List Char) :
    port? ((portText port).toList ++ '/' :: rest) = some (port, '/' :: rest) := by
  cases port with
  | none => rfl
  | some p =>
    have hdigits : (Nat.toDigits 10 p ++ '/' :: rest).takeWhile Char.isDigit = Nat.toDigits 10 p :=
      takeWhile_append_of_head?
        (fun c hc => Nat.isDigit_of_mem_toDigits (by decide) (by decide) hc)
        (by rintro _ ⟨⟩; rfl)
    have hp := h p rfl
    rw [toList_portText_some, List.cons_append, port?, hdigits, foldl_digits,
      Nat.ofDigitChars_ten_toDigits, List.drop_left, if_neg, if_neg]
    · simp
    · simp [endsAuthority]
      omega

theorem splitSlashes_of_not_mem : ∀ {cs : List Char}, '/' ∉ cs → splitSlashes cs = [cs]
  | [], _ => rfl
  | c :: cs, h => by
    rw [List.mem_cons, not_or] at h
    rw [splitSlashes, splitSlashes_of_not_mem h.2]
    exact if_neg (Ne.symm h.1)

/-- The encoded name of an entry is one segment of its path. -/
theorem entryName?_of_spells {dn : String} {path : List Char} (h : Spells (Utf8.encode dn) path)
    (hdn : dn ∉ ["", ".", ".."]) : entryName? ('/' :: path) = some dn := by
  simp only [List.mem_cons, List.not_mem_nil, or_false, not_or] at hdn
  obtain ⟨hne, hdot, hdots⟩ := hdn
  have hslash : '/' ∉ path := fun hc => absurd (h.isSpelling _ hc) (by decide)
  have hpath : path ≠ [] := by
    rintro rfl
    exact hne (Option.some.inj ((decodeText?_of_spells h).symm.trans rfl))
  have hsegments : (followDots [] [path]).dropWhile List.isEmpty = [path] := by
    simp [followDots, isDot_of_spells h hdot, isDoubleDot_of_spells h hdots, hpath]
  rw [entryName?]
  simp only [splitSlashes_of_not_mem hslash, hsegments]
  rw [List.intercalate_singleton, decodeText?_of_spells h]

theorem attributeName?_append {name : String} {cs rest : List Char}
    (h : Spells (Utf8.encode name) cs) (hrest : FollowsAttribute rest) :
    attributeName? (cs ++ rest) = some (if name.isEmpty then none else some name) := by
  have hfirst : (cs ++ rest).takeWhile (fun c => c ≠ '?' && c ≠ ',') = cs := by
    refine takeWhile_append_of_head? (fun c hc => ?_) fun c hc => ?_
    · have hspelling := h.isSpelling c hc
      simp [ne_of_isSpelling hspelling (show isSpelling '?' = false from rfl),
        ne_of_isSpelling hspelling (show isSpelling ',' = false from rfl)]
    · cases rest with
      | nil => exact absurd hc (by simp)
      | cons d rest =>
        obtain rfl := Option.some.inj hc
        rcases followsAttribute_cons.1 hrest with rfl | rfl <;> rfl
  rw [attributeName?, hfirst, decodeText?_of_spells h]
  rfl

theorem isSpelling_or_eq_of_mem_portText {port : Option Nat} {c : Char}
    (hc : c ∈ (portText port).toList) : isSpelling c = true ∨ c = ':' := by
  cases port with
  | none => exact absurd hc (by simp [portText])
  | some p =>
    rw [toList_portText_some, List.mem_cons] at hc
    exact hc.symm.imp_left fun hc =>
      isSpelling_of_isDigit (Nat.isDigit_of_mem_toDigits (by decide) (by decide) hc)

/-! ### Whole links -/

section Link

variable {scheme : DirectoryScheme} {host : String} {port : Option Nat} {path : List Char}

/-- A link up to its query. -/
def linkFront (scheme : DirectoryScheme) (host : String) (port : Option Nat) (path : List Char) :
    List Char :=
  scheme.name.toList ++ "://".toList ++ (host.toList ++ ((portText port).toList ++ '/' :: path))

theorem linkText_eq (query : List Char) :
    linkText scheme host port path query
      = String.ofList (linkFront scheme host port path ++ query) := by
  simp [linkText, linkFront, ← String.toList_inj]

theorem not_isEdgeBlank_of_mem_linkFront (hhost : IsHostName host)
    (hpath : ∀ c ∈ path, isSpelling c = true) :
    ∀ c ∈ linkFront scheme host port path, isEdgeBlank c = false := by
  intro c hc
  simp only [linkFront, List.mem_append, List.mem_cons] at hc
  rcases hc with (hc | hc) | hc | hc | rfl | hc
  · have hname : scheme.name.toList.all (fun c => !isEdgeBlank c) = true := by
      cases scheme <;> rfl
    simpa using List.all_eq_true.1 hname c hc
  · have hsigns : "://".toList.all (fun c => !isEdgeBlank c) = true := rfl
    simpa using List.all_eq_true.1 hsigns c hc
  · exact not_isEdgeBlank_of_isSpelling (hhost.isSpelling c hc)
  · rcases isSpelling_or_eq_of_mem_portText hc with hc | rfl
    · exact not_isEdgeBlank_of_isSpelling hc
    · rfl
  · rfl
  · exact not_isEdgeBlank_of_isSpelling (hpath c hc)

/-- No at sign stands before the path. -/
theorem dropUser_host (hhost : IsHostName host) (rest : List Char) :
    dropUser (host.toList ++ ((portText port).toList ++ '/' :: rest))
      = host.toList ++ ((portText port).toList ++ '/' :: rest) := by
  have hsign : ∀ c ∈ host.toList ++ (portText port).toList, c ≠ '@' ∧ endsAuthority c = false := by
    intro c hc
    have hcases : isSpelling c = true ∨ c = ':' :=
      (List.mem_append.1 hc).elim (fun hc => .inl (hhost.isSpelling c hc))
        isSpelling_or_eq_of_mem_portText
    rcases hcases with hc | rfl
    · exact ⟨ne_of_isSpelling hc rfl, not_endsAuthority_of_isSpelling hc⟩
    · decide
  rw [← List.append_assoc]
  exact dropUser_append (.inl rfl) (fun h => (hsign _ h).1 rfl) (fun c hc => (hsign c hc).2)
    (by rintro _ ⟨⟩; rfl)

theorem splitHost_host (hhost : IsHostName host) (rest : List Char) :
    splitHost false (host.toList ++ ((portText port).toList ++ '/' :: rest))
      = (host.toList, (portText port).toList ++ '/' :: rest) := by
  refine splitHost_append (fun c hc => ?_) fun c hc => ?_
  · cases port with
    | none => obtain rfl := Option.some.inj hc; rfl
    | some p => rw [toList_portText_some] at hc; obtain rfl := Option.some.inj hc; rfl
  · have hspelling := hhost.isSpelling c hc
    exact ⟨not_endsAuthority_of_isSpelling hspelling, ne_of_isSpelling hspelling rfl,
      ne_of_isSpelling hspelling rfl⟩

/-- The characters that count are taken apart at the signs between the parts. -/
theorem parse?_eq_some {url : String} {query : List Char} {dn : String} {name : Option String}
    (hhost : IsHostName host) (hport : ∀ p ∈ port, p ≤ maxPort)
    (hpath : ∀ c ∈ path, isSpelling c = true) (hquery : ∀ c ∈ query.head?, c = '?')
    (hurl : significant url = linkFront scheme host port path ++ query)
    (hdn : entryName? ('/' :: path) = some dn)
    (hname : (match query.takeWhile (· ≠ '#') with
      | _ :: query => attributeName? query
      | [] => some none) = some name) :
    parse? url = some ⟨scheme, host, port.getD scheme.port, dn, name⟩ := by
  have hscheme : scheme? (significant url)
      = some (scheme, host.toList ++ ((portText port).toList ++ '/' :: (path ++ query))) := by
    rw [hurl, ← scheme?_append]
    simp [linkFront]
  have hsign : ∀ c ∈ '/' :: path, c ≠ '#' ∧ c ≠ '?' :=
    List.forall_mem_cons.2 ⟨by decide, fun c hc =>
      ⟨ne_of_isSpelling (hpath c hc) rfl, ne_of_isSpelling (hpath c hc) rfl⟩⟩
  have hresource : ('/' :: (path ++ query)).takeWhile (· ≠ '#')
      = '/' :: path ++ query.takeWhile (· ≠ '#') := by
    rw [← List.cons_append, List.takeWhile_append_of_pos fun c hc => by simp [hsign c hc]]
  have hends : ('/' :: path ++ query.takeWhile (· ≠ '#')).takeWhile (· ≠ '?') = '/' :: path := by
    refine takeWhile_append_of_head? (fun c hc => by simp [hsign c hc]) fun c hc => ?_
    cases query with
    | nil => exact absurd hc (by simp)
    | cons d query =>
      obtain rfl := hquery d rfl
      obtain rfl : '?' = c := by simpa using hc
      rfl
  simp only [parse?, hscheme, dropUser_host hhost, splitHost_host hhost, host?_toList hhost,
    port?_append hport, hresource, hends, hdn, List.drop_left, Option.bind_eq_bind,
    Option.bind_some, Option.pure_def]
  generalize query.takeWhile (· ≠ '#') = query at hname
  cases query with
  | nil =>
    obtain rfl := Option.some.inj hname
    rfl
  | cons d query =>
    simp only at hname ⊢
    rw [hname, Option.bind_some]

theorem significant_linkText (hhost : IsHostName host) (hpath : ∀ c ∈ path, isSpelling c = true)
    {first : List Char} (hfirst : ∀ c ∈ first, isEdgeBlank c = false) (rest : List Char) :
    significant (linkText scheme host port path (first ++ rest))
      = linkFront scheme host port path ++ (first ++ tidied rest) := by
  rw [linkText_eq, ← List.append_assoc, significant_append, List.append_assoc]
  · cases scheme <;> exact nofun
  · exact fun c hc => (List.mem_append.1 hc).elim
      (not_isEdgeBlank_of_mem_linkFront hhost hpath c) (hfirst c)

theorem FollowsAttribute.takeWhile {cs : List Char} (h : FollowsAttribute cs) (p : Char → Bool) :
    FollowsAttribute (cs.takeWhile p) := by
  cases cs with
  | nil => exact h
  | cons c cs =>
    rw [List.takeWhile_cons]
    split
    · exact followsAttribute_cons.2 (followsAttribute_cons.1 h)
    · exact .inl rfl

theorem server_eq (dn : String) (name : Option String) :
    server ⟨scheme, host, port.getD scheme.port, dn, name⟩ = serverText scheme host port := by
  have hport : toString 389 = "389" ∧ toString 636 = "636" := ⟨rfl, rfl⟩
  cases scheme <;> cases port <;>
    simp [server, serverText, DirectoryScheme.name, DirectoryScheme.port, hport,
      String.append_assoc]

/-- A link without a query asks for no attribute. -/
theorem leadsTo_linkText_nil {dn : String} (hhost : IsHostName host)
    (hport : ∀ p ∈ port, p ≤ maxPort) (hpath : Spells (Utf8.encode dn) path)
    (hdn : dn ∉ ["", ".", ".."]) :
    LeadsTo (linkText scheme host port path []) (serverText scheme host port) dn none := by
  have hurl : significant (linkText scheme host port path [])
      = linkFront scheme host port path ++ [] :=
    significant_linkText hhost hpath.isSpelling (List.forall_mem_nil _) []
  exact ⟨_, parse?_eq_some hhost hport hpath.isSpelling (by rintro _ ⟨⟩) hurl
    (entryName?_of_spells hpath hdn) rfl, server_eq dn none, rfl, rfl⟩

/-- A link asks for the first attribute of its query, if that is not empty. -/
theorem leadsTo_linkText_cons {dn asked : String} {first rest : List Char}
    (hhost : IsHostName host) (hport : ∀ p ∈ port, p ≤ maxPort)
    (hpath : Spells (Utf8.encode dn) path) (hdn : dn ∉ ["", ".", ".."])
    (hfirst : Spells (Utf8.encode asked) first) (hrest : FollowsAttribute rest) :
    LeadsTo (linkText scheme host port path ('?' :: (first ++ rest)))
      (serverText scheme host port) dn (if asked.isEmpty then none else some asked) := by
  have hblank : ∀ c ∈ '?' :: first, isEdgeBlank c = false :=
    List.forall_mem_cons.2 ⟨rfl, fun c hc => not_isEdgeBlank_of_isSpelling (hfirst.isSpelling c hc)⟩
  have hsharp : ∀ c ∈ first, (decide (c ≠ '#')) = true := fun c hc =>
    decide_eq_true (ne_of_isSpelling (hfirst.isSpelling c hc) rfl)
  refine ⟨_, parse?_eq_some hhost hport hpath.isSpelling (by rintro _ ⟨⟩; rfl)
    (significant_linkText hhost hpath.isSpelling hblank rest) (entryName?_of_spells hpath hdn) ?_,
    server_eq dn _, rfl, rfl⟩
  rw [List.cons_append, List.takeWhile_cons, if_pos (by decide),
    List.takeWhile_append_of_pos hsharp]
  exact attributeName?_append hfirst (hrest.tidied.takeWhile _)

end Link

/-! ### Other links -/

theorem eq_of_map_toLower_eq : ∀ {cs ds : List Char}, cs.map Char.toLower = ds →
    ds.all (·.toNat < 97) = true → cs = ds
  | [], _, h, _ => h
  | c :: cs, _, h, hd => by
    subst h
    rw [List.map_cons, List.all_cons, Bool.and_eq_true, decide_eq_true_eq] at hd
    rw [List.map_cons, ← eq_of_toLower_eq rfl hd.1, ← eq_of_map_toLower_eq rfl hd.2]

theorem isAlpha_of_toLower_mem {scheme : DirectoryScheme} {c : Char}
    (h : c.toLower ∈ scheme.name.toList) : c.isAlpha = true := by
  have hlower : scheme.name.toList.all Char.isAlpha = true := by
    cases scheme <;> rfl
  rcases eq_or_of_toLower_eq (c := c) rfl with heq | ⟨hge, hle, -⟩
  · rw [heq]
    exact List.all_eq_true.1 hlower _ h
  · show (decide ('A'.val ≤ c.val ∧ c.val ≤ 'Z'.val) || c.isLower) = true
    rw [decide_eq_true ⟨hge, hle⟩, Bool.true_or]

/-- A link of a directory starts with its scheme, in any case, and two slashes behind that. -/
theorem scheme?_eq_some {cs rest : List Char} {scheme : DirectoryScheme}
    (h : scheme? cs = some (scheme, rest)) :
    ∃ name, cs = name ++ ':' :: '/' :: '/' :: rest
      ∧ name.map Char.toLower = scheme.name.toList := by
  obtain ⟨found, -, h⟩ := List.exists_of_findSome?_eq_some h
  simp only at h
  split_ifs at h with hstart
  obtain ⟨rfl, hrest⟩ := Prod.mk.inj (Option.some.inj h)
  obtain ⟨name, signs, htake, hname, hsigns⟩ := List.map_eq_append_iff.1 hstart
  have hcs := (List.take_append_drop (found.name.toList ++ [':', '/', '/']).length cs).symm
  rw [htake, hrest, eq_of_map_toLower_eq hsigns rfl] at hcs
  exact ⟨name, by simpa using hcs, hname⟩

theorem schemeName?_of_map_toLower_eq {name rest : List Char} {scheme : DirectoryScheme}
    (h : name.map Char.toLower = scheme.name.toList) :
    schemeName? (name ++ ':' :: rest) = some scheme.name
      ∧ afterScheme (name ++ ':' :: rest) = rest := by
  have halpha : ∀ c ∈ name, c.isAlpha = true := fun c hc =>
    isAlpha_of_toLower_mem (h ▸ List.mem_map_of_mem hc)
  have hcolon : ∀ c ∈ name, decide (c ≠ ':') = true := fun c hc =>
    decide_eq_true fun heq => absurd (halpha c hc) (by rw [heq]; decide)
  have hname : (name ++ ':' :: rest).takeWhile (· ≠ ':') = name :=
    takeWhile_append_of_head? hcolon (by rintro _ ⟨⟩; rfl)
  have hletter : name.head?.any Char.isAlpha = true := by
    cases name with
    | nil => cases scheme <;> exact absurd h (by decide)
    | cons c name => exact halpha c List.mem_cons_self
  have hall : name.all isSchemeChar = true :=
    List.all_eq_true.2 fun c hc => by simp [isSchemeChar, Char.isAlphanum, halpha c hc]
  constructor
  · rw [schemeName?, hname, if_pos ⟨by simp, hletter, hall⟩, h, String.ofList_toList]
  · rw [afterScheme, List.dropWhile_append_of_pos hcolon]
    simp

/-- Nothing stands where a host would be. -/
theorem host?_of_lacksHost {rest : List Char} (h : LacksHost ('/' :: '/' :: rest)) :
    host? (splitHost false (dropUser rest)).1 = none := by
  generalize hcs : '/' :: '/' :: rest = cs at h
  cases h with
  | noSlashes h => exact absurd (hcs ▸ List.prefix_append ['/', '/'] rest) h
  | @noHost user port rest' huser hport hat hends hrest =>
    obtain rfl : rest = user ++ (port ++ rest') := by simpa using hcs
    have hhead : ∀ c ∈ (port ++ rest').head?, (endsAuthority c || c = ':') = true := by
      intro c hc
      cases port with
      | nil => simp [hrest c hc]
      | cons d port =>
        obtain rfl : d = ':' := by simpa using hport
        obtain rfl := Option.some.inj hc
        rfl
    have hsplit : splitHost false (port ++ rest') = ([], port ++ rest') :=
      splitHost_append hhead (List.forall_mem_nil _)
    rw [dropUser_append huser hat hends hrest, hsplit]
    rfl

/-- A link of another scheme, or without a host, is not read. -/
theorem parse?_eq_none_of_leadsNowhere {url : String} (h : LeadsNowhere url) :
    parse? url = none := by
  rw [parse?]
  cases hs : scheme? (significant url) with
  | none => rfl
  | some found =>
    obtain ⟨scheme, rest⟩ := found
    obtain ⟨name, hurl, hname⟩ := scheme?_eq_some hs
    obtain ⟨hscheme, hafter⟩ := schemeName?_of_map_toLower_eq hname
    rcases h with h | h
    · rw [hurl, hscheme] at h
      exact absurd (by cases scheme <;> decide) h
    · rw [hurl, hafter] at h
      simp only [Option.bind_eq_bind, Option.bind_some, host?_of_lacksHost h, Option.bind_none]

theorem spells_empty : Spells (Utf8.encode "") [] := .nil

/-- A link that spells the name of an entry leads to that entry and asks for the attribute that its
query spells first, while nothing is read from a link that leads nowhere. -/
theorem links_lead_to_entries :
    (∀ (scheme : DirectoryScheme) (host : String) (port : Option Nat) (dn : String)
      (path : List Char), IsHostName host → (∀ p ∈ port, 1 ≤ p ∧ p ≤ maxPort) →
      Spells (Utf8.encode dn) path → dn ∉ ["", ".", ".."] →
      LeadsTo (linkText scheme host port path []) (serverText scheme host port) dn none
        ∧ ∀ rest, FollowsAttribute rest →
          LeadsTo (linkText scheme host port path ('?' :: rest)) (serverText scheme host port) dn
              none
            ∧ ∀ (asked : String) (first : List Char), asked ≠ "" →
              Spells (Utf8.encode asked) first →
              LeadsTo (linkText scheme host port path ('?' :: (first ++ rest)))
                (serverText scheme host port) dn (some asked))
    ∧ ∀ url, LeadsNowhere url → parse? url = none
      ∧ ∀ (s : DirectoryServer) (attributeName : String) (order : TableOrder),
        s.read url attributeName order = (some (.error (.invalidUrl url)), []) := by
  refine ⟨fun scheme host port dn path hhost hport hpath hdn => ?_, fun url hurl => ?_⟩
  · have hport : ∀ p ∈ port, p ≤ maxPort := fun p hp => (hport p hp).2
    have hlead : ∀ {asked : String} {first rest : List Char}, Spells (Utf8.encode asked) first →
        FollowsAttribute rest → LeadsTo (linkText scheme host port path ('?' :: (first ++ rest)))
          (serverText scheme host port) dn (if asked.isEmpty then none else some asked) :=
      fun hfirst hrest => leadsTo_linkText_cons hhost hport hpath hdn hfirst hrest
    refine ⟨leadsTo_linkText_nil hhost hport hpath hdn, fun rest hrest => ⟨?_, ?_⟩⟩
    · have hnone := hlead spells_empty hrest
      rwa [if_pos (show "".isEmpty = true from rfl)] at hnone
    · intro asked first hasked hfirst
      have hsome := hlead hfirst hrest
      rwa [if_neg (by simpa using hasked)] at hsome
  · have hparse := parse?_eq_none_of_leadsNowhere hurl
    exact ⟨hparse, fun s attributeName order => by rw [DirectoryServer.read, hparse]⟩

/-- An entry whose name holds every sign that parts a link, and two links that lead nowhere. -/
theorem links_lead_to_entries_of_samples :
    LeadsTo ("ldap://ldap.bce-test.invalid:1389/cn%3DA%2FB%3F%20100%25%2Co%3D%C3%91"
        ++ "?certificateRevocationList%3Bbinary,o?base")
      "ldap://ldap.bce-test.invalid:1389" "cn=A/B? 100%,o=Ñ"
      (some "certificateRevocationList;binary")
    ∧ parse? "ldap://user@:389/o=Example" = none
    ∧ parse? "http://ldap.bce-test.invalid/o=Example" = none := by
  have hnoHost : LacksHost "//user@:389/o=Example".toList :=
    @LacksHost.noHost "user@".toList ":389".toList "/o=Example".toList (.inr rfl) (.inr rfl)
      (by decide) (by simp [endsAuthority]) (by simp [endsAuthority])
  refine ⟨?_, (links_lead_to_entries.2 _ (.inr ?_)).1, (links_lead_to_entries.2 _ (.inl ?_)).1⟩
  · have hlead := ((links_lead_to_entries.1 .plain "ldap.bce-test.invalid" (some 1389)
      "cn=A/B? 100%,o=Ñ" _ (by decide) (by decide) (spells_percentEncode _) (by decide)).2
      ",o?base".toList (by decide)).2 "certificateRevocationList;binary" _ (by decide)
      (spells_percentEncode _)
    have hlink : linkText .plain "ldap.bce-test.invalid" (some 1389)
        (percentEncode (Utf8.encode "cn=A/B? 100%,o=Ñ"))
        ('?' :: (percentEncode (Utf8.encode "certificateRevocationList;binary")
          ++ ",o?base".toList))
        = "ldap://ldap.bce-test.invalid:1389/cn%3DA%2FB%3F%20100%25%2Co%3D%C3%91"
          ++ "?certificateRevocationList%3Bbinary,o?base" := by decide +kernel
    rw [← hlink]
    exact hlead
  · have hafter : afterScheme (significant "ldap://user@:389/o=Example")
        = "//user@:389/o=Example".toList := by decide +kernel
    rw [hafter]
    exact hnoHost
  · decide +kernel

end SignerTrust.DirectoryUrl
