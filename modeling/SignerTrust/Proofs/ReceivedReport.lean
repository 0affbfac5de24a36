import Mathlib.Data.List.Basic
import Mathlib.Tactic.Common
import SignerTrust.Outcome.Json
import SignerTrust.Proofs.JsonGrammar

/-!
# Reports that come back

What is read from a text in which a report is expected.  Reading an object takes in its members one
after another, and what that comes to depends on the values of `result` and of `reason` alone, of
which there may be one each (`foldlM_add?_eq_some_iff`).  `Tells` lists, case by case, what the two
say together, and the text of an object is read as this table tells (`ofJson_eq_iff`).

The other members say nothing, but their names are read, and a name must be a text: an escape of
half a surrogate pair in one refuses the whole report (`unpairedReport_refused`).
-/

namespace SignerTrust

namespace JsonString

theorem text?_ofText (text : String) : (ofText text).text? = some text := by
  have hchar : ∀ c : Char, Nat.isValidChar c.toNat := fun c => c.valid
  rw [text?, if_pos]
  · simp [ofText, Function.comp_def]
  · simp [ofText, hchar]

/-- A string has a text exactly if it is the string of that text. -/
theorem text?_eq_some_iff {s : JsonString} {text : String} :
    s.text? = some text ↔ s = ofText text := by
  constructor
  · intro h
    rw [text?] at h
    split at h
    · rename_i hs
      have hnat : ∀ n ∈ s, (Char.ofNat n).toNat = n := fun n hn => by
        rw [Char.ofNat, dif_pos (of_decide_eq_true (List.all_eq_true.1 hs n hn))]
        rfl
      cases h
      rw [ofText, String.toList_ofList, List.map_map]
      exact (List.map_congr_left hnat).trans (List.map_id s) |>.symm
    · cases h
  · rintro rfl
    exact text?_ofText text

theorem ofText_inj {text text' : String} : ofText text = ofText text' ↔ text = text' := by
  rw [← text?_eq_some_iff, text?_ofText, Option.some.injEq]

end JsonString

namespace Json

/-- The two forms of a name: the bare string, and an object whose only member has that name and
holds `null`. -/
inductive Names (name : String) : Json → Prop
  | bare : Names name (.string (.ofText name))
  | member : Names name (.object [(.ofText name, .null)])

theorem name?_eq_some_iff {name : String} {j : Json} : j.name? = some name ↔ Names name j := by
  constructor
  · intro h
    unfold name? at h
    split at h
    · rw [JsonString.text?_eq_some_iff.1 h]
      exact .bare
    · rw [JsonString.text?_eq_some_iff.1 h]
      exact .member
    · cases h
  · rintro (_ | _) <;> exact JsonString.text?_ofText name

/-- The values of the members of a name, in order. -/
def valuesOf (name : String) (members : List (JsonString × Json)) : List Json :=
  (members.filter fun m => m.1 = JsonString.ofText name).map Prod.snd

theorem valuesOf_cons (name : String) (m : JsonString × Json) (ms : List (JsonString × Json)) :
    valuesOf name (m :: ms) = valuesOf name [m] ++ valuesOf name ms := by
  rw [valuesOf, valuesOf, valuesOf, ← List.map_append, ← List.filter_append, List.singleton_append]

end Json

theorem Outcome.ofName?_eq_some_iff {name : String} {r : Outcome} :
    ofName? name = some r ↔ r.name = name := by
  constructor
  · intro h
    simpa using List.find?_some h
  · rintro rfl
    cases r <;> decide

namespace Report

variable {members : List (JsonString × Json)} {j : Json} {p q : Parts} {r : Outcome}

/-- Whether the names of all members are texts: whether none has a surrogate without its partner. -/
def HasTextNames (members : List (JsonString × Json)) : Prop :=
  ∀ m ∈ members, ∃ text, m.1 = JsonString.ofText text

/-- Whether the members have one `result`, of that name. -/
def HasResult (name : String) (members : List (JsonString × Json)) : Prop :=
  ∃ j, Json.valuesOf "result" members = [j] ∧ j.Names name

/-- Whether the members have one `reason`, of the name of that outcome. -/
def HasReason (r : Outcome) (members : List (JsonString × Json)) : Prop :=
  ∃ j, Json.valuesOf "reason" members = [j] ∧ j.Names r.name

/-- Whether the members have no `reason`, or one that is `null`. -/
def HasNoReason (members : List (JsonString × Json)) : Prop :=
  Json.valuesOf "reason" members = [] ∨ Json.valuesOf "reason" members = [.null]

/-- The name of a result. -/
def resultName (good : Bool) : String :=
  if good then "OK" else "KO"

theorem readResult?_eq_some_iff {good : Bool} :
    readResult? j = some good ↔ j.Names (resultName good) := by
  rw [← Json.name?_eq_some_iff, readResult?]
  rcases j.name? with _ | name
  · simp
  · by_cases hok : name = "OK"
    · subst hok
      cases good <;> simp [resultName]
    · cases good <;> simp [resultName, hok]

theorem readReason?_null : readReason? .null = some none :=
  rfl

theorem readReason?_of_ne_null (hj : j ≠ .null) :
    readReason? j = (j.name?.bind Outcome.ofName?).map some :=
  if_neg (by cases j <;> simp_all [Json.isNull])

theorem readReason?_eq_none_iff : readReason? j = some none ↔ j = .null := by
  constructor
  · intro h
    by_contra hj
    rw [readReason?_of_ne_null hj] at h
    obtain ⟨r, -, hr⟩ := Option.map_eq_some_iff.1 h
    cases hr
  · rintro rfl
    exact readReason?_null

theorem readReason?_eq_some_iff : readReason? j = some (some r) ↔ j.Names r.name := by
  have hread : j.Names r.name ↔ j.name?.bind Outcome.ofName? = some r := by
    simp [Option.bind_eq_some_iff, Json.name?_eq_some_iff, Outcome.ofName?_eq_some_iff]
  by_cases hj : j = .null
  · subst hj
    simp [readReason?_null, hread, Json.name?]
  · rw [readReason?_of_ne_null hj, hread, Option.map_eq_some_iff]
    simp only [Option.some.injEq, exists_eq_right]

/-! ### Taking in members -/

/-- What values say of a part that may be said once: nothing without a value, and what the only one
says. -/
inductive Takes {α : Type} (read : Json → Option α) : Option α → List Json → Option α → Prop
  | nothing {x : Option α} : Takes read x [] x
  | one {j : Json} {a : α} (h : read j = some a) : Takes read none [j] (some a)

section Takes

variable {α : Type} {read : Json → Option α} {x y z : Option α} {js ks : List Json}

theorem takes_nil_iff : Takes read x [] y ↔ y = x := by
  constructor
  · rintro ⟨⟩
    rfl
  · rintro rfl
    exact .nothing

theorem takes_singleton_iff :
    Takes read x [j] y ↔ x = none ∧ ∃ a, read j = some a ∧ y = some a := by
  constructor
  · rintro (_ | h)
    exact ⟨rfl, _, h, rfl⟩
  · rintro ⟨rfl, a, h, rfl⟩
    exact .one h

theorem takes_append : Takes read x (js ++ ks) z ↔ ∃ y, Takes read x js y ∧ Takes read y ks z := by
  constructor
  · intro h
    generalize hks : js ++ ks = us at h
    cases h with
    | nothing =>
      obtain ⟨rfl, rfl⟩ := List.append_eq_nil_iff.1 hks
      exact ⟨x, .nothing, .nothing⟩
    | one h =>
      obtain ⟨rfl, rfl⟩ | ⟨rfl, rfl⟩ := List.append_eq_singleton_iff.1 hks
      · exact ⟨_, .nothing, .one h⟩
      · exact ⟨_, .one h, .nothing⟩
  · rintro ⟨y, hjs, hks⟩
    cases hjs with
    | nothing => exact hks
    | one h =>
      cases hks
      exact .one h

end Takes

theorem valuesOf_singleton {name : String} {key : JsonString} :
    Json.valuesOf name [(key, j)] = if key = .ofText name then [j] else [] := by
  rw [Json.valuesOf, List.filter_singleton]
  split <;> simp_all

theorem add?_result : p.add? (.ofText "result", j)
    = if p.result.isSome then none else (readResult? j).map fun good => ⟨some good, p.reason⟩ := by
  simp only [Parts.add?, JsonString.text?_ofText, Option.bind_eq_bind, Option.bind_some, if_pos]
  cases readResult? j <;> rfl

theorem add?_reason : p.add? (.ofText "reason", j)
    = if p.reason.isSome then none
      else (readReason? j).map fun reason => ⟨p.result, some reason⟩ := by
  simp only [Parts.add?, JsonString.text?_ofText, Option.bind_eq_bind, Option.bind_some]
  cases readReason? j <;> rfl

theorem add?_other {text : String} (hresult : text ≠ "result") (hreason : text ≠ "reason") :
    p.add? (.ofText text, j) = some p := by
  simp only [Parts.add?, JsonString.text?_ofText, Option.bind_eq_bind, Option.bind_some,
    if_neg hresult, if_neg hreason]
  rfl

/-- One member is taken in by its name. -/
theorem add?_eq_some_iff {m : JsonString × Json} :
    p.add? m = some q ↔ (∃ text, m.1 = JsonString.ofText text)
      ∧ Takes readResult? p.result (Json.valuesOf "result" [m]) q.result
      ∧ Takes readReason? p.reason (Json.valuesOf "reason" [m]) q.reason := by
  obtain ⟨key, j⟩ := m
  obtain ⟨result, reason⟩ := p
  obtain ⟨result', reason'⟩ := q
  by_cases hkey : ∃ text, key = JsonString.ofText text
  · obtain ⟨text, rfl⟩ := hkey
    simp only [valuesOf_singleton, JsonString.ofText_inj]
    by_cases hresult : text = "result"
    · subst hresult
      rw [add?_result]
      cases result <;> rcases hread : readResult? j with _ | good <;>
        simp [takes_singleton_iff, takes_nil_iff, hread, @eq_comm _ result', @eq_comm _ reason']
    by_cases hreason : text = "reason"
    · subst hreason
      rw [add?_reason]
      cases reason <;> rcases hread : readReason? j with _ | given <;>
        simp [takes_singleton_iff, takes_nil_iff, hread, @eq_comm _ result', @eq_comm _ reason']
    · simp [add?_other hresult hreason, hresult, hreason, takes_nil_iff, eq_comm]
  · have htext : JsonString.text? key = none := Option.eq_none_iff_forall_not_mem.2
      fun text h => hkey ⟨text, JsonString.text?_eq_some_iff.1 h⟩
    simp [Parts.add?, htext, hkey]

/-- Members are taken in as the values of their two names tell. -/
theorem foldlM_add?_eq_some_iff : members.foldlM Parts.add? p = some q
    ↔ HasTextNames members ∧ Takes readResult? p.result (Json.valuesOf "result" members) q.result
      ∧ Takes readReason? p.reason (Json.valuesOf "reason" members) q.reason := by
  induction members generalizing p with
  | nil =>
    obtain ⟨result, reason⟩ := p
    obtain ⟨result', reason'⟩ := q
    simp [HasTextNames, Json.valuesOf, takes_nil_iff, eq_comm]
  | cons m ms ih =>
    simp only [List.foldlM_cons, Option.bind_eq_bind, Option.bind_eq_some_iff, ih,
      add?_eq_some_iff, Json.valuesOf_cons _ m ms, takes_append]
    constructor
    · rintro ⟨p', ⟨hm, hresult, hreason⟩, hms, hresult', hreason'⟩
      exact ⟨List.forall_mem_cons.2 ⟨hm, hms⟩, ⟨_, hresult, hresult'⟩, ⟨_, hreason, hreason'⟩⟩
    · rintro ⟨hnames, ⟨result, hresult, hresult'⟩, ⟨reason, hreason, hreason'⟩⟩
      obtain ⟨hm, hms⟩ := List.forall_mem_cons.1 hnames
      exact ⟨⟨result, reason⟩, ⟨hm, hresult, hreason⟩, hms, hresult', hreason'⟩

/-! ### What a report tells

Once taken in, a part says what its only value says.  The three lemmas that follow tell this of
parts that were taken in, and the next three that what the values say can be taken in.
-/

theorem takes_result_iff {result : Option Bool} {good : Bool}
    (h : Takes readResult? none (Json.valuesOf "result" members) result) :
    result = some good ↔ HasResult (resultName good) members := by
  simp only [HasResult, ← readResult?_eq_some_iff]
  generalize Json.valuesOf "result" members = js at h
  cases h with
  | nothing => simp
  | one h => simp [h]

theorem takes_reason_iff {reason : Option (Option Outcome)}
    (h : Takes readReason? none (Json.valuesOf "reason" members) reason) :
    reason.join = some r ↔ HasReason r members := by
  simp only [HasReason, ← readReason?_eq_some_iff]
  generalize Json.valuesOf "reason" members = js at h
  cases h with
  | nothing => simp
  | one h => simp [h]

theorem takes_noReason_iff {reason : Option (Option Outcome)}
    (h : Takes readReason? none (Json.valuesOf "reason" members) reason) :
    reason.join = none ↔ HasNoReason members := by
  simp only [HasNoReason]
  generalize Json.valuesOf "reason" members = js at h
  cases h with
  | nothing => simp
  | one h => simp [← readReason?_eq_none_iff, h]

theorem HasResult.takes (good : Bool) (h : HasResult (resultName good) members) :
    Takes readResult? none (Json.valuesOf "result" members) (some good) := by
  obtain ⟨j, hj, hname⟩ := h
  rw [hj]
  exact .one (readResult?_eq_some_iff.2 hname)

theorem HasReason.takes (h : HasReason r members) :
    Takes readReason? none (Json.valuesOf "reason" members) (some (some r)) := by
  obtain ⟨j, hj, hname⟩ := h
  rw [hj]
  exact .one (readReason?_eq_some_iff.2 hname)

theorem HasNoReason.takes (h : HasNoReason members) :
    ∃ reason, Takes readReason? none (Json.valuesOf "reason" members) reason
      ∧ reason.join = none := by
  rcases h with h | h <;> rw [h]
  · exact ⟨none, .nothing, rfl⟩
  · exact ⟨some none, .one readReason?_null, rfl⟩

theorem Parts.result_of_outcome_valid (h : p.outcome = .ok .valid) : p.result = some true := by
  rw [Parts.outcome] at h
  split at h
  · cases h
  · assumption
  · cases h
  · cases h
  · split at h <;> simp_all

/-- What the members of a report tell, case by case. -/
inductive Tells (members : List (JsonString × Json)) : Except ReadError Outcome → Prop
  | good (hnames : HasTextNames members) (hresult : HasResult "OK" members)
      (hreason : HasNoReason members) : Tells members (.ok .valid)
  | goodWithReason {r : Outcome} (hnames : HasTextNames members)
      (hresult : HasResult "OK" members) (hreason : HasReason r members) :
      Tells members (.error (.okWithReason r))
  | bad (hnames : HasTextNames members) (hresult : HasResult "KO" members)
      (hreason : HasNoReason members) : Tells members (.ok .unknown)
  | badWithReason {r : Outcome} (hnames : HasTextNames members)
      (hresult : HasResult "KO" members) (hreason : HasReason r members) (hr : r ≠ .valid) :
      Tells members (.ok r)
  | badWithValid (hnames : HasTextNames members) (hresult : HasResult "KO" members)
      (hreason : HasReason .valid members) : Tells members (.error .koWithValid)
  | malformed (h : ¬ (HasTextNames members ∧ (HasResult "OK" members ∨ HasResult "KO" members)
      ∧ (HasNoReason members ∨ ∃ r, HasReason r members))) : Tells members (.error .malformed)

theorem tells_valid_iff : Tells members (.ok .valid)
    ↔ HasTextNames members ∧ HasResult "OK" members ∧ HasNoReason members := by
  constructor
  · intro h
    cases h with
    | good hnames hresult hreason => exact ⟨hnames, hresult, hreason⟩
    | badWithReason _ _ _ hr => exact absurd rfl hr
  · rintro ⟨hnames, hresult, hreason⟩
    exact .good hnames hresult hreason

theorem tells_negative_iff (hr : r ≠ .valid) : Tells members (.ok r)
    ↔ HasTextNames members ∧ HasResult "KO" members
      ∧ (HasReason r members ∨ HasNoReason members ∧ r = .unknown) := by
  constructor
  · intro h
    cases h with
    | good => exact absurd rfl hr
    | bad hnames hresult hreason => exact ⟨hnames, hresult, .inr ⟨hreason, rfl⟩⟩
    | badWithReason hnames hresult hreason => exact ⟨hnames, hresult, .inl hreason⟩
  · rintro ⟨hnames, hresult, hreason | ⟨hreason, rfl⟩⟩
    · exact .badWithReason hnames hresult hreason hr
    · exact .bad hnames hresult hreason

theorem tells_okWithReason_iff : Tells members (.error (.okWithReason r))
    ↔ HasTextNames members ∧ HasResult "OK" members ∧ HasReason r members := by
  constructor
  · rintro ⟨⟩
    exact ⟨‹_›, ‹_›, ‹_›⟩
  · rintro ⟨hnames, hresult, hreason⟩
    exact .goodWithReason hnames hresult hreason

theorem tells_koWithValid_iff : Tells members (.error .koWithValid)
    ↔ HasTextNames members ∧ HasResult "KO" members ∧ HasReason .valid members := by
  constructor
  · rintro ⟨⟩
    exact ⟨‹_›, ‹_›, ‹_›⟩
  · rintro ⟨hnames, hresult, hreason⟩
    exact .badWithValid hnames hresult hreason

theorem tells_malformed_iff : Tells members (.error .malformed)
    ↔ ¬ (HasTextNames members ∧ (HasResult "OK" members ∨ HasResult "KO" members)
      ∧ (HasNoReason members ∨ ∃ r, HasReason r members)) := by
  constructor
  · rintro ⟨⟩
    assumption
  · exact .malformed

/-- What parts tell, if any were read. -/
def told : Option Parts → Except ReadError Outcome
  | none => .error .malformed
  | some p => p.outcome

/-- What is read from the members. -/
def readMembers (members : List (JsonString × Json)) : Except ReadError Outcome :=
  told (parts? (.object members))

theorem readMembers_of_takes {result : Option Bool} {reason : Option (Option Outcome)}
    (hnames : HasTextNames members)
    (hresult : Takes readResult? none (Json.valuesOf "result" members) result)
    (hreason : Takes readReason? none (Json.valuesOf "reason" members) reason) :
    readMembers members = Parts.outcome ⟨result, reason⟩ := by
  have hparts : parts? (.object members) = some ⟨result, reason⟩ :=
    foldlM_add?_eq_some_iff.2 ⟨hnames, hresult, hreason⟩
  rw [readMembers, hparts, told]

theorem exists_takes (hresult : HasResult "OK" members ∨ HasResult "KO" members)
    (hreason : HasNoReason members ∨ ∃ r, HasReason r members) :
    ∃ good reason, Takes readResult? none (Json.valuesOf "result" members) (some good)
      ∧ Takes readReason? none (Json.valuesOf "reason" members) reason := by
  obtain ⟨good, hgood⟩ : ∃ good, HasResult (resultName good) members :=
    hresult.elim (fun h => ⟨true, h⟩) fun h => ⟨false, h⟩
  obtain ⟨reason, hreason⟩ : ∃ reason,
      Takes readReason? none (Json.valuesOf "reason" members) reason := by
    obtain h | ⟨r, h⟩ := hreason
    · exact ⟨_, h.takes.choose_spec.1⟩
    · exact ⟨_, h.takes⟩
  exact ⟨good, reason, HasResult.takes good hgood, hreason⟩

/-- The table holds a row for all members. -/
theorem tells_readMembers (members : List (JsonString × Json)) :
    Tells members (readMembers members) := by
  rcases hparts : parts? (.object members) with _ | ⟨result, reason⟩
  · -- members that say something in every part would have been taken in
    rw [readMembers, hparts, told]
    refine .malformed fun ⟨hnames, hresult, hreason⟩ => ?_
    obtain ⟨good, reason, hgood, hreason⟩ := exists_takes hresult hreason
    have hsome : parts? (.object members) = some ⟨some good, reason⟩ :=
      foldlM_add?_eq_some_iff.2 ⟨hnames, hgood, hreason⟩
    rw [hparts] at hsome
    cases hsome
  obtain ⟨hnames, hresult, hreason⟩ := foldlM_add?_eq_some_iff.1 hparts
  rw [readMembers_of_takes hnames hresult hreason]
  have hgood : ∀ good, result = some good ↔ HasResult (resultName good) members :=
    fun good => takes_result_iff hresult
  rcases result with _ | good
  · refine .malformed fun ⟨_, hresult, _⟩ => ?_
    rcases hresult with h | h
    · cases (hgood true).2 h
    · cases (hgood false).2 h
  have hname := (hgood good).1 rfl
  rcases hjoin : reason.join with _ | r
  · have hnone := (takes_noReason_iff hreason).1 hjoin
    cases good with
    | true =>
      rw [Parts.outcome, hjoin]
      exact .good hnames hname hnone
    | false =>
      rw [Parts.outcome, hjoin]
      exact .bad hnames hname hnone
  · have hr := (takes_reason_iff hreason).1 hjoin
    cases good with
    | true =>
      rw [Parts.outcome, hjoin]
      exact .goodWithReason hnames hname hr
    | false =>
      rw [Parts.outcome, hjoin]
      by_cases hvalid : r = .valid
      · subst hvalid
        exact .badWithValid hnames hname hr
      · simp only [if_neg hvalid]
        exact .badWithReason hnames hname hr hvalid

/-- Members are read as the table tells. -/
theorem readMembers_eq_iff {o : Except ReadError Outcome} :
    readMembers members = o ↔ Tells members o := by
  constructor
  · rintro rfl
    exact tells_readMembers members
  · intro h
    cases h with
    | good hnames hresult hreason =>
      obtain ⟨reason, hreason, hjoin⟩ := hreason.takes
      rw [readMembers_of_takes hnames (HasResult.takes true hresult) hreason]
      simp [Parts.outcome, hjoin]
    | goodWithReason hnames hresult hreason =>
      rw [readMembers_of_takes hnames (HasResult.takes true hresult) hreason.takes]
      rfl
    | bad hnames hresult hreason =>
      obtain ⟨reason, hreason, hjoin⟩ := hreason.takes
      rw [readMembers_of_takes hnames (HasResult.takes false hresult) hreason]
      simp [Parts.outcome, hjoin]
    | badWithReason hnames hresult hreason hr =>
      rw [readMembers_of_takes hnames (HasResult.takes false hresult) hreason.takes]
      exact if_neg hr
    | badWithValid hnames hresult hreason =>
      rw [readMembers_of_takes hnames (HasResult.takes false hresult) hreason.takes]
      rfl
    | malformed h =>
      -- every other row of the table asks for what `h` denies
      have htells := tells_readMembers members
      generalize readMembers members = o at htells
      cases htells with
      | good hnames hresult hreason => exact absurd ⟨hnames, .inl hresult, .inl hreason⟩ h
      | goodWithReason hnames hresult hreason =>
        exact absurd ⟨hnames, .inl hresult, .inr ⟨_, hreason⟩⟩ h
      | bad hnames hresult hreason => exact absurd ⟨hnames, .inr hresult, .inl hreason⟩ h
      | badWithReason hnames hresult hreason =>
        exact absurd ⟨hnames, .inr hresult, .inr ⟨_, hreason⟩⟩ h
      | badWithValid hnames hresult hreason =>
        exact absurd ⟨hnames, .inr hresult, .inr ⟨_, hreason⟩⟩ h
      | malformed => rfl

end Report

namespace Outcome

variable {text : String} {members : List (JsonString × Json)}

theorem ofJson_of_spells (h : (Json.object members).Spells text.toList) :
    ofJson text = Report.readMembers members :=
  congrArg Report.told (by rw [Json.parse?_eq_some_iff.2 h, Option.bind_some])

/-- The text of an object is read as the table tells. -/
theorem ofJson_eq_iff (h : (Json.object members).Spells text.toList)
    {o : Except Report.ReadError Outcome} : ofJson text = o ↔ Report.Tells members o := by
  rw [ofJson_of_spells h]
  exact Report.readMembers_eq_iff

theorem isPlain_name (r : Outcome) : r.name.toList.all Json.isPlain = true := by
  cases r <;> decide

theorem spells_toJson_ok : (Json.object [(.ofText "result", .string (.ofText "OK"))]).Spells
    Report.ok.toJson.toList := by
  have hmember : Json.SpellsMembers [(.ofText "result", .string (.ofText "OK"))]
      "\"result\":\"OK\"".toList :=
    .one (Json.spellsName_quoted "result" (by decide))
      (.string (Json.spellsString_ofText "OK" (by decide)))
  exact .members hmember

theorem spells_toJson_ko (r : Outcome) :
    (Json.object [(.ofText "result", .string (.ofText "KO")),
      (.ofText "reason", .string (.ofText r.name))]).Spells (Report.ko r).toJson.toList := by
  have hreason : Json.SpellsMembers [(.ofText "reason", .string (.ofText r.name))]
      ("\"reason\":\"".toList ++ (r.name.toList ++ ['"'])) :=
    .one (Json.spellsName_quoted "reason" (by decide))
      (.string (Json.spellsString_ofText r.name (isPlain_name r)))
  have hmembers : Json.SpellsMembers [(.ofText "result", .string (.ofText "KO")),
      (.ofText "reason", .string (.ofText r.name))]
      ("\"result\":\"KO\",".toList ++ ("\"reason\":\"".toList ++ (r.name.toList ++ ['"']))) :=
    .cons (Json.spellsName_quoted "result" (by decide))
      (.string (Json.spellsString_ofText "KO" (by decide))) hreason
  have htext : (Report.ko r).toJson.toList = '\x7b' :: ("\"result\":\"KO\",".toList
      ++ ("\"reason\":\"".toList ++ (r.name.toList ++ ['"'])) ++ ['\x7d']) := by
    have hfront : "\x7b\"result\":\"KO\",\"reason\":\"".toList
        = '\x7b' :: ("\"result\":\"KO\",".toList ++ "\"reason\":\"".toList) := rfl
    have hback : "\"\x7d".toList = ['"', '\x7d'] := rfl
    unfold Report.toJson
    simp only [String.toList_append, hfront, hback, List.cons_append, List.append_assoc,
      List.nil_append]
  rw [htext]
  exact .members hmembers

theorem ofJson_toJson (r : Outcome) : ofJson r.toJson = .ok r := by
  by_cases hr : r = .valid
  · subst hr
    refine (ofJson_eq_iff spells_toJson_ok).2 (.good ?_ ?_ (.inl ?_))
    · simp [Report.HasTextNames]
    · exact ⟨.string (.ofText "OK"), rfl, .bare⟩
    · rfl
  · rw [toJson, report, if_neg hr]
    refine (ofJson_eq_iff (spells_toJson_ko r)).2 (.badWithReason ?_ ?_ ?_ hr)
    · simp [Report.HasTextNames]
    · exact ⟨.string (.ofText "KO"), rfl, .bare⟩
    · exact ⟨.string (.ofText r.name), rfl, .bare⟩

/-- Only a good result tells a good outcome, in either form of a document. -/
theorem exists_good_of_ofJson_valid (h : ofJson text = .ok .valid) :
    (∃ members, (Json.object members).Spells text.toList ∧ Report.HasResult "OK" members)
      ∨ ∃ result rest, (Json.array (result :: rest)).Spells text.toList ∧ result.Names "OK" := by
  rw [ofJson] at h
  split at h
  · cases h
  rename_i p hp
  obtain ⟨j, hj, hparts⟩ := Option.bind_eq_some_iff.1 hp
  have hspells := Json.parse?_eq_some_iff.1 hj
  have hresult : p.result = some true := Report.Parts.result_of_outcome_valid h
  unfold Report.parts? at hparts
  split at hparts
  · rename_i members
    obtain ⟨-, htakes, -⟩ := Report.foldlM_add?_eq_some_iff.1 hparts
    exact .inl ⟨members, hspells, (Report.takes_result_iff htakes).1 hresult⟩
  · rename_i result
    obtain ⟨good, hgood, hend⟩ := Option.bind_eq_some_iff.1 hparts
    cases hend
    cases hresult
    exact .inr ⟨result, [], hspells, Report.readResult?_eq_some_iff.1 hgood⟩
  · rename_i result reason
    obtain ⟨good, hgood, hparts⟩ := Option.bind_eq_some_iff.1 hparts
    obtain ⟨given, -, hend⟩ := Option.bind_eq_some_iff.1 hparts
    cases hend
    cases hresult
    exact .inr ⟨result, [reason], hspells, Report.readResult?_eq_some_iff.1 hgood⟩
  · cases hparts

/-- **A report is read as its two members tell.**  For the text of an object: it reads as a good
outcome exactly if the result is `OK` and there is no reason, as a negative one exactly if the
result is `KO` and the reason names it, or there is none and the outcome is unknown, and else it is
refused; a name that is no text refuses the whole object.  What is read is read again from its own
report, and no text without the result `OK` reads as a good outcome. -/
theorem ofJson_object :
    (∀ (text : String) (members : List (JsonString × Json)),
      (Json.object members).Spells text.toList →
        (ofJson text = .ok .valid ↔ Report.HasTextNames members ∧ Report.HasResult "OK" members
          ∧ Report.HasNoReason members)
        ∧ (∀ r, r ≠ .valid → (ofJson text = .ok r ↔ Report.HasTextNames members
          ∧ Report.HasResult "KO" members
          ∧ (Report.HasReason r members ∨ Report.HasNoReason members ∧ r = .unknown)))
        ∧ (∀ r, ofJson text = .error (.okWithReason r) ↔ Report.HasTextNames members
          ∧ Report.HasResult "OK" members ∧ Report.HasReason r members)
        ∧ (ofJson text = .error .koWithValid ↔ Report.HasTextNames members
          ∧ Report.HasResult "KO" members ∧ Report.HasReason .valid members)
        ∧ (ofJson text = .error .malformed ↔ ¬ (Report.HasTextNames members
          ∧ (Report.HasResult "OK" members ∨ Report.HasResult "KO" members)
          ∧ (Report.HasNoReason members ∨ ∃ r, Report.HasReason r members))))
      ∧ (∀ (text : String) (r : Outcome), ofJson text = .ok r → ofJson r.toJson = .ok r)
      ∧ ∀ text : String, ofJson text = .ok .valid →
        (∃ members, (Json.object members).Spells text.toList ∧ Report.HasResult "OK" members)
          ∨ ∃ result rest, (Json.array (result :: rest)).Spells text.toList
            ∧ result.Names "OK" := by
  refine ⟨fun text members h => ⟨?_, fun r hr => ?_, fun r => ?_, ?_, ?_⟩,
    fun text r _ => ofJson_toJson r, fun text => exists_good_of_ofJson_valid⟩
  · exact (ofJson_eq_iff h).trans Report.tells_valid_iff
  · exact (ofJson_eq_iff h).trans (Report.tells_negative_iff hr)
  · exact (ofJson_eq_iff h).trans Report.tells_okWithReason_iff
  · exact (ofJson_eq_iff h).trans Report.tells_koWithValid_iff
  · exact (ofJson_eq_iff h).trans Report.tells_malformed_iff

/-- A report of a revoked certificate, with a member that is none of a report's and its result in
the form of an object. -/
def revokedReport : String :=
  "\x7b\"x\":[1],\"reason\":\"REVOKED\",\"result\":\x7b\"KO\":null\x7d\x7d"

/-- The members of `revokedReport`. -/
def revokedMembers : List (JsonString × Json) :=
  [(.ofText "x", .array [.number ⟨false, ['1'], none, none⟩]),
    (.ofText "reason", .string (.ofText "REVOKED")),
    (.ofText "result", .object [(.ofText "KO", .null)])]

theorem spells_one : (Json.number ⟨false, ['1'], none, none⟩).Spells ['1'] :=
  .number (.mk (n := ⟨false, ['1'], none, none⟩)
    ⟨List.cons_ne_nil _ _, List.forall_mem_singleton.2 rfl⟩ (fun _ => rfl) .absent .absent)

theorem spells_revokedReport : (Json.object revokedMembers).Spells revokedReport.toList := by
  have hresult : Json.SpellsMembers [(.ofText "result", .object [(.ofText "KO", .null)])]
      "\"result\":\x7b\"KO\":null\x7d".toList :=
    .one (Json.spellsName_quoted "result" (by decide))
      (.members (.one (Json.spellsName_quoted "KO" (by decide)) .null))
  have hreason : Json.SpellsMembers [(.ofText "reason", .string (.ofText "REVOKED")),
      (.ofText "result", .object [(.ofText "KO", .null)])]
      "\"reason\":\"REVOKED\",\"result\":\x7b\"KO\":null\x7d".toList :=
    .cons (Json.spellsName_quoted "reason" (by decide))
      (.string (Json.spellsString_ofText "REVOKED" (by decide))) hresult
  exact .members (.cons (Json.spellsName_quoted "x" (by decide)) (.items (.one spells_one)) hreason)

theorem ofJson_object_of_revokedReport : (Json.object revokedMembers).Spells revokedReport.toList
    ∧ ofJson revokedReport = .ok .revoked ∧ ofJson (toJson .revoked) = .ok .revoked := by
  have hread : ofJson revokedReport = .ok .revoked := by
    refine ((ofJson_object.1 revokedReport revokedMembers spells_revokedReport).2.1 .revoked
      (by decide)).2 ⟨?_, ?_, .inl ?_⟩
    · simp [Report.HasTextNames, revokedMembers]
    · exact ⟨.object [(.ofText "KO", .null)], rfl, .member⟩
    · exact ⟨.string (.ofText "REVOKED"), rfl, .bare⟩
  exact ⟨spells_revokedReport, hread, ofJson_object.2.1 _ _ hread⟩

/-- A good report with one more member, whose name is a surrogate without its partner. -/
def unpairedReport : String :=
  "\x7b\"result\":\"OK\",\"\\ud800\":1\x7d"

/-- The members of `unpairedReport`. -/
def unpairedMembers : List (JsonString × Json) :=
  [(.ofText "result", .string (.ofText "OK")), ([0xd800], .number ⟨false, ['1'], none, none⟩)]

theorem spells_unpairedReport : (Json.object unpairedMembers).Spells unpairedReport.toList := by
  have hunit : Json.SpellsUnit 0xd800 ['d', '8', '0', '0'] :=
    .digits (x := 13) (y := 8) (z := 0) (w := 0) rfl rfl rfl rfl
  have hstring : Json.SpellsString [0xd800] "\\ud800".toList :=
    .unit hunit (fun _ _ _ _ _ _ h => nomatch h) .nil
  have hname : Json.SpellsName [0xd800] "\"\\ud800\"".toList :=
    .mk (a := []) (b := []) (by simp [Json.IsBlanks]) hstring (by simp [Json.IsBlanks])
  exact .members (.cons (Json.spellsName_quoted "result" (by decide))
    (.string (Json.spellsString_ofText "OK" (by decide))) (.one hname spells_one))

/-- A member that says nothing refuses a good report if its name is no text. -/
theorem unpairedReport_refused : (Json.object unpairedMembers).Spells unpairedReport.toList
    ∧ Report.HasResult "OK" unpairedMembers ∧ Report.HasNoReason unpairedMembers
    ∧ ofJson unpairedReport = .error .malformed := by
  refine ⟨spells_unpairedReport, ⟨.string (.ofText "OK"), ?_, .bare⟩, .inl ?_,
    (ofJson_eq_iff spells_unpairedReport).2 (.malformed fun ⟨hnames, _⟩ => ?_)⟩
  · rfl
  · rfl
  · obtain ⟨text, htext⟩ := hnames ([0xd800], _) (.tail _ (.head _))
    have hsome : JsonString.text? [0xd800] = some text := JsonString.text?_eq_some_iff.2 htext
    cases hsome

end Outcome

end SignerTrust
