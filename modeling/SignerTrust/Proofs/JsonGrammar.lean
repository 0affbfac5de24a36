import SignerTrust.Proofs.JsonToken

/-!
# The grammar of JSON

What texts spell which values, and that the reader reads a value from a text exactly if the text
spells it (`parse?_eq_some_iff`).  The grammar is told by the parts of a text, and the reader goes
through a text from its front: the two meet where a part ends.  A spelled value is read if enough
steps are left for the length of its text (`Spells.value?_append`), and what is read within any
number of steps is spelled by the text used up for it (`isSound`).
-/

namespace SignerTrust.Json

/-- A string in quotes, among blanks. -/
inductive SpellsName : JsonString → List Char → Prop
  | mk {s : JsonString} {a b cs : List Char} (ha : IsBlanks a) (h : SpellsString s cs)
      (hb : IsBlanks b) : SpellsName s (a ++ '"' :: (cs ++ '"' :: b))

mutual

/-- The text of a value. -/
inductive Spells : Json → List Char → Prop
  | null : Spells .null ['n', 'u', 'l', 'l']
  | yes : Spells (.bool true) ['t', 'r', 'u', 'e']
  | no : Spells (.bool false) ['f', 'a', 'l', 's', 'e']
  | number {n : JsonNumber} {cs : List Char} (h : SpellsNumber n cs) : Spells (.number n) cs
  | string {s : JsonString} {cs : List Char} (h : SpellsString s cs) :
      Spells (.string s) ('"' :: (cs ++ ['"']))
  | noItems {b : List Char} (hb : IsBlanks b) : Spells (.array []) ('[' :: (b ++ [']']))
  | items {js : List Json} {cs : List Char} (h : SpellsItems js cs) :
      Spells (.array js) ('[' :: (cs ++ [']']))
  | noMembers {b : List Char} (hb : IsBlanks b) :
      Spells (.object []) ('\x7b' :: (b ++ ['\x7d']))
  | members {ms : List (JsonString × Json)} {cs : List Char} (h : SpellsMembers ms cs) :
      Spells (.object ms) ('\x7b' :: (cs ++ ['\x7d']))
  | padded {j : Json} {a cs b : List Char} (ha : IsBlanks a) (h : Spells j cs) (hb : IsBlanks b) :
      Spells j (a ++ (cs ++ b))

/-- The text of the items of an array. -/
inductive SpellsItems : List Json → List Char → Prop
  | one {j : Json} {cs : List Char} (h : Spells j cs) : SpellsItems [j] cs
  | cons {j : Json} {js : List Json} {cs ds : List Char} (h : Spells j cs)
      (hs : SpellsItems js ds) : SpellsItems (j :: js) (cs ++ ',' :: ds)

/-- The text of the members of an object. -/
inductive SpellsMembers : List (JsonString × Json) → List Char → Prop
  | one {s : JsonString} {j : Json} {ks cs : List Char} (hk : SpellsName s ks) (h : Spells j cs) :
      SpellsMembers [(s, j)] (ks ++ ':' :: cs)
  | cons {s : JsonString} {j : Json} {ms : List (JsonString × Json)} {ks cs ds : List Char}
      (hk : SpellsName s ks) (h : Spells j cs) (hs : SpellsMembers ms ds) :
      SpellsMembers ((s, j) :: ms) (ks ++ ':' :: (cs ++ ',' :: ds))

end

section Values

variable {fuel : Nat} {ks cs ds ds' rest : List Char} {j : Json} {js : List Json}
  {ms : List (JsonString × Json)} {s : JsonString} {n : JsonNumber}

theorem EndsNumber.nil : EndsNumber [] := by
  rintro _ ⟨⟩

theorem isBlank_ends {c : Char} (hc : isBlank c = true) :
    c.isDigit = false ∧ c ≠ '.' ∧ c ≠ 'e' ∧ c ≠ 'E' := by
  simp only [isBlank, Bool.or_eq_true, decide_eq_true_eq] at hc
  rcases hc with ((rfl | rfl) | rfl) | rfl <;> decide

theorem EndsNumber.append {b : List Char} (hb : IsBlanks b) (hrest : EndsNumber rest) :
    EndsNumber (b ++ rest) := by
  rcases b with _ | ⟨c, b⟩
  · exact hrest
  · exact endsNumber_cons (isBlank_ends (hb c List.mem_cons_self)) _

theorem spellsName_quoted (name : String) (h : name.toList.all isPlain = true) :
    SpellsName (.ofText name) ('"' :: (name.toList ++ ['"'])) :=
  .mk (a := []) (b := []) (by simp [IsBlanks]) (spellsString_ofText name h) (by simp [IsBlanks])

/-! The reader of values, a step at a time. -/

theorem value?_quote : value? (fuel + 1) ('"' :: cs)
    = (stringBody? (cs.length + 1) cs).map fun (s, cs) => (.string s, cs) :=
  rfl

theorem value?_bracket : value? (fuel + 1) ('[' :: cs) =
    match skipBlanks cs with
    | ']' :: cs => some (.array [], cs)
    | cs => (items? fuel cs).map fun (js, cs) => (.array js, cs) :=
  rfl

theorem value?_brace : value? (fuel + 1) ('\x7b' :: cs) =
    match skipBlanks cs with
    | '\x7d' :: cs => some (.object [], cs)
    | cs => (members? fuel cs).map fun (ms, cs) => (.object ms, cs) :=
  rfl

theorem items?_succ : items? (fuel + 1) cs =
    match value? fuel cs with
    | none => none
    | some (j, cs) =>
      match skipBlanks cs with
      | ',' :: cs => (items? fuel cs).map fun (js, cs) => (j :: js, cs)
      | ']' :: cs => some ([j], cs)
      | _ => none :=
  rfl

theorem value?_skipBlanks : value? fuel (skipBlanks cs) = value? fuel cs := by
  cases fuel with
  | zero => rfl
  | succ fuel => rw [value?, value?, skipBlanks_skipBlanks]

theorem items?_skipBlanks : items? fuel (skipBlanks cs) = items? fuel cs := by
  cases fuel with
  | zero => rfl
  | succ fuel => rw [items?_succ, items?_succ, value?_skipBlanks]

theorem members?_skipBlanks : members? fuel (skipBlanks cs) = members? fuel cs := by
  cases fuel with
  | zero => rfl
  | succ fuel => rw [members?, members?, skipBlanks_skipBlanks]

theorem members?_quote (h : skipBlanks cs = '"' :: ds) : members? (fuel + 1) cs =
    match stringBody? (ds.length + 1) ds with
    | none => none
    | some (s, cs) =>
      match skipBlanks cs with
      | ':' :: cs =>
        match value? fuel cs with
        | none => none
        | some (j, cs) =>
          match skipBlanks cs with
          | ',' :: cs => (members? fuel cs).map fun (ms, cs) => ((s, j) :: ms, cs)
          | '\x7d' :: cs => some ([(s, j)], cs)
          | _ => none
      | _ => none := by
  rw [← members?_skipBlanks, h]
  rfl

theorem isBlank_eq_false_of_digit {c : Char} (hc : c = '-' ∨ c.isDigit = true) :
    isBlank c = false := by
  by_contra hb
  rw [Bool.not_eq_false] at hb
  rcases hc with rfl | hc
  · cases hb
  · exact absurd hc (by simp [(isBlank_ends hb).1])

theorem value?_number {c : Char} (hc : c = '-' ∨ c.isDigit = true) :
    value? (fuel + 1) (c :: cs) = (number? (c :: cs)).map fun (n, rest) => (.number n, rest) := by
  have hmarks : ['n', 't', 'f', '"', '[', '\x7b'].all (fun d => d ≠ '-' && !d.isDigit) = true := by
    decide
  have hne : ∀ d ∈ ['n', 't', 'f', '"', '[', '\x7b'], c ≠ d := by
    rintro d hd rfl
    have hmark := List.all_eq_true.1 hmarks c hd
    simp only [Bool.and_eq_true, decide_eq_true_eq, Bool.not_eq_true'] at hmark
    exact hc.elim hmark.1 (by simp [hmark.2])
  rw [value?, skipBlanks_cons (isBlank_eq_false_of_digit hc)]
  split <;> simp_all

/-! No item and no member begins with the end of what it is in. -/

theorem items?_close : items? fuel (']' :: cs) = none := by
  rcases fuel with _ | _ | fuel <;> rfl

theorem members?_close : members? fuel ('\x7d' :: cs) = none := by
  rcases fuel with _ | fuel <;> rfl

theorem value?_string (h : stringBody? (cs.length + 1) cs = some (s, rest)) :
    value? (fuel + 1) ('"' :: cs) = some (.string s, rest) := by
  rw [value?_quote, h, Option.map_some]

theorem value?_noItems (h : skipBlanks cs = ']' :: rest) :
    value? (fuel + 1) ('[' :: cs) = some (.array [], rest) := by
  simp only [value?_bracket, h]

theorem value?_items (h : items? fuel cs = some (js, rest)) :
    value? (fuel + 1) ('[' :: cs) = some (.array js, rest) := by
  rw [value?_bracket]
  split
  · rename_i hclose
    rw [← items?_skipBlanks, hclose, items?_close] at h
    cases h
  · rw [items?_skipBlanks, h, Option.map_some]

theorem value?_noMembers (h : skipBlanks cs = '\x7d' :: rest) :
    value? (fuel + 1) ('\x7b' :: cs) = some (.object [], rest) := by
  simp only [value?_brace, h]

theorem value?_members (h : members? fuel cs = some (ms, rest)) :
    value? (fuel + 1) ('\x7b' :: cs) = some (.object ms, rest) := by
  rw [value?_brace]
  split
  · rename_i hclose
    rw [← members?_skipBlanks, hclose, members?_close] at h
    cases h
  · rw [members?_skipBlanks, h, Option.map_some]

theorem items?_one (h : value? fuel cs = some (j, ds)) (hds : skipBlanks ds = ']' :: rest) :
    items? (fuel + 1) cs = some ([j], rest) := by
  simp only [items?_succ, h, hds]

theorem items?_cons (h : value? fuel cs = some (j, ds)) (hds : skipBlanks ds = ',' :: ds')
    (hs : items? fuel ds' = some (js, rest)) : items? (fuel + 1) cs = some (j :: js, rest) := by
  simp only [items?_succ, h, hds, hs, Option.map_some]

theorem SpellsName.skipBlanks_append (hk : SpellsName s ks) (cs : List Char) :
    ∃ ds ds', skipBlanks (ks ++ ':' :: cs) = '"' :: ds ∧
      stringBody? (ds.length + 1) ds = some (s, ds') ∧ skipBlanks ds' = ':' :: cs := by
  obtain ⟨ha, h, hb⟩ := hk
  rename_i a b us
  refine ⟨us ++ '"' :: (b ++ ':' :: cs), b ++ ':' :: cs, ?_, h.stringBody?_eq _ ?_, ?_⟩
  · rw [List.append_assoc, Json.skipBlanks_append ha, List.cons_append,
      skipBlanks_cons (by decide), List.append_assoc, List.cons_append]
  · rw [List.length_append]
    omega
  · rw [Json.skipBlanks_append hb, skipBlanks_cons (by decide)]

theorem members?_one (hk : SpellsName s ks) (h : value? fuel cs = some (j, ds))
    (hds : skipBlanks ds = '\x7d' :: rest) :
    members? (fuel + 1) (ks ++ ':' :: cs) = some ([(s, j)], rest) := by
  obtain ⟨us, us', hquote, hbody, hcolon⟩ := hk.skipBlanks_append cs
  simp only [members?_quote hquote, hbody, hcolon, h, hds]

theorem members?_cons (hk : SpellsName s ks) (h : value? fuel cs = some (j, ds))
    (hds : skipBlanks ds = ',' :: ds') (hs : members? fuel ds' = some (ms, rest)) :
    members? (fuel + 1) (ks ++ ':' :: cs) = some ((s, j) :: ms, rest) := by
  obtain ⟨us, us', hquote, hbody, hcolon⟩ := hk.skipBlanks_append cs
  simp only [members?_quote hquote, hbody, hcolon, h, hds, hs, Option.map_some]

mutual

/-- A spelled value is read.  Blanks after it may be left over, as the reader takes them with what
follows. -/
theorem Spells.value?_append : ∀ {j : Json} {cs : List Char}, Spells j cs →
    ∀ {fuel : Nat} {rest : List Char}, cs.length < fuel → EndsNumber rest →
      ∃ ds, value? fuel (cs ++ rest) = some (j, ds) ∧ skipBlanks ds = skipBlanks rest
  | _, _, _, 0, _, hfuel, _ => absurd hfuel (Nat.not_lt_zero _)
  | _, _, .null, _ + 1, rest, _, _ => ⟨rest, by rw [value?]; rfl, rfl⟩
  | _, _, .yes, _ + 1, rest, _, _ => ⟨rest, by rw [value?]; rfl, rfl⟩
  | _, _, .no, _ + 1, rest, _, _ => ⟨rest, by rw [value?]; rfl, rfl⟩
  | _, _, .number h, _ + 1, rest, _, hrest => ⟨rest, by
      obtain ⟨c, cs, hc, rfl⟩ := h.exists_cons
      rw [List.cons_append, value?_number hc, ← List.cons_append, h.number?_append hrest]
      rfl, rfl⟩
  | _, _, .string h, _ + 1, rest, _, _ => ⟨rest, by
      rw [List.cons_append, List.append_assoc]
      exact value?_string (h.stringBody?_eq rest (by rw [List.length_append]; omega)), rfl⟩
  | _, _, .noItems hb, _ + 1, rest, _, _ => ⟨rest, by
      rw [List.cons_append, List.append_assoc]
      exact value?_noItems (by rw [skipBlanks_append hb]; rfl), rfl⟩
  | _, _, .items h, fuel + 1, rest, hfuel, _ => ⟨rest, by
      simp only [List.length_cons, List.length_append, List.length_nil] at hfuel
      rw [List.cons_append, List.append_assoc]
      exact value?_items (h.items?_append (by omega)), rfl⟩
  | _, _, .noMembers hb, _ + 1, rest, _, _ => ⟨rest, by
      rw [List.cons_append, List.append_assoc]
      exact value?_noMembers (by rw [skipBlanks_append hb]; rfl), rfl⟩
  | _, _, .members h, _ + 1, rest, hfuel, _ => ⟨rest, by
      simp only [List.length_cons, List.length_append, List.length_nil] at hfuel
      rw [List.cons_append, List.append_assoc]
      exact value?_members (h.members?_append (by omega)), rfl⟩
  | _, _, .padded ha h hb, fuel + 1, rest, hfuel, hrest => by
    simp only [List.length_append] at hfuel
    obtain ⟨ds, hvalue, hds⟩ := h.value?_append (show _ < fuel + 1 by omega)
      (hrest.append hb)
    refine ⟨ds, ?_, hds.trans (skipBlanks_append hb rest)⟩
    rw [List.append_assoc, ← value?_skipBlanks, skipBlanks_append ha, value?_skipBlanks,
      List.append_assoc, hvalue]

theorem SpellsItems.items?_append : ∀ {js : List Json} {cs : List Char}, SpellsItems js cs →
    ∀ {fuel : Nat} {rest : List Char}, cs.length + 1 < fuel →
      items? fuel (cs ++ ']' :: rest) = some (js, rest)
  | _, _, _, 0, _, hfuel => absurd hfuel (Nat.not_lt_zero _)
  | _, _, .one h, fuel + 1, rest, hfuel => by
    obtain ⟨ds, hvalue, hds⟩ := h.value?_append (Nat.lt_of_succ_lt_succ hfuel)
      (endsNumber_cons (c := ']') (by decide) rest)
    exact items?_one hvalue (hds.trans (skipBlanks_cons (by decide) rest))
  | _, _, .cons h hs, fuel + 1, rest, hfuel => by
    simp only [List.length_append, List.length_cons] at hfuel
    rw [List.append_assoc]
    obtain ⟨ds, hvalue, hds⟩ := h.value?_append (show _ < fuel by omega)
      (endsNumber_cons (c := ',') (by decide) _)
    exact items?_cons hvalue (hds.trans (skipBlanks_cons (by decide) _))
      (hs.items?_append (by omega))

theorem SpellsMembers.members?_append : ∀ {ms : List (JsonString × Json)} {cs : List Char},
    SpellsMembers ms cs → ∀ {fuel : Nat} {rest : List Char}, cs.length + 1 < fuel →
      members? fuel (cs ++ '\x7d' :: rest) = some (ms, rest)
  | _, _, _, 0, _, hfuel => absurd hfuel (Nat.not_lt_zero _)
  | _, _, .one hk h, fuel + 1, rest, hfuel => by
    simp only [List.length_append, List.length_cons] at hfuel
    rw [List.append_assoc]
    obtain ⟨ds, hvalue, hds⟩ := h.value?_append (show _ < fuel by omega)
      (endsNumber_cons (c := '\x7d') (by decide) rest)
    exact members?_one hk hvalue (hds.trans (skipBlanks_cons (by decide) rest))
  | _, _, .cons hk h hs, fuel + 1, rest, hfuel => by
    simp only [List.length_append, List.length_cons] at hfuel
    rw [List.append_assoc, List.cons_append, List.append_assoc]
    obtain ⟨ds, hvalue, hds⟩ := h.value?_append (show _ < fuel by omega)
      (endsNumber_cons (c := ',') (by decide) _)
    exact members?_cons hk hvalue (hds.trans (skipBlanks_cons (by decide) _))
      (hs.members?_append (by omega))

end

/-- Whether what is read within so many steps is spelled by the text used up for it. -/
structure IsSound (fuel : Nat) : Prop where
  value : ∀ {cs rest : List Char} {j : Json}, value? fuel cs = some (j, rest) →
    ∃ ds, cs = ds ++ rest ∧ Spells j ds
  items : ∀ {cs rest : List Char} {js : List Json}, items? fuel cs = some (js, rest) →
    ∃ ds, cs = ds ++ ']' :: rest ∧ SpellsItems js ds
  members : ∀ {cs rest : List Char} {ms : List (JsonString × Json)},
    members? fuel cs = some (ms, rest) → ∃ ds, cs = ds ++ '\x7d' :: rest ∧ SpellsMembers ms ds

theorem Spells.padLeft {a : List Char} (ha : IsBlanks a) (h : Spells j cs) :
    Spells j (a ++ cs) := by
  simpa using Spells.padded ha h (b := []) (by simp [IsBlanks])

theorem Spells.padRight {b : List Char} (h : Spells j cs) (hb : IsBlanks b) :
    Spells j (cs ++ b) := by
  simpa using Spells.padded (a := []) (by simp [IsBlanks]) h hb

theorem eq_append_of_dropStart? : ∀ {w cs rest : List Char}, dropStart? w cs = some rest →
    cs = w ++ rest
  | [], _, _, h => Option.some.inj h
  | x :: w, [], _, h => by cases h
  | x :: w, c :: cs, rest, h => by
    by_cases hx : x = c
    · rw [dropStart?, if_pos hx] at h
      rw [eq_append_of_dropStart? h, hx, List.cons_append]
    · rw [dropStart?, if_neg hx] at h
      cases h

theorem exists_spells_word {c : Char} {w : List Char} {k : Json} (hw : Spells k (c :: w))
    (h : (dropStart? w cs).map (fun cs => (k, cs)) = some (j, rest)) :
    ∃ us, c :: cs = us ++ rest ∧ Spells j us := by
  obtain ⟨ds, hds, hend⟩ := Option.map_eq_some_iff.1 h
  obtain ⟨rfl, rfl⟩ : _ ∧ _ := Prod.mk.inj hend
  exact ⟨c :: w, congrArg (List.cons c) (eq_append_of_dropStart? hds), hw⟩

theorem exists_spells_quote {fuel : Nat}
    (h : (stringBody? fuel cs).map (fun (s, cs) => (Json.string s, cs)) = some (j, rest)) :
    ∃ us, '"' :: cs = us ++ rest ∧ Spells j us := by
  obtain ⟨⟨s, ds⟩, hs, hend⟩ := Option.map_eq_some_iff.1 h
  obtain ⟨rfl, rfl⟩ : _ ∧ _ := Prod.mk.inj hend
  obtain ⟨us, rfl, hus⟩ := exists_spellsString hs
  exact ⟨'"' :: (us ++ ['"']), by simp, .string hus⟩

theorem IsSound.exists_spells_bracket (hsound : IsSound fuel)
    (h : value? (fuel + 1) ('[' :: cs) = some (j, rest)) :
    ∃ us, '[' :: cs = us ++ rest ∧ Spells j us := by
  obtain ⟨b, hb, hcs⟩ := exists_isBlanks_append cs
  rw [value?_bracket] at h
  split at h
  · rename_i ds hclose
    obtain ⟨rfl, rfl⟩ : _ ∧ _ := Prod.mk.inj (Option.some.inj h)
    exact ⟨'[' :: (b ++ [']']), by rw [hcs, hclose]; simp, .noItems hb⟩
  · obtain ⟨⟨js, ds⟩, hjs, hend⟩ := Option.map_eq_some_iff.1 h
    obtain ⟨rfl, rfl⟩ : _ ∧ _ := Prod.mk.inj hend
    rw [items?_skipBlanks] at hjs
    obtain ⟨us, rfl, hus⟩ := hsound.items hjs
    exact ⟨'[' :: (us ++ [']']), by simp, .items hus⟩

theorem IsSound.exists_spells_brace (hsound : IsSound fuel)
    (h : value? (fuel + 1) ('\x7b' :: cs) = some (j, rest)) :
    ∃ us, '\x7b' :: cs = us ++ rest ∧ Spells j us := by
  obtain ⟨b, hb, hcs⟩ := exists_isBlanks_append cs
  rw [value?_brace] at h
  split at h
  · rename_i ds hclose
    obtain ⟨rfl, rfl⟩ : _ ∧ _ := Prod.mk.inj (Option.some.inj h)
    exact ⟨'\x7b' :: (b ++ ['\x7d']), by rw [hcs, hclose]; simp, .noMembers hb⟩
  · obtain ⟨⟨ms, ds⟩, hms, hend⟩ := Option.map_eq_some_iff.1 h
    obtain ⟨rfl, rfl⟩ : _ ∧ _ := Prod.mk.inj hend
    rw [members?_skipBlanks] at hms
    obtain ⟨us, rfl, hus⟩ := hsound.members hms
    exact ⟨'\x7b' :: (us ++ ['\x7d']), by simp, .members hus⟩

/-- A value without blanks in front is told by its first character. -/
theorem IsSound.exists_spells (hsound : IsSound fuel) (hcs : skipBlanks cs = ds)
    (h : value? (fuel + 1) cs = some (j, rest)) : ∃ us, ds = us ++ rest ∧ Spells j us := by
  rw [value?, hcs] at h
  split at h
  · cases h
  · exact exists_spells_word .null h
  · exact exists_spells_word .yes h
  · exact exists_spells_word .no h
  · exact exists_spells_quote h
  · exact hsound.exists_spells_bracket (value?_bracket.trans h)
  · exact hsound.exists_spells_brace (value?_brace.trans h)
  · obtain ⟨⟨n, ds⟩, hn, hend⟩ := Option.map_eq_some_iff.1 h
    obtain ⟨rfl, rfl⟩ : _ ∧ _ := Prod.mk.inj hend
    obtain ⟨us, hus, hnumber⟩ := exists_spellsNumber hn
    exact ⟨us, hus, .number hnumber⟩

/-- What is up to a mark after a value, with the blanks before the mark, is the value's. -/
theorem IsSound.exists_spells_mark (hsound : IsSound fuel) {c : Char}
    (h : value? fuel cs = some (j, rest)) (hrest : skipBlanks rest = c :: ds) :
    ∃ us, cs = us ++ c :: ds ∧ Spells j us := by
  obtain ⟨us, rfl, hus⟩ := hsound.value h
  obtain ⟨b, hb, hb'⟩ := exists_isBlanks_append rest
  exact ⟨us ++ b, by rw [hb', hrest, List.append_assoc], hus.padRight hb⟩

/-- What is up to a colon after a name, with the blanks about it, is the name's. -/
theorem exists_spellsName (hcs : skipBlanks cs = '"' :: ds) {fuel : Nat}
    (h : stringBody? fuel ds = some (s, ds')) (hds : skipBlanks ds' = ':' :: rest) :
    ∃ ks, cs = ks ++ ':' :: rest ∧ SpellsName s ks := by
  obtain ⟨a, ha, ha'⟩ := exists_isBlanks_append cs
  obtain ⟨b, hb, hb'⟩ := exists_isBlanks_append ds'
  obtain ⟨us, hus, hs⟩ := exists_spellsString h
  refine ⟨a ++ '"' :: (us ++ '"' :: b), ?_, .mk ha hs hb⟩
  rw [ha', hcs, hus, hb', hds]
  simp

theorem IsSound.exists_spellsItems (hsound : IsSound fuel)
    (h : items? (fuel + 1) cs = some (js, rest)) :
    ∃ us, cs = us ++ ']' :: rest ∧ SpellsItems js us := by
  rw [items?_succ] at h
  split at h
  · cases h
  rename_i j ds hvalue
  split at h
  · rename_i ds' hcomma
    obtain ⟨us, rfl, hus⟩ := hsound.exists_spells_mark hvalue hcomma
    obtain ⟨⟨js', ds⟩, hjs, hend⟩ := Option.map_eq_some_iff.1 h
    obtain ⟨rfl, rfl⟩ : _ ∧ _ := Prod.mk.inj hend
    obtain ⟨vs, rfl, hvs⟩ := hsound.items hjs
    exact ⟨us ++ ',' :: vs, by simp, .cons hus hvs⟩
  · rename_i hclose
    obtain ⟨us, rfl, hus⟩ := hsound.exists_spells_mark hvalue hclose
    obtain ⟨rfl, rfl⟩ : _ ∧ _ := Prod.mk.inj (Option.some.inj h)
    exact ⟨us, rfl, .one hus⟩
  · cases h

theorem IsSound.exists_spellsMembers (hsound : IsSound fuel)
    (h : members? (fuel + 1) cs = some (ms, rest)) :
    ∃ us, cs = us ++ '\x7d' :: rest ∧ SpellsMembers ms us := by
  rw [members?] at h
  split at h
  · rename_i ds hquote
    split at h
    · cases h
    rename_i key ds hkey
    split at h
    · rename_i ds hcolon
      obtain ⟨ks, rfl, hks⟩ := exists_spellsName hquote hkey hcolon
      split at h
      · cases h
      rename_i j ds hvalue
      split at h
      · rename_i ds' hcomma
        obtain ⟨us, rfl, hus⟩ := hsound.exists_spells_mark hvalue hcomma
        obtain ⟨⟨ms', ds⟩, hms, hend⟩ := Option.map_eq_some_iff.1 h
        obtain ⟨rfl, rfl⟩ : _ ∧ _ := Prod.mk.inj hend
        obtain ⟨vs, rfl, hvs⟩ := hsound.members hms
        exact ⟨ks ++ ':' :: (us ++ ',' :: vs), by simp, .cons hks hus hvs⟩
      · rename_i hclose
        obtain ⟨us, rfl, hus⟩ := hsound.exists_spells_mark hvalue hclose
        obtain ⟨rfl, rfl⟩ : _ ∧ _ := Prod.mk.inj (Option.some.inj h)
        exact ⟨ks ++ ':' :: us, by simp, .one hks hus⟩
      · cases h
    · cases h
  · cases h

theorem IsSound.succ (hsound : IsSound fuel) : IsSound (fuel + 1) where
  value := by
    intro cs rest j h
    obtain ⟨b, hb, hcs⟩ := exists_isBlanks_append cs
    obtain ⟨us, hus, hj⟩ := hsound.exists_spells rfl h
    exact ⟨b ++ us, by rw [List.append_assoc, ← hus, ← hcs], hj.padLeft hb⟩
  items := hsound.exists_spellsItems
  members := hsound.exists_spellsMembers

theorem isSound : ∀ fuel : Nat, IsSound fuel
  | 0 => by constructor <;> intro _ _ _ h <;> cases h
  | fuel + 1 => (isSound fuel).succ

end Values

/-- **A value is read from a text exactly if the text spells it.** -/
theorem parse?_eq_some_iff {text : String} {j : Json} :
    parse? text = some j ↔ Spells j text.toList := by
  simp only [parse?]
  constructor
  · intro h
    split at h
    · rename_i j' rest hvalue
      obtain ⟨ds, hds, hj⟩ := (isSound _).value hvalue
      by_cases hrest : (skipBlanks rest).isEmpty
      · rw [if_pos hrest] at h
        cases h
        obtain ⟨b, hb, hb'⟩ := exists_isBlanks_append rest
        rw [List.isEmpty_iff.1 hrest, List.append_nil] at hb'
        exact hds ▸ hb' ▸ hj.padRight hb
      · rw [if_neg hrest] at h
        cases h
    · cases h
  · intro h
    obtain ⟨ds, hvalue, hds⟩ := h.value?_append (Nat.lt_succ_self _) .nil
    rw [List.append_nil] at hvalue
    simp only [hvalue, hds]
    rfl

end SignerTrust.Json
