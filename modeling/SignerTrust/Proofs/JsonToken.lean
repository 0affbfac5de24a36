import Mathlib.Data.List.TakeWhile
import Mathlib.Tactic.Common
import SignerTrust.Json.Reader

/-!
# Strings and numbers of JSON

What texts spell which strings and numbers, and that the reader takes from the front of a text what
spells one.  A string has many texts by its escapes, so its texts are a relation; the quote marks
its end (`SpellsString.stringBody?_eq`, `exists_spellsString`).  The end of a number is not marked:
it is where nothing follows that could continue it (`EndsNumber`).
-/

namespace SignerTrust.Json

/-- Whether a text is all blanks. -/
def IsBlanks (cs : List Char) : Prop :=
  ∀ c ∈ cs, isBlank c = true

theorem isBlanks_takeWhile (cs : List Char) : IsBlanks (cs.takeWhile isBlank) :=
  fun _ hc => List.mem_takeWhile_imp hc

/-- A text without its blanks in front. -/
theorem exists_isBlanks_append (cs : List Char) : ∃ b, IsBlanks b ∧ cs = b ++ skipBlanks cs :=
  ⟨_, isBlanks_takeWhile cs, (List.takeWhile_append_dropWhile).symm⟩

theorem skipBlanks_append {b : List Char} (hb : IsBlanks b) (cs : List Char) :
    skipBlanks (b ++ cs) = skipBlanks cs := by
  rw [skipBlanks, List.dropWhile_append_of_pos hb, skipBlanks]

theorem skipBlanks_cons {c : Char} (hc : isBlank c = false) (cs : List Char) :
    skipBlanks (c :: cs) = c :: cs :=
  List.dropWhile_cons_of_neg (by simp [hc])

theorem skipBlanks_skipBlanks (cs : List Char) : skipBlanks (skipBlanks cs) = skipBlanks cs := by
  obtain ⟨b, hb, hcs⟩ := exists_isBlanks_append cs
  conv_rhs => rw [hcs, skipBlanks_append hb]

/-! ### Strings -/

/-- Four hexadecimal digits with their number. -/
inductive SpellsUnit : Nat → List Char → Prop
  | digits {a b c d : Char} {x y z w : Nat} (ha : Bytes.hexValue? a = some x)
      (hb : Bytes.hexValue? b = some y) (hc : Bytes.hexValue? c = some z)
      (hd : Bytes.hexValue? d = some w) :
      SpellsUnit (((x * 16 + y) * 16 + z) * 16 + w) [a, b, c, d]

/-- Whether a number is the first half of a pair of surrogates. -/
def IsLeading (n : Nat) : Prop :=
  0xd800 ≤ n ∧ n < 0xdc00

/-- Whether a number is the second half of a pair of surrogates. -/
def IsTrailing (n : Nat) : Prop :=
  0xdc00 ≤ n ∧ n < 0xe000

/-- The text of a string between its quotes.  Two escapes that are a pair of surrogates spell one
code point; any other escape of a surrogate spells that. -/
inductive SpellsString : JsonString → List Char → Prop
  | nil : SpellsString [] []
  | plain {c : Char} {s : JsonString} {cs : List Char} (hquote : c ≠ '"') (hescape : c ≠ '\\')
      (hcontrol : 0x20 ≤ c.toNat) (h : SpellsString s cs) : SpellsString (c.toNat :: s) (c :: cs)
  | short {e : Char} {n : Nat} {s : JsonString} {cs : List Char} (he : shortEscape? e = some n)
      (h : SpellsString s cs) : SpellsString (n :: s) ('\\' :: e :: cs)
  | unit {n : Nat} {s : JsonString} {u cs : List Char} (hu : SpellsUnit n u)
      (hn : IsLeading n → ∀ m v ds, SpellsUnit m v → IsTrailing m → cs ≠ '\\' :: 'u' :: (v ++ ds))
      (h : SpellsString s cs) : SpellsString (n :: s) ('\\' :: 'u' :: (u ++ cs))
  | pair {n m : Nat} {s : JsonString} {u v cs : List Char} (hu : SpellsUnit n u)
      (hv : SpellsUnit m v) (hn : IsLeading n) (hm : IsTrailing m) (h : SpellsString s cs) :
      SpellsString ((0x10000 + (n - 0xd800) * 1024 + (m - 0xdc00)) :: s)
        ('\\' :: 'u' :: (u ++ '\\' :: 'u' :: (v ++ cs)))

section Strings

variable {n m fuel : Nat} {s : JsonString} {u v cs ds rest : List Char} {c e : Char}

theorem hex4?_eq_some_iff : hex4? cs = some (n, rest) ↔ ∃ u, SpellsUnit n u ∧ cs = u ++ rest := by
  constructor
  · intro h
    unfold hex4? at h
    split at h
    · rename_i a b c d rest'
      simp only [List.mapM_cons, List.mapM_nil, Option.bind_eq_bind, Option.bind_eq_some_iff,
        Option.pure_def, Option.some.injEq, Prod.mk.injEq] at h
      obtain ⟨_, ⟨x, hx, _, ⟨y, hy, _, ⟨z, hz, _, ⟨w, hw, _, rfl, rfl⟩, rfl⟩, rfl⟩, rfl⟩, hend⟩ := h
      obtain ⟨rfl, rfl⟩ := hend
      exact ⟨_, by simpa using SpellsUnit.digits hx hy hz hw, rfl⟩
    · cases h
  · rintro ⟨u, ⟨ha, hb, hc, hd⟩, rfl⟩
    simp [hex4?, ha, hb, hc, hd]

theorem SpellsUnit.eq_of_append_eq (hu : SpellsUnit n u) (hv : SpellsUnit m v)
    (h : u ++ cs = v ++ ds) : n = m ∧ cs = ds := by
  have hn : hex4? (u ++ cs) = some (n, cs) := hex4?_eq_some_iff.2 ⟨u, hu, rfl⟩
  have hm : hex4? (v ++ ds) = some (m, ds) := hex4?_eq_some_iff.2 ⟨v, hv, rfl⟩
  rw [h, hm, Option.some.injEq, Prod.mk.injEq] at hn
  exact ⟨hn.1.symm, hn.2.symm⟩

theorem joinSurrogate_eq_cons {escaped : Bool}
    (h : IsLeading n → escaped = true → ∀ m s', s = m :: s' → ¬ IsTrailing m) :
    joinSurrogate n s escaped = n :: s := by
  rcases s with _ | ⟨m, s⟩
  · rfl
  · refine if_neg ?_
    rintro ⟨he, hlow, hhigh, hm⟩
    exact h ⟨hlow, hhigh⟩ he m s rfl hm

theorem joinSurrogate_pair (hn : IsLeading n) (hm : IsTrailing m) : joinSurrogate n (m :: s) true
    = (0x10000 + (n - 0xd800) * 1024 + (m - 0xdc00)) :: s :=
  if_pos ⟨rfl, hn.1, hn.2, hm⟩

/-- An escape at the front of a string is the first half of a pair, or stands for itself. -/
theorem SpellsString.of_escape (h : SpellsString s ('\\' :: 'u' :: cs)) :
    ∃ n u ds, SpellsUnit n u ∧ cs = u ++ ds ∧
      ((∃ s', s = n :: s' ∧ SpellsString s' ds)
        ∨ IsLeading n ∧ ∃ m s', 0x10000 ≤ m ∧ s = m :: s') := by
  generalize hds : '\\' :: 'u' :: cs = ds at h
  cases h with
  | nil => cases hds
  | plain hquote hescape hcontrol h => exact absurd (List.cons.inj hds).1.symm hescape
  | short he h =>
    simp only [List.cons.injEq, true_and] at hds
    obtain ⟨rfl, -⟩ := hds
    cases he
  | unit hu hn h =>
    simp only [List.cons.injEq, true_and] at hds
    exact ⟨_, _, _, hu, hds, .inl ⟨_, rfl, h⟩⟩
  | pair hu hv hn hm h =>
    simp only [List.cons.injEq, true_and] at hds
    exact ⟨_, _, _, hu, hds, .inr ⟨hn, _, _, by omega, rfl⟩⟩

/-- An escape at the front of a string that begins with the second half of a pair spells it. -/
theorem SpellsString.of_trailing (h : SpellsString (m :: s) ('\\' :: 'u' :: cs))
    (hm : IsTrailing m) : ∃ u ds, SpellsUnit m u ∧ cs = u ++ ds ∧ SpellsString s ds := by
  obtain ⟨n, u, ds, hu, hcs, ⟨s', hs, h⟩ | ⟨-, m', s', hbig, hs⟩⟩ := h.of_escape
  · obtain ⟨rfl, rfl⟩ := List.cons.inj hs
    exact ⟨u, ds, hu, hcs, h⟩
  · obtain ⟨rfl, rfl⟩ := List.cons.inj hs
    exact absurd hm.2 (by omega)

/-- What follows a string does not make an escape of its end. -/
theorem take_two_eq_iff :
    (cs ++ '"' :: rest).take 2 = ['\\', 'u'] ↔ ∃ ds, cs = '\\' :: 'u' :: ds := by
  rcases cs with _ | ⟨c, _ | ⟨d, cs⟩⟩ <;> simp

/-! The reader of strings, a step at a time. -/

theorem stringBody?_plain (hquote : c ≠ '"') (hescape : c ≠ '\\') (hcontrol : 0x20 ≤ c.toNat) :
    stringBody? (fuel + 1) (c :: cs)
      = (stringBody? fuel cs).map fun (tail, rest) => (c.toNat :: tail, rest) := by
  rw [stringBody?.eq_def]
  simp only [if_neg hquote, if_neg hescape, if_neg (Nat.not_lt.2 hcontrol)]
  cases stringBody? fuel cs <;> rfl

theorem stringBody?_short (he : shortEscape? e = some n) :
    stringBody? (fuel + 1) ('\\' :: e :: cs)
      = (stringBody? fuel cs).map fun (tail, rest) => (n :: tail, rest) := by
  have hu : e ≠ 'u' := by
    rintro rfl
    cases he
  rw [stringBody?, if_neg (by decide), if_pos rfl]
  · simp only [he]
    cases stringBody? fuel cs <;> rfl
  · exact hu

theorem stringBody?_unit (hu : SpellsUnit n u) :
    stringBody? (fuel + 1) ('\\' :: 'u' :: (u ++ cs))
      = (stringBody? fuel cs).map fun (tail, rest) =>
        (joinSurrogate n tail (cs.take 2 = ['\\', 'u']), rest) := by
  have hn : hex4? (u ++ cs) = some (n, cs) := hex4?_eq_some_iff.2 ⟨u, hu, rfl⟩
  rw [stringBody?, if_neg (by decide), if_pos rfl]
  simp only [hn, Option.bind_eq_bind, Option.bind_some]
  cases stringBody? fuel cs <;> rfl

theorem SpellsString.stringBody?_eq (h : SpellsString s cs) (rest : List Char) :
    ∀ {fuel : Nat}, cs.length < fuel →
      stringBody? fuel (cs ++ '"' :: rest) = some (s, rest) := by
  induction h with
  | nil =>
    rintro (_ | fuel) hfuel
    · omega
    · rfl
  | plain hquote hescape hcontrol h ih =>
    rintro (_ | fuel) hfuel
    · omega
    rw [List.cons_append, stringBody?_plain hquote hescape hcontrol,
      ih (Nat.lt_of_succ_lt_succ hfuel)]
    rfl
  | short he h ih =>
    rintro (_ | fuel) hfuel
    · omega
    simp only [List.length_cons] at hfuel
    rw [List.cons_append, List.cons_append, stringBody?_short he, ih (by omega)]
    rfl
  | @unit n s u cs hu hn h ih =>
    rintro (_ | fuel) hfuel
    · omega
    simp only [List.length_cons, List.length_append] at hfuel
    rw [List.cons_append, List.cons_append, List.append_assoc, stringBody?_unit hu,
      ih (by omega)]
    refine congrArg (fun s => some (s, rest)) (joinSurrogate_eq_cons fun hlead he m s' hs hm => ?_)
    obtain ⟨ds, rfl⟩ := take_two_eq_iff.1 (of_decide_eq_true he)
    obtain ⟨v, ds', hv, rfl, -⟩ := (hs ▸ h).of_trailing hm
    exact hn hlead m v ds' hv hm rfl
  | @pair n m s u v cs hu hv hn hm h ih =>
    -- the second half is read with what follows it and stays alone there, until the first joins it
    rintro (_ | _ | fuel) hfuel
    · omega
    · simp at hfuel
    simp only [List.length_cons, List.length_append] at hfuel
    have htail : joinSurrogate m s ((cs ++ '"' :: rest).take 2 = ['\\', 'u']) = m :: s :=
      joinSurrogate_eq_cons fun hlead => absurd hlead.2 (Nat.not_lt.2 hm.1)
    simp only [List.cons_append, List.append_assoc]
    rw [stringBody?_unit hu, stringBody?_unit hv, ih (by omega)]
    simp only [Option.map_some, htail]
    exact congrArg (fun s => some (s, rest)) (joinSurrogate_pair hn hm)

/-- An escape in front of a string spells with it what the reader makes of them. -/
theorem SpellsString.join (h : SpellsString s cs) (hu : SpellsUnit n u) :
    SpellsString (joinSurrogate n s ((cs ++ '"' :: rest).take 2 = ['\\', 'u']))
      ('\\' :: 'u' :: (u ++ cs)) := by
  by_cases hpair : IsLeading n ∧ (∃ ds, cs = '\\' :: 'u' :: ds) ∧ ∃ m s', s = m :: s' ∧ IsTrailing m
  · obtain ⟨hn, ⟨ds, rfl⟩, m, s', rfl, hm⟩ := hpair
    obtain ⟨v, ds', hv, rfl, htail⟩ := h.of_trailing hm
    rw [decide_eq_true (take_two_eq_iff.2 ⟨_, rfl⟩), joinSurrogate_pair hn hm]
    exact .pair hu hv hn hm htail
  · rw [joinSurrogate_eq_cons]
    · refine .unit hu (fun hn m v ds hv hm hcs => ?_) h
      subst hcs
      obtain ⟨m', v', ds', hv', heq, ⟨s', rfl, -⟩ | ⟨hn', -⟩⟩ := h.of_escape
      · obtain ⟨rfl, -⟩ := hv.eq_of_append_eq hv' heq
        exact hpair ⟨hn, ⟨_, rfl⟩, _, _, rfl, hm⟩
      · obtain ⟨rfl, -⟩ := hv.eq_of_append_eq hv' heq
        exact absurd hn'.2 (Nat.not_lt.2 hm.1)
    · intro hn he m s' hs hm
      exact hpair ⟨hn, take_two_eq_iff.1 (of_decide_eq_true he), m, s', hs, hm⟩

/-- What is read as a string spells it. -/
theorem exists_spellsString : ∀ {fuel : Nat} {cs : List Char} {s : JsonString} {rest : List Char},
    stringBody? fuel cs = some (s, rest) → ∃ ds, cs = ds ++ '"' :: rest ∧ SpellsString s ds
  | 0, _, _, _, h => by cases h
  | _ + 1, [], _, _, h => by cases h
  | fuel + 1, c :: cs, s, rest, h => by
    by_cases hquote : c = '"'
    · subst hquote
      obtain ⟨rfl, rfl⟩ : _ ∧ _ := Prod.mk.inj (Option.some.inj h)
      exact ⟨[], rfl, .nil⟩
    by_cases hescape : c = '\\'
    · subst hescape
      rcases cs with _ | ⟨e, cs⟩
      · cases h
      by_cases hu : e = 'u'
      · subst hu
        rw [stringBody?, if_neg (by decide), if_pos rfl] at h
        obtain ⟨⟨n, cs'⟩, hn, hbody⟩ := Option.bind_eq_some_iff.1 h
        obtain ⟨⟨t, rest'⟩, ht, hend⟩ := Option.bind_eq_some_iff.1 hbody
        obtain ⟨u, hu, rfl⟩ := hex4?_eq_some_iff.1 hn
        obtain ⟨rfl, rfl⟩ : _ ∧ _ := Prod.mk.inj (Option.some.inj hend)
        obtain ⟨ds, rfl, hs⟩ := exists_spellsString ht
        exact ⟨'\\' :: 'u' :: (u ++ ds), by simp, hs.join hu⟩
      · rw [stringBody?, if_neg (by decide), if_pos rfl] at h
        · obtain ⟨n, hn, hbody⟩ := Option.bind_eq_some_iff.1 h
          obtain ⟨⟨t, rest'⟩, ht, hend⟩ := Option.bind_eq_some_iff.1 hbody
          obtain ⟨rfl, rfl⟩ : _ ∧ _ := Prod.mk.inj (Option.some.inj hend)
          obtain ⟨ds, rfl, hs⟩ := exists_spellsString ht
          exact ⟨'\\' :: e :: ds, rfl, .short hn hs⟩
        · exact hu
    · by_cases hcontrol : c.toNat < 0x20
      · rw [stringBody?.eq_def] at h
        simp only [if_neg hquote, if_neg hescape, if_pos hcontrol] at h
        cases h
      · rw [stringBody?_plain hquote hescape (Nat.not_lt.1 hcontrol)] at h
        obtain ⟨⟨t, rest'⟩, ht, hend⟩ := Option.map_eq_some_iff.1 h
        obtain ⟨rfl, rfl⟩ : _ ∧ _ := Prod.mk.inj hend
        obtain ⟨ds, rfl, hs⟩ := exists_spellsString ht
        exact ⟨c :: ds, rfl, .plain hquote hescape (Nat.not_lt.1 hcontrol) hs⟩

/-- Whether a character stands for itself in a string. -/
def isPlain (c : Char) : Bool :=
  c ≠ '"' && c ≠ '\\' && 0x20 ≤ c.toNat

theorem spellsString_of_plain : ∀ {cs : List Char}, cs.all isPlain = true →
    SpellsString (cs.map Char.toNat) cs
  | [], _ => .nil
  | c :: cs, h => by
    simp only [List.all_cons, isPlain, Bool.and_eq_true, decide_eq_true_eq] at h
    obtain ⟨⟨⟨hquote, hescape⟩, hcontrol⟩, hcs⟩ := h
    exact .plain hquote hescape hcontrol (spellsString_of_plain hcs)

theorem spellsString_ofText (name : String) (h : name.toList.all isPlain = true) :
    SpellsString (.ofText name) name.toList :=
  spellsString_of_plain h

end Strings

/-! ### Numbers -/

/-- Whether a text is of digits, at least one. -/
def IsDigits (cs : List Char) : Prop :=
  cs ≠ [] ∧ ∀ c ∈ cs, c.isDigit = true

/-- The text of a fraction, or none. -/
inductive SpellsFraction : Option (List Char) → List Char → Prop
  | absent : SpellsFraction none []
  | given {ds : List Char} (h : IsDigits ds) : SpellsFraction (some ds) ('.' :: ds)

/-- The text of an exponent with its mark and sign, or none. -/
inductive SpellsExponent : Option (Bool × List Char) → List Char → Prop
  | absent : SpellsExponent none []
  | bare {e : Char} {ds : List Char} (he : e = 'e' ∨ e = 'E') (h : IsDigits ds) :
      SpellsExponent (some (false, ds)) (e :: ds)
  | plus {e : Char} {ds : List Char} (he : e = 'e' ∨ e = 'E') (h : IsDigits ds) :
      SpellsExponent (some (false, ds)) (e :: '+' :: ds)
  | minus {e : Char} {ds : List Char} (he : e = 'e' ∨ e = 'E') (h : IsDigits ds) :
      SpellsExponent (some (true, ds)) (e :: '-' :: ds)

/-- The text of a number.  No other digit follows a leading zero. -/
inductive SpellsNumber : JsonNumber → List Char → Prop
  | mk {n : JsonNumber} {f e : List Char} (hdigits : IsDigits n.digits)
      (hzero : n.digits.head? = some '0' → n.digits.length = 1)
      (hf : SpellsFraction n.fraction f) (he : SpellsExponent n.exponent e) :
      SpellsNumber n ((if n.negative then ['-'] else []) ++ n.digits ++ f ++ e)

/-- Whether what follows a number does not continue it. -/
def EndsNumber (rest : List Char) : Prop :=
  ∀ c ∈ rest.head?, c.isDigit = false ∧ c ≠ '.' ∧ c ≠ 'e' ∧ c ≠ 'E'

section Numbers

variable {cs ds rest used : List Char} {c : Char} {f : Option (List Char)}
  {e : Option (Bool × List Char)} {n : JsonNumber}

theorem endsNumber_cons (hc : c.isDigit = false ∧ c ≠ '.' ∧ c ≠ 'e' ∧ c ≠ 'E') (cs : List Char) :
    EndsNumber (c :: cs) := by
  rintro _ ⟨⟩
  exact hc

theorem IsDigits.digits?_append (h : IsDigits ds) (hrest : ∀ c ∈ rest.head?, c.isDigit = false) :
    digits? (ds ++ rest) = some (ds, rest) := by
  have htake : (ds ++ rest).takeWhile Char.isDigit = ds
      ∧ (ds ++ rest).dropWhile Char.isDigit = rest := by
    rw [List.takeWhile_append_of_pos h.2, List.dropWhile_append_of_pos h.2]
    rcases rest with _ | ⟨c, rest⟩
    · simp
    · have hc : ¬ c.isDigit = true := by simp [hrest c rfl]
      rw [List.takeWhile_cons_of_neg hc, List.dropWhile_cons_of_neg hc]
      simp
  obtain ⟨d, ds, rfl⟩ := List.exists_cons_of_ne_nil h.1
  rw [digits?, htake.1, htake.2]

theorem isDigits_of_digits? (h : digits? cs = some (ds, rest)) : IsDigits ds ∧ cs = ds ++ rest := by
  rw [digits?] at h
  split at h
  · cases h
  · rename_i d ds' htake
    obtain ⟨rfl, rfl⟩ : _ ∧ _ := Prod.mk.inj (Option.some.inj h)
    refine ⟨⟨List.cons_ne_nil d ds', fun c hc => List.mem_takeWhile_imp (htake ▸ hc)⟩, ?_⟩
    rw [← htake, List.takeWhile_append_dropWhile]

theorem SpellsFraction.fraction?_append (h : SpellsFraction f used)
    (hrest : ∀ c ∈ rest.head?, c.isDigit = false ∧ c ≠ '.') :
    fraction? (used ++ rest) = some (f, rest) := by
  cases h with
  | absent =>
    rw [List.nil_append, fraction?]
    rintro cs rfl
    exact (hrest '.' rfl).2 rfl
  | given h =>
    rw [List.cons_append, fraction?, h.digits?_append fun c hc => (hrest c hc).1]
    rfl

theorem exists_spellsFraction (h : fraction? cs = some (f, rest)) :
    ∃ used, cs = used ++ rest ∧ SpellsFraction f used := by
  unfold fraction? at h
  split at h
  · obtain ⟨⟨ds, rest'⟩, hds, hend⟩ := Option.map_eq_some_iff.1 h
    obtain ⟨rfl, rfl⟩ : _ ∧ _ := Prod.mk.inj hend
    obtain ⟨hdigits, rfl⟩ := isDigits_of_digits? hds
    exact ⟨'.' :: ds, rfl, .given hdigits⟩
  · obtain ⟨rfl, rfl⟩ : _ ∧ _ := Prod.mk.inj (Option.some.inj h)
    exact ⟨[], rfl, .absent⟩

theorem SpellsExponent.exponent?_append (h : SpellsExponent e used) (hrest : EndsNumber rest) :
    exponent? (used ++ rest) = some (e, rest) := by
  have hdigit : ∀ c ∈ rest.head?, c.isDigit = false := fun c hc => (hrest c hc).1
  cases h with
  | absent =>
    rcases rest with _ | ⟨c, rest⟩
    · rfl
    · obtain ⟨-, -, he, hE⟩ := hrest c rfl
      rw [List.nil_append, exponent?.eq_def]
      exact if_neg (not_or.2 ⟨he, hE⟩)
  | @bare m ds hm h =>
    obtain ⟨d, ds, rfl⟩ := List.exists_cons_of_ne_nil h.1
    have hd : d ≠ '-' ∧ d ≠ '+' := by
      constructor <;> rintro rfl <;> exact absurd (h.2 _ List.mem_cons_self) (by decide)
    have hdigits := h.digits?_append hdigit
    simp only [List.cons_append] at hdigits ⊢
    rw [exponent?, if_pos hm, hdigits]
    · rfl
    · rintro _ heq
      exact hd.1 (List.cons.inj heq).1
    · rintro _ heq
      exact hd.2 (List.cons.inj heq).1
  | plus hm h =>
    simp only [List.cons_append]
    rw [exponent?, if_pos hm, h.digits?_append hdigit]
    rfl
  | minus hm h =>
    simp only [List.cons_append]
    rw [exponent?, if_pos hm, h.digits?_append hdigit]
    rfl

theorem exists_spellsExponent (h : exponent? cs = some (e, rest)) :
    ∃ used, cs = used ++ rest ∧ SpellsExponent e used := by
  unfold exponent? at h
  split at h
  · obtain ⟨rfl, rfl⟩ : _ ∧ _ := Prod.mk.inj (Option.some.inj h)
    exact ⟨[], rfl, .absent⟩
  rename_i m cs
  by_cases hm : m = 'e' ∨ m = 'E'
  · rw [if_pos hm] at h
    split at h <;>
      (obtain ⟨⟨ds, rest'⟩, hds, hend⟩ := Option.map_eq_some_iff.1 h
       obtain ⟨rfl, rfl⟩ : _ ∧ _ := Prod.mk.inj hend
       obtain ⟨hdigits, rfl⟩ := isDigits_of_digits? hds)
    · exact ⟨m :: '-' :: ds, rfl, .minus hm hdigits⟩
    · exact ⟨m :: '+' :: ds, rfl, .plus hm hdigits⟩
    · exact ⟨m :: ds, rfl, .bare hm hdigits⟩
  · rw [if_neg hm] at h
    obtain ⟨rfl, rfl⟩ : _ ∧ _ := Prod.mk.inj (Option.some.inj h)
    exact ⟨[], rfl, .absent⟩

theorem SpellsFraction.head?_append (h : SpellsFraction f used)
    (hrest : ∀ c ∈ rest.head?, c.isDigit = false) :
    ∀ c ∈ (used ++ rest).head?, c.isDigit = false := by
  cases h with
  | absent => exact hrest
  | given h =>
    rintro _ ⟨⟩
    rfl

theorem SpellsExponent.head?_append (h : SpellsExponent e used) (hrest : EndsNumber rest) :
    ∀ c ∈ (used ++ rest).head?, c.isDigit = false ∧ c ≠ '.' := by
  have hmark : ∀ {c : Char}, c = 'e' ∨ c = 'E' → c.isDigit = false ∧ c ≠ '.' := by
    rintro _ (rfl | rfl) <;> decide
  cases h with
  | absent => exact fun c hc => ⟨(hrest c hc).1, (hrest c hc).2.1⟩
  | bare he h | plus he h | minus he h =>
    rintro _ ⟨⟩
    exact hmark he

/-- A number after its sign. -/
def unsigned? (negative : Bool) (cs : List Char) : Option (JsonNumber × List Char) := do
  let (digits, cs) ← digits? cs
  if digits.head? = some '0' ∧ digits.length ≠ 1 then none
  else
    let (fraction, cs) ← fraction? cs
    let (exponent, cs) ← exponent? cs
    return (⟨negative, digits, fraction, exponent⟩, cs)

theorem number?_minus (cs : List Char) : number? ('-' :: cs) = unsigned? true cs :=
  rfl

theorem number?_eq_unsigned? (hcs : ∀ ds, cs ≠ '-' :: ds) : number? cs = unsigned? false cs := by
  rw [number?]
  · rfl
  · exact hcs

theorem unsigned?_append {negative : Bool} {ds cs : List Char} (hdigits : IsDigits ds)
    (hzero : ds.head? = some '0' → ds.length = 1) (hf : SpellsFraction f cs)
    (he : SpellsExponent e used) (hrest : EndsNumber rest) :
    unsigned? negative (ds ++ (cs ++ (used ++ rest))) = some (⟨negative, ds, f, e⟩, rest) := by
  have hexponent := he.head?_append hrest
  have hds : digits? (ds ++ (cs ++ (used ++ rest))) = some (ds, cs ++ (used ++ rest)) :=
    hdigits.digits?_append (hf.head?_append fun c hc => (hexponent c hc).1)
  have hzero' : ¬ (ds.head? = some '0' ∧ ds.length ≠ 1) := fun h => h.2 (hzero h.1)
  simp [unsigned?, hds, hzero', hf.fraction?_append hexponent, he.exponent?_append hrest]

theorem SpellsNumber.number?_append (h : SpellsNumber n used) (hrest : EndsNumber rest) :
    number? (used ++ rest) = some (n, rest) := by
  obtain ⟨hdigits, hzero, hf, he⟩ := h
  obtain ⟨negative, ds, f, e⟩ := n
  simp only [List.append_assoc]
  cases negative with
  | true => exact (number?_minus _).trans (unsigned?_append hdigits hzero hf he hrest)
  | false =>
    refine (number?_eq_unsigned? fun cs hcs => ?_).trans
      (unsigned?_append hdigits hzero hf he hrest)
    obtain ⟨d, ds, rfl⟩ := List.exists_cons_of_ne_nil hdigits.1
    obtain ⟨rfl, -⟩ := List.cons.inj hcs
    exact absurd (hdigits.2 _ List.mem_cons_self) (by decide)

theorem SpellsNumber.exists_cons (h : SpellsNumber n used) :
    ∃ c cs, (c = '-' ∨ c.isDigit = true) ∧ used = c :: cs := by
  obtain ⟨hdigits, -, -, -⟩ := h
  obtain ⟨negative, ds, f, e⟩ := n
  cases negative with
  | true => exact ⟨'-', _, .inl rfl, rfl⟩
  | false =>
    obtain ⟨d, ds, rfl⟩ := List.exists_cons_of_ne_nil hdigits.1
    exact ⟨d, _, .inr (hdigits.2 d List.mem_cons_self), rfl⟩

theorem exists_of_unsigned? {negative : Bool} (h : unsigned? negative cs = some (n, rest)) :
    ∃ used, cs = used ++ rest ∧ SpellsNumber n ((if negative then ['-'] else []) ++ used) := by
  obtain ⟨⟨ds, cs'⟩, hds, h⟩ := Option.bind_eq_some_iff.1 h
  by_cases hzero : ds.head? = some '0' ∧ ds.length ≠ 1
  · simp only [if_pos hzero] at h
    cases h
  simp only [if_neg hzero] at h
  obtain ⟨⟨f, cs''⟩, hf, h⟩ := Option.bind_eq_some_iff.1 h
  obtain ⟨⟨e, rest'⟩, he, h⟩ := Option.bind_eq_some_iff.1 h
  obtain ⟨rfl, rfl⟩ : _ ∧ _ := Prod.mk.inj (Option.some.inj h)
  obtain ⟨hdigits, rfl⟩ := isDigits_of_digits? hds
  obtain ⟨used, rfl, hused⟩ := exists_spellsFraction hf
  obtain ⟨used', rfl, hused'⟩ := exists_spellsExponent he
  refine ⟨ds ++ used ++ used', by simp, ?_⟩
  rw [← List.append_assoc, ← List.append_assoc]
  exact .mk hdigits (fun h => by_contra fun hlength => hzero ⟨h, hlength⟩) hused hused'

theorem exists_spellsNumber (h : number? cs = some (n, rest)) :
    ∃ used, cs = used ++ rest ∧ SpellsNumber n used := by
  by_cases hcs : ∃ ds, cs = '-' :: ds
  · obtain ⟨ds, rfl⟩ := hcs
    obtain ⟨used, rfl, hused⟩ := exists_of_unsigned? ((number?_minus ds).symm.trans h)
    exact ⟨'-' :: used, rfl, hused⟩
  · exact exists_of_unsigned? ((number?_eq_unsigned? fun ds heq => hcs ⟨ds, heq⟩).symm.trans h)

end Numbers

end SignerTrust.Json
