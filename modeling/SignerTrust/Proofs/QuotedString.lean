import Mathlib.Tactic.Common
import SignerTrust.Toml.Lexical
import SignerTrust.Toml.Writer

/-!
# Strings come back

Every string is read as it was written, whichever of the four ways of writing was chosen and
whatever follows that is no quote (`string?_writeChars`).
-/

namespace SignerTrust.Toml

theorem isPrintable_of {c : Char} (h : needsEscape c = false) (hn : c ≠ '\n') :
    isPrintable c = true := by
  by_cases ht : c = '\t'
  · simp [isPrintable, ht]
  · simp [needsEscape, ht, hn] at h
    simp [isPrintable, h]

theorem hexValue?_upperDigit : ∀ n < 16, Bytes.hexValue? (upperDigit n) = some n := by
  decide

/-- A numbered character is read by its number. -/
theorem escape?_numbered {c : Char} (h : needsEscape c = true) :
    ∃ e, numbered c = '\\' :: 'u' :: e ∧ ∀ cs, escape? ('u' :: e ++ cs) = some (c, cs) := by
  have hc : c.toNat < 128 := by
    simp [needsEscape] at h
    omega
  refine ⟨_, rfl, fun cs => ?_⟩
  have hd (n : Nat) : Bytes.hexValue? (upperDigit (n % 16)) = some (n % 16) :=
    hexValue?_upperDigit _ (Nat.mod_lt n (by decide))
  have hn : ((c.toNat / 4096 % 16 * 16 + c.toNat / 256 % 16) * 16 + c.toNat / 16 % 16) * 16
      + c.toNat % 16 = c.toNat := by omega
  have hv : Nat.isValidChar c.toNat := c.valid
  simp [escape?, codePoint?, hd, hn, hv]

/-- Between double quotes a character stands for itself, or an escape of it follows a backslash. -/
theorem escapedChar_cases (lines : Bool) (c : Char) :
    escapedChar lines c = [c] ∧ c ≠ '\\' ∧ (isPrintable c = true ∨ c = '\n' ∧ lines = true)
      ∨ ∃ x e, escapedChar lines c = '\\' :: x :: e ∧ isBlank x = false ∧ x ≠ '\n' ∧ x ≠ '\r'
        ∧ ∀ cs, escape? (x :: e ++ cs) = some (c, cs) := by
  unfold escapedChar
  split_ifs with hb ht hn hl hf hr hs he
  all_goals try subst c
  · exact .inr ⟨'b', [], rfl, rfl, by decide, by decide, fun _ => rfl⟩
  · exact .inr ⟨'t', [], rfl, rfl, by decide, by decide, fun _ => rfl⟩
  · exact .inl ⟨rfl, by decide, .inr ⟨rfl, hl⟩⟩
  · exact .inr ⟨'n', [], rfl, rfl, by decide, by decide, fun _ => rfl⟩
  · exact .inr ⟨'f', [], rfl, rfl, by decide, by decide, fun _ => rfl⟩
  · exact .inr ⟨'r', [], rfl, rfl, by decide, by decide, fun _ => rfl⟩
  · exact .inr ⟨'\\', [], rfl, rfl, by decide, by decide, fun _ => rfl⟩
  · obtain ⟨e, he, h⟩ := escape?_numbered he
    exact .inr ⟨'u', e, he, rfl, by decide, by decide, h⟩
  · exact .inl ⟨rfl, hs, .inl (isPrintable_of (Bool.eq_false_iff.2 he) hn)⟩

section Escaped

variable {lines : Bool} {most quotes : Nat} {c : Char} (cs : List Char)

theorem escaped_of_ne (h : c ≠ '"') :
    escaped lines most quotes (c :: cs) = escapedChar lines c ++ escaped lines most 0 cs := by
  simp only [escaped, if_neg h]

theorem escaped_of_lt (h : most < quotes + 1) :
    escaped lines most quotes ('"' :: cs) = '\\' :: '"' :: escaped lines most 0 cs := by
  simp only [escaped, if_true, if_pos h]

theorem escaped_of_le (h : quotes + 1 ≤ most) :
    escaped lines most quotes ('"' :: cs) = '"' :: escaped lines most (quotes + 1) cs := by
  simp only [escaped, if_true, if_neg (Nat.not_lt.2 h)]

end Escaped

/-- What stands between double quotes on one line comes back from its escaped form. -/
theorem quoted?_escaped (rest : List Char) : ∀ (cs : List Char) {fuel : Nat},
    (escaped false 0 0 cs).length < fuel →
    quoted? fuel (escaped false 0 0 cs ++ '"' :: rest) = some (cs, rest)
  | _, 0, h => absurd h (Nat.not_lt_zero _)
  | [], fuel + 1, _ => by simp [escaped, quoted?]
  | c :: cs, fuel + 1, h => by
    by_cases hq : c = '"'
    · subst hq
      rw [escaped_of_lt cs (Nat.zero_lt_succ 0)] at h ⊢
      simp only [List.length_cons] at h
      have ih := quoted?_escaped rest cs (show _ < fuel by omega)
      simp [quoted?, escape?, ih]
    · rw [escaped_of_ne cs hq] at h ⊢
      rcases escapedChar_cases false c with ⟨he, hs, hp⟩ | ⟨x, e, he, -, -, -, hx⟩
      · have hp : isPrintable c = true := by simpa using hp
        simp only [he, List.length_append, List.length_singleton] at h
        have ih := quoted?_escaped rest cs (show _ < fuel by omega)
        simp [he, quoted?, hq, hs, hp, ih]
      · simp only [he, List.length_append, List.length_cons] at h
        have ih := quoted?_escaped rest cs (show _ < fuel by omega)
        have hx := hx (escaped false 0 0 cs ++ '"' :: rest)
        simp only [List.cons_append] at hx
        simp [he, quoted?, hx, ih]

/-- What stands between single quotes on one line comes back as it is. -/
theorem literal?_append (rest : List Char) {cs : List Char}
    (h : ∀ c ∈ cs, isPrintable c = true ∧ c ≠ '\'') :
    literal? (cs ++ '\'' :: rest) = some (cs, rest) := by
  have hb : (cs ++ '\'' :: rest).takeWhile (fun c => isPrintable c && c ≠ '\'') = cs := by
    rw [List.takeWhile_append_of_pos fun c hc => by simp [h c hc]]
    simp
  simp only [literal?, hb, List.drop_left]

theorem newline?_eq_none {c : Char} (hn : c ≠ '\n') (hr : c ≠ '\r') (cs : List Char) :
    newline? (c :: cs) = none := by
  unfold newline?
  split <;> simp_all

theorem newline?_of_isPrintable {c : Char} (h : isPrintable c = true) (cs : List Char) :
    newline? (c :: cs) = none := by
  refine newline?_eq_none ?_ ?_ cs <;>
  · rintro rfl
    revert h
    decide

section Lines

variable {q x : Char} {n fuel : Nat} {rest : List Char}

theorem closing?_replicate (hr : ∀ c ∈ rest.head?, c ≠ q) :
    closing? q (List.replicate n q ++ rest) = if n < 3 then some (List.replicate n q, none)
      else if n ≤ 5 then some (List.replicate (n - 3) q, some rest) else none := by
  have ht : rest.takeWhile (· = q) = [] := by
    cases rest with
    | nil => rfl
    | cons c rest => simp [hr c rfl]
  have hc : (List.replicate n q ++ rest).takeWhile (· = q) = List.replicate n q := by
    rw [List.takeWhile_append_of_pos fun c hc => by simp [List.eq_of_mem_replicate hc], ht,
      List.append_nil]
  simp only [closing?, hc, List.length_replicate]
  rw [List.drop_left' List.length_replicate]

theorem quotedLines?_end (fuel : Nat) (hn : n ≤ 2) (hr : ∀ c ∈ rest.head?, c ≠ '"') :
    quotedLines? (fuel + 1) (List.replicate (n + 3) '"' ++ rest)
      = some (List.replicate n '"', rest) := by
  have hc := closing?_replicate (n := n + 3) hr
  rw [if_neg (by omega), if_pos (by omega)] at hc
  rw [List.replicate_succ, List.cons_append] at hc ⊢
  simp [quotedLines?, hc]

theorem quotedLines?_quotes (hn : n < 2) (hx : x ≠ '"') :
    quotedLines? (fuel + 1) (List.replicate (n + 1) '"' ++ x :: rest)
      = (quotedLines? fuel (x :: rest)).map fun r => (List.replicate (n + 1) '"' ++ r.1, r.2) := by
  have hh : ∀ c ∈ (x :: rest).head?, c ≠ '"' := by simpa using hx
  have hc := closing?_replicate (n := n + 1) hh
  rw [if_pos (by omega)] at hc
  rw [List.replicate_succ, List.cons_append] at hc ⊢
  simp [quotedLines?, hc]

/-- One character of a string over several lines comes back. -/
theorem quotedLines?_char {c : Char} (hc : c ≠ '"') (cs : List Char) :
    quotedLines? (fuel + 1) (escapedChar true c ++ cs)
      = (quotedLines? fuel cs).map fun r => (c :: r.1, r.2) := by
  rcases escapedChar_cases true c with ⟨he, hs, hp⟩ | ⟨x, e, he, hb, hn, hr, hx⟩
  · rw [he, List.singleton_append, quotedLines?, if_neg hc, if_neg hs]
    rcases hp with hp | ⟨rfl, -⟩
    · simp only [newline?_of_isPrintable hp, if_pos hp]
    · rfl
  · have hk : continuation? (x :: e ++ cs) = none := by
      simp [continuation?, skipBlanks, hb, newline?_eq_none hn hr]
    rw [he, List.cons_append, quotedLines?, if_neg (by decide), if_pos rfl, hk]
    simp only [hx, Option.bind_eq_bind, Option.bind_some]
    cases quotedLines? fuel cs <;> rfl

theorem quotedLines?_escapedQuote (cs : List Char) :
    quotedLines? (fuel + 1) (['\\', '"'] ++ cs)
      = (quotedLines? fuel cs).map fun r => ('"' :: r.1, r.2) := by
  have hk : continuation? ('"' :: cs) = none := by
    simp [continuation?, skipBlanks, isBlank, newline?_eq_none (c := '"') (by decide) (by decide)]
  rw [List.cons_append, List.singleton_append, quotedLines?, if_neg (by decide), if_pos rfl, hk]
  simp only [escape?, Option.bind_eq_bind, Option.bind_some]
  cases quotedLines? fuel cs <;> rfl

/-- What is no quote, but is read as one character, comes after at most two quotes. -/
theorem quotedLines?_unit {c x : Char} {e cs : List Char} {r : List Char × List Char} (hx : x ≠ '"')
    (hs : ∀ fuel, quotedLines? (fuel + 1) (x :: e ++ cs)
      = (quotedLines? fuel cs).map fun r => (c :: r.1, r.2))
    (hn : n ≤ 2) (hf : n < fuel) (ih : ∀ f, fuel ≤ f + (n + 1) → quotedLines? f cs = some r) :
    quotedLines? fuel (List.replicate n '"' ++ (x :: e ++ cs))
      = some (List.replicate n '"' ++ c :: r.1, r.2) := by
  rcases n with _ | n
  · obtain ⟨f, rfl⟩ : ∃ f, fuel = f + 1 := ⟨fuel - 1, by omega⟩
    rw [List.replicate_zero, List.nil_append, hs, ih f (by omega)]
    rfl
  · obtain ⟨f, rfl⟩ : ∃ f, fuel = f + 2 := ⟨fuel - 2, by omega⟩
    rw [List.cons_append, quotedLines?_quotes (by omega) hx, ← List.cons_append, hs,
      ih f (by omega)]
    rfl

theorem exists_escapedChar_eq (lines : Bool) {c : Char} (hc : c ≠ '"') :
    ∃ x e, escapedChar lines c = x :: e ∧ x ≠ '"' := by
  rcases escapedChar_cases lines c with ⟨he, -⟩ | ⟨x, e, he, -⟩
  · exact ⟨c, [], he, hc⟩
  · exact ⟨'\\', x :: e, he, by decide⟩

/-- What stands between triple double quotes comes back from its escaped form.  Up to two quotes may
precede it, which are read with the quotes that it starts with. -/
theorem quotedLines?_escaped (hr : ∀ c ∈ rest.head?, c ≠ '"') : ∀ (cs : List Char) {n : Nat}
    (fuel : Nat), n ≤ 2 → n + (escaped true 2 n cs).length < fuel →
    quotedLines? fuel
        (List.replicate n '"' ++ (escaped true 2 n cs ++ (List.replicate 3 '"' ++ rest)))
      = some (List.replicate n '"' ++ cs, rest)
  | _, _, 0, _, h => absurd h (Nat.not_lt_zero _)
  | [], n, fuel + 1, hn, _ => by
    have he := quotedLines?_end fuel hn hr
    rw [← List.replicate_append_replicate] at he
    simpa [escaped] using he
  | c :: cs, n, fuel + 1, hn, h => by
    by_cases hq : c = '"'
    · subst hq
      by_cases hn2 : n + 1 ≤ 2
      · -- The quote is read together with those before it, at the next other character.
        rw [escaped_of_le cs hn2] at h ⊢
        simp only [List.length_cons] at h
        have ih := quotedLines?_escaped hr cs (n := n + 1) (fuel + 1) hn2 (by omega)
        simpa [List.replicate_succ', List.append_assoc] using ih
      · -- A third quote in a row would end the string, so it is escaped.
        rw [escaped_of_lt cs (by omega)] at h ⊢
        simp only [List.length_cons] at h
        refine quotedLines?_unit (x := '\\') (e := ['"']) (by decide)
          (fun _ => quotedLines?_escapedQuote _) hn (by omega) (r := (cs, rest)) fun f hf => ?_
        exact quotedLines?_escaped hr cs (n := 0) f (by omega) (by omega)
    · obtain ⟨x, e, he, hx⟩ := exists_escapedChar_eq true hq
      rw [escaped_of_ne cs hq, he] at h ⊢
      simp only [List.length_append, List.length_cons] at h
      rw [List.append_assoc]
      refine quotedLines?_unit hx (fun f => ?_) hn (by omega) (r := (cs, rest)) fun f hf => ?_
      · exact he ▸ quotedLines?_char hq _
      · exact quotedLines?_escaped hr cs (n := 0) f (by omega) (by omega)
termination_by cs => cs.length

theorem literalLines?_end (fuel : Nat) (hn : n ≤ 2) (hr : ∀ c ∈ rest.head?, c ≠ '\'') :
    literalLines? (fuel + 1) (List.replicate (n + 3) '\'' ++ rest)
      = some (List.replicate n '\'', rest) := by
  have hc := closing?_replicate (n := n + 3) hr
  rw [if_neg (by omega), if_pos (by omega)] at hc
  rw [List.replicate_succ, List.cons_append] at hc ⊢
  simp [literalLines?, hc]

theorem literalLines?_quotes (hn : n < 2) (hx : x ≠ '\'') :
    literalLines? (fuel + 1) (List.replicate (n + 1) '\'' ++ x :: rest)
      = (literalLines? fuel (x :: rest)).map
        fun r => (List.replicate (n + 1) '\'' ++ r.1, r.2) := by
  have hh : ∀ c ∈ (x :: rest).head?, c ≠ '\'' := by simpa using hx
  have hc := closing?_replicate (n := n + 1) hh
  rw [if_pos (by omega)] at hc
  rw [List.replicate_succ, List.cons_append] at hc ⊢
  simp [literalLines?, hc]

theorem literalLines?_char (fuel : Nat) {c : Char} (hc : c ≠ '\'')
    (hp : isPrintable c = true ∨ c = '\n') (cs : List Char) :
    literalLines? (fuel + 1) (c :: cs) = (literalLines? fuel cs).map fun r => (c :: r.1, r.2) := by
  rw [literalLines?, if_neg hc]
  rcases hp with hp | rfl
  · simp only [newline?_of_isPrintable hp, if_pos hp]
  · rfl

theorem le_longestRun_go (q : Char) : ∀ (cs : List Char) (n : Nat), n ≤ longestRun.go q n cs
  | [], _ => Nat.le_refl _
  | c :: cs, n => by
    unfold longestRun.go
    split_ifs
    · exact Nat.le_trans (Nat.le_succ n) (le_longestRun_go q cs (n + 1))
    · exact Nat.le_max_left _ _

theorem ne_of_longestRun_go_eq_zero {q : Char} : ∀ {cs : List Char},
    longestRun.go q 0 cs = 0 → ∀ c ∈ cs, c ≠ q
  | [], _, _, hm => by cases hm
  | d :: cs, h, c, hm => by
    unfold longestRun.go at h
    split_ifs at h with hd
    · have := le_longestRun_go q cs (0 + 1)
      omega
    · rcases List.mem_cons.1 hm with rfl | hm
      · exact hd
      · exact ne_of_longestRun_go_eq_zero (by omega) c hm

/-- What stands between triple single quotes comes back as it is.  Up to two quotes may precede it,
which are read with the quotes that it starts with. -/
theorem literalLines?_append (hr : ∀ c ∈ rest.head?, c ≠ '\'') : ∀ {cs : List Char} {n : Nat}
    (fuel : Nat), (∀ c ∈ cs, isPrintable c = true ∨ c = '\n') → longestRun.go '\'' n cs ≤ 2 →
    n + cs.length < fuel →
    literalLines? fuel (List.replicate n '\'' ++ (cs ++ (List.replicate 3 '\'' ++ rest)))
      = some (List.replicate n '\'' ++ cs, rest)
  | _, _, 0, _, _, h => absurd h (Nat.not_lt_zero _)
  | [], n, fuel + 1, _, hn, _ => by
    have he := literalLines?_end (n := n) fuel hn hr
    rw [← List.replicate_append_replicate] at he
    simpa using he
  | c :: cs, n, fuel + 1, hp, hn, h => by
    obtain ⟨hc, hp⟩ := List.forall_mem_cons.1 hp
    unfold longestRun.go at hn
    simp only [List.length_cons] at h
    split_ifs at hn with hq
    · -- The run of quotes goes on, and `hn` bounds its length.
      have ih := literalLines?_append hr (fuel + 1) hp hn (by omega)
      simpa [hq, List.replicate_succ', List.append_assoc] using ih
    · have hs (f : Nat) := literalLines?_char f hq hc (cs ++ (List.replicate 3 '\'' ++ rest))
      have ih (f : Nat) (hf : cs.length < f) := literalLines?_append hr (n := 0) f hp
        (Nat.le_trans (Nat.le_max_right _ _) hn) (by omega)
      simp only [List.replicate_zero, List.nil_append] at ih
      rcases n with _ | n
      · rw [List.replicate_zero, List.nil_append, List.cons_append, hs, ih fuel (by omega)]
        rfl
      · obtain ⟨f, rfl⟩ : ∃ f, fuel = f + 1 := ⟨fuel - 1, by omega⟩
        rw [List.cons_append, literalLines?_quotes (by omega) hq, hs, ih f (by omega)]
        rfl

end Lines

section WriteChars

variable {cs rest : List Char}

theorem skipNewline_start {body : List Char}
    (h : ∀ c ∈ body.head?, c ≠ '\r' ∧ (c = '\n' → '\n' ∈ cs)) :
    skipNewline ((if cs.contains '\n' then ['\n'] else []) ++ body) = body := by
  by_cases hn : '\n' ∈ cs
  · simp [hn, skipNewline, newline?]
  · cases body with
    | nil => simp [hn, skipNewline, newline?]
    | cons c body =>
      obtain ⟨hr, hc⟩ := h c rfl
      simp [hn, skipNewline, newline?_eq_none (fun h => hn (hc h)) hr]

/-- What stands between triple double quotes starts with a newline only if it was in the string. -/
theorem ne_of_mem_head?_escaped (cs rest : List Char) :
    ∀ c ∈ (escaped true 2 0 cs ++ '"' :: rest).head?, c ≠ '\r' ∧ (c = '\n' → '\n' ∈ cs) := by
  intro c hc
  rcases cs with _ | ⟨d, cs⟩
  · obtain rfl : '"' = c := by simpa [escaped] using hc
    decide
  by_cases hq : d = '"'
  · subst hq
    obtain rfl : '"' = c := by simpa [escaped] using hc
    exact ⟨by decide, fun h => absurd h (by decide)⟩
  rw [escaped_of_ne cs hq] at hc
  rcases escapedChar_cases true d with ⟨he, -, hp⟩ | ⟨x, e, he, -⟩
  · obtain rfl : d = c := by simpa [he] using hc
    refine ⟨?_, fun h => by simp [h]⟩
    rintro rfl
    revert hp
    decide
  · obtain rfl : '\\' = c := by simpa [he] using hc
    exact ⟨by decide, fun h => absurd h (by decide)⟩

theorem ne_of_mem_head?_append (h : ∀ c ∈ cs, isPrintable c = true ∨ c = '\n') (rest : List Char) :
    ∀ c ∈ (cs ++ '\'' :: rest).head?, c ≠ '\r' ∧ (c = '\n' → '\n' ∈ cs) := by
  intro c hc
  rcases cs with _ | ⟨d, cs⟩
  · obtain rfl : '\'' = c := by simpa using hc
    decide
  obtain rfl : d = c := by simpa using hc
  refine ⟨?_, fun h => by simp [h]⟩
  rintro rfl
  have := h '\r' List.mem_cons_self
  revert this
  decide

theorem isPrintable_or_of {c : Char} (h : needsEscape c = false) :
    isPrintable c = true ∨ c = '\n' := by
  by_cases hn : c = '\n'
  · exact .inr hn
  · exact .inl (isPrintable_of h hn)

theorem of_choose_eq_literal (h : Quotation.choose cs = .literal) :
    ∀ c ∈ cs, isPrintable c = true ∧ c ≠ '\'' := by
  simp only [Quotation.choose] at h
  split_ifs at h with _ hl
  simp only [Bool.and_eq_true, Bool.not_eq_true', List.any_eq_false, decide_eq_true_eq,
    List.contains_eq_mem, decide_eq_false_iff_not] at hl
  obtain ⟨⟨he, hq⟩, hn⟩ := hl
  intro c hc
  refine ⟨isPrintable_of (by simpa using he c hc) ?_, ne_of_longestRun_go_eq_zero hq c hc⟩
  rintro rfl
  exact hn hc

theorem of_choose_eq_literalLines (h : Quotation.choose cs = .literalLines) :
    (∀ c ∈ cs, isPrintable c = true ∨ c = '\n') ∧ longestRun '\'' cs ≤ 2 := by
  simp only [Quotation.choose] at h
  split_ifs at h with _ _ _ hl
  simp only [Bool.and_eq_true, Bool.not_eq_true', List.any_eq_false, decide_eq_true_eq] at hl
  exact ⟨fun c hc => isPrintable_or_of (by simpa using hl.1 c hc), hl.2⟩

variable (hr : ∀ c ∈ rest.head?, c ≠ '"' ∧ c ≠ '\'')

include hr

theorem string?_basic :
    string? ('"' :: escaped false 0 0 cs ++ ['"'] ++ rest) = some (cs, rest) := by
  have hb (t : List Char) : escaped false 0 0 cs ++ '"' :: rest ≠ '"' :: '"' :: t := by
    intro h
    rcases cs with _ | ⟨c, cs⟩
    · simp only [escaped, List.nil_append, List.cons.injEq, true_and] at h
      exact (hr '"' (by simp [h])).1 rfl
    · by_cases hq : c = '"'
      · subst hq
        rw [escaped_of_lt cs (Nat.zero_lt_succ 0)] at h
        simp at h
      · obtain ⟨x, e, he, hx⟩ := exists_escapedChar_eq false hq
        rw [escaped_of_ne cs hq, he] at h
        simp [hx] at h
  have hs : string? ('"' :: (escaped false 0 0 cs ++ '"' :: rest))
      = lineString? ('"' :: (escaped false 0 0 cs ++ '"' :: rest)) := by
    unfold string?
    split <;> simp_all
  simp only [List.cons_append, List.append_assoc, List.nil_append]
  rw [hs, lineString?]
  refine quoted?_escaped rest cs ?_
  simp only [List.length_append, List.length_cons]
  omega

theorem string?_literal (h : ∀ c ∈ cs, isPrintable c = true ∧ c ≠ '\'') :
    string? ('\'' :: cs ++ ['\''] ++ rest) = some (cs, rest) := by
  have hb (t : List Char) : cs ++ '\'' :: rest ≠ '\'' :: '\'' :: t := by
    intro hb
    rcases cs with _ | ⟨c, cs⟩
    · simp only [List.nil_append, List.cons.injEq, true_and] at hb
      exact (hr '\'' (by simp [hb])).2 rfl
    · rw [List.cons_append, List.cons.injEq] at hb
      exact (h c List.mem_cons_self).2 hb.1
  have hs : string? ('\'' :: (cs ++ '\'' :: rest))
      = lineString? ('\'' :: (cs ++ '\'' :: rest)) := by
    unfold string?
    split <;> simp_all
  simp only [List.cons_append, List.append_assoc, List.nil_append]
  rw [hs, lineString?]
  exact literal?_append rest h

theorem string?_basicLines :
    string? (['"', '"', '"'] ++ (if cs.contains '\n' then ['\n'] else []) ++ escaped true 2 0 cs
      ++ ['"', '"', '"'] ++ rest) = some (cs, rest) := by
  have hs := skipNewline_start (ne_of_mem_head?_escaped cs ('"' :: '"' :: rest))
  have h := quotedLines?_escaped (fun c hc => (hr c hc).1) cs (n := 0)
    (((if cs.contains '\n' then ['\n'] else [])
      ++ (escaped true 2 0 cs ++ (['"', '"', '"'] ++ rest))).length + 1) (by omega)
    (by simp only [List.length_append]; omega)
  simp only [List.append_assoc, List.cons_append, List.nil_append] at hs h ⊢
  rw [string?, hs]
  simpa using h

theorem string?_literalLines (h : ∀ c ∈ cs, isPrintable c = true ∨ c = '\n')
    (hq : longestRun '\'' cs ≤ 2) :
    string? (['\'', '\'', '\''] ++ (if cs.contains '\n' then ['\n'] else []) ++ cs
      ++ ['\'', '\'', '\''] ++ rest) = some (cs, rest) := by
  have hs := skipNewline_start (ne_of_mem_head?_append h ('\'' :: '\'' :: rest))
  have h := literalLines?_append (fun c hc => (hr c hc).2) (n := 0)
    (((if cs.contains '\n' then ['\n'] else [])
      ++ (cs ++ (['\'', '\'', '\''] ++ rest))).length + 1) h hq
    (by simp only [List.length_append]; omega)
  simp only [List.append_assoc, List.cons_append, List.nil_append] at hs h ⊢
  rw [string?, hs]
  simpa using h

end WriteChars

/-- A string comes back from the way in which it was written. -/
theorem string?_writeChars (cs : List Char) {rest : List Char}
    (hr : ∀ c ∈ rest.head?, c ≠ '"' ∧ c ≠ '\'') :
    string? (writeChars cs ++ rest) = some (cs, rest) := by
  cases h : Quotation.choose cs with
  | basic =>
    simp only [writeChars, h]
    exact string?_basic hr
  | literal =>
    simp only [writeChars, h]
    exact string?_literal hr (of_choose_eq_literal h)
  | basicLines =>
    simp only [writeChars, h]
    exact string?_basicLines hr
  | literalLines =>
    obtain ⟨hp, hq⟩ := of_choose_eq_literalLines h
    simp only [writeChars, h]
    exact string?_literalLines hr hp hq

end SignerTrust.Toml
