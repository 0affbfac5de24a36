import SignerTrust.Proofs.QuotedString
import SignerTrust.Toml.Reader

/-!
# Values come back

A number, a truth value, a string or a list of strings is read as it was written, up to the end of
its line (`ReadsAs`).
-/

namespace SignerTrust.Toml

/-- Whether a text is read as a value at the end of a line, and its first character is one that
starts a value. -/
def ReadsAs (text : List Char) (v : Value) : Prop :=
  (∃ c cs, text = c :: cs ∧ isBlank c = false)
    ∧ ∀ {fuel : Nat} (rest : List Char), text.length < fuel →
      value? fuel 0 (text ++ '\n' :: rest) = some (v, '\n' :: rest)

section Number

variable {ds rest : List Char}

/-- Whether characters are the decimal digits of a number, without leading zeros. -/
structure IsDecimal (ds : List Char) : Prop where
  ne_nil : ds ≠ []
  isDigit : ∀ c ∈ ds, c.isDigit = true
  eq_zero : ds.head? = some '0' → ds = ['0']

theorem isDecimal_toDigits (n : Nat) : IsDecimal (Nat.toDigits 10 n) := by
  refine ⟨Nat.toDigits_ne_nil, fun c hc => Nat.isDigit_of_mem_toDigits (by decide) (by decide) hc,
    ?_⟩
  induction n using Nat.strongRecOn with
  | _ n ih =>
    intro h
    by_cases hn : n < 10
    · rw [Nat.toDigits_of_lt_base hn] at h ⊢
      exact congrArg (· :: []) (Option.some.inj h)
    · obtain ⟨d, ds, hd⟩ := List.exists_cons_of_ne_nil (Nat.toDigits_ne_nil (n := n / 10) (b := 10))
      rw [Nat.toDigits_of_base_le (by decide) (by omega), hd] at h
      have h0 := ih (n / 10) (by omega) (by rw [hd]; exact h)
      have hz : n / 10 = 0 := by
        rw [← Nat.ofDigitChars_ten_toDigits (n := n / 10), h0]
        rfl
      omega

theorem ne_of_isDigit {c : Char} (h : c.isDigit = true) :
    c ≠ '-' ∧ c ≠ '+' ∧ c ≠ '_' ∧ c ≠ '"' ∧ c ≠ '\'' ∧ c ≠ '[' ∧ c ≠ '\x7b' ∧ c ≠ '\n'
      ∧ c ≠ 'i' ∧ c ≠ 'n' := by
  refine ⟨?_, ?_, ?_, ?_, ?_, ?_, ?_, ?_, ?_, ?_⟩ <;>
  · rintro rfl
    revert h
    decide

theorem hexValue?_of_isDigit {c : Char} (h : c.isDigit = true) :
    Bytes.hexValue? c = some (c.toNat - '0'.toNat) := by
  have hc : '0' ≤ c ∧ c ≤ '9' := by
    simpa [Char.isDigit, Char.le_def] using h
  simp [Bytes.hexValue?, hc]

theorem numberOf_eq_ofDigitChars (hd : ∀ c ∈ ds, c.isDigit = true) :
    numberOf 10 ds = Nat.ofDigitChars 10 ds 0 := by
  suffices h : ∀ n, ds.foldl (fun n c => n * 10 + (Bytes.hexValue? c).getD 0) n
      = Nat.ofDigitChars 10 ds n from h 0
  induction ds with
  | nil => exact fun _ => rfl
  | cons c ds ih =>
    obtain ⟨hc, hd⟩ := List.forall_mem_cons.1 hd
    intro n
    rw [List.foldl_cons, Nat.ofDigitChars_cons, ih hd, hexValue?_of_isDigit hc, Nat.mul_comm n 10]
    rfl

theorem digits?_append (hn : ds ≠ []) (hd : ∀ c ∈ ds, c.isDigit = true) :
    digits? Char.isDigit (ds ++ '\n' :: rest) = some (ds, '\n' :: rest) := by
  induction ds with
  | nil => exact absurd rfl hn
  | cons c ds ih =>
    obtain ⟨hc, hd⟩ := List.forall_mem_cons.1 hd
    rcases ds with _ | ⟨d, ds⟩
    · have h0 : digits? Char.isDigit ('\n' :: rest) = none := by
        unfold digits?
        rfl
      simp [digits?, hc, h0]
    · have ih := ih (List.cons_ne_nil d ds) hd
      obtain ⟨-, -, hu, -⟩ := ne_of_isDigit (hd d List.mem_cons_self)
      rw [List.cons_append] at ih
      rw [List.cons_append, List.cons_append, digits?]
      · simp [hc, ih]
      · simp [hu]

theorem wholeDigits?_append (h : IsDecimal ds) :
    wholeDigits? (ds ++ '\n' :: rest) = some (ds, '\n' :: rest) := by
  unfold wholeDigits?
  split
  · rename_i r hr
    obtain ⟨d, ds, rfl⟩ := List.exists_cons_of_ne_nil h.ne_nil
    rw [List.cons_append, List.cons.injEq] at hr
    obtain ⟨rfl, rfl⟩ := hr
    obtain rfl := (List.cons.inj (h.eq_zero rfl)).2
    rfl
  · exact digits?_append h.ne_nil h.isDigit

theorem sign_append (h : IsDecimal ds) :
    sign (ds ++ '\n' :: rest) = (false, ds ++ '\n' :: rest) := by
  obtain ⟨c, ds, rfl⟩ := List.exists_cons_of_ne_nil h.ne_nil
  obtain ⟨hm, hp, -⟩ := ne_of_isDigit (h.isDigit c List.mem_cons_self)
  simp [sign, hm, hp]

/-- After digits up to the end of the line comes no other mark. -/
theorem char?_of_field? {count low high : Nat} {c : Char} {x r : List Char}
    (hd : ∀ c ∈ ds, c.isDigit = true) (hc : c.isDigit = false ∧ c ≠ '\n')
    (h : field? count low high (ds ++ '\n' :: rest) = some (x, r)) : char? c r = none := by
  simp only [field?] at h
  split_ifs at h with hf
  simp only [Bool.and_eq_true, decide_eq_true_eq, List.all_eq_true] at hf
  obtain ⟨⟨⟨hl, ha⟩, -⟩, -⟩ := hf
  have hle : count ≤ ds.length := by
    by_contra hlt
    have hm : '\n' ∈ (ds ++ '\n' :: rest).take count := by
      rw [List.take_append]
      obtain ⟨k, hk⟩ : ∃ k, count - ds.length = k + 1 := ⟨count - ds.length - 1, by omega⟩
      simp [hk]
    exact absurd (ha _ hm) (by decide)
  obtain rfl : ds.drop count ++ '\n' :: rest = r := by
    rw [← List.drop_append_of_le_length hle]
    exact congrArg Prod.snd (Option.some.inj h)
  rcases hr : ds.drop count with _ | ⟨d, ds'⟩
  · simp [char?, hc.2]
  · have hd : d.isDigit = true := hd d (List.mem_of_mem_drop (i := count) (by simp [hr]))
    have hne : c ≠ d := by
      rintro rfl
      simp [hd] at hc
    simp [char?, hne]

theorem moment?_append (hd : ∀ c ∈ ds, c.isDigit = true) :
    moment? (ds ++ '\n' :: rest) = none := by
  have hdate : date? (ds ++ '\n' :: rest) = none := by
    unfold date?
    rcases h : field? 4 0 9999 (ds ++ '\n' :: rest) with _ | ⟨x, r⟩
    · rfl
    · simp [char?_of_field? hd (c := '-') (by decide) h]
  have htime : time? (ds ++ '\n' :: rest) = none := by
    unfold time?
    rcases h : field? 2 0 23 (ds ++ '\n' :: rest) with _ | ⟨x, r⟩
    · rfl
    · simp [char?_of_field? hd (c := ':') (by decide) h]
  simp [moment?, hdate, htime]

theorem decimal?_append (h : IsDecimal ds) : decimal? (ds ++ '\n' :: rest) = none := by
  have he : exponent? ('\n' :: rest) = none := rfl
  simp [decimal?, sign_append h, wholeDigits?_append h, fraction?, he]

theorem special?_append (h : IsDecimal ds) : special? (ds ++ '\n' :: rest) = none := by
  unfold special?
  rw [sign_append h]
  obtain ⟨c, ds, rfl⟩ := List.exists_cons_of_ne_nil h.ne_nil
  obtain ⟨-, -, -, -, -, -, -, -, hi, hn⟩ := ne_of_isDigit (h.isDigit c List.mem_cons_self)
  simp [hi, hn]

theorem integer?_append (h : IsDecimal ds) (hr : inRange (numberOf 10 ds) = true) :
    integer? (ds ++ '\n' :: rest) = some ((numberOf 10 ds : Int), '\n' :: rest) := by
  have hb (c : Char) (hc : c.isDigit = false ∧ c ≠ '\n') (cs : List Char) :
      ds ++ '\n' :: rest ≠ '0' :: c :: cs := by
    intro he
    obtain ⟨d, ds, rfl⟩ := List.exists_cons_of_ne_nil h.ne_nil
    rw [List.cons_append, List.cons.injEq] at he
    obtain ⟨rfl, he⟩ := he
    obtain rfl := (List.cons.inj (h.eq_zero rfl)).2
    exact hc.2 (List.cons.inj he).1.symm
  unfold integer?
  split
  · rename_i cs he
    exact absurd he (hb 'x' (by decide) cs)
  · rename_i cs he
    exact absurd he (hb 'o' (by decide) cs)
  · rename_i cs he
    exact absurd he (hb 'b' (by decide) cs)
  · rw [sign_append h]
    dsimp only
    rw [wholeDigits?_append h, Option.bind_eq_bind, Option.bind_some, if_neg Bool.false_ne_true]
    exact if_pos hr

/-- A number below `2 ^ 63` comes back. -/
theorem readsAs_number {n : Nat} (hn : n < 0x8000000000000000) :
    ReadsAs (toString n).toList (.integer n) := by
  rw [Nat.toString_eq_ofList_toDigits, String.toList_ofList]
  have h := isDecimal_toDigits n
  obtain ⟨c, cs, hc⟩ := List.exists_cons_of_ne_nil h.ne_nil
  have hd : c.isDigit = true := h.isDigit c (by simp [hc])
  obtain ⟨hm, hp, hu, hq, ha, hb, ho, -⟩ := ne_of_isDigit hd
  have hv : numberOf 10 (Nat.toDigits 10 n) = n :=
    (numberOf_eq_ofDigitChars h.isDigit).trans Nat.ofDigitChars_ten_toDigits
  have hr : inRange (numberOf 10 (Nat.toDigits 10 n)) = true := by
    rw [hv]
    simp only [inRange, Bool.and_eq_true, decide_eq_true_eq]
    omega
  refine ⟨⟨c, cs, hc, ?_⟩, fun {fuel} rest hf => ?_⟩
  · simp only [isBlank, Bool.or_eq_false_iff, decide_eq_false_iff_not]
    exact ⟨by rintro rfl; exact absurd hd (by decide), by rintro rfl; exact absurd hd (by decide)⟩
  · obtain ⟨k, rfl⟩ : ∃ k, fuel = k + 1 := ⟨fuel - 1, by omega⟩
    have hi : integer? (Nat.toDigits 10 n ++ '\n' :: rest) = _ := integer?_append h hr
    have hs : numeric? (Nat.toDigits 10 n ++ '\n' :: rest) = some (.integer n, '\n' :: rest) := by
      simp [numeric?, moment?_append h.isDigit, decimal?_append h, special?_append h, hi, hv]
    rw [hc, List.cons_append] at hs ⊢
    simp [value?, hq, ha, hb, ho, hd, hs]

end Number

theorem readsAs_flag : ∀ b : Bool, ReadsAs (if b then "true" else "false").toList (.boolean b)
  | true => ⟨⟨'t', _, rfl, rfl⟩, fun {fuel} rest hf => by
      obtain ⟨k, rfl⟩ : ∃ k, fuel = k + 1 := ⟨fuel - 1, by omega⟩
      rfl⟩
  | false => ⟨⟨'f', _, rfl, rfl⟩, fun {fuel} rest hf => by
      obtain ⟨k, rfl⟩ : ∃ k, fuel = k + 1 := ⟨fuel - 1, by omega⟩
      rfl⟩

section String

variable {rest : List Char} {n d : Nat}

theorem exists_writeChars_eq (cs : List Char) :
    ∃ q text, writeChars cs = q :: text ∧ (q = '"' ∨ q = '\'') := by
  unfold writeChars
  cases Quotation.choose cs with
  | basic | basicLines => exact ⟨'"', _, rfl, .inl rfl⟩
  | literal | literalLines => exact ⟨'\'', _, rfl, .inr rfl⟩

theorem value?_writeChars (cs : List Char) (hr : ∀ c ∈ rest.head?, c ≠ '"' ∧ c ≠ '\'') :
    value? (n + 1) d (writeChars cs ++ rest) = some (.string (String.ofList cs), rest) := by
  obtain ⟨q, text, hq, hc⟩ := exists_writeChars_eq cs
  have hs := string?_writeChars cs hr
  rw [hq, List.cons_append] at hs ⊢
  simp [value?, hc, hs]

theorem readsAs_string (s : String) : ReadsAs (writeString s).toList (.string s) := by
  rw [writeString, String.toList_ofList]
  refine ⟨?_, fun {fuel} rest hf => ?_⟩
  · obtain ⟨q, text, hq, rfl | rfl⟩ := exists_writeChars_eq s.toList <;> exact ⟨_, _, hq, rfl⟩
  · obtain ⟨k, rfl⟩ : ∃ k, fuel = k + 1 := ⟨fuel - 1, by omega⟩
    rw [value?_writeChars _ (by simp), String.ofList_toList]

/-- Whether a character neither is skipped between items nor starts a comment. -/
def IsMark (c : Char) : Prop :=
  isBlank c = false ∧ c ≠ '#' ∧ c ≠ '\n' ∧ c ≠ '\r'

theorem skipLines_of_isMark {blanks t : List Char} {c : Char}
    (hb : ∀ c ∈ blanks, isBlank c = true) (hc : IsMark c) :
    skipLines (blanks ++ c :: t).length (blanks ++ c :: t) = c :: t := by
  have hs : skipBlanks (blanks ++ c :: t) = c :: t := by
    rw [skipBlanks, List.dropWhile_append_of_pos hb, List.dropWhile_cons, if_neg (by simp [hc.1])]
  have hk : skipComment (c :: t) = c :: t := by
    unfold skipComment
    split
    · rename_i h
      exact absurd (List.cons.inj h).1 hc.2.1
    · rfl
  obtain ⟨n, hn⟩ : ∃ n, (blanks ++ c :: t).length = n + 1 :=
    ⟨blanks.length + t.length, by simp; omega⟩
  simp [hn, skipLines, hs, hk, newline?_eq_none hc.2.2.1 hc.2.2.2]

/-- The items of a list of strings. -/
def itemsText (items : List (List Char)) : List Char :=
  [',', ' '].intercalate (items.map writeChars)

theorem length_le_itemsText : ∀ items : List (List Char), items.length ≤ (itemsText items).length
  | [] => Nat.zero_le _
  | [cs] => by
    obtain ⟨q, text, hq, -⟩ := exists_writeChars_eq cs
    simp [itemsText, hq]
  | cs :: cs' :: items => by
    have ih := length_le_itemsText (cs' :: items)
    simp only [itemsText, List.map_cons, List.intercalate_cons_cons, List.length_append,
      List.length_cons] at ih ⊢
    omega

theorem items?_writeChars {blanks : List Char} (hb : ∀ c ∈ blanks, isBlank c = true)
    (cs : List Char) {c : Char} (hc : c = ']' ∨ c = ',') (more : List Char) :
    items? (n + 2) d (blanks ++ (writeChars cs ++ c :: more))
      = if c = ']' then some ([.string (String.ofList cs)], more)
        else (items? (n + 1) d more).map fun r => (.string (String.ofList cs) :: r.1, r.2) := by
  have hm : IsMark c := by rcases hc with rfl | rfl <;> simp [IsMark, isBlank]
  have hv := value?_writeChars (n := n) (d := d) cs
    (show ∀ x ∈ (c :: more).head?, x ≠ '"' ∧ x ≠ '\'' by rcases hc with rfl | rfl <;> simp)
  obtain ⟨q, text, hq, hqs⟩ := exists_writeChars_eq cs
  have hqm : IsMark q ∧ q ≠ ']' := by rcases hqs with rfl | rfl <;> simp [IsMark, isBlank]
  have hs := skipLines_of_isMark (t := text ++ c :: more) hb hqm.1
  have ht : skipLines (c :: more).length (c :: more) = c :: more :=
    skipLines_of_isMark (t := more) (List.forall_mem_nil _) hm
  rw [hq, List.cons_append] at hv ⊢
  rw [items?, hs]
  rw [List.length_cons] at ht
  rcases hc with rfl | rfl
  · simp [hqm.2, hv, ht]
  · simp [hqm.2, hv, ht]

/-- The items come back, also after the blank that follows a comma. -/
theorem items?_itemsText {blanks : List Char} (hb : ∀ c ∈ blanks, isBlank c = true) :
    ∀ (items : List (List Char)) {fuel : Nat}, items.length < fuel →
      items? fuel d (blanks ++ (itemsText items ++ ']' :: rest))
        = some (items.map fun cs => .string (String.ofList cs), rest)
  | _, 0, h => absurd h (Nat.not_lt_zero _)
  | [], fuel + 1, _ => by
    have hs := skipLines_of_isMark (t := rest) hb (show IsMark ']' by simp [IsMark, isBlank])
    simp only [itemsText, List.map_nil, List.intercalate_nil, List.nil_append]
    rw [items?, hs]
    simp
  | [cs], fuel + 1, h => by
    obtain ⟨k, rfl⟩ : ∃ k, fuel = k + 1 := ⟨fuel - 1, by simp at h; omega⟩
    have hi := items?_writeChars (n := k) (d := d) hb cs (.inl rfl) rest
    simpa [itemsText] using hi
  | cs :: cs' :: items, fuel + 1, h => by
    obtain ⟨k, rfl⟩ : ∃ k, fuel = k + 1 := ⟨fuel - 1, by simp at h; omega⟩
    have hi := items?_writeChars (n := k) (d := d) hb cs (.inr rfl)
      ([' '] ++ (itemsText (cs' :: items) ++ ']' :: rest))
    have ih := items?_itemsText (show ∀ c ∈ [' '], isBlank c = true by simp [isBlank])
      (cs' :: items) (show _ < k + 1 by simp at h ⊢; omega)
    rw [ih] at hi
    simpa [itemsText, List.intercalate_cons_cons] using hi

theorem readsAs_strings (items : List String) :
    ReadsAs (writeStrings items).toList (.array (items.map .string)) := by
  have ht : (writeStrings items).toList
      = '[' :: (itemsText (items.map String.toList) ++ [']']) := by
    simp [writeStrings, itemsText, writeString, Function.comp_def]
  rw [ht]
  refine ⟨⟨'[', _, rfl, rfl⟩, fun {fuel} rest hf => ?_⟩
  have hl := length_le_itemsText (items.map String.toList)
  simp only [List.length_cons, List.length_append] at hf
  obtain ⟨k, rfl⟩ : ∃ k, fuel = k + 1 := ⟨fuel - 1, by omega⟩
  have hi : items? k 1 (itemsText (items.map String.toList) ++ ']' :: '\n' :: rest) = _ :=
    items?_itemsText (List.forall_mem_nil _) (items.map String.toList) (by omega)
  simp [value?, maxDepth, hi]

end String

end SignerTrust.Toml
