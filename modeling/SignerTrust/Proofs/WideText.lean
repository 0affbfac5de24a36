import Mathlib.Data.List.Basic
import SignerTrust.Proofs.ByteNumber
import SignerTrust.Proofs.Utf8Text
import SignerTrust.Text.Wide

/-!
# Texts in wider units

A character past the first 65,536 is a pair of surrogates among 16-bit units.  Units are read as a
text exactly if they are the units of that text (`joinPairs?_eq_some_iff`), and as none exactly if a
surrogate lacks its partner (`joinPairs?_eq_none_iff`).  Two bytes make a unit, and an odd one is
left over (`decode16?_eq_some_iff`, `decode16?_eq_none_iff`).  Likewise four bytes are
read as the character of that number and as nothing if there is none (`decode32?_eq_some_iff`,
`decode32?_eq_none_iff`), and one byte is always the character of its number (`latin1_eq_iff`).
-/

namespace SignerTrust

namespace Bytes

theorem toNat_inj_of_length : ∀ {a b : Bytes}, a.length = b.length → toNat a = toNat b → a = b
  | [], [], _, _ => rfl
  | x :: a, y :: b, hlen, h => by
    have hlen' : a.length = b.length := Nat.succ.inj hlen
    have ha := toNat_lt a
    have hb := toNat_lt b
    rw [toNat_cons, toNat_cons, ← hlen'] at h
    rw [← hlen'] at hb
    have hmod := congrArg (· % 256 ^ a.length) h
    simp only [Nat.mul_add_mod_of_lt ha, Nat.mul_add_mod_of_lt hb] at hmod
    rw [hmod] at h
    have hpos : 0 < 256 ^ a.length := Nat.pow_pos (by decide)
    have hx := Nat.eq_of_mul_eq_mul_right hpos (Nat.add_right_cancel h)
    rw [UInt8.toNat_inj.1 hx, toNat_inj_of_length hlen' hmod]

/-- Bytes are those of the number that they write. -/
theorem ofNat_toNat (bytes : Bytes) : ofNat bytes.length (toNat bytes) = bytes :=
  toNat_inj_of_length (length_ofNat _ _) (by rw [toNat_ofNat, Nat.mod_eq_of_lt (toNat_lt bytes)])

/-- Bytes are written as the number that they write, and as no other so small. -/
theorem eq_ofNat_iff {bytes : Bytes} {width n : Nat} (hlen : bytes.length = width)
    (hn : n < 256 ^ width) : bytes = ofNat width n ↔ toNat bytes = n := by
  constructor
  · rintro rfl
    rw [toNat_ofNat, Nat.mod_eq_of_lt hn]
  · rintro rfl
    rw [← hlen, ofNat_toNat]

/-- One byte for each character of a number below 256. -/
theorem latin1_eq_iff {bytes : Bytes} {text : String} :
    latin1 bytes = text ↔ bytes.map UInt8.toNat = text.toList.map Char.toNat := by
  have hchars : (bytes.map fun b => Char.ofNat b.toNat).map Char.toNat = bytes.map UInt8.toNat := by
    rw [List.map_map]
    refine List.map_congr_left fun b _ => ?_
    have hb := b.toNat_lt
    exact Utf8.toNat_ofNat_of_isValidChar (.inl (by omega))
  constructor
  · rintro rfl
    rw [latin1, String.toList_ofList, hchars]
  · intro h
    rw [← hchars] at h
    have hinj : Function.Injective Char.toNat := fun c d hcd => by
      rw [← Char.ofNat_toNat c, hcd, Char.ofNat_toNat]
    rw [latin1, hinj.list_map h, String.ofList_toList]

end Bytes

namespace Wide

/-- The 16-bit units of a character: the unit of its number, or a pair of surrogates. -/
def units (c : Char) : List Nat :=
  if c.toNat < 0x10000 then [c.toNat]
  else [0xd800 + (c.toNat - 0x10000) / 0x400, 0xdc00 + (c.toNat - 0x10000) % 0x400]

/-- A text in big-endian units of 16 bits. -/
def encode16 (text : String) : Bytes :=
  (text.toList.flatMap units).flatMap (Bytes.ofNat 2)

/-- A text in big-endian numbers of 32 bits. -/
def encode32 (text : String) : Bytes :=
  text.toList.flatMap fun c => Bytes.ofNat 4 c.toNat

/-- The first surrogate of a pair. -/
def IsHigh (u : Nat) : Prop :=
  0xd800 ≤ u ∧ u < 0xdc00

/-- The second surrogate of a pair. -/
def IsLow (u : Nat) : Prop :=
  0xdc00 ≤ u ∧ u < 0xe000

/-- Whether some surrogate lacks its partner, which stands right after a first one and right before
a second one. -/
def Unpaired (us : List Nat) : Prop :=
  ∃ before u after, us = before ++ u :: after
    ∧ (IsHigh u ∧ (∀ v ∈ after.head?, ¬ IsLow v) ∨ IsLow u ∧ ∀ v ∈ before.getLast?, ¬ IsHigh v)

theorem not_unpaired_nil : ¬ Unpaired [] := by
  rintro ⟨before, u, after, h, -⟩
  simp at h

theorem forall_getLast?_cons {P : Nat → Prop} {u : Nat} (hu : P u) (before : List Nat) :
    (∀ v ∈ (u :: before).getLast?, P v) ↔ ∀ v ∈ before.getLast?, P v := by
  rw [List.getLast?_cons]
  rcases before.getLast? with _ | w <;> simp [hu]

theorem unpaired_unit {u : Nat} {rest : List Nat} (hh : ¬ IsHigh u) (hl : ¬ IsLow u) :
    Unpaired (u :: rest) ↔ Unpaired rest := by
  constructor
  · rintro ⟨before, x, after, h, hx⟩
    rcases before with _ | ⟨y, before⟩
    · obtain ⟨rfl, -⟩ := List.cons.inj h
      rcases hx with ⟨hx, -⟩ | ⟨hx, -⟩
      · exact absurd hx hh
      · exact absurd hx hl
    · obtain ⟨rfl, hrest⟩ := List.cons.inj h
      rw [forall_getLast?_cons hh] at hx
      exact ⟨before, x, after, hrest, hx⟩
  · rintro ⟨before, x, after, rfl, hx⟩
    rw [← forall_getLast?_cons hh] at hx
    exact ⟨u :: before, x, after, rfl, hx⟩

theorem unpaired_pair {u v : Nat} {rest : List Nat} (hu : IsHigh u) (hv : IsLow v) :
    Unpaired (u :: v :: rest) ↔ Unpaired rest := by
  have hu' : ¬ IsLow u := by unfold IsHigh IsLow at *; omega
  have hv' : ¬ IsHigh v := by unfold IsHigh IsLow at *; omega
  constructor
  · rintro ⟨before, x, after, h, hx⟩
    rcases before with _ | ⟨y, _ | ⟨z, before⟩⟩
    · obtain ⟨rfl, rfl⟩ := List.cons.inj h
      rcases hx with ⟨-, hx⟩ | ⟨hx, -⟩
      · exact absurd hv (hx v rfl)
      · exact absurd hx hu'
    · obtain ⟨rfl, htail⟩ := List.cons.inj h
      obtain ⟨rfl, -⟩ := List.cons.inj htail
      rcases hx with ⟨hx, -⟩ | ⟨-, hx⟩
      · exact absurd hx hv'
      · exact absurd hu (hx u rfl)
    · obtain ⟨rfl, htail⟩ := List.cons.inj h
      obtain ⟨rfl, hrest⟩ := List.cons.inj htail
      rw [List.getLast?_cons_cons, forall_getLast?_cons hv'] at hx
      exact ⟨before, x, after, hrest, hx⟩
  · rintro ⟨before, x, after, rfl, hx⟩
    rw [← forall_getLast?_cons hv', ← List.getLast?_cons_cons (a := u)] at hx
    exact ⟨u :: v :: before, x, after, rfl, hx⟩

/-! What is read, by what comes first: a unit of its own, a pair, or a surrogate without its
partner. -/

theorem joinPairs?_unit {u : Nat} (h : u < 0xd800 ∨ 0xe000 ≤ u) (rest : List Nat) :
    joinPairs? (u :: rest) = (joinPairs? rest).map (Char.ofNat u :: ·) := by
  rw [joinPairs?.eq_def]
  simp only [if_pos h]

theorem joinPairs?_pair {u v : Nat} (hu : IsHigh u) (hv : IsLow v) (rest : List Nat) :
    joinPairs? (u :: v :: rest) = (joinPairs? rest).map
      (Char.ofNat (0x10000 + (u - 0xd800) * 1024 + (v - 0xdc00)) :: ·) := by
  unfold IsHigh IsLow at *
  rw [joinPairs?.eq_def]
  dsimp only
  rw [if_neg (by omega), if_pos hu.2, if_pos hv]

theorem joinPairs?_high {u : Nat} (hu : IsHigh u) {rest : List Nat}
    (h : ∀ v ∈ rest.head?, ¬ IsLow v) : joinPairs? (u :: rest) = none := by
  unfold IsHigh IsLow at *
  rw [joinPairs?.eq_def]
  dsimp only
  rw [if_neg (by omega), if_pos hu.2]
  rcases rest with _ | ⟨v, rest⟩
  · rfl
  · exact if_neg (h v rfl)

theorem joinPairs?_low {u : Nat} (hu : IsLow u) (rest : List Nat) :
    joinPairs? (u :: rest) = none := by
  unfold IsLow at hu
  rw [joinPairs?.eq_def]
  dsimp only
  rw [if_neg (by omega), if_neg (by omega)]

/-- Units are read as no text exactly if a surrogate lacks its partner. -/
theorem joinPairs?_eq_none_iff (us : List Nat) : joinPairs? us = none ↔ Unpaired us := by
  induction us using joinPairs?.induct with
  | case1 => simpa [joinPairs?] using not_unpaired_nil
  | case2 u rest hu ih =>
    have hh : ¬ IsHigh u := by unfold IsHigh; omega
    have hl : ¬ IsLow u := by unfold IsLow; omega
    rw [joinPairs?_unit hu, Option.map_eq_none_iff, ih, unpaired_unit hh hl]
  | case3 u hu hlt v rest hv ih =>
    have hh : IsHigh u := ⟨by omega, hlt⟩
    rw [joinPairs?_pair hh hv, Option.map_eq_none_iff, ih, unpaired_pair hh hv]
  | case4 u hu hlt v rest hv =>
    have hh : IsHigh u := ⟨by omega, hlt⟩
    have halone : ∀ w ∈ (v :: rest).head?, ¬ IsLow w := by
      rintro w ⟨⟩
      exact hv
    exact iff_of_true (joinPairs?_high hh halone) ⟨[], u, v :: rest, rfl, .inl ⟨hh, halone⟩⟩
  | case5 u hu hlt =>
    have hh : IsHigh u := ⟨by omega, hlt⟩
    exact iff_of_true (joinPairs?_high hh nofun) ⟨[], u, [], rfl, .inl ⟨hh, nofun⟩⟩
  | case6 u rest hu hlt =>
    have hl : IsLow u := by unfold IsLow; omega
    exact iff_of_true (joinPairs?_low hl rest) ⟨[], u, rest, rfl, .inr ⟨hl, nofun⟩⟩

theorem units_ofNat_of_unit {u : Nat} (h : u < 0xd800 ∨ 0xe000 ≤ u) (hlt : u < 0x10000) :
    units (Char.ofNat u) = [u] := by
  have hn : (Char.ofNat u).toNat = u :=
    Utf8.toNat_ofNat_of_isValidChar (by unfold Nat.isValidChar; omega)
  rw [units, hn, if_pos hlt]

theorem units_ofNat_of_pair {u v : Nat} (hu : IsHigh u) (hv : IsLow v) :
    units (Char.ofNat (0x10000 + (u - 0xd800) * 1024 + (v - 0xdc00))) = [u, v] := by
  unfold IsHigh IsLow at *
  have hn := Utf8.toNat_ofNat_of_isValidChar
    (show (0x10000 + (u - 0xd800) * 1024 + (v - 0xdc00)).isValidChar by
      unfold Nat.isValidChar; omega)
  have h1 : 0xd800 + (0x10000 + (u - 0xd800) * 1024 + (v - 0xdc00) - 0x10000) / 0x400 = u := by
    omega
  have h2 : 0xdc00 + (0x10000 + (u - 0xd800) * 1024 + (v - 0xdc00) - 0x10000) % 0x400 = v := by
    omega
  rw [units, hn, if_neg (by omega), h1, h2]

theorem lt_of_mem_units {c : Char} {u : Nat} (h : u ∈ units c) : u < 0x10000 := by
  have hc := Utf8.lt_of_isValidChar (Utf8.isValidChar_toNat c)
  unfold units at h
  split_ifs at h
  · obtain rfl := List.mem_singleton.1 h
    assumption
  · simp only [List.mem_cons, List.not_mem_nil, or_false] at h
    omega

theorem joinPairs?_units_append (c : Char) (rest : List Nat) :
    joinPairs? (units c ++ rest) = (joinPairs? rest).map (c :: ·) := by
  have hc := Utf8.isValidChar_toNat c
  have hlt := Utf8.lt_of_isValidChar hc
  unfold Nat.isValidChar at hc
  unfold units
  split_ifs with h
  · rw [List.singleton_append, joinPairs?_unit (by omega), Char.ofNat_toNat]
  · have hn : 0x10000 + (0xd800 + (c.toNat - 0x10000) / 0x400 - 0xd800) * 1024
        + (0xdc00 + (c.toNat - 0x10000) % 0x400 - 0xdc00) = c.toNat := by omega
    have hh : IsHigh (0xd800 + (c.toNat - 0x10000) / 0x400) := ⟨by omega, by omega⟩
    have hl : IsLow (0xdc00 + (c.toNat - 0x10000) % 0x400) := ⟨by omega, by omega⟩
    rw [List.cons_append, List.singleton_append, joinPairs?_pair hh hl, hn, Char.ofNat_toNat]

/-- Units are read as a text exactly if they are its units. -/
theorem joinPairs?_eq_some_iff {us : List Nat} {cs : List Char} (hlt : ∀ u ∈ us, u < 0x10000) :
    joinPairs? us = some cs ↔ us = cs.flatMap units := by
  constructor
  · intro h
    induction us using joinPairs?.induct generalizing cs with
    | case1 =>
      obtain rfl := Option.some.inj (by simpa [joinPairs?] using h)
      rfl
    | case2 u rest hu ih =>
      rw [joinPairs?_unit hu] at h
      obtain ⟨cs, hcs, rfl⟩ := Option.map_eq_some_iff.1 h
      rw [List.flatMap_cons, units_ofNat_of_unit hu (hlt u List.mem_cons_self),
        ← ih (fun v hv => hlt v (List.mem_cons_of_mem _ hv)) hcs]
      rfl
    | case3 u hu hlt' v rest hv ih =>
      have hh : IsHigh u := ⟨by omega, hlt'⟩
      rw [joinPairs?_pair hh hv] at h
      obtain ⟨cs, hcs, rfl⟩ := Option.map_eq_some_iff.1 h
      rw [List.flatMap_cons, units_ofNat_of_pair hh hv,
        ← ih (fun w hw => hlt w (List.mem_cons_of_mem _ (List.mem_cons_of_mem _ hw))) hcs]
      rfl
    | case4 u hu hlt' v rest hv =>
      have halone : ∀ w ∈ (v :: rest).head?, ¬ IsLow w := by
        rintro w ⟨⟩
        exact hv
      rw [joinPairs?_high ⟨by omega, hlt'⟩ halone] at h
      cases h
    | case5 u hu hlt' =>
      have halone : ∀ w ∈ ([] : List Nat).head?, ¬ IsLow w := nofun
      rw [joinPairs?_high ⟨by omega, hlt'⟩ halone] at h
      cases h
    | case6 u rest hu hlt' =>
      rw [joinPairs?_low ⟨by omega, by omega⟩] at h
      cases h
  · rintro rfl
    clear hlt
    induction cs with
    | nil => rfl
    | cons c cs ih => rw [List.flatMap_cons, joinPairs?_units_append, ih, Option.map_some]

theorem pair_eq_ofNat_iff {hi lo : UInt8} {u : Nat} (hu : u < 0x10000) :
    [hi, lo] = Bytes.ofNat 2 u ↔ hi.toNat * 256 + lo.toNat = u := by
  have h : [hi, lo] = Bytes.ofNat 2 u ↔ Bytes.toNat [hi, lo] = u := Bytes.eq_ofNat_iff rfl hu
  rw [h, Bytes.toNat, List.foldl_cons, List.foldl_cons, List.foldl_nil, Nat.zero_mul, Nat.zero_add]

theorem units16?_eq_some_iff {bytes : Bytes} {us : List Nat} :
    units16? bytes = some us ↔ bytes = us.flatMap (Bytes.ofNat 2) ∧ ∀ u ∈ us, u < 0x10000 := by
  induction bytes using units16?.induct generalizing us with
  | case1 =>
    rcases us with _ | ⟨u, us⟩
    · simp [units16?]
    · simp [units16?, Bytes.ofNat]
  | case2 b =>
    rcases us with _ | ⟨u, us⟩
    · simp [units16?]
    · simp [units16?, Bytes.ofNat]
  | case3 hi lo rest ih =>
    have hhi := hi.toNat_lt
    have hlo := lo.toNat_lt
    rw [units16?, Option.map_eq_some_iff]
    constructor
    · rintro ⟨us, hus, rfl⟩
      obtain ⟨rfl, hall⟩ := ih.1 hus
      have hlt : hi.toNat * 256 + lo.toNat < 0x10000 := by omega
      rw [List.flatMap_cons, ← (pair_eq_ofNat_iff hlt).2 rfl]
      exact ⟨rfl, List.forall_mem_cons.2 ⟨hlt, hall⟩⟩
    · rintro ⟨hbytes, hall⟩
      rcases us with _ | ⟨u, us⟩
      · cases hbytes
      · obtain ⟨hu, hall⟩ := List.forall_mem_cons.1 hall
        have hsplit : [hi, lo] ++ rest = Bytes.ofNat 2 u ++ us.flatMap (Bytes.ofNat 2) := hbytes
        obtain ⟨hunit, hrest⟩ := List.append_inj hsplit (Bytes.length_ofNat 2 u).symm
        rw [(pair_eq_ofNat_iff hu).1 hunit]
        exact ⟨us, ih.2 ⟨hrest, hall⟩, rfl⟩

theorem units16?_eq_none_iff (bytes : Bytes) :
    units16? bytes = none ↔ bytes.length % 2 = 1 := by
  induction bytes using units16?.induct with
  | case1 => simp [units16?]
  | case2 b => simp [units16?]
  | case3 hi lo rest ih =>
    rw [units16?, Option.map_eq_none_iff, ih]
    simp only [List.length_cons]
    omega

/-- Bytes are read as a text of 16-bit units exactly if they are that text in such units. -/
theorem decode16?_eq_some_iff {bytes : Bytes} {text : String} :
    decode16? bytes = some text ↔ bytes = encode16 text := by
  unfold decode16? encode16
  constructor
  · intro h
    obtain ⟨us, hus, h⟩ := Option.bind_eq_some_iff.1 h
    obtain ⟨cs, hcs, h⟩ := Option.bind_eq_some_iff.1 h
    obtain rfl := Option.some.inj h
    obtain ⟨rfl, hlt⟩ := units16?_eq_some_iff.1 hus
    rw [String.toList_ofList, ← (joinPairs?_eq_some_iff hlt).1 hcs]
  · rintro rfl
    have hlt : ∀ u ∈ text.toList.flatMap units, u < 0x10000 := fun u hu => by
      obtain ⟨c, -, hc⟩ := List.mem_flatMap.1 hu
      exact lt_of_mem_units hc
    rw [units16?_eq_some_iff.2 ⟨rfl, hlt⟩]
    simp only [Option.bind_eq_bind, Option.bind_some, (joinPairs?_eq_some_iff hlt).2 rfl,
      Option.pure_def, String.ofList_toList]

/-- Bytes are read as no text of 16-bit units exactly if one is left over or a surrogate lacks its
partner. -/
theorem decode16?_eq_none_iff {bytes : Bytes} :
    decode16? bytes = none ↔ bytes.length % 2 = 1 ∨ ∃ us, bytes = us.flatMap (Bytes.ofNat 2)
      ∧ (∀ u ∈ us, u < 0x10000) ∧ Unpaired us := by
  unfold decode16?
  constructor
  · intro h
    rcases hus : units16? bytes with _ | us
    · exact .inl ((units16?_eq_none_iff bytes).1 hus)
    · obtain ⟨hbytes, hlt⟩ := units16?_eq_some_iff.1 hus
      rcases hcs : joinPairs? us with _ | cs
      · exact .inr ⟨us, hbytes, hlt, (joinPairs?_eq_none_iff us).1 hcs⟩
      · simp [hus, hcs] at h
  · rintro (hodd | ⟨us, hbytes, hlt, hus⟩)
    · rw [(units16?_eq_none_iff bytes).2 hodd]
      rfl
    · rw [units16?_eq_some_iff.2 ⟨hbytes, hlt⟩]
      simp only [Option.bind_eq_bind, Option.bind_some, (joinPairs?_eq_none_iff us).2 hus,
        Option.bind_none]

theorem toNat_lt_of_char (c : Char) : c.toNat < 256 ^ 4 :=
  Nat.lt_trans (Utf8.lt_of_isValidChar (Utf8.isValidChar_toNat c)) (by decide)

theorem chars32?_eq_some_iff {bytes : Bytes} {cs : List Char} :
    chars32? bytes = some cs ↔ bytes = cs.flatMap fun c => Bytes.ofNat 4 c.toNat := by
  induction bytes using chars32?.induct generalizing cs with
  | case1 a b c d rest ih =>
    rw [chars32?]
    constructor
    · intro h
      obtain ⟨ch, hch, h⟩ := Option.bind_eq_some_iff.1 h
      obtain ⟨cs, hcs, h⟩ := Option.bind_eq_some_iff.1 h
      obtain rfl := Option.some.inj h
      have hgroup : [a, b, c, d] = Bytes.ofNat 4 ch.toNat :=
        (Bytes.eq_ofNat_iff rfl (toNat_lt_of_char ch)).2 (Utf8.scalar?_eq_some_iff.1 hch).1
      rw [List.flatMap_cons, ← hgroup, ← ih.1 hcs]
      rfl
    · intro hbytes
      rcases cs with _ | ⟨ch, cs⟩
      · cases hbytes
      · have hsplit : [a, b, c, d] ++ rest
            = Bytes.ofNat 4 ch.toNat ++ cs.flatMap fun c => Bytes.ofNat 4 c.toNat := hbytes
        obtain ⟨hgroup, hrest⟩ := List.append_inj hsplit (Bytes.length_ofNat 4 ch.toNat).symm
        have hch := (Bytes.eq_ofNat_iff rfl (toNat_lt_of_char ch)).1 hgroup
        rw [Utf8.scalar?_eq_some_iff.2 ⟨hch, Nat.zero_le _⟩]
        simp only [Option.bind_eq_bind, Option.bind_some, ih.2 hrest, Option.pure_def]
  | case2 =>
    rcases cs with _ | ⟨ch, cs⟩
    · simp [chars32?]
    · simp [chars32?, Bytes.ofNat]
  | case3 bytes hfour hnil =>
    rcases cs with _ | ⟨ch, cs⟩
    · simpa [chars32?.eq_3 bytes hfour hnil] using hnil
    · simp only [chars32?.eq_3 bytes hfour hnil, reduceCtorEq, List.flatMap_cons, Bytes.ofNat,
        List.cons_append, false_iff]
      exact hfour _ _ _ _ _

/-- Bytes are read as a text of 32-bit numbers exactly if they are that text in such numbers. -/
theorem decode32?_eq_some_iff {bytes : Bytes} {text : String} :
    decode32? bytes = some text ↔ bytes = encode32 text := by
  rw [decode32?, Option.map_eq_some_iff, encode32, ← chars32?_eq_some_iff]
  constructor
  · rintro ⟨cs, hcs, rfl⟩
    rwa [String.toList_ofList]
  · intro h
    exact ⟨text.toList, h, String.ofList_toList⟩

theorem chars32?_cons_eq_none_iff (a b c d : UInt8) (rest : Bytes) :
    chars32? (a :: b :: c :: d :: rest) = none
      ↔ ¬ (Bytes.toNat [a, b, c, d]).isValidChar ∨ chars32? rest = none := by
  rw [chars32?, Utf8.scalar?]
  by_cases hch : (Bytes.toNat [a, b, c, d]).isValidChar
  · rcases hrest : chars32? rest <;> simp [hch]
  · simp [hch]

/-- Bytes are read as no text of 32-bit numbers exactly if some are left over or four of them are
the number of no character. -/
theorem decode32?_eq_none_iff {bytes : Bytes} :
    decode32? bytes = none ↔ bytes.length % 4 ≠ 0 ∨ ∃ before group after,
      bytes = before ++ (group ++ after) ∧ before.length % 4 = 0 ∧ group.length = 4
        ∧ ¬ (Bytes.toNat group).isValidChar := by
  rw [decode32?, Option.map_eq_none_iff]
  induction bytes using chars32?.induct with
  | case1 a b c d rest ih =>
    rw [chars32?_cons_eq_none_iff, ih]
    constructor
    · rintro (hch | hlen | ⟨before, group, after, rfl, hbefore, hgroup⟩)
      · exact .inr ⟨[], [a, b, c, d], rest, rfl, rfl, rfl, hch⟩
      · simp only [List.length_cons]
        omega
      · refine .inr ⟨a :: b :: c :: d :: before, group, after, rfl, ?_, hgroup⟩
        simp only [List.length_cons]
        omega
    · rintro (hlen | ⟨before, group, after, hbytes, hbefore, hgroup, hch⟩)
      · simp only [List.length_cons] at hlen
        omega
      -- the bad group is the first one, or it stands behind the first one
      rcases before with _ | ⟨a', _ | ⟨b', _ | ⟨c', _ | ⟨d', before⟩⟩⟩⟩
      · have hsplit : [a, b, c, d] ++ rest = group ++ after := hbytes
        obtain ⟨rfl, -⟩ := List.append_inj hsplit hgroup.symm
        exact .inl hch
      · simp at hbefore
      · simp at hbefore
      · simp at hbefore
      · simp only [List.cons_append, List.cons.injEq] at hbytes
        simp only [List.length_cons] at hbefore
        exact .inr (.inr ⟨before, group, after, hbytes.2.2.2.2, by omega, hgroup, hch⟩)
  | case2 =>
    constructor
    · rintro ⟨⟩
    · rintro (hlen | ⟨before, group, after, hbytes, -, hgroup, -⟩)
      · exact absurd rfl hlen
      · have hlen := congrArg List.length hbytes
        simp only [List.length_nil, List.length_append] at hlen
        omega
  | case3 bytes hfour hnil =>
    rw [chars32?.eq_3 bytes hfour hnil]
    refine iff_of_true rfl (.inl ?_)
    rcases bytes with _ | ⟨a, _ | ⟨b, _ | ⟨c, _ | ⟨d, rest⟩⟩⟩⟩
    · exact absurd rfl hnil
    · simp
    · simp
    · simp
    · exact absurd rfl (hfour a b c d rest)

end Wide

end SignerTrust
