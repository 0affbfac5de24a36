import SignerTrust.Certificate.Text
import SignerTrust.Proofs.WideText
import SignerTrust.Proofs.WrittenTag

/-!
# Character strings are read as their texts

A character string holds its text in one of four forms, and its tag says in which.  Its content is
read as the text of which it is the encoding, and as nothing if it is the encoding of none
(`TextForm.decode?_eq_some_iff`, `TextForm.decode?_eq_none_iff`).  Under any other tag there is no
text, with one exception: of a tag number of more than 32 bits only the low ones are seen, and if
these are the number of a string, it is read as one (`readsTexts_iff`).
-/

namespace SignerTrust

/-- The ways in which a character string holds its text. -/
inductive TextForm
  | utf8
  | latin1
  | utf16
  | utf32
  deriving DecidableEq, Repr

namespace TextForm

/-- The numbers of the universal tags of the strings in a form. -/
def tags : TextForm → List Nat
  | .utf8 => [Der.Tag.utf8String, Der.Tag.numericString, Der.Tag.printableString, Der.Tag.ia5String,
    Der.Tag.visibleString]
  | .latin1 => [Der.Tag.teletexString]
  | .utf16 => [Der.Tag.bmpString]
  | .utf32 => [Der.Tag.universalString]

/-- Whether a content is the encoding of a text. -/
def Encodes : TextForm → String → Bytes → Prop
  | .utf8, text, content => content.toByteArray = text.toUTF8
  | .latin1, text, content => content.map UInt8.toNat = text.toList.map Char.toNat
  | .utf16, text, content => content = Wide.encode16 text
  | .utf32, text, content => content = Wide.encode32 text

/-- What is wrong with a content that is the encoding of no text. -/
def Malformed : TextForm → Bytes → Prop
  | .utf8, content => ¬ content.toByteArray.IsValidUTF8
  | .latin1, _ => False
  | .utf16, content => content.length % 2 = 1 ∨ ∃ us, content = us.flatMap (Bytes.ofNat 2)
    ∧ (∀ u ∈ us, u < 0x10000) ∧ Wide.Unpaired us
  | .utf32, content => content.length % 4 ≠ 0 ∨ ∃ before group after,
    content = before ++ (group ++ after) ∧ before.length % 4 = 0 ∧ group.length = 4
      ∧ ¬ (Bytes.toNat group).isValidChar

/-- The reader of a form. -/
def decode? : TextForm → Bytes → Option String
  | .utf8, content => Utf8.decode? content
  | .latin1, content => some (Bytes.latin1 content)
  | .utf16, content => Wide.decode16? content
  | .utf32, content => Wide.decode32? content

theorem encodes_utf8_iff {text : String} {content : Bytes} :
    utf8.Encodes text content ↔ content = text.toList.flatMap String.utf8EncodeChar := by
  have henc : text.toUTF8 = (text.toList.flatMap String.utf8EncodeChar).toByteArray :=
    String.utf8Encode_toList.symm
  rw [Encodes, henc, List.toByteArray_inj]

theorem decode?_eq_some_iff {form : TextForm} {text : String} {content : Bytes} :
    form.decode? content = some text ↔ form.Encodes text content := by
  cases form with
  | utf8 => rw [encodes_utf8_iff, decode?, Utf8.decode?_eq_some_iff]
  | latin1 => rw [decode?, Option.some.injEq, Bytes.latin1_eq_iff, Encodes]
  | utf16 => rw [decode?, Wide.decode16?_eq_some_iff, Encodes]
  | utf32 => rw [decode?, Wide.decode32?_eq_some_iff, Encodes]

theorem isValidUTF8_iff {content : Bytes} :
    content.toByteArray.IsValidUTF8 ↔ ∃ text, utf8.Encodes text content := by
  constructor
  · rintro ⟨cs, hcs⟩
    exact ⟨String.ofList cs, by rw [Encodes, hcs, String.toUTF8, String.toByteArray_ofList]⟩
  · rintro ⟨text, htext⟩
    rw [htext]
    exact text.isValidUTF8

theorem decode?_eq_none_iff {form : TextForm} {content : Bytes} :
    form.decode? content = none ↔ form.Malformed content := by
  cases form with
  | utf8 =>
    rw [Malformed, isValidUTF8_iff, not_exists, Option.eq_none_iff_forall_ne_some]
    exact forall_congr' fun text => not_congr decode?_eq_some_iff
  | latin1 => simp [decode?, Malformed]
  | utf16 => rw [decode?, Wide.decode16?_eq_none_iff, Malformed]
  | utf32 => rw [decode?, Wide.decode32?_eq_none_iff, Malformed]

/-- A text has one encoding at most. -/
theorem Encodes.inj {form : TextForm} {text : String} {a b : Bytes} (ha : form.Encodes text a)
    (hb : form.Encodes text b) : a = b := by
  cases form with
  | utf8 => rw [encodes_utf8_iff.1 ha, encodes_utf8_iff.1 hb]
  | latin1 =>
    have hinj : Function.Injective UInt8.toNat := fun _ _ => UInt8.toNat_inj.1
    exact hinj.list_map (Eq.trans ha (Eq.symm hb))
  | utf16 => exact Eq.trans ha (Eq.symm hb)
  | utf32 => exact Eq.trans ha (Eq.symm hb)

/-- Every text has an encoding but in the form of one byte for each character. -/
theorem exists_encodes {form : TextForm} (h : form ≠ .latin1) (text : String) :
    ∃ content, form.Encodes text content := by
  cases form with
  | utf8 => exact ⟨_, encodes_utf8_iff.2 rfl⟩
  | latin1 => exact absurd rfl h
  | utf16 => exact ⟨_, rfl⟩
  | utf32 => exact ⟨_, rfl⟩

theorem taggedText?_of_mem {form : TextForm} {tag : Nat} (h : tag ∈ form.tags) (content : Bytes) :
    taggedText? tag content = form.decode? content := by
  cases form <;> simp only [tags, List.mem_cons, List.not_mem_nil, or_false] at h
  · rcases h with rfl | rfl | rfl | rfl | rfl <;> rfl
  · rcases h with rfl
    rfl
  · rcases h with rfl
    rfl
  · rcases h with rfl
    rfl

theorem taggedText?_of_forall_not_mem {tag : Nat} (h : ∀ form : TextForm, tag ∉ form.tags)
    (content : Bytes) : taggedText? tag content = none := by
  have h8 := h .utf8
  have h1 := h .latin1
  have h16 := h .utf16
  have h32 := h .utf32
  simp only [tags, List.mem_cons, List.not_mem_nil, or_false, not_or] at h8 h1 h16 h32
  simp only [taggedText?, h8, h1, h16, h32, or_self, if_false]

theorem lt_of_mem_tags {form : TextForm} {tag : Nat} (h : tag ∈ form.tags) : tag < 31 := by
  have hall : ∀ t ∈ form.tags, t < 31 := by cases form <;> decide
  exact hall tag h

theorem eq_of_mem_tags {form form' : TextForm} {tag : Nat} (h : tag ∈ form.tags)
    (h' : tag ∈ form'.tags) : form = form' := by
  have hdisjoint : form ≠ form' → ∀ t ∈ form.tags, t ∉ form'.tags := by
    cases form <;> cases form' <;> decide
  by_contra hne
  exact hdisjoint hne tag h h'

theorem octetString_not_mem_tags (form : TextForm) : Der.Tag.octetString ∉ form.tags := by
  cases form <;> decide

theorem taggedText?_eq_some_iff {tag : Nat} {text : String} {content : Bytes} :
    taggedText? tag content = some text
      ↔ ∃ form : TextForm, tag ∈ form.tags ∧ form.Encodes text content := by
  constructor
  · intro h
    by_cases hf : ∃ form : TextForm, tag ∈ form.tags
    · obtain ⟨form, hf⟩ := hf
      rw [taggedText?_of_mem hf] at h
      exact ⟨form, hf, decode?_eq_some_iff.1 h⟩
    · rw [taggedText?_of_forall_not_mem (not_exists.1 hf)] at h
      cases h
  · rintro ⟨form, hf, h⟩
    rw [taggedText?_of_mem hf, decode?_eq_some_iff.2 h]

theorem taggedText?_eq_none_iff {tag : Nat} {content : Bytes} :
    taggedText? tag content = none
      ↔ ∀ form : TextForm, tag ∈ form.tags → form.Malformed content := by
  constructor
  · intro h form hf
    rw [taggedText?_of_mem hf] at h
    exact decode?_eq_none_iff.1 h
  · intro h
    by_cases hf : ∃ form : TextForm, tag ∈ form.tags
    · obtain ⟨form, hf⟩ := hf
      rw [taggedText?_of_mem hf, decode?_eq_none_iff.2 (h form hf)]
    · exact taggedText?_of_forall_not_mem (not_exists.1 hf) content

end TextForm

open Der

/-- What is made of a written element under fewer than `depth + 1` octet strings, by the number
that is seen of its tag. -/
theorem wrappedText?_encodeAs (depth : Nat) (id : Identifier) {content : Bytes} (h : Fits content)
    (rest : Bytes) : wrappedText? (depth + 1) (encodeAs id content ++ rest) =
      (seenTag? id.tag).bind fun n =>
        if id.tagClass ≠ .universal then none
        else if n = Tag.octetString then wrappedText? depth content
        else taggedText? n content := by
  rw [wrappedText?, Element.read?_encodeAs id h]
  cases seenTag? id.tag <;> rfl

/-- Whether an identifier is that of the octet strings. -/
def Der.Identifier.IsOctetString (id : Identifier) : Prop :=
  id.tagClass = .universal ∧ id.tag = Tag.octetString

/-- Whether a universal tag number has more than 32 bits and its low ones are the number of a
string. -/
def Der.Identifier.IsTakenForString (id : Identifier) : Prop :=
  id.tagClass = .universal ∧ 2 ^ 32 ≤ id.tag ∧ id.tag < 2 ^ 35
    ∧ (id.tag % 2 ^ 32 = Tag.octetString ∨ ∃ form : TextForm, id.tag % 2 ^ 32 ∈ form.tags)

/-- Whether the elements of an identifier hold the texts that they encode, and no others. -/
structure ReadsTexts (id : Identifier) : Prop where
  some_iff : ∀ {content : Bytes}, Fits content → ∀ rest text,
    decodeText? (encodeAs id content ++ rest) = some text ↔
      id.tagClass = .universal ∧ ∃ form : TextForm, id.tag ∈ form.tags ∧ form.Encodes text content
  none_iff : ∀ {content : Bytes}, Fits content → ∀ rest,
    decodeText? (encodeAs id content ++ rest) = none ↔
      (id.tagClass = .universal → ∀ form : TextForm, id.tag ∈ form.tags → form.Malformed content)
  inj : ∀ {a b : Bytes}, Fits a → Fits b → ∀ rest rest' text,
    decodeText? (encodeAs id a ++ rest) = some text →
    decodeText? (encodeAs id b ++ rest') = some text → a = b
  total : ∀ form : TextForm, form ≠ .latin1 → id.tagClass = .universal → id.tag ∈ form.tags →
    ∀ text, ∃ content, form.Encodes text content
      ∧ (Fits content → ∀ rest, decodeText? (encodeAs id content ++ rest) = some text)

/-- The text of an element that is neither an octet string nor taken for a string. -/
theorem decodeText?_encodeAs {id : Identifier} (ho : ¬ id.IsOctetString)
    (ht : ¬ id.IsTakenForString) {content : Bytes} (h : Fits content) (rest : Bytes) :
    decodeText? (encodeAs id content ++ rest) =
      if id.tagClass = .universal then taggedText? id.tag content else none := by
  rw [decodeText?, maxTextDepth, wrappedText?_encodeAs 3 id h]
  by_cases hu : id.tagClass = .universal
  · have hne : id.tag ≠ Tag.octetString := fun he => ho ⟨hu, he⟩
    have hbig : 2 ^ 32 ≤ id.tag → taggedText? id.tag content = none := fun hle =>
      TextForm.taggedText?_of_forall_not_mem (fun form hf => by
        have := TextForm.lt_of_mem_tags hf
        omega) content
    rw [if_pos hu, seenTag?]
    by_cases h35 : id.tag < 2 ^ 35
    · simp only [if_pos h35, Option.bind_some, hu, ne_eq, not_true_eq_false, if_false]
      by_cases h32 : id.tag < 2 ^ 32
      · rw [Nat.mod_eq_of_lt h32, if_neg hne]
      · -- the low bits are the number of no string either
        have hlow : ¬ (id.tag % 2 ^ 32 = Tag.octetString
            ∨ ∃ form : TextForm, id.tag % 2 ^ 32 ∈ form.tags) := fun hs =>
          ht ⟨hu, Nat.le_of_not_lt h32, h35, hs⟩
        rw [not_or, not_exists] at hlow
        rw [if_neg hlow.1, TextForm.taggedText?_of_forall_not_mem hlow.2,
          hbig (Nat.le_of_not_lt h32)]
    · rw [if_neg h35, Option.bind_none, hbig (by omega)]
  · simp [hu]

theorem readsTexts_of {id : Identifier} (ho : ¬ id.IsOctetString) (ht : ¬ id.IsTakenForString) :
    ReadsTexts id := by
  have hsome : ∀ {content : Bytes}, Fits content → ∀ rest text,
      decodeText? (encodeAs id content ++ rest) = some text ↔ id.tagClass = .universal
        ∧ ∃ form : TextForm, id.tag ∈ form.tags ∧ form.Encodes text content := by
    intro content hc rest text
    rw [decodeText?_encodeAs ho ht hc]
    split_ifs with hu
    · simp only [TextForm.taggedText?_eq_some_iff, hu, true_and]
    · simp only [hu, false_and]
  refine ⟨hsome, ?_, ?_, ?_⟩
  · intro content hc rest
    rw [decodeText?_encodeAs ho ht hc]
    split_ifs with hu
    · simp only [TextForm.taggedText?_eq_none_iff, hu, true_imp_iff]
    · simp only [hu, false_imp_iff]
  · intro a b ha hb rest rest' text hta htb
    obtain ⟨-, form, hf, henc⟩ := (hsome ha rest text).1 hta
    obtain ⟨-, form', hf', henc'⟩ := (hsome hb rest' text).1 htb
    obtain rfl := TextForm.eq_of_mem_tags hf hf'
    exact henc.inj henc'
  · intro form hform hu hf text
    obtain ⟨content, henc⟩ := TextForm.exists_encodes hform text
    exact ⟨content, henc, fun hc rest => (hsome hc rest text).2 ⟨hu, form, hf, henc⟩⟩

theorem fits_of_length_lt {content : Bytes} (h : content.length < 128) : Fits content :=
  Nat.lt_trans h (by decide)

/-- An element that is taken for a string has a text, if its content is that of an empty one. -/
theorem exists_decodeText?_of_isTakenForString {id : Identifier} (ht : id.IsTakenForString) :
    ∃ content, Fits content ∧ decodeText? (encodeAs id content ++ []) = some "" := by
  obtain ⟨hu, -, h35, hs⟩ := ht
  have hseen : seenTag? id.tag = some (id.tag % 2 ^ 32) := by rw [seenTag?, if_pos h35]
  rcases hs with ho | ⟨form, hf⟩
  · refine ⟨[0x0c, 0x00], fits_of_length_lt (by decide), ?_⟩
    rw [decodeText?, maxTextDepth, wrappedText?_encodeAs 3 id (fits_of_length_lt (by decide)),
      hseen, Option.bind_some, if_neg (not_not.2 hu), if_pos ho]
    decide
  · refine ⟨[], fits_of_length_lt (by decide), ?_⟩
    have hne : id.tag % 2 ^ 32 ≠ Tag.octetString := fun he =>
      TextForm.octetString_not_mem_tags form (he ▸ hf)
    rw [decodeText?, maxTextDepth, wrappedText?_encodeAs 3 id (fits_of_length_lt (by decide)),
      hseen, Option.bind_some, if_neg (not_not.2 hu), if_neg hne, TextForm.taggedText?_of_mem hf]
    cases form <;> decide

/-- The elements of an identifier hold the texts that they encode, and no others, unless its number
is taken for that of a string. -/
theorem readsTexts_iff {id : Identifier} (ho : ¬ id.IsOctetString) :
    ReadsTexts id ↔ ¬ id.IsTakenForString := by
  constructor
  · intro hr ht
    obtain ⟨content, hc, htext⟩ := exists_decodeText?_of_isTakenForString ht
    obtain ⟨-, form, hf, -⟩ := (hr.some_iff hc [] "").1 htext
    have hlt := TextForm.lt_of_mem_tags hf
    have hge := ht.2.1
    omega
  · exact readsTexts_of ho

theorem readsTexts_bmpString : ¬ Identifier.IsOctetString ⟨.universal, false, Tag.bmpString⟩
    ∧ ReadsTexts ⟨.universal, false, Tag.bmpString⟩ := by
  have ho : ¬ Identifier.IsOctetString ⟨.universal, false, Tag.bmpString⟩ := fun h =>
    absurd h.2 (by decide)
  exact ⟨ho, (readsTexts_iff ho).2 fun ht => absurd ht.2.1 (by decide)⟩

/-- A tag number of 33 bits that is taken for that of a string in UTF-8. -/
theorem not_readsTexts_of_long_tag :
    encodeAs ⟨.universal, false, 2 ^ 32 + 12⟩ [0x41]
        = [0x1f, 0x90, 0x80, 0x80, 0x80, 0x0c, 0x01, 0x41]
      ∧ decodeText? [0x1f, 0x90, 0x80, 0x80, 0x80, 0x0c, 0x01, 0x41] = some "A"
      ∧ ¬ ReadsTexts ⟨.universal, false, 2 ^ 32 + 12⟩ := by
  have henc : encodeAs ⟨.universal, false, 2 ^ 32 + 12⟩ [0x41]
      = [0x1f, 0x90, 0x80, 0x80, 0x80, 0x0c, 0x01, 0x41] := by decide +kernel
  have htext : decodeText? [0x1f, 0x90, 0x80, 0x80, 0x80, 0x0c, 0x01, 0x41] = some "A" := by
    decide +kernel
  refine ⟨henc, htext, fun hr => ?_⟩
  rw [← henc, ← List.append_nil (encodeAs _ _)] at htext
  obtain ⟨-, form, hf, -⟩ := (hr.some_iff (fits_of_length_lt (by decide)) [] "A").1 htext
  exact absurd (TextForm.lt_of_mem_tags hf) (by decide)

end SignerTrust
