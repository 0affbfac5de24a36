import SignerTrust.Proofs.CharacterString

/-!
# Strings in octet strings

A string in three octet strings is read, and one in four is not: `maxTextDepth` counts the string
itself with the elements that may stand around it, so that it bounds the wrappers one lower than its
number says (`decodeText?_wrapped`).  Without a bound the octet strings would all be opened, since
what is in one is shorter than it (`exists_unwraps`); the bound makes a difference only where more
elements than it allows would be read (`Unwraps.wrappedText?_eq`).
-/

namespace SignerTrust

open Der

theorem Der.Fits.of_encodeAs {id : Identifier} {content : Bytes} (h : Fits (encodeAs id content)) :
    Fits content := by
  rw [encodeAs] at h
  exact h.right.right

/-- An element in so many octet strings. -/
def wrapped : Nat → Bytes → Bytes
  | 0, bytes => bytes
  | k + 1, bytes => encodeAs ⟨.universal, false, Tag.octetString⟩ (wrapped k bytes)

theorem wrappedText?_octetString (depth : Nat) {content : Bytes} (h : Fits content) (rest : Bytes) :
    wrappedText? (depth + 1) (encodeAs ⟨.universal, false, Tag.octetString⟩ content ++ rest)
      = wrappedText? depth content := by
  have hseen : seenTag? Tag.octetString = some Tag.octetString := rfl
  rw [wrappedText?_encodeAs depth _ h, hseen]
  simp only [Option.bind_some, ne_eq, not_true_eq_false, if_false, if_true]

/-- Each octet string uses up one of the elements that may be read. -/
theorem wrappedText?_wrapped {bytes : Bytes} : ∀ {k depth : Nat}, Fits (wrapped k bytes) →
    wrappedText? depth (wrapped k bytes)
      = if k < depth then wrappedText? (depth - k) bytes else none
  | _, 0, _ => by rw [wrappedText?, if_neg (Nat.not_lt_zero _)]
  | 0, depth + 1, _ => by rw [wrapped, if_pos (Nat.succ_pos depth), Nat.sub_zero]
  | k + 1, depth + 1, h => by
    have hstep := wrappedText?_octetString depth h.of_encodeAs []
    rw [List.append_nil] at hstep
    rw [wrapped, hstep, wrappedText?_wrapped h.of_encodeAs]
    simp only [Nat.add_lt_add_iff_right, Nat.add_sub_add_right]

theorem Der.Fits.of_wrapped {bytes : Bytes} : ∀ {k : Nat}, Fits (wrapped k bytes) → Fits bytes
  | 0, h => h
  | _ + 1, h => of_wrapped h.of_encodeAs

theorem wrappedText?_string {form : TextForm} {id : Identifier} (hu : id.tagClass = .universal)
    (hf : id.tag ∈ form.tags) {content : Bytes} (h : Fits content) (depth : Nat) (rest : Bytes) :
    wrappedText? (depth + 1) (encodeAs id content ++ rest) = form.decode? content := by
  have hlt := TextForm.lt_of_mem_tags hf
  have hseen : seenTag? id.tag = some id.tag := by
    rw [seenTag?, if_pos (by omega), Nat.mod_eq_of_lt (by omega)]
  have hne : id.tag ≠ Tag.octetString := fun he =>
    TextForm.octetString_not_mem_tags form (he ▸ hf)
  rw [wrappedText?_encodeAs depth id h, hseen, Option.bind_some, if_neg (not_not.2 hu),
    if_neg hne, TextForm.taggedText?_of_mem hf]

/-- What opening all octet strings comes to, and how many elements it reads. -/
inductive Unwraps : Bytes → Nat → Option String → Prop
  | refused {bytes : Bytes} (h : Element.read? bytes = none) : Unwraps bytes 1 none
  | foreign {bytes rest : Bytes} {e : Element} (h : Element.read? bytes = some (e, rest))
      (hu : e.tagClass ≠ .universal) : Unwraps bytes 1 none
  | string {bytes rest : Bytes} {e : Element} (h : Element.read? bytes = some (e, rest))
      (hu : e.tagClass = .universal) (ho : e.tag ≠ Tag.octetString) :
      Unwraps bytes 1 (taggedText? e.tag e.content)
  | wrapper {bytes rest : Bytes} {e : Element} {n : Nat} {answer : Option String}
      (h : Element.read? bytes = some (e, rest)) (hu : e.tagClass = .universal)
      (ho : e.tag = Tag.octetString) (hin : Unwraps e.content n answer) :
      Unwraps bytes (n + 1) answer

theorem length_lt_of_identifier? {bytes rest : Bytes} {id : Identifier}
    (h : identifier? bytes = some (id, rest)) : rest.length < bytes.length := by
  rcases bytes with _ | ⟨b, bs⟩
  · cases h
  simp only [identifier?] at h
  rw [List.length_cons, Nat.lt_succ_iff]
  split_ifs at h
  · obtain ⟨⟨n, r⟩, hn, hx⟩ := Option.map_eq_some_iff.1 h
    obtain ⟨-, rfl⟩ := Prod.mk.inj hx
    obtain ⟨used, rfl, -⟩ := local_highTag? 5 0 hn
    simp
  · obtain ⟨-, rfl⟩ := Prod.mk.inj (Option.some.inj h)
    exact Nat.le_refl _

theorem Der.Element.length_content_lt {bytes rest : Bytes} {e : Element}
    (h : Element.read? bytes = some (e, rest)) : e.content.length < bytes.length := by
  obtain ⟨id, n, afterId, body, hi, hl, hc, -⟩ := Element.read?_eq_some h
  have hlt := length_lt_of_identifier? hi
  obtain ⟨used, rfl, -⟩ := local_length? hl
  rw [take?_content hc] at hlt
  simp only [List.length_append] at hlt
  omega

/-- Opening octet strings comes to an end. -/
theorem exists_unwraps (bytes : Bytes) : ∃ n answer, Unwraps bytes n answer := by
  induction hlen : bytes.length using Nat.strongRecOn generalizing bytes with
  | ind length ih =>
    rcases h : Element.read? bytes with _ | ⟨e, rest⟩
    · exact ⟨1, none, .refused h⟩
    by_cases hu : e.tagClass = .universal
    · by_cases ho : e.tag = Tag.octetString
      · -- what is in an octet string is shorter than it
        have hlt := Element.length_content_lt h
        obtain ⟨n, answer, hin⟩ := ih e.content.length (hlen ▸ hlt) e.content rfl
        exact ⟨n + 1, answer, .wrapper h hu ho hin⟩
      · exact ⟨1, _, .string h hu ho⟩
    · exact ⟨1, none, .foreign h hu⟩

/-- The bound makes a difference only where more elements would be read. -/
theorem Unwraps.wrappedText?_eq {bytes : Bytes} {n : Nat} {answer : Option String}
    (h : Unwraps bytes n answer) :
    ∀ depth, wrappedText? depth bytes = if n ≤ depth then answer else none := by
  induction h with
  | refused h =>
    rintro (_ | depth)
    · rfl
    · rw [wrappedText?, h, if_pos (Nat.le_add_left 1 depth)]
      rfl
  | foreign h hu =>
    rintro (_ | depth)
    · rfl
    · rw [wrappedText?, h, if_pos (Nat.le_add_left 1 depth)]
      simp only [Option.bind_eq_bind, Option.bind_some, if_pos hu]
  | string h hu ho =>
    rintro (_ | depth)
    · rfl
    · rw [wrappedText?, h, if_pos (Nat.le_add_left 1 depth)]
      simp only [Option.bind_eq_bind, Option.bind_some, if_neg (not_not.2 hu), if_neg ho]
  | wrapper h hu ho _ ih =>
    rintro (_ | depth)
    · rfl
    · rw [wrappedText?, h]
      simp only [Option.bind_eq_bind, Option.bind_some, if_neg (not_not.2 hu), if_pos ho, ih depth,
        Nat.add_le_add_iff_right]

theorem decodeText?_wrapped_string {form : TextForm} {id : Identifier} {text : String}
    {content : Bytes} (hu : id.tagClass = .universal) (hf : id.tag ∈ form.tags)
    (henc : form.Encodes text content) {k : Nat} (h : Fits (wrapped k (encodeAs id content))) :
    decodeText? (wrapped k (encodeAs id content))
      = if k < maxTextDepth then some text else none := by
  rw [decodeText?, wrappedText?_wrapped h]
  split_ifs with hk
  · obtain ⟨depth, hdepth⟩ := Nat.exists_eq_succ_of_ne_zero (Nat.sub_ne_zero_of_lt hk)
    have hstring := wrappedText?_string hu hf h.of_wrapped.of_encodeAs depth []
    rw [List.append_nil] at hstring
    rw [hdepth, hstring, TextForm.decode?_eq_some_iff.2 henc]
  · rfl

theorem Certificate.extensionText?_of_find? {c : Certificate} {name : String} {e : Extension}
    (h : (c.extensions.find? fun e => e.name.dotted = name) = some e) :
    c.extensionText? name = decodeText? e.value := by
  rw [extensionText?, h]
  rfl

theorem GeneralName.otherText?_explicit (kind : Oid) (constructed : Bool) {value : Bytes}
    (h : Fits value) (rest : Bytes) :
    (otherName kind (encodeAs ⟨.contextSpecific, constructed, 0⟩ value ++ rest)).otherText?
      kind.dotted = decodeText? value := by
  have hseen : seenTag? 0 = some 0 := rfl
  simp only [otherText?, ne_eq, not_true_eq_false, if_false, Element.read?_encodeAs _ h, hseen,
    Option.map_some, Option.bind_eq_bind, Option.bind_some, and_self, if_true]

/-- A string in `k` octet strings is read exactly if `k` is less than `maxTextDepth`, alone, in an
extension and in a name of another kind; and opening octet strings comes to an end. -/
theorem decodeText?_wrapped {form : TextForm} {id : Identifier} {text : String} {content : Bytes}
    (hu : id.tagClass = .universal) (hf : id.tag ∈ form.tags) (henc : form.Encodes text content)
    {k : Nat} (hfit : Fits (wrapped k (encodeAs id content))) :
    decodeText? (wrapped k (encodeAs id content)) = (if k < maxTextDepth then some text else none)
    ∧ (∀ (c : Certificate) (name : String) (e : Extension),
      (c.extensions.find? fun e => e.name.dotted = name) = some e →
      e.value = wrapped k (encodeAs id content) →
      c.extensionText? name = if k < maxTextDepth then some text else none)
    ∧ (∀ (kind : Oid) (constructed : Bool) (rest : Bytes),
      (GeneralName.otherName kind (encodeAs ⟨.contextSpecific, constructed, 0⟩
        (wrapped k (encodeAs id content)) ++ rest)).otherText? kind.dotted
        = if k < maxTextDepth then some text else none)
    ∧ ∀ bytes, ∃ n answer, Unwraps bytes n answer
      ∧ decodeText? bytes = if n ≤ maxTextDepth then answer else none := by
  have hvalue := decodeText?_wrapped_string hu hf henc hfit
  refine ⟨hvalue, ?_, ?_, ?_⟩
  · intro c name e he hv
    rw [Certificate.extensionText?_of_find? he, hv, hvalue]
  · intro kind constructed rest
    rw [GeneralName.otherText?_explicit kind constructed hfit, hvalue]
  · intro bytes
    obtain ⟨n, answer, h⟩ := exists_unwraps bytes
    exact ⟨n, answer, h, h.wrappedText?_eq maxTextDepth⟩

theorem decodeText?_wrapped_thrice :
    Fits (wrapped 3 (encodeAs ⟨.universal, false, Tag.utf8String⟩ [0x65, 0x63]))
      ∧ decodeText? (wrapped 3 (encodeAs ⟨.universal, false, Tag.utf8String⟩ [0x65, 0x63]))
        = some "ec" := by
  have hfit : Fits (wrapped 3 (encodeAs ⟨.universal, false, Tag.utf8String⟩ [0x65, 0x63])) :=
    fits_of_length_lt (by decide +kernel)
  have henc : TextForm.utf8.Encodes "ec" [0x65, 0x63] :=
    TextForm.decode?_eq_some_iff.1 (by decide +kernel)
  exact ⟨hfit, (decodeText?_wrapped rfl (by decide) henc hfit).1⟩

/-- Of as many octet strings as `maxTextDepth` says not all are opened. -/
theorem not_decodeText?_wrapped_four :
    wrapped 4 (encodeAs ⟨.universal, false, Tag.utf8String⟩ [0x65, 0x63])
        = [0x04, 0x0a, 0x04, 0x08, 0x04, 0x06, 0x04, 0x04, 0x0c, 0x02, 0x65, 0x63]
      ∧ TextForm.utf8.Encodes "ec" [0x65, 0x63] ∧ 4 ≤ maxTextDepth
      ∧ decodeText? (wrapped 4 (encodeAs ⟨.universal, false, Tag.utf8String⟩ [0x65, 0x63]))
        = none := by
  have henc : TextForm.utf8.Encodes "ec" [0x65, 0x63] :=
    TextForm.decode?_eq_some_iff.1 (by decide +kernel)
  exact ⟨by decide +kernel, henc, by decide, by decide +kernel⟩

end SignerTrust
