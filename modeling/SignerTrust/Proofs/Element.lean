import SignerTrust.Der.Element

/-!
# Elements are read where they stand

Reading an element depends on its own bytes only: the identifier, the length and the content are
taken off the front, and what follows them does not count (`Local`).  So an element that was read
is a slice of the byte string, and that slice alone reads as the same element
(`Element.read?_slice`).
-/

namespace SignerTrust.Der

/-- What a reader takes off the front is read alike, whatever follows. -/
def Local {α : Type} (read? : Bytes → Option (α × Bytes)) : Prop :=
  ∀ ⦃bytes : Bytes⦄ ⦃x : α⦄ ⦃rest : Bytes⦄, read? bytes = some (x, rest) →
    ∃ used, bytes = used ++ rest ∧ ∀ more, read? (used ++ more) = some (x, more)

theorem local_take? (n : Nat) : Local (take? n) := by
  intro bytes content rest h
  unfold take? at h
  split at h
  · rename_i hn
    simp only [Option.some.injEq, Prod.mk.injEq] at h
    obtain ⟨rfl, rfl⟩ := h
    refine ⟨bytes.take n, (List.take_append_drop n bytes).symm, fun more => ?_⟩
    have hlen : (bytes.take n).length = n := List.length_take_of_le hn
    rw [take?, if_pos (by simp only [List.length_append]; omega), List.take_left' hlen,
      List.drop_left' hlen]
  · cases h

theorem take?_content {n : Nat} {bytes content rest : Bytes}
    (h : take? n bytes = some (content, rest)) : bytes = content ++ rest := by
  unfold take? at h
  split at h
  · cases h
    exact (List.take_append_drop n bytes).symm
  · cases h

theorem local_highTag? : ∀ fuel n, Local (highTag? fuel n)
  | 0, _ => fun _ _ _ h => by cases h
  | fuel + 1, n => by
    intro bytes x rest h
    rcases bytes with _ | ⟨b, bs⟩
    · cases h
    simp only [highTag?] at h
    split at h
    · rename_i hb
      simp only [Option.some.injEq, Prod.mk.injEq] at h
      obtain ⟨rfl, rfl⟩ := h
      exact ⟨[b], rfl, fun more => by simp [highTag?, hb]⟩
    · rename_i hb
      obtain ⟨used, rfl, hu⟩ := local_highTag? fuel _ h
      refine ⟨b :: used, rfl, fun more => ?_⟩
      simp only [List.cons_append, highTag?, if_neg hb]
      exact hu more

theorem local_identifier? : Local identifier? := by
  intro bytes x rest h
  rcases bytes with _ | ⟨b, bs⟩
  · cases h
  simp only [identifier?] at h
  split at h
  · rename_i hb
    obtain ⟨⟨n, r⟩, hn, hx⟩ := Option.map_eq_some_iff.1 h
    simp only [Prod.mk.injEq] at hx
    obtain ⟨rfl, rfl⟩ := hx
    obtain ⟨used, rfl, hu⟩ := local_highTag? 5 0 hn
    refine ⟨b :: used, rfl, fun more => ?_⟩
    simp only [List.cons_append, identifier?, if_pos hb, hu more, Option.map_some]
  · rename_i hb
    simp only [Option.some.injEq, Prod.mk.injEq] at h
    obtain ⟨rfl, rfl⟩ := h
    exact ⟨[b], rfl, fun more => by simp only [List.cons_append, List.nil_append, identifier?,
      if_neg hb]⟩

theorem local_length? : Local length? := by
  intro bytes x rest h
  rcases bytes with _ | ⟨b, bs⟩
  · cases h
  simp only [length?] at h
  split at h
  · rename_i h1
    cases h
    exact ⟨[b], rfl, fun more => by simp [length?, h1]⟩
  split at h
  · rename_i h1 h2
    cases h
    exact ⟨[b], rfl, fun more => by simp [length?, h2]⟩
  split at h
  · cases h
  rename_i h1 h2 h3
  obtain ⟨⟨digits, r⟩, hd, h⟩ := Option.bind_eq_some_iff.1 h
  split at h
  · rename_i hn
    cases h
    obtain ⟨used, rfl, hu⟩ := local_take? _ hd
    refine ⟨b :: used, rfl, fun more => ?_⟩
    simp only [List.cons_append, length?, if_neg h1, if_neg h2, if_neg h3, hu more,
      Option.bind_eq_bind, Option.bind_some, if_pos hn]
  · cases h

namespace Element

/-- An element that is read has an identifier, a length and so many bytes of content. -/
theorem read?_eq_some {bytes rest : Bytes} {e : Element} (h : read? bytes = some (e, rest)) :
    ∃ id n afterId body, identifier? bytes = some (id, afterId)
      ∧ length? afterId = some (.definite n, body) ∧ take? n body = some (e.content, rest)
      ∧ e = ⟨id.tagClass, id.constructed, id.tag, e.content,
        bytes.take (bytes.length - rest.length)⟩ := by
  obtain ⟨⟨id, afterId⟩, hi, h⟩ := Option.bind_eq_some_iff.1 h
  obtain ⟨⟨length, body⟩, hl, h⟩ := Option.bind_eq_some_iff.1 h
  rcases length with n | _
  · obtain ⟨⟨content, r⟩, hc, h⟩ := Option.bind_eq_some_iff.1 h
    cases h
    exact ⟨id, n, afterId, body, hi, hl, hc, rfl⟩
  · cases h

theorem read?_of {bytes afterId body content rest : Bytes} {id : Identifier} {n : Nat}
    (hi : identifier? bytes = some (id, afterId))
    (hl : length? afterId = some (.definite n, body)) (hc : take? n body = some (content, rest)) :
    read? bytes = some (⟨id.tagClass, id.constructed, id.tag, content,
      bytes.take (bytes.length - rest.length)⟩, rest) := by
  simp only [read?, hi, hl, hc, Option.bind_eq_bind, Option.bind_some]

/-- An element that is read stands at the front, its content at its own end, and its bytes read as
the same element whatever follows them. -/
theorem read?_slice {bytes rest : Bytes} {e : Element} (h : read? bytes = some (e, rest)) :
    bytes = e.encoding ++ rest ∧ (∃ header, e.encoding = header ++ e.content)
      ∧ ∀ more, read? (e.encoding ++ more) = some (e, more) := by
  obtain ⟨id, n, afterId, body, hi, hl, hc, he⟩ := read?_eq_some h
  obtain ⟨u₁, rfl, h₁⟩ := local_identifier? hi
  obtain ⟨u₂, rfl, h₂⟩ := local_length? hl
  obtain ⟨u₃, hb, h₃⟩ := local_take? n hc
  have hu : u₃ = e.content := by
    have := take?_content hc
    rw [hb] at this
    exact List.append_cancel_right this
  subst hu hb
  have henc : e.encoding = u₁ ++ (u₂ ++ e.content) := by
    rw [he]
    simp only [List.length_append, ← Nat.add_assoc, Nat.add_sub_cancel]
    rw [← List.append_assoc, ← List.append_assoc,
      List.take_left' (by simp only [List.length_append])]
    simp only [List.append_assoc]
  refine ⟨by simp only [henc, List.append_assoc],
    ⟨u₁ ++ u₂, by simp only [henc, List.append_assoc]⟩, fun more => ?_⟩
  have hbytes : e.encoding ++ more = u₁ ++ (u₂ ++ (e.content ++ more)) := by
    simp only [henc, List.append_assoc]
  rw [hbytes, read?_of (h₁ _) (h₂ _) (h₃ more), ← hbytes]
  simp only [List.length_append, Nat.add_sub_cancel]
  rw [List.take_left' rfl, he]

end Element

end SignerTrust.Der
