import SignerTrust.Proofs.Body

/-!
# Reading a body in parts

A reader asks again and again for some bytes, never for more than its bound leaves, and gets what
is there of the next piece.  Whatever it asks for and however the pieces are cut, it has read the
first bytes of the body up to its bound and no others, and ends alike (`Run.result_eq`).  So what is
handed back depends on the bytes and the fault after them alone, and of a fault and a body that is
too long the length comes first (`read_in_parts`).
-/

namespace SignerTrust.BodyStream

variable {fault : Option (IoFault × String)} {limit : UInt64} {uri : String}

/-- The pieces that are left when a read takes up to `asked` bytes of the first one. -/
def leftAfter (asked : Nat) (piece : Bytes) (rest : List Bytes) : List Bytes :=
  if asked < piece.length then piece.drop asked :: rest else rest

/-- What a reader of `bound` bytes gets, read by read, and how it ends.  At its bound it asks for
nothing more; nothing read is the end of the stream. -/
inductive Run (fault : Option (IoFault × String)) :
    (bound : Nat) → (pieces reads : List Bytes) → Except (IoFault × String) Bytes → Prop
  | full (pieces : List Bytes) : Run fault 0 pieces [] (.ok [])
  | ended (bound : Nat) (h : fault = none) : Run fault (bound + 1) [] [] (.ok [])
  | failed (bound : Nat) (f : IoFault × String) (h : fault = some f) :
    Run fault (bound + 1) [] [] (.error f)
  | nothing (bound : Nat) (rest : List Bytes) : Run fault (bound + 1) ([] :: rest) [] (.ok [])
  | part (bound asked : Nat) (piece : Bytes) (rest reads : List Bytes)
    (r : Except (IoFault × String) Bytes) (hpos : 0 < asked) (hle : asked ≤ bound + 1)
    (hne : piece ≠ [])
    (h : Run fault (bound + 1 - (piece.take asked).length) (leftAfter asked piece rest) reads r) :
    Run fault (bound + 1) (piece :: rest) (piece.take asked :: reads)
      (r.map (piece.take asked ++ ·))

theorem flatten_leftAfter (asked : Nat) (piece : Bytes) (rest : List Bytes) :
    (piece :: rest).flatten = piece.take asked ++ (leftAfter asked piece rest).flatten := by
  unfold leftAfter
  split_ifs with h
  · rw [List.flatten_cons, List.flatten_cons, ← List.append_assoc, List.take_append_drop]
  · rw [List.flatten_cons, List.take_of_length_le (by omega)]

theorem leftAfter_ne_nil {asked : Nat} {piece : Bytes} {rest : List Bytes}
    (h : ∀ p ∈ rest, p ≠ []) : ∀ p ∈ leftAfter asked piece rest, p ≠ [] := by
  unfold leftAfter
  split_ifs with hlt
  · intro p hp
    rcases List.mem_cons.1 hp with rfl | hp
    · intro hnil
      have := congrArg List.length hnil
      simp only [List.length_drop, List.length_nil] at this
      omega
    · exact h p hp
  · exact h

/-- What is taken off depends on the bytes alone, so that a first part may be taken on its own. -/
theorem take_of_flatten {bound : Nat} {pieces left : List Bytes} {head : Bytes}
    (hflat : pieces.flatten = head ++ left.flatten) (hle : head.length ≤ bound) :
    take fault bound pieces = (take fault (bound - head.length) left).map (head ++ ·) := by
  rw [take_eq, take_eq, hflat, List.length_append]
  by_cases h : bound ≤ head.length + left.flatten.length
  · rw [if_pos h, if_pos (by omega), List.take_append, List.take_of_length_le hle]
    rfl
  · rw [if_neg h, if_neg (by omega)]
    rcases fault with _ | f <;> rfl

/-- Every run on pieces that are not empty ends as the reader's does, with the first bytes of the
body and no others read. -/
theorem Run.result_eq {bound : Nat} {pieces reads : List Bytes}
    {r : Except (IoFault × String) Bytes} (h : Run fault bound pieces reads r)
    (hne : ∀ p ∈ pieces, p ≠ []) :
    r = take fault bound pieces ∧ reads.flatten = pieces.flatten.take bound := by
  induction h with
  | full pieces => simp [take]
  | ended bound h => simp [take, h]
  | failed bound f h => simp [take, h]
  | nothing bound rest => exact absurd rfl (hne [] List.mem_cons_self)
  | part bound asked piece rest reads r hpos hle hpiece h ih =>
    have hflat := flatten_leftAfter asked piece rest
    have hlen : (piece.take asked).length ≤ bound + 1 := by
      rw [List.length_take]
      omega
    obtain ⟨hr, hreads⟩ := ih (leftAfter_ne_nil fun p hp => hne p (List.mem_cons_of_mem _ hp))
    constructor
    · rw [hr, take_of_flatten hflat hlen]
    · rw [List.flatten_cons, hreads, hflat, List.take_append, List.take_of_length_le hlen]

/-- A reader that asks for all that its bound leaves comes to an end. -/
theorem exists_run : ∀ (bound : Nat) (pieces : List Bytes), (∀ p ∈ pieces, p ≠ []) →
    ∃ reads r, Run fault bound pieces reads r
  | 0, pieces, _ => ⟨_, _, .full pieces⟩
  | bound + 1, [], _ => by
    rcases hf : fault with _ | f
    · exact ⟨_, _, .ended bound rfl⟩
    · exact ⟨_, _, .failed bound f rfl⟩
  | bound + 1, piece :: rest, hne => by
    have hpiece := hne piece List.mem_cons_self
    by_cases hlt : bound + 1 < piece.length
    · have hlen : bound + 1 - (piece.take (bound + 1)).length = 0 := by
        rw [List.length_take]
        omega
      refine ⟨_, _, .part bound (bound + 1) piece rest [] (.ok []) (by omega) (Nat.le_refl _)
        hpiece ?_⟩
      rw [hlen]
      exact .full _
    · have hlen : bound + 1 - (piece.take (bound + 1)).length = bound + 1 - piece.length := by
        rw [List.length_take]
        omega
      obtain ⟨reads, r, hr⟩ := exists_run (bound + 1 - piece.length) rest
        fun p hp => hne p (List.mem_cons_of_mem _ hp)
      refine ⟨_, _, .part bound (bound + 1) piece rest reads r (by omega) (Nat.le_refl _)
        hpiece ?_⟩
      rw [hlen, leftAfter, if_neg hlt]
      exact hr

theorem read_congr {pieces pieces' : List Bytes} (h : pieces'.flatten = pieces.flatten) :
    read ⟨pieces', fault⟩ limit uri = read ⟨pieces, fault⟩ limit uri := by
  simp only [read, take_eq, h]

/-- The error that tells of a fault. -/
def reported (uri : String) (f : IoFault × String) : HttpError :=
  if f.1 = .timedOut then .timeout uri else .io f.1 f.2

theorem isTimeout_reported (f : IoFault × String) :
    (reported uri f).isTimeout = true ↔ f.1 = .timedOut := by
  obtain ⟨fault, text⟩ := f
  cases fault <;> simp [reported, HttpError.isTimeout]

theorem reported_ne_tooLarge (f : IoFault × String) : reported uri f ≠ .tooLarge uri limit := by
  unfold reported
  split_ifs <;> simp

theorem read_of_fault (h : limit ≠ noLimit) (pieces : List Bytes) (f : IoFault × String) :
    read ⟨pieces, some f⟩ limit uri = some (if limit.toNat < pieces.flatten.length
      then .error (.tooLarge uri limit) else .error (reported uri f)) := by
  rw [read_eq h, bytes, Option.some.injEq]
  split_ifs
  · rfl
  · obtain ⟨fault, text⟩ := f
    cases fault <;> rfl

theorem reported_iff (h : limit ≠ noLimit) (pieces : List Bytes) (f : IoFault × String) :
    read ⟨pieces, some f⟩ limit uri = some (.error (reported uri f))
      ↔ pieces.flatten.length ≤ limit.toNat := by
  rw [read_of_fault h, Option.some.injEq]
  split_ifs with hlen
  · constructor
    · intro he
      exact absurd (Except.error.inj he).symm (reported_ne_tooLarge f)
    · omega
  · simp only [true_iff]
    omega

theorem read_of_lt (h : limit ≠ noLimit) {pieces : List Bytes}
    (hlen : limit.toNat < pieces.flatten.length) :
    read ⟨pieces, fault⟩ limit uri = some (.error (.tooLarge uri limit)) := by
  rw [read_eq h, bytes, if_pos hlen]

/-- However a body is cut and whatever each read asks for, reading it hands back one result, after
its first bytes up to the bound and no others; and what is handed back as a body is all of one that
ended well.  With every limit but the greatest there is a bound, a fault is told of exactly if the
body keeps within the limit, and a longer one is refused, its fault not met. -/
theorem read_in_parts (limit : UInt64) (uri : String) (fault : Option (IoFault × String))
    {pieces : List Bytes} (hne : ∀ p ∈ pieces, p ≠ []) :
    (∀ pieces', (∀ p ∈ pieces', p ≠ []) → pieces'.flatten = pieces.flatten →
        read ⟨pieces', fault⟩ limit uri = read ⟨pieces, fault⟩ limit uri)
      ∧ (∀ bound, readBound? limit = some bound →
        (∃ reads r, Run fault bound.toNat pieces reads r)
          ∧ ∀ reads r, Run fault bound.toNat pieces reads r →
            read ⟨pieces, fault⟩ limit uri = some (handBack limit uri r)
              ∧ reads.flatten = pieces.flatten.take bound.toNat)
      ∧ (∀ bytes, read ⟨pieces, fault⟩ limit uri = some (.ok bytes) →
        fault = none ∧ bytes = pieces.flatten)
      ∧ (limit ≠ noLimit →
        (∃ bound, readBound? limit = some bound ∧ bound.toNat = limit.toNat + 1)
          ∧ (∀ f, fault = some f →
            (read ⟨pieces, fault⟩ limit uri = some (.error (reported uri f))
                ↔ pieces.flatten.length ≤ limit.toNat)
              ∧ ((reported uri f).isTimeout = true ↔ f.1 = .timedOut))
          ∧ (limit.toNat < pieces.flatten.length →
            read ⟨pieces, fault⟩ limit uri = some (.error (.tooLarge uri limit)))) := by
  refine ⟨fun pieces' _ h => read_congr h, fun bound hbound => ⟨exists_run _ _ hne, ?_⟩, ?_, ?_⟩
  · intro reads r hrun
    obtain ⟨hr, hreads⟩ := hrun.result_eq hne
    refine ⟨?_, hreads⟩
    rw [read, hbound, Option.map_some, hr]
  · intro bytes hread
    obtain ⟨-, hf, -, hb⟩ := read_eq_ok_iff.1 hread
    exact ⟨hf, hb⟩
  · intro h
    refine ⟨exists_readBound? h, ?_, read_of_lt h⟩
    rintro f rfl
    exact ⟨reported_iff h pieces f, isTimeout_reported f⟩

/-- Two bytes in two pieces and a connection that is reset after them: with a limit of one byte the
body is too long, with a limit of two bytes the reset is told of. -/
theorem read_in_parts_of_reset :
    (∀ p ∈ ([[0xaa], [0xbb]] : List Bytes), p ≠ [])
      ∧ read ⟨[[0xaa], [0xbb]], some (.reset, "body failed")⟩ 1 "http://x.invalid/a"
        = some (.error (.tooLarge "http://x.invalid/a" 1))
      ∧ read ⟨[[0xaa], [0xbb]], some (.reset, "body failed")⟩ 2 "http://x.invalid/a"
        = some (.error (.io .reset "body failed")) := by
  have hne : ∀ p ∈ ([[0xaa], [0xbb]] : List Bytes), p ≠ [] := by decide
  obtain ⟨-, -, -, h⟩ :=
    read_in_parts 1 "http://x.invalid/a" (some (.reset, "body failed")) hne
  obtain ⟨-, -, -, h'⟩ :=
    read_in_parts 2 "http://x.invalid/a" (some (.reset, "body failed")) hne
  obtain ⟨-, -, hlong⟩ := h (by decide)
  obtain ⟨-, hfault, -⟩ := h' (by decide)
  exact ⟨hne, hlong (by decide), (hfault _ rfl).1.2 (by decide)⟩

end SignerTrust.BodyStream
