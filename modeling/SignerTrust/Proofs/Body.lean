import Mathlib.Tactic.Common
import SignerTrust.Network.Http

/-!
# Bodies within a limit

However a body is cut into pieces, reading it up to a bound hands back its first bytes, or, if it is
shorter, all of it or the fault at its end (`take_eq`).  A body is therefore read as a whole exactly
if it ends well and keeps within the limit (`read_eq_ok_iff`), and none is cut short.  The one
exception is the greatest limit: its bound is no word any more, so that every read breaks off
(`readsWhole_iff`).
-/

namespace SignerTrust

/-- The greatest limit, which is meant for none. -/
def noLimit : UInt64 := 0xffffffffffffffff

namespace BodyStream

theorem take_eq (fault : Option (IoFault × String)) :
    ∀ (bound : Nat) (pieces : List Bytes), take fault bound pieces =
      if bound ≤ pieces.flatten.length then .ok (pieces.flatten.take bound)
      else match fault with
        | none => .ok pieces.flatten
        | some f => .error f
  | 0, _ => by simp [take]
  | bound + 1, [] => by
    rcases fault with _ | f <;> simp [take]
  | bound + 1, piece :: rest => by
    simp only [take, List.flatten_cons, List.length_append]
    split_ifs with h1 h2 h2
    · rw [List.take_append_of_le_length (by omega)]
    · omega
    · rw [take_eq fault (bound + 1 - piece.length) rest, if_pos (by omega), List.take_append,
        List.take_of_length_le (show piece.length ≤ bound + 1 by omega)]
      rfl
    · rw [take_eq fault (bound + 1 - piece.length) rest, if_neg (by omega)]
      rcases fault with _ | f <;> rfl

@[simp] theorem readBound?_noLimit : readBound? noLimit = none := rfl

theorem exists_readBound? {limit : UInt64} (h : limit ≠ noLimit) :
    ∃ bound, readBound? limit = some bound ∧ bound.toNat = limit.toNat + 1 := by
  have hne : limit.toNat ≠ noLimit.toNat := fun he => h (UInt64.toNat_inj.1 he)
  have hword : limit.toNat + 1 < UInt64.size :=
    Nat.lt_of_le_of_ne limit.toNat_lt fun he => hne (Nat.succ_inj.1 he)
  exact ⟨limit + 1, if_pos hword, (UInt64.toNat_add ..).trans (Nat.mod_eq_of_lt hword)⟩

theorem exists_readBound?_iff {limit : UInt64} :
    (∃ bound, readBound? limit = some bound ∧ bound.toNat = limit.toNat + 1)
      ↔ limit ≠ noLimit := by
  refine ⟨?_, exists_readBound?⟩
  rintro ⟨bound, hbound, -⟩ rfl
  exact Option.some_ne_none bound hbound.symm

@[simp] theorem read_noLimit (b : BodyStream) (uri : String) : b.read noLimit uri = none := rfl

/-- A body that is too long is refused, whatever its end; of another one its end decides. -/
theorem read_eq {limit : UInt64} (h : limit ≠ noLimit) (b : BodyStream) (uri : String) :
    b.read limit uri = some (
      if limit.toNat < b.bytes.length then .error (.tooLarge uri limit)
      else match b.fault with
        | none => .ok b.bytes
        | some (.timedOut, _) => .error (.timeout uri)
        | some (fault, text) => .error (.io fault text)) := by
  obtain ⟨bound, hb, hn⟩ := exists_readBound? h
  rw [read, hb, Option.map_some, Option.some.injEq, hn, take_eq, bytes]
  by_cases hlen : limit.toNat < b.pieces.flatten.length
  · have htake : (b.pieces.flatten.take (limit.toNat + 1)).length = limit.toNat + 1 :=
      List.length_take_of_le hlen
    simp only [if_pos hlen, if_pos (show limit.toNat + 1 ≤ _ from hlen), handBack, htake,
      Nat.lt_succ_self, if_true]
  · rw [if_neg (show ¬ limit.toNat + 1 ≤ _ from hlen), if_neg hlen]
    rcases b.fault with _ | ⟨fault, text⟩
    · simp only [handBack, if_neg hlen]
    · cases fault <;> rfl

theorem read_eq_none_iff {b : BodyStream} {limit : UInt64} {uri : String} :
    b.read limit uri = none ↔ limit = noLimit := by
  by_cases h : limit = noLimit
  · simp [h]
  · simp [read_eq h, h]

/-- A body is read if the limit is not the greatest, it ends well and keeps within the limit, and
then all of it is. -/
theorem read_eq_ok_iff {b : BodyStream} {limit : UInt64} {uri : String} {bytes : Bytes} :
    b.read limit uri = some (.ok bytes) ↔ limit ≠ noLimit
      ∧ b.fault = none ∧ b.bytes.length ≤ limit.toNat ∧ bytes = b.bytes := by
  by_cases h : limit = noLimit
  · simp [h]
  rw [read_eq h, Option.some.injEq, and_iff_right h]
  split_ifs with hlen
  · simp only [false_iff]
    omega
  · rcases b.fault with _ | ⟨fault, text⟩
    · simp [Nat.le_of_not_lt hlen, eq_comm]
    · cases fault <;> simp

/-- Whether every body that ends well is read as a whole if it is within the limit, and refused
otherwise. -/
def ReadsWhole (limit : UInt64) : Prop :=
  ∀ pieces uri, read ⟨pieces, none⟩ limit uri =
    some (if pieces.flatten.length ≤ limit.toNat then .ok pieces.flatten
      else .error (.tooLarge uri limit))

/-- Whether no body, however it ends, is cut short and handed back all the same. -/
def NeverCuts (limit : UInt64) : Prop :=
  ∀ (b : BodyStream) uri bytes, b.read limit uri = some (.ok bytes) → bytes = b.bytes

theorem not_readsWhole_noLimit : ¬ ReadsWhole noLimit := fun h =>
  Option.some_ne_none _ (h [] "").symm

theorem neverCuts (limit : UInt64) : NeverCuts limit := by
  intro b uri bytes hr
  obtain ⟨-, -, -, hb⟩ := read_eq_ok_iff.1 hr
  exact hb

theorem readsWhole_of_ne {limit : UInt64} (h : limit ≠ noLimit) : ReadsWhole limit := by
  intro pieces uri
  rw [read_eq h, bytes]
  by_cases hlen : limit.toNat < pieces.flatten.length
  · rw [if_pos hlen, if_neg (by omega)]
  · rw [if_neg hlen, if_pos (by omega)]

/-- With every limit but the greatest, a body that ends well is read as a whole exactly if it is
within the limit, and the bound of the read is one past the limit; with the greatest limit there is
no bound, and reading any body breaks off.  No limit cuts a body short that is handed back. -/
theorem readsWhole_iff (limit : UInt64) :
    (ReadsWhole limit ↔ limit ≠ noLimit) ∧ NeverCuts limit
      ∧ ((∃ bound, readBound? limit = some bound ∧ bound.toNat = limit.toNat + 1)
        ↔ limit ≠ noLimit)
      ∧ (limit = noLimit → ∀ (b : BodyStream) uri, b.read limit uri = none) := by
  refine ⟨⟨?_, readsWhole_of_ne⟩, neverCuts limit, exists_readBound?_iff, ?_⟩
  · rintro h rfl
    exact not_readsWhole_noLimit h
  · rintro rfl b uri
    exact read_noLimit b uri

/-- A body of two bytes, in two pieces, is far within the greatest limit and is not read. -/
theorem read_breaks_off :
    read ⟨[[0xaa], [0xbb]], none⟩ noLimit "http://x.invalid/a" = none
      ∧ ([[0xaa], [0xbb]] : List Bytes).flatten.length ≤ noLimit.toNat ∧ ¬ ReadsWhole noLimit :=
  ⟨read_noLimit _ _, by decide, not_readsWhole_noLimit⟩

end BodyStream

namespace HttpReply

/-- The body of a successful reply that is complete, within a limit and not empty. -/
def content? (limit : UInt64) (r : HttpReply) : Option Bytes :=
  if r.isSuccess ∧ r.body.fault = none ∧ r.body.bytes.length ≤ limit.toNat ∧ r.body.bytes ≠ [] then
    some r.body.bytes
  else none

/-- The body of a reply that a reader with a limit gets: none at all if the limit is the
greatest. -/
def received? (limit : UInt64) (r : HttpReply) : Option Bytes :=
  if limit = noLimit then none else r.content? limit

theorem received?_of_ne {limit : UInt64} (h : limit ≠ noLimit) (r : HttpReply) :
    r.received? limit = r.content? limit := if_neg h

/-- What a successful reply brings, unless it is empty, is what its reader gets. -/
theorem received?_eq_some_iff {limit : UInt64} {r : HttpReply} {uri : String} {bytes : Bytes} :
    r.received? limit = some bytes ↔
      r.isSuccess ∧ r.body.read limit uri = some (.ok bytes) ∧ bytes ≠ [] := by
  rw [received?, content?, Option.ite_none_left_eq_some, Option.ite_none_right_eq_some,
    BodyStream.read_eq_ok_iff]
  constructor
  · rintro ⟨h, ⟨hs, hf, hl, hn⟩, hb⟩
    cases hb
    exact ⟨hs, ⟨h, hf, hl, rfl⟩, hn⟩
  · rintro ⟨hs, ⟨h, hf, hl, rfl⟩, hn⟩
    exact ⟨h, ⟨hs, hf, hl, hn⟩, rfl⟩

end HttpReply

end SignerTrust
