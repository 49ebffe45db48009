import FolderSync.Disk.Resolve
import FolderSync.Sink
import Mathlib.Tactic.Common

/-!
# Hashing in pieces

A digest does not depend on how the message is cut up.

* `Stream.finish_update`: a stream that has taken a message finishes with the digest of the message.
* `ofReads_reads`: reading a file through the buffer gives the hash of its bytes, or the cause of
  the failure behind them.
* `Sink.writeAll_eq`: offering a buffer comes down to the first call.
-/

namespace FolderSync

namespace Sha1

/-! ### Blocks -/

@[simp] theorem blocks_nil : blocks [] = [] := by rw [blocks]

/-- A whole block at the front is the first block. -/
theorem blocks_append {block : Bytes} (h : block.length = 64) (rest : Bytes) :
    blocks (block ++ rest) = block :: blocks rest := by
  obtain ⟨b, more, rfl⟩ := List.exists_cons_of_length_pos (l := block) (by omega)
  have hmore : more.length = 63 := by simpa using h
  have htake : (more ++ rest).take 63 = more := by rw [← hmore, List.take_left]
  have hdrop : (more ++ rest).drop 63 = rest := by rw [← hmore, List.drop_left]
  rw [List.cons_append, blocks, htake, hdrop]

/-- The padding fills the last block. -/
theorem length_padding_mod (n : Nat) : (n + (padding n).length) % 64 = 0 := by
  simp only [padding, List.length_cons, List.length_append, List.length_replicate,
    length_bigEndian, zeros]
  omega

namespace Stream

/-- The number kept beside the bytes in hand is theirs, and they are less than a block. -/
def Orderly (s : Stream) : Prop := s.held = s.pending.length ∧ s.held < 64

theorem Orderly.initial : Orderly {} := ⟨rfl, by decide⟩

theorem Orderly.push {s : Stream} (h : s.Orderly) (b : UInt8) : (s.push b).Orderly := by
  obtain ⟨hlen, hlt⟩ := h
  unfold Stream.push
  split
  · exact ⟨rfl, by simp⟩
  · refine ⟨?_, ?_⟩ <;> simp only [List.length_cons] <;> omega

theorem Orderly.update {s : Stream} (h : s.Orderly) (piece : Bytes) :
    (s.update piece).Orderly := by
  induction piece generalizing s with
  | nil => exact h
  | cons b rest ih => exact ih (h.push b)

/-- Bytes that end with a block leave the state after all blocks, those in hand included. -/
theorem state_update {s : Stream} (h : s.Orderly) (piece : Bytes)
    (hend : (s.pending.length + piece.length) % 64 = 0) :
    (s.update piece).state = (blocks (s.pending.reverse ++ piece)).foldl compress s.state := by
  induction piece generalizing s with
  | nil =>
    obtain ⟨hlen, hlt⟩ := h
    have hnil : s.pending = [] := by
      apply List.eq_nil_of_length_eq_zero
      simp only [List.length_nil] at hend
      omega
    simp [hnil]
  | cons b rest ih =>
    have hpush := h.push b
    obtain ⟨hlen, hlt⟩ := h
    have hstep : s.update (b :: rest) = (s.push b).update rest := rfl
    simp only [List.length_cons] at hend
    rw [hstep, ih hpush]
    · by_cases hfull : s.held = 63
      · -- the byte closes a block
        have hblock : (s.pending.reverse ++ [b]).length = 64 := by simp; omega
        have hsplit : s.pending.reverse ++ b :: rest = (s.pending.reverse ++ [b]) ++ rest := by simp
        rw [hsplit, blocks_append hblock, push, if_pos hfull]
        simp
      · rw [push, if_neg hfull]
        simp
    · unfold push
      split
      · simp only [List.length_nil]
        omega
      · simp only [List.length_cons]
        omega

@[simp] theorem length_update (s : Stream) (piece : Bytes) :
    (s.update piece).length = s.length + piece.length := by
  induction piece generalizing s with
  | nil => rfl
  | cons b rest ih =>
    have hpush : (s.push b).length = s.length + 1 := by
      unfold push
      split <;> rfl
    have hstep : s.update (b :: rest) = (s.push b).update rest := rfl
    rw [hstep, ih, hpush, List.length_cons]
    omega

/-- **A message taken in pieces has the digest of the whole message.** -/
theorem finish_update (message : Bytes) : (({} : Stream).update message).finish = digest message := by
  have hlen : (({} : Stream).update message).length = message.length := by simp
  rw [finish, hlen, ← update_append, digest]
  congr 1
  exact state_update .initial _ (by simpa using length_padding_mod message.length)

end Stream

end Sha1

/-! ### Files -/

namespace ContentHash

theorem ofDigest_congr {a b : Bytes} (h : a = b) (ha : a.length = 20) (hb : b.length = 20) :
    ofDigest a ha = ofDigest b hb := by
  subst h
  rfl

theorem ofStream_update (message : Bytes) :
    ofStream (({} : Sha1.Stream).update message) = of message :=
  ofDigest_congr (Sha1.Stream.finish_update message) _ _

end ContentHash

theorem flatten_pieces (size : Nat) (content : Bytes) : (pieces size content).flatten = content := by
  induction content using pieces.induct size with
  | case1 => rw [pieces, List.flatten_nil]
  | case2 b rest ih => rw [pieces, List.flatten_cons, ih, List.cons_append, List.take_append_drop]

theorem ne_nil_of_mem_pieces {size : Nat} {content piece : Bytes}
    (h : piece ∈ pieces size content) : piece ≠ [] := by
  induction content using pieces.induct size with
  | case1 => simp [pieces] at h
  | case2 b rest ih =>
    rw [pieces] at h
    rcases List.mem_cons.1 h with rfl | h
    · simp
    · exact ih h

namespace ContentHash

variable {ε : Type}

/-- Pieces that hold something are all taken. -/
theorem resume_data (s : Sha1.Stream) {ps : List Bytes} (hps : ∀ p ∈ ps, p ≠ [])
    (more : List (Read ε)) :
    resume s (ps.map .data ++ more) = resume (s.update ps.flatten) more := by
  induction ps generalizing s with
  | nil => simp
  | cons p ps ih =>
    obtain ⟨b, rest, rfl⟩ := List.exists_cons_of_ne_nil (hps p List.mem_cons_self)
    have hrest : ∀ p ∈ ps, p ≠ [] := fun p hp => hps p (List.mem_cons_of_mem _ hp)
    rw [List.map_cons, List.cons_append, resume, ih _ hrest, List.flatten_cons,
      Sha1.Stream.update_append]

/-- Reading a file gives the hash of its bytes, unless a failure stands behind them. -/
theorem ofReads_reads (c : Content) :
    ofReads c.reads = match c.fault with
      | none => .ok (of c.bytes)
      | some cause => .error cause := by
  rw [ofReads, Content.reads, readsOf, resume_data _ (fun p hp => ne_nil_of_mem_pieces hp),
    flatten_pieces]
  cases c.fault with
  | none => exact congrArg Except.ok (ofStream_update c.bytes)
  | some cause => rfl

end ContentHash

/-! ### A hashing sink -/

namespace Sink

variable {σ ε : Type}

/-- What is left of a buffer after one call. -/
theorem writeAll_eq (k : Sink σ ε) {s t : σ} {b : Bytes} {attempt : Attempt ε} (hb : b ≠ [])
    (h : k.write s b = (t, attempt)) :
    k.writeAll s b = match attempt with
      | .took 0 => (t, .error .stalled)
      | .took (n + 1) => k.writeAll t (b.drop (n + 1))
      | .interrupted => k.writeAll t b
      | .failed cause => (t, .error (.failed cause)) := by
  rw [writeAll, if_neg hb]
  split <;> rename_i hw <;> rw [h] at hw <;> obtain ⟨rfl, rfl⟩ := Prod.mk.inj hw <;> rfl

end Sink

end FolderSync
