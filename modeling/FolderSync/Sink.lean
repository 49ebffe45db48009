import FolderSync.ContentHash

/-!
# Writers and sinks

A writer takes bytes: each call takes some of the bytes offered, is interrupted or fails.  A sink is a
writer that is not interrupted for ever, so that a whole buffer can be written to it.

`Sink.writeAll` offers a buffer until all of it is taken, and `Sink.copy` one buffer after the other.
`Writer.hashing` and `Sink.hashing` put a running digest in front: the digest and the count see exactly
the bytes that were taken.
-/

namespace FolderSync

/-- What one call of a sink gives: the number of bytes taken, an interruption, or a failure. -/
inductive Attempt (ε : Type) where
  | took (count : Nat)
  | interrupted
  | failed (cause : ε)
deriving DecidableEq, Repr

/-- Something that takes bytes, with state in `σ` and failures in `ε`.  It takes no more than it is
offered. -/
structure Writer (σ ε : Type) where
  write : σ → Bytes → σ × Attempt ε
  flush : σ → σ × Except ε Unit
  took_le : ∀ {s b t n}, write s b = (t, .took n) → n ≤ b.length

/-- A writer that is not interrupted for ever. -/
structure Sink (σ ε : Type) extends Writer σ ε where
  patience : σ → Nat
  interrupted_lt : ∀ {s b t}, write s b = (t, .interrupted) → patience t < patience s

/-- Why a whole buffer could not be written. -/
inductive WriteFault (ε : Type) where
  /-- A call took nothing. -/
  | stalled
  | failed (cause : ε)
deriving DecidableEq, Repr

variable {σ ε : Type}

namespace Sink

/-- Offers the buffer again and again until all of it is taken. -/
def writeAll (k : Sink σ ε) (s : σ) (buffer : Bytes) : σ × Except (WriteFault ε) Unit :=
  if buffer = [] then (s, .ok ())
  else
    match h : k.write s buffer with
    | (t, .took 0) => (t, .error .stalled)
    | (t, .took (n + 1)) => k.writeAll t (buffer.drop (n + 1))
    | (t, .interrupted) => k.writeAll t buffer
    | (t, .failed cause) => (t, .error (.failed cause))
termination_by (buffer.length, k.patience s)
decreasing_by
  · have hle := k.took_le h
    apply Prod.Lex.left
    rw [List.length_drop]
    omega
  · exact Prod.Lex.right _ (k.interrupted_lt h)

/-- Writes pieces one after the other, up to the first that cannot be written as a whole. -/
def copy (k : Sink σ ε) (s : σ) : List Bytes → σ × Except (WriteFault ε) Unit
  | [] => (s, .ok ())
  | piece :: rest =>
    match k.writeAll s piece with
    | (t, .error fault) => (t, .error fault)
    | (t, .ok ()) => k.copy t rest

/-! ### Hashing on the way -/

/-- A writer's state with the digest and the number of the bytes it took. -/
structure Hashing (σ : Type) where
  inner : σ
  stream : Sha1.Stream := {}
  written : Nat := 0

end Sink

/-- Forwards every call and hashes the bytes that were taken. -/
def Writer.hashing (w : Writer σ ε) : Writer (Sink.Hashing σ) ε where
  write h b :=
    match w.write h.inner b with
    | (s, .took n) => (⟨s, h.stream.update (b.take n), h.written + n⟩, .took n)
    | (s, .interrupted) => ({ h with inner := s }, .interrupted)
    | (s, .failed cause) => ({ h with inner := s }, .failed cause)
  flush h :=
    let (s, result) := w.flush h.inner
    ({ h with inner := s }, result)
  took_le := by
    intro h b t n e
    split at e
    · rename_i hw
      cases e
      exact w.took_le hw
    · cases e
    · cases e

namespace Sink

/-- A sink that is hashed is interrupted as often as it is by itself. -/
def hashing (k : Sink σ ε) : Sink (Hashing σ) ε where
  toWriter := k.toWriter.hashing
  patience h := k.patience h.inner
  interrupted_lt := by
    intro h b t e
    unfold Writer.hashing at e
    dsimp only at e
    split at e
    · cases e
    · rename_i hw
      cases e
      exact k.interrupted_lt hw
    · cases e

/-- The hash of the bytes taken so far. -/
def Hashing.hash (h : Hashing σ) : ContentHash := .ofStream h.stream

end Sink

/-! ### A sink with little room -/

/-- A sink that keeps what it takes: at most `limit` bytes a call and `capacity` bytes in all.
A full one takes nothing, or fails when `stalls` is off. -/
structure Basin where
  limit : Option Nat := none
  capacity : Option Nat := none
  stalls : Bool := false
  flushFails : Bool := false
  content : Bytes := []
deriving DecidableEq, Repr

/-- Why a basin fails. -/
inductive BasinFault where
  | noSpace
  | flushFailed
deriving DecidableEq, Repr

/-- Number of bytes of an offer that the basin has room for. -/
def Basin.room (s : Basin) (offered : Nat) : Nat :=
  let byLimit := match s.limit with
    | some limit => min offered limit
    | none => offered
  match s.capacity with
  | some capacity => min byLimit (capacity - s.content.length)
  | none => byLimit

theorem Basin.room_le (s : Basin) (offered : Nat) : s.room offered ≤ offered := by
  unfold room
  dsimp only
  split <;> split <;> omega

/-- The basin as a sink. -/
def Basin.sink : Sink Basin BasinFault where
  write s b :=
    if s.room b.length = 0 ∧ b ≠ [] ∧ s.stalls = false then (s, .failed .noSpace)
    else ({ s with content := s.content ++ b.take (s.room b.length) }, .took (s.room b.length))
  flush s := if s.flushFails then (s, .error .flushFailed) else (s, .ok ())
  patience _ := 0
  took_le := by
    intro s b t n e
    split at e
    · cases e
    · cases e
      exact s.room_le _
  interrupted_lt := by
    intro s b t e
    split at e <;> cases e

end FolderSync
