import FolderSync.Proofs.Hashing

/-!
# Hashing what a reader delivers

A reader has a schedule to play: pieces of data, interruptions and failures.  It cuts the pieces as
it likes, up to the size of the buffer.  Hashing what it delivers ends, and the outcome is that of the
schedule, however the pieces are cut (`ofReads_answers`).

* `Read.delivered`, `Read.failure?`: what stands before the first zero-length read; `ofReads_eq` is
  the hash of any list of reads in these terms.
* `Read.Plays`: each call of the reader plays the next part of its schedule (`Read.Next`).
* `Next.delivered_eq`, `Next.failure?_eq`, `Next.work_lt`: what one call makes of the schedule.
-/

namespace FolderSync

namespace Read

variable {ε : Type}

/-- The bytes that a call delivers. -/
def bytes : Read ε → Bytes
  | .data piece => piece
  | .interrupted => []
  | .failed _ => []

/-- Why a call failed. -/
def cause? : Read ε → Option ε
  | .failed cause => some cause
  | .data _ => none
  | .interrupted => none

/-- Is this a zero-length read? -/
def isEnd : Read ε → Bool
  | .data [] => true
  | .data (_ :: _) => false
  | .interrupted => false
  | .failed _ => false

/-! ### What stands before the first zero-length read -/

def beforeEnd (reads : List (Read ε)) : List (Read ε) := reads.takeWhile fun r => !r.isEnd

/-- All bytes that are delivered before the first zero-length read. -/
def delivered (reads : List (Read ε)) : Bytes := (beforeEnd reads).flatMap bytes

/-- The first failure, if it comes before the first zero-length read. -/
def failure? (reads : List (Read ε)) : Option ε := (beforeEnd reads).findSome? cause?

/-- Does the loop call the reader again after this? -/
def GoesOn (r : Read ε) : Prop := r.isEnd = false ∧ r.cause? = none

section

variable {r : Read ε} (rest : List (Read ε))

theorem eq_of_not_goesOn (h : ¬ r.GoesOn) : r = .data [] ∨ ∃ cause, r = .failed cause := by
  match r with
  | .data [] => exact .inl rfl
  | .data (_ :: _) => exact absurd ⟨rfl, rfl⟩ h
  | .interrupted => exact absurd ⟨rfl, rfl⟩ h
  | .failed cause => exact .inr ⟨cause, rfl⟩

theorem not_goesOn_end : ¬ (.data [] : Read ε).GoesOn := fun h => nomatch h.1

theorem not_goesOn_failed (cause : ε) : ¬ (.failed cause : Read ε).GoesOn := fun h => nomatch h.2

theorem delivered_cons (h : r.GoesOn) : delivered (r :: rest) = r.bytes ++ delivered rest := by
  simp only [delivered, beforeEnd]
  rw [List.takeWhile_cons_of_pos (by simp [h.1]), List.flatMap_cons]

theorem failure?_cons (h : r.GoesOn) : failure? (r :: rest) = failure? rest := by
  simp only [failure?, beforeEnd]
  rw [List.takeWhile_cons_of_pos (by simp [h.1]), List.findSome?_cons, h.2]

theorem delivered_end : delivered (.data [] :: rest) = ([] : Bytes) := by
  simp [delivered, beforeEnd, isEnd]

theorem failure?_end : failure? (.data [] :: rest) = none := by
  simp [failure?, beforeEnd, isEnd]

theorem failure?_failed (cause : ε) : failure? (.failed cause :: rest) = some cause := by
  simp only [failure?, beforeEnd]
  rw [List.takeWhile_cons_of_pos rfl, List.findSome?_cons]
  rfl

end

end Read

open Read

variable {ε σ : Type}

namespace ContentHash

theorem resume_cons {r : Read ε} (h : r.GoesOn) (s : Sha1.Stream) (rest : List (Read ε)) :
    resume s (r :: rest) = resume (s.update r.bytes) rest := by
  match r with
  | .data [] => exact absurd h not_goesOn_end
  | .data (b :: piece) => rfl
  | .interrupted => rfl
  | .failed cause => exact absurd h (not_goesOn_failed cause)

theorem resume_eq (s : Sha1.Stream) (reads : List (Read ε)) :
    resume s reads = match failure? reads with
      | some cause => .error cause
      | none => .ok (ofStream (s.update (delivered reads))) := by
  induction reads generalizing s with
  | nil => rfl
  | cons r rest ih =>
    by_cases h : r.GoesOn
    · rw [resume_cons h, ih, failure?_cons rest h, delivered_cons rest h, Sha1.Stream.update_append]
    · obtain rfl | ⟨cause, rfl⟩ := eq_of_not_goesOn h
      · rw [failure?_end, delivered_end]
        rfl
      · rw [failure?_failed]
        rfl

/-- **The reads give the first failure, or else the hash of all bytes**, up to the first zero-length
read. -/
theorem ofReads_eq (reads : List (Read ε)) :
    ofReads reads = match failure? reads with
      | some cause => .error cause
      | none => .ok (of (delivered reads)) := by
  rw [ofReads, resume_eq, ofStream_update]

end ContentHash

/-! ### Readers that play a schedule -/

namespace Read

/-- One call of a reader that has a schedule to play: what it gives, and what is left to be played.
A piece is given in parts that are not empty and fit into the buffer; only an empty piece and the end
of the schedule give a zero-length read. -/
inductive Next : List (Read ε) → Read ε → List (Read ε) → Prop
  | ended : Next [] (.data []) []
  | empty (rest : List (Read ε)) : Next (.data [] :: rest) (.data []) rest
  | whole {piece : Bytes} (rest : List (Read ε)) (hpiece : piece ≠ [])
      (hfits : piece.length ≤ bufferSize) : Next (.data piece :: rest) (.data piece) rest
  | part {front back : Bytes} (rest : List (Read ε)) (hfront : front ≠ []) (hback : back ≠ [])
      (hfits : front.length ≤ bufferSize) :
      Next (.data (front ++ back) :: rest) (.data front) (.data back :: rest)
  | interrupted (rest : List (Read ε)) : Next (.interrupted :: rest) .interrupted rest
  | failed (cause : ε) (rest : List (Read ε)) : Next (.failed cause :: rest) (.failed cause) rest

/-- Each call of the reader plays the next part of the schedule that is left in its state. -/
def Plays (read : σ → σ × Read ε) (left : σ → List (Read ε)) : Prop :=
  ∀ s, Next (left s) (read s).2 (left (read s).1)

/-- What the next `n` calls give. -/
def answers (read : σ → σ × Read ε) : Nat → σ → List (Read ε)
  | 0, _ => []
  | n + 1, s => (read s).2 :: answers read n (read s).1

/-- The reader is called again after each of these reads but the last. -/
inductive Ends : List (Read ε) → Prop
  | last {r : Read ε} (h : ¬ r.GoesOn) : Ends [r]
  | more {r : Read ε} {rest : List (Read ε)} (h : r.GoesOn) (hrest : Ends rest) : Ends (r :: rest)

/-- A bound on the calls before the end of a schedule: one for each of its entries, one for each
byte. -/
def work : List (Read ε) → Nat
  | [] => 0
  | r :: rest => r.bytes.length + 1 + work rest

section

variable {l l' : List (Read ε)} {r : Read ε}

theorem goesOn_data {piece : Bytes} (h : piece ≠ []) : (.data piece : Read ε).GoesOn := by
  obtain ⟨b, rest, rfl⟩ := List.exists_cons_of_ne_nil h
  exact ⟨rfl, rfl⟩

theorem goesOn_interrupted : (.interrupted : Read ε).GoesOn := ⟨rfl, rfl⟩

/-- A call after which the reader is called again leaves less to be played. -/
theorem Next.work_lt (h : Next l r l') (hr : r.GoesOn) : work l' < work l := by
  cases h with
  | ended => exact absurd hr not_goesOn_end
  | empty => exact absurd hr not_goesOn_end
  | whole => simp [work, bytes]
  | @part front back rest hfront =>
    have hlt : 0 < front.length := List.length_pos_iff.2 hfront
    simp only [work, bytes, List.length_append]
    omega
  | interrupted => simp [work, bytes]
  | failed cause => exact absurd hr (not_goesOn_failed cause)

/-- The bytes of a call and those that are left make up what is to be delivered. -/
theorem Next.delivered_eq (h : Next l r l') (hr : r.GoesOn) :
    delivered l = r.bytes ++ delivered l' := by
  cases h with
  | ended => exact absurd hr not_goesOn_end
  | empty => exact absurd hr not_goesOn_end
  | whole => exact delivered_cons l' hr
  | @part front back rest hfront hback =>
    rw [delivered_cons rest (goesOn_data (by simp [hback])), delivered_cons rest (goesOn_data hback)]
    exact List.append_assoc front back _
  | interrupted => exact delivered_cons l' hr
  | failed cause => exact absurd hr (not_goesOn_failed cause)

theorem Next.failure?_eq (h : Next l r l') (hr : r.GoesOn) : failure? l = failure? l' := by
  cases h with
  | ended => exact absurd hr not_goesOn_end
  | empty => exact absurd hr not_goesOn_end
  | whole => exact failure?_cons l' hr
  | part rest hfront hback =>
    rw [failure?_cons rest (goesOn_data (by simp [hback])), failure?_cons rest (goesOn_data hback)]
  | interrupted => exact failure?_cons l' hr
  | failed cause => exact absurd hr (not_goesOn_failed cause)

/-- The last call shows how the schedule ends. -/
theorem Next.settles (h : Next l r l') (hr : ¬ r.GoesOn) (more : List (Read ε)) :
    failure? (r :: more) = failure? l ∧
      (failure? l = none → delivered (r :: more) = delivered l) := by
  cases h with
  | ended => exact ⟨failure?_end more, fun _ => delivered_end more⟩
  | empty rest =>
    rw [failure?_end, failure?_end, delivered_end, delivered_end]
    exact ⟨rfl, fun _ => rfl⟩
  | whole rest hpiece => exact absurd (goesOn_data hpiece) hr
  | part rest hfront => exact absurd (goesOn_data hfront) hr
  | interrupted => exact absurd goesOn_interrupted hr
  | failed cause rest =>
    rw [failure?_failed, failure?_failed]
    exact ⟨rfl, fun h => nomatch h⟩

end

/-! ### A reader with small reads -/

/-- Plays a schedule in parts of at most `size + 1` bytes. -/
def deal (size : Nat) : List (Read ε) → List (Read ε) × Read ε
  | [] => ([], .data [])
  | .data [] :: rest => (rest, .data [])
  | .data (b :: piece) :: rest =>
    (if piece.drop size = [] then rest else .data (piece.drop size) :: rest,
      .data (b :: piece.take size))
  | .interrupted :: rest => (rest, .interrupted)
  | .failed cause :: rest => (rest, .failed cause)

theorem plays_deal {size : Nat} (h : size < bufferSize) :
    Plays (deal size : List (Read ε) → List (Read ε) × Read ε) id := by
  rintro (_ | ⟨(_ | ⟨b, piece⟩) | _ | cause, rest⟩)
  · exact .ended
  · exact .empty rest
  · have hfits : (b :: piece.take size).length ≤ bufferSize := by
      simp only [List.length_cons, List.length_take]
      omega
    by_cases hback : piece.drop size = []
    · have htake : piece.take size = piece := List.take_of_length_le (List.drop_eq_nil_iff.1 hback)
      simp only [id, deal, if_pos hback, htake] at hfits ⊢
      exact .whole rest (by simp) hfits
    · have hsplit : b :: piece = (b :: piece.take size) ++ piece.drop size := by simp
      simp only [id, deal, if_neg hback]
      rw [hsplit]
      exact .part rest (by simp) hback hfits
  · exact .interrupted rest
  · exact .failed cause rest

/-! ### All calls -/

/-- The calls come to an end, and they fail with and deliver what the schedule does. -/
theorem Plays.exists_ends {read : σ → σ × Read ε} {left : σ → List (Read ε)} (h : Plays read left)
    (s : σ) :
    ∃ n ≤ work (left s) + 1, Ends (answers read n s) ∧ ∀ more,
      failure? (answers read n s ++ more) = failure? (left s) ∧
        (failure? (left s) = none → delivered (answers read n s ++ more) = delivered (left s)) := by
  induction hwork : work (left s) using Nat.strongRecOn generalizing s with
  | ind k ih =>
    subst hwork
    have hnext := h s
    by_cases hr : (read s).2.GoesOn
    · obtain ⟨n, hn, hends, hsame⟩ := ih _ (hnext.work_lt hr) _ rfl
      refine ⟨n + 1, ?_, .more hr hends, fun more => ?_⟩
      · have := hnext.work_lt hr
        omega
      · obtain ⟨hfailure, hdelivered⟩ := hsame more
        rw [answers, List.cons_append, failure?_cons _ hr, delivered_cons _ hr,
          hnext.failure?_eq hr, hnext.delivered_eq hr]
        exact ⟨hfailure, fun hnone => congrArg _ (hdelivered hnone)⟩
    · exact ⟨1, by omega, .last hr, hnext.settles hr⟩

end Read

namespace ContentHash

/-- **Hashing what a reader delivers ends, with the outcome of the schedule that the reader plays.**
After finitely many calls comes the one that is not followed by another.  If a failure stands in the
schedule before the first zero-length read, the outcome is that failure.  Otherwise the calls have
delivered the bytes of the schedule up to there, and the outcome is the hash of these bytes. -/
theorem ofReads_answers {read : σ → σ × Read ε} {left : σ → List (Read ε)} (h : Plays read left)
    (s : σ) :
    ∃ n ≤ work (left s) + 1, Ends (answers read n s) ∧
      (∀ cause, failure? (left s) = some cause →
        ∀ more, ofReads (answers read n s ++ more) = .error cause) ∧
      (failure? (left s) = none → delivered (answers read n s) = delivered (left s) ∧
        ∀ more, ofReads (answers read n s ++ more) = .ok (of (delivered (left s)))) := by
  obtain ⟨n, hn, hends, hsame⟩ := h.exists_ends s
  refine ⟨n, hn, hends, fun cause hcause more => ?_, fun hnone => ⟨?_, fun more => ?_⟩⟩
  · rw [ofReads_eq, (hsame more).1, hcause]
  · have hdelivered := (hsame []).2 hnone
    rw [List.append_nil] at hdelivered
    exact hdelivered
  · rw [ofReads_eq, (hsame more).1, (hsame more).2 hnone, hnone]

end ContentHash

namespace Read

/-- Two pieces with an interruption between them, and a failure behind the end. -/
def interruptedOnce : List (Read Unit) :=
  [.data (utf8 "abc"), .interrupted, .data (utf8 "de"), .data [], .failed ()]

end Read

namespace ContentHash

theorem ofReads_answers_interruptedOnce :
    ∃ n ≤ 11, Ends (answers (deal 1) n interruptedOnce) ∧
      delivered (answers (deal 1) n interruptedOnce) = utf8 "abcde" ∧
      ofReads (answers (deal 1) n interruptedOnce) = .ok (of (utf8 "abcde")) := by
  obtain ⟨n, hn, hends, -, hhash⟩ :=
    ofReads_answers (plays_deal (show 1 < bufferSize by decide)) interruptedOnce
  have hnone : failure? interruptedOnce = none := by decide
  have hbytes : delivered interruptedOnce = utf8 "abcde" := by decide
  obtain ⟨hdelivered, hmore⟩ := hhash hnone
  have hofReads := hmore []
  rw [List.append_nil] at hofReads
  exact ⟨n, hn, hends, hdelivered.trans hbytes, hofReads.trans (by rw [id, hbytes])⟩

end ContentHash

end FolderSync
