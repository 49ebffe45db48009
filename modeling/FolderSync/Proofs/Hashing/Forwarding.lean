import FolderSync.Proofs.Hashing

/-!
# Hashing what a writer takes

However its calls end, a hashing writer has counted and hashed just the bytes that the writer behind
it took, in their order (`hashing_accounts`).

* `Writer.WritesAll`: offering a buffer until all of it is taken, with the bytes that were taken.  For
  a sink this always ends, and it is `Sink.writeAll` (`writesAll_iff`).
* `Writer.Runs`: the calls of a list, one after the other, whether they fail or not.
* `hashing_write`, `writesAll_hashing_iff`, `returns_hashing_iff`, `runs_hashing_iff`: one call of the
  writer behind, a whole buffer, one call of any kind, and all calls.
-/

namespace FolderSync

/-- The bytes of an offer that were taken. -/
def Attempt.taken {ε : Type} (offer : Bytes) : Attempt ε → Bytes
  | .took n => offer.take n
  | .interrupted => []
  | .failed _ => []

namespace Writer

variable {σ ε : Type}

/-! ### Calls -/

/-- The buffer is offered until all of it is taken, or a call takes nothing or fails; `taken` are the
bytes that were taken by then. -/
inductive WritesAll (w : Writer σ ε) :
    σ → Bytes → σ → Except (WriteFault ε) Unit → (taken : Bytes) → Prop
  | done (s : σ) : w.WritesAll s [] s (.ok ()) []
  | stalled {s t : σ} {buffer : Bytes} (hbuffer : buffer ≠ [])
      (hwrite : w.write s buffer = (t, .took 0)) : w.WritesAll s buffer t (.error .stalled) []
  | advance {s t u : σ} {buffer taken : Bytes} {n : Nat} {result : Except (WriteFault ε) Unit}
      (hbuffer : buffer ≠ []) (hwrite : w.write s buffer = (t, .took (n + 1)))
      (hrest : w.WritesAll t (buffer.drop (n + 1)) u result taken) :
      w.WritesAll s buffer u result (buffer.take (n + 1) ++ taken)
  | again {s t u : σ} {buffer taken : Bytes} {result : Except (WriteFault ε) Unit}
      (hbuffer : buffer ≠ []) (hwrite : w.write s buffer = (t, .interrupted))
      (hrest : w.WritesAll t buffer u result taken) : w.WritesAll s buffer u result taken
  | failed {s t : σ} {buffer : Bytes} {cause : ε} (hbuffer : buffer ≠ [])
      (hwrite : w.write s buffer = (t, .failed cause)) :
      w.WritesAll s buffer t (.error (.failed cause)) []

/-- A call of a writer. -/
inductive Call where
  | write (offer : Bytes)
  | writeAll (buffer : Bytes)
  | flush
deriving DecidableEq, Repr

/-- What a call returns. -/
inductive Answer (ε : Type) where
  | write (attempt : Attempt ε)
  | writeAll (result : Except (WriteFault ε) Unit)
  | flush (result : Except ε Unit)

/-- A call returns with an answer, after the writer has taken the bytes `taken`. -/
inductive Returns (w : Writer σ ε) : σ → Call → σ → Answer ε → (taken : Bytes) → Prop
  | write {s t : σ} {offer : Bytes} {attempt : Attempt ε} (h : w.write s offer = (t, attempt)) :
      w.Returns s (.write offer) t (.write attempt) (attempt.taken offer)
  | writeAll {s t : σ} {buffer taken : Bytes} {result : Except (WriteFault ε) Unit}
      (h : w.WritesAll s buffer t result taken) :
      w.Returns s (.writeAll buffer) t (.writeAll result) taken
  | flush {s t : σ} {result : Except ε Unit} (h : w.flush s = (t, result)) :
      w.Returns s .flush t (.flush result) []

/-- All calls return, one after the other, and the writer takes the bytes `taken` in all. -/
inductive Runs (w : Writer σ ε) : σ → List Call → σ → List (Answer ε) → (taken : Bytes) → Prop
  | nil (s : σ) : w.Runs s [] s [] []
  | cons {s t u : σ} {call : Call} {more : List Call} {answer : Answer ε}
      {answers : List (Answer ε)} {taken rest : Bytes} (hcall : w.Returns s call t answer taken)
      (hmore : w.Runs t more u answers rest) :
      w.Runs s (call :: more) u (answer :: answers) (taken ++ rest)

end Writer

/-! ### Whole buffers -/

namespace Sink

variable {σ ε : Type} (k : Sink σ ε)

/-- A sink takes no buffer for ever. -/
theorem exists_writesAll (s : σ) (buffer : Bytes) :
    ∃ taken, k.WritesAll s buffer (k.writeAll s buffer).1 (k.writeAll s buffer).2 taken := by
  induction s, buffer using Sink.writeAll.induct k with
  | case1 s =>
    rw [writeAll, if_pos rfl]
    exact ⟨[], .done s⟩
  | case2 s buffer hbuffer t hwrite =>
    rw [writeAll_eq k hbuffer hwrite]
    exact ⟨[], .stalled hbuffer hwrite⟩
  | case3 s buffer hbuffer t n hwrite ih =>
    obtain ⟨taken, hrest⟩ := ih
    rw [writeAll_eq k hbuffer hwrite]
    exact ⟨_, .advance hbuffer hwrite hrest⟩
  | case4 s buffer hbuffer t hwrite ih =>
    obtain ⟨taken, hrest⟩ := ih
    rw [writeAll_eq k hbuffer hwrite]
    exact ⟨taken, .again hbuffer hwrite hrest⟩
  | case5 s buffer hbuffer t cause hwrite =>
    rw [writeAll_eq k hbuffer hwrite]
    exact ⟨[], .failed hbuffer hwrite⟩

variable {k}

theorem writeAll_of_writesAll {s t : σ} {buffer taken : Bytes} {result : Except (WriteFault ε) Unit}
    (h : k.WritesAll s buffer t result taken) : k.writeAll s buffer = (t, result) := by
  induction h with
  | done s => rw [writeAll, if_pos rfl]
  | stalled hbuffer hwrite => rw [writeAll_eq k hbuffer hwrite]
  | advance hbuffer hwrite _ ih => rw [writeAll_eq k hbuffer hwrite, ← ih]
  | again hbuffer hwrite _ ih => rw [writeAll_eq k hbuffer hwrite, ← ih]
  | failed hbuffer hwrite => rw [writeAll_eq k hbuffer hwrite]

/-- **Writing a whole buffer to a sink is offering it until all of it is taken.** -/
theorem writesAll_iff {s t : σ} {buffer : Bytes} {result : Except (WriteFault ε) Unit} :
    (∃ taken, k.WritesAll s buffer t result taken) ↔ k.writeAll s buffer = (t, result) := by
  constructor
  · rintro ⟨taken, h⟩
    exact writeAll_of_writesAll h
  · intro h
    obtain ⟨taken, hall⟩ := k.exists_writesAll s buffer
    rw [h] at hall
    exact ⟨taken, hall⟩

end Sink

/-! ### A hashing writer -/

namespace Sink.Hashing

variable {σ : Type}

/-- The state after the writer behind has come to `inner` and has taken some more bytes. -/
def after (h : Hashing σ) (inner : σ) (taken : Bytes) : Hashing σ where
  inner
  stream := h.stream.update taken
  written := h.written + taken.length

theorem after_after (h : Hashing σ) (s t : σ) (p q : Bytes) :
    (h.after s p).after t q = h.after t (p ++ q) := by
  simp [after, Sha1.Stream.update_append, Nat.add_assoc]

theorem eq_after_append {h h' h'' : Hashing σ} {p q : Bytes} (hfirst : h' = h.after h'.inner p)
    (hsecond : h'' = h'.after h''.inner q) : h'' = h.after h''.inner (p ++ q) := by
  rw [hfirst, after_after] at hsecond
  exact hsecond

/-- The count and the digest are those of the bytes that were taken. -/
structure Accounts (h : Hashing σ) (taken : Bytes) : Prop where
  written : h.written = taken.length
  stream : h.stream = ({} : Sha1.Stream).update taken
  hash : h.hash = .of taken

/-- A hashing writer that started with nothing accounts for what was taken since then. -/
theorem accounts_iff {h : Hashing σ} {s : σ} {taken : Bytes} :
    h.Accounts taken ↔ h = ({ inner := s } : Hashing σ).after h.inner taken := by
  constructor
  · rintro ⟨hwritten, hstream, -⟩
    cases h
    simp_all [after]
  · intro hafter
    rw [hafter]
    exact ⟨Nat.zero_add _, rfl, ContentHash.ofStream_update taken⟩

end Sink.Hashing

namespace Writer

variable {σ ε : Type} {w : Writer σ ε} {h h' : Sink.Hashing σ}

/-- One call is passed on, and what is taken is counted and hashed. -/
theorem hashing_write {t : σ} {offer : Bytes} {attempt : Attempt ε}
    (hwrite : w.write h.inner offer = (t, attempt)) :
    w.hashing.write h offer = (h.after t (attempt.taken offer), attempt) := by
  unfold hashing
  dsimp only
  rw [hwrite]
  cases attempt with
  | took n =>
    have hle : n ≤ offer.length := w.took_le hwrite
    simp [Attempt.taken, Sink.Hashing.after, Nat.min_eq_left hle]
  | interrupted => rfl
  | failed cause => rfl

/-- A call of the hashing writer is one of the writer behind it. -/
theorem hashing_write_iff {offer : Bytes} {attempt : Attempt ε} :
    w.hashing.write h offer = (h', attempt) ↔
      w.write h.inner offer = (h'.inner, attempt) ∧ h' = h.after h'.inner (attempt.taken offer) := by
  constructor
  · intro hcall
    cases hwrite : w.write h.inner offer with
    | mk t other =>
      rw [hashing_write hwrite] at hcall
      obtain ⟨rfl, rfl⟩ := Prod.mk.inj hcall
      exact ⟨rfl, rfl⟩
  · rintro ⟨hwrite, hafter⟩
    rw [hashing_write hwrite, ← hafter]

theorem hashing_flush_iff {result : Except ε Unit} :
    w.hashing.flush h = (h', result) ↔
      w.flush h.inner = (h'.inner, result) ∧ h' = h.after h'.inner [] := by
  have hflush : w.hashing.flush h =
      (h.after (w.flush h.inner).1 [], (w.flush h.inner).2) := rfl
  rw [hflush]
  constructor
  · intro hcall
    obtain ⟨rfl, rfl⟩ := Prod.mk.inj hcall
    exact ⟨rfl, rfl⟩
  · rintro ⟨hinner, hafter⟩
    rw [hinner, ← hafter]

/-- A buffer that the writer behind takes is written through the hashing writer as well. -/
theorem WritesAll.hashing {s t : σ} {buffer taken : Bytes} {result : Except (WriteFault ε) Unit}
    (hall : w.WritesAll s buffer t result taken) (hs : h.inner = s) :
    w.hashing.WritesAll h buffer (h.after t taken) result taken := by
  induction hall generalizing h with
  | done s =>
    subst hs
    exact .done h
  | stalled hbuffer hwrite =>
    subst hs
    exact .stalled hbuffer (hashing_write hwrite)
  | @advance s t u buffer taken n result hbuffer hwrite _ ih =>
    subst hs
    have hrest := ih (h := h.after t (buffer.take (n + 1))) rfl
    rw [Sink.Hashing.after_after] at hrest
    exact .advance hbuffer (hashing_write hwrite) hrest
  | @again s t u buffer taken result hbuffer hwrite _ ih =>
    subst hs
    have hrest := ih (h := h.after t []) rfl
    rw [Sink.Hashing.after_after] at hrest
    exact .again hbuffer (hashing_write hwrite) hrest
  | failed hbuffer hwrite =>
    subst hs
    exact .failed hbuffer (hashing_write hwrite)

theorem writesAll_hashing_iff {buffer taken : Bytes} {result : Except (WriteFault ε) Unit} :
    w.hashing.WritesAll h buffer h' result taken ↔
      w.WritesAll h.inner buffer h'.inner result taken ∧ h' = h.after h'.inner taken := by
  constructor
  · intro hall
    induction hall with
    | done h => exact ⟨.done h.inner, rfl⟩
    | stalled hbuffer hwrite =>
      obtain ⟨hinner, hafter⟩ := hashing_write_iff.1 hwrite
      exact ⟨.stalled hbuffer hinner, hafter⟩
    | advance hbuffer hwrite _ ih =>
      obtain ⟨hinner, hafter⟩ := hashing_write_iff.1 hwrite
      obtain ⟨hrest, hlater⟩ := ih
      exact ⟨.advance hbuffer hinner hrest, Sink.Hashing.eq_after_append hafter hlater⟩
    | again hbuffer hwrite _ ih =>
      obtain ⟨hinner, hafter⟩ := hashing_write_iff.1 hwrite
      obtain ⟨hrest, hlater⟩ := ih
      exact ⟨.again hbuffer hinner hrest, Sink.Hashing.eq_after_append hafter hlater⟩
    | failed hbuffer hwrite =>
      obtain ⟨hinner, hafter⟩ := hashing_write_iff.1 hwrite
      exact ⟨.failed hbuffer hinner, hafter⟩
  · rintro ⟨hall, hafter⟩
    rw [hafter]
    exact hall.hashing rfl

/-! ### Calls of all kinds -/

theorem returns_hashing_iff {call : Call} {answer : Answer ε} {taken : Bytes} :
    w.hashing.Returns h call h' answer taken ↔
      w.Returns h.inner call h'.inner answer taken ∧ h' = h.after h'.inner taken := by
  constructor
  · rintro (hwrite | hall | hflush)
    · obtain ⟨hinner, hafter⟩ := hashing_write_iff.1 hwrite
      exact ⟨.write hinner, hafter⟩
    · obtain ⟨hinner, hafter⟩ := writesAll_hashing_iff.1 hall
      exact ⟨.writeAll hinner, hafter⟩
    · obtain ⟨hinner, hafter⟩ := hashing_flush_iff.1 hflush
      exact ⟨.flush hinner, hafter⟩
  · rintro ⟨hreturns, hafter⟩
    cases hreturns with
    | write hinner => exact .write (hashing_write_iff.2 ⟨hinner, hafter⟩)
    | writeAll hinner => exact .writeAll (writesAll_hashing_iff.2 ⟨hinner, hafter⟩)
    | flush hinner => exact .flush (hashing_flush_iff.2 ⟨hinner, hafter⟩)

theorem runs_hashing_iff {calls : List Call} {answers : List (Answer ε)} {taken : Bytes} :
    w.hashing.Runs h calls h' answers taken ↔
      w.Runs h.inner calls h'.inner answers taken ∧ h' = h.after h'.inner taken := by
  induction calls generalizing h answers taken with
  | nil =>
    constructor
    · rintro ⟨⟩
      exact ⟨.nil _, rfl⟩
    · rintro ⟨hruns, hafter⟩
      generalize hinner : h'.inner = t at hruns hafter
      cases hruns
      rw [hafter]
      exact .nil h
  | cons call more ih =>
    constructor
    · rintro (_ | ⟨hcall, hmore⟩)
      obtain ⟨hinner, hafter⟩ := returns_hashing_iff.1 hcall
      obtain ⟨hrest, hlater⟩ := ih.1 hmore
      exact ⟨.cons hinner hrest, Sink.Hashing.eq_after_append hafter hlater⟩
    · rintro ⟨hruns, hafter⟩
      generalize hinner : h'.inner = u at hruns hafter
      obtain - | @⟨_, t, _, _, _, answer, answers, taken, rest, hcall, hmore⟩ := hruns
      refine .cons (t := h.after t taken) (returns_hashing_iff.2 ⟨hcall, rfl⟩) (ih.2 ⟨?_, ?_⟩)
      · rw [hinner]
        exact hmore
      · rw [hinner, hafter, Sink.Hashing.after_after]

/-- **A hashing writer accounts for just the bytes that were taken.**  Any calls of it return just if
the same calls of the writer behind it do, with the same answers and the same bytes taken; then the
count is the number of these bytes, and the hash is theirs.  The run may end after any call, and calls
in it may have failed.  Writing a whole buffer to a hashing sink is one of these calls. -/
theorem hashing_accounts (w : Writer σ ε) :
    (∀ (s : σ) (calls : List Call) (h : Sink.Hashing σ) (answers : List (Answer ε)) (taken : Bytes),
      w.hashing.Runs { inner := s } calls h answers taken ↔
        w.Runs s calls h.inner answers taken ∧ h.Accounts taken) ∧
    ∀ (k : Sink σ ε) (h h' : Sink.Hashing σ) (buffer : Bytes) (result : Except (WriteFault ε) Unit),
      k.hashing.writeAll h buffer = (h', result) ↔
        ∃ taken, k.toWriter.hashing.WritesAll h buffer h' result taken := by
  refine ⟨fun s calls h answers taken => ?_, fun k h h' buffer result => Sink.writesAll_iff.symm⟩
  rw [runs_hashing_iff, Sink.Hashing.accounts_iff]

/-- A sink with room for three bytes fails in the middle of a buffer; just these three count. -/
example :
    let basin : Basin := { limit := some 2, capacity := some 3 }
    let outcome := Basin.sink.hashing.writeAll { inner := basin } (utf8 "abcde")
    outcome.2.isOk = false ∧ outcome.1.inner.content = utf8 "abc" ∧ outcome.1.written = 3 := by
  cbv

end Writer

end FolderSync
