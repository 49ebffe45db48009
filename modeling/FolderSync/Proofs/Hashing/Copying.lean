import FolderSync.Proofs.Hashing.Forwarding

/-!
# Copying pieces to a writer

Pieces are written one after the other, up to the first that cannot be written as a whole.  What has been
taken by then is a prefix of the pieces, and all of them just if none failed.

* `Writer.Copies`: copying, with the bytes that were taken.  For a sink this always ends, and it is
  `Sink.copy` (`exists_copies`).
* `Copies.keeps`: what each call keeps of the bytes taken so far, copying keeps.
* `copies_hashing`: a hashing sink accounts for the bytes of all pieces that were taken.
* `TakesAll.copy`: where every offer is taken as a whole, all pieces are.
-/

namespace FolderSync

namespace Writer

variable {σ ε : Type} {w : Writer σ ε} {s t : σ} {buffer taken : Bytes} {pieces : List Bytes}
  {result : Except (WriteFault ε) Unit}

/-! ### One piece -/

/-- What was taken of a buffer is its front. -/
theorem WritesAll.taken_prefix (h : w.WritesAll s buffer t result taken) : taken <+: buffer := by
  induction h with
  | done => exact List.prefix_rfl
  | stalled => exact List.nil_prefix
  | @advance s t u buffer taken n result _ _ _ ih =>
    obtain ⟨rest, hrest⟩ := ih
    exact ⟨rest, by rw [List.append_assoc, hrest, List.take_append_drop]⟩
  | again _ _ _ ih => exact ih
  | failed => exact List.nil_prefix

/-- A buffer that was written has been taken as a whole. -/
theorem WritesAll.taken_eq (h : w.WritesAll s buffer t (.ok ()) taken) : taken = buffer := by
  generalize hresult : (Except.ok () : Except (WriteFault ε) Unit) = result at h
  induction h with
  | done => rfl
  | stalled => cases hresult
  | advance _ _ _ ih => rw [ih hresult, List.take_append_drop]
  | again _ _ _ ih => exact ih hresult
  | failed => cases hresult

section Keeps

variable {R : σ → Bytes → σ → Prop} (hrefl : ∀ s, R s [] s)
  (htrans : ∀ {s t u p q}, R s p t → R t q u → R s (p ++ q) u)
  (hwrite : ∀ s offer, R s ((w.write s offer).2.taken offer) (w.write s offer).1)

include hrefl htrans hwrite

/-- What each call keeps, writing a buffer keeps. -/
theorem WritesAll.keeps (h : w.WritesAll s buffer t result taken) : R s taken t := by
  have hcall : ∀ {s t offer attempt}, w.write s offer = (t, attempt) →
      R s (attempt.taken offer) t := by
    intro s t offer attempt hwritten
    have hkept := hwrite s offer
    rwa [hwritten] at hkept
  induction h with
  | done s => exact hrefl s
  | stalled _ hwritten =>
    have hkept := hcall hwritten
    rwa [Attempt.taken, List.take_zero] at hkept
  | advance _ hwritten _ ih => exact htrans (hcall hwritten) ih
  | again _ hwritten _ ih => exact htrans (hcall hwritten) ih
  | failed _ hwritten => exact hcall hwritten

end Keeps

/-! ### All pieces -/

/-- The pieces are written one after the other, up to the first that cannot be written as a whole; `taken`
are the bytes that were taken by then. -/
inductive Copies (w : Writer σ ε) :
    σ → List Bytes → σ → Except (WriteFault ε) Unit → (taken : Bytes) → Prop
  | done (s : σ) : w.Copies s [] s (.ok ()) []
  | more {s t u : σ} {piece taken rest : Bytes} {pieces : List Bytes}
      {result : Except (WriteFault ε) Unit} (hpiece : w.WritesAll s piece t (.ok ()) taken)
      (hrest : w.Copies t pieces u result rest) :
      w.Copies s (piece :: pieces) u result (taken ++ rest)
  | failed {s t : σ} {piece taken : Bytes} {pieces : List Bytes} {fault : WriteFault ε}
      (hpiece : w.WritesAll s piece t (.error fault) taken) :
      w.Copies s (piece :: pieces) t (.error fault) taken

/-- What was taken of all pieces is the front of what they make up. -/
theorem Copies.taken_prefix (h : w.Copies s pieces t result taken) : taken <+: pieces.flatten := by
  induction h with
  | done => exact List.prefix_rfl
  | more hpiece _ ih =>
    rw [hpiece.taken_eq, List.flatten_cons]
    exact (List.prefix_append_right_inj _).2 ih
  | failed hpiece => exact hpiece.taken_prefix.trans (List.prefix_append _ _)

theorem Copies.taken_eq (h : w.Copies s pieces t (.ok ()) taken) : taken = pieces.flatten := by
  generalize hresult : (Except.ok () : Except (WriteFault ε) Unit) = result at h
  induction h with
  | done => rfl
  | more hpiece _ ih => rw [hpiece.taken_eq, ih hresult, List.flatten_cons]
  | failed => cases hresult

/-- **What each call keeps of the bytes taken so far, copying keeps.** -/
theorem Copies.keeps {R : σ → Bytes → σ → Prop} (hrefl : ∀ s, R s [] s)
    (htrans : ∀ {s t u p q}, R s p t → R t q u → R s (p ++ q) u)
    (hwrite : ∀ s offer, R s ((w.write s offer).2.taken offer) (w.write s offer).1)
    (h : w.Copies s pieces t result taken) : R s taken t := by
  induction h with
  | done s => exact hrefl s
  | more hpiece _ ih => exact htrans (hpiece.keeps hrefl htrans hwrite) ih
  | failed hpiece => exact hpiece.keeps hrefl htrans hwrite

/-- A hashing writer copies what the writer behind it copies, and accounts for all of it. -/
theorem Copies.inner {h h' : Sink.Hashing σ} (hall : w.hashing.Copies h pieces h' result taken) :
    w.Copies h.inner pieces h'.inner result taken ∧ h' = h.after h'.inner taken := by
  induction hall with
  | done h => exact ⟨.done h.inner, rfl⟩
  | more hpiece _ ih =>
    obtain ⟨hinner, hafter⟩ := writesAll_hashing_iff.1 hpiece
    obtain ⟨hrest, hlater⟩ := ih
    exact ⟨.more hinner hrest, Sink.Hashing.eq_after_append hafter hlater⟩
  | failed hpiece =>
    obtain ⟨hinner, hafter⟩ := writesAll_hashing_iff.1 hpiece
    exact ⟨.failed hinner, hafter⟩

end Writer

namespace Sink

variable {σ ε : Type} {k : Sink σ ε} {s t : σ} {pieces : List Bytes}
  {result : Except (WriteFault ε) Unit}

/-- **Copying to a sink comes to an end.** -/
theorem exists_copies (k : Sink σ ε) (s : σ) (pieces : List Bytes) :
    ∃ taken, k.Copies s pieces (k.copy s pieces).1 (k.copy s pieces).2 taken := by
  induction pieces generalizing s with
  | nil => exact ⟨[], .done s⟩
  | cons piece pieces ih =>
    obtain ⟨taken, hpiece⟩ := k.exists_writesAll s piece
    unfold copy
    cases hwritten : k.writeAll s piece with
    | mk t outcome =>
      rw [hwritten] at hpiece
      cases outcome with
      | error fault => exact ⟨taken, .failed hpiece⟩
      | ok _ =>
        obtain ⟨rest, hrest⟩ := ih t
        exact ⟨taken ++ rest, .more hpiece hrest⟩

/-- The state and the result of copying to a hashing sink: it has taken the front of all pieces, all of
them if it succeeds, and accounts for what it has taken. -/
theorem copies_hashing (k : Sink σ ε) (s : σ) (pieces : List Bytes) :
    ∃ taken, k.Copies s pieces (k.hashing.copy { inner := s } pieces).1.inner
        (k.hashing.copy { inner := s } pieces).2 taken ∧
      (k.hashing.copy { inner := s } pieces).1.Accounts taken := by
  obtain ⟨taken, hall⟩ := k.hashing.exists_copies { inner := s } pieces
  obtain ⟨hinner, hafter⟩ := hall.inner
  exact ⟨taken, hinner, Hashing.accounts_iff.2 hafter⟩

/-! ### Where every offer is taken -/

/-- From a state in `P` a sink takes any offer as a whole, and comes to another such state. -/
def TakesAll (k : Sink σ ε) (P : σ → Prop) : Prop :=
  ∀ s b, P s → ∃ t, k.write s b = (t, .took b.length) ∧ P t

theorem TakesAll.writeAll {P : σ → Prop} (h : k.TakesAll P) (hs : P s) (b : Bytes) :
    ∃ t, k.writeAll s b = (t, .ok ()) ∧ P t := by
  by_cases hb : b = []
  · exact ⟨s, by rw [Sink.writeAll, if_pos hb], hs⟩
  · obtain ⟨t, hwrite, ht⟩ := h s b hs
    obtain ⟨first, rest, rfl⟩ := List.exists_cons_of_ne_nil hb
    refine ⟨t, ?_, ht⟩
    rw [List.length_cons] at hwrite
    rw [writeAll_eq k hb hwrite]
    simp [Sink.writeAll]

theorem TakesAll.copy {P : σ → Prop} (h : k.TakesAll P) (hs : P s) (pieces : List Bytes) :
    (k.copy s pieces).2 = .ok () := by
  induction pieces generalizing s with
  | nil => rfl
  | cons piece pieces ih =>
    obtain ⟨t, hpiece, ht⟩ := h.writeAll hs piece
    unfold Sink.copy
    rw [hpiece]
    exact ih ht

/-- A hashing sink before it takes all of it as well. -/
theorem TakesAll.hashing {P : σ → Prop} (h : k.TakesAll P) :
    k.hashing.TakesAll fun t => P t.inner := by
  intro t b ht
  obtain ⟨s, hwrite, hs⟩ := h t.inner b ht
  exact ⟨_, Writer.hashing_write hwrite, hs⟩

end Sink

end FolderSync
