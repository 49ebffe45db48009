import FolderSync.Proofs.Disk.Passage
import FolderSync.Volume

/-!
# What the operations on a volume do

`Volume.Makes` tells what lies between two volumes: the changes that were made, and that some responses
were used up.  Each operation leaves the volume as it is or makes one call; when that is refused only a
response is used up, and the cause is the refusal.

* `Volume.Grants`: the disk grants the next few calls; `call_cases`: what it does to one.
* `makeDirectory_cases`, `createFile_cases`, `rename_cases`: what becomes of each operation.
* `Volume.Calm`: the disk grants all calls.
-/

namespace FolderSync

theorem Disk.replay_append (d : Disk) (xs ys : List Change) :
    d.replay (xs ++ ys) = (d.replay xs).replay ys := List.foldl_append

namespace Volume

variable {u v w : Volume} {c : Change} {cs ds : List Change} {cause : Cause}

/-- From one volume to another the changes `cs` were made, and calls have met their responses. -/
structure Makes (v : Volume) (cs : List Change) (w : Volume) : Prop where
  disk : w.disk = v.disk.replay cs
  journal : w.journal = v.journal ++ cs
  responses : w.responses <:+ v.responses

theorem Makes.refl (v : Volume) : v.Makes [] v := ⟨rfl, by simp, List.suffix_rfl⟩

theorem Makes.trans (h : u.Makes cs v) (g : v.Makes ds w) : u.Makes (cs ++ ds) w := by
  refine ⟨?_, ?_, g.responses.trans h.responses⟩
  · rw [g.disk, h.disk, Disk.replay_append]
  · rw [g.journal, h.journal, List.append_assoc]

/-- Without a change the disk is the same. -/
theorem Makes.disk_eq (h : v.Makes [] w) : w.disk = v.disk := h.disk

/-- One change has its effect. -/
theorem Makes.disk_apply (h : v.Makes [c] w) : w.disk = c.apply v.disk := h.disk

theorem makes_answered (v : Volume) : v.Makes [] v.answered :=
  ⟨rfl, by simp, List.tail_suffix _⟩

theorem makes_perform (v : Volume) (c : Change) : v.Makes [c] (v.perform c) :=
  ⟨rfl, rfl, List.suffix_rfl⟩

/-! ### Calls -/

/-- The disk refuses none of the next `n` calls. -/
def Grants (v : Volume) (n : Nat) : Prop := ∀ reason, .refused reason ∉ v.responses.take n

theorem grants_one : v.Grants 1 ↔ ∀ reason, v.response ≠ .refused reason := by
  unfold Grants response
  cases v.responses <;> simp [eq_comm]

theorem grants_succ {n : Nat} : v.Grants (n + 1) ↔ v.Grants 1 ∧ v.answered.Grants n := by
  unfold Grants answered
  cases v.responses <;> simp [forall_and]

/-- A call is granted or refused. -/
theorem call_cases (v : Volume) : (v.Grants 1 ∧ v.call = (v.answered, .ok ())) ∨
    ¬ v.Grants 1 ∧ ∃ reason, v.call = (v.answered, .error (.refused reason)) := by
  rw [grants_one]
  unfold call
  split
  · rename_i reason hrefused
    exact .inr ⟨fun h => h reason hrefused, reason, rfl⟩
  · rename_i hgranted
    exact .inl ⟨hgranted, rfl⟩

theorem makes_call (v : Volume) : v.Makes [] v.call.1 := by
  rcases v.call_cases with ⟨-, h⟩ | ⟨-, _, h⟩ <;> rw [h] <;> exact v.makes_answered

theorem attempt_eq_ok (h : v.attempt c = (w, .ok ())) : v.Makes [c] w := by
  unfold attempt at h
  rcases v.call_cases with ⟨-, hcall⟩ | ⟨-, reason, hcall⟩
  · rw [hcall] at h
    cases h
    exact v.makes_answered.trans (makes_perform _ c)
  · rw [hcall] at h
    cases h

theorem attempt_eq_error (h : v.attempt c = (w, .error cause)) :
    v.Makes [] w ∧ ∃ reason, cause = .refused reason := by
  unfold attempt at h
  rcases v.call_cases with ⟨-, hcall⟩ | ⟨-, reason, hcall⟩
  · rw [hcall] at h
    cases h
  · rw [hcall] at h
    cases h
    exact ⟨v.makes_answered, reason, rfl⟩

/-! ### The operations -/

/-- Making a directory fails as it is, or is one change where the steps before its name lead and nothing
stands. -/
theorem makeDirectory_cases (v : Volume) (t : Trail) :
    (∃ cause, v.makeDirectory t = (v, .error cause)) ∨
      ∃ steps name parent, t.steps = steps ++ [.into name] ∧ name.length ≤ nameLimit ∧
        v.disk.walk true linkLimit (v.disk.start t) (steps ++ [.stay]) = .ok parent ∧
        v.disk.find? (parent ++ [name]) = none ∧
        v.makeDirectory t = v.attempt (.makeDirectory (parent ++ [name])) := by
  unfold makeDirectory
  cases hslot : v.disk.slot t with
  | error cause => exact .inl ⟨cause, rfl⟩
  | ok place =>
    obtain ⟨parent, name⟩ := place
    obtain ⟨steps, ht, hlen, hwalk⟩ := Disk.slot_eq_ok hslot
    dsimp only
    cases hfound : v.disk.find? (parent ++ [name]) with
    | some e => exact .inl ⟨_, rfl⟩
    | none => exact .inr ⟨steps, name, parent, ht, hlen, hwalk, hfound, rfl⟩

/-- A directory that is made stands where the steps before its name lead, and nothing stood there. -/
theorem makeDirectory_eq_ok {t : Trail} (h : v.makeDirectory t = (w, .ok ())) :
    ∃ steps name parent, t.steps = steps ++ [.into name] ∧ name.length ≤ nameLimit ∧
      v.disk.walk true linkLimit (v.disk.start t) (steps ++ [.stay]) = .ok parent ∧
      v.disk.find? (parent ++ [name]) = none ∧ v.Makes [.makeDirectory (parent ++ [name])] w := by
  rcases v.makeDirectory_cases t with
    ⟨cause, hfailed⟩ | ⟨steps, name, parent, ht, hlen, hwalk, hfresh, heq⟩
  · rw [hfailed] at h
    cases h
  · rw [heq] at h
    exact ⟨steps, name, parent, ht, hlen, hwalk, hfresh, attempt_eq_ok h⟩

theorem makeDirectory_eq_error {t : Trail} (h : v.makeDirectory t = (w, .error cause)) :
    v.Makes [] w ∧ (w = v ∨ ∃ reason, cause = .refused reason) := by
  rcases v.makeDirectory_cases t with ⟨cause, hfailed⟩ | ⟨_, _, _, _, _, _, _, heq⟩
  · rw [hfailed] at h
    cases h
    exact ⟨.refl _, .inl rfl⟩
  · rw [heq] at h
    exact (attempt_eq_error h).imp_right .inr

/-- Making a file fails as it is, or is one change where nothing stands. -/
theorem createFile_cases (v : Volume) (p : Path) :
    (∃ cause, v.createFile p = (v, .error cause)) ∨
      ∃ loc, v.entryLocation p = .ok loc ∧ v.disk.find? loc = none ∧
        v.createFile p = match v.attempt (.createFile loc) with
          | (w, .error cause) => (w, .error cause)
          | (w, .ok ()) => (w, .ok loc) := by
  unfold createFile
  cases hplace : v.entryLocation p with
  | error cause => exact .inl ⟨cause, rfl⟩
  | ok loc =>
    dsimp only
    cases hfound : v.disk.find? loc with
    | some e => exact .inl ⟨_, rfl⟩
    | none => exact .inr ⟨loc, rfl, hfound, rfl⟩

theorem createFile_eq_ok {p : Path} {loc : Location} (h : v.createFile p = (w, .ok loc)) :
    v.entryLocation p = .ok loc ∧ v.disk.find? loc = none ∧ v.Makes [.createFile loc] w := by
  rcases v.createFile_cases p with ⟨cause, hfailed⟩ | ⟨place, hplace, hfresh, heq⟩
  · rw [hfailed] at h
    cases h
  · rw [heq] at h
    split at h <;> cases h
    rename_i hattempt
    exact ⟨hplace, hfresh, attempt_eq_ok hattempt⟩

theorem createFile_eq_error {p : Path} (h : v.createFile p = (w, .error cause)) :
    v.Makes [] w ∧ (w = v ∨ ∃ reason, cause = .refused reason) := by
  rcases v.createFile_cases p with ⟨cause, hfailed⟩ | ⟨_, _, _, heq⟩
  · rw [hfailed] at h
    cases h
    exact ⟨.refl _, .inl rfl⟩
  · rw [heq] at h
    split at h <;> cases h
    rename_i hattempt
    exact (attempt_eq_error hattempt).imp_right .inr

/-- Renaming fails as it is, or is one change that moves what is there to a place where no directory
stands. -/
theorem rename_cases (v : Volume) (source target : Path) :
    (∃ cause, v.rename source target = (v, .error cause)) ∨
      ∃ old new e, v.entryLocation source = .ok old ∧ v.entryLocation target = .ok new ∧
        v.disk.find? old = some e ∧ v.disk.find? new ≠ some .directory ∧
        v.rename source target = v.attempt (.rename old new) := by
  unfold rename
  cases hold : v.entryLocation source with
  | error cause => exact .inl ⟨cause, rfl⟩
  | ok old =>
    cases hnew : v.entryLocation target with
    | error cause => exact .inl ⟨cause, rfl⟩
    | ok new =>
      dsimp only
      cases hfound : v.disk.find? old with
      | none => exact .inl ⟨_, rfl⟩
      | some e =>
        by_cases hdir : v.disk.find? new = some .directory
        · rw [hdir]
          exact .inl ⟨_, rfl⟩
        · refine .inr ⟨old, new, e, rfl, rfl, hfound, hdir, ?_⟩
          split
          · cases ‹some e = none›
          · exact absurd ‹v.disk.find? new = some .directory› hdir
          · rfl

theorem rename_eq_ok {source target : Path} (h : v.rename source target = (w, .ok ())) :
    ∃ old new e, v.entryLocation source = .ok old ∧ v.entryLocation target = .ok new ∧
      v.disk.find? old = some e ∧ v.disk.find? new ≠ some .directory ∧ v.Makes [.rename old new] w := by
  rcases v.rename_cases source target with
    ⟨cause, hfailed⟩ | ⟨old, new, e, hold, hnew, hfound, hfree, heq⟩
  · rw [hfailed] at h
    cases h
  · rw [heq] at h
    exact ⟨old, new, e, hold, hnew, hfound, hfree, attempt_eq_ok h⟩

theorem rename_eq_error {source target : Path} (h : v.rename source target = (w, .error cause)) :
    v.Makes [] w := by
  rcases v.rename_cases source target with ⟨cause, hfailed⟩ | ⟨_, _, _, _, _, _, _, heq⟩
  · rw [hfailed] at h
    cases h
    exact .refl _
  · rw [heq] at h
    exact (attempt_eq_error h).1

theorem unlink_eq {p : Path} {loc : Location} {c : Content} (hloc : v.entryLocation p = .ok loc)
    (hfound : v.disk.find? loc = some (.file c)) : v.unlink p = .ok (v.perform (.remove loc)) := by
  unfold unlink
  simp only [hloc, hfound]

theorem disk_append (v : Volume) (loc : Location) (bytes : Bytes) :
    (v.append loc bytes).disk = if bytes = [] then v.disk else Change.apply v.disk (.append loc bytes) := by
  unfold append
  split <;> rfl

/-- Where an entry stands depends on the disk alone. -/
theorem entryLocation_congr (h : w.disk = v.disk) (p : Path) :
    w.entryLocation p = v.entryLocation p := by
  unfold entryLocation
  rw [h]

/-- A path that names a place is accepted. -/
theorem opens_of_entryLocation {p : Path} {loc : Location} (h : v.entryLocation p = .ok loc) : p.Opens :=
  .of_not_error fun cause hopen => by
    rw [entryLocation, hopen] at h
    cases h

/-! ### A disk that grants all calls -/

/-- The disk grants all calls to come. -/
def Calm (v : Volume) : Prop := v.responses = []

theorem Makes.calm (h : v.Makes cs w) (hcalm : v.Calm) : w.Calm := by
  have hsuffix := h.responses
  rw [hcalm] at hsuffix
  exact List.suffix_nil.1 hsuffix

/-- Then the changes alone tell what becomes of the volume. -/
theorem Makes.eq_of_calm (h : v.Makes cs w) (g : v.Makes cs u) (hcalm : v.Calm) : w = u := by
  have hresponses : w.responses = u.responses := (h.calm hcalm).trans (g.calm hcalm).symm
  exact Volume.ext (h.disk.trans g.disk.symm) (h.journal.trans g.journal.symm) hresponses

theorem Calm.response_eq (h : v.Calm) : v.response = .granted := by
  unfold response
  rw [h]
  rfl

theorem Calm.answered_eq (h : v.Calm) : v.answered = v := v.makes_answered.eq_of_calm (.refl v) h

theorem Calm.grants (h : v.Calm) (n : Nat) : v.Grants n := by
  unfold Grants
  rw [h]
  simp

theorem Calm.call_eq (h : v.Calm) : v.call = (v, .ok ()) := by
  rcases v.call_cases with ⟨-, hcall⟩ | ⟨hrefused, -⟩
  · rw [hcall, h.answered_eq]
  · exact absurd (h.grants 1) hrefused

theorem Calm.attempt_eq (h : v.Calm) (c : Change) : v.attempt c = (v.perform c, .ok ()) := by
  rw [attempt, h.call_eq]

end Volume

end FolderSync
