import FolderSync.Proofs.Directory.Making
import FolderSync.Proofs.Disk.Folder
import FolderSync.Proofs.Hashing.Copying
import FolderSync.Install

/-!
# Staged files in a directory

From `Volume.stage` on a staged file is the one file on its way (`stage_ok`): it takes the front of the
body, all of it if that is written (`receive_leads`), and then either goes away (`drop_leads`) or takes
the place of the artifact (`commit_ok`).  What fails on the way leaves no staging file (`stage_error`,
`commit_error`).

* `Staged.Created`: a staging file has been made; `stage_eq_ok`, `stage_eq_error`: what starting an
  artifact comes to.
* `Staged.Takes`: the staging file has taken bytes, and nothing else has changed.
* `commit_eq_ok`, `commit_eq_error`: what a commit comes to.
* `Staged.Bound`: a staged file knows its place in the directory.
-/

namespace FolderSync

open Moment Progress

/-! ### Entries of a directory through paths -/

/-- The place of an entry of a directory, through a path. -/
theorem Volume.entryLocation_join {v : Volume} (h : v.disk.WellFormed) {p : Path} {dir : Location}
    (hup : Step.up ∉ p.trail.steps) (hdest : v.disk.destination p.trail = dir)
    (hdir : v.disk.find? dir = some .directory) {name : String} (hname : Name.Proper (utf8 name))
    {loc : Location} :
    v.entryLocation (p.join name) = .ok loc ↔
      (p.join name).Opens ∧ (utf8 name).length ≤ nameLimit ∧ loc = dir.entry name := by
  have hfolder : v.disk.folder p = .ok dir := by
    rw [Disk.folder_eq h hup (hdest ▸ hdir), hdest]
  rw [entryLocation_join_iff hname, hfolder]
  simp [Location.entry]

/-! ### Starting an artifact -/

/-- The staging file of an artifact has been made in a directory that had been made before. -/
structure Staged.Created (directory : Path) (name : String) (s : Staged) (made w : Volume) : Prop where
  plain : nameFault? name = none
  target : s.target = directory.join name
  hidden : ∃ token, s.hidden = (made.disk.absolute directory).join (stagingName name token)
  place : made.entryLocation s.hidden = .ok s.loc
  fresh : made.disk.find? s.loc = none
  makes : made.Makes [.createFile s.loc] w

section Stage

variable {u v w made : Volume} {directory : Path} {name : String} {s : Staged}

theorem Staged.Created.unchanged (h : s.Created directory name made v) (hw : v.Makes [] w) :
    s.Created directory name made w := { h with makes := h.makes.trans hw }

/-- The staging file stands under a hidden name in the folder of the path. -/
theorem Staged.Created.exists_folder (h : s.Created directory name made w) (hdisk : made.disk.WellFormed) :
    ∃ dir token, made.disk.folder directory = .ok dir ∧ s.loc = dir.entry (stagingName name token) ∧
      s.hidden = (made.disk.absolute directory).join (stagingName name token) ∧ s.hidden.Opens ∧
      (utf8 (stagingName name token)).length ≤ nameLimit := by
  obtain ⟨token, hhidden⟩ := h.hidden
  have hplace := h.place
  rw [hhidden] at hplace
  obtain ⟨hopens, hshort, dir, hfolder, hloc⟩ :=
    (Volume.entryLocation_join_iff (proper_stagingName h.plain token)).1 hplace
  rw [Disk.folder_absolute hdisk] at hfolder
  exact ⟨dir, token, hfolder, hloc, hhidden, hhidden ▸ hopens, hshort⟩

theorem Staged.Created.loc_ne_nil (h : s.Created directory name made w) : s.loc ≠ [] := by
  intro hnil
  have hfresh := h.fresh
  rw [hnil, Disk.find?_root] at hfresh
  cases hfresh

/-- Only the staging file is new. -/
theorem Staged.Created.find? (h : s.Created directory name made w) (loc : Location) :
    w.disk.find? loc = if loc = s.loc then some (.file { bytes := [] }) else made.disk.find? loc := by
  rw [h.makes.disk_apply]
  exact Disk.find?_put h.loc_ne_nil _ loc

/-- Its path leads to it on any disk where what stood when the directory was made still stands. -/
theorem Staged.Created.entryLocation_of_kept (h : s.Created directory name made w)
    (hdisk : made.disk.WellFormed) (hhere : v.disk.here = made.disk.here)
    (hkept : ∀ l, made.disk.find? l ≠ none → v.disk.find? l = made.disk.find? l) :
    v.entryLocation s.hidden = .ok s.loc := by
  obtain ⟨dir, token, hfolder, hloc, hhidden, hopens, hshort⟩ := h.exists_folder hdisk
  have habsolute : made.disk.folder (made.disk.absolute directory) = .ok dir :=
    (Disk.folder_absolute hdisk directory).trans hfolder
  rw [hhidden] at hopens ⊢
  exact (Volume.entryLocation_join_iff (proper_stagingName h.plain token)).2
    ⟨hopens, hshort, dir, Disk.folder_of_kept habsolute hhere hkept, hloc⟩

theorem Staged.Created.ne_loc (h : s.Created directory name made w) {l : Location}
    (hl : made.disk.find? l ≠ none) : l ≠ s.loc := by
  rintro rfl
  exact hl h.fresh

theorem Staged.Created.here_eq (h : s.Created directory name made w) :
    w.disk.here = made.disk.here := by
  rw [h.makes.disk_apply]
  rfl

theorem Staged.Created.entryLocation_eq (h : s.Created directory name made w)
    (hdisk : made.disk.WellFormed) : w.entryLocation s.hidden = .ok s.loc :=
  h.entryLocation_of_kept hdisk h.here_eq fun l hl => (h.find? l).trans (if_neg (h.ne_loc hl))

/-- Taken away at once, it leaves the disk as it was. -/
theorem Staged.Created.disk_drop (h : s.Created directory name made w) (hdisk : made.disk.WellFormed) :
    (s.drop w).disk = made.disk := by
  have hcontent : w.disk.find? s.loc = some (.file { bytes := [] }) := (h.find? _).trans (if_pos rfl)
  rw [Staged.drop, Volume.unlink_eq (h.entryLocation_eq hdisk) hcontent]
  dsimp only
  rw [Volume.disk_perform, h.makes.disk_apply]
  exact Disk.erase_put h.loc_ne_nil h.fresh _

/-- A staging file is made under one of the tokens. -/
theorem createStaging_eq_ok {base : Path} {tokens : List Token}
    (h : createStaging v directory base name tokens = (w, .ok s)) :
    ∃ token, s.hidden = base.join (stagingName name token) ∧ s.target = directory.join name ∧
      v.createFile s.hidden = (w, .ok s.loc) := by
  induction tokens with
  | nil => cases h
  | cons token more ih =>
    unfold createStaging at h
    dsimp only at h
    split at h
    · rename_i created loc hcreate
      cases h
      exact ⟨token, rfl, rfl, hcreate⟩
    · rename_i hcreate
      obtain rfl := (Volume.createFile_eq_error hcreate).2.resolve_right (by simp)
      exact ih h
    · cases h

/-- Where none is made nothing changes. -/
theorem createStaging_eq_error {base : Path} {tokens : List Token} {fault : FileError}
    (h : createStaging v directory base name tokens = (w, .error fault)) : v.Makes [] w := by
  induction tokens with
  | nil =>
    cases h
    exact .refl _
  | cons token more ih =>
    unfold createStaging at h
    dsimp only at h
    split at h
    · cases h
    · rename_i hcreate
      obtain rfl := (Volume.createFile_eq_error hcreate).2.resolve_right (by simp)
      exact ih h
    · rename_i hcreate
      cases h
      exact (Volume.createFile_eq_error hcreate).1

theorem createStaging_created {tokens : List Token} (plain : nameFault? name = none)
    (h : createStaging v directory (v.disk.absolute directory) name tokens = (w, .ok s)) :
    s.Created directory name v w := by
  obtain ⟨token, hhidden, htarget, hcreate⟩ := createStaging_eq_ok h
  obtain ⟨hplace, hfresh, hmakes⟩ := Volume.createFile_eq_ok hcreate
  exact ⟨plain, htarget, ⟨token, hhidden⟩, hplace, hfresh, hmakes⟩

/-- An artifact is started when its directory has been made and then its staging file. -/
theorem stage_eq_ok {draw : Draw} (h : v.stage draw directory name = (w, .ok s)) :
    ∃ made, v.ensurePath directory = (made, .ok ()) ∧ s.Created directory name made w := by
  unfold Volume.stage at h
  split at h
  · cases h
  · rename_i plain
    split at h
    · cases h
    · rename_i made hmade
      split at h
      · cases h
      · rename_i created staged hcreate
        split at h
        · rename_i locked hlock
          cases h
          have hcall := created.makes_call
          rw [hlock] at hcall
          exact ⟨made, hmade, (createStaging_created plain hcreate).unchanged hcall⟩
        · cases h

/-- One that is not started leaves the directories that were made for it; a staging file that could not
be locked has been taken away. -/
theorem stage_eq_error {draw : Draw} {fault : FileError} (plain : nameFault? name = none)
    (h : v.stage draw directory name = (w, .error fault)) :
    (v.ensurePath directory).1.Makes [] w ∨ ∃ made u, ∃ s : Staged,
      v.ensurePath directory = (made, .ok ()) ∧ s.Created directory name made u ∧ w = s.drop u := by
  unfold Volume.stage at h
  rw [plain] at h
  dsimp only at h
  split at h
  · rename_i made cause hmade
    cases h
    rw [hmade]
    exact .inl (.refl _)
  · rename_i made hmade
    split at h
    · rename_i created fault hcreate
      cases h
      rw [hmade]
      exact .inl (createStaging_eq_error hcreate)
    · rename_i created staged hcreate
      split at h
      · cases h
      · rename_i locked cause hlock
        cases h
        have hcall := created.makes_call
        rw [hlock] at hcall
        exact .inr ⟨made, locked, staged, hmade, (createStaging_created plain hcreate).unchanged hcall, rfl⟩

theorem disk_of_stage_error {draw : Draw} {fault : FileError} (hdisk : v.disk.WellFormed)
    (plain : nameFault? name = none) (h : v.stage draw directory name = (w, .error fault)) :
    w.disk = (v.ensurePath directory).1.disk := by
  rcases stage_eq_error plain h with hmakes | ⟨made, u, s, hmade, hcreated, rfl⟩
  · exact hmakes.disk_eq
  · have hgrown := Volume.ensurePath_grown hdisk directory
    rw [hmade] at hgrown ⊢
    exact hcreated.disk_drop hgrown.wellFormed

end Stage

/-! ### Staged files in a direct directory -/

/-- A staged file knows its place: it is a hidden entry of the directory, and its path leads there
as long as the directory is there. -/
structure Staged.Bound (dir : Location) (start : Disk) (directory : Path) (name : String)
    (s : Staged) : Prop where
  plain : nameFault? name = none
  target : s.target = directory.join name
  resolves : ∀ v : Volume, v.disk.WellFormed → v.disk.here = start.here →
    v.disk.find? dir = some .directory → v.entryLocation s.hidden = .ok s.loc

section Bound

variable {dir : Location} {start : Disk} {u v w made : Volume} {log : List (String × Bytes)}
  {directory : Path} {name : String} {s : Staged}

/-- While a staging file is on its way, its path leads to it. -/
theorem Staged.Bound.entryLocation_eq (hs : s.Bound dir start directory name)
    (h : Since dir start ⟨v.disk, some s.loc, log⟩) : v.entryLocation s.hidden = .ok s.loc :=
  hs.resolves v h.wellFormed h.here (h.directory_of_inFlight rfl)

/-- Making the staging file is one step. -/
theorem Staged.Created.leads (hcreated : s.Created directory name made w)
    (h : Since dir start ⟨made.disk, none, log⟩) (hdirect : start.Direct directory.trail)
    (hdir : start.destination directory.trail = dir) (hthere : made.disk.find? dir = some .directory) :
    Leads dir ⟨made, none, log⟩ ⟨w, some s.loc, log⟩ ∧ s.Bound dir start directory name ∧
      w.disk.find? s.loc = some (.file { bytes := [] }) := by
  obtain ⟨token, hhidden⟩ := hcreated.hidden
  have plain := hcreated.plain
  have hup := Disk.noUp_absolute h.wellFormed hdirect.noUp
  have hdest : start.destination (made.disk.absolute directory).trail = dir := by
    rw [← hdir, ← h.destination_eq, ← h.destination_eq]
    exact Disk.destination_absolute h.wellFormed directory
  have hplace : ∀ {u : Volume}, u.disk.WellFormed → u.disk.here = start.here →
      u.disk.find? dir = some .directory → ∀ {loc : Location}, u.entryLocation s.hidden = .ok loc ↔
        ((made.disk.absolute directory).join (stagingName name token)).Opens ∧
          (utf8 (stagingName name token)).length ≤ nameLimit ∧
          loc = dir.entry (stagingName name token) := by
    intro u hu hhere hudir loc
    rw [hhidden]
    exact Volume.entryLocation_join hu hup ((Disk.destination_congr hhere _).trans hdest) hudir
      (proper_stagingName plain token)
  obtain ⟨hopens, hlen, hentry⟩ := (hplace h.wellFormed h.here hthere).1 hcreated.place
  have hfresh := hcreated.fresh
  have hmakes := hcreated.makes
  rw [hentry] at hfresh hmakes
  refine ⟨?_, ⟨plain, hcreated.target, fun u hu hhere hudir => ?_⟩, ?_⟩
  · rw [hentry]
    exact .of_makes hmakes (.createFile rfl plain hlen hthere hfresh)
  · exact (hplace hu hhere hudir).2 ⟨hopens, hlen, hentry⟩
  · rw [hcreated.find?, if_pos rfl]

/-- An artifact that is started has its staging file in the directory, empty. -/
theorem stage_ok {draw : Draw} (h : Since dir start ⟨v.disk, none, log⟩)
    (hdirect : start.Direct directory.trail) (hdir : start.destination directory.trail = dir)
    (hv : v.stage draw directory name = (w, .ok s)) :
    Leads dir ⟨v, none, log⟩ ⟨w, some s.loc, log⟩ ∧ s.Bound dir start directory name ∧
      w.disk.find? s.loc = some (.file { bytes := [] }) := by
  obtain ⟨made, hmade, hcreated⟩ := stage_eq_ok hv
  obtain ⟨hmake, hthere⟩ := Volume.ensurePath_leads h hdirect hdir
  rw [hmade] at hmake hthere
  obtain ⟨hbegun, hbound⟩ := hcreated.leads (hmake.since h) hdirect hdir (hthere rfl)
  exact ⟨hmake.trans hbegun, hbound⟩

/-- A staged file that is dropped goes away. -/
theorem drop_leads (hs : s.Bound dir start directory name)
    (h : Since dir start ⟨v.disk, some s.loc, log⟩) :
    Leads dir ⟨v, some s.loc, log⟩ ⟨s.drop v, none, log⟩ := by
  obtain ⟨-, -, bytes, hfile⟩ := h.inFlight s.loc rfl
  have hdrop : s.drop v = v.perform (.remove s.loc) := by
    rw [Staged.drop, Volume.unlink_eq (hs.entryLocation_eq h) hfile]
  rw [hdrop]
  exact .of_makes (v.makes_perform _) (.remove rfl)

/-- An artifact that cannot be started has no staging file. -/
theorem stage_error {draw : Draw} {fault : FileError} (h : Since dir start ⟨v.disk, none, log⟩)
    (hdirect : start.Direct directory.trail) (hdir : start.destination directory.trail = dir)
    (plain : nameFault? name = none) (hv : v.stage draw directory name = (w, .error fault)) :
    Leads dir ⟨v, none, log⟩ ⟨w, none, log⟩ := by
  obtain ⟨hmake, hthere⟩ := Volume.ensurePath_leads h hdirect hdir
  rcases stage_eq_error plain hv with hmakes | ⟨made, u, s, hmade, hcreated, rfl⟩
  · exact hmake.trans (.of_unchanged hmakes none log)
  · rw [hmade] at hmake hthere
    have hsince := hmake.since h
    obtain ⟨hbegun, hbound, -⟩ := hcreated.leads hsince hdirect hdir (hthere rfl)
    exact hmake.trans (hbegun.trans (drop_leads hbound (hbegun.since hsince)))

end Bound

/-! ### Receiving -/

/-- The staging file has taken bytes, and nothing else has changed. -/
structure Staged.Takes (s : Staged) (v : Volume) (taken : Bytes) (w : Volume) : Prop where
  here : w.disk.here = v.disk.here
  closed : w.disk.closed = v.disk.closed
  responses : w.responses <:+ v.responses
  other : ∀ loc, loc ≠ s.loc → w.disk.find? loc = v.disk.find? loc
  content : ∀ before, v.disk.find? s.loc = some (.file { bytes := before }) →
    w.disk.find? s.loc = some (.file { bytes := before ++ taken })
  leads : ∀ dir log before, v.disk.find? s.loc = some (.file { bytes := before }) →
    Leads dir ⟨v, some s.loc, log⟩ ⟨w, some s.loc, log⟩

namespace Staged

variable {s : Staged} {u v w : Volume} {p q : Bytes}

theorem Takes.of_makes (h : v.Makes [] w) : s.Takes v [] w where
  here := by rw [h.disk_eq]
  closed := by rw [h.disk_eq]
  responses := h.responses
  other loc _ := by rw [h.disk_eq]
  content before hfile := by rw [h.disk_eq, hfile, List.append_nil]
  leads _ log _ _ := .of_unchanged h _ log

theorem Takes.trans (h : s.Takes u p v) (g : s.Takes v q w) : s.Takes u (p ++ q) w where
  here := g.here.trans h.here
  closed := g.closed.trans h.closed
  responses := g.responses.trans h.responses
  other loc hloc := (g.other loc hloc).trans (h.other loc hloc)
  content before hfile := by
    rw [g.content _ (h.content before hfile), List.append_assoc]
  leads dir log before hfile :=
    (h.leads dir log before hfile).trans (g.leads dir log _ (h.content before hfile))

/-- What is appended has been taken. -/
theorem takes_append (hloc : s.loc ≠ []) (v : Volume) (piece : Bytes) :
    s.Takes v piece (v.append s.loc piece) := by
  unfold Volume.append
  split
  · rename_i hpiece
    exact hpiece ▸ .of_makes (.refl v)
  · have hview : ∀ before, v.disk.find? s.loc = some (.file { bytes := before }) →
        (v.perform (.append s.loc piece)).disk =
          v.disk.put s.loc (.file { bytes := before ++ piece }) := by
      intro before hfile
      simp only [Volume.disk_perform, Change.apply, hfile]
    refine ⟨?_, Change.closed_apply _ _, List.suffix_rfl, fun loc hl => ?_, fun before hfile => ?_,
      fun dir log before _ => .of_makes (v.makes_perform _) (.append rfl)⟩
    · rw [Volume.disk_perform, Change.apply]
      split <;> rfl
    · rw [Volume.disk_perform, Change.apply]
      split
      · exact (Disk.find?_put hloc _ _).trans (if_neg hl)
      · rfl
    · rw [hview before hfile, Disk.find?_put hloc, if_pos rfl]

/-- One call appends what it takes. -/
theorem write_eq (s : Staged) (v : Volume) (offer : Bytes) :
    (s.write v offer).1 = v.answered.append s.loc ((s.write v offer).2.taken offer) := by
  unfold write
  split
  · simp [Attempt.taken]
  · rename_i count hresponse
    have htake : offer.take (min count offer.length) = offer.take count := by
      rw [List.take_eq_take_iff]
      omega
    simp [Attempt.taken, htake]
  · simp [Attempt.taken, Volume.append]
  · simp [Attempt.taken, Volume.append]

theorem takes_write (hloc : s.loc ≠ []) (v : Volume) (offer : Bytes) :
    s.Takes v ((s.write v offer).2.taken offer) (s.write v offer).1 := by
  rw [write_eq]
  exact Takes.trans (.of_makes v.makes_answered) (takes_append hloc _ _)

/-- **A body that is received:** its front is taken, all of it if the writing succeeds, and that is what
is counted and hashed. -/
theorem receive_takes (hloc : s.loc ≠ []) (v : Volume) (pieces : List Bytes) :
    ∃ taken, s.Takes v taken (s.receive v pieces).1.inner ∧ (s.receive v pieces).1.Accounts taken ∧
      taken <+: pieces.flatten ∧ ((s.receive v pieces).2 = .ok () → taken = pieces.flatten) := by
  obtain ⟨taken, hcopies, haccounts⟩ := s.sink.copies_hashing v pieces
  refine ⟨taken, ?_, haccounts, hcopies.taken_prefix, fun hok => ?_⟩
  · exact hcopies.keeps (fun v => .of_makes (.refl v)) .trans (takes_write hloc)
  · rw [receive] at hok
    exact (hok ▸ hcopies).taken_eq

/-- A body that was written has been counted and hashed as a whole. -/
theorem receive_ok {reply : Reply} (h : (s.receive v reply.pieces).2 = .ok ()) :
    (s.receive v reply.pieces).1.written = reply.body.length ∧
      (s.receive v reply.pieces).1.hash = .of reply.body := by
  obtain ⟨taken, hcopies, haccounts⟩ := s.sink.copies_hashing v reply.pieces
  rw [receive] at h
  obtain rfl := (h ▸ hcopies).taken_eq
  exact ⟨haccounts.written, haccounts.hash⟩

/-- Where the disk grants all calls, a body is written. -/
theorem receive_of_calm (h : v.Calm) (pieces : List Bytes) : (s.receive v pieces).2 = .ok () := by
  have hall : s.sink.TakesAll Volume.Calm := by
    intro v b hv
    have hwrite : s.write v b = (v.append s.loc b, .took b.length) := by
      unfold write
      rw [hv.response_eq, hv.answered_eq]
    refine ⟨_, hwrite, ?_⟩
    unfold Volume.append
    split
    · exact hv
    · exact (v.makes_perform _).calm hv
  exact hall.hashing.copy h pieces

/-! ### The end of a staged file -/

/-- Settling takes three calls, and changes nothing. -/
theorem settle_cases (s : Staged) (v : Volume) :
    v.Makes [] (s.settle v).1 ∧ ((s.settle v).2 = .ok () ↔ v.Grants 3) := by
  have hanswered := fun u : Volume => u.makes_answered
  simp only [Volume.grants_succ (n := 2), Volume.grants_succ (n := 1)]
  unfold settle sink
  dsimp only
  rcases v.call_cases with ⟨hflush, hcall⟩ | ⟨hflush, _, hcall⟩ <;> rw [hcall]
  · rcases v.answered.call_cases with ⟨hsync, hcall⟩ | ⟨hsync, _, hcall⟩ <;> dsimp only <;> rw [hcall]
    · rcases v.answered.answered.call_cases with ⟨hunlock, hcall⟩ | ⟨hunlock, _, hcall⟩ <;>
        dsimp only <;> rw [hcall]
      · exact ⟨((hanswered _).trans (hanswered _)).trans (hanswered _), by simp [*]⟩
      · exact ⟨((hanswered _).trans (hanswered _)).trans (hanswered _), by simp [*]⟩
    · exact ⟨(hanswered _).trans (hanswered _), by simp [*]⟩
  · exact ⟨hanswered _, by simp [*]⟩

theorem commit_eq_ok {path : Path} (h : s.commit v = (w, .ok path)) :
    path = s.target ∧ ∃ u, v.Makes [] u ∧ u.rename s.hidden s.target = (w, .ok ()) := by
  have hsettled := (s.settle_cases v).1
  unfold commit at h
  split at h
  · cases h
  · rename_i u hu
    rw [hu] at hsettled
    split at h
    · rename_i hrename
      cases h
      exact ⟨rfl, u, hsettled, hrename⟩
    · cases h

/-- What is committed has the name behind the path, which is accepted. -/
theorem Created.eq_join (h : s.Created directory name made u) {path : Path}
    (hcommit : s.commit v = (w, .ok path)) :
    path = directory.join name ∧ (directory.join name).Opens := by
  obtain ⟨rfl, x, -, hrename⟩ := commit_eq_ok hcommit
  obtain ⟨old, new, e, -, hplace, -⟩ := Volume.rename_eq_ok hrename
  rw [h.target] at hplace ⊢
  exact ⟨rfl, Volume.opens_of_entryLocation hplace⟩

/-- A commit that fails takes the staging file away. -/
theorem commit_eq_error {fault : FileError} (h : s.commit v = (w, .error fault)) :
    ∃ u, v.Makes [] u ∧ w = s.drop u := by
  have hsettled := (s.settle_cases v).1
  unfold commit at h
  split at h
  · rename_i u fault hu
    rw [hu] at hsettled
    cases h
    exact ⟨u, hsettled, rfl⟩
  · rename_i u hu
    rw [hu] at hsettled
    split at h
    · cases h
    · rename_i renamed cause hrename
      cases h
      exact ⟨renamed, hsettled.trans (Volume.rename_eq_error hrename), rfl⟩

/-- A commit succeeds if the disk grants to flush the staging file, to sync and to unlock it, and then to
rename it. -/
theorem commit_ok_iff : (∃ path, (s.commit v).2 = .ok path) ↔
    v.Grants 3 ∧ ((s.settle v).1.rename s.hidden s.target).2 = .ok () := by
  rw [← (s.settle_cases v).2]
  unfold commit
  cases hsettle : s.settle v with
  | mk u result =>
    cases result with
    | error fault => simp
    | ok _ =>
      dsimp only
      cases hrename : u.rename s.hidden s.target with
      | mk x outcome => cases outcome <;> simp

end Staged

section Commit

variable {dir : Location} {start : Disk} {v w : Volume} {log : List (String × Bytes)} {s : Staged}
  {directory : Path} {name : String}

/-- A commit that succeeds puts the staging file in the place of the artifact. -/
theorem commit_ok {path : Path} {bytes : Bytes} (hs : s.Bound dir start directory name)
    (h : Since dir start ⟨v.disk, some s.loc, log⟩)
    (content : v.disk.find? s.loc = some (.file { bytes })) (hup : Step.up ∉ directory.trail.steps)
    (hdir : start.destination directory.trail = dir) (hv : s.commit v = (w, .ok path)) :
    Leads dir ⟨v, some s.loc, log⟩ ⟨w, none, (name, bytes) :: log⟩ := by
  obtain ⟨-, u, hsettled, hrename⟩ := Staged.commit_eq_ok hv
  rw [hs.target] at hrename
  obtain ⟨old, new, e, hold, hplace, hfound, hfree, hmakes⟩ := Volume.rename_eq_ok hrename
  rw [← hsettled.disk_eq] at h content
  obtain rfl := Except.ok.inj ((hs.entryLocation_eq h).symm.trans hold)
  obtain rfl := Option.some.inj (content.symm.trans hfound)
  obtain ⟨-, hlen, rfl⟩ := (Volume.entryLocation_join h.wellFormed hup
    ((h.destination_eq _).trans hdir) (h.directory_of_inFlight rfl) (proper_of_plain hs.plain)).1 hplace
  refine (Leads.of_unchanged hsettled _ log).trans ?_
  exact .of_makes hmakes (.promote rfl hs.plain hlen content hfree)

/-- One that fails leaves no staging file. -/
theorem commit_error {fault : FileError} (hs : s.Bound dir start directory name)
    (h : Since dir start ⟨v.disk, some s.loc, log⟩) (hv : s.commit v = (w, .error fault)) :
    Leads dir ⟨v, some s.loc, log⟩ ⟨w, none, log⟩ := by
  obtain ⟨u, hsettled, rfl⟩ := Staged.commit_eq_error hv
  refine (Leads.of_unchanged hsettled _ log).trans (drop_leads hs ?_)
  rwa [hsettled.disk_eq]

end Commit

end FolderSync
