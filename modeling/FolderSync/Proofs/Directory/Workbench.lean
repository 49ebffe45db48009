import FolderSync.Proofs.Directory.Crossing
import FolderSync.Proofs.Directory.Landing

/-!
# Staged files side by side

Any number of staged files may be in use in one directory, for one artifact or for many.  A `Workbench`
is a volume with the staged files in use and what each of them has taken; `Workbench.step` does one
`Operation`, and `Workbench.run` one after the other.

* `Workbench.Busy`: the disk is the one on which the directory was made, but for the staged files in use
  and the artifacts that were committed.
* `Busy.opened`, `Busy.written`, `Busy.removed`, `Busy.promoted`: what the operations do to it.
* `Workbench.Crosses`: a commit that would cut off the way to the directory.
-/

namespace FolderSync

/-! ### Operations -/

/-- A staged file in use, and the bytes that it has taken. -/
structure Handle where
  staged : Staged
  taken : Bytes := []
deriving DecidableEq

/-- How a staged file goes out of use. -/
inductive Ending where
  | commit
  | discard
  | drop
deriving DecidableEq

/-- The volume after a staged file has gone out of use. -/
def Staged.finish (s : Staged) (v : Volume) : Ending → Volume
  | .commit => (s.commit v).1
  | .discard => (s.discard v).1
  | .drop => s.drop v

/-- What can be done with the staged files of a directory.  Those in use are counted from the one that
was created first. -/
inductive Operation where
  | create (draw : Draw) (name : String)
  | write (index : Nat) (piece : Bytes)
  | flush (index : Nat)
  | finish (index : Nat) (ending : Ending)

/-- A volume, and the staged files in use on it. -/
structure Workbench where
  volume : Volume
  live : List Handle := []

namespace Workbench

/-- Does one operation.  One on a staged file that is not in use does nothing. -/
def step (directory : Path) (b : Workbench) : Operation → Workbench
  | .create draw name =>
    match b.volume.stage draw directory name with
    | (v, .ok staged) => ⟨v, b.live ++ [{ staged }]⟩
    | (v, .error _) => ⟨v, b.live⟩
  | .write index piece =>
    match b.live[index]? with
    | none => b
    | some h =>
      let (v, attempt) := h.staged.sink.write b.volume piece
      ⟨v, b.live.set index { h with taken := h.taken ++ attempt.taken piece }⟩
  | .flush index =>
    match b.live[index]? with
    | none => b
    | some h => ⟨(h.staged.sink.flush b.volume).1, b.live⟩
  | .finish index ending =>
    match b.live[index]? with
    | none => b
    | some h => ⟨h.staged.finish b.volume ending, b.live.eraseIdx index⟩

section Step

variable {directory : Path} {b : Workbench} {v : Volume} {draw : Draw} {name : String} {index : Nat}
  {h : Handle}

theorem step_create_of_ok {s : Staged} (hstage : b.volume.stage draw directory name = (v, .ok s)) :
    b.step directory (.create draw name) = ⟨v, b.live ++ [{ staged := s }]⟩ := by
  simp only [step, hstage]

theorem step_create_of_error {fault : FileError}
    (hstage : b.volume.stage draw directory name = (v, .error fault)) :
    b.step directory (.create draw name) = ⟨v, b.live⟩ := by
  simp only [step, hstage]

theorem step_write (hindex : b.live[index]? = some h) (piece : Bytes) :
    b.step directory (.write index piece) = ⟨(h.staged.write b.volume piece).1, b.live.set index
      { h with taken := h.taken ++ (h.staged.write b.volume piece).2.taken piece }⟩ := by
  simp only [step, hindex, Staged.sink]

theorem step_write_of_none (hindex : b.live[index]? = none) (piece : Bytes) :
    b.step directory (.write index piece) = b := by
  simp only [step, hindex]

theorem step_flush (hindex : b.live[index]? = some h) :
    b.step directory (.flush index) = ⟨b.volume.call.1, b.live⟩ := by
  simp only [step, hindex, Staged.sink]

theorem step_flush_of_none (hindex : b.live[index]? = none) : b.step directory (.flush index) = b := by
  simp only [step, hindex]

theorem step_finish (hindex : b.live[index]? = some h) (ending : Ending) :
    b.step directory (.finish index ending) =
      ⟨h.staged.finish b.volume ending, b.live.eraseIdx index⟩ := by
  simp only [step, hindex]

theorem step_finish_of_none (hindex : b.live[index]? = none) (ending : Ending) :
    b.step directory (.finish index ending) = b := by
  simp only [step, hindex]

end Step

/-- The operation would put an artifact in the place of a link on the way to the directory. -/
def Crosses (directory : Path) (b : Workbench) (o : Operation) : Prop :=
  ∃ index h place target, o = .finish index .commit ∧ b.live[index]? = some h ∧
    b.volume.entryLocation h.staged.target = .ok place ∧
    place ∈ b.volume.disk.way directory ∧ b.volume.disk.find? place = some (.link target)

/-- Does one operation after the other. -/
def run (directory : Path) (b : Workbench) (operations : List Operation) : Workbench :=
  operations.foldl (step directory) b

@[simp] theorem run_nil (directory : Path) (b : Workbench) : b.run directory [] = b := rfl

theorem run_append (directory : Path) (b : Workbench) (front back : List Operation) :
    b.run directory (front ++ back) = (b.run directory front).run directory back :=
  List.foldl_append

theorem run_concat (directory : Path) (b : Workbench) (operations : List Operation) (o : Operation) :
    b.run directory (operations ++ [o]) = (b.run directory operations).step directory o :=
  run_append directory b operations [o]

end Workbench

/-- The handle at an index stands between others. -/
theorem exists_split_of_getElem? {live : List Handle} {index : Nat} {h : Handle}
    (hindex : live[index]? = some h) : ∃ front back, live = front ++ h :: back ∧
      live.eraseIdx index = front ++ back ∧ ∀ g, live.set index g = front ++ g :: back := by
  obtain ⟨hlt, hget⟩ := List.getElem?_eq_some_iff.1 hindex
  refine ⟨live.take index, live.drop (index + 1), ?_, List.eraseIdx_eq_take_drop_succ .., fun g => ?_⟩
  · rw [← hget, List.getElem_cons_drop, List.take_append_drop]
  · rw [List.set_eq_take_append_cons_drop, if_pos hlt]

/-! ### Where staged files stand -/

/-- A staged file for an artifact in the folder `dir` of the directory, when nothing but the
directory had been made. -/
structure Staged.Placed (made : Disk) (directory : Path) (dir : Location) (name : String) (s : Staged) :
    Prop where
  plain : nameFault? name = none
  target : s.target = directory.join name
  hidden : ∃ token, s.hidden = (made.absolute directory).join (stagingName name token) ∧
    s.loc = dir.entry (stagingName name token) ∧ s.hidden.Opens ∧
    (utf8 (stagingName name token)).length ≤ nameLimit
  fresh : made.find? s.loc = none

namespace Staged.Placed

variable {made : Disk} {directory : Path} {dir : Location} {name : String} {s : Staged}

theorem exists_hidden (h : s.Placed made directory dir name) :
    ∃ hidden : Name, hidden.IsHidden ∧ hidden.Valid ∧ s.loc = dir ++ [hidden] := by
  obtain ⟨token, -, hloc, -, hshort⟩ := h.hidden
  exact ⟨_, isHidden_stagingName name token, ⟨proper_stagingName h.plain token, hshort⟩, hloc⟩

theorem loc_ne_nil (h : s.Placed made directory dir name) : s.loc ≠ [] := by
  obtain ⟨hidden, -, -, hloc⟩ := h.exists_hidden
  simp [hloc]

/-- It does not stand under a visible name. -/
theorem ne_visible (h : s.Placed made directory dir name) {loc : Location} {other : Name}
    (hother : ¬ other.IsHidden) : loc ++ [other] ≠ s.loc := by
  obtain ⟨hidden, hhidden, -, hloc⟩ := h.exists_hidden
  intro heq
  rw [hloc] at heq
  obtain ⟨-, rfl⟩ := List.append_singleton_inj.1 heq
  exact hother hhidden

theorem ne_entry (h : s.Placed made directory dir name) {other : String}
    (plain : nameFault? other = none) : dir.entry other ≠ s.loc :=
  h.ne_visible (not_isHidden_of_plain plain)

/-- Its path leads to it as long as the directory is where it was. -/
theorem entryLocation_eq (h : s.Placed made directory dir name) {v : Volume}
    (hdisk : v.disk.WellFormed) (hhere : v.disk.here = made.here)
    (hfolder : v.disk.folder directory = .ok dir) : v.entryLocation s.hidden = .ok s.loc := by
  obtain ⟨token, hhidden, hloc, hopens, hshort⟩ := h.hidden
  have habsolute := Disk.absolute_congr hhere directory
  rw [hhidden] at hopens ⊢
  refine (Volume.entryLocation_join_iff (proper_stagingName h.plain token)).2
    ⟨hopens, hshort, dir, ?_, hloc⟩
  rw [← habsolute, Disk.folder_absolute hdisk, hfolder]

end Staged.Placed

/-- A staging file that has been made is in its place. -/
theorem Staged.Created.placed {directory : Path} {name : String} {s : Staged} {made w : Volume}
    (h : s.Created directory name made w) (hdisk : made.disk.WellFormed) :
    ∃ dir, made.disk.folder directory = .ok dir ∧ s.Placed made.disk directory dir name := by
  obtain ⟨dir, token, hfolder, hloc, hhidden, hopens, hshort⟩ := h.exists_folder hdisk
  exact ⟨dir, hfolder, h.plain, h.target, ⟨token, hhidden, hloc, hopens, hshort⟩, h.fresh⟩

namespace Workbench

/-- The directory was made on `start`, and the disk is as it was then (`made`), but for the staged files
in use and the artifacts that were committed since. -/
structure Busy (start made : Disk) (directory : Path) (dir : Location) (now : Disk)
    (live : List Handle) : Prop where
  grown : start.Grown made
  folder : made.folder directory = .ok dir
  wellFormed : now.WellFormed
  here : now.here = made.here
  kept : ∀ l, (∀ h ∈ live, l ≠ h.staged.loc) → now.find? l = made.find? l ∨
    (l ∉ made.way directory ∧ ∃ name c, nameFault? name = none ∧ l = dir.entry name ∧
      now.find? l = some (.file c))
  placed : ∀ h ∈ live, ∃ name, h.staged.Placed made directory dir name
  content : ∀ h ∈ live, now.find? h.staged.loc = some (.file { bytes := h.taken })
  apart : (live.map fun h => h.staged.loc).Nodup

namespace Busy

variable {start made now after : Disk} {directory : Path} {dir : Location} {live front back : List Handle}
  {h : Handle} {s : Staged} {name : String} {v : Volume}

/-- Where something stood when the directory was made there is no staged file in use. -/
theorem ne_loc (hb : Busy start made directory dir now live) {l : Location}
    (hl : made.find? l ≠ none) : ∀ h ∈ live, l ≠ h.staged.loc := by
  rintro h hmem rfl
  obtain ⟨name, hplaced⟩ := hb.placed h hmem
  exact hl hplaced.fresh

/-- The way to the directory is as it was. -/
theorem way_kept (hb : Busy start made directory dir now live) {l : Location}
    (hl : l ∈ made.way directory) : now.find? l = made.find? l := by
  rcases hb.kept l (hb.ne_loc (Disk.find?_ne_none_of_way hb.folder hl)) with hsame | ⟨hway, -⟩
  · exact hsame
  · exact absurd hl hway

theorem folder_now (hb : Busy start made directory dir now live) :
    now.folder directory = .ok dir ∧ now.way directory = made.way directory := by
  obtain ⟨hfolder, hway⟩ := Disk.folder_congr hb.here fun l hl => hb.way_kept hl
  exact ⟨hfolder.trans hb.folder, hway⟩

theorem directory_now (hb : Busy start made directory dir now live) :
    now.find? dir = some .directory :=
  Disk.directory_of_folder hb.wellFormed hb.folder_now.1

/-- The path of each staged file leads to it. -/
theorem entryLocation_eq (hb : Busy start made directory dir v.disk live) (hmem : h ∈ live) :
    v.entryLocation h.staged.hidden = .ok h.staged.loc := by
  obtain ⟨name, hplaced⟩ := hb.placed h hmem
  exact hplaced.entryLocation_eq hb.wellFormed hb.here hb.folder_now.1

/-- The other staged files stand elsewhere. -/
theorem loc_ne (hb : Busy start made directory dir now (front ++ h :: back)) {g : Handle}
    (hg : g ∈ front ++ back) : g.staged.loc ≠ h.staged.loc := by
  have hapart := hb.apart
  rw [List.map_append, List.map_cons, List.nodup_middle, List.nodup_cons, ← List.map_append] at hapart
  exact fun heq => hapart.1 (heq ▸ List.mem_map_of_mem hg)

theorem apart_others (hb : Busy start made directory dir now (front ++ h :: back)) :
    ((front ++ back).map fun g => g.staged.loc).Nodup := by
  have hapart := hb.apart
  rw [List.map_append, List.map_cons, List.nodup_middle, List.nodup_cons, ← List.map_append] at hapart
  exact hapart.2

theorem ne_loc_of_others {l : Location} (hl : l ≠ h.staged.loc)
    (hothers : ∀ g ∈ front ++ back, l ≠ g.staged.loc) :
    ∀ g ∈ front ++ h :: back, l ≠ g.staged.loc := by
  intro g hg
  rcases List.mem_append.1 hg with hg | hg
  · exact hothers g (List.mem_append_left _ hg)
  · rcases List.mem_cons.1 hg with rfl | hg
    · exact hl
    · exact hothers g (List.mem_append_right _ hg)

theorem mem_of_mem_others {g : Handle} (hg : g ∈ front ++ back) : g ∈ front ++ h :: back := by
  rw [List.mem_append] at hg ⊢
  exact hg.imp_right (List.mem_cons_of_mem _)

/-! ### What the operations do -/

/-- The directory has been made, and nothing else. -/
theorem unused (hgrown : start.Grown made) (hfolder : made.folder directory = .ok dir) :
    Busy start made directory dir made [] where
  grown := hgrown
  folder := hfolder
  wellFormed := hgrown.wellFormed
  here := rfl
  kept _ _ := .inl rfl
  placed _ hmem := absurd hmem List.not_mem_nil
  content _ hmem := absurd hmem List.not_mem_nil
  apart := List.nodup_nil

/-- Where nothing stands now, nothing stood when the directory was made. -/
theorem placed_of_now (hb : Busy start made directory dir now live) {dir' : Location}
    (hfolder : now.folder directory = .ok dir') (hs : s.Placed now directory dir' name) :
    s.Placed made directory dir name := by
  obtain rfl := Except.ok.inj (hb.folder_now.1.symm.trans hfolder)
  have habsolute := Disk.absolute_congr hb.here directory
  refine ⟨hs.plain, hs.target, habsolute ▸ hs.hidden, ?_⟩
  have hne : ∀ h ∈ live, s.loc ≠ h.staged.loc := by
    intro h hmem heq
    have hfresh := hs.fresh
    rw [heq, hb.content h hmem] at hfresh
    cases hfresh
  rcases hb.kept s.loc hne with hsame | ⟨-, _, c, -, -, hfile⟩
  · rw [← hsame, hs.fresh]
  · rw [hs.fresh] at hfile
    cases hfile

/-- A new staged file, where nothing stood. -/
theorem opened (hb : Busy start made directory dir now live)
    (hplaced : s.Placed made directory dir name) (hfree : now.find? s.loc = none) :
    Busy start made directory dir (now.put s.loc (.file { bytes := [] })) (live ++ [{ staged := s }]) := by
  have hview : ∀ l, (now.put s.loc (.file { bytes := [] })).find? l =
      if l = s.loc then some (.file { bytes := [] }) else now.find? l :=
    Disk.find?_put hplaced.loc_ne_nil _
  have hne : ∀ h ∈ live, h.staged.loc ≠ s.loc := by
    intro h hmem heq
    have hcontent := hb.content h hmem
    rw [heq, hfree] at hcontent
    cases hcontent
  refine ⟨hb.grown, hb.folder, ?_, hb.here, fun l hl => ?_, fun h hmem => ?_, fun h hmem => ?_, ?_⟩
  · obtain ⟨hidden, -, hvalid, hloc⟩ := hplaced.exists_hidden
    rw [hloc] at hfree ⊢
    exact hb.wellFormed.put hb.directory_now hvalid fun hold => by rw [hfree] at hold; cases hold
  · have hother : l ≠ s.loc := hl { staged := s } (by simp)
    rw [hview, if_neg hother]
    exact hb.kept l fun h hmem => hl h (List.mem_append_left _ hmem)
  · rcases List.mem_append.1 hmem with hmem | hmem
    · exact hb.placed h hmem
    · obtain rfl := List.mem_singleton.1 hmem
      exact ⟨name, hplaced⟩
  · rcases List.mem_append.1 hmem with hmem | hmem
    · rw [hview, if_neg (hne h hmem)]
      exact hb.content h hmem
    · obtain rfl := List.mem_singleton.1 hmem
      rw [hview, if_pos rfl]
  · rw [List.map_append, List.map_singleton, List.nodup_append]
    refine ⟨hb.apart, List.nodup_singleton _, fun l hl other hother => ?_⟩
    obtain ⟨h, hmem, rfl⟩ := List.mem_map.1 hl
    obtain rfl := List.mem_singleton.1 hother
    exact hne h hmem

/-- One staged file has taken more. -/
theorem written (hb : Busy start made directory dir now (front ++ h :: back)) (more : Bytes) :
    Busy start made directory dir (now.put h.staged.loc (.file { bytes := h.taken ++ more }))
      (front ++ { h with taken := h.taken ++ more } :: back) := by
  have hmem : h ∈ front ++ h :: back := by simp
  obtain ⟨name, hplaced⟩ := hb.placed h hmem
  have hview : ∀ l, (now.put h.staged.loc (.file { bytes := h.taken ++ more })).find? l =
      if l = h.staged.loc then some (.file { bytes := h.taken ++ more }) else now.find? l :=
    Disk.find?_put hplaced.loc_ne_nil _
  have hcases : ∀ g ∈ front ++ { h with taken := h.taken ++ more } :: back,
      g = { h with taken := h.taken ++ more } ∨ g ∈ front ++ back := by
    intro g hg
    simp only [List.mem_append, List.mem_cons] at hg ⊢
    tauto
  refine ⟨hb.grown, hb.folder, ?_, hb.here, fun l hl => ?_, fun g hg => ?_, fun g hg => ?_, ?_⟩
  · obtain ⟨hidden, -, hvalid, hloc⟩ := hplaced.exists_hidden
    have hfile := hb.content h hmem
    rw [hloc] at hfile ⊢
    exact hb.wellFormed.put hb.directory_now hvalid fun hold => by rw [hfile] at hold; cases hold
  · have hother : l ≠ h.staged.loc := hl { h with taken := h.taken ++ more } (by simp)
    rw [hview, if_neg hother]
    exact hb.kept l (ne_loc_of_others hother fun g hg => hl g (mem_of_mem_others hg))
  · rcases hcases g hg with rfl | hg
    · exact ⟨name, hplaced⟩
    · exact hb.placed g (mem_of_mem_others hg)
  · rcases hcases g hg with rfl | hg
    · rw [hview, if_pos rfl]
    · rw [hview, if_neg (hb.loc_ne hg)]
      exact hb.content g (mem_of_mem_others hg)
  · simpa using hb.apart

/-- No bytes are no change. -/
theorem appended (hb : Busy start made directory dir v.disk (front ++ h :: back)) (piece : Bytes) :
    Busy start made directory dir (v.append h.staged.loc piece).disk
      (front ++ { h with taken := h.taken ++ piece } :: back) := by
  unfold Volume.append
  split_ifs with hpiece
  · rw [hpiece, List.append_nil]
    exact hb
  · have happly : Change.apply v.disk (.append h.staged.loc piece) =
        v.disk.put h.staged.loc (.file { bytes := h.taken ++ piece }) := by
      simp only [Change.apply, hb.content h (by simp)]
    rw [Volume.disk_perform, happly]
    exact hb.written piece

/-- One staged file has gone. -/
theorem removed (hb : Busy start made directory dir now (front ++ h :: back)) :
    Busy start made directory dir (now.erase h.staged.loc) (front ++ back) := by
  have hmem : h ∈ front ++ h :: back := by simp
  obtain ⟨name, hplaced⟩ := hb.placed h hmem
  have hview : ∀ l, (now.erase h.staged.loc).find? l =
      if l = h.staged.loc then none else now.find? l := Disk.find?_erase hplaced.loc_ne_nil
  refine ⟨hb.grown, hb.folder, hb.wellFormed.erase ?_, hb.here, fun l hl => ?_,
    fun g hg => hb.placed g (mem_of_mem_others hg), fun g hg => ?_, hb.apart_others⟩
  · rw [hb.content h hmem]
    simp
  · rw [hview]
    by_cases hloc : l = h.staged.loc
    · rw [if_pos hloc, hloc, hplaced.fresh]
      exact .inl rfl
    · rw [if_neg hloc]
      exact hb.kept l (ne_loc_of_others hloc hl)
  · rw [hview, if_neg (hb.loc_ne hg)]
    exact hb.content g (mem_of_mem_others hg)

theorem apply_rename (hb : Busy start made directory dir now (front ++ h :: back)) (target : Location) :
    Change.apply now (.rename h.staged.loc target) =
      (now.erase h.staged.loc).put target (.file { bytes := h.taken }) := by
  simp only [Change.apply, hb.content h (by simp)]

/-- One staged file has taken the place of its artifact, off the way to the directory. -/
theorem promoted (hb : Busy start made directory dir now (front ++ h :: back))
    (hplaced : h.staged.Placed made directory dir name) (hshort : (utf8 name).length ≤ nameLimit)
    (hfree : now.find? (dir.entry name) ≠ some .directory) (hway : dir.entry name ∉ made.way directory) :
    Busy start made directory dir (Change.apply now (.rename h.staged.loc (dir.entry name)))
      (front ++ back) := by
  have hrest := hb.removed
  have hview : ∀ l, ((now.erase h.staged.loc).put (dir.entry name) (.file { bytes := h.taken })).find? l =
      if l = dir.entry name then some (.file { bytes := h.taken }) else (now.erase h.staged.loc).find? l :=
    Disk.find?_put (entry_ne_nil _ _) _
  have hfree' : (now.erase h.staged.loc).find? (dir.entry name) ≠ some .directory := by
    rwa [Disk.find?_erase hplaced.loc_ne_nil, if_neg (hplaced.ne_entry hplaced.plain)]
  rw [hb.apply_rename]
  refine ⟨hb.grown, hb.folder, ?_, hb.here, fun l hl => ?_, hrest.placed, fun g hg => ?_, hrest.apart⟩
  · exact hrest.wellFormed.put hrest.directory_now ⟨proper_of_plain hplaced.plain, hshort⟩
      fun hold => absurd hold hfree'
  · rw [hview]
    by_cases hentry : l = dir.entry name
    · rw [if_pos hentry]
      exact .inr ⟨hentry ▸ hway, name, _, hplaced.plain, hentry, rfl⟩
    · rw [if_neg hentry]
      exact hrest.kept l hl
  · obtain ⟨other, hother⟩ := hrest.placed g hg
    rw [hview, if_neg (hother.ne_entry hplaced.plain).symm]
    exact hrest.content g hg

end Busy

end Workbench

end FolderSync
