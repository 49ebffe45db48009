import FolderSync.Proofs.Directory.Workbench

/-!
# Staged files are isolated

Whatever is done with the staged files of a directory, in whatever order, none of them shows in another:
each holds what it has taken itself, and only a commit that succeeds changes what can be seen, at one
place (`run_isolated`).

* `Outcome`: everything that one operation can do; `Sound.outcome`: it does one of these.
* `Sound`: what holds before and after each operation (`Outcome.sound`, `run_sound`).
* `Isolated`: the staged files in use at one time; `Effects`: what the next operation changes.
* `Clear`: the condition that no commit cuts off the way to the directory.  `clear_of_noLink`: it is met
  where no link is on the way.
-/

namespace FolderSync.Workbench

/-! ### What one operation does -/

/-- Nothing has happened to a directory but what its staged files do: none has been created, or the
directory was made and is in use. -/
inductive Sound (start : Disk) (directory : Path) (b : Workbench) : Prop
  | idle (unused : b.live = []) (grown : start.Grown b.volume.disk)
  | busy {made : Disk} {dir : Location} (busy : Busy start made directory dir b.volume.disk b.live)

/-- Everything that an operation can do. -/
inductive Outcome (start : Disk) (directory : Path) (b : Workbench) : Operation → Workbench → Prop
  | nothing {o : Operation} {v : Volume}
      (unused : ∀ index ending, o = .finish index ending → b.live[index]? = none)
      (disk : v.disk = b.volume.disk) : Outcome start directory b o ⟨v, b.live⟩
  /-- An artifact that is not started leaves the directories that were made for it. -/
  | failed {draw : Draw} {name : String} {v : Volume}
      (disk : v.disk = (b.volume.ensurePath directory).1.disk) :
      Outcome start directory b (.create draw name) ⟨v, b.live⟩
  | created {draw : Draw} {name : String} {v : Volume} {made : Disk} {dir : Location} {s : Staged}
      (make : (b.volume.ensurePath directory).1.disk = made)
      (folder : made.folder directory = .ok dir) (placed : s.Placed made directory dir name)
      (disk : v.disk = Change.apply made (.createFile s.loc)) :
      Outcome start directory b (.create draw name) ⟨v, b.live ++ [{ staged := s }]⟩
  | written {index : Nat} {piece taken : Bytes} {v : Volume} {front back : List Handle} {h : Handle}
      (split : b.live = front ++ h :: back)
      (disk : v.disk = (b.volume.append h.staged.loc taken).disk) :
      Outcome start directory b (.write index piece)
        ⟨v, front ++ { h with taken := h.taken ++ taken } :: back⟩
  | promoted {index : Nat} {v : Volume} {front back : List Handle} {h : Handle} {made : Disk}
      {dir : Location} {name : String} (found : b.live[index]? = some h)
      (split : b.live = front ++ h :: back)
      (busy : Busy start made directory dir b.volume.disk (front ++ h :: back))
      (placed : h.staged.Placed made directory dir name)
      (commit : (h.staged.commit b.volume).2 = .ok h.staged.target)
      (place : b.volume.entryLocation h.staged.target = .ok (dir.entry name))
      (opens : (directory.join name).Opens) (short : (utf8 name).length ≤ nameLimit)
      (free : b.volume.disk.find? (dir.entry name) ≠ some .directory)
      (disk : v.disk = Change.apply b.volume.disk (.rename h.staged.loc (dir.entry name))) :
      Outcome start directory b (.finish index .commit) ⟨v, front ++ back⟩
  | removed {index : Nat} {ending : Ending} {v : Volume} {front back : List Handle} {h : Handle}
      {made : Disk} {dir : Location} (found : b.live[index]? = some h)
      (split : b.live = front ++ h :: back)
      (busy : Busy start made directory dir b.volume.disk (front ++ h :: back))
      (refused : ending = .commit → (h.staged.commit b.volume).2.isOk = false)
      (disk : v.disk = b.volume.disk.erase h.staged.loc) :
      Outcome start directory b (.finish index ending) ⟨v, front ++ back⟩

section Outcome

variable {start : Disk} {directory : Path} {b : Workbench} {o : Operation}

theorem Sound.wellFormed (hb : Sound start directory b) : b.volume.disk.WellFormed := by
  cases hb with
  | idle _ grown => exact grown.wellFormed
  | busy hbusy => exact hbusy.wellFormed

theorem Sound.of_busy {v : Volume} {now made : Disk} {dir : Location} {live : List Handle}
    (hv : v.disk = now) (h : Busy start made directory dir now live) : Sound start directory ⟨v, live⟩ :=
  .busy (hv ▸ h)

theorem Sound.of_disk {v : Volume} (hv : v.disk = b.volume.disk) (h : Sound start directory b) :
    Sound start directory ⟨v, b.live⟩ := by
  cases h with
  | idle unused grown => exact .idle unused (hv ▸ grown)
  | busy hbusy => exact .of_busy hv hbusy

theorem outcome_create (hdisk : b.volume.disk.WellFormed) (draw : Draw) (name : String) :
    Outcome start directory b (.create draw name) (b.step directory (.create draw name)) := by
  cases hstage : b.volume.stage draw directory name with
  | mk w result =>
    cases result with
    | error fault =>
      rw [step_create_of_error hstage]
      cases hname : nameFault? name with
      | some reason =>
        unfold Volume.stage at hstage
        rw [hname] at hstage
        cases hstage
        exact .nothing nofun rfl
      | none => exact .failed (disk_of_stage_error hdisk hname hstage)
    | ok s =>
      rw [step_create_of_ok hstage]
      obtain ⟨made, hmade, hcreated⟩ := stage_eq_ok hstage
      have hgrown := Volume.ensurePath_grown hdisk directory
      rw [hmade] at hgrown
      obtain ⟨dir, hfolder, hplaced⟩ := hcreated.placed hgrown.wellFormed
      exact .created (congrArg (·.1.disk) hmade) hfolder hplaced hcreated.makes.disk_apply

theorem outcome_write (index : Nat) (piece : Bytes) :
    Outcome start directory b (.write index piece) (b.step directory (.write index piece)) := by
  cases hindex : b.live[index]? with
  | none =>
    rw [step_write_of_none hindex]
    exact .nothing nofun rfl
  | some h =>
    obtain ⟨front, back, hsplit, -, hset⟩ := exists_split_of_getElem? hindex
    rw [step_write hindex, hset]
    refine .written hsplit ?_
    rw [Staged.write_eq, Volume.disk_append, Volume.disk_append]
    rfl

theorem outcome_flush (index : Nat) :
    Outcome start directory b (.flush index) (b.step directory (.flush index)) := by
  cases hindex : b.live[index]? with
  | none =>
    rw [step_flush_of_none hindex]
    exact .nothing nofun rfl
  | some h =>
    rw [step_flush hindex]
    exact .nothing nofun b.volume.makes_call.disk_eq

/-- Settling changes nothing, so the staged file is found as before, and can be taken away. -/
theorem Busy.unlink_eq {made : Disk} {dir : Location} {live : List Handle} {h : Handle} {u : Volume}
    (hbusy : Busy start made directory dir b.volume.disk live) (hmem : h ∈ live)
    (hu : u.disk = b.volume.disk) :
    u.unlink h.staged.hidden = .ok (u.perform (.remove h.staged.loc)) := by
  rw [← hu] at hbusy
  exact Volume.unlink_eq (hbusy.entryLocation_eq hmem) (hbusy.content h hmem)

theorem Busy.disk_drop {made : Disk} {dir : Location} {live : List Handle} {h : Handle} {u : Volume}
    (hbusy : Busy start made directory dir b.volume.disk live) (hmem : h ∈ live)
    (hu : u.disk = b.volume.disk) :
    (h.staged.drop u).disk = b.volume.disk.erase h.staged.loc := by
  rw [Staged.drop, hbusy.unlink_eq hmem hu, ← hu]
  rfl

theorem outcome_commit {index : Nat} {h : Handle} {front back : List Handle} {made : Disk}
    {dir : Location} (hindex : b.live[index]? = some h) (hsplit : b.live = front ++ h :: back)
    (hbusy : Busy start made directory dir b.volume.disk (front ++ h :: back)) :
    Outcome start directory b (.finish index .commit)
      ⟨(h.staged.commit b.volume).1, front ++ back⟩ := by
  have hmem : h ∈ front ++ h :: back := by simp
  cases hcommit : h.staged.commit b.volume with
  | mk w result =>
    cases result with
    | error fault =>
      obtain ⟨u, hmakes, rfl⟩ := Staged.commit_eq_error hcommit
      exact .removed hindex hsplit hbusy (fun _ => by rw [hcommit]; rfl)
        (hbusy.disk_drop hmem hmakes.disk_eq)
    | ok path =>
      obtain ⟨name, hplaced⟩ := hbusy.placed h hmem
      obtain ⟨rfl, u, hmakes, hrename⟩ := Staged.commit_eq_ok hcommit
      have hsame := Volume.entryLocation_congr hmakes.disk_eq
      obtain ⟨old, new, e, hold, hnew, hfound, hfree, hrenamed⟩ := Volume.rename_eq_ok hrename
      rw [hsame] at hold hnew
      rw [hmakes.disk_eq] at hfree
      obtain rfl := Except.ok.inj ((hbusy.entryLocation_eq hmem).symm.trans hold)
      obtain ⟨hopens, hshort, dir', hfolder, rfl⟩ :=
        (Volume.entryLocation_join_iff (proper_of_plain hplaced.plain)).1 (hplaced.target ▸ hnew)
      obtain rfl := Except.ok.inj (hbusy.folder_now.1.symm.trans hfolder)
      refine .promoted hindex hsplit hbusy hplaced (by rw [hcommit]) hnew hopens hshort hfree ?_
      rw [hrenamed.disk_apply, hmakes.disk_eq]
      rfl

/-- A staged file in use goes away, unless it is committed and takes its artifact's place. -/
theorem outcome_finish (hb : Sound start directory b) (index : Nat) (ending : Ending) :
    Outcome start directory b (.finish index ending) (b.step directory (.finish index ending)) := by
  cases hindex : b.live[index]? with
  | none =>
    rw [step_finish_of_none hindex]
    refine .nothing (fun other _ heq => ?_) rfl
    cases heq
    exact hindex
  | some h =>
    obtain ⟨front, back, hsplit, herase, -⟩ := exists_split_of_getElem? hindex
    rw [step_finish hindex, herase]
    cases hb with
    | idle unused _ => simp [unused] at hindex
    | busy hbusy =>
      rw [hsplit] at hbusy
      have hmem : h ∈ front ++ h :: back := by simp
      cases ending with
      | discard =>
        rw [Staged.finish, Staged.discard, hbusy.unlink_eq hmem rfl]
        exact .removed hindex hsplit hbusy (by simp) rfl
      | drop => exact .removed hindex hsplit hbusy (by simp) (hbusy.disk_drop hmem rfl)
      | commit => exact outcome_commit hindex hsplit hbusy

/-- **An operation does one of these.** -/
theorem Sound.outcome (hb : Sound start directory b) (o : Operation) :
    Outcome start directory b o (b.step directory o) := by
  cases o with
  | create draw name => exact outcome_create hb.wellFormed draw name
  | write index piece => exact outcome_write index piece
  | flush index => exact outcome_flush index
  | finish index ending => exact outcome_finish hb index ending

/-- What takes the place of an artifact is off the way to the directory: on the way there are links and
directories. -/
theorem notMem_way {made : Disk} {dir : Location} {live : List Handle} {h : Handle} {name : String}
    {index : Nat} (hclear : ¬ Crosses directory b (.finish index .commit))
    (hfound : b.live[index]? = some h) (hbusy : Busy start made directory dir b.volume.disk live)
    (hplace : b.volume.entryLocation h.staged.target = .ok (dir.entry name))
    (hfree : b.volume.disk.find? (dir.entry name) ≠ some .directory) :
    dir.entry name ∉ made.way directory := by
  rw [← hbusy.folder_now.2]
  intro hway
  rcases Disk.directory_or_link_of_way hbusy.wellFormed hbusy.folder_now.1 hway with
    hdir | ⟨target, hlink⟩
  · exact hfree hdir
  · exact hclear ⟨index, h, _, target, rfl, hfound, hplace, hway, hlink⟩

/-- What holds before an operation holds after it, unless that cuts off the way to the directory. -/
theorem Outcome.sound {c : Workbench} (ho : Outcome start directory b o c)
    (hb : Sound start directory b) (hclear : ¬ Crosses directory b o) : Sound start directory c := by
  cases ho with
  | nothing _ disk => exact hb.of_disk disk
  | failed disk =>
    cases hb with
    | idle unused grown =>
      exact .idle unused (disk ▸ grown.trans (Volume.ensurePath_grown grown.wellFormed directory))
    | busy hbusy =>
      rw [Volume.ensurePath_of_folder hbusy.wellFormed hbusy.folder_now.1] at disk
      exact .of_busy disk hbusy
  | created make folder placed disk =>
    cases hb with
    | idle unused grown =>
      have hgrown := grown.trans (Volume.ensurePath_grown grown.wellFormed directory)
      rw [make] at hgrown
      rw [unused]
      exact .of_busy disk ((Busy.unused hgrown folder).opened placed placed.fresh)
    | busy hbusy =>
      rw [Volume.ensurePath_of_folder hbusy.wellFormed hbusy.folder_now.1] at make
      subst make
      exact .of_busy disk (hbusy.opened (hbusy.placed_of_now folder placed) placed.fresh)
  | written split disk =>
    cases hb with
    | idle unused _ => simp [unused] at split
    | busy hbusy =>
      rw [split] at hbusy
      exact .of_busy disk (hbusy.appended _)
  | promoted found _ busy placed _ place _ short free disk =>
    exact .of_busy disk (busy.promoted placed short free (notMem_way hclear found busy place free))
  | removed _ _ busy _ disk => exact .of_busy disk busy.removed

end Outcome

/-! ### What can be seen of it -/

/-- The staged files in use at one time. -/
structure Isolated (start : Disk) (directory : Path) (b : Workbench) : Prop where
  /-- Each stands hidden in the directory, where its path leads, and holds what it has taken. -/
  content : ∀ h ∈ b.live, b.volume.entryLocation h.staged.hidden = .ok h.staged.loc ∧
    (∃ dir hidden, b.volume.disk.folder directory = .ok dir ∧ Name.IsHidden hidden ∧
      h.staged.loc = dir ++ [hidden]) ∧
    b.volume.disk.find? h.staged.loc = some (.file { bytes := h.taken })
  apart : (b.live.map fun h => h.staged.loc).Nodup
  /-- If none is in use there is no hidden file that was not there at the start. -/
  clear : b.live = [] → ∀ loc hidden c, Name.IsHidden hidden →
    b.volume.disk.find? (loc ++ [hidden]) = some (.file c) →
    start.find? (loc ++ [hidden]) = some (.file c)

/-- What an operation changes. -/
structure Effects (directory : Path) (b : Workbench) (o : Operation) (c : Workbench) : Prop where
  /-- A visible entry changes at a commit that succeeds, if it is the place of the artifact, or it is a
  directory that was missing on the way; in the directory itself that is one from which its path goes up
  again. -/
  visible : ∀ loc name, ¬ Name.IsHidden name →
    c.volume.disk.find? (loc ++ [name]) ≠ b.volume.disk.find? (loc ++ [name]) →
    (∃ index h, o = .finish index .commit ∧ b.live[index]? = some h ∧
      (h.staged.commit b.volume).2 = .ok h.staged.target ∧
      b.volume.entryLocation h.staged.target = .ok (loc ++ [name])) ∨
    ((∃ draw artifact, o = .create draw artifact) ∧
      b.volume.disk.find? (loc ++ [name]) = none ∧
      c.volume.disk.find? (loc ++ [name]) = some .directory ∧
      (c.volume.disk.folder directory = .ok loc →
        c.volume.disk.LeadsBack directory (loc ++ [name])))
  /-- A commit that succeeds moves the staged file to the place of the artifact, and nothing else. -/
  committed : ∀ index h path, o = .finish index .commit → b.live[index]? = some h →
    (h.staged.commit b.volume).2 = .ok path →
    path = h.staged.target ∧ c.volume.disk.content h.staged.target = .ok { bytes := h.taken } ∧
    ∃ place, b.volume.entryLocation h.staged.target = .ok place ∧ ∀ l, c.volume.disk.find? l =
      if l = place then some (.file { bytes := h.taken })
      else if l = h.staged.loc then none else b.volume.disk.find? l
  /-- Without that, a staged file that goes out of use is taken away, and nothing else. -/
  removed : ∀ index h ending, o = .finish index ending → b.live[index]? = some h →
    (ending = .commit → (h.staged.commit b.volume).2.isOk = false) → ∀ l, c.volume.disk.find? l =
      if l = h.staged.loc then none else b.volume.disk.find? l

section Effects

variable {start : Disk} {directory : Path} {b c : Workbench} {o : Operation}

theorem Sound.isolated (hb : Sound start directory b) : Isolated start directory b := by
  cases hb with
  | idle unused grown =>
    refine ⟨by simp [unused], by simp [unused], fun _ loc hidden c _ hfile => ?_⟩
    rcases grown.find? (loc ++ [hidden]) with hsame | ⟨-, hmade⟩
    · exact hsame ▸ hfile
    · rw [hmade] at hfile
      cases hfile
  | busy hbusy =>
    refine ⟨fun h hmem => ⟨hbusy.entryLocation_eq hmem, ?_, hbusy.content h hmem⟩, hbusy.apart, ?_⟩
    · obtain ⟨name, hplaced⟩ := hbusy.placed h hmem
      obtain ⟨hidden, hhidden, -, hloc⟩ := hplaced.exists_hidden
      exact ⟨_, hidden, hbusy.folder_now.1, hhidden, hloc⟩
    · intro unused loc hidden c hhidden hfile
      have hkept := hbusy.kept (loc ++ [hidden]) fun h hmem => by simp [unused] at hmem
      rcases hkept with hsame | ⟨-, name, _, plain, heq, -⟩
      · rw [hsame] at hfile
        rcases hbusy.grown.find? (loc ++ [hidden]) with hsame | ⟨-, hmade⟩
        · exact hsame ▸ hfile
        · rw [hmade] at hfile
          cases hfile
      · obtain ⟨-, rfl⟩ := List.append_singleton_inj.1 heq
        exact absurd hhidden (not_isHidden_of_plain plain)

/-- Making the directory makes what was missing on its way. -/
theorem visible_ensurePath (hdisk : b.volume.disk.WellFormed) {loc : Location} {name : Name}
    (hchange : (b.volume.ensurePath directory).1.disk.find? (loc ++ [name]) ≠
      b.volume.disk.find? (loc ++ [name])) :
    b.volume.disk.find? (loc ++ [name]) = none ∧
      (b.volume.ensurePath directory).1.disk.find? (loc ++ [name]) = some .directory ∧
      ((b.volume.ensurePath directory).1.disk.folder directory = .ok loc →
        (b.volume.ensurePath directory).1.disk.LeadsBack directory (loc ++ [name])) := by
  have hmade := Volume.ensurePath_made hdisk directory
  rcases hmade.find? (loc ++ [name]) with hsame | ⟨hnone, hdir⟩
  · exact absurd hsame hchange
  · exact ⟨hnone, hdir, fun hfolder => hmade.leadsBack hdisk hfolder hnone hdir⟩

/-- What is created stands under a hidden name, and leaves the way to the directory as it was. -/
theorem effects_created (hdisk : b.volume.disk.WellFormed) {draw : Draw} {name : String} {v : Volume}
    {made : Disk} {dir : Location} {s : Staged}
    (make : (b.volume.ensurePath directory).1.disk = made) (folder : made.folder directory = .ok dir)
    (placed : s.Placed made directory dir name)
    (disk : v.disk = Change.apply made (.createFile s.loc)) (live : List Handle) :
    Effects directory b (.create draw name) ⟨v, live⟩ := by
  have hview : ∀ l, v.disk.find? l =
      if l = s.loc then some (.file { bytes := [] }) else made.find? l := by
    rw [disk]
    exact Disk.find?_put placed.loc_ne_nil _
  have hsome : ∀ l, made.find? l ≠ none → v.disk.find? l = made.find? l := by
    intro l hl
    rw [hview, if_neg]
    rintro rfl
    exact hl placed.fresh
  have hhere : v.disk.here = made.here := by
    rw [disk]
    rfl
  refine ⟨fun loc other hother hchange => .inr ⟨⟨draw, name, rfl⟩, ?_⟩, nofun, nofun⟩
  dsimp only at hchange ⊢
  rw [hview, if_neg (placed.ne_visible hother)] at hchange ⊢
  rw [← make] at hchange
  obtain ⟨hnone, hdir, hback⟩ := visible_ensurePath hdisk hchange
  rw [make] at hdir hback
  refine ⟨hnone, hdir, fun hfolder => (hback ?_).congr hhere hsome⟩
  rw [folder, ← Disk.folder_of_kept folder hhere hsome, hfolder]

/-- What is committed takes the place of the artifact, and its hidden name goes away. -/
theorem effects_promoted {index : Nat} {h : Handle} {made : Disk} {dir : Location} {name : String}
    {v : Volume} (found : b.live[index]? = some h) (placed : h.staged.Placed made directory dir name)
    (commit : (h.staged.commit b.volume).2 = .ok h.staged.target)
    (place : b.volume.entryLocation h.staged.target = .ok (dir.entry name))
    (opens : (directory.join name).Opens) (short : (utf8 name).length ≤ nameLimit)
    (folder : v.disk.folder directory = .ok dir)
    (view : ∀ l, v.disk.find? l = if l = dir.entry name then some (.file { bytes := h.taken })
      else if l = h.staged.loc then none else b.volume.disk.find? l) (live : List Handle) :
    Effects directory b (.finish index .commit) ⟨v, live⟩ where
  visible loc other hother hchange := by
    refine .inl ⟨index, h, rfl, found, commit, ?_⟩
    rw [place]
    by_contra hne
    have hloc : loc ++ [other] ≠ dir.entry name := fun heq => hne (heq ▸ rfl)
    rw [view, if_neg hloc, if_neg (placed.ne_visible hother)] at hchange
    exact hchange rfl
  committed other g path heq hg hpath := by
    cases heq
    obtain rfl := Option.some.inj (found.symm.trans hg)
    obtain rfl := Except.ok.inj (commit.symm.trans hpath)
    refine ⟨rfl, ?_, dir.entry name, place, view⟩
    have hstatus : v.disk.status h.staged.target = .ok (.file { bytes := h.taken }) := by
      rw [placed.target]
      exact Disk.status_join_of_folder (proper_of_plain placed.plain) opens short folder
        ((view _).trans (if_pos rfl))
    rw [Disk.content, hstatus]
  removed other g ending heq hg hrefused := by
    cases heq
    obtain rfl := Option.some.inj (found.symm.trans hg)
    have hno := hrefused rfl
    rw [commit] at hno
    cases hno

/-- Otherwise what goes out of use goes away. -/
theorem effects_removed {index : Nat} {ending : Ending} {h : Handle} {made : Disk} {dir : Location}
    {name : String} {v : Volume} (found : b.live[index]? = some h)
    (placed : h.staged.Placed made directory dir name)
    (refused : ending = .commit → (h.staged.commit b.volume).2.isOk = false)
    (view : ∀ l, v.disk.find? l = if l = h.staged.loc then none else b.volume.disk.find? l)
    (live : List Handle) : Effects directory b (.finish index ending) ⟨v, live⟩ where
  visible loc other hother hchange :=
    absurd ((view _).trans (if_neg (placed.ne_visible hother))) hchange
  committed other g path heq hg hpath := by
    cases heq
    obtain rfl := Option.some.inj (found.symm.trans hg)
    have hno := refused rfl
    rw [hpath] at hno
    cases hno
  removed other g ending heq hg _ := by
    cases heq
    obtain rfl := Option.some.inj (found.symm.trans hg)
    exact view

/-- **What an operation changes.** -/
theorem Outcome.effects (ho : Outcome start directory b o c) (hb : Sound start directory b)
    (hclear : ¬ Crosses directory b o) : Effects directory b o c := by
  cases ho with
  | nothing unused disk =>
    refine ⟨fun loc name _ hchange => absurd (congrArg (Disk.find? · _) disk) hchange,
      fun index h path heq hindex => ?_, fun index h ending heq hindex => ?_⟩
    · rw [unused index .commit heq] at hindex
      cases hindex
    · rw [unused index ending heq] at hindex
      cases hindex
  | @failed draw name v disk =>
    refine ⟨fun loc other _ hchange => .inr ⟨⟨draw, name, rfl⟩, ?_⟩, nofun, nofun⟩
    dsimp only at hchange ⊢
    rw [disk] at hchange ⊢
    exact visible_ensurePath hb.wellFormed hchange
  | created make folder placed disk => exact effects_created hb.wellFormed make folder placed disk _
  | @written index piece taken v front back h split disk =>
    refine ⟨fun loc other hother hchange => absurd ?_ hchange, nofun, nofun⟩
    cases hb with
    | idle unused _ => simp [unused] at split
    | busy hbusy =>
      obtain ⟨name, hplaced⟩ := hbusy.placed h (by simp [split])
      have htakes := Staged.takes_append hplaced.loc_ne_nil b.volume taken
      dsimp only
      rw [disk]
      exact htakes.other _ (hplaced.ne_visible hother)
  | @promoted index v front back h made dir name found split busy placed commit place opens short free disk =>
    have hafter := busy.promoted placed short free (notMem_way hclear found busy place free)
    rw [← disk] at hafter
    refine effects_promoted found placed commit place opens short hafter.folder_now.1 (fun l => ?_) _
    rw [disk, busy.apply_rename, Disk.find?_put (entry_ne_nil _ _), Disk.find?_erase placed.loc_ne_nil]
  | @removed index ending v front back h made dir found split busy refused disk =>
    obtain ⟨name, hplaced⟩ := busy.placed h (by simp)
    refine effects_removed found hplaced refused (fun l => ?_) _
    rw [disk, Disk.find?_erase hplaced.loc_ne_nil]

end Effects

/-! ### Runs -/

section Run

variable {start : Disk} {directory : Path}

/-- No operation puts an artifact in the place of a link on the way to the directory. -/
def Clear (directory : Path) (b : Workbench) (operations : List Operation) : Prop :=
  ∀ front o back, operations = front ++ o :: back → ¬ Crosses directory (b.run directory front) o

theorem Clear.of_append {b : Workbench} {front back : List Operation}
    (h : Clear directory b (front ++ back)) : Clear directory b front := by
  rintro before o after rfl
  exact h before o (after ++ back) (by simp)

theorem Clear.concat {b : Workbench} {operations : List Operation} {o : Operation}
    (h : Clear directory b operations) (ho : ¬ Crosses directory (b.run directory operations) o) :
    Clear directory b (operations ++ [o]) := by
  intro front other back hsplit
  rcases List.eq_nil_or_concat back with rfl | ⟨before, last, rfl⟩
  · obtain ⟨rfl, rfl⟩ := List.append_singleton_inj.1 hsplit
    exact ho
  · have hsplit' : operations ++ [o] = (front ++ other :: before) ++ [last] := by
      simpa using hsplit
    exact h front other before (List.append_singleton_inj.1 hsplit').1

/-- **Whatever is done, the workbench stays sound.** -/
theorem run_sound {b : Workbench} (hb : Sound start directory b) {operations : List Operation}
    (hclear : Clear directory b operations) : Sound start directory (b.run directory operations) := by
  induction operations using List.reverseRecOn with
  | nil => exact hb
  | append_singleton operations o ih =>
    have hbefore := ih hclear.of_append
    rw [run_concat]
    exact (hbefore.outcome o).sound hbefore (hclear operations o [] rfl)

/-- A disk on which no staged file is in use, with its responses to the calls to come. -/
def ofDisk (d : Disk) (responses : List Response) : Workbench := { volume := { disk := d, responses } }

theorem sound_ofDisk (hdisk : start.WellFormed) (responses : List Response) :
    Sound start directory (ofDisk start responses) :=
  .idle rfl (.refl hdisk)

/-- **Staged files are isolated.**  In whatever order the staged files of a directory are created,
written, flushed, committed, discarded and dropped, and whatever the disk refuses: at every time each of
them holds what its own writes have taken, and what one operation changes is its own. -/
theorem run_isolated (hdisk : start.WellFormed) (responses : List Response) (directory : Path)
    (operations : List Operation) (hclear : Clear directory (ofDisk start responses) operations) :
    Isolated start directory ((ofDisk start responses).run directory operations) ∧
      ∀ front o back, operations = front ++ o :: back →
        Isolated start directory ((ofDisk start responses).run directory front) ∧
        Effects directory ((ofDisk start responses).run directory front) o
          (((ofDisk start responses).run directory front).step directory o) := by
  refine ⟨(run_sound (sound_ofDisk hdisk responses) hclear).isolated, ?_⟩
  rintro front o back rfl
  have hbefore := run_sound (sound_ofDisk hdisk responses) hclear.of_append
  exact ⟨hbefore.isolated, (hbefore.outcome o).effects hbefore (hclear front o back rfl)⟩

/-- Where the directory is there and no link is on the way to it, none can be replaced. -/
theorem Sound.not_crosses {b : Workbench} (hb : Sound start directory b) {dir : Location}
    (hfolder : start.folder directory = .ok dir)
    (hlink : ∀ l ∈ start.way directory, start.isLinkAt l = false) (o : Operation) :
    ¬ Crosses directory b o := by
  rintro ⟨index, h, place, target, -, hindex, -, hway, htarget⟩
  cases hb with
  | idle unused _ => simp [unused] at hindex
  | busy hbusy =>
    have hkept : ∀ l ∈ start.way directory, _ := fun l hl =>
      (hbusy.grown.find? l).resolve_right fun hmade =>
        Disk.find?_ne_none_of_way hfolder hl hmade.1
    rw [hbusy.folder_now.2] at hway
    rw [hbusy.way_kept hway] at htarget
    rw [(Disk.folder_congr hbusy.grown.here hkept).2] at hway
    rw [hkept place hway] at htarget
    exact Disk.isLinkAt_eq_false_iff.1 (hlink place hway) target htarget

theorem clear_of_noLink (hdisk : start.WellFormed) {dir : Location}
    (hfolder : start.folder directory = .ok dir)
    (hlink : ∀ l ∈ start.way directory, start.isLinkAt l = false) (responses : List Response)
    (operations : List Operation) : Clear directory (ofDisk start responses) operations := by
  induction operations using List.reverseRecOn with
  | nil =>
    intro front o back hsplit
    simp at hsplit
  | append_singleton operations o ih =>
    exact ih.concat (Sound.not_crosses (run_sound (sound_ofDisk hdisk responses) ih) hfolder hlink o)

end Run

/-! ### Two staged files for one artifact -/

/-- A directory with an artifact, and another directory under an artifact's name. -/
def shop : Disk where
  entries := [([utf8 "mods"], .directory),
    ([utf8 "mods", utf8 "blockcraft-a.jar"], .file { bytes := utf8 "old" }),
    ([utf8 "mods", utf8 "blockcraft-b.jar"], .directory)]

/-- Two staged files for the first artifact and one for the second; the one that was created later is
committed first, and the second artifact cannot be. -/
def errands : List Operation :=
  [.create (fun _ => .ofNat 0) "blockcraft-a.jar", .create (fun _ => .ofNat 0) "blockcraft-a.jar",
    .create (fun _ => .ofNat 1) "blockcraft-b.jar", .write 1 (utf8 "ab"), .write 0 (utf8 "x"),
    .write 1 (utf8 "c"), .flush 1, .finish 1 .commit, .finish 1 .commit, .finish 0 .discard]

/-- The disk that grants the six calls that make three staging files, and then takes one byte less. -/
def shortOnce : List Response := List.replicate 6 .granted ++ [.short 1]

theorem run_isolated_errands : shop.WellFormed ∧
    Clear (.ofText "mods") (ofDisk shop shortOnce) errands ∧
    ((ofDisk shop shortOnce).run (.ofText "mods") errands).live = [] ∧
    Isolated shop (.ofText "mods") ((ofDisk shop shortOnce).run (.ofText "mods") errands) := by
  have hdisk : shop.WellFormed := by decide +kernel
  have hfolder : shop.folder (.ofText "mods") = .ok [utf8 "mods"] := by decide +kernel
  have hclear : Clear (.ofText "mods") (ofDisk shop shortOnce) errands :=
    clear_of_noLink hdisk hfolder (by decide +kernel) shortOnce errands
  exact ⟨hdisk, hclear, by decide +kernel,
    (run_isolated hdisk shortOnce (.ofText "mods") errands hclear).1⟩

example : ((ofDisk shop shortOnce).run (.ofText "mods") errands).volume.disk.content
    (.ofText "mods/blockcraft-a.jar") = .ok { bytes := utf8 "ac" } := by
  decide +kernel

/-! ### Paths that lead through their own directory -/

/-- A staged file in a directory whose path goes into a missing name and up again. -/
def pastMissing : Workbench :=
  (ofDisk {} []).run (.ofText "mods/x/..") [.create (fun _ => .ofNat 0) "blockcraft-a.jar"]

/-- A directory with a link to another under an artifact's name. -/
def detour : Disk where
  entries := [([utf8 "mods"], .directory), ([utf8 "mods", utf8 "sub"], .directory),
    ([utf8 "mods", utf8 "blockcraft-a.jar"], .link (utf8 "sub"))]

/-- Two staged files in the directory, whose path goes through the link; one is committed in place of
the link, and the other is dropped. -/
def pastLink : Workbench :=
  (ofDisk detour []).run (.ofText "mods/blockcraft-a.jar/..")
    [.create (fun _ => .ofNat 0) "blockcraft-a.jar", .create (fun _ => .ofNat 0) "blockcraft-b.jar",
      .finish 0 .commit, .finish 0 .drop]

/-- A visible entry has been made where a staged file was created, and a staging file is left although
none is in use. -/
theorem not_isolated_detour :
    (({} : Disk).find? [utf8 "mods", utf8 "x"] = none ∧ pastMissing.live.length = 1 ∧
      pastMissing.volume.disk.folder (.ofText "mods/x/..") = .ok [utf8 "mods"] ∧
      pastMissing.volume.disk.find? [utf8 "mods", utf8 "x"] = some .directory) ∧
    detour.folder (.ofText "mods/blockcraft-a.jar/..") = .ok [utf8 "mods"] ∧
      detour.names [utf8 "mods"] = [utf8 "sub", utf8 "blockcraft-a.jar"] ∧
      pastLink.live.length = 0 ∧
      pastLink.volume.disk.find? [utf8 "mods", utf8 (stagingName "blockcraft-b.jar" (.ofNat 0))] =
        some (.file { bytes := [] }) := by
  refine ⟨⟨?_, ?_, ?_, ?_⟩, ?_, ?_, ?_, ?_⟩ <;> decide +kernel

end FolderSync.Workbench
