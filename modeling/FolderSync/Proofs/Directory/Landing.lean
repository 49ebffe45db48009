import FolderSync.Proofs.Directory.Install

/-!
# Where an artifact lands

Wherever a path leads, through links and `..`, an install that succeeds makes missing directories
and then puts the received body into the folder of the path (`install_landed`).  `Landed` is the disk
after an install beside the disk with the directories made.
-/

namespace FolderSync

/-- Where the body of an artifact stands after an install, beside the disk `made` on which only
missing directories have been made. -/
structure Landed (made after : Disk) (p : Path) (name : String) (dir : Location) (body : Bytes) : Prop
    where
  folder : made.folder p = .ok dir
  /-- No directory stood in the artifact's place. -/
  free : made.find? (dir.entry name) ≠ some .directory
  opens : (p.join name).Opens
  short : (utf8 name).length ≤ nameLimit
  here : after.here = made.here
  closed : after.closed = made.closed
  find? : ∀ loc, after.find? loc =
    if loc = dir.entry name then some (.file { bytes := body }) else made.find? loc

namespace Landed

variable {made after : Disk} {p : Path} {name : String} {dir : Location} {body : Bytes}

theorem find?_entry (h : Landed made after p name dir body) :
    after.find? (dir.entry name) = some (.file { bytes := body }) := by
  rw [h.find?, if_pos rfl]

theorem find?_of_ne (h : Landed made after p name dir body) {loc : Location}
    (hloc : loc ≠ dir.entry name) : after.find? loc = made.find? loc := by
  rw [h.find?, if_neg hloc]

/-- A path that does not pass the artifact has the folder where the artifact is. -/
theorem folder_of_apart (h : Landed made after p name dir body) (hway : dir.entry name ∉ after.way p) :
    after.folder p = .ok dir := by
  rw [← h.folder]
  refine (Disk.folder_congr h.here.symm fun l hl => ?_).1.symm
  exact (h.find?_of_ne fun heq => hway (heq ▸ hl)).symm

/-- Where a directory stood, it still stands. -/
theorem find?_directory (h : Landed made after p name dir body) {loc : Location}
    (hloc : made.find? loc = some .directory) : after.find? loc = some .directory := by
  rw [h.find?_of_ne fun heq => h.free (heq ▸ hloc), hloc]

theorem wellFormed (h : Landed made after p name dir body) (hdisk : made.WellFormed)
    (plain : nameFault? name = none) : after.WellFormed where
  parent {loc n} hsome := by
    by_cases hentry : loc ++ [n] = dir.entry name
    · obtain ⟨rfl, -⟩ := List.append_inj' hentry rfl
      exact h.find?_directory (Disk.directory_of_folder hdisk h.folder)
    · rw [h.find?_of_ne hentry] at hsome
      exact h.find?_directory (hdisk.parent hsome)
  valid {loc n} hsome := by
    by_cases hentry : loc ++ [n] = dir.entry name
    · obtain ⟨-, hname⟩ := List.append_inj' hentry rfl
      obtain rfl := (List.cons.inj hname).1
      exact ⟨proper_of_plain plain, h.short⟩
    · rw [h.find?_of_ne hentry] at hsome
      exact hdisk.valid hsome
  here := h.find?_directory (h.here ▸ hdisk.here)
  closed q hq := h.find?_directory (hdisk.closed q (h.closed ▸ hq))

end Landed

section Landing

variable {v w : Volume} {directory : Path} {draw : Draw} {verify : Bool} {d : Descriptor}
  {reply : Reply} {staged : Staged} {path : Path} {made : Volume} {token : Token}

/-- **A staging file lies in the directory of its path,** unless that is empty: the empty path leads
nowhere, and the staging file is made in the working directory. -/
theorem liesIn_of_stage {name : String} (hdisk : v.disk.WellFormed)
    (h : v.stage draw directory name = (w, .ok staged)) :
    staged.liesIn w.disk directory = true ↔ directory.bytes ≠ [] := by
  obtain ⟨made, hmade, hcreated⟩ := stage_eq_ok h
  have hgrown := Volume.ensurePath_grown hdisk directory
  rw [hmade] at hgrown
  obtain ⟨dir, token, hfolder, hloc, -⟩ := hcreated.exists_folder hgrown.wellFormed
  have hkept : w.disk.folder directory = .ok dir :=
    Disk.folder_of_kept hfolder hcreated.here_eq fun l hl =>
      (hcreated.find? l).trans (if_neg (hcreated.ne_loc hl))
  unfold Staged.liesIn
  constructor
  · intro hlies hempty
    have hlocate : w.disk.locate directory = .error .notFound := by
      rw [Disk.locate, Path.open?, hempty]
      rfl
    rw [hlocate] at hlies
    cases hlies
  · intro hne
    have hopens : directory.Opens := .of_not_error fun cause hopen => by
      rw [Volume.ensurePath, if_neg hne, hopen] at hmade
      cases hmade
    rw [Disk.locate_of_folder hopens hkept, hloc]
    simp [Location.entry]

/-- A staging file that holds some bytes, beside the disk `made` on which only its directory had been
made. -/
structure Staged.Holds (s : Staged) (made : Disk) (body : Bytes) (u : Volume) : Prop where
  fresh : made.find? s.loc = none
  here : u.disk.here = made.here
  closed : u.disk.closed = made.closed
  content : u.disk.find? s.loc = some (.file { bytes := body })
  other : ∀ loc, loc ≠ s.loc → u.disk.find? loc = made.find? loc
  entryLocation : u.entryLocation s.hidden = .ok s.loc

namespace Staged.Holds

variable {body : Bytes} {u : Volume}

/-- What stood before still stands. -/
theorem kept (h : staged.Holds made.disk body u) {loc : Location} (hloc : made.disk.find? loc ≠ none) :
    u.disk.find? loc = made.disk.find? loc := by
  refine h.other loc ?_
  rintro rfl
  exact hloc h.fresh

theorem unchanged (h : staged.Holds made.disk body v) (hu : v.Makes [] u) :
    staged.Holds made.disk body u := by
  have hplace := (Volume.entryLocation_congr hu.disk_eq staged.hidden).trans h.entryLocation
  obtain ⟨hfresh, hhere, hclosed, hcontent, hother, -⟩ := h
  rw [← hu.disk_eq] at hhere hclosed hcontent hother
  exact ⟨hfresh, hhere, hclosed, hcontent, hother, hplace⟩

theorem loc_ne_nil (h : staged.Holds made.disk body u) : staged.loc ≠ [] := by
  intro hnil
  have hfresh := h.fresh
  rw [hnil, Disk.find?_root] at hfresh
  cases hfresh

/-- A staging file that is dropped goes away, and what else stands on the disk stays. -/
theorem drop (h : staged.Holds made.disk body u) : (staged.drop u).disk.Same made.disk := by
  have hdrop : staged.drop u = u.perform (.remove staged.loc) := by
    rw [Staged.drop, Volume.unlink_eq h.entryLocation h.content]
  rw [hdrop]
  refine ⟨h.here, fun loc => ?_, h.closed⟩
  rw [Volume.disk_perform, Change.apply, Disk.find?_erase h.loc_ne_nil]
  by_cases hl : loc = staged.loc
  · rw [if_pos hl, hl, h.fresh]
  · rw [if_neg hl, h.other loc hl]

end Staged.Holds

/-- A staging file that was made and has received pieces holds their front, and all of them if they were
written. -/
theorem holds_receive (hcreated : staged.Created directory d.filename made v)
    (hdisk : made.disk.WellFormed) (pieces : List Bytes) :
    ∃ taken, staged.Holds made.disk taken (staged.receive v pieces).1.inner ∧
      ((staged.receive v pieces).2 = .ok () → taken = pieces.flatten) := by
  obtain ⟨taken, htakes, -, -, hall⟩ := Staged.receive_takes hcreated.loc_ne_nil v pieces
  have hhere := htakes.here.trans hcreated.here_eq
  have hclosed : v.disk.closed = made.disk.closed := by
    rw [hcreated.makes.disk_apply, Change.closed_apply]
  have hempty : v.disk.find? staged.loc = some (.file { bytes := [] }) :=
    (hcreated.find? _).trans (if_pos rfl)
  have hother : ∀ loc, loc ≠ staged.loc →
      (staged.receive v pieces).1.inner.disk.find? loc = made.disk.find? loc := fun loc hl =>
    (htakes.other loc hl).trans ((hcreated.find? loc).trans (if_neg hl))
  refine ⟨taken, ⟨hcreated.fresh, hhere, htakes.closed.trans hclosed, htakes.content [] hempty, hother,
    ?_⟩, hall⟩
  exact hcreated.entryLocation_of_kept hdisk hhere fun l hl => hother l (hcreated.ne_loc hl)

/-- A reply that is written and committed has landed in the folder where its staging file was made. -/
theorem landed_of_commit (hcreated : staged.Created directory d.filename made v)
    (hdisk : made.disk.WellFormed) (hwritten : (staged.receive v reply.pieces).2 = .ok ())
    (hcommit : staged.commit (staged.receive v reply.pieces).1.inner = (w, .ok path)) :
    ∃ dir, Landed made.disk w.disk directory d.filename dir reply.body ∧
      w.journal.getLast? = some (.rename staged.loc (dir.entry d.filename)) := by
  have plain := hcreated.plain
  obtain ⟨dir, token, hfolder, hloc, -⟩ := hcreated.exists_folder hdisk
  obtain ⟨taken, hheld, hall⟩ := holds_receive hcreated hdisk reply.pieces
  obtain rfl := hall hwritten
  obtain ⟨-, u, hsettled, hrename⟩ := Staged.commit_eq_ok hcommit
  have hholds := hheld.unchanged hsettled
  obtain ⟨old, new, e, hold, hnew, hfound, hfree, hmakes⟩ := Volume.rename_eq_ok hrename
  obtain rfl := Except.ok.inj (hholds.entryLocation.symm.trans hold)
  rw [hcreated.target] at hnew
  obtain ⟨hopens, hshort, dir', hdir', rfl⟩ :=
    (Volume.entryLocation_join_iff (proper_of_plain plain)).1 hnew
  have hkept : u.disk.folder directory = .ok dir :=
    Disk.folder_of_kept hfolder hholds.here fun l hl => hholds.kept hl
  obtain rfl := Except.ok.inj (hkept.symm.trans hdir')
  have hapart : dir ++ [utf8 d.filename] ≠ staged.loc := by
    rw [hloc]
    exact (ne_entry_of_hidden (isHidden_stagingName d.filename token) plain).symm
  have happly : w.disk = (u.disk.erase staged.loc).put (dir ++ [utf8 d.filename])
      (.file { bytes := reply.body }) := by
    rw [hmakes.disk_apply]
    simp only [Change.apply, hholds.content]
    rfl
  refine ⟨dir, ⟨hfolder, ?_, hopens, hshort, ?_, ?_, fun loc => ?_⟩,
    by simp [hmakes.journal, Location.entry]⟩
  · rw [Location.entry, ← hholds.other _ hapart]
    exact hfree
  · rw [happly]
    exact hholds.here
  · rw [happly]
    exact hholds.closed
  · rw [happly, Disk.find?_put (by simp), Disk.find?_erase hholds.loc_ne_nil, Location.entry]
    by_cases hl : loc = staged.loc
    · rw [if_pos hl, hl, hholds.fresh]
    · rw [if_neg hl, hholds.other loc hl]

theorem promote_landed {o : Installed} (hdisk : v.disk.WellFormed)
    (h : promote draw verify d directory reply v = (w, .ok o)) :
    ∃ made dir, v.ensurePath directory = (made, .ok ()) ∧
      Landed made.disk w.disk directory d.filename dir reply.body ∧
      ∃ hidden, w.journal.getLast? = some (.rename hidden (dir.entry d.filename)) := by
  have hpromotion := promotion draw verify d directory reply v
  rw [h] at hpromotion
  cases hpromotion with
  | promoted hstage hwritten _ _ hcommit =>
    obtain ⟨made, hmade, hcreated⟩ := stage_eq_ok hstage
    have hgrown := Volume.ensurePath_grown hdisk directory
    rw [hmade] at hgrown
    obtain ⟨dir, hlanded, hlast⟩ := landed_of_commit hcreated hgrown.wellFormed hwritten hcommit
    exact ⟨made, dir, hmade, hlanded, _, hlast⟩

/-- **An install that succeeds puts the received body into the folder of its path.** -/
theorem install_landed {net : Network} {s t : Session} {o : Installed}
    (hdisk : s.volume.disk.WellFormed)
    (h : install net draw verify d directory s = (t, .ok o)) :
    ∃ made dir body, s.volume.ensurePath directory = (made, .ok ()) ∧
      Delivery.Genuine net s.asked t.asked verify directory ⟨d, o, body⟩ ∧
      Landed made.disk t.volume.disk directory d.filename dir body ∧
      ∃ hidden, t.volume.journal.getLast? = some (.rename hidden (dir.entry d.filename)) := by
  obtain ⟨reply, hrequest, hstatus, hpromote⟩ := promote_of_install h
  obtain ⟨made, dir, hmade, hlanded, hlast⟩ := promote_landed hdisk hpromote
  exact ⟨made, dir, reply.body, hmade, genuine_of_promote hrequest hstatus hpromote, hlanded, hlast⟩

end Landing

end FolderSync
