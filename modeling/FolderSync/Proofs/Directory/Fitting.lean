import FolderSync.Proofs.Directory.Crossing
import FolderSync.Proofs.Directory.Independence

/-!
# Which artifacts can be staged

A staging name keeps sixty-four characters of the artifact's name, however many bytes they have, and
adds thirteen bytes.  So an artifact can be staged in a directory that is there, unless its stem has
more than 242 bytes, the absolute path comes to its limit, all its staging names are taken, or the disk
refuses (`stage_isOk_iff`).

* `Path.Fits`: the staging names behind a path are within the limits.
* `obstacle?_stagingName_eq`: a name or path too long is all that can stand in the way of one.
* `stage_verdict`: what comes of starting an artifact.
* `not_staged_wide`: a name that a file can have and no staging file can be made for.
-/

namespace FolderSync

/-! ### Limits -/

/-- The staging names of an artifact behind a path are within the limits of the system. -/
structure Path.Fits (base : Path) (name : String) : Prop where
  name_le : (utf8 (stagingStem name)).length + 13 ≤ nameLimit
  path_lt : ∀ token, (base.join (stagingName name token)).bytes.length < pathLimit

/-- A length beyond a limit is all that can stand in the way of a staging name. -/
theorem Path.obstacle?_stagingName_eq {base : Path} (hbase : 0 ∉ base.bytes) {name : String}
    (plain : nameFault? name = none) (token : Token) :
    (base.obstacle? (stagingName name token) = none ∧ base.Fits name) ∨
      (base.obstacle? (stagingName name token) = some .nameTooLong ∧ ¬ base.Fits name) := by
  obtain ⟨front, hbytes, hjoin⟩ := base.exists_join
  have hproper := fun t => proper_stagingName plain t
  have hpath : ∀ t, (base.join (stagingName name t)).bytes =
      front ++ utf8 (stagingName name t) := fun t => hjoin _ (hproper t).noSlash
  have hne : ∀ t, utf8 (stagingName name t) ≠ [] := fun t =>
    (ofField?_eq_into_iff.1 (hproper t).field).2.1
  have hnul : 0 ∉ front ++ utf8 (stagingName name token) := by
    refine List.not_mem_append (fun h => ?_) (hproper token).noNul
    rcases hbytes 0 h with h | h
    · exact hbase h
    · simp [slashByte] at h
  have hfits : base.Fits name ↔ (utf8 (stagingName name token)).length ≤ nameLimit ∧
      (front ++ utf8 (stagingName name token)).length < pathLimit := by
    constructor
    · intro h
      exact ⟨(length_stagingName_eq name token).symm ▸ h.name_le, hpath token ▸ h.path_lt token⟩
    · rintro ⟨hname, hlong⟩
      refine ⟨length_stagingName_eq name token ▸ hname, fun t => ?_⟩
      rw [hpath, List.length_append, length_stagingName name t token, ← List.length_append]
      exact hlong
  unfold obstacle? refusal? open?
  rw [hpath, if_neg hnul, if_neg (by simp [hne]), hfits]
  by_cases hlong : pathLimit ≤ (front ++ utf8 (stagingName name token)).length
  · rw [if_pos hlong]
    exact .inr ⟨rfl, fun h => Nat.not_lt.2 hlong h.2⟩
  · rw [if_neg hlong]
    by_cases hname : nameLimit < (utf8 (stagingName name token)).length
    · exact .inr ⟨if_pos hname, fun h => Nat.not_lt.2 h.1 hname⟩
    · exact .inl ⟨if_neg hname, Nat.not_lt.1 hname, Nat.not_le.1 hlong⟩

/-- A character of the basic plane has three bytes at most. -/
theorem length_utf8EncodeChar_le {c : Char} (h : c.toNat < 0x10000) :
    (String.utf8EncodeChar c).length ≤ 3 := by
  have hval : c.toNat = c.val.toNat := rfl
  unfold String.utf8EncodeChar
  simp only [← hval]
  split_ifs
  · simp
  · simp
  · simp
  · omega

/-- A stem of such characters leaves room for the rest of the staging name. -/
theorem length_stagingStem_le {name : String}
    (h : ∀ c ∈ (stagingStem name).toList, c.toNat < 0x10000) :
    (utf8 (stagingStem name)).length + 13 ≤ nameLimit := by
  have hmany : ∀ cs : List Char, (∀ c ∈ cs, c.toNat < 0x10000) →
      (bytesOf cs).length ≤ 3 * cs.length := by
    intro cs hcs
    induction cs with
    | nil => simp
    | cons c rest ih =>
      have hc := length_utf8EncodeChar_le (hcs c List.mem_cons_self)
      have hrest := ih fun x hx => hcs x (List.mem_cons_of_mem _ hx)
      rw [bytesOf_cons, List.length_append, List.length_cons]
      omega
  have hbytes := hmany _ h
  have hchars : (stagingStem name).toList.length ≤ stemLength := by
    rw [stagingStem, String.toList_ofList, List.length_take]
    exact Nat.min_le_left _ _
  rw [← utf8_eq_bytesOf] at hbytes
  unfold stemLength at hchars
  unfold nameLimit
  omega

/-! ### Starting an artifact -/

/-- The cause of a failed operation on the disk. -/
def FileError.cause? : FileError → Option Cause
  | .io _ cause => some cause
  | .ioAt _ cause _ => some cause
  | .invalidName .. => none
  | .lockFailed _ => none
  | .notText _ => none

section Stage

variable {v : Volume} {dir : Location} {directory : Path} {name : String} {draw : Draw}

/-- In a directory that is there, starting an artifact fails where its staging file cannot be made, -/
theorem stage_of_not_created (hdisk : v.disk.WellFormed) (hfolder : v.disk.folder directory = .ok dir)
    (hopens : directory.Opens) (plain : nameFault? name = none) {w : Volume} {fault : FileError}
    (hcreate : createStaging v directory (v.disk.absolute directory) name (draw.candidates v.disk) =
      (w, .error fault)) : v.stage draw directory name = (w, .error fault) := by
  have hmade := Volume.ensurePath_eq_of_folder hdisk hfolder hopens
  simp only [Volume.stage, plain, hmade, hcreate]

/-- and otherwise it comes down to the lock. -/
theorem stage_of_created (hdisk : v.disk.WellFormed) (hfolder : v.disk.folder directory = .ok dir)
    (hopens : directory.Opens) (plain : nameFault? name = none) {w : Volume} {s : Staged}
    (hcreate : createStaging v directory (v.disk.absolute directory) name (draw.candidates v.disk) =
      (w, .ok s)) :
    (w.Grants 1 ∧ v.stage draw directory name = (w.answered, .ok s)) ∨
      ¬ w.Grants 1 ∧
        v.stage draw directory name = (s.drop w.answered, .error (.lockFailed s.hidden)) := by
  have hmade := Volume.ensurePath_eq_of_folder hdisk hfolder hopens
  rcases w.call_cases with ⟨hgranted, hcall⟩ | ⟨hrefused, _, hcall⟩
  · exact .inl ⟨hgranted, by simp only [Volume.stage, plain, hmade, hcreate, hcall]⟩
  · exact .inr ⟨hrefused, by simp only [Volume.stage, plain, hmade, hcreate, hcall]⟩

/-- **What comes of starting an artifact in a directory that is there.** -/
theorem stage_verdict (draw : Draw) (hdisk : v.disk.WellFormed)
    (hfolder : v.disk.folder directory = .ok dir) (hopens : directory.Opens)
    (plain : nameFault? name = none) :
    (¬ (v.disk.absolute directory).Fits name ∧
        v.stage draw directory name = (v, .error (.ioAt directory .nameTooLong
          ((v.disk.absolute directory).join (stagingName name (draw v.disk)))))) ∨
      ((v.disk.absolute directory).Fits name ∧
        (¬ ∃ token, v.disk.find? (dir.entry (stagingName name token)) = none) ∧
        v.stage draw directory name =
          (v, .error (.ioAt directory .noFreeName (v.disk.absolute directory)))) ∨
      ((v.disk.absolute directory).Fits name ∧
        (∃ token, v.disk.find? (dir.entry (stagingName name token)) = none) ∧
        ((v.Grants 2 ∧ ∃ s, (v.stage draw directory name).2 = .ok s) ∨
          ¬ v.Grants 2 ∧ ∃ fault, (v.stage draw directory name).2 = .error fault ∧
            fault.cause? ≠ some .nameTooLong)) := by
  have hbase := Disk.noNul_absolute hdisk hopens.noNul
  have habsolute : v.disk.folder (v.disk.absolute directory) = .ok dir :=
    (Disk.folder_absolute hdisk directory).trans hfolder
  by_cases hfits : (v.disk.absolute directory).Fits name
  · have hclear := fun token =>
      (Path.obstacle?_stagingName_eq hbase plain token).resolve_right fun h => h.2 hfits
    have hcreate : createStaging v directory (v.disk.absolute directory) name
        (draw.candidates v.disk) = _ := createStaging_eq plain habsolute fun token => (hclear token).1
    by_cases hfree : ∃ token, v.disk.find? (dir.entry (stagingName name token)) = none
    · refine .inr (.inr ⟨hfits, hfree, ?_⟩)
      obtain ⟨token, htoken⟩ := draw.exists_find?_candidates hfree
      rw [htoken] at hcreate
      rw [Volume.grants_succ]
      -- one call makes the file, and one locks it
      rcases v.call_cases with ⟨hgranted, hcall⟩ | ⟨hrefused, reason, hcall⟩
      · simp only [Volume.attempt, hcall] at hcreate
        rcases stage_of_created hdisk hfolder hopens plain hcreate with ⟨hlock, hstage⟩ | ⟨hlock, hstage⟩
        · exact .inl ⟨⟨hgranted, hlock⟩, _, by rw [hstage]⟩
        · exact .inr ⟨fun h => hlock h.2, _, by rw [hstage], by simp [FileError.cause?]⟩
      · simp only [Volume.attempt, hcall] at hcreate
        have hstage := stage_of_not_created hdisk hfolder hopens plain hcreate
        exact .inr ⟨fun h => hrefused h.1, _, by rw [hstage], by simp [FileError.cause?]⟩
    · rw [find?_eq_none_of_taken hfree] at hcreate
      exact .inr (.inl ⟨hfits, hfree, stage_of_not_created hdisk hfolder hopens plain hcreate⟩)
  · -- the first token that is tried ends it
    obtain ⟨hlong, -⟩ :=
      (Path.obstacle?_stagingName_eq hbase plain (draw v.disk)).resolve_left fun h => hfits h.2
    exact .inl ⟨hfits, stage_of_not_created hdisk hfolder hopens plain
      (createStaging_of_obstacle plain habsolute hlong)⟩

/-- **Which artifacts can be staged in a directory that is there.**  Starting one fails because of a
name too long just if its stem or the path is, whatever the length of its own name; and it succeeds
just if both fit, a staging name is free and the disk grants to make the file and to lock it.  A stem of
characters of the basic plane fits. -/
theorem stage_isOk_iff (draw : Draw) (hdisk : v.disk.WellFormed)
    (hdir : v.disk.isDirectory directory = true) (plain : nameFault? name = none) :
    (∀ token, (utf8 (stagingName name token)).length = (utf8 (stagingStem name)).length + 13) ∧
      ((∃ fault, (v.stage draw directory name).2 = .error fault ∧
          fault.cause? = some .nameTooLong) ↔ ¬ (v.disk.absolute directory).Fits name) ∧
      (∃ dir, v.disk.locate directory = .ok dir ∧ ((v.stage draw directory name).2.isOk = true ↔
        (v.disk.absolute directory).Fits name ∧
          (∃ token, v.disk.find? (dir.entry (stagingName name token)) = none) ∧ v.Grants 2)) ∧
      ((∀ c ∈ (stagingStem name).toList, c.toNat < 0x10000) →
        (utf8 (stagingStem name)).length + 13 ≤ nameLimit) := by
  obtain ⟨hopens, dir, hfolder⟩ := Disk.folder_of_isDirectory hdir
  have hverdict := stage_verdict draw hdisk hfolder hopens plain
  refine ⟨length_stagingName_eq name, ?_, ⟨dir, Disk.locate_of_folder hopens hfolder, ?_⟩,
    length_stagingStem_le⟩
  · rcases hverdict with ⟨hfits, hstage⟩ | ⟨hfits, -, hstage⟩ |
      ⟨hfits, -, ⟨-, s, hstage⟩ | ⟨-, fault, hstage, hcause⟩⟩
    · rw [hstage]
      exact iff_of_true ⟨_, rfl, rfl⟩ hfits
    · rw [hstage]
      refine iff_of_false ?_ (not_not.2 hfits)
      rintro ⟨fault, h, hcause⟩
      cases h
      cases hcause
    · rw [hstage]
      exact iff_of_false (fun ⟨_, h, _⟩ => by cases h) (not_not.2 hfits)
    · rw [hstage]
      refine iff_of_false ?_ (not_not.2 hfits)
      rintro ⟨other, h, hlong⟩
      cases h
      exact hcause hlong
  · rcases hverdict with ⟨hfits, hstage⟩ | ⟨hfits, hfree, hstage⟩ |
      ⟨hfits, hfree, ⟨hgranted, s, hstage⟩ | ⟨hrefused, fault, hstage, -⟩⟩
    · rw [hstage]
      exact iff_of_false Bool.false_ne_true fun h => hfits h.1
    · rw [hstage]
      exact iff_of_false Bool.false_ne_true fun h => hfree h.2.1
    · rw [hstage]
      exact iff_of_true rfl ⟨hfits, hfree, hgranted⟩
    · rw [hstage]
      exact iff_of_false Bool.false_ne_true fun h => hrefused h.2.2

end Stage

/-! ### A name with wide characters -/

/-- Sixty-three characters of four bytes each. -/
def wideName : String := String.ofList (List.replicate 63 '😀')

theorem utf8_wideName : utf8 wideName = bytesOf (List.replicate 63 '😀') := by
  unfold wideName
  rw [utf8_ofList]

theorem nameFault?_wideName : nameFault? wideName = none := by
  have hchars : wideName.toList = List.replicate 63 '😀' := by
    unfold wideName
    rw [String.toList_ofList]
  rw [nameFault?_eq_none_iff, hchars]
  refine ⟨fun hempty => ?_, by decide, by decide, by decide, by decide⟩
  rw [hempty] at hchars
  exact absurd hchars (by decide)

theorem length_stagingStem_wideName : (utf8 (stagingStem wideName)).length = 252 := by
  unfold stagingStem wideName
  rw [String.toList_ofList, utf8_ofList]
  decide +kernel

/-- A directory with one file. -/
def Volume.shelf : Volume where
  disk := { entries := [([utf8 "mods"], .directory),
    ([utf8 "mods", utf8 "x"], .file { bytes := utf8 "abc" })] }

theorem isDirectory_shelf : Volume.shelf.disk.isDirectory (.ofText "mods") = true := by
  decide +kernel

theorem not_fits_wideName (base : Path) : ¬ base.Fits wideName := by
  intro h
  have hstem := h.name_le
  rw [length_stagingStem_wideName] at hstem
  exact absurd hstem (by decide)

theorem stage_isOk_iff_wide : Volume.shelf.disk.WellFormed ∧
    Volume.shelf.disk.isDirectory (.ofText "mods") = true ∧ nameFault? wideName = none ∧
    ∃ fault, (Volume.shelf.stage (fun _ => .ofNat 0) (.ofText "mods") wideName).2 = .error fault ∧
      fault.cause? = some .nameTooLong := by
  have hdisk : Volume.shelf.disk.WellFormed := by decide +kernel
  obtain ⟨-, hlong, -, -⟩ :=
    stage_isOk_iff (fun _ => .ofNat 0) hdisk isDirectory_shelf nameFault?_wideName
  exact ⟨hdisk, isDirectory_shelf, nameFault?_wideName, hlong.2 (not_fits_wideName _)⟩

/-- The name is short enough for a file to be renamed to it, and too long to be staged. -/
theorem not_staged_wide : nameFault? wideName = none ∧ (utf8 wideName).length ≤ nameLimit ∧
    Volume.shelf.disk.isDirectory (.ofText "mods") = true ∧
    (Volume.shelf.rename (.ofText "mods/x") (Path.join (.ofText "mods") wideName)).2 = .ok () ∧
    (∀ token, nameLimit < (utf8 (stagingName wideName token)).length) ∧
    (Volume.shelf.stage (fun _ => .ofNat 0) (.ofText "mods") wideName).2 =
      .error (.ioAt (.ofText "mods") .nameTooLong
        ((Path.ofText "/mods").join (stagingName wideName (.ofNat 0)))) := by
  have hdisk : Volume.shelf.disk.WellFormed := by decide +kernel
  have hfolder : Volume.shelf.disk.folder (.ofText "mods") = .ok [utf8 "mods"] := by decide +kernel
  refine ⟨nameFault?_wideName, ?_, isDirectory_shelf, ?_, fun token => ?_, ?_⟩
  · rw [utf8_wideName]
    decide +kernel
  · rw [Path.join, Path.ofText, Path.ofText, Path.ofText, utf8_wideName]
    decide +kernel
  · rw [length_stagingName_eq, length_stagingStem_wideName]
    decide
  · have habsolute : Volume.shelf.disk.absolute (.ofText "mods") = .ofText "/mods" := by
      decide +kernel
    rcases stage_verdict (fun _ => .ofNat 0) hdisk hfolder (by decide +kernel) nameFault?_wideName with
      ⟨-, hstage⟩ | ⟨hfits, -⟩ | ⟨hfits, -⟩
    · rw [hstage, habsolute]
    · exact absurd hfits (not_fits_wideName _)
    · exact absurd hfits (not_fits_wideName _)

end FolderSync
