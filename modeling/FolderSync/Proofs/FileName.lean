import FolderSync.Manifest
import FolderSync.Proofs.Disk.Path
import FolderSync.Proofs.Inventory

/-!
# Names that stay in their directory

The names of artifacts and the names under which artifacts are staged are both single components of a
path (`Path.IsEntry`), so what is named stands in the directory itself; and no name is of both kinds,
since a staging name is hidden (`names_confined`).

* `Path.components`: what tells paths apart.
* `Path.parent?`: the components of the path that a path continues by one.
* `Path.IsEntry`: a path that continues the path of a directory by a name.
-/

namespace FolderSync

namespace Trail

/-- A step into a name at the end is one more part. -/
theorem parts_concat_into (absolute slash : Bool) (steps : List Step) (name : Name) :
    parts ⟨absolute, steps ++ [.into name], slash⟩ = parts ⟨absolute, steps, slash⟩ ++ [.into name] := by
  have hfilter : ∀ rest : List Step, (rest ++ [Step.into name]).filter (· ≠ Step.stay) =
      rest.filter (· ≠ Step.stay) ++ [Step.into name] := fun rest => by
    rw [List.filter_append]
    rfl
  cases absolute with
  | true => exact hfilter steps
  | false =>
    match steps with
    | [] => rfl
    | .stay :: rest => exact congrArg (Step.stay :: ·) (hfilter rest)
    | .up :: rest => exact hfilter (.up :: rest)
    | .into other :: rest => exact hfilter (.into other :: rest)

end Trail

namespace Path

/-- Whether the path starts at the root, and its parts.  Paths are the same if these are. -/
def components (p : Path) : Bool × List Step := (p.isAbsolute, p.parts)

/-- The components of the path without its last part, if it has one. -/
def parent? (p : Path) : Option (Bool × List Step) :=
  if p.parts = [] then none else some (p.isAbsolute, p.parts.dropLast)

/-- The path has one component more than the directory's path: a name, which is not `.` or `..`. -/
structure IsEntry (p directory : Path) (name : Name) : Prop where
  components_eq : p.components = (directory.isAbsolute, directory.parts ++ [.into name])
  fileName?_eq : p.fileName? = some name
  parent?_eq : p.parent? = some directory.components

theorem isAbsolute_eq (p : Path) : p.isAbsolute = p.trail.absolute :=
  beq_eq_decide _ _

/-- A name behind the path of a directory is an entry of it. -/
theorem isEntry_join (directory : Path) {name : String} (h : Name.Proper (utf8 name)) :
    (directory.join name).IsEntry directory (utf8 name) := by
  have htrail := directory.trail_join h
  have habsolute : (directory.join name).isAbsolute = directory.isAbsolute := by
    rw [isAbsolute_eq, isAbsolute_eq, htrail]
  have hparts : (directory.join name).parts = directory.parts ++ [.into (utf8 name)] := by
    rw [parts, htrail, Trail.parts_concat_into]
    rfl
  refine ⟨?_, ?_, ?_⟩
  · rw [components, habsolute, hparts]
  · rw [fileName?, hparts, List.getLast?_concat]
  · rw [parent?, hparts, habsolute, if_neg (by simp), List.dropLast_concat]
    rfl

end Path

/-! ### The two kinds of names -/

variable {name : String}

/-- A staging name is refused for being hidden, whatever else there is to it. -/
theorem nameFault?_stagingName (plain : nameFault? name = none) (token : Token) :
    nameFault? (stagingName name token) = some .hidden := by
  have hhead : (stagingName name token).toList.head? = some '.' := by
    rw [toList_stagingName]
    rfl
  have hlength := lt_length_stagingName name token
  have hnot : ∀ other : String, other.toList.length ≤ 7 → stagingName name token ≠ other := by
    rintro other hother rfl
    omega
  have hchars : ∀ c : Char, c ∉ name.toList → c.isAlphanum = false → c ≠ '.' →
      c ∉ (stagingName name token).toList := fun c => notMem_stagingName token
  obtain ⟨-, hslash, hbackslash, hnul, -⟩ := nameFault?_eq_none_iff.1 plain
  unfold nameFault?
  rw [if_neg (hnot "" (by decide)), if_neg (not_or.2 ⟨hnot "." (by decide), hnot ".." (by decide)⟩),
    if_neg (not_or.2 ⟨hchars _ hslash (by decide) (by decide), hchars _ hbackslash (by decide) (by decide)⟩),
    if_neg (hchars _ hnul (by decide) (by decide)), if_pos hhead]

/-- **Names stay in their directory, and the two kinds of names apart.**  A name is accepted just if it is
not empty, does not begin with a dot and has neither separators nor NUL.  Such a name makes an entry of
whatever directory it is put behind, and so does each of its staging names; but those are no names of
artifacts, no filter accepts one, and no manifest has an artifact of such a name. -/
theorem names_confined (directory : Path) (name : String) :
    (nameFault? name = none ↔ name ≠ "" ∧ name.toList.head? ≠ some '.' ∧ '/' ∉ name.toList ∧
        '\\' ∉ name.toList ∧ '\x00' ∉ name.toList) ∧
      (nameFault? name = none →
        (directory.join name).IsEntry directory (utf8 name) ∧
          ∀ token, (directory.join (stagingName name token)).IsEntry directory
              (utf8 (stagingName name token)) ∧
            nameFault? (stagingName name token) = some .hidden ∧
            (∀ f : Filter, ¬ f.Matches (stagingName name token)) ∧
            ∀ m : Manifest, ∀ d ∈ m.artifacts, d.filename ≠ stagingName name token) := by
  refine ⟨?_, fun plain => ⟨directory.isEntry_join (proper_of_plain plain), fun token => ?_⟩⟩
  · rw [nameFault?_eq_none_iff]
    tauto
  · have hhidden := nameFault?_stagingName plain token
    refine ⟨directory.isEntry_join (proper_stagingName plain token), hhidden,
      fun f => f.not_matches_of_hidden (isHidden_stagingName name token), fun m d _ heq => ?_⟩
    have hplain := d.nameFault?_filename
    rw [heq, hhidden] at hplain
    cases hplain

/-- A name with a blank and characters of two and four bytes, behind a path that stays and goes up. -/
theorem names_confined_accented :
    nameFault? "blockcraft-ä 😀.jar" = none ∧
      ((Path.ofText "./mods/../x//").join "blockcraft-ä 😀.jar").IsEntry (.ofText "./mods/../x//")
        (utf8 "blockcraft-ä 😀.jar") ∧
      ∀ token, nameFault? (stagingName "blockcraft-ä 😀.jar" token) = some .hidden := by
  have plain : nameFault? "blockcraft-ä 😀.jar" = none := by decide
  obtain ⟨hentry, hstaging⟩ := (names_confined (.ofText "./mods/../x//") "blockcraft-ä 😀.jar").2 plain
  exact ⟨plain, hentry, fun token => (hstaging token).2.1⟩

end FolderSync
