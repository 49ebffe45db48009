import FolderSync.Filter
import FolderSync.NameMap
import FolderSync.Staging

/-!
# The local inventory

The inventory holds the hash of every managed file of a directory.  `Disk.scan` builds it: the
names that the filter accepts, each with the hash of the regular file it leads to.  A file that
cannot be read to its end is left out, and so is an entry that the listing fails to read.  A directory
that is not there has no file; one that cannot be listed makes the scan fail.
-/

namespace FolderSync

/-- File names with the hashes of the files' contents. -/
abbrev Inventory := NameMap ContentHash

/-- The managed file behind an entry of a directory, with its hash.  An entry that cannot be read is
passed over. -/
def Disk.managed? (d : Disk) (f : Filter) (directory : Path) :
    Except Cause Name → Option (String × ContentHash)
  | .error _ => none
  | .ok name =>
    match text? name with
    | none => none
    | some text =>
      if f.Matches text ∧ d.isFile (directory.join text) then
        match d.hashFile (directory.join text) with
        | .ok hash => some (text, hash)
        | .error _ => none
      else none

/-- The managed files of a directory. -/
def Disk.scan (d : Disk) (f : Filter) (directory : Path) : Except FileError Inventory :=
  match d.locate directory with
  | .error _ => .ok .empty
  | .ok loc =>
    match d.find? loc with
    | none => .ok .empty
    | some .directory =>
      match d.list? loc with
      | .error cause => .error (.io directory cause)
      | .ok listed => .ok (.ofList (listed.filterMap (d.managed? f directory)))
    | some _ => .error (.io directory .notADirectory)

end FolderSync
