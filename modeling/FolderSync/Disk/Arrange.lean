import FolderSync.Volume

/-!
# Arranging a disk

How a disk comes to hold what it holds before anything is synchronized, and what can be seen of it
afterwards: `Disk.placeFile`, `Disk.makeLink` and `Disk.makeDirectories` put entries in place,
`Disk.removeTree` takes them away, `Disk.listing` shows a directory.
-/

namespace FolderSync

namespace Disk

/-- The location of the file that writing to a trail makes or replaces: a link that leads nowhere is
followed to where it points. -/
def outlet (d : Disk) (base : Location) : (links : Nat) → Trail → Except Cause Location
  | links, t =>
    match t.steps.getLast?, t.slash with
    | some (.into name), false =>
      match d.walk true linkLimit (if t.absolute then [] else base)
          (t.steps.dropLast ++ [.stay]) with
      | .error cause => .error cause
      | .ok parent =>
        if nameLimit < name.length then .error .nameTooLong
        else match d.find? (parent ++ [name]) with
          | some .directory => .error .isADirectory
          | some (.link target) =>
            match links with
            | 0 => .error .tooManyLinks
            | more + 1 => d.outlet parent more (.ofBytes target)
          | _ => .ok (parent ++ [name])
    | _, _ => .error .isADirectory

/-- Makes the directory at a path and all that are missing on the way. -/
def makeDirectories (d : Disk) (p : Path) : Disk × Except Cause Unit :=
  let (v, result) := ({ disk := d } : Volume).ensurePath p
  (v.disk, result)

/-- Writes a file, with the directories on the way to it. -/
def placeFile (d : Disk) (path content : Bytes) : Disk × Except Cause Unit :=
  match Path.open? ⟨path⟩ with
  | .error cause => (d, .error cause)
  | .ok t =>
    match ({ disk := d } : Volume).ensureParts t.absolute t.parts.dropLast.reverse with
    | (v, .error cause) => (v.disk, .error cause)
    | (v, .ok ()) =>
      match v.disk.outlet v.disk.here linkLimit t with
      | .error cause => (v.disk, .error cause)
      | .ok loc => (v.disk.put loc (.file { bytes := content }), .ok ())

/-- The location of the entry that a path itself names. -/
def entryLocation (d : Disk) (path : Bytes) : Except Cause Location :=
  match Path.open? ⟨path⟩ with
  | .error cause => .error cause
  | .ok t =>
    match d.slot t with
    | .error cause => .error cause
    | .ok (parent, name) => .ok (parent ++ [name])

/-- Makes a symbolic link. -/
def makeLink (d : Disk) (target path : Bytes) : Except Cause Disk :=
  if target = [] then .error .notFound
  else match d.entryLocation path with
    | .error cause => .error cause
    | .ok loc =>
      match d.find? loc with
      | some _ => .error .alreadyExists
      | none => .ok (d.put loc (.link target))

/-- Takes away the entry that a path itself names, with all that lies below it. -/
def removeTree (d : Disk) (path : Bytes) : Except Cause Disk :=
  match d.entryLocation path with
  | .error cause => .error cause
  | .ok loc =>
    match d.find? loc with
    | none => .error .notFound
    | some _ =>
      .ok { d with
        entries := d.entries.filter fun p => !loc.isPrefixOf p.1
        closed := d.closed.filter fun p => !loc.isPrefixOf p.1
        unreadable := d.unreadable.filter fun p => !loc.isPrefixOf p.1 }

/-- The names in a directory with what stands under them. -/
def listing (d : Disk) (directory : Path) : Except Cause (List (Name × Entry)) :=
  match d.locate directory with
  | .error cause => .error cause
  | .ok loc =>
    match d.find? loc with
    | none => .error .notFound
    | some .directory =>
      match d.list? loc with
      | .error cause => .error cause
      | .ok listed =>
        .ok (listed.filterMap fun
          | .error _ => none
          | .ok name => (d.find? (loc ++ [name])).map (name, ·))
    | some _ => .error .notADirectory

/-- All bytes of the file that a path leads to. -/
def bytesAt (d : Disk) (p : Path) : Except Cause Bytes :=
  match d.content p with
  | .error cause => .error cause
  | .ok content =>
    match content.fault with
    | some cause => .error cause
    | none => .ok content.bytes

end Disk

end FolderSync
