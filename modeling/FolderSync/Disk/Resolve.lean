import FolderSync.Disk.Basic
import FolderSync.ContentHash

/-!
# Where a path leads

`Disk.walk` takes the steps of a path one by one, through directories and symbolic links.
`Disk.locate` is the location that a path leads to, `Disk.slot` the directory and the name under
which a path would make a new entry.  `Disk.isFile`, `Disk.isDirectory`, `Disk.isListable` and
`Disk.hashFile` look at what stands there.
-/

namespace FolderSync

/-- Longest name of an entry, in bytes. -/
def nameLimit : Nat := 255

/-- A path of this many bytes or more is refused. -/
def pathLimit : Nat := 4096

/-- Symbolic links that one walk follows at most. -/
def linkLimit : Nat := 40

/-- The steps of a path that the system accepts. -/
def Path.open? (p : Path) : Except Cause Trail :=
  if 0 ∈ p.bytes then .error .nulInPath
  else if p.bytes = [] then .error .notFound
  else if pathLimit ≤ p.bytes.length then .error .nameTooLong
  else .ok p.trail

namespace Disk

/-- Takes steps from a directory.  A link is followed unless it is the last step and `last` is off;
`beyond` goes on behind it, if one more link may be followed. -/
def walkWith (d : Disk) (last : Bool)
    (beyond : Option (Location → List Step → Except Cause Location)) (loc : Location) :
    List Step → Except Cause Location
  | [] => .ok loc
  | .stay :: rest => d.walkWith last beyond loc rest
  | .up :: rest => d.walkWith last beyond loc.dropLast rest
  | .into name :: rest =>
    if nameLimit < name.length then .error .nameTooLong
    else match d.find? (loc ++ [name]) with
      | none => .error .notFound
      | some .directory => d.walkWith last beyond (loc ++ [name]) rest
      | some (.file _) => if rest = [] then .ok (loc ++ [name]) else .error .notADirectory
      | some (.link target) =>
        if rest = [] ∧ last = false then .ok (loc ++ [name])
        else match beyond with
          | none => .error .tooManyLinks
          | some go =>
            let t := Trail.ofBytes target
            go (if t.absolute then [] else loc)
              (t.steps ++ (if t.slash then [.stay] else []) ++ rest)

/-- Takes steps from a directory, through `links` links at most. -/
def walk (d : Disk) (last : Bool) : (links : Nat) → Location → List Step → Except Cause Location
  | 0 => d.walkWith last none
  | more + 1 => d.walkWith last (some (d.walk last more))

section Walk

variable (d : Disk) (last : Bool) (links : Nat) (loc : Location) (rest : List Step)

@[simp] theorem walk_nil : d.walk last links loc [] = .ok loc := by
  cases links <;> rfl

@[simp] theorem walk_cons_stay :
    d.walk last links loc (.stay :: rest) = d.walk last links loc rest := by
  cases links <;> rfl

@[simp] theorem walk_cons_up :
    d.walk last links loc (.up :: rest) = d.walk last links loc.dropLast rest := by
  cases links <;> rfl

theorem walk_cons_into (name : Name) :
    d.walk last links loc (.into name :: rest) =
      if nameLimit < name.length then .error .nameTooLong
      else match d.find? (loc ++ [name]) with
        | none => .error .notFound
        | some .directory => d.walk last links (loc ++ [name]) rest
        | some (.file _) => if rest = [] then .ok (loc ++ [name]) else .error .notADirectory
        | some (.link target) =>
          if rest = [] ∧ last = false then .ok (loc ++ [name])
          else match links with
            | 0 => .error .tooManyLinks
            | more + 1 =>
              d.walk last more (if (Trail.ofBytes target).absolute then [] else loc)
                ((Trail.ofBytes target).steps
                  ++ (if (Trail.ofBytes target).slash then [.stay] else []) ++ rest) := by
  cases links <;> rfl

end Walk

/-- Where a trail starts. -/
def start (d : Disk) (t : Trail) : Location := if t.absolute then [] else d.here

/-- The location that a trail leads to. -/
def follow (d : Disk) (last : Bool) (t : Trail) : Except Cause Location :=
  d.walk last linkLimit (d.start t) (t.steps ++ if t.slash then [.stay] else [])

/-- The location that a path leads to, through all links. -/
def locate (d : Disk) (p : Path) : Except Cause Location := p.open? >>= d.follow true

/-- The directory and the name under which a trail would make a new entry.  A trail that ends at
the root, in `.` or in `..` leads to a directory that is already there. -/
def slot (d : Disk) (t : Trail) : Except Cause (Location × Name) :=
  match t.steps.getLast? with
  | none => .error .alreadyExists
  | some step =>
    match d.walk true linkLimit (d.start t) (t.steps.dropLast ++ [.stay]) with
    | .error cause => .error cause
    | .ok parent =>
      match step with
      | .into name =>
        if nameLimit < name.length then .error .nameTooLong else .ok (parent, name)
      | _ => .error .alreadyExists

/-- What a path leads to. -/
def status (d : Disk) (p : Path) : Except Cause Entry :=
  match d.locate p with
  | .error cause => .error cause
  | .ok loc =>
    match d.find? loc with
    | some e => .ok e
    | none => .error .notFound

/-- Does the path lead anywhere? -/
def pathExists (d : Disk) (p : Path) : Bool :=
  match d.status p with
  | .ok _ => true
  | .error _ => false

/-- Does the path lead to a directory? -/
def isDirectory (d : Disk) (p : Path) : Bool :=
  match d.status p with
  | .ok .directory => true
  | _ => false

/-- Does the path lead to a regular file? -/
def isFile (d : Disk) (p : Path) : Bool :=
  match d.status p with
  | .ok (.file _) => true
  | _ => false

/-- The content of the file that a path leads to. -/
def content (d : Disk) (p : Path) : Except Cause Content :=
  match d.status p with
  | .error cause => .error cause
  | .ok (.file c) => .ok c
  | .ok _ => .error .isADirectory

end Disk

/-- The reads of a file: its bytes through the buffer, then the failure if there is one. -/
def Content.reads (c : Content) : List (Read Cause) :=
  readsOf c.bytes ++ (c.fault.map Read.failed).toList

/-- The hash of the file that a path leads to. -/
def Disk.hashFile (d : Disk) (p : Path) : Except Cause ContentHash :=
  match d.content p with
  | .error cause => .error cause
  | .ok c => ContentHash.ofReads c.reads

end FolderSync
