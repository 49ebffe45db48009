import FolderSync.Bytes
import FolderSync.Text.Fields

/-!
# Paths

A path is a sequence of bytes, most often those of a text.  `Path.trail` splits it at its slashes
into steps: stay (`.`), go up (`..`) or go into a name.  `Path.parts` is the same without the steps
that stay, and `Path.join` puts a name behind a path.
-/

namespace FolderSync

/-- A name inside a directory.  Names are bytes, which need not be text. -/
abbrev Name := Bytes

/-- One step of a path. -/
inductive Step where
  | stay
  | up
  | into (name : Name)
deriving DecidableEq, Repr

/-- A path in steps: from the root or from where one stands, and whether a slash ends it. -/
structure Trail where
  absolute : Bool
  steps : List Step
  slash : Bool
deriving DecidableEq, Repr

/-- The byte `/`. -/
def slashByte : UInt8 := 47

/-- The step that a field stands for; an empty field stands for none. -/
def Step.ofField? : Bytes → Option Step
  | [] => none
  | [46] => some .stay
  | [46, 46] => some .up
  | name => some (.into name)

/-- The steps of a path's bytes. -/
def Trail.ofBytes (b : Bytes) : Trail :=
  let steps := (fieldsBy (· = slashByte) b).filterMap Step.ofField?
  { absolute := b.head? = some slashByte
    steps
    slash := b.getLast? = some slashByte && !steps.isEmpty }

/-- The steps without those that stay; a relative path keeps one at its start. -/
def Trail.parts (t : Trail) : List Step :=
  match t.absolute, t.steps with
  | false, .stay :: rest => .stay :: rest.filter (· ≠ .stay)
  | _, steps => steps.filter (· ≠ .stay)

/-- The path of a file or directory, as it is written.  Like names, paths need not be text. -/
structure Path where
  bytes : Bytes
deriving DecidableEq, Repr

namespace Path

/-- The path that a text writes. -/
def ofText (text : String) : Path := ⟨utf8 text⟩

/-- The path as it is shown. -/
def text (p : Path) : String := lossyText p.bytes

/-- Does the path start at the root? -/
def isAbsolute (p : Path) : Bool := p.bytes.head? == some slashByte

/-- The path with another behind it; one that starts at the root stands alone. -/
def append (p q : Path) : Path :=
  if q.isAbsolute then q
  else if p.bytes = [] ∨ p.bytes.getLast? = some slashByte then ⟨p.bytes ++ q.bytes⟩
  else ⟨p.bytes ++ slashByte :: q.bytes⟩

/-- The path with a name behind it. -/
def join (p : Path) (name : String) : Path := p.append (.ofText name)

/-- The steps of the path. -/
def trail (p : Path) : Trail := .ofBytes p.bytes

/-- The parts of the path: steps that stay are left out. -/
def parts (p : Path) : List Step := p.trail.parts

/-- The name at the end of the path. -/
def fileName? (p : Path) : Option Name :=
  match p.parts.getLast? with
  | some (.into name) => some name
  | _ => none

end Path

end FolderSync
