import FolderSync.FileName
import FolderSync.Sink
import FolderSync.Text.Quoted
import FolderSync.Volume

/-!
# Staged files

A staged file is a hidden file in the directory where an artifact belongs.  It takes the content
while it arrives; `Staged.commit` gives it the artifact's name in one step, `Staged.discard` and
`Staged.drop` take it away.  Whatever stood under the artifact's name stays until a commit.  The disk
may refuse to lock the file, to take what is written, and each step of a commit.
-/

namespace FolderSync

/-- Why a file cannot be used. -/
inductive FileError where
  | io (path : Path) (cause : Cause)
  /-- The operation on `path` failed at another path. -/
  | ioAt (path : Path) (cause : Cause) (place : Path)
  | invalidName (name : String) (fault : NameFault)
  /-- The lock on the file cannot be taken or given back. -/
  | lockFailed (path : Path)
  /-- The file is to be read as text and is not UTF-8. -/
  | notText (path : Path)
deriving DecidableEq, Repr

/-- The words for a refused name. -/
def NameFault.refusal (fault : NameFault) (name : String) : String :=
  "Invalid artifact file name " ++ Text.quoted name ++ ": " ++ fault.message

/-- The words for the failure. -/
def FileError.message : FileError → String
  | .io path cause => "I/O error at " ++ path.text ++ ": " ++ cause.message
  | .ioAt path cause place =>
    "I/O error at " ++ path.text ++ ": " ++ cause.message ++ " at path "
      ++ Text.quotedPath place.bytes
  | .invalidName name fault => fault.refusal name
  | .lockFailed path => "Lock acquisition failed for " ++ path.text
  | .notText path => "I/O error at " ++ path.text ++ ": stream did not contain valid UTF-8"

/-! ### The free staging name -/

/-- The token that is drawn first on a given disk.  Nothing is assumed of it. -/
abbrev Draw := Disk → Token

/-- The tokens that are tried: the one drawn, then all others in turn until every name that the
disk holds could have been passed over. -/
def Draw.candidates (draw : Draw) (d : Disk) : List Token :=
  draw d :: (List.range (d.entries.length + 1)).map Token.ofNat

/-- The absolute path of the working directory. -/
def Disk.workingDirectory (d : Disk) : Path :=
  ⟨slashByte :: joinFields slashByte d.here⟩

/-- A path made absolute. -/
def Disk.absolute (d : Disk) (p : Path) : Path := d.workingDirectory.append p

/-! ### The staged file -/

/-- A file on its way to `target`: its own absolute path and its location. -/
structure Staged where
  target : Path
  hidden : Path
  loc : Location
deriving DecidableEq, Repr

/-- Takes the staging file away if it is still there. -/
def Staged.drop (s : Staged) (v : Volume) : Volume :=
  match v.unlink s.hidden with
  | .ok v => v
  | .error _ => v

/-- Makes the staging file under the first free candidate. -/
def createStaging (v : Volume) (directory base : Path) (name : String) :
    List Token → Volume × Except FileError Staged
  | [] => (v, .error (.ioAt directory .noFreeName base))
  | token :: more =>
    let hidden := base.join (stagingName name token)
    match v.createFile hidden with
    | (v, .ok loc) => (v, .ok ⟨directory.join name, hidden, loc⟩)
    | (v, .error .alreadyExists) => createStaging v directory base name more
    | (v, .error cause) => (v, .error (.ioAt directory cause hidden))

/-- Starts an artifact in a directory, which is made if it is missing.  The staging file is locked. -/
def Volume.stage (v : Volume) (draw : Draw) (directory : Path) (name : String) :
    Volume × Except FileError Staged :=
  match nameFault? name with
  | some fault => (v, .error (.invalidName name fault))
  | none =>
    match v.ensurePath directory with
    | (v, .error cause) => (v, .error (.io directory cause))
    | (v, .ok ()) =>
      match createStaging v directory (v.disk.absolute directory) name
          (draw.candidates v.disk) with
      | (v, .error fault) => (v, .error fault)
      | (v, .ok staged) =>
        match v.call with
        | (v, .ok ()) => (v, .ok staged)
        | (v, .error _) => (staged.drop v, .error (.lockFailed staged.hidden))

namespace Staged

/-- Does the path lead to the directory in which the staging file stands? -/
def liesIn (s : Staged) (d : Disk) (directory : Path) : Bool :=
  match d.locate directory with
  | .ok loc => loc = s.loc.dropLast
  | .error _ => false

/-- Takes as many of the bytes offered as the disk has room for. -/
def write (s : Staged) (v : Volume) (offer : Bytes) : Volume × Attempt Cause :=
  match v.response with
  | .granted => (v.answered.append s.loc offer, .took offer.length)
  | .short count => (v.answered.append s.loc (offer.take count), .took (min count offer.length))
  | .interrupted => (v.answered, .interrupted)
  | .refused reason => (v.answered, .failed (.refused reason))

/-- The staging file as a sink.  It is interrupted as often as the responses to come say. -/
def sink (s : Staged) : Sink Volume Cause where
  write := s.write
  flush := Volume.call
  patience v := v.responses.length
  took_le := by
    intro v b t n e
    unfold write at e
    split at e <;> cases e
    · exact Nat.le_refl _
    · exact Nat.min_le_right _ _
  interrupted_lt := by
    intro v b t e
    unfold write at e
    split at e <;> cases e
    rename_i hresponse
    exact Volume.length_answered_lt (by simp [hresponse])

/-- Flushes the staging file, waits until the disk has it, and gives the lock back. -/
def settle (s : Staged) (v : Volume) : Volume × Except FileError Unit :=
  match s.sink.flush v with
  | (v, .error cause) => (v, .error (.ioAt s.hidden cause s.hidden))
  | (v, .ok ()) =>
    match v.call with
    | (v, .error cause) => (v, .error (.io s.hidden cause))
    | (v, .ok ()) =>
      match v.call with
      | (v, .error _) => (v, .error (.lockFailed s.hidden))
      | (v, .ok ()) => (v, .ok ())

/-- Settles the staging file and gives it the name of the artifact.  When that fails it is taken away. -/
def commit (s : Staged) (v : Volume) : Volume × Except FileError Path :=
  match s.settle v with
  | (v, .error fault) => (s.drop v, .error fault)
  | (v, .ok ()) =>
    match v.rename s.hidden s.target with
    | (v, .ok ()) => (v, .ok s.target)
    | (v, .error cause) => (s.drop v, .error (.io s.target cause))

/-- Takes the staging file away. -/
def discard (s : Staged) (v : Volume) : Volume × Except FileError Unit :=
  match v.unlink s.hidden with
  | .ok v => (v, .ok ())
  | .error cause => (v, .error (.ioAt s.hidden cause s.hidden))

end Staged

end FolderSync
