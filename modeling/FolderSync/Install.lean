import FolderSync.Error
import FolderSync.Staging

/-!
# Installing an artifact

`install` fetches one artifact into a staging file and gives it its name only when all of it has
arrived and is what the descriptor says.  Whatever fails before that leaves what stood under the
name as it was, and no staging file.
-/

namespace FolderSync

/-- The disk, and the requests made so far. -/
@[ext] structure Session where
  volume : Volume := {}
  asked : List String := []
deriving DecidableEq, Repr

/-- An artifact that was installed. -/
structure Installed where
  filename : String
  path : Path
  bytes : Nat
  hash : ContentHash
deriving DecidableEq

/-- Writes the pieces of a body one after the other, up to the first that cannot be written. -/
def Staged.receive (s : Staged) (v : Volume) (pieces : List Bytes) :
    Sink.Hashing Volume × Except (WriteFault Cause) Unit :=
  s.sink.hashing.copy { inner := v } pieces

/-- Is what has been received what the descriptor says?  Its size counts before the announced
length, and the length before the hash. -/
def Descriptor.check (d : Descriptor) (verify : Bool) (declared : Option Nat) (received : Nat)
    (hash : ContentHash) : Except SyncError Unit :=
  match d.size.or declared with
  | some expected =>
    if received ≠ expected then .error (.download d.filename (.wrongLength received expected))
    else if verify ∧ hash ≠ d.hash then .error (.integrity d.filename d.hash hash)
    else .ok ()
  | none => if verify ∧ hash ≠ d.hash then .error (.integrity d.filename d.hash hash) else .ok ()

/-- Takes a final reply with success into the directory. -/
def promote (draw : Draw) (verify : Bool) (d : Descriptor) (target : Path) (reply : Reply)
    (v : Volume) : Volume × Except SyncError Installed :=
  match v.stage draw target d.filename with
  | (v, .error fault) => (v, .error (.download d.filename (.file fault)))
  | (v, .ok staged) =>
    match staged.receive v reply.pieces with
    | (h, .error fault) =>
      (staged.drop h.inner, .error (.download d.filename (.unwritten fault staged.hidden)))
    | (h, .ok ()) =>
      if reply.complete = false then
        (staged.drop h.inner, .error (.download d.filename .interrupted))
      else match d.check verify reply.declared h.written h.hash with
        | .error e => (staged.drop h.inner, .error e)
        | .ok () =>
          match staged.commit h.inner with
          | (v, .error fault) => (v, .error (.download d.filename (.file fault)))
          | (v, .ok path) =>
            (v, .ok { filename := d.filename, path, bytes := h.written, hash := h.hash })

/-- Fetches an artifact and installs it into a directory. -/
def install (net : Network) (draw : Draw) (verify : Bool) (d : Descriptor) (target : Path)
    (s : Session) : Session × Except SyncError Installed :=
  match net.request s.asked d.url with
  | (asked, .error fault) =>
    ({ s with asked }, .error (.download d.filename (.request d.url.text fault)))
  | (asked, .ok reply) =>
    if reply.status ≠ 200 then
      ({ s with asked }, .error (.download d.filename (.status reply.status)))
    else
      let (volume, result) := promote draw verify d target reply s.volume
      ({ volume, asked }, result)

end FolderSync
