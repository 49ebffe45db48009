import FolderSync.Disk.Resolve

/-!
# Operations on a disk

A `Volume` is a disk together with the journal of its primitive changes and with the responses of the
disk to the calls to come.  `Volume.perform` makes one change and `Volume.attempt` makes it unless the
disk refuses; the operations below resolve their paths and attempt at most a few changes.  An operation
that fails gives its cause.  Only a call that could be carried out meets a response.
-/

namespace FolderSync

/-- The response of a disk to a call that could be carried out.  Only a write is cut short or
interrupted; to any other call these are a grant. -/
inductive Response where
  | granted
  /-- Of the bytes offered at most so many are taken. -/
  | short (count : Nat)
  | interrupted
  | refused (reason : Refusal)
deriving DecidableEq, Repr

/-- A disk, the changes made to it so far, oldest first, and its responses to the calls to come.  When
these are used up it grants every call. -/
@[ext] structure Volume where
  disk : Disk := {}
  journal : List Change := []
  responses : List Response := []
deriving DecidableEq, Repr

namespace Volume

/-- Makes one change. -/
def perform (v : Volume) (c : Change) : Volume :=
  { v with disk := c.apply v.disk, journal := v.journal ++ [c] }

@[simp] theorem disk_perform (v : Volume) (c : Change) : (v.perform c).disk = c.apply v.disk := rfl

@[simp] theorem journal_perform (v : Volume) (c : Change) :
    (v.perform c).journal = v.journal ++ [c] := rfl

@[simp] theorem responses_perform (v : Volume) (c : Change) :
    (v.perform c).responses = v.responses := rfl

/-! ### Calls -/

/-- The response to the next call. -/
def response (v : Volume) : Response := v.responses.headD .granted

/-- The volume when the next call has met its response. -/
def answered (v : Volume) : Volume := { v with responses := v.responses.tail }

@[simp] theorem disk_answered (v : Volume) : v.answered.disk = v.disk := rfl

@[simp] theorem journal_answered (v : Volume) : v.answered.journal = v.journal := rfl

/-- A response other than the usual one is used up. -/
theorem length_answered_lt {v : Volume} (h : v.response ≠ .granted) :
    v.answered.responses.length < v.responses.length := by
  unfold response at h
  unfold answered
  cases hresponses : v.responses with
  | nil => simp [hresponses] at h
  | cons first rest => simp

/-- Makes a call that changes nothing. -/
def call (v : Volume) : Volume × Except Cause Unit :=
  match v.response with
  | .refused reason => (v.answered, .error (.refused reason))
  | _ => (v.answered, .ok ())

/-- Makes a change unless the disk refuses it. -/
def attempt (v : Volume) (c : Change) : Volume × Except Cause Unit :=
  match v.call with
  | (v, .error cause) => (v, .error cause)
  | (v, .ok ()) => (v.perform c, .ok ())

/-! ### Directories -/

/-- Makes a directory at the end of a trail. -/
def makeDirectory (v : Volume) (t : Trail) : Volume × Except Cause Unit :=
  match v.disk.slot t with
  | .error cause => (v, .error cause)
  | .ok (parent, name) =>
    match v.disk.find? (parent ++ [name]) with
    | some _ => (v, .error .alreadyExists)
    | none => v.attempt (.makeDirectory (parent ++ [name]))

/-- Does a trail lead to a directory? -/
def leadsToDirectory (v : Volume) (t : Trail) : Bool :=
  match v.disk.follow true t with
  | .ok loc => v.disk.find? loc = some .directory
  | .error _ => false

/-- Makes a directory unless it is there. -/
def ensureDirectory (v : Volume) (t : Trail) : Volume × Except Cause Unit :=
  match v.makeDirectory t with
  | (v, .ok ()) => (v, .ok ())
  | (v, .error cause) => if v.leadsToDirectory t then (v, .ok ()) else (v, .error cause)

/-- Makes the directories of the parts, given last part first, that are missing. -/
def ensureParts (v : Volume) (absolute : Bool) : List Step → Volume × Except Cause Unit
  | [] => (v, .ok ())
  | last :: before =>
    let t : Trail := ⟨absolute, (last :: before).reverse, false⟩
    match v.ensureDirectory t with
    | (v, .error .notFound) =>
      match v.ensureParts absolute before with
      | (v, .error cause) => (v, .error cause)
      | (v, .ok ()) => v.ensureDirectory t
    | done => done

/-- Makes the directory at a path and all that are missing on the way.  The empty path and the root
need nothing. -/
def ensurePath (v : Volume) (p : Path) : Volume × Except Cause Unit :=
  if p.bytes = [] then (v, .ok ())
  else match p.open? with
    | .error cause => (v, .error cause)
    | .ok t =>
      if t.parts = [] then (v, .ok ())
      else match v.ensureDirectory t with
        | (v, .error .notFound) =>
          match v.ensureParts t.absolute t.parts.dropLast.reverse with
          | (v, .error cause) => (v, .error cause)
          | (v, .ok ()) => v.ensureDirectory t
        | done => done

/-! ### Files -/

/-- The location of the entry at the end of a path, which itself is not followed. -/
def entryLocation (v : Volume) (p : Path) : Except Cause Location :=
  match p.open? with
  | .error cause => .error cause
  | .ok t =>
    match v.disk.slot t with
    | .error cause => .error cause
    | .ok (parent, name) => .ok (parent ++ [name])

/-- Makes an empty file at a path where nothing stands. -/
def createFile (v : Volume) (p : Path) : Volume × Except Cause Location :=
  match v.entryLocation p with
  | .error cause => (v, .error cause)
  | .ok loc =>
    match v.disk.find? loc with
    | some _ => (v, .error .alreadyExists)
    | none =>
      match v.attempt (.createFile loc) with
      | (v, .error cause) => (v, .error cause)
      | (v, .ok ()) => (v, .ok loc)

/-- Appends bytes to the file made at a location; no bytes are no change. -/
def append (v : Volume) (loc : Location) (bytes : Bytes) : Volume :=
  if bytes = [] then v else v.perform (.append loc bytes)

/-- Gives the file at one path the name at another, in place of what stood there unless that is a
directory. -/
def rename (v : Volume) (source target : Path) : Volume × Except Cause Unit :=
  match v.entryLocation source with
  | .error cause => (v, .error cause)
  | .ok old =>
    match v.entryLocation target with
    | .error cause => (v, .error cause)
    | .ok new =>
      match v.disk.find? old, v.disk.find? new with
      | none, _ => (v, .error .notFound)
      | some _, some .directory => (v, .error .isADirectory)
      | some _, _ => v.attempt (.rename old new)

/-- Takes away the file or link at a path.  A disk that can make a file can take it away again, so this
is not refused. -/
def unlink (v : Volume) (p : Path) : Except Cause Volume :=
  match v.entryLocation p with
  | .error cause => .error cause
  | .ok loc =>
    match v.disk.find? loc with
    | none => .error .notFound
    | some .directory => .error .isADirectory
    | some _ => .ok (v.perform (.remove loc))

end Volume

end FolderSync
