import FolderSync.Config
import FolderSync.Manifest
import FolderSync.Network.Client
import FolderSync.Network.Status

/-!
# What can go wrong

`SyncError` lists what can go wrong in a synchronization, by cause.  `SyncError.kind` sorts the
causes coarsely, and `SyncError.message` is the wording.
-/

namespace FolderSync

/-- Why a reply holds no manifest. -/
inductive ProtocolFault where
  | status (url : String) (code : Nat) (reason : Option String)
  | malformed (reason : Json.Reason) (line column : Nat)
deriving DecidableEq, Repr

/-- Why an artifact is not installed. -/
inductive DownloadFault where
  | request (url : String) (fault : RequestFault)
  | status (code : Nat)
  | file (fault : FileError)
  /-- The body cannot be written to the staging file at `place`. -/
  | unwritten (fault : WriteFault Cause) (place : Path)
  | interrupted
  | wrongLength (received expected : Nat)
deriving DecidableEq, Repr

/-- What can go wrong in a synchronization. -/
inductive SyncError where
  | network (url : String) (fault : RequestFault)
  | protocol (fault : ProtocolFault)
  | manifest (fault : ManifestFault)
  | download (filename : String) (fault : DownloadFault)
  | integrity (filename : String) (expected actual : ContentHash)
  | config (fault : ConfigFault)
  | toml (fault : TomlFault)
  | file (fault : FileError)
deriving DecidableEq

/-- The kinds of errors. -/
inductive ErrorKind where
  | network
  | protocol
  | manifest
  | io
  | download
  | integrity
  | config
deriving DecidableEq, Repr

/-- The words for the reason. -/
def ProtocolFault.message : ProtocolFault → String
  | .status url code reason =>
    "GET " ++ url ++ " returned " ++ statusText code
      ++ match reason with
        | none => ""
        | some reason => ": " ++ reason
  | .malformed reason line column =>
    "malformed manifest body: " ++ reason.message ++ " at line " ++ toString line
      ++ " column " ++ toString column

/-- The words for the reason. -/
def DownloadFault.message : DownloadFault → String
  | .request url fault => "request to " ++ url ++ " failed: " ++ fault.message
  | .status code => "server returned " ++ statusText code
  | .file fault => fault.message
  | .unwritten fault place => "transfer interrupted: "
      ++ match fault with
        | .stalled => "failed to write whole buffer"
        | .failed cause => cause.message ++ " at path " ++ Text.quotedPath place.bytes
  | .interrupted => "transfer interrupted: request or response body error"
  | .wrongLength received expected =>
    "truncated body: received " ++ toString received ++ " of " ++ toString expected ++ " bytes"

namespace SyncError

/-- The kind of an error. -/
def kind : SyncError → ErrorKind
  | .network .. => .network
  | .protocol .. => .protocol
  | .manifest .. => .manifest
  | .download .. => .download
  | .integrity .. => .integrity
  | .config .. => .config
  | .toml .. => .config
  | .file .. => .io

/-- The words for an error. -/
def message : SyncError → String
  | .network url fault => "Network error requesting " ++ url ++ ": " ++ fault.message
  | .protocol fault => "Protocol error: " ++ fault.message
  | .manifest fault => "Invalid manifest: " ++ fault.message
  | .download filename fault => "Failed to download " ++ filename ++ ": " ++ fault.message
  | .integrity filename expected actual =>
    "Integrity check failed for " ++ filename ++ ": expected " ++ expected.hex
      ++ ", got " ++ actual.hex
  | .config fault => "Invalid configuration: " ++ fault.message
  | .toml fault => fault.message
  | .file fault => fault.message

/-- The error of a body that holds no manifest. -/
def ofBody : BodyFault → SyncError
  | .malformed reason line column => .protocol (.malformed reason line column)
  | .rejected fault => .manifest fault

end SyncError

/-- Reads the configuration that a file holds. -/
def Config.load (home : Path) (d : Disk) (p : Path) : Except SyncError Config :=
  match d.content p with
  | .error cause => .error (.file (.io p cause))
  | .ok content =>
    match content.fault with
    | some cause => .error (.file (.io p cause))
    | none =>
      match text? content.bytes with
      | none => .error (.file (.notText p))
      | some text =>
        match Config.ofText home text with
        | .error fault => .error (.toml fault)
        | .ok c => .ok c

end FolderSync
