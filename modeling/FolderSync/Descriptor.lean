import FolderSync.ContentHash
import FolderSync.Decoding
import FolderSync.FileName
import FolderSync.Filter
import FolderSync.Staging
import FolderSync.Url.Reader

/-!
# Descriptors

A descriptor says what one artifact is: its name, the hash of its content, where it can be fetched,
and possibly its size and the name of its project.  `Descriptor.of` builds one from texts, each of
which is checked: a plain file name, forty hexadecimal digits, an absolute address of the web.
-/

namespace FolderSync

/-- Why a manifest is not accepted. -/
inductive ManifestFault where
  | badName (name : String) (fault : NameFault)
  | badHash (filename sha1 : String)
  | badAddress (filename url : String) (fault : UrlFault)
  | badScheme (filename scheme : String)
  | duplicate (filename : String)
  | shape (fault : ShapeFault)
  /-- The server says that it failed, with its reason if it gives one. -/
  | serverFailure (reason : Option String)
  | noSuccessFlag
  | outsideFilter (filename : String) (filter : Filter)
deriving DecidableEq, Repr

/-- The words for the reason. -/
def ManifestFault.message : ManifestFault → String
  | .badName name fault => fault.refusal name
  | .badHash filename sha1 =>
    filename ++ ": sha1 " ++ Text.quoted sha1 ++ " is not a 40-char hex digest"
  | .badAddress filename url fault =>
    filename ++ ": invalid download_url " ++ Text.quoted url ++ ": " ++ fault.message
  | .badScheme filename scheme =>
    filename ++ ": unsupported download_url scheme " ++ Text.quoted scheme
  | .duplicate filename => "duplicate filename " ++ Text.quoted filename
  | .shape fault => fault.message .compact
  | .serverFailure reason => "server reported failure: " ++ reason.getD "no reason given"
  | .noSuccessFlag => "missing boolean " ++ inTicks "success" ++ " flag"
  | .outsideFilter filename filter =>
    filename ++ " does not match the artifact filter " ++ filter.display

/-- What one artifact is and where it comes from. -/
structure Descriptor where
  name : ArtifactName
  hash : ContentHash
  url : Url
  isHttp_url : url.IsHttp
  size : Option Nat := none
  project : Option String := none
deriving DecidableEq

namespace Descriptor

/-- The name of the artifact's file. -/
def filename (d : Descriptor) : String := d.name.text

theorem nameFault?_filename (d : Descriptor) : nameFault? d.filename = none := d.name.plain

/-- The descriptor with the given name, hash and address; the first that is not well formed is the
fault. -/
def of (filename sha1 url : String) : Except ManifestFault Descriptor :=
  match ArtifactName.ofText filename with
  | .error fault => .error (.badName filename fault)
  | .ok name =>
    match ContentHash.parse? sha1 with
    | none => .error (.badHash filename sha1)
    | some hash =>
      match Url.parse url with
      | .error fault => .error (.badAddress filename url fault)
      | .ok parsed =>
        if h : parsed.IsHttp then .ok { name, hash, url := parsed, isHttp_url := h }
        else .error (.badScheme filename parsed.scheme)

/-- The same artifact with a size. -/
def withSize (d : Descriptor) (size : Nat) : Descriptor := { d with size := some size }

/-- The same artifact with a project. -/
def withProject (d : Descriptor) (project : String) : Descriptor :=
  { d with project := some project }

end Descriptor

end FolderSync
