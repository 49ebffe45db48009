import FolderSync.Error

/-!
# Asking for the manifest

The manifest lies below the server's address under `manifestPath`.  `fetchManifest` asks for it,
once, and reads it.  A reply other than success is an error, with the server's own reason if the
body gives one.
-/

namespace FolderSync

/-- Where the manifest lies below the server's address. -/
def manifestPath : String := "/api/mods-manifest"

/-- The address of the manifest: one slash stands between, however many the server's address ends
in. -/
def manifestUrl (baseUrl : String) : String :=
  String.ofList (baseUrl.toList.reverse.dropWhile (· = '/')).reverse ++ manifestPath

/-- The reason that a JSON body gives for a failure. -/
def statedReason? (body : Bytes) : Option String :=
  match Json.read body with
  | .ok value => (value.field? "error").bind Json.string?
  | .error _ => none

/-- The manifest that a final reply brings. -/
def Reply.manifest (r : Reply) (url : String) : Except SyncError Manifest :=
  if r.status ≠ 200 then
    .error (.protocol (.status url r.status (if r.complete then statedReason? r.body else none)))
  else if r.complete = false then .error (.network url .brokenBody)
  else match Manifest.ofBytes r.body with
    | .error fault => .error (.ofBody fault)
    | .ok m => .ok m

/-- Asks a server for its manifest. -/
def fetchManifest (net : Network) (asked : List String) (baseUrl : String) :
    List String × Except SyncError Manifest :=
  let url := manifestUrl baseUrl
  match net.requestText asked url with
  | (asked, .error fault) => (asked, .error (.network url fault))
  | (asked, .ok reply) => (asked, reply.manifest url)

end FolderSync
