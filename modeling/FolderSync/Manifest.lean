import FolderSync.Descriptor
import FolderSync.Json.Reader

/-!
# Manifests

A manifest lists the artifacts that a server publishes, no two under one name.

On the way it is a JSON object with the flag `success` and the list `mods`.  `Manifest.ofBytes`
reads it in three passes: the shape of every entry, then the content of every entry, then the names
among each other.
-/

namespace FolderSync

/-- The artifacts that a server publishes. -/
structure Manifest where
  artifacts : List Descriptor
  nodup_names : (artifacts.map Descriptor.filename).Nodup
deriving DecidableEq

/-- Why a message body holds no manifest. -/
inductive BodyFault where
  /-- The body is no JSON text: the reason, the line and the column. -/
  | malformed (reason : Json.Reason) (line column : Nat)
  | rejected (fault : ManifestFault)
deriving DecidableEq, Repr

/-! ### Entries on the way -/

/-- An entry of a manifest as it is sent. -/
structure Listing where
  filename : String
  sha1 : String
  url : String
  size : Option Nat
  project : Option String
deriving DecidableEq, Repr

namespace Json

/-- A value that must be a text. -/
def asText : Json → Except ShapeFault String
  | .string s => .ok s
  | v => .error (.wrongType v.found .text)

/-- A value that must be a natural number. -/
def asNatural : Json → Except ShapeFault Nat
  | .integer n => if 0 ≤ n then .ok n.toNat else .error (.outOfRange n .natural)
  | v => .error (.wrongType v.found .natural)

/-- A value that may be null. -/
def asOptional (read : Json → Except ShapeFault α) : Json → Except ShapeFault (Option α)
  | .null => .ok none
  | v => (read v).map some

/-- The field of a name, if there is one. -/
def fieldOf (read : Json → Except ShapeFault α) (fields : List (String × Json)) (name : String) :
    Except ShapeFault (Option α) :=
  match valueOf? name fields with
  | none => .ok none
  | some v => (read v).map some

end Json

/-- A field that must be there. -/
def required (name : String) : Option α → Except ShapeFault α
  | some value => .ok value
  | none => .error (.missingField name)

namespace Listing

/-- An entry sent as an object.  The fields are looked at in increasing order of their names, and
only then is a missing one noticed. -/
def ofFields (fields : List (String × Json)) : Except ShapeFault Listing := do
  let url ← Json.fieldOf Json.asText fields "download_url"
  let filename ← Json.fieldOf Json.asText fields "filename"
  let project ← Json.fieldOf (Json.asOptional Json.asText) fields "project_name"
  let sha1 ← Json.fieldOf Json.asText fields "sha1"
  let size ← Json.fieldOf (Json.asOptional Json.asNatural) fields "size"
  let filename ← required "filename" filename
  let sha1 ← required "sha1" sha1
  let url ← required "download_url" url
  return { filename, sha1, url, size := size.join, project := project.join }

/-- An entry sent as a list: name, hash, address, and possibly size and project. -/
def ofItems (items : List Json) : Except ShapeFault Listing :=
  match items with
  | [] => .error (.tooShort 0)
  | name :: rest => do
    let filename ← Json.asText name
    match rest with
    | [] => .error (.tooShort 1)
    | hash :: rest =>
      let sha1 ← Json.asText hash
      match rest with
      | [] => .error (.tooShort 2)
      | address :: rest =>
        let url ← Json.asText address
        match rest with
        | [] => return { filename, sha1, url, size := none, project := none }
        | number :: rest =>
          let size ← Json.asOptional Json.asNatural number
          match rest with
          | [] => return { filename, sha1, url, size, project := none }
          | title :: rest =>
            let project ← Json.asOptional Json.asText title
            match rest with
            | [] => return { filename, sha1, url, size, project }
            | _ :: _ => .error (.tooLong items.length)

/-- An entry in either form. -/
def ofJson : Json → Except ShapeFault Listing
  | .object fields => ofFields fields
  | .array items => ofItems items
  | v => .error (.wrongType v.found .artifact)

/-- The descriptor that an entry stands for. -/
def descriptor (l : Listing) : Except ManifestFault Descriptor := do
  let d ← Descriptor.of l.filename l.sha1 l.url
  return { d with size := l.size, project := l.project }

end Listing

namespace Manifest

/-- The first name that occurs again, if `seen` have occurred before. -/
def repeated? (seen : List String) : List String → Option String
  | [] => none
  | name :: rest => if name ∈ seen then some name else repeated? (name :: seen) rest

theorem repeated?_eq_none {seen names : List String} (h : repeated? seen names = none) :
    names.Nodup ∧ ∀ name ∈ names, name ∉ seen := by
  induction names generalizing seen with
  | nil => simp
  | cons name rest ih =>
    rw [repeated?] at h
    split at h
    · cases h
    · rename_i hname
      obtain ⟨hrest, hout⟩ := ih h
      refine ⟨List.nodup_cons.2 ⟨fun hmem => hout name hmem List.mem_cons_self, hrest⟩, ?_⟩
      intro other ho
      rcases List.mem_cons.1 ho with rfl | ho
      · exact hname
      · exact fun hs => hout other ho (List.mem_cons_of_mem _ hs)

/-- The manifest of the given artifacts, unless a name occurs twice. -/
def ofArtifacts (artifacts : List Descriptor) : Except ManifestFault Manifest :=
  match h : repeated? [] (artifacts.map Descriptor.filename) with
  | none => .ok ⟨artifacts, (repeated?_eq_none h).1⟩
  | some name => .error (.duplicate name)

/-- The manifest without artifacts. -/
def empty : Manifest := ⟨[], List.nodup_nil⟩

/-- The entries of a body that reports success. -/
def entries (body : Json) : Except ShapeFault (List Listing) :=
  match body.field? "mods" with
  | none => .error (.missingField "mods")
  | some (.array items) => items.mapM Listing.ofJson
  | some v => .error (.wrongType v.found .sequence)

/-- The manifest that a JSON value stands for. -/
def ofJson (body : Json) : Except ManifestFault Manifest :=
  match (body.field? "success").bind Json.boolean? with
  | none => .error .noSuccessFlag
  | some false => .error (.serverFailure ((body.field? "error").bind Json.string?))
  | some true =>
    match entries body with
    | .error fault => .error (.shape fault)
    | .ok sent =>
      match sent.mapM Listing.descriptor with
      | .error fault => .error fault
      | .ok artifacts => ofArtifacts artifacts

/-- Reads the body of a message. -/
def ofBytes (body : Bytes) : Except BodyFault Manifest :=
  match Json.read body with
  | .error fault => .error (.malformed fault.reason (fault.line body) (fault.column body))
  | .ok value =>
    match ofJson value with
    | .error fault => .error (.rejected fault)
    | .ok m => .ok m

/-- Number of artifacts. -/
def size (m : Manifest) : Nat := m.artifacts.length

/-- The artifact of a name. -/
def get? (m : Manifest) (name : String) : Option Descriptor :=
  m.artifacts.find? fun d => d.filename = name

end Manifest

end FolderSync
