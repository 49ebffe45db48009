import FolderSync.Decimal.Binary64
import FolderSync.Decoding
import FolderSync.NameMap

/-!
# JSON values

A `Json` value is what a JSON text stands for.  An object that is read has its fields in increasing
order of their names; `Json.field?` looks one up and `Json.objectOf` makes an object of fields in
any order, of which the last of each name stays.
-/

namespace FolderSync

/-- A JSON value. -/
inductive Json where
  | null
  | boolean (value : Bool)
  | integer (value : Int)
  | float (value : Binary64)
  | string (value : String)
  | array (items : List Json)
  | object (fields : List (String × Json))
deriving Repr, Inhabited

namespace Json

/-- The object with the given fields; of two with one name the later stays. -/
def objectOf (fields : List (String × Json)) : Json :=
  .object (fields.foldl (fun done p => putEntry p.1 p.2 done) [])

/-- The field of an object. -/
def field? (name : String) : Json → Option Json
  | .object fields => valueOf? name fields
  | _ => none

/-- The truth value, if it is one. -/
def boolean? : Json → Option Bool
  | .boolean value => some value
  | _ => none

/-- The text, if it is one. -/
def string? : Json → Option String
  | .string value => some value
  | _ => none

/-- What the value is, for a message. -/
def found : Json → Found
  | .null => .null
  | .boolean value => .boolean value
  | .integer value => .integer value
  | .float value => .float value
  | .string value => .text value
  | .array _ => .sequence
  | .object _ => .map

end Json

end FolderSync
