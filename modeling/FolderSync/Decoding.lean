import FolderSync.Decimal.Style
import FolderSync.Text.Quoted

/-!
# When a value has the wrong shape

A value that has been read may not be what the place for it calls for.  `ShapeFault` lists the
ways: a wrong type, a wrong value, a wrong length, a missing field.  `ShapeFault.message` is the
wording; formats differ in how they write a number in it.
-/

namespace FolderSync

/-- What a value turns out to be. -/
inductive Found where
  | null
  | boolean (value : Bool)
  | integer (value : Int)
  | float (value : Binary64)
  | text (value : String)
  | sequence
  | map
deriving DecidableEq, Repr

/-- What a place calls for. -/
inductive Expected where
  | text
  | path
  | natural
  | boolean
  | sequence
  | artifact
  | filter
deriving DecidableEq, Repr

/-- Why a value does not fit. -/
inductive ShapeFault where
  | wrongType (found : Found) (expected : Expected)
  /-- An integer outside the range that is called for. -/
  | outOfRange (value : Int) (expected : Expected)
  /-- A list that breaks off before an artifact is complete. -/
  | tooShort (length : Nat)
  | tooLong (length : Nat)
  | missingField (name : String)
deriving DecidableEq, Repr

/-- Code words stand between backticks. -/
def inTicks (text : String) : String := "\x60" ++ text ++ "\x60"

/-- The words for a found value. -/
def Found.describe (style : Decimal.Style) : Found → String
  | .null => "null"
  | .boolean value => "boolean " ++ inTicks (if value then "true" else "false")
  | .integer value => "integer " ++ inTicks (toString value)
  | .float value => "floating point " ++ inTicks (style.render value)
  | .text value => "string " ++ Text.quoted value
  | .sequence => "sequence"
  | .map => "map"

/-- The words for what is called for. -/
def Expected.describe : Expected → String
  | .text => "a string"
  | .path => "path string"
  | .natural => "u64"
  | .boolean => "a boolean"
  | .sequence => "a sequence"
  | .artifact => "struct WireArtifact"
  | .filter => "struct ArtifactFilter"

/-- The words for a fault. -/
def ShapeFault.message (style : Decimal.Style) : ShapeFault → String
  | .wrongType found expected =>
    "invalid type: " ++ found.describe style ++ ", expected " ++ expected.describe
  | .outOfRange value expected =>
    "invalid value: " ++ (Found.integer value).describe style ++ ", expected " ++ expected.describe
  | .tooShort length =>
    "invalid length " ++ toString length ++ ", expected struct WireArtifact with 5 elements"
  | .tooLong length => "invalid length " ++ toString length ++ ", expected fewer elements in array"
  | .missingField name => "missing field " ++ inTicks name

/-- The greatest number that fits into 64 bits. -/
def maxNatural : Nat := Nat.pow 2 64 - 1

end FolderSync
