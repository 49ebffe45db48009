import FolderSync.Text.Classes

/-!
# Quoted text

Messages quote names, hashes, addresses and paths: the text stands between double quotes, and what
would not show as itself is escaped.  `quoted` is the form for texts; `quotedPath` the form for
paths, which escapes the single quote too and shows bytes that are no text by their digits.
-/

namespace FolderSync.Text

/-- The hexadecimal digits of a number, without leading zeros. -/
def hexText (n : Nat) : String := String.ofList (Nat.toDigits 16 n)

/-- Which characters of a quoted text are escaped beside those that do not show. -/
structure Quoting where
  singleQuote : Bool
deriving DecidableEq, Repr

/-- One character of a quoted text. -/
def Quoting.escape (q : Quoting) (c : Char) : String :=
  if c = '\x00' then "\\0"
  else if c = '\t' then "\\t"
  else if c = '\r' then "\\r"
  else if c = '\n' then "\\n"
  else if c = '\\' then "\\\\"
  else if c = '"' then "\\\""
  else if c = '\'' ∧ q.singleQuote = true then "\\'"
  else if extendsGrapheme c || !isPrintable c then "\\u\x7b" ++ hexText c.toNat ++ "\x7d"
  else String.ofList [c]

/-- A byte that is no text, by its digits. -/
def escapeByte (b : UInt8) : String :=
  "\\x" ++ String.ofList ((Nat.toDigits 16 b.toNat).map Char.toUpper)

/-- The characters of some bytes, escaped; bytes that are no text are shown one by one. -/
def Quoting.escapeBytes (q : Quoting) : Bytes → List String
  | [] => []
  | b :: rest =>
    match head b rest with
    | .char c size => q.escape c :: q.escapeBytes (rest.drop (size - 1))
    | .malformed size =>
      (b :: rest.take (size - 1)).map escapeByte ++ q.escapeBytes (rest.drop (size - 1))
termination_by b => b.length
decreasing_by all_goals (simp only [List.length_drop, List.length_cons]; omega)

/-- Escaped pieces between double quotes. -/
def enclosed (pieces : List String) : String := "\"" ++ String.join pieces ++ "\""

/-- The quoted form of a text. -/
def quoted (text : String) : String :=
  enclosed (text.toList.map (Quoting.escape { singleQuote := false }))

/-- The quoted form of a path. -/
def quotedPath (path : Bytes) : String :=
  enclosed (Quoting.escapeBytes { singleQuote := true } path)

end FolderSync.Text
