import FolderSync.Decimal.Style
import FolderSync.Json.Basic

/-!
# Writing JSON

`Json.compact` writes a value without blanks; `Json.pretty` writes every item and field on a line
of its own, two blanks deeper than what holds it.  Text is written as it is but for quotes,
backslashes and control characters.
-/

namespace FolderSync

namespace Json

/-! ### Text -/

/-- The letter that stands for a control character after a backslash. -/
def shortEscape? (c : Char) : Option Char :=
  if c = '\x08' then some 'b'
  else if c = '\x0c' then some 'f'
  else if c = '\n' then some 'n'
  else if c = '\r' then some 'r'
  else if c = '\t' then some 't'
  else none

/-- One character inside quotes. -/
def escaped (c : Char) : List Char :=
  if c = '"' ∨ c = '\\' then ['\\', c]
  else match shortEscape? c with
    | some letter => ['\\', letter]
    | none =>
      if c.toNat < 32 then
        ['\\', 'u', '0', '0', Nat.digitChar (c.toNat / 16), Nat.digitChar (c.toNat % 16)]
      else [c]

/-- A text in quotes. -/
def stringChars (text : String) : List Char :=
  '"' :: text.toList.flatMap escaped ++ ['"']

/-! ### Values -/

/-- How the parts of a value are laid out. -/
inductive Layout where
  | compact
  | pretty
deriving DecidableEq, Repr

/-- What stands before a part at a depth. -/
def Layout.newline : Layout → Nat → List Char
  | .compact, _ => []
  | .pretty, depth => '\n' :: List.replicate (2 * depth) ' '

/-- What stands between the name and the value of a field. -/
def Layout.colon : Layout → List Char
  | .compact => [':']
  | .pretty => [':', ' ']

/-- Parts between brackets, with a comma between each two. -/
def Layout.enclose (layout : Layout) (depth : Nat) (opening closing : Char) :
    List (List Char) → List Char
  | [] => [opening, closing]
  | first :: more =>
    opening :: layout.newline (depth + 1) ++ first
      ++ more.flatMap (fun part => ',' :: layout.newline (depth + 1) ++ part)
      ++ layout.newline depth ++ [closing]

mutual

/-- The characters of a value at a depth. -/
def chars (layout : Layout) (depth : Nat) : Json → List Char
  | .null => "null".toList
  | .boolean value => if value then "true".toList else "false".toList
  | .integer value => (toString value).toList
  | .float value => (Decimal.Style.compact.render value).toList
  | .string value => stringChars value
  | .array items => layout.enclose depth '[' ']' (itemChars layout (depth + 1) items)
  | .object fields => layout.enclose depth '\x7b' '\x7d' (fieldChars layout (depth + 1) fields)

/-- The characters of each item. -/
def itemChars (layout : Layout) (depth : Nat) : List Json → List (List Char)
  | [] => []
  | item :: more => chars layout depth item :: itemChars layout depth more

/-- The characters of each field. -/
def fieldChars (layout : Layout) (depth : Nat) : List (String × Json) → List (List Char)
  | [] => []
  | (name, value) :: more =>
    (stringChars name ++ layout.colon ++ chars layout depth value)
      :: fieldChars layout depth more

end

/-- The value without blanks. -/
def compact (value : Json) : String := String.ofList (value.chars .compact 0)

/-- The value laid out in lines. -/
def pretty (value : Json) : String := String.ofList (value.chars .pretty 0)

end Json

end FolderSync
