import FolderSync.Toml.Document
import FolderSync.Toml.Scalar

/-!
# Reading TOML

`Toml.read?` reads a TOML text: lines that open sections, lines that put values under keys, comments
and empty lines.  Lists and inline tables lie in one another to a depth of 79.
-/

namespace FolderSync.Toml

/-- Fewer parts than this make up a key. -/
def keyLimit : Nat := 80

/-- Lists and inline tables lie in one another to this depth. -/
def depthLimit : Nat := 79

/-! ### Keys -/

/-- May the character stand in a key without quotes? -/
def isKeyChar (c : Char) : Bool := c.isAlphanum || c = '-' || c = '_'

/-- Reads one part of a key. -/
def keyPart? (text : List Char) : Reading String :=
  match text with
  | '"' :: rest => basicBody [] rest.length rest
  | '\'' :: rest => literalBody rest
  | _ =>
    if text.head?.any isKeyChar then
      some (String.ofList (text.takeWhile isKeyChar), text.dropWhile isKeyChar)
    else none

/-- Reads the parts of a key behind the first; each step takes one. -/
def moreParts (done : List String) : (steps : Nat) → List Char → Reading (List String)
  | 0, text => some (done.reverse, text)
  | steps + 1, text =>
    match text with
    | '.' :: rest =>
      match keyPart? (skipBlanks rest) with
      | some (part, rest) => moreParts (part :: done) steps (skipBlanks rest)
      | none => none
    | _ => some (done.reverse, text)

/-- Reads a key: the parts before the last, and the last. -/
def key? (text : List Char) : Reading (List String × String) :=
  match keyPart? (skipBlanks text) with
  | none => none
  | some (part, rest) =>
    match moreParts [part] rest.length (skipBlanks rest) with
    | none => none
    | some (parts, rest) =>
      if keyLimit ≤ parts.length then none
      else some ((parts.dropLast, parts.getLast?.getD ""), rest)

/-! ### Values -/

/-- The text behind a comment, if it begins with one. -/
def skipComment : List Char → List Char
  | '#' :: rest => rest.dropWhile isVisible
  | text => text

/-- The text behind blanks, comments and ends of lines; each step takes the end of a line. -/
def skipLines : (steps : Nat) → List Char → List Char
  | 0, text => skipBlanks text
  | steps + 1, text =>
    match newline? (skipComment (skipBlanks text)) with
    | some rest => skipLines steps rest
    | none => skipComment (skipBlanks text)

/-- Blanks, comments and ends of lines between the items of a list. -/
def skipAll (text : List Char) : List Char := skipLines text.length text

/-- Reads the items of a list up to its closing bracket; each step takes one. -/
def items (item : List Char → Reading Toml) (done : List Toml) :
    (steps : Nat) → List Char → Reading Toml
  | 0, _ => none
  | steps + 1, text =>
    match skipAll text with
    | ']' :: rest => some (.array done.reverse, rest)
    | text =>
      match item text with
      | none => none
      | some (v, rest) =>
        match skipAll rest with
        | ',' :: rest => items item (v :: done) steps rest
        | ']' :: rest => some (.array (v :: done).reverse, rest)
        | _ => none

/-- Reads a key, the sign between and a value. -/
def pair (item : List Char → Reading Toml) (text : List Char) :
    Reading ((List String × String) × Toml) :=
  match key? text with
  | some (key, '=' :: rest) =>
    match item (skipBlanks rest) with
    | some (v, rest) => some ((key, v), rest)
    | none => none
  | _ => none

/-- Reads the pairs of an inline table up to its closing brace; each step takes one. -/
def pairs (item : List Char → Reading Toml) (entries : Entries) :
    (steps : Nat) → List Char → Reading Toml
  | 0, _ => none
  | steps + 1, text =>
    match pair item text with
    | none => none
    | some (((path, key), v), rest) =>
      match Entries.define key v path entries with
      | none => none
      | some entries =>
        match skipBlanks rest with
        | ',' :: rest => pairs item entries steps rest
        | '\x7d' :: rest => some (.table (closeEntries entries), rest)
        | _ => none

/-- Reads a value that may hold others to a depth. -/
def value? (depth : Nat) (text : List Char) : Reading Toml :=
  match text with
  | '[' :: rest =>
    match depth with
    | 0 => none
    | depth + 1 => items (value? depth) [] (rest.length + 1) rest
  | '\x7b' :: rest =>
    match depth with
    | 0 => none
    | depth + 1 =>
      match skipBlanks rest with
      | '\x7d' :: rest => some (.table [], rest)
      | rest => pairs (value? depth) [] (rest.length + 1) rest
  | c :: _ =>
    if c = '"' ∨ c = '\'' then (text? text).map fun (s, rest) => (.string s, rest)
    else if c = 't' then (behindWord? "true" text).map (.boolean true, ·)
    else if c = 'f' then (behindWord? "false" text).map (.boolean false, ·)
    else figure? text
  | [] => none

/-! ### Lines -/

/-- The text behind the end of the line, before which only blanks and a comment may stand. -/
def endLine? (text : List Char) : Option (List Char) :=
  match skipComment (skipBlanks text) with
  | [] => some []
  | rest => newline? rest

/-- Reads one line of a document that begins with neither a blank nor the end of a line. -/
def line? (d : Document) (text : List Char) : Option (Document × List Char) :=
  match text with
  | '#' :: _ => (endLine? text).map (d, ·)
  | '[' :: '[' :: rest => do
    let ((path, key), rest) ← key? rest
    let rest ← behind? ']' rest
    let rest ← behind? ']' rest
    let rest ← endLine? rest
    let d ← d.openListed path key
    return (d, rest)
  | '[' :: rest => do
    let ((path, key), rest) ← key? rest
    let rest ← behind? ']' rest
    let rest ← endLine? rest
    let d ← d.openTable path key
    return (d, rest)
  | _ => do
    let (((path, key), v), rest) ← pair (value? depthLimit) text
    let rest ← endLine? rest
    let d ← d.define path key v
    return (d, rest)

/-- Reads all lines; each step takes one. -/
def lines? (d : Document) : (steps : Nat) → List Char → Option Document
  | 0, text => if skipBlanks text = [] then some d else none
  | steps + 1, text =>
    match skipBlanks text with
    | [] => some d
    | text =>
      match newline? text with
      | some rest => lines? d steps rest
      | none =>
        match line? d text with
        | some (d, rest) => lines? d steps rest
        | none => none

/-- Reads a TOML text.  A byte order mark at its start does not count. -/
def read? (text : String) : Option Toml :=
  let characters := match text.toList with
    | '\uFEFF' :: rest => rest
    | characters => characters
  (lines? {} characters.length characters).bind Document.close

end FolderSync.Toml
