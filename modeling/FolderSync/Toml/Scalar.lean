import FolderSync.ContentHash
import FolderSync.Toml.Basic

/-!
# TOML texts and numbers

How the values are written that hold no others: texts in four kinds of quotes, integers in four
bases, floating-point numbers, dates and times.  Each reader takes the characters from the start of
the value and gives the value and the characters behind it, or nothing if they are malformed.
-/

namespace FolderSync.Toml

/-- What is read and the characters behind it. -/
abbrev Reading (α : Type) := Option (α × List Char)

/-- Is the character a blank or a tab? -/
def isBlank (c : Char) : Bool := c = ' ' || c = '\t'

/-- The text without the blanks at its start. -/
def skipBlanks (text : List Char) : List Char := text.dropWhile isBlank

/-- The text behind the end of a line, if it begins with one. -/
def newline? : List Char → Option (List Char)
  | '\n' :: rest => some rest
  | '\r' :: '\n' :: rest => some rest
  | _ => none

/-- May the character stand in a comment, and between quotes that know no escapes? -/
def isVisible (c : Char) : Bool := c = '\t' || (32 ≤ c.toNat && c.toNat ≠ 127)

/-! ### Texts -/

/-- The character behind `digits` hexadecimal digits. -/
def codePoint? (digits : Nat) (text : List Char) : Reading Char :=
  let front := text.take digits
  if front.length = digits ∧ front.all isHexDigit = true then
    let n := front.foldl (fun sum c => sum * 16 + hexValue c) 0
    if n.isValidChar then some (Char.ofNat n, text.drop digits) else none
  else none

/-- Reads what follows a backslash. -/
def escape? : List Char → Reading Char
  | 'b' :: rest => some ('\x08', rest)
  | 't' :: rest => some ('\t', rest)
  | 'n' :: rest => some ('\n', rest)
  | 'f' :: rest => some ('\x0c', rest)
  | 'r' :: rest => some ('\r', rest)
  | '"' :: rest => some ('"', rest)
  | '\\' :: rest => some ('\\', rest)
  | 'u' :: rest => codePoint? 4 rest
  | 'U' :: rest => codePoint? 8 rest
  | _ => none

/-- The text behind blanks and ends of lines, of which there is at least one. -/
def foldedLines? (text : List Char) : Option (List Char) :=
  match newline? (skipBlanks text) with
  | some rest => some (rest.dropWhile fun c => isBlank c || c = '\n' || c = '\r')
  | none => none

/-- Is every carriage return followed by the end of a line? -/
def hasLoneReturn : List Char → Bool
  | '\r' :: '\n' :: rest => hasLoneReturn rest
  | '\r' :: _ => true
  | _ :: rest => hasLoneReturn rest
  | [] => false

/-- Reads a text up to its double quote; each step takes a character. -/
def basicBody (done : List Char) : (steps : Nat) → List Char → Reading String
  | _, [] => none
  | 0, _ => none
  | steps + 1, c :: rest =>
    if c = '"' then some (String.ofList done.reverse, rest)
    else if c = '\\' then
      match escape? rest with
      | some (e, rest) => basicBody (e :: done) steps rest
      | none => none
    else if isVisible c then basicBody (c :: done) steps rest
    else none

/-- Reads a text up to its single quote. -/
def literalBody (text : List Char) : Reading String :=
  match text.dropWhile fun c => isVisible c && c ≠ '\'' with
  | '\'' :: rest => some (String.ofList (text.takeWhile fun c => isVisible c && c ≠ '\''), rest)
  | _ => none

/-- Reads a text of several lines up to three quotes; each step takes a character.  Up to two
quotes may stand before the three.  `escapes` says whether a backslash begins an escape. -/
def linesBody (quote : Char) (escapes : Bool) (done : List Char) :
    (steps : Nat) → List Char → Reading String
  | _, [] => none
  | 0, _ => none
  | steps + 1, c :: rest =>
    if c = quote then
      let quotes := ((c :: rest).takeWhile (· = quote)).length
      if quotes < 3 then linesBody quote escapes (c :: done) steps rest
      else
        let extra := min 2 (quotes - 3)
        some (String.ofList (done.reverse ++ List.replicate extra quote), rest.drop (extra + 2))
    else if c = '\\' ∧ escapes = true then
      match foldedLines? rest with
      | some folded =>
        if hasLoneReturn (rest.take (rest.length - folded.length)) then none
        else linesBody quote escapes done steps folded
      | none =>
        match escape? rest with
        | some (e, rest) => linesBody quote escapes (e :: done) steps rest
        | none => none
    else match newline? (c :: rest) with
      | some rest => linesBody quote escapes ('\n' :: done) steps rest
      | none => if isVisible c then linesBody quote escapes (c :: done) steps rest else none

/-- The text without the end of a line at its start. -/
def skipNewline (text : List Char) : List Char := (newline? text).getD text

/-- Reads a text in quotes of any kind. -/
def text? : List Char → Reading String
  | '"' :: '"' :: '"' :: rest =>
    linesBody '"' true [] (skipNewline rest).length (skipNewline rest)
  | '"' :: rest => basicBody [] rest.length rest
  | '\'' :: '\'' :: '\'' :: rest =>
    linesBody '\'' false [] (skipNewline rest).length (skipNewline rest)
  | '\'' :: rest => literalBody rest
  | _ => none

/-! ### Numbers -/

/-- Reads more digits; an underscore stands between two of them. -/
def moreDigits (isDigit : Char → Bool) : List Char → Reading (List Char)
  | '_' :: d :: rest =>
    if isDigit d then (moreDigits isDigit rest).map fun (ds, rest) => (d :: ds, rest) else none
  | '_' :: [] => none
  | c :: rest =>
    if isDigit c then (moreDigits isDigit rest).map fun (ds, rest) => (c :: ds, rest)
    else some ([], c :: rest)
  | [] => some ([], [])

/-- Reads digits, of which there is at least one. -/
def digits? (isDigit : Char → Bool) : List Char → Reading (List Char)
  | c :: rest =>
    if isDigit c then (moreDigits isDigit rest).map fun (ds, rest) => (c :: ds, rest) else none
  | [] => none

/-- Cuts a sign off; `true` is minus. -/
def sign : List Char → Bool × List Char
  | '-' :: rest => (true, rest)
  | '+' :: rest => (false, rest)
  | text => (false, text)

/-- The value of digits in a base. -/
def valueOf (base : Nat) (digits : List Char) : Nat :=
  digits.foldl (fun sum c => sum * base + hexValue c) 0

/-- An integer of 64 bits. -/
def bounded? (n : Int) (rest : List Char) : Reading Toml :=
  if -Int.pow 2 63 ≤ n ∧ n < Int.pow 2 63 then some (.integer n, rest) else none

/-- Reads the digits of an integer in a base other than ten. -/
def inBase? (base : Nat) (text : List Char) : Reading Toml :=
  match digits? (fun c => isHexDigit c && hexValue c < base) text with
  | some (ds, rest) => bounded? (valueOf base ds) rest
  | none => none

/-- Reads the digits of a decimal integer; a zero at the start stands alone. -/
def decimal? : List Char → Reading (List Char)
  | '0' :: rest => some (['0'], rest)
  | text => digits? Char.isDigit text

/-- Reads the digits behind a point, if there is one. -/
def fraction? : List Char → Reading (Option (List Char))
  | '.' :: rest => (digits? Char.isDigit rest).map fun (ds, rest) => (some ds, rest)
  | text => some (none, text)

/-- Reads an exponent, if there is one. -/
def exponent? : List Char → Reading (Option Int)
  | [] => some (none, [])
  | c :: rest =>
    if c = 'e' ∨ c = 'E' then
      let (negative, rest) := sign rest
      (digits? Char.isDigit rest).map fun (ds, rest) =>
        (some (if negative then -(valueOf 10 ds : Int) else valueOf 10 ds), rest)
    else some (none, c :: rest)

/-- Reads a decimal number: an integer, or a binary number if it has a point or an exponent.  A
number that is too large is refused unless it is negative. -/
def number? (text : List Char) : Reading Toml :=
  let (negative, text) := sign text
  match decimal? text with
  | none => none
  | some (ds, rest) =>
    match fraction? rest with
    | none => none
    | some (places, rest) =>
      match exponent? rest with
      | none => none
      | some (exponent, rest) =>
        if places = none ∧ exponent = none then
          bounded? (if negative then -(valueOf 10 ds : Int) else valueOf 10 ds) rest
        else
          let shown := ds ++ places.getD []
          let value := Binary64.ofDecimal negative (valueOf 10 shown)
            (exponent.getD 0 - (places.getD []).length)
          if value = .infinite false then none else some (.float value, rest)

/-! ### Dates and times -/

/-- The number that the first `count` characters spell, and the text behind them. -/
def fixedDigits? (count : Nat) (text : List Char) : Reading Nat :=
  let front := text.take count
  if front.length = count ∧ front.all Char.isDigit = true then
    some (valueOf 10 front, text.drop count)
  else none

/-- A number of two digits between bounds. -/
def pair? (low high : Nat) (text : List Char) : Reading Nat :=
  match fixedDigits? 2 text with
  | some (n, rest) => if low ≤ n ∧ n ≤ high then some (n, rest) else none
  | none => none

/-- The text behind a character, if it begins with it. -/
def behind? (c : Char) : List Char → Option (List Char)
  | d :: rest => if d = c then some rest else none
  | [] => none

/-- Number of days in a month. -/
def daysIn (year month : Nat) : Nat :=
  if month = 2 then if year % 4 = 0 ∧ (year % 100 ≠ 0 ∨ year % 400 = 0) then 29 else 28
  else if month = 4 ∨ month = 6 ∨ month = 9 ∨ month = 11 then 30
  else 31

/-- The text behind a time of day. -/
def behindTime? (text : List Char) : Option (List Char) := do
  let (_, text) ← pair? 0 23 text
  let text ← behind? ':' text
  let (_, text) ← pair? 0 59 text
  let text ← behind? ':' text
  let (_, text) ← pair? 0 60 text
  match text with
  | '.' :: rest =>
    if rest.head?.any Char.isDigit then some (rest.dropWhile Char.isDigit) else none
  | _ => some text

/-- The text behind a distance from universal time, if there is one. -/
def behindOffset? : List Char → Option (List Char)
  | [] => some []
  | c :: rest =>
    if c = 'Z' ∨ c = 'z' then some rest
    else if c = '+' ∨ c = '-' then do
      let (_, text) ← pair? 0 23 rest
      let text ← behind? ':' text
      let (_, text) ← pair? 0 59 text
      return text
    else some (c :: rest)

/-- The text behind a date. -/
def behindDate? (text : List Char) : Option (List Char) := do
  let (year, text) ← fixedDigits? 4 text
  let text ← behind? '-' text
  let (month, text) ← pair? 1 12 text
  let text ← behind? '-' text
  let (day, text) ← pair? 1 31 text
  if day ≤ daysIn year month then some text else none

/-- Does the text begin with `count` digits and a character? -/
def beginsWith (count : Nat) (c : Char) (text : List Char) : Bool :=
  match fixedDigits? count text with
  | some (_, d :: _) => d = c
  | _ => false

/-- The text behind a date, possibly with a time of day and a distance from universal time. -/
def behindMoment? (text : List Char) : Option (List Char) := do
  let text ← behindDate? text
  match text with
  | c :: rest =>
    if (c = 'T' ∨ c = 't' ∨ c = ' ') ∧ beginsWith 2 ':' rest = true then
      (behindTime? rest).bind behindOffset?
    else some text
  | [] => some []

/-- The text behind a word, if it begins with it. -/
def behindWord? (word : String) (text : List Char) : Option (List Char) :=
  if word.toList.isPrefixOf text then some (text.drop word.toList.length) else none

/-- Reads a number, a date or a time. -/
def figure? (text : List Char) : Reading Toml :=
  if beginsWith 4 '-' text then (behindMoment? text).map (.moment, ·)
  else if beginsWith 2 ':' text then (behindTime? text).map (.moment, ·)
  else
    let (negative, unsigned) := sign text
    match behindWord? "inf" unsigned, behindWord? "nan" unsigned with
    | some rest, _ => some (.float (.infinite negative), rest)
    | _, some rest => some (.float .nan, rest)
    | none, none =>
      match text with
      | '0' :: 'x' :: rest => inBase? 16 rest
      | '0' :: 'o' :: rest => inBase? 8 rest
      | '0' :: 'b' :: rest => inBase? 2 rest
      | _ => number? text

end FolderSync.Toml
