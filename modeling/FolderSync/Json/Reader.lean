import FolderSync.ContentHash
import FolderSync.Decimal.Binary64
import FolderSync.Json.Basic

/-!
# Reading JSON

`Json.read` reads the bytes of a JSON text, which is one value between blanks.  A text that is none
has a `Fault`: the reason and the number of bytes left behind the place where it shows, from which
`Fault.line` and `Fault.column` are counted.

Values lie in one another to a depth of 127.  Integers of 64 bits are kept as they are; all other
numbers are binary numbers.
-/

namespace FolderSync.Json

/-- Why bytes are not a JSON text. -/
inductive Reason where
  | endInList
  | endInObject
  | endInString
  | endInValue
  | expectedWord
  | expectedValue
  | expectedColon
  | expectedCommaOrBracket
  | expectedCommaOrBrace
  | keyNotString
  | trailingComma
  | trailingCharacters
  | invalidNumber
  | numberOutOfRange
  | invalidEscape
  | unpairedEscape
  | loneSurrogate
  | controlCharacter
  | malformedText
  | tooDeep
deriving DecidableEq, Repr

/-- The words for a reason. -/
def Reason.message : Reason → String
  | .endInList => "EOF while parsing a list"
  | .endInObject => "EOF while parsing an object"
  | .endInString => "EOF while parsing a string"
  | .endInValue => "EOF while parsing a value"
  | .expectedWord => "expected ident"
  | .expectedValue => "expected value"
  | .expectedColon => "expected " ++ inTicks ":"
  | .expectedCommaOrBracket => "expected " ++ inTicks "," ++ " or " ++ inTicks "]"
  | .expectedCommaOrBrace => "expected " ++ inTicks "," ++ " or " ++ inTicks "\x7d"
  | .keyNotString => "key must be a string"
  | .trailingComma => "trailing comma"
  | .trailingCharacters => "trailing characters"
  | .invalidNumber => "invalid number"
  | .numberOutOfRange => "number out of range"
  | .invalidEscape => "invalid escape"
  | .unpairedEscape => "unexpected end of hex escape"
  | .loneSurrogate => "lone leading surrogate in hex escape"
  | .controlCharacter => "control character (\\u0000-\\u001F) found while parsing a string"
  | .malformedText => "invalid unicode code point"
  | .tooDeep => "recursion limit exceeded"

/-- A reason, and how many bytes of the text lie behind the place where it shows. -/
structure Fault where
  reason : Reason
  left : Nat
deriving DecidableEq, Repr

namespace Fault

/-- A fault that shows before the next byte. -/
def before (rest : Bytes) (reason : Reason) : Fault := ⟨reason, rest.length⟩

/-- A fault of the next byte, which is counted if there is one. -/
def next (rest : Bytes) (reason : Reason) : Fault := ⟨reason, rest.length - 1⟩

/-- The bytes of the text up to the place of the fault. -/
def consumed (f : Fault) (text : Bytes) : Bytes := text.take (text.length - f.left)

/-- The line of the fault, from one on. -/
def line (f : Fault) (text : Bytes) : Nat := (f.consumed text).count 10 + 1

/-- Number of bytes of that line up to the place of the fault. -/
def column (f : Fault) (text : Bytes) : Nat :=
  ((f.consumed text).reverse.takeWhile (· ≠ 10)).length

/-- The words for the fault in a text. -/
def message (f : Fault) (text : Bytes) : String :=
  f.reason.message ++ " at line " ++ toString (f.line text)
    ++ " column " ++ toString (f.column text)

end Fault

/-- What is read and the bytes behind it. -/
abbrev Reading (α : Type) := Except Fault (α × Bytes)

/-- Is the byte a blank, a tab or the end of a line? -/
def isBlank (b : UInt8) : Bool := b = 32 || b = 9 || b = 10 || b = 13

/-- The text without the blanks at its start. -/
def skipBlanks (text : Bytes) : Bytes := text.dropWhile isBlank

/-- Reads the rest of a word. -/
def word (value : α) : Bytes → Bytes → Reading α
  | [], text => .ok (value, text)
  | _ :: _, [] => .error (.before [] .endInValue)
  | w :: ws, b :: rest =>
    if b = w then word value ws rest else .error (.before rest .expectedWord)

/-! ### Numbers -/

/-- Is the byte a decimal digit? -/
def isDigit (b : UInt8) : Bool := 48 ≤ b && b ≤ 57

/-- Adds digits to a number as long as it stays within the limit; the others are returned. -/
def absorb (limit : Nat) (number : Nat) : Bytes → Nat × Bytes
  | [] => (number, [])
  | d :: more =>
    let longer := number * 10 + (d.toNat - 48)
    if limit < longer then (number, d :: more) else absorb limit longer more

/-- The powers of ten that scale a number in one step. -/
def maxPower : Int := 308

/-- The number times a power of ten.  It is rounded first, and again after each step; `none` if it
is too large. -/
def scaled? (x : Binary64) (exponent : Int) : Nat → Option Binary64
  | 0 => some x
  | steps + 1 =>
    if exponent.natAbs ≤ maxPower.toNat then
      let power := Binary64.ofNat (Nat.pow 10 exponent.natAbs)
      if 0 ≤ exponent then
        let y := x.mul power
        if y.isInfinite then none else some y
      else some (x.div power)
    else if x.isZero then some x
    else if 0 ≤ exponent then none
    else
      scaled? (x.div (Binary64.ofNat (Nat.pow 10 maxPower.toNat))) (exponent + maxPower) steps

/-- The number with the given decimal digits and exponent. -/
def number (negative : Bool) (digits : Nat) (exponent : Int) (rest : Bytes) : Reading Json :=
  match scaled? (.ofNat digits) exponent (exponent.natAbs / 308 + 1) with
  | none => .error (.before rest .numberOutOfRange)
  | some x => .ok (.float (if negative then x.neg else x), rest)

/-- The greatest exponent that is read. -/
def maxExponent : Nat := Nat.pow 2 31 - 1

/-- Reads what follows the `e` of a number. -/
def exponentPart (negative : Bool) (digits : Nat) (exponent : Int) (text : Bytes) : Reading Json :=
  let (down, text) :=
    match text with
    | 43 :: rest => (false, rest)
    | 45 :: rest => (true, rest)
    | _ => (false, text)
  match text with
  | [] => .error (.before [] .endInValue)
  | b :: rest =>
    if !isDigit b then .error (.before rest .invalidNumber)
    else
      let rest := text.dropWhile isDigit
      let (power, excess) := absorb maxExponent 0 (text.takeWhile isDigit)
      if excess ≠ [] then
        if digits ≠ 0 ∧ down = false then
          .error ⟨.numberOutOfRange, rest.length + excess.length - 1⟩
        else .ok (.float (.zero negative), rest)
      else
        number negative digits (if down then exponent - power else exponent + power) rest

/-- Reads what follows the point of a number. -/
def fractionPart (negative : Bool) (digits : Nat) (exponent : Int) (text : Bytes) : Reading Json :=
  let places := text.takeWhile isDigit
  let rest := text.dropWhile isDigit
  if places = [] then
    .error (.next rest (if rest = [] then .endInValue else .invalidNumber))
  else
    let (digits, excess) := absorb maxNatural digits places
    let exponent := exponent - (places.length - excess.length : Nat)
    match rest with
    | b :: more =>
      if b = 101 ∨ b = 69 then exponentPart negative digits exponent more
      else number negative digits exponent rest
    | [] => number negative digits exponent rest

/-- The whole number with the given digits, of which `excess` did not fit. -/
def whole (negative : Bool) (digits : Nat) (excess rest : Bytes) : Reading Json :=
  if excess ≠ [] then number negative digits excess.length rest
  else if negative then
    if digits = 0 ∨ Nat.pow 2 63 < digits then .ok (.float (Binary64.ofNat digits).neg, rest)
    else .ok (.integer (-digits), rest)
  else .ok (.integer digits, rest)

/-- Reads a number without its sign. -/
def unsigned (negative : Bool) (text : Bytes) : Reading Json :=
  match text with
  | [] => .error (.before [] .endInValue)
  | b :: rest =>
    if !isDigit b then .error (.before rest .invalidNumber)
    else if b = 48 ∧ (rest.head?.any isDigit) then .error (.next rest .invalidNumber)
    else
      let (digits, excess) := absorb maxNatural 0 (text.takeWhile isDigit)
      match text.dropWhile isDigit with
      | 46 :: rest => fractionPart negative digits excess.length rest
      | 101 :: rest => exponentPart negative digits excess.length rest
      | 69 :: rest => exponentPart negative digits excess.length rest
      | rest => whole negative digits excess rest

/-! ### Text -/

/-- The value of a hexadecimal digit. -/
def hexValue? (b : UInt8) : Option Nat :=
  let c := Char.ofNat b.toNat
  if isHexDigit c then some (FolderSync.hexValue c) else none

/-- The value of four hexadecimal digits. -/
def fourHex? (a b c d : UInt8) : Option Nat := do
  return (((← hexValue? a) * 16 + (← hexValue? b)) * 16 + (← hexValue? c)) * 16 + (← hexValue? d)

/-- The byte that a letter after a backslash stands for. -/
def escapedByte? (b : UInt8) : Option UInt8 :=
  if b = 34 ∨ b = 92 ∨ b = 47 then some b
  else if b = 98 then some 8
  else if b = 102 then some 12
  else if b = 110 then some 10
  else if b = 114 then some 13
  else if b = 116 then some 9
  else none

/-- Is the value the first half of a pair? -/
def isHighSurrogate (n : Nat) : Bool := 0xD800 ≤ n && n ≤ 0xDBFF

/-- Is the value the second half of a pair? -/
def isLowSurrogate (n : Nat) : Bool := 0xDC00 ≤ n && n ≤ 0xDFFF

/-- The encoding of the character with a value. -/
def encodedChar (n : Nat) : Bytes := utf8 (String.ofList [Char.ofNat n])

/-- Reads the second half of a pair, escaped like the first. -/
def secondHalf (high : Nat) : Bytes → Reading Bytes
  | [] => .error (.before [] .endInString)
  | 92 :: [] => .error (.before [] .endInString)
  | 92 :: 117 :: a :: b :: c :: d :: rest =>
    match fourHex? a b c d with
    | none => .error (.before rest .invalidEscape)
    | some low =>
      if isLowSurrogate low then
        .ok (encodedChar (0x10000 + (high - 0xD800) * 1024 + (low - 0xDC00)), rest)
      else .error (.before rest .loneSurrogate)
  | 92 :: 117 :: _ => .error (.before [] .endInString)
  | 92 :: _ :: rest => .error (.before rest .unpairedEscape)
  | _ :: rest => .error (.before rest .unpairedEscape)

/-- Reads what follows a backslash: the bytes that it stands for. -/
def escape : Bytes → Reading Bytes
  | [] => .error (.before [] .endInString)
  | 117 :: a :: b :: c :: d :: rest =>
    match fourHex? a b c d with
    | none => .error (.before rest .invalidEscape)
    | some n =>
      if isLowSurrogate n then .error (.before rest .loneSurrogate)
      else if isHighSurrogate n then secondHalf n rest
      else .ok (encodedChar n, rest)
  | 117 :: _ => .error (.before [] .endInString)
  | b :: rest =>
    match escapedByte? b with
    | some value => .ok ([value], rest)
    | none => .error (.before rest .invalidEscape)

/-- Reads bytes up to the closing quote, in front of which `done` lies in reverse.  Each step takes
a byte, so with as many steps as there are bytes the end is reached. -/
def stringBytes (done : Bytes) : (steps : Nat) → Bytes → Reading Bytes
  | _, [] => .error (.before [] .endInString)
  | 0, _ => .error (.before [] .endInString)
  | steps + 1, b :: rest =>
    if b = 34 then .ok (done.reverse, rest)
    else if b = 92 then
      match escape rest with
      | .ok (bytes, rest) => stringBytes (bytes.reverse ++ done) steps rest
      | .error fault => .error fault
    else if b < 32 then .error (.before rest .controlCharacter)
    else stringBytes (b :: done) steps rest

/-- Reads a text behind its opening quote.  Bytes that are no text show at the first malformed
one, but only when the closing quote is reached. -/
def readString (text : Bytes) : Reading String :=
  match stringBytes [] text.length text with
  | .error fault => .error fault
  | .ok (bytes, rest) =>
    match text? bytes with
    | some s => .ok (s, rest)
    | none => .error ⟨.malformedText, text.length - wellFormedLength text - 1⟩

/-! ### Values -/

/-- Reads the items behind the first of a list; each step takes one. -/
def moreItems (item : Bytes → Reading Json) (done : List Json) :
    (steps : Nat) → Bytes → Reading Json
  | 0, text => .error (.next text .endInList)
  | steps + 1, text =>
    match skipBlanks text with
    | [] => .error (.before [] .endInList)
    | 93 :: rest => .ok (.array done.reverse, rest)
    | 44 :: rest =>
      match skipBlanks rest with
      | [] => .error (.before [] .endInValue)
      | 93 :: rest => .error (.before rest .trailingComma)
      | rest =>
        match item rest with
        | .ok (value, rest) => moreItems item (value :: done) steps rest
        | .error fault => .error fault
    | _ :: rest => .error (.before rest .expectedCommaOrBracket)

/-- Reads a list behind its opening bracket. -/
def items (item : Bytes → Reading Json) (text : Bytes) : Reading Json :=
  match skipBlanks text with
  | [] => .error (.before [] .endInList)
  | 93 :: rest => .ok (.array [], rest)
  | rest =>
    match item rest with
    | .ok (value, rest) => moreItems item [value] rest.length rest
    | .error fault => .error fault

/-- Reads a field behind the opening quote of its name. -/
def field (item : Bytes → Reading Json) (text : Bytes) : Reading (String × Json) :=
  match readString text with
  | .error fault => .error fault
  | .ok (name, rest) =>
    match skipBlanks rest with
    | [] => .error (.before [] .endInObject)
    | 58 :: rest =>
      match item rest with
      | .ok (value, rest) => .ok ((name, value), rest)
      | .error fault => .error fault
    | _ :: rest => .error (.before rest .expectedColon)

/-- Reads the fields behind the first of an object; each step takes one. -/
def moreFields (item : Bytes → Reading Json) (done : List (String × Json)) :
    (steps : Nat) → Bytes → Reading Json
  | 0, text => .error (.next text .endInObject)
  | steps + 1, text =>
    match skipBlanks text with
    | [] => .error (.before [] .endInObject)
    | 125 :: rest => .ok (.objectOf done.reverse, rest)
    | 44 :: rest =>
      match skipBlanks rest with
      | [] => .error (.before [] .endInValue)
      | 34 :: rest =>
        match field item rest with
        | .ok (pair, rest) => moreFields item (pair :: done) steps rest
        | .error fault => .error fault
      | 125 :: rest => .error (.before rest .trailingComma)
      | _ :: rest => .error (.before rest .keyNotString)
    | _ :: rest => .error (.before rest .expectedCommaOrBrace)

/-- Reads an object behind its opening brace. -/
def fieldsOf (item : Bytes → Reading Json) (text : Bytes) : Reading Json :=
  match skipBlanks text with
  | [] => .error (.before [] .endInObject)
  | 125 :: rest => .ok (.object [], rest)
  | 34 :: rest =>
    match field item rest with
    | .ok (pair, rest) => moreFields item [pair] rest.length rest
    | .error fault => .error fault
  | _ :: rest => .error (.before rest .keyNotString)

/-- Reads a value that may hold others to a depth. -/
def readValue (depth : Nat) (text : Bytes) : Reading Json :=
  match skipBlanks text with
  | [] => .error (.before [] .endInValue)
  | 110 :: rest => word .null (utf8 "ull") rest
  | 116 :: rest => word (.boolean true) (utf8 "rue") rest
  | 102 :: rest => word (.boolean false) (utf8 "alse") rest
  | 45 :: rest => unsigned true rest
  | 34 :: rest =>
    match readString rest with
    | .ok (s, rest) => .ok (.string s, rest)
    | .error fault => .error fault
  | 91 :: rest =>
    match depth with
    | 0 => .error (.before rest .tooDeep)
    | depth + 1 => items (readValue depth) rest
  | 123 :: rest =>
    match depth with
    | 0 => .error (.before rest .tooDeep)
    | depth + 1 => fieldsOf (readValue depth) rest
  | b :: rest => if isDigit b then unsigned false (b :: rest) else .error (.before rest .expectedValue)

/-- Lists and objects lie in one another to this depth. -/
def depthLimit : Nat := 127

/-- Reads a JSON text. -/
def read (text : Bytes) : Except Fault Json :=
  match readValue depthLimit text with
  | .error fault => .error fault
  | .ok (v, rest) =>
    match skipBlanks rest with
    | [] => .ok v
    | _ :: rest => .error (.before rest .trailingCharacters)

end FolderSync.Json
