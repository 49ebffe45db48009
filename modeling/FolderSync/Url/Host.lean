import FolderSync.Text.Fields
import FolderSync.Url.Domain
import FolderSync.Url.Percent

/-!
# Hosts

A host is a domain name, an IPv4 address or an IPv6 address.  `Host.ofWeb` reads the host of an
address of the web, where numbers in several notations are IPv4 addresses; `Host.ofOther` that of
any other address, where a host that is no IPv6 address is taken as it is.
-/

namespace FolderSync

/-- Where an address leads. -/
inductive Host where
  | domain (name : String)
  | ipv4 (address : Nat)
  | ipv6 (pieces : List Nat)
deriving DecidableEq, Repr

/-- Why a text is no address. -/
inductive UrlFault where
  | relative
  | relativeToOpaque
  | emptyHost
  | invalidPort
  | invalidIpv4
  | invalidIpv6
  | invalidDomain
  | forbiddenHostCharacter
deriving DecidableEq, Repr

/-- The words for the reason. -/
def UrlFault.message : UrlFault → String
  | .relative => "relative URL without a base"
  | .relativeToOpaque => "relative URL with a cannot-be-a-base base"
  | .emptyHost => "empty host"
  | .invalidPort => "invalid port number"
  | .invalidIpv4 => "invalid IPv4 address"
  | .invalidIpv6 => "invalid IPv6 address"
  | .invalidDomain => "invalid international domain name"
  | .forbiddenHostCharacter => "invalid domain character"

/-! ### Numbers -/

/-- The value of digits in a base, if all are digits of that base. -/
def digitsValue? (base : Nat) (digits : List Char) : Option Nat :=
  digits.foldl (fun sum c => do
    let sum ← sum
    if isHexDigit c ∧ hexValue c < base then some (sum * base + hexValue c) else none) (some 0)

/-- A part of an IPv4 address: hexadecimal behind `0x`, octal behind another zero, else decimal. -/
def ipv4Part? : List Char → Option Nat
  | [] => none
  | '0' :: 'x' :: digits => digitsValue? 16 digits
  | '0' :: 'X' :: digits => digitsValue? 16 digits
  | '0' :: d :: digits => digitsValue? 8 (d :: digits)
  | digits => digitsValue? 10 digits

/-- Is the last label of the name, but for one dot at the end, a number? -/
def endsInNumber (name : List Char) : Bool :=
  let isNumber (label : List Char) : Bool :=
    (label ≠ [] && label.all Char.isDigit) || (ipv4Part? label).isSome
  match (fieldsBy (· = '.') name).reverse with
  | [] :: label :: _ => isNumber label
  | label :: _ => isNumber label
  | [] => false

/-- Reads an IPv4 address: of the numbers the last fills all bytes that are left. -/
def ipv4OfName (name : List Char) : Except UrlFault Nat :=
  let labels := fieldsBy (· = '.') name
  let labels := if labels.getLast? = some [] then labels.dropLast else labels
  if 4 < labels.length then .error .invalidIpv4
  else match Domain.every? ipv4Part? labels with
    | none => .error .invalidIpv4
    | some numbers =>
      let first := numbers.dropLast
      let last := numbers.getLast?.getD 0
      if first.any (255 < ·) ∨ Nat.pow 256 (4 - first.length) ≤ last then .error .invalidIpv4
      else .ok (first.zipIdx.foldl (fun sum (n, i) => sum + n * Nat.pow 256 (3 - i)) last)

/-- The four bytes of an IPv4 address. -/
def ipv4Chars (address : Nat) : List Char :=
  joinFields '.' ([3, 2, 1, 0].map fun i => Nat.toDigits 10 (address / Nat.pow 256 i % 256))

/-! ### IPv6 -/

/-- One piece of an IPv6 address: up to four hexadecimal digits. -/
def ipv6Piece? (digits : List Char) : Option Nat :=
  if digits = [] ∨ 4 < digits.length then none else digitsValue? 16 digits

/-- A byte in decimal, without needless zeros. -/
def decimalByte? (digits : List Char) : Option Nat :=
  if digits = [] ∨ (digits.head? = some '0' ∧ digits ≠ ['0']) then none
  else match digitsValue? 10 digits with
    | some n => if n < 256 then some n else none
    | none => none

/-- The two pieces that four decimal bytes make up. -/
def ipv6Tail? (text : List Char) : Option (List Nat) :=
  match Domain.every? decimalByte? (fieldsBy (· = '.') text) with
  | some [a, b, c, d] => some [a * 256 + b, c * 256 + d]
  | _ => none

/-- Pieces between colons, of which the last may be an IPv4 address if `isLast`. -/
def ipv6Pieces? (isLast : Bool) (text : List Char) : Option (List Nat) :=
  if text = [] then some []
  else
    let fields := fieldsBy (· = ':') text
    let last := fields.getLast?.getD []
    if isLast ∧ '.' ∈ last then
      match Domain.every? ipv6Piece? fields.dropLast, ipv6Tail? last with
      | some pieces, some tail => some (pieces ++ tail)
      | _, _ => none
    else Domain.every? ipv6Piece? fields

/-- Cuts a text at its first double colon. -/
def cutAtGap? : List Char → Option (List Char × List Char)
  | ':' :: ':' :: rest => some ([], rest)
  | c :: rest => (cutAtGap? rest).map fun (front, back) => (c :: front, back)
  | [] => none

/-- The eight pieces of an IPv6 address; a double colon stands for one or more that are zero. -/
def ipv6OfText? (text : List Char) : Option (List Nat) :=
  match cutAtGap? text with
  | none =>
    match ipv6Pieces? true text with
    | some pieces => if pieces.length = 8 then some pieces else none
    | none => none
  | some (front, back) =>
    match ipv6Pieces? false front, ipv6Pieces? true back with
    | some before, some after =>
      if before.length + after.length ≤ 7 then
        some (before ++ List.replicate (8 - before.length - after.length) 0 ++ after)
      else none
    | _, _ => none

/-- Number of zero pieces at the start. -/
def zeros (pieces : List Nat) : Nat := (pieces.takeWhile (· = 0)).length

/-- Where the longest run of zero pieces starts, and its length; the first of several. -/
def longestGap (pieces : List Nat) : Nat × Nat :=
  (List.range pieces.length).foldl (fun best i =>
    let length := zeros (pieces.drop i)
    if best.2 < length then (i, length) else best) (0, 0)

/-- Pieces with a colon between each two. -/
def ipv6Run (pieces : List Nat) : List Char := joinFields ':' (pieces.map (Nat.toDigits 16))

/-- An IPv6 address, with its longest run of two or more zero pieces left out. -/
def ipv6Chars (pieces : List Nat) : List Char :=
  let (start, length) := longestGap pieces
  if length < 2 then ipv6Run pieces
  else ipv6Run (pieces.take start) ++ [':', ':'] ++ ipv6Run (pieces.drop (start + length))

/-! ### Hosts -/

namespace Host

/-- The host as it stands in an address. -/
def chars : Host → List Char
  | .domain name => name.toList
  | .ipv4 address => ipv4Chars address
  | .ipv6 pieces => '[' :: ipv6Chars pieces ++ [']']

/-- An IPv6 address in brackets. -/
def ofBrackets (text : List Char) : Except UrlFault Host :=
  if text.getLast? = some ']' then
    match ipv6OfText? (text.drop 1).dropLast with
    | some pieces => .ok (.ipv6 pieces)
    | none => .error .invalidIpv6
  else .error .invalidIpv6

/-- The host of an address of the web. -/
def ofWeb (text : List Char) : Except UrlFault Host :=
  if text.head? = some '[' then ofBrackets text
  else
    match text? (Percent.decode (utf8 (String.ofList text))) with
    | none => .error .invalidDomain
    | some name =>
      match Domain.toAscii? name.toList with
      | none => .error .invalidDomain
      | some [] => .error .emptyHost
      | some ascii =>
        if endsInNumber ascii then (ipv4OfName ascii).map .ipv4
        else .ok (.domain (String.ofList ascii))

/-- A character that may not stand in any host. -/
def isForbidden (c : Char) : Bool :=
  c ∈ ['\x00', '\t', '\n', '\r', ' ', '#', '/', ':', '<', '>', '?', '@', '[', '\\', ']', '^', '|']

/-- The host of any other address. -/
def ofOther (text : List Char) : Except UrlFault Host :=
  if text.head? = some '[' then ofBrackets text
  else if text.any isForbidden then .error .forbiddenHostCharacter
  else .ok (.domain (String.ofList (Percent.encode Percent.isControl text)))

end Host

end FolderSync
