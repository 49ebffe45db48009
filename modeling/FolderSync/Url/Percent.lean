import FolderSync.ContentHash

/-!
# Percent encoding

A character that may not stand in a part of an address is written as its bytes, each as `%` and two
hexadecimal digits.  Each part of an address has its own set of such characters; beyond ASCII all
are encoded.
-/

namespace FolderSync.Percent

/-- A control character. -/
def isControl (c : Char) : Bool := c.toNat < 32 || c.toNat = 127

/-- What is encoded behind a `#`. -/
def inFragmentSet (c : Char) : Bool := isControl c || c ∈ [' ', '"', '<', '>', '\x60']

/-- What is encoded in a path. -/
def inPathSet (c : Char) : Bool := inFragmentSet c || c ∈ ['#', '?', '\x7b', '\x7d']

/-- What is encoded in a user's name and password. -/
def inUserSet (c : Char) : Bool :=
  inPathSet c || c ∈ ['/', ':', ';', '=', '@', '[', '\\', ']', '^', '|']

/-- What is encoded behind a `?`. -/
def inQuerySet (c : Char) : Bool := isControl c || c ∈ [' ', '"', '#', '<', '>']

/-- What is encoded behind a `?` in an address of the web. -/
def inWebQuerySet (c : Char) : Bool := inQuerySet c || c = '\''

/-- A byte in percent form. -/
def encodeByte (b : UInt8) : List Char := '%' :: (byteDigits b).map Char.toUpper

/-- A character as it stands in a part of an address. -/
def encodeChar (inSet : Char → Bool) (c : Char) : List Char :=
  if 128 ≤ c.toNat ∨ inSet c = true then (utf8 (String.ofList [c])).flatMap encodeByte else [c]

/-- A text as it stands in a part of an address. -/
def encode (inSet : Char → Bool) (text : List Char) : List Char := text.flatMap (encodeChar inSet)

/-- The value of a byte that is a hexadecimal digit. -/
def digit? (b : UInt8) : Option UInt8 :=
  if isHexDigit (Char.ofNat b.toNat) then some (hexValue (Char.ofNat b.toNat)).toUInt8 else none

/-- The bytes behind their percent forms; a `%` without two digits stands for itself. -/
def decode : Bytes → Bytes
  | [] => []
  | 37 :: a :: b :: rest =>
    match digit? a, digit? b with
    | some high, some low => (high * 16 + low) :: decode rest
    | _, _ => 37 :: decode (a :: b :: rest)
  | b :: rest => b :: decode rest

end FolderSync.Percent
