/-!
# Bytes and text

File contents, message bodies and file names are finite sequences of bytes.

`utf8 s` is the UTF-8 encoding of the text `s`; `text? b` reads it back and refuses malformed
bytes (`text?_utf8`, `eq_utf8_of_text?`).  `byteLt` is the order of texts by their encodings, the
order in which every list of names is kept.  `lossyText` shows malformed bytes as U+FFFD.
-/

namespace FolderSync

/-- A finite sequence of bytes. -/
abbrev Bytes := List UInt8

/-- The UTF-8 encoding of a text. -/
def utf8 (s : String) : Bytes := s.toByteArray.data.toList

/-- The text that the bytes encode, if they are well-formed UTF-8. -/
def text? (b : Bytes) : Option String := String.fromUTF8? ⟨b.toArray⟩

/-- Number of bytes of the encoding. -/
def byteLength (s : String) : Nat := s.utf8ByteSize

/-- The order of texts by their encodings, byte by byte. -/
def byteLt (s t : String) : Prop := utf8 s < utf8 t

instance (s t : String) : Decidable (byteLt s t) := inferInstanceAs (Decidable (utf8 s < utf8 t))

@[simp] theorem text?_utf8 (s : String) : text? (utf8 s) = some s := by
  simp [text?, utf8, String.fromUTF8?, s.isValidUTF8, String.fromUTF8]

/-- Only the encoding of a text reads back as that text. -/
theorem eq_utf8_of_text? {b : Bytes} {s : String} (h : text? b = some s) : b = utf8 s := by
  unfold text? String.fromUTF8? at h
  split at h
  · obtain rfl := Option.some.inj h
    rfl
  · cases h

theorem utf8_injective {s t : String} (h : utf8 s = utf8 t) : s = t := by
  have := congrArg text? h
  simpa using this

/-- The length of the encoding is the byte length of the text. -/
theorem length_utf8 (s : String) : (utf8 s).length = byteLength s := by
  simp only [utf8, byteLength, String.utf8ByteSize, Array.length_toList]
  rfl

theorem utf8_append (s t : String) : utf8 (s ++ t) = utf8 s ++ utf8 t := by
  simp [utf8, String.toByteArray_append]

/-! ### One encoded character -/

/-- What stands at the head of a byte sequence: a character and the bytes it takes, or the number
of bytes that cannot begin one. -/
inductive Head
  | char (c : Char) (size : Nat)
  | malformed (size : Nat)

/-- Is the byte a continuation byte? -/
def isTail (b : UInt8) : Bool := 0x80 ≤ b && b ≤ 0xBF

/-- The payload of a continuation byte. -/
def tailBits (b : UInt8) : Nat := b.toNat % 64

/-- The range of the second byte after a first byte of a longer character: overlong forms,
surrogates and values above U+10FFFF leave a smaller one. -/
def secondRange (first : UInt8) : UInt8 × UInt8 :=
  if first = 0xE0 then (0xA0, 0xBF)
  else if first = 0xED then (0x80, 0x9F)
  else if first = 0xF0 then (0x90, 0xBF)
  else if first = 0xF4 then (0x80, 0x8F)
  else (0x80, 0xBF)

/-- The character at the head of `first :: rest`; a malformed head is the longest start of a
character that the bytes hold, and at least one byte. -/
def head (first : UInt8) (rest : Bytes) : Head :=
  let (low, high) := secondRange first
  let second (b : UInt8) : Bool := low ≤ b && b ≤ high
  if first < 0x80 then .char (Char.ofNat first.toNat) 1
  else if 0xC2 ≤ first && first ≤ 0xDF then
    match rest with
    | b :: _ =>
      if second b then .char (Char.ofNat (first.toNat % 32 * 64 + tailBits b)) 2 else .malformed 1
    | [] => .malformed 1
  else if 0xE0 ≤ first && first ≤ 0xEF then
    match rest with
    | b :: c :: _ =>
      if !second b then .malformed 1
      else if !isTail c then .malformed 2
      else .char (Char.ofNat ((first.toNat % 16 * 64 + tailBits b) * 64 + tailBits c)) 3
    | b :: [] => if second b then .malformed 2 else .malformed 1
    | [] => .malformed 1
  else if 0xF0 ≤ first && first ≤ 0xF4 then
    match rest with
    | b :: c :: d :: _ =>
      if !second b then .malformed 1
      else if !isTail c then .malformed 2
      else if !isTail d then .malformed 3
      else .char (Char.ofNat
        (((first.toNat % 8 * 64 + tailBits b) * 64 + tailBits c) * 64 + tailBits d)) 4
    | b :: c :: [] =>
      if !second b then .malformed 1 else if !isTail c then .malformed 2 else .malformed 3
    | b :: [] => if second b then .malformed 2 else .malformed 1
    | [] => .malformed 1
  else .malformed 1

/-- The text with each malformed run shown as U+FFFD. -/
def lossyChars : Bytes → List Char
  | [] => []
  | b :: rest =>
    match head b rest with
    | .char c size => c :: lossyChars (rest.drop (size - 1))
    | .malformed size => Char.ofNat 0xFFFD :: lossyChars (rest.drop (size - 1))
termination_by b => b.length
decreasing_by all_goals (simp only [List.length_drop, List.length_cons]; omega)

/-- The text that is shown for a name that need not be text. -/
def lossyText (b : Bytes) : String := String.ofList (lossyChars b)

/-- Number of bytes before the first malformed one. -/
def wellFormedLength : Bytes → Nat
  | [] => 0
  | b :: rest =>
    match head b rest with
    | .char _ size => size + wellFormedLength (rest.drop (size - 1))
    | .malformed _ => 0
termination_by b => b.length
decreasing_by all_goals (simp only [List.length_drop, List.length_cons]; omega)

end FolderSync
