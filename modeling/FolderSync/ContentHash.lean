import FolderSync.Sha1

/-!
# Content hashes

Artifacts are addressed by the SHA-1 of their bytes, written as forty lowercase hexadecimal digits.

`ContentHash` is that text with its form; `ContentHash.of` is the hash of a content,
`ContentHash.parse?` reads a hash in either letter case, `ContentHash.ofReads` is the hash of what
a reader delivers.
-/

namespace FolderSync

/-! ### Hexadecimal digits -/

/-- Is the character one of `0`-`9` and `a`-`f`? -/
def isLowerHex (c : Char) : Bool := ('0' ≤ c && c ≤ '9') || ('a' ≤ c && c ≤ 'f')

/-- Is the character a hexadecimal digit of either case? -/
def isHexDigit (c : Char) : Bool := isLowerHex c || ('A' ≤ c && c ≤ 'F')

/-- The digit of a value below sixteen. -/
def hexDigit (n : Nat) : Char :=
  if n < 10 then Char.ofNat ('0'.toNat + n) else Char.ofNat ('a'.toNat + (n - 10))

/-- The value of a hexadecimal digit. -/
def hexValue (c : Char) : Nat :=
  if c ≤ '9' then c.toNat - '0'.toNat
  else if c ≤ 'F' then c.toNat - 'A'.toNat + 10
  else c.toNat - 'a'.toNat + 10

/-- The two digits of a byte. -/
def byteDigits (b : UInt8) : List Char := [hexDigit (b.toNat / 16), hexDigit (b.toNat % 16)]

theorem isLowerHex_hexDigit {n : Nat} (h : n < 16) : isLowerHex (hexDigit n) = true := by
  have : ∀ k : Fin 16, isLowerHex (hexDigit k) = true := by decide
  exact this ⟨n, h⟩

theorem isLowerHex_of_mem_byteDigits {b : UInt8} {c : Char} (h : c ∈ byteDigits b) :
    isLowerHex c = true := by
  have hb := b.toNat_lt
  rcases List.mem_cons.1 h with rfl | h
  · exact isLowerHex_hexDigit (by omega)
  · obtain rfl := List.mem_singleton.1 h
    exact isLowerHex_hexDigit (by omega)

theorem toNat_lt_of_isHexDigit {c : Char} (h : isHexDigit c = true) : c.toNat < 128 := by
  have hle : ∀ d : Char, c ≤ d → c.toNat ≤ d.toNat := fun d hd => UInt32.le_iff_toNat_le.1 hd
  simp only [isHexDigit, isLowerHex, Bool.or_eq_true, Bool.and_eq_true, decide_eq_true_eq] at h
  rcases h with (⟨-, h⟩ | ⟨-, h⟩) | ⟨-, h⟩ <;>
    exact Nat.lt_of_le_of_lt (hle _ h) (by decide)

theorem isLowerHex_toLower {c : Char} (h : isHexDigit c = true) : isLowerHex c.toLower = true := by
  have all : ∀ n : Fin 128, isHexDigit (Char.ofNat n) = true →
      isLowerHex (Char.ofNat n).toLower = true := by decide
  have := all ⟨c.toNat, toNat_lt_of_isHexDigit h⟩
  simp only [Char.ofNat_toNat] at this
  exact this h

/-! ### The type -/

/-- The lowercase hexadecimal form of a SHA-1 digest. -/
structure ContentHash where
  hex : String
  length_hex : hex.toList.length = 40
  isLowerHex_hex : ∀ c ∈ hex.toList, isLowerHex c = true
deriving DecidableEq

namespace ContentHash

@[ext] theorem ext {a b : ContentHash} (h : a.hex = b.hex) : a = b := by
  cases a
  cases b
  simpa using h

theorem length_flatMap_byteDigits (bytes : Bytes) :
    (bytes.flatMap byteDigits).length = 2 * bytes.length := by
  induction bytes with
  | nil => rfl
  | cons b rest ih =>
    simp only [List.flatMap_cons, List.length_append, ih, List.length_cons]
    simp only [byteDigits, List.length_cons, List.length_nil]
    omega

/-- The hash with the given digest. -/
def ofDigest (digest : Bytes) (h : digest.length = 20) : ContentHash where
  hex := String.ofList (digest.flatMap byteDigits)
  length_hex := by rw [String.toList_ofList, length_flatMap_byteDigits, h]
  isLowerHex_hex c hc := by
    rw [String.toList_ofList, List.mem_flatMap] at hc
    obtain ⟨b, _, hb⟩ := hc
    exact isLowerHex_of_mem_byteDigits hb

/-- The hash of a content. -/
def of (content : Bytes) : ContentHash := ofDigest (Sha1.digest content) (Sha1.length_digest _)

/-- The hash of the pieces that a stream has taken. -/
def ofStream (s : Sha1.Stream) : ContentHash := ofDigest s.finish s.length_finish

/-- Reads forty hexadecimal digits of either case, and nothing else. -/
def parse? (text : String) : Option ContentHash :=
  if h : text.toList.length = 40 ∧ text.toList.all isHexDigit = true then
    some {
      hex := String.ofList (text.toList.map Char.toLower)
      length_hex := by simp only [String.toList_ofList, List.length_map, h.1]
      isLowerHex_hex := by
        intro c hc
        rw [String.toList_ofList, List.mem_map] at hc
        obtain ⟨d, hd, rfl⟩ := hc
        exact isLowerHex_toLower (List.all_eq_true.1 h.2 d hd) }
  else none

/-- Hashes are ordered as texts. -/
def compare (a b : ContentHash) : Ordering := compareOfLessAndEq a.hex b.hex

/-! ### Hashing what a reader delivers -/

end ContentHash

/-- What one call of a reader gives: bytes (none at the end), an interruption, or a failure. -/
inductive Read (ε : Type) where
  | data (bytes : Bytes)
  | interrupted
  | failed (cause : ε)
deriving DecidableEq, Repr

/-- Readers fill a buffer of this many bytes at most. -/
def bufferSize : Nat := 8192

/-- The pieces of at most `size + 1` bytes that make up a content. -/
def pieces (size : Nat) : Bytes → List Bytes
  | [] => []
  | b :: rest => (b :: rest.take size) :: pieces size (rest.drop size)
termination_by b => b.length
decreasing_by simp only [List.length_drop, List.length_cons]; omega

/-- The reads that deliver a content through the buffer. -/
def readsOf (content : Bytes) : List (Read ε) := (pieces (bufferSize - 1) content).map .data

namespace ContentHash

/-- The hash of what the reads deliver, in a stream that has taken earlier pieces: an interruption
is tried again, a failure ends with its cause, an empty read is the end. -/
def resume (s : Sha1.Stream) : List (Read ε) → Except ε ContentHash
  | [] => .ok (ofStream s)
  | .data [] :: _ => .ok (ofStream s)
  | .data (b :: piece) :: rest => resume (s.update (b :: piece)) rest
  | .interrupted :: rest => resume s rest
  | .failed cause :: _ => .error cause

/-- The hash of everything that a reader delivers. -/
def ofReads (reads : List (Read ε)) : Except ε ContentHash := resume {} reads

end ContentHash

end FolderSync
