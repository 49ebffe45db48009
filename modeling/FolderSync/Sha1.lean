import FolderSync.Bytes

/-!
# SHA-1

`Sha1.digest m` is the digest of a message as the standard defines it: pad the message to whole
blocks of 64 bytes, compress the blocks in order, write the five words of the last state.

`Sha1.Stream` is the digest of a message that arrives in pieces.  It holds the state after the
whole blocks, the bytes of the block in hand and the number of bytes so far; `Stream.update_append`
says that the pieces do not matter.
-/

namespace FolderSync.Sha1

/-- Five 32-bit words, the chaining value between blocks. -/
structure State where
  a : UInt32
  b : UInt32
  c : UInt32
  d : UInt32
  e : UInt32
deriving DecidableEq, Repr

/-- The chaining value before the first block. -/
def State.initial : State :=
  ⟨0x67452301, 0xEFCDAB89, 0x98BADCFE, 0x10325476, 0xC3D2E1F0⟩

/-- Rotation to the left. -/
def rotate (x : UInt32) (n : UInt32) : UInt32 := (x <<< n) ||| (x >>> (32 - n))

/-! ### The message schedule -/

/-- The four bytes of a word, most significant first. -/
def word (p q r s : UInt8) : UInt32 :=
  (p.toUInt32 <<< 24) ||| (q.toUInt32 <<< 16) ||| (r.toUInt32 <<< 8) ||| s.toUInt32

/-- The words of a block. -/
def words : Bytes → List UInt32
  | p :: q :: r :: s :: rest => word p q r s :: words rest
  | _ => []

/-- The schedule word after those of `recent`, the latest of which stands first. -/
def nextWord (recent : List UInt32) : UInt32 :=
  let back (n : Nat) := recent.getD (n - 1) 0
  rotate (back 3 ^^^ back 8 ^^^ back 14 ^^^ back 16) 1

/-- The schedule after `n` more words, latest first. -/
def extend : Nat → List UInt32 → List UInt32
  | 0, recent => recent
  | n + 1, recent => extend n (nextWord recent :: recent)

/-- The eighty words that a block gives to the rounds. -/
def schedule (block : Bytes) : List UInt32 := (extend 64 (words block).reverse).reverse

/-! ### Compression -/

/-- The mixing function and the constant of round `t`. -/
def mix (t : Nat) (b c d : UInt32) : UInt32 × UInt32 :=
  if t < 20 then ((b &&& c) ||| (~~~b &&& d), 0x5A827999)
  else if t < 40 then (b ^^^ c ^^^ d, 0x6ED9EBA1)
  else if t < 60 then ((b &&& c) ||| (b &&& d) ||| (c &&& d), 0x8F1BBCDC)
  else (b ^^^ c ^^^ d, 0xCA62C1D6)

/-- One round, with its schedule word and its number. -/
def round (s : State) (step : UInt32 × Nat) : State :=
  let (f, k) := mix step.2 s.b s.c s.d
  ⟨rotate s.a 5 + f + s.e + k + step.1, s.a, rotate s.b 30, s.c, s.d⟩

/-- The chaining value after a block. -/
def compress (s : State) (block : Bytes) : State :=
  let t := (schedule block).zipIdx.foldl round s
  ⟨s.a + t.a, s.b + t.b, s.c + t.c, s.d + t.d, s.e + t.e⟩

/-! ### The digest of a whole message -/

/-- The `size` low bytes of a number, most significant first. -/
def bigEndian (size n : Nat) : Bytes :=
  (List.range size).map fun i => UInt8.ofNat (n / Nat.pow 256 (size - 1 - i))

/-- Number of zero bytes between the end mark and the length. -/
def zeros (length : Nat) : Nat := (119 - length % 64) % 64

/-- What is written after a message of `length` bytes: the end mark, zeros up to eight bytes
before the end of a block, and the length in bits. -/
def padding (length : Nat) : Bytes :=
  0x80 :: (List.replicate (zeros length) 0 ++ bigEndian 8 (8 * length))

/-- The blocks of 64 bytes, in order. -/
def blocks : Bytes → List Bytes
  | [] => []
  | b :: rest => (b :: rest.take 63) :: blocks (rest.drop 63)
termination_by m => m.length
decreasing_by simp only [List.length_drop, List.length_cons]; omega

/-- The twenty bytes of a state. -/
def State.bytes (s : State) : Bytes :=
  [s.a, s.b, s.c, s.d, s.e].flatMap fun w => bigEndian 4 w.toNat

@[simp] theorem length_bigEndian (size n : Nat) : (bigEndian size n).length = size := by
  simp [bigEndian]

@[simp] theorem State.length_bytes (s : State) : s.bytes.length = 20 := by
  simp [State.bytes]

/-- The digest of a message. -/
def digest (message : Bytes) : Bytes :=
  ((blocks (message ++ padding message.length)).foldl compress .initial).bytes

/-! ### The digest of a message in pieces -/

/-- The state of a digest in progress: the chaining value after the whole blocks, the bytes of
the block in hand (latest first) with their number, and the number of bytes so far. -/
structure Stream where
  state : State := .initial
  pending : Bytes := []
  held : Nat := 0
  length : Nat := 0
deriving DecidableEq, Repr

/-- One more byte; the sixty-fourth closes a block. -/
def Stream.push (s : Stream) (b : UInt8) : Stream :=
  if s.held = 63 then
    ⟨compress s.state (b :: s.pending).reverse, [], 0, s.length + 1⟩
  else
    ⟨s.state, b :: s.pending, s.held + 1, s.length + 1⟩

/-- The bytes of one more piece. -/
def Stream.update (s : Stream) (piece : Bytes) : Stream := piece.foldl push s

/-- The digest of all bytes so far. -/
def Stream.finish (s : Stream) : Bytes :=
  (s.update (padding s.length)).state.bytes

@[simp] theorem Stream.update_nil (s : Stream) : s.update [] = s := rfl

/-- Two pieces are one. -/
theorem Stream.update_append (s : Stream) (p q : Bytes) :
    s.update (p ++ q) = (s.update p).update q := by
  simp [Stream.update]

@[simp] theorem Stream.length_finish (s : Stream) : s.finish.length = 20 := by
  simp [Stream.finish]

@[simp] theorem length_digest (message : Bytes) : (digest message).length = 20 := by
  simp [digest]

end FolderSync.Sha1
