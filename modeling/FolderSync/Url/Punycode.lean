import FolderSync.Bytes

/-!
# Punycode

A label of a domain name that holds characters beyond ASCII is written in ASCII: first its ASCII
characters, then, behind a hyphen, a number for each of the others in increasing order, which says
how far to go on from the one before.  The numbers are written in base 36 with a threshold for each
digit, which adapts to the numbers written so far.
-/

namespace FolderSync.Punycode

/-- The character of a digit. -/
def digitChar (d : Nat) : Char := if d < 26 then Char.ofNat (97 + d) else Char.ofNat (22 + d)

/-- The digit that a character stands for. -/
def digit? (c : Char) : Option Nat :=
  let n := c.toNat
  if 97 ≤ n ∧ n ≤ 122 then some (n - 97)
  else if 65 ≤ n ∧ n ≤ 90 then some (n - 65)
  else if 48 ≤ n ∧ n ≤ 57 then some (n - 48 + 26)
  else none

/-- The threshold of the digit at a place: 1 at first, 26 at last. -/
def threshold (place bias : Nat) : Nat := max 1 (min 26 (place - bias))

theorem threshold_pos (place bias : Nat) : 1 ≤ threshold place bias := by
  unfold threshold
  omega

/-- Divides by 35 until at most 455 is left, and counts 36 for each division. -/
def shrink (delta count : Nat) : Nat × Nat :=
  if 455 < delta then shrink (delta / 35) (count + 36) else (delta, count)
termination_by delta
decreasing_by omega

/-- The bias after a number: the larger the number, the larger the bias. -/
def adapt (delta size : Nat) (isFirst : Bool) : Nat :=
  let delta := if isFirst then delta / 700 else delta / 2
  let (rest, count) := shrink (delta + delta / size) 0
  count + 36 * rest / (rest + 38)

/-! ### Writing -/

/-- The digits of a number from a place on. -/
def digits (bias place n : Nat) : List Char :=
  let t := threshold place bias
  if n < t then [digitChar n]
  else digitChar (t + (n - t) % (36 - t)) :: digits bias (place + 36) ((n - t) / (36 - t))
termination_by n
decreasing_by
  have h1 := threshold_pos place bias
  calc (n - threshold place bias) / (36 - threshold place bias)
      ≤ n - threshold place bias := Nat.div_le_self _ _
    _ < n := by omega

/-- What has been written, the distance to the next character, the bias, and how many characters
have been written. -/
structure Writer where
  out : List Char := []
  delta : Nat := 0
  bias : Nat := 72
  size : Nat

/-- Passes one character of the label when `value` is due. -/
def Writer.pass (basic value : Nat) (w : Writer) (c : Char) : Writer :=
  if c.toNat < value then { w with delta := w.delta + 1 }
  else if c.toNat = value then
    { out := w.out ++ digits w.bias 36 w.delta
      delta := 0
      bias := adapt w.delta (w.size + 1) (w.size = basic)
      size := w.size + 1 }
  else w

/-- Passes the whole label once for each value, in increasing order. -/
def Writer.run (label : List Char) (basic : Nat) : List Nat → Nat → Writer → Writer
  | [], _, w => w
  | value :: more, from_, w =>
    let w := { w with delta := w.delta + (value - from_) * (w.size + 1) }
    let w := label.foldl (Writer.pass basic value) w
    Writer.run label basic more (value + 1) { w with delta := w.delta + 1 }

/-- The values beyond ASCII, each once, in increasing order. -/
def valuesBeyond (label : List Char) : List Nat :=
  let values := (label.map Char.toNat).filter (128 ≤ ·)
  (values.mergeSort (· ≤ ·)).eraseDups

/-- The ASCII form of a label. -/
def encode (label : List Char) : List Char :=
  let basic := label.filter fun c => c.toNat < 128
  let w := Writer.run label basic.length (valuesBeyond label) 128 { size := basic.length }
  basic ++ (if basic = [] then [] else ['-']) ++ w.out

/-! ### Reading -/

/-- Reads a number: the sum so far, the weight of the digit at a place, and what follows. -/
def number? (bias : Nat) : (place weight sum : Nat) → List Char → Option (Nat × List Char)
  | _, _, _, [] => none
  | place, weight, sum, c :: rest =>
    match digit? c with
    | none => none
    | some d =>
      let sum := sum + d * weight
      if d < threshold place bias then some (sum, rest)
      else number? bias (place + 36) (weight * (36 - threshold place bias)) sum rest

/-- Reads the numbers one after the other and puts the character of each into its place; each step
takes at least one digit. -/
def insertAll (label : List Char) (value position bias : Nat) :
    (steps : Nat) → List Char → Option (List Char)
  | _, [] => some label
  | 0, _ => none
  | steps + 1, text =>
    match number? bias 36 1 0 text with
    | none => none
    | some (n, rest) =>
      let size := label.length + 1
      let position' := position + n
      let value := value + position' / size
      let place := position' % size
      if value < 128 ∨ ¬ value.isValidChar then none
      else
        insertAll (label.take place ++ Char.ofNat value :: label.drop place) value (place + 1)
          (adapt n size (position = 0)) steps rest

/-- The label whose ASCII form is given.  Its last hyphen, if there is one, stands behind the ASCII
characters, of which there is at least one. -/
def decode? (text : List Char) : Option (List Char) :=
  let tail := (text.reverse.takeWhile (· ≠ '-')).reverse
  let basic := text.take (text.length - tail.length - 1)
  if text.any fun c => 128 ≤ c.toNat then none
  else if '-' ∈ text ∧ basic = [] then none
  else insertAll basic 128 0 72 tail.length tail

end FolderSync.Punycode
