import FolderSync.Decimal.Binary64

/-!
# The shortest decimal of a binary number

A decimal *reads back* as a binary number if that number is the nearest to it.  `shortest` gives
the decimal with the fewest digits that reads back, and of those the nearest.  It tries one digit,
two digits and so on: of the decimals with that many digits only the two next to the number can be
nearest, and all is compared in whole numbers.
-/

namespace FolderSync.Decimal

/-- `digits * 10 ^ exponent`. -/
structure Scientific where
  digits : Nat
  exponent : Int
deriving DecidableEq, Repr

/-- A power with an exponent of either sign, as a fraction. -/
def power (base : Nat) (exponent : Int) : Nat × Nat :=
  if 0 ≤ exponent then (Nat.pow base exponent.toNat, 1) else (1, Nat.pow base (-exponent).toNat)

/-- The number `quarters * 2 ^ exponent` divided by `10 ^ place`, as a fraction. -/
def onGrid (quarters : Nat) (exponent place : Int) : Nat × Nat :=
  let (un, ud) := power 2 exponent
  let (gn, gd) := power 10 place
  (quarters * un * gd, ud * gn)

/-- The place of the first digit of `quarters * 2 ^ exponent`. -/
def firstPlace (quarters : Nat) (exponent : Int) : Int :=
  let guess := Int.fdiv ((Nat.log2 quarters + exponent) * 30103) 100000
  let reaches (place : Int) : Bool :=
    let (n, d) := onGrid quarters exponent place
    d ≤ n
  if reaches (guess + 1) then guess + 1 else if reaches guess then guess else guess - 1

/-- The decimal with its last digit at `place` that reads back as `significand * 2 ^ exponent`,
the nearer of two, the even one of two equally near. -/
def atPlace? (significand : Nat) (exponent place : Int) : Option Nat :=
  -- in units of a quarter of the last bit: the number and the bounds halfway to its neighbours
  let unit := exponent - 2
  let low := 4 * significand -
    (if significand = Nat.pow 2 52 ∧ Binary64.minExponent < exponent then 1 else 2)
  let closed := significand % 2 = 0
  let inside (candidate : Nat) : Bool :=
    let (ln, ld) := onGrid low unit place
    let (hn, hd) := onGrid (4 * significand + 2) unit place
    if closed then ln ≤ candidate * ld && candidate * hd ≤ hn
    else ln < candidate * ld && candidate * hd < hn
  let (n, d) := onGrid (4 * significand) unit place
  let below := n / d
  match inside below, inside (below + 1) with
  | true, true =>
    let twice := 2 * (n % d)
    if d < twice ∨ (twice = d ∧ below % 2 = 1) then some (below + 1) else some below
  | true, false => some below
  | false, true => some (below + 1)
  | false, false => none

/-- The first hit when the last digit moves from `place` downwards. -/
def searchFrom (significand : Nat) (exponent place : Int) : Nat → Scientific
  | 0 => ⟨significand, exponent⟩
  | tries + 1 =>
    match atPlace? significand exponent place with
    | some 0 | none => searchFrom significand exponent (place - 1) tries
    | some digits => ⟨digits, place⟩

/-- Takes zeros from the end of the digits, at most as many as there are digits. -/
def dropZeros (s : Scientific) : Nat → Scientific
  | 0 => s
  | more + 1 =>
    if s.digits % 10 = 0 ∧ s.digits ≠ 0 then dropZeros ⟨s.digits / 10, s.exponent + 1⟩ more else s

/-- The shortest decimal of a positive binary number; seventeen digits always read back. -/
def shortest (significand : Nat) (exponent : Int) : Scientific :=
  dropZeros (searchFrom significand exponent (firstPlace (4 * significand) (exponent - 2)) 18) 18

end FolderSync.Decimal
