/-!
# Binary floating-point numbers

A finite binary64 number is a significand below `2 ^ 53` times a power of two.  `Binary64.ofRatio`
rounds a fraction to the nearest of them, a tie to the even significand; products and quotients are
the rounded exact ones.
-/

namespace FolderSync

/-- A number in the binary64 format; a finite one is `significand * 2 ^ exponent`. -/
inductive Binary64 where
  | finite (negative : Bool) (significand : Nat) (exponent : Int)
  | infinite (negative : Bool)
  | nan
deriving DecidableEq, Repr

namespace Binary64

/-- Least exponent of a finite number. -/
def minExponent : Int := -1074

/-- Greatest exponent of a finite number with a full significand. -/
def maxExponent : Int := 971

/-- A fraction divided by a power of two. -/
def scale (num den : Nat) (exponent : Int) : Nat × Nat :=
  if 0 ≤ exponent then (num, den * Nat.pow 2 exponent.toNat) else (num * Nat.pow 2 (-exponent).toNat, den)

/-- The integer nearest to a fraction, the even one of two. -/
def nearest (num den : Nat) : Nat :=
  let floor := num / den
  let twice := 2 * (num % den)
  if den < twice ∨ (twice = den ∧ floor % 2 = 1) then floor + 1 else floor

/-- The zero of a sign. -/
def zero (negative : Bool) : Binary64 := .finite negative 0 minExponent

/-- The exponent at which the floor of the scaled fraction has 53 bits, or the least exponent. -/
def exponentOf (num den : Nat) : Int :=
  let low : Int := (Nat.log2 num : Int) - Nat.log2 den - 53
  let (n, d) := scale num den low
  max (if Nat.pow 2 53 ≤ n / d then low + 1 else low) minExponent

/-- The number nearest to a fraction. -/
def ofRatio (negative : Bool) (num den : Nat) : Binary64 :=
  if num = 0 then zero negative
  else
    let exponent := exponentOf num den
    let (n, d) := scale num den exponent
    let rounded := nearest n d
    let (significand, exponent) :=
      if rounded = Nat.pow 2 53 then (Nat.pow 2 52, exponent + 1) else (rounded, exponent)
    if maxExponent < exponent then .infinite negative else .finite negative significand exponent

/-- The number nearest to a natural number. -/
def ofNat (n : Nat) : Binary64 := ofRatio false n 1

/-- The number nearest to `digits * 10 ^ exponent`. -/
def ofDecimal (negative : Bool) (digits : Nat) (exponent : Int) : Binary64 :=
  if digits = 0 then zero negative
  else
    -- `digits` lies between `10 ^ (size - 1)` and `10 ^ size`
    let size : Int := (Nat.toDigits 10 digits).length
    if 400 < size + exponent then .infinite negative
    else if size + exponent < -400 then zero negative
    else if 0 ≤ exponent then ofRatio negative (digits * Nat.pow 10 exponent.toNat) 1
    else ofRatio negative digits (Nat.pow 10 (-exponent).toNat)

/-- The number with the other sign. -/
def neg : Binary64 → Binary64
  | .finite negative m e => .finite (!negative) m e
  | .infinite negative => .infinite (!negative)
  | .nan => .nan

/-- Is the number a zero? -/
def isZero : Binary64 → Bool
  | .finite _ 0 _ => true
  | _ => false

/-- Is the number infinite? -/
def isInfinite : Binary64 → Bool
  | .infinite _ => true
  | _ => false

/-- The rounded fraction `num / den * 2 ^ exponent`. -/
def ofScaled (negative : Bool) (num den : Nat) (exponent : Int) : Binary64 :=
  if 0 ≤ exponent then ofRatio negative (num * Nat.pow 2 exponent.toNat) den
  else ofRatio negative num (den * Nat.pow 2 (-exponent).toNat)

/-- The rounded product of two finite numbers. -/
def mul : Binary64 → Binary64 → Binary64
  | .finite s m e, .finite t n f => ofScaled (s != t) (m * n) 1 (e + f)
  | _, _ => .nan

/-- The rounded quotient of two finite numbers. -/
def div : Binary64 → Binary64 → Binary64
  | .finite s m e, .finite t n f => if n = 0 then .nan else ofScaled (s != t) m n (e - f)
  | _, _ => .nan

end Binary64

end FolderSync
