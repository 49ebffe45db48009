import FolderSync.Decimal.Shortest

/-!
# How numbers are written

`Style.render` writes a binary number with the digits of its shortest decimal.  A style says which
numbers are written positionally and which with an exponent; a positional number always has a
point.
-/

namespace FolderSync.Decimal

/-- When a number is written with an exponent: if that of its first digit lies outside the bounds. -/
structure Style where
  lowest : Option Int := none
  highest : Option Int := none
deriving DecidableEq, Repr

/-- Every number is written positionally. -/
def Style.positional : Style := {}

/-- An exponent is written below the fifth place after the point and from `10 ^ 16` on. -/
def Style.compact : Style := ⟨some (-5), some 15⟩

/-- The decimal digits of a number. -/
def digitsOf (n : Nat) : List Char := Nat.toDigits 10 n

/-- An exponent with its sign. -/
def signed (e : Int) : List Char :=
  if 0 ≤ e then '+' :: digitsOf e.toNat else '-' :: digitsOf (-e).toNat

/-- Digits with the point after the first `whole` of them, filled up with zeros. -/
def pointed (digits : List Char) (whole : Int) : List Char :=
  if whole ≤ 0 then '0' :: '.' :: List.replicate (-whole).toNat '0' ++ digits
  else
    let front := digits.take whole.toNat
    let back := digits.drop whole.toNat
    front ++ List.replicate (whole.toNat - front.length) '0' ++ '.' ::
      (if back = [] then ['0'] else back)

/-- Is a number whose first digit has this exponent written positionally? -/
def Style.isPositional (style : Style) (exponent : Int) : Bool :=
  style.lowest.all (· ≤ exponent) && style.highest.all (exponent ≤ ·)

/-- A decimal in a style. -/
def Style.write (style : Style) (s : Scientific) : List Char :=
  let digits := digitsOf s.digits
  let exponent := s.exponent + digits.length - 1
  if style.isPositional exponent then pointed digits (exponent + 1)
  else
    match digits with
    | [only] => only :: 'e' :: signed exponent
    | first :: more => first :: '.' :: more ++ 'e' :: signed exponent
    | [] => []

/-- A binary number in a style. -/
def Style.render (style : Style) : Binary64 → String
  | .nan => "NaN"
  | .infinite negative => if negative then "-inf" else "inf"
  | .finite negative significand exponent =>
    let sign := if negative then ['-'] else []
    let body := if significand = 0 then ['0', '.', '0']
      else style.write (shortest significand exponent)
    String.ofList (sign ++ body)

end FolderSync.Decimal
