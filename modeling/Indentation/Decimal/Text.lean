import Indentation.Decimal.Shortest

/-!
# The text of a number

A double is written with the fewest digits that read back. Where the decimal point is neither far to
the left nor far to the right of the digits, the number is written out with at least one place
behind the point; otherwise it has an exponent. What counts as far, and how the special values are
spelled, is a matter of style.
-/

namespace Indentation.Decimal

/-- How numbers are written. -/
structure Style where
  /-- The least exponent of ten of the first digit for which a number is written out. -/
  leastPlain : Int
  /-- The greatest exponent of ten of the first digit for which a number is written out. -/
  greatestPlain : Int
  /-- The least number of digits of an exponent. -/
  exponentDigits : Nat
  notANumber : String
  infinity : String
  deriving Repr

/-- Digits with a point behind the first `n` of them, and zeros where there are no digits. -/
def placePoint (digits : List Char) (n : Int) : List Char :=
  if n ≤ 0 then '0' :: '.' :: (List.replicate (-n).toNat '0' ++ digits)
  else
    let whole := digits.take n.toNat ++ List.replicate (n.toNat - digits.length) '0'
    let places := digits.drop n.toNat
    whole ++ '.' :: (if places.isEmpty then ['0'] else places)

/-- The digits of an exponent, with leading zeros up to the least number of digits. -/
def Style.exponentText (style : Style) (n : Int) : List Char :=
  let digits := Nat.toDigits 10 n.natAbs
  (if n < 0 then '-' else '+') ::
    (List.replicate (style.exponentDigits - digits.length) '0' ++ digits)

/-- The text of a positive decimal number. -/
def Style.magnitudeText (style : Style) (s : Shortest) : List Char :=
  let digits := Nat.toDigits 10 s.digits
  let first := digits.length + s.exponent - 1
  if style.leastPlain ≤ first ∧ first ≤ style.greatestPlain then placePoint digits (first + 1)
  else
    let mantissa := match digits with
      | d :: e :: rest => d :: '.' :: e :: rest
      | ds => ds
    mantissa ++ 'e' :: style.exponentText first

/-- The text of a double. -/
def Style.text (style : Style) (x : Float) : List Char :=
  let negative := x.toBits.toNat / Nat.pow 2 63 == 1
  let b := Binary.ofFloat x
  let magnitude :=
    if x.isNaN then style.notANumber.toList
    else if x.isInf then style.infinity.toList
    else if b.mantissa = 0 then ['0', '.', '0']
    else style.magnitudeText (shortest b)
  if negative && !x.isNaN then '-' :: magnitude else magnitude

end Indentation.Decimal
