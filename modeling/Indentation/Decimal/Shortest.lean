import Indentation.Decimal.Binary

/-!
# The shortest decimal number that reads back

Every double is the nearest one to all reals of some interval around it, whose ends belong to it if
the mantissa is even. Among the decimal numbers in that interval those with the fewest digits are
preferred, and of these the nearest to the double.

The decimal numbers of `k` digits lie on a grid. If any of them is in the interval, then so is one
of the two grid points next to the double, so that two candidates are enough for each `k`, and
seventeen digits always suffice.
-/

namespace Indentation.Decimal

/-- The number `digits · 10^exponent`. -/
structure Shortest where
  digits : Nat
  exponent : Int
  deriving DecidableEq, Repr

/-- A real number and the ends of an interval around it, all over one denominator. -/
structure Interval where
  low : Nat
  point : Nat
  high : Nat
  denominator : Nat
  /-- Whether the ends belong to the interval. -/
  closed : Bool
  deriving DecidableEq, Repr

/-- The interval of the reals whose nearest double is `b`. Below a power of two the doubles are half
as far apart as above it. -/
def Binary.interval (b : Binary) : Interval :=
  let below := if b.mantissa = hidden ∧ leastExponent < b.exponent then 1 else 2
  let low := 4 * b.mantissa - below
  let point := 4 * b.mantissa
  let high := 4 * b.mantissa + 2
  let q := b.exponent - 2
  let closed := b.mantissa % 2 == 0
  if 0 ≤ q then
    let scale := Nat.pow 2 q.toNat
    ⟨low * scale, point * scale, high * scale, 1, closed⟩
  else ⟨low, point, high, Nat.pow 2 (-q).toNat, closed⟩

/-- The interval in units of `10^exponent`. -/
def Interval.scale (i : Interval) (exponent : Int) : Interval :=
  if 0 ≤ exponent then { i with denominator := i.denominator * Nat.pow 10 exponent.toNat }
  else
    let factor := Nat.pow 10 (-exponent).toNat
    { i with low := i.low * factor, point := i.point * factor, high := i.high * factor }

/-- Whether a natural number lies in the interval. -/
def Interval.contains (i : Interval) (n : Nat) : Bool :=
  let x := n * i.denominator
  if i.closed then i.low ≤ x && x ≤ i.high else i.low < x && x < i.high

/-- The natural number in the interval that is next to its point. -/
def Interval.nearestInside? (i : Interval) : Option Nat :=
  let down := i.point / i.denominator
  let up := down + 1
  match i.contains down, i.contains up with
  | true, true =>
    let rest := 2 * (i.point % i.denominator)
    some (if rest < i.denominator ∨ (rest = i.denominator ∧ down % 2 = 0) then down else up)
  | true, false => some down
  | false, true => some up
  | false, false => none

/-- The number of digits before the decimal point of the interval's point; zero or negative where
the number is below one. -/
def Interval.magnitude (i : Interval) : Int :=
  let digits (n : Nat) : Int := (Nat.toDigits 10 n).length
  let estimate := digits i.point - digits i.denominator
  let s := i.scale estimate
  if s.point < s.denominator then estimate else estimate + 1

/-- Moves zeros at the end of the digits into the exponent. -/
def Shortest.normalize (fuel : Nat) (s : Shortest) : Shortest :=
  match fuel with
  | 0 => s
  | fuel + 1 =>
    if s.digits % 10 = 0 then normalize fuel ⟨s.digits / 10, s.exponent + 1⟩ else s

/-- The greatest number of digits that a double needs. -/
def maxDigits : Nat := 17

/-- The shortest decimal number that reads back as `b`, which is not zero. -/
def shortest (b : Binary) : Shortest :=
  let i := b.interval
  let magnitude := i.magnitude
  let candidate (k : Nat) : Option Shortest :=
    let exponent := magnitude - ((k + 1 : Nat) : Int)
    (i.scale exponent).nearestInside?.map fun n => ⟨n, exponent⟩
  match (List.range maxDigits).findSome? candidate with
  | some s => s.normalize (maxDigits + 1)
  | none => ⟨i.point / i.denominator, 0⟩

end Indentation.Decimal
