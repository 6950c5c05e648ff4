/-!
# Binary numbers

A finite double-precision number is `m · 2^q` with a natural number `m` of at most 53 bits and an
exponent `q` of at least `-1074`. Here doubles are taken apart into that form, and the double
nearest to a decimal number is found. All arithmetic is on natural numbers and exact.

## Main statements

* `nearestBits_zero` — zero is read as the double zero
* `roundHalfEven_of_dvd` — a quotient without remainder is not rounded
-/

namespace Indentation.Decimal

/-- The magnitude `mantissa · 2^exponent` of a finite double. -/
structure Binary where
  mantissa : Nat
  exponent : Int
  deriving DecidableEq, Repr

namespace Binary

/-- Two to the number of bits of a mantissa below the leading one. -/
def hidden : Nat := Nat.pow 2 52

/-- The least exponent, that of the numbers too small for a leading one. -/
def leastExponent : Int := -1074

/-- The bits of infinity. -/
def infinityBits : Nat := 0x7FF * hidden

/-- The magnitude of a finite double. -/
def ofFloat (x : Float) : Binary :=
  let bits := x.toBits.toNat % Nat.pow 2 63
  let field := bits / hidden
  if field = 0 then ⟨bits, leastExponent⟩
  else ⟨bits % hidden + hidden, leastExponent + (field - 1 : Nat)⟩

/-- Whether a magnitude is a natural number. -/
def isNatural (b : Binary) : Bool :=
  0 ≤ b.exponent || b.mantissa % Nat.pow 2 (-b.exponent).toNat == 0

/-- The integral part of a magnitude. -/
def floor (b : Binary) : Nat :=
  if 0 ≤ b.exponent then b.mantissa * Nat.pow 2 b.exponent.toNat
  else b.mantissa / Nat.pow 2 (-b.exponent).toNat

end Binary

/-- The integer that a double is, if it is one. -/
def integer? (x : Float) : Option Int :=
  let b := Binary.ofFloat x
  if x.isFinite && b.isNatural then
    some (if x.toBits.toNat / Nat.pow 2 63 == 1 then -(b.floor : Int) else b.floor)
  else none

/-! ## The double nearest to a decimal number -/

/-- The natural number nearest to `num / den`; of two equally near the even one. -/
def roundHalfEven (num den : Nat) : Nat :=
  let q := num / den
  let twice := 2 * (num % den)
  if twice < den ∨ (twice = den ∧ q % 2 = 0) then q else q + 1

/-- A quotient without remainder is not rounded. -/
theorem roundHalfEven_of_dvd {num den : Nat} (hd : 0 < den) (h : num % den = 0) :
    roundHalfEven num den = num / den := by
  simp [roundHalfEven, h, hd]

/-- The bits of the double nearest to the positive number `num / den`. The mantissa is rounded where
it has 53 bits, or at the least exponent if it has fewer there. A mantissa that rounding carries
over into the next power of two is carried into the exponent by the addition. -/
def nearestRatioBits (num den : Nat) : Nat :=
  let estimate : Int := max ((num.log2 : Int) - den.log2 - 52) Binary.leastExponent
  let scaled (q : Int) : Nat × Nat :=
    if 0 ≤ q then (num, den * Nat.pow 2 q.toNat) else (num * Nat.pow 2 (-q).toNat, den)
  let q :=
    let (n, d) := scaled estimate
    if n / d < Binary.hidden ∧ Binary.leastExponent < estimate then estimate - 1 else estimate
  let (n, d) := scaled q
  let bits := (q - Binary.leastExponent).toNat * Binary.hidden + roundHalfEven n d
  min bits Binary.infinityBits

/-- The bits of the double nearest to `digits · 10^exponent`. Numbers far outside the range of
doubles are not computed: they are zero or infinite. -/
def nearestBits (digits : Nat) (exponent : Int) : Nat :=
  if digits = 0 then 0
  else
    let magnitude := (Nat.toDigits 10 digits).length + exponent
    if magnitude > 320 then Binary.infinityBits
    else if magnitude < -340 then 0
    else if 0 ≤ exponent then nearestRatioBits (digits * Nat.pow 10 exponent.toNat) 1
    else nearestRatioBits digits (Nat.pow 10 (-exponent).toNat)

@[simp] theorem nearestBits_zero (exponent : Int) : nearestBits 0 exponent = 0 := rfl

/-- The double nearest to `digits · 10^exponent`, with the sign that is given. -/
def nearestFloat (negative : Bool) (digits : Nat) (exponent : Int) : Float :=
  let bits := nearestBits digits exponent + if negative then Nat.pow 2 63 else 0
  Float.ofBits (UInt64.ofNat bits)

end Indentation.Decimal
