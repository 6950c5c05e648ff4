import Indentation.Text.Blank
import Indentation.Text.Digit

/-!
# Numerals

Decimal numerals are read with a limit on their length: more than `Numeral.limit` digits, leading
zeros included, are refused. The same limit holds for the digits of a number that is written
(`OverlongNumber`). Two notations are read: a plain run of digits, and an integer with optional sign,
blanks around it and single underscores between its digits.

## Main statements

* `read_eq_ok_iff` — a numeral is read exactly when it is within the limit
* `width?_pos` — a width is never zero
-/

namespace Indentation

/-- A numeral with more digits than are read. -/
structure OverlongNumeral where
  digits : Nat
  deriving DecidableEq, Repr

namespace Numeral

open Text

/-- The greatest number of digits that are read. -/
def limit : Nat := 4300

/-- The number that a run of digits of any script stands for. -/
def value (ds : List Char) : Nat := ds.foldl (fun n c => 10 * n + (digit? c).getD 0) 0

/-- The number that a run of digits stands for, if it is within the limit. -/
def read (ds : List Char) : Except OverlongNumeral Nat :=
  if ds.length ≤ limit then .ok (value ds) else .error ⟨ds.length⟩

/-- A numeral is read exactly when it is within the limit, and then as its value. -/
theorem read_eq_ok_iff {ds : List Char} {n : Nat} :
    read ds = .ok n ↔ ds.length ≤ limit ∧ n = value ds := by
  unfold read
  split
  · next h => simp [h, eq_comm]
  · next h => simp [h]

/-- A refused numeral is over the limit, and the error counts its digits. -/
theorem read_eq_error_iff {ds : List Char} {e : OverlongNumeral} :
    read ds = .error e ↔ limit < ds.length ∧ e = ⟨ds.length⟩ := by
  unfold read
  split
  · next h => simp [Nat.not_lt.mpr h]
  · next h => simp [Nat.lt_of_not_le h, eq_comm]

/-! ## Widths -/

/-- The column count that a text gives: ASCII digits with optional blanks around them, and not zero.
Any other text gives none. -/
def width? (s : List Char) : Except OverlongNumeral (Option Nat) :=
  let ds := trim s
  if ds.isEmpty || !ds.all Char.isDigit then .ok none
  else (read ds).map fun n => if n = 0 then none else some n

/-- A width is at least one column. -/
theorem width?_pos {s : List Char} {n : Nat} (h : width? s = .ok (some n)) : 0 < n := by
  unfold width? at h
  dsimp only at h
  split at h
  · simp at h
  · cases hr : read (trim s) with
    | error e => simp [hr, Except.map] at h
    | ok m =>
      simp only [hr, Except.map, Except.ok.injEq] at h
      split at h
      · simp at h
      · next hm => simp only [Option.some.injEq] at h; omega

/-! ## Integers -/

/-- Why a text is not read as an integer. -/
inductive IntegerError where
  /-- The text is not an integer. -/
  | malformed
  /-- The text starts like an integer whose digits are too many. -/
  | overlong (e : OverlongNumeral)
  deriving DecidableEq, Repr

/-- The blanks that may stand around an integer: all but the information separators. -/
def isPadding (c : Char) : Bool := isBlank c && !(0x1C ≤ c.toNat && c.toNat ≤ 0x1F)

/-- Whether underscores stand only singly and between two digits. -/
def wellSeparated (body : List Char) : Bool :=
  (splitAt '_' body).all fun part => !part.isEmpty

/-- The natural number at the start of a text, and what follows its digits. -/
def readDigits (s : List Char) : Except IntegerError (Nat × List Char) :=
  let inNumeral (c : Char) := isDigit c || c == '_'
  let body := s.takeWhile inNumeral
  if !wellSeparated body then .error .malformed
  else match read (body.filter (· != '_')) with
    | .error e => .error (.overlong e)
    | .ok n => .ok (n, s.dropWhile inNumeral)

/-- Reads an integer: padding, an optional sign, digits of any script with single underscores
between them, padding. The digits are measured before what follows them is looked at. -/
def readInteger (s : List Char) : Except IntegerError Int :=
  let finish (negative : Bool) (r : Nat × List Char) : Except IntegerError Int :=
    if r.2.all isPadding then .ok (if negative then -(r.1 : Int) else r.1) else .error .malformed
  match s.dropWhile isPadding with
  | '-' :: rest => readDigits rest >>= finish true
  | '+' :: rest => readDigits rest >>= finish false
  | rest => readDigits rest >>= finish false

end Numeral

/-- The message for an overlong numeral. -/
def OverlongNumeral.message (e : OverlongNumeral) : String :=
  s!"Exceeds the limit ({Numeral.limit} digits) for integer string conversion: value has "
    ++ s!"{e.digits} digits; use sys.set_int_max_str_digits() to increase the limit"

/-- A number with more digits than are written. How many it has is not said. -/
structure OverlongNumber where
  deriving DecidableEq, Repr

/-- The message for an overlong number. -/
def OverlongNumber.message (_ : OverlongNumber) : String :=
  s!"Exceeds the limit ({Numeral.limit} digits) for integer string conversion; "
    ++ "use sys.set_int_max_str_digits() to increase the limit"

end Indentation
