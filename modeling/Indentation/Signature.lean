import Indentation.Numeral
import Indentation.Text.Quoted

/-!
# Signatures

A signature is a verdict on how a text is indented: a style and the number of columns per level. In
writing it is the letter of the style followed by the width, `s4`, `t8` or `m2`, and `u` where the
style is unknown.

## Main statements

* `Style.ofLetter?_letter` — the letter of a style is read back as that style
* `withWidth_of_unknown` — an unknown signature takes no width
-/

namespace Indentation

/-- How levels of indentation are made. -/
inductive Style where
  | spaces
  | tabs
  /-- By spaces, a full tab stop of which is replaced by a tab. -/
  | mixed
  /-- There is no evidence. -/
  | unknown
  deriving DecidableEq, Repr, Inhabited

namespace Style

/-- The letter that stands for a style in a written signature. -/
def letter : Style → Char
  | spaces => 's'
  | tabs => 't'
  | mixed => 'm'
  | unknown => 'u'

/-- The style that a letter stands for. -/
def ofLetter? : Char → Option Style
  | 's' => some spaces
  | 't' => some tabs
  | 'm' => some mixed
  | 'u' => some unknown
  | _ => none

/-- The name of a style. -/
def name : Style → String
  | spaces => "spaces"
  | tabs => "tabs"
  | mixed => "mixed"
  | unknown => "unknown"

/-- All styles. -/
def all : List Style := [spaces, tabs, mixed, unknown]

/-- The letter of a style is read back as that style. -/
@[simp] theorem ofLetter?_letter (s : Style) : ofLetter? s.letter = some s := by
  cases s <;> rfl

/-- Two styles with one letter are the same. -/
theorem letter_injective {s t : Style} (h : s.letter = t.letter) : s = t := by
  simpa using congrArg ofLetter? h

end Style

/-- A style of indentation and the number of columns per level. For tabs the width is the number of
columns that a tab stands for. -/
structure Signature where
  style : Style
  width : Int
  deriving DecidableEq, Repr, Inhabited

namespace Signature

open Text

/-- Levels of `width` spaces. -/
def spaces (width : Int) : Signature := ⟨.spaces, width⟩

/-- Levels of one tab that stands for `width` columns. -/
def tabs (width : Int) : Signature := ⟨.tabs, width⟩

/-- Levels of `width` columns made of tabs and spaces. -/
def mixed (width : Int) : Signature := ⟨.mixed, width⟩

/-- No evidence. -/
def unknown : Signature := ⟨.unknown, 0⟩

/-- Whether the style is unknown. -/
def isUnknown (s : Signature) : Bool := s.style == .unknown

/-- The signature with another width. An unknown signature stays as it is. -/
def withWidth (s : Signature) (width : Int) : Signature :=
  if s.isUnknown then s else { s with width }

/-- The signature with another style and the same width. -/
def withStyle (s : Signature) (style : Style) : Signature := { s with style }

/-- An unknown signature takes no width. -/
theorem withWidth_of_unknown {s : Signature} (h : s.isUnknown = true) (w : Int) :
    s.withWidth w = s := by
  simp [withWidth, h]

/-- A known signature takes any width. -/
theorem withWidth_of_known {s : Signature} (h : s.isUnknown = false) (w : Int) :
    s.withWidth w = ⟨s.style, w⟩ := by
  simp [withWidth, h]

/-! ## Order -/

/-- Signatures are ordered by letter, then by width. -/
def precedes (a b : Signature) : Bool :=
  a.style.letter < b.style.letter || (a.style == b.style && a.width < b.width)

/-! ## Writing and reading -/

/-- The decimal text of an integer. -/
def decimal (n : Int) : List Char :=
  if n < 0 then '-' :: Nat.toDigits 10 n.natAbs else Nat.toDigits 10 n.toNat

/-- The written signature: the letter of the style and the width, or the letter alone where the
style is unknown. -/
def render (s : Signature) : List Char :=
  if s.isUnknown then [s.style.letter] else s.style.letter :: decimal s.width

/-- The written signature as a string. -/
def toString (s : Signature) : String := String.ofList s.render

/-- Whether a signature can be written: its style is unknown, or its width has no more digits than are
written. A sign is no digit. -/
def Writable (s : Signature) : Prop :=
  s.isUnknown = true ∨ (Nat.toDigits 10 s.width.natAbs).length ≤ Numeral.limit

instance (s : Signature) : Decidable s.Writable := inferInstanceAs (Decidable (_ ∨ _))

/-- Writes a signature. -/
def write (s : Signature) : Except OverlongNumber (List Char) :=
  if s.Writable then .ok s.render else .error ⟨⟩

/-- Why a text is not read as a signature. -/
inductive ParseError where
  | notASignature (text : List Char)
  | overlong (e : OverlongNumeral)
  deriving DecidableEq, Repr

/-- The message for a text that is not read. -/
def ParseError.message : ParseError → String
  | notASignature text => s!"not an indentation signature: {String.ofList (quote text)}"
  | overlong e => e.message

/-- Whether a text is a numeral that may follow a letter: digits of any script after a first one
from `1` to `9`. -/
def isWidthNumeral : List Char → Bool
  | [] => false
  | d :: ds => d.isDigit && d != '0' && ds.all isDigit

/-- Reads a written signature with optional blanks around it. -/
def parse (text : List Char) : Except ParseError Signature :=
  match trim text with
  | ['u'] => .ok unknown
  | c :: ds =>
    match Style.ofLetter? c with
    | none | some .unknown => .error (.notASignature text)
    | some style =>
      if isWidthNumeral ds then
        match Numeral.read ds with
        | .ok n => .ok ⟨style, n⟩
        | .error e => .error (.overlong e)
      else .error (.notASignature text)
  | [] => .error (.notASignature text)

end Signature

end Indentation
