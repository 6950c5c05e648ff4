import Indentation.Text.Printable

/-!
# Quoted text

Messages quote the text that they are about. Single quotes enclose it, or double quotes where it
holds a single quote and no double one. A backslash marks itself, the enclosing quote, the common
line and tab controls and, by their code in hexadecimal, all characters that are not printable.

## Main statements

* `quote_eq_of_plain` — plain text is enclosed as it is
-/

namespace Indentation.Text

/-- The single quote. -/
def singleQuote : Char := '\x27'

/-- The double quote. -/
def doubleQuote : Char := '\x22'

/-- The digits of `n` in hexadecimal, with leading zeros up to `width` digits. -/
def hex (width n : Nat) : List Char :=
  let digits := Nat.toDigits 16 n
  List.replicate (width - digits.length) '0' ++ digits

/-- A character by its code. -/
def escapeCode (n : Nat) : List Char :=
  if n < 0x100 then '\\' :: 'x' :: hex 2 n
  else if n < 0x10000 then '\\' :: 'u' :: hex 4 n
  else '\\' :: 'U' :: hex 8 n

/-- A character between quotes of the given kind. -/
def escapeChar (enclosing : Char) (c : Char) : List Char :=
  if c == '\\' || c == enclosing then ['\\', c]
  else if c == '\n' then ['\\', 'n']
  else if c == '\r' then ['\\', 'r']
  else if c == '\t' then ['\\', 't']
  else if isPrintable c then [c]
  else escapeCode c.toNat

/-- The quote that encloses a text. -/
def enclosingQuote (s : List Char) : Char :=
  if s.contains singleQuote && !s.contains doubleQuote then doubleQuote else singleQuote

/-- The text between quotes. -/
def quote (s : List Char) : List Char :=
  let q := enclosingQuote s
  q :: (s.flatMap (escapeChar q) ++ [q])

/-- The bytes between quotes, behind the letter that marks them as bytes. Bytes that are not
printable ASCII characters are given by their codes. -/
def quoteBytes (bytes : List UInt8) : List Char :=
  let s := bytes.map fun b => Char.ofNat b.toNat
  let q := enclosingQuote s
  let escape (c : Char) : List Char :=
    if c.toNat < 0x80 then escapeChar q c else escapeCode c.toNat
  'b' :: q :: (s.flatMap escape ++ [q])

/-- Text of printable characters without quotes and backslashes is enclosed as it is. -/
theorem quote_eq_of_plain {s : List Char}
    (h : ∀ c ∈ s,
      isPrintable c = true ∧ c ≠ '\\' ∧ c ≠ singleQuote ∧ c ≠ '\n' ∧ c ≠ '\r' ∧ c ≠ '\t') :
    quote s = singleQuote :: (s ++ [singleQuote]) := by
  have hq : singleQuote ∉ s := fun hc => (h _ hc).2.2.1 rfl
  have hs : ∀ t : List Char, (∀ c ∈ t, c ∈ s) → t.flatMap (escapeChar singleQuote) = t := by
    intro t ht
    induction t with
    | nil => rfl
    | cons c t ih =>
      obtain ⟨hp, h1, h2, h3, h4, h5⟩ := h c (ht c List.mem_cons_self)
      rw [List.flatMap_cons, ih fun x hx => ht x (List.mem_cons_of_mem _ hx)]
      simp [escapeChar, hp, h1, h2, h3, h4, h5]
  simp [quote, enclosingQuote, hq, hs s fun _ hc => hc]

end Indentation.Text
