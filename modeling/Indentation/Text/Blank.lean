/-!
# Blanks

The white-space characters of a text, and the cuts that depend on them: trimming at either end and
splitting into the words between blanks.

Two narrower classes appear elsewhere and are not this one: indentation is made of spaces and tabs
alone, and only carriage return and line feed end a line (`Indentation.Line`).

## Main statements

* `isBlank_of_isWhitespace` — every character of the standard library's ASCII class is a blank
* `trimEnd_append_of_blank`, `trimStart_append_of_blank` — blanks added at an end are cut off again
* `trim_eq_self` — a text without blanks at its ends is left alone
-/

namespace Indentation.Text

/-- The characters that separate words: the white space and separator characters of Unicode,
together with the four information separators `U+001C` to `U+001F`. Zero-width characters such as
`U+200B` and `U+FEFF` are not among them. -/
def isBlank (c : Char) : Bool :=
  let n := c.toNat
  (0x09 ≤ n && n ≤ 0x0D) || (0x1C ≤ n && n ≤ 0x20) || n == 0x85 || n == 0xA0 || n == 0x1680
    || (0x2000 ≤ n && n ≤ 0x200A) || n == 0x2028 || n == 0x2029 || n == 0x202F || n == 0x205F
    || n == 0x3000

/-- Every ASCII white-space character is a blank. -/
theorem isBlank_of_isWhitespace {c : Char} (h : c.isWhitespace = true) : isBlank c = true := by
  simp only [Char.isWhitespace, Bool.or_eq_true, decide_eq_true_eq] at h
  rcases h with ((h | h) | h) | h <;> subst h <;> decide

/-! ## Trimming -/

/-- The text without the blanks at its start. -/
def trimStart (s : List Char) : List Char := s.dropWhile isBlank

/-- The text without the blanks at its end. -/
def trimEnd (s : List Char) : List Char := (s.reverse.dropWhile isBlank).reverse

/-- The text without the blanks at both ends. -/
def trim (s : List Char) : List Char := trimEnd (trimStart s)

@[simp] theorem trimStart_nil : trimStart [] = [] := rfl

@[simp] theorem trimEnd_nil : trimEnd [] = [] := rfl

/-- Blanks put in front of a text are cut off again. -/
theorem trimStart_append_of_blank {w : List Char} (h : ∀ c ∈ w, isBlank c = true) (s : List Char) :
    trimStart (w ++ s) = trimStart s := by
  induction w with
  | nil => rfl
  | cons c w ih =>
    have hc := h c List.mem_cons_self
    have hw := ih fun x hx => h x (List.mem_cons_of_mem _ hx)
    simpa [trimStart, List.dropWhile_cons, hc] using hw

/-- Blanks put behind a text are cut off again. -/
theorem trimEnd_append_of_blank {w : List Char} (h : ∀ c ∈ w, isBlank c = true) (s : List Char) :
    trimEnd (s ++ w) = trimEnd s := by
  have hr : ∀ c ∈ w.reverse, isBlank c = true := fun c hc => h c (List.mem_reverse.mp hc)
  simpa [trimEnd, trimStart] using congrArg List.reverse (trimStart_append_of_blank hr s.reverse)

/-- A text whose first character is no blank has nothing to cut off at the start. -/
theorem trimStart_cons_of_not_blank {c : Char} (h : isBlank c = false) (s : List Char) :
    trimStart (c :: s) = c :: s := by
  simp [trimStart, h]

/-- A text whose last character is no blank has nothing to cut off at the end. -/
theorem trimEnd_concat_of_not_blank {c : Char} (h : isBlank c = false) (s : List Char) :
    trimEnd (s ++ [c]) = s ++ [c] := by
  simp [trimEnd, h]

/-- A text without blanks is its own trimmed form. -/
theorem trim_eq_self {s : List Char} (h : ∀ c ∈ s, isBlank c = false) : trim s = s := by
  have start : trimStart s = s := by
    cases s with
    | nil => rfl
    | cons c s => exact trimStart_cons_of_not_blank (h c List.mem_cons_self) s
  have stop : trimEnd s = s := by
    rcases List.eq_nil_or_concat s with rfl | ⟨t, c, rfl⟩
    · rfl
    · simpa using trimEnd_concat_of_not_blank (h c (by simp)) t
  rw [trim, start, stop]

/-! ## Words between separators -/

/-- The maximal runs of characters for which `isSep` fails, in order. None of them is empty. -/
def splitRuns (isSep : Char → Bool) (s : List Char) : List (List Char) :=
  let step (c : Char) (acc : List Char × List (List Char)) : List Char × List (List Char) :=
    if isSep c then ([], if acc.1.isEmpty then acc.2 else acc.1 :: acc.2) else (c :: acc.1, acc.2)
  let (run, runs) := s.foldr step ([], [])
  if run.isEmpty then runs else run :: runs

/-- The words of a text: its maximal runs of characters that are no blanks. -/
def words (s : List Char) : List (List Char) := splitRuns isBlank s

/-! ## Cutting at a character -/

/-- The parts of a text before and after the first `sep`, or `none` where there is no `sep`. -/
def cutAt? (sep : Char) (s : List Char) : Option (List Char × List Char) :=
  match s.dropWhile (· != sep) with
  | [] => none
  | _ :: rest => some (s.takeWhile (· != sep), rest)

/-- The parts between successive occurrences of `sep`: always one more than there are
occurrences. -/
def splitAt (sep : Char) (s : List Char) : List (List Char) :=
  let step (c : Char) (acc : List Char × List (List Char)) : List Char × List (List Char) :=
    if c == sep then ([], acc.1 :: acc.2) else (c :: acc.1, acc.2)
  let (part, parts) := s.foldr step ([], [])
  part :: parts

/-- The parts of a text before and after the first occurrence of `sep`, the first behind `seen`
reversed, or `none` where `sep` does not occur. -/
def cutAtText? (sep : List Char) (seen : List Char) (s : List Char) :
    Option (List Char × List Char) :=
  if sep.isPrefixOf s then some (seen.reverse, s.drop sep.length)
  else match s with
    | [] => none
    | c :: rest => cutAtText? sep (c :: seen) rest

/-- What follows `lead` in `s`, or `none` where `s` does not start with `lead`. -/
def dropLead? : List Char → List Char → Option (List Char)
  | [], s => some s
  | _ :: _, [] => none
  | p :: lead, c :: s => if p == c then dropLead? lead s else none

@[simp] theorem dropLead?_append (lead s : List Char) : dropLead? lead (lead ++ s) = some s := by
  induction lead with
  | nil => rfl
  | cons p lead ih => simp [dropLead?, ih]

/-- Cutting off a lead and putting it back restores the text. -/
theorem eq_append_of_dropLead? {lead s rest : List Char} (h : dropLead? lead s = some rest) :
    s = lead ++ rest := by
  induction lead generalizing s with
  | nil => simpa [dropLead?] using h
  | cons p lead ih =>
    cases s with
    | nil => simp [dropLead?] at h
    | cons c s =>
      simp only [dropLead?] at h
      split at h
      · next hpc => simp [ih h, beq_iff_eq.mp hpc]
      · exact absurd h (by simp)

/-- What precedes `trail` at the end of `s`, or `none` where `s` does not end with `trail`. -/
def dropTrail? (trail s : List Char) : Option (List Char) :=
  (dropLead? trail.reverse s.reverse).map List.reverse

@[simp] theorem dropTrail?_append (trail s : List Char) :
    dropTrail? trail (s ++ trail) = some s := by
  simp [dropTrail?]

/-- Cutting off a trail and putting it back restores the text. -/
theorem eq_append_of_dropTrail? {trail s rest : List Char} (h : dropTrail? trail s = some rest) :
    s = rest ++ trail := by
  obtain ⟨r, hr, rfl⟩ := Option.map_eq_some_iff.mp h
  have := congrArg List.reverse (eq_append_of_dropLead? hr)
  simpa using this

end Indentation.Text
