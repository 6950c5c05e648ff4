import Indentation.Directive.Variable

/-!
# Local variables

A text may carry a list of variables, one a line, between an opening and an end:

```text
/* Local Variables: */
/* c-basic-offset: 4 */
/* End: */
```

What stands before and behind the words on the opening line are the affixes of the list. Every line
of the list carries them. The first line that does not, or whose key is `End`, closes the list.

## Main statements

* `feed_closed` — outside a list, a line sets no variable
-/

namespace Indentation.LocalVariables

open Text

/-- The words that open a list. -/
def opening : List Char := "Local Variables:".toList

/-- The key that closes a list. -/
def endKey : List Char := "End".toList

/-- What every line of a list carries. -/
structure Affixes where
  lead : List Char
  trail : List Char
  deriving DecidableEq, Repr

/-- The affixes of the list that a line opens, if it opens one. -/
def affixes? (line : List Char) : Option Affixes := do
  let (before, after) ← cutAtText? opening [] (trim line)
  let lead := trimEnd before
  let trail := trim after
  if lead.any isBlank || trail.any isBlank then none else some ⟨lead, trail⟩

/-- The variable on a line of a list: behind the lead a key without blanks, a colon, and at least
one character before the trail. -/
def entry? (affixes : Affixes) (line : List Char) : Option Variable := do
  let rest ← dropLead? affixes.lead (trimStart line)
  let (key, rest) ← cutAt? ':' (trimStart rest)
  if key.isEmpty || key.any isBlank then none
  else
    let value ← dropTrail? affixes.trail (trimEnd rest)
    if value.isEmpty then none else some ⟨key, trim value⟩

/-- The list that is open, if one is. -/
abbrev Scanner := Option Affixes

/-- The scanner after a line, and the variable that the line sets. -/
def feed (scanner : Scanner) (line : List Char) : Scanner × Option Variable :=
  match scanner with
  | none => (affixes? line, none)
  | some affixes =>
    match entry? affixes line with
    | none => (none, none)
    | some v => if v.key = endKey then (none, none) else (some affixes, some v)

/-- Outside a list, a line sets no variable. -/
theorem feed_closed (line : List Char) : feed none line = (affixes? line, none) := rfl

end Indentation.LocalVariables
