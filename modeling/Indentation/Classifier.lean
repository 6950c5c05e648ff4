import Indentation.Histogram
import Indentation.Line
import Indentation.Text.Digit
import Indentation.Text.Blank

/-!
# Votes

The indentation of each line is compared with that of the line before, and what one has more than
the other is a vote for a signature. Lines that say nothing about indentation take no part:

* blank lines and comments;
* the line behind one that ends in a backslash, if that line is indented;
* where documentation is skipped, everything from a line that opens a block of documentation to the
  line that closes it.

A flush-left line casts no vote, but the next indented line is measured from it.

## Main statements

* `step_eq_of_skip` — a line that is passed over changes nothing but the counters
-/

namespace Indentation

open Text

/-- The number of columns from one tab stop to the next. -/
def tabWidth : Nat := 8

/-- The vote that a piece of indentation casts when it is added or removed. Spaces count as they
are, tabs alone do not show how wide they are, and of a mixture each tab is a full tab stop and only
the spaces at the end count. -/
def classifyDiff (diff : List Char) : Signature :=
  if diff.all (· == ' ') then .spaces diff.length
  else if diff.all (· == '\t') then .tabs tabWidth
  else
    let trailing := (diff.reverse.takeWhile (· == ' ')).length
    .mixed (diff.count '\t' * tabWidth + trailing)

/-! ## Tab stops -/

/-- Reads an indentation from the left with `n` spaces held back, the only ones that a tab may still
absorb. Seven are held back at most. -/
def expandFrom (n : Nat) : List Char → List Char
  | [] => List.replicate n ' '
  | c :: s =>
    if c == ' ' then
      if n < tabWidth - 1 then expandFrom (n + 1) s else ' ' :: expandFrom n s
    else if c == '\t' then List.replicate tabWidth ' ' ++ expandFrom 0 s
    else List.replicate n ' ' ++ c :: expandFrom 0 s

/-- The indentation with each tab, and up to seven spaces before it, replaced by eight spaces. -/
def expandTabStops (indent : List Char) : List Char := expandFrom 0 indent

/-- The number of characters of the indentation with its tabs replaced. -/
def visualWidth (indent : List Char) : Nat := (expandTabStops indent).length

/-! ## Lines that say nothing -/

/-- The words that open a block of documentation. -/
def docOpeners : List (List Char) :=
  ["over", "item", "back", "pod", "begin", "for", "end"].map String.toList

/-- Whether a flush-left line opens a block of documentation. -/
def opensDoc (rest : List Char) : Bool :=
  match rest with
  | '=' :: word =>
    docOpeners.any (·.isPrefixOf word) ||
      match dropLead? "head".toList word with
      | some (d :: _) => isDigit d
      | _ => false
  | _ => false

/-- Whether a flush-left line closes a block of documentation. -/
def closesDoc (rest : List Char) : Bool := "=cut".toList.isPrefixOf rest

/-- Whether the rest of a line starts a comment. -/
def isComment : List Char → Bool
  | '#' :: _ => true
  | '/' :: '/' :: _ => true
  | '/' :: '*' :: _ => true
  | _ => false

/-- Whether the next line goes on with this one. -/
def isContinued (rest : List Char) : Bool := rest.getLast? == some '\\'

/-! ## The classifier -/

/-- What the classifier keeps from line to line. -/
structure Classifier where
  /-- The indentation that the next one is compared with. -/
  prevIndent : List Char := []
  linesSeen : Nat := 0
  /-- The number of lines to be passed over. -/
  skip : Nat := 0
  inDoc : Bool := false
  histogram : Histogram := []
  deriving DecidableEq, Repr

namespace Classifier

/-- The vote that a change of indentation casts. Where neither indentation starts with the other,
the visual widths are compared. -/
def voteFor? (prev indent : List Char) : Option Signature :=
  if indent.length > prev.length && prev.isPrefixOf indent then
    some (classifyDiff (indent.drop prev.length))
  else if prev.length > indent.length && indent.isPrefixOf prev then
    some (classifyDiff (prev.drop indent.length))
  else
    let distance := ((visualWidth indent : Int) - visualWidth prev).natAbs
    if distance = 0 then none else some (.mixed distance)

/-- Whether a block of documentation is open after a line, if documentation is skipped. -/
def docAfter (inDoc : Bool) (l : Line) : Bool :=
  if l.indent.isEmpty then
    if inDoc then !closesDoc l.rest else opensDoc l.rest
  else inDoc

/-- The state after a line, and the vote that the line casts. -/
def step (skipDocs : Bool) (s : Classifier) (l : Line) : Classifier × Option Signature :=
  let s := { s with linesSeen := s.linesSeen + 1 }
  if s.skip > 0 then ({ s with skip := s.skip - 1 }, none)
  else
    let s := if skipDocs then { s with inDoc := docAfter s.inDoc l } else s
    if s.inDoc || l.rest.isEmpty then (s, none)
    else if l.indent.isEmpty then ({ s with prevIndent := [] }, none)
    else
      -- a comment, too, may say that the next line goes on with it
      let s := if isContinued l.rest then { s with skip := 1 } else s
      if isComment l.rest then (s, none)
      else ({ s with prevIndent := l.indent }, voteFor? s.prevIndent l.indent)

/-- The state after a line, its vote counted. -/
def feed (skipDocs : Bool) (s : Classifier) (l : Line) : Classifier :=
  let (t, vote) := s.step skipDocs l
  match vote with
  | none => t
  | some signature => { t with histogram := t.histogram.vote signature }

/-- A line that is passed over changes nothing but the counters. -/
theorem step_eq_of_skip {s : Classifier} (h : 0 < s.skip) (skipDocs : Bool) (l : Line) :
    s.step skipDocs l = ({ s with linesSeen := s.linesSeen + 1, skip := s.skip - 1 }, none) := by
  simp [step, h]

/-- The state after a list of lines. -/
def feedAll (skipDocs : Bool) (s : Classifier) (ls : List Line) : Classifier :=
  ls.foldl (feed skipDocs) s

end Classifier

end Indentation
