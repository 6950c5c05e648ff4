import Indentation.Directive.Variable
import Indentation.Text.Place
import Std.Data.TreeMap

/-!
# Variables on the first line

One of the first two lines of a text may carry variables between two markers:

```text
;; -*- mode: Lisp; tab-width: 4; indent-tabs-mode: nil; -*-
```

A marker *opens* a list if the key of the mode and a name stand behind it, with a semicolon at the end
of the name. The segments up to the next semicolons are variables, and the list may end behind any of
these semicolons that is followed by a marker. Of all the lists on a line the one that opens first
counts, and it extends as far as it can.

## How the list is found

The markers are looked at from left to right. What one of them needs is kept for those behind it
(`Known`):

* the place at which the last name ends — markers may overlap, and a name that starts in front of that
  place ends there as well
* the segments of the line (`Segments`), which are cut and read when the first name with a semicolon
  behind it is found — a table says for each of them how far the list behind it extends, and is filled
  from the last segment to the first

So the line is read a fixed number of times, however many markers stand on it. Entries are looked up
by the position of a semicolon and by number, and a lookup may fail (`LookupFault`); that none does is
part of the theory.
-/

namespace Indentation.FirstLine

open Text

/-- The marker at both ends of a list. -/
def marker : List Char := ['-', '*', '-']

/-- The key of the mode, with which every list opens. -/
def modeKey : List Char := ['m', 'o', 'd', 'e', ':']

/-- The number of lines at the start of a text that may carry variables. -/
def window : Nat := 2

/-- Reads a segment as a variable: a key without blanks, a colon and at least one character more.
Blanks around key and value do not belong to them. -/
def pair? (segment : List Char) : Option Variable := do
  let (key, value) ← cutAt? ':' (trimStart segment)
  let key := trimEnd key
  if key.isEmpty || key.any isBlank || value.isEmpty then none else some ⟨key, trim value⟩

/-- Whether a text starts with a marker, blanks aside. -/
def closes (s : List Char) : Bool := marker.isPrefixOf (trimStart s)

variable {line : List Char}

/-! ## Names -/

/-- The place at which the name of a mode starts behind a marker, if the key of the mode does. -/
def name? (mark : Place line) : Option (Place line) :=
  let key := (mark.move marker.length).pass isBlank
  if key.holds modeKey then some ((key.move modeKey.length).pass isBlank) else none

/-- Whether a character ends a name. -/
def isNameStop (c : Char) : Bool := isBlank c || c == ';'

/-- The place at which a name ends. -/
def nameStop (name : Place line) : Place line := name.pass fun c => !isNameStop c

/-! ## Segments -/

/-- The variables that the segments are which end at some semicolons, the first one from a place on
and each other one from behind the semicolon in front of it. -/
def pairs (first : Place line) (ends : List (Place line)) : List (Option Variable) :=
  List.zipWith (fun start stop => pair? (start.upTo stop)) (first :: ends.map (.move 1)) ends

/-- The number of the last segment in the list behind a segment, given the segment behind that one,
its number, and the last segment in the list behind it. -/
def furthest (number : Nat) (pair : Option Variable) (stop : Place line) (reach : Option Nat) :
    Option Nat :=
  match pair with
  | none => none
  | some _ => reach <|> if closes (stop.move 1).rest then some number else none

/-- The number of the last segment in the list behind each segment, for the one in front of some
segments and for these themselves. Their numbers start with `number`. -/
def reaches (number : Nat) (segments : List (Option Variable × Place line)) : List (Option Nat) :=
  (segments.zipIdx number).foldr
    (fun (s, k) reach => furthest k s.1 s.2 (reach.headD none) :: reach) [none]

/-- The segments of a line that have a semicolon behind them, by number. -/
structure Segments (line : List Char) where
  /-- Where the semicolons stand. -/
  ends : List (Place line)
  /-- The numbers of the segments, by the positions of the semicolons. -/
  index : Std.TreeMap Nat Nat
  /-- The variables that the segments are. -/
  pairs : Array (Option Variable)
  /-- The last segments of the lists behind the segments. -/
  reach : Array (Option Nat)

/-- Cuts a line into its segments. No segment stands in front of the first one, so what `reaches` says
of it is left out. -/
def Segments.ofLine (line : List Char) : Segments line :=
  let ends := Place.findAll [';'] line
  let pairs := FirstLine.pairs (.start line) ends
  { ends
    index := .ofList (ends.map (·.offset)).zipIdx
    pairs := pairs.toArray
    reach := (reaches 0 (pairs.zip ends)).tail.toArray }

/-- Something is looked up that is not there. -/
inductive LookupFault where
  /-- No segment ends at a position. -/
  | position (offset : Nat)
  /-- No segment has a number. -/
  | number (k : Nat)
  deriving DecidableEq, Repr

namespace Segments

/-- The number of the segment that ends at a position. -/
def numberAt (t : Segments line) (offset : Nat) : Except LookupFault Nat :=
  match t.index[offset]? with
  | some k => .ok k
  | none => .error (.position offset)

/-- The entry for a segment. -/
def entry {α : Type} (entries : Array α) (k : Nat) : Except LookupFault α :=
  match entries[k]? with
  | some a => .ok a
  | none => .error (.number k)

/-- The longest list behind the segment that ends at a position, if there is a list. -/
def listBehind (t : Segments line) (offset : Nat) :
    Except LookupFault (Option (List (Option Variable))) := do
  let first ← t.numberAt offset
  match ← entry t.reach first with
  | none => .ok none
  | some last => some <$> (List.range' (first + 1) (last - first)).mapM (entry t.pairs)

end Segments

/-! ## The search -/

/-- What is known about a line from the markers looked at. -/
structure Known (line : List Char) where
  /-- Where the last name ends. -/
  nameStop : Option (Place line) := none
  /-- The segments, once some marker needed them. -/
  segments : Option (Segments line) := none

/-- The place at which a name ends, read off the line unless the last name reaches further than to the
start of this one. -/
def Known.nameStopOf (known : Known line) (name : Place line) : Place line :=
  match known.nameStop with
  | none => FirstLine.nameStop name
  | some stop => if stop.offset ≤ name.offset then FirstLine.nameStop name else stop

/-- Looks at a marker: the list that it opens, if it opens one, and what is known afterwards. -/
def visit (known : Known line) (mark : Place line) :
    Except LookupFault (Option (List (Option Variable)) × Known line) :=
  match name? mark with
  | none => .ok (none, known)
  | some name => do
    let stop := known.nameStopOf name
    if name.offset < stop.offset && stop.holds [';'] then
      let segments := known.segments.getD (.ofLine line)
      return (← segments.listBehind stop.offset, ⟨some stop, some segments⟩)
    else
      return (none, { known with nameStop := some stop })

/-- The list that the first of some markers opens, of those that open one. -/
def search (known : Known line) :
    List (Place line) → Except LookupFault (Option (List (Option Variable)))
  | [] => .ok none
  | mark :: marks => do
    match ← visit known mark with
    | (some list, _) => return some list
    | (none, known) => search known marks

/-- The list that a line carries between two markers, if it does. Its entries are what the segments
were read as. -/
def list? (line : List Char) : Except LookupFault (Option (List (Option Variable))) :=
  search {} (Place.findAll marker line)

/-- The variables that a line carries between two markers, if it does. -/
def variables? (line : List Char) : Option (List Variable) :=
  match list? line with
  | .ok list => list.map (·.filterMap id)
  | .error _ => none

/-- The readings of the variables that a line carries. -/
def readings (line : List Char) : List DirectiveReading :=
  match variables? line with
  | none => []
  | some vs => vs.map Variable.read

end Indentation.FirstLine
