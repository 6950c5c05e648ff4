import Indentation.Classifier
import Indentation.Directive.FirstLine
import Indentation.Directive.LocalVariables
import Indentation.Directive.Modeline
import Indentation.Text.Utf8
import Indentation.Verdict

/-!
# Detection

The indentation of a text is detected in one pass over its lines. Each line is read for directives
first. As soon as the settings that these make determine a verdict, it is given, and the rest of the
text is not looked at. Until then each line also goes to the classifier, and where the text ends
without a verdict, the votes and the settings give it.

Detection fails only on a directive with an overlong width, and only if it gets that far. The votes of
a text are never too wide to be written: a text for which `resolve` failed would have some ten to the
power of `Numeral.limit` characters. So the pass takes their verdict without writing them.

## Main statements

* `detectLines_of_decided` — a verdict of the settings ends the pass
* `detectLines_of_error` — so does an overlong width
-/

namespace Indentation

/-- What is gathered from the directives of the lines read so far. -/
structure DirectiveState where
  settings : Settings := {}
  /-- The list of local variables that is open. -/
  scanner : LocalVariables.Scanner := none
  deriving DecidableEq, Repr

namespace DirectiveState

/-- Reads a line for a modeline. -/
def feedModeline (s : DirectiveState) (line : List Char) :
    DirectiveState × Option OverlongNumeral :=
  let (settings, error) := s.settings.applyAll (Modeline.readings line)
  ({ s with settings }, error)

/-- Reads a line for variables between markers. -/
def feedFirstLine (s : DirectiveState) (line : List Char) :
    DirectiveState × Option OverlongNumeral :=
  let (settings, error) := s.settings.applyAll (FirstLine.readings line)
  ({ s with settings }, error)

/-- Reads a line for a list of local variables. -/
def feedLocalVariables (s : DirectiveState) (line : List Char) :
    DirectiveState × Option OverlongNumeral :=
  let (scanner, entry) := LocalVariables.feed s.scanner line
  let (settings, error) := s.settings.applyAll (entry.map Variable.read).toList
  (⟨settings, scanner⟩, error)

/-- The state after a line, or the overlong width that ends the pass. `number` is the number of
lines before this one; only the first ones may carry variables between markers. -/
def feed (s : DirectiveState) (number : Nat) (line : List Char) :
    Except OverlongNumeral DirectiveState :=
  let settled : DirectiveState × Option OverlongNumeral → Except OverlongNumeral DirectiveState
    | (s, none) => .ok s
    | (_, some e) => .error e
  do
    let s ← if number < FirstLine.window then settled (s.feedFirstLine line) else .ok s
    let s ← settled (s.feedModeline line)
    settled (s.feedLocalVariables line)

end DirectiveState

/-- Detects the indentation of the lines from one on, given what the lines before it left. -/
def detectLines (skipDocs : Bool) (number : Nat) (d : DirectiveState) (c : Classifier) :
    List Line → Except OverlongNumeral Signature
  | [] => .ok (c.histogram.verdict d.settings)
  | l :: ls =>
    match d.feed number l.text with
    | .error e => .error e
    | .ok d =>
      match d.settings.verdict? with
      | some verdict => .ok verdict
      | none => detectLines skipDocs (number + 1) d (c.feed skipDocs l) ls

/-- Detects the indentation of a text that starts at the start of a line. With `skipDocs`, blocks of
documentation cast no votes. -/
def detect (skipDocs : Bool) (text : List Char) : Except OverlongNumeral Signature :=
  detectLines skipDocs 0 {} {} (Line.ofText text)

/-- Detects the indentation of a text given in UTF-8. -/
def detectBytes (skipDocs : Bool) (bytes : List UInt8) : Except OverlongNumeral Signature :=
  detect skipDocs (Text.Utf8.decode bytes)

/-- A verdict of the settings ends the pass, whatever follows and whatever was voted for. -/
theorem detectLines_of_decided {skipDocs : Bool} {number : Nat} {d d' : DirectiveState}
    {c : Classifier} {l : Line} {ls : List Line} {verdict : Signature}
    (hd : d.feed number l.text = .ok d') (hv : d'.settings.verdict? = some verdict) :
    detectLines skipDocs number d c (l :: ls) = .ok verdict := by
  simp [detectLines, hd, hv]

/-- An overlong width ends the pass, whatever follows and whatever was voted for. -/
theorem detectLines_of_error {skipDocs : Bool} {number : Nat} {d : DirectiveState}
    {c : Classifier} {l : Line} {ls : List Line} {e : OverlongNumeral}
    (hd : d.feed number l.text = .error e) :
    detectLines skipDocs number d c (l :: ls) = .error e := by
  simp [detectLines, hd]

end Indentation
