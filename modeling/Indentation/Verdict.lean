import Indentation.Histogram
import Indentation.Settings

/-!
# Verdicts

The verdict on a text that no directive decides by itself. The signature with the most votes wins,
unless mixed votes make it a mixed one, and the settings from directives are laid over it.

The verdict itself is `Histogram.verdict`. It is given with a record of the votes that lead to it
(`resolve`), and fails with it where a width that was voted for has too many digits to be written.

## Main statements

* `verdict_nil` — without votes the verdict is unknown
* `promoteMixed_of_ne_spaces` — only a signature of spaces is promoted
-/

namespace Indentation

/-- Mixed votes count against spaces when they are at least this fraction of them. -/
def mixedShare : Int := 5

namespace Histogram

/-- The mixed signature of the same width in place of a signature of spaces, if at least one vote in
`mixedShare` was mixed. -/
def promoteMixed (h : Histogram) (winner : Signature) : Signature :=
  if winner.style = .spaces then
    let mixed := Signature.mixed winner.width
    let mixedVotes := h.votes mixed
    if mixedVotes ≠ 0 ∧ mixedVotes * mixedShare ≥ h.votes winner then mixed else winner
  else winner

/-- Only a signature of spaces is promoted. -/
theorem promoteMixed_of_ne_spaces (h : Histogram) {s : Signature} (hs : s.style ≠ .spaces) :
    h.promoteMixed s = s := by
  simp [promoteMixed, hs]

end Histogram

namespace Settings

/-- The signature with the width that the settings give. The soft tab stop goes before the tab
stop. -/
def overrideWidth (s : Settings) (sig : Signature) : Signature :=
  match s.softTabStop, s.tabStop with
  | some width, _ => sig.withWidth width
  | none, some width => sig.withWidth width
  | none, none => sig

/-- The signature with the style that the settings give. Full tab stops, and an unknown width,
become tabs; any other use of tabs is mixed. Giving tabs up makes a signature mixed as well. -/
def overrideStyle (s : Settings) (sig : Signature) : Signature :=
  let sig := match s.useTabs with
    | some true => if sig.isUnknown || sig.width == 8 then .tabs 8 else .mixed sig.width
    | some false => sig.withStyle .mixed
    | none => sig
  if s.mixedMode = some true then sig.withStyle .mixed else sig

/-- The signature with the settings laid over it, presets included. -/
def override (s : Settings) (sig : Signature) : Signature :=
  let s := s.withFallbacks
  s.overrideStyle (s.overrideWidth sig)

end Settings

/-- The verdict that votes and settings give. -/
def Histogram.verdict (h : Histogram) (s : Settings) : Signature :=
  match h.winner? with
  | none => .unknown
  | some winner => s.override (h.promoteMixed winner)

/-- Without votes the verdict is unknown, whatever the settings say. -/
@[simp] theorem verdict_nil (s : Settings) : Histogram.verdict [] s = .unknown := rfl

/-! ## The record of a verdict -/

/-- The signatures that were voted for, in writing, with their counts. -/
def Histogram.written (h : Histogram) : Except OverlongNumber (List (List Char × Int)) :=
  h.mapM fun e => e.1.write.map (·, e.2)

/-- Resolves votes and settings to a verdict. The votes are written out for a record of the verdict,
whether one is kept or not, and a width that is not written leaves no verdict. -/
def resolve (h : Histogram) (s : Settings) : Except OverlongNumber Signature := do
  let some winner := h.winner? | return .unknown
  let verdict := s.override (h.promoteMixed winner)
  let _ ← h.written
  return verdict

end Indentation
