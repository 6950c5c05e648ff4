import Indentation.Signature

/-!
# Settings

What the directives of a text say about its indentation. Explicit settings are taken over from the
directives one by one. A named preset fills fields of its own, which only count where no explicit
setting was made.

## Main statements

* `withFallbacks_softTabStop`, `withFallbacks_tabStop`, `withFallbacks_useTabs` — an explicit
  setting is kept, and a preset fills the gap
-/

namespace Indentation

/-- What directives say about indentation. The last three fields are those that a preset sets. A
field that nothing has set is `none`. -/
structure Settings where
  /-- The columns per level of editing. -/
  softTabStop : Option Int := none
  /-- The columns that a tab stands for. -/
  tabStop : Option Int := none
  useTabs : Option Bool := none
  mixedMode : Option Bool := none
  styleSoftTabStop : Option Int := none
  styleTabStop : Option Int := none
  styleUseTabs : Option Bool := none
  deriving DecidableEq, Repr, Inhabited

namespace Settings

/-- The verdict, if the explicit settings alone determine it: a width and whether tabs are used. The
soft tab stop goes before the tab stop. -/
def verdict? (s : Settings) : Option Signature :=
  match s.softTabStop, s.tabStop, s.useTabs with
  | some width, _, some useTabs =>
    some (if s.mixedMode.getD useTabs then .mixed width else .spaces width)
  | none, some width, some true =>
    some (if s.mixedMode = some true then .mixed width else .tabs width)
  | none, some width, some false => some (.spaces width)
  | _, _, _ => none

/-- The settings with every gap that the preset can fill filled by it. -/
def withFallbacks (s : Settings) : Settings :=
  { s with
    softTabStop := s.softTabStop <|> s.styleSoftTabStop
    tabStop := s.tabStop <|> s.styleTabStop
    useTabs := s.useTabs <|> s.styleUseTabs }

/-- An explicit soft tab stop is kept, and the preset fills the gap. -/
@[simp] theorem withFallbacks_softTabStop (s : Settings) :
    s.withFallbacks.softTabStop = (s.softTabStop <|> s.styleSoftTabStop) := rfl

/-- An explicit tab stop is kept, and the preset fills the gap. -/
@[simp] theorem withFallbacks_tabStop (s : Settings) :
    s.withFallbacks.tabStop = (s.tabStop <|> s.styleTabStop) := rfl

/-- An explicit choice about tabs is kept, and the preset fills the gap. -/
@[simp] theorem withFallbacks_useTabs (s : Settings) :
    s.withFallbacks.useTabs = (s.useTabs <|> s.styleUseTabs) := rfl

end Settings

end Indentation
