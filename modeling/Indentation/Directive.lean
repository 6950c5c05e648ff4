import Indentation.Settings

/-!
# Directives

A directive is one instruction on indentation that an editor finds in a text. How directives are
written is the matter of `Indentation.Directive.Modeline` (options after a tag such as `vim:`) and
of `Indentation.Directive.FirstLine` and `Indentation.Directive.LocalVariables` (variables with
values). Here is what they do to the settings.

A text with an overlong width cannot be read as a directive. Directives are applied in order up to
the first such text.

## Main statements

* `Settings.applyAll_append` — applying a list is applying its parts one after the other
* `Settings.applyAll_append_of_error` — nothing is applied after an error
-/

namespace Indentation

/-- The effect of a known value of the variable that switches tabs on or off. -/
structure TabMode where
  useTabs : Bool
  /-- `none` takes an earlier request for mixed mode back. -/
  mixedMode : Option Bool
  deriving DecidableEq, Repr

/-- The values of the variable that switches tabs on or off. -/
def TabMode.table : List (String × TabMode) :=
  [("t", ⟨true, some true⟩), ("nil", ⟨false, none⟩)]

/-- A named style of indentation. -/
structure Preset where
  softTabStop : Int
  tabStop : Int
  /-- `none` leaves open whether tabs are used. -/
  useTabs : Option Bool
  deriving DecidableEq, Repr

/-- The named styles. -/
def Preset.table : List (String × Preset) :=
  let kr : Preset := ⟨4, 8, some true⟩
  [("kr", kr), ("k&r", kr), ("bsd", kr), ("whitesmith", kr), ("stroustrup", kr),
    ("linux", ⟨8, 8, some true⟩), ("gnu", ⟨2, 8, some true⟩), ("ellemtel", ⟨3, 3, some false⟩),
    ("java", ⟨4, 8, none⟩)]

/-- One instruction on indentation. -/
inductive Directive where
  | softTabStop (width : Int)
  | tabStop (width : Int)
  /-- Sets the tab stop unless it is set already. -/
  | basicOffset (width : Int)
  | useTabs (b : Bool)
  | tabMode (mode : TabMode)
  | preset (p : Preset)
  deriving DecidableEq, Repr

/-- The settings after one directive. -/
def Settings.apply (s : Settings) : Directive → Settings
  | .softTabStop width => { s with softTabStop := some width }
  | .tabStop width => { s with tabStop := some width }
  | .basicOffset width => { s with tabStop := s.tabStop <|> some width }
  | .useTabs b => { s with useTabs := some b }
  | .tabMode mode => { s with useTabs := some mode.useTabs, mixedMode := mode.mixedMode }
  | .preset p =>
    { s with
      styleSoftTabStop := some p.softTabStop
      styleTabStop := some p.tabStop
      styleUseTabs := p.useTabs <|> s.styleUseTabs }

/-- What reading a piece of text as a directive gives: a directive, none where the text is not one,
or an error where a width is overlong. -/
abbrev DirectiveReading := Except OverlongNumeral (Option Directive)

/-- The settings after a piece of text that was read as a directive. -/
def Settings.applyReading (s : Settings) (r : Option Directive) : Settings :=
  r.elim s s.apply

/-- The settings after the readings of a list, and the error that ended it early, if one did. -/
def Settings.applyAll (s : Settings) : List DirectiveReading → Settings × Option OverlongNumeral
  | [] => (s, none)
  | .error e :: _ => (s, some e)
  | .ok r :: rest => (s.applyReading r).applyAll rest

/-- Applying a list that ends without error and then another is applying both as one list. -/
theorem Settings.applyAll_append {s t : Settings} {rs : List DirectiveReading}
    (h : s.applyAll rs = (t, none)) (rs' : List DirectiveReading) :
    s.applyAll (rs ++ rs') = t.applyAll rs' := by
  induction rs generalizing s with
  | nil =>
    simp only [applyAll, Prod.mk.injEq, and_true] at h
    simp [h]
  | cons r rs ih =>
    cases r with
    | error e => simp [applyAll] at h
    | ok r => exact ih h

/-- An error ends the list for good. -/
theorem Settings.applyAll_append_of_error {s t : Settings} {rs : List DirectiveReading}
    {e : OverlongNumeral} (h : s.applyAll rs = (t, some e)) (rs' : List DirectiveReading) :
    s.applyAll (rs ++ rs') = (t, some e) := by
  induction rs generalizing s with
  | nil => simp [applyAll] at h
  | cons r rs ih =>
    cases r with
    | error e => simpa [applyAll] using h
    | ok r => exact ih h

end Indentation
