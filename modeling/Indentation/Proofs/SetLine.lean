import Mathlib
import Indentation.Proofs.FirstLineSearch
import Indentation.Proofs.LocalVariables
import Indentation.Proofs.Modeline
import Indentation.Proofs.Settle

/-!
# A modeline that decides

The line `-- vim: set sts=4 et :` is a modeline of the second form. It says everything that a verdict
needs, a width and that tabs are not used, so the pass over a text ends at such a line at the latest.

## What the line can be read as

The line is cut at its blanks and colons alone, which its one open place, the first option, is to hold
none of (`PlainOption`). Form one does not take a colon with nothing behind it for the end of a list
(`formOne?_set`), and form two gives the options (`formTwo?_set`). The line carries no other directive:
it holds no semicolon, and the word before its first colon is no name of a variable
(`read_of_entry?_setLine`).

## Main statements

* `feed_setLine` — the options of the line are all that is read on it
* `detect_complete_modeline` — a line that sets the soft tab stop and turns tabs off ends the pass
-/

namespace Indentation

open Text

/-- A key that ends like the tag is no name of a variable. -/
theorem Variable.read_of_getLast? {v : Variable} (h : v.key.getLast? = some 'm') :
    v.read = .ok none := by
  have hname : ∀ name : String, name.toList.getLast? ≠ some 'm' →
      String.ofList v.key ≠ name := by
    rintro name hlast rfl
    rw [String.toList_ofList] at hlast
    exact hlast h
  unfold Variable.read
  split
  · next hkey => exact absurd hkey (hname _ (by decide))
  · next hkey => exact absurd hkey (hname _ (by decide))
  · next hkey => exact absurd hkey (hname _ (by decide))
  · next hkey => exact absurd hkey (hname _ (by decide))
  · rfl

namespace Modeline

/-! ## The line -/

/-- A modeline of the second form with a first option and the choice of spaces. -/
def setLine (option : List Char) : List Char :=
  ['-', '-', ' ', 'v', 'i', 'm', ':', ' ', 's', 'e', 't', ' '] ++ option ++ [' ', 'e', 't', ' ', ':']

section SetLine

variable {option : List Char}

theorem mem_or_mem_of_mem_setLine {c : Char} (hc : c ∈ setLine option) :
    c ∈ option ∨ c ∈ ['-', ' ', 'v', 'i', 'm', ':', 's', 'e', 't'] := by
  simp only [setLine, List.mem_append, List.mem_cons, List.not_mem_nil, or_false] at hc ⊢
  grind

theorem isEol_of_mem_setLine (h : PlainOption option) :
    ∀ c ∈ setLine option, Line.isEol c = false := by
  intro c hc
  rcases mem_or_mem_of_mem_setLine hc with hc | hc
  · exact (h.plain c hc).isEol_eq_false
  · have hall : ∀ c ∈ ['-', ' ', 'v', 'i', 'm', ':', 's', 'e', 't'], Line.isEol c = false :=
      forall_mem_of_all (by decide)
    exact hall c hc

/-- What stands behind the tag. -/
theorem tagTails_setLine (h : PlainOption option) :
    tagTails (setLine option)
      = [['s', 'e', 't'] ++ ' ' :: (option ++ ' ' :: (['e', 't'] ++ ' ' :: [':']))] := by
  have hline : setLine option = ['-', '-'] ++ ' ' :: (['v', 'i', 'm', ':'] ++ ' ' ::
      (['s', 'e', 't'] ++ ' ' :: (option ++ ' ' :: (['e', 't'] ++ ' ' :: [':'])))) := by
    simp [setLine]
  -- behind the tag there is no colon but the last character
  have hbehind : ':' ∉ [' ', 's', 'e', 't', ' '] ++ option ++ [' ', 'e', 't'] := by
    have hoption := not_mem_of_isPlain h.plain (d := ':') (by simp)
    simp [hoption]
  have hlater : tagTails (' ' :: (['s', 'e', 't'] ++ ' ' :: (option ++ ' ' ::
      (['e', 't'] ++ ' ' :: [':'])))) = [] := by
    have hcolon : tagTails (' ' :: [':']) = [] := by decide
    simpa [hcolon] using tagTails_append_space hbehind [':']
  rw [hline, tagTails_vim (by decide), hlater]
  rfl

/-- The colon at the end is no option of form one. -/
theorem formOne?_set (h : PlainOption option) :
    formOne? (['s', 'e', 't'] ++ ' ' :: (option ++ ' ' :: (['e', 't'] ++ ' ' :: [':']))) = none := by
  have htrim : trimEnd (['s', 'e', 't'] ++ ' ' :: (option ++ ' ' :: (['e', 't'] ++ ' ' :: [':'])))
      = ['s', 'e', 't'] ++ ' ' :: (option ++ ' ' :: (['e', 't'] ++ ' ' :: [':'])) := by
    have hlast := trimEnd_concat_of_not_blank isBlank_colon
      (['s', 'e', 't'] ++ ' ' :: (option ++ ' ' :: (['e', 't'] ++ [' '])))
    simpa using hlast
  have hsep : dropSeparator [':'] = [] := by decide
  refine formOne?_of_not_isOptionList ?_
  rw [htrim, isOptionList_append_space PlainOption.set.bare, dropSeparator_append h.bare,
    isOptionList_append_space h.bare, dropSeparator_append PlainOption.et.bare,
    isOptionList_append_space PlainOption.et.bare, hsep, isOptionList_nil]

theorem formTwo?_set (h : PlainOption option) :
    formTwo? (['s', 'e', 't'] ++ ' ' :: (option ++ ' ' :: (['e', 't'] ++ ' ' :: [':'])))
      = some [option, ['e', 't']] := by
  have hoptions : ∀ o ∈ [option, ['e', 't']], PlainOption o := by
    simp [h, PlainOption.et]
  have htwo := formTwo?_intercalate (List.cons_ne_nil _ _) hoptions
    (show ∀ c ∈ [' '], c = ' ' by simp) []
  simpa using htwo

theorem options?_setLine (h : PlainOption option) :
    options? (setLine option) = some [option, ['e', 't']] := by
  unfold options?
  dsimp only
  rw [tagTails_setLine h, List.findSome?_singleton, List.findSome?_singleton, formOne?_set h,
    formTwo?_set h]
  rfl

/-! ### Other directives -/

theorem firstLine_readings_setLine (h : PlainOption option) :
    FirstLine.readings (setLine option) = [] := by
  have hsemicolon : ';' ∉ setLine option := by
    intro hmem
    rcases mem_or_mem_of_mem_setLine hmem with hmem | hmem
    · exact not_mem_of_isPlain h.plain (by simp) hmem
    · exact absurd hmem (by decide)
  have hnone : FirstLine.variables? (setLine option) = none :=
    (FirstLine.isFirst_variables? _).eq_none_iff.mpr fun _ _ _ =>
      FirstLine.not_admissible_of_not_mem hsemicolon
  rw [FirstLine.readings, hnone]

/-- In a list of local variables, the line sets no known variable. -/
theorem read_of_entry?_setLine (h : PlainOption option) {affixes : LocalVariables.Affixes}
    {v : Variable} (hv : LocalVariables.entry? affixes (setLine option) = some v) :
    v.read = .ok none := by
  obtain ⟨before, behind, hline, -, hne, hblank, -⟩ := LocalVariables.exists_of_entry? hv
  obtain ⟨k, c, hkey⟩ : ∃ k c, v.key = k ++ [c] := by
    rcases List.eq_nil_or_concat v.key with hnil | ⟨k, c, hkey⟩
    · exact absurd hnil hne
    · exact ⟨k, c, by simpa using hkey⟩
  have hc : isBlank c = false := hblank c (by simp [hkey])
  have hlast : (before ++ v.key).getLast? = some c := by
    rw [hkey, ← List.append_assoc, List.getLast?_concat]
  have hno : ':' ∉ [' ', 's', 'e', 't', ' '] ++ option ++ [' ', 'e', 't', ' '] := by
    intro hmem
    rcases List.mem_append.mp hmem with hmem | hmem
    · rcases List.mem_append.mp hmem with hmem | hmem
      · exact absurd hmem (by decide)
      · exact not_mem_of_isPlain h.plain (by simp) hmem
    · exact absurd hmem (by decide)
  have hsplit : before ++ v.key ++ ':' :: behind = ['-', '-', ' ', 'v', 'i', 'm'] ++ ':' ::
      ([' ', 's', 'e', 't', ' '] ++ option ++ [' ', 'e', 't', ' '] ++ ':' :: []) := by
    rw [← hline]
    simp [setLine]
  rcases eq_or_exists_of_append_cons (by decide) hsplit with ⟨hfirst, -⟩ | ⟨r, hlater, hrest⟩
  · have hm : some 'm' = some c := by
      rw [← hlast, hfirst]
      rfl
    refine Variable.read_of_getLast? ?_
    rw [hkey, List.getLast?_concat, hm]
  · -- the second colon has a blank before it, which would belong to the key
    rcases eq_or_exists_of_append_cons hno hrest.symm with ⟨hr, -⟩ | ⟨r', -, hnil⟩
    · have hspace : some ' ' = some c := by
        rw [← hlast, hlater, hr]
        simp [List.getLast?_append, List.getLast?_cons]
      rw [← Option.some.inj hspace] at hc
      cases hc
    · simp at hnil

theorem read_of_feed_setLine (h : PlainOption option) {scanner : LocalVariables.Scanner}
    {v : Variable} (hv : (LocalVariables.feed scanner (setLine option)).2 = some v) :
    v.read = .ok none := by
  obtain ⟨affixes, hentry⟩ := LocalVariables.exists_entry?_of_feed hv
  exact read_of_entry?_setLine h hentry

/-- **The options of the line are all that is read on it.** -/
theorem feed_setLine (h : PlainOption option) (d : DirectiveState) (number : Nat) :
    d.feed number (setLine option) = (readOption option).map fun r =>
      ⟨(d.settings.applyReading r).apply (.useTabs false),
        (LocalVariables.feed d.scanner (setLine option)).1⟩ := by
  have hfirst : (if number < FirstLine.window then FirstLine.readings (setLine option) else [])
      = [] := by
    rw [firstLine_readings_setLine h, ite_self]
  have het : readOption ['e', 't'] = .ok (some (.useTabs false)) := rfl
  have hreadings : readings (setLine option) = [readOption option, .ok (some (.useTabs false))] := by
    rw [readings, options?_setLine h, ← het]
    rfl
  have hlocal : ∀ s : Settings, s.applyAll
      ((LocalVariables.feed d.scanner (setLine option)).2.map Variable.read).toList = (s, none) := by
    intro s
    cases hv : (LocalVariables.feed d.scanner (setLine option)).2 with
    | none => rfl
    | some v =>
      rw [Option.map_some, read_of_feed_setLine h hv]
      rfl
  -- an error of the first option ends the line before its second option is read
  rw [DirectiveState.feed_eq, DirectiveState.readings, hfirst, hreadings, List.nil_append,
    List.cons_append, List.singleton_append]
  cases readOption option with
  | error e => rfl
  | ok r =>
    rw [Settings.applyAll, Settings.applyAll, hlocal]
    rfl

end SetLine

/-- The option that sets the soft tab stop to a width that is written in digits. -/
theorem readOption_softTabStop {ds : List Char} (hds : ∀ c ∈ ds, c.isDigit = true)
    (hlimit : ds.length ≤ Numeral.limit) (hpos : 0 < Numeral.value ds) :
    readOption (['s', 't', 's'] ++ '=' :: ds) = .ok (some (.softTabStop (Numeral.value ds))) := by
  have hcut : cutAt? '=' (['s', 't', 's'] ++ '=' :: ds) = some (['s', 't', 's'], ds) :=
    cutAt?_eq_some_iff.mpr ⟨rfl, by decide⟩
  have hname : softTabStopNames.contains (String.ofList (lowercase ['s', 't', 's'])) = true := by
    decide
  have hwidth : Numeral.width? ds = .ok (some (Numeral.value ds)) := by
    rw [Numeral.width?_eq_some_iff, Numeral.trim_of_digits hds]
    exact ⟨hds, hlimit, rfl, hpos⟩
  unfold readOption
  rw [hcut]
  dsimp only
  rw [hwidth]
  simp only [Except.map, Option.bind_some, if_pos hname]

end Modeline

/-! ## The verdict -/

/-- A soft tab stop without tabs determines a verdict. -/
theorem Settings.verdict?_of_softTabStop (s : Settings) (w : Int) :
    ((s.apply (.softTabStop w)).apply (.useTabs false)).verdict?
      = some (if s.mixedMode = some true then .mixed w else .spaces w) := by
  obtain ⟨soft, tab, useTabs, mixed⟩ := s
  rcases mixed with _ | _ | _ <;> rfl

section Detect

variable {text : List Char} {before after : List Line} {l : Line} {d : DirectiveState}

theorem detect_of_setLine (htext : Line.ofText text = before ++ l :: after)
    (hopen : ({} : DirectiveState).Open 0 before)
    (hrun : ({} : DirectiveState).feedAll 0 before = .ok d) {ds : List Char}
    (hds : ∀ c ∈ ds, c.isDigit = true) (hlimit : ds.length ≤ Numeral.limit)
    (hpos : 0 < Numeral.value ds)
    (hl : l.text = Modeline.setLine (['s', 't', 's'] ++ '=' :: ds)) (skipDocs : Bool) :
    detect skipDocs text = .ok (if d.settings.mixedMode = some true then .mixed (Numeral.value ds)
      else .spaces (Numeral.value ds)) := by
  have hoption : Modeline.PlainOption (['s', 't', 's'] ++ '=' :: ds) :=
    .assign_digits ⟨⟨_, _, rfl, by decide⟩, forall_mem_of_all (by decide)⟩ hds
  have hfeed := Modeline.feed_setLine hoption d before.length
  rw [← hl, Modeline.readOption_softTabStop hds hlimit hpos] at hfeed
  exact detect_of_decided htext hopen hrun hfeed (Settings.verdict?_of_softTabStop _ _) skipDocs

/--
**A modeline that sets the soft tab stop and turns tabs off decides**, if nothing was decided before
it.

The verdict is the soft tab stop with spaces, unless a line before it asked for mixed mode: turning
tabs off in a modeline does not take that back.
-/
theorem detect_complete_modeline (skipDocs : Bool) (text : List Char) (before after : List Line)
    (l : Line) (ds : List Char) (d : DirectiveState)
    (htext : Line.ofText text = before ++ l :: after)
    (hl : l.text = "-- vim: set sts=".toList ++ ds ++ " et :".toList)
    (hds : ∀ c ∈ ds, c.isDigit = true) (hlimit : ds.length ≤ Numeral.limit)
    (hpos : 0 < Numeral.value ds) (hopen : ({} : DirectiveState).Open 0 before)
    (hrun : ({} : DirectiveState).feedAll 0 before = .ok d) :
    detect skipDocs text = .ok (if d.settings.mixedMode = some true then .mixed (Numeral.value ds)
      else .spaces (Numeral.value ds)) := by
  have hset : l.text = Modeline.setLine (['s', 't', 's'] ++ '=' :: ds) := by
    rw [hl]
    simp [Modeline.setLine]
  exact detect_of_setLine htext hopen hrun hds hlimit hpos hset skipDocs

/-- A tab stop without a choice about tabs does not decide before the line. -/
theorem detect_complete_modeline_behind_tab_stop :
    Line.ofText "# vim: ts=8\n-- vim: set sts=4 et :\n\ta\n".toList
        = [⟨[], "# vim: ts=8".toList⟩] ++ ⟨[], "-- vim: set sts=4 et :".toList⟩ :: [⟨['\t'], ['a']⟩] ∧
      (⟨[], "-- vim: set sts=4 et :".toList⟩ : Line).text
        = "-- vim: set sts=".toList ++ ['4'] ++ " et :".toList ∧
      (∀ c ∈ ['4'], c.isDigit = true) ∧ ['4'].length ≤ Numeral.limit ∧ 0 < Numeral.value ['4'] ∧
      ({} : DirectiveState).Open 0 [⟨[], "# vim: ts=8".toList⟩] ∧
      ({} : DirectiveState).feedAll 0 [⟨[], "# vim: ts=8".toList⟩]
        = .ok ⟨{ tabStop := some 8 }, none⟩ ∧
      detect true "# vim: ts=8\n-- vim: set sts=4 et :\n\ta\n".toList = .ok (.spaces 4) := by
  have hfeed : ({} : DirectiveState).feed 0 "# vim: ts=8".toList
      = .ok ⟨{ tabStop := some 8 }, none⟩ := by cbv
  have hopen : ({} : DirectiveState).Open 0 [⟨[], "# vim: ts=8".toList⟩] :=
    .cons rfl hfeed (DirectiveState.open_nil rfl 1)
  have hrun : ({} : DirectiveState).feedAll 0 [⟨[], "# vim: ts=8".toList⟩]
      = .ok ⟨{ tabStop := some 8 }, none⟩ := DirectiveState.feedAll_cons_of_ok hfeed []
  have htext : Line.ofText "# vim: ts=8\n-- vim: set sts=4 et :\n\ta\n".toList
      = [⟨[], "# vim: ts=8".toList⟩] ++ ⟨[], "-- vim: set sts=4 et :".toList⟩ :: [⟨['\t'], ['a']⟩] := by
    cbv
  have hl : (⟨[], "-- vim: set sts=4 et :".toList⟩ : Line).text
      = "-- vim: set sts=".toList ++ ['4'] ++ " et :".toList := by cbv
  have hds : ∀ c ∈ ['4'], c.isDigit = true := forall_mem_of_all (by decide)
  have hlimit : ['4'].length ≤ Numeral.limit := by decide
  have hpos : 0 < Numeral.value ['4'] := by decide
  exact ⟨htext, hl, hds, hlimit, hpos, hopen, hrun,
    detect_complete_modeline true _ _ _ _ _ _ htext hl hds hlimit hpos hopen hrun⟩

/-- Mixed mode from a first line outlives a modeline that turns tabs off. -/
theorem mixed_mode_outlives_modeline :
    Line.ofText "-*- mode: C; indent-tabs-mode: t; -*-\n-- vim: set sts=4 et :\n".toList
        = [⟨[], "-*- mode: C; indent-tabs-mode: t; -*-".toList⟩,
          ⟨[], "-- vim: set sts=4 et :".toList⟩] ∧
      ({} : DirectiveState).Open 0 [⟨[], "-*- mode: C; indent-tabs-mode: t; -*-".toList⟩] ∧
      ({} : DirectiveState).feedAll 0 [⟨[], "-*- mode: C; indent-tabs-mode: t; -*-".toList⟩]
        = .ok ⟨{ useTabs := some true, mixedMode := some true }, none⟩ ∧
      detect false "-*- mode: C; indent-tabs-mode: t; -*-\n-- vim: set sts=4 et :\n".toList
        = .ok (.mixed 4) := by
  have hfeed : ({} : DirectiveState).feed 0 "-*- mode: C; indent-tabs-mode: t; -*-".toList
      = .ok ⟨{ useTabs := some true, mixedMode := some true }, none⟩ := by cbv
  have hopen : ({} : DirectiveState).Open 0 [⟨[], "-*- mode: C; indent-tabs-mode: t; -*-".toList⟩] :=
    .cons rfl hfeed (DirectiveState.open_nil rfl 1)
  have hrun : ({} : DirectiveState).feedAll 0 [⟨[], "-*- mode: C; indent-tabs-mode: t; -*-".toList⟩]
      = .ok ⟨{ useTabs := some true, mixedMode := some true }, none⟩ :=
    DirectiveState.feedAll_cons_of_ok hfeed []
  have htext : Line.ofText "-*- mode: C; indent-tabs-mode: t; -*-\n-- vim: set sts=4 et :\n".toList
      = [⟨[], "-*- mode: C; indent-tabs-mode: t; -*-".toList⟩,
          ⟨[], "-- vim: set sts=4 et :".toList⟩] := by cbv
  have hl : (⟨[], "-- vim: set sts=4 et :".toList⟩ : Line).text
      = Modeline.setLine (['s', 't', 's'] ++ '=' :: ['4']) := by cbv
  have hds : ∀ c ∈ ['4'], c.isDigit = true := forall_mem_of_all (by decide)
  have hdetect := detect_of_setLine htext hopen hrun hds (by decide) (by decide) hl false
  exact ⟨htext, hopen, hrun, hdetect⟩

end Detect

end Indentation
