import Indentation.Proofs.Verdict

/-!
# Settings along a text

How the settings develop from line to line. They are well formed after any lines. What decides a
verdict is never unset again (`Settings.Persists`), though later directives may set it to something
else, so settings that determine a verdict do so for good. Hence it is known from the settings after
the last line whether a line decided, and what the settings can hold where none did.

## Main statements

* `settings_along_text` — the settings stay well formed and decided, and what they leave to the votes
-/

namespace Indentation

/-- What the one settings hold of the fields that decide a verdict is set in the other as well. -/
structure Settings.Persists (s t : Settings) : Prop where
  softTabStop : s.softTabStop ≠ none → t.softTabStop ≠ none
  tabStop : s.tabStop ≠ none → t.tabStop ≠ none
  useTabs : s.useTabs ≠ none → t.useTabs ≠ none

namespace Settings

variable {s t : Settings}

theorem Persists.refl (s : Settings) : s.Persists s := ⟨id, id, id⟩

/-- A text takes no width and no choice about tabs back. -/
theorem Persists.write (h : s.Persists t) (x : DirectiveText) : s.Persists (x.write t) where
  softTabStop hs := orElse_ne_none_iff.mpr (.inr (h.softTabStop hs))
  tabStop hs := orElse_ne_none_iff.mpr (.inr (orElse_ne_none_iff.mpr (.inl (h.tabStop hs))))
  useTabs hs := orElse_ne_none_iff.mpr (.inr (h.useTabs hs))

/-- Settings determine a verdict by a width and a choice about tabs. -/
theorem verdict?_ne_none_iff :
    s.verdict? ≠ none ↔ s.useTabs ≠ none ∧ (s.softTabStop ≠ none ∨ s.tabStop ≠ none) := by
  rw [ne_eq, verdict?_eq_none_iff, not_or, Decidable.not_and_iff_not_or_not]

/-- Settings that determine a verdict determine one for good. -/
theorem Persists.verdict?_ne_none (h : s.Persists t) (hs : s.verdict? ≠ none) :
    t.verdict? ≠ none := by
  obtain ⟨htabs, hwidth⟩ := verdict?_ne_none_iff.mp hs
  exact verdict?_ne_none_iff.mpr ⟨h.useTabs htabs, hwidth.imp h.softTabStop h.tabStop⟩

/-- Mixed mode without a verdict comes without a width. -/
theorem WellFormed.widths_of_mixedMode (hs : s.WellFormed) (hv : s.verdict? = none)
    (hmixed : s.mixedMode = some true) : s.softTabStop = none ∧ s.tabStop = none :=
  (verdict?_eq_none_iff.mp hv).resolve_left (hs.useTabs_of_mixedMode hmixed)

end Settings

section Lines

variable {ls : List Line} {s t : Settings}

theorem persists_settingsAfter {j k : Nat} (hjk : j ≤ k) (hs : settingsAfter ls j = .ok s)
    (ht : settingsAfter ls k = .ok t) : s.Persists t :=
  settingsAfter_invariant (fun x _ h => h.write x) hjk hs ht (.refl s)

/-- No settings come behind those after the last line. -/
theorem settingsAfter_min (ls : List Line) (k : Nat) :
    settingsAfter ls (min k ls.length) = settingsAfter ls k := by
  unfold settingsAfter
  rw [← List.take_eq_take_min]

/-- The settings after the last line tell whether a line decided. -/
theorem not_decides_iff (hs : settingsAfter ls ls.length = .ok s) :
    (∀ k v, ¬ Decides ls k v) ↔ s.verdict? = none := by
  constructor
  · intro hopen
    cases hv : s.verdict? with
    | none => rfl
    | some v => exact absurd ⟨s, hs, hv⟩ (hopen ls.length v)
  · rintro hnone k v ⟨t, ht, hv⟩
    rw [← settingsAfter_min] at ht
    have hpersists := persists_settingsAfter (Nat.min_le_right k ls.length) ht hs
    have hdecided : t.verdict? ≠ none := by simp [hv]
    exact hpersists.verdict?_ne_none hdecided hnone

end Lines

/--
**The settings along a text.**

After any lines they are well formed: their widths are positive, mixed mode is asked for only together
with a choice about tabs and never ruled out, and a preset brings both its widths. A width or a choice
about tabs that is set stays set, so settings that determine a verdict go on to determine one.

The votes are asked exactly if the settings after the last line determine no verdict. Then there is no
choice about tabs or no explicit width, and with mixed mode there is no explicit width.
-/
theorem settings_along_text (text : List Char) :
    (∀ k s, settingsAfter (Line.ofText text) k = .ok s → s.WellFormed) ∧
    (∀ j k s t, j ≤ k → settingsAfter (Line.ofText text) j = .ok s →
      settingsAfter (Line.ofText text) k = .ok t →
        s.Persists t ∧ (s.verdict? ≠ none → t.verdict? ≠ none)) ∧
    ∀ s, settingsAfter (Line.ofText text) (Line.ofText text).length = .ok s →
      ((∀ k v, ¬ Decides (Line.ofText text) k v) ↔ s.verdict? = none) ∧
      (s.verdict? = none →
        (∀ skipDocs, detect skipDocs text = .ok ((histogramOf skipDocs text).verdict s)) ∧
        (s.useTabs = none ∨ s.softTabStop = none ∧ s.tabStop = none) ∧
        (s.mixedMode = some true → s.softTabStop = none ∧ s.tabStop = none)) := by
  refine ⟨fun k s hs => wellFormed_settingsAfter hs, ?_, ?_⟩
  · intro j k s t hjk hs ht
    have hpersists := persists_settingsAfter hjk hs ht
    exact ⟨hpersists, hpersists.verdict?_ne_none⟩
  · intro s hs
    refine ⟨not_decides_iff hs, fun hnone => ⟨fun skipDocs => ?_, ?_, ?_⟩⟩
    · exact detectLines_of_not_decides ((not_decides_iff hs).mpr hnone) hs
    · exact Settings.verdict?_eq_none_iff.mp hnone
    · exact (wellFormed_settingsAfter hs).widths_of_mixedMode hnone

/-- A tab stop decides together with the choice for tabs, and a later choice against them changes the
verdict and does not take it back. With mixed mode and no width, the votes are asked. -/
theorem settings_along_text_late_choice :
    settingsAfter (Line.ofText "# vim: ts=3 noet\n# vim: et\n".toList) 1
        = .ok { tabStop := some 3, useTabs := some true } ∧
      settingsAfter (Line.ofText "# vim: ts=3 noet\n# vim: et\n".toList) 2
        = .ok { tabStop := some 3, useTabs := some false } ∧
      Settings.verdict? { tabStop := some 3, useTabs := some true } ≠ none ∧
      Settings.verdict? { tabStop := some 3, useTabs := some false } ≠ none ∧
      settingsAfter (Line.ofText "-*- mode: C; indent-tabs-mode: t; -*-\n".toList)
          (Line.ofText "-*- mode: C; indent-tabs-mode: t; -*-\n".toList).length
        = .ok { useTabs := some true, mixedMode := some true } ∧
      Settings.WellFormed { useTabs := some true, mixedMode := some true } ∧
      detect true "-*- mode: C; indent-tabs-mode: t; -*-\n".toList
        = .ok ((histogramOf true "-*- mode: C; indent-tabs-mode: t; -*-\n".toList).verdict
            { useTabs := some true, mixedMode := some true }) := by
  have hone : settingsAfter (Line.ofText "# vim: ts=3 noet\n# vim: et\n".toList) 1
      = .ok { tabStop := some 3, useTabs := some true } := by cbv
  have htwo : settingsAfter (Line.ofText "# vim: ts=3 noet\n# vim: et\n".toList) 2
      = .ok { tabStop := some 3, useTabs := some false } := by cbv
  have hlast : settingsAfter (Line.ofText "-*- mode: C; indent-tabs-mode: t; -*-\n".toList)
      (Line.ofText "-*- mode: C; indent-tabs-mode: t; -*-\n".toList).length
        = .ok { useTabs := some true, mixedMode := some true } := by cbv
  have hdecided : Settings.verdict? { tabStop := some 3, useTabs := some true } ≠ none := by decide
  have hwellFormed := (settings_along_text "-*- mode: C; indent-tabs-mode: t; -*-\n".toList).1 _ _ hlast
  have hstays := ((settings_along_text _).2.1 1 2 _ _ (by decide) hone htwo).2 hdecided
  have hvotes := (((settings_along_text _).2.2 _ hlast).2 rfl).1 true
  exact ⟨hone, htwo, hdecided, hstays, hlast, hwellFormed, hvotes⟩

end Indentation
