import Mathlib
import Indentation.Proofs.Verdict

/-!
# Verdicts and the choice about tabs

A directive may say whether tabs are used. Settings that determine a verdict by themselves follow it
(`explicitStyle`), and so do settings that are laid over the votes (`layeredStyle`), each in its own
way: tabs that are given up become spaces in the one case and a mixture in the other.

That tabs are never replaced by spaces where a directive asks for them rests on one fact about the
settings: mixed mode is never ruled out (`Settings.WellFormed`).

## Main statements

* `detect_respects_tab_choice` — a verdict does not contradict the choice about tabs
-/

namespace Indentation

namespace Settings

variable {s : Settings}

theorem explicitStyle_true_ne_spaces (hmixed : s.mixedMode ≠ some false) :
    s.explicitStyle true ≠ .spaces := by
  have hdefault : s.mixedMode.getD true = true := by
    cases hm : s.mixedMode with
    | none => rfl
    | some b =>
      cases b with
      | false => exact absurd hm hmixed
      | true => rfl
  unfold explicitStyle
  rw [hdefault, if_pos rfl, if_pos rfl]
  split
  · decide
  · split <;> decide

theorem explicitStyle_false_ne_tabs (s : Settings) : s.explicitStyle false ≠ .tabs := by
  unfold explicitStyle
  rw [if_neg (show ¬false = true by decide)]
  split
  · split <;> decide
  · decide

theorem layeredStyle_ne_spaces (h : s.useTabs = some true) (sig : Signature) :
    s.layeredStyle sig ≠ .spaces := by
  unfold layeredStyle
  rw [h]
  dsimp only
  split
  · decide
  · split <;> decide

theorem layeredStyle_ne_tabs (h : s.useTabs = some false) (sig : Signature) :
    s.layeredStyle sig ≠ .tabs := by
  unfold layeredStyle
  rw [h]
  dsimp only
  split <;> decide

/-- A preset does not take the place of an explicit choice. -/
theorem useTabs_withFallbacks {b : Bool} (h : s.useTabs = some b) :
    s.withFallbacks.useTabs = some b := by
  rw [withFallbacks_useTabs, h]
  rfl

end Settings

/--
**A verdict does not contradict the choice about tabs**, whatever else is set and whatever the lines
vote for.

The choice is the one in the settings that the verdict is formed from, before any preset fills a gap.
-/
theorem detect_respects_tab_choice (skipDocs : Bool) (text : List Char) (v : Signature)
    (h : detect skipDocs text = .ok v) :
    ∃ s, settledSettings text = .ok s ∧ (s.useTabs = some true → v.style ≠ .spaces) ∧
      (s.useTabs = some false → v.style ≠ .tabs) := by
  obtain ⟨s, hs, hv⟩ := exists_of_detect h
  refine ⟨s, hs, ?_⟩
  cases hverdict : s.verdict? with
  | some v' =>
    obtain rfl : v = v' := by rw [hv, hverdict, Option.getD_some]
    obtain ⟨-, useTabs, htabs, hstyle⟩ := Settings.verdict?_eq_some_iff.mp hverdict
    rw [htabs, hstyle]
    constructor
    · intro htrue
      obtain rfl := Option.some.inj htrue
      exact Settings.explicitStyle_true_ne_spaces (wellFormed_of_settled hs).mixedMode_ne_false
    · intro hfalse
      obtain rfl := Option.some.inj hfalse
      exact s.explicitStyle_false_ne_tabs
  | none =>
    rw [hverdict, Option.getD_none] at hv
    rcases verdict_cases (fun _ hsig => known_of_mem_histogramOf hsig) s with
      ⟨-, hunknown⟩ | ⟨sig, hsig, heq⟩
    · rw [hv, hunknown]
      exact ⟨fun _ => by decide, fun _ => by decide⟩
    · rw [hv, heq, s.override_eq hsig.isUnknown_eq_false]
      constructor
      · intro htrue
        exact Settings.layeredStyle_ne_spaces (Settings.useTabs_withFallbacks htrue) _
      · intro hfalse
        exact Settings.layeredStyle_ne_tabs (Settings.useTabs_withFallbacks hfalse) _

/-- A modeline that keeps tabs makes them of levels of eight spaces. -/
theorem detect_respects_tab_choice_eight_spaces :
    detect false "# vim: noet\na\n        b\n".toList = .ok (.tabs 8) ∧
      settledSettings "# vim: noet\na\n        b\n".toList = .ok { useTabs := some true } ∧
      (Signature.tabs 8).style ≠ .spaces := by
  have hdetect : detect false "# vim: noet\na\n        b\n".toList = .ok (.tabs 8) := by cbv
  have hsettled : settledSettings "# vim: noet\na\n        b\n".toList
      = .ok { useTabs := some true } := by cbv
  obtain ⟨s, hs, htrue, -⟩ := detect_respects_tab_choice false _ _ hdetect
  obtain rfl := Except.ok.inj (hs.symm.trans hsettled)
  exact ⟨hdetect, hsettled, htrue rfl⟩

end Indentation
