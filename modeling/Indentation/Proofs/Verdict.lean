import Mathlib
import Indentation.Proofs.ClassifierState
import Indentation.Proofs.Settings

/-!
# What a verdict says

A verdict is known or unknown, and a known one has a positive width (`Signature.Known`). Its width
comes from a vote, from a directive or from a preset, and all of these are positive.

## Which width counts

Settings that determine a verdict by themselves give it the soft tab stop, or else the tab stop
(`verdict?_eq`). Laid over the votes, they give it the soft tab stop, then the soft tab stop of the
preset, then the tab stop (`layeredWidth`). So a preset goes before an explicit tab stop, but only
where no directive says whether tabs are used.

## Main statements

* `detect_known_or_unknown` — a verdict is unknown exactly if there is no evidence
* `width_detect` — the width of a known verdict, by the settled settings
-/

namespace Indentation

/-- A signature that says how a text is indented. -/
structure Signature.Known (sig : Signature) : Prop where
  style_ne_unknown : sig.style ≠ .unknown
  width_pos : 0 < sig.width

theorem Signature.Known.isUnknown_eq_false {sig : Signature} (h : sig.Known) :
    sig.isUnknown = false := by
  simpa [Signature.isUnknown] using h.style_ne_unknown

theorem Signature.Known.of_pos {style : Style} {w : Int} (hstyle : style ≠ .unknown) (hw : 0 < w) :
    (Signature.mk style w).Known :=
  ⟨hstyle, hw⟩

/-! ## Votes are known -/

section Votes

theorem Signature.IsVote.known {sig : Signature} (h : sig.IsVote) : sig.Known := by
  cases h with
  | spaces hn | mixed hn => exact .of_pos (by decide) hn
  | tabs => exact .of_pos (by decide) (by decide)

/-- What indents a line are spaces and tabs. -/
theorem Line.isIndent_of_mem_ofText {text : List Char} {l : Line} (hl : l ∈ ofText text) :
    ∀ c ∈ l.indent, isIndent c = true := by
  obtain ⟨s, -, rfl⟩ := List.mem_map.mp hl
  exact List.all_eq_true.mp List.all_takeWhile

theorem histogramOf_eq (skipDocs : Bool) (text : List Char) :
    histogramOf skipDocs text
      = .ofVotes (Classifier.castVotes skipDocs {} (Line.ofText text)) :=
  Classifier.histogram_feedAll_start skipDocs (Line.ofText text)

theorem known_of_mem_histogramOf {skipDocs : Bool} {text : List Char} {sig : Signature}
    (h : sig ∈ (histogramOf skipDocs text).keys) : sig.Known := by
  rw [histogramOf_eq, Histogram.mem_keys_ofVotes] at h
  have hvote : ∀ sig ∈ Classifier.castVotes skipDocs {} (Line.ofText text), sig.IsVote :=
    Classifier.forall_mem_castVotes (Q := fun w => ∀ c ∈ w, Line.isIndent c = true)
      (fun _ _ _ hprev hindent hchange => isVote_of_voteFor? hprev hindent hchange)
      (fun _ hl => Line.isIndent_of_mem_ofText hl) (by simp)
  exact (hvote sig h).known

end Votes

/-! ## Verdicts of settings -/

namespace Settings

variable {s : Settings} {sig : Signature}

/-- The style of the verdict that settings determine by themselves. -/
def explicitStyle (s : Settings) (useTabs : Bool) : Style :=
  if s.softTabStop.isSome then if s.mixedMode.getD useTabs then .mixed else .spaces
  else if useTabs then if s.mixedMode = some true then .mixed else .tabs
  else .spaces

theorem explicitStyle_ne_unknown (s : Settings) (useTabs : Bool) :
    s.explicitStyle useTabs ≠ .unknown := by
  unfold explicitStyle
  repeat' split
  all_goals decide

/-- Settings determine a verdict by a width, where the soft tab stop goes first, and by whether tabs
are used. -/
theorem verdict?_eq (s : Settings) :
    s.verdict? = (s.softTabStop <|> s.tabStop).bind fun width =>
      s.useTabs.map fun useTabs => ⟨s.explicitStyle useTabs, width⟩ := by
  obtain ⟨soft, tab, useTabs, mixed⟩ := s
  cases useTabs with
  | none => cases soft <;> cases tab <;> rfl
  | some useTabs =>
    cases soft with
    | some w => cases h : mixed.getD useTabs <;> simp [verdict?, explicitStyle, h] <;> rfl
    | none =>
      cases tab with
      | none => rfl
      | some w =>
        cases useTabs with
        | false => rfl
        | true => by_cases h : mixed = some true <;> simp [verdict?, explicitStyle, h] <;> rfl

theorem verdict?_eq_some_iff : s.verdict? = some sig ↔
    (s.softTabStop <|> s.tabStop) = some sig.width ∧
      ∃ useTabs, s.useTabs = some useTabs ∧ sig.style = s.explicitStyle useTabs := by
  rw [verdict?_eq, Option.bind_eq_some_iff]
  constructor
  · rintro ⟨width, hwidth, hsig⟩
    obtain ⟨useTabs, htabs, rfl⟩ := Option.map_eq_some_iff.mp hsig
    exact ⟨hwidth, useTabs, htabs, rfl⟩
  · rintro ⟨hwidth, useTabs, htabs, hstyle⟩
    refine ⟨sig.width, hwidth, Option.map_eq_some_iff.mpr ⟨useTabs, htabs, ?_⟩⟩
    rw [← hstyle]

theorem verdict?_eq_none_iff :
    s.verdict? = none ↔ s.useTabs = none ∨ s.softTabStop = none ∧ s.tabStop = none := by
  rw [verdict?_eq]
  cases s.useTabs <;> cases s.softTabStop <;> cases s.tabStop <;> simp

/-- Positive settings determine known verdicts. -/
theorem Positive.known_of_verdict? (hs : s.Positive) (h : s.verdict? = some sig) : sig.Known := by
  obtain ⟨hwidth, useTabs, -, hstyle⟩ := verdict?_eq_some_iff.mp h
  refine ⟨hstyle ▸ s.explicitStyle_ne_unknown useTabs, ?_⟩
  cases hsoft : s.softTabStop with
  | some w =>
    rw [hsoft] at hwidth
    exact hs.softTabStop _ (hsoft.trans hwidth)
  | none =>
    rw [hsoft] at hwidth
    exact hs.tabStop _ hwidth

/-! ## Settings laid over votes -/

/-- Settings laid over a known signature replace its width, if they hold any. -/
theorem overrideWidth_eq (s : Settings) (hsig : sig.isUnknown = false) :
    s.overrideWidth sig = ⟨sig.style, (s.softTabStop <|> s.tabStop).getD sig.width⟩ := by
  unfold overrideWidth
  cases s.softTabStop with
  | some w => exact Signature.withWidth_of_known hsig w
  | none =>
    cases s.tabStop with
    | some w => exact Signature.withWidth_of_known hsig w
    | none => rfl

/-- The style of a known signature that settings are laid over. -/
def layeredStyle (s : Settings) (sig : Signature) : Style :=
  if s.mixedMode = some true then .mixed
  else match s.useTabs with
    | some true => if sig.width = 8 then .tabs else .mixed
    | some false => .mixed
    | none => sig.style

theorem layeredStyle_ne_unknown (hsig : sig.style ≠ .unknown) :
    s.layeredStyle sig ≠ .unknown := by
  unfold layeredStyle
  split
  · decide
  · split
    · split <;> decide
    · decide
    · exact hsig

/-- The style that settings give to a known signature leaves its width alone. -/
theorem overrideStyle_eq (s : Settings) (hsig : sig.isUnknown = false) :
    s.overrideStyle sig = ⟨s.layeredStyle sig, sig.width⟩ := by
  unfold overrideStyle layeredStyle
  rcases s.useTabs with _ | _ | _
  · dsimp only
    split <;> rfl
  · dsimp only
    split <;> rfl
  · by_cases hfull : sig.width = 8
    · simp only [hsig, hfull, Bool.false_or, beq_self_eq_true, if_true]
      split <;> rfl
    · simp only [hsig, hfull, Bool.false_or, beq_iff_eq, if_false]
      split <;> rfl

/-- The width under settings and presets. An explicit soft tab stop goes first, but the soft tab stop
of a preset goes before an explicit tab stop. -/
def layeredWidth (s : Settings) (sig : Signature) : Int :=
  (s.softTabStop <|> s.styleSoftTabStop <|> s.tabStop <|> s.styleTabStop).getD sig.width

/-- **What settings and presets make of a known signature.** -/
theorem override_eq (s : Settings) (hsig : sig.isUnknown = false) :
    s.override sig
      = ⟨s.withFallbacks.layeredStyle ⟨sig.style, s.layeredWidth sig⟩, s.layeredWidth sig⟩ := by
  have hwidth : s.withFallbacks.overrideWidth sig = ⟨sig.style, s.layeredWidth sig⟩ := by
    rw [overrideWidth_eq _ hsig, withFallbacks_softTabStop, withFallbacks_tabStop]
    unfold layeredWidth
    cases s.softTabStop <;> cases s.styleSoftTabStop <;> rfl
  have hlaid : (Signature.mk sig.style (s.layeredWidth sig)).isUnknown = false := hsig
  unfold override
  dsimp only
  rw [hwidth, overrideStyle_eq _ hlaid]

/-- Positive settings laid over a known signature leave it known. -/
theorem Positive.known_override (hs : s.Positive) (hsig : sig.Known) : (s.override sig).Known := by
  rw [s.override_eq hsig.isUnknown_eq_false]
  refine .of_pos (layeredStyle_ne_unknown hsig.style_ne_unknown) ?_
  unfold layeredWidth
  cases hsoft : s.softTabStop with
  | some w => exact hs.softTabStop w hsoft
  | none =>
    cases hstyleSoft : s.styleSoftTabStop with
    | some w => exact hs.styleSoftTabStop w hstyleSoft
    | none =>
      cases htab : s.tabStop with
      | some w => exact hs.tabStop w htab
      | none =>
        cases hstyleTab : s.styleTabStop with
        | some w => exact hs.styleTabStop w hstyleTab
        | none => exact hsig.width_pos

end Settings

/-! ## Verdicts on texts -/

theorem Histogram.known_promoteMixed (h : Histogram) {sig : Signature} (hsig : sig.Known) :
    (h.promoteMixed sig).Known := by
  rcases h.promoteMixed_cases sig with heq | ⟨-, heq⟩
  · rwa [heq]
  · rw [heq]
    exact .of_pos (by decide) hsig.width_pos

/-- Votes for known signatures give the settings a known signature to be laid over, if there are any
votes. -/
theorem verdict_cases {h : Histogram} (hh : ∀ sig ∈ h.keys, sig.Known) (s : Settings) :
    h = [] ∧ h.verdict s = .unknown ∨ ∃ sig, sig.Known ∧ h.verdict s = s.override sig := by
  unfold Histogram.verdict
  cases hwin : h.winner? with
  | none => exact Or.inl ⟨Histogram.winner?_eq_none_iff.mp hwin, rfl⟩
  | some winner =>
    have hwinner := hh winner (Histogram.mem_keys_of_winner? hwin)
    exact Or.inr ⟨h.promoteMixed winner, h.known_promoteMixed hwinner, rfl⟩

/-- Votes for known signatures and positive settings give a known verdict, if there are any votes. -/
theorem Histogram.known_verdict {h : Histogram} (hh : ∀ sig ∈ h.keys, sig.Known) (hne : h ≠ [])
    {s : Settings} (hs : s.Positive) : (h.verdict s).Known := by
  rcases verdict_cases hh s with ⟨hnil, -⟩ | ⟨sig, hsig, heq⟩
  · exact absurd hnil hne
  · rw [heq]
    exact hs.known_override hsig

section Detect

variable {skipDocs : Bool} {text : List Char} {s : Settings} {v : Signature}

/-- The settled settings determine a verdict exactly if the settings do after some of the lines. -/
theorem verdict?_settled_eq_none_iff (hs : settledSettings text = .ok s) :
    s.verdict? = none ↔ ∀ k w, ¬ Decides (Line.ofText text) k w := by
  obtain ⟨k, hk, hopen⟩ := exists_settingsAfter_of_settled hs
  refine ⟨hopen, fun hdecides => ?_⟩
  cases hv : s.verdict? with
  | none => rfl
  | some w => exact absurd ⟨s, hk, hv⟩ (hdecides k w)

/-- The settled settings and the votes of a text give a known verdict, if there are either. -/
theorem known_verdict (hs : settledSettings text = .ok s)
    (h : s.verdict? ≠ none ∨ histogramOf skipDocs text ≠ []) :
    (s.verdict?.getD ((histogramOf skipDocs text).verdict s)).Known := by
  have hpos := (wellFormed_of_settled hs).toPositive
  cases hv : s.verdict? with
  | some w => exact hpos.known_of_verdict? hv
  | none =>
    have hvotes : histogramOf skipDocs text ≠ [] := h.resolve_left (absurd hv)
    exact Histogram.known_verdict (fun sig hsig => known_of_mem_histogramOf hsig) hvotes hpos

/--
**A verdict is known, with a positive width, or it is unknown, and unknown exactly if there is no
evidence**: after no line do the settings determine a verdict, and no line casts a vote.
-/
theorem detect_known_or_unknown (skipDocs : Bool) (text : List Char) (v : Signature)
    (h : detect skipDocs text = .ok v) :
    (v = .unknown ∨ v.style ≠ .unknown ∧ 1 ≤ v.width) ∧
    (v.style = .unknown ↔ (∀ k w, ¬ Decides (Line.ofText text) k w) ∧
      Classifier.castVotes skipDocs {} (Line.ofText text) = []) := by
  obtain ⟨s, hs, hv⟩ := exists_of_detect h
  have hdecides := verdict?_settled_eq_none_iff hs
  have hvotes : histogramOf skipDocs text = [] ↔
      Classifier.castVotes skipDocs {} (Line.ofText text) = [] := by
    rw [histogramOf_eq, Histogram.ofVotes_eq_nil_iff]
  by_cases hnone : s.verdict? = none ∧ histogramOf skipDocs text = []
  · have hunknown : v = .unknown := by
      rw [hv, hnone.1, hnone.2]
      rfl
    refine ⟨Or.inl hunknown, ?_⟩
    rw [hunknown, ← hdecides, ← hvotes]
    exact iff_of_true rfl hnone
  · have hknown : v.Known := by
      rw [hv]
      exact known_verdict hs (Decidable.not_and_iff_not_or_not.mp hnone)
    refine ⟨Or.inr ⟨hknown.style_ne_unknown, hknown.width_pos⟩, ?_⟩
    rw [← hdecides, ← hvotes]
    exact iff_of_false hknown.style_ne_unknown hnone

/-- A modeline that leaves the width open, in front of one level of three spaces. -/
theorem detect_known_undecided :
    detect false "# vim: noet\na\n   b\n".toList = .ok (.mixed 3) ∧
      ((Signature.mixed 3 = .unknown ∨
          (Signature.mixed 3).style ≠ .unknown ∧ 1 ≤ (Signature.mixed 3).width) ∧
        ((Signature.mixed 3).style = .unknown ↔
          (∀ k w, ¬ Decides (Line.ofText "# vim: noet\na\n   b\n".toList) k w) ∧
            Classifier.castVotes false {} (Line.ofText "# vim: noet\na\n   b\n".toList) = [])) := by
  have hdetect : detect false "# vim: noet\na\n   b\n".toList = .ok (.mixed 3) := by cbv
  exact ⟨hdetect, detect_known_or_unknown false _ _ hdetect⟩

/-- Where the votes are needed, a known verdict has the width that settings and presets give to some
signature that was voted for. -/
theorem exists_width_of_verdict {h : Histogram} (hh : ∀ sig ∈ h.keys, sig.Known)
    (hknown : (h.verdict s).style ≠ .unknown) :
    ∃ sig, (h.verdict s).width = s.layeredWidth sig := by
  rcases verdict_cases hh s with ⟨-, hunknown⟩ | ⟨sig, hsig, heq⟩
  · rw [hunknown] at hknown
    exact absurd rfl hknown
  · refine ⟨sig, ?_⟩
    rw [heq, s.override_eq hsig.isUnknown_eq_false]

/--
**The width of a known verdict.**

An explicit soft tab stop is the width. An explicit tab stop without one is the width where a
directive says whether tabs are used, as the settings determine the verdict then. Where none does, the
soft tab stop of a preset goes before it.
-/
theorem width_detect (skipDocs : Bool) (text : List Char) (v : Signature) (s : Settings)
    (h : detect skipDocs text = .ok v) (hknown : v.style ≠ .unknown)
    (hs : settledSettings text = .ok s) :
    (∀ w, s.softTabStop = some w → v.width = w) ∧
    (∀ w, s.softTabStop = none → s.tabStop = some w →
      v.width = if s.useTabs = none then s.styleSoftTabStop.getD w else w) := by
  obtain ⟨s', hs', hv⟩ := exists_of_detect h
  obtain rfl : s' = s := Except.ok.inj (hs'.symm.trans hs)
  cases hverdict : s'.verdict? with
  | some v' =>
    obtain rfl : v = v' := by rw [hv, hverdict, Option.getD_some]
    obtain ⟨hwidth, useTabs, htabs, -⟩ := Settings.verdict?_eq_some_iff.mp hverdict
    constructor
    · intro w hsoft
      rw [hsoft] at hwidth
      exact (Option.some.inj hwidth).symm
    · intro w hsoft htab
      rw [hsoft, htab] at hwidth
      rw [htabs, if_neg (by simp)]
      exact (Option.some.inj hwidth).symm
  | none =>
    rw [hverdict, Option.getD_none] at hv
    rw [hv] at hknown ⊢
    obtain ⟨sig, hwidth⟩ := exists_width_of_verdict (fun _ hsig => known_of_mem_histogramOf hsig) hknown
    rw [hwidth]
    unfold Settings.layeredWidth
    constructor
    · intro w hsoft
      rw [hsoft]
      rfl
    · intro w hsoft htab
      have htabs : s'.useTabs = none := by
        rcases Settings.verdict?_eq_none_iff.mp hverdict with htabs | ⟨-, hnone⟩
        · exact htabs
        · rw [htab] at hnone
          cases hnone
      rw [hsoft, htab, if_pos htabs]
      cases s'.styleSoftTabStop <;> rfl

/-- An explicit soft tab stop of three columns and a preset with four. -/
theorem width_detect_soft_before_preset :
    detect false "-*- mode: C; style: java; -*-\n# vim: sts=3\na\n  b\n".toList = .ok (.spaces 3) ∧
      (Signature.spaces 3).style ≠ .unknown ∧
      settledSettings "-*- mode: C; style: java; -*-\n# vim: sts=3\na\n  b\n".toList
        = .ok { softTabStop := some 3, styleSoftTabStop := some 4, styleTabStop := some 8 } ∧
      (Signature.spaces 3).width = 3 := by
  have hdetect : detect false "-*- mode: C; style: java; -*-\n# vim: sts=3\na\n  b\n".toList
      = .ok (.spaces 3) := by cbv
  have hsettled : settledSettings "-*- mode: C; style: java; -*-\n# vim: sts=3\na\n  b\n".toList
      = .ok { softTabStop := some 3, styleSoftTabStop := some 4, styleTabStop := some 8 } := by cbv
  have hknown : (Signature.spaces 3).style ≠ .unknown := by decide
  exact ⟨hdetect, hknown, hsettled,
    (width_detect false _ _ _ hdetect hknown hsettled).1 3 rfl⟩

/-- An explicit tab stop of three columns gives way to the soft tab stop of a preset. -/
theorem tab_stop_gives_way_to_preset :
    settledSettings ";; -*- mode: C; tab-width: 3; style: java; -*-\na\n  b\n".toList
        = .ok { tabStop := some 3, styleSoftTabStop := some 4, styleTabStop := some 8 } ∧
      detect false ";; -*- mode: C; tab-width: 3; style: java; -*-\na\n  b\n".toList
        = .ok (.spaces 4) :=
  ⟨by cbv, by cbv⟩

end Detect

end Indentation
