import Mathlib
import Indentation.Proofs.Verdict

/-!
# How far votes and settings decide

Between the votes and the verdict stand the promotion of a winner and the settings laid over it. With
no settings the votes decide alone. The verdict then need not have most votes, as a promoted winner
gives way to the mixed signature of its width, but that one has a fifth of the winner's votes at least
(`Promotes`). With a width and a choice about tabs the settings decide alone, and with a width only the
style is left to the votes.

## One more vote

A further vote for a signature leaves the winner, or makes the signature win (`winner?_vote`). For a
verdict that was promoted both happen: the mixed signature may overtake the spaces that it took the
place of, or it may not, and then has the more of a share in their votes (`Promotes.vote`).

## Main statements

* `resolve_of_no_settings` — the verdict without settings has the votes of some signature behind it,
  does not depend on the scale of the counts, and stays if it is voted for once more
* `resolve_of_settings` — settings with a width and a choice about tabs give a verdict whatever was
  voted for
-/

namespace Indentation

namespace Histogram

variable {h : Histogram} {s t : Signature} {k : Int}

/-- The entries of a histogram that counts votes for signatures with a known style. -/
structure IsEvidence (h : Histogram) : Prop where
  ne_nil : h ≠ []
  nodup : h.keys.Nodup
  count_pos : ∀ e ∈ h, 1 ≤ e.2
  style_ne_unknown : ∀ sig ∈ h.keys, sig.style ≠ .unknown

/-- Every signature in a histogram that counts votes has votes. -/
theorem IsEvidence.votes_pos (hh : h.IsEvidence) (hs : s ∈ h.keys) : 1 ≤ h.votes s := by
  obtain ⟨⟨s', n⟩, hmem, rfl⟩ := List.mem_map.mp hs
  rw [votes_of_mem hh.nodup hmem]
  exact hh.count_pos _ hmem

theorem IsEvidence.votes_nonneg (hh : h.IsEvidence) (s : Signature) : 0 ≤ h.votes s := by
  by_cases hs : s ∈ h.keys
  · exact Int.le_of_lt (hh.votes_pos hs)
  · exact Int.le_of_eq (votes_of_not_mem hs).symm

theorem IsEvidence.exists_winner (hh : h.IsEvidence) : ∃ s, h.winner? = some s :=
  Option.ne_none_iff_exists'.mp (mt winner?_eq_none_iff.mp hh.ne_nil)

/-! ## Multiplied counts -/

/-- The histogram with all counts multiplied by `k`. -/
def scale (h : Histogram) (k : Int) : Histogram := h.map fun e => (e.1, k * e.2)

theorem keys_scale (h : Histogram) (k : Int) : (h.scale k).keys = h.keys := by
  simp [scale, keys]

theorem votes_scale (h : Histogram) (k : Int) (s : Signature) :
    (h.scale k).votes s = k * h.votes s := by
  induction h with
  | nil => simp [scale, votes]
  | cons e h ih =>
    obtain ⟨t, n⟩ := e
    simp only [scale, votes, List.map_cons, List.lookup_cons] at ih ⊢
    cases s == t with
    | true => rfl
    | false => exact ih

theorem isScaled_scale (hd : h.keys.Nodup) (k : Int) : IsScaled k h (h.scale k) where
  nodup := hd
  nodup' := by rwa [keys_scale]
  mem_keys_iff s := by rw [keys_scale]
  votes_eq := votes_scale h k

/-! ## One more vote -/

/-- **A further vote leaves the winner, or makes its signature the winner.** -/
theorem winner?_vote (hd : h.keys.Nodup) (hs : h.winner? = some s) (t : Signature) :
    (h.vote t).winner? = some s ∨ (h.vote t).winner? = some t := by
  have hd' := nodup_vote hd t
  obtain ⟨hmem, hmax⟩ := (winner?_eq_some_iff hd).mp hs
  have hmem' : s ∈ (h.vote t).keys := mem_keys_vote.mpr (.inl hmem)
  cases hw : (h.vote t).winner? with
  | none =>
    rw [winner?_eq_none_iff.mp hw] at hmem'
    cases hmem'
  | some w =>
    obtain ⟨hwmem, hwmax⟩ := (winner?_eq_some_iff hd').mp hw
    by_cases hwt : w = t
    · exact .inr (congrArg some hwt)
    · -- the new winner has the votes that it had, so it is not the old winner only if that lost some
      have hwold : w ∈ h.keys := (mem_keys_vote.mp hwmem).resolve_right hwt
      have hbehind := hmax w hwold
      have hahead := hwmax s hmem'
      rw [votes_vote_of_ne h hwt] at hahead
      refine .inl (congrArg some ?_)
      by_cases hst : s = t
      · rw [hst, votes_vote_self] at hahead
        rw [hst, Bool.eq_false_iff, ne_eq, beats_iff] at hbehind
        rw [Bool.eq_false_iff, ne_eq, beats_iff] at hahead
        omega
      · rw [votes_vote_of_ne h hst] at hahead
        exact eq_of_not_beats hbehind hahead

/-- A winner that is voted for still wins. -/
theorem winner?_vote_self (hd : h.keys.Nodup) (hs : h.winner? = some s) :
    (h.vote s).winner? = some s :=
  (winner?_vote hd hs s).elim id id

/-! ## Promotion -/

/-- The mixed votes of its width are at least a fifth of the votes for a signature of spaces. -/
structure Promotes (h : Histogram) (s : Signature) : Prop where
  style_eq : s.style = .spaces
  votes_ne_zero : h.votes (.mixed s.width) ≠ 0
  share : h.votes s ≤ 5 * h.votes (.mixed s.width)

theorem promoteMixed_of_promotes (hp : h.Promotes s) : h.promoteMixed s = .mixed s.width := by
  have hshare : h.votes s ≤ h.votes (.mixed s.width) * 5 := Int.mul_comm 5 _ ▸ hp.share
  unfold promoteMixed
  rw [if_pos hp.style_eq]
  exact if_pos ⟨hp.votes_ne_zero, hshare⟩

theorem promoteMixed_of_not_promotes (hp : ¬h.Promotes s) : h.promoteMixed s = s := by
  unfold promoteMixed
  split
  · next hstyle =>
    refine if_neg fun hmixed => hp ⟨hstyle, hmixed.1, ?_⟩
    rw [Int.mul_comm]
    exact hmixed.2
  · rfl

theorem Promotes.ne_mixed (hp : h.Promotes s) : s ≠ .mixed s.width := by
  intro heq
  have hstyle := hp.style_eq
  rw [heq] at hstyle
  cases hstyle

/-- A further mixed vote does not take a promotion back. -/
theorem Promotes.vote (hp : h.Promotes s) (hpos : 0 ≤ h.votes (.mixed s.width)) :
    (h.vote (.mixed s.width)).Promotes s := by
  have hshare := hp.share
  refine ⟨hp.style_eq, ?_, ?_⟩
  · rw [votes_vote_self]
    omega
  · rw [votes_vote_of_ne h hp.ne_mixed, votes_vote_self]
    omega

/-- A further vote for spaces does not promote them. -/
theorem Promotes.of_vote_self (hp : (h.vote s).Promotes s) : h.Promotes s := by
  have hmixed := votes_vote_of_ne h hp.ne_mixed.symm
  have hvoted := hp.votes_ne_zero
  have hshare := hp.share
  rw [hmixed] at hvoted hshare
  rw [votes_vote_self] at hshare
  exact ⟨hp.style_eq, hvoted, by omega⟩

theorem mem_keys_promoteMixed (hs : s ∈ h.keys) : h.promoteMixed s ∈ h.keys := by
  by_cases hp : h.Promotes s
  · rw [promoteMixed_of_promotes hp]
    by_contra hmem
    exact hp.votes_ne_zero (votes_of_not_mem hmem)
  · rwa [promoteMixed_of_not_promotes hp]

/-- No signature has more than five times the votes that the promoted winner has. -/
theorem IsEvidence.votes_le_promoteMixed (hh : h.IsEvidence) (hs : h.winner? = some s)
    (ht : t ∈ h.keys) : h.votes t ≤ 5 * h.votes (h.promoteMixed s) := by
  have hle := votes_le_of_winner? hh.nodup hs ht
  by_cases hp : h.Promotes s
  · rw [promoteMixed_of_promotes hp]
    exact Int.le_trans hle hp.share
  · have hpos := hh.votes_nonneg s
    rw [promoteMixed_of_not_promotes hp]
    omega

end Histogram

/-! ## Votes that can be written -/

namespace Histogram

variable {h : Histogram} {s : Signature} {settings : Settings} {v : Signature}

/-- Votes leave no verdict exactly if one of them has a width beyond the limit. -/
theorem IsEvidence.resolve_error_iff (hh : h.IsEvidence) (settings : Settings) :
    (∃ e, resolve h settings = .error e) ↔
      ∃ sig ∈ h.keys, 10 ^ Numeral.limit ≤ sig.width.natAbs := by
  have hwritable : ∀ sig ∈ h.keys, (sig.Writable ↔ sig.width.natAbs < 10 ^ Numeral.limit) :=
    fun sig hsig => Signature.writable_iff
      (by simpa [Signature.isUnknown] using hh.style_ne_unknown sig hsig)
  constructor
  · rintro ⟨e, herror⟩
    rcases writable_or_exists h with hw | ⟨sig, hsig, hnot⟩
    · rw [resolve_of_writable hw] at herror
      cases herror
    · exact ⟨sig, hsig, Nat.not_lt.mp (mt (hwritable sig hsig).mpr hnot)⟩
  · rintro ⟨sig, hsig, hwidth⟩
    exact ⟨_, resolve_of_not_writable hsig
      (mt (hwritable sig hsig).mp (Nat.not_lt.mpr hwidth)) settings⟩

/-- A further vote for a signature that was voted for is written as the others are. -/
theorem resolve_vote_eq (hw : ∀ sig ∈ h.keys, sig.Writable) (hs : s ∈ h.keys) (settings : Settings) :
    resolve (h.vote s) settings = .ok ((h.vote s).verdict settings) := by
  refine resolve_of_writable (fun sig hsig => ?_) settings
  rcases mem_keys_vote.mp hsig with hsig | rfl
  · exact hw sig hsig
  · exact hw sig hs

end Histogram

/-! ## Verdicts of votes -/

section Verdicts

variable {h : Histogram} {s : Signature}

theorem verdict_of_winner? (hs : h.winner? = some s) : h.verdict {} = h.promoteMixed s := by
  rw [verdict_default, hs]

/-- The promoted winner stays the verdict if it is voted for once more. -/
theorem Histogram.IsEvidence.verdict_vote (hh : h.IsEvidence) (hs : h.winner? = some s) :
    (h.vote (h.promoteMixed s)).verdict {} = h.promoteMixed s := by
  by_cases hp : h.Promotes s
  · rw [promoteMixed_of_promotes hp]
    rcases winner?_vote hh.nodup hs (.mixed s.width) with hwin | hwin
    · -- the spaces still win, and are promoted again
      rw [verdict_of_winner? hwin, promoteMixed_of_promotes (hp.vote (hh.votes_nonneg _))]
    · -- the mixed signature has overtaken them, and there is nothing to promote
      rw [verdict_of_winner? hwin]
      exact promoteMixed_of_ne_spaces _ (by simp [Signature.mixed])
  · rw [promoteMixed_of_not_promotes hp, verdict_of_winner? (winner?_vote_self hh.nodup hs),
      promoteMixed_of_not_promotes fun hvote => hp hvote.of_vote_self]

/--
**Without settings a verdict is backed by votes.**

There is a verdict unless a width that was voted for has more digits than are written. It is a signature
that was voted for, and no signature has more than five times its votes. The scale of the counts does
not matter, and the verdict stays if it is voted for once more.
-/
theorem resolve_of_no_settings (h : Histogram) (hh : h.IsEvidence) :
    ((∃ e, resolve h {} = .error e) ↔ ∃ sig ∈ h.keys, 10 ^ Numeral.limit ≤ sig.width.natAbs) ∧
    ∀ v, resolve h {} = .ok v →
      v ∈ h.keys ∧
      (∀ t ∈ h.keys, h.votes t ≤ 5 * h.votes v) ∧
      (∀ k, 1 ≤ k → resolve (h.scale k) {} = .ok v) ∧
      resolve (h.vote v) {} = .ok v := by
  refine ⟨hh.resolve_error_iff {}, fun v hv => ?_⟩
  obtain ⟨hw, rfl⟩ := resolve_eq_ok_iff.mp hv
  obtain ⟨s, hs⟩ := hh.exists_winner
  have hverdict := verdict_of_winner? hs
  have hmem : h.promoteMixed s ∈ h.keys :=
    Histogram.mem_keys_promoteMixed (Histogram.mem_keys_of_winner? hs)
  rw [hverdict]
  refine ⟨hmem, fun t ht => hh.votes_le_promoteMixed hs ht, fun k hk => ?_, ?_⟩
  · rw [(Histogram.isScaled_scale hh.nodup k).resolve_eq hk, resolve_of_writable hw, hverdict]
  · rw [Histogram.resolve_vote_eq hw hmem, hh.verdict_vote hs]

/-- Mixed votes that are just a fifth of the votes for spaces, so that the verdict is not the winner. -/
theorem resolve_of_no_settings_promoted :
    let h : Histogram := [(.spaces 4, 10), (.tabs 8, 2), (.mixed 4, 2)]
    h.IsEvidence ∧ resolve h {} = .ok (.mixed 4) ∧ h.votes (.spaces 4) ≤ 5 * h.votes (.mixed 4) ∧
      (1 : Int) ≤ 3 ∧ resolve (h.scale 3) {} = .ok (.mixed 4) ∧
      resolve (h.vote (.mixed 4)) {} = .ok (.mixed 4) := by
  intro h
  have hh : h.IsEvidence := ⟨by decide, by decide, by decide, by decide⟩
  have hverdict : resolve h {} = .ok (.mixed 4) := by decide
  obtain ⟨-, hshare, hscale, hvote⟩ := (resolve_of_no_settings h hh).2 _ hverdict
  exact ⟨hh, hverdict, hshare _ (by decide), by decide, hscale 3 (by decide), hvote⟩

/-- One vote for spaces, of a width that is not written. -/
def overlongVote : Histogram := [(.spaces (10 ^ Numeral.limit), 1)]

theorem isEvidence_overlongVote : overlongVote.IsEvidence where
  ne_nil := List.cons_ne_nil _ _
  nodup := List.nodup_singleton _
  count_pos := by
    intro e he
    rw [List.mem_singleton.mp he]
  style_ne_unknown := by
    intro sig hsig
    rw [List.mem_singleton.mp hsig]
    exact nofun

theorem not_writable_spaces_pow {n : Nat} (hn : Numeral.limit ≤ n) :
    ¬ (Signature.spaces (10 ^ n)).Writable := by
  have hwidth : (Signature.spaces (10 ^ n)).width.natAbs = 10 ^ n := Int.natAbs_pow 10 n
  rw [Signature.writable_iff rfl, hwidth, Nat.not_lt]
  exact Nat.pow_le_pow_right (by decide) hn

theorem resolve_overlongVote (settings : Settings) : resolve overlongVote settings = .error ⟨⟩ :=
  resolve_of_not_writable List.mem_cons_self (not_writable_spaces_pow (Nat.le_refl _)) settings

/-- The signature with all votes is not given as the verdict. -/
theorem resolve_no_settings_overlong :
    overlongVote.IsEvidence ∧ ¬ ∃ v, resolve overlongVote {} = .ok v := by
  refine ⟨isEvidence_overlongVote, ?_⟩
  rintro ⟨v, hv⟩
  rw [resolve_overlongVote] at hv
  cases hv

/-! ## Verdicts of settings -/

/-- With a width in the settings or in a preset, no width of a vote counts. -/
theorem Settings.layeredWidth_of_width {settings : Settings} {w : Int}
    (hw : (settings.withFallbacks.softTabStop <|> settings.withFallbacks.tabStop) = some w)
    (sig : Signature) : settings.layeredWidth sig = w := by
  rw [withFallbacks_softTabStop, withFallbacks_tabStop] at hw
  unfold layeredWidth
  cases hsoft : settings.softTabStop with
  | some soft =>
    rw [hsoft] at hw
    exact Option.some.inj hw
  | none =>
    cases hstyle : settings.styleSoftTabStop with
    | some soft =>
      rw [hsoft, hstyle] at hw
      exact Option.some.inj hw
    | none =>
      rw [hsoft, hstyle] at hw
      exact congrArg (Option.getD · sig.width) hw

/-- Votes leave to the settings a signature of known style, the verdict without settings. -/
theorem Histogram.IsEvidence.verdict_eq_override (hh : h.IsEvidence) (settings : Settings) :
    h.verdict settings = settings.override (h.verdict {}) ∧ (h.verdict {}).isUnknown = false := by
  obtain ⟨s, hs⟩ := hh.exists_winner
  have hkey := mem_keys_promoteMixed (mem_keys_of_winner? hs)
  rw [verdict_of_winner? hs]
  refine ⟨?_, by simpa [Signature.isUnknown] using hh.style_ne_unknown _ hkey⟩
  rw [verdict, hs]

/-- With a width in the settings, the votes decide on the style alone. -/
theorem Histogram.IsEvidence.verdict_of_width (hh : h.IsEvidence) {settings : Settings} {w : Int}
    (hw : (settings.withFallbacks.softTabStop <|> settings.withFallbacks.tabStop) = some w) :
    h.verdict settings = ⟨settings.withFallbacks.layeredStyle ⟨(h.verdict {}).style, w⟩, w⟩ := by
  obtain ⟨hlaid, hknown⟩ := hh.verdict_eq_override settings
  rw [hlaid, settings.override_eq hknown, settings.layeredWidth_of_width hw]

/-- A choice about tabs leaves no style to the votes. -/
theorem Settings.layeredStyle_of_useTabs {settings : Settings} {useTabs : Bool}
    (htabs : settings.useTabs = some useTabs) (sig : Signature) :
    settings.layeredStyle sig =
      if useTabs = true ∧ sig.width = 8 ∧ settings.mixedMode ≠ some true then .tabs else .mixed := by
  unfold layeredStyle
  rw [htabs]
  by_cases hmixed : settings.mixedMode = some true
  · simp [hmixed]
  · cases useTabs <;> simp [hmixed]

/--
**Settings with a width and a choice about tabs give the same verdict whatever was voted for**, if votes
leave one at all.

They do unless a width that was voted for has more digits than are written. Width and choice may both
come from a preset. The verdict is a full tab stop of tabs or else mixed, never spaces. With a width and
no choice about tabs, the verdict still depends on nothing but the style that the votes give.
-/
theorem resolve_of_settings (settings : Settings) (w : Int)
    (hw : (settings.withFallbacks.softTabStop <|> settings.withFallbacks.tabStop) = some w)
    (h h' : Histogram) (hh : h.IsEvidence) (hh' : h'.IsEvidence) :
    ((∃ e, resolve h settings = .error e) ↔
      ∃ sig ∈ h.keys, 10 ^ Numeral.limit ≤ sig.width.natAbs) ∧
    ∀ v v', resolve h settings = .ok v → resolve h' settings = .ok v' →
      (∀ useTabs, settings.withFallbacks.useTabs = some useTabs →
        v = v' ∧
        v = if useTabs = true ∧ w = 8 ∧ settings.withFallbacks.mixedMode ≠ some true then .tabs 8
          else .mixed w) ∧
      (settings.withFallbacks.useTabs = none →
        ∀ u u', resolve h {} = .ok u → resolve h' {} = .ok u' → u.style.letter = u'.style.letter →
          v = v') := by
  refine ⟨hh.resolve_error_iff settings, fun v v' hv hv' => ?_⟩
  obtain ⟨-, rfl⟩ := resolve_eq_ok_iff.mp hv
  obtain ⟨-, rfl⟩ := resolve_eq_ok_iff.mp hv'
  rw [hh.verdict_of_width hw, hh'.verdict_of_width hw]
  constructor
  · intro useTabs htabs
    rw [Settings.layeredStyle_of_useTabs htabs, Settings.layeredStyle_of_useTabs htabs]
    refine ⟨rfl, ?_⟩
    by_cases hfull : useTabs = true ∧ w = 8 ∧ settings.withFallbacks.mixedMode ≠ some true
    · rw [if_pos hfull, if_pos hfull, hfull.2.1]
      rfl
    · rw [if_neg hfull, if_neg hfull]
      rfl
  · intro _ u u' hu hu' hletter
    obtain ⟨-, rfl⟩ := resolve_eq_ok_iff.mp hu
    obtain ⟨-, rfl⟩ := resolve_eq_ok_iff.mp hu'
    rw [Style.letter_injective hletter]

/-- A preset for full tab stops against spaces and mixed votes, and a tab stop without a choice about
tabs against spaces of another width. -/
theorem resolve_of_settings_preset :
    let preset : Settings :=
      { styleSoftTabStop := some 8, styleTabStop := some 8, styleUseTabs := some true }
    let h : Histogram := [(.spaces 4, 10)]
    let h' : Histogram := [(.tabs 8, 2), (.mixed 3, 7)]
    let g : Histogram := [(.spaces 2, 7), (.mixed 4, 3)]
    h.IsEvidence ∧ h'.IsEvidence ∧ g.IsEvidence ∧
      (preset.withFallbacks.softTabStop <|> preset.withFallbacks.tabStop) = some 8 ∧
      preset.withFallbacks.useTabs = some true ∧
      resolve h preset = .ok (h.verdict preset) ∧ resolve h' preset = .ok (h'.verdict preset) ∧
      h.verdict preset = h'.verdict preset ∧ h.verdict preset = .tabs 8 ∧
      ({ tabStop := some 3 } : Settings).withFallbacks.useTabs = none ∧
      (h.verdict {}).style.letter = (g.verdict {}).style.letter ∧
      h.verdict { tabStop := some 3 } = g.verdict { tabStop := some 3 } := by
  intro preset h h' g
  have hh : h.IsEvidence := ⟨by decide, by decide, by decide, by decide⟩
  have hh' : h'.IsEvidence := ⟨by decide, by decide, by decide, by decide⟩
  have hg : g.IsEvidence := ⟨by decide, by decide, by decide, by decide⟩
  have hresolve := resolve_of_writable (h := h) (by decide)
  have hresolve' := resolve_of_writable (h := h') (by decide)
  have hresolveg := resolve_of_writable (h := g) (by decide)
  have hletter : (h.verdict {}).style.letter = (g.verdict {}).style.letter := by decide
  obtain ⟨hsame, hverdict⟩ := ((resolve_of_settings preset 8 rfl h h' hh hh').2 _ _
    (hresolve preset) (hresolve' preset)).1 true rfl
  have htabStop := ((resolve_of_settings { tabStop := some 3 } 3 rfl h g hh hg).2 _ _
    (hresolve _) (hresolveg _)).2 rfl _ _ (hresolve {}) (hresolveg {}) hletter
  exact ⟨hh, hh', hg, rfl, rfl, hresolve preset, hresolve' preset, hsame, hverdict, rfl, hletter,
    htabStop⟩

/-- Settings that decide, and votes that leave no verdict for them. -/
theorem resolve_settings_overlong :
    let settings : Settings := { softTabStop := some 4, useTabs := some false }
    let h : Histogram := [(.spaces 2, 1)]
    h.IsEvidence ∧ overlongVote.IsEvidence ∧ settings.withFallbacks.useTabs = some false ∧
      resolve h settings = .ok (.mixed 4) ∧ resolve overlongVote settings ≠ resolve h settings := by
  intro settings h
  have hverdict : resolve h settings = .ok (.mixed 4) := by decide
  refine ⟨⟨by decide, by decide, by decide, by decide⟩, isEvidence_overlongVote, rfl, hverdict, ?_⟩
  rw [resolve_overlongVote, hverdict]
  exact nofun

end Verdicts

end Indentation
