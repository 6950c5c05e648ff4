import Indentation.Proofs.Detect

/-!
# Where the directives leave off

The pass over a text reads its lines for directives until the settings determine a verdict, or to the
end (`DirectiveState.settle`). The verdict is formed from the settings that it has then, and only
where these determine none do the votes matter (`detect_eq_settled`). So what is true of those
settings, whatever the directives were, can be said without the votes.

What a line does to the settings is what its readings do, in order (`DirectiveState.readings`). From
there a property of single directives comes to hold after any lines (`feedAll_invariant`), and a line
that cannot be read is told by the first of its readings that is an error (`feed_eq_error_iff`).

## Main statements

* `detect_eq_settled` — the settled settings give the verdict, or the votes and they do
* `feedAll_invariant` — what each directive keeps, lines keep
* `settle_eq_error_iff` — the pass fails at the first line that cannot be read
* `detect_of_decided` — the first line after which the settings determine a verdict gives it
-/

namespace Indentation

/-! ## Lists of readings -/

/-- The error that a reading is, if it is one. -/
def DirectiveReading.error? : DirectiveReading → Option OverlongNumeral
  | .error e => some e
  | .ok _ => none

namespace Settings

variable {s : Settings} {rs : List DirectiveReading}

/-- What each directive of a list keeps, the list keeps. -/
theorem applyAll_invariant {P : Settings → Prop}
    (hstep : ∀ d, .ok (some d) ∈ rs → ∀ s, P s → P (s.apply d)) (hs : P s) :
    P (s.applyAll rs).1 := by
  induction rs generalizing s with
  | nil => exact hs
  | cons r rs ih =>
    have hrest := fun d hd => hstep d (List.mem_cons_of_mem r hd)
    match r with
    | .error e => exact hs
    | .ok none => exact ih hrest hs
    | .ok (some d) => exact ih hrest (hstep d List.mem_cons_self s hs)

/-- The first error in a list of readings ends it. -/
theorem applyAll_snd (s : Settings) (rs : List DirectiveReading) :
    (s.applyAll rs).2 = rs.findSome? DirectiveReading.error? := by
  induction rs generalizing s with
  | nil => rfl
  | cons r rs ih =>
    cases r with
    | error e => rfl
    | ok r => exact ih (s.applyReading r)

/-- The second of two lists is applied where the first leaves off, if it is read to its end. -/
theorem applyAll_append_eq (s : Settings) (rs rs' : List DirectiveReading) :
    s.applyAll (rs ++ rs') = match s.applyAll rs with
      | (t, none) => t.applyAll rs'
      | (t, some e) => (t, some e) := by
  rcases h : s.applyAll rs with ⟨t, _ | e⟩
  · exact applyAll_append h rs'
  · exact applyAll_append_of_error h rs'

end Settings

/-! ## The readings of a line -/

namespace DirectiveState

/-- The readings of a line with `number` lines before it, in the order in which they are applied. -/
def readings (d : DirectiveState) (number : Nat) (line : List Char) : List DirectiveReading :=
  (if number < FirstLine.window then FirstLine.readings line else []) ++
    (Modeline.readings line ++
      ((LocalVariables.feed d.scanner line).2.map Variable.read).toList)

variable {d d' : DirectiveState} {number : Nat} {l : Line} {ls : List Line}

/-- A line is read by applying its readings. -/
theorem feed_eq (d : DirectiveState) (number : Nat) (line : List Char) :
    d.feed number line = match d.settings.applyAll (d.readings number line) with
      | (settings, none) => .ok ⟨settings, (LocalVariables.feed d.scanner line).1⟩
      | (_, some e) => .error e := by
  unfold feed readings feedFirstLine feedModeline feedLocalVariables
  -- each kind of directive ends the line with its first error
  simp only [Settings.applyAll_append_eq]
  by_cases hn : number < FirstLine.window
  · rw [if_pos hn, if_pos hn]
    rcases d.settings.applyAll (FirstLine.readings line) with ⟨s₁, _ | e⟩
    · dsimp only [bind, Except.bind]
      rcases s₁.applyAll (Modeline.readings line) with ⟨s₂, _ | e⟩
      · dsimp only
        rcases s₂.applyAll _ with ⟨s₃, _ | e⟩ <;> rfl
      · rfl
    · rfl
  · rw [if_neg hn, if_neg hn]
    dsimp only [bind, Except.bind, Settings.applyAll]
    rcases d.settings.applyAll (Modeline.readings line) with ⟨s₂, _ | e⟩
    · dsimp only
      rcases s₂.applyAll _ with ⟨s₃, _ | e⟩ <;> rfl
    · rfl

/-- What a line that is read leaves behind. -/
theorem feed_eq_ok_iff {line : List Char} :
    d.feed number line = .ok d' ↔ d.settings.applyAll (d.readings number line) = (d'.settings, none) ∧
      d'.scanner = (LocalVariables.feed d.scanner line).1 := by
  rw [feed_eq]
  rcases d.settings.applyAll (d.readings number line) with ⟨s, _ | e⟩
  · obtain ⟨settings, scanner⟩ := d'
    simp [eq_comm]
  · simp

/-- A line fails with the first error among its readings. -/
theorem feed_eq_error_iff {line : List Char} {e : OverlongNumeral} :
    d.feed number line = .error e
      ↔ (d.readings number line).findSome? DirectiveReading.error? = some e := by
  rw [feed_eq, ← Settings.applyAll_snd d.settings]
  rcases d.settings.applyAll (d.readings number line) with ⟨s, _ | e'⟩ <;> simp

/-! ## Settled settings -/

/-- The state that the pass over directives ends in: the first whose settings determine a verdict, or
the one behind the last line. -/
def settle (d : DirectiveState) (number : Nat) : List Line → Except OverlongNumeral DirectiveState
  | [] => .ok d
  | l :: ls => d.feed number l.text >>= fun d =>
    if d.settings.verdict?.isSome then .ok d else d.settle (number + 1) ls

theorem settle_cons_of_error {e : OverlongNumeral} (hd : d.feed number l.text = .error e)
    (ls : List Line) : d.settle number (l :: ls) = .error e := by
  rw [settle, hd]
  rfl

theorem settle_cons_of_decided (hd : d.feed number l.text = .ok d') {v : Signature}
    (hv : d'.settings.verdict? = some v) (ls : List Line) : d.settle number (l :: ls) = .ok d' := by
  rw [settle, hd]
  simp [bind, Except.bind, hv]

theorem settle_cons_of_undecided (hd : d.feed number l.text = .ok d')
    (hv : d'.settings.verdict? = none) (ls : List Line) :
    d.settle number (l :: ls) = d'.settle (number + 1) ls := by
  rw [settle, hd]
  simp [bind, Except.bind, hv]

/-- **What each directive keeps, lines keep.** -/
theorem feedAll_invariant {P : Settings → Prop}
    (hstep : ∀ (d : DirectiveState) number line x, .ok (some x) ∈ d.readings number line →
      ∀ s, P s → P (s.apply x))
    (hd : P d.settings) (h : d.feedAll number ls = .ok d') : P d'.settings := by
  induction ls generalizing d number with
  | nil =>
    obtain rfl : d = d' := Except.ok.inj h
    exact hd
  | cons l ls ih =>
    cases hfeed : d.feed number l.text with
    | error e =>
      rw [feedAll_cons_of_error hfeed] at h
      cases h
    | ok d₁ =>
      obtain ⟨happly, -⟩ := feed_eq_ok_iff.mp hfeed
      have hd₁ : P d₁.settings := by
        have hall := Settings.applyAll_invariant (hstep d number l.text) hd
        rwa [happly] at hall
      rw [feedAll_cons_of_ok hfeed] at h
      exact ih hd₁ h

theorem open_nil (hv : d.settings.verdict? = none) (number : Nat) : d.Open number [] := by
  intro k d' hk
  rw [List.take_nil] at hk
  obtain rfl : d = d' := Except.ok.inj hk
  exact hv

/-- The settled state is reached by some of the lines, and by all of them if it is undecided. -/
theorem exists_of_settle (hv : d.settings.verdict? = none) (h : d.settle number ls = .ok d') :
    ∃ k, d.feedAll number (ls.take k) = .ok d' ∧
      (d'.settings.verdict? = none → d.Open number ls) := by
  induction ls generalizing d number with
  | nil =>
    exact ⟨0, h, fun _ => open_nil hv number⟩
  | cons l ls ih =>
    cases hfeed : d.feed number l.text with
    | error e =>
      rw [settle_cons_of_error hfeed] at h
      cases h
    | ok d₁ =>
      cases hv₁ : d₁.settings.verdict? with
      | some v =>
        -- the pass ends here, in a state that is decided
        rw [settle_cons_of_decided hfeed hv₁] at h
        obtain rfl : d₁ = d' := Except.ok.inj h
        refine ⟨1, feedAll_cons_of_ok hfeed [], fun hnone => ?_⟩
        rw [hv₁] at hnone
        cases hnone
      | none =>
        rw [settle_cons_of_undecided hfeed hv₁] at h
        obtain ⟨k, hk, hopen⟩ := ih hv₁ h
        refine ⟨k + 1, ?_, fun hnone => .cons hv hfeed (hopen hnone)⟩
        rw [List.take_succ_cons, feedAll_cons_of_ok hfeed]
        exact hk

/-- Lines after which nothing is decided take the pass to the state behind them. -/
theorem settle_append (hopen : d.Open number ls) (hrun : d.feedAll number ls = .ok d')
    (ms : List Line) : d.settle number (ls ++ ms) = d'.settle (number + ls.length) ms := by
  induction ls generalizing number d with
  | nil =>
    obtain rfl : d = d' := Except.ok.inj hrun
    rfl
  | cons l ls ih =>
    cases hfeed : d.feed number l.text with
    | error e =>
      rw [feedAll_cons_of_error hfeed] at hrun
      cases hrun
    | ok d₁ =>
      rw [feedAll_cons_of_ok hfeed] at hrun
      rw [List.cons_append, settle_cons_of_undecided hfeed (hopen.head hfeed),
        ih (hopen.tail hfeed) hrun, List.length_cons, Nat.add_assoc, Nat.add_comm 1]

theorem exists_of_settle_eq_error (hv : d.settings.verdict? = none) {e : OverlongNumeral}
    (h : d.settle number ls = .error e) :
    ∃ before l after d', ls = before ++ l :: after ∧ d.Open number before ∧
      d.feedAll number before = .ok d' ∧ d'.feed (number + before.length) l.text = .error e := by
  induction ls generalizing d number with
  | nil => cases h
  | cons l ls ih =>
    cases hfeed : d.feed number l.text with
    | error e' =>
      rw [settle_cons_of_error hfeed] at h
      obtain rfl : e' = e := Except.error.inj h
      exact ⟨[], l, ls, d, rfl, open_nil hv number, rfl, hfeed⟩
    | ok d₁ =>
      cases hv₁ : d₁.settings.verdict? with
      | some v =>
        rw [settle_cons_of_decided hfeed hv₁] at h
        cases h
      | none =>
        rw [settle_cons_of_undecided hfeed hv₁] at h
        obtain ⟨before, m, after, d', rfl, hopen, hrun, herror⟩ := ih hv₁ h
        refine ⟨l :: before, m, after, d', rfl, .cons hv hfeed hopen, ?_, ?_⟩
        · rw [feedAll_cons_of_ok hfeed]
          exact hrun
        · rwa [List.length_cons, Nat.add_comm before.length, ← Nat.add_assoc]

/-- **The pass fails at the first line that cannot be read**, if nothing is decided before it. -/
theorem settle_eq_error_iff (hv : d.settings.verdict? = none) {e : OverlongNumeral} :
    d.settle number ls = .error e ↔ ∃ before l after d', ls = before ++ l :: after ∧
      d.Open number before ∧ d.feedAll number before = .ok d' ∧
      d'.feed (number + before.length) l.text = .error e := by
  constructor
  · exact exists_of_settle_eq_error hv
  · rintro ⟨before, l, after, d', rfl, hopen, hrun, herror⟩
    rw [settle_append hopen hrun]
    exact settle_cons_of_error herror after

end DirectiveState

/-! ## The verdict -/

/-- The settings that the verdict on a text is formed from. -/
def settledSettings (text : List Char) : Except OverlongNumeral Settings :=
  (({} : DirectiveState).settle 0 (Line.ofText text)).map (·.settings)

/-- The settled settings are those after some of the lines, and if they determine no verdict, those
after no number of lines do. -/
theorem exists_settingsAfter_of_settled {text : List Char} {s : Settings}
    (h : settledSettings text = .ok s) :
    ∃ k, settingsAfter (Line.ofText text) k = .ok s ∧
      (s.verdict? = none → ∀ j w, ¬ Decides (Line.ofText text) j w) := by
  unfold settledSettings at h
  cases hd : ({} : DirectiveState).settle 0 (Line.ofText text) with
  | error e =>
    rw [hd] at h
    cases h
  | ok d =>
    rw [hd] at h
    obtain rfl : d.settings = s := Except.ok.inj h
    obtain ⟨k, hk, hopen⟩ := DirectiveState.exists_of_settle rfl hd
    refine ⟨k, settingsAfter_of_feedAll hk, ?_⟩
    rintro hnone j w ⟨s', hs', hw⟩
    obtain ⟨d', hd', rfl⟩ := settingsAfter_eq_ok hs'
    rw [hopen hnone j d' hd'] at hw
    cases hw

/-- The votes of a text. -/
def histogramOf (skipDocs : Bool) (text : List Char) : Histogram :=
  (Classifier.feedAll skipDocs {} (Line.ofText text)).histogram

theorem detectLines_eq_settle (skipDocs : Bool) {number : Nat} {d : DirectiveState}
    (hv : d.settings.verdict? = none) (c : Classifier) (ls : List Line) :
    detectLines skipDocs number d c ls = (d.settle number ls).map fun d' =>
      d'.settings.verdict?.getD ((c.feedAll skipDocs ls).histogram.verdict d'.settings) := by
  induction ls generalizing number d c with
  | nil => simp [detectLines, DirectiveState.settle, Except.map, hv, Classifier.feedAll]
  | cons l ls ih =>
    cases hfeed : d.feed number l.text with
    | error e =>
      rw [detectLines_of_error hfeed, DirectiveState.settle_cons_of_error hfeed]
      rfl
    | ok d₁ =>
      cases hv₁ : d₁.settings.verdict? with
      | some v =>
        rw [detectLines_of_decided hfeed hv₁, DirectiveState.settle_cons_of_decided hfeed hv₁]
        simp [Except.map, hv₁]
      | none =>
        rw [detectLines_of_undecided hfeed hv₁, DirectiveState.settle_cons_of_undecided hfeed hv₁,
          ih hv₁]
        rfl

/-- **The settled settings give the verdict**, or the votes and they do. -/
theorem detect_eq_settled (skipDocs : Bool) (text : List Char) :
    detect skipDocs text = (settledSettings text).map fun s =>
      s.verdict?.getD ((histogramOf skipDocs text).verdict s) := by
  unfold detect settledSettings
  rw [detectLines_eq_settle skipDocs rfl]
  cases ({} : DirectiveState).settle 0 (Line.ofText text) <;> rfl

/-- The line that decides gives the verdict, if nothing is decided before it. -/
theorem detect_of_decided {text : List Char} {before after : List Line} {l : Line}
    {d d' : DirectiveState} {v : Signature} (htext : Line.ofText text = before ++ l :: after)
    (hopen : ({} : DirectiveState).Open 0 before)
    (hrun : ({} : DirectiveState).feedAll 0 before = .ok d)
    (hfeed : d.feed before.length l.text = .ok d') (hv : d'.settings.verdict? = some v)
    (skipDocs : Bool) : detect skipDocs text = .ok v := by
  have hsettle : ({} : DirectiveState).settle 0 (Line.ofText text) = .ok d' := by
    rw [htext, DirectiveState.settle_append hopen hrun, Nat.zero_add,
      DirectiveState.settle_cons_of_decided hfeed hv]
  rw [detect_eq_settled, settledSettings, hsettle]
  simp [Except.map, hv]

/-- Detection fails at the first line that cannot be read, if nothing is decided before it. -/
theorem detect_eq_error_iff_feed {skipDocs : Bool} {text : List Char} {e : OverlongNumeral} :
    detect skipDocs text = .error e ↔ ∃ before l after d, Line.ofText text = before ++ l :: after ∧
      ({} : DirectiveState).Open 0 before ∧ ({} : DirectiveState).feedAll 0 before = .ok d ∧
      d.feed before.length l.text = .error e := by
  have hundecided : ({} : DirectiveState).settings.verdict? = none := rfl
  have hsettle : detect skipDocs text = .error e ↔
      ({} : DirectiveState).settle 0 (Line.ofText text) = .error e := by
    rw [detect_eq_settled, settledSettings]
    cases ({} : DirectiveState).settle 0 (Line.ofText text) <;> simp [Except.map]
  rw [hsettle, DirectiveState.settle_eq_error_iff hundecided]
  simp only [Nat.zero_add]

theorem exists_of_detect {skipDocs : Bool} {text : List Char} {v : Signature}
    (h : detect skipDocs text = .ok v) :
    ∃ s, settledSettings text = .ok s ∧ v = s.verdict?.getD ((histogramOf skipDocs text).verdict s) := by
  rw [detect_eq_settled] at h
  cases hs : settledSettings text with
  | error e =>
    rw [hs] at h
    cases h
  | ok s =>
    rw [hs] at h
    exact ⟨s, rfl, (Except.ok.inj h).symm⟩

end Indentation
