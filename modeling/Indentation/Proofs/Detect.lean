import Indentation.Detect
import Indentation.Proofs.VoteWidth

/-!
# Detection in two phases

Detection looks for directives and counts votes in one pass, and stops as soon as it can. Here it is
set against two passes that know nothing of each other. One collects the directives of the first
lines (`DirectiveState.feedAll`, `settingsAfter`), the other counts the votes of all lines
(`Classifier.feedAll`).

## How the passes are joined

While no verdict has been reached (`DirectiveState.Open`), the state of the single pass is the pair of
the states of the two others (`detectLines_append`). So the pass is known up to the line that ends it.

## Main statements

* `detect_eq_two_phases` — the first verdict of the settings counts, and votes only without one;
  what follows a text that was decided does not matter
* `detect_of_noDirective` — without directives the votes decide alone
-/

namespace Indentation

/-! ## The directives of the first lines -/

namespace DirectiveState

/-- The state after a list of lines with `number` lines before it, or the overlong width that ends
the pass. -/
def feedAll (d : DirectiveState) (number : Nat) :
    List Line → Except OverlongNumeral DirectiveState
  | [] => .ok d
  | l :: ls => d.feed number l.text >>= fun d => d.feedAll (number + 1) ls

/-- The settings reach no verdict after any number of the lines. -/
def Open (d : DirectiveState) (number : Nat) (ls : List Line) : Prop :=
  ∀ k d', d.feedAll number (ls.take k) = .ok d' → d'.settings.verdict? = none

variable {d d' : DirectiveState} {number : Nat} {l : Line} {ls : List Line}

theorem feedAll_append (d : DirectiveState) (number : Nat) (ls ms : List Line) :
    d.feedAll number (ls ++ ms)
      = d.feedAll number ls >>= fun d => d.feedAll (number + ls.length) ms := by
  induction ls generalizing d number with
  | nil => rfl
  | cons l ls ih =>
    simp only [List.cons_append, feedAll, bind_assoc, List.length_cons]
    congr 1
    funext d₁
    rw [ih d₁ (number + 1), Nat.add_assoc, Nat.add_comm 1]

/-- A line whose directives are read takes the state one line further. -/
theorem feedAll_cons_of_ok (h : d.feed number l.text = .ok d') (ls : List Line) :
    d.feedAll number (l :: ls) = d'.feedAll (number + 1) ls := by
  rw [feedAll, h]
  rfl

theorem feedAll_cons_of_error {e : OverlongNumeral} (h : d.feed number l.text = .error e)
    (ls : List Line) : d.feedAll number (l :: ls) = .error e := by
  rw [feedAll, h]
  rfl

theorem Open.tail (h : d.Open number (l :: ls)) (hd : d.feed number l.text = .ok d') :
    d'.Open (number + 1) ls := by
  intro k d'' hk
  refine h (k + 1) d'' ?_
  rw [List.take_succ_cons, feedAll_cons_of_ok hd]
  exact hk

theorem Open.head (h : d.Open number (l :: ls)) (hd : d.feed number l.text = .ok d') :
    d'.settings.verdict? = none :=
  h.tail hd 0 d' rfl

theorem Open.cons (hv : d.settings.verdict? = none) (hd : d.feed number l.text = .ok d')
    (h : d'.Open (number + 1) ls) : d.Open number (l :: ls) := by
  intro k d'' hk
  cases k with
  | zero =>
    obtain rfl : d = d'' := Except.ok.inj hk
    exact hv
  | succ k =>
    rw [List.take_succ_cons, feedAll_cons_of_ok hd] at hk
    exact h k d'' hk

end DirectiveState

/-! ## The single pass -/

section Pass

variable {skipDocs : Bool} {number : Nat} {d d' : DirectiveState} {c : Classifier}
  {l : Line} {ls : List Line}

theorem detectLines_of_undecided (hd : d.feed number l.text = .ok d')
    (hv : d'.settings.verdict? = none) :
    detectLines skipDocs number d c (l :: ls)
      = detectLines skipDocs (number + 1) d' (c.feed skipDocs l) ls := by
  simp [detectLines, hd, hv]

/-- **While nothing is decided, the single pass is the pair of the two others.** -/
theorem detectLines_append (skipDocs : Bool) (c : Classifier) (hopen : d.Open number ls)
    (hrun : d.feedAll number ls = .ok d') (ms : List Line) :
    detectLines skipDocs number d c (ls ++ ms)
      = detectLines skipDocs (number + ls.length) d' (c.feedAll skipDocs ls) ms := by
  induction ls generalizing number d c with
  | nil =>
    obtain rfl : d = d' := Except.ok.inj hrun
    rfl
  | cons l ls ih =>
    cases hd : d.feed number l.text with
    | error e =>
      rw [DirectiveState.feedAll_cons_of_error hd] at hrun
      cases hrun
    | ok d₁ =>
      rw [DirectiveState.feedAll_cons_of_ok hd] at hrun
      rw [List.cons_append, detectLines_of_undecided hd (hopen.head hd), ih (c.feed skipDocs l)
        (hopen.tail hd) hrun,
        List.length_cons, Nat.add_assoc, Nat.add_comm 1]
      rfl

/-- Either the pass ends within the lines, and what follows them does not matter, or it reads them
all without a verdict. -/
theorem detectLines_final_or_open (skipDocs : Bool) (number : Nat) (d : DirectiveState)
    (c : Classifier) (ls : List Line) (hv : d.settings.verdict? = none) :
    (∀ ms, detectLines skipDocs number d c (ls ++ ms) = detectLines skipDocs number d c ls) ∨
      d.Open number ls ∧ ∃ d', d.feedAll number ls = .ok d' := by
  induction ls generalizing number d c with
  | nil =>
    refine Or.inr ⟨?_, d, rfl⟩
    intro k d' hk
    rw [List.take_nil] at hk
    obtain rfl : d = d' := Except.ok.inj hk
    exact hv
  | cons l ls ih =>
    cases hd : d.feed number l.text with
    | error e =>
      refine Or.inl fun ms => ?_
      rw [List.cons_append, detectLines_of_error hd, detectLines_of_error hd]
    | ok d₁ =>
      cases hv₁ : d₁.settings.verdict? with
      | some verdict =>
        refine Or.inl fun ms => ?_
        rw [List.cons_append, detectLines_of_decided hd hv₁, detectLines_of_decided hd hv₁]
      | none =>
        rcases ih (number + 1) d₁ (c.feed skipDocs l) hv₁ with hfinal | ⟨hopen, d', hrun⟩
        · refine Or.inl fun ms => ?_
          rw [List.cons_append, detectLines_of_undecided hd hv₁, hfinal ms,
            detectLines_of_undecided hd hv₁]
        · refine Or.inr ⟨.cons hv hd hopen, d', ?_⟩
          rw [DirectiveState.feedAll_cons_of_ok hd]
          exact hrun

end Pass

/-! ## Two phases -/

/-- The settings that the directives of the first `k` lines make. -/
def settingsAfter (ls : List Line) (k : Nat) : Except OverlongNumeral Settings :=
  (({} : DirectiveState).feedAll 0 (ls.take k)).map (·.settings)

/-- After the first `k` lines, the settings determine the verdict `v`. -/
def Decides (ls : List Line) (k : Nat) (v : Signature) : Prop :=
  ∃ s, settingsAfter ls k = .ok s ∧ s.verdict? = some v

section Phases

variable {skipDocs : Bool} {ls : List Line} {k : Nat}

theorem settingsAfter_eq_ok {s : Settings} (h : settingsAfter ls k = .ok s) :
    ∃ d, ({} : DirectiveState).feedAll 0 (ls.take k) = .ok d ∧ d.settings = s := by
  unfold settingsAfter at h
  cases hd : ({} : DirectiveState).feedAll 0 (ls.take k) with
  | error e =>
    rw [hd] at h
    cases h
  | ok d =>
    rw [hd] at h
    exact ⟨d, rfl, Except.ok.inj h⟩

theorem settingsAfter_eq_error {e : OverlongNumeral} (h : settingsAfter ls k = .error e) :
    ({} : DirectiveState).feedAll 0 (ls.take k) = .error e := by
  unfold settingsAfter at h
  cases hd : ({} : DirectiveState).feedAll 0 (ls.take k) with
  | error e' =>
    rw [hd] at h
    cases h
    rfl
  | ok d =>
    rw [hd] at h
    cases h

theorem settingsAfter_of_feedAll {d : DirectiveState}
    (h : ({} : DirectiveState).feedAll 0 (ls.take k) = .ok d) :
    settingsAfter ls k = .ok d.settings := by
  rw [settingsAfter, h]
  rfl

/-- Without any line, nothing is decided. -/
theorem not_decides_zero (ls : List Line) (v : Signature) : ¬ Decides ls 0 v := by
  rintro ⟨s, hs, hv⟩
  obtain rfl : ({} : Settings) = s := Except.ok.inj hs
  cases hv

theorem open_take_of_not_decides (h : ∀ j ≤ k, ∀ v, ¬ Decides ls j v) :
    ({} : DirectiveState).Open 0 (ls.take k) := by
  intro j d hj
  rw [List.take_take] at hj
  cases hv : d.settings.verdict? with
  | none => rfl
  | some v =>
    exact absurd ⟨d.settings, settingsAfter_of_feedAll hj, hv⟩ (h (min j k) (Nat.min_le_right j k) v)

/-- Where the first `k` lines decide nothing, the pass goes on behind them from the states that the
two phases are in. -/
theorem detectLines_eq_drop {d : DirectiveState} (h : ∀ j ≤ k, ∀ v, ¬ Decides ls j v)
    (hd : ({} : DirectiveState).feedAll 0 (ls.take k) = .ok d) :
    detectLines skipDocs 0 {} {} ls
      = detectLines skipDocs (ls.take k).length d (Classifier.feedAll skipDocs {} (ls.take k))
          (ls.drop k) := by
  have happ := detectLines_append skipDocs {} (open_take_of_not_decides h) hd (ls.drop k)
  rwa [List.take_append_drop, Nat.zero_add] at happ

/-- The line behind the first `k` takes their state one line further. -/
theorem feedAll_take_succ {l : Line} {rest : List Line} (d : DirectiveState)
    (h : ls.drop k = l :: rest) :
    d.feedAll 0 (ls.take (k + 1))
      = d.feedAll 0 (ls.take k) >>= fun d => d.feed (ls.take k).length l.text := by
  have htake : ls.take (k + 1) = ls.take k ++ [l] := by
    rw [List.take_add_one, ← List.head?_drop, h]
    rfl
  rw [htake, DirectiveState.feedAll_append]
  simp only [DirectiveState.feedAll, Nat.zero_add]
  congr 1
  funext d₁
  cases d₁.feed (ls.take k).length l.text <;> rfl

theorem settingsAfter_succ_of_drop_eq_nil (h : ls.drop k = []) :
    settingsAfter ls (k + 1) = settingsAfter ls k := by
  have hlen : ls.length ≤ k := List.drop_eq_nil_iff.mp h
  rw [settingsAfter, settingsAfter, List.take_of_length_le hlen,
    List.take_of_length_le (Nat.le_succ_of_le hlen)]

/-- Of the numbers of lines that decide there is a least one. -/
theorem exists_decides_first {v : Signature} (hk : Decides ls k v) :
    ∃ j ≤ k, ∃ w, Decides ls j w ∧ ∀ i < j, ∀ u, ¬ Decides ls i u := by
  -- strong induction, as a line may also take back what earlier ones decided
  induction k using Nat.strongRecOn generalizing v with
  | _ k ih =>
    by_cases hex : ∃ j < k, ∃ w, Decides ls j w
    · obtain ⟨j, hj, w, hw⟩ := hex
      obtain ⟨i, hi, u, hu, hfirst⟩ := ih j hj hw
      exact ⟨i, by omega, u, hu, hfirst⟩
    · exact ⟨k, Nat.le_refl k, v, hk, fun i hi u hu => hex ⟨i, hi, u, hu⟩⟩

/-- The first verdict of the settings is the verdict. -/
theorem detectLines_of_decides_first {v : Signature} (hk : Decides ls k v)
    (hfirst : ∀ j < k, ∀ w, ¬ Decides ls j w) : detectLines skipDocs 0 {} {} ls = .ok v := by
  cases k with
  | zero => exact absurd hk (not_decides_zero ls v)
  | succ k =>
    obtain ⟨s, hs, hv⟩ := hk
    cases hdrop : ls.drop k with
    | nil =>
      -- behind the last line nothing changes, so one line less would have decided as well
      rw [settingsAfter_succ_of_drop_eq_nil hdrop] at hs
      exact absurd ⟨s, hs, hv⟩ (hfirst k (Nat.lt_succ_self k) v)
    | cons l rest =>
      obtain ⟨d, hd, rfl⟩ := settingsAfter_eq_ok hs
      rw [feedAll_take_succ _ hdrop] at hd
      cases hd₁ : ({} : DirectiveState).feedAll 0 (ls.take k) with
      | error e =>
        rw [hd₁] at hd
        cases hd
      | ok d₁ =>
        rw [hd₁] at hd
        rw [detectLines_eq_drop (fun j hj => hfirst j (Nat.lt_succ_of_le hj)) hd₁, hdrop]
        exact detectLines_of_decided hd hv

/-- The first overlong width ends the pass, if nothing was decided before. -/
theorem detectLines_of_fails_first {e : OverlongNumeral} (hk : settingsAfter ls k = .error e)
    (hfirst : ∀ j < k, ∃ s, settingsAfter ls j = .ok s) (hopen : ∀ j < k, ∀ v, ¬ Decides ls j v) :
    detectLines skipDocs 0 {} {} ls = .error e := by
  cases k with
  | zero => cases hk
  | succ k =>
    obtain ⟨s, hs⟩ := hfirst k (Nat.lt_succ_self k)
    obtain ⟨d₁, hd₁, -⟩ := settingsAfter_eq_ok hs
    cases hdrop : ls.drop k with
    | nil =>
      rw [settingsAfter_succ_of_drop_eq_nil hdrop, hs] at hk
      cases hk
    | cons l rest =>
      have hd := settingsAfter_eq_error hk
      rw [feedAll_take_succ _ hdrop, hd₁] at hd
      rw [detectLines_eq_drop (fun j hj => hopen j (Nat.lt_succ_of_le hj)) hd₁, hdrop]
      exact detectLines_of_error hd

/-- Without a verdict of the settings, the votes of all lines and the settings give one. -/
theorem detectLines_of_not_decides {s : Settings} (hopen : ∀ k v, ¬ Decides ls k v)
    (hs : settingsAfter ls ls.length = .ok s) :
    detectLines skipDocs 0 {} {} ls
      = .ok ((Classifier.feedAll skipDocs {} ls).histogram.verdict s) := by
  obtain ⟨d, hd, rfl⟩ := settingsAfter_eq_ok hs
  rw [detectLines_eq_drop (fun j _ => hopen j) hd, List.drop_length, List.take_length]
  rfl

/-- A pass that a verdict of the settings or an overlong width ends does not look further. -/
theorem detectLines_append_of_ends
    (h : (∃ k v, Decides ls k v) ∨ ∃ e, detectLines skipDocs 0 {} {} ls = .error e)
    (ms : List Line) : detectLines skipDocs 0 {} {} (ls ++ ms) = detectLines skipDocs 0 {} {} ls := by
  rcases detectLines_final_or_open skipDocs 0 {} {} ls rfl with hfinal | ⟨hopen, d, hd⟩
  · exact hfinal ms
  · -- all lines were read without a verdict, so the pass did not end that way
    rcases h with ⟨k, v, s, hs, hv⟩ | ⟨e, he⟩
    · obtain ⟨d', hd', rfl⟩ := settingsAfter_eq_ok hs
      rw [hopen k d' hd'] at hv
      cases hv
    · have happ := detectLines_append skipDocs {} hopen hd []
      rw [List.append_nil, he] at happ
      cases happ

end Phases

/--
**Detection in one pass is detection in two phases.**

The first verdict that the settings determine is the verdict, whatever the lines vote for. Without
one, the votes of all lines and the settings from all lines give it. An overlong width is an error
exactly if nothing was decided before it.

So what follows a text that ends in a line break does not matter once the settings have decided or an
overlong width has been met.

The votes of the lines can all be written, so that resolving them is giving their verdict, unless there
are as many characters as no number that is written says.
-/
theorem detect_eq_two_phases (skipDocs : Bool) (text : List Char) :
    ((∃ k v, Decides (Line.ofText text) k v) →
      ∃ k v, Decides (Line.ofText text) k v ∧ (∀ j < k, ∀ w, ¬ Decides (Line.ofText text) j w) ∧
        detect skipDocs text = .ok v) ∧
    ((∀ k v, ¬ Decides (Line.ofText text) k v) →
      ∀ s, settingsAfter (Line.ofText text) (Line.ofText text).length = .ok s →
        detect skipDocs text
          = .ok ((Classifier.feedAll skipDocs {} (Line.ofText text)).histogram.verdict s)) ∧
    (∀ k e, settingsAfter (Line.ofText text) k = .error e →
      (∀ j < k, ∃ s, settingsAfter (Line.ofText text) j = .ok s) →
        (detect skipDocs text = .error e ↔ ∀ j < k, ∀ v, ¬ Decides (Line.ofText text) j v)) ∧
    ((∃ b, text.getLast? = some b ∧ Line.isEol b = true) →
      ((∃ k v, Decides (Line.ofText text) k v) ∨ ∃ e, detect skipDocs text = .error e) →
        ∀ rest, detect skipDocs (text ++ rest) = detect skipDocs text) ∧
    (text.length < 10 ^ (Numeral.limit - 1) → ∀ s,
      resolve (Classifier.feedAll skipDocs {} (Line.ofText text)).histogram s
        = .ok ((Classifier.feedAll skipDocs {} (Line.ofText text)).histogram.verdict s)) := by
  refine ⟨?_, ?_, ?_, ?_, fun htext => resolve_feedAll htext skipDocs⟩
  · rintro ⟨k, v, hk⟩
    obtain ⟨j, -, w, hw, hfirst⟩ := exists_decides_first hk
    exact ⟨j, w, hw, hfirst, detectLines_of_decides_first hw hfirst⟩
  · intro hopen s hs
    exact detectLines_of_not_decides hopen hs
  · intro k e hk hfirst
    constructor
    · intro herror j _ v hj
      obtain ⟨i, -, w, hw, hleast⟩ := exists_decides_first hj
      have hok : detect skipDocs text = .ok w := detectLines_of_decides_first hw hleast
      rw [hok] at herror
      cases herror
    · exact detectLines_of_fails_first hk hfirst
  · rintro ⟨b, hb, heol⟩ hends rest
    rw [detect, Line.ofText_append_of_break heol hb]
    exact detectLines_append_of_ends hends _

/-- A first line with a tab stop and the choice of spaces decides, whatever follows it. -/
theorem detect_append_of_marked_line :
    Decides (Line.ofText "-*- mode: C; tab-width: 4; indent-tabs-mode: nil; -*-\n".toList) 1
        (.spaces 4) ∧
      ∀ rest, detect true ("-*- mode: C; tab-width: 4; indent-tabs-mode: nil; -*-\n".toList ++ rest)
        = .ok (.spaces 4) := by
  have hdecides : Decides
      (Line.ofText "-*- mode: C; tab-width: 4; indent-tabs-mode: nil; -*-\n".toList) 1 (.spaces 4) :=
    ⟨{ tabStop := some 4, useTabs := some false }, rfl, rfl⟩
  refine ⟨hdecides, fun rest => ?_⟩
  rw [(detect_eq_two_phases true _).2.2.2.1 ⟨'\n', by decide, rfl⟩ (Or.inl ⟨1, _, hdecides⟩) rest]
  rfl

/-! ## Texts without directives -/

/-- A line carries no directive where no list of local variables is open. -/
structure NoDirective (line : List Char) : Prop where
  firstLine : FirstLine.variables? line = none
  modeline : Modeline.options? line = none
  localVariables : LocalVariables.affixes? line = none

instance (line : List Char) : Decidable (NoDirective line) :=
  decidable_of_iff (FirstLine.variables? line = none ∧ Modeline.options? line = none ∧
      LocalVariables.affixes? line = none)
    ⟨fun ⟨h₁, h₂, h₃⟩ => ⟨h₁, h₂, h₃⟩, fun h => ⟨h.firstLine, h.modeline, h.localVariables⟩⟩

theorem feed_of_noDirective {line : List Char} (h : NoDirective line) (number : Nat) :
    ({} : DirectiveState).feed number line = .ok {} := by
  have hfirst : ({} : DirectiveState).feedFirstLine line = ({}, none) := by
    rw [DirectiveState.feedFirstLine, FirstLine.readings, h.firstLine]
    rfl
  have hmodeline : ({} : DirectiveState).feedModeline line = ({}, none) := by
    rw [DirectiveState.feedModeline, Modeline.readings, h.modeline]
    rfl
  have hlocal : ({} : DirectiveState).feedLocalVariables line = ({}, none) := by
    rw [DirectiveState.feedLocalVariables, LocalVariables.feed_closed, h.localVariables]
    rfl
  by_cases hn : number < FirstLine.window <;>
    simp [DirectiveState.feed, hn, hfirst, hmodeline, hlocal, bind, Except.bind]

theorem feedAll_of_noDirective {ls : List Line} (h : ∀ l ∈ ls, NoDirective l.text) (number : Nat) :
    ({} : DirectiveState).feedAll number ls = .ok {} := by
  induction ls generalizing number with
  | nil => rfl
  | cons l ls ih =>
    have hl := feed_of_noDirective (h l List.mem_cons_self) number
    rw [DirectiveState.feedAll_cons_of_ok hl]
    exact ih (fun m hm => h m (List.mem_cons_of_mem _ hm)) (number + 1)

/-- **Without directives the votes decide alone.** -/
theorem detect_of_noDirective {text : List Char} (h : ∀ l ∈ Line.ofText text, NoDirective l.text)
    (skipDocs : Bool) :
    detect skipDocs text
      = .ok ((Classifier.feedAll skipDocs {} (Line.ofText text)).histogram.verdict {}) := by
  have hsettings : ∀ k, settingsAfter (Line.ofText text) k = .ok {} := fun k =>
    settingsAfter_of_feedAll (feedAll_of_noDirective (fun l hl => h l (List.mem_of_mem_take hl)) 0)
  refine detectLines_of_not_decides ?_ (hsettings _)
  rintro k v ⟨s, hs, hv⟩
  obtain rfl : ({} : Settings) = s := Except.ok.inj ((hsettings k).symm.trans hs)
  cases hv

end Indentation
