import Mathlib
import Indentation.Proofs.Classifier
import Indentation.Proofs.Text

/-!
# Tab stops

The column that an indentation reaches where a tab stop stands every eight columns (`column`), against
the number of characters that it has when its tabs are replaced.

A tab is replaced together with at most seven of the spaces before it. A run of spaces that is longer
keeps the others, so that what stands for it and its tab is as long as the run and one more, while the
tab goes on to the next tab stop. Every run starts at a tab stop, and what one of them loses
(`shortfall`) no other makes up for.

## Main statements

* `expandTabStops_run`, `column_run` — a run of spaces with a tab behind it, replaced and measured
* `TabRuns.column_eq` — the columns that are lost add up over the runs
* `isTabRun_iff_mem` — the runs are the maximal ones that have a tab behind them
* `expandTabStops_le_column` — replacing tabs never makes an indentation too long, and which ones it
  makes too short
-/

namespace Indentation

/-! ## Columns -/

/-- The column behind a character. A tab goes on to the next tab stop. -/
def columnAfter (column : Nat) (c : Char) : Nat :=
  if c = '\t' then tabWidth * (column / tabWidth + 1) else column + 1

/-- The column that an indentation reaches. -/
def column (indent : List Char) : Nat := indent.foldl columnAfter 0

variable {s : List Char}

theorem foldl_columnAfter_spaces (column k : Nat) :
    (List.replicate k ' ').foldl columnAfter column = column + k := by
  induction k generalizing column with
  | zero => rfl
  | succ k ih =>
    rw [List.replicate_succ, List.foldl_cons, ih, columnAfter, if_neg (by decide)]
    omega

/-- An indentation that starts at a tab stop reaches as much farther. -/
theorem foldl_columnAfter_stop (stop column : Nat) (s : List Char) :
    s.foldl columnAfter (tabWidth * stop + column) = tabWidth * stop + s.foldl columnAfter column := by
  induction s generalizing column with
  | nil => rfl
  | cons c s ih =>
    rw [List.foldl_cons, List.foldl_cons, ← ih]
    congr 1
    unfold columnAfter
    split
    · rw [Nat.mul_add_div (by decide), Nat.add_assoc, Nat.mul_add]
    · exact Nat.add_assoc _ _ 1

theorem column_spaces (k : Nat) : column (List.replicate k ' ') = k := by
  rw [column, foldl_columnAfter_spaces, Nat.zero_add]

/-- **A run of spaces ends at the tab stop that its tab goes on to.** -/
theorem column_run (k : Nat) (s : List Char) :
    column (List.replicate k ' ' ++ '\t' :: s) = tabWidth * (k / tabWidth + 1) + column s := by
  have htab : columnAfter k '\t' = tabWidth * (k / tabWidth + 1) + 0 := if_pos rfl
  rw [column, List.foldl_append, foldl_columnAfter_spaces, Nat.zero_add, List.foldl_cons, htab,
    foldl_columnAfter_stop]
  rfl

/-! ## Replaced tabs -/

theorem expandTabStops_spaces (k : Nat) :
    expandTabStops (List.replicate k ' ') = List.replicate k ' ' := by
  rw [expandTabStops, expandFrom_spaces, Nat.zero_add]

theorem expandFrom_run {n : Nat} (hn : n ≤ tabWidth - 1) (k : Nat) (s : List Char) :
    expandFrom n (List.replicate k ' ' ++ '\t' :: s)
      = List.replicate (n + k - (tabWidth - 1) + tabWidth) ' ' ++ expandTabStops s := by
  induction k generalizing n with
  | zero =>
    have hheld : n + 0 - (tabWidth - 1) + tabWidth = tabWidth := by omega
    rw [List.replicate_zero, List.nil_append, expandFrom, if_neg (by decide), if_pos (by decide), hheld]
    rfl
  | succ k ih =>
    rw [List.replicate_succ, List.cons_append, expandFrom, if_pos (by decide)]
    split
    · rw [ih (by omega), Nat.add_assoc, Nat.add_comm 1]
    · -- seven spaces are held back already, so one more is kept
      have hkept : n + (k + 1) - (tabWidth - 1) + tabWidth = n + k - (tabWidth - 1) + tabWidth + 1 := by
        omega
      rw [ih hn, hkept, List.replicate_succ, List.cons_append]

/-- **Of a run of spaces, seven are replaced together with its tab, and the others are kept.** -/
theorem expandTabStops_run (k : Nat) (s : List Char) :
    expandTabStops (List.replicate k ' ' ++ '\t' :: s)
      = List.replicate (k - (tabWidth - 1) + tabWidth) ' ' ++ expandTabStops s := by
  rw [expandTabStops, expandFrom_run (Nat.zero_le _), Nat.zero_add]

/-! ## Runs of spaces -/

/-- The lengths of the runs of spaces that an indentation has in front of its tabs. -/
inductive TabRuns : List Char → List Nat → Prop where
  | last (k : Nat) : TabRuns (List.replicate k ' ') []
  | cons (k : Nat) {s : List Char} {ks : List Nat} (h : TabRuns s ks) :
    TabRuns (List.replicate k ' ' ++ '\t' :: s) (k :: ks)

/-- A maximal run of `k` spaces stands in a text with a tab behind it. -/
def IsTabRun (s : List Char) (k : Nat) : Prop :=
  ∃ before after, s = before ++ (List.replicate k ' ' ++ '\t' :: after) ∧ before.getLast? ≠ some ' '

/-- The columns that are lost where a tab and a run of spaces before it are replaced. -/
def shortfall (k : Nat) : Nat := if k < tabWidth then 0 else tabWidth - 1 - k % tabWidth

/-- Every indentation has such runs. -/
theorem exists_tabRuns (hs : ∀ c ∈ s, c = ' ' ∨ c = '\t') : ∃ ks, TabRuns s ks := by
  induction hn : s.length using Nat.strongRecOn generalizing s with
  | ind n ih =>
    obtain ⟨a, x, ha, hx, rfl⟩ := Text.exists_run (· == ' ') s
    have hspaces : a = List.replicate a.length ' ' :=
      List.eq_replicate_of_mem fun c hc => by simpa using ha c hc
    cases x with
    | nil =>
      rw [List.append_nil, hspaces]
      exact ⟨[], .last _⟩
    | cons c x =>
      have hc : c = '\t' :=
        (hs c (List.mem_append_right a List.mem_cons_self)).resolve_left (by simpa using hx c rfl)
      have hlt : x.length < n := by
        rw [← hn, List.length_append, List.length_cons]
        omega
      obtain ⟨ks, hks⟩ := ih x.length hlt
        (fun d hd => hs d (List.mem_append_right a (List.mem_cons_of_mem c hd))) rfl
      rw [hspaces, hc]
      exact ⟨_, .cons _ hks⟩

namespace TabRuns

variable {ks : List Nat}

theorem isSpace (h : TabRuns s ks) : ∀ c ∈ expandTabStops s, c = ' ' := by
  induction h with
  | last k =>
    rw [expandTabStops_spaces]
    exact fun c hc => List.eq_of_mem_replicate hc
  | cons k _ ih =>
    rw [expandTabStops_run]
    exact List.forall_mem_append.mpr ⟨fun c hc => List.eq_of_mem_replicate hc, ih⟩

/-- **The columns that are lost add up over the runs.** -/
theorem column_eq (h : TabRuns s ks) :
    column s = (expandTabStops s).length + (ks.map shortfall).sum := by
  induction h with
  | last k => rw [column_spaces, expandTabStops_spaces, List.length_replicate]; rfl
  | cons k _ ih =>
    have hstop : tabWidth * (k / tabWidth + 1) = k - (tabWidth - 1) + tabWidth + shortfall k := by
      unfold shortfall tabWidth
      split <;> omega
    rw [column_run, expandTabStops_run, List.length_append, List.length_replicate, List.map_cons,
      List.sum_cons, ih, hstop]
    omega

end TabRuns

theorem not_isTabRun_spaces (k n : Nat) : ¬IsTabRun (List.replicate k ' ') n := by
  rintro ⟨before, after, heq, -⟩
  have htab : '\t' ∈ List.replicate k ' ' := by
    rw [heq]
    exact List.mem_append_right _ (List.mem_append_right _ List.mem_cons_self)
  exact absurd (List.eq_of_mem_replicate htab) (by decide)

/-- The runs of an indentation are the first one and those behind the first tab. -/
theorem isTabRun_run_iff {k n : Nat} :
    IsTabRun (List.replicate k ' ' ++ '\t' :: s) n ↔ n = k ∨ IsTabRun s n := by
  have htab : ∀ m, '\t' ∉ List.replicate m ' ' := fun m hm =>
    absurd (List.eq_of_mem_replicate hm) (by decide)
  constructor
  · rintro ⟨before, after, heq, hlast⟩
    rw [← List.append_assoc] at heq
    rcases Text.eq_or_exists_of_append_cons (htab k) heq.symm with ⟨hrun, -⟩ | ⟨r, hrun, rfl⟩
    · -- the run is the first one, so nothing stands before it
      cases hb : before.getLast? with
      | none =>
        rw [List.getLast?_eq_none_iff.mp hb, List.nil_append] at hrun
        exact .inl (List.replicate_inj.mp hrun).1
      | some c =>
        have hmem : c ∈ List.replicate k ' ' :=
          hrun ▸ List.mem_append_left _ (List.mem_of_getLast? hb)
        rw [List.eq_of_mem_replicate hmem] at hb
        exact absurd hb hlast
    · obtain ⟨inner, rfl, rfl⟩ := Text.exists_of_append_eq (htab n) hrun
      refine .inr ⟨inner, after, List.append_assoc _ _ _, fun hinner => hlast ?_⟩
      rw [List.getLast?_append, List.getLast?_cons, hinner]
      rfl
  · rintro (rfl | ⟨before, after, rfl, hlast⟩)
    · exact ⟨[], s, rfl, by simp⟩
    · refine ⟨List.replicate k ' ' ++ '\t' :: before, after, by simp, ?_⟩
      rw [List.getLast?_append, List.getLast?_cons]
      cases hb : before.getLast? with
      | none => simp
      | some c => simpa [hb] using hlast

/-- **The runs are the maximal ones that have a tab behind them.** -/
theorem isTabRun_iff_mem {ks : List Nat} (h : TabRuns s ks) (n : Nat) : IsTabRun s n ↔ n ∈ ks := by
  induction h with
  | last k => simp [not_isTabRun_spaces]
  | cons k _ ih => rw [isTabRun_run_iff, ih, List.mem_cons]

/-! ## What is lost -/

theorem shortfall_eq_zero_iff {k : Nat} :
    shortfall k = 0 ↔ k < tabWidth ∨ k % tabWidth = tabWidth - 1 := by
  unfold shortfall tabWidth
  split <;> omega

/--
**Replacing tabs never makes an indentation too long.**

What it loses are the columns that its runs of spaces in front of tabs lose, which do not make up for
each other. So nothing is lost exactly if no run is longer than seven spaces, or it is one short of a
tab stop.
-/
theorem expandTabStops_le_column (hs : ∀ c ∈ s, c = ' ' ∨ c = '\t') :
    '\t' ∉ expandTabStops s ∧
    (expandTabStops s).length ≤ column s ∧
    ((expandTabStops s).length = column s ↔
      ∀ k, IsTabRun s k → k < tabWidth ∨ k % tabWidth = tabWidth - 1) ∧
    ∃ ks, TabRuns s ks ∧ column s = (expandTabStops s).length + (ks.map shortfall).sum := by
  obtain ⟨ks, hks⟩ := exists_tabRuns hs
  have hcolumn := hks.column_eq
  refine ⟨fun htab => ?_, by omega, ?_, ks, hks, hcolumn⟩
  · exact absurd (hks.isSpace _ htab) (by decide)
  · calc (expandTabStops s).length = column s
        ↔ (ks.map shortfall).sum = 0 := by omega
      _ ↔ ∀ k ∈ ks, shortfall k = 0 := by
        rw [List.sum_eq_zero_iff_forall_eq_nat, List.forall_mem_map]
      _ ↔ ∀ k, IsTabRun s k → k < tabWidth ∨ k % tabWidth = tabWidth - 1 := by
        simp only [isTabRun_iff_mem hks, shortfall_eq_zero_iff]

/-- Nine spaces in front of a tab lose six columns, and seven behind it lose none. -/
theorem expandTabStops_le_column_nine_spaces :
    let s := List.replicate 9 ' ' ++ '\t' :: (List.replicate 7 ' ' ++ '\t' :: List.replicate 3 ' ')
    (∀ c ∈ s, c = ' ' ∨ c = '\t') ∧ '\t' ∉ expandTabStops s ∧
      (expandTabStops s).length = 21 ∧ column s = 27 ∧ (expandTabStops s).length ≤ column s ∧
      (∃ k, IsTabRun s k ∧ ¬(k < tabWidth ∨ k % tabWidth = tabWidth - 1)) ∧
      ∃ ks, TabRuns s ks ∧ (ks.map shortfall).sum = 6 := by
  intro s
  have hs : ∀ c ∈ s, c = ' ' ∨ c = '\t' := by
    intro c hc
    simp only [s, List.mem_append, List.mem_cons, List.mem_replicate] at hc
    rcases hc with ⟨-, h⟩ | h | ⟨-, h⟩ | h | ⟨-, h⟩ <;> simp [h]
  have hlength : (expandTabStops s).length = 21 := by decide
  have hcolumn : column s = 27 := by decide
  obtain ⟨htab, hle, heq, ks, hks, hlost⟩ := expandTabStops_le_column hs
  refine ⟨hs, htab, hlength, hcolumn, hle, ?_, ks, hks, by omega⟩
  have hne : ¬(expandTabStops s).length = column s := by omega
  simpa only [Classical.not_forall, exists_prop] using mt heq.mpr hne

end Indentation
