import Indentation.Text.Blank
import Indentation.Text.Word

/-!
# Cutting texts

What the cuts of `Indentation.Text.Blank` give, said without the functions that make them: the parts
of a text by the text that they make up, a lead or blanks by what they are put in front of.

## Main statements

* `append_inj_of_run` — the run at the start of a text is told apart from what follows
* `eq_or_exists_of_append_cons` — two cuts of a text at a separator are compared
* `dropLead?_eq_some_iff`, `exists_blank_append_trimStart` — what a lead and blanks are cut off from
* `cutAt?_eq_some_iff`, `cutAtText?_eq_some_iff` — a text is cut at the first of the characters, or at
  the first place where the other text stands
* `splitRuns_append_cons` — the runs of a text are those in front of a separator and those behind it
* `trimEnd_append_cons`, `trimStart_trimEnd` — nothing is cut off in front of what is no blank, and the
  ends can be trimmed in any order
* `splitRuns_eq_iff` — what a text is split into are its maximal runs
* `splitRuns_intercalate` — words with a separator between them are the runs of their text
* `isInfix_of_mem_splitRuns`, `isInfix_trim` — what is cut out of a text is a piece of it
* `isBlank_of_isWord` — no word character is a blank
-/

namespace Indentation.Text

/-- What holds of the characters of a text is tested one by one. -/
theorem forall_mem_of_all {p : Char → Prop} [DecidablePred p] {s : List Char}
    (h : s.all (fun c => decide (p c)) = true) : ∀ c ∈ s, p c := by
  simpa using h

/-! ## Runs at the start -/

section Start

variable {α : Type} {p : α → Bool} {a b x y : List α}

/-- A run ends where a character stands that it may not hold. -/
theorem takeWhile_append_of_head? (ha : ∀ c ∈ a, p c = true) (hx : ∀ c ∈ x.head?, p c = false) :
    (a ++ x).takeWhile p = a := by
  rw [List.takeWhile_append_of_pos ha]
  cases x with
  | nil => simp
  | cons c x =>
    have hc : p c = false := hx c rfl
    simp [hc]

theorem dropWhile_append_of_head? (ha : ∀ c ∈ a, p c = true) (hx : ∀ c ∈ x.head?, p c = false) :
    (a ++ x).dropWhile p = x := by
  have hsplit := List.takeWhile_append_dropWhile (p := p) (l := a ++ x)
  rw [takeWhile_append_of_head? ha hx] at hsplit
  exact List.append_cancel_left hsplit

/-- **The run at the start of a text is told apart from what follows.** -/
theorem append_inj_of_run (ha : ∀ c ∈ a, p c = true) (hb : ∀ c ∈ b, p c = true)
    (hx : ∀ c ∈ x.head?, p c = false) (hy : ∀ c ∈ y.head?, p c = false) (h : a ++ x = b ++ y) :
    a = b ∧ x = y := by
  have hrun : a = b := by
    rw [← takeWhile_append_of_head? ha hx, h, takeWhile_append_of_head? hb hy]
  subst hrun
  exact ⟨rfl, List.append_cancel_left h⟩

/-- Every text starts with such a run, which may be empty. -/
theorem exists_run (p : α → Bool) (s : List α) :
    ∃ a x, (∀ c ∈ a, p c = true) ∧ (∀ c ∈ x.head?, p c = false) ∧ a ++ x = s := by
  refine ⟨s.takeWhile p, s.dropWhile p, ?_, ?_, List.takeWhile_append_dropWhile⟩
  · intro c hc
    exact List.all_eq_true.mp List.all_takeWhile c hc
  · intro c hc
    have hhead := List.head?_dropWhile_not p s
    rw [Option.mem_def.mp hc] at hhead
    simpa using hhead

end Start

/-! ## Cuts at separators -/

section Cuts

variable {sep : Char}

/-- A separator behind `a` is the first one of a text, or a later one. -/
theorem eq_or_exists_of_append_cons {a b x y : List Char} (ha : sep ∉ a)
    (h : x ++ sep :: y = a ++ sep :: b) :
    x = a ∧ y = b ∨ ∃ r, x = a ++ sep :: r ∧ b = r ++ sep :: y := by
  rcases List.append_eq_append_iff.mp h with ⟨r, hx, hb⟩ | ⟨r, hx, hb⟩
  · cases r with
    | nil =>
      rw [List.append_nil] at hx
      exact Or.inl ⟨hx.symm, (List.cons.inj hb).2⟩
    | cons c r =>
      obtain ⟨rfl, -⟩ := List.cons.inj hb
      exact absurd (hx ▸ List.mem_append_right x List.mem_cons_self) ha
  · cases r with
    | nil =>
      rw [List.append_nil] at hx
      exact Or.inl ⟨hx, (List.cons.inj hb).2.symm⟩
    | cons c r =>
      obtain ⟨rfl, hrest⟩ := List.cons.inj hb
      exact Or.inr ⟨r, hx, hrest⟩

/-- A separator that does not stand in the end of a text stands in what is before that end. -/
theorem exists_of_append_eq {a b w r : List Char} (hw : sep ∉ w)
    (h : b ++ w = a ++ sep :: r) : ∃ c, b = a ++ sep :: c ∧ r = c ++ w := by
  rcases List.append_eq_append_iff.mp h with ⟨c, rfl, hc⟩ | ⟨c, rfl, hc⟩
  · exact absurd (hc ▸ List.mem_append_right c List.mem_cons_self) hw
  · cases c with
    | nil =>
      rw [List.nil_append] at hc
      exact absurd (hc ▸ List.mem_cons_self) hw
    | cons d c =>
      obtain ⟨rfl, rfl⟩ := List.cons.inj hc
      exact ⟨c, rfl, rfl⟩

/-- Texts without the separator are told apart by what they stand in front of. -/
theorem append_cons_inj {a b x y : List Char} (ha : sep ∉ a) (hb : sep ∉ b)
    (h : a ++ sep :: x = b ++ sep :: y) : a = b ∧ x = y := by
  rcases eq_or_exists_of_append_cons hb h with heq | ⟨r, rfl, -⟩
  · exact heq
  · exact absurd (List.mem_append_right b List.mem_cons_self) ha

end Cuts

/-! ## Leads and blanks -/

theorem dropLead?_eq_some_iff {lead s rest : List Char} :
    dropLead? lead s = some rest ↔ s = lead ++ rest :=
  ⟨eq_append_of_dropLead?, fun h => h ▸ dropLead?_append lead rest⟩

/-- A text is the blanks at its start and what is left without them. -/
theorem exists_blank_append_trimStart (s : List Char) :
    ∃ w, s = w ++ trimStart s ∧ ∀ c ∈ w, isBlank c = true :=
  ⟨s.takeWhile isBlank, List.takeWhile_append_dropWhile.symm,
    List.all_eq_true.mp List.all_takeWhile⟩

theorem isSuffix_trimStart (s : List Char) : trimStart s <:+ s := List.dropWhile_suffix isBlank

theorem isPrefix_trimEnd (s : List Char) : trimEnd s <+: s := by
  have h := isSuffix_trimStart s.reverse
  rw [← List.reverse_prefix, List.reverse_reverse] at h
  exact h

theorem isInfix_trim (s : List Char) : trim s <:+: s :=
  (isPrefix_trimEnd (trimStart s)).isInfix.trans (isSuffix_trimStart s).isInfix

theorem isBlank_colon : isBlank ':' = false := by decide

theorem isBlank_of_mem_space : ∀ c ∈ [' '], isBlank c = true := forall_mem_of_all (by decide)

section Ends

variable {w : List Char}

theorem trimStart_append_of_head? (hne : w ≠ []) (hw : ∀ c ∈ w.head?, isBlank c = false)
    (s : List Char) : trimStart (w ++ s) = w ++ s := by
  obtain ⟨c, t, rfl⟩ := List.exists_cons_of_ne_nil hne
  exact trimStart_cons_of_not_blank (hw c rfl) (t ++ s)

theorem trimEnd_append_of_getLast? (hne : w ≠ []) (hw : ∀ c ∈ w.getLast?, isBlank c = false)
    (s : List Char) : trimEnd (s ++ w) = s ++ w := by
  rcases List.eq_nil_or_concat w with hnil | ⟨t, c, rfl⟩
  · exact absurd hnil hne
  · have hlast := trimEnd_concat_of_not_blank (hw c (by simp)) (s ++ t)
    simpa using hlast

theorem trimEnd_append_of_not_blank (hne : w ≠ []) (hw : ∀ c ∈ w, isBlank c = false)
    (s : List Char) : trimEnd (s ++ w) = s ++ w :=
  trimEnd_append_of_getLast? hne (fun c hc => hw c (List.mem_of_getLast? hc)) s

theorem trimEnd_eq_self (hw : ∀ c ∈ w, isBlank c = false) : trimEnd w = w := by
  cases w with
  | nil => rfl
  | cons c w => exact trimEnd_append_of_not_blank (List.cons_ne_nil c w) hw []

/-- Nothing in front of a character that is no blank is cut off at the end. -/
theorem trimEnd_append_cons {c : Char} (hc : isBlank c = false) (s t : List Char) :
    trimEnd (s ++ c :: t) = s ++ c :: trimEnd t := by
  simp only [trimEnd, List.reverse_append, List.reverse_cons, List.append_assoc,
    List.dropWhile_append]
  split
  · next h => simp [hc, List.isEmpty_iff.mp h]
  · simp

theorem exists_trimEnd_append_blank (s : List Char) :
    ∃ w, s = trimEnd s ++ w ∧ ∀ c ∈ w, isBlank c = true := by
  obtain ⟨w, hs, hw⟩ := exists_blank_append_trimStart s.reverse
  refine ⟨w.reverse, ?_, fun c hc => hw c (List.mem_reverse.mp hc)⟩
  simpa [trimEnd, trimStart] using congrArg List.reverse hs

theorem trimEnd_trimEnd (s : List Char) : trimEnd (trimEnd s) = trimEnd s := by
  obtain ⟨w, hs, hw⟩ := exists_trimEnd_append_blank s
  conv => rhs; rw [hs, trimEnd_append_of_blank hw]

/-- It does not matter at which end blanks are cut off first. -/
theorem trimStart_trimEnd (s : List Char) : trimStart (trimEnd s) = trim s := by
  obtain ⟨w, hs, hw⟩ := exists_blank_append_trimStart s
  cases ht : trimStart s with
  | nil =>
    rw [ht, List.append_nil] at hs
    have hend := trimEnd_append_of_blank hw []
    rw [List.nil_append] at hend
    rw [trim, ht, hs, hend]
    rfl
  | cons c t =>
    have hc : isBlank c = false := by
      have hhead := List.head?_dropWhile_not isBlank s
      rw [show s.dropWhile isBlank = c :: t from ht] at hhead
      simpa using hhead
    have hcut := trimEnd_append_cons hc [] t
    rw [List.nil_append, List.nil_append] at hcut
    rw [ht] at hs
    rw [trim, ht, hcut, hs, trimEnd_append_cons hc, trimStart_append_of_blank hw,
      trimStart_cons_of_not_blank hc]

theorem trim_eq_nil_iff {s : List Char} : trim s = [] ↔ ∀ c ∈ s, isBlank c = true := by
  constructor
  · intro h
    obtain ⟨w, hs, hw⟩ := exists_blank_append_trimStart s
    obtain ⟨e, hend, he⟩ := exists_trimEnd_append_blank (trimStart s)
    rw [show trimEnd (trimStart s) = [] from h, List.nil_append] at hend
    rw [hs, hend]
    intro c hc
    rcases List.mem_append.mp hc with hc | hc
    · exact hw c hc
    · exact he c hc
  · intro h
    have hend := trimEnd_append_of_blank h []
    rw [List.nil_append] at hend
    rw [← trimStart_trimEnd, hend]
    rfl

/-- A blank in front of a text is left where anything of the text is. -/
theorem trimEnd_cons_of_blank {b : Char} (hb : isBlank b = true) (s : List Char) :
    trimEnd (b :: s) = if trim s = [] then [] else b :: trimEnd s := by
  obtain ⟨a, x, ha, hx, rfl⟩ := exists_run isBlank s
  cases x with
  | nil =>
    rw [List.append_nil, if_pos (trim_eq_nil_iff.mpr ha)]
    exact trimEnd_append_of_blank (List.forall_mem_cons.mpr ⟨hb, ha⟩) []
  | cons c x =>
    have hc : isBlank c = false := hx c rfl
    have hne : trim (a ++ c :: x) ≠ [] := by
      intro hnil
      have hblank := trim_eq_nil_iff.mp hnil c (List.mem_append_right a List.mem_cons_self)
      rw [hc] at hblank
      cases hblank
    rw [if_neg hne, trimEnd_append_cons hc, ← List.cons_append, trimEnd_append_cons hc]
    rfl

/-- Blanks around a text are cut off, and nothing of the text is. -/
theorem trim_append_of_blank {b e : List Char} (hb : ∀ c ∈ b, isBlank c = true)
    (he : ∀ c ∈ e, isBlank c = true) (hne : w ≠ []) (hhead : ∀ c ∈ w.head?, isBlank c = false)
    (hlast : ∀ c ∈ w.getLast?, isBlank c = false) : trim (b ++ (w ++ e)) = w := by
  have hend := trimEnd_append_of_getLast? hne hlast []
  rw [trim, trimStart_append_of_blank hb, trimStart_append_of_head? hne hhead,
    trimEnd_append_of_blank he]
  exact hend

end Ends

/-! ## Cutting at a character -/

/-- A text is cut at the first of the characters. -/
theorem cutAt?_eq_some_iff {sep : Char} {s a b : List Char} :
    cutAt? sep s = some (a, b) ↔ s = a ++ sep :: b ∧ sep ∉ a := by
  unfold cutAt?
  constructor
  · intro h
    split at h
    · cases h
    · next d rest hdrop =>
      obtain ⟨rfl, rfl⟩ := Prod.mk.inj (Option.some.inj h)
      have hd : d = sep := by
        have hhead := List.head?_dropWhile_not (· != sep) s
        rw [hdrop] at hhead
        simpa using hhead
      have hs : s.takeWhile (· != sep) ++ s.dropWhile (· != sep) = s :=
        List.takeWhile_append_dropWhile
      rw [hdrop, hd] at hs
      refine ⟨hs.symm, fun hmem => ?_⟩
      have hne := List.all_eq_true.mp List.all_takeWhile sep hmem
      simp at hne
  · rintro ⟨rfl, ha⟩
    have hne : ∀ c ∈ a, (c != sep) = true := by
      intro c hc
      refine bne_iff_ne.mpr ?_
      rintro rfl
      exact ha hc
    rw [List.dropWhile_append_of_pos hne, List.takeWhile_append_of_pos hne]
    simp

/-! ## Cutting at a text -/

/-- A text is cut in front of and behind the first place where `sep` stands in it. -/
structure IsFirstCut (sep s a b : List Char) : Prop where
  eq : s = a ++ (sep ++ b)
  first : ∀ x y, s = x ++ (sep ++ y) → a.length ≤ x.length

section FirstCut

variable {sep s a b : List Char}

theorem isFirstCut_append_iff : IsFirstCut sep (sep ++ s) a b ↔ a = [] ∧ b = s := by
  constructor
  · intro h
    obtain rfl := List.eq_nil_of_length_eq_zero (Nat.le_zero.mp (h.first [] s rfl))
    exact ⟨rfl, (List.append_cancel_left h.eq).symm⟩
  · rintro ⟨rfl, rfl⟩
    exact ⟨rfl, fun x _ _ => Nat.zero_le x.length⟩

theorem isFirstCut_cons_iff {c : Char} (h : ¬sep <+: c :: s) :
    IsFirstCut sep (c :: s) a b ↔ ∃ x, a = c :: x ∧ IsFirstCut sep s x b := by
  constructor
  · rintro ⟨heq, hfirst⟩
    cases a with
    | nil => exact absurd ⟨b, heq.symm⟩ h
    | cons d x =>
      obtain ⟨rfl, hs⟩ := List.cons.inj heq
      refine ⟨x, rfl, hs, fun y z hy => Nat.le_of_succ_le_succ (hfirst (c :: y) z ?_)⟩
      rw [hy, List.cons_append]
  · rintro ⟨x, rfl, heq, hfirst⟩
    refine ⟨by rw [heq, List.cons_append], fun y z hy => ?_⟩
    cases y with
    | nil => exact absurd ⟨z, hy.symm⟩ h
    | cons d y => exact Nat.succ_le_succ (hfirst y z (List.cons.inj hy).2)

theorem cutAtText?_of_prefix (h : sep <+: s) (seen : List Char) :
    cutAtText? sep seen s = some (a, b) ↔ ∃ x, a = seen.reverse ++ x ∧ IsFirstCut sep s x b := by
  obtain ⟨t, rfl⟩ := h
  have hcut : cutAtText? sep seen (sep ++ t) = some (seen.reverse, t) := by
    have hpre := List.isPrefixOf_iff_prefix.mpr (List.prefix_append sep t)
    unfold cutAtText?
    rw [if_pos hpre, List.drop_left]
  rw [hcut]
  constructor
  · intro heq
    obtain ⟨rfl, rfl⟩ := Prod.mk.inj (Option.some.inj heq)
    exact ⟨[], (List.append_nil _).symm, isFirstCut_append_iff.mpr ⟨rfl, rfl⟩⟩
  · rintro ⟨x, rfl, hx⟩
    obtain ⟨rfl, rfl⟩ := isFirstCut_append_iff.mp hx
    rw [List.append_nil]

/-- A text is cut at the first place where the other stands. -/
theorem cutAtText?_eq_some_iff {seen : List Char} :
    cutAtText? sep seen s = some (a, b) ↔ ∃ x, a = seen.reverse ++ x ∧ IsFirstCut sep s x b := by
  induction s generalizing seen with
  | nil =>
    by_cases h : sep <+: []
    · exact cutAtText?_of_prefix h seen
    · unfold cutAtText?
      rw [if_neg (mt List.isPrefixOf_iff_prefix.mp h)]
      constructor
      · intro hnone
        cases hnone
      · rintro ⟨x, -, hx, -⟩
        have hnil : sep ++ b = [] := (List.append_eq_nil_iff.mp hx.symm).2
        exact absurd ⟨b, hnil⟩ h
  | cons c s ih =>
    by_cases h : sep <+: c :: s
    · exact cutAtText?_of_prefix h seen
    · unfold cutAtText?
      rw [if_neg (mt List.isPrefixOf_iff_prefix.mp h)]
      dsimp only
      rw [ih]
      constructor
      · rintro ⟨x, rfl, hx⟩
        exact ⟨c :: x, by simp, (isFirstCut_cons_iff h).mpr ⟨x, rfl, hx⟩⟩
      · rintro ⟨y, rfl, hy⟩
        obtain ⟨x, rfl, hx⟩ := (isFirstCut_cons_iff h).mp hy
        exact ⟨x, by simp, hx⟩

end FirstCut

/-! ## Words -/

/-- Words with a separator between them start with the first word. -/
theorem exists_intercalate_cons (sep w : List Char) (ws : List (List Char)) :
    ∃ t, sep.intercalate (w :: ws) = w ++ t := by
  cases ws with
  | nil => exact ⟨[], by simp⟩
  | cons w' ws => exact ⟨sep ++ sep.intercalate (w' :: ws), by simp⟩

theorem mem_intercalate {sep : List Char} {ws : List (List Char)} {c : Char}
    (h : c ∈ sep.intercalate ws) : c ∈ sep ∨ ∃ w ∈ ws, c ∈ w := by
  induction ws with
  | nil => simp at h
  | cons w ws ih =>
    cases ws with
    | nil =>
      rw [List.intercalate_singleton] at h
      exact Or.inr ⟨w, List.mem_cons_self, h⟩
    | cons w' ws =>
      rw [List.intercalate_cons_cons, List.append_assoc, List.mem_append, List.mem_append] at h
      rcases h with h | h | h
      · exact Or.inr ⟨w, List.mem_cons_self, h⟩
      · exact Or.inl h
      · rcases ih h with h | ⟨x, hx, hc⟩
        · exact Or.inl h
        · exact Or.inr ⟨x, List.mem_cons_of_mem w hx, hc⟩

section Words

variable {isSep : Char → Bool} {s : List Char}

/-- The run at the start of a text, and the runs behind it. -/
def leadingRuns (isSep : Char → Bool) (s : List Char) : List Char × List (List Char) :=
  s.foldr (fun c acc =>
    if isSep c then ([], if acc.1.isEmpty then acc.2 else acc.1 :: acc.2) else (c :: acc.1, acc.2))
    ([], [])

theorem splitRuns_eq (isSep : Char → Bool) (s : List Char) :
    splitRuns isSep s = if (leadingRuns isSep s).1.isEmpty then (leadingRuns isSep s).2
      else (leadingRuns isSep s).1 :: (leadingRuns isSep s).2 := rfl

theorem leadingRuns_cons_of_sep {c : Char} (hc : isSep c = true) (s : List Char) :
    leadingRuns isSep (c :: s) = ([], splitRuns isSep s) := by
  rw [splitRuns_eq]
  simp [leadingRuns, hc]

theorem leadingRuns_cons_of_not_sep {c : Char} (hc : isSep c = false) (s : List Char) :
    leadingRuns isSep (c :: s) = (c :: (leadingRuns isSep s).1, (leadingRuns isSep s).2) := by
  simp [leadingRuns, hc]

theorem leadingRuns_append {w : List Char} (hw : ∀ c ∈ w, isSep c = false) (s : List Char) :
    leadingRuns isSep (w ++ s) = (w ++ (leadingRuns isSep s).1, (leadingRuns isSep s).2) := by
  induction w with
  | nil => rfl
  | cons c w ih =>
    rw [List.cons_append, leadingRuns_cons_of_not_sep (hw c List.mem_cons_self),
      ih fun x hx => hw x (List.mem_cons_of_mem c hx), List.cons_append]

theorem leadingRuns_append_cons {b : Char} (hb : isSep b = true) (a s : List Char) :
    leadingRuns isSep (a ++ b :: s)
      = ((leadingRuns isSep a).1, (leadingRuns isSep a).2 ++ splitRuns isSep s) := by
  induction a with
  | nil => exact leadingRuns_cons_of_sep hb s
  | cons c a ih =>
    rw [List.cons_append]
    cases hc : isSep c with
    | true =>
      rw [leadingRuns_cons_of_sep hc, leadingRuns_cons_of_sep hc, splitRuns_eq, ih,
        splitRuns_eq isSep a]
      split <;> rfl
    | false => rw [leadingRuns_cons_of_not_sep hc, leadingRuns_cons_of_not_sep hc, ih]

/-- **The runs of a text are those in front of a separator and those behind it.** -/
theorem splitRuns_append_cons {b : Char} (hb : isSep b = true) (a s : List Char) :
    splitRuns isSep (a ++ b :: s) = splitRuns isSep a ++ splitRuns isSep s := by
  rw [splitRuns_eq, leadingRuns_append_cons hb, splitRuns_eq isSep a]
  split <;> rfl

/-- A text without separators is one run. -/
theorem splitRuns_of_run {w : List Char} (hne : w ≠ []) (hw : ∀ c ∈ w, isSep c = false) :
    splitRuns isSep w = [w] := by
  have hlead := leadingRuns_append hw []
  rw [List.append_nil] at hlead
  rw [splitRuns_eq, hlead]
  simp [leadingRuns, hne]

theorem leadingRuns_of_sep {e : List Char} (he : ∀ c ∈ e, isSep c = true) :
    leadingRuns isSep e = ([], []) := by
  induction e with
  | nil => rfl
  | cons c e ih =>
    have hrest := ih fun x hx => he x (List.mem_cons_of_mem c hx)
    rw [leadingRuns_cons_of_sep (he c List.mem_cons_self), splitRuns_eq, hrest]
    rfl

/-- **Words with one separator between them are the runs of their text.** Separators behind the last
word make no run. -/
theorem splitRuns_intercalate {b : Char} (hb : isSep b = true) {e : List Char}
    (he : ∀ c ∈ e, isSep c = true) {ws : List (List Char)}
    (hws : ∀ w ∈ ws, w ≠ [] ∧ ∀ c ∈ w, isSep c = false) :
    splitRuns isSep ([b].intercalate ws ++ e) = ws := by
  induction ws with
  | nil =>
    rw [List.intercalate_nil, List.nil_append, splitRuns_eq, leadingRuns_of_sep he]
    rfl
  | cons w ws ih =>
    obtain ⟨hne, hw⟩ := hws w List.mem_cons_self
    cases ws with
    | nil =>
      rw [List.intercalate_singleton, splitRuns_eq, leadingRuns_append hw, leadingRuns_of_sep he,
        List.append_nil]
      simp [hne]
    | cons w' ws =>
      rw [List.intercalate_cons_cons, List.append_assoc, List.append_assoc, List.singleton_append,
        splitRuns_append_cons hb, splitRuns_of_run hne hw,
        ih fun x hx => hws x (List.mem_cons_of_mem w hx)]
      rfl

/-- A text without runs is made of separators. -/
theorem splitRuns_eq_nil_iff : splitRuns isSep s = [] ↔ ∀ c ∈ s, isSep c = true := by
  induction s with
  | nil => exact iff_of_true rfl (by simp)
  | cons c s ih =>
    cases hc : isSep c with
    | true =>
      have hcons : splitRuns isSep (c :: s) = splitRuns isSep s := splitRuns_append_cons hc [] s
      rw [hcons, ih, List.forall_mem_cons, and_iff_right hc]
    | false =>
      rw [splitRuns_eq, leadingRuns_cons_of_not_sep hc]
      simp [hc]

/-- Separators at the end of a text make no run. -/
theorem splitRuns_append_of_sep {e : List Char} (he : ∀ c ∈ e, isSep c = true) (s : List Char) :
    splitRuns isSep (s ++ e) = splitRuns isSep s := by
  cases e with
  | nil => rw [List.append_nil]
  | cons b e =>
    obtain ⟨hb, he⟩ := List.forall_mem_cons.mp he
    rw [splitRuns_append_cons hb, splitRuns_eq_nil_iff.mpr he, List.append_nil]

/-- Nor do blanks at its end, if blanks separate. -/
theorem splitRuns_trimEnd (hsep : ∀ c, isBlank c = true → isSep c = true) (s : List Char) :
    splitRuns isSep (trimEnd s) = splitRuns isSep s := by
  obtain ⟨w, hs, hw⟩ := exists_trimEnd_append_blank s
  conv => rhs; rw [hs, splitRuns_append_of_sep fun c hc => hsep c (hw c hc)]

theorem leadingRuns_congr {isSep' : Char → Bool} (h : ∀ c ∈ s, isSep c = isSep' c) :
    leadingRuns isSep s = leadingRuns isSep' s := by
  induction s with
  | nil => rfl
  | cons c s ih =>
    obtain ⟨hc, hs⟩ := List.forall_mem_cons.mp h
    unfold leadingRuns at ih ⊢
    rw [List.foldr_cons, List.foldr_cons, ih hs, hc]

/-- What does not stand in a text need not be told from a separator. -/
theorem splitRuns_congr {isSep' : Char → Bool} (h : ∀ c ∈ s, isSep c = isSep' c) :
    splitRuns isSep s = splitRuns isSep' s := by
  rw [splitRuns_eq, splitRuns_eq, leadingRuns_congr h]

/-- The maximal runs of a text that no separator stands in, from left to right. -/
inductive Runs (isSep : Char → Bool) : List Char → List (List Char) → Prop where
  | nil : Runs isSep [] []
  | separator {b : Char} {s : List Char} {ws : List (List Char)} (hb : isSep b = true)
      (hs : Runs isSep s ws) : Runs isSep (b :: s) ws
  | last {w : List Char} (hne : w ≠ []) (hw : ∀ c ∈ w, isSep c = false) : Runs isSep w [w]
  | run {w : List Char} {b : Char} {s : List Char} {ws : List (List Char)} (hne : w ≠ [])
      (hw : ∀ c ∈ w, isSep c = false) (hb : isSep b = true) (hs : Runs isSep s ws) :
    Runs isSep (w ++ b :: s) (w :: ws)

/-- A text has no separator, or a first one. -/
theorem exists_first_separator (isSep : Char → Bool) (s : List Char) :
    ∃ w, (∀ c ∈ w, isSep c = false) ∧ (s = w ∨ ∃ b t, isSep b = true ∧ s = w ++ b :: t) := by
  induction s with
  | nil => exact ⟨[], by simp, .inl rfl⟩
  | cons c s ih =>
    cases hc : isSep c with
    | true => exact ⟨[], by simp, .inr ⟨c, s, hc, rfl⟩⟩
    | false =>
      obtain ⟨w, hw, hs⟩ := ih
      refine ⟨c :: w, List.forall_mem_cons.mpr ⟨hc, hw⟩, ?_⟩
      rcases hs with rfl | ⟨b, t, hb, rfl⟩
      · exact .inl rfl
      · exact .inr ⟨b, t, hb, rfl⟩

theorem runs_splitRuns (isSep : Char → Bool) (s : List Char) : Runs isSep s (splitRuns isSep s) := by
  induction hn : s.length using Nat.strongRecOn generalizing s with
  | ind n ih =>
    obtain ⟨w, hw, rfl | ⟨b, t, hb, rfl⟩⟩ := exists_first_separator isSep s
    · by_cases hne : s = []
      · rw [hne]
        exact .nil
      · rw [splitRuns_of_run hne hw]
        exact .last hne hw
    · have hlt : t.length < n := by
        rw [← hn, List.length_append, List.length_cons]
        omega
      have ht := ih _ hlt t rfl
      rw [splitRuns_append_cons hb]
      by_cases hne : w = []
      · rw [hne]
        exact .separator hb ht
      · rw [splitRuns_of_run hne hw]
        exact .run hne hw hb ht

/-- **Splitting a text gives its maximal runs.** -/
theorem splitRuns_eq_iff {ws : List (List Char)} : splitRuns isSep s = ws ↔ Runs isSep s ws := by
  constructor
  · rintro rfl
    exact runs_splitRuns isSep s
  · intro h
    induction h with
    | nil => rfl
    | separator hb _ ih =>
      rw [← ih]
      exact splitRuns_append_cons hb [] _
    | last hne hw => exact splitRuns_of_run hne hw
    | run hne hw hb _ ih =>
      rw [splitRuns_append_cons hb, splitRuns_of_run hne hw, ih]
      rfl

/-- The runs of a text are pieces of it, and the first one stands at its start. -/
theorem isInfix_leadingRuns (isSep : Char → Bool) (s : List Char) :
    (leadingRuns isSep s).1 <+: s ∧ ∀ w ∈ (leadingRuns isSep s).2, w <:+: s := by
  induction s with
  | nil => simp [leadingRuns]
  | cons c s ih =>
    obtain ⟨hlead, hruns⟩ := ih
    cases hc : isSep c with
    | true =>
      rw [leadingRuns_cons_of_sep hc, splitRuns_eq]
      refine ⟨List.nil_prefix, fun w hw => List.infix_cons ?_⟩
      split at hw
      · exact hruns w hw
      · rcases List.mem_cons.mp hw with rfl | hw
        · exact hlead.isInfix
        · exact hruns w hw
    | false =>
      rw [leadingRuns_cons_of_not_sep hc]
      exact ⟨(List.prefix_cons_inj c).mpr hlead, fun w hw => List.infix_cons (hruns w hw)⟩

theorem isInfix_of_mem_splitRuns {w : List Char} (h : w ∈ splitRuns isSep s) : w <:+: s := by
  obtain ⟨hlead, hruns⟩ := isInfix_leadingRuns isSep s
  rw [splitRuns_eq] at h
  split at h
  · exact hruns w h
  · rcases List.mem_cons.mp h with rfl | h
    · exact hlead.isInfix
    · exact hruns w h

end Words

/-! ## Word characters -/

section WordCharacters

variable {c : Char}

/-- The blanks beyond ASCII. -/
def blankRanges : List (Nat × Nat) :=
  [(0x85, 0x85), (0xA0, 0xA0), (0x1680, 0x1680), (0x2000, 0x200A), (0x2028, 0x2029),
   (0x202F, 0x202F), (0x205F, 0x205F), (0x3000, 0x3000)]

theorem isBlank_iff : isBlank c = true ↔
    (0x09 ≤ c.toNat ∧ c.toNat ≤ 0x0D) ∨ (0x1C ≤ c.toNat ∧ c.toNat ≤ 0x20) ∨
      ∃ b ∈ blankRanges, b.1 ≤ c.toNat ∧ c.toNat ≤ b.2 := by
  simp only [isBlank, blankRanges, Bool.or_eq_true, Bool.and_eq_true, decide_eq_true_eq, beq_iff_eq,
    List.mem_cons, List.not_mem_nil, or_false, exists_eq_or_imp, exists_eq_left]
  omega

theorem le_toNat_of_isAlphanum (h : c.isAlphanum = true) : 0x30 ≤ c.toNat := by
  rcases Bool.or_eq_true_iff.mp h with hletter | hdigit
  · rcases Bool.or_eq_true_iff.mp hletter with hupper | hlower
    · have hle : 0x41 ≤ c.toNat := (of_decide_eq_true hupper).1
      omega
    · have hle : 0x61 ≤ c.toNat := of_decide_eq_true (Bool.and_eq_true_iff.mp hlower).1
      omega
  · exact of_decide_eq_true (Bool.and_eq_true_iff.mp hdigit).1

/-- No word character is a blank. -/
theorem isBlank_of_isWord (h : isWord c = true) : isBlank c = false := by
  have hapart : ∀ r ∈ letterRanges, ∀ b ∈ blankRanges, r.2 < b.1 ∨ b.2 < r.1 := by
    decide +kernel
  have hhigh : ∀ b ∈ blankRanges, 0x80 ≤ b.1 := by decide
  refine Bool.eq_false_iff.mpr fun hblank => ?_
  rw [isWord, Bool.or_eq_true, beq_iff_eq] at h
  rcases h with rfl | h
  · exact absurd hblank (by decide)
  · split at h
    · have hlow := le_toNat_of_isAlphanum h
      rcases isBlank_iff.mp hblank with hb | hb | ⟨b, hb, hle, -⟩
      · omega
      · omega
      · have := hhigh b hb
        omega
    · obtain ⟨r, hr, hfirst, hlast⟩ := exists_of_inRanges h
      rcases isBlank_iff.mp hblank with hb | hb | ⟨b, hb, hle, hge⟩
      · omega
      · omega
      · have := hapart r hr b hb
        omega

end WordCharacters

end Indentation.Text
