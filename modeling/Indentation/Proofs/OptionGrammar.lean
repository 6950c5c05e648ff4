import Indentation.Directive.Modeline
import Indentation.Proofs.Text

/-!
# The grammar of form one

Form one is read from left to right: the longest option, then a separator that starts with a blank, and
so on to the end of the text. The grammar says less. An option may be any run of items behind a word
character, and a separator may be a colon alone, which is an item as well. So a text can be taken apart
in several ways, and the reader takes one of them.

## Why the reader finds a way if there is one

Behind an option, the reader goes on where the items end, which is the same place for every option that
the text starts with (`Items.dropItems_append`). A separator that is a colon with no blank before it is
passed over with the option in front of it, and if no blank stands behind it either, then so is the
option behind it: what follows a colon is read like what follows the text in front of the colon
(`isOptionList_append_of_startsWord`).

## Main statements

* `isOptionList_append` — what the reader says of an option, a separator and a text that starts with an
  option is what it says of the text
* `isOptionList_iff` — the reader accepts exactly the lists of options
* `formOne?_grammar` — form one gives the runs between blanks and colons of exactly the lists of options
-/

namespace Indentation.Modeline

open Text

/-! ## The grammar -/

/-- A character that is an item by itself. -/
def IsItem (c : Char) : Prop := isBlank c = false ∧ c ≠ '\\'

instance : DecidablePred IsItem := fun c =>
  inferInstanceAs (Decidable (isBlank c = false ∧ c ≠ '\\'))

/-- A run of items: characters that are neither blank nor backslash, and backslashes that have a blank
or another backslash behind them. -/
inductive Items : List Char → Prop where
  | nil : Items []
  | single {c : Char} {s : List Char} (hc : IsItem c) (hs : Items s) : Items (c :: s)
  | escaped {c : Char} {s : List Char} (hc : isBlank c = true ∨ c = '\\') (hs : Items s) :
    Items ('\\' :: c :: s)

/-- A word character with items behind it. -/
inductive IsOption : List Char → Prop where
  | mk {c : Char} {s : List Char} (hc : isWord c = true) (hs : Items s) : IsOption (c :: s)

/-- Blanks, or a colon with any blanks around it. -/
inductive IsSeparator : List Char → Prop where
  | blanks {w : List Char} (hne : w ≠ []) (hw : ∀ c ∈ w, isBlank c = true) : IsSeparator w
  | colon {a b : List Char} (ha : ∀ c ∈ a, isBlank c = true) (hb : ∀ c ∈ b, isBlank c = true) :
    IsSeparator (a ++ ':' :: b)

/-- Options with separators between them. -/
inductive OptionList : List Char → Prop where
  | last {o : List Char} (ho : IsOption o) : OptionList o
  | cons {o w s : List Char} (ho : IsOption o) (hw : IsSeparator w) (hs : OptionList s) :
    OptionList (o ++ (w ++ s))

/-- The text starts with a word character, as an option does. -/
def StartsWord (s : List Char) : Prop := ∃ c t, s = c :: t ∧ isWord c = true

section Grammar

variable {o w s x : List Char}

theorem isItem_of_isWord {c : Char} (h : isWord c = true) : IsItem c := by
  refine ⟨isBlank_of_isWord h, ?_⟩
  rintro rfl
  exact absurd h (by decide)

/-- What separates is no backslash if a backslash does not separate. -/
theorem ne_backslash_of_sep {isSep : Char → Bool} (hsep : isSep '\\' = false) {b : Char}
    (hb : isSep b = true) : b ≠ '\\' := by
  rintro rfl
  rw [hsep] at hb
  cases hb

/-- A word character is no separator. -/
theorem not_separator_of_isWord {c : Char} (h : isWord c = true) :
    (isBlank c || c == ':') = false := by
  rw [isBlank_of_isWord h, Bool.false_or, beq_eq_false_iff_ne]
  rintro rfl
  exact absurd h (by decide)

theorem Items.of_forall (h : ∀ c ∈ x, IsItem c) : Items x := by
  induction x with
  | nil => exact .nil
  | cons c x ih =>
    obtain ⟨hc, hx⟩ := List.forall_mem_cons.mp h
    exact .single hc (ih hx)

theorem Items.append (hx : Items x) (hs : Items s) : Items (x ++ s) := by
  induction hx with
  | nil => exact hs
  | single hc _ ih => exact .single hc ih
  | escaped hc _ ih => exact .escaped hc ih

theorem IsOption.items (ho : IsOption o) : Items o := by
  cases ho with
  | mk hc hs => exact .single (isItem_of_isWord hc) hs

theorem IsOption.append (ho : IsOption o) (hx : Items x) : IsOption (o ++ x) := by
  cases ho with
  | mk hc hs => exact .mk hc (hs.append hx)

theorem IsOption.startsWord_append (ho : IsOption o) (s : List Char) : StartsWord (o ++ s) := by
  cases ho with
  | mk hc hs => exact ⟨_, _, rfl, hc⟩

theorem OptionList.startsWord (h : OptionList s) : StartsWord s := by
  cases h with
  | last ho => simpa using ho.startsWord_append []
  | cons ho _ _ => exact ho.startsWord_append _

/-! ## Passing over an option -/

theorem dropItems_cons_of_ne {c : Char} (hc : c ≠ '\\') (s : List Char) :
    dropItems (c :: s) = if isBlank c then c :: s else dropItems s := by
  cases s <;> simp [dropItems, hc]

theorem dropItems_cons_of_blank {b : Char} (hb : isBlank b = true) (s : List Char) :
    dropItems (b :: s) = b :: s := by
  rw [dropItems_cons_of_ne (ne_backslash_of_sep (by decide) hb), if_pos hb]

/-- However many items are taken off a text, the rest of its items end in the same place. -/
theorem Items.dropItems_append (hx : Items x) (s : List Char) : dropItems (x ++ s) = dropItems s := by
  induction hx with
  | nil => rfl
  | single hc _ ih =>
    rw [List.cons_append, dropItems_cons_of_ne hc.2, hc.1]
    exact ih
  | escaped hc _ ih =>
    rw [List.cons_append, List.cons_append, dropItems, if_pos (by simpa using hc)]
    exact ih

/-- What `dropItems` passes over are items. -/
theorem exists_items_append (s : List Char) : ∃ x, s = x ++ dropItems s ∧ Items x := by
  fun_induction dropItems s with
  | case1 c s hc ih =>
    obtain ⟨x, hx, hitems⟩ := ih
    exact ⟨'\\' :: c :: x, by rw [List.cons_append, List.cons_append, ← hx],
      .escaped (by simpa using hc) hitems⟩
  | case2 c s => exact ⟨[], rfl, .nil⟩
  | case3 c s => exact ⟨[], rfl, .nil⟩
  | case4 c s _ hc ih =>
    obtain ⟨x, hx, hitems⟩ := ih
    simp only [Bool.or_eq_true, beq_iff_eq, not_or, Bool.not_eq_true] at hc
    exact ⟨c :: x, by rw [List.cons_append, ← hx], .single ⟨hc.2, hc.1⟩ hitems⟩
  | case5 => exact ⟨[], rfl, .nil⟩

/-- Word characters and equals signs are items, so only the first character of an option differs from
those behind it. -/
theorem dropOption?_cons (c : Char) (s : List Char) :
    dropOption? (c :: s) = if isWord c then some (dropItems s) else none := by
  have hequals : ∀ t, dropItems (dropEquals t) = dropItems t := by
    intro t
    unfold dropEquals
    split
    · rw [dropItems_cons_of_ne (by decide : '=' ≠ '\\'), if_neg (by decide)]
    · rfl
  have hword : dropItems (s.dropWhile isWord) = dropItems s := by
    have hrun : Items (s.takeWhile isWord) :=
      .of_forall fun d hd => isItem_of_isWord (List.all_eq_true.mp List.all_takeWhile d hd)
    rw [← hrun.dropItems_append, List.takeWhile_append_dropWhile]
  unfold dropOption?
  by_cases hc : isWord c = true
  · rw [List.takeWhile_cons_of_pos hc, List.dropWhile_cons_of_pos hc, hequals, hword, if_pos hc]
    rfl
  · rw [List.takeWhile_cons_of_neg hc, if_neg hc]
    rfl

theorem dropOption?_append (ho : IsOption o) (s : List Char) :
    dropOption? (o ++ s) = some (dropItems s) := by
  cases ho with
  | mk hc hs => rw [List.cons_append, dropOption?_cons, if_pos hc, hs.dropItems_append]

/-- What `dropOption?` passes over is an option. -/
theorem exists_option_append {rest : List Char} (h : dropOption? s = some rest) :
    ∃ o, s = o ++ rest ∧ IsOption o := by
  cases s with
  | nil => cases h
  | cons c s =>
    rw [dropOption?_cons] at h
    split at h
    · next hc =>
      obtain ⟨x, hx, hitems⟩ := exists_items_append s
      obtain rfl := Option.some.inj h
      exact ⟨c :: x, by rw [List.cons_append, ← hx], .mk hc hitems⟩
    · cases h

/-! ## Passing over a separator -/

/-- What `dropSeparator` passes over, with the blank before it, is a separator. -/
theorem exists_separator_append {c : Char} (hc : isBlank c = true) (s : List Char) :
    ∃ w, c :: s = w ++ dropSeparator s ∧ IsSeparator w := by
  obtain ⟨a, ha, hblank⟩ := exists_blank_append_trimStart s
  have hblank' : ∀ x ∈ c :: a, isBlank x = true := List.forall_mem_cons.mpr ⟨hc, hblank⟩
  unfold dropSeparator
  split
  · next rest hcolon =>
    obtain ⟨b, hb, hbehind⟩ := exists_blank_append_trimStart rest
    refine ⟨(c :: a) ++ ':' :: b, ?_, .colon hblank' hbehind⟩
    rw [ha, hcolon, List.append_assoc, List.cons_append, List.cons_append, ← hb]
  · exact ⟨c :: a, by rw [List.cons_append, ← ha], .blanks (List.cons_ne_nil c a) hblank'⟩

theorem StartsWord.trimStart_append (hs : StartsWord s) (hw : ∀ c ∈ w, isBlank c = true) :
    trimStart (w ++ s) = s := by
  obtain ⟨c, t, rfl, hc⟩ := hs
  rw [trimStart_append_of_blank hw, trimStart_cons_of_not_blank (isBlank_of_isWord hc)]

theorem StartsWord.dropSeparator_append (hs : StartsWord s) (hw : ∀ c ∈ w, isBlank c = true) :
    dropSeparator (w ++ s) = s := by
  unfold dropSeparator
  rw [hs.trimStart_append hw]
  obtain ⟨c, t, rfl, hc⟩ := hs
  split
  · next rest heq =>
    rw [(List.cons.inj heq).1] at hc
    exact absurd hc (by decide)
  · rfl

theorem StartsWord.dropSeparator_colon (hs : StartsWord s) {a b : List Char}
    (ha : ∀ c ∈ a, isBlank c = true) (hb : ∀ c ∈ b, isBlank c = true) :
    dropSeparator (a ++ ':' :: (b ++ s)) = s := by
  unfold dropSeparator
  rw [trimStart_append_of_blank ha, trimStart_cons_of_not_blank (by decide)]
  exact hs.trimStart_append hb

/-! ## Lists of options -/

theorem isOptionList_eq (s : List Char) : isOptionList s = match dropOption? s with
    | none => false
    | some [] => true
    | some (c :: rest) => isBlank c && isOptionList (dropSeparator rest) := by
  rw [isOptionList]
  split <;> simp [*]

theorem isOptionList_nil : isOptionList [] = false := by
  rw [isOptionList_eq]
  rfl

/-- An option may end the list. -/
theorem isOptionList_of_isOption (ho : IsOption o) : isOptionList o = true := by
  have hdrop := dropOption?_append ho []
  rw [List.append_nil] at hdrop
  rw [isOptionList_eq, hdrop]
  rfl

/-- Behind an option, a blank starts a separator. -/
theorem isOptionList_append_blank (ho : IsOption o) {b : Char} (hb : isBlank b = true)
    (s : List Char) : isOptionList (o ++ b :: s) = isOptionList (dropSeparator s) := by
  rw [isOptionList_eq, dropOption?_append ho, dropItems_cons_of_blank hb]
  dsimp only
  rw [hb, Bool.true_and]

/-- An option right in front of another one is passed over with it. -/
theorem isOptionList_append_of_startsWord (ho : IsOption o) (hs : StartsWord s) :
    isOptionList (o ++ s) = isOptionList s := by
  obtain ⟨c, t, rfl, hc⟩ := hs
  have hword : IsOption [c] := .mk hc .nil
  have hdrop : dropOption? (c :: t) = some (dropItems t) := dropOption?_append hword t
  have hitem : dropItems (c :: t) = dropItems t := hword.items.dropItems_append t
  rw [isOptionList_eq, isOptionList_eq (c :: t), dropOption?_append ho, hdrop, hitem]

/-- **An option and a separator in front of an option do not matter to the reader.** -/
theorem isOptionList_append (ho : IsOption o) (hw : IsSeparator w) (hs : StartsWord s) :
    isOptionList (o ++ (w ++ s)) = isOptionList s := by
  cases hw with
  | blanks hne hw =>
    obtain ⟨b, w, rfl⟩ := List.exists_cons_of_ne_nil hne
    obtain ⟨hb, hw⟩ := List.forall_mem_cons.mp hw
    rw [List.cons_append, isOptionList_append_blank ho hb, hs.dropSeparator_append hw]
  | @colon a b ha hb =>
    cases a with
    | cons c a =>
      obtain ⟨hc, ha⟩ := List.forall_mem_cons.mp ha
      rw [List.append_assoc, List.cons_append, List.cons_append, isOptionList_append_blank ho hc,
        hs.dropSeparator_colon ha hb]
    | nil =>
      -- a colon right behind an option is an item of it
      have ho' : IsOption (o ++ [':']) := ho.append (.single (by decide) .nil)
      have hsplit : o ++ ([] ++ ':' :: b ++ s) = (o ++ [':']) ++ (b ++ s) := by simp
      rw [hsplit]
      cases b with
      | nil => exact isOptionList_append_of_startsWord ho' hs
      | cons c b =>
        obtain ⟨hc, hb⟩ := List.forall_mem_cons.mp hb
        rw [List.cons_append, isOptionList_append_blank ho' hc, hs.dropSeparator_append hb]

theorem optionList_of_isOptionList (h : isOptionList s = true) : OptionList s := by
  induction hn : s.length using Nat.strongRecOn generalizing s with
  | ind n ih =>
    rw [isOptionList_eq] at h
    split at h
    · cases h
    · next hdrop =>
      obtain ⟨o, rfl, ho⟩ := exists_option_append hdrop
      rw [List.append_nil]
      exact .last ho
    · next c rest hdrop =>
      obtain ⟨hc, hrest⟩ := Bool.and_eq_true_iff.mp h
      obtain ⟨o, hs, ho⟩ := exists_option_append hdrop
      obtain ⟨w, hw, hsep⟩ := exists_separator_append hc rest
      have hlt : (dropSeparator rest).length < n := by
        have hoption := dropOption?_length_lt hdrop
        have hseparator := dropSeparator_length_le rest
        simp only [List.length_cons] at hoption
        omega
      rw [hs, hw]
      exact .cons ho hsep (ih _ hlt hrest rfl)

/-- **The reader accepts exactly the lists of options.** -/
theorem isOptionList_iff : isOptionList s = true ↔ OptionList s := by
  refine ⟨optionList_of_isOptionList, fun h => ?_⟩
  induction h with
  | last ho => exact isOptionList_of_isOption ho
  | cons ho hw hs ih => rw [isOptionList_append ho hw hs.startsWord, ih]

end Grammar

/-! ## Form one -/

theorem formOne?_eq_some_iff {s : List Char} {options : List (List Char)} :
    formOne? s = some options ↔
      OptionList (trimEnd s) ∧ Runs (fun c => isBlank c || c == ':') (trimEnd s) options := by
  unfold formOne?
  dsimp only
  rw [← isOptionList_iff, ← splitRuns_eq_iff]
  cases isOptionList (trimEnd s) with
  | true => simp
  | false => simp

/--
**Form one accepts exactly the grammar.**

What it gives are the runs of the text between blanks and colons, in order and without empty ones, and
there is at least one of them. Blanks at the end of the text do not count.
-/
theorem formOne?_grammar (s : List Char) :
    (formOne? s ≠ none ↔ OptionList (trimEnd s)) ∧
    (∀ options, formOne? s = some options ↔
      OptionList (trimEnd s) ∧ Runs (fun c => isBlank c || c == ':') (trimEnd s) options) ∧
    formOne? s ≠ some [] := by
  refine ⟨?_, fun options => formOne?_eq_some_iff, fun hnil => ?_⟩
  · rw [Option.ne_none_iff_exists']
    constructor
    · rintro ⟨options, hoptions⟩
      exact (formOne?_eq_some_iff.mp hoptions).1
    · intro hlist
      exact ⟨_, formOne?_eq_some_iff.mpr ⟨hlist, runs_splitRuns _ _⟩⟩
  · -- an option starts with a character that stands in a run
    obtain ⟨hlist, hruns⟩ := formOne?_eq_some_iff.mp hnil
    obtain ⟨c, t, ht, hc⟩ := hlist.startsWord
    have hsep := splitRuns_eq_nil_iff.mp (splitRuns_eq_iff.mpr hruns) c (ht ▸ List.mem_cons_self)
    rw [not_separator_of_isWord hc] at hsep
    cases hsep

end Indentation.Modeline
