import Mathlib
import Indentation.Detect
import Indentation.Proofs.Modeline

/-!
# Blanks behind a backslash

A backslash takes a blank behind it into the value of an option, and whether a line is a modeline is
found out with that in mind. Its options however are cut out of it at every blank. So an option with an
escaped blank in it gives several, and what stands behind the blank is applied like an option of its
own: ` vim: def=a\ sts=4` sets the soft tab stop.

## How it shows

Where the options were cut at an escaped blank can be told from the options themselves
(`ListText.splitAtEscape_iff`). One that stands before such a blank ends in a backslash that escapes,
and in a modeline there is nothing else that such an option can stand before: form two cuts at blanks
alone, and form one, which cuts at colons as well, takes no backslash with a colon behind it
(`Paired.next`).

## Main statements

* `splitAtEscape_of_options?` — two neighbouring options are cut apart at an escaped blank exactly if
  the first one ends in a backslash that escapes
-/

namespace Indentation.Modeline

open Text

/-! ## Backslashes that escape -/

/-- Whether a backslash is left over at the end of a text that escapes what follows, if one is left over
before it. -/
def escapes (pending : Bool) (s : List Char) : Bool :=
  s.foldl (fun pending c => c == '\\' && !pending) pending

/-- Whether a text ends in a backslash that is not the second one of a pair. -/
def endsInEscape (s : List Char) : Bool := escapes false s

/-- A text in which all backslashes have a blank or another backslash behind them. -/
inductive Paired : List Char → Prop where
  | nil : Paired []
  | single {c : Char} {s : List Char} (hc : c ≠ '\\') (hs : Paired s) : Paired (c :: s)
  | escaped {c : Char} {s : List Char} (hc : isBlank c = true ∨ c = '\\') (hs : Paired s) :
    Paired ('\\' :: c :: s)

section Escapes

variable {a s t w x : List Char} {b c : Char}

theorem escapes_append (pending : Bool) (a s : List Char) :
    escapes pending (a ++ s) = escapes (escapes pending a) s := List.foldl_append

theorem escapes_cons_of_ne (hc : c ≠ '\\') (pending : Bool) (s : List Char) :
    escapes pending (c :: s) = endsInEscape s := by
  have hstep : (c == '\\' && !pending) = false := by simp [hc]
  rw [escapes, List.foldl_cons, hstep]
  rfl

theorem endsInEscape_append_cons (hb : b ≠ '\\') (a s : List Char) :
    endsInEscape (a ++ b :: s) = endsInEscape s := by
  rw [endsInEscape, escapes_append, escapes_cons_of_ne hb]

/-- A character and the one that it escapes leave nothing over. -/
theorem endsInEscape_escaped (c : Char) (s : List Char) :
    endsInEscape ('\\' :: c :: s) = endsInEscape s := by
  simp [escapes, endsInEscape]

theorem Paired.append (hs : Paired s) (ht : Paired t) : Paired (s ++ t) := by
  induction hs with
  | nil => exact ht
  | single hc _ ih => exact .single hc ih
  | escaped hc _ ih => exact .escaped hc ih

theorem Paired.of_forall_ne (h : ∀ c ∈ s, c ≠ '\\') : Paired s := by
  induction s with
  | nil => exact .nil
  | cons c s ih =>
    obtain ⟨hc, hs⟩ := List.forall_mem_cons.mp h
    exact .single hc (ih hs)

theorem Items.paired (hx : Items x) : Paired x := by
  induction hx with
  | nil => exact .nil
  | single hc _ ih => exact .single hc.2 ih
  | escaped hc _ ih => exact .escaped hc ih

theorem IsSeparator.paired (hw : IsSeparator w) : Paired w := by
  have hblank : ∀ c, isBlank c = true → c ≠ '\\' := fun c hc => ne_backslash_of_sep (by decide) hc
  cases hw with
  | blanks _ hw => exact .of_forall_ne fun c hc => hblank c (hw c hc)
  | colon ha hb =>
    exact (Paired.of_forall_ne fun c hc => hblank c (ha c hc)).append
      (.single (by decide) (.of_forall_ne fun c hc => hblank c (hb c hc)))

theorem OptionList.paired (h : OptionList s) : Paired s := by
  induction h with
  | last ho => exact ho.items.paired
  | cons ho hw _ ih => exact ho.items.paired.append (hw.paired.append ih)

/-- **Behind a backslash that escapes there is a blank or a backslash.** -/
theorem Paired.next (h : Paired s) (hs : s = a ++ b :: t) (ha : endsInEscape a = true) :
    isBlank b = true ∨ b = '\\' := by
  induction h generalizing a with
  | nil => simp at hs
  | single hc _ ih =>
    cases a with
    | nil => cases ha
    | cons c' a =>
      obtain ⟨rfl, hrest⟩ := List.cons.inj hs
      rw [endsInEscape, escapes_cons_of_ne hc] at ha
      exact ih hrest ha
  | escaped hc _ ih =>
    rcases a with _ | ⟨c₁, _ | ⟨c₂, a⟩⟩
    · cases ha
    · obtain ⟨rfl, hrest⟩ := List.cons.inj hs
      rwa [(List.cons.inj hrest).1] at hc
    · obtain ⟨rfl, hrest⟩ := List.cons.inj hs
      rw [endsInEscape_escaped] at ha
      exact ih (List.cons.inj hrest).2 ha

end Escapes

/-! ## Runs between separators -/

section Runs

variable {isSep : Char → Bool} {s x y : List Char} {xs ys : List (List Char)}

/-- A text without runs is made of separators, and they escape nothing. -/
theorem endsInEscape_of_no_runs (hsep : isSep '\\' = false) (h : Runs isSep s []) :
    endsInEscape s = false := by
  generalize hruns : ([] : List (List Char)) = runs at h
  induction h with
  | nil => rfl
  | separator hb _ ih =>
    rw [endsInEscape, escapes_cons_of_ne (ne_backslash_of_sep hsep hb)]
    exact ih hruns
  | last _ _ => cases hruns
  | run _ _ _ _ _ => cases hruns

/-- A text ends in a backslash that escapes only if its last run does. -/
theorem endsInEscape_last (hsep : isSep '\\' = false) (h : Runs isSep s (xs ++ [x]))
    (hs : endsInEscape s = true) : endsInEscape x = true := by
  generalize hruns : xs ++ [x] = runs at h
  induction h generalizing xs with
  | nil => cases hs
  | separator hb _ ih =>
    rw [endsInEscape, escapes_cons_of_ne (ne_backslash_of_sep hsep hb)] at hs
    exact ih hs hruns
  | last _ _ =>
    cases xs with
    | nil =>
      obtain ⟨rfl, -⟩ := List.cons.inj hruns
      exact hs
    | cons w xs => simp at hruns
  | run _ _ hb hrest ih =>
    rw [endsInEscape_append_cons (ne_backslash_of_sep hsep hb)] at hs
    cases xs with
    | nil =>
      -- behind the last run there are separators alone
      obtain ⟨-, rfl⟩ := List.cons.inj hruns
      rw [endsInEscape_of_no_runs hsep hrest] at hs
      cases hs
    | cons w xs => exact ih hs (List.cons.inj hruns).2

/-- Right behind a run that another one follows there is a separator. -/
theorem exists_separator_of_runs (hsep : isSep '\\' = false)
    (h : Runs isSep s (xs ++ x :: y :: ys)) :
    ∃ a b c, s = a ++ b :: c ∧ isSep b = true ∧ endsInEscape a = endsInEscape x ∧
      Runs isSep a (xs ++ [x]) ∧ Runs isSep c (y :: ys) := by
  generalize hruns : xs ++ x :: y :: ys = runs at h
  induction h generalizing xs with
  | nil => simp at hruns
  | @separator b s _ hb _ ih =>
    obtain ⟨a, d, c, rfl, hd, hends, ha, hc⟩ := ih hruns
    refine ⟨b :: a, d, c, rfl, hd, ?_, .separator hb ha, hc⟩
    rw [← hends]
    exact escapes_cons_of_ne (ne_backslash_of_sep hsep hb) false a
  | last _ _ =>
    cases xs with
    | nil => cases (List.cons.inj hruns).2
    | cons w xs => simp at hruns
  | @run w b s _ hne hw hb hrest ih =>
    cases xs with
    | nil =>
      obtain ⟨rfl, rfl⟩ := List.cons.inj hruns
      exact ⟨x, b, s, rfl, hb, rfl, .last hne hw, hrest⟩
    | cons w' xs =>
      obtain ⟨rfl, htail⟩ := List.cons.inj hruns
      obtain ⟨a, d, c, rfl, hd, hends, ha, hc⟩ := ih htail
      refine ⟨w' ++ b :: a, d, c, by simp, hd, ?_, .run hne hw hb ha, hc⟩
      rw [← hends, endsInEscape_append_cons (ne_backslash_of_sep hsep hb)]

end Runs

/-! ## Options cut apart at an escaped blank -/

/-- The runs of a text are cut apart at a blank with a backslash before it that escapes: `xs` stand in
front of the blank and `ys` behind it. -/
def SplitAtEscape (isSep : Char → Bool) (s : List Char) (xs ys : List (List Char)) : Prop :=
  ∃ a b c, s = a ++ b :: c ∧ isBlank b = true ∧ endsInEscape a = true ∧ Runs isSep a xs ∧
    Runs isSep c ys

section Options

variable {isSep : Char → Bool} {line text x y : List Char} {xs ys tokens : List (List Char)}

namespace ListText

theorem sep_of_blank (h : ListText line isSep text) {b : Char} (hb : isBlank b = true) :
    isSep b = true := by
  cases h with
  | one _ _ => exact Bool.or_eq_true_iff.mpr (.inl hb)
  | two _ _ _ => exact hb

theorem not_sep_backslash (h : ListText line isSep text) : isSep '\\' = false := by
  cases h with
  | one _ _ => decide
  | two _ _ _ => decide

/-- No colon that is escaped separates options: it does not in form two, and none is in form one. -/
theorem blank_of_escaped (h : ListText line isSep text) {a c : List Char} {b : Char}
    (htext : text = a ++ b :: c) (hb : isSep b = true) (ha : endsInEscape a = true) :
    isBlank b = true := by
  cases h with
  | one _ hlist =>
    refine (hlist.paired.next htext ha).resolve_right ?_
    rintro rfl
    exact absurd hb (by decide)
  | two _ _ _ => exact hb

/-- An option stands in front of an escaped blank exactly if it ends in a backslash that escapes. -/
theorem splitAtEscape_iff (h : ListText line isSep text)
    (hruns : Runs isSep text (xs ++ x :: y :: ys)) :
    SplitAtEscape isSep text (xs ++ [x]) (y :: ys) ↔ endsInEscape x = true := by
  constructor
  · rintro ⟨a, b, c, -, -, ha, hfront, -⟩
    exact endsInEscape_last h.not_sep_backslash hfront ha
  · intro hx
    obtain ⟨a, b, c, htext, hb, hends, hfront, hbehind⟩ :=
      exists_separator_of_runs h.not_sep_backslash hruns
    have ha : endsInEscape a = true := hends.trans hx
    exact ⟨a, b, c, htext, h.blank_of_escaped htext hb ha, ha, hfront, hbehind⟩

end ListText

/--
**Options are cut out of their list at every blank, escaped or not.**

All that stand in front of a blank and all that stand behind it are options, and each is read for
itself. Two neighbours are cut apart at an escaped blank, which the grammar has in the value of the
first one, exactly if that one ends in a backslash that escapes.
-/
theorem splitAtEscape_of_options? (line : List Char) (tokens : List (List Char))
    (h : options? line = some tokens) :
    readings line = tokens.map readOption ∧
    ∃ isSep text, ListText line isSep text ∧ Runs isSep text tokens ∧
      (∀ a b c, text = a ++ b :: c → isBlank b = true →
        tokens = splitRuns isSep a ++ splitRuns isSep c) ∧
      ∀ xs x y ys, tokens = xs ++ x :: y :: ys →
        (SplitAtEscape isSep text (xs ++ [x]) (y :: ys) ↔ endsInEscape x = true) := by
  obtain ⟨isSep, text, htext, hruns⟩ := exists_listText h
  refine ⟨readings_of_options? h, isSep, text, htext, hruns, ?_, ?_⟩
  · rintro a b c rfl hb
    rw [← splitRuns_append_cons (htext.sep_of_blank hb)]
    exact (splitRuns_eq_iff.mpr hruns).symm
  · rintro xs x y ys rfl
    exact htext.splitAtEscape_iff hruns

/-- Three options, the first two of which are one to the grammar. -/
theorem splitAtEscape_of_options?_three :
    options? "# vim: def=a\\ sts=4 et".toList
        = some ["def=a\\".toList, "sts=4".toList, "et".toList] ∧
      readings "# vim: def=a\\ sts=4 et".toList
        = ["def=a\\".toList, "sts=4".toList, "et".toList].map readOption ∧
      ∃ isSep text, ListText "# vim: def=a\\ sts=4 et".toList isSep text ∧
        SplitAtEscape isSep text ["def=a\\".toList] ["sts=4".toList, "et".toList] ∧
        ¬SplitAtEscape isSep text ["def=a\\".toList, "sts=4".toList] ["et".toList] := by
  have hoptions : options? "# vim: def=a\\ sts=4 et".toList
      = some ["def=a\\".toList, "sts=4".toList, "et".toList] := by cbv
  obtain ⟨hreadings, isSep, text, htext, -, -, hsplit⟩ := splitAtEscape_of_options? _ _ hoptions
  refine ⟨hoptions, hreadings, isSep, text, htext, ?_, fun hcut => ?_⟩
  · exact (hsplit [] "def=a\\".toList "sts=4".toList ["et".toList] rfl).mpr (by decide)
  · have hends := (hsplit ["def=a\\".toList] "sts=4".toList "et".toList [] rfl).mp hcut
    exact absurd hends (by decide)

/-- In either form, a soft tab stop behind an escaped blank in the value of another option is set. -/
theorem escaped_blank_separates :
    (ListText "# vim: def=a\\ sts=4 et".toList (fun c => isBlank c || c == ':')
        "def=a\\ sts=4 et".toList ∧
      options? "# vim: def=a\\ sts=4 et".toList
        = some ["def=a\\".toList, "sts=4".toList, "et".toList] ∧
      SplitAtEscape (fun c => isBlank c || c == ':') "def=a\\ sts=4 et".toList
        ["def=a\\".toList] ["sts=4".toList, "et".toList]) ∧
    (ListText "/* vim: set def=a\\ sts=4 et: */".toList isBlank "def=a\\ sts=4 et".toList ∧
      options? "/* vim: set def=a\\ sts=4 et: */".toList
        = some ["def=a\\".toList, "sts=4".toList, "et".toList] ∧
      SplitAtEscape isBlank "def=a\\ sts=4 et".toList
        ["def=a\\".toList] ["sts=4".toList, "et".toList]) ∧
    readOption "sts=4".toList = .ok (some (.softTabStop 4)) ∧
    detect false "# vim: def=a\\ sts=4 et\n".toList = .ok (.spaces 4) := by
  have hends : endsInEscape "def=a\\".toList = true := by decide
  have hlist : isOptionList "def=a\\ sts=4 et".toList = true := by cbv
  have htails : tagTails "/* vim: set def=a\\ sts=4 et: */".toList
      = ["set def=a\\ sts=4 et: */".toList] := by decide
  have hone : formOne? "set def=a\\ sts=4 et: */".toList = none := by cbv
  have htwo : formTwo? "set def=a\\ sts=4 et: */".toList
      = some ["def=a\\".toList, "sts=4".toList, "et".toList] := by decide
  refine ⟨⟨?_, by cbv, ?_⟩, ⟨?_, ?_, ?_⟩, by cbv, by cbv⟩
  · have htail : "def=a\\ sts=4 et".toList ∈ tagTails "# vim: def=a\\ sts=4 et".toList := by decide
    exact .one htail (isOptionList_iff.mp hlist)
  · exact ⟨"def=a\\".toList, ' ', "sts=4 et".toList, rfl, rfl, hends,
      splitRuns_eq_iff.mp (by decide), splitRuns_eq_iff.mp (by decide)⟩
  · have htail : "set def=a\\ sts=4 et: */".toList ∈
        tagTails "/* vim: set def=a\\ sts=4 et: */".toList := htails ▸ List.mem_singleton_self _
    have hset : afterSet? "set def=a\\ sts=4 et: */".toList
        = some "def=a\\ sts=4 et: */".toList := by decide
    exact .two htail hset (by decide)
  · rw [options?, htails, List.findSome?_singleton, List.findSome?_singleton, hone, htwo]
    rfl
  · exact ⟨"def=a\\".toList, ' ', "sts=4 et".toList, rfl, rfl, hends,
      splitRuns_eq_iff.mp (by decide), splitRuns_eq_iff.mp (by decide)⟩

end Options

end Indentation.Modeline
