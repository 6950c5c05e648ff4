import Indentation.Proofs.OptionGrammar
import Mathlib.Order.Bounds.Defs

/-!
# The longest option

An option is documented as a name of word characters, an equals sign or none, and an argument of items
(`IsSpelledOption`). Word characters and the equals sign are items as well, so one option can be taken
apart in several ways. The scanner takes each part as long as it can. What it passes over is the longest
piece that can be taken apart at all, as every such piece is a word character with items behind it
(`isSpelledOption_iff`) and the items end in the same place for all of them.

## Main statements

* `isSpelledOption_iff` — where the name ends makes no difference
* `dropItems_stops` — items end in front of a blank, or of a backslash that starts none
* `isOption_of_optionEnd?` — what is passed over is an option
* `optionEnd?_isGreatest` — it is the longest piece of the text that is an option
-/

namespace Indentation.Modeline

open Text

/-- A name of word characters, an equals sign or none, and an argument of items. -/
inductive IsSpelledOption : List Char → Prop where
  | bare {name arg : List Char} (hne : name ≠ []) (hname : ∀ c ∈ name, isWord c = true)
    (harg : Items arg) : IsSpelledOption (name ++ arg)
  | assigned {name arg : List Char} (hne : name ≠ []) (hname : ∀ c ∈ name, isWord c = true)
    (harg : Items arg) : IsSpelledOption (name ++ '=' :: arg)

section Pieces

variable {text o rest : List Char} {start stop : Nat}

theorem IsOption.ne_nil (ho : IsOption o) : o ≠ [] := by
  cases ho with
  | mk hc hs => exact List.cons_ne_nil _ _

theorem IsOption.of_name {name : List Char} (hne : name ≠ []) (hname : ∀ c ∈ name, isWord c = true) :
    IsOption name := by
  obtain ⟨c, name, rfl⟩ := List.exists_cons_of_ne_nil hne
  obtain ⟨hc, hrest⟩ := List.forall_mem_cons.mp hname
  exact .mk hc (.of_forall fun d hd => isItem_of_isWord (hrest d hd))

/-- **Where the name of an option ends makes no difference.** -/
theorem isSpelledOption_iff : IsSpelledOption o ↔ IsOption o := by
  constructor
  · intro h
    cases h with
    | bare hne hname harg => exact (IsOption.of_name hne hname).append harg
    | assigned hne hname harg =>
      exact (IsOption.of_name hne hname).append (.single (by decide) harg)
  · intro h
    cases h with
    | @mk c arg hc harg =>
      have hname : ∀ d ∈ [c], isWord d = true := List.forall_mem_singleton.mpr hc
      exact .bare (List.cons_ne_nil c []) hname harg

/-- Items end in front of a blank, or of a backslash that starts none. -/
theorem dropItems_stops (s : List Char) :
    ∀ c ∈ (dropItems s)[0]?, isBlank c = true ∨
      c = '\\' ∧ ∀ d ∈ (dropItems s)[1]?, isBlank d = false ∧ d ≠ '\\' := by
  fun_induction dropItems s with
  | case1 c s _ ih => exact ih
  | case2 c s hc =>
    rintro d ⟨⟩
    refine .inr ⟨rfl, ?_⟩
    rintro e ⟨⟩
    simpa using hc
  | case3 c s hnot hc =>
    rintro d ⟨⟩
    rcases Bool.or_eq_true_iff.mp hc with hslash | hblank
    · obtain rfl : c = '\\' := beq_iff_eq.mp hslash
      refine .inr ⟨rfl, ?_⟩
      -- nothing stands behind the backslash, or it would have been read with it
      cases s with
      | nil => simp
      | cons e s => exact absurd rfl (hnot e s rfl)
    · exact .inl hblank
  | case4 c s _ _ ih => exact ih
  | case5 => simp

/-- No option that a text starts with is longer than the one that is passed over. -/
theorem IsOption.length_le (ho : IsOption o) {tail : List Char}
    (h : dropOption? (o ++ tail) = some rest) : rest.length ≤ tail.length := by
  rw [dropOption?_append ho] at h
  obtain rfl := Option.some.inj h
  exact dropItems_length_le tail

/-- What an option is passed over to is where items end. -/
theorem dropOption?_stops {s : List Char} (h : dropOption? s = some rest) :
    ∀ c ∈ rest[0]?, isBlank c = true ∨
      c = '\\' ∧ ∀ d ∈ rest[1]?, isBlank d = false ∧ d ≠ '\\' := by
  unfold dropOption? at h
  split at h
  · cases h
  · obtain rfl := Option.some.inj h
    exact dropItems_stops _

/-- A piece of a text stands in front of what is behind it. -/
theorem extract_append_drop (text : List Char) (start stop : Nat) :
    text.extract start stop ++ (text.drop start).drop (stop - start) = text.drop start :=
  List.take_append_drop (stop - start) (text.drop start)

theorem optionEnd?_eq_none_iff :
    optionEnd? text start = none ↔ dropOption? (text.drop start) = none := by
  rw [optionEnd?, optionLength?, Option.map_eq_none_iff, Option.map_eq_none_iff]

/-- **What is passed over is an option**, and the position is the one behind it. -/
theorem isOption_of_optionEnd? (h : optionEnd? text start = some stop) :
    IsOption (text.extract start stop) ∧ start < stop ∧ stop ≤ text.length ∧
      dropOption? (text.drop start) = some (text.drop stop) := by
  obtain ⟨n, hn, rfl⟩ := Option.map_eq_some_iff.mp h
  obtain ⟨rest, hdrop, rfl⟩ := Option.map_eq_some_iff.mp hn
  obtain ⟨o, htext, ho⟩ := exists_option_append hdrop
  have hend : (text.drop start).length - rest.length = o.length := by
    rw [htext, List.length_append, Nat.add_sub_cancel]
  have hpiece : text.extract start (start + o.length) = o := by
    rw [List.extract, htext, Nat.add_sub_cancel_left, List.take_left]
  have hrest : text.drop (start + o.length) = rest := by
    rw [← List.drop_drop, htext, List.drop_left]
  have hpos : 0 < o.length := List.length_pos_iff.mpr ho.ne_nil
  have hlength := congrArg List.length htext
  rw [List.length_append, List.length_drop] at hlength
  rw [hend, hpiece, hrest]
  exact ⟨ho, by omega, by omega, hdrop⟩

/--
**The option that is passed over is the longest piece of the text that is one.**

There is none exactly if no piece that starts there is an option. What follows it is a blank, or a
backslash that starts no item, or the end of the text.
-/
theorem optionEnd?_isGreatest (text : List Char) (start : Nat) :
    (optionEnd? text start = none ↔ ∀ stop, ¬IsSpelledOption (text.extract start stop)) ∧
    ∀ stop, optionEnd? text start = some stop →
      IsGreatest {k | k ≤ text.length ∧ IsSpelledOption (text.extract start k)} stop ∧
      start < stop ∧
      ∀ c ∈ text[stop]?, isBlank c = true ∨
        c = '\\' ∧ ∀ d ∈ text[stop + 1]?, isBlank d = false ∧ d ≠ '\\' := by
  simp only [isSpelledOption_iff]
  constructor
  · constructor
    · intro hnone stop ho
      have hsome := dropOption?_append ho ((text.drop start).drop (stop - start))
      rw [extract_append_drop, optionEnd?_eq_none_iff.mp hnone] at hsome
      cases hsome
    · intro hno
      cases hend : optionEnd? text start with
      | none => rfl
      | some stop => exact absurd (isOption_of_optionEnd? hend).1 (hno stop)
  · intro stop hend
    obtain ⟨ho, hlt, hle, hdrop⟩ := isOption_of_optionEnd? hend
    refine ⟨⟨⟨hle, ho⟩, ?_⟩, hlt, ?_⟩
    · rintro k ⟨hk, hpiece⟩
      rw [← extract_append_drop text start k] at hdrop
      have hrest := hpiece.length_le hdrop
      rw [List.length_drop, List.length_drop, List.length_drop] at hrest
      omega
    · have hstops := dropOption?_stops hdrop
      rw [List.getElem?_drop, List.getElem?_drop] at hstops
      exact hstops

example : optionEnd? "# x=a\\ b:c\\d".toList 2 = some 10 := by decide

end Pieces

end Indentation.Modeline
