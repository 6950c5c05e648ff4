import Indentation.Line
import Indentation.Proofs.Text

/-!
# Lines of composed texts

How the lines of a text come from the lines of its parts. A text that ends in a line break keeps its
lines when more is put behind it. The line breaks at the start of what is put behind it merge with
that line break (`Line.dropBreak`).

## Main statements

* `splitLines_append_of_break` — the lines of a text that ends in a line break come first
* `splitLines_append_breaks_append` — the lines of a text stand behind its first line
* `isInfix_of_mem_ofText` — every line is a piece of the text
* `ofText_flatMap` — lines with a line feed behind each are read back
-/

namespace Indentation.Line

/-- The lines of a text that stands behind a line break: an empty line at its start is part of that
line break. -/
def dropBreak : List (List Char) → List (List Char)
  | [] :: ls => ls
  | ls => ls

theorem dropBreak_of_ne {ls : List (List Char)} (h : ∀ l ∈ ls, l ≠ []) : dropBreak ls = ls := by
  match ls, h with
  | [], _ => rfl
  | [] :: ls, h => exact absurd rfl (h [] List.mem_cons_self)
  | (_ :: _) :: _, _ => rfl

theorem dropBreak_sublist (ls : List (List Char)) : (dropBreak ls).Sublist ls := by
  unfold dropBreak
  split
  · exact List.sublist_cons_self _ _
  · exact List.Sublist.refl _

theorem consChar_of_eol {c : Char} (hc : isEol c = true) (ls : List (List Char)) :
    consChar c ls = [] :: dropBreak ls := by
  match ls with
  | [] | [] :: _ | (_ :: _) :: _ => simp [consChar, hc, dropBreak]

theorem consChar_of_not_eol {c : Char} (hc : isEol c = false) (ls : List (List Char)) :
    consChar c ls = (c :: ls.headD []) :: ls.tail := by
  cases ls <;> simp [consChar, hc]

theorem consChar_ne_nil (c : Char) (ls : List (List Char)) : consChar c ls ≠ [] := by
  unfold consChar
  split <;> split <;> simp

theorem splitLines_ne_nil {s : List Char} (hs : s ≠ []) : splitLines s ≠ [] := by
  cases s with
  | nil => exact absurd rfl hs
  | cons c s => exact consChar_ne_nil c _

/-- A character goes to the front of the first line, so lines at the end do not matter to it. -/
theorem consChar_append {ls : List (List Char)} (h : ls ≠ []) (c : Char) (ms : List (List Char)) :
    consChar c (ls ++ ms) = consChar c ls ++ ms := by
  match ls, h with
  | [] :: _, _ | (_ :: _) :: _, _ =>
    unfold consChar
    split <;> rfl

/-- **The lines of a text that ends in a line break come first.** -/
theorem splitLines_append_of_break {s : List Char} {b : Char} (hb : isEol b = true)
    (hs : s.getLast? = some b) (t : List Char) :
    splitLines (s ++ t) = splitLines s ++ dropBreak (splitLines t) := by
  induction s with
  | nil => simp at hs
  | cons c s ih =>
    cases s with
    | nil =>
      obtain rfl : c = b := by simpa using hs
      simp only [List.singleton_append, splitLines_cons, splitLines_nil, consChar_of_eol hb]
      rfl
    | cons d s =>
      -- the rest ends in the same break and has a first line, which `c` goes to the front of
      have hne : splitLines (d :: s) ≠ [] := splitLines_ne_nil (List.cons_ne_nil d s)
      rw [List.cons_append, splitLines_cons, ih (by simpa using hs), consChar_append hne,
        splitLines_cons c]

theorem ofText_append_of_break {s : List Char} {b : Char} (hb : isEol b = true)
    (hs : s.getLast? = some b) (t : List Char) :
    ofText (s ++ t) = ofText s ++ (dropBreak (splitLines t)).map ofChars := by
  rw [ofText, splitLines_append_of_break hb hs, List.map_append]
  rfl

/-- What stands before the first line break is the first line. -/
theorem splitLines_append_cons {l : List Char} (hl : ∀ c ∈ l, isEol c = false) {b : Char}
    (hb : isEol b = true) (t : List Char) :
    splitLines (l ++ b :: t) = l :: dropBreak (splitLines t) := by
  induction l with
  | nil => exact consChar_of_eol hb _
  | cons c l ih =>
    have hc : isEol c = false := hl c List.mem_cons_self
    rw [List.cons_append, splitLines_cons, ih fun x hx => hl x (List.mem_cons_of_mem _ hx)]
    simp [consChar, hc]

/-- A run of line breaks opens one empty line, and is part of a run that follows it. -/
theorem splitLines_breaks_append {a : List Char} (ha : a ≠ []) (heol : ∀ c ∈ a, isEol c = true)
    (s : List Char) : splitLines (a ++ s) = [] :: dropBreak (splitLines s) := by
  induction a with
  | nil => exact absurd rfl ha
  | cons c a ih =>
    obtain ⟨hc, hrest⟩ := List.forall_mem_cons.mp heol
    rw [List.cons_append, splitLines_cons, consChar_of_eol hc]
    by_cases hnil : a = []
    · rw [hnil, List.nil_append]
    · rw [ih hnil hrest]
      rfl

/-- A text that does not start with a line break has no empty first line. -/
theorem dropBreak_splitLines {s : List Char} (hs : ∀ c ∈ s.head?, isEol c = false) :
    dropBreak (splitLines s) = splitLines s := by
  cases s with
  | nil => rfl
  | cons c s =>
    rw [splitLines_cons, consChar_of_not_eol (hs c rfl)]
    rfl

/-- **The lines of a text stand behind its first line**, which a whole run of line breaks ends. -/
theorem splitLines_append_breaks_append {l a s : List Char} (hl : ∀ c ∈ l, isEol c = false)
    (ha : a ≠ []) (heol : ∀ c ∈ a, isEol c = true) (hs : ∀ c ∈ s.head?, isEol c = false) :
    splitLines (l ++ (a ++ s)) = l :: splitLines s := by
  induction l with
  | nil => rw [List.nil_append, splitLines_breaks_append ha heol, dropBreak_splitLines hs]
  | cons c l ih =>
    obtain ⟨hc, hl⟩ := List.forall_mem_cons.mp hl
    rw [List.cons_append, splitLines_cons, ih hl, consChar_of_not_eol hc]
    rfl

/-- A text without line breaks is one line. -/
theorem splitLines_of_not_eol {l : List Char} (hne : l ≠ []) (hl : ∀ c ∈ l, isEol c = false) :
    splitLines l = [l] := by
  induction l with
  | nil => exact absurd rfl hne
  | cons c l ih =>
    obtain ⟨hc, hl⟩ := List.forall_mem_cons.mp hl
    rw [splitLines_cons, consChar_of_not_eol hc]
    by_cases hnil : l = []
    · rw [hnil]
      rfl
    · rw [ih hnil hl]
      rfl

/-- Lines that are not empty, with a line feed behind each, are read back. -/
theorem splitLines_flatMap {ls : List (List Char)} (hne : ∀ l ∈ ls, l ≠ [])
    (heol : ∀ l ∈ ls, ∀ c ∈ l, isEol c = false) :
    splitLines (ls.flatMap fun l => l ++ ['\n']) = ls := by
  induction ls with
  | nil => rfl
  | cons l ls ih =>
    have hrest : ∀ m ∈ ls, m ≠ [] := fun m hm => hne m (List.mem_cons_of_mem _ hm)
    have hih := ih hrest fun m hm => heol m (List.mem_cons_of_mem _ hm)
    rw [List.flatMap_cons, List.append_assoc, List.singleton_append,
      splitLines_append_cons (heol l List.mem_cons_self) rfl, hih, dropBreak_of_ne hrest]

/-- Every line is a piece of the text, and the first one stands at its start. -/
theorem isInfix_splitLines (s : List Char) :
    (∀ l ∈ (splitLines s).head?, l <+: s) ∧ ∀ l ∈ splitLines s, l <:+: s := by
  induction s with
  | nil => simp
  | cons c s ih =>
    obtain ⟨hhead, hall⟩ := ih
    have hrest : ∀ l ∈ splitLines s, l <:+: c :: s := fun l hl => List.infix_cons (hall l hl)
    rw [splitLines_cons]
    cases hc : isEol c with
    | true =>
      rw [consChar_of_eol hc]
      constructor
      · rintro l ⟨⟩
        exact List.nil_prefix
      · intro l hl
        rcases List.mem_cons.mp hl with rfl | hl
        · exact List.nil_infix
        · exact hrest l ((dropBreak_sublist _).subset hl)
    | false =>
      rw [consChar_of_not_eol hc]
      have hfirst : c :: (splitLines s).headD [] <+: c :: s := by
        refine (List.prefix_cons_inj c).mpr ?_
        cases hs : splitLines s with
        | nil => exact List.nil_prefix
        | cons m ms =>
          rw [hs] at hhead
          exact hhead m rfl
      constructor
      · rintro l ⟨⟩
        exact hfirst
      · intro l hl
        rcases List.mem_cons.mp hl with rfl | hl
        · exact hfirst.isInfix
        · exact hrest l (List.mem_of_mem_tail hl)

theorem isInfix_of_mem_ofText {s : List Char} {l : Line} (h : l ∈ ofText s) : l.text <:+: s := by
  obtain ⟨t, ht, rfl⟩ := List.mem_map.mp h
  rw [text_ofChars]
  exact (isInfix_splitLines s).2 t ht

/-- Indentation and a rest that starts otherwise are told apart. -/
theorem ofChars_append {w r : List Char} (hw : ∀ c ∈ w, isIndent c = true)
    (hr : ∀ c ∈ r.head?, isIndent c = false) : ofChars (w ++ r) = ⟨w, r⟩ := by
  rw [ofChars, Text.takeWhile_append_of_head? hw hr, Text.dropWhile_append_of_head? hw hr]

/-- **Lines with a line feed behind each are read back**, if none is empty, none holds a line break
and the rest of none starts with indentation. -/
theorem ofText_flatMap {ls : List Line} (hne : ∀ l ∈ ls, l.text ≠ [])
    (heol : ∀ l ∈ ls, ∀ c ∈ l.text, isEol c = false) (hparts : ∀ l ∈ ls, ofChars l.text = l) :
    ofText (ls.flatMap fun l => l.text ++ ['\n']) = ls := by
  have hsplit : splitLines ((ls.map text).flatMap fun l => l ++ ['\n']) = ls.map text := by
    refine splitLines_flatMap ?_ ?_
    · intro t ht
      obtain ⟨l, hl, rfl⟩ := List.mem_map.mp ht
      exact hne l hl
    · intro t ht
      obtain ⟨l, hl, rfl⟩ := List.mem_map.mp ht
      exact heol l hl
  rw [List.flatMap_map] at hsplit
  rw [ofText, hsplit, List.map_map]
  exact (List.map_congr_left hparts).trans (List.map_id ls)

end Indentation.Line
