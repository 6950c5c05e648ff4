import Mathlib
import Indentation.Detect
import Indentation.Proofs.Modeline

/-!
# Ways to write a modeline

The same options may stand behind a tag with spaces between them, with colons between them, or behind
`set` with a colon at their end. A line that ends in that colon is read in form one, where `set` is an
option that says nothing. With text behind the colon it is read in form two, unless the text is a list
of options itself (`isOptionList_closed`): then form one reads both lists as one.

## A second tag

An option may have the name of a tag, and the last option stands before a colon: ` vim: set et vi:` has a
second tag with nothing behind it. Form one does not come to it, as the first tag already gives the
options (`options?_of_formOne?`). Form two is tried only where form one fits at no tag, so what stands
behind the second tag counts there, and a closed comment is no option (`isOptionList_close`).

## Main statements

* `options?_spaces`, `options?_colons`, `options?_set`, `options?_set_closed` — the options of a line,
  written in each way
* `options?_closed_of_list`, `options?_closed_of_text` — the options of a line with more behind the colon
* `feedModeline_of_spelling` — however they are written, a line has the effect of its options
-/

namespace Indentation

open Text

namespace Modeline

/-- The lines with the same options behind the same text. -/
def spellings (lead : List Char) (options : List (List Char)) : List (List Char) :=
  [lead ++ " vim: ".toList ++ [' '].intercalate options,
    lead ++ " vim:".toList ++ [':'].intercalate options,
    lead ++ " vim: set ".toList ++ [' '].intercalate options ++ ":".toList,
    lead ++ " vim: set ".toList ++ [' '].intercalate options ++ ": */".toList]

section Spellings

variable {lead line t tail : List Char} {options : List (List Char)}

/-- Behind the first tag, form one goes before all else. -/
theorem options?_of_formOne? {s : List Char}
    (h : formOne? (trimStart s) = some options) (hlead : ':' ∉ lead) :
    options? (lead ++ ' ' :: (['v', 'i', 'm', ':'] ++ s)) = some options := by
  rw [options?, tagTails_vim hlead, List.findSome?_cons, h]
  rfl

theorem trimStart_space_intercalate (hne : options ≠ []) (h : ∀ o ∈ options, PlainOption o)
    (s : List Char) :
    trimStart (' ' :: ([' '].intercalate options ++ s)) = [' '].intercalate options ++ s :=
  (trimStart_append_of_blank isBlank_of_mem_space _).trans (trimStart_intercalate [' '] hne h s)

theorem options?_spaces (hlead : ':' ∉ lead) (hne : options ≠ [])
    (h : ∀ o ∈ options, PlainOption o) :
    options? (lead ++ " vim: ".toList ++ [' '].intercalate options) = some options := by
  have hform : formOne? (trimStart (' ' :: ([' '].intercalate options ++ []))) = some options := by
    rw [trimStart_space_intercalate hne h, formOne?_spaces hne h (by simp)]
  simpa using options?_of_formOne? hform hlead

theorem options?_colons (hlead : ':' ∉ lead) (hne : options ≠ [])
    (h : ∀ o ∈ options, PlainOption o) :
    options? (lead ++ " vim:".toList ++ [':'].intercalate options) = some options := by
  have hstart := trimStart_intercalate [':'] hne h []
  rw [List.append_nil] at hstart
  have hform : formOne? (trimStart ([':'].intercalate options)) = some options := by
    rw [hstart, formOne?_colons hne h]
  simpa using options?_of_formOne? hform hlead

/-- Behind `set`, options with spaces between them go on as a list does. -/
theorem intercalate_set (hne : options ≠ []) (s : List Char) :
    [' '].intercalate (['s', 'e', 't'] :: options) ++ s
      = ['s', 'e', 't'] ++ ' ' :: ([' '].intercalate options ++ s) := by
  obtain ⟨o, os, rfl⟩ := List.exists_cons_of_ne_nil hne
  rw [List.intercalate_cons_cons]
  simp

theorem plainOption_set_cons (h : ∀ o ∈ options, PlainOption o) :
    ∀ o ∈ ['s', 'e', 't'] :: options, PlainOption o :=
  List.forall_mem_cons.mpr ⟨.set, h⟩

/-- With its colon at the end of the line, a list behind `set` is read in form one. -/
theorem options?_set (hlead : ':' ∉ lead) (hne : options ≠ [])
    (h : ∀ o ∈ options, PlainOption o) :
    options? (lead ++ " vim: set ".toList ++ [' '].intercalate options ++ ":".toList)
      = some (['s', 'e', 't'] :: options) := by
  have hset := plainOption_set_cons h
  have hform : formOne? (trimStart (' ' :: ([' '].intercalate (['s', 'e', 't'] :: options) ++ [':'])))
      = some (['s', 'e', 't'] :: options) := by
    rw [trimStart_space_intercalate (List.cons_ne_nil _ _) hset,
      formOne?_spaces (List.cons_ne_nil _ _) hset (by simp)]
  rw [intercalate_set hne] at hform
  simpa using options?_of_formOne? hform hlead

/-- Of two colons, what follows a tag stands behind the one or behind the other. -/
theorem eq_or_eq_of_mem_tagTails {a b c : List Char} (ha : ':' ∉ a) (hb : ':' ∉ b) (hc : ':' ∉ c)
    (h : t ∈ tagTails (a ++ ':' :: (b ++ ':' :: c))) :
    t = trimStart (b ++ ':' :: c) ∨ t = trimStart c := by
  obtain ⟨before, rest, hline, rfl⟩ := exists_of_mem_tagTails h
  rcases eq_or_exists_of_append_cons ha hline.symm with ⟨-, rfl⟩ | ⟨r, -, hbehind⟩
  · exact Or.inl rfl
  · rcases eq_or_exists_of_append_cons hb hbehind.symm with ⟨-, rfl⟩ | ⟨r', -, hlast⟩
    · exact Or.inr rfl
    · exact absurd (hlast ▸ List.mem_append_right r' List.mem_cons_self) hc

theorem isOptionList_close : isOptionList ['*', '/'] = false := by
  rw [isOptionList_eq]
  rfl

/-! ### What stands behind the colon -/

/-- The line of a list behind `set` with a tail behind the colon that ends it. -/
def closedLine (lead : List Char) (options : List (List Char)) (tail : List Char) : List Char :=
  lead ++ " vim: set ".toList ++ [' '].intercalate options ++ ": ".toList ++ tail

theorem closedLine_eq (hne : options ≠ []) (lead tail : List Char) :
    closedLine lead options tail = lead ++ ' ' :: (['v', 'i', 'm', ':'] ++
      ' ' :: ([' '].intercalate (['s', 'e', 't'] :: options) ++ ':' :: ' ' :: tail)) := by
  rw [closedLine, intercalate_set hne]
  simp

/-- To form one, the colon belongs to the option before it, and the list goes on behind it. -/
theorem isOptionList_closed (h : ∀ o ∈ options, PlainOption o) (htail : ':' ∉ tail) :
    isOptionList (trimEnd ([' '].intercalate (['s', 'e', 't'] :: options) ++ ':' :: ' ' :: tail))
      = if trim tail = [] then true else isOptionList (trim tail) := by
  obtain ⟨t, o, ho, heq, hlast⟩ := exists_last (List.cons_ne_nil _ _)
    fun o ho => (plainOption_set_cons h o ho).bare
  have hoption : BareOption (o ++ [':']) :=
    (plainOption_set_cons h o ho).bare.append (forall_mem_of_all (by decide))
  rw [trimEnd_append_cons isBlank_colon, trimEnd_cons_of_blank (by decide), heq, hlast]
  by_cases hblank : trim tail = []
  · rw [if_pos hblank, if_pos hblank, isOptionList_of_isOption hoption.isOption]
  · have hcolon : ':' ∉ trimEnd tail := fun hmem => htail ((isPrefix_trimEnd tail).subset hmem)
    have hsplit : o ++ ':' :: ' ' :: trimEnd tail = (o ++ [':']) ++ ' ' :: trimEnd tail := by simp
    rw [if_neg hblank, if_neg hblank, hsplit, isOptionList_append_space hoption,
      dropSeparator_of_not_mem hcolon, trimStart_trimEnd]

/-- Without a colon, a text has the same runs for form one as for form two. -/
theorem splitRuns_eq_words (htail : ':' ∉ tail) :
    splitRuns (fun c => isBlank c || c == ':') tail = words tail := by
  refine splitRuns_congr fun c hc => ?_
  have hne : (c == ':') = false := by
    rw [beq_eq_false_iff_ne]
    rintro rfl
    exact htail hc
  rw [hne, Bool.or_false]

theorem formOne?_closed (h : ∀ o ∈ options, PlainOption o) (htail : ':' ∉ tail)
    (hlist : trim tail = [] ∨ isOptionList (trim tail) = true) :
    formOne? ([' '].intercalate (['s', 'e', 't'] :: options) ++ ':' :: ' ' :: tail)
      = some (['s', 'e', 't'] :: (options ++ words tail)) := by
  let isSep : Char → Bool := fun c => isBlank c || c == ':'
  have hspace : isSep ' ' = true := by decide
  have hcolon : isSep ':' = true := by decide
  have hlisted := splitRuns_intercalate (e := []) hspace (by simp)
    fun o ho => ⟨(plainOption_set_cons h o ho).ne_nil,
      not_separator_of_plainOption (plainOption_set_cons h o ho)⟩
  have hbehind : splitRuns isSep (' ' :: tail) = words tail :=
    (splitRuns_append_cons hspace [] tail).trans (splitRuns_eq_words htail)
  have haccepted := isOptionList_closed h htail
  rw [List.append_nil] at hlisted
  rw [formOne?_of_isOptionList, splitRuns_append_cons hcolon, hbehind, hlisted, List.cons_append]
  rw [haccepted]
  split
  · rfl
  · next hne => exact hlist.resolve_left hne

/-- With options behind its colon, a list behind `set` is read in form one, with those options. -/
theorem options?_closed_of_list (hlead : ':' ∉ lead) (hne : options ≠ [])
    (h : ∀ o ∈ options, PlainOption o) (htail : ':' ∉ tail)
    (hlist : trim tail = [] ∨ isOptionList (trim tail) = true) :
    options? (closedLine lead options tail)
      = some (['s', 'e', 't'] :: (options ++ words tail)) := by
  rw [closedLine_eq hne]
  refine options?_of_formOne? ?_ hlead
  rw [trimStart_space_intercalate (List.cons_ne_nil _ _) (plainOption_set_cons h),
    formOne?_closed h htail hlist]

/-- With anything else behind its colon, a list behind `set` is read in form two. -/
theorem options?_closed_of_text (hlead : ':' ∉ lead) (hne : options ≠ [])
    (h : ∀ o ∈ options, PlainOption o) (htail : ':' ∉ tail) (htext : trim tail ≠ [])
    (hlist : isOptionList (trim tail) = false) :
    options? (closedLine lead options tail) = some options := by
  have hset := plainOption_set_cons h
  have hstart := trimStart_space_intercalate (List.cons_ne_nil _ _) hset (':' :: ' ' :: tail)
  -- the line has no third colon
  have hone : ∀ t ∈ tagTails (closedLine lead options tail), formOne? t = none := by
    intro t ht
    have hword : ':' ∉ lead ++ [' ', 'v', 'i', 'm'] := by simp [hlead]
    have hoptions : ':' ∉ ' ' :: [' '].intercalate (['s', 'e', 't'] :: options) := by
      intro hmem
      rcases List.mem_cons.mp hmem with hmem | hmem
      · exact absurd hmem (by decide)
      · rcases mem_intercalate hmem with hmem | ⟨o, ho, hmem⟩
        · exact absurd hmem (by decide)
        · exact not_mem_of_isPlain (hset o ho).plain (by simp) hmem
    have hbehind : ':' ∉ ' ' :: tail := by simp [htail]
    have htwo : t ∈ tagTails ((lead ++ [' ', 'v', 'i', 'm']) ++ ':' ::
        ((' ' :: [' '].intercalate (['s', 'e', 't'] :: options)) ++ ':' :: ' ' :: tail)) := by
      rw [closedLine_eq hne] at ht
      simpa using ht
    rcases eq_or_eq_of_mem_tagTails hword hoptions hbehind htwo with rfl | rfl
    · refine formOne?_of_not_isOptionList ?_
      rw [List.cons_append, hstart, isOptionList_closed h htail, if_neg htext, hlist]
    · refine formOne?_of_not_isOptionList ?_
      rw [show trimStart (' ' :: tail) = trimStart tail from
        trimStart_append_of_blank isBlank_of_mem_space tail]
      exact hlist
  have hform : formTwo? ([' '].intercalate (['s', 'e', 't'] :: options) ++ ':' :: ' ' :: tail)
      = some options := by
    have htwo := formTwo?_intercalate hne h (show ∀ c ∈ [], c = ' ' by simp) (' ' :: tail)
    rw [intercalate_set hne]
    simpa using htwo
  rw [options?, List.findSome?_eq_none_iff.mpr hone, closedLine_eq hne, tagTails_vim hlead, hstart,
    List.findSome?_cons, hform]
  rfl

/-- With a comment closed behind its colon, a list behind `set` is read in form two. -/
theorem options?_set_closed (hlead : ':' ∉ lead) (hne : options ≠ [])
    (h : ∀ o ∈ options, PlainOption o) :
    options? (lead ++ " vim: set ".toList ++ [' '].intercalate options ++ ": */".toList)
      = some options := by
  have htail : ':' ∉ ['*', '/'] := by decide
  have hclosed := options?_closed_of_text hlead hne h htail (by decide) isOptionList_close
  simpa [closedLine] using hclosed

/-- As `set` says nothing, it can be left out. -/
theorem applyAll_set (s : Settings) (options : List (List Char)) :
    s.applyAll ((['s', 'e', 't'] :: options).map readOption)
      = s.applyAll (options.map readOption) := by
  have hset : readOption ['s', 'e', 't'] = .ok none := rfl
  rw [List.map_cons, hset]
  rfl

/-- So what a line gives is applied like its options. -/
theorem applyAll_readings_of_spelling (hlead : ':' ∉ lead) (hne : options ≠ [])
    (h : ∀ o ∈ options, PlainOption o) (hline : line ∈ spellings lead options) (s : Settings) :
    s.applyAll (readings line) = s.applyAll (options.map readOption) := by
  simp only [spellings, List.mem_cons, List.not_mem_nil, or_false] at hline
  rcases hline with rfl | rfl | rfl | rfl
  · rw [readings_of_options? (options?_spaces hlead hne h)]
  · rw [readings_of_options? (options?_colons hlead hne h)]
  · rw [readings_of_options? (options?_set hlead hne h), applyAll_set]
  · rw [readings_of_options? (options?_set_closed hlead hne h)]

end Spellings

end Modeline

/--
**However they are written, a line has the effect of its options**, in their order and up to the first
one that fails.
-/
theorem feedModeline_of_spelling (d : DirectiveState) (lead : List Char)
    (options : List (List Char)) (line : List Char) (hlead : ':' ∉ lead) (hne : options ≠ [])
    (hoptions : ∀ o ∈ options, Modeline.WordOption o)
    (hline : line ∈ Modeline.spellings lead options) :
    d.feedModeline line =
      ({ d with settings := (d.settings.applyAll (options.map Modeline.readOption)).1 },
        (d.settings.applyAll (options.map Modeline.readOption)).2) := by
  have hplain : ∀ o ∈ options, Modeline.PlainOption o := fun o ho => (hoptions o ho).plainOption
  rw [← Modeline.applyAll_readings_of_spelling hlead hne hplain hline]
  rfl

/-- The last option is a second tag of the line, with the closed comment behind it. -/
theorem feedModeline_of_spelling_second_tag :
    ':' ∉ "/* a".toList ∧ ["ts=4".toList, "noet".toList, "vi".toList] ≠ [] ∧
      (∀ o ∈ ["ts=4".toList, "noet".toList, "vi".toList], Modeline.WordOption o) ∧
      "/* a vim: set ts=4 noet vi: */".toList
        ∈ Modeline.spellings "/* a".toList ["ts=4".toList, "noet".toList, "vi".toList] ∧
      ({} : DirectiveState).feedModeline "/* a vim: set ts=4 noet vi: */".toList
        = (⟨{ tabStop := some 4, useTabs := some true }, none⟩, none) := by
  have hlead : ':' ∉ "/* a".toList := by decide
  have hne : ["ts=4".toList, "noet".toList, "vi".toList] ≠ [] := List.cons_ne_nil _ _
  have hoptions : ∀ o ∈ ["ts=4".toList, "noet".toList, "vi".toList], Modeline.WordOption o := by
    intro o ho
    simp only [List.mem_cons, List.not_mem_nil, or_false] at ho
    rcases ho with rfl | rfl | rfl
    · exact Or.inr ⟨"ts".toList, "4".toList, by decide, by decide, rfl⟩
    · exact Or.inl (by decide)
    · exact Or.inl (by decide)
  have hline : "/* a vim: set ts=4 noet vi: */".toList
      ∈ Modeline.spellings "/* a".toList ["ts=4".toList, "noet".toList, "vi".toList] := by
    decide
  have hfeed := feedModeline_of_spelling {} _ _ _ hlead hne hoptions hline
  have happly : ({} : Settings).applyAll
      (["ts=4".toList, "noet".toList, "vi".toList].map Modeline.readOption)
        = ({ tabStop := some 4, useTabs := some true }, none) := by cbv
  exact ⟨hlead, hne, hoptions, hline, by rw [hfeed, happly]⟩

end Indentation
