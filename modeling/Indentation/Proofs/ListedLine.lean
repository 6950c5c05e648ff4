import Indentation.Proofs.VariableList

/-!
# Which lines belong to a list of local variables

A line is a line of a list exactly if, without the blanks around it, it is the lead, a gap of blanks,
a key, a colon, what holds the value, and the trail (`IsTakenApart`). There is one way to take a line
apart like this, whatever the affixes are: the gap ends where the key starts, the key ends at the first
colon behind the lead, and the trail has its length (`IsTakenApart.unique`).

The reader trims one end at a time, and the other end only behind the colon. That comes to the same,
since the colon is no blank. Where the trail is empty, what holds the value ends the line, so it is not
made of blanks alone.

## Main statements

* `entry?_eq_some_iff` — what a line of a list is read as
* `IsTakenApart.unique` — a line is taken apart in one way
* `lines_of_list` — which lines open a list, which belong to it, and what they do
-/

namespace Indentation

open Text

namespace LocalVariables

/-- A line of a list with its parts: the affixes, and between them a gap, the key, and what holds the
value. -/
structure IsTakenApart (a : Affixes) (line gap key middle : List Char) : Prop where
  eq : trim line = a.lead ++ (gap ++ (key ++ ':' :: (middle ++ a.trail)))
  gap : ∀ c ∈ gap, isBlank c = true
  key : IsKey key
  middle_ne_nil : middle ≠ []

section Parts

variable {a : Affixes} {line gap gap' key key' middle middle' : List Char} {v : Variable}

/-- **A line is taken apart in one way.** -/
theorem IsTakenApart.unique (h : IsTakenApart a line gap key middle)
    (h' : IsTakenApart a line gap' key' middle') : gap = gap' ∧ key = key' ∧ middle = middle' := by
  have hbehind := List.append_cancel_left (h.eq.symm.trans h'.eq)
  obtain ⟨hgap, hword⟩ := append_inj_of_run h.gap h'.gap (h.key.head_append _)
    (h'.key.head_append _) hbehind
  obtain ⟨hkey, hmiddle⟩ := append_cons_inj h.key.colon_not_mem h'.key.colon_not_mem hword
  exact ⟨hgap, hkey, List.append_cancel_right hmiddle⟩

/-- Behind the colon, nothing more is cut off at the end of the line. -/
theorem IsTakenApart.trimEnd_eq (h : IsTakenApart a line gap key middle) :
    trimEnd (middle ++ a.trail) = middle ++ a.trail := by
  have hline : trim line = a.lead ++ (gap ++ key) ++ ':' :: (middle ++ a.trail) := by
    rw [h.eq]
    simp only [List.append_assoc]
  have htrim : trimEnd (trim line) = trim line := trimEnd_trimEnd (trimStart line)
  rw [hline, trimEnd_append_cons isBlank_colon] at htrim
  exact (List.cons.inj (List.append_cancel_left htrim)).2

/-- What the cuts give are the parts of the line. -/
theorem IsCut.exists_isTakenApart {rest behind : List Char}
    (h : IsCut a line v rest behind middle) : ∃ gap, IsTakenApart a line gap v.key middle := by
  obtain ⟨gap, hrest, hgap⟩ := exists_blank_append_trimStart rest
  refine ⟨gap, ?_, hgap, ⟨h.key_ne_nil, h.not_blank, h.colon_not_mem⟩, h.middle_ne_nil⟩
  have hline : trimStart line = a.lead ++ (gap ++ v.key) ++ ':' :: behind := by
    rw [h.lead, hrest, h.key]
    simp only [List.append_assoc]
  rw [trim, hline, trimEnd_append_cons isBlank_colon, h.trail]
  simp only [List.append_assoc]

/-- A line that has the parts is cut into them. -/
theorem IsTakenApart.exists_isCut (h : IsTakenApart a line gap v.key middle)
    (hv : v.value = trim middle) : ∃ rest behind, IsCut a line v rest behind middle := by
  obtain ⟨e, hline, he⟩ := exists_trimEnd_append_blank (trimStart line)
  have hend : trimEnd (middle ++ a.trail ++ e) = middle ++ a.trail := by
    rw [trimEnd_append_of_blank he, h.trimEnd_eq]
  refine ⟨gap ++ (v.key ++ ':' :: (middle ++ a.trail ++ e)), middle ++ a.trail ++ e, ?_, ?_,
    h.key.ne_nil, h.key.not_blank, h.key.colon_not_mem, hend, h.middle_ne_nil, hv⟩
  · rw [show trimEnd (trimStart line) = _ from h.eq] at hline
    rw [hline]
    simp only [List.append_assoc, List.cons_append]
  · exact h.key.trimStart_append h.gap _

/-- **What a line of a list is read as**: its key, and what holds the value without the blanks around
it. -/
theorem entry?_eq_some_iff : entry? a line = some v ↔
    ∃ gap middle, IsTakenApart a line gap v.key middle ∧ v.value = trim middle := by
  rw [entry?_eq_some_iff_isCut]
  constructor
  · rintro ⟨rest, behind, middle, h⟩
    obtain ⟨gap, hparts⟩ := h.exists_isTakenApart
    exact ⟨gap, middle, hparts, h.value⟩
  · rintro ⟨gap, middle, h, hv⟩
    obtain ⟨rest, behind, hcut⟩ := h.exists_isCut hv
    exact ⟨rest, behind, middle, hcut⟩

end Parts

end LocalVariables

namespace DirectiveState

open LocalVariables

section Listed

variable {a : Affixes} {line gap key middle : List Char}

/-- A line of a list that does not close it sets its variable, and the list goes on. -/
theorem feedLocalVariables_of_isTakenApart (h : IsTakenApart a line gap key middle)
    (hkey : key ≠ endKey) (s : Settings) :
    (⟨s, some a⟩ : DirectiveState).feedLocalVariables line
      = (⟨(s.applyAll [(⟨key, trim middle⟩ : Variable).read]).1, some a⟩,
        (s.applyAll [(⟨key, trim middle⟩ : Variable).read]).2) := by
  have hentry : entry? a line = some ⟨key, trim middle⟩ :=
    entry?_eq_some_iff.mpr ⟨gap, middle, h, rfl⟩
  exact feedLocalVariables_of_feed (feed_of_entry?_eq hentry hkey) s

/-- Any other line changes no setting and closes the list. -/
theorem feedLocalVariables_of_not_isTakenApart
    (h : ¬∃ gap key middle, IsTakenApart a line gap key middle ∧ key ≠ endKey) (s : Settings) :
    (⟨s, some a⟩ : DirectiveState).feedLocalVariables line = (⟨s, none⟩, none) := by
  have hclosing : ∀ v, entry? a line = some v → v.key = endKey := by
    intro v hv
    obtain ⟨gap, middle, hparts, -⟩ := entry?_eq_some_iff.mp hv
    by_contra hkey
    exact h ⟨gap, v.key, middle, hparts, hkey⟩
  exact feedLocalVariables_of_feed (feed_of_closing hclosing) s

end Listed

/--
**Which lines open a list, which belong to it, and what they do.**

A line opens a list where the words stand in it for the first time, if what is before and behind them
has no blanks inside. Of a list with the affixes `a`, a line is read as a variable exactly if it can be
taken apart, and it can be in one way only. Such a line sets its variable and the list goes on, unless
its key closes the list. Every other line changes no setting and closes it, too.
-/
theorem lines_of_list (line : List Char) :
    (∀ a, affixes? line = some a ↔ IsOpening a line) ∧
    (∀ a v, entry? a line = some v ↔
      ∃ gap middle, IsTakenApart a line gap v.key middle ∧ v.value = trim middle) ∧
    (∀ a gap key middle gap' key' middle', IsTakenApart a line gap key middle →
      IsTakenApart a line gap' key' middle' → gap = gap' ∧ key = key' ∧ middle = middle') ∧
    (∀ a s gap key middle, IsTakenApart a line gap key middle → key ≠ endKey →
      (⟨s, some a⟩ : DirectiveState).feedLocalVariables line
        = (⟨(s.applyAll [(⟨key, trim middle⟩ : Variable).read]).1, some a⟩,
          (s.applyAll [(⟨key, trim middle⟩ : Variable).read]).2)) ∧
    ∀ a s, (¬∃ gap key middle, IsTakenApart a line gap key middle ∧ key ≠ endKey) →
      (⟨s, some a⟩ : DirectiveState).feedLocalVariables line = (⟨s, none⟩, none) := by
  refine ⟨fun a => affixes?_eq_some_iff, fun a v => entry?_eq_some_iff, ?_, ?_, ?_⟩
  · intro a gap key middle gap' key' middle' h h'
    exact h.unique h'
  · intro a s gap key middle h hkey
    exact feedLocalVariables_of_isTakenApart h hkey s
  · intro a s h
    exact feedLocalVariables_of_not_isTakenApart h s

/-- A line of a list whose trail starts with a colon sets its variable. -/
theorem lines_of_list_colon_in_trail :
    IsTakenApart ⟨['#'], ":x".toList⟩ "  # tab-width: 4 :x ".toList [' '] "tab-width".toList
        " 4 ".toList ∧
      "tab-width".toList ≠ endKey ∧
      (⟨{}, some ⟨['#'], ":x".toList⟩⟩ : DirectiveState).feedLocalVariables
          "  # tab-width: 4 :x ".toList
        = (⟨{ tabStop := some 4 }, some ⟨['#'], ":x".toList⟩⟩, none) := by
  have hparts : IsTakenApart ⟨['#'], ":x".toList⟩ "  # tab-width: 4 :x ".toList [' ']
      "tab-width".toList " 4 ".toList :=
    ⟨by decide, isBlank_of_mem_space, ⟨by decide, forall_mem_of_all (by decide), by decide⟩,
      by decide⟩
  have hkey : "tab-width".toList ≠ endKey := by decide
  have happly : ({} : Settings).applyAll [(⟨"tab-width".toList, trim " 4 ".toList⟩ : Variable).read]
      = ({ tabStop := some 4 }, none) := by
    cbv
  refine ⟨hparts, hkey, ?_⟩
  obtain ⟨-, -, -, hsets, -⟩ := lines_of_list "  # tab-width: 4 :x ".toList
  rw [hsets _ {} _ _ _ hparts hkey, happly]

/-- Only the last trail is cut off, and no blank stands between key and colon. -/
example : entry? ⟨['#'], ":x".toList⟩ "  #  key:  a:x:x ".toList
      = some ⟨"key".toList, "a:x".toList⟩ ∧
    entry? ⟨['#'], ":x".toList⟩ "  # key : a:x ".toList = none := by
  constructor <;> decide

end DirectiveState

end Indentation
