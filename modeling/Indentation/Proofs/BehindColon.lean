import Indentation.Proofs.ModelineForms

/-!
# What stands behind the colon of a list

To form two, a list behind `set` ends at its first colon, and nothing behind that matters
(`formTwo?_append_of_some`). Form one, which is tried first, takes `set` for an option and the colon
for a part of the last one. To it the list goes on behind the colon, up to the end of the line, and it
accepts the line if what stands there is a list of options, too.

So a closed comment behind the colon is passed over, as is all text that does not start like an option.
But options are applied: ` vim: set ts=4: et` replaces tabs by spaces.

## Main statements

* `formTwo?_append_of_some` — to form two, nothing behind the colon matters
* `feedModeline_closedLine` — which text behind the colon is applied
-/

namespace Indentation

open Text

namespace Modeline

section FormTwo

variable {s r body : List Char} {options : List (List Char)}

theorem trimStart_append_of_ne_nil (h : trimStart s ≠ []) (t : List Char) :
    trimStart (s ++ t) = trimStart s ++ t := by
  have hempty : ¬(s.dropWhile isBlank).isEmpty = true := by
    rw [List.isEmpty_iff]
    exact h
  rw [trimStart, List.dropWhile_append, if_neg hempty]
  rfl

theorem untilColon?_append_of_some {seen : List Char} (h : untilColon? seen s = some r)
    (t : List Char) : untilColon? seen (s ++ t) = some r := by
  fun_induction untilColon? seen s with
  | case1 seen c s ih =>
    rw [List.cons_append, List.cons_append, untilColon?]
    exact ih h
  | case2 seen c s _ hc =>
    have hne : c ≠ '\\' := by
      rintro rfl
      exact absurd hc (by decide)
    rw [List.cons_append, untilColon?_cons_of_ne hne, if_pos hc]
    exact h
  | case3 seen c s hlast hc ih =>
    by_cases hback : c = '\\'
    · -- a backslash that takes nothing along is the last character, so there is no colon
      cases s with
      | nil => cases h
      | cons d s => exact absurd rfl (hlast d s hback)
    · rw [List.cons_append, untilColon?_cons_of_ne hback, if_neg hc]
      exact ih h
  | case4 => cases h

/-- The command is followed by blanks, one of them at least. -/
theorem afterSet?_eq_some_iff : afterSet? s = some body ↔
    ∃ b rest, (s = ['s', 'e', 't'] ++ b :: rest ∨ s = ['s', 'e'] ++ b :: rest) ∧
      isBlank b = true ∧ body = trimStart rest := by
  constructor
  · intro h
    unfold afterSet? at h
    split at h
    · next b rest =>
      split at h
      · next hb => exact ⟨b, rest, .inl rfl, hb, (Option.some.inj h).symm⟩
      · cases h
    · next b rest _ =>
      split at h
      · next hb => exact ⟨b, rest, .inr rfl, hb, (Option.some.inj h).symm⟩
      · cases h
    · cases h
  · rintro ⟨b, rest, rfl | rfl, hb, rfl⟩
    · exact if_pos hb
    · -- a blank is not the last letter of the longer command
      have hne : b ≠ 't' := by
        rintro rfl
        exact absurd hb (by decide)
      show afterSet? ('s' :: 'e' :: b :: rest) = some (trimStart rest)
      unfold afterSet?
      split
      · next heq => exact absurd (List.cons.inj (List.cons.inj (List.cons.inj heq).2).2).1 hne
      · next c r _ heq =>
        obtain ⟨rfl, rfl⟩ := List.cons.inj (List.cons.inj (List.cons.inj heq).2).2
        exact if_pos hb
      · next hno => exact absurd rfl (hno b rest)

theorem afterSet?_append_of_some (h : afterSet? s = some body) (hne : body ≠ []) (t : List Char) :
    afterSet? (s ++ t) = some (body ++ t) := by
  obtain ⟨b, rest, hs, hb, rfl⟩ := afterSet?_eq_some_iff.mp h
  refine afterSet?_eq_some_iff.mpr ⟨b, rest ++ t, ?_, hb, ?_⟩
  · rcases hs with rfl | rfl
    · exact .inl (by rw [List.append_assoc]; rfl)
    · exact .inr (by rw [List.append_assoc]; rfl)
  · rw [trimStart_append_of_ne_nil hne]

/-- **To form two, nothing behind the colon matters.** -/
theorem formTwo?_append_of_some (h : formTwo? s = some options) (t : List Char) :
    formTwo? (s ++ t) = some options := by
  unfold formTwo? at h ⊢
  obtain ⟨body, hbody, h⟩ := Option.bind_eq_some_iff.mp h
  obtain ⟨listed, hlisted, h⟩ := Option.bind_eq_some_iff.mp h
  have hne : body ≠ [] := by
    rintro rfl
    cases hlisted
  rw [afterSet?_append_of_some hbody hne]
  dsimp only [bind, Option.bind]
  rw [untilColon?_append_of_some hlisted]
  exact h

end FormTwo

end Modeline

/-- What options do when they are applied in order, up to the first one that fails. -/
def DirectiveState.applyOptions (d : DirectiveState) (options : List (List Char)) :
    DirectiveState × Option OverlongNumeral :=
  ({ d with settings := (d.settings.applyAll (options.map Modeline.readOption)).1 },
    (d.settings.applyAll (options.map Modeline.readOption)).2)

namespace Modeline

section Closed

variable {d : DirectiveState} {line lead tail : List Char} {options : List (List Char)}

theorem feedModeline_of_options? (h : options? line = some options) (d : DirectiveState) :
    d.feedModeline line = d.applyOptions options := by
  unfold DirectiveState.feedModeline
  rw [readings_of_options? h]
  rfl

theorem applyOptions_set (d : DirectiveState) (options : List (List Char)) :
    d.applyOptions (['s', 'e', 't'] :: options) = d.applyOptions options := by
  unfold DirectiveState.applyOptions
  rw [applyAll_set]

/--
**Which text behind the colon of a list is applied.**

A list of options there is applied behind the list itself. Anything else is passed over, so that the
line has the effect of its own options, whatever the text is. To form two alone, nothing behind the
colon ever matters.
-/
theorem feedModeline_closedLine (d : DirectiveState) (lead : List Char)
    (options : List (List Char)) (tail : List Char) (hlead : ':' ∉ lead) (hne : options ≠ [])
    (hoptions : ∀ o ∈ options, WordOption o) (htail : ':' ∉ tail) :
    (OptionList (trim tail) →
      d.feedModeline (closedLine lead options tail) = d.applyOptions (options ++ words tail)) ∧
    (¬OptionList (trim tail) →
      d.feedModeline (closedLine lead options tail) = d.applyOptions options) ∧
    ∀ s t listed, formTwo? s = some listed → formTwo? (s ++ t) = some listed := by
  have hplain : ∀ o ∈ options, PlainOption o := fun o ho => (hoptions o ho).plainOption
  refine ⟨fun hlist => ?_, fun hlist => ?_, fun s t listed h => formTwo?_append_of_some h t⟩
  · have hread := options?_closed_of_list hlead hne hplain htail (.inr (isOptionList_iff.mpr hlist))
    rw [feedModeline_of_options? hread, applyOptions_set]
  · by_cases hblank : trim tail = []
    · -- only blanks: form one reads the line, with the colon at its end
      have hread := options?_closed_of_list hlead hne hplain htail (.inl hblank)
      have hnone : words tail = [] := splitRuns_eq_nil_iff.mpr (trim_eq_nil_iff.mp hblank)
      rw [feedModeline_of_options? hread, applyOptions_set, hnone, List.append_nil]
    · have hno : isOptionList (trim tail) = false :=
        Bool.eq_false_iff.mpr (mt isOptionList_iff.mp hlist)
      exact feedModeline_of_options? (options?_closed_of_text hlead hne hplain htail hblank hno) d

/-- One option behind the colon of a list of one option. -/
theorem feedModeline_closedLine_et :
    ':' ∉ ['#'] ∧ ["ts=4".toList] ≠ [] ∧ (∀ o ∈ ["ts=4".toList], WordOption o) ∧
      ':' ∉ "et".toList ∧ OptionList (trim "et".toList) ∧
      ({} : DirectiveState).feedModeline "# vim: set ts=4: et".toList
        = (⟨{ tabStop := some 4, useTabs := some false }, none⟩, none) := by
  have hlead : ':' ∉ ['#'] := by decide
  have hne : ["ts=4".toList] ≠ [] := List.cons_ne_nil _ _
  have hoptions : ∀ o ∈ ["ts=4".toList], WordOption o := by
    intro o ho
    obtain rfl := List.mem_singleton.mp ho
    exact .inr ⟨"ts".toList, "4".toList, by decide, by decide, rfl⟩
  have htail : ':' ∉ "et".toList := by decide
  have hlist : OptionList (trim "et".toList) := isOptionList_iff.mp (by cbv)
  have hline : "# vim: set ts=4: et".toList = closedLine ['#'] ["ts=4".toList] "et".toList := by
    decide
  have happly : ({} : DirectiveState).applyOptions (["ts=4".toList] ++ words "et".toList)
      = (⟨{ tabStop := some 4, useTabs := some false }, none⟩, none) := by
    cbv
  obtain ⟨hlisted, -, -⟩ := feedModeline_closedLine {} ['#'] ["ts=4".toList] "et".toList hlead hne
    hoptions htail
  refine ⟨hlead, hne, hoptions, htail, hlist, ?_⟩
  rw [hline, hlisted hlist, happly]

/-- An option and a closed comment behind the colon of the same list have different effects. -/
theorem option_behind_colon_applies :
    ({} : DirectiveState).feedModeline (closedLine ['#'] ["ts=4".toList] "et".toList)
        ≠ ({} : DirectiveState).feedModeline (closedLine ['#'] ["ts=4".toList] "*/".toList) ∧
      detect false "# vim: set ts=4: et\n".toList = .ok (.spaces 4) := by
  have hoptions : ∀ o ∈ ["ts=4".toList], PlainOption o := by
    intro o ho
    obtain rfl := List.mem_singleton.mp ho
    exact ⟨⟨_, _, rfl, by decide⟩, forall_mem_of_all (by decide)⟩
  have hlead : ':' ∉ ['#'] := by decide
  have hread := options?_closed_of_list hlead (List.cons_ne_nil _ []) hoptions
    (show ':' ∉ "et".toList by decide) (.inr (by cbv))
  have hpassed := options?_closed_of_text hlead (List.cons_ne_nil _ []) hoptions
    (show ':' ∉ "*/".toList by decide) (by decide) isOptionList_close
  rw [feedModeline_of_options? hread, feedModeline_of_options? hpassed]
  have happly : ({} : DirectiveState).applyOptions (['s', 'e', 't'] :: (["ts=4".toList]
      ++ words "et".toList)) = (⟨{ tabStop := some 4, useTabs := some false }, none⟩, none) := by
    cbv
  have hapart : ({} : DirectiveState).applyOptions ["ts=4".toList]
      = (⟨{ tabStop := some 4 }, none⟩, none) := by
    cbv
  rw [happly, hapart]
  exact ⟨by decide, by cbv⟩

end Closed

end Modeline

end Indentation
