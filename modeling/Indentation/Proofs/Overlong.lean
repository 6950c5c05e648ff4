import Indentation.Proofs.SetLine

/-!
# Where detection fails

Detection gives a verdict on every text but one with an overlong width in a directive. Which texts
count as widths is said for each kind of directive (`DirectiveState.widthTexts`): the values of two
variables, and the value of any option, as an option's value is read before its name is looked at.

A line fails exactly if one of these texts is overlong, and the first one that is gives the error
(`feed_eq_error_iff_overlong`). As all of them are pieces of the line (`isInfix_of_mem_widthTexts`), a
text without an overlong run of digits cannot fail.

## Main statements

* `detect_eq_error_iff` — detection fails at the first overlong width, if nothing is decided before
  it, and only there
-/

namespace Indentation

open Text

/-! ## Texts that are read as widths -/

/-- The error with which a text is refused as a width, if it is. -/
def Numeral.overlong? (s : List Char) : Option OverlongNumeral :=
  match width? s with
  | .error e => some e
  | .ok _ => none

theorem Numeral.overlong?_eq_some_iff {s : List Char} {e : OverlongNumeral} :
    overlong? s = some e ↔ Overlong s ∧ e = ⟨(trim s).length⟩ := by
  rw [← width?_eq_error_iff]
  unfold overlong?
  cases width? s <;> simp

theorem Numeral.overlong?_eq_none_iff {s : List Char} : overlong? s = none ↔ ¬Overlong s := by
  rw [Option.eq_none_iff_forall_ne_some]
  constructor
  · intro h hlong
    exact h _ (overlong?_eq_some_iff.mpr ⟨hlong, rfl⟩)
  · intro h e he
    exact h (overlong?_eq_some_iff.mp he).1

/-- The value of a variable that is read as a width. -/
def Variable.widthText? (v : Variable) : Option (List Char) :=
  if String.ofList v.key ∈ ["tab-width", "c-basic-offset"] then some v.value else none

/-- The value of an option, if it has one. -/
def Modeline.widthText? (token : List Char) : Option (List Char) := (cutAt? '=' token).map (·.2)

/-- A reading made of a width is an error exactly if the width is refused. -/
theorem error?_map_width? (w : List Char) (f : Option Nat → Option Directive) :
    DirectiveReading.error? ((Numeral.width? w).map f) = Numeral.overlong? w := by
  unfold Numeral.overlong?
  cases Numeral.width? w <;> rfl

theorem Variable.error?_read (v : Variable) :
    v.read.error? = v.widthText?.bind Numeral.overlong? := by
  have hother : String.ofList v.key ∉ ["tab-width", "c-basic-offset"] →
      v.widthText?.bind Numeral.overlong? = none := by
    intro h
    rw [widthText?, if_neg h]
    rfl
  unfold Variable.read
  split
  · next hkey =>
    rw [widthText?, hkey, if_pos (by decide)]
    exact error?_map_width? _ _
  · next hkey =>
    rw [widthText?, hkey, if_pos (by decide)]
    exact error?_map_width? _ _
  · next hkey =>
    rw [hother (by rw [hkey]; decide)]
    rfl
  · next hkey =>
    rw [hother (by rw [hkey]; decide)]
    rfl
  · next htab hoffset _ _ =>
    rw [hother (by simpa using ⟨htab, hoffset⟩)]
    rfl

theorem Modeline.error?_readOption (token : List Char) :
    (readOption token).error? = (widthText? token).bind Numeral.overlong? := by
  unfold readOption widthText?
  split
  · next name value hcut =>
    rw [hcut]
    exact error?_map_width? _ _
  · next hcut =>
    rw [hcut]
    rfl

theorem Modeline.readOption_of_overlong {name value : List Char} (hname : '=' ∉ name)
    (hvalue : Numeral.Overlong value) :
    readOption (name ++ '=' :: value) = .error ⟨(trim value).length⟩ := by
  have hcut : cutAt? '=' (name ++ '=' :: value) = some (name, value) :=
    cutAt?_eq_some_iff.mpr ⟨rfl, hname⟩
  have hread := error?_readOption (name ++ '=' :: value)
  rw [widthText?, hcut, Option.map_some, Option.bind_some,
    Numeral.overlong?_eq_some_iff.mpr ⟨hvalue, rfl⟩] at hread
  cases h : readOption (name ++ '=' :: value) with
  | error e =>
    rw [h] at hread
    rw [Option.some.inj hread]
  | ok r =>
    rw [h] at hread
    cases hread

/-! ### On a line -/

namespace DirectiveState

/-- The texts on a line that are read as widths, in the order in which they are read. -/
def widthTexts (d : DirectiveState) (number : Nat) (line : List Char) : List (List Char) :=
  (if number < FirstLine.window then
    ((FirstLine.variables? line).getD []).filterMap Variable.widthText? else []) ++
  (((Modeline.options? line).getD []).filterMap Modeline.widthText? ++
    ((LocalVariables.feed d.scanner line).2.bind Variable.widthText?).toList)

theorem findSome?_map_error? {α : Type} {read : α → DirectiveReading}
    {widthText? : α → Option (List Char)}
    (h : ∀ x, (read x).error? = (widthText? x).bind Numeral.overlong?) (xs : List α) :
    (xs.map read).findSome? DirectiveReading.error?
      = (xs.filterMap widthText?).findSome? Numeral.overlong? := by
  induction xs with
  | nil => rfl
  | cons x xs ih =>
    rw [List.map_cons, List.findSome?_cons, h, ih, List.filterMap_cons]
    cases widthText? x <;> rfl

theorem findSome?_firstLine_readings (line : List Char) :
    (FirstLine.readings line).findSome? DirectiveReading.error?
      = (((FirstLine.variables? line).getD []).filterMap Variable.widthText?).findSome?
          Numeral.overlong? := by
  unfold FirstLine.readings
  cases FirstLine.variables? line with
  | none => rfl
  | some vs => exact findSome?_map_error? Variable.error?_read vs

theorem findSome?_modeline_readings (line : List Char) :
    (Modeline.readings line).findSome? DirectiveReading.error?
      = (((Modeline.options? line).getD []).filterMap Modeline.widthText?).findSome?
          Numeral.overlong? := by
  unfold Modeline.readings
  cases Modeline.options? line with
  | none => rfl
  | some options => exact findSome?_map_error? Modeline.error?_readOption options

theorem findSome?_localVariable_readings (entry : Option Variable) :
    (entry.map Variable.read).toList.findSome? DirectiveReading.error?
      = (entry.bind Variable.widthText?).toList.findSome? Numeral.overlong? := by
  cases entry with
  | none => rfl
  | some v =>
    have hv := findSome?_map_error? Variable.error?_read [v]
    cases hw : v.widthText? <;> simpa [hw] using hv

/-- The first error among the readings of a line is that of the first overlong width. -/
theorem findSome?_readings (d : DirectiveState) (number : Nat) (line : List Char) :
    (d.readings number line).findSome? DirectiveReading.error?
      = (d.widthTexts number line).findSome? Numeral.overlong? := by
  unfold readings widthTexts
  -- the three kinds of directives stand in the same order in both lists
  rw [List.findSome?_append, List.findSome?_append, List.findSome?_append, List.findSome?_append,
    findSome?_modeline_readings, findSome?_localVariable_readings]
  split
  · rw [findSome?_firstLine_readings]
  · rfl

/-- **A line fails with the first overlong width on it.** -/
theorem feed_eq_error_iff_overlong {d : DirectiveState} {number : Nat} {line : List Char}
    {e : OverlongNumeral} :
    d.feed number line = .error e ↔ ∃ ws w ws', d.widthTexts number line = ws ++ w :: ws' ∧
      (∀ u ∈ ws, ¬Numeral.Overlong u) ∧ Numeral.Overlong w ∧ e = ⟨(trim w).length⟩ := by
  rw [feed_eq_error_iff, findSome?_readings, List.findSome?_eq_some_iff]
  constructor
  · rintro ⟨ws, w, ws', heq, hw, hws⟩
    obtain ⟨hlong, rfl⟩ := Numeral.overlong?_eq_some_iff.mp hw
    exact ⟨ws, w, ws', heq, fun u hu => Numeral.overlong?_eq_none_iff.mp (hws u hu), hlong, rfl⟩
  · rintro ⟨ws, w, ws', heq, hws, hlong, rfl⟩
    exact ⟨ws, w, ws', heq, Numeral.overlong?_eq_some_iff.mpr ⟨hlong, rfl⟩,
      fun u hu => Numeral.overlong?_eq_none_iff.mpr (hws u hu)⟩

end DirectiveState

/-! ## Widths are pieces of their line -/

section Pieces

variable {line w : List Char}

theorem FirstLine.isInfix_of_pair? {g : List Char} {v : Variable} (h : pair? g = some v) :
    v.value <:+: g := by
  unfold pair? at h
  obtain ⟨⟨key, value⟩, hcut, h⟩ := Option.bind_eq_some_iff.mp h
  dsimp only at h
  split at h
  · cases h
  · obtain rfl := Option.some.inj h
    obtain ⟨hg, -⟩ := cutAt?_eq_some_iff.mp hcut
    have hvalue : value <:+: trimStart g := ⟨key ++ [':'], [], by rw [hg]; simp⟩
    exact (isInfix_trim value).trans (hvalue.trans (isSuffix_trimStart g).isInfix)

/-- The value of a variable between markers is a piece of one of the segments of the list. -/
theorem FirstLine.isInfix_of_mem_variables? {vs : List Variable} (h : variables? line = some vs)
    {v : Variable} (hv : v ∈ vs) : v.value <:+: line := by
  have hfirst := isFirst_variables? line
  rw [h] at hfirst
  obtain ⟨p, n, ⟨e, -, -, segments, tail, hdrop, -, -, hmap, -⟩, -⟩ := hfirst
  have hmem : some v ∈ segments.map pair? := by
    rw [hmap]
    exact List.mem_map_of_mem hv
  obtain ⟨g, hg, hpair⟩ := List.mem_map.mp hmem
  have hsegment : g <:+: line.drop (e + 1) := by
    obtain ⟨before, after, rfl⟩ := List.append_of_mem hg
    rw [hdrop]
    exact ⟨before.flatMap (· ++ [';']), [';'] ++ after.flatMap (· ++ [';']) ++ tail, by simp⟩
  exact (isInfix_of_pair? hpair).trans (hsegment.trans (List.drop_suffix _ line).isInfix)

namespace Modeline

theorem isPrefix_of_untilColon? {seen s r : List Char} (h : untilColon? seen s = some r) :
    ∃ p, r = seen.reverse ++ p ∧ p <+: s := by
  fun_induction untilColon? seen s with
  | case1 seen c s ih =>
    obtain ⟨p, rfl, hp⟩ := ih h
    refine ⟨'\\' :: c :: p, by simp, ?_⟩
    rw [List.cons_prefix_cons, List.cons_prefix_cons]
    exact ⟨rfl, rfl, hp⟩
  | case2 seen c s =>
    obtain rfl := Option.some.inj h
    exact ⟨[], by simp, List.nil_prefix⟩
  | case3 seen c s _ _ ih =>
    obtain ⟨p, rfl, hp⟩ := ih h
    exact ⟨c :: p, by simp, (List.prefix_cons_inj c).mpr hp⟩
  | case4 => cases h

theorem isSuffix_of_afterSet? {s body : List Char} (h : afterSet? s = some body) : body <:+ s := by
  unfold afterSet? at h
  split at h
  · next c rest =>
    split at h
    · obtain rfl := Option.some.inj h
      exact (isSuffix_trimStart rest).trans ⟨['s', 'e', 't', c], rfl⟩
    · cases h
  · next c rest _ =>
    split at h
    · obtain rfl := Option.some.inj h
      exact (isSuffix_trimStart rest).trans ⟨['s', 'e', c], rfl⟩
    · cases h
  · cases h

/-- The text of a list of options is a piece of the line. -/
theorem ListText.isInfix {isSep : Char → Bool} {list : List Char} (h : ListText line isSep list) :
    list <:+: line := by
  cases h with
  | one htail _ =>
    exact (isPrefix_trimEnd _).isInfix.trans (isSuffix_of_mem_tagTails htail).isInfix
  | two htail hset hcolon =>
    obtain ⟨p, rfl, hprefix⟩ := isPrefix_of_untilColon? hcolon
    have hbody := (isSuffix_of_afterSet? hset).trans (isSuffix_of_mem_tagTails htail)
    exact hprefix.isInfix.trans hbody.isInfix

theorem isInfix_of_mem_options? {options : List (List Char)} (h : options? line = some options)
    {o : List Char} (ho : o ∈ options) : o <:+: line := by
  obtain ⟨isSep, list, hlist, hruns⟩ := exists_listText h
  rw [← splitRuns_eq_iff.mpr hruns] at ho
  exact (isInfix_of_mem_splitRuns ho).trans hlist.isInfix

end Modeline

theorem Variable.eq_value_of_widthText? {v : Variable} (h : v.widthText? = some w) :
    w = v.value := by
  unfold widthText? at h
  split at h
  · exact (Option.some.inj h).symm
  · cases h

/-- **What is read as a width is a piece of the line.** -/
theorem DirectiveState.isInfix_of_mem_widthTexts {d : DirectiveState} {number : Nat}
    (h : w ∈ d.widthTexts number line) : w <:+: line := by
  unfold widthTexts at h
  rcases List.mem_append.mp h with hfirst | h
  · split at hfirst
    · obtain ⟨v, hv, hw⟩ := List.mem_filterMap.mp hfirst
      obtain rfl := Variable.eq_value_of_widthText? hw
      cases hvs : FirstLine.variables? line with
      | none =>
        rw [hvs] at hv
        cases hv
      | some vs =>
        rw [hvs] at hv
        exact FirstLine.isInfix_of_mem_variables? hvs hv
    · cases hfirst
  · rcases List.mem_append.mp h with hmodeline | hlocal
    · obtain ⟨o, ho, hw⟩ := List.mem_filterMap.mp hmodeline
      obtain ⟨⟨name, value⟩, hcut, rfl⟩ := Option.map_eq_some_iff.mp hw
      obtain ⟨rfl, -⟩ := cutAt?_eq_some_iff.mp hcut
      have hvalue : value <:+: name ++ '=' :: value := ⟨name ++ ['='], [], by simp⟩
      cases hoptions : Modeline.options? line with
      | none =>
        rw [hoptions] at ho
        cases ho
      | some options =>
        rw [hoptions] at ho
        exact hvalue.trans (Modeline.isInfix_of_mem_options? hoptions ho)
    · obtain ⟨v, hv, hw⟩ := Option.bind_eq_some_iff.mp (Option.mem_toList.mp hlocal)
      obtain rfl := Variable.eq_value_of_widthText? hw
      obtain ⟨affixes, hentry⟩ := LocalVariables.exists_entry?_of_feed hv
      obtain ⟨before, behind, hline, hpiece, -⟩ := LocalVariables.exists_of_entry? hentry
      have hbehind : behind <:+: line := ⟨before ++ v.key ++ [':'], [], by rw [hline]; simp⟩
      exact hpiece.trans hbehind

end Pieces

/-! ## Failing texts -/

theorem detect_eq_error_iff_overlong {skipDocs : Bool} {text : List Char} {e : OverlongNumeral} :
    detect skipDocs text = .error e ↔
      ∃ before l after d, Line.ofText text = before ++ l :: after ∧
        ({} : DirectiveState).Open 0 before ∧ ({} : DirectiveState).feedAll 0 before = .ok d ∧
        ∃ ws w ws', d.widthTexts before.length l.text = ws ++ w :: ws' ∧
          (∀ u ∈ ws, ¬Numeral.Overlong u) ∧ Numeral.Overlong w ∧ e = ⟨(trim w).length⟩ := by
  simp only [detect_eq_error_iff_feed, DirectiveState.feed_eq_error_iff_overlong]

/-- An overlong width on some line of a text is an overlong run of digits in the text. -/
theorem not_overlong_of_mem_widthTexts {text : List Char}
    (hshort : ∀ ds, ds <:+: text → (∀ c ∈ ds, c.isDigit = true) → ds.length ≤ Numeral.limit)
    {l : Line} (hl : l ∈ Line.ofText text) {d : DirectiveState} {number : Nat} {w : List Char}
    (hw : w ∈ d.widthTexts number l.text) : ¬Numeral.Overlong w := by
  intro hlong
  have hline : l.text <:+: text := Line.isInfix_of_mem_ofText hl
  have hpiece : w <:+: l.text := DirectiveState.isInfix_of_mem_widthTexts hw
  have hlimit := hshort (trim w) ((isInfix_trim w).trans (hpiece.trans hline)) hlong.digits
  exact absurd hlong.limit_lt (Nat.not_lt.mpr hlimit)

/--
**Detection fails at the first overlong width, if nothing is decided before it, and only there.**

The error counts the digits of that width. A text in which no run of digits is too long has a verdict.
-/
theorem detect_eq_error_iff (skipDocs : Bool) (text : List Char) :
    (∀ e, detect skipDocs text = .error e ↔
      ∃ before l after d, Line.ofText text = before ++ l :: after ∧
        ({} : DirectiveState).Open 0 before ∧ ({} : DirectiveState).feedAll 0 before = .ok d ∧
        ∃ ws w ws', d.widthTexts before.length l.text = ws ++ w :: ws' ∧
          (∀ u ∈ ws, ¬Numeral.Overlong u) ∧ Numeral.Overlong w ∧ e = ⟨(trim w).length⟩) ∧
    ((∀ ds, ds <:+: text → (∀ c ∈ ds, c.isDigit = true) → ds.length ≤ Numeral.limit) →
      ∃ v, detect skipDocs text = .ok v) := by
  refine ⟨fun e => detect_eq_error_iff_overlong, fun hshort => ?_⟩
  cases hdetect : detect skipDocs text with
  | ok v => exact ⟨v, rfl⟩
  | error e =>
    obtain ⟨before, l, after, d, htext, -, -, ws, w, ws', hws, -, hlong, -⟩ :=
      detect_eq_error_iff_overlong.mp hdetect
    have hl : l ∈ Line.ofText text := by
      rw [htext]
      exact List.mem_append_right before List.mem_cons_self
    have hw : w ∈ d.widthTexts before.length l.text := by
      rw [hws]
      exact List.mem_append_right ws List.mem_cons_self
    exact absurd hlong (not_overlong_of_mem_widthTexts hshort hl hw)

/-- The value of an option that says nothing about indentation is read all the same. -/
theorem detect_overlong_ignored_option :
    detect false ("-- vim: set sw=".toList ++ List.replicate 4301 '9' ++ " et :\n".toList)
      = .error ⟨4301⟩ := by
  have hdigits : ∀ c ∈ List.replicate 4301 '9', c.isDigit = true := by
    intro c hc
    rw [List.eq_of_mem_replicate hc]
    decide
  have hoption : Modeline.PlainOption (['s', 'w'] ++ '=' :: List.replicate 4301 '9') :=
    .assign_digits ⟨⟨_, _, rfl, by decide⟩, forall_mem_of_all (by decide)⟩ hdigits
  have htext : ∀ ds, "-- vim: set sw=".toList ++ ds ++ " et :\n".toList
      = Modeline.setLine (['s', 'w'] ++ '=' :: ds) ++ '\n' :: [] := by
    intro ds
    simp [Modeline.setLine]
  have hlines : Line.ofText
      (Modeline.setLine (['s', 'w'] ++ '=' :: List.replicate 4301 '9') ++ '\n' :: [])
      = [] ++ .ofChars (Modeline.setLine (['s', 'w'] ++ '=' :: List.replicate 4301 '9')) :: [] := by
    rw [Line.ofText, Line.splitLines_append_cons (Modeline.isEol_of_mem_setLine hoption) rfl]
    rfl
  have hread : Modeline.readOption (['s', 'w'] ++ '=' :: List.replicate 4301 '9')
      = .error ⟨4301⟩ := by
    have hlong : Numeral.Overlong (List.replicate 4301 '9') := by
      refine ⟨?_, ?_⟩ <;> rw [Numeral.trim_of_digits hdigits]
      · exact hdigits
      · rw [List.length_replicate]
        decide
    rw [Modeline.readOption_of_overlong (by decide) hlong, Numeral.trim_of_digits hdigits,
      List.length_replicate]
  have hfeed := Modeline.feed_setLine hoption {} 0
  rw [htext, detect_eq_error_iff_feed]
  refine ⟨[], _, [], {}, hlines, DirectiveState.open_nil rfl 0, rfl, ?_⟩
  rw [Line.text_ofChars, List.length_nil, hfeed, hread]
  rfl

end Indentation
