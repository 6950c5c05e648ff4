import Indentation.Line
import Indentation.Proofs.Numeral
import Indentation.Proofs.OptionGrammar

/-!
# Lists of options

How the two forms of a modeline read a list of options that hold no blanks, colons and backslashes
(`PlainOption`), and where the tags of a line stand.

## How a list is read

In form one an option is passed over together with the blank behind it, so a list ends as its last
option does (`exists_last`). A colon does not end an option there, so options with colons between them
are read as one, and taken apart only when the list is split. In form two the first colon ends the list,
whatever follows (`formTwo?_intercalate`).

What follows a tag stands behind a colon (`exists_of_mem_tagTails`), so a line has no tag before its
first colon and none that its last colon is not behind.

## Main statements

* `formOne?_spaces`, `formOne?_colons`, `formTwo?_intercalate` — options with separators between them
  are read as those options
* `tagTails_vim` — the first tag of a line stands at its first colon
* `exists_listText` — the options of a line are the runs of the text of its list
-/

namespace Indentation.Modeline

open Text

/-! ## Options without escapes -/

/-- A word character with single items behind it. -/
structure BareOption (option : List Char) : Prop where
  head : ∃ c s, option = c :: s ∧ isWord c = true
  items : ∀ c ∈ option, IsItem c

namespace BareOption

variable {option e : List Char}

theorem ne_nil (h : BareOption option) : option ≠ [] := by
  obtain ⟨c, s, rfl, -⟩ := h.head
  exact List.cons_ne_nil c s

theorem isOption (h : BareOption option) : IsOption option := by
  obtain ⟨c, s, rfl, hc⟩ := h.head
  exact .mk hc (.of_forall fun x hx => h.items x (List.mem_cons_of_mem c hx))

theorem append (h : BareOption option) (he : ∀ c ∈ e, IsItem c) : BareOption (option ++ e) := by
  obtain ⟨c, s, rfl, hc⟩ := h.head
  refine ⟨⟨c, s ++ e, rfl, hc⟩, fun x hx => ?_⟩
  rcases List.mem_append.mp hx with hx | hx
  · exact h.items x hx
  · exact he x hx

end BareOption

/-! ## Plain options -/

/-- A character that ends neither an option nor a list of options and escapes nothing. -/
def IsPlain (c : Char) : Prop := isBlank c = false ∧ c ∉ ['\\', ':', ';']

instance : DecidablePred IsPlain := fun c =>
  inferInstanceAs (Decidable (isBlank c = false ∧ c ∉ ['\\', ':', ';']))

theorem IsPlain.ne {c d : Char} (hc : IsPlain c) (hd : d ∈ ['\\', ':', ';']) : c ≠ d := by
  rintro rfl
  exact hc.2 hd

/-- The characters that end lines are blanks, so no plain character is one of them. -/
theorem IsPlain.isEol_eq_false {c : Char} (hc : IsPlain c) : Line.isEol c = false := by
  cases heol : Line.isEol c with
  | false => rfl
  | true =>
    have hblank : isBlank c = true := by
      rcases Bool.or_eq_true_iff.mp heol with h | h <;> rw [beq_iff_eq.mp h] <;> decide
    rw [hc.1] at hblank
    cases hblank

theorem IsPlain.isItem {c : Char} (hc : IsPlain c) : IsItem c := ⟨hc.1, hc.ne (by simp)⟩

theorem not_mem_of_isPlain {w : List Char} (hw : ∀ c ∈ w, IsPlain c) {d : Char}
    (hd : d ∈ ['\\', ':', ';']) : d ∉ w := fun hmem => (hw d hmem).ne hd rfl

theorem isPlain_of_isDigit {c : Char} (h : c.isDigit = true) : IsPlain c := by
  refine ⟨Numeral.isBlank_of_isDigit h, fun hmem => ?_⟩
  have hnone : ∀ d ∈ ['\\', ':', ';'], d.isDigit = false := forall_mem_of_all (by decide)
  rw [hnone c hmem] at h
  cases h

theorem isPlain_of_isWord {c : Char} (h : isWord c = true) : IsPlain c := by
  refine ⟨isBlank_of_isWord h, fun hmem => ?_⟩
  have hnone : ∀ d ∈ ['\\', ':', ';'], isWord d = false := forall_mem_of_all (by decide)
  rw [hnone c hmem] at h
  cases h

/-- A word character with plain characters behind it. -/
structure PlainOption (option : List Char) : Prop where
  head : ∃ c s, option = c :: s ∧ isWord c = true
  plain : ∀ c ∈ option, IsPlain c

namespace PlainOption

theorem set : PlainOption ['s', 'e', 't'] :=
  ⟨⟨_, _, rfl, by decide⟩, forall_mem_of_all (by decide)⟩

theorem et : PlainOption ['e', 't'] :=
  ⟨⟨_, _, rfl, by decide⟩, forall_mem_of_all (by decide)⟩

variable {option : List Char}

theorem ne_nil (h : PlainOption option) : option ≠ [] := by
  obtain ⟨c, s, rfl, -⟩ := h.head
  exact List.cons_ne_nil c s

theorem bare (h : PlainOption option) : BareOption option :=
  ⟨h.head, fun c hc => (h.plain c hc).isItem⟩

theorem not_blank (h : PlainOption option) : ∀ c ∈ option, isBlank c = false :=
  fun c hc => (h.plain c hc).1

/-- A name with a value of plain characters is a plain option. -/
theorem assign (h : PlainOption option) {value : List Char} (hvalue : ∀ c ∈ value, IsPlain c) :
    PlainOption (option ++ '=' :: value) := by
  obtain ⟨c, s, rfl, hc⟩ := h.head
  refine ⟨⟨c, s ++ '=' :: value, rfl, hc⟩, fun x hx => ?_⟩
  rcases List.mem_append.mp hx with hname | hrest
  · exact h.plain x hname
  · rcases List.mem_cons.mp hrest with rfl | hx
    · decide
    · exact hvalue x hx

theorem assign_digits (h : PlainOption option) {ds : List Char}
    (hds : ∀ c ∈ ds, c.isDigit = true) : PlainOption (option ++ '=' :: ds) :=
  h.assign fun c hc => isPlain_of_isDigit (hds c hc)

end PlainOption

/-- A run of word characters. -/
structure WordRun (w : List Char) : Prop where
  ne_nil : w ≠ []
  isWord : ∀ c ∈ w, isWord c = true

instance (w : List Char) : Decidable (WordRun w) :=
  decidable_of_iff (w ≠ [] ∧ w.all isWord = true)
    ⟨fun h => ⟨h.1, List.all_eq_true.mp h.2⟩, fun h => ⟨h.ne_nil, List.all_eq_true.mpr h.isWord⟩⟩

/-- A name, or a name with a value, both made of word characters. -/
def WordOption (option : List Char) : Prop :=
  WordRun option ∨ ∃ name value, WordRun name ∧ WordRun value ∧ option = name ++ '=' :: value

theorem WordRun.plainOption {w : List Char} (h : WordRun w) : PlainOption w := by
  refine ⟨?_, fun c hc => isPlain_of_isWord (h.isWord c hc)⟩
  obtain ⟨c, s, rfl⟩ := List.exists_cons_of_ne_nil h.ne_nil
  exact ⟨c, s, rfl, h.isWord c List.mem_cons_self⟩

theorem WordOption.plainOption {option : List Char} (h : WordOption option) :
    PlainOption option := by
  rcases h with h | ⟨name, value, hname, hvalue, rfl⟩
  · exact h.plainOption
  · exact hname.plainOption.assign fun c hc => isPlain_of_isWord (hvalue.isWord c hc)

/-! ## Lists of options -/

section Lists

variable {option w s e : List Char} {options : List (List Char)}

/-- Nothing of an option is taken for a separator. -/
theorem dropSeparator_append (h : BareOption option) (s : List Char) :
    dropSeparator (option ++ s) = option ++ s :=
  (h.isOption.startsWord_append s).dropSeparator_append (w := []) (by simp)

theorem dropSeparator_of_not_mem (h : ':' ∉ s) : dropSeparator s = trimStart s := by
  unfold dropSeparator
  split
  · next rest hcolon =>
    exact absurd ((isSuffix_trimStart s).subset (hcolon ▸ List.mem_cons_self)) h
  · rfl

/-- A list of options is a first option and, behind a space, a list of options. -/
theorem isOptionList_append_space (h : BareOption option) (s : List Char) :
    isOptionList (option ++ ' ' :: s) = isOptionList (dropSeparator s) :=
  isOptionList_append_blank h.isOption (by decide) s

theorem untilColon?_cons_of_ne {c : Char} (hc : c ≠ '\\') (seen s : List Char) :
    untilColon? seen (c :: s) = if c == ':' then some seen.reverse else untilColon? (c :: seen) s := by
  cases s <;> simp [untilColon?, hc]

/-- Without a backslash, the first colon ends the list. -/
theorem untilColon?_append (hw : ∀ c ∈ w, c ≠ '\\' ∧ c ≠ ':') (seen s : List Char) :
    untilColon? seen (w ++ ':' :: s) = some (seen.reverse ++ w) := by
  induction w generalizing seen with
  | nil =>
    rw [List.nil_append, untilColon?_cons_of_ne (by decide), List.append_nil]
    rfl
  | cons c w ih =>
    obtain ⟨hc, hcolon⟩ := hw c List.mem_cons_self
    rw [List.cons_append, untilColon?_cons_of_ne hc, if_neg (by simpa using hcolon),
      ih fun x hx => hw x (List.mem_cons_of_mem c hx)]
    simp

/-- **A list of options ends as its last option does.** All options before it are passed over, each
with the blank behind it. -/
theorem exists_last (hne : options ≠ []) (h : ∀ o ∈ options, BareOption o) :
    ∃ t, ∃ o ∈ options, [' '].intercalate options = t ++ o ∧
      ∀ e, isOptionList (t ++ o ++ e) = isOptionList (o ++ e) := by
  induction options with
  | nil => exact absurd rfl hne
  | cons o os ih =>
    cases os with
    | nil => exact ⟨[], o, List.mem_cons_self, by simp, fun e => by simp⟩
    | cons o' os =>
      obtain ⟨t, p, hp, heq, hlast⟩ :=
        ih (List.cons_ne_nil o' os) fun x hx => h x (List.mem_cons_of_mem o hx)
      refine ⟨o ++ ' ' :: t, p, List.mem_cons_of_mem o hp, ?_, fun e => ?_⟩
      · rw [List.intercalate_cons_cons, heq]
        simp
      · obtain ⟨t', ht'⟩ := exists_intercalate_cons [' '] o' os
        have ho' := h o' (List.mem_cons_of_mem o List.mem_cons_self)
        have hstart : t ++ p ++ e = o' ++ (t' ++ e) := by
          rw [← heq, ht', List.append_assoc]
        have hsplit : o ++ ' ' :: t ++ p ++ e = o ++ ' ' :: (t ++ p ++ e) := by simp
        rw [hsplit, isOptionList_append_space (h o List.mem_cons_self), hstart, dropSeparator_append ho',
          ← hstart, hlast]

end Lists

/-! ## The two forms -/

section Forms

variable {options : List (List Char)} {option s e : List Char}

theorem not_separator_of_plainOption (h : PlainOption option) :
    ∀ c ∈ option, (isBlank c || c == ':') = false := by
  intro c hc
  have hplain := h.plain c hc
  rw [hplain.1, Bool.false_or, beq_eq_false_iff_ne]
  exact hplain.ne (by simp)

theorem formOne?_of_isOptionList (hs : isOptionList (trimEnd s) = true) :
    formOne? s = some (splitRuns (fun c => isBlank c || c == ':') s) := by
  have hblank : ∀ c, isBlank c = true → (isBlank c || c == ':') = true := by
    intro c hc
    rw [hc, Bool.true_or]
  have hform : formOne? s = some (splitRuns (fun c => isBlank c || c == ':') (trimEnd s)) :=
    if_pos hs
  rw [hform, splitRuns_trimEnd hblank]

theorem formOne?_of_not_isOptionList (hs : isOptionList (trimEnd s) = false) :
    formOne? s = none := by
  rw [formOne?, hs]
  rfl

theorem formOne?_spaces (hne : options ≠ []) (h : ∀ o ∈ options, PlainOption o)
    (he : ∀ c ∈ e, c = ':') : formOne? ([' '].intercalate options ++ e) = some options := by
  have hitem : ∀ c ∈ e, IsItem c := by
    intro c hc
    rw [he c hc]
    decide
  have hsep : ∀ c ∈ e, (isBlank c || c == ':') = true := by
    intro c hc
    rw [he c hc]
    decide
  obtain ⟨t, o, ho, heq, hlast⟩ := exists_last hne fun w hw => (h w hw).bare
  have hoption := (h o ho).bare.append hitem
  have htrim : trimEnd (t ++ o ++ e) = t ++ o ++ e := by
    rw [List.append_assoc]
    exact trimEnd_append_of_not_blank hoption.ne_nil (fun c hc => (hoption.items c hc).1) t
  have hlist : isOptionList (t ++ o ++ e) = true := by
    rw [hlast, isOptionList_of_isOption hoption.isOption]
  have hwords := splitRuns_intercalate (show (isBlank ' ' || ' ' == ':') = true by decide) hsep
    fun w hw => ⟨(h w hw).ne_nil, not_separator_of_plainOption (h w hw)⟩
  rw [heq] at hwords ⊢
  rw [formOne?_of_isOptionList (by rw [htrim, hlist]), hwords]

theorem formOne?_colons (hne : options ≠ []) (h : ∀ o ∈ options, PlainOption o) :
    formOne? ([':'].intercalate options) = some options := by
  -- as a list, the text is one option with colons in it
  obtain ⟨o, os, rfl⟩ := List.exists_cons_of_ne_nil hne
  obtain ⟨t, ht⟩ := exists_intercalate_cons [':'] o os
  have hitem : ∀ c ∈ [':'].intercalate (o :: os), IsItem c := by
    intro c hc
    rcases mem_intercalate hc with hc | ⟨w, hw, hc⟩
    · rw [List.mem_singleton.mp hc]
      decide
    · exact ((h w hw).plain c hc).isItem
  have hwords := splitRuns_intercalate (show (isBlank ':' || ':' == ':') = true by decide)
    (show ∀ c ∈ [], (isBlank c || c == ':') = true by simp)
    fun w hw => ⟨(h w hw).ne_nil, not_separator_of_plainOption (h w hw)⟩
  rw [List.append_nil] at hwords
  rw [ht] at hitem hwords ⊢
  have hoption := (h o List.mem_cons_self).bare.append fun c hc =>
    hitem c (List.mem_append_right o hc)
  have htrim : trimEnd (o ++ t) = o ++ t :=
    trimEnd_append_of_not_blank hoption.ne_nil (fun c hc => (hitem c hc).1) []
  rw [formOne?_of_isOptionList (by rw [htrim, isOptionList_of_isOption hoption.isOption]), hwords]

theorem afterSet?_set (s : List Char) :
    afterSet? (['s', 'e', 't'] ++ ' ' :: s) = some (trimStart s) := by
  unfold afterSet?
  rfl

theorem trimStart_intercalate (sep : List Char) (hne : options ≠ [])
    (h : ∀ o ∈ options, PlainOption o) (s : List Char) :
    trimStart (sep.intercalate options ++ s) = sep.intercalate options ++ s := by
  obtain ⟨o, os, rfl⟩ := List.exists_cons_of_ne_nil hne
  obtain ⟨t, ht⟩ := exists_intercalate_cons sep o os
  have ho := h o List.mem_cons_self
  obtain ⟨c, w, rfl, -⟩ := ho.head
  rw [ht, List.cons_append, List.cons_append,
    trimStart_cons_of_not_blank (ho.not_blank c List.mem_cons_self)]

/-- The list of form two ends at its first colon, whatever follows. -/
theorem formTwo?_intercalate (hne : options ≠ []) (h : ∀ o ∈ options, PlainOption o)
    (he : ∀ c ∈ e, c = ' ') (rest : List Char) :
    formTwo? (['s', 'e', 't'] ++ ' ' :: ([' '].intercalate options ++ e ++ ':' :: rest))
      = some options := by
  have hset : afterSet? (['s', 'e', 't'] ++ ' ' :: ([' '].intercalate options ++ e ++ ':' :: rest))
      = some ([' '].intercalate options ++ e ++ ':' :: rest) := by
    rw [afterSet?_set, List.append_assoc, trimStart_intercalate _ hne h]
  have hbody : ∀ c ∈ [' '].intercalate options ++ e, c ≠ '\\' ∧ c ≠ ':' := by
    have hspace : ' ' ≠ '\\' ∧ ' ' ≠ ':' := by decide
    intro c hc
    rcases List.mem_append.mp hc with hc | hc
    · rcases mem_intercalate hc with hc | ⟨o, ho, hc⟩
      · rw [List.mem_singleton.mp hc]
        exact hspace
      · have hplain := (h o ho).plain c hc
        exact ⟨hplain.ne (by simp), hplain.ne (by simp)⟩
    · rw [he c hc]
      exact hspace
  have hblank : ∀ c ∈ e, isBlank c = true := by
    intro c hc
    rw [he c hc]
    decide
  have hwords : words ([' '].intercalate options ++ e) = options :=
    splitRuns_intercalate (by decide) hblank fun w hw => ⟨(h w hw).ne_nil, (h w hw).not_blank⟩
  have hall : (options.all fun o => (dropOption? o).isSome) = true := by
    refine List.all_eq_true.mpr fun o ho => ?_
    obtain ⟨c, w, rfl, hc⟩ := (h o ho).head
    rw [dropOption?_cons, if_pos hc]
    rfl
  unfold formTwo?
  rw [hset]
  dsimp only [bind, Option.bind]
  rw [untilColon?_append hbody]
  dsimp only
  rw [List.reverse_nil, List.nil_append, hwords, hall]
  simp [hne]

end Forms

/-! ## Tags -/

section Tags

variable {w s rest lead t : List Char}

/-- A tag ends in a colon, and no space stands before that. -/
theorem exists_of_afterTag? (h : afterTag? s = some rest) :
    ∃ tag, s = tag ++ ':' :: rest ∧ ' ' ∉ tag := by
  unfold afterTag? at h
  split at h
  · next r hvim =>
    obtain rfl := Option.some.inj h
    exact ⟨['v', 'i', 'm'], dropLead?_eq_some_iff.mp hvim, by decide⟩
  · next c r _ hvim =>
    split at h
    · next hc =>
      split at h
      · next d ds r' htake hdrop =>
        obtain rfl := Option.some.inj h
        have hr : r = r.takeWhile isDigit ++ ':' :: r' := by
          rw [← hdrop, List.takeWhile_append_dropWhile]
        refine ⟨['v', 'i', 'm', c] ++ r.takeWhile isDigit, ?_, ?_⟩
        · rw [dropLead?_eq_some_iff.mp hvim, List.append_assoc, ← hr]
          rfl
        · -- neither the comparison nor a digit of the version is a space
          intro hmem
          rcases List.mem_append.mp hmem with hlead | hdigits
          · have hspace : c = ' ' := by simpa [eq_comm] using hlead
            rw [hspace] at hc
            exact absurd hc (by decide)
          · have hdigit := List.all_eq_true.mp List.all_takeWhile ' ' hdigits
            exact absurd hdigit (by decide)
      · cases h
    · cases h
  · cases h
  · cases hvi : dropLead? ['v', 'i', ':'] s with
    | some r =>
      rw [hvi] at h
      obtain rfl : r = rest := Option.some.inj h
      have hs := dropLead?_eq_some_iff.mp hvi
      exact ⟨['v', 'i'], hs, by decide⟩
    | none =>
      rw [hvi] at h
      have hs := dropLead?_eq_some_iff.mp (show dropLead? ['e', 'x', ':'] s = some rest from h)
      exact ⟨['e', 'x'], hs, by decide⟩

/-- A word without a colon is not the start of a tag. -/
theorem afterTag?_append_space (hw : ':' ∉ w) (s : List Char) : afterTag? (w ++ ' ' :: s) = none := by
  cases h : afterTag? (w ++ ' ' :: s) with
  | none => rfl
  | some rest =>
    -- the tag ends in a colon behind the word, so it would hold the space
    obtain ⟨tag, heq, hspace⟩ := exists_of_afterTag? h
    rcases List.append_eq_append_iff.mp heq with ⟨a, htag, hrest⟩ | ⟨a, hword, hrest⟩
    · cases a with
      | nil => cases (List.cons.inj hrest).1
      | cons c a =>
        obtain ⟨rfl, -⟩ := List.cons.inj hrest
        exact absurd (htag ▸ List.mem_append_right w List.mem_cons_self) hspace
    · cases a with
      | nil => cases (List.cons.inj hrest).1
      | cons c a =>
        obtain ⟨rfl, -⟩ := List.cons.inj hrest
        exact absurd (hword ▸ List.mem_append_right tag List.mem_cons_self) hw

/-- Tags stand behind blanks only. -/
theorem tagTails_append (hw : ∀ c ∈ w, isBlank c = false) (s : List Char) :
    tagTails (w ++ s) = tagTails s := by
  induction w with
  | nil => rfl
  | cons c w ih =>
    rw [List.cons_append, tagTails, hw c List.mem_cons_self, if_neg (by decide)]
    exact ih fun x hx => hw x (List.mem_cons_of_mem c hx)

/-- What follows a tag stands behind a colon. -/
theorem exists_of_mem_tagTails (h : t ∈ tagTails s) :
    ∃ before rest, s = before ++ ':' :: rest ∧ t = trimStart rest := by
  induction s with
  | nil => cases h
  | cons c s ih =>
    have hlater : t ∈ tagTails s → ∃ before rest, c :: s = before ++ ':' :: rest ∧
        t = trimStart rest := by
      intro ht
      obtain ⟨before, rest, rfl, rfl⟩ := ih ht
      exact ⟨c :: before, rest, rfl, rfl⟩
    rw [tagTails] at h
    split at h
    · split at h
      · next rest hrest =>
        rcases List.mem_cons.mp h with rfl | h
        · obtain ⟨tag, rfl, -⟩ := exists_of_afterTag? hrest
          exact ⟨c :: tag, rest, rfl, rfl⟩
        · exact hlater h
      · exact hlater h
    · exact hlater h

/-- What follows a tag ends the line. -/
theorem isSuffix_of_mem_tagTails (h : t ∈ tagTails s) : t <:+ s := by
  obtain ⟨before, rest, rfl, rfl⟩ := exists_of_mem_tagTails h
  exact (isSuffix_trimStart rest).trans ⟨before ++ [':'], by simp⟩

/-- No tag stands before the first colon. -/
theorem tagTails_append_space (hlead : ':' ∉ lead) (s : List Char) :
    tagTails (lead ++ ' ' :: s) = tagTails (' ' :: s) := by
  induction lead with
  | nil => rfl
  | cons c lead ih =>
    have hlead' : ':' ∉ lead := fun hmem => hlead (List.mem_cons_of_mem c hmem)
    rw [List.cons_append, tagTails, afterTag?_append_space hlead', ite_self]
    exact ih hlead'

theorem tagTails_vim (hlead : ':' ∉ lead) (s : List Char) :
    tagTails (lead ++ ' ' :: (['v', 'i', 'm', ':'] ++ s)) = trimStart s :: tagTails s := by
  have htag : afterTag? (['v', 'i', 'm', ':'] ++ s) = some s := by simp [afterTag?, dropLead?]
  rw [tagTails_append_space hlead, tagTails, htag, if_pos (by decide)]
  dsimp only
  rw [tagTails_append (forall_mem_of_all (by decide))]

end Tags

/-! ## The text of a list -/

/-- The texts that the options of a line may be cut out of, with what separates them there: the list of
form one behind a tag, or that of form two up to its colon. -/
inductive ListText (line : List Char) : (Char → Bool) → List Char → Prop where
  | one {tail : List Char} (htail : tail ∈ tagTails line) (hlist : OptionList (trimEnd tail)) :
    ListText line (fun c => isBlank c || c == ':') (trimEnd tail)
  | two {tail body list : List Char} (htail : tail ∈ tagTails line)
      (hset : afterSet? tail = some body) (hcolon : untilColon? [] body = some list) :
    ListText line isBlank list

section ListText

variable {line s : List Char} {options : List (List Char)}

theorem readings_of_options? (h : options? line = some options) :
    readings line = options.map readOption := by
  rw [readings, h]

theorem exists_of_formTwo? (h : formTwo? s = some options) :
    ∃ body list, afterSet? s = some body ∧ untilColon? [] body = some list ∧
      Runs isBlank list options := by
  unfold formTwo? at h
  obtain ⟨body, hbody, h⟩ := Option.bind_eq_some_iff.mp h
  obtain ⟨list, hlist, h⟩ := Option.bind_eq_some_iff.mp h
  dsimp only at h
  split at h
  · obtain rfl := Option.some.inj h
    exact ⟨body, list, hbody, hlist, runs_splitRuns isBlank list⟩
  · cases h

/-- **The options of a line are the runs of the text of its list.** -/
theorem exists_listText (h : options? line = some options) :
    ∃ isSep list, ListText line isSep list ∧ Runs isSep list options := by
  unfold options? at h
  dsimp only at h
  cases hone : (tagTails line).findSome? formOne? with
  | some found =>
    rw [hone] at h
    obtain rfl : found = options := Option.some.inj h
    obtain ⟨tail, htail, hform⟩ := List.exists_of_findSome?_eq_some hone
    obtain ⟨hlist, hruns⟩ := formOne?_eq_some_iff.mp hform
    exact ⟨_, _, .one htail hlist, hruns⟩
  | none =>
    rw [hone] at h
    obtain ⟨tail, htail, hform⟩ := List.exists_of_findSome?_eq_some
      (show (tagTails line).findSome? formTwo? = some options from h)
    obtain ⟨body, list, hset, hcolon, hruns⟩ := exists_of_formTwo? hform
    exact ⟨_, _, .two htail hset hcolon, hruns⟩

end ListText

end Indentation.Modeline
