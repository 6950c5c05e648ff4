import Indentation.Proofs.Signature

/-!
# Signatures that are read

Which texts are read as which signature.

A signature is read from its letter and a numeral. The first digit of the numeral is an ASCII one, but
the others may be digits of any script (`Spells`). So a signature that is written is read back, whatever
blanks are put around it, but not every text that is read was written for the signature: `s1` with an
Arabic three behind it is read as `s13`.

## Main statements

* `parse_eq_ok_iff` — the letter and the numeral are read, and nothing else
* `spells_iff` — such a text is the written signature with digits of other scripts in it
* `IsReadable.parse_append_render` — what is written for a signature is read back
* `parse_iff_written` — a text without digits of other scripts is read only if it was written
-/

namespace Indentation.Signature

open Text

variable {text t : List Char} {s : Signature}

/-! ## Reading -/

/-- The texts that are read as a signature, when blanks around them have been cut off: the letter of an
unknown style, or the letter of another style and a numeral within the limit. -/
inductive Spells : List Char → Signature → Prop where
  | unknown : Spells ['u'] .unknown
  | known {style : Style} {ds : List Char} (hstyle : style ≠ .unknown)
      (hds : isWidthNumeral ds = true) (hlimit : ds.length ≤ Numeral.limit) :
      Spells (style.letter :: ds) ⟨style, Numeral.value ds⟩

theorem isWidthNumeral_cons {c : Char} {ds : List Char} :
    isWidthNumeral (c :: ds) = true ↔
      c.isDigit = true ∧ c ≠ '0' ∧ ∀ d ∈ ds, isDigit d = true := by
  simp [isWidthNumeral, and_assoc]

theorem parse_of_known {style : Style} {ds : List Char} (hstyle : style ≠ .unknown)
    (htext : trim text = style.letter :: ds) :
    parse text = if isWidthNumeral ds then
        match Numeral.read ds with
        | .ok n => .ok ⟨style, n⟩
        | .error e => .error (.overlong e)
      else .error (.notASignature text) := by
  unfold parse
  rw [htext]
  cases style with
  | unknown => exact absurd rfl hstyle
  | spaces | tabs | mixed => rfl

theorem eq_letter_of_ofLetter? {c : Char} {style : Style} (h : Style.ofLetter? c = some style) :
    c = style.letter := by
  unfold Style.ofLetter? at h
  split at h <;> cases h <;> rfl

/-- **A text is a `u`, or a letter with a numeral behind it, or it is refused.** -/
theorem parse_cases (text : List Char) :
    trim text = ['u'] ∨
      (∃ (style : Style) (ds : List Char), style ≠ .unknown ∧ isWidthNumeral ds = true ∧
        trim text = style.letter :: ds) ∨
      parse text = .error (.notASignature text) := by
  cases htext : trim text with
  | nil => exact .inr (.inr (by rw [parse, htext]))
  | cons c ds =>
    cases hletter : Style.ofLetter? c with
    | none =>
      have hc : c ≠ 'u' := by
        rintro rfl
        cases hletter
      refine .inr (.inr ?_)
      simp [parse, htext, hletter, hc]
    | some style =>
      obtain rfl := eq_letter_of_ofLetter? hletter
      -- behind a `u` nothing may stand, behind any other letter a numeral has to
      by_cases hstyle : style = .unknown
      · subst hstyle
        cases ds with
        | nil => exact .inl rfl
        | cons d ds => exact .inr (.inr (by rw [parse, htext]; rfl))
      · by_cases hds : isWidthNumeral ds = true
        · exact .inr (.inl ⟨style, ds, hstyle, hds, rfl⟩)
        · exact .inr (.inr (by rw [parse_of_known hstyle htext, if_neg hds]))

/-- A numeral over the limit is refused for its length. -/
theorem parse_of_overlong {style : Style} {ds : List Char} (hstyle : style ≠ .unknown)
    (hds : isWidthNumeral ds = true) (htext : trim text = style.letter :: ds)
    (hlimit : Numeral.limit < ds.length) : parse text = .error (.overlong ⟨ds.length⟩) := by
  have hread : Numeral.read ds = .error ⟨ds.length⟩ := Numeral.read_eq_error_iff.mpr ⟨hlimit, rfl⟩
  rw [parse_of_known hstyle htext, if_pos hds, hread]

/-- **A text is read exactly if it spells a signature**, blanks around it apart. -/
theorem parse_eq_ok_iff : parse text = .ok s ↔ Spells (trim text) s := by
  constructor
  · intro h
    rcases parse_cases text with hu | ⟨style, ds, hstyle, hds, htext⟩ | herror
    · rw [parse, hu] at h
      obtain rfl := Except.ok.inj h
      exact hu ▸ .unknown
    · rcases Nat.lt_or_ge Numeral.limit ds.length with hlimit | hlimit
      · rw [parse_of_overlong hstyle hds htext hlimit] at h
        cases h
      · have hread : Numeral.read ds = .ok (Numeral.value ds) :=
          Numeral.read_eq_ok_iff.mpr ⟨hlimit, rfl⟩
        rw [parse_of_known hstyle htext, if_pos hds, hread] at h
        obtain rfl := Except.ok.inj h
        exact htext ▸ .known hstyle hds hlimit
    · rw [herror] at h
      cases h
  · generalize htext : trim text = t
    intro h
    cases h with
    | unknown =>
      rw [parse, htext]
      rfl
    | known hstyle hds hlimit =>
      rw [parse_of_known hstyle htext, if_pos hds, Numeral.read_eq_ok_iff.mpr ⟨hlimit, rfl⟩]

/-! ## Writing -/

/-- A verdict whose width is written in digits within the limit. -/
structure IsReadable (s : Signature) : Prop where
  isVerdict : s.IsVerdict
  length_le : (decimal s.width).length ≤ Numeral.limit

/-- What is written for the value of a numeral is the numeral, but for the scripts of the digits behind
the first. -/
theorem exists_decimal_value {ds : List Char} (h : isWidthNumeral ds = true) :
    0 < Numeral.value ds ∧ ∃ d rest es, ds = d :: rest ∧
      decimal (Numeral.value ds) = d :: es ∧ List.Forall₂ Numeral.SameDigit rest es := by
  cases ds with
  | nil => cases h
  | cons d rest =>
    obtain ⟨hdigit, hzero, hrest⟩ := isWidthNumeral_cons.mp h
    obtain ⟨es, hsame, hwritten⟩ := Numeral.exists_toDigits_value hdigit hzero hrest
    refine ⟨Nat.pos_of_ne_zero fun hvalue => ?_, d, rest, es, rfl, ?_, hsame⟩
    · rw [hvalue] at hwritten
      exact hzero (List.cons.inj hwritten).1.symm
    · rw [decimal, if_neg (by omega), Int.toNat_natCast, hwritten]

theorem IsVerdict.isDigit_of_mem_drop_render (h : s.IsVerdict) :
    ∀ c ∈ s.render.drop 2, c.isDigit = true := by
  intro c hc
  rcases h with rfl | hknown
  · cases hc
  · obtain ⟨d, ds, hrender, -, -, hdigits⟩ := hknown.exists_render
    rw [hrender] at hc
    exact hdigits c (List.mem_cons_of_mem d hc)

/-- The written signature spells it, in whatever scripts the digits behind the first are. -/
theorem Known.spells (h : s.Known) (hlimit : (decimal s.width).length ≤ Numeral.limit)
    {rest : List Char} (hrest : List.Forall₂ Numeral.SameDigit rest (s.render.drop 2)) :
    Spells (s.render.take 2 ++ rest) s := by
  obtain ⟨d, ds, hrender, hdecimal, hzero, hdigits⟩ := h.exists_render
  rw [hrender] at hrest
  have hd := hdigits d List.mem_cons_self
  have hsame : List.Forall₂ Numeral.SameDigit (d :: rest) (d :: ds) :=
    .cons (Numeral.sameDigit_self hd) hrest
  have hnumeral : isWidthNumeral (d :: rest) = true :=
    isWidthNumeral_cons.mpr ⟨hd, hzero, Numeral.forall_isDigit_of_sameDigit hrest⟩
  have hvalue : s = ⟨s.style, Numeral.value (d :: rest)⟩ := by
    have hwidth := h.width_pos
    rw [decimal, if_neg (by omega)] at hdecimal
    have hnat : Numeral.value (d :: rest) = s.width.toNat := by
      rw [Numeral.value_congr hsame, ← hdecimal, Numeral.value_toDigits]
    rw [hnat, Int.toNat_of_nonneg (by omega)]
  have hlength : (d :: rest).length ≤ Numeral.limit := by
    rw [hsame.length_eq, ← hdecimal]
    exact hlimit
  rw [hrender, hvalue]
  exact .known h.style_ne_unknown hnumeral hlength

/-- **A text spells a signature exactly if it is what is written for it**, but for the scripts of the
digits behind the first. -/
theorem spells_iff : Spells t s ↔ s.IsReadable ∧ t.take 2 = s.render.take 2 ∧
    List.Forall₂ Numeral.SameDigit (t.drop 2) (s.render.drop 2) := by
  constructor
  · intro h
    cases h with
    | unknown => exact ⟨⟨.inl rfl, by decide⟩, rfl, .nil⟩
    | @known style ds hstyle hds hlimit =>
      obtain ⟨hpos, d, rest, es, rfl, hdecimal, hsame⟩ := exists_decimal_value hds
      have hknown : (Signature.mk style (Numeral.value (d :: rest))).Known :=
        .of_pos hstyle (Int.natCast_pos.mpr hpos)
      rw [render_of_known hknown.isUnknown_eq_false, hdecimal]
      refine ⟨⟨.inr hknown, ?_⟩, rfl, hsame⟩
      rw [hdecimal, List.length_cons, ← hsame.length_eq]
      exact hlimit
  · rintro ⟨⟨hverdict, hlimit⟩, htake, hdrop⟩
    rw [← List.take_append_drop 2 t, htake]
    rcases hverdict with rfl | hknown
    · rw [List.forall₂_nil_right_iff.mp hdrop]
      exact .unknown
    · exact hknown.spells hlimit hdrop

/-- What is written for a signature spells it. -/
theorem IsReadable.spells_render (h : s.IsReadable) : Spells s.render s := by
  refine spells_iff.mpr ⟨h, rfl, List.forall₂_same.mpr fun c hc => ?_⟩
  exact Numeral.sameDigit_self (h.isVerdict.isDigit_of_mem_drop_render c hc)

/-- Where all digits are ASCII digits, a text spells only what it is written for. -/
theorem spells_iff_of_ascii (ht : ∀ c ∈ t, isDigit c = true → c.isDigit = true) :
    Spells t s ↔ s.IsReadable ∧ t = s.render := by
  constructor
  · intro h
    obtain ⟨hreadable, htake, hdrop⟩ := spells_iff.mp h
    have hdigits : ∀ c ∈ t.drop 2, c.isDigit = true := fun c hc =>
      ht c (List.mem_of_mem_drop hc) (Numeral.forall_isDigit_of_sameDigit hdrop c hc)
    have hwritten := hreadable.isVerdict.isDigit_of_mem_drop_render
    refine ⟨hreadable, ?_⟩
    rw [← List.take_append_drop 2 t, htake, Numeral.eq_of_sameDigit hdrop hdigits hwritten,
      List.take_append_drop]
  · rintro ⟨hreadable, rfl⟩
    exact hreadable.spells_render

/-! ## Reading what is written -/

/-- No character of a written signature is a blank. -/
theorem IsVerdict.not_blank_render (h : s.IsVerdict) : ∀ c ∈ s.render, isBlank c = false := by
  have hletter : isBlank s.style.letter = false := by cases s.style <;> decide
  intro c hc
  rcases h with rfl | hknown
  · rw [List.mem_singleton.mp hc]
    exact hletter
  · obtain ⟨d, ds, hrender, -, -, hdigits⟩ := hknown.exists_render
    rw [hrender] at hc
    rcases List.mem_cons.mp hc with rfl | hc
    · exact hletter
    · exact Numeral.isBlank_of_isDigit (hdigits c hc)

/-- **What is written for a signature is read back**, whatever blanks are put around it. -/
theorem IsReadable.parse_append_render (h : s.IsReadable) {b e : List Char}
    (hb : ∀ c ∈ b, isBlank c = true) (he : ∀ c ∈ e, isBlank c = true) :
    parse (b ++ s.render ++ e) = .ok s := by
  have hblank := h.isVerdict.not_blank_render
  have hne : s.render ≠ [] := by
    unfold render
    split <;> exact List.cons_ne_nil _ _
  have htrim : trim (b ++ (s.render ++ e)) = s.render :=
    trim_append_of_blank hb he hne (fun c hc => hblank c (List.mem_of_head? hc))
      fun c hc => hblank c (List.mem_of_getLast? hc)
  rw [List.append_assoc, parse_eq_ok_iff, htrim]
  exact h.spells_render

theorem IsReadable.parse_render (h : s.IsReadable) : parse s.render = .ok s := by
  have hparse := h.parse_append_render (b := []) (e := []) (by simp) (by simp)
  rwa [List.nil_append, List.append_nil] at hparse

theorem IsReadable.parse_toString (h : s.IsReadable) : parse s.toString.toList = .ok s := by
  rw [toString, String.toList_ofList, h.parse_render]

/-- No two signatures that are read back are written alike. -/
theorem IsReadable.eq_of_render_eq {s' : Signature} (h : s.IsReadable) (h' : s'.IsReadable)
    (hrender : s.render = s'.render) : s = s' := by
  have hparse := h.parse_render
  rw [hrender, h'.parse_render] at hparse
  exact (Except.ok.inj hparse).symm

/--
**What is read as a signature is what is written for it**, but for the scripts of the digits behind the
first.

So a text in which all digits are ASCII digits is read exactly if it was written for a signature, blanks
around it apart. Every other text is refused: as no signature, or because its numeral is too long.
-/
theorem parse_iff_written (text : List Char) (s : Signature) :
    (parse text = .ok s ↔ s.IsReadable ∧ (trim text).take 2 = s.render.take 2 ∧
      List.Forall₂ Numeral.SameDigit ((trim text).drop 2) (s.render.drop 2)) ∧
    ((∀ c ∈ text, isDigit c = true → c.isDigit = true) →
      (parse text = .ok s ↔ s.IsReadable ∧ trim text = s.render)) ∧
    ((∀ s, parse text ≠ .ok s) → parse text = .error (.notASignature text) ∨
      ∃ (style : Style) (ds : List Char), trim text = style.letter :: ds ∧
        isWidthNumeral ds = true ∧ Numeral.limit < ds.length ∧
        parse text = .error (.overlong ⟨ds.length⟩)) := by
  refine ⟨?_, fun hascii => ?_, fun hrefused => ?_⟩
  · rw [parse_eq_ok_iff, spells_iff]
  · rw [parse_eq_ok_iff, spells_iff_of_ascii]
    exact fun c hc => hascii c ((isInfix_trim text).subset hc)
  · rcases parse_cases text with hu | ⟨style, ds, hstyle, hds, htext⟩ | herror
    · exact absurd (parse_eq_ok_iff.mpr (hu ▸ .unknown)) (hrefused unknown)
    · refine .inr ⟨style, ds, htext, hds, ?_⟩
      rcases Nat.lt_or_ge Numeral.limit ds.length with hlimit | hlimit
      · exact ⟨hlimit, parse_of_overlong hstyle hds htext hlimit⟩
      · have hspells : Spells (trim text) ⟨style, Numeral.value ds⟩ :=
          htext ▸ Spells.known hstyle hds hlimit
        exact absurd (parse_eq_ok_iff.mpr hspells) (hrefused _)
    · exact .inl herror

/-- A width of two digits between blanks, and one that starts with zero. -/
theorem parse_iff_written_ten :
    (∀ c ∈ "\tm10\r\n".toList, isDigit c = true → c.isDigit = true) ∧
      parse "\tm10\r\n".toList = .ok (.mixed 10) ∧
      (∀ s, parse "s04".toList ≠ .ok s) ∧
      parse "s04".toList = .error (.notASignature "s04".toList) := by
  have hascii : ∀ c ∈ "\tm10\r\n".toList, isDigit c = true → c.isDigit = true :=
    forall_mem_of_all (by decide +kernel)
  have hwidth : (decimal (mixed 10).width).length = 2 := by cbv
  have hreadable : (mixed 10).IsReadable :=
    ⟨.inr (.of_pos (by decide) (by decide)), hwidth ▸ by decide⟩
  have hrefused : ∀ s, parse "s04".toList ≠ .ok s := by
    intro s h
    have hparse : parse "s04".toList = .error (.notASignature "s04".toList) := by cbv
    rw [hparse] at h
    cases h
  refine ⟨hascii, ?_, hrefused, ?_⟩
  · exact ((parse_iff_written _ _).2.1 hascii).mpr ⟨hreadable, by cbv⟩
  · refine ((parse_iff_written _ (.spaces 4)).2.2 hrefused).resolve_right ?_
    rintro ⟨style, ds, htext, hds, -⟩
    have htrim : trim "s04".toList = 's' :: "04".toList := by cbv
    rw [← (List.cons.inj (htrim.symm.trans htext)).2] at hds
    cases hds

/-- A text that is read and was not written: the Arabic digit three stands for the ASCII one. -/
theorem parse_digit_of_other_script :
    parse "s1\u0663".toList = .ok (.spaces 13) ∧
      trim "s1\u0663".toList ≠ (spaces 13).render :=
  ⟨by decide +kernel, by decide +kernel⟩

end Indentation.Signature
