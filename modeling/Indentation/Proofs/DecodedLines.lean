import Indentation.Proofs.AsciiBytes
import Indentation.Proofs.Line

/-!
# Lines of decoded text

Bytes can be divided into lines before they are decoded or after. The rules that divide a text speak of
the characters that end a line and of those that indent it, and of nothing else, so they are rules for
bytes as well (`divided`). As all these characters are ASCII, what is well formed around them and what
is not makes no difference: no line is merged or split and no line is indented otherwise.

## Main statements

* `eq_map_stretches` — what is given line by line is given by the lines
* `ofText_eq_divided` — the lines of a text, by the rules for any list
* `splitLines_decode` — the lines of decoded text are the decoded lines
* `ofText_decode` — bytes are read like the text that they stand for, each line by itself
-/

namespace Indentation.Line

open Text

/-! ## Lines of any list -/

section Stretches

variable {α : Type} (ends indents : α → Bool)

theorem length_behind_stretch_lt {s : List α} (hs : s ≠ []) :
    ((s.dropWhile (!ends ·)).dropWhile ends).length < s.length := by
  obtain ⟨a, s, rfl⟩ := List.exists_cons_of_ne_nil hs
  have hle : ∀ (p : α → Bool) (t : List α), (t.dropWhile p).length ≤ t.length :=
    fun p t => (List.dropWhile_sublist p).length_le
  rw [List.length_cons, Nat.lt_succ_iff]
  cases ha : ends a with
  | true =>
    rw [List.dropWhile_cons_of_neg (by simp [ha]), List.dropWhile_cons_of_pos ha]
    exact hle ends s
  | false =>
    rw [List.dropWhile_cons_of_pos (by simp [ha])]
    exact (hle _ _).trans (hle _ _)

/-- The stretches of a list between maximal runs of what ends one. The last stretch counts if it is not
empty, and the first one does in any case. -/
def stretches (s : List α) : List (List α) :=
  if _h : s = [] then []
  else s.takeWhile (!ends ·) :: stretches ((s.dropWhile (!ends ·)).dropWhile ends)
termination_by s.length
decreasing_by exact length_behind_stretch_lt ends _h

/-- The stretches of a list, each divided into what indents it at its start and the rest. -/
def divided (s : List α) : List (List α × List α) :=
  (stretches ends s).map fun l => (l.takeWhile indents, l.dropWhile indents)

variable {ends} {l e t : List α} {β : Type}

/-- Behind a stretch stands what ends one, or nothing. -/
theorem ends_behind (he : ∀ a ∈ e, ends a = true) (hend : e = [] → t = []) :
    ∀ a ∈ (e ++ t).head?, ends a = true := by
  intro a ha
  cases e with
  | nil =>
    rw [hend rfl] at ha
    cases ha
  | cons b e =>
    obtain rfl : b = a := Option.some.inj ha
    exact he b List.mem_cons_self

theorem stretches_append (hl : ∀ a ∈ l, ends a = false) (he : ∀ a ∈ e, ends a = true)
    (ht : ∀ a ∈ t.head?, ends a = false) (hend : e = [] → l ≠ [] ∧ t = []) :
    stretches ends (l ++ (e ++ t)) = l :: stretches ends t := by
  have hne : l ++ (e ++ t) ≠ [] := by
    intro hnil
    obtain ⟨hl, hrest⟩ := List.append_eq_nil_iff.mp hnil
    exact (hend (List.append_eq_nil_iff.mp hrest).1).1 hl
  have hstretch : ∀ a ∈ l, (!ends a) = true := fun a ha => by rw [hl a ha]; rfl
  have hbehind : ∀ a ∈ (e ++ t).head?, (!ends a) = false := fun a ha => by
    rw [ends_behind he (fun hnil => (hend hnil).2) a ha]
    rfl
  rw [stretches, dif_neg hne, takeWhile_append_of_head? hstretch hbehind,
    dropWhile_append_of_head? hstretch hbehind, dropWhile_append_of_head? he ht]

/-- **What is given stretch by stretch is given by the stretches.** -/
theorem eq_map_stretches {F : List α → List β} {f : List α → β} (hnil : F [] = [])
    (hcons : ∀ l e t, (∀ a ∈ l, ends a = false) → (∀ a ∈ e, ends a = true) →
      (∀ a ∈ t.head?, ends a = false) → (e = [] → l ≠ [] ∧ t = []) → F (l ++ (e ++ t)) = f l :: F t)
    (s : List α) : F s = (stretches ends s).map f := by
  induction hn : s.length using Nat.strongRecOn generalizing s with
  | ind n ih =>
    by_cases hs : s = []
    · rw [hs, hnil, stretches, dif_pos rfl, List.map_nil]
    obtain ⟨l, x, hl, hx, rfl⟩ := exists_run (!ends ·) s
    obtain ⟨e, t, he, ht, rfl⟩ := exists_run ends x
    simp only [Bool.not_eq_true', Bool.not_eq_false'] at hl hx
    have hend : e = [] → l ≠ [] ∧ t = [] := by
      rintro rfl
      have ht : t = [] := by
        cases t with
        | nil => rfl
        | cons a t =>
          have ha := ht a rfl
          rw [hx a rfl] at ha
          cases ha
      refine ⟨fun hl => hs ?_, ht⟩
      rw [hl, ht]
      rfl
    have hlt : t.length < n := by
      have hpos : 0 < l.length + e.length := by
        by_contra hzero
        have hlength : l.length = 0 ∧ e.length = 0 := by omega
        exact (hend (List.eq_nil_of_length_eq_zero hlength.2)).1
          (List.eq_nil_of_length_eq_zero hlength.1)
      rw [← hn, List.length_append, List.length_append]
      omega
    rw [hcons l e t hl he ht hend, stretches_append hl he ht hend, List.map_cons,
      ih t.length hlt t rfl]

end Stretches

/-! ## Lines of texts -/

/-- A line with its line breaks stands in front of the other lines. -/
theorem splitLines_stretch {l e t : List Char} (hl : ∀ c ∈ l, isEol c = false)
    (he : ∀ c ∈ e, isEol c = true) (ht : ∀ c ∈ t.head?, isEol c = false)
    (hend : e = [] → l ≠ [] ∧ t = []) : splitLines (l ++ (e ++ t)) = l :: splitLines t := by
  by_cases hnil : e = []
  · obtain ⟨hne, rfl⟩ := hend hnil
    rw [hnil, List.append_nil, List.append_nil, splitLines_of_not_eol hne hl]
    rfl
  · exact splitLines_append_breaks_append hl hnil he ht

theorem splitLines_eq_stretches (text : List Char) : splitLines text = stretches isEol text := by
  rw [eq_map_stretches (F := splitLines) (f := id) rfl fun l e t => splitLines_stretch, List.map_id]

/-- **The lines of a text, by the rules for any list.** -/
theorem ofText_eq_divided (text : List Char) :
    ofText text = (divided isEol isIndent text).map fun l => ⟨l.1, l.2⟩ := by
  rw [ofText, divided, splitLines_eq_stretches, List.map_map]
  rfl

/-! ## Lines of bytes -/

/-- The bytes that end a line. -/
def isEolByte (b : UInt8) : Bool := b == 0x0D || b == 0x0A

/-- The bytes that indent a line. -/
def isIndentByte (b : UInt8) : Bool := b == 0x20 || b == 0x09

theorem sameAscii_eol : Utf8.SameAscii isEolByte isEol :=
  Utf8.sameAscii_pair (x := 0x0D) (y := 0x0A) (by decide) (by decide)

theorem sameAscii_indent : Utf8.SameAscii isIndentByte isIndent :=
  Utf8.sameAscii_pair (x := 0x20) (y := 0x09) (by decide) (by decide)

/-- **The lines of decoded text are the decoded lines.** -/
theorem splitLines_decode (bytes : List UInt8) :
    splitLines (Utf8.decode bytes) = (stretches isEolByte bytes).map Utf8.decode := by
  refine eq_map_stretches (F := fun bytes => splitLines (Utf8.decode bytes)) rfl ?_ bytes
  intro l e t hl he ht hend
  have hbreak : ∀ b ∈ (e ++ t).head?, b.toNat < 0x80 := fun b hb =>
    sameAscii_eol.byte b (ends_behind he (fun hnil => (hend hnil).2) b hb)
  have hpieces : Utf8.decode (l ++ (e ++ t))
      = Utf8.decode l ++ (e.map Utf8.asciiChar ++ Utf8.decode t) := by
    rw [Utf8.decode_append l hbreak,
      Utf8.decode_ascii_append fun b hb => sameAscii_eol.byte b (he b hb)]
  show splitLines (Utf8.decode (l ++ (e ++ t))) = _
  rw [hpieces]
  refine splitLines_stretch (sameAscii_eol.not_mem_decode hl) (sameAscii_eol.mem_map he)
    (sameAscii_eol.head_decode ht) fun hnil => ?_
  obtain ⟨hne, rfl⟩ := hend (List.map_eq_nil_iff.mp hnil)
  exact ⟨Utf8.decode_ne_nil hne, rfl⟩

/-- Indentation stays as it is, and what follows it is decoded by itself. -/
theorem ofChars_decode (l : List UInt8) : ofChars (Utf8.decode l)
    = ⟨(l.takeWhile isIndentByte).map Utf8.asciiChar, Utf8.decode (l.dropWhile isIndentByte)⟩ := by
  obtain ⟨a, x, ha, hx, rfl⟩ := exists_run isIndentByte l
  rw [takeWhile_append_of_head? ha hx, dropWhile_append_of_head? ha hx,
    Utf8.decode_ascii_append fun b hb => sameAscii_indent.byte b (ha b hb)]
  exact ofChars_append (sameAscii_indent.mem_map ha) (sameAscii_indent.head_decode hx)

/--
**Bytes are read like the text that they stand for, each line by itself.**

The rules that divide a text into lines divide the bytes, whatever they are. The indentation of a line
stays as it is, and the rest of it is decoded by itself.
-/
theorem ofText_decode :
    (∀ text : List Char, ofText (Utf8.decode (Utf8.encode text)) = ofText text) ∧
    (∀ text : List Char, ofText text = (divided isEol isIndent text).map fun l => ⟨l.1, l.2⟩) ∧
    ∀ bytes : List UInt8, ofText (Utf8.decode bytes)
      = (divided isEolByte isIndentByte bytes).map fun l =>
          ⟨l.1.map Utf8.asciiChar, Utf8.decode l.2⟩ := by
  refine ⟨fun text => by rw [Utf8.decode_encode], ofText_eq_divided, fun bytes => ?_⟩
  rw [ofText, divided, splitLines_decode, List.map_map, List.map_map]
  exact List.map_congr_left fun l _ => ofChars_decode l

end Indentation.Line
