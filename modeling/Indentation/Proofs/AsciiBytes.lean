import Indentation.Proofs.Text
import Indentation.Proofs.Utf8
import Mathlib

/-!
# ASCII bytes in decoded text

Whatever bytes are decoded, the ASCII bytes among them are read as themselves: none is taken up by a
character or by a fault that stands around it, and no ASCII character comes from other bytes.

Behind any bytes the character that is open, if there is one, is one that only bytes from `0x80` on go
on with, and all that can come of it are characters beyond ASCII (`Partial.IsWide`). It is so when a
byte opens it and stays so with every byte that goes on with it.

## Main statements

* `decode_append` — text is decoded piece by piece if the next piece starts with an ASCII byte
* `decode_ascii_append` — ASCII bytes are read as themselves, whatever follows them
* `exists_byte_of_mem_decode` — no ASCII character comes from other bytes
* `SameAscii.head_decode` — which class of ASCII characters decoded text starts with
-/

namespace Indentation.Text.Utf8

/-- The character of an ASCII byte. -/
def asciiChar (b : UInt8) : Char := Char.ofNat b.toNat

variable {p : Partial} {b : UInt8} {c : Char} {d : Decoder}

theorem toNat_asciiChar (b : UInt8) : (asciiChar b).toNat = b.toNat := by
  have hlt : b.toNat < 256 := b.toNat_lt
  rw [asciiChar, Char.toNat_ofNat, if_pos (.inl (by omega))]

/-! ## Open characters -/

section Codes

variable {bits owed least greatest code : Nat} {bytes : List UInt8}

theorem Completes.exists_last (h : Completes ⟨bits, 1, least, greatest⟩ bytes code) :
    ∃ n, least ≤ n ∧ n ≤ greatest ∧ code = bits * 64 + (n - 0x80) := by
  cases h with
  | @last _ b howed hb => exact ⟨b.toNat, hb.1, hb.2, rfl⟩
  | more howed => exact absurd howed (Nat.lt_irrefl 1)

theorem Completes.exists_next (h : Completes ⟨bits, owed + 2, least, greatest⟩ bytes code) :
    ∃ n bytes, least ≤ n ∧ n ≤ greatest ∧
      Completes ⟨bits * 64 + (n - 0x80), owed + 1, 0x80, 0xBF⟩ bytes code := by
  cases h with
  | last howed => exact absurd howed (by simp)
  | @more _ b bytes _ howed hb h => exact ⟨b.toNat, bytes, hb.1, hb.2, h⟩

end Codes

/-- An open character that goes on with no ASCII byte and becomes no ASCII character. -/
structure Partial.IsWide (p : Partial) : Prop where
  continuing : p.Continuing
  owed : 1 ≤ p.owed
  code : ∀ {bytes code}, Completes p bytes code → 0x80 ≤ code ∧ code.isValidChar

/-- The bytes that open a character. -/
theorem bounds_of_lead (h : lead b = .opens p) : 0xC2 ≤ b.toNat ∧ b.toNat ≤ 0xF4 := by
  unfold lead at h
  simp only [beq_iff_eq] at h
  split_ifs at h <;> omega

/-- A byte that opens a character opens one beyond ASCII. -/
theorem isWide_of_lead (h : lead b = .opens p) : p.IsWide := by
  obtain ⟨hlow, hhigh⟩ := bounds_of_lead h
  by_cases h2 : b.toNat < 0xE0
  · rw [lead_of_two hlow h2] at h
    obtain rfl := Lead.opens.inj h
    refine ⟨Nat.le_refl _, Nat.le_refl _, fun hc => ?_⟩
    obtain ⟨n, hn, hn', hcode⟩ := hc.exists_last
    exact ⟨by omega, .inl (by omega)⟩
  by_cases h3 : b.toNat < 0xF0
  · rw [lead_of_three (by omega) h3] at h
    obtain rfl := Lead.opens.inj h
    refine ⟨?_, by simp, fun hc => ?_⟩
    · show 0x80 ≤ if b.toNat = 0xE0 then 0xA0 else 0x80
      split <;> omega
    · obtain ⟨n, bytes, hn, hn', hc⟩ := hc.exists_next
      obtain ⟨m, hm, hm', hcode⟩ := hc.exists_last
      constructor
      · split at hn <;> omega
      · unfold Nat.isValidChar
        split at hn <;> split at hn' <;> omega
  · rw [lead_of_four (by omega) hhigh] at h
    obtain rfl := Lead.opens.inj h
    refine ⟨?_, by simp, fun hc => ?_⟩
    · show 0x80 ≤ if b.toNat = 0xF0 then 0x90 else 0x80
      split <;> omega
    · obtain ⟨n, bytes, hn, hn', hc⟩ := hc.exists_next
      obtain ⟨m, bytes, hm, hm', hc⟩ := hc.exists_next
      obtain ⟨k, hk, hk', hcode⟩ := hc.exists_last
      constructor
      · split at hn <;> omega
      · unfold Nat.isValidChar
        split at hn <;> split at hn' <;> omega

/-- A wide character that is open stays wide until it is complete. -/
theorem Partial.IsWide.next (hp : p.IsWide) (hb : p.Admits b) (howed : 1 < p.owed) :
    Partial.IsWide ⟨p.bitsWith b, p.owed - 1, 0x80, 0xBF⟩ where
  continuing := Nat.le_refl _
  owed := Nat.le_sub_one_of_lt howed
  code h := hp.code (.more howed hb h)

theorem Partial.IsWide.le_toNat (hp : p.IsWide) (hb : p.Admits b) (howed : p.owed ≤ 1) :
    0x80 ≤ (Char.ofNat (p.bitsWith b)).toNat := by
  obtain ⟨hle, hvalid⟩ := hp.code (.last (Nat.le_antisymm howed hp.owed) hb)
  rwa [Char.toNat_ofNat, if_pos hvalid]

/-! ## What a byte adds -/

/-- The decoder is between characters, or in one beyond ASCII. -/
def Decoder.IsWide (d : Decoder) : Prop := ∀ p ∈ d.pending, p.IsWide

theorem isWide_none (reversed : List Char) : Decoder.IsWide ⟨reversed, none⟩ := fun _ h => by cases h

theorem isWide_begin (reversed : List Char) (b : UInt8) : (Decoder.begin reversed b).IsWide := by
  unfold Decoder.begin
  split
  · exact isWide_none _
  · next hlead =>
    rintro p ⟨⟩
    exact isWide_of_lead hlead
  · exact isWide_none _

/-- **No byte opens a character that could become an ASCII one.** -/
theorem Decoder.IsWide.feed (hd : d.IsWide) (b : UInt8) : (d.feed b).IsWide := by
  obtain ⟨reversed, pending⟩ := d
  cases pending with
  | none => exact isWide_begin reversed b
  | some p =>
    have hp : p.IsWide := hd p rfl
    by_cases hb : p.Admits b
    · rw [feed_of_admits hb]
      split
      · exact isWide_none _
      · next howed =>
        intro q hq
        rw [← Option.some.inj hq]
        exact hp.next hb (Nat.lt_of_not_le howed)
    · rw [feed_of_not_admits hb]
      exact isWide_begin _ b

theorem Decoder.IsWide.foldl (hd : d.IsWide) (bytes : List UInt8) :
    (bytes.foldl Decoder.feed d).IsWide := by
  induction bytes generalizing d with
  | nil => exact hd
  | cons b bytes ih => exact ih (hd.feed b)

/-! ## Pieces of the bytes -/

section Pieces

variable {x y : List UInt8}

/-- What has been read decides nothing but what it is put in front of. -/
theorem begin_eq_append (reversed : List Char) (b : UInt8) :
    Decoder.begin reversed b =
      ⟨(Decoder.begin [] b).reversed ++ reversed, (Decoder.begin [] b).pending⟩ := by
  unfold Decoder.begin
  cases lead b <;> rfl

theorem feed_eq_append (reversed : List Char) (pending : Option Partial) (b : UInt8) :
    (⟨reversed, pending⟩ : Decoder).feed b =
      ⟨((⟨[], pending⟩ : Decoder).feed b).reversed ++ reversed,
        ((⟨[], pending⟩ : Decoder).feed b).pending⟩ := by
  cases pending with
  | none => exact begin_eq_append reversed b
  | some p =>
    by_cases hb : p.Admits b
    · rw [feed_of_admits hb, feed_of_admits hb]
      split <;> rfl
    · rw [feed_of_not_admits hb, feed_of_not_admits hb, begin_eq_append (replacement :: reversed),
        begin_eq_append [replacement], List.append_assoc, List.singleton_append]

theorem foldl_feed_eq_append (reversed : List Char) (pending : Option Partial)
    (bytes : List UInt8) :
    bytes.foldl Decoder.feed ⟨reversed, pending⟩ =
      ⟨(bytes.foldl Decoder.feed ⟨[], pending⟩).reversed ++ reversed,
        (bytes.foldl Decoder.feed ⟨[], pending⟩).pending⟩ := by
  induction bytes generalizing reversed pending with
  | nil => rfl
  | cons b bytes ih =>
    rw [List.foldl_cons, List.foldl_cons, feed_eq_append, ih,
      ih ((⟨[], pending⟩ : Decoder).feed b).reversed, List.append_assoc]

theorem finish_append (s reversed : List Char) (pending : Option Partial) :
    (⟨s ++ reversed, pending⟩ : Decoder).finish
      = reversed.reverse ++ (⟨s, pending⟩ : Decoder).finish := by
  cases pending <;> simp [Decoder.finish]

theorem finish_foldl_feed (reversed : List Char) (bytes : List UInt8) :
    (bytes.foldl Decoder.feed ⟨reversed, none⟩).finish = reversed.reverse ++ decode bytes := by
  rw [foldl_feed_eq_append, finish_append]
  rfl

/-- **An ASCII byte is read as itself, whatever stands around it.** -/
theorem decode_append_cons (hb : b.toNat < 0x80) (x y : List UInt8) :
    decode (x ++ b :: y) = decode x ++ asciiChar b :: decode y := by
  have hwide : (x.foldl Decoder.feed .start).IsWide := (isWide_none []).foldl x
  rw [decode, List.foldl_append, List.foldl_cons, feed_ascii hb fun p hp => (hwide p hp).continuing,
    finish_foldl_feed, List.reverse_cons, List.reverse_reverse, List.append_assoc,
    List.singleton_append]
  rfl

/-- Text is decoded piece by piece if the next piece starts with an ASCII byte. -/
theorem decode_append (x : List UInt8) (hy : ∀ b ∈ y.head?, b.toNat < 0x80) :
    decode (x ++ y) = decode x ++ decode y := by
  cases y with
  | nil => rw [decode_nil, List.append_nil, List.append_nil]
  | cons b y =>
    have hb : b.toNat < 0x80 := hy b rfl
    rw [decode_append_cons hb x, ← List.nil_append (b :: y), decode_append_cons hb [], decode_nil,
      List.nil_append]

/-- ASCII bytes are read as themselves, whatever follows them. -/
theorem decode_ascii_append (hx : ∀ b ∈ x, b.toNat < 0x80) (y : List UInt8) :
    decode (x ++ y) = x.map asciiChar ++ decode y := by
  induction x with
  | nil => rfl
  | cons b x ih =>
    obtain ⟨hb, hx⟩ := List.forall_mem_cons.mp hx
    have hcons := decode_append_cons hb [] (x ++ y)
    rw [decode_nil, List.nil_append, List.nil_append, ih hx] at hcons
    exact hcons

end Pieces

/-! ## Where characters come from -/

/-- Where a character may start, a byte is read as the character of its value, as a fault, or not
yet. -/
theorem mem_reversed_begin {reversed : List Char} (h : c ∈ (Decoder.begin reversed b).reversed) :
    c ∈ reversed ∨ c.toNat = b.toNat ∨ 0x80 ≤ c.toNat := by
  unfold Decoder.begin at h
  split at h
  · next e hlead =>
    rcases List.mem_cons.mp h with rfl | h
    · refine .inr (.inl ?_)
      unfold lead at hlead
      simp only [beq_iff_eq] at hlead
      split_ifs at hlead
      rw [← Lead.whole.inj hlead]
      exact toNat_asciiChar b
    · exact .inl h
  · exact .inl h
  · rcases List.mem_cons.mp h with rfl | h
    · exact .inr (.inr (by decide))
    · exact .inl h

theorem Decoder.IsWide.mem_reversed_feed (hd : d.IsWide) (h : c ∈ (d.feed b).reversed) :
    c ∈ d.reversed ∨ c.toNat = b.toNat ∨ 0x80 ≤ c.toNat := by
  obtain ⟨reversed, pending⟩ := d
  cases pending with
  | none => exact mem_reversed_begin h
  | some p =>
    by_cases hb : p.Admits b
    · rw [feed_of_admits hb] at h
      split at h
      · next howed =>
        rcases List.mem_cons.mp h with hc | h
        · rw [hc]
          exact .inr (.inr ((hd p rfl).le_toNat hb howed))
        · exact .inl h
      · exact .inl h
    · rw [feed_of_not_admits hb] at h
      rcases mem_reversed_begin h with h | h
      · rcases List.mem_cons.mp h with rfl | h
        · exact .inr (.inr (by decide))
        · exact .inl h
      · exact .inr h

theorem Decoder.IsWide.mem_reversed_foldl (hd : d.IsWide) {bytes : List UInt8}
    (h : c ∈ (bytes.foldl Decoder.feed d).reversed) :
    c ∈ d.reversed ∨ (∃ b ∈ bytes, c.toNat = b.toNat) ∨ 0x80 ≤ c.toNat := by
  induction bytes generalizing d with
  | nil => exact .inl h
  | cons b bytes ih =>
    rcases ih (hd.feed b) h with h | ⟨e, he, hc⟩ | hc
    · rcases hd.mem_reversed_feed h with h | hc | hc
      · exact .inl h
      · exact .inr (.inl ⟨b, List.mem_cons_self, hc⟩)
      · exact .inr (.inr hc)
    · exact .inr (.inl ⟨e, List.mem_cons_of_mem b he, hc⟩)
    · exact .inr (.inr hc)

/-- **No ASCII character comes from other bytes.** -/
theorem exists_byte_of_mem_decode {bytes : List UInt8} (h : c ∈ decode bytes) (hc : c.toNat < 0x80) :
    ∃ b ∈ bytes, c.toNat = b.toNat := by
  have hread : c ∈ (bytes.foldl Decoder.feed .start).reversed := by
    rw [decode] at h
    generalize bytes.foldl Decoder.feed .start = d at h
    obtain ⟨reversed, pending⟩ := d
    cases pending with
    | none => exact List.mem_reverse.mp h
    | some p =>
      rcases List.mem_cons.mp (List.mem_reverse.mp h) with rfl | h
      · exact absurd hc (by decide)
      · exact h
  rcases (isWide_none []).mem_reversed_foldl hread with hnil | hbyte | hwide
  · cases hnil
  · exact hbyte
  · omega

/-- No byte is read as nothing. -/
theorem finish_feed_ne_nil (d : Decoder) (b : UInt8) : (d.feed b).finish ≠ [] := by
  have hbegin : ∀ reversed, (Decoder.begin reversed b).finish ≠ [] := by
    intro reversed
    unfold Decoder.begin
    split <;> simp [Decoder.finish]
  obtain ⟨reversed, pending⟩ := d
  cases pending with
  | none => exact hbegin reversed
  | some p =>
    by_cases hb : p.Admits b
    · rw [feed_of_admits hb]
      split <;> simp [Decoder.finish]
    · rw [feed_of_not_admits hb]
      exact hbegin _

theorem decode_ne_nil {bytes : List UInt8} (h : bytes ≠ []) : decode bytes ≠ [] := by
  obtain ⟨front, b, rfl⟩ := List.eq_nil_or_concat' bytes |>.resolve_left h
  rw [decode, List.foldl_append]
  exact finish_feed_ne_nil _ b

/-! ## Classes of ASCII characters -/

/-- A class of bytes and a class of characters that are the same class of ASCII characters. -/
structure SameAscii (inBytes : UInt8 → Bool) (inChars : Char → Bool) : Prop where
  byte : ∀ b, inBytes b = true → b.toNat < 0x80
  char : ∀ c, inChars c = true → c.toNat < 0x80
  same : ∀ b, inChars (asciiChar b) = inBytes b

namespace SameAscii

variable {inBytes : UInt8 → Bool} {inChars : Char → Bool} {x : List UInt8}

theorem not_mem_decode (h : SameAscii inBytes inChars) (hx : ∀ b ∈ x, inBytes b = false) :
    ∀ c ∈ decode x, inChars c = false := by
  intro c hc
  by_contra hin
  obtain ⟨b, hb, hcode⟩ := exists_byte_of_mem_decode hc (h.char c (Bool.eq_true_of_not_eq_false hin))
  have hchar : asciiChar b = c := by rw [asciiChar, ← hcode, Char.ofNat_toNat]
  rw [← hchar, h.same, hx b hb] at hin
  exact hin rfl

theorem mem_map (h : SameAscii inBytes inChars) (hx : ∀ b ∈ x, inBytes b = true) :
    ∀ c ∈ x.map asciiChar, inChars c = true := by
  intro c hc
  obtain ⟨b, hb, rfl⟩ := List.mem_map.mp hc
  rw [h.same, hx b hb]

/-- **Decoded text starts with a character of the class only if the bytes start with one.** -/
theorem head_decode (h : SameAscii inBytes inChars) (hx : ∀ b ∈ x.head?, inBytes b = false) :
    ∀ c ∈ (decode x).head?, inChars c = false := by
  intro c hc
  -- up to the first byte of the class there is something, and it is decoded by itself
  obtain ⟨a, y, ha, hy, rfl⟩ := exists_run (!inBytes ·) x
  simp only [Bool.not_eq_true', Bool.not_eq_false'] at ha hy
  rw [decode_append a fun b hb => h.byte b (hy b hb)] at hc
  cases a with
  | nil =>
    cases y with
    | nil => cases hc
    | cons b y =>
      have hb := hy b rfl
      rw [hx b rfl] at hb
      cases hb
  | cons b a =>
    rw [List.head?_append_of_ne_nil _ (decode_ne_nil (List.cons_ne_nil b a))] at hc
    exact h.not_mem_decode ha c (List.mem_of_head? hc)

end SameAscii

theorem asciiChar_inj {x y : UInt8} : asciiChar x = asciiChar y ↔ x = y := by
  refine ⟨fun h => UInt8.toNat_inj.mp ?_, congrArg asciiChar⟩
  rw [← toNat_asciiChar x, h, toNat_asciiChar]

/-- Two ASCII bytes and their characters. -/
theorem sameAscii_pair {x y : UInt8} (hx : x.toNat < 0x80) (hy : y.toNat < 0x80) :
    SameAscii (fun b => b == x || b == y) (fun c => c == asciiChar x || c == asciiChar y) where
  byte b hb := by
    rcases Bool.or_eq_true_iff.mp hb with h | h
    · rwa [beq_iff_eq.mp h]
    · rwa [beq_iff_eq.mp h]
  char c hc := by
    rcases Bool.or_eq_true_iff.mp hc with h | h
    · rwa [beq_iff_eq.mp h, toNat_asciiChar]
    · rwa [beq_iff_eq.mp h, toNat_asciiChar]
  same b := by
    rw [Bool.eq_iff_iff]
    simp only [Bool.or_eq_true, beq_iff_eq, asciiChar_inj]

end Indentation.Text.Utf8
