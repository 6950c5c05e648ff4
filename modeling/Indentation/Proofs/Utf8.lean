import Indentation.Text.Utf8.Fault

/-!
# Encoded text is decoded

The bytes that stand for a text are well formed, and decoding them gives the text back.

The bytes of a character are one byte that is the character, or one that opens it and others that
complete it (`Completes`). Between two characters the decoder is where it started, so it is enough
to follow it through one of them.

## Main statements

* `decode_encode` — decoding gives back what was encoded
* `decodeStrict_encode` — and finds no fault in it
-/

namespace Indentation.Text.Utf8

/-! ## Bytes that complete a character -/

/-- Whether an open character goes on with a byte. -/
def Partial.Admits (p : Partial) (b : UInt8) : Prop := p.least ≤ b.toNat ∧ b.toNat ≤ p.greatest

/-- The bits of an open character with those of one more byte. -/
def Partial.bitsWith (p : Partial) (b : UInt8) : Nat := p.bits * 64 + (b.toNat - 0x80)

/-- Some bytes are all that is still to come of an open character, which then is a given code. -/
inductive Completes : Partial → List UInt8 → Nat → Prop where
  | last {p : Partial} {b : UInt8} (howed : p.owed = 1) (hb : p.Admits b) :
    Completes p [b] (p.bitsWith b)
  | more {p : Partial} {b : UInt8} {bytes : List UInt8} {code : Nat} (howed : 1 < p.owed)
    (hb : p.Admits b) (h : Completes ⟨p.bitsWith b, p.owed - 1, 0x80, 0xBF⟩ bytes code) :
    Completes p (b :: bytes) code

variable {p : Partial} {bytes rest : List UInt8} {code : Nat}

theorem Partial.Admits.decide {b : UInt8} (hb : p.Admits b) :
    (Decidable.decide (p.least ≤ b.toNat) && Decidable.decide (b.toNat ≤ p.greatest)) = true := by
  rw [Bool.and_eq_true, decide_eq_true hb.1, decide_eq_true hb.2]
  exact ⟨rfl, rfl⟩

theorem feed_of_admits {b : UInt8} (hb : p.Admits b) (reversed : List Char) :
    (⟨reversed, some p⟩ : Decoder).feed b =
      if p.owed ≤ 1 then ⟨Char.ofNat (p.bitsWith b) :: reversed, none⟩
      else ⟨reversed, some ⟨p.bitsWith b, p.owed - 1, 0x80, 0xBF⟩⟩ := by
  show (if _ then _ else _) = _
  rw [if_pos hb.decide]
  rfl

theorem feed_of_not_admits {b : UInt8} (hb : ¬p.Admits b) (reversed : List Char) :
    (⟨reversed, some p⟩ : Decoder).feed b = Decoder.begin (replacement :: reversed) b := by
  show (if _ then _ else _) = _
  rw [if_neg]
  rw [Bool.and_eq_true, decide_eq_true_eq, decide_eq_true_eq]
  exact hb

theorem Completes.foldl_feed (h : Completes p bytes code) (reversed : List Char) :
    bytes.foldl Decoder.feed ⟨reversed, some p⟩ = ⟨Char.ofNat code :: reversed, none⟩ := by
  induction h with
  | last howed hb =>
    rw [List.foldl_cons, feed_of_admits hb, if_pos (Nat.le_of_eq howed)]
    rfl
  | more howed hb _ ih =>
    rw [List.foldl_cons, feed_of_admits hb, if_neg (by omega)]
    exact ih

/-- No fault is found in bytes that complete a character. The bits that it has do not matter. -/
theorem Completes.findFault_append (h : Completes p bytes code) (position : Nat) (o : Opened)
    (howed : o.character.owed = p.owed) (hleast : o.character.least = p.least)
    (hgreatest : o.character.greatest = p.greatest) :
    findFault position (some o) (bytes ++ rest) = findFault (position + bytes.length) none rest := by
  induction h generalizing position o with
  | last howed' hb =>
    show (if _ then _ else _) = _
    rw [hleast, hgreatest, if_pos hb.decide, howed, if_pos (Nat.le_of_eq howed')]
    rfl
  | @more p b bytes code howed' hb _ ih =>
    show (if _ then _ else _) = _
    rw [hleast, hgreatest, if_pos hb.decide, howed, if_neg (by omega)]
    have hrest := ih (position + 1)
      { o with character := { o.character with owed := p.owed - 1, least := 0x80, greatest := 0xBF } }
      rfl rfl rfl
    rw [List.length_cons, Nat.add_comm bytes.length, ← Nat.add_assoc]
    exact hrest

theorem completes_last {bits least greatest : Nat} {b : UInt8}
    (hb : least ≤ b.toNat ∧ b.toNat ≤ greatest) (hcode : bits * 64 + (b.toNat - 0x80) = code) :
    Completes ⟨bits, 1, least, greatest⟩ [b] code := by
  subst hcode
  exact .last rfl hb

theorem completes_cons {bits owed least greatest : Nat} {b : UInt8}
    (hb : least ≤ b.toNat ∧ b.toNat ≤ greatest)
    (h : Completes ⟨bits * 64 + (b.toNat - 0x80), owed + 1, 0x80, 0xBF⟩ bytes code) :
    Completes ⟨bits, owed + 2, least, greatest⟩ (b :: bytes) code :=
  .more (Nat.le_add_left 2 owed) hb h

/-! ## The bytes of a character -/

variable {b : UInt8}

theorem lead_of_two (h : 0xC2 ≤ b.toNat) (h' : b.toNat < 0xE0) :
    lead b = .opens ⟨b.toNat - 0xC0, 1, 0x80, 0xBF⟩ := by
  have h1 : ¬ b.toNat < 0x80 := by omega
  have h2 : ¬ b.toNat < 0xC2 := by omega
  simp [lead, h1, h2, h']

theorem lead_of_three (h : 0xE0 ≤ b.toNat) (h' : b.toNat < 0xF0) :
    lead b = .opens ⟨b.toNat - 0xE0, 2, if b.toNat = 0xE0 then 0xA0 else 0x80,
      if b.toNat = 0xED then 0x9F else 0xBF⟩ := by
  have h1 : ¬ b.toNat < 0x80 := by omega
  have h2 : ¬ b.toNat < 0xC2 := by omega
  have h3 : ¬ b.toNat < 0xE0 := by omega
  by_cases hleast : b.toNat = 0xE0
  · simp [lead, hleast]
  by_cases hgreatest : b.toNat = 0xED
  · simp [lead, hgreatest]
  simp [lead, h1, h2, h3, h', hleast, hgreatest]

theorem lead_of_four (h : 0xF0 ≤ b.toNat) (h' : b.toNat ≤ 0xF4) :
    lead b = .opens ⟨b.toNat - 0xF0, 3, if b.toNat = 0xF0 then 0x90 else 0x80,
      if b.toNat = 0xF4 then 0x8F else 0xBF⟩ := by
  by_cases hleast : b.toNat = 0xF0
  · simp [lead, hleast]
  by_cases hgreatest : b.toNat = 0xF4
  · simp [lead, hgreatest]
  have h1 : ¬ b.toNat < 0x80 := by omega
  have h2 : ¬ b.toNat < 0xC2 := by omega
  have h3 : ¬ b.toNat < 0xE0 := by omega
  have h4 : b.toNat ≠ 0xE0 := by omega
  have h5 : b.toNat ≠ 0xED := by omega
  have h6 : ¬ b.toNat < 0xF0 := by omega
  have h7 : b.toNat < 0xF4 := by omega
  simp [lead, h1, h2, h3, h4, h5, h6, h7, hleast, hgreatest]

/-- The bytes of a character are one that is the character, or one that opens it and others that
complete it. -/
theorem utf8EncodeChar_cases (c : Char) :
    (∃ b, String.utf8EncodeChar c = [b] ∧ lead b = .whole c) ∨
      ∃ b p bytes, String.utf8EncodeChar c = b :: bytes ∧ lead b = .opens p ∧
        Completes p bytes c.toNat := by
  have hvalid : c.toNat < 0xD800 ∨ 0xDFFF < c.toNat ∧ c.toNat < 0x110000 := c.valid
  have hbyte : ∀ n, n < 256 → (UInt8.ofNat n).toNat = n := fun n hn => by
    rw [UInt8.toNat_ofNat', Nat.mod_eq_of_lt hn]
  have hcode : c.val.toNat = c.toNat := rfl
  rw [String.utf8EncodeChar.eq_def, hcode]
  generalize hv : c.toNat = v at hvalid
  dsimp only
  by_cases h1 : v ≤ 127
  · rw [if_pos h1]
    refine .inl ⟨_, rfl, ?_⟩
    have hb := hbyte v (by omega)
    have hlt : v < 0x80 := by omega
    rw [lead, hb, if_pos hlt, ← hv, Char.ofNat_toNat]
  rw [if_neg h1]
  refine .inr ?_
  by_cases h2 : v ≤ 2047
  · rw [if_pos h2]
    have hb0 := hbyte (v / 64 % 32 + 192) (by omega)
    have hb1 := hbyte (v % 64 + 128) (by omega)
    generalize UInt8.ofNat (v / 64 % 32 + 192) = b0 at hb0 ⊢
    generalize UInt8.ofNat (v % 64 + 128) = b1 at hb1 ⊢
    exact ⟨_, _, _, rfl, lead_of_two (by omega) (by omega), completes_last (by omega) (by omega)⟩
  rw [if_neg h2]
  by_cases h3 : v ≤ 65535
  · rw [if_pos h3]
    have hb0 := hbyte (v / 4096 % 16 + 224) (by omega)
    have hb1 := hbyte (v / 64 % 64 + 128) (by omega)
    have hb2 := hbyte (v % 64 + 128) (by omega)
    generalize UInt8.ofNat (v / 4096 % 16 + 224) = b0 at hb0 ⊢
    generalize UInt8.ofNat (v / 64 % 64 + 128) = b1 at hb1 ⊢
    generalize UInt8.ofNat (v % 64 + 128) = b2 at hb2 ⊢
    exact ⟨_, _, _, rfl, lead_of_three (by omega) (by omega), completes_cons
      ⟨by split <;> omega, by split <;> omega⟩ (completes_last (by omega) (by omega))⟩
  rw [if_neg h3]
  have hb0 := hbyte (v / 262144 % 8 + 240) (by omega)
  have hb1 := hbyte (v / 4096 % 64 + 128) (by omega)
  have hb2 := hbyte (v / 64 % 64 + 128) (by omega)
  have hb3 := hbyte (v % 64 + 128) (by omega)
  generalize UInt8.ofNat (v / 262144 % 8 + 240) = b0 at hb0 ⊢
  generalize UInt8.ofNat (v / 4096 % 64 + 128) = b1 at hb1 ⊢
  generalize UInt8.ofNat (v / 64 % 64 + 128) = b2 at hb2 ⊢
  generalize UInt8.ofNat (v % 64 + 128) = b3 at hb3 ⊢
  exact ⟨_, _, _, rfl, lead_of_four (by omega) (by omega), completes_cons
    ⟨by split <;> omega, by split <;> omega⟩
      (completes_cons (by omega) (completes_last (by omega) (by omega)))⟩

/-! ## Texts -/

/-- The decoder reads the bytes of a character as that character. -/
theorem foldl_feed_utf8EncodeChar (c : Char) (reversed : List Char) :
    (String.utf8EncodeChar c).foldl Decoder.feed ⟨reversed, none⟩ = ⟨c :: reversed, none⟩ := by
  rcases utf8EncodeChar_cases c with ⟨b, hbytes, hlead⟩ | ⟨b, p, bytes, hbytes, hlead, hrest⟩
  · rw [hbytes]
    simp [Decoder.feed, Decoder.begin, hlead]
  · have hopened : (⟨reversed, none⟩ : Decoder).feed b = ⟨reversed, some p⟩ := by
      simp [Decoder.feed, Decoder.begin, hlead]
    rw [hbytes, List.foldl_cons, hopened, hrest.foldl_feed, Char.ofNat_toNat]

theorem foldl_feed_encode (text reversed : List Char) :
    (encode text).foldl Decoder.feed ⟨reversed, none⟩ = ⟨text.reverse ++ reversed, none⟩ := by
  induction text generalizing reversed with
  | nil => rfl
  | cons c text ih =>
    rw [encode, List.flatMap_cons, List.foldl_append, foldl_feed_utf8EncodeChar]
    rw [encode] at ih
    rw [ih, List.reverse_cons, List.append_assoc, List.singleton_append]

/-- **Decoding gives back what was encoded.** -/
theorem decode_encode (text : List Char) : decode (encode text) = text := by
  rw [decode, Decoder.start, foldl_feed_encode, Decoder.finish, List.append_nil,
    List.reverse_reverse]

/-- No fault is found in the bytes of a character. -/
theorem findFault_utf8EncodeChar (c : Char) (position : Nat) (rest : List UInt8) :
    findFault position none (String.utf8EncodeChar c ++ rest)
      = findFault (position + (String.utf8EncodeChar c).length) none rest := by
  rcases utf8EncodeChar_cases c with ⟨b, hbytes, hlead⟩ | ⟨b, p, bytes, hbytes, hlead, hrest⟩
  · rw [hbytes, List.singleton_append, findFault]
    simp only [hlead, List.length_singleton]
  · rw [hbytes, List.cons_append, findFault]
    simp only [hlead]
    rw [hrest.findFault_append _ _ rfl rfl rfl, List.length_cons, Nat.add_comm bytes.length,
      ← Nat.add_assoc]

theorem findFault_encode (text : List Char) (position : Nat) :
    findFault position none (encode text) = none := by
  induction text generalizing position with
  | nil => rfl
  | cons c text ih =>
    rw [encode, List.flatMap_cons, findFault_utf8EncodeChar]
    exact ih _

/-- **Encoded text has no fault, and decoding it gives it back.** -/
theorem decodeStrict_encode (text : List Char) : decodeStrict (encode text) = .ok text := by
  rw [decodeStrict, findFault_encode, decode_encode]

end Indentation.Text.Utf8
