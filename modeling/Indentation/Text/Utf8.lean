/-!
# UTF-8

Bytes are read as UTF-8 one at a time. A byte sequence that is not well formed is never refused:
each of its maximal subparts, the longest start of a character that the bytes carry, is read as one
replacement character.

The decoder is a state machine between bytes. Its state is the character that is open, with the
range that the next byte must lie in; that range is narrower than `0x80` to `0xBF` only after the
lead bytes `E0`, `ED`, `F0` and `F4`, which is what keeps overlong forms and surrogates out.

## Main statements

* `feed_ascii` — an ASCII byte closes what is open and is read as itself
-/

namespace Indentation.Text.Utf8

/-- What stands for bytes that are no character. -/
def replacement : Char := '\uFFFD'

/-- A character of which some bytes are still to come. -/
structure Partial where
  bits : Nat
  /-- The number of bytes to come. -/
  owed : Nat
  /-- The least value of the next byte. -/
  least : Nat
  /-- The greatest value of the next byte. -/
  greatest : Nat
  deriving DecidableEq, Repr

/-- What a byte says at the start of a character. -/
inductive Lead where
  | whole (c : Char)
  | opens (p : Partial)
  | none

/-- Reads the first byte of a character. -/
def lead (b : UInt8) : Lead :=
  let n := b.toNat
  if n < 0x80 then .whole (Char.ofNat n)
  else if n < 0xC2 then .none
  else if n < 0xE0 then .opens ⟨n - 0xC0, 1, 0x80, 0xBF⟩
  else if n == 0xE0 then .opens ⟨0, 2, 0xA0, 0xBF⟩
  else if n == 0xED then .opens ⟨0xD, 2, 0x80, 0x9F⟩
  else if n < 0xF0 then .opens ⟨n - 0xE0, 2, 0x80, 0xBF⟩
  else if n == 0xF0 then .opens ⟨0, 3, 0x90, 0xBF⟩
  else if n < 0xF4 then .opens ⟨n - 0xF0, 3, 0x80, 0xBF⟩
  else if n == 0xF4 then .opens ⟨4, 3, 0x80, 0x8F⟩
  else .none

/-- The decoder between two bytes. -/
structure Decoder where
  /-- The text read so far, last character first. -/
  reversed : List Char
  /-- The character that is open. -/
  pending : Option Partial

/-- The decoder before the first byte. -/
def Decoder.start : Decoder := ⟨[], none⟩

/-- Reads a byte where a character may start. -/
def Decoder.begin (reversed : List Char) (b : UInt8) : Decoder :=
  match lead b with
  | .whole c => ⟨c :: reversed, none⟩
  | .opens p => ⟨reversed, some p⟩
  | .none => ⟨replacement :: reversed, none⟩

/-- Reads one byte. A byte that does not go on with the open character replaces it and starts
anew. -/
def Decoder.feed (d : Decoder) (b : UInt8) : Decoder :=
  match d.pending with
  | none => Decoder.begin d.reversed b
  | some p =>
    if p.least ≤ b.toNat && b.toNat ≤ p.greatest then
      let bits := p.bits * 64 + (b.toNat - 0x80)
      if p.owed ≤ 1 then ⟨Char.ofNat bits :: d.reversed, none⟩
      else ⟨d.reversed, some ⟨bits, p.owed - 1, 0x80, 0xBF⟩⟩
    else Decoder.begin (replacement :: d.reversed) b

/-- The text that has been read when the bytes end here. -/
def Decoder.finish (d : Decoder) : List Char :=
  match d.pending with
  | none => d.reversed.reverse
  | some _ => (replacement :: d.reversed).reverse

/-- The text that bytes stand for. -/
def decode (bytes : List UInt8) : List Char := (bytes.foldl Decoder.feed .start).finish

/-- The bytes that stand for a text. -/
def encode (text : List Char) : List UInt8 := text.flatMap String.utf8EncodeChar

@[simp] theorem decode_nil : decode [] = [] := rfl

@[simp] theorem encode_append (s t : List Char) : encode (s ++ t) = encode s ++ encode t :=
  List.flatMap_append

/-! ## ASCII bytes -/

/-- No open character goes on with an ASCII byte. -/
def Partial.Continuing (p : Partial) : Prop := 0x80 ≤ p.least

/-- An ASCII byte closes what is open, and the decoder stands between characters. -/
theorem feed_ascii {d : Decoder} {b : UInt8} (hb : b.toNat < 0x80)
    (hd : ∀ p ∈ d.pending, p.Continuing) :
    d.feed b = ⟨Char.ofNat b.toNat :: d.finish.reverse, none⟩ := by
  have hl : lead b = .whole (Char.ofNat b.toNat) := by simp [lead, hb]
  obtain ⟨reversed, pending⟩ := d
  cases pending with
  | none => simp [Decoder.feed, Decoder.begin, Decoder.finish, hl]
  | some p =>
    have hp : 0x80 ≤ p.least := hd p rfl
    have hn : ¬ (p.least ≤ b.toNat) := by omega
    simp [Decoder.feed, Decoder.begin, Decoder.finish, hl, hn]

end Indentation.Text.Utf8
