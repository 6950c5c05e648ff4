import Indentation.Text.CodingNames
import Indentation.Text.Utf8

/-!
# Encodings

The encodings in which a file may be read. None of them refuses a byte sequence: what cannot be
decoded becomes a replacement character.

## Main statements

* `Encoding.toOption_ofName` — every encoding is found by its names
* `unifyLineEnds_cons` — a carriage return vanishes into the line feed behind it
-/

namespace Indentation.Text

/-- How bytes stand for a text. -/
inductive Encoding where
  /-- UTF-8; a byte order mark is part of the text. -/
  | utf8
  /-- UTF-8; a byte order mark at the start is skipped. -/
  | utf8Signed
  /-- Each byte is the code point of its value. -/
  | latin1
  /-- Each byte below `0x80` is the code point of its value. -/
  | ascii
  /-- UTF-16, the low byte of each unit first. -/
  | utf16LittleEndian
  deriving DecidableEq, Repr

namespace Encoding

/-! ## Names -/

/-- Why a name gives no encoding. -/
inductive NameFault where
  /-- It holds a null character. -/
  | embeddedNul
  /-- Nothing goes by it. -/
  | unknown
  /-- What goes by it makes no text of bytes. -/
  | notText
  /-- The bytes of that encoding are not interpreted here. -/
  | uninterpreted
  deriving DecidableEq, Repr

/-- The message for a name that gives no encoding. -/
def NameFault.message (name : String) : NameFault → String
  | embeddedNul => "embedded null character"
  | unknown => s!"unknown encoding: {name}"
  | notText =>
    let shown := String.ofList (Utf8.decode ((Utf8.encode name.toList).take 400))
    s!"'{shown}' is not a text encoding; use codecs.open() to handle arbitrary codecs"
  | uninterpreted => s!"encoding not interpreted: {name}"

/-- All encodings. -/
def all : List Encoding := [utf8, utf8Signed, latin1, ascii, utf16LittleEndian]

/-- The names of an encoding. -/
def names : Encoding → CodingNames
  | utf8 => ⟨"utf_8", ["cp65001", "u8", "utf", "utf8", "utf8_ucs2", "utf8_ucs4"]⟩
  | utf8Signed => ⟨"utf_8_sig", []⟩
  | latin1 =>
    ⟨"latin_1", ["8859", "cp819", "csisolatin1", "ibm819", "iso8859", "iso8859_1", "iso_8859_1",
      "iso_8859_1_1987", "iso_ir_100", "l1", "latin", "latin1"]⟩
  | ascii =>
    ⟨"ascii", ["646", "ansi_x3.4_1968", "ansi_x3.4_1986", "ansi_x3_4_1968", "cp367", "csascii",
      "ibm367", "iso646_us", "iso_646.irv_1991", "iso_ir_6", "us", "us_ascii"]⟩
  | utf16LittleEndian => ⟨"utf_16_le", ["unicodelittleunmarked", "utf_16le"]⟩

/-- The encoding of a given name. The word `locale`, written in this way, names the encoding of the
system. -/
def ofName (name : String) : Except NameFault Encoding :=
  if name.toList.contains '\x00' then .error .embeddedNul
  else
    let normal := normalizeName name
    match all.find? fun e => e.names.has normal with
    | some e => .ok e
    | none =>
      if name == "locale" || otherEncodings.any (·.has normal) then .error .uninterpreted
      else if byteCodings.any (·.has normal) then .error .notText
      else .error .unknown

/-- Every encoding is found by its names. -/
theorem toOption_ofName (e : Encoding) :
    ∀ name ∈ e.names.name :: e.names.others, (ofName name).toOption = some e := by
  cases e <;> decide +kernel

/-! ## Sixteen-bit units -/

/-- A unit of UTF-16, or what is left of one when the bytes end within it. -/
inductive CodeUnit where
  | whole (u : Nat)
  | cut

/-- The units of two bytes each, the low byte first. -/
def littleEndianUnits (bytes : List UInt8) : List CodeUnit :=
  let pair (b : UInt8) (acc : Option UInt8 × List CodeUnit) : Option UInt8 × List CodeUnit :=
    match acc.1 with
    | none => (some b, acc.2)
    | some high => (none, .whole (b.toNat + 256 * high.toNat) :: acc.2)
  if bytes.length % 2 == 0 then (bytes.foldr pair (none, [])).2
  else (bytes.dropLast.foldr pair (none, [.cut])).2

/-- Text from units read last to first. -/
structure UnitReader where
  /-- The second half of a surrogate pair whose first half is still to come. -/
  low : Option Nat
  text : List Char

/-- The text when the unit before is no first half: a second half on its own is replaced. -/
def UnitReader.close (r : UnitReader) : List Char :=
  if r.low.isSome then Utf8.replacement :: r.text else r.text

/-- Reads the unit before those already read. -/
def UnitReader.before (unit : CodeUnit) (r : UnitReader) : UnitReader :=
  match unit with
  | .cut => ⟨none, Utf8.replacement :: r.close⟩
  | .whole u =>
    if 0xDC00 ≤ u && u < 0xE000 then ⟨some u, r.close⟩
    else if 0xD800 ≤ u && u < 0xDC00 then
      match r.low with
      | some v =>
        ⟨none, Char.ofNat (0x10000 + (u - 0xD800) * 0x400 + (v - 0xDC00)) :: r.text⟩
      | none => ⟨none, Utf8.replacement :: r.text⟩
    else ⟨none, Char.ofNat u :: r.close⟩

/-- The text that units stand for. A surrogate without its partner is replaced, and so is a unit
that is cut off. -/
def decodeUnits (units : List CodeUnit) : List Char :=
  (units.foldr UnitReader.before ⟨none, []⟩).close

/-- The text that bytes stand for. -/
def decode : Encoding → List UInt8 → List Char
  | utf8, bytes => Utf8.decode bytes
  | utf8Signed, 0xEF :: 0xBB :: 0xBF :: bytes => Utf8.decode bytes
  | utf8Signed, bytes => Utf8.decode bytes
  | latin1, bytes => bytes.map fun b => Char.ofNat b.toNat
  | ascii, bytes => bytes.map fun b => if b < 0x80 then Char.ofNat b.toNat else Utf8.replacement
  | utf16LittleEndian, bytes => decodeUnits (littleEndianUnits bytes)

end Encoding

/-! ## Line ends -/

/-- The text with each line end, `CR LF` and a lone `CR` included, written as one line feed. -/
def unifyLineEnds (text : List Char) : List Char :=
  -- beside the text stands whether it started with a line feed before it was rewritten
  let step (c : Char) (rest : Bool × List Char) : Bool × List Char :=
    (c == '\n', if c == '\r' then if rest.1 then rest.2 else '\n' :: rest.2 else c :: rest.2)
  (text.foldr step (false, [])).2

@[simp] theorem unifyLineEnds_nil : unifyLineEnds [] = [] := rfl

/-- A carriage return vanishes into the line feed behind it, and is one itself if there is none. -/
theorem unifyLineEnds_cons (c : Char) (s : List Char) :
    unifyLineEnds (c :: s) =
      if c = '\r' then if s.head? = some '\n' then unifyLineEnds s else '\n' :: unifyLineEnds s
      else c :: unifyLineEnds s := by
  cases s <;> simp [unifyLineEnds]

end Indentation.Text
