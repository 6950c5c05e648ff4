import Indentation.Decimal.Binary
import Indentation.Json.Value
import Indentation.Numeral
import Indentation.Text.Blank

/-!
# Reading JSON

The reader goes through a text once. It keeps a stack of the arrays and objects that are open, and
what may come next is one of a few modes. A fault is located by the text that was still to be read.

Beyond the standard notation the reader takes `NaN`, `Infinity` and `-Infinity` as numbers. It
refuses integers with more digits than `Numeral.limit`. Where a key is repeated, the last value
counts.
-/

namespace Indentation.Json

/-- What the reader misses or cannot take. -/
inductive Syntax where
  | expectingValue
  | expectingKey
  | expectingColon
  | expectingComma
  | unterminatedString
  | controlCharacter
  | badEscape
  | badUnicodeEscape
  | extraData
  | byteOrderMark
  deriving DecidableEq, Repr

/-- The words for a fault. -/
def Syntax.message : Syntax → String
  | expectingValue => "Expecting value"
  | expectingKey => "Expecting property name enclosed in double quotes"
  | expectingColon => "Expecting ':' delimiter"
  | expectingComma => "Expecting ',' delimiter"
  | unterminatedString => "Unterminated string starting at"
  | controlCharacter => "Invalid control character at"
  | badEscape => "Invalid \\escape"
  | badUnicodeEscape => "Invalid \\uXXXX escape"
  | extraData => "Extra data"
  | byteOrderMark => "Unexpected UTF-8 BOM (decode using utf-8-sig)"

/-- A fault, located by the text from the fault on. -/
inductive Fault where
  | wrong (what : Syntax) (rest : List Char)
  | overlong (e : OverlongNumeral)

/-- The white space between tokens. -/
def isSpace (c : Char) : Bool := c == ' ' || c == '\t' || c == '\n' || c == '\r'

/-- The text from the next token on. -/
def skipSpace (s : List Char) : List Char := s.dropWhile isSpace

theorem skipSpace_length_le (s : List Char) : (skipSpace s).length ≤ s.length :=
  (List.dropWhile_sublist _).length_le

/-! ## Strings -/

/-- The value of a hexadecimal digit. -/
def hexDigit? (c : Char) : Option Nat :=
  let n := c.toNat
  if 0x30 ≤ n && n ≤ 0x39 then some (n - 0x30)
  else if 0x41 ≤ n && n ≤ 0x46 then some (n - 0x41 + 10)
  else if 0x61 ≤ n && n ≤ 0x66 then some (n - 0x61 + 10)
  else none

/-- The value of four hexadecimal digits at the start of a text, and what follows them. Something
has to follow them, as the string does not end there. -/
def hexFour? : List Char → Option (Nat × List Char)
  | a :: b :: c :: d :: e :: rest => do
    let a ← hexDigit? a
    let b ← hexDigit? b
    let c ← hexDigit? c
    let d ← hexDigit? d
    some (((a * 16 + b) * 16 + c) * 16 + d, e :: rest)
  | _ => none

/-- The character that a letter stands for behind a backslash. -/
def escape? : Char → Option Char
  | '\x22' => some '\x22'
  | '\\' => some '\\'
  | '/' => some '/'
  | 'b' => some '\x08'
  | 'f' => some '\x0c'
  | 'n' => some '\n'
  | 'r' => some '\r'
  | 't' => some '\t'
  | _ => none

/-- Whether a code is the first half of a surrogate pair. -/
def isHighSurrogate (n : Nat) : Bool := 0xD800 ≤ n && n < 0xDC00

/-- Whether a code is the second half of a surrogate pair. -/
def isLowSurrogate (n : Nat) : Bool := 0xDC00 ≤ n && n < 0xE000

/-- The character of a code. Half a pair on its own is replaced. -/
def charOfCode (n : Nat) : Char :=
  if isHighSurrogate n || isLowSurrogate n then '\uFFFD' else Char.ofNat n

theorem hexFour?_length_lt {s rest : List Char} {n : Nat} (h : hexFour? s = some (n, rest)) :
    rest.length < s.length := by
  unfold hexFour? at h
  split at h
  · simp only [bind, Option.bind_eq_some_iff, Option.some.injEq, Prod.mk.injEq] at h
    obtain ⟨_, _, _, _, _, _, _, _, _, rfl⟩ := h
    simp only [List.length_cons]
    omega
  · simp at h

/-- Reads a code behind `\u`, with the second half of a pair if the code is a first half. -/
def readCode (s : List Char) : Except Fault (Char × List Char) :=
  match hexFour? s with
  | none => .error (.wrong .badUnicodeEscape ('u' :: s))
  | some (n, '\\' :: 'u' :: more) =>
    if isHighSurrogate n && 4 < more.length then
      match hexFour? more with
      | none => .error (.wrong .badUnicodeEscape ('u' :: more))
      | some (m, rest) =>
        if isLowSurrogate m then
          .ok (Char.ofNat (0x10000 + (n - 0xD800) * 0x400 + (m - 0xDC00)), rest)
        else .ok (charOfCode n, '\\' :: 'u' :: more)
    else .ok (charOfCode n, '\\' :: 'u' :: more)
  | some (n, rest) => .ok (charOfCode n, rest)

theorem readCode_length_lt {s rest : List Char} {c : Char} (h : readCode s = .ok (c, rest)) :
    rest.length < s.length := by
  unfold readCode at h
  split at h
  · simp at h
  · next n more hs =>
    have hm := hexFour?_length_lt hs
    simp only [List.length_cons] at hm
    split at h
    · split at h
      · simp at h
      · next m r hr =>
        have := hexFour?_length_lt hr
        split at h <;> simp only [Except.ok.injEq, Prod.mk.injEq] at h <;> obtain ⟨-, rfl⟩ := h
        · omega
        · simpa using hm
    · simp only [Except.ok.injEq, Prod.mk.injEq] at h
      obtain ⟨-, rfl⟩ := h
      simpa using hm
  · next n r _ hs =>
    have hm := hexFour?_length_lt hs
    simp only [Except.ok.injEq, Prod.mk.injEq] at h
    obtain ⟨-, rfl⟩ := h
    exact hm

/-- Reads the characters of a string up to the closing quote. `start` is the text from the opening
quote on, and `seen` holds the characters read so far, last first. -/
def readString (start : List Char) (seen : List Char) (s : List Char) :
    Except Fault (String × List Char) :=
  match s with
  | [] => .error (.wrong .unterminatedString start)
  | '\x22' :: rest => .ok (String.ofList seen.reverse, rest)
  | '\\' :: [] => .error (.wrong .unterminatedString start)
  | '\\' :: 'u' :: rest =>
    match _h : readCode rest with
    | .error e => .error e
    | .ok (c, rest') => readString start (c :: seen) rest'
  | '\\' :: e :: rest =>
    match escape? e with
    | none => .error (.wrong .badEscape ('\\' :: e :: rest))
    | some c => readString start (c :: seen) rest
  | c :: rest =>
    if c.toNat < 0x20 then .error (.wrong .controlCharacter (c :: rest))
    else readString start (c :: seen) rest
termination_by s.length
decreasing_by
  · have := readCode_length_lt _h
    simp only [List.length_cons]
    omega
  · simp only [List.length_cons]
    omega
  · simp only [List.length_cons]
    omega

/-- A string takes at least one character, its closing quote. -/
theorem readString_length_lt {start seen s rest : List Char} {t : String}
    (h : readString start seen s = .ok (t, rest)) : rest.length < s.length := by
  fun_induction readString start seen s with
  | case1 => simp at h
  | case2 =>
    simp only [Except.ok.injEq, Prod.mk.injEq] at h
    obtain ⟨-, rfl⟩ := h
    simp
  | case3 => simp at h
  | case4 => simp at h
  | case5 seen r c r' hc ih =>
    have := readCode_length_lt hc
    have := ih h
    simp only [List.length_cons]
    omega
  | case6 => simp at h
  | case7 =>
    rename_i ih
    have := ih h
    simp only [List.length_cons]
    omega
  | case8 => simp at h
  | case9 =>
    rename_i ih
    have := ih h
    simp only [List.length_cons]
    omega

/-! ## Numbers -/

/-- The digits at the start of a text. -/
def digitRun (s : List Char) : List Char := s.takeWhile Char.isDigit

/-- The digits of the fraction at the start of a text, and what follows them. Without digits behind
the point there is no fraction. -/
def fraction : List Char → List Char × List Char
  | '.' :: s =>
    if (digitRun s).isEmpty then ([], '.' :: s) else (digitRun s, s.dropWhile Char.isDigit)
  | s => ([], s)

/-- The exponent at the start of a text, and what follows it. Without digits there is no
exponent. -/
def exponent? (s : List Char) : Option Int × List Char :=
  match s with
  | e :: rest =>
    if e == 'e' || e == 'E' then
      let (negative, rest) := match rest with
        | '-' :: r => (true, r)
        | '+' :: r => (false, r)
        | r => (false, r)
      if (digitRun rest).isEmpty then (none, s)
      else
        let n : Int := Numeral.value (digitRun rest)
        (some (if negative then -n else n), rest.dropWhile Char.isDigit)
    else (none, s)
  | [] => (none, s)

/-- The integral part at the start of a text, and what follows it: a zero, or digits that do not
start with one. -/
def integral? : List Char → Option (List Char × List Char)
  | '0' :: s => some (['0'], s)
  | c :: s => if c.isDigit then some (c :: digitRun s, s.dropWhile Char.isDigit) else none
  | [] => none

/-- Reads a number behind its sign. Without fraction and exponent it is an integer. -/
def readNumber (start : List Char) (negative : Bool) (s : List Char) :
    Except Fault (Value × List Char) :=
  match integral? s with
  | none => .error (.wrong .expectingValue start)
  | some (whole, rest) =>
    let (places, rest) := fraction rest
    let (power, rest) := exponent? rest
    if places.isEmpty && power.isNone then
      match Numeral.read whole with
      | .error e => .error (.overlong e)
      | .ok n => .ok (.int (if negative then -(n : Int) else n), rest)
    else
      let digits := Numeral.value (whole ++ places)
      .ok (.float (Decimal.nearestFloat negative digits (power.getD 0 - places.length)), rest)

theorem dropWhile_length_le (p : Char → Bool) (s : List Char) : (s.dropWhile p).length ≤ s.length :=
  (List.dropWhile_sublist _).length_le

theorem fraction_length_le (s : List Char) : (fraction s).2.length ≤ s.length := by
  unfold fraction
  split
  · next s =>
    split
    · simp
    · have := dropWhile_length_le Char.isDigit s
      simp only [List.length_cons]
      omega
  · simp

theorem exponent?_length_le (s : List Char) : (exponent? s).2.length ≤ s.length := by
  unfold exponent?
  split
  · next e rest =>
    split
    · split
      next negative r hr =>
      have hle : r.length ≤ rest.length := by
        split at hr <;> simp only [Prod.mk.injEq] at hr <;> obtain ⟨-, rfl⟩ := hr <;> simp
      split
      · simp
      · have := dropWhile_length_le Char.isDigit r
        simp only [List.length_cons]
        omega
    · simp
  · simp

theorem integral?_length_lt {s whole rest : List Char} (h : integral? s = some (whole, rest)) :
    rest.length < s.length := by
  unfold integral? at h
  split at h
  · simp only [Option.some.injEq, Prod.mk.injEq] at h
    obtain ⟨-, rfl⟩ := h
    simp
  · next c t _ =>
    split at h
    · simp only [Option.some.injEq, Prod.mk.injEq] at h
      obtain ⟨-, rfl⟩ := h
      exact Nat.lt_succ_of_le (dropWhile_length_le _ t)
    · simp at h
  · simp at h

/-- A number takes at least one character. -/
theorem readNumber_length_lt {start s rest : List Char} {negative : Bool} {v : Value}
    (h : readNumber start negative s = .ok (v, rest)) : rest.length < s.length := by
  unfold readNumber at h
  split at h
  · simp at h
  · next whole r hi =>
    have h1 := integral?_length_lt hi
    have h2 := fraction_length_le r
    have h3 := exponent?_length_le (fraction r).2
    dsimp only at h
    split at h
    · split at h
      · simp at h
      · simp only [Except.ok.injEq, Prod.mk.injEq] at h
        obtain ⟨-, rfl⟩ := h
        omega
    · simp only [Except.ok.injEq, Prod.mk.injEq] at h
      obtain ⟨-, rfl⟩ := h
      omega

/-- The values that are written as a word. -/
def literals : List (List Char × Value) :=
  [("null".toList, .null), ("true".toList, .bool true), ("false".toList, .bool false),
    ("NaN".toList, .float (0 / 0)), ("Infinity".toList, .float (1 / 0)),
    ("-Infinity".toList, .float (-1 / 0))]

/-- Reads a value that is not an array, an object or a string. -/
def readScalar (s : List Char) : Except Fault (Value × List Char) :=
  match literals.findSome? fun (word, v) => (Text.dropLead? word s).map (v, ·) with
  | some r => .ok r
  | none =>
    match s with
    | '-' :: rest => readNumber s true rest
    | _ => readNumber s false s

/-- What follows a lead that is not empty is shorter. -/
theorem dropLead?_length_lt {lead s rest : List Char} (hl : lead ≠ [])
    (h : Text.dropLead? lead s = some rest) : rest.length < s.length := by
  rw [Text.eq_append_of_dropLead? h, List.length_append]
  have := List.length_pos_iff.mpr hl
  omega

/-- A value takes at least one character. -/
theorem readScalar_length_lt {s rest : List Char} {v : Value} (h : readScalar s = .ok (v, rest)) :
    rest.length < s.length := by
  unfold readScalar at h
  split at h
  · next r hr =>
    obtain ⟨⟨word, w⟩, hm, hd⟩ := List.exists_of_findSome?_eq_some hr
    obtain ⟨t, ht, rfl⟩ := Option.map_eq_some_iff.mp hd
    simp only [Except.ok.injEq, Prod.mk.injEq] at h
    obtain ⟨-, rfl⟩ := h
    refine dropLead?_length_lt ?_ ht
    simp only [literals, List.mem_cons, Prod.mk.injEq, List.not_mem_nil, or_false] at hm
    rcases hm with ⟨rfl, -⟩ | ⟨rfl, -⟩ | ⟨rfl, -⟩ | ⟨rfl, -⟩ | ⟨rfl, -⟩ | ⟨rfl, -⟩ <;> simp
  · split at h
    · have := readNumber_length_lt h
      simp only [List.length_cons]
      omega
    · exact readNumber_length_lt h

/-! ## The run -/

/-- An array or object that is open, with what is complete of it, last first. -/
inductive Frame where
  | array (items : List Value)
  | object (members : List (String × Value)) (key : String)

/-- What may come next. -/
inductive Mode where
  | value
  /-- A value, or the end of an array that is still empty. -/
  | firstItem
  | key (members : List (String × Value))
  /-- A key, or the end of an object that is still empty. -/
  | firstKey
  /-- What follows a complete value. -/
  | after (v : Value)

/-- The object of members in the order of the text, last first. -/
def object (members : List (String × Value)) : Value :=
  .obj (members.reverse.foldl (fun ms (k, v) => Members.set ms k v) [])

/-- Reads the key of a member and the colon behind it. -/
def readKey (s : List Char) : Except Fault (String × List Char) :=
  match s with
  | '\x22' :: rest =>
    match readString s [] rest with
    | .error e => .error e
    | .ok (k, rest) =>
      match skipSpace rest with
      | ':' :: rest => .ok (k, rest)
      | rest => .error (.wrong .expectingColon rest)
  | _ => .error (.wrong .expectingKey s)

/-- What a step leaves: the open arrays and objects, what may come next, and the rest of the
text. -/
abbrev Progress := List Frame × Mode × List Char

/-- Reads a value that is no array or object, or the bracket that opens one. -/
def stepValue (stack : List Frame) (s : List Char) : Except Fault Progress :=
  match s with
  | '[' :: rest => .ok (.array [] :: stack, .firstItem, rest)
  | '\x7b' :: rest => .ok (stack, .firstKey, rest)
  | '\x22' :: rest => (readString s [] rest).map fun (t, rest) => (stack, .after (.str t), rest)
  | _ => (readScalar s).map fun (v, rest) => (stack, .after v, rest)

/-- Reads the key of the next member of an object. -/
def stepKey (stack : List Frame) (members : List (String × Value)) (s : List Char) :
    Except Fault Progress :=
  (readKey s).map fun (k, rest) => (.object members k :: stack, .value, rest)

/-- Reads what follows a complete value: a comma, or the bracket that closes the array or object
that the value stands in. -/
def stepAfter (stack : List Frame) (v : Value) (s : List Char) : Except Fault Progress :=
  match stack, s with
  | .array items :: stack, ',' :: rest => .ok (.array (v :: items) :: stack, .value, rest)
  | .array items :: stack, ']' :: rest => .ok (stack, .after (.arr (v :: items).reverse), rest)
  | .object members k :: stack, ',' :: rest => .ok (stack, .key ((k, v) :: members), rest)
  | .object members k :: stack, '\x7d' :: rest =>
    .ok (stack, .after (object ((k, v) :: members)), rest)
  | [], _ => .error (.wrong .extraData s)
  | _, _ => .error (.wrong .expectingComma s)

/-- One step of the run, with the text from a token on. -/
def step (stack : List Frame) (mode : Mode) (s : List Char) : Except Fault Progress :=
  match mode with
  | .value => stepValue stack s
  | .firstItem =>
    match stack, s with
    | .array _ :: stack, ']' :: rest => .ok (stack, .after (.arr []), rest)
    | _, _ => stepValue stack s
  | .key members => stepKey stack members s
  | .firstKey =>
    match s with
    | '\x7d' :: rest => .ok (stack, .after (.obj []), rest)
    | _ => stepKey stack [] s
  | .after v => stepAfter stack v s

/-- A key takes at least one character. -/
theorem readKey_length_lt {s rest : List Char} {k : String} (h : readKey s = .ok (k, rest)) :
    rest.length < s.length := by
  unfold readKey at h
  split at h
  · next body =>
    split at h
    · simp at h
    · next t r hr =>
      have h1 := readString_length_lt hr
      split at h
      · next r' hs =>
        have h2 := skipSpace_length_le r
        simp only [Except.ok.injEq, Prod.mk.injEq] at h
        obtain ⟨-, rfl⟩ := h
        simp only [hs, List.length_cons] at h2 ⊢
        omega
      · simp at h
  · simp at h

theorem stepValue_length_lt {stack stack' : List Frame} {mode' : Mode} {s rest : List Char}
    (h : stepValue stack s = .ok (stack', mode', rest)) : rest.length < s.length := by
  unfold stepValue at h
  split at h
  · cases h
    simp
  · cases h
    simp
  · next body =>
    cases hs : readString ('\x22' :: body) [] body with
    | error e => simp [hs, Except.map] at h
    | ok p =>
      simp only [hs, Except.map] at h
      cases h
      have := readString_length_lt hs
      simp only [List.length_cons]
      omega
  · cases hs : readScalar s with
    | error e => simp [hs, Except.map] at h
    | ok p =>
      simp only [hs, Except.map] at h
      cases h
      exact readScalar_length_lt hs

theorem stepKey_length_lt {stack stack' : List Frame} {members : List (String × Value)}
    {mode' : Mode} {s rest : List Char}
    (h : stepKey stack members s = .ok (stack', mode', rest)) : rest.length < s.length := by
  unfold stepKey at h
  cases hs : readKey s with
  | error e => simp [hs, Except.map] at h
  | ok p =>
    simp only [hs, Except.map] at h
    cases h
    exact readKey_length_lt hs

theorem stepAfter_length_lt {stack stack' : List Frame} {v : Value} {mode' : Mode}
    {s rest : List Char} (h : stepAfter stack v s = .ok (stack', mode', rest)) :
    rest.length < s.length := by
  unfold stepAfter at h
  split at h <;> cases h <;> simp

/-- Every step consumes at least one character. -/
theorem step_length_lt {stack stack' : List Frame} {mode mode' : Mode} {s rest : List Char}
    (h : step stack mode s = .ok (stack', mode', rest)) : rest.length < s.length := by
  unfold step at h
  split at h
  · exact stepValue_length_lt h
  · split at h
    · cases h
      simp
    · exact stepValue_length_lt h
  · exact stepKey_length_lt h
  · split at h
    · cases h
      simp
    · exact stepKey_length_lt h
  · exact stepAfter_length_lt h

/-- Runs the reader on a text to its end. -/
def run (stack : List Frame) (mode : Mode) (s : List Char) : Except Fault Value :=
  match stack, mode, skipSpace s with
  | [], .after v, [] => .ok v
  | _, _, _ =>
    match _h : step stack mode (skipSpace s) with
    | .error e => .error e
    | .ok (stack, mode, rest) => run stack mode rest
termination_by s.length
decreasing_by
  have h1 := step_length_lt _h
  have h2 := skipSpace_length_le s
  omega

/-! ## Results -/

/-- Why a text is not read. -/
inductive ReadError where
  /-- The text is not JSON from some position on. -/
  | malformed (what : Syntax) (position : Nat) (text : List Char)
  | overlong (e : OverlongNumeral)

/-- Reads a text as one JSON value. -/
def read (text : List Char) : Except ReadError Value :=
  let locate : Fault → ReadError
    | .wrong what rest => .malformed what (text.length - rest.length) text
    | .overlong e => .overlong e
  match text with
  | '\uFEFF' :: _ => .error (.malformed .byteOrderMark 0 text)
  | _ => (run [] .value text).mapError locate

/-- The message for a text that is not read. Lines and columns are counted from one. -/
def ReadError.message : ReadError → String
  | .malformed what position text =>
    let before := text.take position
    let line := before.count '\n' + 1
    let column := (before.reverse.takeWhile (· != '\n')).length + 1
    s!"{what.message}: line {line} column {column} (char {position})"
  | .overlong e => e.message

end Indentation.Json
