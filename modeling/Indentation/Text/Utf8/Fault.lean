import Indentation.Text.Quoted
import Indentation.Text.Utf8

/-!
# Faults in UTF-8

Where bytes must be well formed, the first maximal subpart that is not is the fault. It is the same
subpart that a decoder that refuses nothing would replace first.

## Main statements

* `decodeStrict_of_ascii` — ASCII text has no fault
-/

namespace Indentation.Text.Utf8

/-- What is wrong with a part of some bytes. -/
inductive FaultKind where
  /-- No character starts with this byte. -/
  | start
  /-- The character does not go on with the byte that follows. -/
  | continuation
  /-- The bytes end within the character. -/
  | truncated
  deriving DecidableEq, Repr

/-- The words for a kind of fault. -/
def FaultKind.message : FaultKind → String
  | start => "invalid start byte"
  | continuation => "invalid continuation byte"
  | truncated => "unexpected end of data"

/-- A part of some bytes that is not well formed. -/
structure Fault where
  kind : FaultKind
  /-- The number of bytes before the part. -/
  position : Nat
  /-- The number of bytes of the part. -/
  length : Nat
  first : UInt8
  deriving DecidableEq, Repr

/-- The message for a fault. A single byte is shown, and more are given by their positions. -/
def Fault.message (f : Fault) : String :=
  let part :=
    if f.length = 1 then s!"byte 0x{String.ofList (hex 2 f.first.toNat)} in position {f.position}"
    else s!"bytes in position {f.position}-{f.position + f.length - 1}"
  s!"'utf-8' codec can't decode {part}: {f.kind.message}"

/-- A character that is open, with the position of its first byte and that byte. -/
structure Opened where
  character : Partial
  position : Nat
  first : UInt8

/-- The first fault in bytes that follow `position` others, of which the last ones may have opened a
character. -/
def findFault (position : Nat) (opened : Option Opened) : List UInt8 → Option Fault
  | [] => opened.map fun o => ⟨.truncated, o.position, position - o.position, o.first⟩
  | b :: bytes =>
    match opened with
    | none =>
      match lead b with
      | .whole _ => findFault (position + 1) none bytes
      | .opens p => findFault (position + 1) (some ⟨p, position, b⟩) bytes
      | .none => some ⟨.start, position, 1, b⟩
    | some o =>
      if o.character.least ≤ b.toNat && b.toNat ≤ o.character.greatest then
        if o.character.owed ≤ 1 then findFault (position + 1) none bytes
        else
          let rest : Partial := { o.character with
            owed := o.character.owed - 1, least := 0x80, greatest := 0xBF }
          findFault (position + 1) (some { o with character := rest }) bytes
      else some ⟨.continuation, o.position, position - o.position, o.first⟩

/-- The text that bytes stand for, if they are well formed. -/
def decodeStrict (bytes : List UInt8) : Except Fault (List Char) :=
  match findFault 0 none bytes with
  | some f => .error f
  | none => .ok (decode bytes)

theorem findFault_of_ascii {bytes : List UInt8} (h : ∀ b ∈ bytes, b.toNat < 0x80) (position : Nat) :
    findFault position none bytes = none := by
  induction bytes generalizing position with
  | nil => rfl
  | cons b bytes ih =>
    have hb : lead b = .whole (Char.ofNat b.toNat) := by
      simp [lead, h b List.mem_cons_self]
    simp only [findFault, hb]
    exact ih (fun c hc => h c (List.mem_cons_of_mem _ hc)) (position + 1)

/-- ASCII text has no fault. -/
theorem decodeStrict_of_ascii {bytes : List UInt8} (h : ∀ b ∈ bytes, b.toNat < 0x80) :
    decodeStrict bytes = .ok (decode bytes) := by
  simp [decodeStrict, findFault_of_ascii h 0]

end Indentation.Text.Utf8
