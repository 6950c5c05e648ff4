import Indentation.Directive

/-!
# Variables

A variable is a name with a value, as an editor keeps it for a file. Four of them say something
about indentation:

* `tab-width` — the tab stop
* `c-basic-offset` — the tab stop where none is set
* `indent-tabs-mode` — whether tabs are used (`TabMode.table`)
* `style` — a named style (`Preset.table`)

Names and values are compared as they are written.
-/

namespace Indentation

/-- A name with a value. -/
structure Variable where
  key : List Char
  value : List Char
  deriving DecidableEq, Repr

/-- Reads a variable as a directive. -/
def Variable.read (v : Variable) : DirectiveReading :=
  let value := String.ofList v.value
  match String.ofList v.key with
  | "tab-width" => (Numeral.width? v.value).map (·.map fun w => .tabStop w)
  | "c-basic-offset" => (Numeral.width? v.value).map (·.map fun w => .basicOffset w)
  | "indent-tabs-mode" => .ok ((TabMode.table.lookup value).map .tabMode)
  | "style" => .ok ((Preset.table.lookup value).map .preset)
  | _ => .ok none

end Indentation
