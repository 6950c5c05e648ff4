import Indentation.Json.Value
import Indentation.Settings

/-!
# Records as objects

Each record of the library has one form as a JSON object, with a member for each of its fields.
-/

namespace Indentation

open Json

/-- An optional value, which is null where it is missing. -/
def Json.ofOption {α : Type} (f : α → Value) : Option α → Value
  | some a => f a
  | none => .null

/-- A signature as an object: how it is written, the name of its style and its width. -/
def Signature.toJson (s : Signature) : Value :=
  .obj [("signature", .str s.toString), ("style", .str s.style.name), ("width", .int s.width)]

/-- Settings as an object. A field that nothing has set is null. -/
def Settings.toJson (s : Settings) : Value :=
  .obj [("soft_tab_stop", ofOption .int s.softTabStop), ("tab_stop", ofOption .int s.tabStop),
    ("use_tabs", ofOption .bool s.useTabs), ("mixed_mode", ofOption .bool s.mixedMode),
    ("style_soft_tab_stop", ofOption .int s.styleSoftTabStop),
    ("style_tab_stop", ofOption .int s.styleTabStop),
    ("style_use_tabs", ofOption .bool s.styleUseTabs)]

end Indentation
