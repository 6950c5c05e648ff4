import Indentation.Schema.Report
import Indentation.Schema.Violation
import Indentation.Text.Encoding
import Indentation.Text.Utf8.Fault

/-!
# Report files

A file is accepted as a report if it holds one JSON value in UTF-8 that names the version of the
schema and satisfies it. The version is looked at first, so that a file which is no report at all is
refused with a message about that.
-/

namespace Indentation.ReportSchema

open Json

/-- Why a file is not accepted. -/
inductive FileError where
  | path (e : PathError)
  | encoding (f : Text.Utf8.Fault)
  | json (e : ReadError)
  /-- The file names another version, or none, which counts as null. -/
  | version (file : Path) (found : Value)
  | violation (v : Violation)

/-- The message for a file that is not accepted. -/
def FileError.message : FileError → String
  | path e => e.message
  | encoding f => f.message
  | json e => e.message
  | version file found =>
    s!"{file.toString}: expected schema_version='{ReportSchema.version}', got {found.inline}"
  | violation v => v.message

/-- Checks a value against the schema of reports. -/
def check (v : Value) : Except Violation Unit :=
  match schema.violation? v with
  | none => .ok ()
  | some violation => .error violation

/-- Checks a text, which was read from the given file. -/
def checkText (file : Path) (text : List Char) : Except FileError Unit := do
  let v ← (Json.read text).mapError .json
  let found := (v.get? "schema_version").getD .null
  if found.str? == some version then (check v).mapError .violation
  else .error (.version file found)

/-- Checks a file. Its line ends may be of any kind. -/
def checkFile (t : FileTree) (cwd : Location) (file : Path) : Except FileError Unit := do
  let bytes ← (t.read cwd file).mapError .path
  let text ← (Text.Utf8.decodeStrict bytes).mapError .encoding
  checkText file (Text.unifyLineEnds text)

end Indentation.ReportSchema
