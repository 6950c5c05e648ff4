import Indentation.Environment
import Indentation.FileTree.Path
import Indentation.Numeral
import Indentation.Text.Quoted

/-!
# Scan configuration

What a scan looks at: where it starts, which files are taken for source files, and which parts of
the tree are left out. The limit on the size of files can also be given by a variable of the
environment, which goes before everything else.

## Main statements

* `withEnvironment_of_blank` — a variable that is blank or not there changes nothing
-/

namespace Indentation

/-- What a scan looks at. -/
structure ScanConfig where
  root : Path := ⟨"", []⟩
  /-- The ends of the names of source files, with their dots and in lower case. -/
  includeExts : List String :=
    [".py", ".pl", ".pm", ".t", ".pod", ".js", ".jsx", ".ts", ".tsx", ".mjs", ".cjs", ".java",
     ".kt", ".scala", ".cs", ".go", ".rs", ".c", ".cpp", ".cc", ".h", ".hpp", ".rb", ".php", ".sh",
     ".el", ".lisp"]
  ignoreDirs : List String :=
    [".git", ".hg", ".svn", ".venv", "venv", "__pycache__", "node_modules", "dist", "build", ".tox",
     ".mypy_cache", ".pytest_cache"]
  ignoreFiles : List String := [".DS_Store"]
  /-- Whether links to files are taken for the files. -/
  followSymlinks : Bool := false
  /-- The size in bytes up to which files are looked at. -/
  maxFileBytes : Int := 2000000
  skipDocs : Bool := false
  deriving DecidableEq, Repr

/-- Why the limit on the size of files is not taken from the environment. -/
inductive SizeLimitError where
  /-- The variable holds something else than a byte count. -/
  | notAByteCount (text : List Char)
  | overlong (e : OverlongNumeral)
  deriving DecidableEq, Repr

namespace ScanConfig

open Text

/-- The variable that holds the limit on the size of files. -/
def sizeLimitVariable : String := "FIND_INDENT_MAX_FILE_BYTES"

/-- Reads a limit: ASCII digits with optional blanks around them. Blank text gives none. -/
def readSizeLimit (s : List Char) : Except SizeLimitError (Option Nat) :=
  let digits := trim s
  if digits.isEmpty then .ok none
  else if digits.all Char.isDigit then
    match Numeral.read digits with
    | .ok n => .ok (some n)
    | .error e => .error (.overlong e)
  else .error (.notAByteCount digits)

/-- The configuration with the limit that the environment gives. -/
def withEnvironment (c : ScanConfig) (env : Environment) : Except SizeLimitError ScanConfig :=
  (readSizeLimit ((env.get? sizeLimitVariable).getD "").toList).map fun
    | some n => { c with maxFileBytes := n }
    | none => c

/-- A variable that is blank or not there changes nothing. -/
theorem withEnvironment_of_blank (c : ScanConfig) {env : Environment}
    (h : trim ((env.get? sizeLimitVariable).getD "").toList = []) :
    c.withEnvironment env = .ok c := by
  simp [withEnvironment, readSizeLimit, h, Except.map]

end ScanConfig

/-- The message for a limit that is not taken. -/
def SizeLimitError.message : SizeLimitError → String
  | notAByteCount text =>
    s!"{ScanConfig.sizeLimitVariable} must be a byte count, got {String.ofList (Text.quote text)}"
  | overlong e => e.message

end Indentation
