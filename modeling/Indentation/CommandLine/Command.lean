import Indentation.CommandLine.Grammar

/-!
# Commands

What the program can be asked for. Usually that is the indentation of one file. Two words name
commands instead, `scan` and `validate`: the first word of the command line that is not an option
decides which grammar the line is read with.

## Main statements

* `namesFile_cons_of_plain` — a line that starts with any other word names a file
-/

namespace Indentation.CommandLine

/-- What the program is asked for. -/
inductive Command where
  /-- The indentation of a file, or of the standard input if the path is a dash. -/
  | detect (path : String) (json : Bool) (expected : Option String) (skipDocs : Bool)
  | scan (root : String) (out : Option String) (strict skipDocs : Bool)
  | validate (report : String)
  | nothing
  deriving DecidableEq, Repr

/-! ## Options of several grammars -/

section

variable {α : Type}

/-- The flag that asks for help. -/
def helpFlag : Opt α := .flag ⟨some 'h', ["--help"], .help⟩

/-- The flag that asks for a log. No log is kept, so it changes nothing. -/
def verboseFlag : Opt α := .flag ⟨some 'v', ["--verbose"], .change id⟩

/-- A flag without letter that changes what was read. -/
def longFlag (names : List String) (f : α → α) : Opt α := .flag ⟨none, names, .change f⟩

/-- The flag that skips blocks of documentation. -/
def skipFlag (f : α → α) : Opt α := longFlag ["--skip-doc-comments", "--skip-pod"] f

end

/-! ## Detection in one file -/

/-- What is read from a line that names a file. -/
structure DetectArgs where
  path : Option String := none
  json : Bool := false
  expected : Option String := none
  skipDocs : Bool := false

/-- The grammar of lines that name a file. -/
def detectGrammar : Grammar DetectArgs where
  options :=
    [helpFlag, longFlag ["--json"] fun a => { a with json := true },
      .setting ⟨"--expect", fun s a => { a with expected := some s }⟩,
      skipFlag fun a => { a with skipDocs := true }, verboseFlag]
  positional := .one fun s a => { a with path := some s }
  missing a := if a.path.isSome then none else some "path"

/-! ## Scans -/

/-- What is read from the words behind `scan`. -/
structure ScanArgs where
  root : Option String := none
  out : Option String := none
  strict : Bool := false
  skipDocs : Bool := false

/-- The grammar of the words behind `scan`. -/
def scanGrammar : Grammar ScanArgs where
  options :=
    [helpFlag, .setting ⟨"--root", fun s a => { a with root := some s }⟩,
      .setting ⟨"--out", fun s a => { a with out := some s }⟩,
      longFlag ["--strict"] fun a => { a with strict := true },
      skipFlag fun a => { a with skipDocs := true }, verboseFlag]
  positional := .none
  missing a := if a.root.isSome then none else some "--root"

/-! ## Validation -/

/-- What is read from the words behind `validate`. -/
structure ValidateArgs where
  report : Option String := none

/-- The grammar of the words behind `validate`. -/
def validateGrammar : Grammar ValidateArgs where
  options := [helpFlag, verboseFlag]
  positional := .one fun s a => { a with report := some s }
  missing a := if a.report.isSome then none else some "report"

/-! ## The whole line -/

/-- The name of the program. -/
def program : String := "find-indent"

/-- The words that name commands. -/
def commandNames : List String := ["scan", "validate"]

/-- The grammar of lines that may start with a command. What is read is the command with the words
behind it. -/
def commandGrammar : Grammar (List String) where
  options := [helpFlag, .flag ⟨none, ["--version"], .version⟩]
  positional := .rest fun words _ => words
  missing _ := none

/-- Why no command is read from a line. -/
structure Stop where
  /-- The name of the program, with the command whose words were read. -/
  program : String
  why : Interruption
  deriving DecidableEq, Repr

/-- Reads words with a grammar, under the name of a command. -/
def readAs {α : Type} (name : String) (g : Grammar α) (start : α) (words : List String) :
    Except Stop (α × List String) :=
  (g.read start words).mapError fun why => ⟨name, why⟩

/-- The command, unless there were words without use. -/
def unlessExtra (c : Command) (extras : List String) : Except Stop Command :=
  if extras.isEmpty then .ok c else .error ⟨program, .usage (.unrecognized extras)⟩

/-- Whether a line names a file: its first word that is not an option, if it has one, neither is
empty nor names a command. -/
def namesFile (words : List String) : Bool :=
  match words.find? fun w => w.toList.head? != some '-' || w == "-" with
  | some w => w != "" && !commandNames.contains w
  | none => false

/-- Reads the words behind a command. -/
def readCommand (name : String) (words extras : List String) : Except Stop Command :=
  let title := joined " " [program, name]
  match name with
  | "scan" => do
    let (a, more) ← readAs title scanGrammar {} words
    unlessExtra (.scan (a.root.getD "") a.out a.strict a.skipDocs) (extras ++ more)
  | "validate" => do
    let (a, more) ← readAs title validateGrammar {} words
    unlessExtra (.validate (a.report.getD "")) (extras ++ more)
  | _ => .error ⟨program, .usage (.invalidChoice "command" name commandNames)⟩

/-- Reads a command line. -/
def Command.read (words : List String) : Except Stop Command :=
  if namesFile words then do
    let (a, extras) ← readAs program detectGrammar {} words
    unlessExtra (.detect (a.path.getD "") a.json a.expected a.skipDocs) extras
  else do
    let (command, extras) ← readAs program commandGrammar [] words
    match command with
    | [] => unlessExtra .nothing extras
    | name :: words => readCommand name words extras

/-- A line that starts with a word that is no option names a file, unless the word is empty or names
a command. -/
theorem namesFile_cons_of_plain {w : String} (h : w.toList.head? ≠ some '-') (ws : List String) :
    namesFile (w :: ws) = (w != "" && !commandNames.contains w) := by
  simp [namesFile, h]

end Indentation.CommandLine
