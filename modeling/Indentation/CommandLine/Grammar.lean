import Indentation.Text.Blank
import Indentation.Text.Digit
import Indentation.Text.Quoted

/-!
# Command lines

A command line is a list of words. A grammar says which options it may hold and what its positional
words mean. All words are first classified, up to a `--`, behind which every word is an argument;
then they are worked off from left to right.

A long option may be shortened as long as it is the only one that starts so, and its value may
follow an equals sign. The letters of short flags may stand behind one dash. A word that starts with
a dash is an argument all the same if it is a negative number, holds a space, or is a dash alone.

Words that the grammar has no use for do not end the reading. They are handed back, so that the
caller can refuse all of them together.

## Main statements

* `classify_of_plain` — a word that does not start with a dash is an argument
* `consume_plain` — arguments behind the positional word are handed back
-/

namespace Indentation.CommandLine

/-- What a flag does. -/
inductive Effect (α : Type) where
  /-- Asks for help, which ends the run. -/
  | help
  /-- Asks for the version, which ends the run. -/
  | version
  | change (f : α → α)

/-- An option without a value. -/
structure Flag (α : Type) where
  /-- The letter behind one dash. -/
  short : Option Char
  /-- The names, with their two dashes. -/
  long : List String
  effect : Effect α

/-- An option with a value. -/
structure Setting (α : Type) where
  /-- The name, with its two dashes. -/
  long : String
  set : String → α → α

/-- An option. -/
inductive Opt (α : Type) where
  | flag (f : Flag α)
  | setting (s : Setting α)

/-- What positional words mean. -/
inductive Positional (α : Type) where
  /-- There is no use for them. -/
  | none
  /-- The first one is taken. -/
  | one (set : String → α → α)
  /-- The first one is taken together with all words behind it. -/
  | rest (set : List String → α → α)

/-- What a command line may hold. -/
structure Grammar (α : Type) where
  options : List (Opt α)
  positional : Positional α
  /-- The name of what must be given and is not. -/
  missing : α → Option String

/-- Why a command line is refused. -/
inductive UsageError where
  | ambiguous (word : String) (names : List String)
  | expectedArgument (option : String)
  /-- There is a value where none is taken. -/
  | ignoredValue (option value : String)
  | required (name : String)
  | invalidChoice (name value : String) (choices : List String)
  | unrecognized (words : List String)
  deriving DecidableEq, Repr

/-- A text in quotes. -/
def quoted (s : String) : String := String.ofList (Text.quote s.toList)

/-- Words with a separator between them. -/
def joined (separator : String) (words : List String) : String := separator.intercalate words

/-- The message for a command line that is refused. -/
def UsageError.message : UsageError → String
  | ambiguous word names =>
    let matching := joined ", " names
    s!"ambiguous option: {word} could match {matching}"
  | expectedArgument option => s!"argument {option}: expected one argument"
  | ignoredValue option value => s!"argument {option}: ignored explicit argument {quoted value}"
  | required name => s!"the following arguments are required: {name}"
  | invalidChoice name value choices =>
    let choices := joined ", " (choices.map quoted)
    s!"argument {name}: invalid choice: {quoted value} (choose from {choices})"
  | unrecognized words =>
    let words := joined " " words
    s!"unrecognized arguments: {words}"

/-- Why the reading of a command line ends early. -/
inductive Interruption where
  | help
  | version
  | usage (e : UsageError)
  deriving DecidableEq, Repr

variable {α : Type}

/-! ## Names of options -/

/-- All names of a flag, as messages show them. -/
def Flag.label (f : Flag α) : String :=
  joined "/" ((f.short.map fun c => String.ofList ['-', c]).toList ++ f.long)

/-- The long names of an option. -/
def Opt.names : Opt α → List String
  | .flag f => f.long
  | .setting s => [s.long]

/-- The long names of a grammar with their options. -/
def Grammar.named (g : Grammar α) : List (String × Opt α) :=
  g.options.flatMap fun o => o.names.map fun n => (n, o)

/-- The flag of a letter. -/
def Grammar.short? (g : Grammar α) (c : Char) : Option (Flag α) :=
  g.options.findSome? fun
    | .flag f => if f.short = some c then some f else none
    | .setting _ => none

/-! ## Words -/

/-- What a word is. -/
inductive Token (α : Type) where
  | argument (word : String)
  /-- The first word that is `--`. -/
  | separator
  | unknown (word : String)
  /-- Flags, with letters behind them that the grammar does not know, or a value that they do not
  take. -/
  | flags (reading : Except UsageError (List (Flag α) × Option String))
  /-- An option that takes a value, with the value if it stands in the same word. -/
  | setting (s : Setting α) (value : Option String)

/-- Reads the letters behind a flag. They name further flags until one is unknown. -/
def cluster (g : Grammar α) (f : Flag α) :
    List Char → Except UsageError (List (Flag α) × Option String)
  | [] => .ok ([f], none)
  | c :: cs =>
    if c == '-' then .error (.ignoredValue f.label (String.ofList (c :: cs)))
    else
      match g.short? c with
      | none => .ok ([f], some (String.ofList ('-' :: c :: cs)))
      | some next =>
        match cs with
        | '=' :: value => .error (.ignoredValue next.label (String.ofList value))
        | _ => (cluster g next cs).map fun (fs, tail) => (f :: fs, tail)

/-- The word of an option with the value that stands behind an equals sign, if there is one. -/
def optToken (o : Opt α) (value : Option (List Char)) : Token α :=
  match o, value with
  | .flag f, none => .flags (.ok ([f], none))
  | .flag f, some v => .flags (.error (.ignoredValue f.label (String.ofList v)))
  | .setting s, v => .setting s (v.map String.ofList)

/-- Whether a word is a dash and a number: digits, with a point before the last of them or without.
One line feed may follow. -/
def isNegativeNumber (word : List Char) : Bool :=
  let body := if word.getLast? == some '\n' then word.dropLast else word
  let isNumeral (s : List Char) : Bool := !s.isEmpty && s.all Text.isDigit
  match body with
  | '-' :: s =>
    isNumeral s || match Text.cutAt? '.' s with
      | some (whole, places) => whole.all Text.isDigit && isNumeral places
      | none => false
  | _ => false

/-- A word with a dash that is the name of no option. -/
def unnamed (word : List Char) : Token α :=
  if isNegativeNumber word || word.contains ' ' then .argument (String.ofList word)
  else .unknown (String.ofList word)

/-- Classifies a word with two dashes. The whole word is looked up before the part before its equals
sign, and that before all longer names. -/
def classifyLong (g : Grammar α) (word : List Char) : Except UsageError (Token α) :=
  let name := word.takeWhile (· != '=')
  let value := (Text.cutAt? '=' word).map Prod.snd
  match g.named.lookup (String.ofList word), g.named.lookup (String.ofList name) with
  | some o, _ => .ok (optToken o none)
  | none, some o => .ok (optToken o value)
  | none, none =>
    match g.named.filter fun entry => name.isPrefixOf entry.1.toList with
    | [] => .ok (unnamed word)
    | [entry] => .ok (optToken entry.2 value)
    | entries => .error (.ambiguous (String.ofList word) (entries.map Prod.fst))

/-- Classifies a word with one dash and the letter `c` behind it. -/
def classifyShort (g : Grammar α) (c : Char) (tail : List Char) : Token α :=
  match g.short? c, tail with
  | some f, '=' :: value => .flags (.error (.ignoredValue f.label (String.ofList value)))
  | some f, tail => .flags (cluster g f tail)
  | none, tail => unnamed ('-' :: c :: tail)

/-- Classifies a word that is not behind a `--`. -/
def classify (g : Grammar α) (word : String) : Except UsageError (Token α) :=
  match word.toList with
  | '-' :: '-' :: tail => classifyLong g ('-' :: '-' :: tail)
  | '-' :: c :: tail => .ok (classifyShort g c tail)
  | _ => .ok (.argument word)

/-- Classifies the words of a command line. -/
def tokens (g : Grammar α) : List String → Except UsageError (List (Token α))
  | [] => .ok []
  | "--" :: words => .ok (.separator :: words.map .argument)
  | word :: words =>
    match classify g word with
    | .error e => .error e
    | .ok t => (tokens g words).map (t :: ·)

/-- A word that does not start with a dash is an argument. -/
theorem classify_of_plain (g : Grammar α) {word : String} (h : word.toList.head? ≠ some '-') :
    classify g word = .ok (.argument word) := by
  unfold classify
  split
  · next hw => simp [hw] at h
  · next hw => simp [hw] at h
  · rfl

/-! ## Reading -/

/-- What has been read so far. -/
structure Reading (α : Type) where
  values : α
  /-- Whether the positional word has been taken. -/
  taken : Bool := false
  extras : List String := []

/-- Adds a word without use. -/
def Reading.drop (r : Reading α) (word : String) : Reading α :=
  { r with extras := r.extras ++ [word] }

/-- The effects of flags, one after the other. -/
def Reading.raise (r : Reading α) : List (Flag α) → Except Interruption (Reading α)
  | [] => .ok r
  | f :: fs =>
    match f.effect with
    | .help => .error .help
    | .version => .error .version
    | .change g => Reading.raise { r with values := g r.values } fs

/-- Works off the words of a command line, given with their tokens. A `--` before the positional
word or right behind it is passed over, unless that word starts a command of its own. -/
def consume (g : Grammar α) (r : Reading α) :
    List (String × Token α) → Except Interruption (Reading α)
  | [] => .ok r
  | (word, .argument _) :: rest =>
    if r.taken then consume g (r.drop word) rest
    else
      match g.positional with
      | .none => consume g (r.drop word) rest
      | .rest set =>
        .ok { r with values := set (word :: rest.map Prod.fst) r.values, taken := true }
      | .one set =>
        let r := { r with values := set word r.values, taken := true }
        match rest with
        | (_, .separator) :: rest => consume g r rest
        | rest => consume g r rest
  | (word, .separator) :: rest =>
    if r.taken || rest.isEmpty then consume g (r.drop word) rest
    else
      match g.positional with
      | .rest set =>
        .ok { r with values := set (word :: rest.map Prod.fst) r.values, taken := true }
      | .none => consume g (r.drop word) rest
      | .one _ => consume g r rest
  | (word, .unknown _) :: rest => consume g (r.drop word) rest
  | (_, .flags reading) :: rest =>
    match reading with
    | .error e => .error (.usage e)
    | .ok (fs, tail) =>
      match r.raise fs with
      | .error e => .error e
      | .ok r => consume g (tail.elim r r.drop) rest
  | (_, .setting s value) :: rest =>
    match value, rest with
    | some v, rest => consume g { r with values := s.set v r.values } rest
    | none, (word, .argument _) :: rest => consume g { r with values := s.set word r.values } rest
    | none, _ => .error (.usage (.expectedArgument s.long))

/-- Reads a command line. What was read is given together with the words without use. -/
def Grammar.read (g : Grammar α) (start : α) (words : List String) :
    Except Interruption (α × List String) := do
  let ts ← (tokens g words).mapError .usage
  let r ← consume g { values := start } (words.zip ts)
  match g.missing r.values with
  | some name => .error (.usage (.required name))
  | none => .ok (r.values, r.extras)

/-- Arguments behind the positional word are handed back. -/
theorem consume_plain (g : Grammar α) {r : Reading α} (h : r.taken = true) (words : List String) :
    consume g r (words.map fun w => (w, .argument w)) =
      .ok { r with extras := r.extras ++ words } := by
  induction words generalizing r with
  | nil => simp [consume]
  | cons w ws ih =>
    have := ih (r := r.drop w) (by simpa [Reading.drop] using h)
    simpa [consume, h, Reading.drop] using this

end Indentation.CommandLine
