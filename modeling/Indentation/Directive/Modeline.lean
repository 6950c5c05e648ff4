import Indentation.Directive
import Indentation.Text.Lowercase
import Indentation.Text.Word

/-!
# Modelines

A modeline is a line that carries editor options behind a tag. It has two forms:

```text
form one:  [text] {white} {tag} [white] {options}
form two:  [text] {white} {tag} [white] se[t] {white} {options} : [text]
```

A tag is `vi:`, `vim:` or `ex:`, or `vim` with a comparison and a version before the colon. An
option is a run of word characters, an equals sign or none, and then any number of items, where an
item is a character that is neither blank nor backslash, or a backslash with a blank or another
backslash behind it.

In form one, options are separated by blanks, by a colon, or by both, and the last one ends the
line. In form two they are separated by blanks alone, and the first colon without a backslash before
it ends the list. The leftmost tag that form one fits goes before any that form two fits.

## Termination

`isOptionList` consumes at least one character of the text for each option
(`dropOption?_length_lt`).
-/

namespace Indentation.Modeline

open Text

/-! ## Options -/

/-- What follows the longest run of items at the start of a text. -/
def dropItems : List Char → List Char
  | '\\' :: c :: s => if isBlank c || c == '\\' then dropItems s else '\\' :: c :: s
  | c :: s => if c == '\\' || isBlank c then c :: s else dropItems s
  | [] => []

/-- What follows the equals sign at the start of a text, if there is one. -/
def dropEquals : List Char → List Char
  | '=' :: s => s
  | s => s

/-- What follows the longest option at the start of a text, or `none` where no option starts: its
word characters, its equals sign and its items are passed over in turn. -/
def dropOption? (s : List Char) : Option (List Char) :=
  if (s.takeWhile isWord).isEmpty then none
  else some (dropItems (dropEquals (s.dropWhile isWord)))

theorem dropItems_length_le (s : List Char) : (dropItems s).length ≤ s.length := by
  fun_induction dropItems s with
  | case1 c s h ih => simp only [List.length_cons]; omega
  | case2 => simp
  | case3 => simp
  | case4 c s _ _ ih => simp only [List.length_cons]; omega
  | case5 => simp

theorem dropEquals_length_le (s : List Char) : (dropEquals s).length ≤ s.length := by
  unfold dropEquals
  split <;> simp

/-- An option takes at least one character. -/
theorem dropOption?_length_lt {s rest : List Char} (h : dropOption? s = some rest) :
    rest.length < s.length := by
  unfold dropOption? at h
  split at h
  · cases h
  · next hword =>
    obtain rfl := Option.some.inj h
    have hitems := dropItems_length_le (dropEquals (s.dropWhile isWord))
    have hequals := dropEquals_length_le (s.dropWhile isWord)
    have hpos := List.length_pos_iff.mpr (mt List.isEmpty_iff.mpr hword)
    have hlength := congrArg List.length (List.takeWhile_append_dropWhile (p := isWord) (l := s))
    rw [List.length_append] at hlength
    omega

/-- The number of characters of the longest option at the start of a text. -/
def optionLength? (s : List Char) : Option Nat := (dropOption? s).map (s.length - ·.length)

/-- The position behind the longest option that starts at a position of a text. -/
def optionEnd? (text : List Char) (start : Nat) : Option Nat :=
  (optionLength? (text.drop start)).map (start + ·)

/-! ## Form one -/

/-- What follows a separator of form one whose first blank is already taken: more blanks, and a
colon with blanks behind it. -/
def dropSeparator (s : List Char) : List Char :=
  match trimStart s with
  | ':' :: rest => trimStart rest
  | rest => rest

theorem trimStart_length_le (s : List Char) : (trimStart s).length ≤ s.length :=
  (List.dropWhile_sublist _).length_le

theorem dropSeparator_length_le (s : List Char) : (dropSeparator s).length ≤ s.length := by
  have h := trimStart_length_le s
  unfold dropSeparator
  split
  · next rest hs =>
    have hr := trimStart_length_le rest
    simp only [hs, List.length_cons] at h
    omega
  · exact h

/-- Whether a text is a list of options with separators of form one between them. -/
def isOptionList (s : List Char) : Bool :=
  match _h : dropOption? s with
  | none => false
  | some [] => true
  | some (c :: rest) => isBlank c && isOptionList (dropSeparator rest)
termination_by s.length
decreasing_by
  have hd := dropSeparator_length_le rest
  have ho := dropOption?_length_lt _h
  simp only [List.length_cons] at ho
  omega

/-- The options of form one in the text behind a tag. -/
def formOne? (s : List Char) : Option (List (List Char)) :=
  let t := trimEnd s
  if isOptionList t then some (splitRuns (fun c => isBlank c || c == ':') t) else none

/-! ## Form two -/

/-- What follows the command `se` or `set` and its blanks. -/
def afterSet? : List Char → Option (List Char)
  | 's' :: 'e' :: 't' :: c :: rest => if isBlank c then some (trimStart rest) else none
  | 's' :: 'e' :: c :: rest => if isBlank c then some (trimStart rest) else none
  | _ => none

/-- What precedes the first colon that has no backslash before it, put behind `seen` reversed. A
backslash takes the character after it along. -/
def untilColon? (seen : List Char) : List Char → Option (List Char)
  | '\\' :: c :: s => untilColon? (c :: '\\' :: seen) s
  | c :: s => if c == ':' then some seen.reverse else untilColon? (c :: seen) s
  | [] => none

/-- The options of form two in the text behind a tag. -/
def formTwo? (s : List Char) : Option (List (List Char)) := do
  let body ← afterSet? s
  let options := words (← untilColon? [] body)
  if !options.isEmpty && options.all fun o => (dropOption? o).isSome then some options else none

/-! ## Tags -/

/-- What follows a tag at the start of a text. -/
def afterTag? (s : List Char) : Option (List Char) :=
  match dropLead? ['v', 'i', 'm'] s with
  | some (':' :: rest) => some rest
  | some (c :: rest) =>
    if c == '<' || c == '=' || c == '>' then
      match rest.takeWhile isDigit, rest.dropWhile isDigit with
      | _ :: _, ':' :: rest => some rest
      | _, _ => none
    else none
  | some [] => none
  | none => dropLead? ['v', 'i', ':'] s <|> dropLead? ['e', 'x', ':'] s

/-- The texts behind the tags of a line, without blanks at their start. A tag counts where a blank
stands before it. -/
def tagTails : List Char → List (List Char)
  | [] => []
  | c :: s =>
    if isBlank c then
      match afterTag? s with
      | some rest => trimStart rest :: tagTails s
      | none => tagTails s
    else tagTails s

/-- The options of the modeline that a line is, if it is one. -/
def options? (line : List Char) : Option (List (List Char)) :=
  let tails := tagTails line
  tails.findSome? formOne? <|> tails.findSome? formTwo?

/-! ## What options say -/

/-- The names of the option for the soft tab stop. -/
def softTabStopNames : List String := ["sts", "softtabstop"]

/-- The names of the option for the tab stop. -/
def tabStopNames : List String := ["ts", "tabstop"]

/-- The names of the option that replaces tabs by spaces. -/
def expandTabNames : List String := ["et", "expandtab"]

/-- The names of the option that keeps tabs. -/
def noExpandTabNames : List String := ["noet", "noexpandtab"]

/-- Reads an option as a directive. Names are compared in lower case. The value of any option is
read as a width, before its name is looked at. -/
def readOption (token : List Char) : DirectiveReading :=
  match cutAt? '=' token with
  | some (name, value) =>
    let name := String.ofList (lowercase name)
    let directive (width : Nat) : Option Directive :=
      if softTabStopNames.contains name then some (.softTabStop width)
      else if tabStopNames.contains name then some (.tabStop width)
      else none
    (Numeral.width? value).map fun width => width.bind directive
  | none =>
    let name := String.ofList (lowercase token)
    .ok <|
      if expandTabNames.contains name then some (.useTabs false)
      else if noExpandTabNames.contains name then some (.useTabs true)
      else none

/-- The readings of the options that a line carries. -/
def readings (line : List Char) : List DirectiveReading :=
  match options? line with
  | none => []
  | some options => options.map readOption

end Indentation.Modeline
