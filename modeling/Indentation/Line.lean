/-!
# Lines

A text is read line by line. A line ends at a run of carriage returns and line feeds, which is
consumed as a whole, so that blank lines vanish into the end of the line before them. Each line is
divided into its indentation, the spaces and tabs at its start, and the rest.

## Main statements

* `Line.text_ofChars` — indentation and rest put together are the line
* `Line.eol_not_mem` — no line holds a carriage return or line feed
-/

namespace Indentation

/-- One line of a text, its end excluded. -/
structure Line where
  /-- The spaces and tabs at the start. -/
  indent : List Char
  rest : List Char
  deriving DecidableEq, Repr

namespace Line

/-- The whole line. -/
def text (l : Line) : List Char := l.indent ++ l.rest

/-- The characters that indent a line. -/
def isIndent (c : Char) : Bool := c == ' ' || c == '\t'

/-- The characters that end a line. -/
def isEol (c : Char) : Bool := c == '\r' || c == '\n'

/-- Divides the characters of a line into indentation and rest. -/
def ofChars (s : List Char) : Line := ⟨s.takeWhile isIndent, s.dropWhile isIndent⟩

/-- Indentation and rest put together are the line. -/
@[simp] theorem text_ofChars (s : List Char) : (ofChars s).text = s :=
  List.takeWhile_append_dropWhile

/-- Puts one character in front of a text that is already split. A line break opens an empty line,
unless one is open already; any other character goes to the front of the first line. -/
def consChar (c : Char) (ls : List (List Char)) : List (List Char) :=
  if isEol c then
    match ls with
    | [] :: _ => ls
    | _ => [] :: ls
  else
    match ls with
    | [] => [[c]]
    | l :: rest => (c :: l) :: rest

/-- The lines of a text. Only the first can be empty, and then the text starts with a line break. -/
def splitLines (text : List Char) : List (List Char) := text.foldr consChar []

/-- The lines of a text, each divided into indentation and rest. -/
def ofText (text : List Char) : List Line := (splitLines text).map ofChars

@[simp] theorem splitLines_nil : splitLines [] = [] := rfl

@[simp] theorem splitLines_cons (c : Char) (s : List Char) :
    splitLines (c :: s) = consChar c (splitLines s) := rfl

/-- No line holds a character that ends lines. -/
theorem eol_not_mem {s l : List Char} (h : l ∈ splitLines s) : ∀ c ∈ l, isEol c = false := by
  induction s generalizing l with
  | nil => simp at h
  | cons a s ih =>
    simp only [splitLines_cons, consChar] at h
    split at h
    · split at h
      · exact ih h
      · rcases List.mem_cons.mp h with rfl | h
        · simp
        · exact ih h
    · next ha =>
      split at h
      · simp only [List.mem_singleton] at h
        subst h
        simpa using ha
      · next m rest hs =>
        rcases List.mem_cons.mp h with rfl | h
        · intro c hc
          rcases List.mem_cons.mp hc with rfl | hc
          · simpa using ha
          · exact ih (hs ▸ List.mem_cons_self) c hc
        · exact ih (hs ▸ List.mem_cons_of_mem _ h)

end Line

end Indentation
