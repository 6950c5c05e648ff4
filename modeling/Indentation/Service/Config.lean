import Indentation.Environment
import Indentation.Numeral
import Indentation.Text.Lowercase
import Indentation.Text.Quoted

/-!
# Configuration of the service

Where the service listens, whom it answers and how long the texts may be. Each field can be given by
a variable of the environment, which goes before everything else.

## Main statements

* `withEnvironment_nil` — without variables the configuration stays as it is
-/

namespace Indentation

/-- How the service runs. -/
structure ServiceConfig where
  host : String := "0.0.0.0"
  port : Int := 8000
  debug : Bool := false
  /-- The origins that browsers may call the service from. -/
  corsOrigins : List String := ["*"]
  /-- The greatest number of bytes, in UTF-8, of a text that is looked at. -/
  maxTextBytes : Int := 5000000
  deriving DecidableEq, Repr

/-- A variable of the environment that should hold an integer and does not. -/
structure IntegerVariableError where
  text : List Char
  cause : Numeral.IntegerError
  deriving DecidableEq, Repr

namespace IntegerVariableError

/-- The number of characters of a text that a message shows. -/
def shown : Nat := 200

/-- The message for a variable that does not hold an integer. -/
def message (e : IntegerVariableError) : String :=
  match e.cause with
  | .overlong n => n.message
  | .malformed =>
    let text := String.ofList ((Text.quote e.text).take shown)
    s!"invalid literal for int() with base 10: {text}"

end IntegerVariableError

namespace ServiceConfig

open Text

/-- The variable that holds a field. -/
def variableName (field : String) : String := "FIND_INDENT_" ++ field

/-- The text of the variable that holds a field. -/
def variableText? (env : Environment) (field : String) : Option (List Char) :=
  (env.get? (variableName field)).map String.toList

/-- The integer that a variable holds. Where the variable is not there, `default` stands in. -/
def integer (env : Environment) (field : String) (default : Int) :
    Except IntegerVariableError Int :=
  match variableText? env field with
  | none => .ok default
  | some text => (Numeral.readInteger text).mapError fun cause => ⟨text, cause⟩

/-- Whether a text stands for true. -/
def isTrue (text : List Char) : Bool :=
  ["true", "1", "yes"].contains (String.ofList (lowercase text))

/-- The items of a text between commas. -/
def listItems (text : List Char) : List String := (splitAt ',' text).map String.ofList

/-- The configuration with what the environment gives. -/
def withEnvironment (c : ServiceConfig) (env : Environment) :
    Except IntegerVariableError ServiceConfig := do
  let port ← integer env "PORT" c.port
  let maxTextBytes ← integer env "MAX_TEXT_BYTES" c.maxTextBytes
  pure
    { host := ((variableText? env "HOST").map String.ofList).getD c.host
      port
      debug := ((variableText? env "DEBUG").map isTrue).getD c.debug
      corsOrigins := ((variableText? env "CORS_ORIGINS").map listItems).getD c.corsOrigins
      maxTextBytes }

/-- Without variables the configuration stays as it is. -/
@[simp] theorem withEnvironment_nil (c : ServiceConfig) : c.withEnvironment [] = .ok c := rfl

end ServiceConfig

end Indentation
