/-!
# Exit statuses

How a run ends, as a number that is handed to the caller.
-/

namespace Indentation

/-- How a run ends. -/
inductive ExitStatus where
  /-- All went well. -/
  | success
  /-- The answer is a negative one: a text is not indented as expected, a report is not valid, or a
  style cannot be told where it has to be. -/
  | violation
  /-- There is no answer: the command is not well formed, or something cannot be read. -/
  | error
  deriving DecidableEq, Repr, Inhabited

namespace ExitStatus

/-- The number of a status. -/
def code : ExitStatus → Nat
  | success => 0
  | violation => 1
  | error => 2

/-- The name of a status. -/
def name : ExitStatus → String
  | success => "SUCCESS"
  | violation => "VIOLATION"
  | error => "ERROR"

/-- All statuses. -/
def all : List ExitStatus := [success, violation, error]

/-- The status of a number. -/
def ofCode? (n : Int) : Option ExitStatus := all.find? fun s => s.code = n

/-- The number of a status is read back as that status. -/
@[simp] theorem ofCode?_code (s : ExitStatus) : ofCode? s.code = some s := by
  cases s <;> rfl

end ExitStatus

end Indentation
