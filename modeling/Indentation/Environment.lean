/-!
# Environments

Configuration is read from named variables that surround a run. A run sees them as values.
-/

namespace Indentation

/-- Variables with their values. -/
abbrev Environment := List (String × String)

/-- The value of a variable. -/
def Environment.get? (env : Environment) (name : String) : Option String := List.lookup name env

end Indentation
