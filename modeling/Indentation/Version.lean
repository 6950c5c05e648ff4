/-!
# The version of the program
-/

namespace Indentation

/-- The version that the program gives of itself. -/
def version : String := "0.1.0"

end Indentation
