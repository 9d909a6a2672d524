import Transplant.Log.Level

/-!
# Log records

What the program writes to its log: a message with its severity and the component it comes from.
-/

namespace Transplant.Log

/-- A message in the log. -/
structure Record where
  level : Level
  component : Option String
  message : String
deriving DecidableEq, Repr, Inhabited

end Transplant.Log
