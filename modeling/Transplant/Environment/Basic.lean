/-!
# Environments

The variables that a process starts with. A file of further variables completes an environment
without changing what is already set.
-/

namespace Transplant

/-- Variables with their values. -/
abbrev Environment := List (String × String)

namespace Environment

/-- The value of a variable. -/
def get? (env : Environment) (name : String) : Option String :=
  (env.find? fun v => v.1 == name).map (·.2)

/-- Why a variable cannot be set. -/
inductive Fault where
  | illegalName
  | nullByte
deriving DecidableEq, Repr

/-- The words for a fault. -/
def Fault.message : Fault → String
  | .illegalName => "illegal environment variable name"
  | .nullByte => "embedded null byte"

/-- Whether a text holds the character that ends texts in an environment. -/
def hasNull (s : String) : Bool :=
  s.toList.contains '\x00'

/-- What is wrong with a variable that is to be set. -/
def fault? (name value : String) : Option Fault :=
  if hasNull name || hasNull value then some .nullByte
  else if name.toList.contains '=' then some .illegalName
  else none

/-- An environment with further variables; those that are set keep their values. -/
def extend (env more : Environment) : Except Fault Environment :=
  let new := more.filter fun v => (env.get? v.1).isNone
  match new.findSome? fun (name, value) => fault? name value with
  | some why => .error why
  | none => .ok (env ++ new)

end Environment

end Transplant
