import Transplant.Text.Upper

/-!
# Workflow modes

The ways to bring the changes of an origin into a destination. A mode is selected by its name in
upper case.
-/

namespace Transplant

/-- A way to bring the changes of an origin into a destination. -/
inductive Mode where
  | squash
  | iterative
  | changeRequest
  | mirror
deriving DecidableEq, Repr, Inhabited

namespace Mode

/-- The modes in the order in which they are listed. -/
def all : List Mode :=
  [.squash, .iterative, .changeRequest, .mirror]

/-- The name of a mode. -/
def name : Mode → String
  | .squash => "SQUASH"
  | .iterative => "ITERATIVE"
  | .changeRequest => "CHANGE_REQUEST"
  | .mirror => "MIRROR"

/-- The mode with exactly this name. -/
def ofName? (s : String) : Option Mode :=
  all.find? fun m => m.name == s

/-- The mode with this name in any case. -/
def ofAnyCase? (s : String) : Option Mode :=
  ofName? (Text.upper s)

/-- What a mode does, for the operator. -/
def description : Mode → String
  | .squash => "Create a single commit in the destination with new tree state."
  | .iterative => "Import each origin change individually."
  | .changeRequest =>
    "Import an origin tree state diffed by a common parent in destination. " ++
      "This could be a GitHub Pull Request, a Gerrit Change, etc."
  | .mirror =>
    "Mirror individual changes from origin to destination. Requires that " ++
      "origin and destination are of the same type and that they support " ++
      "mirroring. Not implemented yet."

/-- The component under which a mode's run is logged. -/
def component : Mode → String
  | .squash => "SquashStrategy"
  | .iterative => "IterativeStrategy"
  | .changeRequest => "ChangeRequestStrategy"
  | .mirror => "MirrorStrategy"

end Mode

end Transplant
