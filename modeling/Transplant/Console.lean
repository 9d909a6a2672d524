/-!
# Consoles

A console takes messages for the operator and asks questions. A labelled console puts its label
before every text and passes it on, so that a stack of labels is read from the innermost one outwards.
-/

namespace Transplant

/-- The ways to address the operator. -/
inductive Channel where
  | info
  | warn
  | error
  | progress
deriving DecidableEq, Repr

/-- A console over a base that shows the texts. -/
inductive Console (β : Type) where
  | base (b : β)
  | labelled (label : String) (inner : Console β)
deriving DecidableEq, Repr

namespace Console

/-- A text as it reaches the base. -/
def decorate {β : Type} : Console β → String → String
  | .base _, text => text
  | .labelled label inner, text => inner.decorate (label ++ text)

/-- The label that a console puts before its texts. -/
def label? {β : Type} : Console β → Option String
  | .base _ => none
  | .labelled label _ => some label

/-- The console behind all labels. -/
def bottom {β : Type} : Console β → β
  | .base b => b
  | .labelled _ inner => inner.bottom

/-- A base with labels put around it, the first one innermost. -/
def labelledAll {β : Type} (b : β) (labels : List String) : Console β :=
  labels.foldl (fun inner label => .labelled label inner) (.base b)

end Console

end Transplant
