import Transplant.Change
import Transplant.Failure

/-!
# Histories

A history lists changes, the most recent first; a reference may occur more than once and then means
its most recent change, whose position an index keeps. A visitor walks from a reference towards older
changes until it has seen enough.
-/

namespace Transplant.History

/-- The positions of references in a history. -/
abbrev Index := List (String × Nat)

/-- Notes the position of a reference; one that has a position keeps it. -/
def Index.note (index : Index) (ref : String) (position : Nat) : Index :=
  if (index.lookup ref).isSome then index else index ++ [(ref, position)]

/-- The index of a history, which is read from its most recent change on. -/
def indexOf (history : List Change) : Index :=
  history.zipIdx.foldl (fun index (c, position) => index.note c.ref position) []

/-- The part of a history from the most recent change with a reference on, nothing if there is none. -/
def since (history : List Change) (ref : String) : List Change :=
  match (indexOf history).lookup ref with
  | some position => history.drop position
  | none => []

/-- The most recent change with a reference. -/
def change (history : List Change) (ref : String) : Except Failure Change :=
  match since history ref with
  | [] => .error (.unknownReference ref)
  | c :: _ => .ok c

/-- Whether a visitor has seen enough. -/
inductive Verdict where
  | proceed
  | terminate
deriving DecidableEq, Repr

/-- A visitor of changes, which may keep a state and fail. -/
abbrev Visitor (σ : Type) := Change → ExceptT Failure (StateM σ) Verdict

/-- A visitor that may leave its verdict open, and then goes on. -/
def Visitor.ofAnswers {σ : Type} (answer : Change → ExceptT Failure (StateM σ) (Option Verdict)) : Visitor σ :=
  fun c => do return (← answer c).getD .proceed

/-- Shows changes to a visitor one by one until it has seen enough. -/
def walk {σ : Type} (visitor : Visitor σ) : List Change → ExceptT Failure (StateM σ) Unit
  | [] => pure ()
  | c :: rest => do
    match ← visitor c with
    | .terminate => pure ()
    | .proceed => walk visitor rest

/-- Shows the changes from a reference on to a visitor. -/
def visit {σ : Type} (history : List Change) (ref : String) (visitor : Visitor σ) :
    ExceptT Failure (StateM σ) Unit :=
  match since history ref with
  | [] => throw (.unknownReference ref)
  | changes => walk visitor changes

end Transplant.History
