import Transplant.Failure
import Transplant.Log.Record
import Transplant.Tree.Path

/-!
# Processes

A request to start the external tool and the ways in which that can end. An activity is the outcome
of an operation together with the processes it started and the records it logged, in order.
-/

namespace Transplant.Tree

/-- A byte string. -/
abbrev Bytes := List UInt8

/-- A process to start. -/
structure Request where
  command : List String
  directory : Path
  input : Option Bytes
  timeout : Nat
  ceiling : Path
deriving DecidableEq, Repr

/-- How the start of a process ended. The system may refuse it, because of the tool or of the path that it
names. It gives up, in words of its own, where the time that the process may take is longer than it can wait,
which is about 2147483 seconds; so the time of a process that timed out is a short number, as is the status of one
that completed. Left out are an interrupt while it waits and a lack of memory. -/
inductive Outcome where
  | completed (status : Int) (stdout stderr : Bytes)
  | failed (why : Disk.Fault) (path : Option String)
  | timedOut
  | overflowed (words : String)
deriving DecidableEq, Repr

/-- The tool is not there. -/
def Outcome.missing : Outcome := .failed .missing none

/-- The tool may not be executed. -/
def Outcome.denied : Outcome := .failed .denied none

/-- The outcome of an operation with what it did. -/
structure Activity (α : Type) where
  outcome : Except Failure α
  requests : List Request := []
  records : List Log.Record := []

/-- The environment of every process: the enclosing directory is out of reach for the search for a
repository, and the settings of the system are left aside. -/
def Request.environment (r : Request) : List (String × String) :=
  [("GIT_CEILING_DIRECTORIES", r.ceiling.text), ("GIT_CONFIG_NOSYSTEM", "1")]

end Transplant.Tree
