import Transplant.Number.Numeral
import Transplant.Text.Split

/-!
# Conflict reports

What the tool writes when a diff does not match a tree, one report a line: a hunk that failed
with its path and line number, or a file that does not apply. The first located report counts, and
without one the first that names a file.
-/

namespace Transplant.Tree.Conflict

/-- A line without the words that open it. -/
def afterWords (words : String) (line : List Char) : Option (List Char) :=
  if words.toList.isPrefixOf line then some (line.drop words.toList.length) else none

/-- A line without the words that close it. -/
def beforeWords (words : String) (line : List Char) : Option (List Char) :=
  if words.toList.isSuffixOf line then some (line.take (line.length - words.toList.length)) else none

/-- A text that is not empty. -/
def nonEmpty (cs : List Char) : Option (List Char) :=
  if cs.isEmpty then none else some cs

/-- The path and the digits of the line number in a report `path:number`; the path reaches to
the last colon. -/
def splitLocation (cs : List Char) : Option (List Char × List Char) :=
  let digits := (cs.reverse.takeWhile (· != ':')).reverse
  match cs.reverse.dropWhile (· != ':') with
  | _ :: path =>
    if path.isEmpty || digits.isEmpty || !digits.all Text.isDigit then none
    else some (path.reverse, digits)
  | [] => none

/-- The path and line number that a line reports. -/
def located? (line : List Char) : Option (List Char × List Char) :=
  (afterWords "error: patch failed: " line).bind splitLocation

/-- What can be wrong with a file as a whole. -/
def complaints : List String :=
  [": patch does not apply", ": already exists in working directory", ": No such file or directory"]

/-- The path of a file that a line reports. -/
def named? (line : List Char) : Option (List Char) :=
  (afterWords "error: " line).bind fun rest =>
    complaints.findSome? fun words => (beforeWords words rest).bind nonEmpty

/-- The conflict that the tool reports, if it reports one. -/
inductive Report where
  | located (path digits : List Char)
  | named (path : List Char)
deriving DecidableEq, Repr

/-- The conflict reported in a text. -/
def find? (cs : List Char) : Option Report :=
  let lines := Text.lines cs
  match lines.findSome? located? with
  | some (path, digits) => some (.located path digits)
  | none => (lines.findSome? named?).map .named

end Transplant.Tree.Conflict
