import Transplant.Text.Digit
import Transplant.Text.Quoted

/-!
# Faults of the disk

Why the system refuses to work on a path. A fault has a number and fixed words, which its message puts
before the path; a path that the system cannot even be told of has only the words. Faults that are not told
apart here bring their number and words with them.
-/

namespace Transplant.Disk

/-- The numbers of the faults that are told apart. -/
def listedNumbers : List Nat :=
  [2, 13, 17, 20, 21, 36]

/-- Why the system refuses to work on a path. -/
inductive Fault where
  | missing
  | denied
  | taken
  | notDirectory
  | isDirectory
  | nameTooLong
  | nullByte
  | other (number : { n : Nat // n ∉ listedNumbers }) (words : String)
deriving DecidableEq, Repr

namespace Fault

/-- The number of a fault, if it has one. -/
def number? : Fault → Option Nat
  | .missing => some 2
  | .denied => some 13
  | .taken => some 17
  | .notDirectory => some 20
  | .isDirectory => some 21
  | .nameTooLong => some 36
  | .nullByte => none
  | .other number _ => some number

/-- The words of a fault. -/
def words : Fault → String
  | .missing => "No such file or directory"
  | .denied => "Permission denied"
  | .taken => "File exists"
  | .notDirectory => "Not a directory"
  | .isDirectory => "Is a directory"
  | .nameTooLong => "File name too long"
  | .nullByte => "embedded null byte"
  | .other _ words => words

/-- The message of a fault on a path. -/
def message (f : Fault) (path : String) : String :=
  match f.number? with
  | some n => "[Errno " ++ Text.decimal n ++ "] " ++ f.words ++ ": " ++ Text.quoted path
  | none => f.words

end Fault

end Transplant.Disk
