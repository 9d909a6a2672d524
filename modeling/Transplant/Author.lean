import Transplant.Text.Blank

/-!
# Authors

The identity of the author of a change and its text `Name <email>`. A text is read by trimming it
and splitting it at its only pair of angle brackets.
-/

namespace Transplant

/-- The author of a change. -/
structure Author where
  name : String
  email : String
deriving DecidableEq, Repr, Inhabited

namespace Author

/-- Whether a character is neither of the angle brackets, which delimit the email address. -/
def isPlain (c : Char) : Bool :=
  c != '<' && c != '>'

/-- Reads `Name <email>`; blanks around the whole and before the bracket do not count. -/
def parse? (identity : String) : Option Author :=
  let cs := Text.trimBy Text.isBlank identity.toList
  match cs.dropWhile isPlain with
  | '<' :: rest =>
    if rest.dropWhile isPlain == ['>'] then
      some
        { name := String.ofList (Text.dropWhileEnd Text.isBlank (cs.takeWhile isPlain))
          email := String.ofList (rest.takeWhile isPlain) }
    else none
  | _ => none

/-- The text `Name <email>` of an author. -/
def text (a : Author) : String :=
  a.name ++ " <" ++ a.email ++ ">"

end Author

end Transplant
