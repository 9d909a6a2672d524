/-!
# Splitting text

A text cut at each occurrence of one character. There is one more piece than there are cuts, and
joining the pieces gives the text back.
-/

namespace Transplant.Text

/-- The pieces of a text between the occurrences of a character. -/
def splitOn (sep : Char) : List Char → List (List Char)
  | [] => [[]]
  | c :: cs =>
    if c == sep then [] :: splitOn sep cs
    else match splitOn sep cs with
      | [] => [[c]]
      | piece :: pieces => (c :: piece) :: pieces

/-- The lines of a text, cut at line feeds only. -/
def lines (cs : List Char) : List (List Char) :=
  splitOn '\n' cs

/-- A text up to its first line feed. -/
def firstLine (s : String) : String :=
  String.ofList (s.toList.takeWhile (· != '\n'))

/-- Pieces joined by one character. -/
def joinWith (sep : Char) : List (List Char) → List Char
  | [] => []
  | [piece] => piece
  | piece :: pieces => piece ++ sep :: joinWith sep pieces

end Transplant.Text
