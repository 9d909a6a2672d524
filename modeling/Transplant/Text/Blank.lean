/-!
# Blank characters

Whitespace and trimming. A blank is a character that Unicode counts as white space, or one of
the four information separators U+001C to U+001F.
-/

namespace Transplant.Text

/-- Whether a character is whitespace. -/
def isBlank (c : Char) : Bool :=
  let n := c.toNat
  (9 ≤ n && n ≤ 13) || (28 ≤ n && n ≤ 32) || n == 0x85 || n == 0xa0 || n == 0x1680 ||
    (0x2000 ≤ n && n ≤ 0x200a) || n == 0x2028 || n == 0x2029 || n == 0x202f || n == 0x205f ||
    n == 0x3000

/-- Whether a character has the property White_Space, which the information separators lack. -/
def isWhiteSpace (c : Char) : Bool :=
  isBlank c && !(28 ≤ c.toNat && c.toNat ≤ 31)

/-- A run of characters without the ones at its end that satisfy `p`. -/
def dropWhileEnd (p : Char → Bool) (cs : List Char) : List Char :=
  (cs.reverse.dropWhile p).reverse

/-- A run of characters without its leading and trailing ones that satisfy `p`. -/
def trimBy (p : Char → Bool) (cs : List Char) : List Char :=
  dropWhileEnd p (cs.dropWhile p)

/-- A text without its leading and trailing whitespace. -/
def trim (s : String) : String :=
  String.ofList (trimBy isBlank s.toList)

/-- A text without its trailing whitespace. -/
def trimEnd (s : String) : String :=
  String.ofList (dropWhileEnd isBlank s.toList)

/-- Whether a text has no character other than whitespace. -/
def allBlank (s : String) : Bool :=
  s.toList.all isBlank

end Transplant.Text
