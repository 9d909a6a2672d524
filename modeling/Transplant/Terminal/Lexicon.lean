import Transplant.Text.Lower

/-!
# Lexicons

What the markup of a terminal takes from elsewhere: the pictures that have a code, of which there are thousands, and
the reader of the literals that a tag may hand over behind its name. All that is shown depends on them, so
they are a parameter of what follows.
-/

namespace Transplant.Terminal

/-- Why a text is not taken for a literal, in the words of the reader: it does not follow the grammar of literals, or
it is refused for another reason. -/
inductive LiteralFault where
  | grammar (words : String)
  | other (words : String)
deriving DecidableEq, Repr

/-- The pictures by their names in small letters, each of one character or several, and the reader of literals. A
picture has no more characters than its code has, with the colons, in whatever letters the code is written. -/
class Lexicon where
  picture? : (name : String) → Option (List Char)
  readLiteral : List Char → Except LiteralFault Unit
  length_picture_le : ∀ (name : List Char) (picture : List Char),
    picture? (Text.lower (String.ofList name)) = some picture → picture.length ≤ name.length + 2

end Transplant.Terminal
