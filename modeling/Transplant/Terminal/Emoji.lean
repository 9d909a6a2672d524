import Transplant.Terminal.Lexicon
import Transplant.Text.Blank

/-!
# Picture codes

A name between colons stands for a picture, in any case and with an optional choice of its variant. A
name without a picture stays as it is.
-/

namespace Transplant.Terminal

variable [Lexicon]

/-- The variants of a picture and the characters that choose them. -/
def variants : List (String × Char) :=
  [("-emoji", '\ufe0f'), ("-text", '\ufe0e')]

/-- The picture with a name in any case, without its variant. -/
def picture? (name : List Char) : Option (List Char) :=
  Lexicon.picture? (Text.lower (String.ofList name))

/-- What the code between two colons stands for. -/
def code? (name : List Char) : Option (List Char) :=
  match variants.find? fun v => v.1.toList.isSuffixOf name with
  | some (suffix, mark) => (picture? (name.take (name.length - suffix.length))).map (· ++ [mark])
  | none => picture? name

/-- A text with pictures for their codes. -/
def replaceCodes : (fuel : Nat) → List Char → List Char
  | 0, cs => cs
  | _, [] => []
  | fuel + 1, c :: rest =>
    let name := rest.takeWhile fun x => x != ':' && !Text.isBlank x
    match c, rest.drop name.length with
    | ':', ':' :: after => (code? name).getD (':' :: name ++ [':']) ++ replaceCodes fuel after
    | _, _ => c :: replaceCodes fuel rest

end Transplant.Terminal
