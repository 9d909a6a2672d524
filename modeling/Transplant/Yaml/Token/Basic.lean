import Transplant.Yaml.Cursor

/-!
# Tokens

The pieces that a YAML document is made of. Indentation shows as the start and end of block
collections, and every key has a token in front of it, also when the document does not mark it.
-/

namespace Transplant.Yaml

/-- The content of a scalar. A plain one has no quotes; `halves` are all its code points if an escape
named half of a surrogate pair, which no text can hold. -/
structure Scalar where
  text : List Char
  plain : Bool
  halves : Option (List Nat) := none
deriving DecidableEq, Repr, Inhabited

/-- A piece of a document. -/
inductive Token where
  | version (major : Nat)
  | tagHandle (handle expansion : List Char)
  | directive
  | documentStart
  | documentEnd
  | streamEnd
  | blockSequenceStart
  | blockMappingStart
  | blockEnd
  | flowSequenceStart
  | flowSequenceEnd
  | flowMappingStart
  | flowMappingEnd
  | flowEntry
  | blockEntry
  | key
  | value
  | alias (name : List Char)
  | anchor (name : List Char)
  | tag (handle : Option (List Char)) (suffix : List Char)
  | scalar (s : Scalar)
deriving DecidableEq, Repr, Inhabited

/-- What messages call a piece of a document. -/
def Token.name : Token → String
  | .version _ | .tagHandle .. | .directive => "<directive>"
  | .documentStart => "<document start>"
  | .documentEnd => "<document end>"
  | .streamEnd => "<stream end>"
  | .blockSequenceStart => "<block sequence start>"
  | .blockMappingStart => "<block mapping start>"
  | .blockEnd => "<block end>"
  | .flowSequenceStart => "["
  | .flowSequenceEnd => "]"
  | .flowMappingStart => "\x7b"
  | .flowMappingEnd => "\x7d"
  | .flowEntry => ","
  | .blockEntry => "-"
  | .key => "?"
  | .value => ":"
  | .alias _ => "<alias>"
  | .anchor _ => "<anchor>"
  | .tag .. => "<tag>"
  | .scalar _ => "<scalar>"

/-- A piece of a document with the places where it starts and where it ends. -/
structure Piece where
  token : Token
  start : Mark
  stop : Mark
deriving DecidableEq, Repr, Inhabited

end Transplant.Yaml
