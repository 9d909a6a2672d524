import Transplant.Terminal.Literal

/-!
# A small lexicon

A lexicon with two pictures, for runs and examples.
-/

namespace Transplant.Terminal.SmallLexicon

/-- Two of the pictures that have a code. -/
def pictures : List (String × Char) :=
  [("smile", '😄'), ("warning", '⚠')]

/-- The lexicon of these pictures, in which literals are read symbol by symbol. -/
scoped instance lexicon : Lexicon where
  picture? name := (pictures.find? fun p => p.1 == name).map ([·.2])
  readLiteral cs := (Literal.check cs).mapError Literal.Fault.told
  length_picture_le name picture h := by
    obtain ⟨p, -, rfl⟩ := Option.map_eq_some_iff.1 h
    rw [List.length_singleton]
    omega

end Transplant.Terminal.SmallLexicon
