import Transplant.Terminal.Markup
import Transplant.Terminal.Wrap

/-!
# Printing

What a terminal of limited width shows of a text with markup: the text without its tags, in lines that fit.
-/

namespace Transplant.Terminal

variable [Lexicon]

/-- What a terminal shows of a text with markup. -/
def rendered (width : Nat) (markup : String) : Except MarkupFault String :=
  (Markup.visible markup).map fun cs => String.ofList (layOut width cs)

/-- A line that is printed on a terminal. -/
def printed (width : Nat) (markup : String) : Except MarkupFault String :=
  (rendered width markup).map (· ++ "\n")

end Transplant.Terminal
