import Transplant.Console
import Transplant.Terminal.Print

/-!
# Consoles on a screen

A console for an operator at a terminal. Texts are shown word for word behind a coloured title, and a question
is asked until the reply is yes or no. An operator who goes away declines.
-/

namespace Transplant

/-- A terminal with lines of a width; it may take yes for the answer to every question. -/
structure Screen where
  width : Nat := 80
  assumesYes : Bool := false
deriving DecidableEq, Repr

/-- What an operator does at a prompt: types a line or breaks off. Where nothing is left the input
is at its end. -/
inductive Reply where
  | line (text : String)
  | interrupt
deriving DecidableEq, Repr

namespace Screen

variable [Terminal.Lexicon]

/-- The title of a channel, in its colour. -/
def title : Channel → String
  | .info => "[blue]INFO:[/blue]"
  | .warn => "[yellow]WARN:[/yellow]"
  | .error => "[red]ERROR:[/red]"
  | .progress => "[green]Task:[/green]"

/-- What the screen shows of a text on a channel. -/
def say (s : Screen) (channel : Channel) (text : String) : Except Terminal.MarkupFault String :=
  Terminal.printed s.width (title channel ++ " " ++ Terminal.Markup.escape text)

/-! ## Questions -/

/-- What the choices at a prompt look like. -/
def choices : List Char :=
  " [y/n]: ".toList

/-- The prompt for a question; the cursor stays behind it. -/
def prompt (s : Screen) (text : String) : Except Terminal.MarkupFault String :=
  (Terminal.Markup.visible (Terminal.Markup.escape text)).map fun shown =>
    String.ofList (Terminal.layOut s.width (shown ++ choices))

/-- The answer that a typed line gives: a single letter in either case, between blanks. -/
def answer? (line : String) : Option Bool :=
  match (Text.trim line).toList with
  | ['y'] | ['Y'] => some true
  | ['n'] | ['N'] => some false
  | _ => none

/-- The request to reply with one of the choices. -/
def insistence (s : Screen) : String :=
  String.ofList (Terminal.layOut s.width "Please enter Y or N".toList) ++ "\n"

/-- What is shown while the operator replies to a prompt, the answer and the replies that are left. -/
def consult (s : Screen) (shown : String) : List Reply → String × Bool × List Reply
  | [] => (shown ++ "\n", false, [])
  | .interrupt :: rest => (shown ++ "\n", false, rest)
  | .line typed :: rest =>
    match answer? typed with
    | some answer => (shown, answer, rest)
    | none =>
      let (more, answer, rest) := consult s shown rest
      (shown ++ s.insistence ++ more, answer, rest)

/-- Asks a question: what is shown, the answer and the replies that are left. -/
def ask (s : Screen) (replies : List Reply) (text : String) :
    Except Terminal.MarkupFault (String × Bool × List Reply) :=
  if s.assumesYes then (s.say .info (text ++ " (assumed yes)")).map fun shown => (shown, true, replies)
  else (s.prompt text).map fun shown => s.consult shown replies

end Screen

namespace Console

variable [Terminal.Lexicon]

/-- What the screen behind a stack of labels shows of a text. -/
def showOn (c : Console Screen) (channel : Channel) (text : String) : Except Terminal.MarkupFault String :=
  c.bottom.say channel (c.decorate text)

/-- Asks a question on the screen behind a stack of labels. -/
def askOn (c : Console Screen) (replies : List Reply) (text : String) :
    Except Terminal.MarkupFault (String × Bool × List Reply) :=
  c.bottom.ask replies (c.decorate text)

end Console

end Transplant
