import Transplant.Console
import Transplant.Log.Record

/-!
# Recording consoles

A console for runs that nobody watches: every text becomes a log record, and every question gets the
same answer, which is recorded with it.
-/

namespace Transplant

/-- A console that writes to the log and always gives one answer. -/
structure Recorder where
  answer : Bool := false
deriving DecidableEq, Repr

namespace Recorder

/-- The component under which a console writes to the log. -/
def component : String := "Console"

/-- The severity of a channel in the log; progress is information. -/
def level : Channel → Log.Level
  | .info | .progress => .info
  | .warn => .warning
  | .error => .error

/-- The record of a text. -/
def said (channel : Channel) (text : String) : Log.Record :=
  ⟨level channel, some component, text⟩

/-- The record of a question with its answer. -/
def asked (r : Recorder) (text : String) : Log.Record :=
  ⟨.warning, some component, text ++ " -> " ++ if r.answer then "yes" else "no"⟩

end Recorder

namespace Console

/-- The record that a text leaves behind a stack of labels. -/
def recordOf (c : Console Recorder) (channel : Channel) (text : String) : Log.Record :=
  Recorder.said channel (c.decorate text)

/-- The record that a question leaves behind a stack of labels, and the answer to it. -/
def recordAsking (c : Console Recorder) (text : String) : Log.Record × Bool :=
  (c.bottom.asked (c.decorate text), c.bottom.answer)

end Console

end Transplant
