import Transplant.Command.Signature

/-!
# Pages

What a command says about itself: how it is called, what it does, and its switches and commands in two columns.
-/

namespace Transplant.Command

namespace Switch

/-- A switch as pages name it. -/
def heading (s : Switch) : String :=
  let kind := s.shape?.elim "" fun shape => " " ++ shape.kindName
  ", ".intercalate (s.short?.toList ++ [s.long]) ++ kind

end Switch

/-- Entries in two columns, the second one two cells behind the widest of the first. -/
def twoColumns (entries : List (String × String)) : String :=
  let width := (entries.map fun e => e.1.length).foldl max 0
  String.join (entries.map fun (name, text) =>
    "  " ++ name ++ String.ofList (List.replicate (width - name.length + 2) ' ') ++ text ++ "\n")

namespace Signature

/-- How a command is called. -/
def usage (s : Signature) : String :=
  let operands := if s.isGroup then ["COMMAND", "[ARGS]..."] else s.arguments.map (·.name)
  "Usage: " ++ " ".intercalate (s.call :: "[OPTIONS]" :: operands) ++ "\n"

/-- The page of a command. -/
def page (s : Signature) : String :=
  s.usage ++ "\n  " ++ s.summary ++ "\n\nOptions:\n" ++
    twoColumns (s.switches.map fun w => (w.heading, w.summary)) ++
    if s.isGroup then "\nCommands:\n" ++ twoColumns s.commands else ""

end Signature

end Transplant.Command
