import Transplant.Settings.Basic
import Transplant.Tree.Conflict
import Transplant.Tree.Process

/-!
# Tree differences

The difference of two sibling directories, and its replay onto a third one, both done by an external
tool. What the tool is asked to do depends on the arguments alone; its exit status and its messages
decide the outcome.
-/

namespace Transplant.Tree

/-- Starts a process and returns its outcome. -/
abbrev Starter := Request → Outcome

/-- The component under which the tool's work is logged. -/
def component : String := "GitDiffEngine"

/-- The text of the tool's messages. -/
def messagesOf (bytes : Bytes) : String :=
  String.ofList (Text.decodeLenient bytes)

/-- The status and output of a completed process, or the failure to start or finish it. What is missing counts
as a failure of the tool; any other fault of the system is told as it is, and so is an overflow. -/
def completion (r : Request) : Outcome → Except Failure (Int × Bytes × Bytes)
  | .completed status stdout stderr => .ok (status, stdout, stderr)
  | .failed why path =>
    let binary := r.command.headD ""
    let about := path.getD binary
    if why = .missing then
      .error (.tool ("Cannot execute " ++ Text.quoted binary ++ ": " ++ why.message about) "")
    else .error (.disk why about)
  | .timedOut =>
    .error (.tool ("'" ++ " ".intercalate (r.command.take 2) ++ "' timed out after " ++
      Text.decimal r.timeout ++ "s") "")
  | .overflowed words => .error (.raised .overflow words)

/-- The record of a process that is about to start. -/
def executing (r : Request) : Log.Record :=
  ⟨.debug, some component,
    "Executing: " ++ " ".intercalate r.command ++ " (cwd: " ++ r.directory.text ++ ")"⟩

/-- The record of the tool's messages, which is made on demand and when there are any. -/
def echoed (verbose : Bool) (stderr : Bytes) : List Log.Record :=
  if verbose && !stderr.isEmpty then
    [⟨.info, some component, Text.trimEnd (messagesOf stderr)⟩]
  else []

/-- Starts a process and judges its status and output. -/
def start {α : Type} (git : Starter) (r : Request) (verbose : Bool)
    (judge : Int → Bytes → Bytes → Except Failure α) : Activity α :=
  match completion r (git r) with
  | .error e => { outcome := .error e, requests := [r], records := [executing r] }
  | .ok (status, stdout, stderr) =>
    { outcome := judge status stdout stderr
      requests := [r]
      records := executing r :: echoed verbose stderr }

/-- An operation that ends before any process starts. -/
def refuse {α : Type} (e : Failure) : Activity α :=
  { outcome := .error e }

/-! ## Difference -/

/-- The arguments of a comparison up to the names of the directories. Those follow `--`, so that no
name is taken for an option. -/
def comparison (binary : String) : List String :=
  [ binary, "diff", "--no-index", "--no-color", "--no-ext-diff", "--binary", "--no-renames"
  , "--src-prefix=a/", "--dst-prefix=b/", "--" ]

/-- The comparison of two names in one directory. -/
def compareRequest (s : Settings.Diff) (left right : Path) : Request :=
  { command := comparison s.gitBinary ++ [left.name, right.name]
    directory := left.parent
    input := none
    timeout := s.timeout
    ceiling := left.parent.parent }

/-- The difference that a comparison found: status 0 means none and status 1 some, but messages
beside a difference mean that it failed. -/
def judgeComparison (status : Int) (stdout stderr : Bytes) : Except Failure Bytes :=
  if (status != 0 && status != 1) || (status == 1 && !stderr.isEmpty) then
    let messages := messagesOf stderr
    .error (.tool ("Error executing 'git diff' (exit status " ++ Text.signed status ++ "): " ++ messages)
      messages)
  else .ok stdout

/-- The difference of two sibling directories; equal ones have an empty one. -/
def diff (s : Settings.Diff) (cwd : Path) (git : Starter) (left right : String) (verbose : Bool) :
    Activity Bytes :=
  let l := Path.resolve cwd left
  let r := Path.resolve cwd right
  if l.parent = r.parent then start git (compareRequest s l r) verbose judgeComparison
  else refuse (.notSiblings left right)

/-! ## Replay -/

/-- How a difference is replayed. -/
structure PatchOptions where
  stripSlashes : Int := 0
  excludedPaths : List String := []
  verbose : Bool := false
  reverse : Bool := false
deriving DecidableEq, Repr

/-- The arguments of a replay: every pattern is one argument that starts with its option's name, and
`-` stands for the standard input. There are none where the number of leading components cannot be written. -/
def replayArguments (binary : String) (o : PatchOptions) : Except Numeral.Fault (List String) := do
  let count ← Numeral.write o.stripSlashes
  return [binary, "apply", "-p" ++ count] ++
    (if o.verbose then ["-v"] else []) ++
    o.excludedPaths.map ("--exclude=" ++ ·) ++
    (if o.reverse then ["-R"] else []) ++ ["-"]

/-- The replay of a difference in a directory. -/
def replayRequest (s : Settings.Diff) (target : Path) (contents : Bytes) (o : PatchOptions) :
    Except Numeral.Fault Request := do
  return {
    command := ← replayArguments s.gitBinary o
    directory := target
    input := some contents
    timeout := s.timeout
    ceiling := target.parent }

/-- Why a replay failed, by its status and messages: a conflict where the messages report one. -/
def replayFailure (status : Int) (messages : String) : Failure :=
  let text := Text.trim messages
  match Conflict.find? messages.toList with
  | some (.located path digits) =>
    match Numeral.ofDigits digits with
    | .ok n => .conflict ("Error executing 'patch': " ++ text) (some (String.ofList path)) (some n) messages
    | .error why => .badNumeral why
  | some (.named path) =>
    .conflict ("Error executing 'patch': " ++ text) (some (String.ofList path)) none messages
  | none =>
    .tool ("Error executing 'patch' (exit status " ++ Text.signed status ++ "): " ++ text) messages

/-- Status 0 means that the difference was replayed, whatever the messages. -/
def judgeReplay (status : Int) (_stdout stderr : Bytes) : Except Failure Unit :=
  if status == 0 then .ok () else .error (replayFailure status (messagesOf stderr))

/-- Replays a difference onto a directory. An empty difference changes nothing and starts nothing, and neither does
one whose arguments cannot be written. -/
def patch (s : Settings.Diff) (cwd : Path) (git : Starter) (target : String) (contents : Bytes)
    (o : PatchOptions) : Activity Unit :=
  if o.stripSlashes < 0 then refuse (.refused .negativeStrip)
  else if contents.isEmpty then { outcome := .ok () }
  else match replayRequest s (Path.resolve cwd target) contents o with
    | .error why => refuse (.badNumeral why)
    | .ok r => start git r o.verbose judgeReplay

end Transplant.Tree
