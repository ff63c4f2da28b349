import Workflow.CommandLine.Log
import Workflow.Uuid

/-!
# Invocations

What a command line asks for: a command, the snapshot it works on, the size that patterns may
have, and what is logged. The snapshot and the size may also come from the environment, which does
not count where the command line has them; for the log it is the environment that counts.
-/

namespace Workflow.CommandLine

/-- A command. -/
inductive Command where
  | validate (revision : Uuid)
  | canComplete (revision : Option Uuid) (activity : Uuid) (task : String)
  | graph (revision : Uuid) (activity : Option Uuid)
deriving Repr, DecidableEq

/-- A command with the settings it runs under. -/
structure Invocation where
  snapshot : String
  limit : Option Nat
  log : LogFilter
  command : Command
deriving Repr, DecidableEq

/-! ## Values of options -/

/-- Whether a text can be the path of a file. -/
def isPath (text : String) : Bool := text ≠ ""

/-- An option whose value is an identifier. -/
def identifier (name : String) : Parameter :=
  ⟨name, none, .value fun text => (Uuid.ofText? text).isSome⟩

/-- The question for the usage, which can be asked everywhere. -/
def help : Parameter := ⟨"help", some 'h', .question⟩

/-- The options before the command. -/
def settings : List Parameter :=
  [⟨"snapshot", none, .value isPath⟩,
    ⟨"regex-size-limit", none, .value fun text => (wholeNumber? text).isSome⟩,
    ⟨"verbose", some 'v', .flag⟩, ⟨"version", some 'V', .question⟩, help]

/-! ## Commands -/

/-- An option that has to be given. -/
def Given.need (given : Given) (read : String → Option α) (name : String) : Except Stop α :=
  match (given.lookup name).bind read with
  | some x => .ok x
  | none => .error .misuse

/-- Reads the options of a command. No other words may follow them. -/
def readAll (parameters : List Parameter) (words : List String) : Except Stop Given := do
  let (given, rest) ← readOptions (help :: parameters) [] words
  if rest.isEmpty || rest == ["--"] then .ok given else .error .misuse

/-- The names of the commands. -/
def commandNames : List String := ["validate", "can-complete", "graph", "help"]

/-- Reads a command from its name and the words behind it. -/
def readCommand (name : String) (words : List String) : Except Stop Command :=
  match name with
  | "validate" => do
    let given ← readAll [identifier "revision"] words
    let revision ← Given.need given Uuid.ofText? "revision"
    .ok (.validate revision)
  | "can-complete" => do
    let given ← readAll [identifier "revision", identifier "activity",
      ⟨"task", none, .value fun _ => true⟩] words
    let activity ← Given.need given Uuid.ofText? "activity"
    let task ← Given.need given some "task"
    .ok (.canComplete ((given.lookup "revision").bind Uuid.ofText?) activity task)
  | "graph" => do
    let given ← readAll [identifier "revision", identifier "activity"] words
    let revision ← Given.need given Uuid.ofText? "revision"
    .ok (.graph revision ((given.lookup "activity").bind Uuid.ofText?))
  | "help" =>
    match words with
    | [] => .error (.asked "help")
    | [topic] => .error (if commandNames.contains topic then .asked "help" else .misuse)
    | _ => .error .misuse
  | _ => .error .misuse

/-! ## Settings -/

/-- The snapshot to work on. -/
def readSnapshot (environment : String → Option String) (given : Given) : Except Stop String :=
  match (given.lookup "snapshot").or (environment "WORKFLOW_SNAPSHOT") with
  | some path => if isPath path then .ok path else .error .misuse
  | none => .error .misuse

/-- The size that patterns may have, if there is a setting for it. -/
def readLimit (environment : String → Option String) (given : Given) :
    Except Stop (Option Nat) :=
  match (given.lookup "regex-size-limit").or (environment "WORKFLOW_REGEX_SIZE_LIMIT") with
  | some text =>
    match wholeNumber? text with
    | some limit => .ok (some limit)
    | none => .error .misuse
  | none => .ok none

/-- Reads a command line. -/
def Invocation.ofWords (environment : String → Option String) (words : List String) :
    Except Stop Invocation := do
  let (given, rest) ← readOptions settings [] words
  match rest with
  | [] => .error .misuse
  | name :: words =>
    let command ← readCommand name words
    let snapshot ← readSnapshot environment given
    let limit ← readLimit environment given
    let log := LogFilter.inForce (environment logVariable) (given.lookup "verbose").isSome
    .ok ⟨snapshot, limit, log, command⟩

end Workflow.CommandLine
