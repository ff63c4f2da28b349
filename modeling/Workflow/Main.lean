import Workflow.CommandLine.Outcome

/-!
# The program

Reads the words of the command line, the environment and the snapshot, and prints the outcome.
-/

namespace Workflow.CommandLine

/-- The text of a file, if it can be read. -/
def readText (path : String) : IO (Option String) := do
  match ← (IO.FS.readFile path).toBaseIO with
  | .ok text => return some text
  | .error _ => return none

/-- Prints what a run ends with. -/
def report (outcome : Outcome) : IO UInt32 := do
  IO.print outcome.output
  match outcome.failure with
  | some message => IO.eprintln ("❌ " ++ message)
  | none => pure ()
  match outcome.notReady with
  | some message =>
    IO.eprintln ("ERROR reachability check failed, task treated as not ready: " ++ message)
  | none => pure ()
  return outcome.code.toUInt32

end Workflow.CommandLine

open Workflow.CommandLine in
/-- The program. -/
def main (words : List String) : IO UInt32 := do
  let snapshot ← IO.getEnv "WORKFLOW_SNAPSHOT"
  let limit ← IO.getEnv "WORKFLOW_REGEX_SIZE_LIMIT"
  let log ← IO.getEnv logVariable
  let environment (name : String) : Option String :=
    if name = "WORKFLOW_SNAPSHOT" then snapshot
    else if name = "WORKFLOW_REGEX_SIZE_LIMIT" then limit
    else if name = logVariable then log
    else none
  match Invocation.ofWords environment words with
  | .error stop => report stop.outcome
  | .ok invocation =>
    let text ← readText invocation.snapshot
    report (invocation.run text)
