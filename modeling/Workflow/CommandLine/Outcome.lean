import Workflow.CommandLine.Invocation
import Workflow.Graph.Dot
import Workflow.Reachability

/-!
# Outcomes

What a run ends with: an exit code, text for the standard output, and what went wrong. A question
about a task that has no answer means that the task is not ready, unless the failure is fatal; the
log says why.
-/

namespace Workflow.CommandLine

/-- The end of a run. -/
structure Outcome where
  code : Nat
  output : String
  failure : Option String
  notReady : Option String
deriving Repr, DecidableEq

namespace Outcome

/-- A run that answers. -/
def answer (code : Nat) (line : String) : Outcome := ⟨code, line ++ "\n", none, none⟩

/-- A run that says what went wrong. -/
def failed (code : Nat) (message : String) : Outcome := ⟨code, "", some message, none⟩

/-- A run that finds a task not ready. -/
def unready (message : String) : Outcome := ⟨1, "", none, some message⟩

/-- A run that could not begin. -/
def misuse : Outcome := ⟨2, "", none, none⟩

/-- What is left of the end of a run when the log shows no more than a filter admits. -/
def logged (filter : LogFilter) (outcome : Outcome) : Outcome :=
  { outcome with
    notReady := if filter.admits unreadyLine then outcome.notReady.map logText else none }

end Outcome

/-- Why there is no snapshot. -/
inductive SnapshotFault where
  | unreadable
  | json (fault : Fault)
deriving Repr, DecidableEq

/-- Why there is no snapshot, in words. -/
def SnapshotFault.text : SnapshotFault → String
  | unreadable => "snapshot I/O error"
  | json fault =>
    "snapshot JSON error" ++
      match fault.message? with
      | some message => ": " ++ message
      | none => ""

/-- The store that the text of a snapshot describes. -/
def load (text : Option String) : Except SnapshotFault Store :=
  match text with
  | none => .error .unreadable
  | some text => (Store.ofText text).mapError .json

/-! ## Commands -/

/-- Whether the end can be reached from the start in a revision. -/
def validate (service : Service) (revision : Uuid) : Outcome :=
  match service.validate revision with
  | .error e => .failed 2 e.message
  | .ok true =>
    .answer 0 ("✅ Workflow revision " ++ revision.text ++ " has a path from start to end.")
  | .ok false =>
    .failed 1 ("Workflow revision " ++ revision.text ++ " has no path from start to end.")

/-- Whether a task can still be reached in an activity under a revision. -/
def canComplete (service : Service) (revision activity : Uuid) (task : String) : Outcome :=
  match service.canComplete revision activity task with
  | .ok true => .answer 0 ("✅ Task " ++ quoted task ++ " is reachable.")
  | .ok false => .answer 1 ("⏸  Task " ++ quoted task ++ " is not reachable.")
  | .error e => if e.isFatal then .failed 2 e.message else .unready e.message

/-- The drawing of the graph of a revision. -/
def graph (service : Service) (revision : Uuid) (activity : Option Uuid) : Outcome :=
  match service.prunedGraph revision activity with
  | .error e => .failed 2 e.message
  | .ok g => .answer 0 g.dot

/-- Runs a command on a store. Without a revision, a task is looked up under the revision that
its activity was started from. -/
def Command.run (store : Store) (limit : Nat) : Command → Outcome
  | .validate revision => CommandLine.validate (store.service limit) revision
  | .canComplete (some revision) activity task =>
    CommandLine.canComplete (store.service limit) revision activity task
  | .canComplete none activity task =>
    match store.activity? activity with
    | some row => CommandLine.canComplete (store.service limit) row.revisionId activity task
    | none => .failed 2 ("cannot find activity " ++ activity.text ++ ": row not found")
  | .graph revision activity => CommandLine.graph (store.service limit) revision activity

/-- Runs an invocation on the text of its snapshot, if that can be read. -/
def Invocation.run (invocation : Invocation) (text : Option String) : Outcome :=
  match load text with
  | .error fault =>
    .failed 2 ("cannot load snapshot " ++ invocation.snapshot ++ ": " ++ fault.text)
  | .ok store =>
    (invocation.command.run store (invocation.limit.getD Pattern.defaultLimit)).logged
      invocation.log

/-- The answer to a question that needs no run. -/
def Stop.outcome : Stop → Outcome
  | misuse => .misuse
  | asked "version" => .answer 0 "workflow-graph 0.1.0"
  | asked _ => ⟨0, "", none, none⟩

end Workflow.CommandLine
