import Workflow.Text.Pieces

/-!
# Kinds, statuses and conditions

The vocabularies of a workflow: what kind of task there is, what a task runner records about it,
and on which outcome, or on which value of a decision, the work goes on.

A condition on the value of a decision is a list of patterns, one to a line. It is stored as one
text with a newline between the lines; a condition without lines is not the same as no condition.
-/

namespace Workflow

/-! ## Kinds of tasks -/

/-- What kind of task it is. -/
inductive TaskKind where
  | start
  | finish
  | script
  | template
  | custom
  | decision
deriving Repr, DecidableEq

namespace TaskKind

/-- The kinds in their order. -/
def all : List TaskKind := [start, finish, script, template, custom, decision]

/-- The name of a kind. -/
def name : TaskKind → String
  | start => "start"
  | finish => "end"
  | script => "script"
  | template => "template"
  | custom => "customtask"
  | decision => "decision"

/-- Whether tasks of this kind run a template. -/
def usesTemplate : TaskKind → Bool
  | script => true
  | template => true
  | custom => true
  | _ => false

end TaskKind

/-! ## Statuses -/

/-- What a task runner reports about a task. -/
inductive Status where
  | notStarted
  | inProgress
  | waiting
  | completed
  | failed
  | skipped
  | cancelled
  | invalid
deriving Repr, DecidableEq

namespace Status

/-- The statuses in their order. -/
def all : List Status :=
  [notStarted, inProgress, waiting, completed, failed, skipped, cancelled, invalid]

/-- The name of a status. -/
def name : Status → String
  | notStarted => "notstarted"
  | inProgress => "inprogress"
  | waiting => "waiting"
  | completed => "completed"
  | failed => "failure"
  | skipped => "skipped"
  | cancelled => "cancelled"
  | invalid => "invalid"

/-- The status with a name. -/
def ofName? (name : String) : Option Status := all.find? fun s => s.name == name

/-- Whether the status says how the task ended. No other status has any effect on the graph. -/
def isOutcome : Status → Bool
  | completed => true
  | failed => true
  | _ => false

theorem ofName?_name (s : Status) : ofName? s.name = some s := by cases s <;> decide

end Status

/-! ## Conditions on outcomes -/

/-- On which outcome of a task the work goes on. -/
inductive ExecutionCondition where
  | success
  | failure
  | always
deriving Repr, DecidableEq

namespace ExecutionCondition

/-- The conditions in their order. -/
def all : List ExecutionCondition := [success, failure, always]

/-- The name of a condition. -/
def name : ExecutionCondition → String
  | success => "success"
  | failure => "failure"
  | always => "always"

/-- Whether the work goes on after a task with this status. -/
def admits : ExecutionCondition → Status → Bool
  | always, _ => true
  | success, .completed => true
  | failure, .failed => true
  | _, _ => false

end ExecutionCondition

/-! ## Conditions on values -/

/-- The lines of a switch condition; none of them is empty. -/
structure SwitchCondition where
  lines : List String
  nonempty : ∀ line ∈ lines, line ≠ ""
deriving DecidableEq, Repr

namespace SwitchCondition

/-- The condition made of the lines that are not empty. -/
def ofLines (lines : List String) : SwitchCondition :=
  ⟨lines.filter (· ≠ ""), by simp⟩

/-- Reads a stored condition: the text is cut into lines, and carriage returns that are still at the
end of a line do not belong to it. -/
def ofText (text : String) : SwitchCondition :=
  ofLines ((Text.lines text.toList).map fun line =>
    String.ofList (Text.dropTrailing '\r' line))

/-- The stored form. -/
def text (condition : SwitchCondition) : String :=
  String.ofList (Text.join '\n' (condition.lines.map String.toList))

end SwitchCondition

end Workflow
