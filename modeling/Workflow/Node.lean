import Workflow.Template

/-!
# Nodes

A node is a task with everything it needs within one activity: its template, and what was last
recorded about it.
-/

namespace Workflow

/-- What was recorded about a task. -/
structure Record where
  status : Status
  switchValue : Option String
deriving Repr, DecidableEq

/-- The template revision that a task runs, with the inputs and results it has there. -/
structure ResolvedTemplate where
  templateId : String
  revision : TemplateRevision
  inputs : List (String × String)
  results : List ResultParameter
deriving Repr, DecidableEq

/-- What a node does. -/
inductive NodeKind where
  | start
  | finish
  | decision (value : Option String)
  | task (kind : TaskKind) (template : ResolvedTemplate)
deriving Repr, DecidableEq

/-- A task within an activity. -/
structure Node where
  id : String
  label : String
  kind : NodeKind
  dependencies : List Dependency
  record : Option Record
deriving Repr, DecidableEq

/-- Whether the node only marks the beginning or the end. -/
def NodeKind.isSentinel : NodeKind → Bool
  | start => true
  | finish => true
  | _ => false

/-- How the task ended, if it did. -/
def Node.outcome? (node : Node) : Option Status :=
  (node.record.map Record.status).filter Status.isOutcome

end Workflow
