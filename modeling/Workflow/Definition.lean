import Workflow.Task
import Workflow.Uuid

/-!
# Definitions of workflows

A definition is a list of tasks. A task names the tasks it depends on; each dependency may carry
a condition on the value that a decision came to, and a condition on the outcome of an ordinary
task.
-/

namespace Workflow

/-- That a task comes after another one, and when. -/
structure Dependency where
  on : String
  switch : Option SwitchCondition
  condition : Option ExecutionCondition
deriving DecidableEq, Repr

/-- A result that a task declares. -/
structure ResultParameter where
  name : String
  description : Option String
deriving DecidableEq, Repr

/-- A task as its author wrote it. The properties are sorted by name. -/
structure Task where
  id : String
  kind : TaskKind
  label : String
  templateId : Option String
  templateVersion : Option UInt32
  decisionValue : Option String
  properties : List (String × String)
  results : List ResultParameter
  dependencies : List Dependency
deriving DecidableEq, Repr

/-- The tasks of a workflow. -/
structure Definition where
  tasks : List Task
deriving DecidableEq, Repr

/-- One version of a workflow. -/
structure Revision where
  id : Uuid
  workflowId : Uuid
  version : UInt32
  definition : Definition
deriving DecidableEq, Repr

/-! ## Writing definitions by hand -/

/-- A dependency without conditions. -/
def Dependency.plain (on : String) : Dependency := ⟨on, none, none⟩

namespace Task

/-- A task that is labelled with its name and depends on nothing. -/
def new (id : String) (kind : TaskKind) : Task where
  id := id
  kind := kind
  label := id
  templateId := none
  templateVersion := none
  decisionValue := none
  properties := []
  results := []
  dependencies := []

/-- The task with one more dependency. -/
def dependsOn (task : Task) (dependency : Dependency) : Task :=
  { task with dependencies := task.dependencies ++ [dependency] }

/-- The task with a template, of a version or of any. -/
def withTemplate (task : Task) (template : String) (version : Option UInt32) : Task :=
  { task with templateId := some template, templateVersion := version }

end Task

/-- The first version of a new workflow with the given tasks. -/
def Revision.first (id workflowId : Uuid) (tasks : List Task) : Revision :=
  ⟨id, workflowId, 1, ⟨tasks⟩⟩

end Workflow
