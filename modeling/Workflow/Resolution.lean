import Workflow.Sources

/-!
# Resolving tasks

A definition becomes a list of nodes, task by task. For each task its record is looked up first
and its template after it; the first failure is reported.
-/

namespace Workflow

/-- The template revision that a task runs. The results it declares itself count only where the
revision has none. -/
def Task.resolveTemplate (sources : Sources) (task : Task) : Except Error ResolvedTemplate :=
  match task.templateId with
  | none => .error (.missingTemplate task.id task.kind)
  | some template => do
    let revisions ← (sources.templates template).named "task template"
    match TemplateRevision.select revisions task.templateVersion with
    | none => .error (.emptyTemplate template)
    | some revision =>
      .ok ⟨template, revision, task.properties,
        if revision.results.isEmpty then task.results else revision.results⟩

/-- What the node of a task does. -/
def Task.nodeKind (sources : Sources) (task : Task) : Except Error NodeKind :=
  match task.kind with
  | .start => .ok .start
  | .finish => .ok .finish
  | .decision => .ok (.decision task.decisionValue)
  | kind => (task.resolveTemplate sources).map (.task kind)

/-- The record of a task in an activity; without an activity there is none. -/
def Task.recordIn (sources : Sources) (activity : Option Uuid) (task : Task) :
    Except Error (Option Record) :=
  match activity with
  | none => .ok none
  | some activity => (sources.record activity task.id).named "task status"

/-- The node of a task. -/
def Task.node (sources : Sources) (activity : Option Uuid) (task : Task) : Except Error Node := do
  let record ← task.recordIn sources activity
  let kind ← task.nodeKind sources
  .ok ⟨task.id, task.label, kind, task.dependencies, record⟩

/-- The nodes of all tasks of a definition. -/
def Definition.nodes (sources : Sources) (activity : Option Uuid) (definition : Definition) :
    Except Error (List Node) :=
  definition.tasks.mapM (Task.node sources activity)

end Workflow
