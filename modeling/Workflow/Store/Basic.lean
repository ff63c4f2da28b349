import Workflow.Store.Table
import Workflow.Store.Rows

/-!
# Stores

A store has four tables. It changes by whole rows only: a new revision, a new activity, the
record of a task, a template. Each write names the key that the row is filed under. Identifiers and
times come from outside.
-/

namespace Workflow

/-- The tables of a store. -/
structure Store where
  revisions : Table RevisionRow.id
  activities : Table ActivityRow.id
  executions : Table ExecutionRow.key
  templates : Table TemplateRow.id

namespace Store

/-- The store without rows. -/
def empty : Store := ⟨.empty, .empty, .empty, .empty⟩

/-! ## Whole stores -/

/-- The store with the rows of a snapshot; of several rows with one key the last counts. -/
def ofSnapshot (s : Snapshot) : Store where
  revisions := .ofRows s.revisions
  activities := .ofRows s.activities
  executions := .ofRows s.executions
  templates := .ofRows s.templates

/-- Every row of the store. -/
def snapshot (store : Store) : Snapshot where
  revisions := store.revisions.rows
  activities := store.activities.rows
  executions := store.executions.rows
  templates := store.templates.rows

/-- The store that a text describes. -/
def ofText (text : String) : Except Fault Store :=
  (Decoder.snapshot.ofText text).map ofSnapshot

/-! ## Writing -/

/-- Adds a revision of a workflow. -/
def insertRevision (store : Store) (id workflowId : Uuid) (version : UInt32) (dag : Json) : Store :=
  { store with revisions := store.revisions.put id ⟨id, workflowId, version, dag⟩ rfl }

/-- Starts an activity. -/
def createActivity (store : Store) (id revisionId : Uuid) (now : Instant) : Store :=
  { store with activities := store.activities.put id ⟨id, revisionId, now⟩ rfl }

/-- Records the status of a task within an activity. -/
def record (store : Store) (id activityId : Uuid) (taskId status : String)
    (switchValue : Option String) (now : Instant) : Store :=
  { store with
    executions := store.executions.put (activityId, taskId)
      ⟨id, activityId, taskId, status, switchValue, now⟩ rfl }

/-- Writes a template. -/
def putTemplate (store : Store) (row : TemplateRow) : Store :=
  { store with templates := store.templates.put row.id row rfl }

/-! ## Looking up -/

/-- The revision with an identifier. -/
def revision? (store : Store) (id : Uuid) : Option RevisionRow := store.revisions.get? id

/-- The activity with an identifier. -/
def activity? (store : Store) (id : Uuid) : Option ActivityRow := store.activities.get? id

/-- The record of a task within an activity. -/
def execution? (store : Store) (activityId : Uuid) (taskId : String) : Option ExecutionRow :=
  store.executions.get? (activityId, taskId)

/-- The template with an identifier. -/
def template? (store : Store) (id : String) : Option TemplateRow := store.templates.get? id

/-- Whether a record is not newer than another. Only the order of times matters to anyone; that
records of the same time go by task is a choice made here, so that there is one order. -/
def recordedBefore (a b : ExecutionRow) : Bool :=
  if a.recordedAt = b.recordedAt then a.taskId ≤ b.taskId else a.recordedAt.notAfter b.recordedAt

/-- All records of an activity, oldest first. Nothing is promised of the order among records of the
same time. -/
def executionsOf (store : Store) (activityId : Uuid) : List ExecutionRow :=
  (store.executions.rows.filter fun row => row.activityId = activityId).mergeSort recordedBefore

end Store

end Workflow
