import Workflow.Uuid
import Workflow.Instant
import Workflow.Definition.Json

/-!
# Stored rows

What a store keeps: revisions of workflows, activities (runs of a revision), the latest record of
each task in each activity, and templates. Definitions and template revisions stay as the JSON
they came in.
-/

namespace Workflow

/-- A stored revision. -/
structure RevisionRow where
  id : Uuid
  workflowId : Uuid
  version : UInt32
  dag : Json
deriving Repr

/-- One run of a revision. -/
structure ActivityRow where
  id : Uuid
  revisionId : Uuid
  startedAt : Instant
deriving Repr, DecidableEq

/-- The latest record of a task within an activity. The status is kept as it was reported. -/
structure ExecutionRow where
  id : Uuid
  activityId : Uuid
  taskId : String
  status : String
  switchValue : Option String
  recordedAt : Instant
deriving Repr, DecidableEq

/-- A stored template. -/
structure TemplateRow where
  id : String
  name : String
  revisions : Json
deriving Repr

/-- The rows of a whole store. -/
structure Snapshot where
  revisions : List RevisionRow
  activities : List ActivityRow
  executions : List ExecutionRow
  templates : List TemplateRow
deriving Repr

/-- What tells the record of a task in an activity from the others. -/
def ExecutionRow.key (row : ExecutionRow) : Uuid × String := (row.activityId, row.taskId)

/-! ## Reading -/

namespace Decoder

/-- A point in time. -/
def instant : Decoder Instant :=
  (stringFor .instant).refine fun s =>
    match Instant.ofText? s with
    | some t => .ok t
    | none => .error (.unreadable .instant)

/-- A stored revision. -/
def revisionRow : Decoder RevisionRow :=
  Fields.decoder "RevisionRow"
    (.required "id" uuid
      (.required "workflow_id" uuid
        (.required "version" version
          (.required "dag" json .nil))))
    RevisionRow.mk

/-- An activity. -/
def activityRow : Decoder ActivityRow :=
  Fields.decoder "ActivityRow"
    (.required "id" uuid
      (.required "revision_id" uuid
        (.required "started_at" instant .nil)))
    ActivityRow.mk

/-- The record of a task. -/
def executionRow : Decoder ExecutionRow :=
  Fields.decoder "TaskExecutionRow"
    (.required "id" uuid
      (.required "activity_id" uuid
        (.required "task_id" string
          (.required "status" string
            (.optional "switch_value" string
              (.required "recorded_at" instant .nil))))))
    ExecutionRow.mk

/-- A stored template. -/
def templateRow : Decoder TemplateRow :=
  Fields.decoder "TaskTemplateRow"
    (.required "id" string
      (.required "name" string
        (.defaulted "revisions" json .null .nil)))
    TemplateRow.mk

/-- The rows of a whole store. -/
def snapshot : Decoder Snapshot :=
  Fields.decoder "Snapshot"
    (.defaulted "revisions" (list revisionRow) []
      (.defaulted "activities" (list activityRow) []
        (.defaulted "task_executions" (list executionRow) []
          (.defaulted "templates" (list templateRow) [] .nil))))
    Snapshot.mk

end Decoder

/-! ## Writing -/

/-- The written form of a stored revision. -/
def RevisionRow.toJson (r : RevisionRow) : Json :=
  .object [("id", .string r.id.text), ("workflow_id", .string r.workflowId.text),
    ("version", .nat r.version.toNat), ("dag", r.dag)]

/-- The written form of an activity. -/
def ActivityRow.toJson (a : ActivityRow) : Json :=
  .object [("id", .string a.id.text), ("revision_id", .string a.revisionId.text),
    ("started_at", .string a.startedAt.text)]

/-- The written form of the record of a task; a missing value is written as null. -/
def ExecutionRow.toJson (e : ExecutionRow) : Json :=
  .object [("id", .string e.id.text), ("activity_id", .string e.activityId.text),
    ("task_id", .string e.taskId), ("status", .string e.status),
    ("switch_value", Json.orNull (e.switchValue.map .string)),
    ("recorded_at", .string e.recordedAt.text)]

/-- The written form of a stored template. -/
def TemplateRow.toJson (t : TemplateRow) : Json :=
  .object [("id", .string t.id), ("name", .string t.name), ("revisions", t.revisions)]

/-- The written form of the rows of a whole store. -/
def Snapshot.toJson (s : Snapshot) : Json :=
  .object [("revisions", .array (s.revisions.map RevisionRow.toJson)),
    ("activities", .array (s.activities.map ActivityRow.toJson)),
    ("task_executions", .array (s.executions.map ExecutionRow.toJson)),
    ("templates", .array (s.templates.map TemplateRow.toJson))]

end Workflow
