import Workflow.Definition
import Workflow.Json.Decoder

/-!
# Definitions as JSON

How the parts of a definition are read and written. Conditions, descriptions and the like are
left out where there are none; lists and properties are always written.
-/

namespace Workflow

/-- A list of named choices. -/
def choicesBy (name : α → String) (all : List α) : List (String × α) :=
  all.map fun x => (name x, x)

namespace Decoder

/-- An identifier. -/
def uuid : Decoder Uuid :=
  (stringFor .identifier).refine fun s =>
    match Uuid.ofText? s with
    | some id => .ok id
    | none => .error (.unreadable .identifier)

/-- A version number. -/
def version : Decoder UInt32 := word32.map UInt32.ofNat

/-- A kind of task. -/
def taskKind : Decoder TaskKind := choice (choicesBy TaskKind.name TaskKind.all)

/-- A status. -/
def status : Decoder Status := choice (choicesBy Status.name Status.all)

/-- A condition on the outcome of a task. -/
def executionCondition : Decoder ExecutionCondition :=
  choice (choicesBy ExecutionCondition.name ExecutionCondition.all)

/-- A condition on the value of a decision. -/
def switchCondition : Decoder SwitchCondition := string.map SwitchCondition.ofText

/-- A dependency. -/
def dependency : Decoder Dependency :=
  Fields.decoder "Dependency"
    (.required "task_id" string
      (.optional "switch_condition" switchCondition
        (.optional "execution_condition" executionCondition .nil)))
    Dependency.mk

/-- A declared result. -/
def resultParameter : Decoder ResultParameter :=
  Fields.decoder "ResultParameter"
    (.required "name" string (.optional "description" string .nil))
    ResultParameter.mk

/-- A task. -/
def task : Decoder Task :=
  Fields.decoder "DagTask"
    (.required "task_id" string
      (.required "type" taskKind
        (.defaulted "label" string ""
          (.optional "template_id" string
            (.optional "template_version" version
              (.optional "decision_value" string
                (.defaulted "properties" (table string) []
                  (.defaulted "results" (list resultParameter) []
                    (.defaulted "dependencies" (list dependency) [] .nil)))))))))
    Task.mk

/-- A definition. -/
def definition : Decoder Definition :=
  Fields.decoder "Dag" (.defaulted "tasks" (list task) [] .nil) Definition.mk

/-- A revision. -/
def revision : Decoder Revision :=
  Fields.decoder "WorkflowRevision"
    (.required "id" uuid
      (.required "workflow_id" uuid
        (.required "version" version
          (.required "dag" definition .nil))))
    Revision.mk

end Decoder

/-! ## Writing -/

/-- The written form of a dependency. -/
def Dependency.toJson (d : Dependency) : Json :=
  .object ([("task_id", .string d.on)] ++
    Json.optional "switch_condition" (d.switch.map fun s => .string s.text) ++
    Json.optional "execution_condition" (d.condition.map fun c => .string c.name))

/-- The written form of a declared result. -/
def ResultParameter.toJson (r : ResultParameter) : Json :=
  .object ([("name", .string r.name)] ++ Json.optional "description" (r.description.map .string))

/-- The written form of a task. -/
def Task.toJson (t : Task) : Json :=
  .object ([("task_id", .string t.id), ("type", .string t.kind.name),
      ("label", .string t.label)] ++
    Json.optional "template_id" (t.templateId.map .string) ++
    Json.optional "template_version" (t.templateVersion.map fun v => .nat v.toNat) ++
    Json.optional "decision_value" (t.decisionValue.map .string) ++
    [("properties", .object (t.properties.map fun p => (p.1, .string p.2))),
      ("results", .array (t.results.map ResultParameter.toJson)),
      ("dependencies", .array (t.dependencies.map Dependency.toJson))])

/-- The written form of a definition. -/
def Definition.toJson (d : Definition) : Json :=
  .object [("tasks", .array (d.tasks.map Task.toJson))]

/-- The written form of a revision. -/
def Revision.toJson (r : Revision) : Json :=
  .object [("id", .string r.id.text), ("workflow_id", .string r.workflowId.text),
    ("version", .nat r.version.toNat), ("dag", r.definition.toJson)]

end Workflow
