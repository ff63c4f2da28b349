import Workflow.Error
import Workflow.Node
import Workflow.Store.Basic
import Workflow.Template.Json

/-!
# Sources

Where the answers come from: definitions by revision, records by activity and task, revisions by
template. A source may fail with a cause of its own or for a reason outside. Nothing found is not
a failure.
-/

namespace Workflow

/-- How a source fails. -/
inductive LookupFault where
  | cause (error : Error)
  | outside (reason : String)
deriving Repr, DecidableEq

/-- The result of a lookup. -/
abbrev Lookup (α : Type) := Except LookupFault α

/-- A failure of a source that is named for what it yields. A cause of the source's own stays. -/
def Error.ofLookup (resource : String) : LookupFault → Error
  | .cause error => error
  | .outside reason => .lookupUnavailable resource reason

/-- The answer of a source that is named for what it yields. -/
def Lookup.named (resource : String) (answer : Lookup α) : Except Error α :=
  answer.mapError (Error.ofLookup resource)

/-- Where the answers come from. -/
structure Sources where
  definition : Uuid → Lookup (Option Revision)
  record : Uuid → String → Lookup (Option Record)
  templates : String → Lookup (List TemplateRevision)

namespace Store

/-- The revision with its definition. -/
def definitionOf (store : Store) (id : Uuid) : Lookup (Option Revision) :=
  match store.revision? id with
  | none => .ok none
  | some row =>
    match Decoder.definition.ofJson row.dag with
    | .ok definition => .ok (some ⟨row.id, row.workflowId, row.version, definition⟩)
    | .error fault => .error (.cause (.invalidRecord (.definition id fault)))

/-- What is recorded about a task in an activity. -/
def recordOf (store : Store) (activity : Uuid) (task : String) : Lookup (Option Record) :=
  match store.execution? activity task with
  | none => .ok none
  | some row =>
    match Status.ofName? row.status with
    | some status => .ok (some ⟨status, row.switchValue⟩)
    | none => .error (.cause (.invalidRecord (.status row.status)))

/-- The revisions of a template; a template that is not there, or has null for revisions, has
none. -/
def revisionsOf (store : Store) (template : String) : Lookup (List TemplateRevision) :=
  match store.template? template with
  | none => .ok []
  | some row =>
    match row.revisions with
    | .null => .ok []
    | revisions =>
      match (Decoder.list Decoder.templateRevision).ofJson revisions with
      | .ok found => .ok found
      | .error fault => .error (.cause (.invalidRecord (.templates template fault)))

/-- A store as the source of everything. -/
def sources (store : Store) : Sources where
  definition := store.definitionOf
  record := store.recordOf
  templates := store.revisionsOf

end Store

/-- The same sources with nothing recorded. -/
def Sources.unrecorded (sources : Sources) : Sources :=
  { sources with record := fun _ _ => .ok none }

end Workflow
