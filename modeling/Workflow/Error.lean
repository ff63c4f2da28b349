import Workflow.Definition
import Workflow.Json.Fault
import Workflow.Selector

/-!
# What can go wrong with a workflow

Every failure has its cause as a constructor; the words for it are in one function.
-/

namespace Workflow

/-- Stored data that is not what it should be. -/
inductive BadRecord where
  | status (text : String)
  | definition (revision : Uuid) (fault : Fault)
  | templates (template : String) (fault : Fault)
  | other (what message : String)
deriving Repr, DecidableEq

/-- Why a question about a workflow has no answer. -/
inductive Error where
  | missingTerminal (kind : TaskKind)
  | duplicateTerminal (kind : TaskKind) (count : Nat)
  | duplicateTask (id : String)
  | unknownReference (task reference : String)
  | cycle (task : String)
  | emptyTemplate (template : String)
  | missingTemplate (task : String) (kind : TaskKind)
  | revisionNotFound (id : Uuid)
  | lookupUnavailable (resource reason : String)
  | invalidSwitch (source target : String) (fault : Selector.Fault)
  | invalidRecord (record : BadRecord)
deriving Repr, DecidableEq

/-- The classes of failures. -/
inductive ErrorKind where
  | structural
  | reference
  | lookupUnavailable
  | invalidDefinition
deriving Repr, DecidableEq

/-! ## Words -/

/-- A name between quotes. -/
def quoted (name : String) : String := "'" ++ name ++ "'"

/-- Bad data in words. -/
def BadRecord.text : BadRecord → String
  | status text => "task status: unknown task status: " ++ text
  | definition revision fault =>
    "workflow definition: revision " ++ revision.text ++ ": " ++ fault.message
  | templates template fault =>
    "template revisions: template " ++ quoted template ++ ": " ++ fault.message
  | other what message => what ++ ": " ++ message

namespace Error

/-- A failure in words. -/
def message : Error → String
  | missingTerminal kind => "workflow definition has no " ++ quoted kind.name ++ " task"
  | duplicateTerminal kind count =>
    "workflow definition has " ++ toString count ++ " " ++ quoted kind.name ++
      " tasks, expected exactly one"
  | duplicateTask id => "duplicate task ID: " ++ quoted id
  | unknownReference task reference =>
    "task " ++ quoted task ++ " depends on unknown task " ++ quoted reference
  | cycle task => "workflow graph contains a cycle through task " ++ quoted task
  | emptyTemplate template => "task template " ++ quoted template ++ " has no revisions"
  | missingTemplate task kind =>
    "task " ++ quoted task ++ " of type " ++ quoted kind.name ++ " has no template id"
  | revisionNotFound id => "workflow revision " ++ quoted id.text ++ " not found"
  | lookupUnavailable resource reason => resource ++ " lookup failed: " ++ reason
  | invalidSwitch source target fault =>
    "invalid switch condition " ++ quoted fault.line ++ " on edge " ++ quoted source ++ " -> " ++
      quoted target
  | invalidRecord record => "invalid " ++ record.text

/-- The class of a failure. -/
def kind : Error → ErrorKind
  | missingTerminal _ => .structural
  | duplicateTerminal _ _ => .structural
  | duplicateTask _ => .structural
  | unknownReference _ _ => .structural
  | cycle _ => .structural
  | emptyTemplate _ => .reference
  | missingTemplate _ _ => .reference
  | revisionNotFound _ => .reference
  | lookupUnavailable _ _ => .lookupUnavailable
  | invalidSwitch _ _ _ => .invalidDefinition
  | invalidRecord _ => .invalidDefinition

/-- Whether the whole run has to stop. After any other failure the task merely is not ready
yet. -/
def isFatal : Error → Bool
  | missingTerminal _ => true
  | _ => false

end Error

end Workflow
