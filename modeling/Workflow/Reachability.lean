import Workflow.Graph.Build
import Workflow.Graph.Visit
import Workflow.Pruning
import Workflow.Resolution

/-!
# Reachability

The questions that a workflow is there to answer: whether a task can still be reached from the
start once the outcomes recorded in an activity have pruned the graph, and whether the end can be
reached from the start at all.
-/

namespace Workflow

/-! ## Beginning and end -/

/-- The names of the tasks at which a workflow begins and ends. -/
structure Terminals where
  start : String
  finish : String
deriving Repr, DecidableEq

/-- The name of the one task of a kind. -/
def Definition.single (definition : Definition) (kind : TaskKind) : Except Error String :=
  match definition.tasks.filter fun task => task.kind = kind with
  | [] => .error (.missingTerminal kind)
  | [task] => .ok task.id
  | several => .error (.duplicateTerminal kind several.length)

/-- The beginning and the end of a workflow. -/
def Definition.terminals (definition : Definition) : Except Error Terminals := do
  let start ← definition.single .start
  let finish ← definition.single .finish
  .ok ⟨start, finish⟩

/-! ## Questions -/

/-- What questions are put to: sources, and the size in bytes that patterns may have. -/
structure Service where
  sources : Sources
  limit : Nat

namespace Service

/-- The revision with an identifier. -/
def revision (service : Service) (id : Uuid) : Except Error Revision := do
  let found ← (service.sources.definition id).named "workflow revision"
  match found with
  | some revision => .ok revision
  | none => .error (.revisionNotFound id)

/-- The graph of a definition, pruned by what is recorded in an activity if there is one. -/
def graph (service : Service) (activity : Option Uuid) (definition : Definition) :
    Except Error Graph := do
  let nodes ← definition.nodes service.sources activity
  let graph ← Graph.ofNodes service.limit nodes
  .ok (if activity.isSome then (graph.prune nodes).1 else graph)

/-- Whether a task can still be reached in an activity. -/
def canCompleteIn (service : Service) (definition : Definition) (activity : Uuid)
    (task : String) : Except Error Bool := do
  let terminals ← definition.terminals
  let graph ← service.graph (some activity) definition
  .ok (graph.hasPath terminals.start task)

/-- Whether a task can still be reached in an activity under a revision. -/
def canComplete (service : Service) (revision activity : Uuid) (task : String) :
    Except Error Bool := do
  let found ← service.revision revision
  service.canCompleteIn found.definition activity task

/-- Whether the end can be reached from the start, nothing being recorded. -/
def validateDefinition (service : Service) (definition : Definition) : Except Error Bool := do
  let terminals ← definition.terminals
  let graph ← service.graph none definition
  .ok (graph.hasPath terminals.start terminals.finish)

/-- Whether the end can be reached from the start in a revision. -/
def validate (service : Service) (revision : Uuid) : Except Error Bool := do
  let found ← service.revision revision
  service.validateDefinition found.definition

/-- The graph of a revision, pruned by what is recorded in an activity if there is one. -/
def prunedGraph (service : Service) (revision : Uuid) (activity : Option Uuid) :
    Except Error Graph := do
  let found ← service.revision revision
  service.graph activity found.definition

end Service

/-- A store to which questions are put. -/
def Store.service (store : Store) (limit : Nat) : Service := ⟨store.sources, limit⟩

end Workflow
