import Workflow.Graph.Walk

/-!
# Pruning

Recorded outcomes prune a graph. The tasks come in the order of a walk; each that ended, and does
not merely mark the beginning or the end, keeps some of the edges that leave it, and the others
are removed before the walk goes on.
-/

namespace Workflow

/-! ## Which edges stay -/

/-- Whether the switch condition of an edge selects a value. -/
def Edge.selected (value : Option String) (edge : Edge) : Bool :=
  match edge.switch, value with
  | some selector, some value => selector.selects value
  | _, _ => false

/-- Whether the condition of an edge admits a status; an edge without one admits none. -/
def Edge.admitted (status : Status) (edge : Edge) : Bool :=
  match edge.condition with
  | some condition => condition.admits status
  | none => false

/-- The edges that stay behind a decision: those that select its value, or if there are none,
those without a switch condition. -/
def keptByValue (value : Option String) (edges : List Edge) : List Edge :=
  match edges.filter (Edge.selected value) with
  | [] => edges.filter fun edge => edge.switch.isNone
  | selected => selected

/-- The edges that stay behind an ordinary task. -/
def keptByStatus (status : Status) (edges : List Edge) : List Edge :=
  edges.filter (Edge.admitted status)

/-- Which of the edges that leave a node stay, if it has any say in it. -/
def Node.kept? (node : Node) (edges : List Edge) : Option (List Edge) :=
  if node.kind.isSentinel then none
  else
    node.outcome?.map fun status =>
      match node.kind with
      | .decision _ => keptByValue (node.record.bind Record.switchValue) edges
      | _ => keptByStatus status edges

/-! ## The walk -/

/-- What pruning did: the tasks that had a say, in the order of the walk, and the edges removed,
in the order of removal. -/
structure Report where
  evaluated : List String
  pruned : List (String × String)
deriving Repr, DecidableEq

/-- The node of a task; of several nodes with one name, the last. -/
def nodeOf? (nodes : List Node) (task : String) : Option Node :=
  nodes.reverse.find? fun node => node.id = task

/-- Those edges that are not among the edges that stay. -/
def doomed (edges kept : List Edge) : List Edge :=
  edges.filter fun edge => !kept.any fun other => other.number == edge.number

namespace Graph

/-- Prunes along the next steps of a walk, at most `count` of them. -/
def pruneAlong (nodes : List Node) : (count : Nat) → Graph → Walk → Graph × Report
  | 0, g, _ => (g, ⟨[], []⟩)
  | count + 1, g, walk =>
    match walk.next? g with
    | none => (g, ⟨[], []⟩)
    | some (task, walk) =>
      match (nodeOf? nodes task).bind fun node => node.kept? (g.outgoing task) with
      | none => pruneAlong nodes count g walk
      | some kept =>
        let lost := doomed (g.outgoing task) kept
        let (pruned, report) :=
          pruneAlong nodes count (g.removeAll (lost.map Edge.number)) walk
        (pruned, ⟨task :: report.evaluated,
          lost.map (fun edge => (edge.source, edge.target)) ++ report.pruned⟩)

/-- Prunes a graph by what is recorded with nodes. -/
def prune (g : Graph) (nodes : List Node) : Graph × Report :=
  g.pruneAlong nodes g.tasks.length (Walk.start g)

end Graph

end Workflow
