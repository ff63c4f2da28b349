import Workflow.Error
import Workflow.Node

/-!
# Graphs

The graph of a workflow has the tasks as vertices and an edge for each dependency, from the task
depended on. Edges are numbered in the order of nodes and, within a node, of its dependencies. A
graph only ever loses edges; those that are left keep their numbers.
-/

namespace Workflow

/-- A dependency as an edge. -/
structure Edge where
  number : Nat
  source : String
  target : String
  switch : Option Selector
  condition : Option ExecutionCondition
deriving Repr

/-- Tasks and the edges present between them. -/
structure Graph where
  tasks : List String
  edges : List Edge
  distinct : tasks.Nodup
  ordered : edges.Pairwise fun a b => a.number < b.number
  known : ∀ edge ∈ edges, edge.source ∈ tasks ∧ edge.target ∈ tasks

namespace Edge

/-- The lines of the switch condition with bars between. -/
def switchText : List String → String
  | [] => ""
  | [line] => line
  | line :: rest => line ++ " | " ++ switchText rest

/-- The conditions of an edge in words. -/
def label (edge : Edge) : String :=
  (match edge.switch with
    | some selector => "switch: " ++ switchText (selector.lines.map Prod.fst)
    | none => "") ++
  (match edge.condition with
    | some condition => "on: " ++ condition.name
    | none => "")

end Edge

namespace Graph

/-! ## Looking at a graph -/

/-- The edges that leave a task, last first. -/
def outgoing (g : Graph) (task : String) : List Edge :=
  (g.edges.filter fun edge => edge.source = task).reverse

/-- The edges that enter a task, last first. -/
def incoming (g : Graph) (task : String) : List Edge :=
  (g.edges.filter fun edge => edge.target = task).reverse

/-- The edges at a task: first those that leave it, then those that enter it. -/
def edgesOf (g : Graph) (task : String) : List Edge := g.outgoing task ++ g.incoming task

/-- Whether the first of two pairs of names is not after the second. -/
def pairBefore (a b : String × String) : Bool := if a.1 = b.1 then a.2 ≤ b.2 else a.1 ≤ b.1

/-- The edges present, as sorted pairs of source and target. -/
def surviving (g : Graph) : List (String × String) :=
  (g.edges.map fun edge => (edge.source, edge.target)).mergeSort pairBefore

/-! ## Removing edges -/

/-- Keeps the edges that pass a test. -/
def restrict (g : Graph) (keep : Edge → Bool) : Graph where
  tasks := g.tasks
  edges := g.edges.filter keep
  distinct := g.distinct
  ordered := g.ordered.filter keep
  known := fun edge hmem => g.known edge (List.mem_filter.mp hmem).1

/-- Whether an edge with a number is present. -/
def hasEdge (g : Graph) (number : Nat) : Bool := g.edges.any fun edge => edge.number = number

/-- Removes an edge, and tells whether it was present. -/
def remove (g : Graph) (number : Nat) : Graph × Bool :=
  (g.restrict fun edge => edge.number ≠ number, g.hasEdge number)

/-- Removes edges. -/
def removeAll (g : Graph) (numbers : List Nat) : Graph :=
  g.restrict fun edge => !numbers.contains edge.number

end Graph

end Workflow
