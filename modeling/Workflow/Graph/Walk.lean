import Workflow.Graph.Basic

/-!
# Walks

A walk visits tasks in the order of their dependencies. It looks at the graph as it is at each
step, so edges may be removed while it goes on. A task comes up when its last source has been
visited; one that loses its last edge in another way is passed over.
-/

namespace Workflow

/-- A walk under way: the tasks that are ready, next one first, and those visited. -/
structure Walk where
  ready : List String
  visited : List String
deriving Repr, DecidableEq

/-- The beginning of a walk: all tasks without incoming edges are ready, the last of them
first. -/
def Walk.start (g : Graph) : Walk where
  ready := (g.tasks.filter fun task => (g.incoming task).isEmpty).reverse
  visited := []

/-- Whether every source of a task has been visited. -/
def Graph.isReady (g : Graph) (visited : List String) (task : String) : Bool :=
  (g.incoming task).all fun edge => visited.contains edge.source

/-- The tasks that come up when a task has been visited, one for each of its edges, last one
first. -/
def Graph.released (g : Graph) (visited : List String) (task : String) : List String :=
  (((g.outgoing task).map Edge.target).filter (g.isReady visited)).reverse

/-- Takes the next ready task that has not been visited. -/
def Walk.take (g : Graph) (visited : List String) : List String → Option (String × Walk)
  | [] => none
  | task :: ready =>
    if visited.contains task then take g visited ready
    else
      let visited := task :: visited
      some (task, ⟨g.released visited task ++ ready, visited⟩)

/-- The next task of a walk, and how the walk goes on. -/
def Walk.next? (walk : Walk) (g : Graph) : Option (String × Walk) :=
  Walk.take g walk.visited walk.ready

/-- The tasks of the rest of a walk, at most `count` of them. -/
def Walk.rest (g : Graph) : (count : Nat) → Walk → List String
  | 0, _ => []
  | count + 1, walk =>
    match walk.next? g with
    | none => []
    | some (task, walk) => task :: walk.rest g count

/-- All tasks in the order of a walk. No task is visited twice, so there are no more steps than
tasks. -/
def Graph.order (g : Graph) : List String := (Walk.start g).rest g g.tasks.length

end Workflow
