import Workflow.Graph.Visit

/-!
# Cycles

The search for a cycle has two parts. First a depth-first search lists the tasks in the order in
which it is done with them; a task with an edge to itself ends it. Then the list is gone through
from its end, and from each task on it a visit goes against the edges, past the tasks come to
before. In a graph without cycles there is nothing left to come to; the first task that a visit
comes to, other than the one it begins with, is on a cycle.
-/

namespace Workflow.Graph

/-! ## Forwards -/

/-- A depth-first search under way: the tasks it has come to, and those it is done with, last one
first. -/
structure Search where
  discovered : List String
  finished : List String
deriving Repr, DecidableEq

namespace Search

/-- Comes to a task. -/
def discover (search : Search) (task : String) : Search :=
  { search with discovered := task :: search.discovered }

/-- Is done with a task; nothing changes the second time. -/
def finish (search : Search) (task : String) : Search :=
  if search.finished.contains task then search
  else { search with finished := task :: search.finished }

end Search

/-- Whether an edge leads from a task to itself. -/
def hasLoop (g : Graph) (task : String) : Bool :=
  (g.outgoing task).any fun edge => edge.target = task

/-- Searches on until the stack is empty, for a number of turns at most. A new task stays on the
stack with the tasks behind it on top, so it comes up again when the search is done with them. A
task may be on the stack many times. -/
def searchOn (g : Graph) : (turns : Nat) → Search → (stack : List String) → Except String Search
  | 0, search, _ => .ok search
  | _ + 1, search, [] => .ok search
  | turns + 1, search, task :: stack =>
    if search.discovered.contains task then searchOn g turns (search.finish task) stack
    else if g.hasLoop task then .error task
    else
      searchOn g turns (search.discover task)
        (except (g.successors task) (task :: search.discovered) ++ task :: stack)

/-- Searches from a task, unless the search has come to it. Every turn comes to a task, or takes
from the stack what an edge or the beginning put there. -/
def searchFrom (g : Graph) (search : Search) (root : String) : Except String Search :=
  if search.discovered.contains root then .ok search
  else g.searchOn (g.tasks.length + g.edges.length + 1) search [root]

/-- The tasks, the one the search was last done with first. -/
def finishOrder (g : Graph) : Except String (List String) :=
  (g.tasks.foldlM g.searchFrom ⟨[], []⟩).map Search.finished

/-! ## Backwards -/

/-- Visits backwards from each of some tasks in turn; the first second task that a visit comes to.
What was come to before stays so. -/
def secondBack? (g : Graph) (discovered : List String) : List String → Option String
  | [] => none
  | root :: rest =>
    match Visit.next? g.predecessors ⟨discovered, [root]⟩ with
    | none => secondBack? g discovered rest
    | some (_, visit) =>
      match visit.next? g.predecessors with
      | none => secondBack? g visit.discovered rest
      | some (second, _) => some second

/-- A task on a cycle, if there is one. -/
def cycle? (g : Graph) : Option String :=
  match g.finishOrder with
  | .error task => some task
  | .ok order => g.secondBack? [] order

end Workflow.Graph
