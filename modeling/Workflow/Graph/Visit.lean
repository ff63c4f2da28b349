import Workflow.Graph.Basic

/-!
# Depth-first visits

A visit goes from task to task, along the edges or against them, and comes to each task once. It
keeps the tasks it may go to next on a stack; a task may be on the stack many times, also when the
visit has already come to it another way.

Whether a path of present edges leads from one task to another is told by a visit from the first:
it goes along the edges until it comes to the other, or to its end. It comes to each task once, so
as many turns as there are tasks are enough.
-/

namespace Workflow.Graph

/-! ## Neighbours -/

/-- The targets of the edges that leave a task, first edge first. -/
def successors (g : Graph) (task : String) : List String :=
  (g.edges.filter fun edge => edge.source = task).map Edge.target

/-- The sources of the edges that enter a task, first edge first. -/
def predecessors (g : Graph) (task : String) : List String :=
  (g.edges.filter fun edge => edge.target = task).map Edge.source

/-- Those names that are not among others. -/
def except (names others : List String) : List String :=
  names.filter fun name => !others.contains name

/-! ## Visits -/

/-- A visit under way: the tasks it has come to, and those it may go to next. -/
structure Visit where
  discovered : List String
  stack : List String
deriving Repr, DecidableEq

namespace Visit

/-- The next task that the visit comes to, skipping those it has come to before. -/
def take (neighbours : String → List String) (discovered : List String) :
    (stack : List String) → Option (String × Visit)
  | [] => none
  | task :: stack =>
    if discovered.contains task then take neighbours discovered stack
    else
      some (task, ⟨task :: discovered,
        except (neighbours task) (task :: discovered) ++ stack⟩)

/-- The next task of a visit, if it goes on. -/
def next? (neighbours : String → List String) (visit : Visit) : Option (String × Visit) :=
  take neighbours visit.discovered visit.stack

end Visit

/-! ## Paths -/

/-- Whether a visit comes to a task within a number of turns. -/
def comesTo (g : Graph) (target : String) : (turns : Nat) → Visit → Bool
  | 0, _ => false
  | turns + 1, visit =>
    match visit.next? g.successors with
    | none => false
    | some (task, visit) => task == target || comesTo g target turns visit

/-- Whether a path leads from one task to another. A task leads to itself; names of no task lead
nowhere. -/
def hasPath (g : Graph) (source target : String) : Bool :=
  g.tasks.contains source && g.tasks.contains target &&
    g.comesTo target g.tasks.length ⟨[], [source]⟩

end Workflow.Graph
