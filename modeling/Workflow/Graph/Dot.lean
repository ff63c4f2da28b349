import Workflow.Graph.Basic
import Workflow.Text.Pieces

/-!
# Drawing graphs

A graph is drawn as a list of statements: one for each task by its place, then one for each edge
by its number.
-/

namespace Workflow.Graph

/-- A character of a label: quotes and backslashes get a backslash, and a newline ends a line of
the label. -/
def escapeChar (c : Char) : List Char :=
  if c = '"' then ['\\', '"']
  else if c = '\\' then ['\\', '\\']
  else if c = '\n' then ['\\', 'l']
  else [c]

/-- A label. -/
def escape (label : String) : String := String.ofList (label.toList.flatMap escapeChar)

/-- The attributes of a statement. -/
def attributes (label : String) : String := " [ label = \"" ++ escape label ++ "\" ]\n"

/-- The statement of a task. -/
def taskLine (place : Nat) (task : String) : String :=
  "    " ++ toString place ++ attributes task

/-- The statement of an edge. -/
def edgeLine (g : Graph) (edge : Edge) : String :=
  "    " ++ toString (g.tasks.idxOf edge.source) ++ " -> " ++
    toString (g.tasks.idxOf edge.target) ++ attributes edge.label

/-- The statements of tasks from a place on. -/
def taskLines (place : Nat) : List String → List String
  | [] => []
  | task :: rest => taskLine place task :: taskLines (place + 1) rest

/-- The drawing of a graph. -/
def dot (g : Graph) : String :=
  "digraph \x7b\n" ++ String.join (taskLines 0 g.tasks ++ g.edges.map g.edgeLine) ++ "\x7d\n"

end Workflow.Graph
