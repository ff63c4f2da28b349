import Workflow.Pattern.Size
import Workflow.Task

/-!
# Selectors

A selector is a switch condition that is ready for use. Each line is put between anchors as it
stands, character by character, and read as one pattern with them; so a line may close the group
it is put in. A value is selected when one of these patterns occurs in it.
-/

namespace Workflow

/-- A line of a switch condition between its anchors. -/
def anchored (line : String) : List Char :=
  ['^', '(', '?', ':'] ++ line.toList ++ [')', '$']

/-- Patterns with the lines they come from. -/
structure Selector where
  lines : List (String × Pattern.Expr)
deriving Repr

namespace Selector

/-- A line that cannot be used. -/
structure Fault where
  line : String
  cause : Pattern.Fault
deriving Repr, DecidableEq

/-- Makes a line ready. -/
def compileLine (limit : Nat) (line : String) : Except Fault (String × Pattern.Expr) :=
  match Pattern.compile limit (anchored line) with
  | .ok expr => .ok (line, expr)
  | .error cause => .error ⟨line, cause⟩

/-- Makes lines ready one after another; the first that cannot be used is at fault. -/
def compileLines (limit : Nat) : List String → Except Fault (List (String × Pattern.Expr))
  | [] => .ok []
  | line :: rest =>
    match compileLine limit line with
    | .error fault => .error fault
    | .ok ready => (compileLines limit rest).map (ready :: ·)

/-- Makes a condition ready. -/
def compile (limit : Nat) (condition : SwitchCondition) : Except Fault Selector :=
  (compileLines limit condition.lines).map Selector.mk

/-- Whether a value is selected. -/
def selects (selector : Selector) (value : String) : Bool :=
  selector.lines.any fun line => line.2.occursIn value.toList

end Selector

end Workflow
