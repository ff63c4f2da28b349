import Workflow.Pattern.Automaton
import Workflow.Pattern.Layout
import Workflow.Pattern.Matching

/-!
# The size of a pattern

A pattern is matched by automata that read forward and backward, and the memory of each is
bounded. Laying one out stops as soon as the bound is passed, so a pattern that repeats too often
is found out without being laid out to its end.

A pattern is usable when it can be read and is not too big. A pattern that cannot be read is
never called too big.
-/

namespace Workflow.Pattern

/-! ## Laying out -/

/-- Lays something out a number of times, but no more once a limit is passed. -/
def copies (limit : Nat) (lay : Automaton → Automaton) : (count : Nat) → Automaton → Automaton
  | 0, a => a
  | count + 1, a => if limit < a.size then a else copies limit lay count (lay a)

/-- Lays out a repetition; `consumes` tells whether each round takes a character. Rounds beyond the
least number may be left out, and without a most number the last one may be gone through again. -/
def layRounds (limit min : Nat) (max : Option Nat) (consumes : Bool)
    (lay : Automaton → Automaton) (a : Automaton) : Automaton :=
  match max with
  | none =>
    if min = 0 then
      if consumes then (lay (a.add 1)).link 2 else ((lay a).add 3).link 4
    else ((copies limit lay min a).add 1).link 2
  | some max =>
    if min = max then copies limit lay min a
    else
      let optional (a : Automaton) : Automaton := (lay (a.add 1)).link 2
      if min = 0 ∧ max = 1 then (optional a).add 1
      else
        let least := if min = 0 then a.add 1 else copies limit lay min a
        copies limit optional (max - min) (least.add 1)

/-- The words that the branches of a choice are, if all of them are words. -/
def wordBranches? (branches : List Layout) : Option (List (List Nat)) :=
  branches.mapM fun branch =>
    match branch with
    | .word chars => some (chars.flatMap bytesOf)
    | _ => none

mutual

/-- Lays out the automaton of a layout. Groups are told apart in the forward direction only. -/
def Layout.lay (limit : Nat) (direction : Direction) : Layout → Automaton → Automaton
  | .nothing, a => a.add 1
  | .word chars, a => a.add (chars.flatMap bytesOf).length
  | .set s, a => a.addSet direction s
  | .look _, a => a.add 1
  | .captured body, a =>
    match direction with
    | .forward => (body.lay limit direction (a.add 1)).add 1
    | .backward => body.lay limit direction a
  | .row parts, a => Layout.layRow limit direction parts a
  | .choice branches, a =>
    match wordBranches? branches with
    | some words => a.addWords direction words
    | none => Layout.layBranches limit direction branches a
  | .repeated min max body, a =>
    layRounds limit min max (body.consumes? == some true) (body.lay limit direction) a

/-- Lays out parts one after another, in the order in which they are read. -/
def Layout.layRow (limit : Nat) (direction : Direction) : List Layout → Automaton → Automaton
  | [], a => a
  | part :: rest, a =>
    match direction with
    | .forward => Layout.layRow limit direction rest (part.lay limit direction a)
    | .backward => part.lay limit direction (Layout.layRow limit direction rest a)

/-- Lays out branches. The states in which they part and meet are laid out behind the second. -/
def Layout.layBranches (limit : Nat) (direction : Direction) :
    List Layout → Automaton → Automaton
  | [], a => a
  | [branch], a => branch.lay limit direction a
  | first :: second :: rest, a =>
    let two := second.lay limit direction (first.lay limit direction a)
    Layout.layFurther limit direction rest ((two.add 2).link 2)

/-- Lays out further branches. -/
def Layout.layFurther (limit : Nat) (direction : Direction) :
    List Layout → Automaton → Automaton
  | [], a => a
  | branch :: rest, a =>
    Layout.layFurther limit direction rest ((branch.lay limit direction a).link 1)

end

/-! ## Sizes -/

/-- The side of the text at which an automaton begins to read. -/
def Direction.side : Direction → Layout.Side
  | .forward => .front
  | .backward => .back

/-- Lays out what stands before the first state of a pattern. If a match may begin anywhere, it is
a loop over any byte. -/
def layApproach (direction : Direction) (layout : Layout) : Automaton :=
  if layout.holdsTo direction.side then Automaton.empty.add 1
  else ((Automaton.empty.add 2).addReader 1).link 2

/-- The size of the automaton that reads in a direction. Once a limit is passed, it need not be
complete. -/
def Layout.size (limit : Nat) (direction : Direction) (layout : Layout) : Nat :=
  let whole := match direction with
    | .forward => Layout.captured layout
    | .backward => layout
  ((whole.lay limit direction (layApproach direction layout)).add 1).size

/-- Whether the automata of an expression keep within a limit. -/
def Expr.fits (limit : Nat) (expr : Expr) : Bool :=
  let layout := expr.layout
  layout.size limit .forward ≤ limit && layout.size limit .backward ≤ limit

/-! ## Patterns within a limit -/

/-- Why a pattern cannot be used. -/
inductive Fault where
  | unreadable
  | tooBig
deriving Repr, DecidableEq

/-- The size in bytes that patterns may have unless told otherwise. -/
def defaultLimit : Nat := 1048576

/-- The pattern as written, if its size is within a limit. -/
def compile (limit : Nat) (chars : List Char) : Except Fault Expr :=
  match Expr.ofChars chars with
  | .error _ => .error .unreadable
  | .ok expr => if expr.fits limit then .ok expr else .error .tooBig

/-- Whether a pattern, as it is written and by itself, matches a whole text. -/
def coversAlone (chars text : List Char) : Bool :=
  match Expr.ofChars chars with
  | .error _ => false
  | .ok expr => expr.covers text

end Workflow.Pattern
