import Workflow.Pattern.Expr

/-!
# Layouts

The form of an expression in which its automaton is laid out. Parts that follow one another stand
in one flat row, and neighbouring fixed characters there are one word. The branches of a choice
stand in one flat list; a choice between single characters, or between sets, is a set, and what
all branches begin with stands before the choice.
-/

namespace Workflow.Pattern

/-- An expression in the form in which it is laid out. -/
inductive Layout where
  | nothing
  | word (chars : List Nat)
  | set (s : CharSet)
  | look (l : Look)
  | captured (body : Layout)
  | row (parts : List Layout)
  | choice (branches : List Layout)
  | repeated (min : Nat) (max : Option Nat) (body : Layout)

namespace Layout

/-! ## Rows -/

/-- A set of one character is a word. -/
def ofSet (s : CharSet) : Layout :=
  match s.ranges with
  | [(lo, hi)] => if lo = hi then word [lo] else set s
  | _ => set s

/-- The parts that stand one after another. -/
def parts : Layout → List Layout
  | nothing => []
  | row parts => parts
  | other => [other]

/-- Puts a part before others; a word joins a word behind it. -/
def glue : Layout → List Layout → List Layout
  | word chars, word more :: rest => word (chars ++ more) :: rest
  | part, rest => part :: rest

/-- Parts one after another. -/
def ofParts : List Layout → Layout
  | [] => nothing
  | [part] => part
  | parts => row parts

/-! ## Equal parts -/

mutual

/-- Whether two layouts are the same. What is captured differs from everything else captured. -/
def same : Layout → Layout → Bool
  | nothing, nothing => true
  | word a, word b => a == b
  | set a, set b => a == b
  | look a, look b => a == b
  | row a, row b => sameAll a b
  | choice a, choice b => sameAll a b
  | repeated min max a, repeated min' max' b => min == min' && max == max' && same a b
  | _, _ => false

/-- Whether two lists of layouts are the same. -/
def sameAll : List Layout → List Layout → Bool
  | [], [] => true
  | a :: as, b :: bs => same a b && sameAll as bs
  | _, _ => false

end

/-- What two rows begin with. -/
def sharedParts : List Layout → List Layout → List Layout
  | a :: as, b :: bs => if same a b then a :: sharedParts as bs else []
  | _, _ => []

/-! ## Choices -/

/-- The branches of a choice. -/
def branches : Layout → List Layout
  | choice branches => branches
  | other => [other]

/-- The set of a word of one character. -/
def singleSet? : Layout → Option CharSet
  | word [c] => some (CharSet.single c)
  | _ => none

/-- The set that a layout is. -/
def wholeSet? : Layout → Option CharSet
  | set s => some s
  | _ => none

/-- A choice between branches that do not begin alike. -/
def plainChoice (choices : List Layout) : Layout :=
  let flat := choices.flatMap branches
  match flat with
  | [] => set CharSet.empty
  | [one] => one
  | _ =>
    match (flat.mapM singleSet?).or (flat.mapM wholeSet?) with
    | some sets => ofSet (sets.foldl CharSet.union CharSet.empty)
    | none => choice flat

/-- What the rows among branches all begin with; nothing where one of them is not a row. -/
def commonStart : List Layout → List Layout
  | [] => []
  | [row parts] => parts
  | row parts :: rest => sharedParts parts (commonStart rest)
  | _ => []

/-- A choice between branches. Once what they all begin with is taken out, the rests have nothing
in common any more. -/
def ofBranches (choices : List Layout) : Layout :=
  let joined := plainChoice choices
  match joined with
  | choice flat =>
    match commonStart flat with
    | [] => joined
    | start =>
      let rests := flat.map fun branch => ofParts (branch.parts.drop start.length)
      ofParts (start.foldr glue (plainChoice rests).parts)
  | other => other

/-! ## What a layout matches -/

/-- Whether every match takes at least one character, or none if nothing can match. -/
def consumes? : Layout → Option Bool
  | nothing => some false
  | word _ => some true
  | set s => if s.isEmpty then none else some true
  | look _ => some false
  | captured body => consumes? body
  | row parts => consumesAny? parts
  | choice branches => consumesAll? branches
  | repeated min _ body => (consumes? body).map fun taken => taken && min != 0
where
  /-- Whether one of several parts in a row takes a character. -/
  consumesAny? : List Layout → Option Bool
    | [] => some false
    | part :: rest =>
      match consumes? part, consumesAny? rest with
      | some a, some b => some (a || b)
      | _, _ => none
  /-- Whether each of several branches takes a character. -/
  consumesAll? : List Layout → Option Bool
    | [] => some true
    | branch :: rest =>
      match consumes? branch, consumesAll? rest with
      | some a, some b => some (a && b)
      | _, _ => none

/-- Whether every match is empty. -/
def isEmptyMatch : Layout → Bool
  | nothing => true
  | word _ => false
  | set _ => false
  | look _ => true
  | captured body => isEmptyMatch body
  | row parts => allEmpty parts
  | choice branches => allEmpty branches
  | repeated _ _ body => isEmptyMatch body
where
  /-- Whether every match of any of several layouts is empty. -/
  allEmpty : List Layout → Bool
    | [] => true
    | part :: rest => isEmptyMatch part && allEmpty rest

/-- The side of a text. -/
inductive Side where
  | front
  | back
deriving Repr, DecidableEq

/-- The condition that a place is on a side of the text. -/
def Side.look : Side → Look
  | front => .textStart
  | back => .textEnd

/-- Whether every match asks for a side of the text before it takes a character there. -/
def holdsTo (side : Side) : Layout → Bool
  | look l => l == side.look
  | captured body => holdsTo side body
  | row parts => rowHoldsTo parts
  | choice branches => allHoldTo branches
  | repeated min _ body => min != 0 && holdsTo side body
  | _ => false
where
  /-- Whether the parts of a row that stand before any character on the side hold to it. -/
  rowHoldsTo : List Layout → Bool
    | [] => false
    | part :: rest =>
      match side with
      | .front => holdsTo side part || (isEmptyMatch part && rowHoldsTo rest)
      | .back => rowHoldsTo rest || (isEmptyMatch.allEmpty rest && holdsTo side part)
  /-- Whether each of several branches holds to the side. -/
  allHoldTo : List Layout → Bool
    | [] => true
    | branch :: rest => holdsTo side branch && allHoldTo rest

end Layout

/-! ## Layouts of expressions -/

mutual

/-- The parts in a row that an expression is laid out as. -/
def Expr.parts : Expr → List Layout
  | .empty => []
  | .chars set => [Layout.ofSet set]
  | .look l => [.look l]
  | .captured body => [.captured (Layout.ofParts body.parts)]
  | .seq first second => first.parts.foldr Layout.glue second.parts
  | .alt left right => (Layout.ofBranches (Layout.ofParts left.parts :: right.branches)).parts
  | .never => [.set CharSet.empty]
  | .repeated min max body => [.repeated min max (Layout.ofParts body.parts)]

/-- The branches of a choice from some branch on. -/
def Expr.branches : Expr → List Layout
  | .alt left right => Layout.ofParts left.parts :: right.branches
  | _ => []

end

/-- The layout of an expression. -/
def Expr.layout (expr : Expr) : Layout := Layout.ofParts expr.parts

end Workflow.Pattern
