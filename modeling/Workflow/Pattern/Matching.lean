import Workflow.Pattern.Expr

/-!
# Matching

`Expr.ends` takes the places where a match may begin to the places where it may end. A place is
known by the character before it and by the characters after it, so a condition on a place looks
at both. Places of one text are told apart by their distance from its beginning.
-/

namespace Workflow.Pattern

/-! ## Places in a text -/

/-- A place in a text: how many characters stand before it, the last of them, and those after. -/
structure Cursor where
  position : Nat
  last : Option Char
  rest : List Char
deriving Repr, DecidableEq

namespace Cursor

/-- The beginning of a text. -/
def start (text : List Char) : Cursor := ⟨0, none, text⟩

/-- The places of a text from a given one on. -/
def onward (position : Nat) (last : Option Char) : List Char → List Cursor
  | [] => [⟨position, last, []⟩]
  | c :: rest => ⟨position, last, c :: rest⟩ :: onward (position + 1) (some c) rest

/-- All places of a text. -/
def all (text : List Char) : List Cursor := onward 0 none text

/-- Moves over one character of a set. -/
def step? (set : CharSet) (cursor : Cursor) : Option Cursor :=
  match cursor.rest with
  | [] => none
  | c :: rest => if set.has c then some ⟨cursor.position + 1, some c, rest⟩ else none

end Cursor

/-- Whether a place is among others of the same text. -/
def visited (seen : List Cursor) (cursor : Cursor) : Bool :=
  seen.any fun other => other.position == cursor.position

/-- Adds those places that are not there yet. -/
def addNew (seen : List Cursor) : List Cursor → List Cursor
  | [] => seen
  | cursor :: rest => addNew (if visited seen cursor then seen else cursor :: seen) rest

/-! ## Conditions on places -/

/-- The characters of words. -/
def wordSet (ascii : Bool) : CharSet :=
  if ascii then LetterClass.word.asciiSet else LetterClass.word.set

/-- What an edge of a word asks of the sides, given whether there is a word on either. -/
def WordEdge.holds (edge : WordEdge) (before after : Bool) : Bool :=
  match edge with
  | .boundary => before != after
  | .notBoundary => before == after
  | .start => !before && after
  | .finish => before && !after
  | .startHalf => !before
  | .finishHalf => !after

/-- Whether a line begins at a place. Where both marks end lines, none begins between them. -/
def startsLine (crlf : Bool) (before after : Option Char) : Bool :=
  match before with
  | none => true
  | some c => c = '\n' || (crlf && c = '\r' && after != some '\n')

/-- Whether a line ends at a place. Where both marks end lines, none ends between them. -/
def endsLine (crlf : Bool) (before after : Option Char) : Bool :=
  match after with
  | none => true
  | some c =>
    if crlf then c = '\r' || (c = '\n' && before != some '\r') else c = '\n'

/-- Whether a place is as asked for. -/
def Look.holds (l : Look) (cursor : Cursor) : Bool :=
  match l with
  | .textStart => cursor.last.isNone
  | .textEnd => cursor.rest.isEmpty
  | .lineStart crlf => startsLine crlf cursor.last cursor.rest.head?
  | .lineEnd crlf => endsLine crlf cursor.last cursor.rest.head?
  | .word edge ascii =>
    edge.holds (cursor.last.any (wordSet ascii).has) (cursor.rest.head?.any (wordSet ascii).has)

/-! ## Ends of matches -/

/-- Follows a step a number of times. -/
def iterate (step : List Cursor → List Cursor) : Nat → List Cursor → List Cursor
  | 0, cursors => cursors
  | count + 1, cursors => if cursors.isEmpty then [] else iterate step count (step cursors)

/-- Follows a step up to a number of times, as long as it leads to new places. -/
def spread (step : List Cursor → List Cursor) :
    (rounds : Nat) → (seen frontier : List Cursor) → List Cursor
  | 0, seen, _ => seen
  | rounds + 1, seen, frontier =>
    match (step frontier).filter fun cursor => !visited seen cursor with
    | [] => seen
    | fresh => spread step rounds (addNew seen fresh) fresh

/-- How many times a step can lead to a new place. -/
def reach (cursors : List Cursor) : Nat :=
  cursors.foldl (fun n cursor => if n ≤ cursor.rest.length then cursor.rest.length else n) 0

/-- The places where a match that begins at one of some places can end. -/
def Expr.ends : Expr → List Cursor → List Cursor
  | .empty, cursors => cursors
  | .never, _ => []
  | .chars set, cursors => cursors.filterMap (Cursor.step? set)
  | .look l, cursors => cursors.filter l.holds
  | .captured body, cursors => body.ends cursors
  | .seq first second, cursors => second.ends (first.ends cursors)
  | .alt left right, cursors => addNew (left.ends cursors) (right.ends cursors)
  | .repeated min max body, cursors =>
    let least := iterate body.ends min cursors
    let rounds := match max with
      | some max => max - min
      | none => reach least
    spread body.ends rounds least least

/-! ## Matches -/

/-- Whether some part of a text matches. -/
def Expr.occursIn (expr : Expr) (text : List Char) : Bool :=
  !(expr.ends (Cursor.all text)).isEmpty

/-- Whether a text matches from its first to its last character. -/
def Expr.covers (expr : Expr) (text : List Char) : Bool :=
  (expr.ends [Cursor.start text]).any fun cursor => cursor.rest.isEmpty

end Workflow.Pattern
