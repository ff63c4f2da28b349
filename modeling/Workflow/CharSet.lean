/-!
# Sets of characters

A set is a list of closed ranges of code points. Normalised ranges ascend and neither overlap
nor touch; every operation here returns normalised ranges. Complements are taken among the
characters, so they never hold a surrogate.
-/

namespace Workflow

/-- A set of characters, as closed ranges of code points. -/
structure CharSet where
  ranges : List (Nat × Nat)
deriving Repr, DecidableEq

namespace CharSet

/-- The set that holds nothing. -/
def empty : CharSet := ⟨[]⟩

/-- One closed range. -/
def range (lo hi : Nat) : CharSet := ⟨[(lo, hi)]⟩

/-- One code point. -/
def single (c : Nat) : CharSet := range c c

/-- Every character: all code points but the surrogates. -/
def all : CharSet := ⟨[(0, 0xD7FF), (0xE000, 0x10FFFF)]⟩

/-- The first 128 characters. -/
def ascii : CharSet := range 0 0x7F

/-- Whether a code point lies in one of the ranges. -/
def contains (s : CharSet) (c : Nat) : Bool :=
  s.ranges.any fun r => r.1 ≤ c && c ≤ r.2

/-- Whether a character is in the set. -/
def has (s : CharSet) (c : Char) : Bool := s.contains c.toNat

/-- Joins a range with the ascending ranges that it overlaps or touches. -/
def absorb (r : Nat × Nat) : List (Nat × Nat) → List (Nat × Nat)
  | [] => [r]
  | s :: rest =>
    if s.1 ≤ r.2 + 1 then absorb (r.1, if r.2 ≤ s.2 then s.2 else r.2) rest
    else r :: s :: rest

/-- Merges the ranges of a list that ascends by lower end. -/
def merge : List (Nat × Nat) → List (Nat × Nat)
  | [] => []
  | r :: rest => absorb r (merge rest)

/-- Puts a range in its place among ranges that ascend by lower end. -/
def place (r : Nat × Nat) : List (Nat × Nat) → List (Nat × Nat)
  | [] => [r]
  | s :: rest => if r.1 ≤ s.1 then r :: s :: rest else s :: place r rest

/-- The set of any list of ranges. -/
def ofRanges (ranges : List (Nat × Nat)) : CharSet := ⟨merge (ranges.foldr place [])⟩

/-- Takes ranges from two ascending lists, the lower one first; `onward` goes on once `r` has been
taken. -/
def takeLower (r : Nat × Nat) (onward : List (Nat × Nat) → List (Nat × Nat)) :
    List (Nat × Nat) → List (Nat × Nat)
  | [] => r :: onward []
  | s :: rest => if s.1 < r.1 then s :: takeLower r onward rest else r :: onward (s :: rest)

/-- The ranges of two ascending lists in one. -/
def interleave : List (Nat × Nat) → List (Nat × Nat) → List (Nat × Nat)
  | [], other => other
  | r :: rest, other => takeLower r (interleave rest) other

/-- What lies in one set or the other. -/
def union (s t : CharSet) : CharSet := ⟨merge (interleave s.ranges t.ranges)⟩

/-- The gaps between ascending ranges, from `start` up to `stop`. -/
def gaps (start stop : Nat) : List (Nat × Nat) → List (Nat × Nat)
  | [] => if start ≤ stop then [(start, stop)] else []
  | r :: rest =>
    if start < r.1 then (start, r.1 - 1) :: gaps (r.2 + 1) stop rest
    else gaps (r.2 + 1) stop rest

/-- The characters outside the set. -/
def complement (s : CharSet) : CharSet :=
  ⟨gaps 0 0x10FFFF (ofRanges ((0xD800, 0xDFFF) :: s.ranges)).ranges⟩

/-- What lies in both sets. -/
def inter (s t : CharSet) : CharSet :=
  (s.complement.union t.complement).complement

/-- What lies in the first set only. -/
def diff (s t : CharSet) : CharSet := s.inter t.complement

/-- What lies in exactly one of the sets. -/
def symmDiff (s t : CharSet) : CharSet := (s.diff t).union (t.diff s)

/-- Whether every member is one of the first 128 characters. -/
def isAscii (s : CharSet) : Bool := s.ranges.all fun r => r.2 ≤ 0x7F

/-- Whether the set holds nothing. -/
def isEmpty (s : CharSet) : Bool := s.ranges.isEmpty

end CharSet

end Workflow
