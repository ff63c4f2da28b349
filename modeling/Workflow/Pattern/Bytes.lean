import Workflow.CharSet

/-!
# Bytes of characters

The UTF-8 form of a character has one to four bytes. A range of characters is cut into pieces in
which the bytes of every member range freely, so that each piece is a sequence of byte ranges.
-/

namespace Workflow.Pattern

/-- A closed range of bytes. -/
abbrev ByteRange := Nat × Nat

/-! ## One character -/

/-- How many bytes the UTF-8 form of a code point has. -/
def byteCount (c : Nat) : Nat :=
  if c ≤ 0x7F then 1 else if c ≤ 0x7FF then 2 else if c ≤ 0xFFFF then 3 else 4

/-- The mark in the first byte of a form of several bytes. -/
def leadMark : (count : Nat) → Nat
  | 2 => 0xC0
  | 3 => 0xE0
  | 4 => 0xF0
  | _ => 0

/-- The last `count` bytes of a form, all of them continuing it. -/
def continuation (c : Nat) : (count : Nat) → List Nat
  | 0 => []
  | count + 1 => continuation (c / 64) count ++ [0x80 + c % 64]

/-- The bytes of the UTF-8 form of a code point. -/
def bytesOf (c : Nat) : List Nat :=
  let count := byteCount c
  (leadMark count + c / Nat.pow 64 (count - 1)) :: continuation c (count - 1)

/-! ## Ranges of characters -/

/-- Where a range of code points has to be cut so that the bytes of its members range freely:
after a code point at which the number of bytes changes, or at the end of a block whose members
differ in their last bytes only. -/
def cutAfter? (lo hi : Nat) : Option Nat :=
  let lengths := [0x7F, 0x7FF, 0xFFFF].find? fun last => lo ≤ last && last < hi
  let blocks := [0x40, 0x1000, 0x40000].findSome? fun size =>
    if lo / size = hi / size then none
    else if lo % size ≠ 0 then some (lo / size * size + (size - 1))
    else if hi % size ≠ size - 1 then some (hi / size * size - 1)
    else none
  lengths.or blocks

/-- The sequences of byte ranges that make up a range of code points, in ascending order. -/
def byteSequences : (fuel lo hi : Nat) → List (List ByteRange)
  | 0, _, _ => []
  | fuel + 1, lo, hi =>
    match cutAfter? lo hi with
    | none => [(bytesOf lo).zip (bytesOf hi)]
    | some cut => byteSequences fuel lo cut ++ byteSequences fuel (cut + 1) hi

/-- The most cuts that can follow one another: two for the number of bytes, and two for each block
size within one. -/
def cutDepth : Nat := 16

/-- The sequences of byte ranges that make up a set. -/
def setSequences (set : CharSet) : List (List ByteRange) :=
  set.ranges.flatMap fun r => byteSequences cutDepth r.1 r.2

/-! ## Sequences by their beginnings -/

/-- Adds a tail to those behind the same head, if there are any. -/
def addTail? [BEq α] (head : α) (tail : List α) :
    List (α × List (List α)) → Option (List (α × List (List α)))
  | [] => none
  | (other, tails) :: groups =>
    if other == head then some ((other, tail :: tails) :: groups)
    else (addTail? head tail groups).map ((other, tails) :: ·)

/-- The tails of sequences behind each of their heads. Heads that ascend stay in their order; an
empty sequence has neither head nor tail. -/
def byHead [BEq α] : List (List α) → List (α × List (List α))
  | [] => []
  | [] :: rest => byHead rest
  | (head :: tail) :: rest =>
    let groups := byHead rest
    (addTail? head tail groups).getD ((head, [tail]) :: groups)

end Workflow.Pattern
