import Workflow.CharSet
import Workflow.Text.Pieces

/-!
# Tables of character sets

The data of the Unicode standard is kept as text: ranges of code points in hexadecimal, one
blank between them, `41-5A` for a run and `100-136/2` for every second code point of a run.
An entry may build on earlier entries of its table.
-/

namespace Workflow.Unicode

/-- The value of a hexadecimal digit; anything else counts as zero. -/
def hexDigitValue (c : Char) : Nat :=
  if '0' ≤ c ∧ c ≤ '9' then c.toNat - '0'.toNat
  else if 'A' ≤ c ∧ c ≤ 'F' then c.toNat - 'A'.toNat + 10
  else if 'a' ≤ c ∧ c ≤ 'f' then c.toNat - 'a'.toNat + 10
  else 0

/-- The number that hexadecimal digits write. -/
def hexValue (digits : List Char) : Nat :=
  digits.foldl (fun n c => 16 * n + hexDigitValue c) 0

/-- `count` single code points, `step` apart. -/
def everyOther (start step : Nat) : Nat → List (Nat × Nat)
  | 0 => []
  | count + 1 => (start, start) :: everyOther (start + step) step count

/-- The ranges that one word of a table stands for. -/
def wordRanges (word : List Char) : List (Nat × Nat) :=
  match Text.pieces '-' word with
  | [lo, hi] =>
    match Text.pieces '/' hi with
    | [last, step] =>
      let a := hexValue lo
      let d := hexValue step
      everyOther a d ((hexValue last - a) / d + 1)
    | _ => [(hexValue lo, hexValue hi)]
  | [one] => if one.isEmpty then [] else [(hexValue one, hexValue one)]
  | _ => []

/-- The ranges that the lines of a table stand for. -/
def lineRanges (lines : List String) : List (Nat × Nat) :=
  lines.flatMap fun line => (Text.pieces ' ' line.toList).flatMap wordRanges

/-- A named set of characters: its spellings, the entries it starts from, and the ranges that
are then added and taken away. -/
structure Entry where
  names : List String
  base : List String := []
  plus : List String := []
  minus : List String := []

/-- The set an entry stands for, given the sets of the entries it starts from. -/
def Entry.set (entry : Entry) (base : List CharSet) : CharSet :=
  let whole := base.foldl CharSet.union (CharSet.ofRanges (lineRanges entry.plus))
  if entry.minus.isEmpty then whole
  else whole.diff (CharSet.ofRanges (lineRanges entry.minus))

/-- Looks a set up in a table whose entries build on those that stand after them. -/
def lookup : List Entry → String → Option CharSet
  | [], _ => none
  | entry :: earlier, name =>
    if entry.names.contains name then
      some (entry.set (entry.base.filterMap (lookup earlier)))
    else lookup earlier name

end Workflow.Unicode
