import Std.Data.TreeMap
import Workflow.Pattern.Bytes

/-!
# Automata

An automaton reads the bytes of a text, from the front or from the back. Only its size matters
here, so all that is kept of it is how many states have been laid out and how many links they hold
beyond what every state has room for. States are numbered in the order in which they are laid out.

A set of characters needs a state for each way in which the bytes of its members can go on. From
the front, sequences with the same tail share it; from the back, sequences with the same beginning
share it. What can be shared is found in a register of limited size.
-/

namespace Workflow.Pattern

/-- The way in which an automaton reads. -/
inductive Direction where
  | forward
  | backward
deriving Repr, DecidableEq

/-- How much of an automaton has been laid out. An arrow leads on over a range of bytes; a branch
leads on at once. -/
structure Automaton where
  states : Nat
  arrows : Nat
  branches : Nat
deriving Repr, DecidableEq

namespace Automaton

/-- Nothing laid out yet. -/
def empty : Automaton := ⟨0, 0, 0⟩

/-- The memory an automaton takes, in bytes. -/
def size (a : Automaton) : Nat := 32 * a.states + 8 * a.arrows + 4 * a.branches

/-- Lays out states that need no further room: they read one range, ask for a place, or lead on to
one state. -/
def add (a : Automaton) (count : Nat) : Automaton := { a with states := a.states + count }

/-- Lays out a state that tells ranges of bytes apart. -/
def addReader (a : Automaton) (ranges : Nat) : Automaton :=
  { a with states := a.states + 1, arrows := a.arrows + ranges }

/-- Adds branches to states that are there. -/
def link (a : Automaton) (count : Nat) : Automaton := { a with branches := a.branches + count }

end Automaton

/-! ## Registers -/

/-- The states laid out last, to be found again by their parts. A register has a limited number of
places; the parts decide on the place, and a newcomer takes it over. -/
structure Register where
  places : Nat
  held : Std.TreeMap Nat (List Nat × Nat)

namespace Register

/-- A register that holds nothing. -/
def empty (places : Nat) : Register := ⟨places, { }⟩

/-- The place of a state with the given parts: each part in turn is mixed into a number by an
exclusive or and a multiplication. -/
def placeOf (register : Register) (parts : List Nat) : Nat :=
  let mixed := parts.foldl (fun (n : UInt64) part => (n ^^^ part.toUInt64) * 0x100000001B3)
    0xCBF29CE484222325
  mixed.toNat % register.places

/-- The number of the state with the given parts, if it is still held. -/
def find? (register : Register) (parts : List Nat) : Option Nat :=
  match register.held[register.placeOf parts]? with
  | some (held, number) => if held = parts then some number else none
  | none => none

/-- Holds a state from now on. -/
def keep (register : Register) (parts : List Nat) (number : Nat) : Register :=
  { register with held := register.held.insert (register.placeOf parts) (parts, number) }

end Register

/-! ## Sets -/

/-- An automaton in the course of laying out a set. -/
abbrev Draft := Automaton × Register

/-- Lays out, from the front, the states that read one of some sequences of at most `depth` byte
ranges and then go on to the state `final`. The number of the first of them is returned; a state
is only new if the register does not hold it. -/
def layTails (final : Nat) : (depth : Nat) → List (List ByteRange) → Draft → Nat × Draft
  | 0, _, draft => (final, draft)
  | depth + 1, sequences, draft =>
    match byHead sequences with
    | [] => (final, draft)
    | groups =>
      let (parts, automaton, register) := groups.foldl
        (fun (parts, draft) (range, tails) =>
          let (next, draft) := layTails final depth tails draft
          (parts ++ [range.1, range.2, next], draft))
        ([], draft)
      match register.find? parts with
      | some number => (number, automaton, register)
      | none =>
        (automaton.states, automaton.addReader groups.length,
          register.keep parts automaton.states)

/-- Lays out, from the back, the states that have read a sequence of byte ranges once the state
`final` is reached. The number of the last of them is returned. -/
def layHeads (final : Nat) (sequence : List ByteRange) (draft : Draft) : Nat × Draft :=
  sequence.foldl
    (fun (next, automaton, register) range =>
      let parts := [next, range.1, range.2]
      match register.find? parts with
      | some number => (number, automaton, register)
      | none => (automaton.states, automaton.add 1, register.keep parts automaton.states))
    (final, draft)

/-- The places of the register when states are laid out from the front. -/
def forwardPlaces : Nat := 10000

/-- The places of the register when states are laid out from the back. -/
def backwardPlaces : Nat := 1000

namespace Automaton

/-- Lays out a set of characters. One state tells the ranges apart where all of them are single
bytes. -/
def addSet (direction : Direction) (set : CharSet) (a : Automaton) : Automaton :=
  if set.isAscii then (a.add 1).addReader set.ranges.length
  else
    match direction with
    | .forward =>
      (layTails a.states 4 (setSequences set) (a.add 1, Register.empty forwardPlaces)).2.1
    | .backward =>
      let sequences := setSequences set
      let (automaton, _) := sequences.foldl
        (fun draft sequence => (layHeads (a.states + 1) sequence draft).2)
        (a.add 2, Register.empty backwardPlaces)
      automaton.link sequences.length

/-! ## Words -/

/-- Cuts words at the empty ones among them. Of several empty ones in front, one counts. -/
def untilEmpty (words : List (List Nat)) : List (List (List Nat)) :=
  match words with
  | [] :: rest => cut ([] :: rest.dropWhile List.isEmpty)
  | words => cut words
where
  /-- Cuts words at every empty one. -/
  cut : List (List Nat) → List (List (List Nat))
    | [] => [[]]
    | [] :: rest => [] :: cut rest
    | word :: rest =>
      match cut rest with
      | run :: runs => (word :: run) :: runs
      | [] => [[word]]

/-- Lays out the tree of some words of at most `depth` bytes. A state that branches stands before
the states that read; a word that ends within the tree parts the words before it from those
behind it. -/
def addTree : (depth : Nat) → List (List Nat) → Automaton → Automaton
  | 0, _, a => a
  | depth + 1, words, a =>
    if words.all List.isEmpty then a
    else
      let runs := (untilEmpty words).map byHead
      let readers := runs.filter fun groups => !groups.isEmpty
      let below := readers.flatten.foldl (fun a group => addTree depth group.2 a) a
      let reading := readers.foldl
        (fun a groups => if groups.length = 1 then a.add 1 else a.addReader groups.length) below
      (reading.add 1).link (readers.length + (runs.length - 1))

/-- Lays out a choice between words. -/
def addWords (direction : Direction) (words : List (List Nat)) (a : Automaton) : Automaton :=
  let words := match direction with
    | .forward => words
    | .backward => words.map List.reverse
  let depth := words.foldl (fun n word => if n ≤ word.length then word.length else n) 0
  addTree (depth + 1) words (a.add 1)

end Automaton

end Workflow.Pattern
