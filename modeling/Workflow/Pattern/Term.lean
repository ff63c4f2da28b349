/-!
# Patterns as they are written

The tree of a pattern before it has a meaning: which characters belong to a class still depends
on the flags in force where it stands.
-/

namespace Workflow.Pattern

/-! ## Parts -/

/-- A character that stands for itself. One written as two hexadecimal digits stands for a byte
where characters are bytes. -/
structure Literal where
  char : Char
  asByte : Bool
deriving Repr, DecidableEq

/-- The classes with a letter of their own. -/
inductive LetterClass where
  | digit
  | space
  | word
deriving Repr, DecidableEq

/-- The classes of ASCII characters that have a name between colons. -/
inductive AsciiClass where
  | alnum
  | alpha
  | ascii
  | blank
  | cntrl
  | digit
  | graph
  | lower
  | print
  | punct
  | space
  | upper
  | word
  | xdigit
deriving Repr, DecidableEq

/-- The name of a class of the standard: one name, or a property and its value. -/
inductive ClassName where
  | single (name : String)
  | valued (property value : String)
deriving Repr, DecidableEq

/-- The places a pattern can ask for. -/
inductive Place where
  | lineStart
  | lineEnd
  | textStart
  | textEnd
  | boundary
  | notBoundary
  | wordStart
  | wordEnd
  | wordStartHalf
  | wordEndHalf
deriving Repr, DecidableEq

/-- The flags. -/
inductive Flag where
  | caseless
  | multiline
  | dotAll
  | swapGreed
  | unicode
  | crlf
  | spacing
deriving Repr, DecidableEq

/-- Flags to set and to clear. -/
abbrev FlagChanges := List (Flag × Bool)

/-- How two classes are combined. -/
inductive ClassOp where
  | inter
  | diff
  | symmDiff
deriving Repr, DecidableEq

/-! ## Classes and terms -/

/-- A class between brackets. -/
inductive ClassTerm where
  | empty
  | literal (l : Literal)
  | range (lo hi : Literal)
  | letter (c : LetterClass) (negated : Bool)
  | ascii (c : AsciiClass) (negated : Bool)
  | named (name : ClassName) (negated : Bool)
  | bracket (negated : Bool) (body : ClassTerm)
  | union (items : List ClassTerm)
  | op (kind : ClassOp) (left right : ClassTerm)
deriving Repr

/-- A pattern. A group is captured unless a question mark opens it without naming it. -/
inductive Term where
  | empty
  | flags (changes : FlagChanges)
  | literal (l : Literal)
  | dot
  | place (p : Place)
  | letter (c : LetterClass) (negated : Bool)
  | named (name : ClassName) (negated : Bool)
  | bracket (negated : Bool) (body : ClassTerm)
  | repeated (min : Nat) (max : Option Nat) (body : Term)
  | group (captured : Bool) (changes : FlagChanges) (body : Term)
  | concat (parts : List Term)
  | alternatives (branches : List Term)
deriving Repr

/-! ## Depth of nesting -/

mutual

/-- How deep a class is nested. -/
def ClassTerm.height : ClassTerm → Nat
  | .bracket _ body => body.height + 1
  | .union items => ClassTerm.heights items + 1
  | .op _ left right =>
    (if left.height ≤ right.height then right.height else left.height) + 1
  | _ => 0

/-- The depth of the deepest of several classes. -/
def ClassTerm.heights : List ClassTerm → Nat
  | [] => 0
  | item :: rest =>
    if item.height ≤ ClassTerm.heights rest then ClassTerm.heights rest else item.height

end

mutual

/-- How deep a pattern is nested. -/
def Term.height : Term → Nat
  | .bracket _ body => body.height + 1
  | .repeated _ _ body => body.height + 1
  | .group _ _ body => body.height + 1
  | .concat parts => Term.heights parts + 1
  | .alternatives branches => Term.heights branches + 1
  | _ => 0

/-- The depth of the deepest of several patterns. -/
def Term.heights : List Term → Nat
  | [] => 0
  | part :: rest => if part.height ≤ Term.heights rest then Term.heights rest else part.height

end

/-- The parts one after another. -/
def Term.concatOf : List Term → Term
  | [] => .empty
  | [part] => part
  | parts => .concat parts

/-- One of the branches. -/
def Term.alternativesOf : List Term → Term
  | [branch] => branch
  | branches => .alternatives branches

/-- All items together. -/
def ClassTerm.unionOf : List ClassTerm → ClassTerm
  | [] => .empty
  | [item] => item
  | items => .union items

end Workflow.Pattern
