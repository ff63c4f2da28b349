import Workflow.Pattern.Reader
import Workflow.Unicode.Folding

/-!
# What patterns mean

The meaning of a pattern: every class has become a set of characters, and every place says by
itself what it asks for. The flags are used up on the way. A flag set in the middle of a group
holds for all that follows in the group, its later branches included.

Where characters are ASCII only (`u` is off), whatever could match a piece of a character is
refused.
-/

namespace Workflow.Pattern

/-! ## Expressions -/

/-- What a place asks of the characters on its two sides. -/
inductive WordEdge where
  | boundary
  | notBoundary
  | start
  | finish
  | startHalf
  | finishHalf
deriving Repr, DecidableEq

/-- A condition on a place in a text. -/
inductive Look where
  | textStart
  | textEnd
  | lineStart (crlf : Bool)
  | lineEnd (crlf : Bool)
  | word (edge : WordEdge) (ascii : Bool)
deriving Repr, DecidableEq

/-- The meaning of a pattern. A choice is a list: `alt` puts a branch before others, and `never`
ends the list. -/
inductive Expr where
  | empty
  | never
  | chars (set : CharSet)
  | look (l : Look)
  | captured (body : Expr)
  | seq (first second : Expr)
  | alt (left right : Expr)
  | repeated (min : Nat) (max : Option Nat) (body : Expr)
deriving Repr

/-! ## Flags in force -/

/-- The flags in force at a point of a pattern. -/
structure Mode where
  caseless : Bool := false
  multiline : Bool := false
  dotAll : Bool := false
  unicode : Bool := true
  crlf : Bool := false
deriving Repr, DecidableEq

/-- Sets or clears one flag. Which repetitions prefer few, and whether blanks count, has no
influence on the meaning. -/
def Mode.set (mode : Mode) (flag : Flag) (on : Bool) : Mode :=
  match flag with
  | .caseless => { mode with caseless := on }
  | .multiline => { mode with multiline := on }
  | .dotAll => { mode with dotAll := on }
  | .unicode => { mode with unicode := on }
  | .crlf => { mode with crlf := on }
  | .swapGreed => mode
  | .spacing => mode

/-- Sets and clears flags. -/
def Mode.apply (mode : Mode) (changes : FlagChanges) : Mode :=
  changes.foldl (fun mode change => mode.set change.1 change.2) mode

/-! ## Sets of characters -/

/-- Adds the other case of every member, where case does not count. -/
def Mode.fold (mode : Mode) (set : CharSet) : CharSet :=
  if !mode.caseless then set
  else if mode.unicode then Unicode.closeUnderCase set
  else Unicode.closeUnderAsciiCase set

/-- The characters in the set, or those outside it. Among bytes, those outside would be pieces of
characters. -/
def Mode.negate (mode : Mode) (negated : Bool) (set : CharSet) : Read CharSet :=
  if !negated then .ok set
  else if mode.unicode then .ok set.complement
  else unreadable

/-- The set of a literal, case not yet considered. -/
def Mode.literal (mode : Mode) (l : Literal) : Read CharSet :=
  if !mode.unicode && l.asByte && 0x7F < l.char.toNat then unreadable
  else .ok (CharSet.single l.char.toNat)

/-- The code point of a literal between brackets, where bytes stand for ASCII characters only. -/
def Mode.member (mode : Mode) (l : Literal) : Read Nat :=
  if !mode.unicode && 0x7F < l.char.toNat then unreadable else .ok l.char.toNat

/-- The ASCII characters of a class with a letter of its own. -/
def LetterClass.asciiSet : LetterClass → CharSet
  | .digit => CharSet.range 0x30 0x39
  | .space => ⟨[(0x09, 0x0D), (0x20, 0x20)]⟩
  | .word => ⟨[(0x30, 0x39), (0x41, 0x5A), (0x5F, 0x5F), (0x61, 0x7A)]⟩

/-- All characters of a class with a letter of its own. -/
def LetterClass.set : LetterClass → CharSet
  | .digit => Unicode.digits
  | .space => Unicode.blanks
  | .word => Unicode.wordChars

/-- The set of a class with a letter of its own. It is closed under case as it is. -/
def Mode.letter (mode : Mode) (c : LetterClass) (negated : Bool) : Read CharSet :=
  mode.negate negated (if mode.unicode then c.set else c.asciiSet)

/-- The members of a class with a name between colons. -/
def AsciiClass.set : AsciiClass → CharSet
  | .alnum => ⟨[(0x30, 0x39), (0x41, 0x5A), (0x61, 0x7A)]⟩
  | .alpha => ⟨[(0x41, 0x5A), (0x61, 0x7A)]⟩
  | .ascii => CharSet.ascii
  | .blank => ⟨[(0x09, 0x09), (0x20, 0x20)]⟩
  | .cntrl => ⟨[(0x00, 0x1F), (0x7F, 0x7F)]⟩
  | .digit => CharSet.range 0x30 0x39
  | .graph => CharSet.range 0x21 0x7E
  | .lower => CharSet.range 0x61 0x7A
  | .print => CharSet.range 0x20 0x7E
  | .punct => ⟨[(0x21, 0x2F), (0x3A, 0x40), (0x5B, 0x60), (0x7B, 0x7E)]⟩
  | .space => ⟨[(0x09, 0x0D), (0x20, 0x20)]⟩
  | .upper => CharSet.range 0x41 0x5A
  | .word => ⟨[(0x30, 0x39), (0x41, 0x5A), (0x5F, 0x5F), (0x61, 0x7A)]⟩
  | .xdigit => ⟨[(0x30, 0x39), (0x41, 0x46), (0x61, 0x66)]⟩

/-- The set that a name of the standard stands for. -/
def ClassName.set? : ClassName → Option CharSet
  | .single name => Unicode.named? name
  | .valued property value => Unicode.valued? property value

/-- The set of a class of the standard. -/
def Mode.named (mode : Mode) (name : ClassName) (negated : Bool) : Read CharSet :=
  if mode.unicode then
    match name.set? with
    | some set => mode.negate negated (mode.fold set)
    | none => unreadable
  else unreadable

/-- Combines two sets. -/
def ClassOp.apply : ClassOp → CharSet → CharSet → CharSet
  | .inter => CharSet.inter
  | .diff => CharSet.diff
  | .symmDiff => CharSet.symmDiff

mutual

/-- The set of a class between brackets. The members written one by one or as ranges get their
other case at the end of the brackets they stand in, or where an operation needs it. -/
def ClassTerm.set (mode : Mode) : ClassTerm → Read CharSet
  | .empty => .ok CharSet.empty
  | .literal l => do
    let c ← mode.member l
    .ok (CharSet.single c)
  | .range lo hi => do
    let a ← mode.member lo
    let b ← mode.member hi
    .ok ((CharSet.range a b).diff (CharSet.range 0xD800 0xDFFF))
  | .letter c negated => mode.letter c negated
  | .ascii c negated => mode.negate negated (mode.fold c.set)
  | .named name negated => mode.named name negated
  | .bracket negated body => do
    let inner ← body.set mode
    mode.negate negated (mode.fold inner)
  | .union items => ClassTerm.sets mode items
  | .op kind left right => do
    let a ← left.set mode
    let b ← right.set mode
    .ok (kind.apply (mode.fold a) (mode.fold b))

/-- The members of any of several classes. -/
def ClassTerm.sets (mode : Mode) : List ClassTerm → Read CharSet
  | [] => .ok CharSet.empty
  | item :: rest => do
    let a ← item.set mode
    let b ← ClassTerm.sets mode rest
    .ok (a.union b)

end

/-- The set of any one character, line ends apart as the flags have it. -/
def Mode.dot (mode : Mode) : Read CharSet :=
  if !mode.unicode then unreadable
  else if mode.dotAll then .ok CharSet.all
  else if mode.crlf then .ok (CharSet.ofRanges [(0x0A, 0x0A), (0x0D, 0x0D)]).complement
  else .ok (CharSet.single 0x0A).complement

/-! ## Places -/

/-- What a place asks for under the flags in force. -/
def Mode.place (mode : Mode) : Place → Look
  | .lineStart => if mode.multiline then .lineStart mode.crlf else .textStart
  | .lineEnd => if mode.multiline then .lineEnd mode.crlf else .textEnd
  | .textStart => .textStart
  | .textEnd => .textEnd
  | .boundary => .word .boundary !mode.unicode
  | .notBoundary => .word .notBoundary !mode.unicode
  | .wordStart => .word .start !mode.unicode
  | .wordEnd => .word .finish !mode.unicode
  | .wordStartHalf => .word .startHalf !mode.unicode
  | .wordEndHalf => .word .finishHalf !mode.unicode

/-! ## Repetition -/

/-- Whether nothing but the empty text can match. -/
def Expr.onlyEmpty : Expr → Bool
  | .empty => true
  | .never => true
  | .chars _ => false
  | .look _ => true
  | .captured body => body.onlyEmpty
  | .seq first second => first.onlyEmpty && second.onlyEmpty
  | .alt left right => left.onlyEmpty && right.onlyEmpty
  | .repeated _ max body => max == some 0 || body.onlyEmpty

/-- A repetition. To repeat what matches the empty text only is to have it once. -/
def Expr.repeat (min : Nat) (max : Option Nat) (body : Expr) : Expr :=
  let (min, max) :=
    if body.onlyEmpty then
      (if min = 0 then 0 else 1, if max = some 0 then some 0 else some 1)
    else (min, max)
  if max = some 0 then .empty
  else if min = 1 ∧ max = some 1 then body
  else .repeated min max body

/-! ## Patterns -/

mutual

/-- The meaning of a pattern, and the flags in force behind it. -/
def Term.expr (mode : Mode) : Term → Read (Expr × Mode)
  | .empty => .ok (.empty, mode)
  | .flags changes => .ok (.empty, mode.apply changes)
  | .literal l => do
    let set ← mode.literal l
    .ok (.chars (mode.fold set), mode)
  | .dot => do
    let set ← mode.dot
    .ok (.chars set, mode)
  | .place p => .ok (.look (mode.place p), mode)
  | .letter c negated => do
    let set ← mode.letter c negated
    .ok (.chars set, mode)
  | .named name negated => do
    let set ← mode.named name negated
    .ok (.chars set, mode)
  | .bracket negated body => do
    let set ← body.set mode
    let set ← mode.negate negated (mode.fold set)
    .ok (.chars set, mode)
  | .repeated min max body => do
    let (inner, mode) ← body.expr mode
    .ok (.repeat min max inner, mode)
  | .group captured changes body => do
    let (inner, _) ← body.expr (mode.apply changes)
    .ok (if captured then .captured inner else inner, mode)
  | .concat parts => Term.sequence mode parts
  | .alternatives branches => Term.choices mode branches

/-- The meaning of parts one after another. -/
def Term.sequence (mode : Mode) : List Term → Read (Expr × Mode)
  | [] => .ok (.empty, mode)
  | [part] => part.expr mode
  | part :: rest => do
    let (first, mode) ← part.expr mode
    let (second, mode) ← Term.sequence mode rest
    .ok (.seq first second, mode)

/-- The meaning of a choice between branches. -/
def Term.choices (mode : Mode) : List Term → Read (Expr × Mode)
  | [] => .ok (.never, mode)
  | branch :: rest => do
    let (left, mode) ← branch.expr mode
    let (right, mode) ← Term.choices mode rest
    .ok (.alt left right, mode)

end

/-- The meaning of a pattern as written. -/
def Expr.ofChars (chars : List Char) : Read Expr := do
  let term ← Term.ofChars chars
  let (expr, _) ← term.expr { }
  .ok expr

end Workflow.Pattern
