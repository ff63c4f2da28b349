import Workflow.Pattern.Term
import Workflow.Unicode.Class

/-!
# Reading patterns

A pattern is read from left to right. Where spacing is on, blanks do not count and a number sign
starts a comment that runs to the end of its line. Whatever is wrong with a pattern, there is one
fault for it: the pattern cannot be read.
-/

namespace Workflow.Pattern

/-- That a pattern cannot be read. -/
inductive Unreadable where
  | here
deriving Repr, DecidableEq

/-- The result of reading. -/
abbrev Read (α : Type) := Except Unreadable α

/-- The fault. -/
def unreadable : Read α := .error .here

/-! ## Blanks -/

/-- Drops a comment up to the end of its line. -/
def skipComment : List Char → List Char
  | [] => []
  | c :: rest => if c = '\n' then rest else skipComment rest

theorem length_skipComment (chars : List Char) : (skipComment chars).length ≤ chars.length := by
  induction chars with
  | nil => simp [skipComment]
  | cons c rest ih =>
      simp only [skipComment]
      split
      · simp
      · simp only [List.length_cons]
        omega

/-- Drops blanks and comments. -/
def skipBlanks (chars : List Char) : List Char :=
  match chars with
  | [] => []
  | c :: rest =>
    if Unicode.isBlank c then skipBlanks rest
    else if c = '#' then skipBlanks (skipComment rest)
    else c :: rest
termination_by chars.length
decreasing_by
  · simp
  · have hrest := length_skipComment rest
    simp only [List.length_cons]
    omega

/-- Drops blanks and comments where spacing is on. -/
def skip (spacing : Bool) (chars : List Char) : List Char :=
  if spacing then skipBlanks chars else chars

/-- The first character that counts after the present one, when blanks do not. A comment ends
here with the first character that is not blank. -/
def peekBlanks (inComment : Bool) : List Char → Option Char
  | [] => none
  | c :: rest =>
    if Unicode.isBlank c then peekBlanks inComment rest
    else if c = '#' ∧ !inComment then peekBlanks true rest
    else some c

/-- The character that counts after the present one. -/
def peek (spacing : Bool) (after : List Char) : Option Char :=
  if spacing then (peekBlanks false after).or after.head? else after.head?

/-! ## Numbers -/

/-- Reads digits; blanks between them do not count where spacing is on. -/
def readDigits (spacing : Bool) : (fuel : Nat) → List Char → List Char × List Char
  | 0, chars => ([], chars)
  | fuel + 1, c :: rest =>
    if c.isDigit then
      let (digits, rest) := readDigits spacing fuel (skip spacing rest)
      (c :: digits, rest)
    else ([], c :: rest)
  | _ + 1, [] => ([], [])

/-- The largest count of a repetition. -/
def maxCount : Nat := 4294967295

/-- Reads a count between blanks; there may be none. -/
def readCount (spacing : Bool) (chars : List Char) : Read (Option Nat × List Char) :=
  let (digits, rest) := readDigits spacing chars.length (chars.dropWhile Unicode.isBlank)
  let rest := skip spacing (rest.dropWhile Unicode.isBlank)
  let value := digits.foldl (fun n c => n * 10 + (c.toNat - '0'.toNat)) 0
  if digits.isEmpty then .ok (none, rest)
  else if maxCount < value then unreadable
  else .ok (some value, rest)

/-- The value of a hexadecimal digit. -/
def hexDigit? (c : Char) : Option Nat :=
  if '0' ≤ c ∧ c ≤ '9' then some (c.toNat - '0'.toNat)
  else if 'a' ≤ c ∧ c ≤ 'f' then some (c.toNat - 'a'.toNat + 10)
  else if 'A' ≤ c ∧ c ≤ 'F' then some (c.toNat - 'A'.toNat + 10)
  else none

/-- The character with a code point, if there is one. -/
def charOf (n : Nat) : Read Char :=
  if n.isValidChar then .ok (Char.ofNat n) else unreadable

/-- Reads exactly `count` hexadecimal digits. -/
def readHexDigits (spacing : Bool) (value : Nat) :
    (count : Nat) → List Char → Read (Nat × List Char)
  | 0, chars => .ok (value, chars)
  | count + 1, c :: rest =>
    match hexDigit? c with
    | some d => readHexDigits spacing (value * 16 + d) count (skip spacing rest)
    | none => unreadable
  | _ + 1, [] => unreadable

/-- Reads hexadecimal digits up to a closing brace. -/
def readHexBraced (spacing : Bool) (value : Option Nat) : (fuel : Nat) → List Char →
    Read (Nat × List Char)
  | 0, _ => unreadable
  | _ + 1, [] => unreadable
  | fuel + 1, c :: rest =>
    if c = '\x7d' then
      match value with
      | some n => .ok (n, skip spacing rest)
      | none => unreadable
    else
      match hexDigit? c with
      | some d => readHexBraced spacing (some (value.getD 0 * 16 + d)) fuel (skip spacing rest)
      | none => unreadable

/-- Reads the code point after `x`, `u` or `U`, which take two, four and eight digits. -/
def readHex (spacing : Bool) (count : Nat) (chars : List Char) : Read (Literal × List Char) :=
  match skip spacing chars with
  | '\x7b' :: rest => do
    let (n, rest) ← readHexBraced spacing none (rest.length + 1) (skip spacing rest)
    let c ← charOf n
    .ok (⟨c, false⟩, rest)
  | chars => do
    let (n, rest) ← readHexDigits spacing 0 count chars
    let c ← charOf n
    .ok (⟨c, count == 2⟩, rest)

/-! ## Named classes -/

/-- Splits a name at the first occurrence of a mark. -/
def splitAtMark (mark : List Char) : List Char → Option (List Char × List Char)
  | [] => none
  | c :: rest =>
    if mark.isPrefixOf (c :: rest) then some ([], (c :: rest).drop mark.length)
    else (splitAtMark mark rest).map fun (before, after) => (c :: before, after)

/-- The class a name in braces asks for, and whether the characters outside it are meant. A
property and its value are joined by a colon or an equals sign; an exclamation mark before the
equals sign asks for every other value. -/
def classNameOf (name : List Char) : ClassName × Bool :=
  let joined := [(['!', '='], true), ([':'], false), (['='], false)].findSome? fun (mark, other) =>
    (splitAtMark mark name).map fun (before, after) => (before, after, other)
  match joined with
  | some (before, after, other) =>
    (.valued (String.ofList before) (String.ofList after), other)
  | none => (.single (String.ofList name), false)

/-- Reads a name up to a closing brace. -/
def readBraced (spacing : Bool) : (fuel : Nat) → List Char → Read (List Char × List Char)
  | 0, _ => unreadable
  | _ + 1, [] => unreadable
  | fuel + 1, c :: rest =>
    if c = '\x7d' then .ok ([], rest)
    else do
      let (name, rest) ← readBraced spacing fuel (skip spacing rest)
      .ok (c :: name, rest)

/-- Reads a class of the standard after `p` or `P`. -/
def readNamed (spacing negated : Bool) (chars : List Char) : Read (Term × List Char) :=
  match skip spacing chars with
  | [] => unreadable
  | '\x7b' :: rest => do
    let (name, rest) ← readBraced spacing (rest.length + 1) (skip spacing rest)
    let (name, other) := classNameOf name
    .ok (.named name (negated != other), rest)
  | '\\' :: _ => unreadable
  | c :: rest => .ok (.named (.single (String.ofList [c])) negated, skip spacing rest)

/-! ## Escapes -/

/-- The characters with a meaning of their own in patterns. -/
def specialChars : List Char :=
  ['\\', '.', '+', '*', '?', '(', ')', '|', '[', ']', '\x7b', '\x7d', '^', '$', '#', '&', '-', '~']

/-- Whether a backslash before the character makes it stand for itself. -/
def escapable (c : Char) : Bool :=
  specialChars.contains c || (c.toNat < 0x80 && !c.isAlphanum && c != '<' && c != '>')

/-- The places that can be named in braces after a word boundary. -/
def namedPlace? (name : List Char) : Option Place :=
  [("start", Place.wordStart), ("end", .wordEnd), ("start-half", .wordStartHalf),
    ("end-half", .wordEndHalf)].lookup (String.ofList name)

/-- Whether a character may stand in such a name. -/
def isPlaceChar (c : Char) : Bool := c.isAlpha || c = '-'

/-- Reads the letters of such a name. -/
def readPlaceName (spacing : Bool) : (fuel : Nat) → List Char → List Char × List Char
  | 0, chars => ([], chars)
  | _ + 1, [] => ([], [])
  | fuel + 1, c :: rest =>
    if isPlaceChar c then
      let (name, rest) := readPlaceName spacing fuel (skip spacing rest)
      (c :: name, rest)
    else ([], c :: rest)

/-- Reads what follows a word boundary. A brace opens a name if a letter or hyphen follows;
otherwise it opens a count, which is not for here to read. -/
def readBoundary (spacing : Bool) (chars : List Char) : Read (Term × List Char) :=
  match chars with
  | '\x7b' :: rest =>
    match skip spacing rest with
    | [] => unreadable
    | c :: more =>
      if isPlaceChar c then
        match readPlaceName spacing (more.length + 1) (c :: more) with
        | (name, '\x7d' :: rest) =>
          match namedPlace? name with
          | some p => .ok (.place p, rest)
          | none => unreadable
        | _ => unreadable
      else .ok (.place .boundary, chars)
  | _ => .ok (.place .boundary, chars)

/-- A character that stands for itself. -/
def plain (c : Char) : Term := .literal ⟨c, false⟩

/-- The letters that stand for a control character after a backslash. -/
def controlLetter? (c : Char) : Option Char :=
  [('a', '\x07'), ('f', '\x0c'), ('t', '\t'), ('n', '\n'), ('r', '\r'), ('v', '\x0b')].lookup c

/-- The characters that stand for a class after a backslash. -/
def letterClass? (c : Char) : Option (LetterClass × Bool) :=
  [('d', LetterClass.digit, false), ('s', .space, false), ('w', .word, false),
    ('D', .digit, true), ('S', .space, true), ('W', .word, true)].lookup c

/-- The characters that stand for a place after a backslash. -/
def placeLetter? (c : Char) : Option Place :=
  [('A', Place.textStart), ('z', .textEnd), ('B', .notBoundary), ('<', .wordStart),
    ('>', .wordEnd)].lookup c

/-- Reads what follows a backslash. Digits would refer back, which no pattern may do. -/
def readEscape (spacing : Bool) : List Char → Read (Term × List Char)
  | [] => unreadable
  | 'x' :: rest => (readHex spacing 2 rest).map fun (l, rest) => (.literal l, rest)
  | 'u' :: rest => (readHex spacing 4 rest).map fun (l, rest) => (.literal l, rest)
  | 'U' :: rest => (readHex spacing 8 rest).map fun (l, rest) => (.literal l, rest)
  | 'p' :: rest => readNamed spacing false rest
  | 'P' :: rest => readNamed spacing true rest
  | 'b' :: rest => readBoundary spacing rest
  | c :: rest =>
    if escapable c then .ok (plain c, rest)
    else
      match letterClass? c, controlLetter? c, placeLetter? c with
      | some (cls, negated), _, _ => .ok (.letter cls negated, rest)
      | _, some control, _ => .ok (plain control, rest)
      | _, _, some p => .ok (.place p, rest)
      | none, none, none => unreadable

/-! ## Classes between brackets -/

/-- The class with a name between colons. -/
def asciiClass? (name : List Char) : Option AsciiClass :=
  [("alnum", AsciiClass.alnum), ("alpha", .alpha), ("ascii", .ascii), ("blank", .blank),
    ("cntrl", .cntrl), ("digit", .digit), ("graph", .graph), ("lower", .lower),
    ("print", .print), ("punct", .punct), ("space", .space), ("upper", .upper),
    ("word", .word), ("xdigit", .xdigit)].lookup (String.ofList name)

/-- Reads a class named between colons after its opening bracket. Anything else is not at
fault: the bracket then opens a class of its own. -/
def readAscii? : List Char → Option (ClassTerm × List Char)
  | ':' :: rest =>
    let (negated, rest) :=
      match rest with
      | '^' :: rest => (true, rest)
      | rest => (false, rest)
    let name := rest.takeWhile (· ≠ ':')
    match rest.dropWhile (· ≠ ':') with
    | ':' :: ']' :: after => (asciiClass? name).map fun cls => (.ascii cls negated, after)
    | _ => none
  | _ => none

/-- Reads one character or class inside brackets. -/
def readClassAtom (spacing : Bool) : List Char → Read (Term × List Char)
  | [] => unreadable
  | '\\' :: rest => readEscape spacing rest
  | c :: rest => .ok (plain c, rest)

/-- What a character or class means inside brackets. Places have no business there. -/
def classItem : Term → Read ClassTerm
  | .literal l => .ok (.literal l)
  | .letter c negated => .ok (.letter c negated)
  | .named name negated => .ok (.named name negated)
  | _ => unreadable

/-- Only characters can be the ends of a range. -/
def rangeEnd : Term → Read Literal
  | .literal l => .ok l
  | _ => unreadable

/-- Reads one item inside brackets: a character, a class, or a range. A hyphen before the closing
bracket or before another hyphen does not make a range. -/
def readClassItem (spacing : Bool) (chars : List Char) : Read (ClassTerm × List Char) := do
  let (first, rest) ← readClassAtom spacing chars
  match skip spacing rest with
  | [] => unreadable
  | '-' :: after =>
    if peek spacing after = some ']' ∨ peek spacing after = some '-' then
      let item ← classItem first
      .ok (item, '-' :: after)
    else
      let (second, rest) ← readClassAtom spacing (skip spacing after)
      let lo ← rangeEnd first
      let hi ← rangeEnd second
      if lo.char.toNat ≤ hi.char.toNat then .ok (.range lo hi, rest) else unreadable
  | rest => do
    let item ← classItem first
    .ok (item, rest)

/-- Reads the hyphens that stand for themselves at the beginning of a class. -/
def readHyphens (spacing : Bool) : (fuel : Nat) → List Char → List ClassTerm × List Char
  | fuel + 1, '-' :: rest =>
    let (items, rest) := readHyphens spacing fuel (skip spacing rest)
    (.literal ⟨'-', false⟩ :: items, rest)
  | _, chars => ([], chars)

/-- Reads the beginning of a class after its opening bracket: whether it is negated, and the
hyphens or the closing bracket that stand for themselves there. -/
def readClassStart (spacing : Bool) (chars : List Char) :
    Read (Bool × List ClassTerm × List Char) := do
  let (negated, chars) :=
    match skip spacing chars with
    | '^' :: rest => (true, skip spacing rest)
    | rest => (false, rest)
  let (hyphens, chars) := readHyphens spacing chars.length chars
  match hyphens, chars with
  | _, [] => unreadable
  | [], ']' :: rest =>
    match skip spacing rest with
    | [] => unreadable
    | rest => .ok (negated, [.literal ⟨']', false⟩], rest)
  | hyphens, chars => .ok (negated, hyphens, chars)

/-- Applies an operation that waits for its right side. -/
def applyPending (pending : Option (ClassOp × ClassTerm)) (right : ClassTerm) : ClassTerm :=
  match pending with
  | some (kind, left) => .op kind left right
  | none => right

/-- Reads a class from behind its opening bracket to its closing one. Operations group to the
left. `items` holds what was read since the last operation, last item first. -/
def readClass (spacing negated : Bool) : (fuel : Nat) → (pending : Option (ClassOp × ClassTerm)) →
    (items : List ClassTerm) → List Char → Read (ClassTerm × List Char)
  | 0, _, _, _ => unreadable
  | fuel + 1, pending, items, chars =>
    let done := applyPending pending (.unionOf items.reverse)
    match skip spacing chars with
    | [] => unreadable
    | '[' :: rest =>
      match readAscii? rest with
      | some (item, rest) => readClass spacing negated fuel pending (item :: items) rest
      | none => do
        let (inner, start, rest) ← readClassStart spacing rest
        let (nested, rest) ← readClass spacing inner fuel none start.reverse rest
        readClass spacing negated fuel pending (nested :: items) rest
    | ']' :: rest => .ok (.bracket negated done, rest)
    | '&' :: '&' :: rest => readClass spacing negated fuel (some (.inter, done)) [] rest
    | '-' :: '-' :: rest => readClass spacing negated fuel (some (.diff, done)) [] rest
    | '~' :: '~' :: rest => readClass spacing negated fuel (some (.symmDiff, done)) [] rest
    | chars => do
      let (item, rest) ← readClassItem spacing chars
      readClass spacing negated fuel pending (item :: items) rest

/-- Reads a class after its opening bracket. -/
def readBracket (spacing : Bool) (chars : List Char) : Read (Term × List Char) := do
  let (negated, start, rest) ← readClassStart spacing chars
  let (body, rest) ← readClass spacing negated (chars.length + 1) none start.reverse rest
  match body with
  | .bracket negated body => .ok (.bracket negated body, rest)
  | _ => unreadable

/-! ## Repetitions -/

/-- Whether there is something to repeat. -/
def repeatable : Term → Bool
  | .empty => false
  | .flags _ => false
  | _ => true

/-- Repeats the last part. -/
def repeatLast (min : Nat) (max : Option Nat) : List Term → Read (List Term)
  | part :: parts =>
    if repeatable part then .ok (.repeated min max part :: parts) else unreadable
  | [] => unreadable

/-- Drops the mark that makes a repetition prefer few. It makes no difference to whether a text
matches. -/
def skipLazy : List Char → List Char
  | '?' :: rest => rest
  | rest => rest

/-- Reads the counts after an opening brace, up to the closing one. -/
def readCounts (spacing : Bool) (chars : List Char) : Read ((Nat × Option Nat) × List Char) := do
  let (low, rest) ← readCount spacing (skip spacing chars)
  match low, rest with
  | some low, '\x7d' :: rest => .ok ((low, some low), skipLazy (skip spacing rest))
  | some low, ',' :: rest =>
    match skip spacing rest with
    | '\x7d' :: rest => .ok ((low, none), skipLazy (skip spacing rest))
    | rest =>
      let (high, rest) ← readCount spacing rest
      match high, rest with
      | some high, '\x7d' :: rest =>
        if low ≤ high then .ok ((low, some high), skipLazy (skip spacing rest)) else unreadable
      | _, _ => unreadable
  | _, _ => unreadable

/-! ## Groups -/

/-- The flag of a letter. -/
def flag? (c : Char) : Option Flag :=
  [('i', Flag.caseless), ('m', .multiline), ('s', .dotAll), ('U', .swapGreed), ('u', .unicode),
    ('R', .crlf), ('x', .spacing)].lookup c

/-- Reads flags up to a colon or a closing parenthesis, which is left. No flag may occur twice,
only one hyphen may, and not at the end. -/
def readFlags (clearing : Bool) (changes : FlagChanges) (dangling : Bool) :
    List Char → Read (FlagChanges × List Char)
  | [] => unreadable
  | c :: rest =>
    if c = ':' ∨ c = ')' then
      if dangling then unreadable else .ok (changes.reverse, c :: rest)
    else if c = '-' then
      if clearing then unreadable else readFlags true changes true rest
    else
      match flag? c with
      | none => unreadable
      | some f =>
        if changes.any fun change => change.1 == f then unreadable
        else readFlags clearing ((f, !clearing) :: changes) false rest

/-- Whether a character may stand in the name of a group. -/
def isNameChar (first : Bool) (c : Char) : Bool :=
  c = '_' || Unicode.alphabetic.has c ||
    (!first && (c = '.' || c = '[' || c = ']' || Unicode.numeric.has c))

/-- Reads the name of a group after its opening bracket. -/
def readGroupName (chars : List Char) : Read (String × List Char) :=
  let name := chars.takeWhile (· ≠ '>')
  match name, chars.dropWhile (· ≠ '>') with
  | first :: more, '>' :: rest =>
    if isNameChar true first && more.all (isNameChar false) then .ok (String.ofList name, rest)
    else unreadable
  | _, _ => unreadable

/-- The beginning of a group. -/
inductive Opening where
  | flags (changes : FlagChanges)
  | group (captured : Bool) (changes : FlagChanges) (name : Option String)

/-- Reads the beginning of a group after its parenthesis. Looking ahead or behind is not for
these patterns. -/
def readOpening (spacing : Bool) (chars : List Char) : Read (Opening × List Char) :=
  match skip spacing chars with
  | '?' :: '=' :: _ => unreadable
  | '?' :: '!' :: _ => unreadable
  | '?' :: '<' :: '=' :: _ => unreadable
  | '?' :: '<' :: '!' :: _ => unreadable
  | '?' :: 'P' :: '<' :: rest => do
    let (name, rest) ← readGroupName rest
    .ok (.group true [] (some name), rest)
  | '?' :: '<' :: rest => do
    let (name, rest) ← readGroupName rest
    .ok (.group true [] (some name), rest)
  | '?' :: rest => do
    let (changes, rest) ← readFlags false [] false rest
    match rest with
    | ')' :: rest => if changes.isEmpty then unreadable else .ok (.flags changes, rest)
    | ':' :: rest => .ok (.group false changes none, rest)
    | _ => unreadable
  | rest => .ok (.group true [] none, rest)

/-- Whether spacing is on after some changes. -/
def spacingAfter (spacing : Bool) (changes : FlagChanges) : Bool :=
  (changes.lookup .spacing).getD spacing

/-! ## Patterns -/

/-- What has been read of a group: the parts of the present branch and the branches before it,
both last one first. -/
structure Unfinished where
  parts : List Term
  branches : List Term

/-- The group as it stands. -/
def Unfinished.term (p : Unfinished) : Term :=
  .alternativesOf (Term.concatOf p.parts.reverse :: p.branches).reverse

/-- Adds a part. -/
def Unfinished.add (p : Unfinished) (part : Term) : Unfinished :=
  { p with parts := part :: p.parts }

/-- Begins a new branch. -/
def Unfinished.branch (p : Unfinished) : Unfinished :=
  ⟨[], Term.concatOf p.parts.reverse :: p.branches⟩

/-- Repeats the last part. -/
def Unfinished.repeated (p : Unfinished) (min : Nat) (max : Option Nat) : Read Unfinished :=
  (repeatLast min max p.parts).map fun parts => { p with parts := parts }

/-- Reads a group up to its closing parenthesis, which is left, or to the end. `names` are the
names of groups so far, none of which may occur twice. -/
def readGroup : (fuel : Nat) → (spacing : Bool) → (names : List String) → Unfinished → List Char →
    Read (Term × List String × List Char)
  | 0, _, _, _, _ => unreadable
  | fuel + 1, spacing, names, p, chars =>
    match skip spacing chars with
    | [] => .ok (p.term, names, [])
    | ')' :: rest => .ok (p.term, names, ')' :: rest)
    | '|' :: rest => readGroup fuel spacing names p.branch rest
    | '(' :: rest => do
      let (opening, rest) ← readOpening spacing rest
      match opening with
      | .flags changes =>
        readGroup fuel (spacingAfter spacing changes) names (p.add (.flags changes)) rest
      | .group captured changes name =>
        if name.any names.contains then unreadable
        else
          let (body, names, rest) ←
            readGroup fuel (spacingAfter spacing changes) (name.toList ++ names) ⟨[], []⟩ rest
          match rest with
          | ')' :: rest => readGroup fuel spacing names (p.add (.group captured changes body)) rest
          | _ => unreadable
    | '[' :: rest => do
      let (cls, rest) ← readBracket spacing rest
      readGroup fuel spacing names (p.add cls) rest
    | '?' :: rest => do
      let p ← p.repeated 0 (some 1)
      readGroup fuel spacing names p (skipLazy rest)
    | '*' :: rest => do
      let p ← p.repeated 0 none
      readGroup fuel spacing names p (skipLazy rest)
    | '+' :: rest => do
      let p ← p.repeated 1 none
      readGroup fuel spacing names p (skipLazy rest)
    | '\x7b' :: rest => do
      let ((low, high), rest) ← readCounts spacing rest
      let p ← p.repeated low high
      readGroup fuel spacing names p rest
    | '\\' :: rest => do
      let (part, rest) ← readEscape spacing rest
      readGroup fuel spacing names (p.add part) rest
    | '.' :: rest => readGroup fuel spacing names (p.add .dot) rest
    | '^' :: rest => readGroup fuel spacing names (p.add (.place .lineStart)) rest
    | '$' :: rest => readGroup fuel spacing names (p.add (.place .lineEnd)) rest
    | c :: rest => readGroup fuel spacing names (p.add (plain c)) rest

/-- The deepest nesting of a pattern. -/
def maxHeight : Nat := 250

/-- Reads a whole pattern. -/
def Term.ofChars (chars : List Char) : Read Term := do
  let (term, _, rest) ← readGroup (chars.length + 1) false [] ⟨[], []⟩ chars
  if rest.isEmpty && term.height ≤ maxHeight then .ok term else unreadable

end Workflow.Pattern
