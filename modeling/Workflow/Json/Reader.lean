import Workflow.Json.Document

/-!
# Reading texts

A text becomes a document, never a failure: what is wrong with it stands in the document. Reading
stops at the first place where even a value that nobody keeps could not be read; from there on
there is no rest.
-/

namespace Workflow

namespace Document

/-- Drops the blanks that may stand between tokens. -/
def skipBlanks : List Char → List Char
  | [] => []
  | c :: rest =>
    if c = ' ' ∨ c = '\n' ∨ c = '\t' ∨ c = '\r' then skipBlanks rest else c :: rest

/-- Reads the rest of a word of fixed spelling. -/
def readWord : (expected : List Char) → List Char → Except Fault (List Char)
  | [], chars => .ok chars
  | _ :: _, [] => .error .truncated
  | e :: expected, c :: chars => if c = e then readWord expected chars else .error .malformed

/-! ## Strings -/

/-- The value of a hexadecimal digit. -/
def hexDigit? (c : Char) : Option Nat :=
  if '0' ≤ c ∧ c ≤ '9' then some (c.toNat - '0'.toNat)
  else if 'a' ≤ c ∧ c ≤ 'f' then some (c.toNat - 'a'.toNat + 10)
  else if 'A' ≤ c ∧ c ≤ 'F' then some (c.toNat - 'A'.toNat + 10)
  else none

/-- Reads four hexadecimal digits. The text ends too early when fewer than four bytes are left,
whatever they are. -/
def readHex4 : List Char → Except Fault (Nat × List Char)
  | a :: b :: c :: d :: rest =>
    match hexDigit? a, hexDigit? b, hexDigit? c, hexDigit? d with
    | some a, some b, some c, some d => .ok (((a * 16 + b) * 16 + c) * 16 + d, rest)
    | _, _, _, _ => .error .malformed
  | few =>
    if (few.foldl (fun n c => n + c.utf8Size) 0) < 4 then .error .truncated
    else .error .malformed

/-- What follows the first half of a surrogate pair: the second half, or a fault. -/
def readSecondHalf (first : Nat) : List Char → Except Fault (Char × List Char)
  | [] => .error .truncated
  | '\\' :: [] => .error .truncated
  | '\\' :: 'u' :: rest =>
    (readHex4 rest).bind fun (second, rest) =>
      if 0xDC00 ≤ second ∧ second ≤ 0xDFFF then
        .ok (Char.ofNat (0x10000 + (first - 0xD800) * 0x400 + (second - 0xDC00)), rest)
      else .error .malformed
  | _ => .error .malformed

/-- The character that a one-letter escape stands for. -/
def escapedChar? (c : Char) : Option Char :=
  if c = '"' then some '"'
  else if c = '\\' then some '\\'
  else if c = '/' then some '/'
  else if c = 'b' then some '\x08'
  else if c = 'f' then some '\x0c'
  else if c = 'n' then some '\n'
  else if c = 'r' then some '\r'
  else if c = 't' then some '\t'
  else none

/-- A string after its opening quote: what it holds when it is kept, what is wrong with it when
it is not, and the rest of the text, if reading can go on. -/
structure Scanned where
  kept : Except Fault String
  ignored : Option Fault
  rest : Option (List Char)

/-- A string that breaks off. A fault met before only matters when the string is kept. -/
def Scanned.broken (held : Except Fault (List Char)) (fault : Fault) : Scanned :=
  { kept := held.bind fun _ => .error fault, ignored := some fault, rest := none }

/-- Adds a character to what a string holds so far, last character first. -/
def hold (held : Except Fault (List Char)) (c : Char) : Except Fault (List Char) :=
  held.map (c :: ·)

/-- Reads a string after its opening quote. Every step consumes a character. -/
def readString : (fuel : Nat) → (held : Except Fault (List Char)) → List Char → Scanned
  | 0, held, _ => .broken held .malformed
  | _ + 1, held, [] => .broken held .truncated
  | fuel + 1, held, c :: rest =>
    if c = '"' then
      { kept := held.map fun cs => String.ofList cs.reverse, ignored := none, rest := some rest }
    else if c = '\\' then
      match rest with
      | [] => .broken held .truncated
      | 'u' :: rest =>
        match readHex4 rest with
        | .error fault => .broken held fault
        | .ok (n, rest) =>
          if 0xDC00 ≤ n ∧ n ≤ 0xDFFF then
            readString fuel (held.bind fun _ => .error .malformed) rest
          else if 0xD800 ≤ n ∧ n ≤ 0xDBFF then
            match readSecondHalf n rest with
            | .ok (pair, rest) => readString fuel (hold held pair) rest
            | .error fault => readString fuel (held.bind fun _ => .error fault) rest
          else readString fuel (hold held (Char.ofNat n)) rest
      | e :: rest =>
        match escapedChar? e with
        | some c => readString fuel (hold held c) rest
        | none => .broken held .malformed
    else if c.toNat < 0x20 then .broken held .malformed
    else readString fuel (hold held c) rest

/-- Reads a string after its opening quote. -/
def scanString (chars : List Char) : Scanned :=
  readString (chars.length + 1) (.ok []) chars

/-! ## Numbers -/

/-- The largest number of 64 bits. -/
def maxWord64 : Nat := 18446744073709551615

/-- Digits taken into a significand of 64 bits: its value, and how many digits were left over
from the first one that did not fit. -/
def takeDigits (value : Nat) : List Char → Nat × Nat
  | [] => (value, 0)
  | c :: rest =>
    let next := value * 10 + (c.toNat - '0'.toNat)
    if maxWord64 < next then (value, rest.length + 1) else takeDigits next rest

/-- The parts of a number as they are spelled; the exponent is absent where no `e` is. -/
structure Spelled where
  whole : List Char
  fraction : Option (List Char)
  exponent : Option (Bool × List Char)

/-- The value of decimal digits. -/
def decimalValue (digits : List Char) : Nat :=
  digits.foldl (fun n c => n * 10 + (c.toNat - '0'.toNat)) 0

/-- An integer that is not negative as a number. -/
def integerNumber (negative : Bool) (n : Nat) : Except Fault Number :=
  if !negative then .ok (.integer n)
  else if n = 0 then .ok (.real (Binary64.zero true))
  else if n ≤ 9223372036854775808 then .ok (.integer (-(n : Int)))
  else
    match Binary64.ofDecimal true n 0 with
    | some x => .ok (.real x)
    | none => .error .malformed

/-- A number with a fraction, an exponent or too many digits. An exponent beyond 32 bits makes
zero of everything when negative, and of nothing but zero when positive. -/
def realNumber (negative : Bool) (digits : Nat) (shift : Int)
    (exponent : Option (Bool × List Char)) : Except Fault Number :=
  let read (e : Int) : Except Fault Number :=
    match Binary64.ofDecimal negative digits e with
    | some x => .ok (.real x)
    | none => .error .malformed
  match exponent with
  | none => read shift
  | some (down, written) =>
    let e := decimalValue written
    if 2147483647 < e then
      if digits ≠ 0 ∧ !down then .error .malformed
      else .ok (.real (Binary64.zero negative))
    else read (if down then shift - e else shift + e)

/-- The number that is spelled. Digits past the 64 bits of the significand count by their place
only; those of the fraction not at all. -/
def Spelled.number (negative : Bool) (s : Spelled) : Except Fault Number :=
  let (whole, beyond) := takeDigits 0 s.whole
  match s.fraction, s.exponent with
  | none, none =>
    if beyond = 0 then integerNumber negative whole else realNumber negative whole beyond none
  | fraction, exponent =>
    let digits := fraction.getD []
    let (value, left) := takeDigits whole digits
    realNumber negative value ((beyond : Int) - ((digits.length : Int) - (left : Int))) exponent

/-- A number that breaks off: it only ends too early for someone who keeps it. -/
def brokenNumber (rest : List Char) : Document :=
  number (.error (if rest.isEmpty then .truncated else .malformed)) (some .malformed)

/-- Cuts off leading decimal digits. -/
def spanDigits (chars : List Char) : List Char × List Char :=
  (chars.takeWhile Char.isDigit, chars.dropWhile Char.isDigit)

/-- Reads the exponent of a number whose other parts are known. -/
def readExponent (negative : Bool) (whole : List Char) (fraction : Option (List Char))
    (chars : List Char) : Document × Option (List Char) :=
  let finish (exponent : Option (Bool × List Char)) (rest : List Char) :=
    (number (Spelled.number negative ⟨whole, fraction, exponent⟩) none, some rest)
  let digitsOf (down : Bool) (chars : List Char) :=
    match spanDigits chars with
    | ([], rest) => (brokenNumber rest, none)
    | (digits, rest) => finish (some (down, digits)) rest
  match chars with
  | 'e' :: '-' :: rest => digitsOf true rest
  | 'E' :: '-' :: rest => digitsOf true rest
  | 'e' :: '+' :: rest => digitsOf false rest
  | 'E' :: '+' :: rest => digitsOf false rest
  | 'e' :: rest => digitsOf false rest
  | 'E' :: rest => digitsOf false rest
  | rest => finish none rest

/-- Reads a number after its sign. -/
def readNumber (negative : Bool) (chars : List Char) : Document × Option (List Char) :=
  match spanDigits chars with
  | ([], rest) => (brokenNumber rest, none)
  | ('0' :: _ :: _, _) => (number (.error .malformed) (some .malformed), none)
  | (whole, '.' :: rest) =>
    match spanDigits rest with
    | ([], rest) => (brokenNumber rest, none)
    | (fraction, rest) => readExponent negative whole (some fraction) rest
  | (whole, rest) => readExponent negative whole none rest

/-! ## Values -/

/-- A word and the rest of the text after it, or what a broken word leaves. -/
def afterWord (word : Document) (broken : Fault → Document) :
    Except Fault (List Char) → Document × Option (List Char)
  | .ok rest => (word, some rest)
  | .error fault => (broken fault, none)

/-- A string as a document. -/
def ofScanned (s : Scanned) : Document × Option (List Char) :=
  (string s.kept s.ignored, s.rest)

/-- The name that a string is. -/
def keyOf (s : Scanned) : Key :=
  match s.kept with
  | .ok name => .name name
  | .error fault => .badName fault s.ignored

mutual

/-- Reads a value. Every nested call is at least one character further on. -/
def readValue : (fuel : Nat) → List Char → Document × Option (List Char)
  | 0, _ => (absent .malformed, none)
  | fuel + 1, chars =>
    match skipBlanks chars with
    | [] => (absent .truncated, none)
    | 'n' :: rest => afterWord null brokenNull (readWord ['u', 'l', 'l'] rest)
    | 't' :: rest => afterWord (bool true) brokenWord (readWord ['r', 'u', 'e'] rest)
    | 'f' :: rest => afterWord (bool false) brokenWord (readWord ['a', 'l', 's', 'e'] rest)
    | '"' :: rest => ofScanned (scanString rest)
    | '-' :: rest => readNumber true rest
    | '[' :: rest =>
      match skipBlanks rest with
      | [] => (array [] (some .truncated), none)
      | ']' :: rest => (array [] none, some rest)
      | rest =>
        let (items, stop, rest) := readItems fuel rest
        (array items stop, rest)
    | '\x7b' :: rest =>
      match skipBlanks rest with
      | [] => (object [] (some .truncated), none)
      | '\x7d' :: rest => (object [] none, some rest)
      | '"' :: rest =>
        let (members, stop, rest) := readMembers fuel rest
        (object members stop, rest)
      | _ => (object [(.noName .malformed, absent .malformed)] none, none)
    | c :: rest => if c.isDigit then readNumber false (c :: rest) else (absent .malformed, none)

/-- Reads the items of an array from the place of the next one. -/
def readItems : (fuel : Nat) → List Char → List Document × Option Fault × Option (List Char)
  | 0, _ => ([], some .malformed, none)
  | fuel + 1, chars =>
    match readValue fuel chars with
    | (item, none) => ([item], none, none)
    | (item, some rest) =>
      match skipBlanks rest with
      | [] => ([item], some .truncated, none)
      | ']' :: rest => ([item], none, some rest)
      | ',' :: rest =>
        let (items, stop, rest) := readItems fuel rest
        (item :: items, stop, rest)
      | _ => ([item], some .malformed, none)

/-- Reads the members of an object from behind the opening quote of the next name. -/
def readMembers : (fuel : Nat) → List Char →
    List (Key × Document) × Option Fault × Option (List Char)
  | 0, _ => ([], some .malformed, none)
  | fuel + 1, chars =>
    let scanned := scanString chars
    let key := keyOf scanned
    match scanned.rest.map skipBlanks with
    | none => ([(key, absent .malformed)], none, none)
    | some [] => ([(key, absent .truncated)], none, none)
    | some (':' :: rest) =>
      match readValue fuel rest with
      | (value, none) => ([(key, value)], none, none)
      | (value, some rest) =>
        match skipBlanks rest with
        | [] => ([(key, value)], some .truncated, none)
        | '\x7d' :: rest => ([(key, value)], none, some rest)
        | ',' :: rest =>
          match skipBlanks rest with
          | [] =>
            ([(key, value), (.noName .truncated, absent .truncated)], none, none)
          | '"' :: rest =>
            let (members, stop, rest) := readMembers fuel rest
            ((key, value) :: members, stop, rest)
          | _ => ([(key, value), (.noName .malformed, absent .malformed)], none, none)
        | _ => ([(key, value)], some .malformed, none)
    | some _ => ([(key, absent .malformed)], none, none)

end

/-- Reads the value at the front of a text. -/
def readFront (text : String) : Document × Option (List Char) :=
  let chars := text.toList
  readValue (2 * chars.length + 2) chars

end Document

end Workflow
