/-!
# Arguments

The words of a command line are read from left to right. Options have a long name, and some a
letter; their values follow as the next word or behind an equals sign. Reading stops at the first
word that is not an option. What an option asks for instead of a run ends the reading at once, so
nothing behind it can be at fault.
-/

namespace Workflow.CommandLine

/-! ## Numbers -/

/-- The largest number that can be given. -/
def largestNumber : Nat := 18446744073709551615

/-- The number that a text writes: digits, with a plus sign at most before them. -/
def wholeNumber? (text : String) : Option Nat :=
  let digits :=
    match text.toList with
    | '+' :: rest => rest
    | chars => chars
  let value := digits.foldl (fun n c => n * 10 + (c.toNat - '0'.toNat)) 0
  if digits.isEmpty || !digits.all Char.isDigit || largestNumber < value then none else some value

/-! ## Options -/

/-- What an option takes. -/
inductive Arity where
  | flag
  | value (accepts : String → Bool)
  | question

/-- An option. Only options without a value have a letter. -/
structure Parameter where
  name : String
  letter : Option Char
  arity : Arity

/-- Why a reading ends early: the words make no sense, or they ask for something else. -/
inductive Stop where
  | misuse
  | asked (question : String)
deriving Repr, DecidableEq

/-- The options given so far, with their values, last one first. -/
abbrev Given := List (String × String)

/-- Whether a word looks like an option. A hyphen alone does not. -/
def looksLikeOption (word : String) : Bool :=
  match word.toList with
  | '-' :: _ :: _ => true
  | _ => false

/-- Adds an option. It may be given once, with a value that it accepts. -/
def Parameter.give (p : Parameter) (value : String) (given : Given) : Except Stop Given :=
  let once (fine : Bool) : Except Stop Given :=
    if fine && !given.any (fun g => g.1 == p.name) then .ok ((p.name, value) :: given)
    else .error .misuse
  match p.arity with
  | .question => .error (.asked p.name)
  | .flag => once true
  | .value accepts => once (accepts value)

/-- Whether an option takes a value. -/
def Parameter.takesValue (p : Parameter) : Bool :=
  match p.arity with
  | .value _ => true
  | _ => false

/-- The option with a long name. -/
def named? (parameters : List Parameter) (name : String) : Option Parameter :=
  parameters.find? fun p => p.name == name

/-- The option with a letter. -/
def lettered? (parameters : List Parameter) (letter : Char) : Option Parameter :=
  parameters.find? fun p => p.letter == some letter

/-- Reads the letters behind a single hyphen. -/
def readLetters (parameters : List Parameter) (given : Given) : List Char → Except Stop Given
  | [] => .ok given
  | letter :: rest =>
    match lettered? parameters letter with
    | none => .error .misuse
    | some p => (p.give "" given).bind fun given => readLetters parameters given rest

/-- Cuts a word at its first equals sign. -/
def cutAtEquals (word : List Char) : String × Option String :=
  let name := String.ofList (word.takeWhile (· ≠ '='))
  match word.dropWhile (· ≠ '=') with
  | [] => (name, none)
  | _ :: value => (name, some (String.ofList value))

/-- Reads options up to the first word that is none. The words left are returned with them; two
hyphens alone are left too. -/
def readOptions (parameters : List Parameter) (given : Given) :
    List String → Except Stop (Given × List String)
  | [] => .ok (given, [])
  | word :: rest =>
    match word.toList with
    | ['-', '-'] => .ok (given, word :: rest)
    | '-' :: '-' :: long =>
      let (name, attached) := cutAtEquals long
      match named? parameters name with
      | none => .error .misuse
      | some p =>
        match p.takesValue, attached, rest with
        | true, some value, rest =>
          (p.give value given).bind fun given => readOptions parameters given rest
        | true, none, value :: rest =>
          if looksLikeOption value then .error .misuse
          else (p.give value given).bind fun given => readOptions parameters given rest
        | true, none, [] => .error .misuse
        | false, some _, _ => .error .misuse
        | false, none, rest =>
          (p.give "" given).bind fun given => readOptions parameters given rest
    | '-' :: c :: letters =>
      (readLetters parameters given (c :: letters)).bind fun given =>
        readOptions parameters given rest
    | _ => .ok (given, word :: rest)

end Workflow.CommandLine
