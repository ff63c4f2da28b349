import Workflow.CommandLine.Arguments
import Workflow.Pattern.Expr
import Workflow.Unicode.Class

/-!
# The log

Which lines are logged is decided by a filter: a list of directives, each with a level for the
lines it covers. A line goes by the most specific directive that covers it, and is logged if the
level there is at least its own. A line that no directive covers is not logged.

What is logged cannot take hold of a terminal: the characters that could are escaped.
-/

namespace Workflow.CommandLine

/-! ## Levels -/

/-- How much is logged. Every level holds all that the one before it holds. -/
inductive LogLevel where
  | off
  | error
  | warn
  | info
  | debug
  | trace
deriving Repr, DecidableEq

namespace LogLevel

/-- The levels in order, with their names. -/
def all : List (String × LogLevel) :=
  [("off", off), ("error", error), ("warn", warn), ("info", info), ("debug", debug),
    ("trace", trace)]

/-- The place of a level in their order. -/
def rank : LogLevel → Nat
  | off => 0
  | error => 1
  | warn => 2
  | info => 3
  | debug => 4
  | trace => 5

/-- The level that a text names, in letters of either case, or numbers. -/
def ofText? (text : String) : Option LogLevel :=
  match (wholeNumber? text).bind fun n => all[n]? with
  | some (_, level) => some level
  | none => all.lookup (String.ofList (text.toList.map Char.toLower))

end LogLevel

/-! ## Filters -/

/-- A line that may be logged: where it comes from, at which level, and the fields it has. -/
structure LogLine where
  source : String
  level : LogLevel
  fields : List String
deriving Repr, DecidableEq

/-- A level for the lines of some sources: those whose name begins as given. It may be for lines
within a span only, or for lines with certain fields, some of them with certain values. -/
structure Directive where
  source : Option String
  inSpan : Bool
  fields : List (String × Bool)
  level : LogLevel
deriving Repr, DecidableEq

/-- Directives in the order in which they are given. -/
abbrev LogFilter := List Directive

/-- Whether a directive covers a line outside all spans whose fields have no values to go by. -/
def Directive.covers (directive : Directive) (line : LogLine) : Bool :=
  !directive.inSpan &&
    directive.fields.all (fun field => !field.2 && line.fields.contains field.1) &&
    directive.source.all (fun start => start.toList.isPrefixOf line.source.toList)

/-- Whether a directive is at least as specific as another: first its source counts, then the
fields it asks for. -/
def Directive.asSpecific (a b : Directive) : Bool :=
  let extent (d : Directive) : Nat := (d.source.map fun s => s.utf8ByteSize + 1).getD 0
  extent b < extent a || (extent a == extent b && b.fields.length ≤ a.fields.length)

/-- The directive that a line goes by. Of equally specific ones the last counts. -/
def LogFilter.deciding? (filter : LogFilter) (line : LogLine) : Option Directive :=
  (filter.filter fun directive => directive.covers line).foldl
    (fun best directive =>
      match best with
      | some other => if directive.asSpecific other then some directive else best
      | none => some directive)
    none

/-- Whether a line is logged. -/
def LogFilter.admits (filter : LogFilter) (line : LogLine) : Bool :=
  match LogFilter.deciding? filter line with
  | some directive => line.level.rank ≤ directive.level.rank
  | none => false

/-! ## Reading filters

A filter is written as directives with commas between them: a level, or a source with a level
behind an equals sign, everything if that is missing. Between brackets behind the source stand a
span and, in braces, a field. -/

/-- A text in the course of being read. It is read without the blanks around it, but its pieces
are cut from the text as written, at the same distances from its beginning: `shown` holds what is
read with what is cut at each place, `excess` what is only cut with the last piece. -/
structure Part where
  shown : List (Char × Char)
  excess : List Char

namespace Part

/-- A text that is about to be read. -/
def ofChars (chars : List Char) : Part :=
  let read := (chars.dropWhile Unicode.isBlank).reverse.dropWhile Unicode.isBlank |>.reverse
  ⟨read.zip chars, chars.drop read.length⟩

/-- The first piece, up to one of some marks, with the mark and what stands behind it. -/
def cut? (marks : List Char) (part : Part) : Option (String × Char × Part) :=
  let before := part.shown.takeWhile fun c => !marks.contains c.1
  match part.shown.drop before.length with
  | [] => none
  | mark :: rest => some (String.ofList (before.map Prod.snd), mark.1, { part with shown := rest })

/-- All that is left, as a piece. -/
def last (part : Part) : String := String.ofList (part.shown.map Prod.snd ++ part.excess)

end Part

/-- Reads a level behind its equals sign. -/
def readLevel? (part : Part) : Option LogLevel :=
  if part.last = "" then some .trace else LogLevel.ofText? part.last

/-- Reads what may stand behind brackets. -/
def readAfterBrackets? (part : Part) : Option LogLevel :=
  match part.shown with
  | [] => some .trace
  | ('=', _) :: rest => readLevel? { part with shown := rest }
  | _ => none

/-- Reads a field: its name, and whether a pattern for its value stands behind an equals sign. -/
def readField? (text : String) : Option (String × Bool) :=
  match Text.pieces '=' text.toList with
  | [name] => if name.isEmpty then none else some (String.ofList name, false)
  | name :: value :: _ =>
    match Pattern.Expr.ofChars value with
    | .ok _ => some (String.ofList name, true)
    | .error _ => none
  | [] => none

/-- Reads what stands between brackets, and a level behind them. -/
def readBrackets? (source : Option String) (part : Part) : Option Directive :=
  match part.cut? [']', '\x7b'] with
  | none => none
  | some (_, ']', rest) => (readAfterBrackets? rest).map fun level => ⟨source, true, [], level⟩
  | some (span, _, rest) =>
    match rest.cut? ['\x7d'] with
    | none => none
    | some (field, _, rest) =>
      match readField? field, rest.shown with
      | some field, (']', _) :: behind =>
        (readAfterBrackets? { rest with shown := behind }).map fun level =>
          ⟨source, span ≠ "", [field], level⟩
      | _, _ => none

/-- Whether a directive may begin with a character. -/
def opensDirective (c : Char) : Bool :=
  c = '-' || c = ':' || c = '_' || Unicode.alphabetic.has c || Unicode.numeric.has c

/-- Reads a directive. -/
def Directive.ofChars? (chars : List Char) : Option Directive :=
  let part := Part.ofChars chars
  match part.shown with
  | ('[', _) :: rest => readBrackets? none { part with shown := rest }
  | (c, _) :: _ =>
    if opensDirective c then
      match part.cut? ['=', '['] with
      | some (source, '=', rest) =>
        (readLevel? rest).map fun level => ⟨some source, false, [], level⟩
      | some (source, _, rest) => readBrackets? (some source) rest
      | none =>
        match LogLevel.ofText? part.last with
        | some level => some ⟨none, false, [], level⟩
        | none => some ⟨some part.last, false, [], .trace⟩
    else none
  | [] => none

/-- Reads a filter. -/
def LogFilter.ofText? (text : String) : Option LogFilter :=
  ((Text.pieces ',' text.toList).filter fun piece => !piece.isEmpty).mapM Directive.ofChars?

/-! ## The program's log -/

/-- The variable of the environment that may hold a filter. -/
def logVariable : String := "RUST_LOG"

/-- The filter that holds: the one that is set if it can be read, or else a level for all lines. -/
def LogFilter.inForce (setting : Option String) (verbose : Bool) : LogFilter :=
  match setting.bind LogFilter.ofText? with
  | some filter => filter
  | none => [⟨none, false, [], if verbose then .debug else .info⟩]

/-- The line that says why a task counts as not ready. -/
def unreadyLine : LogLine := ⟨"workflow_graph", .error, ["message"]⟩

/-- A character as it is logged. Those that a terminal takes for the beginning of a command, or that
move what is on it, are written by their numbers. -/
def logChar (c : Char) : List Char :=
  let digits := Nat.toDigits 16 c.toNat
  if c = '\x1b' || c = '\x7f' then ['\\', 'x'] ++ digits
  else if c = '\x07' || c = '\x08' || c = '\x0c' then ['\\', 'x', '0'] ++ digits
  else if 0x80 ≤ c.toNat && c.toNat ≤ 0x9F then ['\\', 'u', '\x7b'] ++ digits ++ ['\x7d']
  else [c]

/-- A text as it is logged. -/
def logText (text : String) : String := String.ofList (text.toList.flatMap logChar)

end Workflow.CommandLine
