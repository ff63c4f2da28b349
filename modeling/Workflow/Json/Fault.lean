import Workflow.Json.Basic
import Workflow.Text.Quoted

/-!
# What can be wrong with JSON

A fault is the first thing that keeps a text or a value from being what was asked for. It falls
into one of three classes: the text is not JSON, the text ends too early, or the JSON is not of
the shape that was asked for.
-/

namespace Workflow

/-- The outline of what was found. -/
inductive Shape where
  | null
  | bool (value : Bool)
  | integer (value : Int)
  | real (value : Binary64)
  | string (value : String)
  | sequence
  | map
deriving Repr, DecidableEq

/-- What was asked for. -/
inductive Expected where
  | string
  | word32
  | sequence
  | map
  | unit
  | choice
  | oneMember
  | record (name : String)
  | recordOf (name : String) (size : Nat)
  | fewerItems
  | identifier
  | instant
deriving Repr, DecidableEq

/-- The first thing wrong with a text or a value. -/
inductive Fault where
  | malformed
  | truncated
  | missingField (name : String)
  | duplicateField (name : String)
  | unknownChoice (name : String) (choices : List String)
  | wrongType (found : Shape) (expected : Expected)
  | wrongValue (found : Shape) (expected : Expected)
  | wrongLength (size : Nat) (expected : Expected)
  | unreadable (expected : Expected)
deriving Repr, DecidableEq

/-- The three classes of faults. -/
inductive FaultClass where
  | notJson
  | endsEarly
  | wrongShape
deriving Repr, DecidableEq

namespace Shape

/-- The outline in words. -/
def text : Shape → String
  | null => "null"
  | bool true => "boolean `true`"
  | bool false => "boolean `false`"
  | integer n => "integer `" ++ toString n ++ "`"
  | real x => "floating point `" ++ x.text ++ "`"
  | string s => "string " ++ Text.quote s
  | sequence => "sequence"
  | map => "map"

end Shape

namespace Expected

/-- The expectation in words. -/
def text : Expected → String
  | string => "a string"
  | word32 => "u32"
  | sequence => "a sequence"
  | map => "a map"
  | unit => "unit"
  | choice => "string or map"
  | oneMember => "map with a single key"
  | record name => "struct " ++ name
  | recordOf name 1 => "struct " ++ name ++ " with 1 element"
  | recordOf name size => "struct " ++ name ++ " with " ++ toString size ++ " elements"
  | fewerItems => "fewer elements in array"
  | identifier => "a formatted UUID string"
  | instant => "an RFC 3339 formatted date and time string"

end Expected

namespace Fault

/-- The class of a fault. -/
def kind : Fault → FaultClass
  | malformed => .notJson
  | truncated => .endsEarly
  | _ => .wrongShape

/-- Names between backticks, with commas between. -/
def nameList : List String → String
  | [] => ""
  | [name] => "`" ++ name ++ "`"
  | name :: rest => "`" ++ name ++ "`, " ++ nameList rest

/-- The choices in words. -/
def choiceText : List String → String
  | [] => "there are no variants"
  | [name] => "expected `" ++ name ++ "`"
  | [first, second] => "expected `" ++ first ++ "` or `" ++ second ++ "`"
  | names => "expected one of " ++ nameList names

/-- The fault in words. A text that is not JSON and a malformed identifier or date have no
words of their own. -/
def message? : Fault → Option String
  | malformed => none
  | truncated => none
  | unreadable _ => none
  | missingField name => some ("missing field `" ++ name ++ "`")
  | duplicateField name => some ("duplicate field `" ++ name ++ "`")
  | unknownChoice name choices =>
    some ("unknown variant `" ++ name ++ "`, " ++ choiceText choices)
  | wrongType found expected =>
    some ("invalid type: " ++ found.text ++ ", expected " ++ expected.text)
  | wrongValue found expected =>
    some ("invalid value: " ++ found.text ++ ", expected " ++ expected.text)
  | wrongLength size expected =>
    some ("invalid length " ++ toString size ++ ", expected " ++ expected.text)

/-- The fault in words, or nothing where it has none. -/
def message (fault : Fault) : String := fault.message?.getD ""

end Fault

end Workflow
