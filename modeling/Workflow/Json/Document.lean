import Workflow.Json.Fault

/-!
# Documents

A document is what a reader has in front of it: a JSON value, or a JSON text as far as it can be
read. Faults of the text stand where they occur, so whoever walks through a document in order
meets the first fault first. Some parts of a text are held to less when nobody keeps them: an
ignored string may hold half a surrogate pair, an ignored number may be out of range. Where the
two readings differ, the document records both.
-/

namespace Workflow

/-- The name of a member, or what stands in its place. -/
inductive Key where
  | name (value : String)
  | badName (kept : Fault) (ignored : Option Fault)
  | noName (fault : Fault)
deriving Repr

/-- A value, or a text as far as it can be read. An item or member that cannot be read to its
end is the last one; `stop` is what is wrong after the last item or member. -/
inductive Document where
  | null
  | bool (value : Bool)
  | number (kept : Except Fault Number) (ignored : Option Fault)
  | string (kept : Except Fault String) (ignored : Option Fault)
  | array (items : List Document) (stop : Option Fault)
  | object (members : List (Key × Document)) (stop : Option Fault)
  | brokenNull (fault : Fault)
  | brokenWord (fault : Fault)
  | absent (fault : Fault)

namespace Document

instance : Inhabited Document := ⟨null⟩

mutual

/-- A value as a document. -/
def ofJson : Json → Document
  | .null => null
  | .bool b => bool b
  | .number n => number (.ok n) none
  | .string s => string (.ok s) none
  | .array items => array (ofItems items) none
  | .object members => object (ofMembers members) none

/-- The items of an array as documents. -/
def ofItems : List Json → List Document
  | [] => []
  | item :: rest => ofJson item :: ofItems rest

/-- The members of an object as documents. -/
def ofMembers : List (String × Json) → List (Key × Document)
  | [] => []
  | (name, value) :: rest => (.name name, ofJson value) :: ofMembers rest

end

/-! ## Passing over -/

/-- What is wrong with a name that nobody keeps. -/
def Key.ignored : Key → Option Fault
  | .name _ => none
  | .badName _ ignored => ignored
  | .noName fault => some fault

mutual

/-- What is wrong with a document that nobody keeps. -/
def ignored : Document → Option Fault
  | null => none
  | bool _ => none
  | number _ fault => fault
  | string _ fault => fault
  | array items stop => (ignoredItems items).or stop
  | object members stop => (ignoredMembers members).or stop
  | brokenNull fault => some fault
  | brokenWord fault => some fault
  | absent fault => some fault

/-- The first fault of items that nobody keeps. -/
def ignoredItems : List Document → Option Fault
  | [] => none
  | item :: rest => (ignored item).or (ignoredItems rest)

/-- The first fault of members that nobody keeps. -/
def ignoredMembers : List (Key × Document) → Option Fault
  | [] => none
  | (key, value) :: rest =>
    (Key.ignored key).or ((ignored value).or (ignoredMembers rest))

end

/-! ## Telling what stands there -/

/-- The outline of a number. -/
def numberShape : Number → Shape
  | .integer n => .integer n
  | .real x => .real x

/-- The fault of a document that is not of the kind asked for. A text that cannot be read at this
place is at fault itself; of an array or object only its beginning counts. -/
def mismatch (expected : Expected) : Document → Fault
  | null => .wrongType .null expected
  | bool b => .wrongType (.bool b) expected
  | number (.ok n) _ => .wrongType (numberShape n) expected
  | number (.error fault) _ => fault
  | string (.ok s) _ => .wrongType (.string s) expected
  | string (.error fault) _ => fault
  | array _ _ => .wrongType .sequence expected
  | object _ _ => .wrongType .map expected
  | brokenNull fault => fault
  | brokenWord fault => fault
  | absent fault => fault

end Document

end Workflow
