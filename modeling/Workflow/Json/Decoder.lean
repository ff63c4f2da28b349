import Workflow.Json.Reader

/-!
# Decoding

A decoder turns a document into a value of some type, or reports the first fault it meets when
it walks through the document in order. Values and texts are decoded by the same rules with two
exceptions, which `Origin` tells apart: what is too deep in a text cannot be kept, and some faults
of shape already count as faults of the text.
-/

namespace Workflow

/-- Where a document comes from: a value, or a text at some depth of nesting. -/
inductive Origin where
  | value
  | text (depth : Nat)
deriving Repr, DecidableEq

/-- The deepest nesting that is kept when a text is read. -/
def maxDepth : Nat := 127

/-- Steps into an array or object. -/
def Origin.enter : Origin → Except Fault Origin
  | .value => .ok .value
  | .text depth => if depth < maxDepth then .ok (.text (depth + 1)) else .error .malformed

/-- Reads a value of some type from a document. -/
def Decoder (α : Type) : Type := Origin → Document → Except Fault α

namespace Decoder

/-- Decodes a value. -/
def ofJson (decode : Decoder α) (value : Json) : Except Fault α :=
  decode .value (Document.ofJson value)

/-- Decodes a text. Nothing but blanks may follow the value. -/
def ofText (decode : Decoder α) (text : String) : Except Fault α :=
  let (document, rest) := Document.readFront text
  (decode (.text 0) document).bind fun x =>
    match rest with
    | some chars => if (Document.skipBlanks chars).isEmpty then .ok x else .error .malformed
    | none => .error .malformed

/-- Succeeds unless something is wrong after the last item. -/
def endOf (stop : Option Fault) (x : α) : Except Fault α :=
  match stop with
  | some fault => .error fault
  | none => .ok x

/-- Decodes and then refines; a value that cannot be refined is at fault. -/
def refine (decode : Decoder α) (f : α → Except Fault β) : Decoder β :=
  fun origin document => (decode origin document).bind f

/-- Decodes and then converts. -/
def map (f : α → β) (decode : Decoder α) : Decoder β :=
  fun origin document => (decode origin document).map f

/-! ## Simple values -/

/-- A string that stands for something named in the expectation. -/
def stringFor (expected : Expected) : Decoder String
  | _, .string kept _ => kept
  | _, document => .error (document.mismatch expected)

/-- A string. -/
def string : Decoder String := stringFor .string

/-- A natural number below 2^32. -/
def word32 : Decoder Nat
  | _, .number (.ok (.integer n)) _ =>
    if 0 ≤ n ∧ n < 4294967296 then .ok n.toNat else .error (.wrongValue (.integer n) .word32)
  | _, document => .error (document.mismatch .word32)

/-- Nothing: null. -/
def unit : Decoder Unit
  | _, .null => .ok ()
  | _, document => .error (document.mismatch .unit)

/-- A value, or null for none. -/
def nullable (decode : Decoder α) : Decoder (Option α)
  | _, .null => .ok none
  | _, .brokenNull fault => .error fault
  | origin, document => (decode origin document).map some

/-! ## Arrays and maps -/

/-- Decodes every item in turn. -/
def items (decode : Decoder α) (origin : Origin) : List Document → Except Fault (List α)
  | [] => .ok []
  | item :: rest =>
    (decode origin item).bind fun x => (items decode origin rest).map (x :: ·)

/-- An array of values of one type. -/
def list (decode : Decoder α) : Decoder (List α)
  | origin, .array elements stop =>
    origin.enter.bind fun inner => (items decode inner elements).bind (endOf stop)
  | _, document => .error (document.mismatch .sequence)

/-- The name of a member that is kept. -/
def keyName : Key → Except Fault String
  | .name name => .ok name
  | .badName fault _ => .error fault
  | .noName fault => .error fault

/-- Decodes every member in turn into a table sorted by name. -/
def members (decode : Decoder α) (origin : Origin) :
    List (String × α) → List (Key × Document) → Except Fault (List (String × α))
  | held, [] => .ok held
  | held, (key, value) :: rest =>
    (keyName key).bind fun name =>
      (decode origin value).bind fun x =>
        members decode origin (Json.insertMember name x held) rest

/-- An object of values of one type, sorted by name; the last member of a name counts. -/
def table (decode : Decoder α) : Decoder (List (String × α))
  | origin, .object fields stop =>
    origin.enter.bind fun inner => (members decode inner [] fields).bind (endOf stop)
  | _, document => .error (document.mismatch .map)

mutual

/-- Any value, as it is. -/
def json : Decoder Json
  | _, .null => .ok .null
  | _, .bool b => .ok (.bool b)
  | _, .number kept _ => kept.map .number
  | _, .string kept _ => kept.map .string
  | origin, .array elements stop =>
    origin.enter.bind fun inner => (jsonItems inner elements).bind fun xs => endOf stop (.array xs)
  | origin, .object fields stop =>
    origin.enter.bind fun inner =>
      (jsonMembers inner [] fields).bind fun xs => endOf stop (.object xs)
  | _, .brokenNull fault => .error fault
  | _, .brokenWord fault => .error fault
  | _, .absent fault => .error fault

/-- The items of an array, as they are. -/
def jsonItems (origin : Origin) : List Document → Except Fault (List Json)
  | [] => .ok []
  | item :: rest => (json origin item).bind fun x => (jsonItems origin rest).map (x :: ·)

/-- The members of an object, sorted by name. -/
def jsonMembers (origin : Origin) :
    List (String × Json) → List (Key × Document) → Except Fault (List (String × Json))
  | held, [] => .ok held
  | held, (key, value) :: rest =>
    (keyName key).bind fun name =>
      (json origin value).bind fun x =>
        jsonMembers origin (Json.insertMember name x held) rest

end

/-! ## Choices

A choice is written as its name, or as an object whose one member has that name and nothing in
it. -/

/-- The choice with a name. -/
def choiceNamed (choices : List (String × α)) (name : String) : Except Fault α :=
  match choices.lookup name with
  | some x => .ok x
  | none => .error (.unknownChoice name (choices.map Prod.fst))

/-- A choice in a value. -/
def choiceOfValue (choices : List (String × α)) : Document → Except Fault α
  | .string kept _ => kept.bind (choiceNamed choices)
  | .object [(.name name, content)] _ =>
    (choiceNamed choices name).bind fun x => (unit .value content).map fun _ => x
  | .object _ _ => .error (.wrongValue .map .oneMember)
  | document => .error (document.mismatch .choice)

/-- A choice in a text. Anything but a string or an object is not even looked at. -/
def choiceOfText (choices : List (String × α)) (depth : Nat) : Document → Except Fault α
  | .string kept _ => kept.bind (choiceNamed choices)
  | .object fields stop =>
    (Origin.text depth).enter.bind fun inner =>
      match fields with
      | [] => (endOf stop ()).bind fun _ => .error .malformed
      | (.name name, content) :: rest =>
        (choiceNamed choices name).bind fun x =>
          (unit inner content).bind fun _ =>
            if rest.isEmpty then endOf stop x else .error .malformed
      | (.badName fault _, _) :: _ => .error fault
      | (.noName fault, _) :: _ => .error fault
  | .absent fault => .error fault
  | _ => .error .malformed

/-- One of several named choices. -/
def choice (choices : List (String × α)) : Decoder α
  | .value, document => choiceOfValue choices document
  | .text depth, document => choiceOfText choices depth document

end Decoder

/-! ## Records

A record is an object whose members are its fields, or an array of its fields in their order.
Members with other names are passed over. -/

/-- A field: its name, how it is read, and what it is when it is missing. -/
structure Field (α : Type) where
  name : String
  read : Decoder α
  missing : Option α

/-- The fields of a record, in their order. -/
inductive Fields : List Type → Type 1 where
  | nil : Fields []
  | cons {α : Type} {ts : List Type} (field : Field α) (rest : Fields ts) : Fields (α :: ts)

namespace Fields

/-- A function of the contents of all fields. -/
def Arrow : List Type → Type → Type
  | [], β => β
  | α :: ts, β => α → Arrow ts β

/-- What has been read of each field. -/
def Slots : List Type → Type
  | [] => Unit
  | α :: ts => Option α × Slots ts

/-- A field that must be there. -/
def required (name : String) (read : Decoder α) (rest : Fields ts) : Fields (α :: ts) :=
  cons ⟨name, read, none⟩ rest

/-- A field that may be missing. -/
def defaulted (name : String) (read : Decoder α) (missing : α) (rest : Fields ts) :
    Fields (α :: ts) :=
  cons ⟨name, read, some missing⟩ rest

/-- A field that may be missing or null. -/
def optional (name : String) (read : Decoder α) (rest : Fields ts) : Fields (Option α :: ts) :=
  defaulted name read.nullable none rest

/-- How many fields there are. -/
def size : Fields ts → Nat
  | nil => 0
  | cons _ rest => rest.size + 1

/-- Nothing read yet. -/
def unread : (fields : Fields ts) → Slots ts
  | nil => ()
  | cons _ rest => (none, rest.unread)

/-- Reads one member. A name that is no field's is passed over. -/
def readMember (origin : Origin) (name : String) (value : Document) :
    (fields : Fields ts) → Slots ts → Except Fault (Slots ts)
  | nil, slots => Decoder.endOf value.ignored slots
  | cons field rest, (slot, slots) =>
    if name = field.name then
      match slot with
      | some _ => .error (.duplicateField name)
      | none => (field.read origin value).map fun x => (some x, slots)
    else (rest.readMember origin name value slots).map fun slots => (slot, slots)

/-- Reads all members in turn. -/
def readMembers (origin : Origin) (fields : Fields ts) :
    Slots ts → List (Key × Document) → Except Fault (Slots ts)
  | slots, [] => .ok slots
  | slots, (key, value) :: rest =>
    (Decoder.keyName key).bind fun name =>
      (fields.readMember origin name value slots).bind fun slots =>
        readMembers origin fields slots rest

/-- Hands over what was read; the first missing field in their order is at fault. -/
def finish : (fields : Fields ts) → Slots ts → Arrow ts β → Except Fault β
  | nil, _, result => .ok result
  | cons field rest, (slot, slots), make =>
    match slot.or field.missing with
    | some x => rest.finish slots (make x)
    | none => .error (.missingField field.name)

/-- What is wrong with items after the last field. -/
def endOfItems (origin : Origin) (total : Nat) (stop : Option Fault) (rest : List Document)
    (x : β) : Except Fault β :=
  match rest, origin with
  | [], _ => Decoder.endOf stop x
  | _ :: _, .text _ => .error .malformed
  | _ :: _, .value => .error (.wrongLength total .fewerItems)

/-- Reads the fields from an array; `index` counts the fields before. -/
def readItems (origin : Origin) (expected : Expected) (total : Nat) (stop : Option Fault) :
    (fields : Fields ts) → (index : Nat) → List Document → Arrow ts β → Except Fault β
  | nil, _, rest, result => endOfItems origin total stop rest result
  | cons field fields, index, [], make =>
    (Decoder.endOf stop ()).bind fun _ =>
      match field.missing with
      | some x => fields.readItems origin expected total stop (index + 1) [] (make x)
      | none => .error (.wrongLength index expected)
  | cons field fields, index, item :: rest, make =>
    (field.read origin item).bind fun x =>
      fields.readItems origin expected total stop (index + 1) rest (make x)

/-- Decodes a record and builds a value from its fields. -/
def decoder (name : String) (fields : Fields ts) (make : Arrow ts β) : Decoder β
  | origin, .object members stop =>
    origin.enter.bind fun inner =>
      (fields.readMembers inner fields.unread members).bind fun slots =>
        (Decoder.endOf stop slots).bind fun slots => fields.finish slots make
  | origin, .array items stop =>
    origin.enter.bind fun inner =>
      fields.readItems inner (.recordOf name fields.size) items.length stop 0 items make
  | _, document => .error (document.mismatch (.record name))

end Fields

end Workflow
