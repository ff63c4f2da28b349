import Workflow.Definition

/-!
# Templates

A template has revisions. A task asks for one by its version; where there is none with that
version, or no version is asked for, it gets the latest.
-/

namespace Workflow

/-- An input of a template. -/
structure TemplateInput where
  key : String
  defaultValue : Option String
deriving DecidableEq, Repr

/-- One version of a template. -/
structure TemplateRevision where
  version : UInt32
  inputs : List TemplateInput
  results : List ResultParameter
deriving DecidableEq, Repr

namespace TemplateRevision

/-- The revision with the highest version; of several, the last. -/
def latest : List TemplateRevision → Option TemplateRevision
  | [] => none
  | r :: rest =>
    match latest rest with
    | none => some r
    | some s => if s.version < r.version then some r else some s

/-- The first revision with the requested version, or else the latest. -/
def select (revisions : List TemplateRevision) (requested : Option UInt32) :
    Option TemplateRevision :=
  (requested.bind fun version => revisions.find? fun r => r.version == version).or
    (latest revisions)

end TemplateRevision

end Workflow
