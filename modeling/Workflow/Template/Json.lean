import Workflow.Template
import Workflow.Definition.Json

/-!
# Templates as JSON

How the revisions of a template are read and written.
-/

namespace Workflow

namespace Decoder

/-- An input of a template. -/
def templateInput : Decoder TemplateInput :=
  Fields.decoder "TemplateInput"
    (.required "key" string (.optional "default_value" string .nil))
    TemplateInput.mk

/-- A revision of a template. -/
def templateRevision : Decoder TemplateRevision :=
  Fields.decoder "TemplateRevision"
    (.required "version" version
      (.defaulted "inputs" (list templateInput) []
        (.defaulted "results" (list resultParameter) [] .nil)))
    TemplateRevision.mk

end Decoder

/-- The written form of an input. -/
def TemplateInput.toJson (i : TemplateInput) : Json :=
  .object ([("key", .string i.key)] ++
    Json.optional "default_value" (i.defaultValue.map .string))

/-- The written form of a revision. -/
def TemplateRevision.toJson (r : TemplateRevision) : Json :=
  .object [("version", .nat r.version.toNat),
    ("inputs", .array (r.inputs.map TemplateInput.toJson)),
    ("results", .array (r.results.map ResultParameter.toJson))]

end Workflow
