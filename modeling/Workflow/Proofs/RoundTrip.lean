import Workflow.Proofs.Instant
import Workflow.Proofs.Json.Record
import Workflow.Proofs.SwitchCondition
import Workflow.Proofs.Uuid
import Workflow.Store.Rows
import Workflow.Template.Json

/-!
# Workflows and stores read back

Whatever is read of a workflow, a template or a store is read again from its written form
(`written_reads_back`): from an object or from an array, with members that are no fields, with
fields that are missing or null, and from a value or from a text.  The members of the written form
may come in any order.

The forms differ more than this suggests.  A condition without lines is written as the empty text
and no condition not at all; the value that a task came to is written as null when there is none;
definitions and templates in a store are kept as they came, sorted.  Each record lists how its
fields are written, and all that is left to check is that its names are different and that the
members are those of the written form.
-/

namespace Workflow

namespace Decoder

/-! ## Values -/

theorem readsBack_uuid : ReadsBack uuid fun id => .string id.text := by
  refine readsBack_refine ?_
  intro s id _
  rw [Uuid.ofText?_text]

theorem readsBack_instant : ReadsBack instant fun t => .string t.text := by
  refine readsBack_refine ?_
  intro s t h
  split at h
  · next found hfound =>
    cases h
    rw [(Instant.sound_of_ofText? hfound).ofText?_text]
  · cases h

theorem readsBack_switchCondition : ReadsBack switchCondition fun c => .string c.text :=
  readsBack_map SwitchCondition.ofText_text_ofText

theorem readsBack_taskKind : ReadsBack taskKind fun k => .string k.name := by
  refine readsBack_choice ?_
  intro kind
  cases kind <;> decide

theorem readsBack_executionCondition :
    ReadsBack executionCondition fun c => .string c.name := by
  refine readsBack_choice ?_
  intro condition
  cases condition <;> decide

/-! ## Records -/

open Fields (readsBack_decoder)

theorem readsBack_dependency : ReadsBack dependency Dependency.toJson := by
  refine readsBack_decoder
    (.required readsBack_string
      (.leftOut readsBack_switchCondition (fun _ => Json.noConfusion)
        (.leftOut readsBack_executionCondition (fun _ => Json.noConfusion) .nil)))
    (by decide) ?_
  rintro ⟨on, switch, condition, ⟨⟩⟩
  cases switch <;> cases condition <;> rfl

theorem readsBack_resultParameter : ReadsBack resultParameter ResultParameter.toJson := by
  refine readsBack_decoder
    (.required readsBack_string
      (.leftOut readsBack_string (fun _ => Json.noConfusion) .nil))
    (by decide) ?_
  rintro ⟨name, description, ⟨⟩⟩
  cases description <;> rfl

theorem readsBack_task : ReadsBack task Task.toJson := by
  refine readsBack_decoder
    (.required readsBack_string
      (.required readsBack_taskKind
        (.defaulted readsBack_string rfl
          (.leftOut readsBack_string (fun _ => Json.noConfusion)
            (.leftOut readsBack_version (fun _ => Json.noConfusion)
              (.leftOut readsBack_string (fun _ => Json.noConfusion)
                (.defaulted readsBack_string.table rfl
                  (.defaulted readsBack_resultParameter.list rfl
                    (.defaulted readsBack_dependency.list rfl .nil)))))))))
    (by decide) ?_
  rintro ⟨id, kind, label, templateId, templateVersion, decisionValue, properties, results,
    dependencies, ⟨⟩⟩
  cases templateId <;> cases templateVersion <;> cases decisionValue <;> rfl

theorem readsBack_definition : ReadsBack definition Definition.toJson := by
  refine readsBack_decoder (.defaulted readsBack_task.list rfl .nil) (by decide) ?_
  rintro ⟨tasks, ⟨⟩⟩
  rfl

theorem readsBack_revision : ReadsBack revision Revision.toJson := by
  refine readsBack_decoder
    (.required readsBack_uuid
      (.required readsBack_uuid
        (.required readsBack_version
          (.required readsBack_definition .nil))))
    (by decide) ?_
  rintro ⟨id, workflowId, version, definition, ⟨⟩⟩
  rfl

theorem readsBack_templateInput : ReadsBack templateInput TemplateInput.toJson := by
  refine readsBack_decoder
    (.required readsBack_string
      (.leftOut readsBack_string (fun _ => Json.noConfusion) .nil))
    (by decide) ?_
  rintro ⟨key, defaultValue, ⟨⟩⟩
  cases defaultValue <;> rfl

theorem readsBack_templateRevision : ReadsBack templateRevision TemplateRevision.toJson := by
  refine readsBack_decoder
    (.required readsBack_version
      (.defaulted readsBack_templateInput.list rfl
        (.defaulted readsBack_resultParameter.list rfl .nil)))
    (by decide) ?_
  rintro ⟨version, inputs, results, ⟨⟩⟩
  rfl

/-! ## Rows -/

theorem readsBack_revisionRow : ReadsBack revisionRow RevisionRow.toJson := by
  refine readsBack_decoder
    (.required readsBack_uuid
      (.required readsBack_uuid
        (.required readsBack_version
          (.required readsBack_json .nil))))
    (by decide) ?_
  rintro ⟨id, workflowId, version, dag, ⟨⟩⟩
  rfl

theorem readsBack_activityRow : ReadsBack activityRow ActivityRow.toJson := by
  refine readsBack_decoder
    (.required readsBack_uuid
      (.required readsBack_uuid
        (.required readsBack_instant .nil)))
    (by decide) ?_
  rintro ⟨id, revisionId, startedAt, ⟨⟩⟩
  rfl

theorem readsBack_executionRow : ReadsBack executionRow ExecutionRow.toJson := by
  refine readsBack_decoder
    (.required readsBack_uuid
      (.required readsBack_uuid
        (.required readsBack_string
          (.required readsBack_string
            (.asNull readsBack_string (fun _ => Json.noConfusion)
              (.required readsBack_instant .nil))))))
    (by decide) ?_
  rintro ⟨id, activityId, taskId, status, switchValue, recordedAt, ⟨⟩⟩
  rfl

theorem readsBack_templateRow : ReadsBack templateRow TemplateRow.toJson := by
  refine readsBack_decoder
    (.required readsBack_string
      (.required readsBack_string
        (.defaulted readsBack_json rfl .nil)))
    (by decide) ?_
  rintro ⟨id, name, revisions, ⟨⟩⟩
  rfl

theorem readsBack_snapshot : ReadsBack snapshot Snapshot.toJson := by
  refine readsBack_decoder
    (.defaulted readsBack_revisionRow.list rfl
      (.defaulted readsBack_activityRow.list rfl
        (.defaulted readsBack_executionRow.list rfl
          (.defaulted readsBack_templateRow.list rfl .nil))))
    (by decide) ?_
  rintro ⟨revisions, activities, executions, templates, ⟨⟩⟩
  rfl

/-! ## Round trips -/

/-- What is decoded, from a value or from a text, is decoded again from its written form, in
whatever order the members of that are; so writing what was decoded changes a value once at
most. -/
structure RoundTrips {α : Type} (decode : Decoder α) (write : α → Json) : Prop where
  of_value : ∀ value x, decode.ofJson value = .ok x →
    ∀ written : Json, written.Rearranged (write x) → decode.ofJson written = .ok x
  of_text : ∀ text x, decode.ofText text = .ok x →
    ∀ written : Json, written.Rearranged (write x) → decode.ofJson written = .ok x
  once : ∀ value written, (decode.ofJson value).map write = .ok written →
    (decode.ofJson written).map write = .ok written

theorem ReadsBack.roundTrips {α : Type} {decode : Decoder α} {write : α → Json}
    (h : ReadsBack decode write) : RoundTrips decode write where
  of_value _ x hx := h x (yields_of_ofJson hx)
  of_text _ x hx := h x (yields_of_ofText hx)
  once := by
    intro value written hwritten
    obtain ⟨x, hx, rfl⟩ := map_ok.mp hwritten
    exact map_ok.mpr ⟨x, h x (yields_of_ofJson hx) (write x) (.refl _), rfl⟩

end Decoder

open Decoder

/-- Whatever is read of a workflow, a template or a store is read again from its written form. -/
theorem written_reads_back :
    definition.RoundTrips Definition.toJson ∧
    task.RoundTrips Task.toJson ∧
    dependency.RoundTrips Dependency.toJson ∧
    (switchCondition.RoundTrips fun c => .string c.text) ∧
    resultParameter.RoundTrips ResultParameter.toJson ∧
    templateInput.RoundTrips TemplateInput.toJson ∧
    templateRevision.RoundTrips TemplateRevision.toJson ∧
    revision.RoundTrips Revision.toJson ∧
    snapshot.RoundTrips Snapshot.toJson :=
  ⟨readsBack_definition.roundTrips, readsBack_task.roundTrips, readsBack_dependency.roundTrips,
    readsBack_switchCondition.roundTrips, readsBack_resultParameter.roundTrips,
    readsBack_templateInput.roundTrips, readsBack_templateRevision.roundTrips,
    readsBack_revision.roundTrips, readsBack_snapshot.roundTrips⟩

/-- A condition without lines is kept apart from none. -/
example : dependency.ofJson (.array [.string "a", .string "\r\n"]) =
      .ok ⟨"a", some (.ofLines []), none⟩ ∧
    dependency.ofJson (Dependency.toJson ⟨"a", some (.ofLines []), none⟩) =
      .ok ⟨"a", some (.ofLines []), none⟩ ∧
    dependency.ofJson (Dependency.toJson ⟨"a", none, none⟩) = .ok ⟨"a", none, none⟩ :=
  ⟨rfl, rfl, rfl⟩

end Workflow
