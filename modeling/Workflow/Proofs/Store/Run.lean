import Workflow.Proofs.Store.Table
import Workflow.Store.Basic

/-!
# Runs of a store

A store changes row by row (`Store.Change`), and a run is one change after another.  What can be
looked up after a change is what could be looked up before, but for the row that was written
(`Store.revision?_insertRevision`, `Store.execution?_record`).
-/

namespace Workflow

namespace Store

/-! ## Looking up after writing -/

theorem revision?_insertRevision (store : Store) (id workflowId : Uuid) (version : UInt32)
    (dag : Json) (other : Uuid) :
    (store.insertRevision id workflowId version dag).revision? other =
      if id = other then some ⟨id, workflowId, version, dag⟩ else store.revision? other :=
  store.revisions.get?_put id _ rfl other

theorem execution?_record (store : Store) (id activity : Uuid) (task status : String)
    (value : Option String) (now : Instant) (other : Uuid) (name : String) :
    (store.record id activity task status value now).execution? other name =
      if activity = other ∧ task = name then some ⟨id, activity, task, status, value, now⟩
      else store.execution? other name := by
  have hput := store.executions.get?_put (activity, task)
    ⟨id, activity, task, status, value, now⟩ rfl (other, name)
  simp only [Prod.mk.injEq] at hput
  exact hput

/-- Recording says nothing about other activities, and nothing about other tasks. -/
theorem execution?_record_of_ne (store : Store) (id : Uuid) {activity other : Uuid}
    {task name : String} (status : String) (value : Option String) (now : Instant)
    (h : other = activity → name ≠ task) :
    (store.record id activity task status value now).execution? other name =
      store.execution? other name := by
  rw [execution?_record, if_neg]
  rintro ⟨rfl, rfl⟩
  exact h rfl rfl

/-! ## Changes -/

/-- One change of a store: all rows anew, or one row. -/
inductive Change where
  | load (rows : Snapshot)
  | insertRevision (id workflowId : Uuid) (version : UInt32) (dag : Json)
  | createActivity (id revisionId : Uuid) (now : Instant)
  | record (id activity : Uuid) (task status : String) (value : Option String) (now : Instant)
  | putTemplate (row : TemplateRow)

/-- The store after a change. -/
def apply (store : Store) : Change → Store
  | .load rows => ofSnapshot rows
  | .insertRevision id workflowId version dag => store.insertRevision id workflowId version dag
  | .createActivity id revisionId now => store.createActivity id revisionId now
  | .record id activity task status value now => store.record id activity task status value now
  | .putTemplate row => store.putTemplate row

/-- The store after changes one after another. -/
def run (store : Store) (changes : List Change) : Store := changes.foldl apply store

end Store

end Workflow
