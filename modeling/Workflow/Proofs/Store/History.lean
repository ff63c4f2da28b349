import Workflow.Proofs.Store.Listing

/-!
# What a store has been told

A store forgets: a row that is written takes the place of the one with its key.  The history of a
run forgets nothing (`Store.history`); it lists the rows written since the last load, one after
another.  Yet the two hold the same as far as anyone can ask (`Store.reads_newest`): under each key
the store has the row that was written last, and nothing under a key that was never written.

A store after any run is the store that its history describes (`Store.run_empty`), so both ways of
writing, whole and row by row, come down to rows put into a table in their order, and of those the
last with a key is found (`Table.get?_ofRows_eq_iff`).
-/

namespace Workflow

/-! ## The last of several rows -/

/-- What is found among rows is the last that will do, or nothing where none will. -/
inductive Newest {ρ : Type} (Will : ρ → Prop) (rows : List ρ) : Option ρ → Prop
  | found {before after : List ρ} {row : ρ} : rows = before ++ row :: after → Will row →
      (∀ other ∈ after, ¬ Will other) → Newest Will rows (some row)
  | missing : (∀ row ∈ rows, ¬ Will row) → Newest Will rows none

theorem newest_iff {ρ : Type} {will : ρ → Bool} {rows : List ρ} {answer : Option ρ} :
    Newest (fun row => will row = true) rows answer ↔ rows.reverse.find? will = answer := by
  constructor
  · intro h
    cases h with
    | @found before after row hrows hwill hnone =>
        refine List.find?_eq_some_iff_append.mpr ⟨hwill, after.reverse, before.reverse, ?_, ?_⟩
        · simp [hrows]
        · intro other hother
          simpa using hnone other (List.mem_reverse.mp hother)
    | missing hnone =>
        rw [List.find?_eq_none]
        intro row hmem
        exact hnone row (List.mem_reverse.mp hmem)
  · rintro rfl
    cases hfind : rows.reverse.find? will with
    | none =>
        apply Newest.missing
        intro row hmem
        exact List.find?_eq_none.mp hfind row (List.mem_reverse.mpr hmem)
    | some row =>
        obtain ⟨hwill, after, before, hrows, hnone⟩ := List.find?_eq_some_iff_append.mp hfind
        refine @Newest.found _ _ _ before.reverse after.reverse row ?_ hwill ?_
        · rw [← List.reverse_reverse rows, hrows]
          simp
        · intro other hother
          simpa using hnone other (List.mem_reverse.mp hother)

/-- In a table that rows were put into one after another the newest with a key is found. -/
theorem Table.get?_ofRows_eq_iff {κ ρ : Type} [DecidableEq κ] {key : ρ → κ} {rows : List ρ} {k : κ}
    {answer : Option ρ} :
    (ofRows rows : Table key).get? k = answer ↔ Newest (fun row => key row = k) rows answer := by
  have hnewest := @newest_iff ρ (fun row => decide (key row = k)) rows answer
  simp only [decide_eq_true_eq] at hnewest
  rw [hnewest, Table.get?_ofRows]

namespace Store

/-! ## The history of a run -/

/-- What has been written once a change has been made. -/
def Change.log (written : Snapshot) : Change → Snapshot
  | .load rows => rows
  | .insertRevision id workflowId version dag =>
    { written with revisions := written.revisions ++ [⟨id, workflowId, version, dag⟩] }
  | .createActivity id revisionId now =>
    { written with activities := written.activities ++ [⟨id, revisionId, now⟩] }
  | .record id activity task status value now =>
    { written with executions := written.executions ++ [⟨id, activity, task, status, value, now⟩] }
  | .putTemplate row => { written with templates := written.templates ++ [row] }

/-- What has been written since the last load, or from the beginning if there was none. -/
def history (changes : List Change) : Snapshot := changes.foldl Change.log ⟨[], [], [], []⟩

theorem apply_ofSnapshot (written : Snapshot) (change : Change) :
    (ofSnapshot written).apply change = ofSnapshot (change.log written) := by
  cases change with
  | load rows => rfl
  | insertRevision id workflowId version dag =>
      simp only [Change.log, ofSnapshot, Table.ofRows_concat]
      rfl
  | createActivity id revisionId now =>
      simp only [Change.log, ofSnapshot, Table.ofRows_concat]
      rfl
  | record id activity task status value now =>
      simp only [Change.log, ofSnapshot, Table.ofRows_concat]
      rfl
  | putTemplate row =>
      simp only [Change.log, ofSnapshot, Table.ofRows_concat]
      rfl

theorem run_ofSnapshot (changes : List Change) (written : Snapshot) :
    (ofSnapshot written).run changes = ofSnapshot (changes.foldl Change.log written) := by
  induction changes generalizing written with
  | nil => rfl
  | cons change rest ih =>
      show ((ofSnapshot written).apply change).run rest = _
      rw [apply_ofSnapshot, ih]
      rfl

/-- A store is what its history describes. -/
theorem run_empty (changes : List Change) : empty.run changes = ofSnapshot (history changes) :=
  run_ofSnapshot changes ⟨[], [], [], []⟩

/-! ## What is read -/

section

variable (changes : List Change)

theorem newest_execution? (activity : Uuid) (task : String) {answer : Option ExecutionRow} :
    (empty.run changes).execution? activity task = answer ↔
      Newest (fun row => row.activityId = activity ∧ row.taskId = task)
        (history changes).executions answer := by
  have hnewest : (ofSnapshot (history changes)).execution? activity task = answer ↔ _ :=
    Table.get?_ofRows_eq_iff
  simp only [ExecutionRow.key, Prod.mk.injEq] at hnewest
  rw [run_empty, hnewest]

/-- **Reads give what was written last.**  After any run, a record is found for a task of an
activity when one was written since the last load, and it is the last one written; likewise a
revision, an activity and a template under their keys.  The records of an activity are listed by
time, and of each task the last one written is listed, once, and no other. -/
theorem reads_newest :
    (∀ activity task, Newest (fun row => row.activityId = activity ∧ row.taskId = task)
      (history changes).executions ((empty.run changes).execution? activity task)) ∧
    (∀ id, Newest (fun row => row.id = id)
      (history changes).revisions ((empty.run changes).revision? id)) ∧
    (∀ id, Newest (fun row => row.id = id)
      (history changes).activities ((empty.run changes).activity? id)) ∧
    (∀ id, Newest (fun row => row.id = id)
      (history changes).templates ((empty.run changes).template? id)) ∧
    ∀ activity,
      (∀ task row, row ∈ (empty.run changes).executionsOf activity ∧ row.taskId = task ↔
        Newest (fun other => other.activityId = activity ∧ other.taskId = task)
          (history changes).executions (some row)) ∧
      (((empty.run changes).executionsOf activity).map ExecutionRow.taskId).Nodup ∧
      ((empty.run changes).executionsOf activity).Pairwise fun a b =>
        a.recordedAt.notAfter b.recordedAt = true := by
  refine ⟨?_, ?_, ?_, ?_, ?_⟩
  · intro activity task
    exact (newest_execution? changes activity task).mp rfl
  · intro id
    rw [run_empty]
    exact Table.get?_ofRows_eq_iff.mp rfl
  · intro id
    rw [run_empty]
    exact Table.get?_ofRows_eq_iff.mp rfl
  · intro id
    rw [run_empty]
    exact Table.get?_ofRows_eq_iff.mp rfl
  · intro activity
    have hlisted := listedByTime_executionsOf (empty.run changes) activity
    refine ⟨?_, hlisted.nodup, hlisted.sorted⟩
    · intro task row
      rw [← newest_execution?, hlisted.mem_iff]
      constructor
      · rintro ⟨⟨-, hfound⟩, rfl⟩
        exact hfound
      · intro hfound
        obtain ⟨-, hkey⟩ := Table.get?_eq_some_iff.mp hfound
        obtain ⟨rfl, rfl⟩ := Prod.mk.inj hkey
        exact ⟨⟨rfl, hfound⟩, rfl⟩

end

end Store

end Workflow
