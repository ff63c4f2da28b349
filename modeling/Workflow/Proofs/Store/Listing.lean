import Workflow.Proofs.Store.Run

/-!
# The records of an activity

The records of an activity are listed oldest first.  Nothing more is promised of their order, so
what matters is said of every list that keeps to the order of times, whichever way it has records of
the same time (`Store.ListedByTime`): what is on it, and that it has each task once.

`Store.executionsOf` is one such list.  It has records of the same time by task, which is a choice
made here and no promise.  As no two records are of the same task there is only one such order, so
this list is told from which records there are, and not from the order that they have in the table
(`Store.executionsOf_congr`).
-/

namespace Workflow

/-! ## Time -/

namespace Instant

theorem notAfter_iff {a b : Instant} : a.notAfter b = true ↔
    a.day < b.day ∨ (a.day = b.day ∧
      (a.second < b.second ∨ (a.second = b.second ∧ a.nano ≤ b.nano))) := by
  simp [notAfter]

theorem notAfter_total (a b : Instant) : a.notAfter b = true ∨ b.notAfter a = true := by
  rw [notAfter_iff, notAfter_iff]
  omega

theorem notAfter_trans {a b c : Instant} (hab : a.notAfter b = true) (hbc : b.notAfter c = true) :
    a.notAfter c = true := by
  rw [notAfter_iff] at *
  omega

theorem notAfter_antisymm {a b : Instant} (hab : a.notAfter b = true)
    (hba : b.notAfter a = true) : a = b := by
  rw [notAfter_iff] at hab hba
  cases a
  cases b
  simp only [mk.injEq] at *
  omega

end Instant

/-! ## The order of records -/

namespace Store

theorem recordedBefore_iff {a b : ExecutionRow} : recordedBefore a b = true ↔
    a.recordedAt.notAfter b.recordedAt = true ∧
      (a.recordedAt = b.recordedAt → a.taskId ≤ b.taskId) := by
  unfold recordedBefore
  split
  · next hsame =>
      have hself := Instant.notAfter_total b.recordedAt b.recordedAt
      rw [hsame]
      simp [or_self_iff.mp hself]
  · next hother => simp [hother]

theorem recordedBefore_total (a b : ExecutionRow) :
    (recordedBefore a b || recordedBefore b a) = true := by
  rw [Bool.or_eq_true, recordedBefore_iff, recordedBefore_iff]
  by_cases hsame : a.recordedAt = b.recordedAt
  · have hself := or_self_iff.mp (Instant.notAfter_total b.recordedAt b.recordedAt)
    rw [hsame]
    rcases String.le_total a.taskId b.taskId with hle | hle
    · exact Or.inl ⟨hself, fun _ => hle⟩
    · exact Or.inr ⟨hself, fun _ => hle⟩
  · rcases Instant.notAfter_total a.recordedAt b.recordedAt with hle | hle
    · exact Or.inl ⟨hle, fun heq => absurd heq hsame⟩
    · exact Or.inr ⟨hle, fun heq => absurd heq.symm hsame⟩

theorem recordedBefore_trans (a b c : ExecutionRow) (hab : recordedBefore a b = true)
    (hbc : recordedBefore b c = true) : recordedBefore a c = true := by
  rw [recordedBefore_iff] at *
  refine ⟨Instant.notAfter_trans hab.1 hbc.1, ?_⟩
  intro hsame
  -- what lies between two records of one time is of that time too
  have hab' : a.recordedAt = b.recordedAt := Instant.notAfter_antisymm hab.1 (hsame ▸ hbc.1)
  exact String.le_trans (hab.2 hab') (hbc.2 (hab' ▸ hsame))

/-- Records that are each before the other are of the same time and task. -/
theorem recordedBefore_antisymm {a b : ExecutionRow} (hab : recordedBefore a b = true)
    (hba : recordedBefore b a = true) : a.recordedAt = b.recordedAt ∧ a.taskId = b.taskId := by
  rw [recordedBefore_iff] at hab hba
  have hsame := Instant.notAfter_antisymm hab.1 hba.1
  exact ⟨hsame, String.le_antisymm (hab.2 hsame) (hba.2 hsame.symm)⟩

/-! ## Lists by time -/

/-- The records of an activity, oldest first; those of the same time in any order. -/
structure ListedByTime (store : Store) (activity : Uuid) (listed : List ExecutionRow) : Prop where
  perm : listed.Perm (store.executions.rows.filter fun row => row.activityId = activity)
  sorted : listed.Pairwise fun a b => a.recordedAt.notAfter b.recordedAt = true

/-- The records listed are those that are found for a task of the activity. -/
theorem ListedByTime.mem_iff {store : Store} {activity : Uuid} {listed : List ExecutionRow}
    (h : store.ListedByTime activity listed) {row : ExecutionRow} :
    row ∈ listed ↔
      row.activityId = activity ∧ store.execution? activity row.taskId = some row := by
  rw [h.perm.mem_iff, List.mem_filter, decide_eq_true_eq, execution?, Table.get?_eq_some_iff]
  constructor
  · rintro ⟨hmem, rfl⟩
    exact ⟨rfl, hmem, rfl⟩
  · rintro ⟨rfl, hmem, -⟩
    exact ⟨hmem, rfl⟩

/-- No task is listed twice. -/
theorem ListedByTime.nodup {store : Store} {activity : Uuid} {listed : List ExecutionRow}
    (h : store.ListedByTime activity listed) : (listed.map ExecutionRow.taskId).Nodup := by
  refine (h.perm.map ExecutionRow.taskId).nodup_iff.mpr ?_
  refine List.Nodup.map_on ?_ ((List.Nodup.of_map _ store.executions.nodup_keys).filter _)
  intro a ha b hb htask
  obtain ⟨hamem, hactivity⟩ := List.mem_filter.mp ha
  obtain ⟨hbmem, hactivity'⟩ := List.mem_filter.mp hb
  refine List.inj_on_of_nodup_map store.executions.nodup_keys hamem hbmem ?_
  rw [decide_eq_true_eq] at hactivity hactivity'
  exact Prod.ext (hactivity.trans hactivity'.symm) htask

/-! ## The list -/

variable (store : Store) (activity : Uuid)

theorem executionsOf_sorted :
    (store.executionsOf activity).Pairwise fun a b => recordedBefore a b = true :=
  List.pairwise_mergeSort recordedBefore_trans recordedBefore_total _

theorem listedByTime_executionsOf :
    store.ListedByTime activity (store.executionsOf activity) where
  perm := List.mergeSort_perm _ _
  sorted := (executionsOf_sorted store activity).imp fun hab => (recordedBefore_iff.mp hab).1

/-- The list is told from what is found for the tasks of the activity. -/
theorem executionsOf_congr {store store' : Store} {activity : Uuid}
    (h : ∀ task, store.execution? activity task = store'.execution? activity task) :
    store.executionsOf activity = store'.executionsOf activity := by
  have hlisted := listedByTime_executionsOf store activity
  have hlisted' := listedByTime_executionsOf store' activity
  have hmem : ∀ row, row ∈ store.executionsOf activity ↔ row ∈ store'.executionsOf activity := by
    intro row
    rw [hlisted.mem_iff, hlisted'.mem_iff, h]
  have hperm : (store.executionsOf activity).Perm (store'.executionsOf activity) :=
    (List.perm_ext_iff_of_nodup (.of_map _ hlisted.nodup) (.of_map _ hlisted'.nodup)).mpr hmem
  refine hperm.eq_of_pairwise ?_ (executionsOf_sorted store activity)
    (executionsOf_sorted store' activity)
  intro a b ha hb hab hba
  have htask := (recordedBefore_antisymm hab hba).2
  exact List.inj_on_of_nodup_map hlisted.nodup ha ((hmem b).mpr hb) htask

end Store

end Workflow
