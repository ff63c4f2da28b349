import Workflow.Proofs.Store.Listing
import Workflow.Reachability

/-!
# Taking a store out and putting it back

The rows of a store are taken out without their keys, in whatever order the tables happen to yield
them.  A store that is made of them is the same store (`Store.rebuilt_alike`): it has the
same rows, finds the same under every key, and answers every question alike.

Every write carries its share of this, as it has to show that its row goes under the key that the
row has (`Table.filed`): whoever puts rows back derives their keys anew and comes to the same ones.
Of several rows with one key only the last would stay, but no key is used twice, so of rows put back
one after another none takes the place of another (`Table.rows_ofRows_perm`).

Two stores with the same rows also list the records of an activity in the same ways: a list that is
by time for the one is by time for the other.  That they give the same one of these lists, records
of the same time included, is due to the order that `Store.executionsOf` settles on.
-/

namespace Workflow

/-! ## Rows of all tables -/

/-- The same rows in each table, in any order. -/
structure Snapshot.Reordered (rows rows' : Snapshot) : Prop where
  revisions : rows.revisions.Perm rows'.revisions
  activities : rows.activities.Perm rows'.activities
  executions : rows.executions.Perm rows'.executions
  templates : rows.templates.Perm rows'.templates

/-- Each of the rows is what a store finds under the key that the row says it has. -/
structure Snapshot.Filed (rows : Snapshot) (store : Store) : Prop where
  revisions : ∀ row ∈ rows.revisions, store.revision? row.id = some row
  activities : ∀ row ∈ rows.activities, store.activity? row.id = some row
  executions : ∀ row ∈ rows.executions, store.execution? row.activityId row.taskId = some row
  templates : ∀ row ∈ rows.templates, store.template? row.id = some row

namespace Store

theorem filed_of_reordered {store : Store} {rows : Snapshot}
    (h : rows.Reordered store.snapshot) : rows.Filed store where
  revisions := by
    intro row hmem
    exact Table.get?_eq_some_iff.mpr ⟨h.revisions.subset hmem, rfl⟩
  activities := by
    intro row hmem
    exact Table.get?_eq_some_iff.mpr ⟨h.activities.subset hmem, rfl⟩
  executions := by
    intro row hmem
    exact Table.get?_eq_some_iff.mpr ⟨h.executions.subset hmem, rfl⟩
  templates := by
    intro row hmem
    exact Table.get?_eq_some_iff.mpr ⟨h.templates.subset hmem, rfl⟩

theorem reordered_rebuilt {store : Store} {rows : Snapshot} (h : rows.Reordered store.snapshot) :
    (ofSnapshot rows).snapshot.Reordered store.snapshot where
  revisions := store.revisions.rows_ofRows_perm h.revisions
  activities := store.activities.rows_ofRows_perm h.activities
  executions := store.executions.rows_ofRows_perm h.executions
  templates := store.templates.rows_ofRows_perm h.templates

/-! ## Stores with the same rows -/

section

variable {store store' : Store} (h : store.snapshot.Reordered store'.snapshot)

include h

theorem revision?_eq_of_reordered (id : Uuid) : store.revision? id = store'.revision? id :=
  Table.get?_eq_of_perm h.revisions id

theorem activity?_eq_of_reordered (id : Uuid) : store.activity? id = store'.activity? id :=
  Table.get?_eq_of_perm h.activities id

theorem execution?_eq_of_reordered (activity : Uuid) (task : String) :
    store.execution? activity task = store'.execution? activity task :=
  Table.get?_eq_of_perm h.executions (activity, task)

theorem template?_eq_of_reordered (id : String) : store.template? id = store'.template? id :=
  Table.get?_eq_of_perm h.templates id

theorem listedByTime_iff_of_reordered (activity : Uuid) (listed : List ExecutionRow) :
    store.ListedByTime activity listed ↔ store'.ListedByTime activity listed := by
  have hsame : (store.executions.rows.filter fun row => row.activityId = activity).Perm
      (store'.executions.rows.filter fun row => row.activityId = activity) :=
    List.Perm.filter _ h.executions
  constructor
  · intro hlisted
    exact ⟨hlisted.perm.trans hsame, hlisted.sorted⟩
  · intro hlisted
    exact ⟨hlisted.perm.trans hsame.symm, hlisted.sorted⟩

/-- As sources of answers they are one and the same. -/
theorem sources_eq_of_reordered : store.sources = store'.sources := by
  have hdefinition : store.definitionOf = store'.definitionOf := by
    funext id
    rw [definitionOf, definitionOf, revision?_eq_of_reordered h]
  have hrecord : store.recordOf = store'.recordOf := by
    funext activity task
    rw [recordOf, recordOf, execution?_eq_of_reordered h]
  have htemplates : store.revisionsOf = store'.revisionsOf := by
    funext template
    rw [revisionsOf, revisionsOf, template?_eq_of_reordered h]
  rw [sources, sources, hdefinition, hrecord, htemplates]

end

/-- **A store can be rebuilt from its rows.**  After any run, the rows of the store in any order,
each of which is found under its own key, make a store with the same rows, neither fewer nor more.
It finds the same under every key and is the same service to put questions to.  The lists of the
records of an activity by time, with those of the same time in any order, are the same for both, and
both give the same one of them. -/
theorem rebuilt_alike (changes : List Change) {rows : Snapshot}
    (h : rows.Reordered (empty.run changes).snapshot) :
    rows.Filed (empty.run changes) ∧
    (ofSnapshot rows).snapshot.Reordered (empty.run changes).snapshot ∧
    (∀ id, (ofSnapshot rows).revision? id = (empty.run changes).revision? id) ∧
    (∀ id, (ofSnapshot rows).activity? id = (empty.run changes).activity? id) ∧
    (∀ activity task, (ofSnapshot rows).execution? activity task =
      (empty.run changes).execution? activity task) ∧
    (∀ id, (ofSnapshot rows).template? id = (empty.run changes).template? id) ∧
    (∀ activity listed, (ofSnapshot rows).ListedByTime activity listed ↔
      (empty.run changes).ListedByTime activity listed) ∧
    (∀ activity, (ofSnapshot rows).executionsOf activity =
      (empty.run changes).executionsOf activity) ∧
    ∀ limit, (ofSnapshot rows).service limit = (empty.run changes).service limit := by
  have hsame := reordered_rebuilt h
  refine ⟨filed_of_reordered h, hsame, revision?_eq_of_reordered hsame,
    activity?_eq_of_reordered hsame, execution?_eq_of_reordered hsame,
    template?_eq_of_reordered hsame, listedByTime_iff_of_reordered hsame, ?_, ?_⟩
  · intro activity
    exact executionsOf_congr (execution?_eq_of_reordered hsame activity)
  · intro limit
    rw [service, service, sources_eq_of_reordered hsame]

/-- A store is loaded, and what it says of two tasks is recorded anew, of the second one twice. -/
def busyDay : List Change :=
  [.load ⟨[⟨.ofNat 1, .ofNat 2, 1, .null⟩], [⟨.ofNat 3, .ofNat 1, ⟨0, 0, 0⟩⟩],
    [⟨.ofNat 4, .ofNat 3, "ask", "waiting", none, ⟨0, 0, 0⟩⟩,
      ⟨.ofNat 5, .ofNat 3, "build", "waiting", none, ⟨0, 0, 0⟩⟩], []⟩,
   .record (.ofNat 6) (.ofNat 3) "build" "inprogress" none ⟨0, 1, 0⟩,
   .putTemplate ⟨"cargo", "Cargo", .null⟩,
   .record (.ofNat 7) (.ofNat 3) "ask" "completed" (some "red") ⟨0, 2, 0⟩,
   .record (.ofNat 8) (.ofNat 3) "build" "completed" none ⟨0, 3, 0⟩]

/-- What is there at the end of it, the records the other way round. -/
def dayEnd : Snapshot :=
  ⟨[⟨.ofNat 1, .ofNat 2, 1, .null⟩], [⟨.ofNat 3, .ofNat 1, ⟨0, 0, 0⟩⟩],
    [⟨.ofNat 8, .ofNat 3, "build", "completed", none, ⟨0, 3, 0⟩⟩,
      ⟨.ofNat 7, .ofNat 3, "ask", "completed", some "red", ⟨0, 2, 0⟩⟩],
    [⟨"cargo", "Cargo", .null⟩]⟩

theorem dayEnd_reordered : dayEnd.Reordered (empty.run busyDay).snapshot where
  revisions := .refl _
  activities := .refl _
  executions := .swap _ _ _
  templates := .refl _

theorem dayEnd_rebuilt : dayEnd.Reordered (empty.run busyDay).snapshot ∧
    dayEnd.Filed (empty.run busyDay) ∧
    (ofSnapshot dayEnd).snapshot.Reordered (empty.run busyDay).snapshot ∧
    (empty.run busyDay).execution? (.ofNat 3) "build" =
      some ⟨.ofNat 8, .ofNat 3, "build", "completed", none, ⟨0, 3, 0⟩⟩ ∧
    (ofSnapshot dayEnd).execution? (.ofNat 3) "build" =
      (empty.run busyDay).execution? (.ofNat 3) "build" ∧
    (ofSnapshot dayEnd).executionsOf (.ofNat 3) = (empty.run busyDay).executionsOf (.ofNat 3) ∧
    (ofSnapshot dayEnd).service 1048576 = (empty.run busyDay).service 1048576 := by
  obtain ⟨hfiled, hsame, -, -, hrecords, -, -, hlists, hservice⟩ :=
    rebuilt_alike busyDay dayEnd_reordered
  exact ⟨dayEnd_reordered, hfiled, hsame, rfl, hrecords _ _, hlists _, hservice _⟩

end Store

end Workflow
