import Workflow.Proofs.Reachability
import Workflow.Proofs.Store.Run

/-!
# What is out of reach stays out of reach

While an activity goes on, tasks end and are recorded, and all the while other revisions,
activities and templates are written.  As long as no outcome of the activity is revised, a task
that could no longer be reached cannot be reached again (`out_of_reach_stays`): the question may
fail for a while, but it is never answered with yes.

A store that comes later knows more (`Store.Extends`): it has the revisions that were there and the
outcomes that were recorded.  A dependency that is open when more is known was open before
(`Definition.Open.antitone`), also behind a decision, because the outcome of its upstream task is
either the same or was not there, and without an outcome everything is open.
-/

namespace Workflow

open Relation

/-! ## Lawful changes -/

/-- The row of a task within an activity says that the task ended, in completion or in failure. -/
def Store.Settled (store : Store) (activity : Uuid) (task : String) : Prop :=
  ∃ row, store.execution? activity task = some row ∧
    (row.status = Status.completed.name ∨ row.status = Status.failed.name)

/-- A change that leaves the outcomes of an activity as they are: the store is not loaded anew, a
new revision gets an identifier that is not in use, and what is recorded in the activity is
recorded for a task that has not ended. -/
def Store.Permits (store : Store) (activity : Uuid) : Store.Change → Prop
  | .load _ => False
  | .insertRevision id _ _ _ => store.revision? id = none
  | .createActivity _ _ _ => True
  | .record _ other task _ _ _ => other = activity → ¬ store.Settled activity task
  | .putTemplate _ => True

/-- Each change of a run is permitted at its moment. -/
def Store.Lawful (activity : Uuid) : Store → List Store.Change → Prop
  | _, [] => True
  | store, change :: rest =>
      store.Permits activity change ∧ Store.Lawful activity (store.apply change) rest

theorem Store.Lawful.of_isPrefix {activity : Uuid} :
    ∀ {store : Store} {done changes : List Store.Change}, done <+: changes →
      Store.Lawful activity store changes → Store.Lawful activity store done
  | _, [], _, _, _ => trivial
  | store, change :: done, changes, hprefix, h => by
      obtain ⟨rest, rfl⟩ := hprefix
      exact ⟨h.1, Store.Lawful.of_isPrefix (List.prefix_append done rest) h.2⟩

theorem Store.settled_iff {store : Store} {activity : Uuid} {task : String} :
    store.Settled activity task ↔ ∃ record, store.Ended activity task record := by
  constructor
  · rintro ⟨row, hrow, hstatus | hstatus⟩
    · exact ⟨⟨.completed, row.switchValue⟩, ⟨row, hrow, hstatus, rfl⟩, Or.inl rfl⟩
    · exact ⟨⟨.failed, row.switchValue⟩, ⟨row, hrow, hstatus, rfl⟩, Or.inr rfl⟩
  · rintro ⟨record, ⟨row, hrow, hstatus, -⟩, hended⟩
    refine ⟨row, hrow, ?_⟩
    rcases hended with h | h
    · exact Or.inl (hstatus.trans (congrArg Status.name h))
    · exact Or.inr (hstatus.trans (congrArg Status.name h))

/-! ## Knowing more -/

/-- The later store has the revisions of the earlier one and, within the activity, its outcomes. -/
structure Store.Extends (activity : Uuid) (earlier later : Store) : Prop where
  revisions : ∀ {id : Uuid} {row : RevisionRow},
    earlier.revision? id = some row → later.revision? id = some row
  outcomes : ∀ {task : String} {record : Record},
    earlier.Ended activity task record → later.Ended activity task record

theorem Store.Extends.refl (activity : Uuid) (store : Store) :
    Store.Extends activity store store := ⟨id, id⟩

theorem Store.Extends.trans {activity : Uuid} {first middle last : Store}
    (h : Store.Extends activity first middle) (h' : Store.Extends activity middle last) :
    Store.Extends activity first last :=
  ⟨fun hrow => h'.revisions (h.revisions hrow), fun hended => h'.outcomes (h.outcomes hended)⟩

/-- A permitted change takes nothing away. -/
theorem Store.Permits.extends_apply {store : Store} {activity : Uuid} {change : Store.Change}
    (h : store.Permits activity change) : Store.Extends activity store (store.apply change) := by
  cases change with
  | load rows => exact h.elim
  | insertRevision id workflowId version dag =>
      refine ⟨fun {other row} hrow => ?_, fun hended => hended⟩
      have hfresh : id ≠ other := by
        rintro rfl
        rw [Store.Permits, hrow] at h
        cases h
      show (store.insertRevision id workflowId version dag).revision? other = some row
      rw [Store.revision?_insertRevision, if_neg hfresh, hrow]
  | createActivity id revisionId now => exact ⟨fun hrow => hrow, fun hended => hended⟩
  | record id other task status value now =>
      refine ⟨fun hrow => hrow, fun {name record} hended => ?_⟩
      -- what is overwritten was no outcome, so this outcome stands under another key
      have hkept : other = activity → task ≠ name := by
        rintro rfl rfl
        exact h rfl (Store.settled_iff.mpr ⟨record, hended⟩)
      obtain ⟨⟨row, hrow, hsays⟩, hstatus⟩ := hended
      refine ⟨⟨row, ?_, hsays⟩, hstatus⟩
      show (store.record id other task status value now).execution? activity name = some row
      rw [Store.execution?_record_of_ne store id status value now
        fun heq => (hkept heq.symm).symm, hrow]
  | putTemplate row => exact ⟨fun hrow => hrow, fun hended => hended⟩

/-- A lawful run takes nothing away. -/
theorem Store.Lawful.extends_run {activity : Uuid} :
    ∀ {store : Store} {changes : List Store.Change}, Store.Lawful activity store changes →
      Store.Extends activity store (store.run changes)
  | store, [], _ => .refl activity store
  | _, _ :: _, h => h.1.extends_apply.trans (Store.Lawful.extends_run h.2)

/-! ## The answer -/

theorem Store.Ended.unique {store : Store} {activity : Uuid} {task : String}
    {record other : Record} (h : store.Ended activity task record)
    (hother : store.Ended activity task other) : other = record := by
  rw [← store.ended_eq] at h hother
  exact h.unique hother

theorem Store.Extends.openStep {activity : Uuid} {earlier later : Store}
    (h : Store.Extends activity earlier later) {definition : Definition} {limit : Nat}
    {upstream task : Task}
    (hstep : definition.OpenStep limit (later.Ended activity) upstream task) :
    definition.OpenStep limit (earlier.Ended activity) upstream task := by
  obtain ⟨hupstream, htask, dependency, hdep, hon, hopen⟩ := hstep
  exact ⟨hupstream, htask, dependency, hdep, hon,
    hopen.antitone h.outcomes fun hrecord => hrecord.unique⟩

/-- A task that can be reached when more is known could be reached before, wherever the question
had an answer. -/
theorem Store.Extends.canComplete {activity : Uuid} {earlier later : Store}
    (h : Store.Extends activity earlier later) {limit : Nat} {revision : Uuid} {task : String}
    {before : Bool}
    (hbefore : (earlier.service limit).canComplete revision activity task = .ok before)
    (hafter : (later.service limit).canComplete revision activity task = .ok true) :
    before = true := by
  obtain ⟨row, definition, first, hrow, hdag, hfirst, hanswer⟩ := canComplete_iff hbefore
  obtain ⟨row', definition', first', hrow', hdag', hfirst', hanswer'⟩ := canComplete_iff hafter
  -- both questions are about one definition
  obtain rfl : row = row' := Option.some.inj ((h.revisions hrow).symm.trans hrow')
  obtain rfl : definition = definition' := Except.ok.inj (hdag.symm.trans hdag')
  obtain rfl : first = first' := List.singleton_injective (hfirst.symm.trans hfirst')
  obtain ⟨last, hlast, hname, hchain⟩ := hanswer'.mp rfl
  exact hanswer.mpr ⟨last, hlast, hname, ReflTransGen.mono (fun _ _ => h.openStep) _ _ hchain⟩

/-- **What is out of reach stays out of reach.**  Once a task cannot be reached in an activity, then
at every later point of a run that revises no outcome of the activity the answer is no again, or
there is none. -/
theorem out_of_reach_stays {store : Store} {limit : Nat} {revision activity : Uuid}
    {task : String} {changes : List Store.Change}
    (hlawful : Store.Lawful activity store changes)
    (hno : (store.service limit).canComplete revision activity task = .ok false) :
    ∀ done, done <+: changes →
      ((store.run done).service limit).canComplete revision activity task = .ok false ∨
        ∃ error, ((store.run done).service limit).canComplete revision activity task =
          .error error := by
  intro done hprefix
  have hextends := (hlawful.of_isPrefix hprefix).extends_run
  cases hanswer : ((store.run done).service limit).canComplete revision activity task with
  | error error => exact Or.inr ⟨error, rfl⟩
  | ok answer =>
      cases answer with
      | false => exact Or.inl rfl
      | true => exact absurd (hextends.canComplete hno hanswer) Bool.false_ne_true

/-- Another identifier. -/
def unitId : Uuid := .ofNat 1

/-- While the way astray is closed: a status that cannot be read and then an outcome for the task
ahead, the opposite decision in another activity, and the same workflow again. -/
def forkChanges : List Store.Change :=
  [.record unitId nilId "ahead" "lost" none ⟨1, 0, 0⟩,
   .record unitId nilId "ahead" "failure" none ⟨2, 0, 0⟩,
   .record unitId unitId "ask" "completed" (some "green") ⟨3, 0, 0⟩,
   .insertRevision unitId nilId 2 fork.toJson]

theorem fork_stays_closed :
    (forkStore.service 1048576).canComplete nilId nilId "astray" = .ok false ∧
    Store.Lawful nilId forkStore forkChanges ∧
    ∀ done, done <+: forkChanges →
      ((forkStore.run done).service 1048576).canComplete nilId nilId "astray" = .ok false ∨
        ∃ error, ((forkStore.run done).service 1048576).canComplete nilId nilId "astray" =
          .error error := by
  have hno : (forkStore.service 1048576).canComplete nilId nilId "astray" = .ok false := rfl
  have hlawful : Store.Lawful nilId forkStore forkChanges := by
    refine ⟨?_, ?_, ?_, rfl, trivial⟩
    · rintro - ⟨row, hrow, -⟩
      cases hrow
    · rintro - ⟨row, hrow, hstatus⟩
      cases hrow
      simp [Status.name] at hstatus
    · exact fun hsame => absurd hsame (by decide)
  exact ⟨hno, hlawful, out_of_reach_stays hlawful hno⟩

end Workflow
