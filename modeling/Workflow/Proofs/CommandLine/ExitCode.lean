import Workflow.CommandLine.Outcome
import Workflow.Proofs.Store.History

/-!
# Exit codes

A script that calls the program sees its exit code and its standard output.  What they say is told
here by the snapshot as it is written: its rows, and the answers of the store that they make
(`Outcome.Tells`).  The three commands do not treat a question without an answer alike.  Two of
them end with 2 whatever the failure is.  The third one asks on behalf of a scheduler, for which a
task that cannot be judged is merely not ready: it ends with 1, unless what failed is that the
definition has no start or no end.

A question about a task may leave its revision open.  It is then put under the revision of the
activity's row, the last one if the snapshot has several (`AskedUnder`), and in no other way does it
differ from the question with that revision.
-/

namespace Workflow

theorem Error.isFatal_iff {e : Error} : e.isFatal = true ↔ ∃ kind, e = .missingTerminal kind := by
  constructor
  · intro h
    cases e with
    | missingTerminal kind => exact ⟨kind, rfl⟩
    | _ => cases h
  · rintro ⟨kind, rfl⟩
    rfl

namespace CommandLine

/-! ## Snapshots -/

/-- There is a text, and it describes the rows. -/
def Describes (text : Option String) (rows : Snapshot) : Prop :=
  ∃ content, text = some content ∧ Decoder.snapshot.ofText content = .ok rows

theorem load_ok_iff {text : Option String} {store : Store} :
    load text = .ok store ↔ ∃ rows, Describes text rows ∧ Store.ofSnapshot rows = store := by
  cases text with
  | none => simp [load, Describes]
  | some content =>
      simp only [load, Store.ofText, Describes, Option.some.injEq, exists_eq_left']
      cases Decoder.snapshot.ofText content with
      | error fault => simp [Except.map, Except.mapError]
      | ok rows => simp [Except.map, Except.mapError]

theorem load_error {text : Option String} (h : ¬ ∃ rows, Describes text rows) :
    ∃ fault, load text = .error fault := by
  cases hload : load text with
  | error fault => exact ⟨fault, rfl⟩
  | ok store =>
      obtain ⟨rows, hrows, -⟩ := load_ok_iff.mp hload
      exact absurd ⟨rows, hrows⟩ h

/-- The revision under which a question about a task is put: the one given, or else the one the
activity was started from. -/
inductive AskedUnder (rows : Snapshot) (activity : Uuid) : Option Uuid → Uuid → Prop
  | given (revision : Uuid) : AskedUnder rows activity (some revision) revision
  | started {row : ActivityRow} :
      Newest (fun other => other.id = activity) rows.activities (some row) →
      AskedUnder rows activity none row.revisionId

theorem activity?_ofSnapshot {rows : Snapshot} {activity : Uuid} {answer : Option ActivityRow} :
    (Store.ofSnapshot rows).activity? activity = answer ↔
      Newest (fun other => other.id = activity) rows.activities answer :=
  Table.get?_ofRows_eq_iff

/-- There is a revision to ask under, unless none is given and the activity has no row. -/
theorem askedUnder_or (rows : Snapshot) (activity : Uuid) (revision : Option Uuid) :
    (∃ under, AskedUnder rows activity revision under) ∨
      revision = none ∧ ∀ row ∈ rows.activities, row.id ≠ activity := by
  cases revision with
  | some revision => exact Or.inl ⟨revision, .given revision⟩
  | none =>
      cases hrow : (Store.ofSnapshot rows).activity? activity with
      | some row => exact Or.inl ⟨row.revisionId, .started (activity?_ofSnapshot.mp hrow)⟩
      | none =>
          cases activity?_ofSnapshot.mp hrow with
          | missing hnone => exact Or.inr ⟨rfl, hnone⟩

/-- Without a revision there is one to ask under only if the activity has a row. -/
theorem AskedUnder.exists_row {rows : Snapshot} {activity under : Uuid}
    (h : AskedUnder rows activity none under) : ∃ row ∈ rows.activities, row.id = activity := by
  cases h with
  | started hnewest =>
      cases hnewest with
      | found hrows hid _ => exact ⟨_, by simp [hrows], hid⟩

theorem AskedUnder.unique {rows : Snapshot} {activity under under' : Uuid}
    {revision : Option Uuid} (h : AskedUnder rows activity revision under)
    (h' : AskedUnder rows activity revision under') : under = under' := by
  cases h with
  | given => cases h'; rfl
  | started hnewest =>
      cases h' with
      | started hnewest' =>
          have hrow := activity?_ofSnapshot.mpr hnewest
          rw [activity?_ofSnapshot.mpr hnewest'] at hrow
          cases hrow
          rfl

/-! ## Commands -/

section

variable (service : Service)

theorem validate_code (revision : Uuid) :
    ((validate service revision).code = 0 ↔ service.validate revision = .ok true) ∧
    ((validate service revision).code = 1 ↔ service.validate revision = .ok false) ∧
    ((validate service revision).code = 2 ↔ ∃ e, service.validate revision = .error e) := by
  unfold validate
  cases service.validate revision with
  | error e => simp [Outcome.failed]
  | ok valid =>
      cases valid with
      | true => simp [Outcome.answer]
      | false => simp [Outcome.failed]

theorem graph_code (revision : Uuid) (activity : Option Uuid) :
    (∀ g, service.prunedGraph revision activity = .ok g →
      (graph service revision activity).code = 0 ∧
        (graph service revision activity).output = g.dot ++ "\n") ∧
    ∀ e, service.prunedGraph revision activity = .error e →
      (graph service revision activity).code = 2 ∧
        (graph service revision activity).output = "" := by
  unfold graph
  constructor
  · intro g hg
    rw [hg]
    exact ⟨rfl, rfl⟩
  · intro e he
    rw [he]
    exact ⟨rfl, rfl⟩

theorem canComplete_code (revision activity : Uuid) (task : String) :
    ((canComplete service revision activity task).code = 2 ↔
      ∃ kind, service.canComplete revision activity task = .error (.missingTerminal kind)) ∧
    ((canComplete service revision activity task).code = 0 ↔
      service.canComplete revision activity task = .ok true) ∧
    (canComplete service revision activity task).code ≤ 2 := by
  unfold canComplete
  cases service.canComplete revision activity task with
  | ok reachable =>
      cases reachable with
      | true => simp [Outcome.answer]
      | false => simp [Outcome.answer]
  | error e =>
      simp only [Except.error.injEq, ← Error.isFatal_iff]
      cases he : e.isFatal with
      | true => simp [Outcome.failed]
      | false => simp [Outcome.unready]

end

/-- A question about a task is put under its revision. -/
theorem AskedUnder.run_eq {rows : Snapshot} {activity under : Uuid} {revision : Option Uuid}
    (h : AskedUnder rows activity revision under) (limit : Nat) (task : String) :
    (Command.canComplete revision activity task).run (.ofSnapshot rows) limit =
      canComplete ((Store.ofSnapshot rows).service limit) under activity task := by
  cases h with
  | given => rfl
  | started hnewest => rw [Command.run, activity?_ofSnapshot.mpr hnewest]

theorem run_of_no_row {rows : Snapshot} {activity : Uuid}
    (h : ∀ row ∈ rows.activities, row.id ≠ activity) (limit : Nat) (task : String) :
    ((Command.canComplete none activity task).run (.ofSnapshot rows) limit).code = 2 := by
  rw [Command.run, activity?_ofSnapshot.mpr (.missing h)]
  rfl

/-- What the end of a run says about a command, in terms of the rows of the snapshot and of the
answers of the service that they make. -/
def Outcome.Tells (rows : Snapshot) (service : Service) (outcome : Outcome) : Command → Prop
  | .validate revision =>
    (outcome.code = 0 ↔ service.validate revision = .ok true) ∧
    (outcome.code = 1 ↔ service.validate revision = .ok false) ∧
    (outcome.code = 2 ↔ ∃ e, service.validate revision = .error e)
  | .graph revision activity =>
    (∀ g, service.prunedGraph revision activity = .ok g →
      outcome.code = 0 ∧ outcome.output = g.dot ++ "\n") ∧
    ∀ e, service.prunedGraph revision activity = .error e →
      outcome.code = 2 ∧ outcome.output = ""
  | .canComplete revision activity task =>
    (outcome.code = 2 ↔
      (revision = none ∧ ∀ row ∈ rows.activities, row.id ≠ activity) ∨
        ∃ under kind, AskedUnder rows activity revision under ∧
          service.canComplete under activity task = .error (.missingTerminal kind)) ∧
    (outcome.code = 0 ↔ ∃ under, AskedUnder rows activity revision under ∧
      service.canComplete under activity task = .ok true) ∧
    outcome.code ≤ 2

/-- Showing less of the log changes neither the code nor the output. -/
theorem Outcome.Tells.logged {rows : Snapshot} {service : Service} {outcome : Outcome}
    {command : Command} (h : outcome.Tells rows service command) (filter : LogFilter) :
    (outcome.logged filter).Tells rows service command := by
  cases command with
  | validate => exact h
  | graph => exact h
  | canComplete => exact h

/-- Whatever the command, the end of its run tells about it. -/
theorem run_tells (rows : Snapshot) (limit : Nat) (command : Command) :
    (command.run (.ofSnapshot rows) limit).Tells rows ((Store.ofSnapshot rows).service limit)
      command := by
  cases command with
  | validate revision => exact validate_code _ revision
  | graph revision activity => exact graph_code _ revision activity
  | canComplete revision activity task =>
      rcases askedUnder_or rows activity revision with ⟨under, hunder⟩ | hnone
      · obtain ⟨hfatal, hreachable, hbound⟩ :=
          canComplete_code ((Store.ofSnapshot rows).service limit) under activity task
        rw [← hunder.run_eq] at hfatal hreachable hbound
        refine ⟨hfatal.trans ?_, hreachable.trans ?_, hbound⟩
        · constructor
          · rintro ⟨kind, herror⟩
            exact Or.inr ⟨under, kind, hunder, herror⟩
          · rintro (⟨rfl, hmissing⟩ | ⟨under', kind, hunder', herror⟩)
            · obtain ⟨row, hmem, hid⟩ := hunder.exists_row
              exact absurd hid (hmissing row hmem)
            · rw [hunder.unique hunder']
              exact ⟨kind, herror⟩
        · constructor
          · exact fun hok => ⟨under, hunder, hok⟩
          · rintro ⟨under', hunder', hok⟩
            rwa [hunder.unique hunder']
      · obtain ⟨rfl, hmissing⟩ := hnone
        have hcode := run_of_no_row hmissing limit task
        refine ⟨iff_of_true hcode (Or.inl ⟨rfl, hmissing⟩), iff_of_false (by omega) ?_, by omega⟩
        rintro ⟨under, hunder, -⟩
        obtain ⟨row, hmem, hid⟩ := hunder.exists_row
        exact absurd hid (hmissing row hmem)

/-! ## Runs -/

namespace Invocation

theorem run_of_describes {text : Option String} {rows : Snapshot} (h : Describes text rows)
    (invocation : Invocation) :
    invocation.run text = (invocation.command.run (.ofSnapshot rows)
      (invocation.limit.getD Pattern.defaultLimit)).logged invocation.log := by
  rw [run, load_ok_iff.mpr ⟨rows, h, rfl⟩]

/-- **What the exit code tells.**  A run ends with 2 when the snapshot cannot be loaded.  With a
snapshot, `validate` ends with 0, 1 or 2 as the answer is yes, no or missing; `graph` prints the
drawing and ends with 0, or prints nothing and ends with 2; `can-complete` ends with 2 when it knows
of no revision to ask under or fails for want of a start or an end, with 0 when the task can be
reached, and otherwise with 1.  Without a revision, `can-complete` does what it does with the
revision of the activity's row. -/
theorem exit_codes (invocation : Invocation) (text : Option String) :
    ((¬ ∃ rows, Describes text rows) → (invocation.run text).code = 2) ∧
    ∀ rows, Describes text rows →
      (invocation.run text).Tells rows ((Store.ofSnapshot rows).service
        (invocation.limit.getD Pattern.defaultLimit)) invocation.command ∧
      ∀ activity task row, invocation.command = .canComplete none activity task →
        Newest (fun other => other.id = activity) rows.activities (some row) →
        invocation.run text =
          { invocation with command := .canComplete (some row.revisionId) activity task }.run
            text := by
  constructor
  · intro hnone
    obtain ⟨fault, hload⟩ := load_error hnone
    rw [run, hload]
    rfl
  · intro rows hrows
    constructor
    · rw [run_of_describes hrows]
      exact (run_tells rows _ invocation.command).logged invocation.log
    · intro activity task row hcommand hrow
      have hasked := AskedUnder.started hrow
      rw [run_of_describes hrows, run_of_describes hrows, hcommand, hasked.run_eq]
      rfl

/-- An activity. -/
def orphan : ActivityRow := ⟨.ofNat 3, .ofNat 1, ⟨0, 0, 0⟩⟩

/-- A question about a task of the activity, whose revision is not there. -/
def lostRevision : Invocation :=
  ⟨"store.json", none, LogFilter.inForce none false, .canComplete none orphan.id "build"⟩

/-- The rows in short form: no revision and one activity. -/
@[irreducible] def lostRevisionText : String :=
  "[[],[[\"00000000000000000000000000000003\",\"00000000000000000000000000000001\"," ++
    "\"1970-01-01T00:00:00Z\"]]]"

theorem lostRevisionText_read : ∃ executions templates,
    Decoder.snapshot.ofText lostRevisionText = .ok ⟨[], [orphan], executions, templates⟩ := by
  have hshape : ∀ read : Except Fault Snapshot,
      read.toOption.map (fun rows => (rows.revisions.length, rows.activities)) =
        some (0, [orphan]) →
      ∃ executions templates, read = .ok ⟨[], [orphan], executions, templates⟩ := by
    rintro (fault | ⟨revisions, activities, executions, templates⟩) h
    · cases h
    · obtain ⟨hnone, rfl⟩ := Prod.mk.inj (Option.some.inj h)
      obtain rfl := List.length_eq_zero_iff.mp hnone
      exact ⟨executions, templates, rfl⟩
  exact hshape _ (by decide +kernel)

/-- The failure stops no run: the task counts as not ready, as it would if the revision of the
activity had been given. -/
theorem lostRevision_not_ready : ∃ rows, Describes (some lostRevisionText) rows ∧
    (lostRevision.run (some lostRevisionText)).code = 1 ∧
    lostRevision.run (some lostRevisionText) =
      { lostRevision with
        command := .canComplete (some orphan.revisionId) orphan.id "build" }.run
          (some lostRevisionText) := by
  obtain ⟨executions, templates, hrows⟩ := lostRevisionText_read
  have hdescribes : Describes (some lostRevisionText) _ := ⟨_, rfl, hrows⟩
  have hnewest : Newest (fun other => other.id = orphan.id) [orphan] (some orphan) :=
    @Newest.found _ _ _ [] [] _ rfl rfl (by simp)
  have hanswer : ∀ under, AskedUnder ⟨[], [orphan], executions, templates⟩ orphan.id none under →
      ((Store.ofSnapshot ⟨[], [orphan], executions, templates⟩).service
        Pattern.defaultLimit).canComplete under orphan.id "build" =
          .error (.revisionNotFound orphan.revisionId) := by
    intro under hunder
    obtain rfl := hunder.unique (.started hnewest)
    rfl
  obtain ⟨htells, hsame⟩ := (exit_codes lostRevision (some lostRevisionText)).2 _ hdescribes
  obtain ⟨hfatal, hreachable, hbound⟩ := htells
  have hnot2 : (lostRevision.run (some lostRevisionText)).code ≠ 2 := by
    intro hcode
    rcases hfatal.mp hcode with ⟨-, hmissing⟩ | ⟨under, kind, hunder, herror⟩
    · exact hmissing _ List.mem_cons_self rfl
    · cases (hanswer under hunder).symm.trans herror
  have hnot0 : (lostRevision.run (some lostRevisionText)).code ≠ 0 := by
    intro hcode
    obtain ⟨under, hunder, hok⟩ := hreachable.mp hcode
    cases (hanswer under hunder).symm.trans hok
  exact ⟨_, hdescribes, by omega, hsame _ _ _ rfl hnewest⟩

end Invocation

end CommandLine

end Workflow
