import Workflow.Proofs.Authored
import Workflow.Proofs.OutOfReach
import Workflow.Proofs.Refusal

/-!
# Validation and the live question

A workflow is validated before it runs: can the end be reached from the start, nothing being
recorded?  While it runs the live question is put, whether a task can still be reached in an
activity.  The two take different ways, one without records and the other with records and pruning,
and yet they agree (`validation_agrees`).

Where the live question has an answer validation has one, and if the end can still be reached the
workflow is valid, for pruning only takes edges away.  Where validation fails the live question
fails with the same error, unless there is a status in the activity that cannot be read.  And where
no task has ended, the live question about the end is validation.
-/

namespace Workflow

/-! ## One definition -/

section Definitions

variable {service : Service} {definition : Definition} {activity : Uuid}

/-- The one end is the task that terminals name. -/
theorem eq_finish_of_terminals {terminals : Terminals} (h : definition.terminals = .ok terminals)
    {last : Task} (hlast : last ∈ definition.tasks) (hkind : last.kind = .finish) :
    last.id = terminals.finish := by
  obtain ⟨finish, hone, hname⟩ := single_ok (terminals_ok h).2
  have hfound : last ∈ definition.tasks.filter (fun task => task.kind = .finish) :=
    List.mem_filter.mpr ⟨hlast, decide_eq_true hkind⟩
  rw [hone] at hfound
  rw [List.mem_singleton.mp hfound, hname]

/-- An answer to the live question is found on a graph that is drawn and pruned. -/
theorem canCompleteIn_ok {task : String} {answer : Bool} :
    service.canCompleteIn definition activity task = .ok answer ↔
      ∃ terminals nodes g, definition.terminals = .ok terminals ∧
        Drawn service.sources service.limit definition activity nodes g ∧
        (g.prune nodes).1.hasPath terminals.start task = answer := by
  rw [Service.canCompleteIn_eq_path, Service.path_ok]
  constructor
  · rintro ⟨terminals, pruned, hterminals, hgraph, hpath⟩
    obtain ⟨nodes, g, hdrawn, rfl⟩ := graph_ok hgraph
    exact ⟨terminals, nodes, g, hterminals, hdrawn, hpath⟩
  · rintro ⟨terminals, nodes, g, hterminals, hdrawn, hpath⟩
    exact ⟨terminals, _, hterminals, hdrawn.graph_eq, hpath⟩

/-- Where the graph can be drawn validation looks for a path in all of it. -/
theorem validateDefinition_of_drawn {terminals : Terminals} {nodes : List Node} {g : Graph}
    (hterminals : definition.terminals = .ok terminals)
    (hdrawn : Drawn service.sources service.limit definition activity nodes g) :
    service.validateDefinition definition =
      .ok (g.hasPath terminals.start terminals.finish) := by
  rw [Service.validateDefinition_eq_path, Service.path_ok]
  exact ⟨terminals, g, hterminals, hdrawn.authored, rfl⟩

/-- If the end can still be reached it can be reached. -/
theorem validateDefinition_of_canCompleteIn {last : Task} (hlast : last ∈ definition.tasks)
    (hkind : last.kind = .finish)
    (h : service.canCompleteIn definition activity last.id = .ok true) :
    service.validateDefinition definition = .ok true := by
  obtain ⟨terminals, nodes, g, hterminals, hdrawn, hpruned⟩ := canCompleteIn_ok.mp h
  have hpath : g.hasPath terminals.start last.id = true := by
    refine Graph.hasPath_mono ?_ ?_ hpruned
    · rw [prune_tasks hdrawn.ranked nodes]
      exact List.Subset.refl _
    · intro a b hleads
      exact hleads.mono (prune_edges_sublist hdrawn.ranked nodes).subset
  rw [validateDefinition_of_drawn hterminals hdrawn, ← hpath,
    eq_finish_of_terminals hterminals hlast hkind]

/-- Where every record can be looked up, the live question fails as validation does. -/
theorem canCompleteIn_error_of_validateDefinition (h : definition.Answered service.sources activity)
    {e : Error} (herror : service.validateDefinition definition = .error e) (task : String) :
    service.canCompleteIn definition activity task = .error e := by
  rw [Service.validateDefinition_eq_path, Service.path_error] at herror
  rw [Service.canCompleteIn_eq_path, Service.path_error]
  rcases herror with hterminals | ⟨hterminals, hplain⟩
  · exact Or.inl hterminals
  · refine Or.inr ⟨hterminals, ?_⟩
    rcases graph_cases h with ⟨other, hother, hpruned⟩ | ⟨nodes, g, hdrawn⟩
    · cases hother.symm.trans hplain
      exact hpruned
    · cases hdrawn.authored.symm.trans hplain

/-- Where nothing has ended, the live question about the end is validation. -/
theorem canCompleteIn_eq_validateDefinition (h : definition.Answered service.sources activity)
    (hnone : ∀ task ∈ definition.tasks, ∀ record, ¬ service.sources.Ended activity task.id record)
    {last : Task} (hlast : last ∈ definition.tasks) (hkind : last.kind = .finish) :
    service.canCompleteIn definition activity last.id = service.validateDefinition definition := by
  cases hvalid : service.validateDefinition definition with
  | error e => exact canCompleteIn_error_of_validateDefinition h hvalid last.id
  | ok valid =>
      rw [Service.validateDefinition_eq_path, Service.path_ok] at hvalid
      obtain ⟨terminals, plain, hterminals, hplain, hpath⟩ := hvalid
      rcases graph_cases h with ⟨_, herror, -⟩ | ⟨nodes, g, hdrawn⟩
      · cases hplain.symm.trans herror
      · obtain rfl : plain = g := Except.ok.inj (hplain.symm.trans hdrawn.authored)
        refine canCompleteIn_ok.mpr ⟨terminals, nodes, plain, hterminals, hdrawn, ?_⟩
        rw [hdrawn.prune_eq_self hnone, eq_finish_of_terminals hterminals hlast hkind]
        exact hpath

end Definitions

/-! ## Stores -/

section Stores

variable {store : Store} {revision activity : Uuid} {definition : Definition}

/-- The definition of the revision has the task. -/
def Store.Defines (store : Store) (revision : Uuid) (task : Task) : Prop :=
  ∃ definition, store.Holds revision definition ∧ task ∈ definition.tasks

theorem Store.Holds.defines (h : store.Holds revision definition) {task : Task}
    (htask : task ∈ definition.tasks) : store.Defines revision task :=
  ⟨definition, h, htask⟩

theorem Store.Holds.unique {other : Definition} (h : store.Holds revision definition)
    (hother : store.Holds revision other) : other = definition := by
  obtain ⟨row, hrow, hdag⟩ := h
  obtain ⟨row', hrow', hdag'⟩ := hother
  cases hrow.symm.trans hrow'
  exact Except.ok.inj (hdag'.symm.trans hdag)

theorem Store.Holds.mem_of_defines (h : store.Holds revision definition) {task : Task}
    (htask : store.Defines revision task) : task ∈ definition.tasks := by
  obtain ⟨other, hother, hmem⟩ := htask
  exact h.unique hother ▸ hmem

/-- What holds of all tasks of the definition holds of those the revision has. -/
theorem Store.Holds.forall_defines (h : store.Holds revision definition) {P : Task → Prop}
    (hall : ∀ task ∈ definition.tasks, P task) : ∀ task, store.Defines revision task → P task := by
  intro task htask
  exact hall task (h.mem_of_defines htask)

/-- Statuses that can be read make lookups that answer. -/
theorem Store.Holds.answered (h : store.Holds revision definition)
    (hlegible : ∀ task, store.Defines revision task → store.Legible activity task.id) :
    definition.Answered store.sources activity := by
  intro task htask
  exact recordIn_ok_iff.mpr (hlegible task (h.defines htask))

theorem Store.not_ended_of_not_settled {task : String} (h : ¬ store.Settled activity task)
    (record : Record) : ¬ store.sources.Ended activity task record := by
  intro hended
  rw [store.ended_eq] at hended
  exact h (Store.settled_iff.mpr ⟨record, hended⟩)

end Stores

/-- **Validation and the live question agree.**  For every store, revision and activity: if the live
question has an answer then so has validation; if the answer for an end is yes the workflow is
valid; and if every status recorded in the activity for a task of the definition can be read, then
where validation fails the live question fails with the same error for every task, and where
moreover none of these statuses is an outcome the live question about an end is validation. -/
theorem validation_agrees (store : Store) (limit : Nat) (revision activity : Uuid) :
    (∀ task answer, (store.service limit).canComplete revision activity task = .ok answer →
      ∃ valid, (store.service limit).validate revision = .ok valid) ∧
    (∀ last, store.Defines revision last → last.kind = .finish →
      (store.service limit).canComplete revision activity last.id = .ok true →
        (store.service limit).validate revision = .ok true) ∧
    ((∀ task, store.Defines revision task → store.Legible activity task.id) →
      (∀ e, (store.service limit).validate revision = .error e →
        ∀ task, (store.service limit).canComplete revision activity task = .error e) ∧
      ((∀ task, store.Defines revision task → ¬ store.Settled activity task.id) →
        ∀ last, store.Defines revision last → last.kind = .finish →
          (store.service limit).canComplete revision activity last.id =
            (store.service limit).validate revision)) := by
  refine ⟨?_, ?_, fun hlegible => ⟨?_, ?_⟩⟩
  · intro task answer hanswer
    obtain ⟨found, hfound, hrest⟩ := bind_ok.mp hanswer
    obtain ⟨terminals, nodes, g, hterminals, hdrawn, -⟩ := canCompleteIn_ok.mp hrest
    rw [(holds_of_revision_ok hfound).validate_eq]
    exact ⟨_, validateDefinition_of_drawn hterminals hdrawn⟩
  · rintro last ⟨definition, hholds, hlast⟩ hkind hanswer
    rw [hholds.canComplete_eq] at hanswer
    rw [hholds.validate_eq]
    exact validateDefinition_of_canCompleteIn hlast hkind hanswer
  · intro e herror task
    rcases bind_error.mp herror with hrevision | ⟨found, hfound, hrest⟩
    · exact bind_error.mpr (Or.inl hrevision)
    · have hholds := holds_of_revision_ok hfound
      rw [hholds.canComplete_eq]
      exact canCompleteIn_error_of_validateDefinition (hholds.answered hlegible) hrest task
  · rintro hunsettled last ⟨definition, hholds, hlast⟩ hkind
    rw [hholds.canComplete_eq, hholds.validate_eq]
    refine canCompleteIn_eq_validateDefinition (hholds.answered hlegible) ?_ hlast hkind
    intro task htask record
    exact store.not_ended_of_not_settled (hunsettled task (hholds.defines htask)) record

/-- The end of the fork, and what it waits for. -/
def forkEnd : Task := (Task.new "end" .finish).dependsOn (.plain "ahead")

theorem fork_validated :
    (forkStore.service 1048576).canComplete nilId nilId "astray" = .ok false ∧
    (∃ valid, (forkStore.service 1048576).validate nilId = .ok valid) ∧
    (forkStore.service 1048576).canComplete nilId nilId forkEnd.id = .ok true ∧
    (forkStore.service 1048576).validate nilId = .ok true ∧
    (tangleStore.service 1048576).validate nilId = .error (.missingTemplate "build" .script) ∧
    (∀ task, (tangleStore.service 1048576).canComplete nilId nilId task =
      .error (.missingTemplate "build" .script)) ∧
    (forkStore.service 1048576).canComplete nilId unitId forkEnd.id =
      (forkStore.service 1048576).validate nilId := by
  have hastray : (forkStore.service 1048576).canComplete nilId nilId "astray" = .ok false := rfl
  have hend : (forkStore.service 1048576).canComplete nilId nilId forkEnd.id = .ok true := rfl
  have htangle : (tangleStore.service 1048576).validate nilId =
      .error (.missingTemplate "build" .script) := rfl
  have hdefines : forkStore.Defines nilId forkEnd := by
    refine ⟨fork, ⟨_, rfl, rfl⟩, ?_⟩
    simp [fork, forkEnd]
  -- nothing is recorded with the tangle, and nothing with the fork in the other activity
  have hblank : ∀ task, tangleStore.execution? nilId task = none := fun _ => rfl
  have hlegible : ∀ task, tangleStore.Defines nilId task → tangleStore.Legible nilId task.id := by
    intro task _ row hrow
    cases (hblank task.id).symm.trans hrow
  have hother : ∀ task, forkStore.execution? unitId task = none := by
    intro task
    exact Store.execution?_record_of_ne _ _ _ _ _ fun hsame => absurd hsame (by decide)
  have hlegible' : ∀ task, forkStore.Defines nilId task → forkStore.Legible unitId task.id := by
    intro task _ row hrow
    cases (hother task.id).symm.trans hrow
  have hunsettled : ∀ task, forkStore.Defines nilId task → ¬ forkStore.Settled unitId task.id := by
    rintro task _ ⟨row, hrow, -⟩
    cases (hother task.id).symm.trans hrow
  obtain ⟨hanswered, hvalid, -⟩ := validation_agrees forkStore 1048576 nilId nilId
  obtain ⟨-, -, hfresh⟩ := validation_agrees forkStore 1048576 nilId unitId
  obtain ⟨-, -, hbroken⟩ := validation_agrees tangleStore 1048576 nilId nilId
  exact ⟨hastray, hanswered _ _ hastray, hend, hvalid forkEnd hdefines rfl hend, htangle,
    (hbroken hlegible).1 _ htangle, (hfresh hlegible').2 hunsettled forkEnd hdefines rfl⟩

end Workflow
