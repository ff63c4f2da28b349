import Workflow.Proofs.Reachability
import Workflow.Proofs.Selection

/-!
# Why there is no answer

The question whether a task can still be reached fails exactly when something is wrong with the
revision, or with what its definition says and the store has for it, and the error is that of the
first thing wrong (`canComplete_refused`).  `Store.stages` is the order in which things are
looked at: the start, the end, the tasks one after another, the names, the dependencies one after
another, and cycles.

Each stage is written on the rows of the store and on the definition alone.  That a computation
reports its stages (`Reports`) is proved for each part on its own, along the program's binds.
Within a task the record comes before the template, and within the list of tasks an earlier task
comes before a later one whatever is wrong with it.
-/

namespace Workflow

variable {store : Store} {limit : Nat} {revision activity : Uuid} {e : Error}

/-! ## The revision -/

/-- What can be wrong with a revision: it is not there, or its definition cannot be read. -/
inductive Store.RevisionFault (store : Store) (revision : Uuid) : Error → Prop
  | unknown : store.revision? revision = none →
      store.RevisionFault revision (.revisionNotFound revision)
  | unreadable {row : RevisionRow} {fault : Fault} : store.revision? revision = some row →
      Decoder.definition.ofJson row.dag = .error fault →
      store.RevisionFault revision (.invalidRecord (.definition revision fault))

theorem Store.definitionOf_eq_none_iff :
    store.definitionOf revision = .ok none ↔ store.revision? revision = none := by
  unfold Store.definitionOf
  cases store.revision? revision with
  | none => simp
  | some row =>
      refine iff_of_false (fun hok => ?_) (Option.some_ne_none row)
      dsimp only at hok
      split at hok
      · cases hok
      · cases hok

theorem Store.definitionOf_error_iff {fault : LookupFault} :
    store.definitionOf revision = .error fault ↔ ∃ row cause,
      store.revision? revision = some row ∧ Decoder.definition.ofJson row.dag = .error cause ∧
        fault = .cause (.invalidRecord (.definition revision cause)) := by
  unfold Store.definitionOf
  cases store.revision? revision with
  | none => simp
  | some row =>
      cases hdag : Decoder.definition.ofJson row.dag with
      | ok definition => simp [hdag]
      | error cause => simp [hdag, eq_comm]

theorem revision_error_iff :
    (store.service limit).revision revision = .error e ↔ store.RevisionFault revision e := by
  rw [Service.revision, bind_error, Lookup.named_error]
  constructor
  · rintro (⟨fault, hfault, rfl⟩ | ⟨found, hfound, hrest⟩)
    · obtain ⟨row, cause, hrow, hdag, rfl⟩ := Store.definitionOf_error_iff.mp hfault
      exact .unreadable hrow hdag
    · cases found with
      | none =>
          cases hrest
          exact .unknown (Store.definitionOf_eq_none_iff.mp (Lookup.named_ok.mp hfound))
      | some found => cases hrest
  · intro h
    cases h with
    | unknown hnone =>
        have hanswer := Store.definitionOf_eq_none_iff.mpr hnone
        exact Or.inr ⟨none, Lookup.named_ok.mpr hanswer, rfl⟩
    | unreadable hrow hdag =>
        exact Or.inl ⟨_, Store.definitionOf_error_iff.mpr ⟨_, _, hrow, hdag, rfl⟩, rfl⟩

/-! ## Start and end -/

/-- How many tasks of a kind there are. -/
def Definition.countOf (definition : Definition) (kind : TaskKind) : Nat :=
  definition.tasks.countP fun task => task.kind = kind

/-- There is not exactly one task of a kind. -/
inductive Definition.TerminalFault (definition : Definition) (kind : TaskKind) : Error → Prop
  | missing : definition.countOf kind = 0 → definition.TerminalFault kind (.missingTerminal kind)
  | several : 2 ≤ definition.countOf kind →
      definition.TerminalFault kind (.duplicateTerminal kind (definition.countOf kind))

theorem single_error_iff {definition : Definition} {kind : TaskKind} :
    definition.single kind = .error e ↔ definition.TerminalFault kind e := by
  have hcount : definition.countOf kind =
      (definition.tasks.filter fun task => task.kind = kind).length := List.countP_eq_length_filter
  unfold Definition.single
  split
  · next hnone =>
      rw [hnone, List.length_nil] at hcount
      constructor
      · intro herror
        cases herror
        exact .missing hcount
      · intro h
        cases h with
        | missing _ => rfl
        | several hmany => omega
  · next task hone =>
      rw [hone, List.length_singleton] at hcount
      refine iff_of_false (fun herror => nomatch herror) fun h => ?_
      cases h with
      | missing hnone => omega
      | several hmany => omega
  · next hnotnil hnotone =>
      have hmany : 2 ≤ definition.countOf kind := by
        have hzero : (definition.tasks.filter fun task => task.kind = kind).length ≠ 0 :=
          fun h => hnotnil (List.length_eq_zero_iff.mp h)
        have hone : (definition.tasks.filter fun task => task.kind = kind).length ≠ 1 := by
          intro h
          obtain ⟨task, htask⟩ := List.length_eq_one_iff.mp h
          exact hnotone task htask
        omega
      constructor
      · intro herror
        cases herror
        rw [← hcount]
        exact .several hmany
      · intro h
        cases h with
        | missing hnone => omega
        | several _ => rw [hcount]

theorem terminals_reports (definition : Definition) :
    Reports definition.terminals
      [definition.TerminalFault .start, definition.TerminalFault .finish] :=
  (Reports.of_stage fun _ => single_error_iff).bind fun _ _ =>
    (Reports.of_stage fun _ => single_error_iff).bind fun _ _ => .ok _

/-! ## Tasks -/

/-- What is recorded about a task in an activity, if anything, has the name of a status. -/
def Store.Legible (store : Store) (activity : Uuid) (task : String) : Prop :=
  ∀ row, store.execution? activity task = some row → ∃ status : Status, row.status = status.name

/-- What can be wrong with the template of a task: it has none, the template is not there or has
no revisions, or they cannot be read. -/
inductive Store.TemplateFault (store : Store) (task : Task) : Error → Prop
  | missing : task.templateId = none → store.TemplateFault task (.missingTemplate task.id task.kind)
  | unknown {template : String} : task.templateId = some template →
      store.template? template = none → store.TemplateFault task (.emptyTemplate template)
  | empty {template : String} {row : TemplateRow} : task.templateId = some template →
      store.template? template = some row → row.revisions = .null ∨ row.revisions = .array [] →
      store.TemplateFault task (.emptyTemplate template)
  | unreadable {template : String} {row : TemplateRow} {fault : Fault} :
      task.templateId = some template → store.template? template = some row →
      row.revisions ≠ .null →
      (Decoder.list Decoder.templateRevision).ofJson row.revisions = .error fault →
      store.TemplateFault task (.invalidRecord (.templates template fault))

/-- What can be wrong with a task: what is recorded about it has no status there is, or else, if it
runs a template, something is wrong with that. -/
inductive Store.TaskFault (store : Store) (activity : Uuid) (task : Task) : Error → Prop
  | status {row : ExecutionRow} : store.execution? activity task.id = some row →
      (∀ status : Status, row.status ≠ status.name) →
      store.TaskFault activity task (.invalidRecord (.status row.status))
  | template {e : Error} : store.Legible activity task.id → task.kind.usesTemplate = true →
      store.TemplateFault task e → store.TaskFault activity task e

theorem Status.ofName?_eq_none_iff {name : String} :
    Status.ofName? name = none ↔ ∀ status : Status, name ≠ status.name := by
  simp only [Option.eq_none_iff_forall_ne_some, ne_eq, Status.ofName?_eq_some_iff]

theorem Store.recordOf_error_iff {task : String} {fault : LookupFault} :
    store.recordOf activity task = .error fault ↔ ∃ row,
      store.execution? activity task = some row ∧ (∀ status : Status, row.status ≠ status.name) ∧
        fault = .cause (.invalidRecord (.status row.status)) := by
  unfold Store.recordOf
  cases store.execution? activity task with
  | none => simp
  | some row =>
      simp only [Option.some.injEq, exists_eq_left', ← Status.ofName?_eq_none_iff]
      cases Status.ofName? row.status with
      | none => simp [eq_comm]
      | some status => simp

theorem recordIn_error_iff {task : Task} :
    task.recordIn store.sources (some activity) = .error e ↔ ∃ row,
      store.execution? activity task.id = some row ∧
        (∀ status : Status, row.status ≠ status.name) ∧
          e = .invalidRecord (.status row.status) := by
  show Lookup.named "task status" (store.recordOf activity task.id) = .error e ↔ _
  simp only [Lookup.named_error, Store.recordOf_error_iff]
  constructor
  · rintro ⟨_, ⟨row, hrow, hnone, rfl⟩, rfl⟩
    exact ⟨row, hrow, hnone, rfl⟩
  · rintro ⟨row, hrow, hnone, rfl⟩
    exact ⟨_, ⟨row, hrow, hnone, rfl⟩, rfl⟩

theorem recordIn_ok_iff {task : Task} : (∃ record,
    task.recordIn store.sources (some activity) = .ok record) ↔
      store.Legible activity task.id := by
  cases hrecord : task.recordIn store.sources (some activity) with
  | error e =>
      obtain ⟨row, hrow, hnone, -⟩ := recordIn_error_iff.mp hrecord
      refine iff_of_false (fun ⟨_, hok⟩ => nomatch hok) fun hlegible => ?_
      obtain ⟨status, hstatus⟩ := hlegible row hrow
      exact hnone status hstatus
  | ok record =>
      refine iff_of_true ⟨record, rfl⟩ fun row hrow => ?_
      by_contra hnone
      have herror := recordIn_error_iff.mpr ⟨row, hrow, not_exists.mp hnone, rfl⟩
      rw [hrecord] at herror
      cases herror

/-- The array without items is the one that decodes to the empty list. -/
theorem Decoder.list_eq_nil_iff {α : Type} {decode : Decoder α} {value : Json} :
    (Decoder.list decode).ofJson value = .ok [] ↔ value = .array [] := by
  cases value with
  | array items =>
      cases items with
      | nil => exact iff_of_true rfl rfl
      | cons item rest =>
          refine iff_of_false (fun hok => ?_) (by simp)
          change (Decoder.items decode .value (Document.ofJson item :: Document.ofItems rest) >>=
            Decoder.endOf none) = .ok [] at hok
          obtain ⟨found, hfound, hend⟩ := bind_ok.mp hok
          cases hend
          change (decode .value (Document.ofJson item) >>= fun first =>
            (Decoder.items decode .value (Document.ofItems rest)).map (first :: ·)) =
              .ok [] at hfound
          obtain ⟨first, -, hrest⟩ := bind_ok.mp hfound
          obtain ⟨_, -, hcons⟩ := map_ok.mp hrest
          cases hcons
  | null => exact iff_of_false (fun hok => nomatch hok) (by simp)
  | bool b => exact iff_of_false (fun hok => nomatch hok) (by simp)
  | number n => exact iff_of_false (fun hok => nomatch hok) (by simp)
  | string s => exact iff_of_false (fun hok => nomatch hok) (by simp)
  | object members => exact iff_of_false (fun hok => nomatch hok) (by simp)

theorem Store.revisionsOf_eq_nil_iff {template : String} :
    store.revisionsOf template = .ok [] ↔ store.template? template = none ∨
      ∃ row, store.template? template = some row ∧
        (row.revisions = .null ∨ row.revisions = .array []) := by
  unfold Store.revisionsOf
  cases store.template? template with
  | none => simp
  | some row =>
      simp only [Option.some.injEq, exists_eq_left', reduceCtorEq, false_or,
        ← @Decoder.list_eq_nil_iff _ Decoder.templateRevision]
      split
      · next hnull => simp [hnull]
      · next hnull =>
          have hnull : row.revisions ≠ .null := hnull
          split
          · next found hfound => simp [hfound, hnull]
          · next fault hfault => simp [hfault, hnull]

theorem Store.revisionsOf_error_iff {template : String} {fault : LookupFault} :
    store.revisionsOf template = .error fault ↔ ∃ row cause,
      store.template? template = some row ∧ row.revisions ≠ .null ∧
        (Decoder.list Decoder.templateRevision).ofJson row.revisions = .error cause ∧
          fault = .cause (.invalidRecord (.templates template cause)) := by
  unfold Store.revisionsOf
  cases store.template? template with
  | none => simp
  | some row =>
      simp only [Option.some.injEq, exists_and_left, exists_eq_left']
      split
      · next hnull => simp [hnull]
      · next hnull =>
          have hnull : row.revisions ≠ .null := hnull
          split
          · next found hfound => simp [hfound]
          · next cause hcause => simp [hcause, hnull, @eq_comm _ fault]

theorem resolveTemplate_error_iff {task : Task} :
    task.resolveTemplate store.sources = .error e ↔ store.TemplateFault task e := by
  cases htemplate : task.templateId with
  | none =>
      unfold Task.resolveTemplate
      rw [htemplate]
      constructor
      · intro herror
        cases herror
        exact .missing htemplate
      · intro h
        cases h with
        | missing _ => rfl
        | unknown hsome _ => rw [htemplate] at hsome; cases hsome
        | empty hsome _ _ => rw [htemplate] at hsome; cases hsome
        | unreadable hsome _ _ _ => rw [htemplate] at hsome; cases hsome
  | some template =>
      have hsource : store.sources.templates template = store.revisionsOf template := rfl
      rw [resolveTemplate_error_iff_of_some htemplate, hsource, Lookup.named_error,
        Store.revisionsOf_eq_nil_iff]
      constructor
      · rintro (⟨fault, hfault, rfl⟩ | ⟨hnone | ⟨row, hrow, hempty⟩, rfl⟩)
        · obtain ⟨row, cause, hrow, hnull, hcause, rfl⟩ := Store.revisionsOf_error_iff.mp hfault
          exact .unreadable htemplate hrow hnull hcause
        · exact .unknown htemplate hnone
        · exact .empty htemplate hrow hempty
      · intro h
        cases h with
        | missing hnone => rw [htemplate] at hnone; cases hnone
        | unknown hsome hnone =>
            cases htemplate.symm.trans hsome
            exact Or.inr ⟨Or.inl hnone, rfl⟩
        | empty hsome hrow hempty =>
            cases htemplate.symm.trans hsome
            exact Or.inr ⟨Or.inr ⟨_, hrow, hempty⟩, rfl⟩
        | unreadable hsome hrow hnull hcause =>
            cases htemplate.symm.trans hsome
            exact Or.inl ⟨_, Store.revisionsOf_error_iff.mpr ⟨_, _, hrow, hnull, hcause, rfl⟩, rfl⟩

theorem nodeKind_error_iff {task : Task} :
    task.nodeKind store.sources = .error e ↔
      task.kind.usesTemplate = true ∧ store.TemplateFault task e := by
  rw [← resolveTemplate_error_iff]
  cases huses : task.kind.usesTemplate with
  | true =>
      rw [nodeKind_of_usesTemplate huses, map_error]
      exact (and_iff_right rfl).symm
  | false =>
      obtain ⟨kind, hkind⟩ := nodeKind_of_not_usesTemplate huses
      rw [hkind]
      refine iff_of_false (fun herror => nomatch herror) ?_
      rintro ⟨hyes, -⟩
      cases hyes

theorem node_error_iff {task : Task} :
    task.node store.sources (some activity) = .error e ↔ store.TaskFault activity task e := by
  rw [Task.node, bind_error, recordIn_error_iff]
  constructor
  · rintro (⟨row, hrow, hnone, rfl⟩ | ⟨record, hrecord, hrest⟩)
    · exact .status hrow hnone
    · rcases bind_error.mp hrest with hkind | ⟨_, -, hnode⟩
      · obtain ⟨huses, hfault⟩ := nodeKind_error_iff.mp hkind
        exact .template (recordIn_ok_iff.mp ⟨record, hrecord⟩) huses hfault
      · cases hnode
  · intro h
    cases h with
    | status hrow hnone => exact Or.inl ⟨_, hrow, hnone, rfl⟩
    | template hlegible huses hfault =>
        obtain ⟨record, hrecord⟩ := recordIn_ok_iff.mpr hlegible
        have hkind := nodeKind_error_iff.mpr ⟨huses, hfault⟩
        exact Or.inr ⟨record, hrecord, bind_error.mpr (Or.inl hkind)⟩

/-! ## The definition -/

/-- What can be wrong with a definition in an activity, in the order in which it is looked at. -/
def Store.stages (store : Store) (limit : Nat) (activity : Uuid) (definition : Definition) :
    List (Error → Prop) :=
  [definition.TerminalFault .start,
   definition.TerminalFault .finish,
   Earliest (store.TaskFault activity) definition.tasks,
   Graph.RepeatFault (definition.tasks.map Task.id),
   Earliest (Graph.DependencyFault limit (definition.tasks.map Task.id)) definition.dependencies,
   Graph.CycleFault definition.dependencies]

theorem graph_reports (store : Store) (limit : Nat) (activity : Uuid) (definition : Definition) :
    Reports ((store.service limit).graph (some activity) definition)
      [Earliest (store.TaskFault activity) definition.tasks,
       Graph.RepeatFault (definition.tasks.map Task.id),
       Earliest (Graph.DependencyFault limit (definition.tasks.map Task.id))
        definition.dependencies,
       Graph.CycleFault definition.dependencies] := by
  have hnodes : Reports (definition.nodes store.sources (some activity))
      [Earliest (store.TaskFault activity) definition.tasks] :=
    .of_stage fun _ => mapM_error_iff fun _ _ => node_error_iff
  refine hnodes.bind fun nodes hok => ?_
  rw [nodes_names hok, ← nodes_dependencies hok]
  exact (Graph.ofNodes_reports limit nodes).bind fun _ _ => .ok _

theorem canCompleteIn_reports (store : Store) (limit : Nat) (activity : Uuid)
    (definition : Definition) (task : String) :
    Reports ((store.service limit).canCompleteIn definition activity task)
      (store.stages limit activity definition) :=
  (terminals_reports definition).bind fun _ _ =>
    (graph_reports store limit activity definition).bind fun _ _ => .ok _

/-- Why a question about a revision and an activity has no answer. -/
inductive Store.Refuses (store : Store) (limit : Nat) (revision activity : Uuid) : Error → Prop
  | revision {e : Error} : store.RevisionFault revision e →
      store.Refuses limit revision activity e
  | definition {row : RevisionRow} {definition : Definition} {e : Error} :
      store.revision? revision = some row → Decoder.definition.ofJson row.dag = .ok definition →
      Earliest (fun stage => stage) (store.stages limit activity definition) e →
      store.Refuses limit revision activity e

/-- **Every failure has its cause, and every cause its failure.**  The question whether a task can
still be reached fails with the error of the first thing that is wrong, and fails whenever something
is; only which task of a cycle is named is left open. -/
theorem canComplete_refused (store : Store) (limit : Nat) (revision activity : Uuid)
    (task : String) :
    (∀ e, (store.service limit).canComplete revision activity task = .error e →
      store.Refuses limit revision activity e) ∧
    (∀ e, store.Refuses limit revision activity e →
      ∃ e', (store.service limit).canComplete revision activity task = .error e' ∧ e.Alike e') := by
  constructor
  · intro e herror
    rcases bind_error.mp herror with hrevision | ⟨found, hfound, hrest⟩
    · exact .revision (revision_error_iff.mp hrevision)
    · obtain ⟨row, hrow, definition, hdag, rfl⟩ :=
        Store.definitionOf_eq_some_iff.mp (revision_ok hfound)
      exact .definition hrow hdag ((canCompleteIn_reports ..).sound e hrest)
  · intro e h
    cases h with
    | revision hfault =>
        exact ⟨e, bind_error.mpr (Or.inl (revision_error_iff.mpr hfault)), Or.inl rfl⟩
    | @definition row definition _ hrow hdag hearliest =>
        have hfound : (store.service limit).revision revision =
            .ok ⟨row.id, row.workflowId, row.version, definition⟩ := by
          have hok := Store.definitionOf_eq_some_iff.mpr ⟨row, hrow, definition, hdag, rfl⟩
          exact bind_ok.mpr ⟨_, Lookup.named_ok.mpr hok, rfl⟩
        obtain ⟨e', herror, hsame⟩ :=
          (canCompleteIn_reports store limit activity definition task).complete e hearliest
        exact ⟨e', bind_error.mpr (Or.inr ⟨_, hfound, herror⟩), hsame⟩

/-- A definition with much wrong with it: a task no one knows, a script without a template that
waits for itself, and a name used again. -/
def tangle : Definition :=
  ⟨[Task.new "begin" .start,
    (Task.new "ask" .decision).dependsOn (.plain "nowhere"),
    (Task.new "build" .script).dependsOn (.plain "build"),
    Task.new "build" .decision,
    Task.new "end" .finish]⟩

/-- The definition as the only revision. -/
def tangleStore : Store := Store.empty.insertRevision nilId nilId 1 tangle.toJson

theorem tangle_refused :
    (tangleStore.service 1048576).canComplete nilId nilId "end" =
      .error (.missingTemplate "build" .script) ∧
    tangleStore.Refuses 1048576 nilId nilId (.missingTemplate "build" .script) ∧
    Store.empty.Refuses 1048576 nilId nilId (.revisionNotFound nilId) ∧
    ∃ e', (Store.empty.service 1048576).canComplete nilId nilId "end" = .error e' ∧
      (Error.revisionNotFound nilId).Alike e' := by
  have hscript : (tangleStore.service 1048576).canComplete nilId nilId "end" =
      .error (.missingTemplate "build" .script) := rfl
  have hgone : Store.empty.Refuses 1048576 nilId nilId (.revisionNotFound nilId) :=
    .revision (.unknown rfl)
  exact ⟨hscript, (canComplete_refused tangleStore 1048576 nilId nilId "end").1 _ hscript,
    hgone, (canComplete_refused Store.empty 1048576 nilId nilId "end").2 _ hgone⟩

end Workflow
