import Workflow.Proofs.Validation

/-!
# What an answer depends on

A store holds much that has nothing to do with one question, and some of what is recorded about the
tasks of the workflow itself counts for nothing.  Two stores that agree on the revision, on the
templates that its tasks run and on the outcomes of its tasks (`Store.Agree`) answer alike, and the
same graph is left in both (`only_outcomes_count`).

Of an outcome not everything counts (`Task.SameOutcome`).  The start and the end have none that
does, of a decision it is the value, and of an ordinary task the status.  A record that is no
outcome is as good as no record.

The templates decide whether there is a graph at all (`nodeKind_congr`), the outcomes which edges
of it are left (`Task.SameOutcome.isOpen`).
-/

namespace Workflow

/-! ## Outcomes -/

/-- Two ways in which tasks ended agree on a task: unless it is the start or the end it ended in
both or in neither, a decision with the same value and an ordinary task with the same status. -/
structure Task.SameOutcome (task : Task) (Ended Ended' : String → Record → Prop) : Prop where
  settled : task.kind ≠ .start → task.kind ≠ .finish →
    ((∃ record, Ended task.id record) ↔ ∃ record, Ended' task.id record)
  value : task.kind = .decision → ∀ record record', Ended task.id record →
    Ended' task.id record' → record.switchValue = record'.switchValue
  status : task.kind ≠ .start ∧ task.kind ≠ .finish ∧ task.kind ≠ .decision →
    ∀ record record', Ended task.id record → Ended' task.id record' →
      record.status = record'.status

namespace Task.SameOutcome

variable {task : Task} {Ended Ended' : String → Record → Prop}

theorem symm (h : task.SameOutcome Ended Ended') : task.SameOutcome Ended' Ended where
  settled := by
    intro hstart hfinish
    exact (h.settled hstart hfinish).symm
  value := by
    intro hkind record record' hrecord hrecord'
    exact (h.value hkind record' record hrecord' hrecord).symm
  status := by
    intro hkind record record' hrecord hrecord'
    exact (h.status hkind record' record hrecord' hrecord).symm

/-- What is recorded about the start and the end counts for nothing. -/
theorem of_sentinel (h : task.kind = .start ∨ task.kind = .finish) :
    task.SameOutcome Ended Ended' where
  settled := by
    intro hstart hfinish
    exact absurd h (not_or.mpr ⟨hstart, hfinish⟩)
  value := by
    intro hkind
    rcases h with hstart | hfinish
    · cases hkind.symm.trans hstart
    · cases hkind.symm.trans hfinish
  status := by
    intro hkind
    exact absurd h (not_or.mpr ⟨hkind.1, hkind.2.1⟩)

/-- A decision that ended in the one way ended in the other, with the same value. -/
theorem exists_value (h : task.SameOutcome Ended Ended') (hkind : task.kind = .decision)
    {record : Record} (hended : Ended task.id record) :
    ∃ record', Ended' task.id record' ∧ record'.switchValue = record.switchValue := by
  have hstart : task.kind ≠ .start := by simp [hkind]
  have hfinish : task.kind ≠ .finish := by simp [hkind]
  obtain ⟨record', hended'⟩ := (h.settled hstart hfinish).mp ⟨record, hended⟩
  exact ⟨record', hended', (h.value hkind record record' hended hended').symm⟩

/-- A dependency that is open stays open when the task it is on ended in another way that agrees. -/
theorem isOpen {definition : Definition} {limit : Nat} {dependency : Dependency}
    (h : task.SameOutcome Ended Ended') (hopen : definition.Open limit Ended task dependency) :
    definition.Open limit Ended' task dependency := by
  cases hopen with
  | terminal hsentinel => exact .terminal hsentinel
  | unsettled hnone =>
      by_cases hsentinel : task.kind = .start ∨ task.kind = .finish
      · exact .terminal hsentinel
      · obtain ⟨hstart, hfinish⟩ := not_or.mp hsentinel
        apply Definition.Open.unsettled
        intro record hrecord
        obtain ⟨other, hother⟩ := (h.settled hstart hfinish).mpr ⟨record, hrecord⟩
        exact hnone other hother
  | chosen hkind hended hmatches =>
      obtain ⟨record', hended', hvalue⟩ := h.exists_value hkind hended
      rw [← hvalue] at hmatches
      exact .chosen hkind hended' hmatches
  | fallback hkind hended hnone hswitch =>
      obtain ⟨record', hended', hvalue⟩ := h.exists_value hkind hended
      rw [← hvalue] at hnone
      exact .fallback hkind hended' hnone hswitch
  | @admitted record hkind hended hadmits =>
      obtain ⟨record', hended'⟩ := (h.settled hkind.1 hkind.2.1).mp ⟨record, hended⟩
      rw [h.status hkind record record' hended hended'] at hadmits
      exact .admitted hkind hended' hadmits

theorem open_iff {definition : Definition} {limit : Nat} {dependency : Dependency}
    (h : task.SameOutcome Ended Ended') :
    definition.Open limit Ended task dependency ↔ definition.Open limit Ended' task dependency :=
  ⟨h.isOpen, h.symm.isOpen⟩

end Task.SameOutcome

theorem Store.Ended.sameOutcome {store store' : Store} {activity : Uuid} {task : Task}
    {record record' : Record} (h : store.Ended activity task.id record)
    (h' : store'.Ended activity task.id record')
    (hvalue : task.kind = .decision → record.switchValue = record'.switchValue)
    (hstatus : task.kind ≠ .start ∧ task.kind ≠ .finish ∧ task.kind ≠ .decision →
      record.status = record'.status) :
    task.SameOutcome (store.Ended activity) (store'.Ended activity) where
  settled := by
    intro _ _
    exact iff_of_true ⟨record, h⟩ ⟨record', h'⟩
  value := by
    intro hkind other other' hother hother'
    rw [h.unique hother, h'.unique hother', hvalue hkind]
  status := by
    intro hkind other other' hother hother'
    rw [h.unique hother, h'.unique hother', hstatus hkind]

/-! ## Graphs -/

section Graphs

variable {sources sources' : Sources}

/-- What a task does is told from its template, if it runs one. -/
theorem nodeKind_congr {task : Task}
    (h : task.kind.usesTemplate = true → ∀ template, task.templateId = some template →
      sources.templates template = sources'.templates template) :
    task.nodeKind sources = task.nodeKind sources' := by
  cases huses : task.kind.usesTemplate with
  | true =>
      have hresolve : task.resolveTemplate sources = task.resolveTemplate sources' := by
        unfold Task.resolveTemplate
        cases htemplate : task.templateId with
        | none => rfl
        | some template => simp only [h huses template htemplate]
      rw [nodeKind_of_usesTemplate huses, nodeKind_of_usesTemplate huses, hresolve]
  | false =>
      obtain ⟨kind, hkind⟩ := nodeKind_of_not_usesTemplate huses
      rw [hkind, hkind]

variable {limit : Nat} {definition : Definition} {activity : Uuid}

/-- Sources that agree on what the tasks do draw the same graph. -/
theorem graph_none_congr
    (hkind : ∀ task ∈ definition.tasks, task.nodeKind sources = task.nodeKind sources') :
    Service.graph ⟨sources, limit⟩ none definition =
      Service.graph ⟨sources', limit⟩ none definition := by
  have hnodes : definition.nodes sources none = definition.nodes sources' none :=
    mapM_congr fun task htask => node_congr rfl (hkind task htask)
  unfold Service.graph
  rw [hnodes]

/-- Sources that agree on what the tasks do and how they ended leave the same graph. -/
theorem graph_congr
    (hkind : ∀ task ∈ definition.tasks, task.nodeKind sources = task.nodeKind sources')
    (hanswered : definition.Answered sources activity)
    (hanswered' : definition.Answered sources' activity)
    (hsame : ∀ task ∈ definition.tasks,
      task.SameOutcome (sources.Ended activity) (sources'.Ended activity)) :
    Service.graph ⟨sources, limit⟩ (some activity) definition =
      Service.graph ⟨sources', limit⟩ (some activity) definition := by
  have hplain : Service.graph ⟨sources, limit⟩ none definition =
      Service.graph ⟨sources', limit⟩ none definition := graph_none_congr hkind
  rcases @graph_cases ⟨sources, limit⟩ _ _ hanswered with
    ⟨e, hnone, herror⟩ | ⟨nodes, g, hdrawn⟩
  · rcases @graph_cases ⟨sources', limit⟩ _ _ hanswered' with
      ⟨e', hnone', herror'⟩ | ⟨nodes', g', hdrawn'⟩
    · rw [hnone, hnone'] at hplain
      rw [herror, herror', hplain]
    · cases hnone.symm.trans (hplain.trans hdrawn'.authored)
  · rcases @graph_cases ⟨sources', limit⟩ _ _ hanswered' with
      ⟨e', hnone', herror'⟩ | ⟨nodes', g', hdrawn'⟩
    · cases hdrawn.authored.symm.trans (hplain.trans hnone')
    · obtain rfl : g = g' := Except.ok.inj
        (hdrawn.authored.symm.trans (hplain.trans hdrawn'.authored))
      rw [hdrawn.graph_eq, hdrawn'.graph_eq]
      apply congrArg Except.ok
      apply hdrawn.prune_congr hdrawn'
      intro task htask dependency
      exact (hsame task htask).open_iff

end Graphs

/-! ## Stores -/

/-- Two stores agree on what there is to know about an activity under a revision: the row of the
revision, the templates that its tasks run and the outcomes of its tasks.  And no status that is
recorded about its tasks is unknown. -/
structure Store.Agree (revision activity : Uuid) (store store' : Store) : Prop where
  row : store.revision? revision = store'.revision? revision
  templates : ∀ task, store.Defines revision task → task.kind.usesTemplate = true →
    ∀ template, task.templateId = some template →
      store.template? template = store'.template? template
  legible : ∀ task, store.Defines revision task →
    store.Legible activity task.id ∧ store'.Legible activity task.id
  outcomes : ∀ task, store.Defines revision task →
    task.SameOutcome (store.Ended activity) (store'.Ended activity)

namespace Store.Agree

variable {revision activity : Uuid} {store store' : Store}

theorem service_revision (h : store.Agree revision activity store') (limit : Nat) :
    (store.service limit).revision revision = (store'.service limit).revision revision := by
  have hsame : store.definitionOf revision = store'.definitionOf revision := by
    unfold Store.definitionOf
    rw [h.row]
  show (store.definitionOf revision).named "workflow revision" >>= _ = _
  rw [hsame]
  rfl

theorem holds (h : Store.Agree revision activity store store') {definition : Definition}
    (hholds : store.Holds revision definition) : store'.Holds revision definition := by
  obtain ⟨row, hrow, hdag⟩ := hholds
  exact ⟨row, h.row ▸ hrow, hdag⟩

/-- The same graph is left in both. -/
theorem graph_eq (h : Store.Agree revision activity store store') {definition : Definition}
    (hholds : store.Holds revision definition) (limit : Nat) :
    (store.service limit).graph (some activity) definition =
      (store'.service limit).graph (some activity) definition := by
  refine graph_congr ?_ ?_ ?_ ?_
  · intro task htask
    apply nodeKind_congr
    intro huses template htemplate
    have hrow := h.templates task (hholds.defines htask) huses template htemplate
    show store.revisionsOf template = store'.revisionsOf template
    unfold Store.revisionsOf
    rw [hrow]
  · apply hholds.answered
    intro task htask
    exact (h.legible task htask).1
  · apply (h.holds hholds).answered
    intro task htask
    exact (h.legible task (hholds.defines ((h.holds hholds).mem_of_defines htask))).2
  · intro task htask
    rw [store.ended_eq, store'.ended_eq]
    exact h.outcomes task (hholds.defines htask)

end Store.Agree

/-- **Only outcomes count.**  Where two stores have the same revision, the same templates for its
tasks and the same outcomes, as far as outcomes are looked at, and every status recorded in the
activity can be read, the live question has the same result for every task and the same graph is
left, or the same error is reported. -/
theorem only_outcomes_count {revision activity : Uuid} {store store' : Store}
    (h : Store.Agree revision activity store store') (limit : Nat) :
    (∀ task, (store.service limit).canComplete revision activity task =
      (store'.service limit).canComplete revision activity task) ∧
    (store.service limit).prunedGraph revision (some activity) =
      (store'.service limit).prunedGraph revision (some activity) := by
  have hrevision := h.service_revision limit
  cases hfound : (store.service limit).revision revision with
  | error e =>
      rw [hfound] at hrevision
      unfold Service.canComplete Service.prunedGraph
      rw [hfound, ← hrevision]
      exact ⟨fun _ => rfl, rfl⟩
  | ok found =>
      have hholds := holds_of_revision_ok hfound
      have hgraph := h.graph_eq hholds limit
      constructor
      · intro task
        rw [hholds.canComplete_eq, (h.holds hholds).canComplete_eq]
        unfold Service.canCompleteIn
        rw [hgraph]
      · rw [hholds.prunedGraph_eq, (h.holds hholds).prunedGraph_eq, hgraph]

/-- A script that is built before a decision is asked for, which leads to the end when it is red. -/
def pipeline : Definition :=
  ⟨[Task.new "begin" .start,
    ((Task.new "build" .script).withTemplate "cargo" none).dependsOn (.plain "begin"),
    (Task.new "ask" .decision).dependsOn ⟨"build", none, some .success⟩,
    (Task.new "end" .finish).dependsOn ⟨"ask", some (.ofLines ["red"]), none⟩]⟩

/-- The definition as a revision, and the template of its script. -/
def pipelineStore : Store :=
  (Store.empty.insertRevision nilId nilId 1 pipeline.toJson).putTemplate
    ⟨"cargo", "Cargo", .array [TemplateRevision.toJson ⟨1, [], []⟩]⟩

/-- The script is built and the decision is red. -/
def plainRun : Store :=
  pipelineStore
    |>.record nilId nilId "build" "completed" none ⟨0, 0, 0⟩
    |>.record nilId nilId "ask" "completed" (some "red") ⟨0, 0, 0⟩

/-- The script is built and the decision is red, and much else is different. -/
def busyRun : Store :=
  pipelineStore
    |>.insertRevision unitId nilId 2 .null
    |>.createActivity nilId unitId ⟨0, 0, 0⟩
    |>.putTemplate ⟨"other", "Other", .null⟩
    |>.record nilId nilId "begin" "failure" (some "green") ⟨0, 0, 0⟩
    |>.record nilId nilId "build" "completed" (some "green") ⟨1, 0, 0⟩
    |>.record nilId nilId "ask" "failure" (some "red") ⟨2, 0, 0⟩
    |>.record nilId nilId "end" "waiting" none ⟨2, 0, 0⟩
    |>.record nilId unitId "ask" "lost" none ⟨0, 0, 0⟩

theorem plainRun_holds : plainRun.Holds nilId pipeline := ⟨_, rfl, rfl⟩

theorem plainRun_agrees : Store.Agree nilId nilId plainRun busyRun where
  row := rfl
  templates := by
    refine plainRun_holds.forall_defines ?_
    simp only [pipeline, List.forall_mem_cons]
    refine ⟨?_, ?_, ?_, ?_, List.forall_mem_nil _⟩
    · intro huses
      cases huses
    · intro _ template htemplate
      cases htemplate
      rfl
    · intro huses
      cases huses
    · intro huses
      cases huses
  legible := by
    refine plainRun_holds.forall_defines ?_
    simp only [pipeline, List.forall_mem_cons]
    refine ⟨⟨?_, ?_⟩, ⟨?_, ?_⟩, ⟨?_, ?_⟩, ⟨?_, ?_⟩, List.forall_mem_nil _⟩
    all_goals
      intro row hrow
      cases hrow
    · exact ⟨.failed, rfl⟩
    · exact ⟨.completed, rfl⟩
    · exact ⟨.completed, rfl⟩
    · exact ⟨.completed, rfl⟩
    · exact ⟨.failed, rfl⟩
    · exact ⟨.waiting, rfl⟩
  outcomes := by
    have hbuild : plainRun.Ended nilId "build" ⟨.completed, none⟩ :=
      ⟨⟨_, rfl, rfl, rfl⟩, Or.inl rfl⟩
    have hbuild' : busyRun.Ended nilId "build" ⟨.completed, some "green"⟩ :=
      ⟨⟨_, rfl, rfl, rfl⟩, Or.inl rfl⟩
    have hask : plainRun.Ended nilId "ask" ⟨.completed, some "red"⟩ :=
      ⟨⟨_, rfl, rfl, rfl⟩, Or.inl rfl⟩
    have hask' : busyRun.Ended nilId "ask" ⟨.failed, some "red"⟩ :=
      ⟨⟨_, rfl, rfl, rfl⟩, Or.inr rfl⟩
    refine plainRun_holds.forall_defines ?_
    simp only [pipeline, List.forall_mem_cons]
    refine ⟨?_, ?_, ?_, ?_, List.forall_mem_nil _⟩
    · exact .of_sentinel (Or.inl rfl)
    · exact hbuild.sameOutcome hbuild' (fun hkind => nomatch hkind) fun _ =>
        Eq.refl Status.completed
    · exact hask.sameOutcome hask' (fun _ => Eq.refl (some "red")) fun hkind =>
        absurd rfl hkind.2.2
    · exact .of_sentinel (Or.inr rfl)

theorem plainRun_answers_alike : Store.Agree nilId nilId plainRun busyRun ∧
    (plainRun.service 1048576).canComplete nilId nilId "end" = .ok true ∧
    (∀ task, (plainRun.service 1048576).canComplete nilId nilId task =
      (busyRun.service 1048576).canComplete nilId nilId task) ∧
    (plainRun.service 1048576).prunedGraph nilId (some nilId) =
      (busyRun.service 1048576).prunedGraph nilId (some nilId) := by
  obtain ⟨hanswers, hgraphs⟩ := only_outcomes_count plainRun_agrees 1048576
  exact ⟨plainRun_agrees, rfl, hanswers, hgraphs⟩

end Workflow
