import Workflow.Proofs.Refusal

/-!
# Errors that stop a run

A run has to stop when its definition has no start or no end; every other failure only means that a
task is not ready yet.  Both questions, whether a task can still be reached and whether the workflow
is sound, look for the start and the end before anything else.  So whatever else is wrong with the
definition, its templates or the records, a missing start or end is what is reported, and nothing
else that is reported stops a run.

One thing comes in between.  The starts are looked at first, and a definition with several of them
is refused for that, which stops no run, whether or not there is an end.  The law with this
exception is `run_stops_iff`; `second_start_hides_missing_end` is the smallest definition that shows
the exception.
-/

namespace Workflow

variable {store : Store} {limit : Nat} {definition : Definition} {e : Error}

/-! ## Start and end -/

/-- There is no start, or there is no end. -/
def Definition.LacksTerminal (definition : Definition) : Prop :=
  definition.countOf .start = 0 ∨ definition.countOf .finish = 0

theorem Definition.TerminalFault.isFatal_iff {kind : TaskKind}
    (h : definition.TerminalFault kind e) : e.isFatal = true ↔ definition.countOf kind = 0 := by
  cases h with
  | missing hnone => exact iff_of_true rfl hnone
  | several hmany => exact iff_of_false Bool.false_ne_true (by omega)

theorem exists_single_iff {kind : TaskKind} :
    (∃ name, definition.single kind = .ok name) ↔ definition.countOf kind = 1 := by
  cases hsingle : definition.single kind with
  | error e =>
      refine iff_of_false (fun ⟨_, hok⟩ => nomatch hok) ?_
      cases single_error_iff.mp hsingle with
      | missing hnone => omega
      | several hmany => omega
  | ok name =>
      refine iff_of_true ⟨name, rfl⟩ ?_
      have hclear : ∀ e, ¬ definition.TerminalFault kind e := by
        intro e hfault
        rw [single_error_iff.mpr hfault] at hsingle
        cases hsingle
      have hsome : definition.countOf kind ≠ 0 := fun hnone => hclear _ (.missing hnone)
      have hfew : ¬ 2 ≤ definition.countOf kind := fun hmany => hclear _ (.several hmany)
      omega

/-- The end is looked for only when there is one start. -/
theorem terminals_error_iff : definition.terminals = .error e ↔
    definition.TerminalFault .start e ∨
      definition.countOf .start = 1 ∧ definition.TerminalFault .finish e := by
  rw [Definition.terminals, bind_error, single_error_iff, ← exists_single_iff]
  refine or_congr_right ?_
  constructor
  · rintro ⟨start, hstart, hrest⟩
    rcases bind_error.mp hrest with hfinish | ⟨_, -, hnone⟩
    · exact ⟨⟨start, hstart⟩, single_error_iff.mp hfinish⟩
    · cases hnone
  · rintro ⟨⟨start, hstart⟩, hfinish⟩
    exact ⟨start, hstart, bind_error.mpr (Or.inl (single_error_iff.mpr hfinish))⟩

theorem terminals_fatal_iff :
    (∃ e, definition.terminals = .error e ∧ e.isFatal = true) ↔
      definition.LacksTerminal ∧ definition.countOf .start ≤ 1 := by
  constructor
  · rintro ⟨e, herror, hfatal⟩
    rcases terminals_error_iff.mp herror with hstart | ⟨hone, hfinish⟩
    · have hnone := hstart.isFatal_iff.mp hfatal
      exact ⟨Or.inl hnone, by omega⟩
    · have hnone := hfinish.isFatal_iff.mp hfatal
      exact ⟨Or.inr hnone, by omega⟩
  · rintro ⟨hlacks, hfew⟩
    by_cases hstart : definition.countOf .start = 0
    · exact ⟨_, terminals_error_iff.mpr (Or.inl (.missing hstart)), rfl⟩
    · have hone : definition.countOf .start = 1 := by omega
      have hfinish := hlacks.resolve_left hstart
      exact ⟨_, terminals_error_iff.mpr (Or.inr ⟨hone, .missing hfinish⟩), rfl⟩

/-! ## Nothing else is fatal -/

theorem Store.TemplateFault.not_fatal {task : Task} (h : store.TemplateFault task e) :
    e.isFatal = false := by
  cases h with
  | missing _ => rfl
  | unknown _ _ => rfl
  | empty _ _ _ => rfl
  | unreadable _ _ _ _ => rfl

theorem node_not_fatal {activity : Option Uuid} {task : Task}
    (h : task.node store.sources activity = .error e) : e.isFatal = false := by
  rcases bind_error.mp h with hrecord | ⟨_, -, hrest⟩
  · cases activity with
    | none => cases hrecord
    | some activity =>
        obtain ⟨row, -, -, rfl⟩ := recordIn_error_iff.mp hrecord
        rfl
  · rcases bind_error.mp hrest with hkind | ⟨_, -, hnone⟩
    · exact (nodeKind_error_iff.mp hkind).2.not_fatal
    · cases hnone

theorem ofNodes_not_fatal {nodes : List Node} (h : Graph.ofNodes limit nodes = .error e) :
    e.isFatal = false := by
  obtain ⟨stage, hstage, hfault⟩ := ((Graph.ofNodes_reports limit nodes).sound e h).exists_mem
  simp only [List.mem_cons, List.not_mem_nil, or_false] at hstage
  rcases hstage with rfl | rfl | rfl
  · obtain ⟨_, _, _, -, -, -, rfl⟩ := hfault
    rfl
  · obtain ⟨_, -, hdependency⟩ := hfault.exists_mem
    cases hdependency with
    | unknown _ => rfl
    | unusable _ _ _ => rfl
  · obtain ⟨_, -, rfl⟩ := hfault
    rfl

theorem graph_not_fatal {activity : Option Uuid}
    (h : (store.service limit).graph activity definition = .error e) : e.isFatal = false := by
  rcases bind_error.mp h with hnodes | ⟨nodes, -, hrest⟩
  · have hearliest := (mapM_error_iff fun _ _ => Iff.rfl).mp hnodes
    obtain ⟨task, -, hnode⟩ := hearliest.exists_mem
    exact node_not_fatal hnode
  · rcases bind_error.mp hrest with hgraph | ⟨_, -, hnone⟩
    · exact ofNodes_not_fatal hgraph
    · cases hnone

/-! ## Questions -/

/-- A question that looks at start and end first stops a run only for them. -/
theorem question_fatal_iff {α : Type} {rest : Terminals → Except Error α}
    (hrest : ∀ terminals e, rest terminals = .error e → e.isFatal = false) :
    (∃ e, (definition.terminals >>= rest) = .error e ∧ e.isFatal = true) ↔
      definition.LacksTerminal ∧ definition.countOf .start ≤ 1 := by
  rw [← terminals_fatal_iff]
  refine exists_congr fun e => and_congr_left fun hfatal => ?_
  rw [bind_error]
  refine or_iff_left ?_
  rintro ⟨terminals, -, herror⟩
  rw [hrest terminals e herror] at hfatal
  cases hfatal

/-- **What stops a run.**  For every revision whose definition can be read, the question whether a
task can still be reached and the question whether the workflow is sound fail fatally exactly when
there is no start or no end, and not more than one start.  What else is wrong makes no
difference. -/
theorem run_stops_iff {revision : Uuid} (h : store.Holds revision definition) (activity : Uuid)
    (task : String) :
    ((∃ e, (store.service limit).canComplete revision activity task = .error e ∧
        e.isFatal = true) ↔ definition.LacksTerminal ∧ definition.countOf .start ≤ 1) ∧
    ((∃ e, (store.service limit).validate revision = .error e ∧ e.isFatal = true) ↔
      definition.LacksTerminal ∧ definition.countOf .start ≤ 1) := by
  rw [h.canComplete_eq, h.validate_eq]
  constructor
  · apply question_fatal_iff
    intro terminals e herror
    rcases bind_error.mp herror with hgraph | ⟨_, -, hnone⟩
    · exact graph_not_fatal hgraph
    · cases hnone
  · apply question_fatal_iff
    intro terminals e herror
    rcases bind_error.mp herror with hgraph | ⟨_, -, hnone⟩
    · exact graph_not_fatal hgraph
    · cases hnone

/-- The definition with much wrong with it, and now without an end. -/
def endless : Definition := ⟨tangle.tasks.take 4⟩

/-- The definition as the only revision, and a status that cannot be read. -/
def endlessStore : Store :=
  (Store.empty.insertRevision nilId nilId 1 endless.toJson).record nilId nilId "ask" "lost" none
    ⟨0, 0, 0⟩

theorem endless_stops : endlessStore.Holds nilId endless ∧
    (∃ e, (endlessStore.service 1048576).canComplete nilId nilId "ask" = .error e ∧
      e.isFatal = true) ∧
    ∃ e, (endlessStore.service 1048576).validate nilId = .error e ∧ e.isFatal = true := by
  have hholds : endlessStore.Holds nilId endless := ⟨_, rfl, rfl⟩
  have hlacks : endless.LacksTerminal ∧ endless.countOf .start ≤ 1 := ⟨Or.inr rfl, Nat.le_refl 1⟩
  obtain ⟨hreach, hvalid⟩ := run_stops_iff hholds nilId "ask"
  exact ⟨hholds, hreach.mpr hlacks, hvalid.mpr hlacks⟩

/-- Two starts and no end. -/
def twoStarts : Definition := ⟨[Task.new "begin" .start, Task.new "again" .start]⟩

/-- The definition as the only revision. -/
def twoStartsStore : Store := Store.empty.insertRevision nilId nilId 1 twoStarts.toJson

/-- There is no end, and yet neither question stops the run. -/
theorem second_start_hides_missing_end :
    twoStartsStore.Holds nilId twoStarts ∧ twoStarts.LacksTerminal ∧
    (¬ ∃ e, (twoStartsStore.service 1048576).canComplete nilId nilId "begin" = .error e ∧
      e.isFatal = true) ∧
    ¬ ∃ e, (twoStartsStore.service 1048576).validate nilId = .error e ∧ e.isFatal = true := by
  have hreach : (twoStartsStore.service 1048576).canComplete nilId nilId "begin" =
      .error (.duplicateTerminal .start 2) := rfl
  have hvalid : (twoStartsStore.service 1048576).validate nilId =
      .error (.duplicateTerminal .start 2) := rfl
  refine ⟨⟨_, rfl, rfl⟩, Or.inr rfl, ?_, ?_⟩
  · rintro ⟨e, herror, hfatal⟩
    rw [hreach] at herror
    cases herror
    cases hfatal
  · rintro ⟨e, herror, hfatal⟩
    rw [hvalid] at herror
    cases herror
    cases hfatal

end Workflow
