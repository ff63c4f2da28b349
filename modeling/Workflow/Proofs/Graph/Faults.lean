import Mathlib.Logic.Relation
import Workflow.Graph.Build
import Workflow.Proofs.FirstFault

/-!
# Why nodes have no graph

Three things can be wrong with a list of nodes.  A name is used again (`RepeatFault`); a dependency
names no task, or has a condition with a line that cannot be used (`DependencyFault`); tasks depend
on each other in a circle (`CycleFault`).  None of this is told from what the nodes do or from what
is recorded with them.

Names are compared and edges are made exactly as long as nothing is wrong with them
(`firstRepeated?_eq_some_iff`, `edgesFor_error_iff`).
-/

namespace Workflow.Graph

open Relation

/-! ## Names -/

/-- A name that occurred earlier, the first such. -/
def RepeatFault (names : List String) (e : Error) : Prop :=
  ∃ front name back, names = front ++ name :: back ∧ front.Nodup ∧ name ∈ front ∧
    e = .duplicateTask name

theorem firstRepeated?_eq_some_iff {name : String} : ∀ {names before : List String},
    firstRepeated? before names = some name ↔ ∃ front back, names = front ++ name :: back ∧
      front.Nodup ∧ (∀ other ∈ front, other ∉ before) ∧ (name ∈ front ∨ name ∈ before)
  | [], before => by simp [firstRepeated?]
  | first :: rest, before => by
      by_cases hold : first ∈ before
      · simp only [firstRepeated?, List.contains_eq_mem, hold, decide_true, if_true,
          Option.some.injEq]
        constructor
        · rintro rfl
          exact ⟨[], rest, rfl, .nil, List.forall_mem_nil _, Or.inr hold⟩
        · rintro ⟨front, back, hnames, -, hfresh, -⟩
          cases front with
          | nil => exact (List.cons.inj hnames).1
          | cons other front =>
              obtain rfl : first = other := (List.cons.inj hnames).1
              exact absurd hold (hfresh first List.mem_cons_self)
      · simp only [firstRepeated?, List.contains_eq_mem, hold, decide_false, Bool.false_eq_true,
          if_false]
        rw [firstRepeated?_eq_some_iff]
        constructor
        · rintro ⟨front, back, rfl, hnodup, hfresh, hagain⟩
          have hnew : first ∉ front := fun hmem => hfresh first hmem List.mem_cons_self
          refine ⟨first :: front, back, rfl, List.nodup_cons.mpr ⟨hnew, hnodup⟩, ?_, ?_⟩
          · refine List.forall_mem_cons.mpr ⟨hold, fun other hmem hbefore => ?_⟩
            exact hfresh other hmem (List.mem_cons_of_mem _ hbefore)
          · rw [List.mem_cons] at hagain ⊢
            rwa [or_assoc, or_left_comm]
        · rintro ⟨front, back, hnames, hnodup, hfresh, hagain⟩
          cases front with
          | nil =>
              obtain rfl : first = name := (List.cons.inj hnames).1
              exact absurd hagain (not_or.mpr ⟨List.not_mem_nil, hold⟩)
          | cons other front =>
              obtain ⟨rfl, rfl⟩ := List.cons.inj hnames
              obtain ⟨hnew, hnodup⟩ := List.nodup_cons.mp hnodup
              refine ⟨front, back, rfl, hnodup, fun other hmem hbefore => ?_, ?_⟩
              · rcases List.mem_cons.mp hbefore with rfl | hbefore
                · exact hnew hmem
                · exact hfresh other (List.mem_cons_of_mem _ hmem) hbefore
              · rw [List.mem_cons] at hagain ⊢
                rwa [or_assoc, or_left_comm] at hagain

theorem repeatFault_iff {names : List String} {e : Error} :
    RepeatFault names e ↔
      ∃ name, firstRepeated? [] names = some name ∧ e = .duplicateTask name := by
  simp only [RepeatFault, firstRepeated?_eq_some_iff, List.not_mem_nil, not_false_eq_true,
    implies_true, or_false, true_and]
  constructor
  · rintro ⟨front, name, back, hnames, hnodup, hmem, rfl⟩
    exact ⟨name, ⟨front, back, hnames, hnodup, hmem⟩, rfl⟩
  · rintro ⟨name, ⟨front, back, hnames, hnodup, hmem⟩, rfl⟩
    exact ⟨front, name, back, hnames, hnodup, hmem, rfl⟩

/-- Names of which none is used again are distinct. -/
theorem not_repeatFault_iff {names : List String} :
    (∀ e, ¬ RepeatFault names e) ↔ names.Nodup := by
  constructor
  · intro hnone
    cases hrepeated : firstRepeated? [] names with
    | none => exact (nodup_of_firstRepeated? hrepeated).1
    | some name => exact absurd (repeatFault_iff.mpr ⟨name, hrepeated, rfl⟩) (hnone _)
  · rintro hdistinct e ⟨front, name, back, rfl, -, hagain, -⟩
    exact (List.nodup_append.mp hdistinct).2.2 name hagain name List.mem_cons_self rfl

/-! ## Dependencies -/

/-- A line that cannot be used, and why. -/
def LineFault (limit : Nat) (line : String) (fault : Selector.Fault) : Prop :=
  fault.line = line ∧ Pattern.compile limit (anchored line) = .error fault.cause

/-- What can be wrong with a dependency of a task: there is no task of the name, or the condition
has a line that cannot be used. -/
inductive DependencyFault (limit : Nat) (names : List String) : String × Dependency → Error → Prop
  | unknown {task : String} {dependency : Dependency} : dependency.on ∉ names →
      DependencyFault limit names (task, dependency) (.unknownReference task dependency.on)
  | unusable {task : String} {dependency : Dependency} {condition : SwitchCondition}
      {fault : Selector.Fault} : dependency.on ∈ names → dependency.switch = some condition →
      Earliest (LineFault limit) condition.lines fault →
      DependencyFault limit names (task, dependency) (.invalidSwitch dependency.on task fault)

/-- For a dependency it does not matter in which order the names are. -/
theorem DependencyFault.of_mem {limit : Nat} {names names' : List String}
    (hnames : ∀ name, name ∈ names ↔ name ∈ names') {owned : String × Dependency} {e : Error}
    (h : DependencyFault limit names owned e) : DependencyFault limit names' owned e := by
  cases h with
  | unknown hunknown => exact .unknown fun hmem => hunknown ((hnames _).mpr hmem)
  | unusable hmem hswitch hearliest => exact .unusable ((hnames _).mp hmem) hswitch hearliest

theorem compileLine_error_iff {limit : Nat} {line : String} {fault : Selector.Fault} :
    Selector.compileLine limit line = .error fault ↔ LineFault limit line fault := by
  unfold Selector.compileLine LineFault
  cases Pattern.compile limit (anchored line) with
  | ok expr => simp
  | error cause =>
      obtain ⟨other, cause'⟩ := fault
      simp [eq_comm]

theorem compileLines_error_iff {limit : Nat} {fault : Selector.Fault} : ∀ {lines : List String},
    Selector.compileLines limit lines = .error fault ↔ Earliest (LineFault limit) lines fault
  | [] => iff_of_false (fun herror => nomatch herror) not_earliest_nil
  | line :: rest => by
      rw [Selector.compileLines, earliest_cons_iff]
      simp only [← compileLine_error_iff]
      cases Selector.compileLine limit line with
      | error other => simp
      | ok ready =>
          rw [map_error]
          simpa using compileLines_error_iff

theorem selectorFor_error_iff {limit : Nat} {source target : String}
    {switch : Option SwitchCondition} {e : Error} :
    selectorFor limit source target switch = .error e ↔ ∃ condition fault,
      switch = some condition ∧ Earliest (LineFault limit) condition.lines fault ∧
        e = .invalidSwitch source target fault := by
  cases switch with
  | none => simp [selectorFor]
  | some condition =>
      simp only [selectorFor, Selector.compile, Option.some.injEq, exists_and_left, exists_eq_left',
        ← compileLines_error_iff]
      cases Selector.compileLines limit condition.lines with
      | error fault => simp [Except.map, eq_comm]
      | ok ready => simp [Except.map]

theorem edgeFor_error_iff {limit : Nat} {names : List String} {number : Nat} {task : String}
    {dependency : Dependency} {e : Error} :
    edgeFor limit names number task dependency = .error e ↔
      DependencyFault limit names (task, dependency) e := by
  unfold edgeFor
  by_cases hknown : dependency.on ∈ names
  · simp only [List.contains_eq_mem, hknown, decide_true, if_true, map_error, selectorFor_error_iff]
    constructor
    · rintro ⟨condition, fault, hswitch, hearliest, rfl⟩
      exact .unusable hknown hswitch hearliest
    · intro h
      cases h with
      | unknown hunknown => exact absurd hknown hunknown
      | unusable _ hswitch hearliest => exact ⟨_, _, hswitch, hearliest, rfl⟩
  · simp only [List.contains_eq_mem, hknown, decide_false, Bool.false_eq_true, if_false,
      Except.error.injEq]
    constructor
    · rintro rfl
      exact .unknown hknown
    · intro h
      cases h with
      | unknown _ => rfl
      | unusable hmem _ _ => exact absurd hmem hknown

theorem edgesFor_error_iff {limit : Nat} {names : List String} {e : Error} :
    ∀ {number : Nat} {rest : List (String × Dependency)},
      edgesFor limit names number rest = .error e ↔ Earliest (DependencyFault limit names) rest e
  | _, [] => iff_of_false (fun herror => nomatch herror) not_earliest_nil
  | number, (task, dependency) :: rest => by
      rw [edgesFor, earliest_cons_iff]
      simp only [← @edgeFor_error_iff limit names number]
      cases edgeFor limit names number task dependency with
      | error other => simp
      | ok first =>
          rw [map_error]
          simpa using edgesFor_error_iff

/-! ## Cycles -/

/-- A task depends on another one. -/
def Requires (dependencies : List (String × Dependency)) (task on : String) : Prop :=
  ∃ dependency, (task, dependency) ∈ dependencies ∧ dependency.on = on

/-- A task that depends, along the way, on itself. -/
def CycleFault (dependencies : List (String × Dependency)) (e : Error) : Prop :=
  ∃ task, TransGen (Requires dependencies) task task ∧ e = .cycle task

end Workflow.Graph
