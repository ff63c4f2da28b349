import Mathlib.Data.List.Forall2
import Workflow.Proofs.Graph.Build
import Workflow.Proofs.Result
import Workflow.Resolution

/-!
# What a node is resolved from

A definition resolves to one node a task, in order (`nodes_forall₂`), and `Resolves` is what a node
has from its task: the name, the dependencies, what is recorded, and which kind of task it is.
When resolving succeeds each lookup behind it has succeeded too, so what is recorded with the node
is what the source of records answers.  Templates are looked up for the tasks that run one, and for
no others (`nodeKind_of_usesTemplate`, `nodeKind_of_not_usesTemplate`).
-/

namespace Workflow

/-! ## Lookups -/

theorem Lookup.named_ok {α : Type} {resource : String} {answer : Lookup α} {a : α} :
    Lookup.named resource answer = .ok a ↔ answer = .ok a := by
  cases answer with
  | error fault => simp [Lookup.named, Except.mapError]
  | ok found => simp [Lookup.named, Except.mapError]

theorem Lookup.named_error {α : Type} {resource : String} {answer : Lookup α} {e : Error} :
    Lookup.named resource answer = .error e ↔
      ∃ fault, answer = .error fault ∧ e = Error.ofLookup resource fault := by
  cases answer with
  | error fault => simp [Lookup.named, Except.mapError, eq_comm]
  | ok found => simp [Lookup.named, Except.mapError]

/-! ## Nodes -/

/-- The node of a task, within an activity if there is one. -/
structure Resolves (sources : Sources) (activity : Option Uuid) (task : Task) (node : Node) :
    Prop where
  id : node.id = task.id
  dependencies : node.dependencies = task.dependencies
  record : task.recordIn sources activity = .ok node.record
  sentinel : node.kind.isSentinel = true ↔ task.kind = .start ∨ task.kind = .finish
  decision : (∃ value, node.kind = .decision value) ↔ task.kind = .decision

/-- Ordinary tasks are those that run a template. -/
theorem TaskKind.usesTemplate_iff {kind : TaskKind} : kind.usesTemplate = true ↔
    kind ≠ .start ∧ kind ≠ .finish ∧ kind ≠ .decision := by
  cases kind <;> simp [TaskKind.usesTemplate]

/-- A task that runs a template is told by the template it resolves to. -/
theorem nodeKind_of_usesTemplate {sources : Sources} {task : Task}
    (h : task.kind.usesTemplate = true) :
    task.nodeKind sources = (task.resolveTemplate sources).map (.task task.kind) := by
  obtain ⟨hstart, hfinish, hdecision⟩ := TaskKind.usesTemplate_iff.mp h
  unfold Task.nodeKind
  split
  · next hkind => exact absurd hkind hstart
  · next hkind => exact absurd hkind hfinish
  · next hkind => exact absurd hkind hdecision
  · rfl

/-- Any other task is told without looking anything up. -/
theorem nodeKind_of_not_usesTemplate {task : Task} (h : task.kind.usesTemplate = false) :
    ∃ kind, ∀ sources, task.nodeKind sources = .ok kind := by
  unfold Task.nodeKind
  cases hkind : task.kind with
  | start => exact ⟨.start, fun _ => rfl⟩
  | finish => exact ⟨.finish, fun _ => rfl⟩
  | decision => exact ⟨.decision task.decisionValue, fun _ => rfl⟩
  | script => rw [hkind] at h; cases h
  | template => rw [hkind] at h; cases h
  | custom => rw [hkind] at h; cases h

theorem nodeKind_ok {sources : Sources} {task : Task} {kind : NodeKind}
    (h : task.nodeKind sources = .ok kind) :
    (kind.isSentinel = true ↔ task.kind = .start ∨ task.kind = .finish) ∧
      ((∃ value, kind = .decision value) ↔ task.kind = .decision) := by
  unfold Task.nodeKind at h
  split at h
  · next hkind => cases h; simp [hkind, NodeKind.isSentinel]
  · next hkind => cases h; simp [hkind, NodeKind.isSentinel]
  · next hkind => cases h; simp [hkind, NodeKind.isSentinel]
  · next hstart hfinish hdecision =>
      obtain ⟨template, -, rfl⟩ := map_ok.mp h
      constructor
      · simp only [NodeKind.isSentinel, Bool.false_eq_true, false_iff, not_or]
        exact ⟨hstart, hfinish⟩
      · simp only [reduceCtorEq, exists_false, false_iff]
        exact hdecision

theorem node_resolves {sources : Sources} {activity : Option Uuid} {task : Task} {node : Node}
    (h : task.node sources activity = .ok node) : Resolves sources activity task node := by
  obtain ⟨record, hrecord, h⟩ := bind_ok.mp h
  obtain ⟨kind, hkind, h⟩ := bind_ok.mp h
  cases h
  exact ⟨rfl, rfl, hrecord, (nodeKind_ok hkind).1, (nodeKind_ok hkind).2⟩

/-- The nodes of a definition are those of its tasks, one for one. -/
theorem nodes_forall₂ {sources : Sources} {activity : Option Uuid} {definition : Definition}
    {nodes : List Node} (h : definition.nodes sources activity = .ok nodes) :
    List.Forall₂ (Resolves sources activity) definition.tasks nodes :=
  (mapM_forall₂ h).imp fun _ _ => node_resolves

theorem nodes_names {sources : Sources} {activity : Option Uuid} {definition : Definition}
    {nodes : List Node} (h : definition.nodes sources activity = .ok nodes) :
    definition.tasks.map Task.id = nodes.map Node.id :=
  map_eq_map_of_forall₂ ((nodes_forall₂ h).imp fun _ _ hnode => hnode.id.symm)

/-- All dependencies of a definition with the tasks that have them, in order. -/
def Definition.dependencies (definition : Definition) : List (String × Dependency) :=
  definition.tasks.flatMap fun task => task.dependencies.map fun dependency => (task.id, dependency)

theorem nodes_dependencies {sources : Sources} {activity : Option Uuid} {definition : Definition}
    {nodes : List Node} (h : definition.nodes sources activity = .ok nodes) :
    Graph.dependencies nodes = definition.dependencies := by
  have hall := nodes_forall₂ h
  clear h
  unfold Graph.dependencies Definition.dependencies
  generalize definition.tasks = tasks at hall ⊢
  induction hall with
  | nil => rfl
  | cons hnode _ ih => rw [List.flatMap_cons, List.flatMap_cons, hnode.id, hnode.dependencies, ih]

/-- A node is told from what is recorded about its task and from what the task does. -/
theorem node_congr {sources sources' : Sources} {activity activity' : Option Uuid} {task : Task}
    (hrecord : task.recordIn sources activity = task.recordIn sources' activity')
    (hkind : task.nodeKind sources = task.nodeKind sources') :
    task.node sources activity = task.node sources' activity' := by
  rw [Task.node, hrecord, hkind, Task.node]

/-- A task that has a node within an activity has one without. -/
theorem node_unrecorded {sources : Sources} {activity : Option Uuid} {task : Task} {node : Node}
    (h : task.node sources activity = .ok node) : ∃ plain, task.node sources none = .ok plain := by
  obtain ⟨record, -, h⟩ := bind_ok.mp h
  obtain ⟨kind, hkind, -⟩ := bind_ok.mp h
  exact ⟨_, bind_ok.mpr ⟨none, rfl, bind_ok.mpr ⟨kind, hkind, rfl⟩⟩⟩

/-- A definition that resolves within an activity resolves without one. -/
theorem nodes_unrecorded {sources : Sources} {activity : Option Uuid} {definition : Definition}
    {nodes : List Node} (h : definition.nodes sources activity = .ok nodes) :
    ∃ plain, definition.nodes sources none = .ok plain := by
  refine mapM_total fun task htask => ?_
  obtain ⟨node, -, hnode⟩ := Graph.exists_of_mem_right (mapM_forall₂ h).flip htask
  exact node_unrecorded hnode

end Workflow
