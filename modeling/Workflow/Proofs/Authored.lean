import Workflow.Proofs.Reachability

/-!
# The graph as drawn

Without an activity a definition has the graph that its author drew, and within an activity it has
a part of it: the same tasks, and the edges that the outcomes leave (`Drawn.authored`).  What is
recorded has no part in which graphs there are.  Where every lookup of a record has an answer, a
definition has a graph in the activity exactly when it has one without, and if it has none, the same
fault is reported (`graph_cases`).

Which edges are left is openness of their dependencies, so pruning by other outcomes leaves the same
graph as long as the same dependencies are open (`Drawn.prune_congr`).  Where nothing has ended,
everything is left (`Drawn.prune_eq_self`).
-/

namespace Workflow

/-! ## One graph for all activities -/

theorem graph_none_ok {service : Service} {definition : Definition} {g : Graph} :
    service.graph none definition = .ok g ↔ ∃ nodes,
      definition.nodes service.sources none = .ok nodes ∧
        Graph.ofNodes service.limit nodes = .ok g := by
  unfold Service.graph
  simp only [bind_ok, Option.isSome_none, Bool.false_eq_true, if_false, Except.ok.injEq,
    exists_eq_right]

/-- What nodes are resolved from does not show in the graph drawn from them. -/
theorem ofNodes_eq_of_nodes {sources sources' : Sources} {activity activity' : Option Uuid}
    {definition : Definition} {limit : Nat} {nodes nodes' : List Node}
    (h : definition.nodes sources activity = .ok nodes)
    (h' : definition.nodes sources' activity' = .ok nodes') :
    Graph.ofNodes limit nodes = Graph.ofNodes limit nodes' :=
  Graph.ofNodes_congr ((nodes_names h).symm.trans (nodes_names h'))
    ((nodes_dependencies h).trans (nodes_dependencies h').symm)

/-- The graph that is pruned is the one that is there without an activity. -/
theorem Drawn.authored {service : Service} {definition : Definition} {activity : Uuid}
    {nodes : List Node} {g : Graph}
    (h : Drawn service.sources service.limit definition activity nodes g) :
    service.graph none definition = .ok g := by
  obtain ⟨plain, hplain⟩ := nodes_unrecorded h.resolved
  exact graph_none_ok.mpr ⟨plain, hplain, (ofNodes_eq_of_nodes hplain h.resolved).trans h.built⟩

theorem Drawn.graph_eq {service : Service} {definition : Definition} {activity : Uuid}
    {nodes : List Node} {g : Graph}
    (h : Drawn service.sources service.limit definition activity nodes g) :
    service.graph (some activity) definition = .ok (g.prune nodes).1 :=
  bind_ok.mpr ⟨nodes, h.resolved, bind_ok.mpr ⟨g, h.built, rfl⟩⟩

/-! ## Questions -/

namespace Service

variable {service : Service} {activity : Option Uuid} {definition : Definition}
  {last : Terminals → String}

/-- Whether a path leads from the start to a task that is told from the terminals. -/
def path (service : Service) (activity : Option Uuid) (definition : Definition)
    (last : Terminals → String) : Except Error Bool := do
  let terminals ← definition.terminals
  let graph ← service.graph activity definition
  .ok (graph.hasPath terminals.start (last terminals))

/-- The live question is for a path to a task. -/
theorem canCompleteIn_eq_path (service : Service) (definition : Definition) (activity : Uuid)
    (task : String) : service.canCompleteIn definition activity task =
      service.path (some activity) definition fun _ => task := rfl

/-- Validation is for a path to the end. -/
theorem validateDefinition_eq_path (service : Service) (definition : Definition) :
    service.validateDefinition definition = service.path none definition Terminals.finish := rfl

theorem path_ok {answer : Bool} : service.path activity definition last = .ok answer ↔
    ∃ terminals g, definition.terminals = .ok terminals ∧
      service.graph activity definition = .ok g ∧
      g.hasPath terminals.start (last terminals) = answer := by
  simp only [path, bind_ok, Except.ok.injEq, exists_and_left]

theorem path_error {e : Error} : service.path activity definition last = .error e ↔
    definition.terminals = .error e ∨ (∃ terminals, definition.terminals = .ok terminals) ∧
      service.graph activity definition = .error e := by
  simp only [path, bind_error, reduceCtorEq, and_false, exists_false, or_false, exists_and_right]

end Service

/-! ## Faults that no record shows in -/

/-- Every lookup of what is recorded in an activity about a task of the definition has an
answer. -/
def Definition.Answered (definition : Definition) (sources : Sources) (activity : Uuid) : Prop :=
  ∀ task ∈ definition.tasks, ∃ record, task.recordIn sources (some activity) = .ok record

section Faults

variable {sources : Sources} {activity : Option Uuid} {task : Task} {record : Option Record}
  {e : Error}

theorem node_error_iff_nodeKind (h : task.recordIn sources activity = .ok record) :
    task.node sources activity = .error e ↔ task.nodeKind sources = .error e := by
  rw [Task.node, bind_error, h]
  constructor
  · rintro (hrecord | ⟨_, -, hrest⟩)
    · cases hrecord
    · rcases bind_error.mp hrest with hkind | ⟨_, -, hnone⟩
      · exact hkind
      · cases hnone
  · intro hkind
    exact Or.inr ⟨record, rfl, bind_error.mpr (Or.inl hkind)⟩

/-- Resolving fails in an activity as it fails without one. -/
theorem nodes_error_iff {definition : Definition} {activity : Uuid}
    (h : definition.Answered sources activity) :
    definition.nodes sources (some activity) = .error e ↔
      definition.nodes sources none = .error e := by
  apply mapM_error_congr
  intro task htask e
  obtain ⟨record, hrecord⟩ := h task htask
  have hplain : task.recordIn sources none = .ok none := rfl
  rw [node_error_iff_nodeKind hrecord, node_error_iff_nodeKind hplain]

/-- In an activity and without one there is the same fault, or there is the same graph to be
pruned. -/
theorem graph_cases {service : Service} {definition : Definition} {activity : Uuid}
    (h : definition.Answered service.sources activity) :
    (∃ e, service.graph none definition = .error e ∧
      service.graph (some activity) definition = .error e) ∨
    ∃ nodes g, Drawn service.sources service.limit definition activity nodes g := by
  cases hnodes : definition.nodes service.sources (some activity) with
  | error e =>
      have hplain := (nodes_error_iff h).mp hnodes
      exact Or.inl ⟨e, bind_error.mpr (Or.inl hplain), bind_error.mpr (Or.inl hnodes)⟩
  | ok nodes =>
      obtain ⟨plain, hplain⟩ := nodes_unrecorded hnodes
      cases hgraph : Graph.ofNodes service.limit nodes with
      | ok g => exact Or.inr ⟨nodes, g, hnodes, hgraph⟩
      | error e =>
          have hsame : Graph.ofNodes service.limit plain = .error e :=
            (ofNodes_eq_of_nodes hplain hnodes).trans hgraph
          refine Or.inl ⟨e, ?_, ?_⟩
          · exact bind_error.mpr (Or.inr ⟨plain, hplain, bind_error.mpr (Or.inl hsame)⟩)
          · exact bind_error.mpr (Or.inr ⟨nodes, hnodes, bind_error.mpr (Or.inl hgraph)⟩)

end Faults

/-! ## What is left -/

namespace Drawn

variable {sources sources' : Sources} {limit : Nat} {definition : Definition} {activity : Uuid}
  {nodes nodes' : List Node} {g : Graph}

/-- Where the same dependencies are open the same graph is left. -/
theorem prune_congr (h : Drawn sources limit definition activity nodes g)
    (h' : Drawn sources' limit definition activity nodes' g)
    (hopen : ∀ upstream ∈ definition.tasks, ∀ dependency,
      definition.Open limit (sources.Ended activity) upstream dependency ↔
        definition.Open limit (sources'.Ended activity) upstream dependency) :
    (g.prune nodes).1 = (g.prune nodes').1 := by
  have htasks : (g.prune nodes).1.tasks = (g.prune nodes').1.tasks :=
    (prune_tasks h.ranked nodes).trans (prune_tasks h.ranked nodes').symm
  apply Graph.eq_of_mem_iff htasks
  intro edge
  by_cases hmem : edge ∈ g.edges
  · obtain ⟨upstream, hupstream, hsource, _, -, dependency, -, hrep⟩ := h.exists_upstream hmem
    rw [h.mem_prune_iff_open hupstream hmem hsource hrep,
      h'.mem_prune_iff_open hupstream hmem hsource hrep]
    exact hopen upstream hupstream dependency
  · refine iff_of_false ?_ ?_
    · exact fun hleft => hmem ((prune_edges_sublist h.ranked nodes).subset hleft)
    · exact fun hleft => hmem ((prune_edges_sublist h.ranked nodes').subset hleft)

/-- Where no task has ended the whole graph is left. -/
theorem prune_eq_self (h : Drawn sources limit definition activity nodes g)
    (hnone : ∀ task ∈ definition.tasks, ∀ record, ¬ sources.Ended activity task.id record) :
    (g.prune nodes).1 = g := by
  apply Graph.eq_of_mem_iff (prune_tasks h.ranked nodes)
  intro edge
  constructor
  · intro hleft
    exact (prune_edges_sublist h.ranked nodes).subset hleft
  · intro hmem
    obtain ⟨upstream, hupstream, hsource, _, -, dependency, -, hrep⟩ := h.exists_upstream hmem
    exact (h.mem_prune_iff_open hupstream hmem hsource hrep).mpr
      (.unsettled (hnone upstream hupstream))

end Drawn

end Workflow
