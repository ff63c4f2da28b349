import Mathlib.Data.List.Perm.Basic
import Workflow.Proofs.Validation

/-!
# The order of tasks and dependencies

A definition lists its tasks in some order, and each task its dependencies.  The order numbers the
edges, and with them it decides over the walk, over the search for cycles and over which removal
comes first.  None of it reaches the answers (`rearranged_answers_alike`): a definition with its
tasks in another order, and the dependencies of each in another order or written down more than once
(`Definition.Rearranged`), gives the same answers, and between the same tasks edges are left.

Repeated dependencies become parallel edges, so the graphs are not the same up to numbers either.
They have the same tasks and lead from the same tasks to the same tasks (`Graph.Alike`), and this
is all that a search looks at.  That one of them is accepted when the other is comes from what can
be wrong with nodes (`Graph.exists_ofNodes_iff`), and that the same edges are left from openness,
which does not mention the order (`Definition.Rearranged.isOpen`).
-/

namespace Workflow

/-! ## Rearranged definitions -/

/-- The same task, with its dependencies in another order or some of them more than once. -/
structure Task.Rearranged (task task' : Task) : Prop where
  same : { task with dependencies := task'.dependencies } = task'
  dependencies : ∀ dependency, dependency ∈ task.dependencies ↔ dependency ∈ task'.dependencies

/-- The same tasks in another order, each of them rearranged. -/
def Definition.Rearranged (definition definition' : Definition) : Prop :=
  ∃ tasks, tasks.Perm definition.tasks ∧ List.Forall₂ Task.Rearranged tasks definition'.tasks

namespace Task.Rearranged

variable {task task' : Task}

theorem symm (h : task.Rearranged task') : task'.Rearranged task where
  same := by rw [← h.same]
  dependencies := by
    intro dependency
    exact (h.dependencies dependency).symm

theorem id_eq (h : task.Rearranged task') : task'.id = task.id := by rw [← h.same]

theorem kind_eq (h : task.Rearranged task') : task'.kind = task.kind := by rw [← h.same]

/-- A node of a task, with other dependencies, is one of the task rearranged. -/
theorem exists_node {sources : Sources} {activity : Option Uuid} (h : task.Rearranged task')
    {node : Node} (hnode : task.node sources activity = .ok node) :
    ∃ node', task'.node sources activity = .ok node' := by
  obtain ⟨record, hrecord, hrest⟩ := bind_ok.mp hnode
  obtain ⟨kind, hkind, -⟩ := bind_ok.mp hrest
  rw [← h.same]
  exact ⟨_, bind_ok.mpr ⟨record, hrecord, bind_ok.mpr ⟨kind, hkind, rfl⟩⟩⟩

end Task.Rearranged

namespace Definition.Rearranged

variable {definition definition' : Definition}

theorem symm (h : definition.Rearranged definition') : definition'.Rearranged definition := by
  obtain ⟨tasks, hperm, hall⟩ := h
  obtain ⟨tasks', hall', hperm'⟩ := List.perm_comp_forall₂ hperm.symm hall
  exact ⟨tasks', hperm', hall'.flip.imp fun _ _ hsame => hsame.symm⟩

theorem exists_task (h : definition.Rearranged definition') {task : Task}
    (htask : task ∈ definition.tasks) : ∃ task' ∈ definition'.tasks, task.Rearranged task' := by
  obtain ⟨tasks, hperm, hall⟩ := h
  exact Graph.exists_of_mem_right hall.flip (hperm.mem_iff.mpr htask)

theorem names (h : definition.Rearranged definition') :
    (definition.tasks.map Task.id).Perm (definition'.tasks.map Task.id) := by
  obtain ⟨tasks, hperm, hall⟩ := h
  have hsame : tasks.map Task.id = definition'.tasks.map Task.id :=
    map_eq_map_of_forall₂ (hall.imp fun _ _ htask => htask.id_eq.symm)
  rw [← hsame]
  exact (hperm.map Task.id).symm

/-- The same dependencies belong to the same names. -/
theorem mem_dependencies (h : definition.Rearranged definition') {owned : String × Dependency}
    (howned : owned ∈ definition.dependencies) : owned ∈ definition'.dependencies := by
  obtain ⟨task, htask, hmem⟩ := List.mem_flatMap.mp howned
  obtain ⟨dependency, hdep, rfl⟩ := List.mem_map.mp hmem
  obtain ⟨task', htask', hsame⟩ := h.exists_task htask
  rw [← hsame.id_eq]
  exact List.mem_flatMap.mpr
    ⟨task', htask', List.mem_map_of_mem ((hsame.dependencies dependency).mp hdep)⟩

/-! ### Beginning and end -/

theorem single (h : definition.Rearranged definition') {kind : TaskKind} {name : String}
    (hone : definition.single kind = .ok name) : definition'.single kind = .ok name := by
  obtain ⟨task, hfound, rfl⟩ := single_ok hone
  obtain ⟨tasks, hperm, hall⟩ := h
  have hlisted : tasks.filter (fun task => task.kind = kind) = [task] := by
    rw [← List.perm_singleton, ← hfound]
    exact hperm.filter _
  have hkinds : List.Forall₂ Task.Rearranged (tasks.filter fun task => task.kind = kind)
      (definition'.tasks.filter fun task => task.kind = kind) :=
    List.rel_filter (fun _ _ hsame => by simp only [hsame.kind_eq]) hall
  rw [hlisted] at hkinds
  obtain ⟨task', _, hsame, hnil, hfound'⟩ := List.forall₂_cons_left_iff.mp hkinds
  rw [List.forall₂_nil_left_iff.mp hnil] at hfound'
  rw [Definition.single, hfound']
  exact congrArg Except.ok hsame.id_eq

theorem terminals (h : definition.Rearranged definition') {terminals : Terminals}
    (hok : definition.terminals = .ok terminals) : definition'.terminals = .ok terminals := by
  obtain ⟨hstart, hfinish⟩ := terminals_ok hok
  exact bind_ok.mpr ⟨_, h.single hstart, bind_ok.mpr ⟨_, h.single hfinish, rfl⟩⟩

/-! ### Graphs -/

section Graphs

variable {sources : Sources} {limit : Nat} {activity : Option Uuid}

theorem exists_nodes (h : definition.Rearranged definition') {nodes : List Node}
    (hnodes : definition.nodes sources activity = .ok nodes) :
    ∃ nodes', definition'.nodes sources activity = .ok nodes' := by
  apply mapM_total
  intro task' htask'
  obtain ⟨task, htask, hsame⟩ := h.symm.exists_task htask'
  obtain ⟨node, -, hnode⟩ := Graph.exists_of_mem_right (mapM_forall₂ hnodes).flip htask
  exact hsame.symm.exists_node hnode

/-- The graph as drawn leads from the same tasks to the same tasks. -/
theorem exists_built (h : definition.Rearranged definition') {nodes : List Node} {g : Graph}
    (hnodes : definition.nodes sources activity = .ok nodes)
    (hbuilt : Graph.ofNodes limit nodes = .ok g) :
    ∃ nodes' g', definition'.nodes sources activity = .ok nodes' ∧
      Graph.ofNodes limit nodes' = .ok g' ∧ g.Alike g' := by
  obtain ⟨nodes', hnodes'⟩ := h.exists_nodes hnodes
  have hnames : (nodes.map Node.id).Perm (nodes'.map Node.id) := by
    rw [← nodes_names hnodes, ← nodes_names hnodes']
    exact h.names
  have hdeps : ∀ owned, owned ∈ Graph.dependencies nodes ↔ owned ∈ Graph.dependencies nodes' := by
    intro owned
    rw [nodes_dependencies hnodes, nodes_dependencies hnodes']
    exact ⟨h.mem_dependencies, h.symm.mem_dependencies⟩
  obtain ⟨g', hbuilt'⟩ := Graph.exists_ofNodes_of_mem hnames hdeps ⟨g, hbuilt⟩
  exact ⟨nodes', g', hnodes', hbuilt', Graph.alike_of_mem hnames hdeps (Graph.ofNodes_ok hbuilt).1
    (Graph.ofNodes_ok hbuilt').1⟩

/-- A dependency that is open is open on the task rearranged. -/
theorem isOpen (h : definition.Rearranged definition') {Ended : String → Record → Prop}
    {upstream upstream' : Task} (hsame : upstream.Rearranged upstream') {dependency : Dependency}
    (hopen : definition.Open limit Ended upstream dependency) :
    definition'.Open limit Ended upstream' dependency := by
  cases hopen with
  | terminal hsentinel =>
      refine .terminal ?_
      rwa [hsame.kind_eq]
  | unsettled hnone =>
      refine .unsettled ?_
      rwa [hsame.id_eq]
  | chosen hkind hended hmatches =>
      refine .chosen (hsame.kind_eq.trans hkind) ?_ hmatches
      rwa [hsame.id_eq]
  | @fallback record hkind hended hnone hswitch =>
      rw [← hsame.id_eq] at hended
      refine .fallback (hsame.kind_eq.trans hkind) hended ?_ hswitch
      intro task' htask' other hother hon
      obtain ⟨task, htask, hagain⟩ := h.symm.exists_task htask'
      refine hnone task htask other ((hagain.dependencies other).mp hother) ?_
      rw [hon, hsame.id_eq]
  | admitted hkind hended hadmits =>
      rw [← hsame.kind_eq] at hkind
      rw [← hsame.id_eq] at hended
      exact .admitted hkind hended hadmits

/-- An open dependency of one task on another is one of the tasks rearranged. -/
theorem exists_openStep (h : definition.Rearranged definition') {Ended : String → Record → Prop}
    {upstream task : Task} (hstep : definition.OpenStep limit Ended upstream task) :
    ∃ upstream' task', upstream'.id = upstream.id ∧ task'.id = task.id ∧
      definition'.OpenStep limit Ended upstream' task' := by
  obtain ⟨hupstream, htask, dependency, hdep, hon, hopen⟩ := hstep
  obtain ⟨upstream', hupstream', hsame⟩ := h.exists_task hupstream
  obtain ⟨task', htask', hsame'⟩ := h.exists_task htask
  exact ⟨upstream', task', hsame.id_eq, hsame'.id_eq, hupstream', htask', dependency,
    (hsame'.dependencies dependency).mp hdep, hon.trans hsame.id_eq.symm, h.isOpen hsame hopen⟩

/-- What is left of a graph leads from the same tasks to the same tasks. -/
theorem leads_prune {activity : Uuid} (h : definition.Rearranged definition')
    {nodes nodes' : List Node} {g g' : Graph}
    (hdrawn : Drawn sources limit definition activity nodes g)
    (hdrawn' : Drawn sources limit definition' activity nodes' g') {a b : String}
    (hleads : (g.prune nodes).1.Leads a b) : (g'.prune nodes').1.Leads a b := by
  obtain ⟨upstream, task, rfl, rfl, hstep⟩ := hdrawn.leads_prune_iff.mp hleads
  obtain ⟨upstream', task', hupstream, htask, hstep'⟩ := h.exists_openStep hstep
  exact hdrawn'.leads_prune_iff.mpr ⟨upstream', task', hupstream, htask, hstep'⟩

/-- Where one of the definitions has a graph the other has one that leads from the same tasks to the
same tasks. -/
theorem exists_graph (h : definition.Rearranged definition') {g : Graph}
    (hgraph : Service.graph ⟨sources, limit⟩ activity definition = .ok g) :
    ∃ g', Service.graph ⟨sources, limit⟩ activity definition' = .ok g' ∧ g.Alike g' := by
  cases activity with
  | none =>
      obtain ⟨nodes, hnodes, hbuilt⟩ := graph_none_ok.mp hgraph
      obtain ⟨nodes', g', hnodes', hbuilt', halike⟩ := h.exists_built hnodes hbuilt
      exact ⟨g', graph_none_ok.mpr ⟨nodes', hnodes', hbuilt'⟩, halike⟩
  | some activity =>
      obtain ⟨nodes, plain, hdrawn, rfl⟩ := graph_ok hgraph
      obtain ⟨nodes', plain', hnodes', hbuilt', halike⟩ :=
        h.exists_built hdrawn.resolved hdrawn.built
      have hdrawn' : Drawn sources limit definition' activity nodes' plain' := ⟨hnodes', hbuilt'⟩
      refine ⟨_, hdrawn'.graph_eq, ?_, ?_⟩
      · intro task
        rw [prune_tasks hdrawn.ranked nodes, prune_tasks hdrawn'.ranked nodes']
        exact halike.tasks task
      · intro a b
        exact ⟨h.leads_prune hdrawn hdrawn', h.symm.leads_prune hdrawn' hdrawn⟩

end Graphs

/-! ### Answers -/

/-- A path from the start is found in the one definition when it is found in the other. -/
theorem path_ok (h : definition.Rearranged definition') {service : Service}
    {activity : Option Uuid} {last : Terminals → String} {answer : Bool}
    (hanswer : service.path activity definition last = .ok answer) :
    service.path activity definition' last = .ok answer := by
  obtain ⟨terminals, g, hterminals, hgraph, hpath⟩ := Service.path_ok.mp hanswer
  obtain ⟨g', hgraph', halike⟩ := h.exists_graph hgraph
  rw [halike.hasPath_eq] at hpath
  exact Service.path_ok.mpr ⟨terminals, g', h.terminals hterminals, hgraph', hpath⟩

theorem path_ok_iff (h : definition.Rearranged definition') (service : Service)
    (activity : Option Uuid) (last : Terminals → String) (answer : Bool) :
    service.path activity definition last = .ok answer ↔
      service.path activity definition' last = .ok answer :=
  ⟨h.path_ok, h.symm.path_ok⟩

end Definition.Rearranged

/-- **The order of a definition does not reach the answers.**  Where two revisions of a store have
the same tasks up to their order, the order of their dependencies and repetitions among these, both
questions have the same answers, and a graph that can be drawn of one can be drawn of the other and
has edges left between the same tasks. -/
theorem rearranged_answers_alike {store : Store} {revision revision' : Uuid}
    {definition definition' : Definition} (h : store.Holds revision definition)
    (h' : store.Holds revision' definition') (hsame : definition.Rearranged definition')
    (limit : Nat) :
    (∀ activity task answer,
      (store.service limit).canComplete revision activity task = .ok answer ↔
        (store.service limit).canComplete revision' activity task = .ok answer) ∧
    (∀ answer, (store.service limit).validate revision = .ok answer ↔
      (store.service limit).validate revision' = .ok answer) ∧
    ∀ activity g, (store.service limit).prunedGraph revision activity = .ok g →
      ∃ g', (store.service limit).prunedGraph revision' activity = .ok g' ∧
        ∀ pair, pair ∈ g.surviving ↔ pair ∈ g'.surviving := by
  refine ⟨?_, ?_, ?_⟩
  · intro activity task answer
    rw [h.canComplete_eq, h'.canComplete_eq]
    exact hsame.path_ok_iff _ (some activity) (fun _ => task) answer
  · intro answer
    rw [h.validate_eq, h'.validate_eq]
    exact hsame.path_ok_iff _ none Terminals.finish answer
  · intro activity g hgraph
    rw [h.prunedGraph_eq] at hgraph
    rw [h'.prunedGraph_eq]
    obtain ⟨g', hgraph', halike⟩ := hsame.exists_graph hgraph
    refine ⟨g', hgraph', ?_⟩
    intro pair
    rw [Graph.mem_surviving, Graph.mem_surviving]
    exact halike.leads pair.1 pair.2

/-- A decision that leads to the end by way of another one when it says red, and otherwise straight
away. -/
def detour : Definition :=
  ⟨[Task.new "begin" .start,
    (Task.new "ask" .decision).dependsOn (.plain "begin"),
    (Task.new "ahead" .decision).dependsOn ⟨"ask", some (.ofLines ["red"]), none⟩,
    ((Task.new "end" .finish).dependsOn (.plain "ahead")).dependsOn (.plain "ask")]⟩

/-- The same from its end, and some of it twice. -/
def turned : Definition :=
  ⟨[(((Task.new "end" .finish).dependsOn (.plain "ask")).dependsOn
      (.plain "ahead")).dependsOn (.plain "ask"),
    (Task.new "ahead" .decision).dependsOn ⟨"ask", some (.ofLines ["red"]), none⟩,
    ((Task.new "ask" .decision).dependsOn (.plain "begin")).dependsOn (.plain "begin"),
    Task.new "begin" .start]⟩

/-- Both of them as revisions, and the decision has said red. -/
def detourStore : Store :=
  ((Store.empty.insertRevision nilId nilId 1 detour.toJson).insertRevision unitId nilId 2
    turned.toJson).record nilId nilId "ask" "completed" (some "red") ⟨0, 0, 0⟩

theorem detour_turned : detour.Rearranged turned := by
  refine ⟨detour.tasks.reverse, List.reverse_perm _, ?_⟩
  show List.Forall₂ Task.Rearranged [_, _, _, _] [_, _, _, _]
  refine .cons ⟨rfl, ?_⟩ (.cons ⟨rfl, ?_⟩ (.cons ⟨rfl, ?_⟩ (.cons ⟨rfl, ?_⟩ .nil)))
  all_goals
    intro dependency
    simp [Task.new, Task.dependsOn]
  exact Or.inr

theorem detour_answers_alike :
    detourStore.Holds nilId detour ∧ detourStore.Holds unitId turned ∧ detour.Rearranged turned ∧
    (detourStore.service 1048576).canComplete unitId nilId "end" = .ok true ∧
    (detourStore.service 1048576).validate unitId = .ok true ∧
    ∃ g g', (detourStore.service 1048576).prunedGraph nilId (some nilId) = .ok g ∧
      (detourStore.service 1048576).prunedGraph unitId (some nilId) = .ok g' ∧
      g.edges.length = 3 ∧ g'.edges.length = 4 ∧
      ∀ pair, pair ∈ g.surviving ↔ pair ∈ g'.surviving := by
  have hholds : detourStore.Holds nilId detour := ⟨_, rfl, rfl⟩
  have hholds' : detourStore.Holds unitId turned := ⟨_, rfl, rfl⟩
  have hreach : (detourStore.service 1048576).canComplete nilId nilId "end" = .ok true := rfl
  have hvalid : (detourStore.service 1048576).validate nilId = .ok true := rfl
  obtain ⟨g, hgraph, hedges⟩ : ∃ g, (detourStore.service 1048576).prunedGraph nilId
      (some nilId) = .ok g ∧ g.edges.length = 3 := ⟨_, rfl, rfl⟩
  obtain ⟨g', hgraph', hedges'⟩ : ∃ g', (detourStore.service 1048576).prunedGraph unitId
      (some nilId) = .ok g' ∧ g'.edges.length = 4 := ⟨_, rfl, rfl⟩
  obtain ⟨hanswers, hvalidity, hgraphs⟩ :=
    rearranged_answers_alike hholds hholds' detour_turned 1048576
  obtain ⟨other, hother, hpairs⟩ := hgraphs (some nilId) g hgraph
  obtain rfl : other = g' := Except.ok.inj (hother.symm.trans hgraph')
  exact ⟨hholds, hholds', detour_turned, (hanswers nilId "end" true).mp hreach,
    (hvalidity true).mp hvalid, g, other, hgraph, hother, hedges, hedges', hpairs⟩

end Workflow
