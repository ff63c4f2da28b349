import Mathlib.Data.List.Forall2
import Workflow.Proofs.Graph.Cycle
import Workflow.Proofs.Graph.Faults
import Workflow.Proofs.Result

/-!
# What a graph is built from

The edges of a graph are the dependencies of its nodes, one for one and in order
(`edgesFor_forall₂`), so an edge leads from `a` to `b` exactly when `b` depends on `a`
(`leads_iff_dependsOn`).  The answer of the search for cycles is therefore an answer about the
nodes: lists that have nothing else wrong with them are refused exactly when some task depends on
itself along the way, and the task named in the refusal is such a task
(`ofNodes_cycle_iff`).  Whatever is wrong with nodes, the first thing wrong is reported
(`ofNodes_reports`).

`Made` is the set of graphs a caller can ever hold: those accepted, and what is left of them
after any removals.  All of them are ranked.
-/

namespace Workflow.Graph

open Relation

/-! ## Edges and dependencies -/

/-- The edge is the one for a dependency of a task. -/
structure Represents (limit : Nat) (edge : Edge) (task : String) (dependency : Dependency) :
    Prop where
  source : edge.source = dependency.on
  target : edge.target = task
  condition : edge.condition = dependency.condition
  switch : selectorFor limit dependency.on task dependency.switch = .ok edge.switch

theorem edgeFor_represents {limit : Nat} {tasks : List String} {number : Nat} {task : String}
    {dependency : Dependency} {edge : Edge}
    (h : edgeFor limit tasks number task dependency = .ok edge) :
    Represents limit edge task dependency := by
  obtain ⟨-, htarget, hsource, hcondition, -⟩ := edgeFor_ok h
  refine ⟨hsource, htarget, hcondition, ?_⟩
  unfold edgeFor at h
  split at h
  · cases hselector : selectorFor limit dependency.on task dependency.switch with
    | error _ => simp [hselector, Except.map] at h
    | ok selector =>
        obtain rfl : _ = edge := by simpa [hselector, Except.map] using h
        rfl
  · cases h

theorem compileLines_cons_ok {limit : Nat} {line : String} {rest : List String}
    {ready : List (String × Pattern.Expr)} :
    Selector.compileLines limit (line :: rest) = .ok ready ↔
      ∃ expr later, Pattern.compile limit (anchored line) = .ok expr ∧
        Selector.compileLines limit rest = .ok later ∧ (line, expr) :: later = ready := by
  rw [Selector.compileLines, Selector.compileLine]
  cases Pattern.compile limit (anchored line) with
  | error cause => simp
  | ok expr => simp [map_ok]

theorem compileLines_forall₂ {limit : Nat} :
    ∀ {lines : List String} {ready : List (String × Pattern.Expr)},
      Selector.compileLines limit lines = .ok ready →
      List.Forall₂ (fun line made => Pattern.compile limit (anchored line) = .ok made.2) lines ready
  | [], ready, h => by
      cases h
      exact .nil
  | line :: rest, ready, h => by
      obtain ⟨expr, later, hexpr, hlater, rfl⟩ := compileLines_cons_ok.mp h
      exact .cons hexpr (compileLines_forall₂ hlater)

/-- The lines made ready are the lines given. -/
theorem compileLines_texts {limit : Nat} :
    ∀ {lines : List String} {ready : List (String × Pattern.Expr)},
      Selector.compileLines limit lines = .ok ready → ready.map Prod.fst = lines
  | [], ready, h => by
      cases h
      rfl
  | line :: rest, ready, h => by
      obtain ⟨expr, later, -, hlater, rfl⟩ := compileLines_cons_ok.mp h
      rw [List.map_cons, compileLines_texts hlater]

theorem edgesFor_cons_ok {limit : Nat} {tasks : List String} {number : Nat} {task : String}
    {dependency : Dependency} {rest : List (String × Dependency)} {made : List Edge} :
    edgesFor limit tasks number ((task, dependency) :: rest) = .ok made ↔
      ∃ first later, edgeFor limit tasks number task dependency = .ok first ∧
        edgesFor limit tasks (number + 1) rest = .ok later ∧ first :: later = made := by
  rw [edgesFor]
  cases edgeFor limit tasks number task dependency with
  | error e => simp
  | ok first => simp [map_ok]

theorem edgesFor_forall₂ {limit : Nat} {tasks : List String} :
    ∀ {number : Nat} {rest : List (String × Dependency)} {made : List Edge},
      edgesFor limit tasks number rest = .ok made →
      List.Forall₂ (fun (owned : String × Dependency) edge =>
        Represents limit edge owned.1 owned.2) rest made
  | _, [], made, h => by
      cases h
      exact .nil
  | number, (task, dependency) :: rest, made, h => by
      obtain ⟨first, later, hfirst, hlater, rfl⟩ := edgesFor_cons_ok.mp h
      exact .cons (edgeFor_represents hfirst) (edgesFor_forall₂ hlater)

/-- Edges are numbered one after another. -/
theorem edgesFor_numbers {limit : Nat} {tasks : List String} :
    ∀ {number : Nat} {rest : List (String × Dependency)} {made : List Edge},
      edgesFor limit tasks number rest = .ok made →
      made.map Edge.number = List.range' number rest.length
  | _, [], made, h => by
      cases h
      rfl
  | number, (task, dependency) :: rest, made, h => by
      obtain ⟨first, later, hfirst, hlater, rfl⟩ := edgesFor_cons_ok.mp h
      rw [List.map_cons, (edgeFor_ok hfirst).1, edgesFor_numbers hlater, List.length_cons,
        List.range'_succ]

theorem mem_dependencies_iff {nodes : List Node} {task : String} {dependency : Dependency} :
    (task, dependency) ∈ dependencies nodes ↔
      ∃ node ∈ nodes, node.id = task ∧ dependency ∈ node.dependencies := by
  simp only [dependencies, List.mem_flatMap, List.mem_map, Prod.mk.injEq]
  constructor
  · rintro ⟨node, hnode, _, hmem, rfl, rfl⟩
    exact ⟨node, hnode, rfl, hmem⟩
  · rintro ⟨node, hnode, rfl, hmem⟩
    exact ⟨node, hnode, dependency, hmem, rfl, rfl⟩

theorem exists_of_mem_right {α β : Type} {R : α → β → Prop} {l₁ : List α} {l₂ : List β}
    (h : List.Forall₂ R l₁ l₂) {b : β} (hb : b ∈ l₂) : ∃ a ∈ l₁, R a b := by
  induction h with
  | nil => cases hb
  | cons hfirst _ ih =>
      rcases List.mem_cons.mp hb with rfl | hb
      · exact ⟨_, List.mem_cons_self, hfirst⟩
      · obtain ⟨a, ha, hab⟩ := ih hb
        exact ⟨a, List.mem_cons_of_mem _ ha, hab⟩

/-! ## Assembled graphs -/

theorem assemble_ok {limit : Nat} {nodes : List Node} {g : Graph}
    (h : assemble limit nodes = .ok g) :
    g.tasks = nodes.map Node.id ∧
      edgesFor limit (nodes.map Node.id) 0 (dependencies nodes) = .ok g.edges := by
  unfold assemble at h
  split at h
  · cases h
  · split at h
    · cases h
    · next hmade =>
        cases h
        exact ⟨rfl, hmade⟩

/-- Nodes have no graph when a name is repeated, and otherwise when a dependency has no edge. -/
theorem assemble_eq_error_iff {limit : Nat} {nodes : List Node} {e : Error} :
    assemble limit nodes = .error e ↔
      (∃ id, firstRepeated? [] (nodes.map Node.id) = some id ∧ e = .duplicateTask id) ∨
        firstRepeated? [] (nodes.map Node.id) = none ∧
          edgesFor limit (nodes.map Node.id) 0 (dependencies nodes) = .error e := by
  unfold assemble
  split
  · next id hrepeated => simp [hrepeated, eq_comm]
  · next hnone =>
      split
      · next e' hedges => simp [hnone, hedges]
      · next edges hedges => simp [hnone, hedges]

theorem assemble_eq_ok_iff {limit : Nat} {nodes : List Node} {g : Graph} :
    assemble limit nodes = .ok g ↔
      firstRepeated? [] (nodes.map Node.id) = none ∧ g.tasks = nodes.map Node.id ∧
        edgesFor limit (nodes.map Node.id) 0 (dependencies nodes) = .ok g.edges := by
  unfold assemble
  split
  · next id hrepeated => simp [hrepeated]
  · next hnone =>
      split
      · next e hedges => simp [hnone, hedges]
      · next edges hedges =>
          obtain ⟨tasks, others, distinct, ordered, known⟩ := g
          simp [hnone, hedges, eq_comm]

/-- A graph is told from the names of the nodes and their dependencies; what the nodes do and what
is recorded with them has no part in it. -/
theorem ofNodes_congr {limit : Nat} {nodes nodes' : List Node}
    (hnames : nodes.map Node.id = nodes'.map Node.id)
    (hdeps : dependencies nodes = dependencies nodes') :
    ofNodes limit nodes = ofNodes limit nodes' := by
  have hassemble : assemble limit nodes = assemble limit nodes' := by
    cases h : assemble limit nodes with
    | error e =>
        rw [assemble_eq_error_iff, hnames, hdeps, ← assemble_eq_error_iff] at h
        exact h.symm
    | ok g =>
        rw [assemble_eq_ok_iff, hnames, hdeps, ← assemble_eq_ok_iff] at h
        exact h.symm
  rw [ofNodes, hassemble, ofNodes]

/-- Every edge is that of a dependency. -/
theorem exists_dependency {limit : Nat} {nodes : List Node} {g : Graph}
    (h : assemble limit nodes = .ok g) {edge : Edge} (hmem : edge ∈ g.edges) :
    ∃ node ∈ nodes, ∃ dependency ∈ node.dependencies,
      Represents limit edge node.id dependency := by
  obtain ⟨⟨task, dependency⟩, howned, hrep⟩ :=
    exists_of_mem_right (edgesFor_forall₂ (assemble_ok h).2) hmem
  obtain ⟨node, hnode, rfl, hdep⟩ := mem_dependencies_iff.mp howned
  exact ⟨node, hnode, dependency, hdep, hrep⟩

/-- Every dependency has its edge. -/
theorem exists_edge {limit : Nat} {nodes : List Node} {g : Graph}
    (h : assemble limit nodes = .ok g) {node : Node} (hnode : node ∈ nodes)
    {dependency : Dependency} (hdep : dependency ∈ node.dependencies) :
    ∃ edge ∈ g.edges, Represents limit edge node.id dependency :=
  exists_of_mem_right (edgesFor_forall₂ (assemble_ok h).2).flip
    (mem_dependencies_iff.mpr ⟨node, hnode, rfl, hdep⟩)

/-- Some node named for the task has a dependency on the other name. -/
def DependsOn (nodes : List Node) (task on : String) : Prop :=
  ∃ node ∈ nodes, node.id = task ∧ ∃ dependency ∈ node.dependencies, dependency.on = on

theorem leads_iff_dependsOn {limit : Nat} {nodes : List Node} {g : Graph}
    (h : assemble limit nodes = .ok g) {a b : String} : g.Leads a b ↔ DependsOn nodes b a := by
  constructor
  · rintro ⟨edge, hmem, rfl, rfl⟩
    obtain ⟨node, hnode, dependency, hdep, hrep⟩ := exists_dependency h hmem
    exact ⟨node, hnode, hrep.target.symm, dependency, hdep, hrep.source.symm⟩
  · rintro ⟨node, hnode, rfl, dependency, hdep, rfl⟩
    obtain ⟨edge, hmem, hrep⟩ := exists_edge h hnode hdep
    exact ⟨edge, hmem, hrep.source, hrep.target⟩

/-- A cycle of edges is a cycle of dependencies. -/
theorem transGen_leads_iff {limit : Nat} {nodes : List Node} {g : Graph}
    (h : assemble limit nodes = .ok g) {a b : String} :
    TransGen g.Leads a b ↔ TransGen (DependsOn nodes) b a := by
  have hswap : g.Leads = Function.swap (DependsOn nodes) := by
    funext a b
    exact propext (leads_iff_dependsOn h)
  rw [hswap, transGen_swap]

/-! ## Lists without faults -/

/-- A list of nodes with nothing wrong but, it may be, a cycle. -/
structure Sane (limit : Nat) (nodes : List Node) : Prop where
  distinct : (nodes.map Node.id).Nodup
  known : ∀ node ∈ nodes, ∀ dependency ∈ node.dependencies,
    dependency.on ∈ nodes.map Node.id
  usable : ∀ node ∈ nodes, ∀ dependency ∈ node.dependencies, ∀ condition,
    dependency.switch = some condition → ∀ line ∈ condition.lines,
      ∃ expr, Pattern.compile limit (anchored line) = .ok expr

/-- A list without faults has a graph, cycles not considered. -/
theorem Sane.assemble {limit : Nat} {nodes : List Node} (h : Sane limit nodes) :
    ∃ g, Graph.assemble limit nodes = .ok g := by
  cases hassemble : Graph.assemble limit nodes with
  | ok g => exact ⟨g, rfl⟩
  | error e =>
      exfalso
      rcases assemble_eq_error_iff.mp hassemble with ⟨name, hrepeated, -⟩ | ⟨-, hedges⟩
      · exact not_repeatFault_iff.mpr h.distinct _ (repeatFault_iff.mpr ⟨name, hrepeated, rfl⟩)
      · obtain ⟨owned, howned, hfault⟩ := (edgesFor_error_iff.mp hedges).exists_mem
        obtain ⟨task, dependency⟩ := owned
        obtain ⟨node, hnode, -, hdep⟩ := mem_dependencies_iff.mp howned
        cases hfault with
        | unknown hunknown => exact hunknown (h.known node hnode dependency hdep)
        | unusable _ hswitch hearliest =>
            obtain ⟨line, hline, -, hcause⟩ := hearliest.exists_mem
            obtain ⟨expr, hexpr⟩ := h.usable node hnode dependency hdep _ hswitch line hline
            rw [hexpr] at hcause
            cases hcause

/-! ## Cycles of dependencies -/

/-- **Cycles are found, and named.**  A list without faults is refused for a cycle exactly when
some task depends, along the way, on itself, and the task named then does; any other list without
faults is accepted. -/
theorem ofNodes_cycle_iff {limit : Nat} {nodes : List Node} (h : Sane limit nodes) :
    ((∃ task, ofNodes limit nodes = .error (.cycle task)) ↔
      ∃ task, TransGen (DependsOn nodes) task task) ∧
    (∀ task, ofNodes limit nodes = .error (.cycle task) →
      TransGen (DependsOn nodes) task task) ∧
    ((¬ ∃ task, TransGen (DependsOn nodes) task task) →
      ∃ g, ofNodes limit nodes = .ok g) := by
  obtain ⟨g, hg⟩ := h.assemble
  cases hcycle : g.cycle? with
  | none =>
      have hok : ofNodes limit nodes = .ok g := by simp [ofNodes, hg, hcycle]
      have hfree : ¬ ∃ task, TransGen (DependsOn nodes) task task := by
        rintro ⟨task, hloop⟩
        exact (ranked_of_cycle?_eq_none hcycle).acyclic task ((transGen_leads_iff hg).mpr hloop)
      refine ⟨⟨?_, fun hloop => absurd hloop hfree⟩, ?_, fun _ => ⟨g, hok⟩⟩
      · rintro ⟨task, herror⟩
        rw [hok] at herror
        cases herror
      · intro task herror
        rw [hok] at herror
        cases herror
  | some culprit =>
      have herror : ofNodes limit nodes = .error (.cycle culprit) := by
        simp [ofNodes, hg, hcycle]
      have hloop : TransGen (DependsOn nodes) culprit culprit :=
        (transGen_leads_iff hg).mp (cycle?_on_cycle hcycle)
      refine ⟨⟨fun _ => ⟨culprit, hloop⟩, fun _ => ⟨culprit, herror⟩⟩, ?_,
        fun hfree => absurd ⟨culprit, hloop⟩ hfree⟩
      intro task htask
      rw [herror] at htask
      cases htask
      exact hloop

/-- Two decisions that wait for each other, between a beginning and a task behind them. -/
def ring : List Node :=
  [⟨"begin", "begin", .start, [], none⟩,
   ⟨"left", "left", .decision none,
    [.plain "begin", ⟨"right", some (.ofLines ["red|blue"]), none⟩], none⟩,
   ⟨"right", "right", .decision none, [.plain "left"], none⟩,
   ⟨"after", "after", .decision none, [.plain "right"], none⟩]

theorem ring_sane : Sane 1048576 ring where
  distinct := by decide
  known := by decide
  usable := by
    intro node hnode dependency hdep condition hswitch line hline
    simp only [ring, List.mem_cons, List.not_mem_nil, or_false] at hnode
    rcases hnode with rfl | rfl | rfl | rfl <;>
      simp only [List.mem_cons, List.not_mem_nil, or_false] at hdep
    · rcases hdep with rfl | rfl
      · cases hswitch
      · cases hswitch
        obtain rfl : line = "red|blue" := by simpa [SwitchCondition.ofLines] using hline
        exact ⟨_, rfl⟩
    · subst hdep; cases hswitch
    · subst hdep; cases hswitch

theorem ring_refused : ofNodes 1048576 ring = .error (.cycle "right") ∧
    TransGen (DependsOn ring) "right" "right" :=
  ⟨rfl, (ofNodes_cycle_iff ring_sane).2.1 _ rfl⟩

/-! ## What is reported -/

theorem dependsOn_eq (nodes : List Node) : DependsOn nodes = Requires (dependencies nodes) := by
  funext task on
  simp only [DependsOn, Requires, mem_dependencies_iff, eq_iff_iff]
  constructor
  · rintro ⟨node, hnode, hname, dependency, hdep, hon⟩
    exact ⟨dependency, ⟨node, hnode, hname, hdep⟩, hon⟩
  · rintro ⟨dependency, ⟨node, hnode, hname, hdep⟩, hon⟩
    exact ⟨node, hnode, hname, dependency, hdep, hon⟩

/-- A graph as it is, or a cycle in it. -/
def acyclic (g : Graph) : Except Error Graph :=
  match g.cycle? with
  | some task => .error (.cycle task)
  | none => .ok g

theorem ofNodes_eq_bind (limit : Nat) (nodes : List Node) :
    ofNodes limit nodes = assemble limit nodes >>= acyclic := by
  unfold ofNodes acyclic
  cases assemble limit nodes with
  | error e => rfl
  | ok g => rfl

theorem assemble_reports (limit : Nat) (nodes : List Node) :
    Reports (assemble limit nodes) [RepeatFault (nodes.map Node.id),
      Earliest (DependencyFault limit (nodes.map Node.id)) (dependencies nodes)] := by
  refine .of_iff fun e => ?_
  rw [assemble_eq_error_iff, earliest_cons_iff, earliest_singleton_iff, repeatFault_iff,
    edgesFor_error_iff]
  refine or_congr_right (and_congr_left fun _ => ?_)
  simp only [repeatFault_iff, not_exists, not_and, Option.eq_none_iff_forall_ne_some]
  exact ⟨fun hnone other name hname _ => hnone name hname,
    fun hnone name hname => hnone _ name hname rfl⟩

theorem acyclic_reports {limit : Nat} {nodes : List Node} {g : Graph}
    (h : assemble limit nodes = .ok g) :
    Reports (acyclic g) [CycleFault (dependencies nodes)] where
  sound := fun e herror => by
    unfold acyclic at herror
    split at herror
    · next task hcycle =>
        cases herror
        have hloop := (transGen_leads_iff h).mp (cycle?_on_cycle hcycle)
        rw [dependsOn_eq] at hloop
        exact .here ⟨task, hloop, rfl⟩
    · cases herror
  complete := fun e hfault => by
    obtain ⟨task, hloop, rfl⟩ := earliest_singleton_iff.mp hfault
    rw [← dependsOn_eq, ← transGen_leads_iff h] at hloop
    unfold acyclic
    cases hcycle : g.cycle? with
    | none => exact absurd hloop ((ranked_of_cycle?_eq_none hcycle).acyclic task)
    | some culprit => exact ⟨_, rfl, Or.inr ⟨task, culprit, rfl, rfl⟩⟩

/-- What is reported about a list of nodes: a name used again, or else the first bad dependency, or
else a task on a cycle. -/
theorem ofNodes_reports (limit : Nat) (nodes : List Node) :
    Reports (ofNodes limit nodes) [RepeatFault (nodes.map Node.id),
      Earliest (DependencyFault limit (nodes.map Node.id)) (dependencies nodes),
      CycleFault (dependencies nodes)] := by
  rw [ofNodes_eq_bind]
  exact (assemble_reports limit nodes).bind fun _ => acyclic_reports

/-! ## The order of nodes -/

section Order

variable {limit : Nat} {nodes nodes' : List Node}

/-- Nodes have a graph exactly when nothing is wrong with them. -/
theorem exists_ofNodes_iff : (∃ g, ofNodes limit nodes = .ok g) ↔ (nodes.map Node.id).Nodup ∧
    (∀ owned ∈ dependencies nodes, ∀ e, ¬ DependencyFault limit (nodes.map Node.id) owned e) ∧
      ∀ e, ¬ CycleFault (dependencies nodes) e := by
  rw [(ofNodes_reports limit nodes).ok_iff, ← not_repeatFault_iff,
    ← @not_earliest_iff _ _ (DependencyFault limit (nodes.map Node.id))]
  simp only [List.forall_mem_cons, List.not_mem_nil, false_imp_iff, implies_true, and_true]

/-- It does not matter to whether there is a graph in which order nodes and their dependencies are,
or whether a dependency is there more than once. -/
theorem exists_ofNodes_of_mem (hnames : (nodes.map Node.id).Perm (nodes'.map Node.id))
    (hdeps : ∀ owned, owned ∈ dependencies nodes ↔ owned ∈ dependencies nodes')
    (h : ∃ g, ofNodes limit nodes = .ok g) : ∃ g, ofNodes limit nodes' = .ok g := by
  obtain ⟨hdistinct, hsound, hacyclic⟩ := exists_ofNodes_iff.mp h
  have hrequires : Requires (dependencies nodes') = Requires (dependencies nodes) := by
    funext task on
    simp only [Requires, hdeps]
  refine exists_ofNodes_iff.mpr ⟨hnames.nodup_iff.mp hdistinct, ?_, ?_⟩
  · intro owned howned e hfault
    exact hsound owned ((hdeps owned).mpr howned) e (hfault.of_mem fun name => hnames.mem_iff.symm)
  · intro e hfault
    rw [CycleFault, hrequires] at hfault
    exact hacyclic e hfault

/-- The same dependencies lead from the same tasks to the same tasks. -/
theorem alike_of_mem (hnames : (nodes.map Node.id).Perm (nodes'.map Node.id))
    (hdeps : ∀ owned, owned ∈ dependencies nodes ↔ owned ∈ dependencies nodes') {g g' : Graph}
    (h : assemble limit nodes = .ok g) (h' : assemble limit nodes' = .ok g') : g.Alike g' where
  tasks := by
    intro task
    rw [(assemble_ok h).1, (assemble_ok h').1]
    exact hnames.mem_iff
  leads := by
    intro a b
    rw [leads_iff_dependsOn h, leads_iff_dependsOn h', dependsOn_eq, dependsOn_eq]
    simp only [Requires, hdeps]

end Order

/-! ## The graphs there are -/

/-- The graphs that come from nodes: those accepted, and what removals leave of them. -/
inductive Made (limit : Nat) : Graph → Prop
  | built {nodes : List Node} {g : Graph} : ofNodes limit nodes = .ok g → Made limit g
  | removed {g : Graph} (number : Nat) : Made limit g → Made limit (g.remove number).1

theorem ofNodes_ok {limit : Nat} {nodes : List Node} {g : Graph}
    (h : ofNodes limit nodes = .ok g) : assemble limit nodes = .ok g ∧ g.cycle? = none := by
  unfold ofNodes at h
  cases hg : assemble limit nodes with
  | error _ => simp [hg] at h
  | ok built =>
      cases hcycle : built.cycle? with
      | some _ => simp [hg, hcycle] at h
      | none =>
          obtain rfl : built = g := by simpa [hg, hcycle] using h
          exact ⟨rfl, hcycle⟩

theorem Made.ranked {limit : Nat} {g : Graph} (h : Made limit g) : g.Ranked := by
  induction h with
  | built hok => exact ranked_of_cycle?_eq_none (ofNodes_ok hok).2
  | removed _ _ ih => exact ih.mono fun _ hmem => (mem_restrict.mp hmem).1

end Workflow.Graph
