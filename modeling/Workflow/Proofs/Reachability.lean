import Workflow.Proofs.Graph.Visit
import Workflow.Proofs.Pruning
import Workflow.Proofs.Resolution
import Workflow.Reachability

/-!
# Reachability in closed form

Whether a task can still be reached is found out by building a graph, pruning it along a walk and
searching what is left.  None of that shows in the answer.  It is yes exactly when a chain of open
dependencies leads from the start to the task (`canComplete_iff`), and whether a dependency is
open (`Definition.Open`) can be told from what its author wrote and what is recorded about the task
it is on, without a look at any other record.

The way there: the nodes are those of the tasks (`nodes_forall₂`), the edges are those of the
dependencies (`exists_edge`, `exists_dependency`), an edge is left when its source keeps it among
all its edges at the beginning (`mem_prune_edges_iff`), and that is what openness says
(`Drawn.kept_iff_open`).  The search is exact (`hasPath_iff`).
-/

namespace Workflow

open Relation

/-! ## Open dependencies -/

/-- Some line of the switch condition, put between its anchors, occurs in the value. -/
def Dependency.Matches (limit : Nat) (value : Option String) (dependency : Dependency) : Prop :=
  ∃ condition text, dependency.switch = some condition ∧ value = some text ∧
    ∃ line ∈ condition.lines, ∃ expr,
      Pattern.compile limit (anchored line) = .ok expr ∧ expr.occursIn text.toList = true

/-- The work goes on along the dependency after a task that ended like this. -/
def Dependency.Admits (status : Status) (dependency : Dependency) : Prop :=
  dependency.condition = some .always ∨
    dependency.condition = some .success ∧ status = .completed ∨
    dependency.condition = some .failure ∧ status = .failed

/-- A dependency on a task is open, given how tasks ended. -/
inductive Definition.Open (definition : Definition) (limit : Nat)
    (Ended : String → Record → Prop) (upstream : Task) (dependency : Dependency) : Prop
  | terminal : upstream.kind = .start ∨ upstream.kind = .finish →
      Open definition limit Ended upstream dependency
  | unsettled : (∀ record, ¬ Ended upstream.id record) →
      Open definition limit Ended upstream dependency
  | chosen {record : Record} : upstream.kind = .decision → Ended upstream.id record →
      dependency.Matches limit record.switchValue →
      Open definition limit Ended upstream dependency
  | fallback {record : Record} : upstream.kind = .decision → Ended upstream.id record →
      (∀ task ∈ definition.tasks, ∀ other ∈ task.dependencies, other.on = upstream.id →
        ¬ other.Matches limit record.switchValue) →
      dependency.switch = none → Open definition limit Ended upstream dependency
  | admitted {record : Record} :
      upstream.kind ≠ .start ∧ upstream.kind ≠ .finish ∧ upstream.kind ≠ .decision →
      Ended upstream.id record → dependency.Admits record.status →
      Open definition limit Ended upstream dependency

/-- One task of a definition has an open dependency on another. -/
def Definition.OpenStep (definition : Definition) (limit : Nat)
    (Ended : String → Record → Prop) (upstream task : Task) : Prop :=
  upstream ∈ definition.tasks ∧ task ∈ definition.tasks ∧
    ∃ dependency ∈ task.dependencies, dependency.on = upstream.id ∧
      definition.Open limit Ended upstream dependency

/-- The source of records says that a task ended, in completion or in failure. -/
def Sources.Ended (sources : Sources) (activity : Uuid) (task : String) (record : Record) : Prop :=
  sources.record activity task = .ok (some record) ∧
    (record.status = .completed ∨ record.status = .failed)

/-- A row of the store says that a task ended, in completion or in failure. -/
def Store.Ended (store : Store) (activity : Uuid) (task : String) (record : Record) : Prop :=
  (∃ row, store.execution? activity task = some row ∧
    row.status = record.status.name ∧ row.switchValue = record.switchValue) ∧
    (record.status = .completed ∨ record.status = .failed)

theorem Sources.Ended.unique {sources : Sources} {activity : Uuid} {task : String}
    {record other : Record} (h : sources.Ended activity task record)
    (hother : sources.Ended activity task other) : other = record := by
  have hsays := h.1
  rw [hother.1] at hsays
  exact Option.some.inj (Except.ok.inj hsays)

/-! ## What openness comes down to -/

section Open

variable {definition : Definition} {limit : Nat} {Ended : String → Record → Prop}
  {upstream : Task} {dependency : Dependency} {record : Record}

/-- Behind a decision it is the value that counts, and what the other dependencies say of it. -/
theorem open_decision_iff (hdecision : upstream.kind = .decision)
    (hended : Ended upstream.id record)
    (hunique : ∀ other, Ended upstream.id other → other = record) :
    definition.Open limit Ended upstream dependency ↔
      dependency.Matches limit record.switchValue ∨
        (∀ task ∈ definition.tasks, ∀ other ∈ task.dependencies, other.on = upstream.id →
          ¬ other.Matches limit record.switchValue) ∧ dependency.switch = none := by
  constructor
  · intro hopen
    cases hopen with
    | terminal hsentinel => rcases hsentinel with h | h <;> cases hdecision.symm.trans h
    | unsettled hnone => exact absurd hended (hnone record)
    | chosen _ hother hmatches => exact Or.inl (hunique _ hother ▸ hmatches)
    | fallback _ hother hnone hswitch => exact Or.inr ⟨hunique _ hother ▸ hnone, hswitch⟩
    | admitted hother _ _ => exact absurd hdecision hother.2.2
  · rintro (hmatches | ⟨hnone, hswitch⟩)
    · exact .chosen hdecision hended hmatches
    · exact .fallback hdecision hended hnone hswitch

/-- Behind an ordinary task it is the status that counts. -/
theorem open_ordinary_iff
    (hkind : upstream.kind ≠ .start ∧ upstream.kind ≠ .finish ∧ upstream.kind ≠ .decision)
    (hended : Ended upstream.id record)
    (hunique : ∀ other, Ended upstream.id other → other = record) :
    definition.Open limit Ended upstream dependency ↔ dependency.Admits record.status := by
  constructor
  · intro hopen
    cases hopen with
    | terminal hsentinel => exact absurd hsentinel (not_or.mpr ⟨hkind.1, hkind.2.1⟩)
    | unsettled hnone => exact absurd hended (hnone record)
    | chosen hother _ _ => exact absurd hother hkind.2.2
    | fallback hother _ _ _ => exact absurd hother hkind.2.2
    | admitted _ hother hadmits => exact hunique _ hother ▸ hadmits
  · exact .admitted hkind hended

/-- What is open when more outcomes are known was open before. -/
theorem Definition.Open.antitone {Before After : String → Record → Prop}
    (hkept : ∀ {record}, Before upstream.id record → After upstream.id record)
    (hunique : ∀ {record other}, After upstream.id record → After upstream.id other →
      other = record)
    (h : definition.Open limit After upstream dependency) :
    definition.Open limit Before upstream dependency := by
  by_cases hbefore : ∃ record, Before upstream.id record
  · obtain ⟨record, hrecord⟩ := hbefore
    have hafter := hkept hrecord
    cases h with
    | terminal hsentinel => exact .terminal hsentinel
    | unsettled hnone => exact absurd hafter (hnone record)
    | chosen hdecision hother hmatches =>
        exact .chosen hdecision hrecord (hunique hafter hother ▸ hmatches)
    | fallback hdecision hother hnone hswitch =>
        exact .fallback hdecision hrecord (hunique hafter hother ▸ hnone) hswitch
    | admitted hkind hother hadmits =>
        exact .admitted hkind hrecord (hunique hafter hother ▸ hadmits)
  · exact .unsettled (not_exists.mp hbefore)

end Open

/-! ## What an edge has from its dependency -/

section Edges

variable {limit : Nat} {edge : Edge} {task : String} {dependency : Dependency}

theorem selects_iff {condition : SwitchCondition} {selector : Selector} {text : String}
    (h : Selector.compile limit condition = .ok selector) :
    selector.selects text = true ↔ ∃ line ∈ condition.lines, ∃ expr,
      Pattern.compile limit (anchored line) = .ok expr ∧ expr.occursIn text.toList = true := by
  obtain ⟨ready, hready, rfl⟩ := map_ok.mp h
  have hall := Graph.compileLines_forall₂ hready
  simp only [Selector.selects, List.any_eq_true]
  constructor
  · rintro ⟨made, hmade, hoccurs⟩
    obtain ⟨line, hline, hcompiled⟩ := Graph.exists_of_mem_right hall hmade
    exact ⟨line, hline, made.2, hcompiled, hoccurs⟩
  · rintro ⟨line, hline, expr, hcompiled, hoccurs⟩
    obtain ⟨made, hmade, hsame⟩ := Graph.exists_of_mem_right hall.flip hline
    rw [hcompiled] at hsame
    cases hsame
    exact ⟨made, hmade, hoccurs⟩

theorem Graph.Represents.switch_eq_none_iff (h : Graph.Represents limit edge task dependency) :
    edge.switch = none ↔ dependency.switch = none := by
  have hswitch := h.switch
  cases hcondition : dependency.switch with
  | none =>
      rw [hcondition] at hswitch
      exact ⟨fun _ => rfl, fun _ => (Except.ok.inj hswitch).symm⟩
  | some condition =>
      rw [hcondition, Graph.selectorFor] at hswitch
      split at hswitch
      · rw [← Except.ok.inj hswitch]
        simp
      · cases hswitch

theorem Graph.Represents.selected_iff (h : Graph.Represents limit edge task dependency)
    {value : Option String} : edge.selected value = true ↔ dependency.Matches limit value := by
  have hswitch := h.switch
  cases hcondition : dependency.switch with
  | none =>
      have hnone := h.switch_eq_none_iff.mpr hcondition
      simp [Edge.selected, hnone, Dependency.Matches, hcondition]
  | some condition =>
      rw [hcondition, Graph.selectorFor] at hswitch
      split at hswitch
      · next selector hcompiled =>
          cases value with
          | none => simp [Edge.selected, Dependency.Matches]
          | some text =>
              have hselector : edge.switch = some selector := (Except.ok.inj hswitch).symm
              simp [Edge.selected, hselector, Dependency.Matches, hcondition,
                selects_iff hcompiled]
      · cases hswitch

theorem Graph.Represents.admitted_iff (h : Graph.Represents limit edge task dependency)
    {status : Status} (hended : status = .completed ∨ status = .failed) :
    edge.admitted status = true ↔ dependency.Admits status := by
  rw [Edge.admitted, h.condition, Dependency.Admits]
  cases dependency.condition with
  | none => simp
  | some condition =>
      rcases hended with rfl | rfl <;> cases condition <;> simp [ExecutionCondition.admits]

end Edges

/-! ## The graph of a definition -/

/-- The nodes of a definition within an activity, and the graph drawn from them. -/
structure Drawn (sources : Sources) (limit : Nat) (definition : Definition) (activity : Uuid)
    (nodes : List Node) (g : Graph) : Prop where
  resolved : definition.nodes sources (some activity) = .ok nodes
  built : Graph.ofNodes limit nodes = .ok g

namespace Drawn

variable {sources : Sources} {limit : Nat} {definition : Definition} {activity : Uuid}
  {nodes : List Node} {g : Graph}

theorem ranked (h : Drawn sources limit definition activity nodes g) : g.Ranked :=
  (Graph.Made.built h.built).ranked

theorem names (h : Drawn sources limit definition activity nodes g) :
    g.tasks = definition.tasks.map Task.id :=
  (Graph.assemble_ok (Graph.ofNodes_ok h.built).1).1.trans (nodes_names h.resolved).symm

/-- A task is told by its name. -/
theorem task_eq (h : Drawn sources limit definition activity nodes g) {task other : Task}
    (htask : task ∈ definition.tasks) (hother : other ∈ definition.tasks)
    (hsame : task.id = other.id) : task = other :=
  List.inj_on_of_nodup_map (h.names ▸ g.distinct) htask hother hsame

theorem exists_node (h : Drawn sources limit definition activity nodes g) {task : Task}
    (htask : task ∈ definition.tasks) :
    ∃ node ∈ nodes, Resolves sources (some activity) task node :=
  Graph.exists_of_mem_right (nodes_forall₂ h.resolved).flip htask

theorem exists_edge (h : Drawn sources limit definition activity nodes g) {task : Task}
    (htask : task ∈ definition.tasks) {dependency : Dependency}
    (hdep : dependency ∈ task.dependencies) :
    ∃ edge ∈ g.edges, Graph.Represents limit edge task.id dependency := by
  obtain ⟨node, hnode, hresolves⟩ := h.exists_node htask
  rw [← hresolves.dependencies] at hdep
  rw [← hresolves.id]
  exact Graph.exists_edge (Graph.ofNodes_ok h.built).1 hnode hdep

theorem exists_dependency (h : Drawn sources limit definition activity nodes g) {edge : Edge}
    (hmem : edge ∈ g.edges) : ∃ task ∈ definition.tasks, ∃ dependency ∈ task.dependencies,
      Graph.Represents limit edge task.id dependency := by
  obtain ⟨node, hnode, dependency, hdep, hrep⟩ :=
    Graph.exists_dependency (Graph.ofNodes_ok h.built).1 hmem
  obtain ⟨task, htask, hresolves⟩ := Graph.exists_of_mem_right (nodes_forall₂ h.resolved) hnode
  rw [hresolves.dependencies] at hdep
  rw [hresolves.id] at hrep
  exact ⟨task, htask, dependency, hdep, hrep⟩

/-- Every edge has its dependency, and a task that it leaves. -/
theorem exists_upstream (h : Drawn sources limit definition activity nodes g) {edge : Edge}
    (hmem : edge ∈ g.edges) : ∃ upstream ∈ definition.tasks, edge.source = upstream.id ∧
      ∃ task ∈ definition.tasks, ∃ dependency ∈ task.dependencies,
        Graph.Represents limit edge task.id dependency := by
  have hsource : edge.source ∈ definition.tasks.map Task.id := by
    rw [← h.names]
    exact (g.known edge hmem).1
  obtain ⟨upstream, hupstream, hname⟩ := List.mem_map.mp hsource
  exact ⟨upstream, hupstream, hname.symm, h.exists_dependency hmem⟩

/-- The node that has a say for a task is the one resolved from it, and its record is that of the
source. -/
theorem decides_iff (h : Drawn sources limit definition activity nodes g) {task : Task}
    {node other : Node} {record : Record} (hnode : node ∈ nodes)
    (hresolves : Resolves sources (some activity) task node) :
    Decides nodes task.id other record ↔
      other = node ∧ (task.kind ≠ .start ∧ task.kind ≠ .finish) ∧
        sources.Ended activity task.id record := by
  have hnodup : (nodes.map Node.id).Nodup :=
    (Graph.assemble_ok (Graph.ofNodes_ok h.built).1).1 ▸ g.distinct
  have hrecord : sources.record activity task.id = .ok node.record :=
    Lookup.named_ok.mp hresolves.record
  have hordinary : node.kind.isSentinel = false ↔ task.kind ≠ .start ∧ task.kind ≠ .finish := by
    rw [← Bool.not_eq_true, hresolves.sentinel, not_or]
  constructor
  · intro hdecides
    obtain ⟨hmem, hname⟩ := hdecides.last.mem
    obtain rfl : other = node :=
      List.inj_on_of_nodup_map hnodup hmem hnode (hname.trans hresolves.id.symm)
    exact ⟨rfl, hordinary.mp hdecides.ordinary, by rw [hrecord, hdecides.recorded], hdecides.ended⟩
  · rintro ⟨rfl, hkind, hsays, hended⟩
    rw [hrecord] at hsays
    refine ⟨?_, hordinary.mpr hkind, Except.ok.inj hsays, hended⟩
    rw [← hresolves.id]
    exact lastNamed_of_mem hnodup hnode

/-- No edge that leaves a task is selected by a value when no dependency on it matches. -/
theorem none_selected_iff (h : Drawn sources limit definition activity nodes g)
    {upstream : String} {value : Option String} :
    (∀ other ∈ g.outgoing upstream, other.selected value ≠ true) ↔
      ∀ task ∈ definition.tasks, ∀ other ∈ task.dependencies, other.on = upstream →
        ¬ other.Matches limit value := by
  constructor
  · rintro hnone task htask other hother rfl hmatches
    obtain ⟨edge, hmem, hrep⟩ := h.exists_edge htask hother
    exact hnone edge (Graph.mem_outgoing.mpr ⟨hmem, hrep.source⟩) (hrep.selected_iff.mpr hmatches)
  · intro hnone edge hout hselected
    obtain ⟨hmem, rfl⟩ := Graph.mem_outgoing.mp hout
    obtain ⟨task, htask, dependency, hdep, hrep⟩ := h.exists_dependency hmem
    exact hnone task htask dependency hdep hrep.source.symm (hrep.selected_iff.mp hselected)

/-- What the node of an ended task keeps are the open dependencies. -/
theorem mem_keep_iff (h : Drawn sources limit definition activity nodes g) {upstream : Task}
    {node : Node} {record : Record} {edge : Edge} {task : String} {dependency : Dependency}
    (hresolves : Resolves sources (some activity) upstream node)
    (hkind : upstream.kind ≠ .start ∧ upstream.kind ≠ .finish)
    (hended : sources.Ended activity upstream.id record)
    (hout : edge ∈ g.outgoing upstream.id) (hrep : Graph.Represents limit edge task dependency) :
    edge ∈ node.keep record (g.outgoing upstream.id) ↔
      definition.Open limit (sources.Ended activity) upstream dependency := by
  -- the source gives one answer, so the record is the one that openness speaks of
  have hunique : ∀ other, sources.Ended activity upstream.id other → other = record :=
    fun other => hended.unique
  by_cases hdecision : upstream.kind = .decision
  · obtain ⟨value, hvalue⟩ := hresolves.decision.mpr hdecision
    rw [open_decision_iff hdecision hended hunique, Node.keep, hvalue]
    simp only [mem_keptByValue_iff, hout, true_and, hrep.selected_iff, hrep.switch_eq_none_iff,
      h.none_selected_iff]
  · have hstatus : node.keep record (g.outgoing upstream.id) =
        keptByStatus record.status (g.outgoing upstream.id) := by
      unfold Node.keep
      split
      · next value hvalue => exact absurd (hresolves.decision.mp ⟨value, hvalue⟩) hdecision
      · rfl
    rw [open_ordinary_iff ⟨hkind.1, hkind.2, hdecision⟩ hended hunique, hstatus, keptByStatus,
      List.mem_filter, hrep.admitted_iff hended.2]
    exact and_iff_right hout

/-- An edge is left when its dependency is open. -/
theorem kept_iff_open (h : Drawn sources limit definition activity nodes g) {upstream : Task}
    (hupstream : upstream ∈ definition.tasks) {edge : Edge} {task : String}
    {dependency : Dependency} (hout : edge ∈ g.outgoing upstream.id)
    (hrep : Graph.Represents limit edge task dependency) :
    (∀ node record, Decides nodes upstream.id node record →
        edge ∈ node.keep record (g.outgoing upstream.id)) ↔
      definition.Open limit (sources.Ended activity) upstream dependency := by
  obtain ⟨node, hnode, hresolves⟩ := h.exists_node hupstream
  by_cases hkind : upstream.kind ≠ .start ∧ upstream.kind ≠ .finish
  · by_cases hended : ∃ record, sources.Ended activity upstream.id record
    · obtain ⟨record, hended⟩ := hended
      rw [← h.mem_keep_iff hresolves hkind hended hout hrep]
      constructor
      · intro hall
        exact hall node record ((h.decides_iff hnode hresolves).mpr ⟨rfl, hkind, hended⟩)
      · intro hmem other record' hdecides
        obtain ⟨rfl, -, hsays⟩ := (h.decides_iff hnode hresolves).mp hdecides
        rw [hended.unique hsays]
        exact hmem
    · refine ⟨fun _ => .unsettled (not_exists.mp hended), fun _ other record hdecides => ?_⟩
      exact absurd ⟨record, ((h.decides_iff hnode hresolves).mp hdecides).2.2⟩ hended
  · refine ⟨fun _ => .terminal ?_, fun _ other record hdecides => ?_⟩
    · by_contra hnot
      exact hkind (not_or.mp hnot)
    · exact absurd ((h.decides_iff hnode hresolves).mp hdecides).2.1 hkind

/-- What becomes of an edge is told from its dependency. -/
theorem mem_prune_iff_open (h : Drawn sources limit definition activity nodes g) {upstream : Task}
    (hupstream : upstream ∈ definition.tasks) {edge : Edge} {task : String}
    {dependency : Dependency} (hmem : edge ∈ g.edges) (hsource : edge.source = upstream.id)
    (hrep : Graph.Represents limit edge task dependency) :
    edge ∈ (g.prune nodes).1.edges ↔
      definition.Open limit (sources.Ended activity) upstream dependency := by
  have hout : edge ∈ g.outgoing upstream.id := Graph.mem_outgoing.mpr ⟨hmem, hsource⟩
  rw [mem_prune_edges_iff h.ranked nodes, hsource, h.kept_iff_open hupstream hout hrep]
  exact and_iff_right hmem

/-- The edges left are the open steps. -/
theorem leads_prune_iff (h : Drawn sources limit definition activity nodes g) {a b : String} :
    (g.prune nodes).1.Leads a b ↔ ∃ upstream task, upstream.id = a ∧ task.id = b ∧
      definition.OpenStep limit (sources.Ended activity) upstream task := by
  constructor
  · rintro ⟨edge, hleft, rfl, rfl⟩
    have hmem : edge ∈ g.edges := ((mem_prune_edges_iff h.ranked nodes).mp hleft).1
    obtain ⟨upstream, hupstream, hname, task, htask, dependency, hdep, hrep⟩ :=
      h.exists_upstream hmem
    have hopen := (h.mem_prune_iff_open hupstream hmem hname hrep).mp hleft
    exact ⟨upstream, task, hname.symm, hrep.target.symm, hupstream, htask, dependency, hdep,
      hrep.source.symm.trans hname, hopen⟩
  · rintro ⟨upstream, task, rfl, rfl, hupstream, htask, dependency, hdep, hon, hopen⟩
    obtain ⟨edge, hmem, hrep⟩ := h.exists_edge htask hdep
    have hsource : edge.source = upstream.id := hrep.source.trans hon
    have hleft := (h.mem_prune_iff_open hupstream hmem hsource hrep).mpr hopen
    exact ⟨edge, hleft, hsource, hrep.target⟩

/-- The paths that are left are the chains of open steps. -/
theorem path_iff (h : Drawn sources limit definition activity nodes g) {first : Task}
    (hfirst : first ∈ definition.tasks) {name : String} :
    ReflTransGen (g.prune nodes).1.Leads first.id name ↔
      ∃ last ∈ definition.tasks, last.id = name ∧
        ReflTransGen (definition.OpenStep limit (sources.Ended activity)) first last := by
  constructor
  · intro hpath
    induction hpath with
    | refl => exact ⟨first, hfirst, rfl, .refl⟩
    | tail _ hleads ih =>
        obtain ⟨last, hlast, rfl, hchain⟩ := ih
        obtain ⟨upstream, task, hname, rfl, hstep⟩ := h.leads_prune_iff.mp hleads
        obtain rfl : upstream = last := h.task_eq hstep.1 hlast hname
        exact ⟨task, hstep.2.1, rfl, hchain.tail hstep⟩
  · rintro ⟨last, -, rfl, hchain⟩
    refine hchain.lift Task.id fun upstream task hstep => ?_
    exact h.leads_prune_iff.mpr ⟨upstream, task, rfl, rfl, hstep⟩

end Drawn

/-! ## The answer -/

theorem single_ok {definition : Definition} {kind : TaskKind} {name : String}
    (h : definition.single kind = .ok name) :
    ∃ task, definition.tasks.filter (fun task => task.kind = kind) = [task] ∧ task.id = name := by
  unfold Definition.single at h
  split at h
  · cases h
  · next task hone => exact ⟨task, hone, Except.ok.inj h⟩
  · cases h

theorem terminals_ok {definition : Definition} {terminals : Terminals}
    (h : definition.terminals = .ok terminals) : definition.single .start = .ok terminals.start ∧
      definition.single .finish = .ok terminals.finish := by
  obtain ⟨start, hstart, h⟩ := bind_ok.mp h
  obtain ⟨finish, hfinish, h⟩ := bind_ok.mp h
  cases h
  exact ⟨hstart, hfinish⟩

theorem graph_ok {service : Service} {definition : Definition} {activity : Uuid} {pruned : Graph}
    (h : service.graph (some activity) definition = .ok pruned) :
    ∃ nodes g, Drawn service.sources service.limit definition activity nodes g ∧
      (g.prune nodes).1 = pruned := by
  obtain ⟨nodes, hnodes, h⟩ := bind_ok.mp h
  obtain ⟨g, hg, h⟩ := bind_ok.mp h
  exact ⟨nodes, g, ⟨hnodes, hg⟩, Except.ok.inj h⟩

/-- Whatever the sources are, a task can still be reached when a chain of open dependencies leads
to it from the start. -/
theorem canCompleteIn_iff {service : Service} {definition : Definition} {activity : Uuid}
    {task : String} {answer : Bool}
    (h : service.canCompleteIn definition activity task = .ok answer) :
    ∃ first, definition.tasks.filter (fun task => task.kind = .start) = [first] ∧
      (answer = true ↔ ∃ last ∈ definition.tasks, last.id = task ∧ ReflTransGen
        (definition.OpenStep service.limit (service.sources.Ended activity)) first last) := by
  obtain ⟨terminals, hterminals, h⟩ := bind_ok.mp h
  obtain ⟨pruned, hpruned, h⟩ := bind_ok.mp h
  obtain ⟨first, hfirst, hstart⟩ := single_ok (terminals_ok hterminals).1
  obtain ⟨nodes, g, hdrawn, rfl⟩ := graph_ok hpruned
  have hmem : first ∈ definition.tasks := by
    have hfound : first ∈ definition.tasks.filter (fun task => task.kind = .start) := by
      rw [hfirst]
      exact List.mem_singleton_self first
    exact List.mem_of_mem_filter hfound
  have htasks : (g.prune nodes).1.tasks = definition.tasks.map Task.id :=
    (prune_tasks hdrawn.ranked nodes).trans hdrawn.names
  refine ⟨first, hfirst, ?_⟩
  rw [← Except.ok.inj h, Graph.hasPath_iff, ← hstart, hdrawn.path_iff hmem, htasks]
  constructor
  · exact fun hpath => hpath.2.2
  · rintro ⟨last, hlast, rfl, hchain⟩
    exact ⟨List.mem_map_of_mem hmem, List.mem_map_of_mem hlast, last, hlast, rfl, hchain⟩

/-! ## Stores -/

theorem Status.ofName?_eq_some_iff {name : String} {status : Status} :
    Status.ofName? name = some status ↔ name = status.name := by
  constructor
  · intro h
    rw [Status.ofName?, List.find?_eq_some_iff_append] at h
    exact (beq_iff_eq.mp h.1).symm
  · rintro rfl
    exact Status.ofName?_name status

theorem Store.recordOf_eq_some_iff {store : Store} {activity : Uuid} {task : String}
    {record : Record} : store.recordOf activity task = .ok (some record) ↔
      ∃ row, store.execution? activity task = some row ∧
        row.status = record.status.name ∧ row.switchValue = record.switchValue := by
  unfold Store.recordOf
  cases store.execution? activity task with
  | none => simp
  | some row =>
      simp only [Option.some.injEq, exists_eq_left', ← Status.ofName?_eq_some_iff]
      cases Status.ofName? row.status with
      | none => simp
      | some status =>
          simp only [Except.ok.injEq, Option.some.injEq]
          constructor
          · rintro rfl
            exact ⟨rfl, rfl⟩
          · rintro ⟨rfl, hvalue⟩
            rw [hvalue]

theorem Store.ended_eq (store : Store) (activity : Uuid) :
    store.sources.Ended activity = store.Ended activity := by
  funext task record
  exact propext (and_congr_left fun _ => Store.recordOf_eq_some_iff)

theorem Store.definitionOf_eq_some_iff {store : Store} {id : Uuid} {revision : Revision} :
    store.definitionOf id = .ok (some revision) ↔ ∃ row, store.revision? id = some row ∧
      ∃ definition, Decoder.definition.ofJson row.dag = .ok definition ∧
        revision = ⟨row.id, row.workflowId, row.version, definition⟩ := by
  unfold Store.definitionOf
  cases store.revision? id with
  | none => simp
  | some row =>
      simp only [Option.some.injEq, exists_eq_left']
      cases Decoder.definition.ofJson row.dag with
      | error fault => simp
      | ok definition => simp [eq_comm]

theorem revision_ok {service : Service} {id : Uuid} {revision : Revision}
    (h : service.revision id = .ok revision) :
    service.sources.definition id = .ok (some revision) := by
  obtain ⟨found, hfound, h⟩ := bind_ok.mp h
  cases found with
  | none => cases h
  | some other =>
      cases h
      exact Lookup.named_ok.mp hfound

/-- The store has the revision, and its definition can be read. -/
def Store.Holds (store : Store) (revision : Uuid) (definition : Definition) : Prop :=
  ∃ row, store.revision? revision = some row ∧ Decoder.definition.ofJson row.dag = .ok definition

section Held

variable {store : Store} {revision : Uuid} {definition : Definition}

theorem holds_of_revision_ok {limit : Nat} {found : Revision}
    (h : (store.service limit).revision revision = .ok found) :
    store.Holds revision found.definition := by
  obtain ⟨row, hrow, definition, hdag, rfl⟩ := Store.definitionOf_eq_some_iff.mp (revision_ok h)
  exact ⟨row, hrow, hdag⟩

theorem Store.Holds.revision_ok (h : store.Holds revision definition) (limit : Nat) :
    ∃ found, (store.service limit).revision revision = .ok found ∧
      found.definition = definition := by
  obtain ⟨row, hrow, hdag⟩ := h
  have hok := Store.definitionOf_eq_some_iff.mpr ⟨row, hrow, definition, hdag, rfl⟩
  exact ⟨_, bind_ok.mpr ⟨_, Lookup.named_ok.mpr hok, rfl⟩, rfl⟩

/-- Questions about a revision are questions about its definition. -/
theorem Store.Holds.canComplete_eq (h : store.Holds revision definition) (limit : Nat)
    (activity : Uuid) (task : String) :
    (store.service limit).canComplete revision activity task =
      (store.service limit).canCompleteIn definition activity task := by
  obtain ⟨found, hfound, rfl⟩ := h.revision_ok limit
  rw [Service.canComplete, hfound]
  rfl

theorem Store.Holds.validate_eq (h : store.Holds revision definition) (limit : Nat) :
    (store.service limit).validate revision =
      (store.service limit).validateDefinition definition := by
  obtain ⟨found, hfound, rfl⟩ := h.revision_ok limit
  rw [Service.validate, hfound]
  rfl

theorem Store.Holds.prunedGraph_eq (h : store.Holds revision definition) (limit : Nat)
    (activity : Option Uuid) :
    (store.service limit).prunedGraph revision activity =
      (store.service limit).graph activity definition := by
  obtain ⟨found, hfound, rfl⟩ := h.revision_ok limit
  rw [Service.prunedGraph, hfound]
  rfl

end Held

/-- **Reachability in closed form.**  If the question whether a task can still be reached has an
answer, then the revision is there, its definition can be read and has one start, and the answer is
yes exactly when a chain of open dependencies leads from the start to a task of that name. -/
theorem canComplete_iff {store : Store} {limit : Nat} {revision activity : Uuid} {task : String}
    {answer : Bool} (h : (store.service limit).canComplete revision activity task = .ok answer) :
    ∃ row definition first, store.revision? revision = some row ∧
      Decoder.definition.ofJson row.dag = .ok definition ∧
      definition.tasks.filter (fun task => task.kind = .start) = [first] ∧
      (answer = true ↔ ∃ last ∈ definition.tasks, last.id = task ∧ ReflTransGen
        (definition.OpenStep limit (store.Ended activity)) first last) := by
  obtain ⟨found, hfound, h⟩ := bind_ok.mp h
  obtain ⟨row, hrow, definition, hdag, rfl⟩ :=
    Store.definitionOf_eq_some_iff.mp (revision_ok hfound)
  obtain ⟨first, hfirst, hanswer⟩ := canCompleteIn_iff h
  have hended : (store.service limit).sources.Ended activity = store.Ended activity :=
    store.ended_eq activity
  rw [hended] at hanswer
  exact ⟨row, definition, first, hrow, hdag, hfirst, hanswer⟩

/-- A decision that leads on to the end when it says red, and astray otherwise. -/
def fork : Definition :=
  ⟨[Task.new "begin" .start,
    (Task.new "ask" .decision).dependsOn (.plain "begin"),
    (Task.new "ahead" .decision).dependsOn ⟨"ask", some (.ofLines ["red"]), none⟩,
    (Task.new "astray" .decision).dependsOn (.plain "ask"),
    (Task.new "end" .finish).dependsOn (.plain "ahead")]⟩

/-- The identifier of everything that follows. -/
def nilId : Uuid := ⟨List.replicate 32 0, rfl⟩

/-- The decision has said red. -/
def forkStore : Store :=
  (Store.empty.insertRevision nilId nilId 1 fork.toJson).record nilId nilId "ask" "completed"
    (some "red") ⟨0, 0, 0⟩

theorem fork_answers :
    (forkStore.service 1048576).canComplete nilId nilId "end" = .ok true ∧
    (forkStore.service 1048576).canComplete nilId nilId "astray" = .ok false ∧
    (∃ last ∈ fork.tasks, last.id = "end" ∧ ReflTransGen
      (fork.OpenStep 1048576 (forkStore.Ended nilId)) (Task.new "begin" .start) last) ∧
    ¬ ∃ last ∈ fork.tasks, last.id = "astray" ∧ ReflTransGen
      (fork.OpenStep 1048576 (forkStore.Ended nilId)) (Task.new "begin" .start) last := by
  have hend : (forkStore.service 1048576).canComplete nilId nilId "end" = .ok true := rfl
  have hastray : (forkStore.service 1048576).canComplete nilId nilId "astray" = .ok false := rfl
  have hread : ∀ row definition first, forkStore.revision? nilId = some row →
      Decoder.definition.ofJson row.dag = .ok definition →
      definition.tasks.filter (fun task => task.kind = .start) = [first] →
      definition = fork ∧ first = Task.new "begin" .start := by
    intro row definition first hrow hdag hfirst
    cases hrow
    cases hdag
    cases hfirst
    exact ⟨rfl, rfl⟩
  refine ⟨hend, hastray, ?_, ?_⟩
  · obtain ⟨row, definition, first, hrow, hdag, hfirst, hanswer⟩ := canComplete_iff hend
    obtain ⟨rfl, rfl⟩ := hread row definition first hrow hdag hfirst
    exact hanswer.mp rfl
  · obtain ⟨row, definition, first, hrow, hdag, hfirst, hanswer⟩ := canComplete_iff hastray
    obtain ⟨rfl, rfl⟩ := hread row definition first hrow hdag hfirst
    exact fun hchain => Bool.false_ne_true (hanswer.mpr hchain)

end Workflow
