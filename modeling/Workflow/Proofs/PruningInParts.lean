import Workflow.Proofs.Pruning

/-!
# Pruning in parts

Outcomes become known one after another, and a graph may have been pruned by the first of them
when the others come in.  It makes no difference (`prune_in_parts`): pruned by two lists of nodes,
in either order, a graph keeps the edges that it keeps when it is pruned once by a list that says
what the two of them say.

The second pruning looks at fewer edges than the first did, and a way that is kept only because
no other one matches might come back when the others are gone.  It does not, since the rule for a
single task is stable: of the edges it has kept it keeps all (`Node.keep_keep`).  So a task that
comes up twice with the same to say loses nothing the second time, and any other task still has
all of its edges when it comes up.
-/

namespace Workflow

/-! ## What a node says -/

/-- Two nodes with what is recorded of them say the same about the edges that leave them: both are
decisions or none is, and the status and the value are the same. -/
structure SaysSame (node other : Node) (record record' : Record) : Prop where
  decision : (∃ value, node.kind = .decision value) ↔ ∃ value, other.kind = .decision value
  status : record.status = record'.status
  value : record.switchValue = record'.switchValue

/-- Where both lists have a say about a task, they say the same. -/
def Agree (first second : List Node) : Prop :=
  ∀ task node record node' record', Decides first task node record →
    Decides second task node' record' → SaysSame node node' record record'

/-- A list of nodes says what two others say, and nothing else. -/
structure Joins (first second both : List Node) : Prop where
  decided : ∀ task, Decided both task ↔ Decided first task ∨ Decided second task
  first : Agree both first
  second : Agree both second

theorem Node.keep_of_decision {node : Node} (h : ∃ value, node.kind = .decision value)
    (record : Record) (edges : List Edge) :
    node.keep record edges = keptByValue record.switchValue edges := by
  obtain ⟨value, hkind⟩ := h
  simp only [Node.keep, hkind]

theorem Node.keep_of_ordinary {node : Node} (h : ¬ ∃ value, node.kind = .decision value)
    (record : Record) (edges : List Edge) :
    node.keep record edges = keptByStatus record.status edges := by
  unfold Node.keep
  split
  · next value hkind => exact absurd ⟨value, hkind⟩ h
  · rfl

theorem SaysSame.keep_eq {node other : Node} {record record' : Record}
    (h : SaysSame node other record record') (edges : List Edge) :
    node.keep record edges = other.keep record' edges := by
  by_cases hdecision : ∃ value, node.kind = .decision value
  · rw [Node.keep_of_decision hdecision, Node.keep_of_decision (h.decision.mp hdecision), h.value]
  · have hother : ¬ ∃ value, other.kind = .decision value := fun hex =>
      hdecision (h.decision.mpr hex)
    rw [Node.keep_of_ordinary hdecision, Node.keep_of_ordinary hother, h.status]

theorem SaysSame.refl (node : Node) (record : Record) : SaysSame node node record record :=
  ⟨Iff.rfl, rfl, rfl⟩

/-- There is one node that counts, and one record of it. -/
theorem Decides.unique {nodes : List Node} {task : String} {node node' : Node}
    {record record' : Record} (h : Decides nodes task node record)
    (h' : Decides nodes task node' record') : node = node' ∧ record = record' := by
  obtain rfl : node = node' := Option.some.inj
    ((nodeOf?_eq_some_iff.mpr h.last).symm.trans (nodeOf?_eq_some_iff.mpr h'.last))
  exact ⟨rfl, Option.some.inj (h.recorded.symm.trans h'.recorded)⟩

theorem Agree.refl (nodes : List Node) : Agree nodes nodes := by
  intro task node record node' record' h h'
  obtain ⟨rfl, rfl⟩ := h.unique h'
  exact .refl node record

theorem SaysSame.symm {node other : Node} {record record' : Record}
    (h : SaysSame node other record record') : SaysSame other node record' record :=
  ⟨h.decision.symm, h.status.symm, h.value.symm⟩

theorem SaysSame.trans {node node' node'' : Node} {record record' record'' : Record}
    (h : SaysSame node node' record record') (h' : SaysSame node' node'' record' record'') :
    SaysSame node node'' record record'' :=
  ⟨h.decision.trans h'.decision, h.status.trans h'.status, h.value.trans h'.value⟩

theorem Agree.symm {first second : List Node} (h : Agree first second) : Agree second first := by
  intro task node record node' record' hsecond hfirst
  exact (h _ _ _ _ _ hfirst hsecond).symm

theorem Joins.refl (nodes : List Node) : Joins nodes nodes nodes where
  decided := by
    intro task
    exact (or_self_iff).symm
  first := .refl nodes
  second := .refl nodes

theorem Joins.symm {first second both : List Node} (h : Joins first second both) :
    Joins second first both where
  decided := by
    intro task
    rw [h.decided task]
    exact or_comm
  first := h.second
  second := h.first

/-- Two lists that can be joined agree. -/
theorem Joins.agree {first second both : List Node} (h : Joins first second both) :
    Agree first second := by
  intro task node record node' record' hfirst hsecond
  obtain ⟨joined, said, hboth⟩ := (h.decided task).mpr (Or.inl ⟨node, record, hfirst⟩)
  exact (h.first _ _ _ _ _ hboth hfirst).symm.trans (h.second _ _ _ _ _ hboth hsecond)

/-- No node that has a say about the source of an edge lets the edge go. -/
def Spares (nodes : List Node) (g : Graph) (edge : Edge) : Prop :=
  ∀ node record, Decides nodes edge.source node record →
    edge ∈ node.keep record (g.outgoing edge.source)

theorem Spares.of_agree {nodes other : List Node} (h : Agree nodes other) {g : Graph} {edge : Edge}
    (hdecided : Decided other edge.source → Decided nodes edge.source)
    (hspares : Spares nodes g edge) : Spares other g edge := by
  intro node record hother
  obtain ⟨node', record', hdecides⟩ := hdecided ⟨node, record, hother⟩
  rw [← (h _ _ _ _ _ hdecides hother).keep_eq]
  exact hspares node' record' hdecides

theorem Joins.spares_iff {first second both : List Node} (h : Joins first second both) {g : Graph}
    {edge : Edge} : Spares both g edge ↔ Spares first g edge ∧ Spares second g edge := by
  constructor
  · intro hboth
    exact ⟨hboth.of_agree h.first fun hfirst => (h.decided _).mpr (Or.inl hfirst),
      hboth.of_agree h.second fun hsecond => (h.decided _).mpr (Or.inr hsecond)⟩
  · rintro ⟨hfirst, hsecond⟩ node record hboth
    rcases (h.decided edge.source).mp ⟨node, record, hboth⟩ with hdecided | hdecided
    · exact hfirst.of_agree h.first.symm (fun _ => hdecided) node record hboth
    · exact hsecond.of_agree h.second.symm (fun _ => hdecided) node record hboth

/-! ## Keeping is stable -/

theorem keptByValue_of_none {value : Option String} {edges : List Edge}
    (h : edges.filter (Edge.selected value) = []) :
    keptByValue value edges = edges.filter fun edge => edge.switch.isNone := by
  unfold keptByValue
  rw [h]

theorem keptByValue_of_some {value : Option String} {edges : List Edge}
    (h : edges.filter (Edge.selected value) ≠ []) :
    keptByValue value edges = edges.filter (Edge.selected value) := by
  unfold keptByValue
  split
  · next hnone => exact absurd hnone h
  · rfl

theorem Node.keep_sublist (node : Node) (record : Record) (edges : List Edge) :
    (node.keep record edges).Sublist edges := by
  by_cases hdecision : ∃ value, node.kind = .decision value
  · rw [Node.keep_of_decision hdecision]
    unfold keptByValue
    split
    · exact List.filter_sublist
    · exact List.filter_sublist
  · rw [Node.keep_of_ordinary hdecision]
    exact List.filter_sublist

/-- Of the ways kept because no other matches none matches either, and of those that match all
do. -/
theorem keptByValue_keptByValue (value : Option String) (edges : List Edge) :
    keptByValue value (keptByValue value edges) = keptByValue value edges := by
  by_cases hnone : edges.filter (Edge.selected value) = []
  · have hstill : (edges.filter fun edge => edge.switch.isNone).filter (Edge.selected value) = [] :=
      List.eq_nil_of_sublist_nil (hnone ▸ List.filter_sublist.filter _)
    rw [keptByValue_of_none hnone, keptByValue_of_none hstill, List.filter_filter]
    simp only [Bool.and_self]
  · have hsame : (edges.filter (Edge.selected value)).filter (Edge.selected value) =
        edges.filter (Edge.selected value) := by
      rw [List.filter_filter]
      simp only [Bool.and_self]
    have hstill : (edges.filter (Edge.selected value)).filter (Edge.selected value) ≠ [] := by
      rw [hsame]
      exact hnone
    rw [keptByValue_of_some hnone, keptByValue_of_some hstill, hsame]

/-- Of the edges it has kept a node keeps all. -/
theorem Node.keep_keep (node : Node) (record : Record) (edges : List Edge) :
    node.keep record (node.keep record edges) = node.keep record edges := by
  by_cases hdecision : ∃ value, node.kind = .decision value
  · simp only [Node.keep_of_decision hdecision]
    exact keptByValue_keptByValue _ _
  · simp only [Node.keep_of_ordinary hdecision, keptByStatus, List.filter_filter, Bool.and_self]

/-! ## One pruning after another -/

/-- Edges listed by descending number can be listed in one way only. -/
theorem eq_of_descending {left right : List Edge}
    (hleft : left.Pairwise fun a b => b.number < a.number)
    (hright : right.Pairwise fun a b => b.number < a.number)
    (hmem : ∀ edge, edge ∈ left ↔ edge ∈ right) : left = right := by
  have hnodup : ∀ edges : List Edge, edges.Pairwise (fun a b => b.number < a.number) →
      edges.Nodup := by
    intro edges hdescending
    refine hdescending.imp ?_
    rintro a _ hlt rfl
    exact Nat.lt_irrefl _ hlt
  have hperm : left.Perm right :=
    (List.perm_ext_iff_of_nodup (hnodup left hleft) (hnodup right hright)).mpr hmem
  refine hperm.eq_of_pairwise ?_ hleft hright
  intro a b _ _ hab hba
  exact absurd hab (Nat.lt_asymm hba)

section

variable {g : Graph} (hranked : g.Ranked) {nodes first second both : List Node}

include hranked

theorem ranked_prune (nodes : List Node) : (g.prune nodes).1.Ranked :=
  hranked.mono (prune_edges_sublist hranked nodes).subset

/-- A task that nobody has a say about has all the edges that it had. -/
theorem outgoing_prune_of_not_decided {task : String} (h : ¬ Decided nodes task) :
    (g.prune nodes).1.outgoing task = g.outgoing task := by
  refine eq_of_descending (Graph.outgoing_descending _ _) (g.outgoing_descending task) ?_
  intro edge
  rw [Graph.mem_outgoing, Graph.mem_outgoing, mem_prune_edges_iff hranked]
  constructor
  · rintro ⟨⟨hmem, -⟩, hsource⟩
    exact ⟨hmem, hsource⟩
  · rintro ⟨hmem, rfl⟩
    refine ⟨⟨hmem, ?_⟩, rfl⟩
    intro node record hdecides
    exact absurd ⟨node, record, hdecides⟩ h

/-- A task that a node has a say about has the edges that the node keeps. -/
theorem outgoing_prune_of_decides {task : String} {node : Node} {record : Record}
    (h : Decides nodes task node record) :
    (g.prune nodes).1.outgoing task = node.keep record (g.outgoing task) := by
  have hsub := node.keep_sublist record (g.outgoing task)
  refine eq_of_descending (Graph.outgoing_descending _ _)
    ((g.outgoing_descending task).sublist hsub) ?_
  intro edge
  rw [Graph.mem_outgoing, mem_prune_edges_iff hranked]
  constructor
  · rintro ⟨⟨-, hkept⟩, rfl⟩
    exact hkept node record h
  · intro hkept
    obtain ⟨hmem, rfl⟩ := Graph.mem_outgoing.mp (hsub.subset hkept)
    refine ⟨⟨hmem, ?_⟩, rfl⟩
    intro node' record' h'
    obtain ⟨rfl, rfl⟩ := h.unique h'
    exact hkept

/-- What two prunings leave is told from the edges that were there before both of them. -/
theorem mem_prune_prune_iff (hagree : Agree first second) {edge : Edge} :
    edge ∈ ((g.prune first).1.prune second).1.edges ↔
      edge ∈ g.edges ∧ Spares first g edge ∧ Spares second g edge := by
  rw [mem_prune_edges_iff (ranked_prune hranked first), mem_prune_edges_iff hranked, and_assoc]
  refine and_congr_right fun _ => and_congr_right fun _ => ?_
  refine forall_congr' fun node => forall_congr' fun record => imp_congr_right fun hsecond => ?_
  by_cases hdecided : Decided first edge.source
  · -- what the second node keeps of the edges kept by the first it keeps of all of them
    obtain ⟨node', record', hdecides⟩ := hdecided
    have hsame := hagree _ _ _ _ _ hdecides hsecond
    rw [outgoing_prune_of_decides hranked hdecides, ← hsame.keep_eq, ← hsame.keep_eq,
      node'.keep_keep]
  · rw [outgoing_prune_of_not_decided hranked hdecided]

/-- Pruned by two lists one after another, a graph is as pruned by a list that joins them. -/
theorem prune_prune (h : Joins first second both) :
    ((g.prune first).1.prune second).1 = (g.prune both).1 := by
  refine Graph.eq_of_mem_iff ?_ ?_
  · rw [prune_tasks (ranked_prune hranked first), prune_tasks hranked, prune_tasks hranked]
  · intro edge
    rw [mem_prune_prune_iff hranked h.agree, ← h.spares_iff]
    exact (mem_prune_edges_iff hranked both).symm

/-- The tasks that came up with something to say are those of the graph that a node has a say
about. -/
theorem mem_prune_evaluated_iff {task : String} :
    task ∈ (g.prune nodes).2.evaluated ↔ task ∈ g.tasks ∧ Decided nodes task := by
  obtain ⟨visits, hperm, -, -, -, -, hevaluated, -⟩ := prune_run hranked nodes
  rw [hevaluated, List.mem_filter, hperm.mem_iff, isSome_keptAt?_iff]

/-- Where no edge goes none is listed. -/
theorem pruned_eq_nil (h : (g.prune nodes).1 = g) : (g.prune nodes).2.pruned = [] := by
  obtain ⟨visits, -, -, -, hleft, -, -, hpruned⟩ := prune_run hranked nodes
  rw [hpruned, List.map_eq_nil_iff, List.flatMap_eq_nil_iff]
  intro task _
  rw [List.eq_nil_iff_forall_not_mem]
  intro edge hlost
  obtain ⟨hmem, rfl⟩ := mem_lostAt hlost
  rw [h] at hleft
  exact ((hleft edge).mp hmem).2 hlost

end

/-- **A graph can be pruned in parts.**  Pruned by two lists of nodes that agree, in either order,
it is as pruned by a list that says what they say.  In particular a second pruning by the same list
takes nothing, and the same tasks come up with something to say. -/
theorem prune_in_parts {limit : Nat} {g : Graph} (h : Graph.Made limit g)
    {first second both : List Node} (hjoins : Joins first second both) :
    ((g.prune first).1.prune second).1 = (g.prune both).1 ∧
    ((g.prune second).1.prune first).1 = (g.prune both).1 ∧
    ∀ nodes : List Node,
      ((g.prune nodes).1.prune nodes).2.pruned = [] ∧
      ((g.prune nodes).1.prune nodes).1 = (g.prune nodes).1 ∧
      ∀ task, task ∈ ((g.prune nodes).1.prune nodes).2.evaluated ↔
        task ∈ (g.prune nodes).2.evaluated := by
  have hranked := h.ranked
  refine ⟨prune_prune hranked hjoins, prune_prune hranked hjoins.symm, ?_⟩
  intro nodes
  have hagain := ranked_prune hranked nodes
  have hsame := prune_prune hranked (.refl nodes)
  refine ⟨pruned_eq_nil hagain hsame, hsame, ?_⟩
  intro task
  rw [mem_prune_evaluated_iff hagain, mem_prune_evaluated_iff hranked, prune_tasks hranked]

/-- The decision is known, and what comes behind it is at work. -/
def early : List Node :=
  [⟨"ask", "ask", .decision none, [], some ⟨.completed, some "blue"⟩⟩,
   ⟨"left", "left", .decision none, [], some ⟨.inProgress, some "blue"⟩⟩]

/-- What comes behind the decision has failed, and the decision is reported once more. -/
def late : List Node :=
  [⟨"left", "left", .task .script ⟨"run", ⟨1, [], []⟩, [], []⟩, [], some ⟨.failed, none⟩⟩,
   ⟨"ask", "asked again", .decision (some "colour"), [], some ⟨.completed, some "blue"⟩⟩]

/-- The decision has come to blue, and what comes behind it has failed. -/
def Reported (task : String) (node : Node) (record : Record) : Prop :=
  (task = "ask" ∧ (∃ value, node.kind = .decision value) ∧ record = ⟨.completed, some "blue"⟩) ∨
  (task = "left" ∧ (¬ ∃ value, node.kind = .decision value) ∧ record = ⟨.failed, none⟩)

theorem Reported.same {task : String} {node node' : Node} {record record' : Record}
    (h : Reported task node record) (h' : Reported task node' record') :
    SaysSame node node' record record' := by
  rcases h with ⟨rfl, hkind, rfl⟩ | ⟨rfl, hkind, rfl⟩
  · rcases h' with ⟨-, hkind', rfl⟩ | ⟨hname, -⟩
    · exact ⟨iff_of_true hkind hkind', rfl, rfl⟩
    · simp at hname
  · rcases h' with ⟨hname, -⟩ | ⟨-, hkind', rfl⟩
    · simp at hname
    · exact ⟨iff_of_false hkind hkind', rfl, rfl⟩

theorem early_reported {task : String} {node : Node} {record : Record}
    (h : Decides early task node record) : task = "ask" ∧ Reported task node record := by
  obtain ⟨hmem, rfl⟩ := h.last.mem
  have hrecorded := h.recorded
  have hended := h.ended
  simp only [early, List.mem_cons, List.not_mem_nil, or_false] at hmem
  rcases hmem with rfl | rfl
  · cases hrecorded
    exact ⟨rfl, Or.inl ⟨rfl, ⟨none, rfl⟩, rfl⟩⟩
  · cases hrecorded
    simp at hended

theorem late_reported {task : String} {node : Node} {record : Record}
    (h : Decides late task node record) : Reported task node record := by
  obtain ⟨hmem, rfl⟩ := h.last.mem
  have hrecorded := h.recorded
  simp only [late, List.mem_cons, List.not_mem_nil, or_false] at hmem
  rcases hmem with rfl | rfl
  · cases hrecorded
    exact Or.inr ⟨rfl, by simp, rfl⟩
  · cases hrecorded
    exact Or.inl ⟨rfl, ⟨some "colour", rfl⟩, rfl⟩

theorem crossing_reported {task : String} {node : Node} {record : Record}
    (h : Decides crossing task node record) : Reported task node record := by
  obtain ⟨hmem, rfl⟩ := h.last.mem
  have hrecorded := h.recorded
  simp only [crossing, List.mem_cons, List.not_mem_nil, or_false] at hmem
  rcases hmem with rfl | rfl | rfl | rfl | rfl | rfl
  all_goals
    cases hrecorded
  · exact Or.inl ⟨rfl, ⟨none, rfl⟩, rfl⟩
  · exact Or.inr ⟨rfl, by simp, rfl⟩

theorem early_late_joined : Joins early late crossing where
  decided := by
    have hearly : Decided early "ask" := ⟨_, _,
      (nodeOf?_eq_some_iff.mp rfl), rfl, rfl, Or.inl rfl⟩
    have hlate : Decided late "left" := ⟨_, _,
      (nodeOf?_eq_some_iff.mp rfl), rfl, rfl, Or.inr rfl⟩
    have hask : Decided crossing "ask" := ⟨_, _,
      (nodeOf?_eq_some_iff.mp rfl), rfl, rfl, Or.inl rfl⟩
    have hleft : Decided crossing "left" := ⟨_, _,
      (nodeOf?_eq_some_iff.mp rfl), rfl, rfl, Or.inr rfl⟩
    intro task
    constructor
    · rintro ⟨node, record, h⟩
      rcases crossing_reported h with ⟨rfl, -⟩ | ⟨rfl, -⟩
      · exact Or.inl hearly
      · exact Or.inr hlate
    · rintro (⟨node, record, h⟩ | ⟨node, record, h⟩)
      · obtain ⟨rfl, -⟩ := early_reported h
        exact hask
      · rcases late_reported h with ⟨rfl, -⟩ | ⟨rfl, -⟩
        · exact hask
        · exact hleft
  first := by
    intro task node record node' record' h h'
    exact (crossing_reported h).same (early_reported h').2
  second := by
    intro task node record node' record' h h'
    exact (crossing_reported h).same (late_reported h')

theorem crossing_pruned_in_parts : ∃ g, Graph.Made 1048576 g ∧ Joins early late crossing ∧
    (g.prune early).2.pruned = [("ask", "right"), ("ask", "left")] ∧
    ((g.prune early).1.prune late).2.evaluated = ["ask", "left"] ∧
    ((g.prune early).1.prune late).2.pruned = [("left", "ship")] ∧
    ((g.prune early).1.prune late).1 = (g.prune crossing).1 ∧
    ((g.prune late).1.prune early).1 = (g.prune crossing).1 ∧
    ((g.prune late).1.prune late).2.pruned = [] := by
  obtain ⟨g, hg⟩ : ∃ g, Graph.ofNodes 1048576 crossing = .ok g := ⟨_, rfl⟩
  have hmade : Graph.Made 1048576 g := .built hg
  obtain ⟨hforth, hback, hagain⟩ := prune_in_parts hmade early_late_joined
  refine ⟨g, hmade, early_late_joined, ?_, ?_, ?_, hforth, hback, (hagain late).1⟩
  all_goals
    cases hg
    rfl

end Workflow
