import Workflow.Pruning
import Workflow.Proofs.Graph.Build
import Workflow.Proofs.Graph.Walk

/-!
# Pruning as a filter

Pruning removes edges from the graph it walks on.  Yet what it leaves can be told from the graph
as it was at the beginning (`prune_eq_filter`): an edge stays unless its source had a say and did
not keep it among *all* the edges that left the source then.

The reason is that an edge is only ever touched at the turn of its own source.  So when a task
comes up its outgoing edges are still those of the beginning, and they are lost after the visit,
never early.  `lostAt` is what goes at the turn of a task, computed from the beginning; `spared`
is what is left after some visits; and the loop keeps the edges equal to the filter by `spared`
(`pruneAlong_run`).
-/

namespace Workflow

open Relation

/-! ## Who has a say -/

/-- The node of a task that counts: none after it has its name. -/
def LastNamed (nodes : List Node) (task : String) (node : Node) : Prop :=
  ∃ before after, nodes = before ++ node :: after ∧ node.id = task ∧
    ∀ other ∈ after, other.id ≠ task

/-- The node of a task that counts is no beginning and no end, and is recorded to have ended, in
completion or in failure. -/
structure Decides (nodes : List Node) (task : String) (node : Node) (record : Record) : Prop where
  last : LastNamed nodes task node
  ordinary : node.kind.isSentinel = false
  recorded : node.record = some record
  ended : record.status = .completed ∨ record.status = .failed

/-- Some node has a say about the edges that leave a task. -/
def Decided (nodes : List Node) (task : String) : Prop :=
  ∃ node record, Decides nodes task node record

/-- The edges that a node keeps, given its record. -/
def Node.keep (node : Node) (record : Record) (edges : List Edge) : List Edge :=
  match node.kind with
  | .decision _ => keptByValue record.switchValue edges
  | _ => keptByStatus record.status edges

theorem nodeOf?_eq_some_iff {nodes : List Node} {task : String} {node : Node} :
    nodeOf? nodes task = some node ↔ LastNamed nodes task node := by
  rw [nodeOf?, List.find?_eq_some_iff_append]
  constructor
  · rintro ⟨hname, after, before, heq, hnone⟩
    refine ⟨before.reverse, after.reverse, ?_, by simpa using hname, fun other hmem => ?_⟩
    · simpa using congrArg List.reverse heq
    · simpa using hnone other (List.mem_reverse.mp hmem)
  · rintro ⟨before, after, rfl, rfl, hnone⟩
    refine ⟨by simp, after.reverse, before.reverse, by simp, fun other hmem => ?_⟩
    simpa using hnone other (List.mem_reverse.mp hmem)

theorem LastNamed.mem {nodes : List Node} {task : String} {node : Node}
    (h : LastNamed nodes task node) : node ∈ nodes ∧ node.id = task := by
  obtain ⟨before, after, rfl, hname, -⟩ := h
  exact ⟨List.mem_append_right _ List.mem_cons_self, hname⟩

/-- Where names are distinct every node counts. -/
theorem lastNamed_of_mem {nodes : List Node} (hnodup : (nodes.map Node.id).Nodup) {node : Node}
    (hmem : node ∈ nodes) : LastNamed nodes node.id node := by
  obtain ⟨before, after, rfl⟩ := List.append_of_mem hmem
  refine ⟨before, after, rfl, rfl, fun other hother heq => ?_⟩
  rw [List.map_append, List.map_cons] at hnodup
  have hnot := (List.nodup_cons.mp (List.nodup_append.mp hnodup).2.1).1
  exact hnot (heq ▸ List.mem_map_of_mem hother)

theorem Status.isOutcome_iff {status : Status} :
    status.isOutcome = true ↔ status = .completed ∨ status = .failed := by
  cases status <;> simp [Status.isOutcome]

theorem Node.kept?_eq_some_iff {node : Node} {edges kept : List Edge} :
    node.kept? edges = some kept ↔ node.kind.isSentinel = false ∧
      ∃ record, node.record = some record ∧
        (record.status = .completed ∨ record.status = .failed) ∧
        kept = node.keep record edges := by
  unfold Node.kept?
  cases hkind : node.kind.isSentinel with
  | true => simp
  | false =>
      cases hrecord : node.record with
      | none => simp [Node.outcome?, hrecord]
      | some record =>
          simp only [Bool.false_eq_true, if_false, Node.outcome?, hrecord, Option.map_some,
            Option.filter_some, Option.bind_some, true_and, Option.some.injEq,
            exists_eq_left', ← Status.isOutcome_iff]
          cases record.status.isOutcome with
          | false => simp
          | true =>
              simp only [if_true, Option.map_some, Option.some.injEq, true_and, Node.keep]
              exact eq_comm

/-- What the node of a task keeps of the edges that leave it, if it has a say. -/
def keptAt? (nodes : List Node) (g : Graph) (task : String) : Option (List Edge) :=
  (nodeOf? nodes task).bind fun node => node.kept? (g.outgoing task)

theorem keptAt?_eq_some_iff {nodes : List Node} {g : Graph} {task : String}
    {kept : List Edge} :
    keptAt? nodes g task = some kept ↔ ∃ node record, Decides nodes task node record ∧
      kept = node.keep record (g.outgoing task) := by
  simp only [keptAt?, Option.bind_eq_some_iff, nodeOf?_eq_some_iff, Node.kept?_eq_some_iff]
  constructor
  · rintro ⟨node, hlast, hordinary, record, hrecorded, hended, hkept⟩
    exact ⟨node, record, ⟨hlast, hordinary, hrecorded, hended⟩, hkept⟩
  · rintro ⟨node, record, h, hkept⟩
    exact ⟨node, h.last, h.ordinary, record, h.recorded, h.ended, hkept⟩

theorem isSome_keptAt?_iff {nodes : List Node} {g : Graph} {task : String} :
    (keptAt? nodes g task).isSome = true ↔ Decided nodes task := by
  rw [Option.isSome_iff_exists]
  constructor
  · rintro ⟨kept, hkept⟩
    obtain ⟨node, record, h, -⟩ := keptAt?_eq_some_iff.mp hkept
    exact ⟨node, record, h⟩
  · rintro ⟨node, record, h⟩
    exact ⟨_, keptAt?_eq_some_iff.mpr ⟨node, record, h, rfl⟩⟩

theorem Node.keep_subset (node : Node) (record : Record) (edges : List Edge) :
    node.keep record edges ⊆ edges := by
  have hvalue : keptByValue record.switchValue edges ⊆ edges := by
    unfold keptByValue
    split <;> exact List.filter_subset_self _
  have hstatus : keptByStatus record.status edges ⊆ edges := List.filter_subset_self _
  unfold Node.keep
  split
  · exact hvalue
  · exact hstatus

/-- Behind a decision an edge stays if it is selected, or if none is and it has no condition. -/
theorem mem_keptByValue_iff {value : Option String} {edges : List Edge} {edge : Edge} :
    edge ∈ keptByValue value edges ↔ edge ∈ edges ∧ (edge.selected value = true ∨
      (∀ other ∈ edges, other.selected value ≠ true) ∧ edge.switch = none) := by
  unfold keptByValue
  split
  · next hnone =>
      have hall := List.filter_eq_nil_iff.mp hnone
      rw [List.mem_filter, Option.isNone_iff_eq_none]
      refine and_congr_right fun hmem => ⟨fun hswitch => Or.inr ⟨hall, hswitch⟩, ?_⟩
      rintro (hselected | ⟨-, hswitch⟩)
      · exact absurd hselected (hall edge hmem)
      · exact hswitch
  · next hsome =>
      rw [List.mem_filter]
      refine and_congr_right fun hmem => ⟨Or.inl, ?_⟩
      rintro (hselected | ⟨hall, -⟩)
      · exact hselected
      · exact absurd (List.filter_eq_nil_iff.mpr hall) hsome

/-! ## What goes, and when -/

/-- The edges that go when a task comes up, of those that left it at the beginning. -/
def lostAt (nodes : List Node) (origin : Graph) (task : String) : List Edge :=
  match keptAt? nodes origin task with
  | none => []
  | some kept => doomed (origin.outgoing task) kept

/-- The edge is not among those that went at the visits so far. -/
def spared (nodes : List Node) (origin : Graph) (visited : List String) (edge : Edge) : Bool :=
  !visited.contains edge.source ||
    !((lostAt nodes origin edge.source).map Edge.number).contains edge.number

theorem lostAt_sublist (nodes : List Node) (origin : Graph) (task : String) :
    (lostAt nodes origin task).Sublist (origin.outgoing task) := by
  unfold lostAt
  split
  · exact List.nil_sublist _
  · exact List.filter_sublist

theorem mem_lostAt {nodes : List Node} {origin : Graph} {task : String} {edge : Edge}
    (h : edge ∈ lostAt nodes origin task) : edge ∈ origin.edges ∧ edge.source = task :=
  Graph.mem_outgoing.mp ((lostAt_sublist nodes origin task).subset h)

/-- An edge of the beginning goes under its number. -/
theorem number_mem_lostAt {nodes : List Node} {origin : Graph} {task : String} {edge : Edge}
    (hedge : edge ∈ origin.edges) :
    edge.number ∈ (lostAt nodes origin task).map Edge.number ↔
      edge ∈ lostAt nodes origin task := by
  constructor
  · intro hnumber
    obtain ⟨other, hother, heq⟩ := List.mem_map.mp hnumber
    exact Graph.eq_of_number_eq (mem_lostAt hother).1 hedge heq ▸ hother
  · exact List.mem_map_of_mem

theorem not_mem_lostAt_iff {nodes : List Node} {origin : Graph} {edge : Edge}
    (hedge : edge ∈ origin.edges) :
    edge ∉ lostAt nodes origin edge.source ↔ ∀ node record,
      Decides nodes edge.source node record →
        edge ∈ node.keep record (origin.outgoing edge.source) := by
  have hout : edge ∈ origin.outgoing edge.source := Graph.mem_outgoing.mpr ⟨hedge, rfl⟩
  -- what is kept is told from what is lost by the number
  have hdoomed : ∀ kept ⊆ origin.outgoing edge.source,
      (edge ∉ doomed (origin.outgoing edge.source) kept ↔ edge ∈ kept) := by
    intro kept hsub
    simp only [doomed, List.mem_filter, hout, true_and, Bool.not_eq_true', Bool.not_eq_false,
      List.any_eq_true, beq_iff_eq]
    constructor
    · rintro ⟨other, hother, heq⟩
      have hmem := (Graph.mem_outgoing.mp (hsub hother)).1
      exact Graph.eq_of_number_eq hmem hedge heq ▸ hother
    · exact fun hmem => ⟨edge, hmem, rfl⟩
  unfold lostAt
  cases hkept : keptAt? nodes origin edge.source with
  | none =>
      simp only [List.not_mem_nil, not_false_eq_true, true_iff]
      intro node record h
      rw [keptAt?_eq_some_iff.mpr ⟨node, record, h, rfl⟩] at hkept
      cases hkept
  | some kept =>
      obtain ⟨node, record, h, rfl⟩ := keptAt?_eq_some_iff.mp hkept
      show edge ∉ doomed _ (node.keep record _) ↔ _
      rw [hdoomed _ (node.keep_subset record _)]
      constructor
      · intro hmem other record' h'
        rw [keptAt?_eq_some_iff.mpr ⟨other, record', h', rfl⟩] at hkept
        exact Option.some.inj hkept ▸ hmem
      · exact fun hall => hall node record h

/-- The turn of a task takes its own lost edges and touches no others. -/
theorem filter_spared_visit {nodes : List Node} {origin : Graph} {visited : List String}
    {task : String} (hnew : task ∉ visited) :
    (origin.edges.filter (spared nodes origin visited)).filter
        (fun edge => !((lostAt nodes origin task).map Edge.number).contains edge.number) =
      origin.edges.filter (spared nodes origin (task :: visited)) := by
  rw [List.filter_filter]
  refine List.filter_congr fun edge hedge => ?_
  by_cases hsource : edge.source = task
  · subst hsource
    simp [spared, hnew]
  · have hnot : edge.number ∉ (lostAt nodes origin task).map Edge.number := fun h =>
      hsource (mem_lostAt ((number_mem_lostAt hedge).mp h)).2
    simp [spared, hsource, hnot]

/-- Before its turn, what leaves a task is what left it at the beginning. -/
theorem outgoing_eq_of_spared {nodes : List Node} {origin g : Graph} {visited : List String}
    {task : String} (hedges : g.edges = origin.edges.filter (spared nodes origin visited))
    (hnew : task ∉ visited) : g.outgoing task = origin.outgoing task := by
  unfold Graph.outgoing
  rw [hedges, List.filter_filter]
  refine congrArg List.reverse (List.filter_congr fun edge _ => ?_)
  by_cases hsource : edge.source = task
  · simp [spared, hsource, hnew]
  · simp [hsource]

/-! ## The loop -/

/-- The source and the target of an edge. -/
def Edge.ends (edge : Edge) : String × String := (edge.source, edge.target)

theorem Graph.removeAll_nil (g : Graph) : g.removeAll [] = g := by
  simp [Graph.removeAll, Graph.restrict]

theorem pruneAlong_end {nodes : List Node} {count : Nat} {g : Graph} {walk : Walk}
    (h : walk.next? g = none) : Graph.pruneAlong nodes count g walk = (g, ⟨[], []⟩) := by
  cases count with
  | zero => rfl
  | succ count => simp [Graph.pruneAlong, h]

/-- One turn of the loop, told from the beginning. -/
theorem pruneAlong_visit {nodes : List Node} {count : Nat} {origin g : Graph} {walk walk' : Walk}
    {task : String} (hnext : walk.next? g = some (task, walk'))
    (hout : g.outgoing task = origin.outgoing task) :
    Graph.pruneAlong nodes (count + 1) g walk =
      let rest := Graph.pruneAlong nodes count
        (g.removeAll ((lostAt nodes origin task).map Edge.number)) walk'
      (rest.1, ⟨(if (keptAt? nodes origin task).isSome then [task] else []) ++ rest.2.evaluated,
        (lostAt nodes origin task).map Edge.ends ++ rest.2.pruned⟩) := by
  rw [Graph.pruneAlong, hnext]
  show (match keptAt? nodes g task with | none => _ | some kept => _) = _
  have hsame : keptAt? nodes g task = keptAt? nodes origin task := by
    simp only [keptAt?, hout]
  rw [hsame]
  cases hkept : keptAt? nodes origin task with
  | none => simp [lostAt, hkept, Graph.removeAll_nil]
  | some kept =>
      simp only [lostAt, hkept, hout, Option.isSome_some, if_true, List.singleton_append]
      rfl

/-- What the loop does from any point on: it visits the tasks that are left, and the edges end up
filtered by all visits. -/
theorem pruneAlong_run (nodes : List Node) {origin : Graph} (hranked : origin.Ranked) :
    ∀ (count : Nat) {g : Graph} {walk : Walk}, Walk.Sound origin (fun _ => False) g walk →
      g.edges = origin.edges.filter (spared nodes origin walk.visited) →
      origin.tasks.length ≤ count + walk.visited.length →
      ∃ (visits : List String) (final : Walk),
        Walk.Sound origin (fun _ => False) (Graph.pruneAlong nodes count g walk).1 final ∧
        final.visited = visits.reverse ++ walk.visited ∧
        final.visited.Perm origin.tasks ∧
        (Graph.pruneAlong nodes count g walk).1.edges =
          origin.edges.filter (spared nodes origin final.visited) ∧
        (Graph.pruneAlong nodes count g walk).2.evaluated =
          visits.filter (fun task => (keptAt? nodes origin task).isSome) ∧
        (Graph.pruneAlong nodes count g walk).2.pruned =
          (visits.flatMap (lostAt nodes origin)).map Edge.ends := by
  intro count
  induction count with
  | zero =>
      intro g walk hsound hedges hcount
      have hperm : walk.visited.Perm origin.tasks :=
        (List.subperm_of_subset hsound.distinct hsound.known).perm_of_length_le (by omega)
      exact ⟨[], walk, hsound, rfl, hperm, hedges, rfl, rfl⟩
  | succ count ih =>
      intro g walk hsound hedges hcount
      cases hnext : walk.next? g with
      | none =>
          rw [pruneAlong_end hnext]
          have hperm := hsound.perm_of_end (hranked.mono hsound.edges) hnext fun _ h => h
          exact ⟨[], walk, hsound, rfl, hperm, hedges, rfl, rfl⟩
      | some found =>
          obtain ⟨task, walk'⟩ := found
          obtain ⟨hvisit, hvisited⟩ := hsound.next hnext
          obtain ⟨_, _, -, -, hnew, -⟩ := Walk.take_eq_some hnext
          rw [pruneAlong_visit hnext (outgoing_eq_of_spared hedges hnew)]
          -- the edges that go now had the task just visited for their source
          have hstep : Walk.Sound origin (fun _ => False)
              (g.removeAll ((lostAt nodes origin task).map Edge.number)) walk' := by
            refine hvisit.restrict (fun _ h => h) fun edge hmem hkeep hopen => hopen ?_
            have hnumber : edge.number ∈ (lostAt nodes origin task).map Edge.number := by
              simpa using hkeep
            rw [hvisited, (mem_lostAt ((number_mem_lostAt (hsound.edges hmem)).mp hnumber)).2]
            exact List.mem_cons_self
          have hfilter :
              (g.removeAll ((lostAt nodes origin task).map Edge.number)).edges =
                origin.edges.filter (spared nodes origin walk'.visited) := by
            rw [hvisited, ← filter_spared_visit hnew, ← hedges]
            rfl
          obtain ⟨visits, final, hfinal, hall, hperm, hleft, hevaluated, hpruned⟩ :=
            ih hstep hfilter (by rw [hvisited, List.length_cons]; omega)
          refine ⟨task :: visits, final, hfinal, ?_, hperm, hleft, ?_, ?_⟩
          · rw [hall, hvisited]
            simp
          · simp only [hevaluated, List.filter_cons]
            split <;> rfl
          · simp only [hpruned, List.flatMap_cons, List.map_append]

/-! ## The whole walk -/

/-- Once every task has been visited, an edge is left unless it went at the turn of its source. -/
theorem spared_iff {nodes : List Node} {origin : Graph} {visited : List String} {edge : Edge}
    (hedge : edge ∈ origin.edges) (hvisited : edge.source ∈ visited) :
    spared nodes origin visited edge = true ↔ edge ∉ lostAt nodes origin edge.source := by
  rw [← number_mem_lostAt hedge]
  simp [spared, hvisited]

/-- Pruning visits every task, none before one that leads to it, and takes at each visit what is
lost there. -/
theorem prune_run {g : Graph} (hranked : g.Ranked) (nodes : List Node) :
    ∃ visits : List String, visits.Perm g.tasks ∧
      visits.Pairwise (fun first second => ¬ TransGen g.Leads second first) ∧
      (g.prune nodes).1.tasks = g.tasks ∧
      (∀ edge, edge ∈ (g.prune nodes).1.edges ↔
        edge ∈ g.edges ∧ edge ∉ lostAt nodes g edge.source) ∧
      (g.prune nodes).1.edges.Sublist g.edges ∧
      (g.prune nodes).2.evaluated =
        visits.filter (fun task => (keptAt? nodes g task).isSome) ∧
      (g.prune nodes).2.pruned = (visits.flatMap (lostAt nodes g)).map Edge.ends := by
  obtain ⟨visits, final, hfinal, hall, hperm, hleft, hevaluated, hpruned⟩ :=
    pruneAlong_run nodes hranked g.tasks.length (Walk.sound_start g)
      (List.filter_eq_self.mpr fun _ _ => by simp [spared, Walk.start]).symm
      (Nat.le_add_right _ _)
  have hvisits : visits = final.visited.reverse := by simp [hall, Walk.start]
  refine ⟨visits, ?_, ?_, hfinal.tasks, ?_, hleft ▸ List.filter_sublist, hevaluated, hpruned⟩
  · exact hvisits ▸ (List.reverse_perm _).trans hperm
  · have hnodup : visits.Nodup := hvisits ▸ List.nodup_reverse.mpr hfinal.distinct
    have hclimb : ∀ edge ∈ g.edges, visits.idxOf edge.source < visits.idxOf edge.target := by
      intro edge hmem
      rw [hvisits]
      exact hfinal.compatible (fun _ h => h) hmem (hperm.mem_iff.mpr (g.known edge hmem).2)
    rw [List.pairwise_iff_getElem]
    intro i j hi hj hij hpath
    have hback := @Graph.rank_lt_of_transGen g visits.idxOf hclimb _ _ hpath
    rw [hnodup.idxOf_getElem, hnodup.idxOf_getElem] at hback
    omega
  · intro edge
    show edge ∈ (Graph.pruneAlong nodes _ g _).1.edges ↔ _
    rw [hleft, List.mem_filter]
    constructor
    · rintro ⟨hmem, hspared⟩
      exact ⟨hmem, (spared_iff hmem (hperm.mem_iff.mpr (g.known edge hmem).1)).mp hspared⟩
    · rintro ⟨hmem, hnot⟩
      exact ⟨hmem, (spared_iff hmem (hperm.mem_iff.mpr (g.known edge hmem).1)).mpr hnot⟩

/-! ## Pruning from the beginning -/

section

variable {g : Graph} (hranked : g.Ranked) (nodes : List Node)

include hranked

theorem prune_tasks : (g.prune nodes).1.tasks = g.tasks := by
  obtain ⟨_, -, -, htasks, -⟩ := prune_run hranked nodes
  exact htasks

theorem prune_edges_sublist : (g.prune nodes).1.edges.Sublist g.edges := by
  obtain ⟨_, -, -, -, -, hsub, -⟩ := prune_run hranked nodes
  exact hsub

theorem mem_prune_edges_iff_not_lost {edge : Edge} :
    edge ∈ (g.prune nodes).1.edges ↔ edge ∈ g.edges ∧ edge ∉ lostAt nodes g edge.source := by
  obtain ⟨_, -, -, -, hleft, -⟩ := prune_run hranked nodes
  exact hleft edge

/-- An edge is left unless its source has a say and does not keep it among the edges that left it
at the beginning. -/
theorem mem_prune_edges_iff {edge : Edge} :
    edge ∈ (g.prune nodes).1.edges ↔ edge ∈ g.edges ∧ ∀ node record,
      Decides nodes edge.source node record →
        edge ∈ node.keep record (g.outgoing edge.source) := by
  rw [mem_prune_edges_iff_not_lost hranked]
  exact and_congr_right fun hmem => not_mem_lostAt_iff hmem

theorem hasEdge_prune_iff {edge : Edge} (hedge : edge ∈ g.edges) :
    (g.prune nodes).1.hasEdge edge.number = true ↔ edge ∈ (g.prune nodes).1.edges := by
  rw [Graph.hasEdge_iff]
  constructor
  · rintro ⟨other, hother, heq⟩
    have hold := (prune_edges_sublist hranked nodes).subset hother
    exact Graph.eq_of_number_eq hold hedge heq ▸ hother
  · exact fun hmem => ⟨edge, hmem, rfl⟩

end

/-! ## What is removed -/

/-- What the visits take, each at its turn. -/
def lostAlong (nodes : List Node) (origin : Graph) (visits : List String) : List Edge :=
  visits.flatMap (lostAt nodes origin)

theorem mem_lostAlong {nodes : List Node} {origin : Graph} {visits : List String} {edge : Edge} :
    edge ∈ lostAlong nodes origin visits ↔
      edge.source ∈ visits ∧ edge ∈ lostAt nodes origin edge.source := by
  rw [lostAlong, List.mem_flatMap]
  constructor
  · rintro ⟨task, htask, hmem⟩
    obtain rfl := (mem_lostAt hmem).2
    exact ⟨htask, hmem⟩
  · rintro ⟨htask, hmem⟩
    exact ⟨edge.source, htask, hmem⟩

/-- Within one source what goes is listed by descending number. -/
theorem lostAlong_descending {nodes : List Node} {origin : Graph} {visits : List String}
    (hnodup : visits.Nodup) :
    (lostAlong nodes origin visits).Pairwise fun a b =>
      a.source = b.source → b.number < a.number := by
  refine List.pairwise_flatMap.mpr ⟨fun task _ => ?_, hnodup.imp fun hne a ha b hb hsame => ?_⟩
  · have hdescending := (origin.outgoing_descending task).sublist (lostAt_sublist nodes origin task)
    exact hdescending.imp fun hlt => fun _ => hlt
  · rw [(mem_lostAt ha).2, (mem_lostAt hb).2] at hsame
    exact absurd hsame hne

/-- What goes can be sorted back by source. -/
theorem filter_lostAlong {nodes : List Node} {origin : Graph} {task : String} :
    ∀ {visits : List String}, visits.Nodup → task ∈ visits →
      (lostAlong nodes origin visits).filter (fun edge => edge.source = task) =
        lostAt nodes origin task
  | first :: rest, hnodup, hmem => by
      obtain ⟨hnew, hrest⟩ := List.nodup_cons.mp hnodup
      rw [lostAlong, List.flatMap_cons, List.filter_append]
      by_cases hfirst : first = task
      · subst hfirst
        have hall : (lostAt nodes origin first).filter (fun edge => edge.source = first) =
            lostAt nodes origin first :=
          List.filter_eq_self.mpr fun edge hedge => by simp [(mem_lostAt hedge).2]
        have hnone : (lostAlong nodes origin rest).filter (fun edge => edge.source = first) = [] :=
          List.filter_eq_nil_iff.mpr fun edge hedge => by
            have hsource := (mem_lostAlong.mp hedge).1
            simp only [decide_eq_true_eq]
            exact fun heq => hnew (heq ▸ hsource)
        rw [hall, ← lostAlong, hnone, List.append_nil]
      · have hnone : (lostAt nodes origin first).filter (fun edge => edge.source = task) = [] :=
          List.filter_eq_nil_iff.mpr fun edge hedge => by simp [(mem_lostAt hedge).2, hfirst]
        have htask := (List.mem_cons.mp hmem).resolve_left (Ne.symm hfirst)
        rw [hnone, List.nil_append, ← lostAlong, filter_lostAlong hrest htask]

/-- Only tasks that have a say lose edges. -/
theorem lostAlong_filter (nodes : List Node) (origin : Graph) : ∀ visits : List String,
    lostAlong nodes origin (visits.filter fun task => (keptAt? nodes origin task).isSome) =
      lostAlong nodes origin visits
  | [] => rfl
  | task :: rest => by
      have ih := lostAlong_filter nodes origin rest
      cases hkept : keptAt? nodes origin task with
      | none =>
          have hnone : lostAt nodes origin task = [] := by simp [lostAt, hkept]
          rw [List.filter_cons_of_neg (by simp [hkept]), ih]
          simp [lostAlong, hnone]
      | some kept =>
          rw [List.filter_cons_of_pos (by simp [hkept])]
          simp only [lostAlong, List.flatMap_cons] at ih ⊢
          rw [ih]

/-- Sorted by source in the order of the tasks that have a say, what goes is as it was. -/
theorem lostAlong_grouped {nodes : List Node} {origin : Graph} {visits : List String}
    (hnodup : visits.Nodup) :
    lostAlong nodes origin visits =
      (visits.filter fun task => (keptAt? nodes origin task).isSome).flatMap fun task =>
        (lostAlong nodes origin visits).filter fun edge => edge.source = task := by
  calc lostAlong nodes origin visits
      = lostAlong nodes origin (visits.filter fun task => (keptAt? nodes origin task).isSome) :=
        (lostAlong_filter nodes origin visits).symm
    _ = _ := List.flatMap_congr fun task htask =>
        (filter_lostAlong hnodup (List.mem_of_mem_filter htask)).symm

/-- What goes are the edges of the beginning that are not left. -/
theorem lostAlong_perm {g : Graph} (hranked : g.Ranked) (nodes : List Node)
    {visits : List String} (hperm : visits.Perm g.tasks) :
    (lostAlong nodes g visits).Perm
      (g.edges.filter fun edge => !(g.prune nodes).1.hasEdge edge.number) := by
  have hedges : g.edges.Nodup := List.Nodup.of_map _ g.nodup_numbers
  have hnodup : (lostAlong nodes g visits).Nodup :=
    (lostAlong_descending (hperm.nodup_iff.mpr g.distinct)).imp fun hlt heq =>
      absurd (hlt (congrArg Edge.source heq)) (by rw [heq]; exact Nat.lt_irrefl _)
  refine (List.perm_ext_iff_of_nodup hnodup (hedges.filter _)).mpr fun edge => ?_
  rw [mem_lostAlong, List.mem_filter, Bool.not_eq_true', ← Bool.not_eq_true]
  constructor
  · rintro ⟨-, hlost⟩
    have hmem := (mem_lostAt hlost).1
    refine ⟨hmem, fun hpresent => ?_⟩
    have hleft := (hasEdge_prune_iff hranked nodes hmem).mp hpresent
    exact ((mem_prune_edges_iff_not_lost hranked nodes).mp hleft).2 hlost
  · rintro ⟨hmem, hgone⟩
    refine ⟨hperm.mem_iff.mpr (g.known edge hmem).1, ?_⟩
    by_contra hnot
    have hleft := (mem_prune_edges_iff_not_lost hranked nodes).mpr ⟨hmem, hnot⟩
    exact hgone ((hasEdge_prune_iff hranked nodes hmem).mpr hleft)

/-- What is left and what goes make up the edges of the beginning. -/
theorem edges_perm {g : Graph} (hranked : g.Ranked) (nodes : List Node) :
    ((g.prune nodes).1.edges ++
      g.edges.filter fun edge => !(g.prune nodes).1.hasEdge edge.number).Perm g.edges := by
  have hsub := prune_edges_sublist hranked nodes
  have hedges : g.edges.Nodup := List.Nodup.of_map _ g.nodup_numbers
  have hleft : (g.prune nodes).1.edges.Perm
      (g.edges.filter fun edge => (g.prune nodes).1.hasEdge edge.number) := by
    refine (List.perm_ext_iff_of_nodup (hedges.sublist hsub) (hedges.filter _)).mpr fun edge => ?_
    rw [List.mem_filter]
    constructor
    · intro hmem
      have hedge := hsub.subset hmem
      exact ⟨hedge, (hasEdge_prune_iff hranked nodes hedge).mpr hmem⟩
    · rintro ⟨hedge, hpresent⟩
      exact (hasEdge_prune_iff hranked nodes hedge).mp hpresent
  exact (hleft.append_right _).trans (List.filter_append_perm _ _)

/-- **Pruning is a filter of the edges at the beginning.**  `evaluated` lists the tasks that have
a say, each once, none before one it depends on.  An edge is left unless its source has a say and
does not keep it among all edges that left it at the beginning.  `pruned` lists the edges removed,
by source in the order of `evaluated` and by descending number within a source; together with
those left they are the edges of the beginning. -/
theorem prune_eq_filter {limit : Nat} {g : Graph} (h : Graph.Made limit g) (nodes : List Node) :
    (g.prune nodes).1.tasks = g.tasks ∧
    (g.prune nodes).2.evaluated.Nodup ∧
    (∀ task, task ∈ (g.prune nodes).2.evaluated ↔ task ∈ g.tasks ∧ Decided nodes task) ∧
    (g.prune nodes).2.evaluated.Pairwise (fun first second => ¬ TransGen g.Leads second first) ∧
    (∀ edge, edge ∈ (g.prune nodes).1.edges ↔ edge ∈ g.edges ∧ ∀ node record,
      Decides nodes edge.source node record →
        edge ∈ node.keep record (g.outgoing edge.source)) ∧
    (∃ removed : List Edge,
      removed.Perm (g.edges.filter fun edge => !(g.prune nodes).1.hasEdge edge.number) ∧
      (g.prune nodes).2.pruned = removed.map Edge.ends ∧
      removed = (g.prune nodes).2.evaluated.flatMap (fun task =>
        removed.filter fun edge => edge.source = task) ∧
      removed.Pairwise fun a b => a.source = b.source → b.number < a.number) ∧
    ((g.prune nodes).1.edges.map Edge.ends ++ (g.prune nodes).2.pruned).Perm
      (g.edges.map Edge.ends) := by
  have hranked := h.ranked
  obtain ⟨visits, hperm, horder, -, -, -, hevaluated, hpruned⟩ := prune_run hranked nodes
  have hnodup : visits.Nodup := hperm.nodup_iff.mpr g.distinct
  have hremoved := lostAlong_perm hranked nodes hperm
  refine ⟨prune_tasks hranked nodes, ?_, fun task => ?_, ?_, fun edge => ?_,
    ⟨lostAlong nodes g visits, hremoved, hpruned, ?_, lostAlong_descending hnodup⟩, ?_⟩
  · rw [hevaluated]
    exact hnodup.filter _
  · rw [hevaluated, List.mem_filter, hperm.mem_iff, isSome_keptAt?_iff]
  · rw [hevaluated]
    exact horder.filter _
  · exact mem_prune_edges_iff hranked nodes
  · rw [hevaluated]
    exact lostAlong_grouped hnodup
  · have hall := ((hremoved.append_left _).trans (edges_perm hranked nodes)).map Edge.ends
    rw [List.map_append] at hall
    exact hpruned ▸ hall

/-- A decision with two ways to one task and a third to another, and behind the first task, which
failed, one way for each outcome. -/
def crossing : List Node :=
  [⟨"begin", "begin", .start, [], none⟩,
   ⟨"ask", "ask", .decision none, [.plain "begin"], some ⟨.completed, some "blue"⟩⟩,
   ⟨"left", "left", .task .script ⟨"run", ⟨1, [], []⟩, [], []⟩,
    [⟨"ask", some (.ofLines ["red"]), none⟩, ⟨"ask", some (.ofLines ["green", "blue"]), none⟩],
    some ⟨.failed, none⟩⟩,
   ⟨"right", "right", .decision none, [.plain "ask"], none⟩,
   ⟨"mend", "mend", .decision none, [⟨"left", none, some .failure⟩], none⟩,
   ⟨"ship", "ship", .decision none, [⟨"left", none, some .success⟩], none⟩]

theorem crossing_pruned : ∃ g, Graph.ofNodes 1048576 crossing = .ok g ∧
    (g.prune crossing).2.evaluated = ["ask", "left"] ∧
    (g.prune crossing).2.pruned = [("ask", "right"), ("ask", "left"), ("left", "ship")] ∧
    ((g.prune crossing).1.edges.map Edge.ends ++ (g.prune crossing).2.pruned).Perm
      (g.edges.map Edge.ends) := by
  obtain ⟨g, hg⟩ : ∃ g, Graph.ofNodes 1048576 crossing = .ok g := ⟨_, rfl⟩
  obtain ⟨-, -, -, -, -, -, hall⟩ := prune_eq_filter (.built hg) crossing
  refine ⟨g, hg, ?_, ?_, hall⟩
  · cases hg
    rfl
  · cases hg
    rfl

end Workflow
