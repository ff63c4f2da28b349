import Workflow.Proofs.Authored
import Workflow.Proofs.Store.Run

/-!
# What recording an outcome can change

Recording a task within an activity, for the first time or once more, decides over the edges that
leave this task and over nothing else (`record_frame`): every edge of another source is left after
it exactly when it was left before, other activities see the graph they saw, and whether the
workflow is sound is not affected.

Edges are those of the graph as its author drew it, which does not depend on records at all
(`Drawn.authored`).  Whether one of them is left is openness of its dependency, and openness looks
at the outcome of the upstream task only.
-/

namespace Workflow

/-! ## One task recorded -/

/-- Two sources that agree about a task leave the same of its edges. -/
theorem Drawn.mem_prune_congr {sources sources' : Sources} {limit : Nat} {definition : Definition}
    {activity : Uuid} {nodes nodes' : List Node} {g : Graph}
    (h : Drawn sources limit definition activity nodes g)
    (h' : Drawn sources' limit definition activity nodes' g) {edge : Edge} (hmem : edge ∈ g.edges)
    (hsame : sources'.record activity edge.source = sources.record activity edge.source) :
    edge ∈ (g.prune nodes').1.edges ↔ edge ∈ (g.prune nodes).1.edges := by
  obtain ⟨upstream, hupstream, hname, task, -, dependency, -, hrep⟩ := h.exists_upstream hmem
  have hended : ∀ record, sources'.Ended activity upstream.id record ↔
      sources.Ended activity upstream.id record := by
    intro record
    rw [Sources.Ended, Sources.Ended, ← hname, hsame]
  rw [h.mem_prune_iff_open hupstream hmem hname hrep,
    h'.mem_prune_iff_open hupstream hmem hname hrep]
  exact ⟨fun hopen => hopen.antitone (hended _).mpr fun hrecord => hrecord.unique,
    fun hopen => hopen.antitone (hended _).mp fun hrecord => hrecord.unique⟩

section

variable (store : Store) (id : Uuid) {activity : Uuid} {task : String} (status : String)
  (value : Option String) (now : Instant)

/-- Nothing is recorded anew elsewhere. -/
theorem Store.recordOf_record_of_ne {other : Uuid} {name : String}
    (h : other = activity → name ≠ task) :
    (store.record id activity task status value now).recordOf other name =
      store.recordOf other name := by
  rw [Store.recordOf, Store.recordOf, store.execution?_record_of_ne id status value now h]

/-- Outside the activity every definition has the graph it had. -/
theorem Store.graph_record_of_ne (limit : Nat) {other : Option Uuid}
    (hother : other ≠ some activity) (definition : Definition) :
    ((store.record id activity task status value now).service limit).graph other definition =
      (store.service limit).graph other definition := by
  have hrecord : ∀ each : Task,
      each.recordIn (store.record id activity task status value now).sources other =
        each.recordIn store.sources other := by
    intro each
    cases other with
    | none => rfl
    | some other =>
        have hne : other = activity → each.id ≠ task := fun heq => absurd (congrArg some heq) hother
        exact congrArg (Lookup.named "task status")
          (store.recordOf_record_of_ne id status value now hne)
  have hnodes : definition.nodes (store.record id activity task status value now).sources other =
      definition.nodes store.sources other :=
    mapM_congr fun each _ => node_congr (hrecord each) rfl
  show (definition.nodes (store.record id activity task status value now).sources other >>= _) =
    (definition.nodes store.sources other >>= _)
  rw [hnodes]
  rfl

end

/-- **Recording a task decides over its own edges only.**  Where the graph of an activity can be
drawn before and after a task has been recorded in it, both are parts of the graph as drawn by the
author, and an edge that does not leave the task is in the one when it is in the other.  No other
activity sees a difference, and neither does validation. -/
theorem record_frame (store : Store) (limit : Nat) (revision id activity : Uuid)
    (task status : String) (value : Option String) (now : Instant) :
    (∀ before after,
      (store.service limit).prunedGraph revision (some activity) = .ok before →
      ((store.record id activity task status value now).service limit).prunedGraph revision
        (some activity) = .ok after →
      ∃ authored, (store.service limit).prunedGraph revision none = .ok authored ∧
        before.edges ⊆ authored.edges ∧ after.edges ⊆ authored.edges ∧
        ∀ edge ∈ authored.edges, edge.source ≠ task →
          after.hasEdge edge.number = before.hasEdge edge.number) ∧
    (∀ other, other ≠ some activity →
      ((store.record id activity task status value now).service limit).prunedGraph revision other =
        (store.service limit).prunedGraph revision other) ∧
    ((store.record id activity task status value now).service limit).validate revision =
      (store.service limit).validate revision := by
  have hrevision : ((store.record id activity task status value now).service limit).revision
      revision = (store.service limit).revision revision := rfl
  have hgraph : ∀ {other : Option Uuid}, other ≠ some activity → ∀ definition,
      ((store.record id activity task status value now).service limit).graph other definition =
        (store.service limit).graph other definition :=
    fun hother => store.graph_record_of_ne id status value now limit hother
  refine ⟨fun before after hbefore hafter => ?_, fun other hother => ?_, ?_⟩
  · obtain ⟨found, hfound, hbefore⟩ := bind_ok.mp hbefore
    obtain ⟨found', hfound', hafter⟩ := bind_ok.mp hafter
    obtain rfl : found = found' := Except.ok.inj (hfound.symm.trans hfound')
    obtain ⟨nodes, g, hdrawn, rfl⟩ := graph_ok hbefore
    obtain ⟨nodes', g', hdrawn', rfl⟩ := graph_ok hafter
    obtain rfl : g = g' := Except.ok.inj
      (hdrawn.built.symm.trans ((ofNodes_eq_of_nodes hdrawn.resolved hdrawn'.resolved).trans
        hdrawn'.built))
    refine ⟨g, bind_ok.mpr ⟨found, hfound, hdrawn.authored⟩,
      (prune_edges_sublist hdrawn.ranked nodes).subset,
      (prune_edges_sublist hdrawn.ranked nodes').subset, fun edge hmem hsource => ?_⟩
    have hsame : (store.record id activity task status value now).recordOf activity edge.source =
        store.recordOf activity edge.source :=
      store.recordOf_record_of_ne id status value now fun _ => hsource
    rw [Bool.eq_iff_iff, hasEdge_prune_iff hdrawn.ranked nodes' hmem,
      hasEdge_prune_iff hdrawn.ranked nodes hmem]
    exact hdrawn.mem_prune_congr hdrawn' hmem hsame
  · rw [Service.prunedGraph, Service.prunedGraph, hrevision]
    simp only [hgraph hother]
  · rw [Service.validate, Service.validate, hrevision]
    simp only [Service.validateDefinition, hgraph (Option.some_ne_none activity).symm]

/-- The decision that said red says green instead: its own two edges change places. -/
theorem fork_revised : ∃ before after authored,
    (forkStore.service 1048576).prunedGraph nilId (some nilId) = .ok before ∧
    ((forkStore.record nilId nilId "ask" "failure" (some "green") ⟨1, 0, 0⟩).service
      1048576).prunedGraph nilId (some nilId) = .ok after ∧
    (forkStore.service 1048576).prunedGraph nilId none = .ok authored ∧
    (before.hasEdge 1 = true ∧ before.hasEdge 2 = false) ∧
    (after.hasEdge 1 = false ∧ after.hasEdge 2 = true) ∧
    ∀ edge ∈ authored.edges, edge.source ≠ "ask" →
      after.hasEdge edge.number = before.hasEdge edge.number := by
  obtain ⟨before, hbefore⟩ : ∃ before,
      (forkStore.service 1048576).prunedGraph nilId (some nilId) = .ok before := ⟨_, rfl⟩
  obtain ⟨after, hafter⟩ : ∃ after,
      ((forkStore.record nilId nilId "ask" "failure" (some "green") ⟨1, 0, 0⟩).service
        1048576).prunedGraph nilId (some nilId) = .ok after := ⟨_, rfl⟩
  obtain ⟨authored, hauthored, -, -, hframe⟩ := (record_frame forkStore 1048576 nilId nilId nilId
    "ask" "failure" (some "green") ⟨1, 0, 0⟩).1 before after hbefore hafter
  refine ⟨before, after, authored, hbefore, hafter, hauthored, ?_, ?_, hframe⟩
  · cases hbefore
    exact ⟨rfl, rfl⟩
  · cases hafter
    exact ⟨rfl, rfl⟩

end Workflow
