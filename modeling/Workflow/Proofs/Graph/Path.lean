import Mathlib.Data.List.Nodup
import Mathlib.Logic.Relation
import Workflow.Graph.Basic

/-!
# Paths of present edges

`Leads a b` says that some edge present leads from `a` to `b`; its closures are the paths of a
graph.  Two facts are used everywhere below: a graph that has lost edges has no path that it did
not have before, and in a graph whose edges all climb some rank no path comes back to where it
began.

A rank is what the search for cycles leaves behind when it finds none, and it is all that the
inductions over graphs need: they go down it, and no finiteness is called upon.
-/

namespace Workflow.Graph

open Relation

/-- Some edge present leads from the first task to the second. -/
def Leads (g : Graph) (a b : String) : Prop :=
  ∃ edge ∈ g.edges, edge.source = a ∧ edge.target = b

/-- The tasks can be numbered so that every edge present goes to a higher number. -/
def Ranked (g : Graph) : Prop :=
  ∃ rank : String → Nat, ∀ edge ∈ g.edges, rank edge.source < rank edge.target

/-- Two graphs have the same tasks and lead from the same tasks to the same tasks, by as many edges
as it may be. -/
structure Alike (g g' : Graph) : Prop where
  tasks : ∀ task, task ∈ g.tasks ↔ task ∈ g'.tasks
  leads : ∀ a b, g.Leads a b ↔ g'.Leads a b

/-! ## Looking at a graph -/

@[simp] theorem mem_outgoing {g : Graph} {task : String} {edge : Edge} :
    edge ∈ g.outgoing task ↔ edge ∈ g.edges ∧ edge.source = task := by
  simp [outgoing]

@[simp] theorem mem_incoming {g : Graph} {task : String} {edge : Edge} :
    edge ∈ g.incoming task ↔ edge ∈ g.edges ∧ edge.target = task := by
  simp [incoming]

/-- The edges that leave a task are listed by descending number, and so are those that enter it. -/
theorem outgoing_descending (g : Graph) (task : String) :
    (g.outgoing task).Pairwise fun a b => b.number < a.number :=
  List.pairwise_reverse.mpr (g.ordered.filter _)

theorem incoming_descending (g : Graph) (task : String) :
    (g.incoming task).Pairwise fun a b => b.number < a.number :=
  List.pairwise_reverse.mpr (g.ordered.filter _)

theorem nodup_numbers (g : Graph) : (g.edges.map Edge.number).Nodup :=
  List.pairwise_map.mpr (g.ordered.imp Nat.ne_of_lt)

/-- An edge present is told by its number. -/
theorem eq_of_number_eq {g : Graph} {a b : Edge} (ha : a ∈ g.edges) (hb : b ∈ g.edges)
    (h : a.number = b.number) : a = b :=
  List.inj_on_of_nodup_map g.nodup_numbers ha hb h

theorem hasEdge_iff {g : Graph} {number : Nat} :
    g.hasEdge number = true ↔ ∃ edge ∈ g.edges, edge.number = number := by
  simp [hasEdge]

/-- The pairs listed are those that an edge leads between. -/
theorem mem_surviving {g : Graph} {pair : String × String} :
    pair ∈ g.surviving ↔ g.Leads pair.1 pair.2 := by
  simp only [surviving, List.mem_mergeSort, List.mem_map, Leads, Prod.ext_iff]

/-- A graph is told from its tasks and from which edges are present. -/
theorem eq_of_mem_iff {g g' : Graph} (htasks : g.tasks = g'.tasks)
    (hedges : ∀ edge, edge ∈ g.edges ↔ edge ∈ g'.edges) : g = g' := by
  have hnodup : ∀ h : Graph, h.edges.Nodup := fun h => List.Nodup.of_map _ h.nodup_numbers
  have hperm : g.edges.Perm g'.edges :=
    (List.perm_ext_iff_of_nodup (hnodup g) (hnodup g')).mpr hedges
  -- both lists climb, so there is one order they can be in
  have hsame : g.edges = g'.edges := by
    refine hperm.eq_of_pairwise ?_ g.ordered g'.ordered
    intro a b _ _ hab hba
    exact absurd hab (Nat.lt_asymm hba)
  cases g
  cases g'
  cases htasks
  cases hsame
  rfl

/-! ## Places in a list -/

/-- What stands before a name comes first, if the name does not stand there too. -/
theorem idxOf_lt_idxOf {front back : List String} {a b : String} (ha : a ∈ front)
    (hb : b ∉ front) : (front ++ b :: back).idxOf a < (front ++ b :: back).idxOf b := by
  rw [List.idxOf_append_of_mem ha, List.idxOf_append_of_notMem hb]
  exact Nat.lt_add_right _ (List.idxOf_lt_length_iff.mpr ha)

/-! ## Losing edges -/

@[simp] theorem mem_restrict {g : Graph} {keep : Edge → Bool} {edge : Edge} :
    edge ∈ (g.restrict keep).edges ↔ edge ∈ g.edges ∧ keep edge = true :=
  List.mem_filter

theorem Leads.mono {g g' : Graph} (hsub : g'.edges ⊆ g.edges) {a b : String}
    (h : g'.Leads a b) : g.Leads a b := by
  obtain ⟨edge, hmem, hends⟩ := h
  exact ⟨edge, hsub hmem, hends⟩

theorem Ranked.mono {g g' : Graph} (hsub : g'.edges ⊆ g.edges) (h : g.Ranked) : g'.Ranked := by
  obtain ⟨rank, hclimb⟩ := h
  exact ⟨rank, fun edge hmem => hclimb edge (hsub hmem)⟩

/-! ## Climbing -/

theorem rank_lt_of_transGen {g : Graph} {rank : String → Nat}
    (hclimb : ∀ edge ∈ g.edges, rank edge.source < rank edge.target) {a b : String}
    (h : TransGen g.Leads a b) : rank a < rank b := by
  induction h with
  | single hstep =>
      obtain ⟨edge, hmem, rfl, rfl⟩ := hstep
      exact hclimb edge hmem
  | tail _ hstep ih =>
      obtain ⟨edge, hmem, rfl, rfl⟩ := hstep
      exact Nat.lt_trans ih (hclimb edge hmem)

/-- In a ranked graph no path comes back. -/
theorem Ranked.acyclic {g : Graph} (h : g.Ranked) (task : String) :
    ¬ TransGen g.Leads task task := by
  obtain ⟨rank, hclimb⟩ := h
  exact fun hback => Nat.lt_irrefl _ (rank_lt_of_transGen hclimb hback)

end Workflow.Graph
