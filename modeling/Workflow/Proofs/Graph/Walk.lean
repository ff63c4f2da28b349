import Mathlib.Data.List.Perm.Subperm
import Workflow.Graph.Walk
import Workflow.Proofs.Graph.Path

/-!
# What a walk keeps

A walk knows the tasks that are ready and those visited, and looks at the edges present now.
While it goes on edges may be lost, and one kind of loss does harm: that of an edge whose source
has not been visited.  It can leave a task without any edge through which it would come up.

`Walk.Sound origin early g walk` is the invariant: the walk began on `origin`, the graph is `g`
by now, and `early` holds of the edges lost before their sources were visited.  Its field
`pending` says where a task can be.  It is visited, or ready, or it has lost an edge early, or
some edge present still waits for its source.  The last case cannot go on for ever in a graph
without cycles, so once nothing is ready the tasks passed over all lie behind one that has lost
an edge early (`Sound.exists_hurt`).
-/

namespace Workflow

open Relation

/-! ## One step -/

theorem Graph.isReady_iff {g : Graph} {visited : List String} {task : String} :
    g.isReady visited task = true ↔
      ∀ edge ∈ g.edges, edge.target = task → edge.source ∈ visited := by
  simp [Graph.isReady]

theorem Graph.mem_released {g : Graph} {visited : List String} {task other : String} :
    other ∈ g.released visited task ↔
      g.Leads task other ∧ g.isReady visited other = true := by
  simp only [Graph.released, List.mem_reverse, List.mem_filter, List.mem_map, Graph.mem_outgoing,
    Graph.Leads]
  constructor
  · rintro ⟨⟨edge, ⟨hmem, hsource⟩, htarget⟩, hready⟩
    exact ⟨⟨edge, hmem, hsource, htarget⟩, hready⟩
  · rintro ⟨⟨edge, hmem, hsource, htarget⟩, hready⟩
    exact ⟨⟨edge, ⟨hmem, hsource⟩, htarget⟩, hready⟩

namespace Walk

theorem take_eq_some {g : Graph} {visited : List String} {task : String} {walk : Walk} :
    ∀ {ready : List String}, take g visited ready = some (task, walk) →
      ∃ passed rest, ready = passed ++ task :: rest ∧ passed ⊆ visited ∧ task ∉ visited ∧
        walk = ⟨g.released (task :: visited) task ++ rest, task :: visited⟩
  | [], h => by cases h
  | first :: ready, h => by
      simp only [take, List.contains_eq_mem, decide_eq_true_eq] at h
      split at h
      · next hold =>
          obtain ⟨passed, rest, rfl, hpassed, hnew, hwalk⟩ := take_eq_some h
          exact ⟨first :: passed, rest, rfl, List.cons_subset.mpr ⟨hold, hpassed⟩, hnew, hwalk⟩
      · next hnew =>
          cases h
          exact ⟨[], ready, rfl, List.nil_subset _, hnew, rfl⟩

theorem take_eq_none {g : Graph} {visited : List String} :
    ∀ {ready : List String}, take g visited ready = none ↔ ready ⊆ visited
  | [] => by simp [take]
  | first :: ready => by
      simp only [take, List.contains_eq_mem, decide_eq_true_eq, List.cons_subset]
      split
      · next hold =>
          rw [take_eq_none]
          exact ⟨fun h => ⟨hold, h⟩, fun h => h.2⟩
      · next hnew => exact ⟨fun h => by simp at h, fun h => absurd h.1 hnew⟩

/-! ## The invariant -/

/-- What holds of a walk at any time. -/
structure Sound (origin : Graph) (early : Edge → Prop) (g : Graph) (walk : Walk) : Prop where
  tasks : g.tasks = origin.tasks
  edges : g.edges ⊆ origin.edges
  gone : ∀ edge ∈ origin.edges,
    edge ∈ g.edges ∨ edge.source ∈ walk.visited ∨ early edge
  distinct : walk.visited.Nodup
  known : walk.visited ⊆ origin.tasks
  ready : ∀ task ∈ walk.ready, task ∈ origin.tasks ∧
    ∀ edge ∈ g.edges, edge.target = task → edge.source ∈ walk.visited
  ordered : ∀ after task before, walk.visited = after ++ task :: before →
    ∀ edge ∈ origin.edges, edge.target = task → edge.source ∈ before ∨ early edge
  pending : ∀ task ∈ origin.tasks, task ∈ walk.visited ∨ task ∈ walk.ready ∨
    (∃ edge ∈ origin.edges, edge.target = task ∧ early edge) ∨
    ∃ edge ∈ g.edges, edge.target = task ∧ edge.source ∉ walk.visited

theorem sound_start (g : Graph) : Sound g (fun _ => False) g (start g) where
  tasks := rfl
  edges := List.Subset.refl _
  gone := fun _ hmem => Or.inl hmem
  distinct := List.nodup_nil
  known := List.nil_subset _
  ready := by
    intro task hready
    simp only [start, List.mem_reverse, List.mem_filter, List.isEmpty_iff] at hready
    refine ⟨hready.1, fun edge hmem htarget => ?_⟩
    have hin : edge ∈ g.incoming task := Graph.mem_incoming.mpr ⟨hmem, htarget⟩
    rw [hready.2] at hin
    cases hin
  ordered := fun after task before h => absurd h.symm (by simp [start])
  pending := by
    intro task htask
    cases hin : g.incoming task with
    | nil =>
        right; left
        simp [start, htask, hin]
    | cons edge rest =>
        right; right; right
        obtain ⟨hmem, htarget⟩ := Graph.mem_incoming.mp (hin ▸ List.mem_cons_self)
        exact ⟨edge, hmem, htarget, List.not_mem_nil⟩

namespace Sound

variable {origin g : Graph} {early : Edge → Prop} {walk : Walk}

/-- The next task is visited. -/
theorem next (h : Sound origin early g walk) {task : String} {walk' : Walk}
    (hnext : walk.next? g = some (task, walk')) :
    Sound origin early g walk' ∧ walk'.visited = task :: walk.visited := by
  obtain ⟨passed, rest, hready, hpassed, hnew, rfl⟩ := take_eq_some hnext
  obtain ⟨htask, hsources⟩ := h.ready task (by simp [hready])
  refine ⟨⟨h.tasks, h.edges, ?_, List.nodup_cons.mpr ⟨hnew, h.distinct⟩,
    List.cons_subset.mpr ⟨htask, h.known⟩, ?_, ?_, ?_⟩, rfl⟩
  · intro edge hmem
    rcases h.gone edge hmem with hpresent | hvisited | hearly
    · exact Or.inl hpresent
    · exact Or.inr (Or.inl (List.mem_cons_of_mem _ hvisited))
    · exact Or.inr (Or.inr hearly)
  · intro other hother
    rcases List.mem_append.mp hother with hreleased | hrest
    · obtain ⟨⟨edge, hmem, -, rfl⟩, hfree⟩ := Graph.mem_released.mp hreleased
      exact ⟨h.tasks ▸ (g.known edge hmem).2, Graph.isReady_iff.mp hfree⟩
    · obtain ⟨hknown, hfree⟩ := h.ready other (by simp [hready, hrest])
      exact ⟨hknown, fun edge hmem htarget =>
        List.mem_cons_of_mem _ (hfree edge hmem htarget)⟩
  · intro after other before heq edge hmem htarget
    cases after with
    | nil =>
        obtain ⟨rfl, rfl⟩ := List.cons.inj heq
        rcases h.gone edge hmem with hpresent | hvisited | hearly
        · exact Or.inl (hsources edge hpresent htarget)
        · exact Or.inl hvisited
        · exact Or.inr hearly
    | cons _ after =>
        exact h.ordered after other before (List.cons.inj heq).2 edge hmem htarget
  · intro other hother
    by_cases hsame : other = task
    · exact Or.inl (hsame ▸ List.mem_cons_self)
    · rcases h.pending other hother with hvisited | hwaiting | hhurt | ⟨edge, hmem, htarget, hopen⟩
      · exact Or.inl (List.mem_cons_of_mem _ hvisited)
      · rw [hready] at hwaiting
        rcases List.mem_append.mp hwaiting with hpast | hwaiting
        · exact Or.inl (List.mem_cons_of_mem _ (hpassed hpast))
        · have hrest := (List.mem_cons.mp hwaiting).resolve_left hsame
          exact Or.inr (Or.inl (List.mem_append_right _ hrest))
      · exact Or.inr (Or.inr (Or.inl hhurt))
      · -- the edge waits on, unless its source is the task visited now
        by_cases hsource : edge.source = task
        · by_cases hfree : g.isReady (task :: walk.visited) other = true
          · refine Or.inr (Or.inl (List.mem_append_left _ (Graph.mem_released.mpr ⟨?_, hfree⟩)))
            exact ⟨edge, hmem, hsource, htarget⟩
          · rw [Graph.isReady_iff] at hfree
            push Not at hfree
            exact Or.inr (Or.inr (Or.inr hfree))
        · refine Or.inr (Or.inr (Or.inr ⟨edge, hmem, htarget, ?_⟩))
          simp [hsource, hopen]

/-- Edges are lost; those whose sources have not been visited are lost early. -/
theorem restrict (h : Sound origin early g walk) {early' : Edge → Prop} {keep : Edge → Bool}
    (hmono : ∀ edge, early edge → early' edge)
    (hlost : ∀ edge ∈ g.edges, keep edge = false → edge.source ∉ walk.visited → early' edge) :
    Sound origin early' (g.restrict keep) walk where
  tasks := h.tasks
  edges := fun _ hmem => h.edges (Graph.mem_restrict.mp hmem).1
  gone := by
    intro edge hmem
    rcases h.gone edge hmem with hpresent | hvisited | hearly
    · by_cases hvisited : edge.source ∈ walk.visited
      · exact Or.inr (Or.inl hvisited)
      · cases hkeep : keep edge with
        | true => exact Or.inl (Graph.mem_restrict.mpr ⟨hpresent, hkeep⟩)
        | false => exact Or.inr (Or.inr (hlost edge hpresent hkeep hvisited))
    · exact Or.inr (Or.inl hvisited)
    · exact Or.inr (Or.inr (hmono edge hearly))
  distinct := h.distinct
  known := h.known
  ready := by
    intro task hready
    obtain ⟨htask, hsources⟩ := h.ready task hready
    exact ⟨htask, fun edge hmem => hsources edge (Graph.mem_restrict.mp hmem).1⟩
  ordered := by
    intro after task before heq edge hmem htarget
    rcases h.ordered after task before heq edge hmem htarget with hbefore | hearly
    · exact Or.inl hbefore
    · exact Or.inr (hmono edge hearly)
  pending := by
    intro task htask
    rcases h.pending task htask with
      hvisited | hready | ⟨edge, hmem, htarget, hearly⟩ | ⟨edge, hmem, htarget, hopen⟩
    · exact Or.inl hvisited
    · exact Or.inr (Or.inl hready)
    · exact Or.inr (Or.inr (Or.inl ⟨edge, hmem, htarget, hmono edge hearly⟩))
    · cases hkeep : keep edge with
      | true =>
          exact Or.inr (Or.inr (Or.inr
            ⟨edge, Graph.mem_restrict.mpr ⟨hmem, hkeep⟩, htarget, hopen⟩))
      | false =>
          exact Or.inr (Or.inr (Or.inl
            ⟨edge, h.edges hmem, htarget, hlost edge hmem hkeep hopen⟩))

/-! ## The end of a walk -/

/-- A task passed over lies behind one that has lost an edge early. -/
theorem exists_hurt (h : Sound origin early g walk) (hranked : g.Ranked)
    (hend : walk.next? g = none) {task : String} (htask : task ∈ origin.tasks)
    (hmissed : task ∉ walk.visited) :
    ∃ hurt, (∃ edge ∈ origin.edges, edge.target = hurt ∧ early edge) ∧
      ReflTransGen g.Leads hurt task := by
  obtain ⟨rank, hclimb⟩ := hranked
  induction hrank : rank task using Nat.strongRecOn generalizing task with
  | _ n ih =>
      rcases h.pending task htask with hvisited | hready | hhurt | ⟨edge, hmem, rfl, hopen⟩
      · exact absurd hvisited hmissed
      · exact absurd (take_eq_none.mp hend hready) hmissed
      · exact ⟨task, hhurt, .refl⟩
      · have hlower : rank edge.source < n := hrank ▸ hclimb edge hmem
        have hsource : edge.source ∈ origin.tasks := h.tasks ▸ (g.known edge hmem).1
        obtain ⟨hurt, hlost, hpath⟩ := ih _ hlower hsource hopen rfl
        exact ⟨hurt, hlost, hpath.tail ⟨edge, hmem, rfl, rfl⟩⟩

/-- Where no edge is lost early, a walk that has come to its end has visited every task once. -/
theorem perm_of_end (h : Sound origin early g walk) (hranked : g.Ranked)
    (hend : walk.next? g = none) (hnone : ∀ edge, ¬ early edge) :
    walk.visited.Perm origin.tasks := by
  refine (List.perm_ext_iff_of_nodup h.distinct origin.distinct).mpr fun task =>
    ⟨fun hmem => h.known hmem, fun htask => ?_⟩
  by_contra hmissed
  obtain ⟨_, ⟨edge, -, -, hearly⟩, -⟩ := h.exists_hurt hranked hend htask hmissed
  exact hnone edge hearly

/-- Where no edge is lost early, every edge leads on in the order of the visits. -/
theorem compatible (h : Sound origin early g walk) (hnone : ∀ edge, ¬ early edge)
    {edge : Edge} (hmem : edge ∈ origin.edges) (hvisited : edge.target ∈ walk.visited) :
    walk.visited.reverse.idxOf edge.source < walk.visited.reverse.idxOf edge.target := by
  obtain ⟨after, before, heq⟩ := List.append_of_mem hvisited
  have hsource : edge.source ∈ before :=
    (h.ordered after _ before heq edge hmem rfl).resolve_right (hnone edge)
  have hnot : edge.target ∉ before := by
    have hdistinct := h.distinct
    rw [heq] at hdistinct
    exact (List.nodup_cons.mp (List.nodup_append.mp hdistinct).2.1).1
  have hreverse : walk.visited.reverse = before.reverse ++ edge.target :: after.reverse := by
    simp [heq]
  rw [hreverse]
  exact Graph.idxOf_lt_idxOf (List.mem_reverse.mpr hsource) (by simpa using hnot)

theorem length_le (h : Sound origin early g walk) :
    walk.visited.length ≤ origin.tasks.length :=
  (List.subperm_of_subset h.distinct h.known).length_le

end Sound

end Walk

end Workflow
