import Mathlib.Data.List.Perm.Subperm
import Workflow.Graph.Visit
import Workflow.Proofs.Graph.Path

/-!
# What a visit comes to

A visit that goes along the edges comes to a task exactly when a path leads there from the task
it began with.  `Visit.Sound` is what every step keeps: all the tasks come to and on the stack lie
on paths from the beginning, and where an edge leads from a task come to has been come to, or is
on the stack.  When the visit ends the stack holds nothing new, so what it has come to is closed
under edges (`Visit.Sound.complete`).

So the search for paths is exact: `hasPath` answers yes exactly when a path of present edges leads
from the one task to the other (`hasPath_iff`), whatever the graph is like: cycles and parallel
edges do no harm.  The visit comes to a new task with every turn, so it does not run out of turns
before it has ended.
-/

namespace Workflow.Graph

open Relation

/-! ## Neighbours -/

@[simp] theorem mem_except {names others : List String} {name : String} :
    name ∈ except names others ↔ name ∈ names ∧ name ∉ others := by
  simp [except]

theorem mem_successors {g : Graph} {task next : String} :
    next ∈ g.successors task ↔ g.Leads task next := by
  simp [successors, Leads, and_assoc]

theorem mem_predecessors {g : Graph} {task source : String} :
    source ∈ g.predecessors task ↔ g.Leads source task := by
  simp only [predecessors, List.mem_map, List.mem_filter, decide_eq_true_eq, Leads]
  constructor
  · rintro ⟨edge, ⟨hmem, htarget⟩, hsource⟩
    exact ⟨edge, hmem, hsource, htarget⟩
  · rintro ⟨edge, hmem, hsource, htarget⟩
    exact ⟨edge, ⟨hmem, htarget⟩, hsource⟩

theorem Leads.mem_tasks {g : Graph} {a b : String} (h : g.Leads a b) :
    a ∈ g.tasks ∧ b ∈ g.tasks := by
  obtain ⟨edge, hmem, rfl, rfl⟩ := h
  exact g.known edge hmem

/-! ## One step -/

namespace Visit

theorem take_eq_some {neighbours : String → List String} {discovered : List String}
    {task : String} {visit : Visit} : ∀ {stack : List String},
      take neighbours discovered stack = some (task, visit) →
      ∃ passed rest, stack = passed ++ task :: rest ∧ passed ⊆ discovered ∧
        task ∉ discovered ∧ visit = ⟨task :: discovered,
          except (neighbours task) (task :: discovered) ++ rest⟩
  | [], h => by cases h
  | first :: stack, h => by
      simp only [take, List.contains_eq_mem, decide_eq_true_eq] at h
      split at h
      · next hold =>
          obtain ⟨passed, rest, rfl, hpassed, hnew, hvisit⟩ := take_eq_some h
          exact ⟨first :: passed, rest, rfl, List.cons_subset.mpr ⟨hold, hpassed⟩, hnew, hvisit⟩
      · next hnew =>
          cases h
          exact ⟨[], stack, rfl, List.nil_subset _, hnew, rfl⟩

theorem take_eq_none {neighbours : String → List String} {discovered : List String} :
    ∀ {stack : List String}, take neighbours discovered stack = none → stack ⊆ discovered
  | [], _ => List.nil_subset _
  | first :: stack, h => by
      simp only [take, List.contains_eq_mem, decide_eq_true_eq] at h
      split at h
      · next hold => exact List.cons_subset.mpr ⟨hold, take_eq_none h⟩
      · cases h

/-- A task not come to that is on top of the stack comes next. -/
theorem next?_cons {neighbours : String → List String} {discovered stack : List String}
    {task : String} (hnew : task ∉ discovered) :
    next? neighbours ⟨discovered, task :: stack⟩ = some (task, ⟨task :: discovered,
      except (neighbours task) (task :: discovered) ++ stack⟩) := by
  simp [next?, take, hnew]

/-! ## Along the edges -/

/-- What holds of a visit along the edges at any time. -/
structure Sound (g : Graph) (source : String) (visit : Visit) : Prop where
  origin : source ∈ visit.discovered ++ visit.stack
  found : ∀ task ∈ visit.discovered ++ visit.stack, ReflTransGen g.Leads source task
  followed : ∀ task ∈ visit.discovered, ∀ next, g.Leads task next →
    next ∈ visit.discovered ++ visit.stack
  distinct : visit.discovered.Nodup
  known : visit.discovered ++ visit.stack ⊆ g.tasks

theorem sound_start {g : Graph} {source : String} (hsource : source ∈ g.tasks) :
    Sound g source ⟨[], [source]⟩ where
  origin := List.mem_singleton_self source
  found := by
    intro task hmem
    rw [List.mem_singleton.mp hmem]
  followed := fun _ hmem => absurd hmem List.not_mem_nil
  distinct := List.nodup_nil
  known := by simpa using hsource

theorem Sound.next {g : Graph} {source task : String} {visit visit' : Visit}
    (h : visit.Sound g source) (hnext : visit.next? g.successors = some (task, visit')) :
    visit'.Sound g source ∧ visit'.discovered = task :: visit.discovered ∧
      task ∉ visit.discovered ∧ ReflTransGen g.Leads source task := by
  obtain ⟨passed, rest, hstack, hpassed, hnew, rfl⟩ := take_eq_some hnext
  have hpath : ReflTransGen g.Leads source task := h.found task (by simp [hstack])
  -- nothing is lost: what leaves the stack has been come to
  have hall : ∀ other, other ∈ (task :: visit.discovered) ++
      (except (g.successors task) (task :: visit.discovered) ++ rest) ↔
      other ∈ visit.discovered ++ visit.stack ∨ g.Leads task other := by
    intro other
    simp only [hstack, List.mem_append, List.mem_cons, mem_except, mem_successors, not_or]
    constructor
    · rintro ((hsame | hold) | ⟨hleads, -⟩ | hrest)
      · exact Or.inl (Or.inr (Or.inr (Or.inl hsame)))
      · exact Or.inl (Or.inl hold)
      · exact Or.inr hleads
      · exact Or.inl (Or.inr (Or.inr (Or.inr hrest)))
    · rintro ((hold | hskipped | hsame | hrest) | hleads)
      · exact Or.inl (Or.inr hold)
      · exact Or.inl (Or.inr (hpassed hskipped))
      · exact Or.inl (Or.inl hsame)
      · exact Or.inr (Or.inr hrest)
      · by_cases hold : other = task ∨ other ∈ visit.discovered
        · exact Or.inl hold
        · exact Or.inr (Or.inl ⟨hleads, not_or.mp hold⟩)
  refine ⟨⟨(hall source).mpr (Or.inl h.origin), fun other hmem => ?_, fun other hmem next hleads =>
    ?_, List.nodup_cons.mpr ⟨hnew, h.distinct⟩, fun other hmem => ?_⟩, rfl, hnew, hpath⟩
  · rcases (hall other).mp hmem with hold | hleads
    · exact h.found other hold
    · exact hpath.tail hleads
  · rcases List.mem_cons.mp hmem with rfl | hold
    · exact (hall next).mpr (Or.inr hleads)
    · exact (hall next).mpr (Or.inl (h.followed other hold next hleads))
  · rcases (hall other).mp hmem with hold | hleads
    · exact h.known hold
    · exact hleads.mem_tasks.2

/-- Once a visit has ended it has come to all that lies on paths. -/
theorem Sound.complete {g : Graph} {source task : String} {visit : Visit}
    (h : visit.Sound g source) (hend : visit.next? g.successors = none)
    (hpath : ReflTransGen g.Leads source task) : task ∈ visit.discovered := by
  have hclosed : ∀ other ∈ visit.discovered ++ visit.stack, other ∈ visit.discovered :=
    fun other hmem => (List.mem_append.mp hmem).elim id fun hold => take_eq_none hend hold
  induction hpath with
  | refl => exact hclosed source h.origin
  | tail _ hleads ih => exact hclosed _ (h.followed _ ih _ hleads)

end Visit

/-! ## Paths -/

/-- A visit that has not come to a task yet comes to it exactly when a path leads there. -/
theorem comesTo_iff {g : Graph} {source target : String} (htarget : target ∈ g.tasks) :
    ∀ {turns : Nat} {visit : Visit}, visit.Sound g source → target ∉ visit.discovered →
      g.tasks.length ≤ turns + visit.discovered.length →
      (g.comesTo target turns visit = true ↔ ReflTransGen g.Leads source target) := by
  intro turns
  induction turns with
  | zero =>
      intro visit hsound hmissed hturns
      have hknown : visit.discovered ⊆ g.tasks := fun _ hmem =>
        hsound.known (List.mem_append_left _ hmem)
      have hperm : visit.discovered.Perm g.tasks :=
        (List.subperm_of_subset hsound.distinct hknown).perm_of_length_le (by omega)
      exact absurd (hperm.mem_iff.mpr htarget) hmissed
  | succ turns ih =>
      intro visit hsound hmissed hturns
      rw [comesTo]
      cases hnext : visit.next? g.successors with
      | none =>
          simp only [Bool.false_eq_true, false_iff]
          exact fun hpath => hmissed (hsound.complete hnext hpath)
      | some found =>
          obtain ⟨task, visit'⟩ := found
          obtain ⟨hsound', hdiscovered, -, hpath⟩ := hsound.next hnext
          by_cases hsame : task = target
          · subst hsame
            simpa using hpath
          · have hmissed' : target ∉ visit'.discovered := by
              rw [hdiscovered, List.mem_cons, not_or]
              exact ⟨Ne.symm hsame, hmissed⟩
            simpa [hsame] using ih hsound' hmissed' (by rw [hdiscovered, List.length_cons]; omega)

/-- **The search is exact.**  Two names have a path when both are tasks and edges present lead
from the first to the second, in no step or in many. -/
theorem hasPath_iff {g : Graph} {source target : String} :
    g.hasPath source target = true ↔
      source ∈ g.tasks ∧ target ∈ g.tasks ∧ ReflTransGen g.Leads source target := by
  simp only [hasPath, Bool.and_eq_true, List.contains_eq_mem, decide_eq_true_eq, and_assoc]
  refine and_congr_right fun hsource => and_congr_right fun htarget => ?_
  exact comesTo_iff htarget (Visit.sound_start hsource) List.not_mem_nil (Nat.le_add_right _ _)

/-- More tasks and more edges lose no path. -/
theorem hasPath_mono {g g' : Graph} (htasks : g'.tasks ⊆ g.tasks)
    (hleads : ∀ a b, g'.Leads a b → g.Leads a b) {source target : String}
    (h : g'.hasPath source target = true) : g.hasPath source target = true := by
  obtain ⟨hsource, htarget, hpath⟩ := hasPath_iff.mp h
  exact hasPath_iff.mpr ⟨htasks hsource, htasks htarget, ReflTransGen.mono hleads _ _ hpath⟩

theorem Alike.hasPath_eq {g g' : Graph} (h : g.Alike g') (source target : String) :
    g.hasPath source target = g'.hasPath source target := by
  rw [Bool.eq_iff_iff]
  constructor
  · exact hasPath_mono (fun task => (h.tasks task).mp) fun a b => (h.leads a b).mp
  · exact hasPath_mono (fun task => (h.tasks task).mpr) fun a b => (h.leads a b).mpr

end Workflow.Graph
