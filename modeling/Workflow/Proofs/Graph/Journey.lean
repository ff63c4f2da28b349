import Workflow.Proofs.Graph.Build
import Workflow.Proofs.Graph.Walk

/-!
# Walks and removals in any order

A journey is a walk together with the graph it looks at, which may lose any edge at any time
between two steps.  Its log says what happened, latest first: which tasks were visited and which
edges were lost.

The question is what a walk owes its graph when edges go while it is under way.  An edge that
goes after its source was visited does no harm.  One that goes before (`LostEarly`) may, and
`run_visits` says exactly how far the harm reaches: to the target of the edge and to what lies
behind it.
-/

namespace Workflow

open Relation

/-- What can be done while a walk is under way. -/
inductive Move where
  | next
  | remove (number : Nat)
deriving Repr, DecidableEq

/-- What happens on a journey. -/
inductive Happening where
  | visited (task : String)
  | lost (edge : Edge)
deriving Repr

/-- The task visited, if that is what happened. -/
def Happening.task? : Happening → Option String
  | visited task => some task
  | lost _ => none

/-- A walk under way, the graph as it is, and what has happened so far, latest first. -/
structure Journey where
  graph : Graph
  walk : Walk
  log : List Happening

/-- An edge was lost when its source had not been visited. -/
def LostEarly (log : List Happening) (edge : Edge) : Prop :=
  ∃ after before, log = after ++ .lost edge :: before ∧ .visited edge.source ∉ before

namespace Journey

/-- The beginning of a walk. -/
def begin (g : Graph) : Journey := ⟨g, Walk.start g, []⟩

/-- Goes to the next task; a walk that has come to its end stays there. -/
def step (journey : Journey) : Journey :=
  match journey.walk.next? journey.graph with
  | none => journey
  | some (task, walk) => { journey with walk := walk, log := .visited task :: journey.log }

/-- Removes an edge; one that is not present is not lost. -/
def lose (journey : Journey) (number : Nat) : Journey where
  graph := (journey.graph.remove number).1
  walk := journey.walk
  log :=
    match journey.graph.edges.find? fun edge => edge.number = number with
    | none => journey.log
    | some edge => .lost edge :: journey.log

/-- Makes a move. -/
def make (journey : Journey) : Move → Journey
  | .next => journey.step
  | .remove number => journey.lose number

/-- Makes moves one after another. -/
def run (g : Graph) (moves : List Move) : Journey := moves.foldl make (begin g)

/-- The tasks visited, in order. -/
def visits (journey : Journey) : List String := (journey.log.filterMap Happening.task?).reverse

/-- No further task comes up. -/
def Ended (journey : Journey) : Prop := journey.walk.next? journey.graph = none

end Journey

/-! ## Reading the log -/

theorem mem_visits_of_log {log : List Happening} {task : String} :
    task ∈ log.filterMap Happening.task? ↔ .visited task ∈ log := by
  simp only [List.mem_filterMap]
  constructor
  · rintro ⟨happening, hmem, htask⟩
    cases happening with
    | visited _ =>
        cases htask
        exact hmem
    | lost _ => cases htask
  · exact fun hmem => ⟨_, hmem, rfl⟩

theorem lostEarly_cons {happening : Happening} {log : List Happening} {edge : Edge} :
    LostEarly (happening :: log) edge ↔
      (happening = .lost edge ∧ .visited edge.source ∉ log) ∨ LostEarly log edge := by
  constructor
  · rintro ⟨after, before, heq, hnot⟩
    cases after with
    | nil =>
        obtain ⟨rfl, rfl⟩ := List.cons.inj heq
        exact Or.inl ⟨rfl, hnot⟩
    | cons _ after => exact Or.inr ⟨after, before, (List.cons.inj heq).2, hnot⟩
  · rintro (⟨rfl, hnot⟩ | ⟨after, before, rfl, hnot⟩)
    · exact ⟨[], log, rfl, hnot⟩
    · exact ⟨happening :: after, before, rfl, hnot⟩

namespace Journey

/-! ## The invariant of a journey -/

/-- The walk is sound for the edges that the log says were lost early, and the log has the tasks
visited. -/
structure Sound (origin : Graph) (journey : Journey) : Prop where
  walk : Walk.Sound origin (LostEarly journey.log) journey.graph journey.walk
  visited : journey.walk.visited = journey.log.filterMap Happening.task?

theorem sound_begin (g : Graph) : Sound g (begin g) where
  walk := by
    have hnone : LostEarly [] = fun _ => False := by
      funext edge
      simp [LostEarly]
    show Walk.Sound g (LostEarly []) g (Walk.start g)
    rw [hnone]
    exact Walk.sound_start g
  visited := rfl

theorem Sound.step {origin : Graph} {journey : Journey} (h : Sound origin journey) :
    Sound origin journey.step := by
  unfold Journey.step
  cases hnext : journey.walk.next? journey.graph with
  | none => exact h
  | some found =>
      obtain ⟨task, walk⟩ := found
      obtain ⟨hwalk, hvisited⟩ := h.walk.next hnext
      have hsame : LostEarly (.visited task :: journey.log) = LostEarly journey.log := by
        funext edge
        simp [lostEarly_cons]
      refine ⟨?_, ?_⟩
      · show Walk.Sound origin (LostEarly (.visited task :: journey.log)) journey.graph walk
        rw [hsame]
        exact hwalk
      · show walk.visited = task :: journey.log.filterMap Happening.task?
        rw [hvisited, h.visited]

theorem Sound.lose {origin : Graph} {journey : Journey} (h : Sound origin journey)
    (number : Nat) : Sound origin (journey.lose number) := by
  cases hfind : journey.graph.edges.find? fun edge => edge.number = number with
  | none =>
      have hlog : (journey.lose number).log = journey.log := by simp [Journey.lose, hfind]
      refine ⟨?_, by rw [hlog]; exact h.visited⟩
      rw [hlog]
      refine h.walk.restrict (fun _ hearly => hearly) fun edge hmem hkeep _ => ?_
      exact absurd (by simpa using hkeep) (by simpa using List.find?_eq_none.mp hfind edge hmem)
  | some gone =>
      have hlog : (journey.lose number).log = .lost gone :: journey.log := by
        simp [Journey.lose, hfind]
      refine ⟨?_, by rw [hlog]; exact h.visited⟩
      rw [hlog]
      refine h.walk.restrict (fun edge hearly => lostEarly_cons.mpr (Or.inr hearly))
        fun edge hmem hkeep hopen => lostEarly_cons.mpr (Or.inl ⟨?_, ?_⟩)
      · have hnumber : gone.number = number := by simpa using List.find?_some hfind
        have hkeep : edge.number = number := by simpa using hkeep
        exact congrArg _ (Graph.eq_of_number_eq (List.mem_of_find?_eq_some hfind) hmem
          (hnumber.trans hkeep.symm))
      · rwa [← mem_visits_of_log, ← h.visited]

/-- **What every move keeps, every run keeps.** -/
theorem sound_run (g : Graph) (moves : List Move) : Sound g (run g moves) := by
  suffices ∀ (moves : List Move) (journey : Journey), Sound g journey →
      Sound g (moves.foldl make journey) from this moves _ (sound_begin g)
  intro moves
  induction moves with
  | nil => exact fun _ h => h
  | cons move moves ih =>
      intro journey h
      refine ih _ ?_
      cases move with
      | next => exact h.step
      | remove number => exact h.lose number

/-! ## Coming to an end -/

theorem Ended.step_eq {journey : Journey} (h : journey.Ended) : journey.step = journey := by
  unfold Journey.step
  rw [show journey.walk.next? journey.graph = none from h]

theorem Ended.lose {journey : Journey} (h : journey.Ended) (number : Nat) :
    (journey.lose number).Ended :=
  Walk.take_eq_none.mpr (Walk.take_eq_none.mp h)

theorem Ended.foldl (moves : List Move) : ∀ {journey : Journey}, journey.Ended →
    (moves.foldl make journey).Ended := by
  induction moves with
  | nil => exact fun h => h
  | cons move moves ih =>
      intro journey h
      refine ih ?_
      cases move with
      | next =>
          show journey.step.Ended
          rw [h.step_eq]
          exact h
      | remove number => exact h.lose number

/-- Each step visits a task, as long as the walk goes on. -/
theorem ended_or_count_le (moves : List Move) : ∀ journey : Journey,
    (moves.foldl make journey).Ended ∨
      moves.count .next + journey.walk.visited.length ≤
        (moves.foldl make journey).walk.visited.length := by
  induction moves with
  | nil => exact fun journey => Or.inr (by simp)
  | cons move moves ih =>
      intro journey
      cases move with
      | remove number => simpa [make, Journey.lose] using ih (journey.lose number)
      | next =>
          cases hnext : journey.walk.next? journey.graph with
          | none =>
              have hend : journey.Ended := hnext
              exact Or.inl (Ended.foldl (.next :: moves) hend)
          | some found =>
              obtain ⟨task, walk⟩ := found
              obtain ⟨_, _, -, -, -, rfl⟩ := Walk.take_eq_some hnext
              rcases ih journey.step with hend | hcount
              · exact Or.inl hend
              · right
                simp only [Journey.step, hnext, List.length_cons] at hcount
                simp only [List.foldl_cons, make, Journey.step, hnext, List.count_cons_self]
                omega

/-! ## What a walk owes its graph -/

theorem visits_eq {origin : Graph} {journey : Journey} (h : Sound origin journey) :
    journey.visits = journey.walk.visited.reverse := by
  rw [visits, h.visited]

theorem Sound.ranked {origin : Graph} {journey : Journey} (h : Sound origin journey)
    (hranked : origin.Ranked) : journey.graph.Ranked :=
  hranked.mono h.walk.edges

/-- **What a walk owes its graph, whatever is removed while it is under way.**  No task comes up
twice.  A task comes up after the source of every edge that entered it at the start and is not
lost early.  At the end a task passed over has lost an edge early, or lies behind such a task on
edges still present.  So where no edge is lost early every task comes up, once, in an order with
which all edges of the start are compatible.  And a walk does come to an end: it has no more
steps than there are tasks. -/
theorem run_visits {limit : Nat} {g : Graph} (h : Graph.Made limit g) (moves : List Move) :
    (run g moves).visits.Nodup ∧
    (∀ after task before, (run g moves).log = after ++ .visited task :: before →
      ∀ edge ∈ g.edges, edge.target = task → ¬ LostEarly (run g moves).log edge →
        .visited edge.source ∈ before) ∧
    ((run g moves).Ended → ∀ task ∈ g.tasks, task ∉ (run g moves).visits →
      ∃ hurt, (∃ edge ∈ g.edges, edge.target = hurt ∧ LostEarly (run g moves).log edge) ∧
        ReflTransGen (run g moves).graph.Leads hurt task) ∧
    ((∀ edge, ¬ LostEarly (run g moves).log edge) → (run g moves).Ended →
      (run g moves).visits.Perm g.tasks ∧ ∀ edge ∈ g.edges,
        (run g moves).visits.idxOf edge.source < (run g moves).visits.idxOf edge.target) ∧
    (g.tasks.length < moves.count .next → (run g moves).Ended) := by
  have hsound := sound_run g moves
  have hranked := hsound.ranked h.ranked
  have hvisits := visits_eq hsound
  refine ⟨?_, ?_, ?_, ?_, ?_⟩
  · rw [hvisits]
    exact List.nodup_reverse.mpr hsound.walk.distinct
  · intro after task before hlog edge hmem htarget hnot
    have hsplit : (run g moves).walk.visited =
        after.filterMap Happening.task? ++ task :: before.filterMap Happening.task? := by
      simp [hsound.visited, hlog, Happening.task?]
    exact mem_visits_of_log.mp
      ((hsound.walk.ordered _ _ _ hsplit edge hmem htarget).resolve_right hnot)
  · intro hend task htask hmissed
    rw [hvisits, List.mem_reverse] at hmissed
    exact hsound.walk.exists_hurt hranked hend htask hmissed
  · intro hnone hend
    have hall := hsound.walk.perm_of_end hranked hend hnone
    rw [hvisits]
    refine ⟨(List.reverse_perm _).trans hall, fun edge hmem => ?_⟩
    exact hsound.walk.compatible hnone hmem (hall.mem_iff.mpr (g.known edge hmem).2)
  · intro hmany
    have hbound := hsound.walk.length_le
    refine (ended_or_count_le moves (begin g)).resolve_right fun hcount => ?_
    have : moves.count .next + 0 ≤ (run g moves).walk.visited.length := hcount
    omega

/-- A beginning, two tasks in a row, and a last one that waits for the beginning too. -/
def braid : Graph where
  tasks := ["a", "b", "c", "d"]
  edges := [⟨0, "a", "b", none, none⟩, ⟨1, "b", "c", none, none⟩, ⟨2, "a", "d", none, none⟩,
    ⟨3, "c", "d", none, none⟩]
  distinct := by decide
  ordered := by simp
  known := by simp

theorem braid_made : Graph.Made 0 braid :=
  have hbuilt : Graph.ofNodes 0
      [⟨"a", "a", .start, [], none⟩, ⟨"b", "b", .decision none, [.plain "a"], none⟩,
        ⟨"c", "c", .decision none, [.plain "b"], none⟩,
        ⟨"d", "d", .finish, [.plain "a", .plain "c"], none⟩] = .ok braid := rfl
  .built hbuilt

/-- Losing the first edge at once costs the walk all tasks but one; losing it a step later costs
nothing. -/
theorem braid_visits :
    (run braid [.remove 0, .next, .next]).visits = ["a"] ∧
    (∃ hurt, (∃ edge ∈ braid.edges, edge.target = hurt ∧
        LostEarly (run braid [.remove 0, .next, .next]).log edge) ∧
      ReflTransGen (run braid [.remove 0, .next, .next]).graph.Leads hurt "d") ∧
    (run braid [.next, .remove 0, .next, .next, .next, .next]).visits = ["a", "b", "c", "d"] ∧
    (run braid [.next, .remove 0, .next, .next, .next, .next]).Ended := by
  refine ⟨by decide, ?_, by decide, ?_⟩
  · have hend : (run braid [.remove 0, .next, .next]).Ended := rfl
    exact (run_visits braid_made _).2.2.1 hend "d" (by decide) (by decide)
  · exact (run_visits braid_made _).2.2.2.2 (by decide)

end Journey

end Workflow
