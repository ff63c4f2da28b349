import Mathlib.Data.Prod.Lex
import Mathlib.Data.String.Basic
import Workflow.Proofs.Graph.Build
import Workflow.Proofs.Graph.Visit

/-!
# Removing edges one by one

A graph is looked at in many ways: by the edges of a task, by pairs of names, by numbers, by paths.
All of them have to tell the same story, and the story is that of the dependencies the graph was
built from: the edge with a number stands for the dependency with that number, and it is present
until it is removed.  `Faithful` is this for all the views at once, and `faithful_removeEach` says
that it holds of every graph built from nodes after any removals, those of edges that were not
present included.  As it holds after every removal, it also says what the next one answers.

The paths of such a graph are the chains of dependencies that remain (`hasPath_removeEach_iff`).
-/

namespace Workflow.Graph

open Relation

/-! ## Pairs of names -/

theorem pairBefore_iff {a b : String × String} : pairBefore a b = true ↔ toLex a ≤ toLex b := by
  rw [Prod.Lex.toLex_le_toLex, pairBefore]
  by_cases hsame : a.1 = b.1
  · simp [hsame]
  · simp [hsame, le_iff_lt_or_eq]

theorem surviving_sorted (g : Graph) :
    g.surviving.Pairwise fun a b => toLex a ≤ toLex b := by
  have htrans : ∀ a b c : String × String, pairBefore a b = true → pairBefore b c = true →
      pairBefore a c = true := by
    intro a b c hab hbc
    rw [pairBefore_iff] at hab hbc ⊢
    exact hab.trans hbc
  have htotal : ∀ a b : String × String, (pairBefore a b || pairBefore b a) = true := by
    intro a b
    rw [Bool.or_eq_true, pairBefore_iff, pairBefore_iff]
    exact le_total _ _
  exact (List.pairwise_mergeSort htrans htotal _).imp pairBefore_iff.mp

/-! ## The dependency an edge stands for -/

/-- An edge has the lines of the condition, as they are written. -/
theorem Represents.switch_texts {limit : Nat} {edge : Edge} {task : String}
    {dependency : Dependency} (h : Represents limit edge task dependency) :
    edge.switch.map (fun selector => selector.lines.map Prod.fst) =
      dependency.switch.map SwitchCondition.lines := by
  have hselector := h.switch
  cases hswitch : dependency.switch with
  | none =>
      rw [hswitch, selectorFor] at hselector
      rw [← Except.ok.inj hselector]
      rfl
  | some condition =>
      rw [hswitch, selectorFor, Selector.compile] at hselector
      cases hready : Selector.compileLines limit condition.lines with
      | error _ => simp [hready, Except.map] at hselector
      | ok ready =>
          have hmade : some ⟨ready⟩ = edge.switch := by
            simpa [hready, Except.map] using hselector
          rw [← hmade, Option.map_some, Option.map_some, compileLines_texts hready]

section

variable {limit : Nat} {nodes : List Node} {g : Graph} (h : assemble limit nodes = .ok g)

include h

theorem numbers_eq : g.edges.map Edge.number = List.range (dependencies nodes).length := by
  rw [List.range_eq_range']
  exact edgesFor_numbers (assemble_ok h).2

/-- The edge with a number stands at the place of that number. -/
theorem getElem?_edges_iff {number : Nat} {edge : Edge} :
    g.edges[number]? = some edge ↔ edge ∈ g.edges ∧ edge.number = number := by
  have hplace : ∀ {place : Nat} {other : Edge}, g.edges[place]? = some other →
      other.number = place := by
    intro place other hother
    have hnumber : (List.range (dependencies nodes).length)[place]? = some other.number := by
      rw [← numbers_eq h, List.getElem?_map, hother]
      rfl
    obtain ⟨_, hsame⟩ := List.getElem?_eq_some_iff.mp hnumber
    rw [← hsame, List.getElem_range]
  constructor
  · intro hedge
    exact ⟨List.mem_of_getElem? hedge, hplace hedge⟩
  · rintro ⟨hmem, rfl⟩
    obtain ⟨place, hedge⟩ := List.mem_iff_getElem?.mp hmem
    rw [hplace hedge, hedge]

/-- The edge with a number stands for the dependency with that number. -/
theorem exists_record {edge : Edge} (hmem : edge ∈ g.edges) : ∃ task dependency,
    (dependencies nodes)[edge.number]? = some (task, dependency) ∧
      Represents limit edge task dependency := by
  have hall := edgesFor_forall₂ (assemble_ok h).2
  obtain ⟨hbound, hedge⟩ := List.getElem?_eq_some_iff.mp
    ((getElem?_edges_iff h).mpr ⟨hmem, rfl⟩)
  have hbound' : edge.number < (dependencies nodes).length := hall.length_eq ▸ hbound
  have hrep := hall.get hbound' hbound
  rw [List.get_eq_getElem, List.get_eq_getElem, hedge] at hrep
  exact ⟨_, _, List.getElem?_eq_getElem hbound', hrep⟩

/-- Every dependency has an edge with its number. -/
theorem exists_edge_of_record {number : Nat} {task : String} {dependency : Dependency}
    (hrecord : (dependencies nodes)[number]? = some (task, dependency)) :
    ∃ edge ∈ g.edges, edge.number = number ∧ Represents limit edge task dependency := by
  have hall := edgesFor_forall₂ (assemble_ok h).2
  obtain ⟨hbound, hget⟩ := List.getElem?_eq_some_iff.mp hrecord
  have hbound' : number < g.edges.length := hall.length_eq ▸ hbound
  have hrep := hall.get hbound hbound'
  rw [List.get_eq_getElem, List.get_eq_getElem, hget] at hrep
  obtain ⟨hmem, hnumber⟩ := (getElem?_edges_iff h).mp (List.getElem?_eq_getElem hbound')
  exact ⟨_, hmem, hnumber, hrep⟩

end

/-! ## Removing edges -/

/-- Removes edges one after another, whether they are present or not. -/
def removeEach (g : Graph) (numbers : List Nat) : Graph :=
  numbers.foldl (fun left number => (left.remove number).1) g

@[simp] theorem removeEach_tasks (g : Graph) (numbers : List Nat) :
    (g.removeEach numbers).tasks = g.tasks := by
  induction numbers generalizing g with
  | nil => rfl
  | cons number rest ih => exact ih (g.remove number).1

theorem removeEach_edges (g : Graph) (numbers : List Nat) :
    (g.removeEach numbers).edges = g.edges.filter fun edge => edge.number ∉ numbers := by
  induction numbers generalizing g with
  | nil => simp [removeEach]
  | cons number rest ih =>
      have hstep : (g.remove number).1.edges = g.edges.filter fun edge => edge.number ≠ number :=
        rfl
      show ((g.remove number).1.removeEach rest).edges = _
      rw [ih, hstep, List.filter_filter]
      refine List.filter_congr ?_
      intro edge _
      simp [Bool.and_comm]

theorem mem_removeEach {g : Graph} {numbers : List Nat} {edge : Edge} :
    edge ∈ (g.removeEach numbers).edges ↔ edge ∈ g.edges ∧ edge.number ∉ numbers := by
  simp [removeEach_edges]

/-- Removing an edge that is not present changes nothing. -/
theorem remove_of_not_hasEdge {g : Graph} {number : Nat} (h : g.hasEdge number = false) :
    (g.remove number).1 = g := by
  refine eq_of_mem_iff rfl ?_
  intro edge
  rw [remove, mem_restrict, and_iff_left_iff_imp]
  intro hmem
  have hother : edge.number ≠ number := by
    intro hnumber
    rw [hasEdge_iff.mpr ⟨edge, hmem, hnumber⟩] at h
    cases h
  simpa using hother

/-! ## Looking at what is left -/

/-- The edge of a task is not listed twice, as no edge leads from a task to itself. -/
theorem Ranked.nodup_edgesOf {g : Graph} (h : g.Ranked) (task : String) :
    ((g.edgesOf task).map Edge.number).Nodup := by
  obtain ⟨rank, hclimb⟩ := h
  have hside : ∀ edges : List Edge, (edges.Pairwise fun a b => b.number < a.number) →
      (edges.map Edge.number).Nodup := by
    intro edges hdescending
    exact List.pairwise_map.mpr (hdescending.imp Nat.ne_of_gt)
  rw [edgesOf, List.map_append]
  refine List.nodup_append.mpr ⟨hside _ (g.outgoing_descending task),
    hside _ (g.incoming_descending task), ?_⟩
  intro number hout other hin hsame
  obtain ⟨edge, hedge, rfl⟩ := List.mem_map.mp hout
  obtain ⟨edge', hedge', rfl⟩ := List.mem_map.mp hin
  obtain ⟨hmem, hsource⟩ := mem_outgoing.mp hedge
  obtain ⟨hmem', htarget⟩ := mem_incoming.mp hedge'
  obtain rfl := eq_of_number_eq hmem hmem' hsame
  have hloop := hclimb edge hmem
  rw [hsource, htarget] at hloop
  exact Nat.lt_irrefl _ hloop

theorem outgoing_eq_nil {g : Graph} {task : String} (h : task ∉ g.tasks) :
    g.outgoing task = [] := by
  refine List.eq_nil_iff_forall_not_mem.mpr ?_
  intro edge hmem
  obtain ⟨hedge, rfl⟩ := mem_outgoing.mp hmem
  exact h (g.known edge hedge).1

theorem incoming_eq_nil {g : Graph} {task : String} (h : task ∉ g.tasks) :
    g.incoming task = [] := by
  refine List.eq_nil_iff_forall_not_mem.mpr ?_
  intro edge hmem
  obtain ⟨hedge, rfl⟩ := mem_incoming.mp hmem
  exact h (g.known edge hedge).2

/-- All views of a graph agree with the dependencies it was built from and the numbers that were
removed since. -/
structure Faithful (nodes : List Node) (removed : List Nat) (g : Graph) : Prop where
  /-- Every dependency has an edge with its number, except those removed. -/
  present : g.edges.map Edge.number =
    (List.range (dependencies nodes).length).filter fun number => number ∉ removed
  /-- An edge is what the dependency with its number says. -/
  record : ∀ edge ∈ g.edges, ∃ task dependency,
    (dependencies nodes)[edge.number]? = some (task, dependency) ∧
      edge.source = dependency.on ∧ edge.target = task ∧
      edge.switch.map (fun selector => selector.lines.map Prod.fst) =
        dependency.switch.map SwitchCondition.lines ∧
      edge.condition = dependency.condition
  remove_true : ∀ number, (g.remove number).2 = true ↔
    number < (dependencies nodes).length ∧ number ∉ removed
  remove_false : ∀ number, (g.remove number).2 = false → (g.remove number).1 = g
  leaving : ∀ task, (∀ edge, edge ∈ g.outgoing task ↔ edge ∈ g.edges ∧ edge.source = task) ∧
    (g.outgoing task).Pairwise fun a b => b.number < a.number
  touching : ∀ task, ∃ entering, g.edgesOf task = g.outgoing task ++ entering ∧
    (∀ edge, edge ∈ entering ↔ edge ∈ g.edges ∧ edge.target = task) ∧
    entering.Pairwise fun a b => b.number < a.number
  once : ∀ task, ((g.edgesOf task).map Edge.number).Nodup
  unknown : ∀ task, task ∉ nodes.map Node.id → g.outgoing task = [] ∧ g.edgesOf task = []
  pairs : g.surviving.Perm (g.edges.map fun edge => (edge.source, edge.target)) ∧
    g.surviving.Pairwise fun a b => toLex a ≤ toLex b
  edgeCount : g.edges.length =
    ((List.range (dependencies nodes).length).filter fun number => number ∉ removed).length
  tasks : g.tasks = nodes.map Node.id

section

variable {limit : Nat} {nodes : List Node} {g : Graph} (h : ofNodes limit nodes = .ok g)

include h

theorem hasEdge_removeEach_iff {numbers : List Nat} {number : Nat} :
    (g.removeEach numbers).hasEdge number = true ↔
      number < (dependencies nodes).length ∧ number ∉ numbers := by
  have hnumber : number ∈ g.edges.map Edge.number ↔ number < (dependencies nodes).length := by
    rw [numbers_eq (ofNodes_ok h).1, List.mem_range]
  rw [hasEdge_iff, ← hnumber, List.mem_map]
  constructor
  · rintro ⟨edge, hmem, rfl⟩
    obtain ⟨hmem, hleft⟩ := mem_removeEach.mp hmem
    exact ⟨⟨edge, hmem, rfl⟩, hleft⟩
  · rintro ⟨⟨edge, hmem, rfl⟩, hleft⟩
    exact ⟨edge, mem_removeEach.mpr ⟨hmem, hleft⟩, rfl⟩

/-- **All views of a graph agree, whatever is removed.**  The edges present are those of all
dependencies, numbered in their order, without the ones removed; each keeps what its dependency
says.  A removal tells whether the edge was present, and changes nothing if it was not.  The
listings of a task, the pairs of names and the counts show the edges present, each of them once,
and nothing else. -/
theorem faithful_removeEach (numbers : List Nat) :
    Faithful nodes numbers (g.removeEach numbers) := by
  have hassemble := (ofNodes_ok h).1
  have htasks : (g.removeEach numbers).tasks = nodes.map Node.id := by
    rw [removeEach_tasks, (assemble_ok hassemble).1]
  have hpresent : (g.removeEach numbers).edges.map Edge.number =
      (List.range (dependencies nodes).length).filter fun number => number ∉ numbers := by
    rw [removeEach_edges, ← numbers_eq hassemble, List.filter_map]
    rfl
  have hranked : (g.removeEach numbers).Ranked :=
    (ranked_of_cycle?_eq_none (ofNodes_ok h).2).mono fun _ hmem => (mem_removeEach.mp hmem).1
  exact {
    present := hpresent
    record := by
      intro edge hmem
      obtain ⟨task, dependency, hrecord, hrep⟩ :=
        exists_record hassemble (mem_removeEach.mp hmem).1
      exact ⟨task, dependency, hrecord, hrep.source, hrep.target, hrep.switch_texts,
        hrep.condition⟩
    remove_true := fun _ => hasEdge_removeEach_iff h
    remove_false := fun _ => remove_of_not_hasEdge
    leaving := fun task => ⟨fun _ => mem_outgoing, outgoing_descending _ task⟩
    touching := fun task => ⟨_, rfl, fun _ => mem_incoming, incoming_descending _ task⟩
    once := hranked.nodup_edgesOf
    unknown := by
      intro task hunknown
      rw [← htasks] at hunknown
      rw [edgesOf, outgoing_eq_nil hunknown, incoming_eq_nil hunknown]
      exact ⟨rfl, rfl⟩
    pairs := ⟨List.mergeSort_perm _ _, surviving_sorted _⟩
    edgeCount := by rw [← hpresent, List.length_map]
    tasks := htasks }

end

/-- A task that depends on another in two ways, and on the beginning besides. -/
def twins : List Node :=
  [⟨"begin", "begin", .start, [], none⟩,
   ⟨"ask", "ask", .decision none, [.plain "begin"], none⟩,
   ⟨"build", "build", .decision none,
    [⟨"ask", some (.ofLines ["red"]), none⟩, ⟨"ask", none, some .failure⟩, .plain "begin"], none⟩]

/-- One of the two ways is removed twice, and an edge that never was. -/
theorem twins_faithful : ∃ g, ofNodes 1048576 twins = .ok g ∧
    Faithful twins [2, 7, 0, 2] (g.removeEach [2, 7, 0, 2]) ∧
    (g.removeEach [2, 7, 0, 2]).edges.map Edge.number = [1, 3] := by
  have hbuilt : ∃ g, ofNodes 1048576 twins = .ok g := ⟨_, rfl⟩
  obtain ⟨g, hg⟩ := hbuilt
  have hfaithful := faithful_removeEach hg [2, 7, 0, 2]
  exact ⟨g, hg, hfaithful, hfaithful.present⟩

/-! ## Paths that are left -/

/-- A task depends on another by a dependency whose number has not been removed. -/
def Remains (nodes : List Node) (removed : List Nat) (on task : String) : Prop :=
  ∃ number dependency, (dependencies nodes)[number]? = some (task, dependency) ∧
    dependency.on = on ∧ number ∉ removed

section

variable {limit : Nat} {nodes : List Node} {g : Graph} (h : ofNodes limit nodes = .ok g)

include h

theorem leads_removeEach_iff {numbers : List Nat} {a b : String} :
    (g.removeEach numbers).Leads a b ↔ Remains nodes numbers a b := by
  have hassemble := (ofNodes_ok h).1
  constructor
  · rintro ⟨edge, hmem, rfl, rfl⟩
    obtain ⟨hmem, hleft⟩ := mem_removeEach.mp hmem
    obtain ⟨task, dependency, hrecord, hrep⟩ := exists_record hassemble hmem
    rw [hrep.target, hrep.source]
    exact ⟨edge.number, dependency, hrecord, rfl, hleft⟩
  · rintro ⟨number, dependency, hrecord, rfl, hleft⟩
    obtain ⟨edge, hmem, rfl, hrep⟩ := exists_edge_of_record hassemble hrecord
    exact ⟨edge, mem_removeEach.mpr ⟨hmem, hleft⟩, hrep.source, hrep.target⟩

/-- **Paths are chains of dependencies that remain.**  After any removals there is a path from one
name to another exactly when both are names of tasks and the second depends on the first, in no
step or in many, by dependencies whose numbers have not been removed. -/
theorem hasPath_removeEach_iff (numbers : List Nat) (source target : String) :
    (g.removeEach numbers).hasPath source target = true ↔
      source ∈ nodes.map Node.id ∧ target ∈ nodes.map Node.id ∧
        ReflTransGen (Remains nodes numbers) source target := by
  have hleads : (g.removeEach numbers).Leads = Remains nodes numbers := by
    funext a b
    exact propext (leads_removeEach_iff h)
  rw [hasPath_iff, hleads, removeEach_tasks, (assemble_ok (ofNodes_ok h).1).1]

end

/-- Either of the two ways will do. -/
theorem twins_connected : ∃ g, ofNodes 1048576 twins = .ok g ∧
    (g.removeEach [3, 1]).hasPath "begin" "build" = true := by
  have hbuilt : ∃ g, ofNodes 1048576 twins = .ok g := ⟨_, rfl⟩
  obtain ⟨g, hg⟩ := hbuilt
  have hask : Remains twins [3, 1] "begin" "ask" := ⟨0, _, rfl, rfl, by decide⟩
  have hbuild : Remains twins [3, 1] "ask" "build" := ⟨2, _, rfl, rfl, by decide⟩
  exact ⟨g, hg, (hasPath_removeEach_iff hg [3, 1] "begin" "build").mpr
    ⟨by decide, by decide, .tail (.single hask) hbuild⟩⟩

end Workflow.Graph
