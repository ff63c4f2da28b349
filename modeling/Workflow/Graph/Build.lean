import Workflow.Graph.Cycle

/-!
# Building graphs

A graph is built from nodes. The first thing wrong is reported: a name used twice, then for each
dependency in turn an unknown name or a switch condition that cannot be used, and at last a cycle.
-/

namespace Workflow.Graph

/-! ## Names -/

/-- The first name that occurs earlier in a list; `before` has the names before it. -/
def firstRepeated? (before : List String) : List String → Option String
  | [] => none
  | name :: rest =>
    if before.contains name then some name else firstRepeated? (name :: before) rest

theorem nodup_of_firstRepeated? {before names : List String}
    (h : firstRepeated? before names = none) :
    names.Nodup ∧ ∀ name ∈ names, name ∉ before := by
  induction names generalizing before with
  | nil => simp
  | cons name rest ih =>
      simp only [firstRepeated?] at h
      split at h
      · cases h
      · next hnew =>
          obtain ⟨hdistinct, hapart⟩ := ih h
          refine ⟨List.nodup_cons.mpr ⟨fun hmem => ?_, hdistinct⟩, fun other hmem => ?_⟩
          · exact hapart name hmem List.mem_cons_self
          · rcases List.mem_cons.mp hmem with rfl | hmem
            · simpa using hnew
            · exact fun hold => hapart other hmem (List.mem_cons_of_mem _ hold)

/-! ## Edges -/

/-- A switch condition ready for use. -/
def selectorFor (limit : Nat) (source target : String) :
    Option SwitchCondition → Except Error (Option Selector)
  | none => .ok none
  | some condition =>
    match Selector.compile limit condition with
    | .ok selector => .ok (some selector)
    | .error fault => .error (.invalidSwitch source target fault)

/-- The edge for a dependency of a task. -/
def edgeFor (limit : Nat) (tasks : List String) (number : Nat) (task : String)
    (dependency : Dependency) : Except Error Edge :=
  if tasks.contains dependency.on then
    (selectorFor limit dependency.on task dependency.switch).map fun selector =>
      ⟨number, dependency.on, task, selector, dependency.condition⟩
  else .error (.unknownReference task dependency.on)

/-- All dependencies with the tasks that have them, in order. -/
def dependencies (nodes : List Node) : List (String × Dependency) :=
  nodes.flatMap fun node => node.dependencies.map fun dependency => (node.id, dependency)

/-- The edges for dependencies, numbered from a number on. -/
def edgesFor (limit : Nat) (tasks : List String) (number : Nat) :
    List (String × Dependency) → Except Error (List Edge)
  | [] => .ok []
  | (task, dependency) :: rest =>
    match edgeFor limit tasks number task dependency with
    | .error e => .error e
    | .ok first => (edgesFor limit tasks (number + 1) rest).map (first :: ·)

theorem edgeFor_ok {limit : Nat} {tasks : List String} {number : Nat} {task : String}
    {dependency : Dependency} {edge : Edge}
    (h : edgeFor limit tasks number task dependency = .ok edge) :
    edge.number = number ∧ edge.target = task ∧ edge.source = dependency.on ∧
      edge.condition = dependency.condition ∧ edge.source ∈ tasks := by
  simp only [edgeFor] at h
  split at h
  · next hknown =>
      cases hselector : selectorFor limit dependency.on task dependency.switch with
      | error e =>
          rw [hselector] at h
          cases h
      | ok selector =>
          rw [hselector] at h
          simp only [Except.map, Except.ok.injEq] at h
          subst h
          exact ⟨rfl, rfl, rfl, rfl, by simpa using hknown⟩
  · cases h

theorem edgesFor_ok {limit : Nat} {tasks : List String} {number : Nat}
    {rest : List (String × Dependency)} {edges : List Edge}
    (h : edgesFor limit tasks number rest = .ok edges) :
    edges.Pairwise (fun a b => a.number < b.number) ∧ (∀ e ∈ edges, number ≤ e.number) ∧
      ∀ e ∈ edges, e.source ∈ tasks ∧ e.target ∈ rest.map Prod.fst := by
  induction rest generalizing number edges with
  | nil =>
      simp only [edgesFor, Except.ok.injEq] at h
      subst h
      simp
  | cons head rest ih =>
      obtain ⟨task, dependency⟩ := head
      simp only [edgesFor] at h
      split at h
      · cases h
      · next first hfirst =>
          cases hlater : edgesFor limit tasks (number + 1) rest with
          | error e =>
              rw [hlater] at h
              cases h
          | ok later =>
              rw [hlater] at h
              simp only [Except.map, Except.ok.injEq] at h
              subst h
              obtain ⟨hordered, habove, hends⟩ := ih hlater
              obtain ⟨hnumber, htarget, -, -, hsource⟩ := edgeFor_ok hfirst
              refine ⟨List.pairwise_cons.mpr ⟨fun e hmem => ?_, hordered⟩, ?_, ?_⟩
              · have hnext := habove e hmem
                omega
              · intro e hmem
                rcases List.mem_cons.mp hmem with rfl | hmem
                · omega
                · have hnext := habove e hmem
                  omega
              · intro e hmem
                rcases List.mem_cons.mp hmem with rfl | hmem
                · exact ⟨hsource, by simp [htarget]⟩
                · exact ⟨(hends e hmem).1, by simp [(hends e hmem).2]⟩

theorem mem_dependencies {nodes : List Node} {task : String}
    (h : task ∈ (dependencies nodes).map Prod.fst) : task ∈ nodes.map Node.id := by
  simp only [dependencies, List.map_flatMap, List.mem_flatMap] at h
  obtain ⟨node, hnode, hmem⟩ := h
  simp only [List.map_map, List.mem_map] at hmem
  obtain ⟨dependency, -, rfl⟩ := hmem
  exact List.mem_map_of_mem hnode

/-! ## Graphs -/

/-- The graph of nodes, cycles not yet considered. -/
def assemble (limit : Nat) (nodes : List Node) : Except Error Graph :=
  match hnames : firstRepeated? [] (nodes.map Node.id) with
  | some id => .error (.duplicateTask id)
  | none =>
    match hedges : edgesFor limit (nodes.map Node.id) 0 (dependencies nodes) with
    | .error e => .error e
    | .ok edges => .ok {
        tasks := nodes.map Node.id
        edges := edges
        distinct := (nodup_of_firstRepeated? hnames).1
        ordered := (edgesFor_ok hedges).1
        known := fun e hmem =>
          ⟨((edgesFor_ok hedges).2.2 e hmem).1,
            mem_dependencies ((edgesFor_ok hedges).2.2 e hmem).2⟩ }

/-- The graph of nodes. Patterns of switch conditions may have a size of `limit` bytes. -/
def ofNodes (limit : Nat) (nodes : List Node) : Except Error Graph :=
  match assemble limit nodes with
  | .error e => .error e
  | .ok g =>
    match g.cycle? with
    | some task => .error (.cycle task)
    | none => .ok g

end Workflow.Graph
