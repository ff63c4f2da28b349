import Mathlib.Data.List.Basic
import Workflow.Graph.Dot

/-!
# What a drawing tells

Names of tasks and lines of conditions are whatever their authors like, line ends, quotes and whole
statements of a drawing included.  Yet a drawing tells its graph: its tasks in their order and the
edges present, each with its label (`dot_tells`).

Two facts carry this.  A label is read back from its escaped form, whatever it is
(`unescape_flatMap`), and no escaped form has a line end in it.  So a drawing cut at its line ends
falls into exactly its statements (`splitOn_dot`), one line for each; no label can end a statement
and begin another.  What is left is to tell statements apart by their lines
(`Statement.line_injective`), and there the part before the label decides: it has digits and an
arrow in it, and nothing that an author wrote.
-/

namespace Workflow

/-- What is drawn of an edge: where it comes from, where it leads, and its label. -/
def Edge.shown (edge : Edge) : String × String × String := (edge.source, edge.target, edge.label)

namespace Graph

/-! ## Labels -/

/-- Reads a label back from its escaped form. -/
def unescape : List Char → List Char
  | '\\' :: 'l' :: rest => '\n' :: unescape rest
  | '\\' :: c :: rest => c :: unescape rest
  | c :: rest => c :: unescape rest
  | [] => []

theorem unescape_flatMap (chars : List Char) : unescape (chars.flatMap escapeChar) = chars := by
  induction chars with
  | nil => rfl
  | cons c rest ih =>
      rw [List.flatMap_cons, escapeChar]
      by_cases hquote : c = '"'
      · simp [hquote, unescape, ih]
      · by_cases hslash : c = '\\'
        · simp [hslash, unescape, ih]
        · by_cases hline : c = '\n'
          · simp [hline, unescape, ih]
          · simp [hquote, hslash, hline, unescape, ih]

theorem newline_not_mem_escapeChar (c : Char) : '\n' ∉ escapeChar c := by
  unfold escapeChar
  split
  · decide
  · split
    · decide
    · split
      · decide
      · next hline => simpa using fun h => hline h.symm

/-- How a statement ends: its label between quotes, and the bracket that closes it. -/
def labelled (label : String) : List Char :=
  [' ', 'l', 'a', 'b', 'e', 'l', ' ', '=', ' ', '"'] ++ label.toList.flatMap escapeChar ++
    ['"', ' ', ']']

theorem labelled_injective : Function.Injective labelled := by
  intro a b hsame
  have hescaped : a.toList.flatMap escapeChar = b.toList.flatMap escapeChar :=
    List.append_cancel_left (List.append_cancel_right hsame)
  have hread := congrArg unescape hescaped
  rw [unescape_flatMap, unescape_flatMap] at hread
  exact String.toList_inj.mp hread

theorem newline_not_mem_labelled (label : String) : '\n' ∉ labelled label := by
  intro hmem
  obtain hmem | hmem := List.mem_append.mp hmem
  · obtain hmem | hmem := List.mem_append.mp hmem
    · exact absurd hmem (by decide)
    · obtain ⟨c, -, hc⟩ := List.mem_flatMap.mp hmem
      exact newline_not_mem_escapeChar c hc
  · exact absurd hmem (by decide)

/-! ## Places -/

theorem isDigit_of_mem_place {n : Nat} {c : Char} (h : c ∈ Nat.toDigits 10 n) :
    c.isDigit = true :=
  Nat.isDigit_of_mem_toDigits (by decide) (by decide) h

/-- A place is told from what follows it when that begins with a blank. -/
theorem place_append_inj {m n : Nat} {rest rest' : List Char}
    (h : Nat.toDigits 10 m ++ ' ' :: rest = Nat.toDigits 10 n ++ ' ' :: rest') :
    m = n ∧ rest = rest' := by
  have hfirst : ∀ (k : Nat) (behind : List Char),
      (Nat.toDigits 10 k ++ ' ' :: behind).takeWhile Char.isDigit = Nat.toDigits 10 k := by
    intro k behind
    rw [List.takeWhile_append_of_pos fun c hc => isDigit_of_mem_place hc]
    simp
  have hdigits : Nat.toDigits 10 m = Nat.toDigits 10 n := by
    rw [← hfirst m rest, h, hfirst]
  have hplace : m = n := by
    rw [← @Nat.ofDigitChars_ten_toDigits m, hdigits, Nat.ofDigitChars_ten_toDigits]
  rw [hdigits] at h
  exact ⟨hplace, (List.cons.inj (List.append_cancel_left h)).2⟩

/-! ## Statements -/

/-- What a drawing is made of: a task at its place, or an edge between two places. -/
inductive Statement where
  | task (place : Nat) (label : String)
  | edge (source target : Nat) (label : String)
deriving DecidableEq, Repr

namespace Statement

/-- The line that is drawn, without its end. -/
def line : Statement → List Char
  | task place label =>
    [' ', ' ', ' ', ' '] ++ (Nat.toDigits 10 place ++ ' ' :: '[' :: labelled label)
  | edge source target label =>
    [' ', ' ', ' ', ' '] ++ (Nat.toDigits 10 source ++ ' ' :: '-' :: '>' :: ' ' ::
      (Nat.toDigits 10 target ++ ' ' :: '[' :: labelled label))

/-- What follows the first place tells tasks from edges. -/
theorem line_injective : Function.Injective line := by
  intro s t hsame
  cases s with
  | task place label =>
      cases t with
      | task place' label' =>
          obtain ⟨rfl, hrest⟩ := place_append_inj (List.append_cancel_left hsame)
          rw [labelled_injective (List.cons.inj hrest).2]
      | edge source target label' =>
          obtain ⟨-, hrest⟩ := place_append_inj (List.append_cancel_left hsame)
          exact absurd (List.cons.inj hrest).1 (by decide)
  | edge source target label =>
      cases t with
      | task place label' =>
          obtain ⟨-, hrest⟩ := place_append_inj (List.append_cancel_left hsame)
          exact absurd (List.cons.inj hrest).1 (by decide)
      | edge source' target' label' =>
          obtain ⟨rfl, hrest⟩ := place_append_inj (List.append_cancel_left hsame)
          have htarget : Nat.toDigits 10 target ++ ' ' :: '[' :: labelled label =
              Nat.toDigits 10 target' ++ ' ' :: '[' :: labelled label' := by
            simpa using hrest
          obtain ⟨rfl, hlabel⟩ := place_append_inj htarget
          rw [labelled_injective (List.cons.inj hlabel).2]

theorem newline_not_mem_line (s : Statement) : '\n' ∉ s.line := by
  have hplace : ∀ n, '\n' ∉ Nat.toDigits 10 n := by
    intro n hmem
    exact absurd (isDigit_of_mem_place hmem) (by decide)
  cases s with
  | task place label =>
      simp [line, hplace, newline_not_mem_labelled]
  | edge source target label =>
      simp [line, hplace, newline_not_mem_labelled]

/-! ### Reading statements -/

/-- The name of a task that is stated. -/
def task? : Statement → Option String
  | task _ label => some label
  | edge .. => none

/-- The edge that is stated, with the names of the tasks at its places. -/
def edge? (tasks : List String) : Statement → Option (String × String × String)
  | task .. => none
  | edge source target label =>
    match tasks[source]?, tasks[target]? with
    | some source, some target => some (source, target, label)
    | _, _ => none

/-- The statement of an edge between tasks. -/
def between (tasks : List String) (shown : String × String × String) : Statement :=
  edge (tasks.idxOf shown.1) (tasks.idxOf shown.2.1) shown.2.2

theorem edge?_between {tasks : List String} {shown : String × String × String}
    (hsource : shown.1 ∈ tasks) (htarget : shown.2.1 ∈ tasks) :
    (between tasks shown).edge? tasks = some shown := by
  simp only [between, edge?, List.getElem?_idxOf hsource, List.getElem?_idxOf htarget]

end Statement

/-- The statements of tasks from a place on. -/
def taskStatements (place : Nat) : List String → List Statement
  | [] => []
  | task :: rest => .task place task :: taskStatements (place + 1) rest

theorem filterMap_task?_taskStatements (place : Nat) (tasks : List String) :
    (taskStatements place tasks).filterMap Statement.task? = tasks := by
  induction tasks generalizing place with
  | nil => rfl
  | cons task rest ih =>
      show task :: (taskStatements (place + 1) rest).filterMap Statement.task? = task :: rest
      rw [ih]

theorem filterMap_edge?_taskStatements (among : List String) (place : Nat) (tasks : List String) :
    (taskStatements place tasks).filterMap (Statement.edge? among) = [] := by
  induction tasks generalizing place with
  | nil => rfl
  | cons task rest ih =>
      exact ih (place + 1)

/-- What a drawing states: the tasks in their order, then the edges present by their numbers. -/
def statements (g : Graph) : List Statement :=
  taskStatements 0 g.tasks ++ (g.edges.map Edge.shown).map (Statement.between g.tasks)

theorem filterMap_task?_statements (g : Graph) :
    g.statements.filterMap Statement.task? = g.tasks := by
  rw [statements, List.filterMap_append, filterMap_task?_taskStatements, List.filterMap_map]
  have hnone : (g.edges.map Edge.shown).filterMap
      (Statement.task? ∘ Statement.between g.tasks) = [] :=
    List.filterMap_eq_nil_iff.mpr fun _ _ => rfl
  rw [hnone, List.append_nil]

/-- As the ends of each edge are tasks of the graph, their places name them. -/
theorem filterMap_edge?_statements (g : Graph) :
    g.statements.filterMap (Statement.edge? g.tasks) = g.edges.map Edge.shown := by
  rw [statements, List.filterMap_append, filterMap_edge?_taskStatements, List.nil_append,
    List.filterMap_map]
  have hread : ∀ shown ∈ g.edges.map Edge.shown,
      (Statement.edge? g.tasks ∘ Statement.between g.tasks) shown = some shown := by
    intro shown hmem
    obtain ⟨edge, hedge, rfl⟩ := List.mem_map.mp hmem
    obtain ⟨hsource, htarget⟩ := g.known edge hedge
    exact Statement.edge?_between hsource htarget
  rw [List.filterMap_congr hread, List.filterMap_some]

/-- Graphs state the same when they have the same tasks and show the same edges. -/
theorem statements_eq_iff {g h : Graph} : g.statements = h.statements ↔
    g.tasks = h.tasks ∧ g.edges.map Edge.shown = h.edges.map Edge.shown := by
  constructor
  · intro hsame
    have htasks : g.tasks = h.tasks := by
      rw [← filterMap_task?_statements g, hsame, filterMap_task?_statements h]
    refine ⟨htasks, ?_⟩
    rw [← filterMap_edge?_statements g, hsame, htasks, filterMap_edge?_statements h]
  · rintro ⟨htasks, hedges⟩
    rw [statements, statements, htasks, hedges]

/-! ## Drawings -/

theorem toList_attributes (label : String) :
    (attributes label).toList = ' ' :: '[' :: (labelled label ++ ['\n']) := by
  have hescaped : (escape label).toList = label.toList.flatMap escapeChar := by
    rw [escape, String.toList_ofList]
  simp [attributes, hescaped, labelled]

theorem toList_taskLine (place : Nat) (task : String) :
    (taskLine place task).toList = (Statement.task place task).line ++ ['\n'] := by
  simp [taskLine, toList_attributes, Statement.line]

theorem toList_edgeLine (g : Graph) (edge : Edge) :
    (g.edgeLine edge).toList = (Statement.between g.tasks edge.shown).line ++ ['\n'] := by
  simp [edgeLine, toList_attributes, Statement.line, Statement.between, Edge.shown]

theorem taskLines_eq (place : Nat) (tasks : List String) :
    (taskLines place tasks).map String.toList =
      (taskStatements place tasks).map fun s => s.line ++ ['\n'] := by
  induction tasks generalizing place with
  | nil => rfl
  | cons task rest ih =>
      rw [taskLines, taskStatements, List.map_cons, List.map_cons, toList_taskLine, ih]

theorem edgeLines_eq (g : Graph) : (g.edges.map g.edgeLine).map String.toList =
    ((g.edges.map Edge.shown).map (Statement.between g.tasks)).map fun s => s.line ++ ['\n'] := by
  rw [List.map_map, List.map_map, List.map_map]
  exact List.map_congr_left fun edge _ => toList_edgeLine g edge

/-- The lines of a drawing without their ends. -/
def drawnLines (g : Graph) : List (List Char) :=
  "digraph \x7b".toList :: g.statements.map Statement.line ++ ["\x7d".toList]

theorem toList_dot (g : Graph) : g.dot.toList = g.drawnLines.flatMap (· ++ ['\n']) := by
  have hstatements : (String.join (taskLines 0 g.tasks ++ g.edges.map g.edgeLine)).toList =
      (g.statements.map Statement.line).flatMap (· ++ ['\n']) := by
    calc (String.join (taskLines 0 g.tasks ++ g.edges.map g.edgeLine)).toList
        = ((taskLines 0 g.tasks ++ g.edges.map g.edgeLine).map String.toList).flatten := by
          rw [String.toList_join, List.flatMap_def]
      _ = (g.statements.map fun s => s.line ++ ['\n']).flatten := by
          rw [List.map_append, taskLines_eq, edgeLines_eq, ← List.map_append, statements]
      _ = (g.statements.map Statement.line).flatMap (· ++ ['\n']) := by
          rw [List.flatMap_def, List.map_map]
          rfl
  rw [dot, String.toList_append, String.toList_append, hstatements, drawnLines,
    List.flatMap_append, List.flatMap_cons]
  simp

/-- Lines that each have an end are cut apart there, with nothing behind the last. -/
theorem splitOn_flatMap {cut : Char} {lines : List (List Char)} (h : ∀ line ∈ lines, cut ∉ line) :
    (lines.flatMap (· ++ [cut])).splitOn cut = lines ++ [[]] := by
  induction lines with
  | nil => exact List.splitOn_nil cut
  | cons line rest ih =>
      have hline : line.splitOn cut = [line] :=
        List.splitOn_eq_singleton (h line List.mem_cons_self)
      have hrest := ih fun other hmem => h other (List.mem_cons_of_mem line hmem)
      rw [List.splitOn_eq_splitOnP] at hline hrest ⊢
      rw [List.flatMap_cons, List.append_assoc, List.singleton_append,
        List.splitOnP_append_cons line _ (by simp), hline, hrest]
      rfl

/-- A drawing cut at its line ends falls into its statements. -/
theorem splitOn_dot (g : Graph) : g.dot.toList.splitOn '\n' = g.drawnLines ++ [[]] := by
  rw [toList_dot]
  refine splitOn_flatMap ?_
  intro line hmem
  rw [drawnLines, List.mem_append, List.mem_cons, List.mem_map, List.mem_singleton] at hmem
  obtain (rfl | ⟨s, -, rfl⟩) | rfl := hmem
  · decide
  · exact s.newline_not_mem_line
  · decide

theorem dot_eq_iff {g h : Graph} : g.dot = h.dot ↔ g.statements = h.statements := by
  constructor
  · intro hsame
    have hended : g.drawnLines ++ [[]] = h.drawnLines ++ [[]] := by
      rw [← splitOn_dot, hsame, splitOn_dot]
    have hlines : g.drawnLines = h.drawnLines := List.append_cancel_right hended
    have hmap : g.statements.map Statement.line = h.statements.map Statement.line :=
      (List.cons.inj (List.append_cancel_right hlines)).2
    exact List.map_injective_iff.mpr Statement.line_injective hmap
  · intro hsame
    rw [← String.toList_inj, toList_dot, toList_dot, drawnLines, hsame, drawnLines]

/-- **A drawing tells its graph.**  Cut at its line ends it falls into one statement for each task,
then one for each edge present, between an opening and a closing line; nothing in a name or in a
condition makes it fall apart otherwise.  Two graphs, built from nodes and with any edges removed
since, have the same drawing exactly when they have the same tasks in the same order and the same
edges present in the order of their numbers, each with its source, its target and its label. -/
theorem dot_tells (g h : Graph) :
    g.dot.toList.splitOn '\n' =
      "digraph \x7b".toList :: g.statements.map Statement.line ++ ["\x7d".toList, []] ∧
    (g.dot = h.dot ↔
      g.tasks = h.tasks ∧ g.edges.map Edge.shown = h.edges.map Edge.shown) := by
  constructor
  · rw [splitOn_dot, drawnLines, List.append_assoc]
    rfl
  · rw [dot_eq_iff, statements_eq_iff]

-- a name that tries to be two tasks
example : taskLine 0 "a\" ]\n    1 [ label = \"b" =
    "    0 [ label = \"a\\\" ]\\l    1 [ label = \\\"b\" ]\n" := by decide

end Graph

end Workflow
