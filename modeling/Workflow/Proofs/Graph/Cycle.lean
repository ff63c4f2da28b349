import Workflow.Graph.Cycle
import Workflow.Proofs.Graph.Visit

/-!
# The search for cycles

The search answers with a task exactly when the graph has a cycle, and the task it answers with
lies on one (`cycle?_on_cycle`, `ranked_of_cycle?_eq_none`).

The depth-first half works on a stack, on which a task may be many times.  `Search.Sound` is what
every turn keeps (`Sound.push`, `Sound.pop`).  Its field `above` speaks of the tasks that the
search has come to and is not done with: where such a task is first met on the stack, whatever
lies above it can be reached from it, and what its edges lead to has been come to or lies there
too.  So when it is on top its edges lead to tasks that are finished, or to others under way, which
are found below it and so reach it.  That is the field `back`, the fact about the order of
finishing from which all the rest follows.

The other half then has nothing to search for.  Going through the order from its end, the first
task found backwards that was not found before cannot be one finished earlier, so the edge by
which it was found closes a cycle; and where nothing is found, the order itself is a rank.
-/

namespace Workflow.Graph

open Relation

/-! ## Names -/

/-- One name more: what is left out besides is what has that name. -/
theorem length_filter_cons {α : Type} (f : α → String) {name : String} {names : List String}
    (hnew : name ∉ names) : ∀ xs : List α,
      (xs.filter fun x => !(name :: names).contains (f x)).length +
          (xs.filter fun x => f x = name).length =
        (xs.filter fun x => !names.contains (f x)).length
  | [] => rfl
  | x :: xs => by
      have ih := length_filter_cons f hnew xs
      by_cases hname : f x = name
      · simp [hname, hnew] at ih ⊢
        omega
      · by_cases hold : f x ∈ names
        · simp [hname, hold] at ih ⊢
          omega
        · simp [hname, hold] at ih ⊢
          omega

/-- A name that is not in front is behind. -/
theorem exists_behind {front back upper lower : List String} {name : String}
    (heq : front ++ back = upper ++ name :: lower) (hnot : name ∉ front) :
    ∃ middle, upper = front ++ middle ∧ back = middle ++ name :: lower := by
  rcases List.append_eq_append_iff.mp heq with ⟨middle, hupper, hback⟩ | ⟨middle, hfront, hlower⟩
  · exact ⟨middle, hupper, hback⟩
  · cases middle with
    | nil => exact ⟨[], by simpa using hfront.symm, hlower.symm⟩
    | cons first rest =>
        obtain ⟨rfl, -⟩ := List.cons.inj hlower
        exact absurd (hfront ▸ List.mem_append_right _ List.mem_cons_self) hnot

theorem hasLoop_iff {g : Graph} {task : String} : g.hasLoop task = true ↔ g.Leads task task := by
  simp [hasLoop, Leads, and_assoc]

/-! ## What a turn keeps -/

namespace Search

/-- A task that the search has come to and is not done with. -/
def Pending (search : Search) (task : String) : Prop :=
  task ∈ search.discovered ∧ task ∉ search.finished

/-- The invariant of the search. -/
structure Sound (g : Graph) (search : Search) (stack : List String) : Prop where
  known : search.discovered ⊆ g.tasks
  once : search.finished.Nodup
  found : search.finished ⊆ search.discovered
  loopless : ∀ task ∈ search.discovered, ¬ g.Leads task task
  back : ∀ late task early, search.finished = late ++ task :: early →
    ∀ next, g.Leads task next → next ∈ early ∨ ReflTransGen g.Leads next task
  stacked : stack ⊆ g.tasks
  waiting : ∀ task, search.Pending task → task ∈ stack
  above : ∀ upper task lower, stack = upper ++ task :: lower → search.Pending task →
    task ∉ upper → (∀ other ∈ upper, ReflTransGen g.Leads task other) ∧
      ∀ next, g.Leads task next → next ∈ search.discovered ∨ next ∈ upper

variable {g : Graph} {search : Search} {task : String} {stack : List String}

theorem sound_empty (g : Graph) : Sound g ⟨[], []⟩ [] where
  known := List.nil_subset _
  once := List.nodup_nil
  found := List.nil_subset _
  loopless := fun _ h => absurd h List.not_mem_nil
  back := fun late task early h => absurd h.symm (by simp)
  stacked := List.nil_subset _
  waiting := fun _ h => absurd h.1 List.not_mem_nil
  above := fun _ _ _ _ h => absurd h.1 List.not_mem_nil

theorem finish_discovered : (search.finish task).discovered = search.discovered := by
  unfold finish
  split <;> rfl

/-- Once a search has come to an end nothing is under way. -/
theorem Sound.finished_of_end (h : search.Sound g []) (hmem : task ∈ search.discovered) :
    task ∈ search.finished := by
  by_contra hopen
  cases h.waiting task ⟨hmem, hopen⟩

/-- A new search may begin where none is under way. -/
theorem Sound.begin (h : search.Sound g []) (htask : task ∈ g.tasks) : search.Sound g [task] :=
  { h with
    stacked := by simpa using htask
    waiting := fun other hother => absurd (h.waiting other hother) List.not_mem_nil
    above := fun _ other _ _ hother => absurd (h.waiting other hother) List.not_mem_nil }

/-- A turn comes to a new task. -/
theorem Sound.push (h : search.Sound g (task :: stack)) (hnew : task ∉ search.discovered)
    (hloop : ¬ g.Leads task task) : (search.discover task).Sound g
      (except (g.successors task) (task :: search.discovered) ++ task :: stack) where
  known := List.cons_subset.mpr ⟨h.stacked List.mem_cons_self, h.known⟩
  once := h.once
  found := List.subset_cons_of_subset _ h.found
  loopless := by
    intro other hmem
    rcases List.mem_cons.mp hmem with rfl | hmem
    · exact hloop
    · exact h.loopless other hmem
  back := h.back
  stacked := by
    intro other hmem
    rcases List.mem_append.mp hmem with hfresh | hold
    · obtain ⟨edge, hedge, -, rfl⟩ := mem_successors.mp (mem_except.mp hfresh).1
      exact (g.known edge hedge).2
    · exact h.stacked hold
  waiting := by
    rintro other ⟨hmem, hopen⟩
    rcases List.mem_cons.mp hmem with rfl | hmem
    · exact List.mem_append_right _ List.mem_cons_self
    · exact List.mem_append_right _ (h.waiting other ⟨hmem, hopen⟩)
  above := by
    intro upper other lower heq hpending hnot
    have hold : other ∉ except (g.successors task) (task :: search.discovered) := fun hfresh =>
      (mem_except.mp hfresh).2 hpending.1
    obtain ⟨middle, rfl, hstack⟩ := exists_behind heq hold
    cases middle with
    | nil =>
        -- the task met first is the new one, and what it leads to has just been put above it
        obtain ⟨rfl, -⟩ := List.cons.inj hstack
        rw [List.append_nil]
        refine ⟨fun next hnext => .single (mem_successors.mp (mem_except.mp hnext).1), ?_⟩
        intro next hleads
        by_cases hdiscovered : next ∈ task :: search.discovered
        · exact Or.inl hdiscovered
        · exact Or.inr (mem_except.mpr ⟨mem_successors.mpr hleads, hdiscovered⟩)
    | cons first middle =>
        obtain ⟨rfl, htail⟩ := List.cons.inj hstack
        have hne : other ≠ task := fun h =>
          hnot (h ▸ List.mem_append_right _ List.mem_cons_self)
        have hwas : search.Pending other :=
          ⟨(List.mem_cons.mp hpending.1).resolve_left hne, hpending.2⟩
        obtain ⟨hreach, hnext⟩ := h.above (task :: middle) other lower hstack hwas
          fun hmem => hnot (List.mem_append_right _ hmem)
        refine ⟨fun next hmem => ?_, fun next hleads => ?_⟩
        · rcases List.mem_append.mp hmem with hfresh | hmem
          · have hstep := mem_successors.mp (mem_except.mp hfresh).1
            exact (hreach task List.mem_cons_self).tail hstep
          · exact hreach next hmem
        · rcases hnext next hleads with hdiscovered | hmem
          · exact Or.inl (List.mem_cons_of_mem _ hdiscovered)
          · exact Or.inr (List.mem_append_right _ hmem)

theorem mem_finish {other : String} :
    other ∈ (search.finish task).finished ↔ other = task ∨ other ∈ search.finished := by
  unfold finish
  by_cases hold : task ∈ search.finished
  · simp only [List.contains_eq_mem, hold, decide_true, if_true]
    exact ⟨Or.inr, fun h => h.elim (fun heq => heq ▸ hold) id⟩
  · simp [hold]

theorem pending_finish {other : String} :
    (search.finish task).Pending other ↔ other ≠ task ∧ search.Pending other := by
  rw [Pending, Pending, finish_discovered, mem_finish, not_or]
  exact and_left_comm

/-- A turn is done with a task, or finds that the search was done with it before. -/
theorem Sound.pop (h : search.Sound g (task :: stack)) (hold : task ∈ search.discovered) :
    (search.finish task).Sound g stack where
  known := by
    rw [finish_discovered]
    exact h.known
  once := by
    unfold finish
    split
    · exact h.once
    · next hopen => exact List.nodup_cons.mpr ⟨by simpa using hopen, h.once⟩
  found := by
    intro other hmem
    rw [finish_discovered]
    rcases mem_finish.mp hmem with rfl | hmem
    · exact hold
    · exact h.found hmem
  loopless := by
    rw [finish_discovered]
    exact h.loopless
  back := by
    intro late other early heq next hleads
    unfold finish at heq
    split at heq
    · exact h.back late other early heq next hleads
    · next hopen =>
        cases late with
        | cons _ late => exact h.back late other early (List.cons.inj heq).2 next hleads
        | nil =>
            obtain ⟨rfl, rfl⟩ := List.cons.inj heq
            have hpending : search.Pending task := ⟨hold, by simpa using hopen⟩
            -- nothing lies above the task, so where its edges lead has been come to
            have hcome : next ∈ search.discovered :=
              ((h.above [] task stack rfl hpending List.not_mem_nil).2 next hleads).resolve_right
                List.not_mem_nil
            by_cases hdone : next ∈ search.finished
            · exact Or.inl hdone
            · right
              rcases List.mem_cons.mp (h.waiting next ⟨hcome, hdone⟩) with rfl | hbelow
              · exact .refl
              · obtain ⟨upper, lower, hsplit, hfirst⟩ := List.eq_append_cons_of_mem hbelow
                by_cases hsame : next = task
                · rw [hsame]
                · refine (h.above (task :: upper) next lower (by rw [hsplit]; rfl) ⟨hcome, hdone⟩
                    ?_).1 task List.mem_cons_self
                  exact fun hmem => (List.mem_cons.mp hmem).elim hsame hfirst
  stacked := fun _ hmem => h.stacked (List.mem_cons_of_mem _ hmem)
  waiting := by
    intro other hother
    obtain ⟨hne, hpending⟩ := pending_finish.mp hother
    exact (List.mem_cons.mp (h.waiting other hpending)).resolve_left hne
  above := by
    intro upper other lower heq hother hnot
    obtain ⟨hne, hpending⟩ := pending_finish.mp hother
    obtain ⟨hreach, hnext⟩ := h.above (task :: upper) other lower (by rw [heq]; rfl) hpending
      fun hmem => (List.mem_cons.mp hmem).elim hne hnot
    rw [finish_discovered]
    refine ⟨fun next hmem => hreach next (List.mem_cons_of_mem _ hmem), fun next hleads => ?_⟩
    rcases hnext next hleads with hdiscovered | hmem
    · exact Or.inl hdiscovered
    · rcases List.mem_cons.mp hmem with rfl | hmem
      · exact Or.inl hold
      · exact Or.inr hmem

end Search

/-! ## A search to its end -/

/-- What there is left to do: what is on the stack, the tasks not come to, and their edges. -/
def work (g : Graph) (search : Search) (stack : List String) : Nat :=
  stack.length + (except g.tasks search.discovered).length +
    (g.edges.filter fun edge => !search.discovered.contains edge.source).length

/-- Coming to a task leaves less to do, though its edges may all lead to new tasks. -/
theorem work_push {g : Graph} {search : Search} {task : String} (stack : List String)
    (htask : task ∈ g.tasks) (hnew : task ∉ search.discovered) :
    g.work (search.discover task)
        (except (g.successors task) (task :: search.discovered) ++ task :: stack) <
      g.work search (task :: stack) := by
  have htasks := length_filter_cons id hnew g.tasks
  have hedges := length_filter_cons Edge.source hnew g.edges
  have hself : 0 < (g.tasks.filter fun other => id other = task).length :=
    List.length_pos_of_mem (List.mem_filter.mpr ⟨htask, by simp⟩)
  have hfresh : (except (g.successors task) (task :: search.discovered)).length ≤
      (g.edges.filter fun edge => edge.source = task).length := by
    rw [← List.length_map (f := Edge.target)]
    exact List.length_filter_le _ _
  simp only [work, Search.discover, except, List.length_append, List.length_cons, id] at *
  omega

/-- What a search keeps, it keeps to its end, and then it has come to all that was on the
stack. -/
theorem searchOn_ok {g : Graph} : ∀ {turns : Nat} {search after : Search} {stack : List String},
    g.searchOn turns search stack = .ok after → search.Sound g stack →
    g.work search stack ≤ turns →
    after.Sound g [] ∧ search.discovered ⊆ after.discovered ∧ stack ⊆ after.discovered := by
  intro turns
  induction turns with
  | zero =>
      intro search after stack hrun hsound hwork
      obtain rfl : stack = [] := List.length_eq_zero_iff.mp (by unfold work at hwork; omega)
      cases hrun
      exact ⟨hsound, List.Subset.refl _, List.nil_subset _⟩
  | succ turns ih =>
      intro search after stack hrun hsound hwork
      cases stack with
      | nil =>
          cases hrun
          exact ⟨hsound, List.Subset.refl _, List.nil_subset _⟩
      | cons task stack =>
          simp only [searchOn, List.contains_eq_mem, decide_eq_true_eq] at hrun
          split at hrun
          · next hold =>
              have hless : g.work (search.finish task) stack ≤ turns := by
                simp only [work, Search.finish_discovered, List.length_cons] at hwork ⊢
                omega
              obtain ⟨hafter, hgrow, hstack⟩ := ih hrun (hsound.pop hold) hless
              rw [Search.finish_discovered] at hgrow
              exact ⟨hafter, hgrow, List.cons_subset.mpr ⟨hgrow hold, hstack⟩⟩
          · next hnew =>
            split at hrun
            · cases hrun
            · next hloop =>
                have hless := work_push stack (hsound.stacked List.mem_cons_self) hnew
                obtain ⟨hafter, hgrow, hstack⟩ := ih hrun
                  (hsound.push hnew fun h => hloop (hasLoop_iff.mpr h)) (by omega)
                exact ⟨hafter, fun _ h => hgrow (List.mem_cons_of_mem _ h),
                  fun _ h => hstack (List.mem_append_right _ h)⟩

/-- A search that ends early has met an edge from a task to itself. -/
theorem leads_of_searchOn_error {g : Graph} {culprit : String} :
    ∀ {turns : Nat} {search : Search} {stack : List String},
      g.searchOn turns search stack = .error culprit → g.Leads culprit culprit := by
  intro turns
  induction turns with
  | zero => intro search stack h; cases h
  | succ turns ih =>
      intro search stack h
      cases stack with
      | nil => cases h
      | cons task stack =>
          simp only [searchOn] at h
          split at h
          · exact ih h
          · split at h
            · next hloop =>
                cases h
                exact hasLoop_iff.mp hloop
            · exact ih h

/-! ## The order of finishing -/

theorem searchFrom_ok {g : Graph} {search after : Search} {root : String}
    (hrun : g.searchFrom search root = .ok after) (hsound : search.Sound g [])
    (hroot : root ∈ g.tasks) :
    after.Sound g [] ∧ search.discovered ⊆ after.discovered ∧ root ∈ after.discovered := by
  simp only [searchFrom, List.contains_eq_mem, decide_eq_true_eq] at hrun
  split at hrun
  · next hold =>
      cases hrun
      exact ⟨hsound, List.Subset.refl _, hold⟩
  · have hwork : g.work search [root] ≤ g.tasks.length + g.edges.length + 1 := by
      have htasks : (except g.tasks search.discovered).length ≤ g.tasks.length :=
        List.length_filter_le _ _
      have hedges := List.length_filter_le
        (fun edge : Edge => !search.discovered.contains edge.source) g.edges
      simp only [work, List.length_singleton]
      omega
    obtain ⟨hafter, hgrow, hstack⟩ := searchOn_ok hrun (hsound.begin hroot) hwork
    exact ⟨hafter, hgrow, hstack (List.mem_singleton_self root)⟩

/-- Searching from several tasks in turn. -/
theorem foldlM_searchFrom {g : Graph} : ∀ {roots : List String} {search after : Search},
    roots.foldlM g.searchFrom search = .ok after → search.Sound g [] → roots ⊆ g.tasks →
    after.Sound g [] ∧ search.discovered ⊆ after.discovered ∧ roots ⊆ after.discovered
  | [], search, after, hrun, hsound, _ => by
      cases hrun
      exact ⟨hsound, List.Subset.refl _, List.nil_subset _⟩
  | root :: roots, search, after, hrun, hsound, hsub => by
      rw [List.foldlM_cons] at hrun
      cases hfirst : g.searchFrom search root with
      | error _ => simp [hfirst, bind, Except.bind] at hrun
      | ok middle =>
          obtain ⟨hmiddle, hgrow, hfound⟩ := searchFrom_ok hfirst hsound (hsub List.mem_cons_self)
          obtain ⟨hafter, hgrow', hrest⟩ := foldlM_searchFrom
            (by simpa [hfirst, bind, Except.bind] using hrun) hmiddle
            fun _ h => hsub (List.mem_cons_of_mem _ h)
          exact ⟨hafter, List.Subset.trans hgrow hgrow',
            List.cons_subset.mpr ⟨hgrow' hfound, hrest⟩⟩

theorem leads_of_foldlM_error {g : Graph} {culprit : String} :
    ∀ {roots : List String} {search : Search},
      roots.foldlM g.searchFrom search = .error culprit → g.Leads culprit culprit
  | [], search, h => by cases h
  | root :: roots, search, h => by
      rw [List.foldlM_cons] at h
      cases hfirst : g.searchFrom search root with
      | ok middle => exact leads_of_foldlM_error (by simpa [hfirst, bind, Except.bind] using h)
      | error _ =>
          obtain rfl : _ = culprit := by simpa [hfirst, bind, Except.bind] using h
          unfold searchFrom at hfirst
          split at hfirst
          · cases hfirst
          · exact leads_of_searchOn_error hfirst

theorem leads_of_finishOrder_error {g : Graph} {culprit : String}
    (h : g.finishOrder = .error culprit) : g.Leads culprit culprit := by
  unfold finishOrder at h
  cases hrun : g.tasks.foldlM g.searchFrom ⟨[], []⟩ with
  | error _ =>
      obtain rfl : _ = culprit := by simpa [hrun, Except.map] using h
      exact leads_of_foldlM_error hrun
  | ok _ => simp [hrun, Except.map] at h

/-- The tasks in the order in which the search is done with them, last one first: all of them,
each once, none with an edge to itself, and every edge leads further on or back to a task from
which its source can be reached. -/
theorem finishOrder_ok {g : Graph} {order : List String} (h : g.finishOrder = .ok order) :
    order.Nodup ∧ (∀ task, task ∈ order ↔ task ∈ g.tasks) ∧
      (∀ task ∈ order, ¬ g.Leads task task) ∧
      ∀ late task early, order = late ++ task :: early →
        ∀ next, g.Leads task next → next ∈ early ∨ ReflTransGen g.Leads next task := by
  unfold finishOrder at h
  cases hrun : g.tasks.foldlM g.searchFrom ⟨[], []⟩ with
  | error _ => simp [hrun, Except.map] at h
  | ok search =>
      obtain rfl : search.finished = order := by simpa [hrun, Except.map] using h
      obtain ⟨hsound, -, hall⟩ :=
        foldlM_searchFrom hrun (Search.sound_empty g) (List.Subset.refl _)
      exact ⟨hsound.once,
        fun task => ⟨fun hmem => hsound.known (hsound.found hmem),
          fun htask => hsound.finished_of_end (hall htask)⟩,
        fun task hmem => hsound.loopless task (hsound.found hmem), hsound.back⟩

/-! ## Going through the order -/

/-- A visit backwards from a task not come to before comes to it, and then to a task with an edge
to it that was not come to before, if there is one. -/
theorem secondBack?_cons {g : Graph} {before rest : List String} {root : String}
    (hnew : root ∉ before) : g.secondBack? before (root :: rest) =
      (except (g.predecessors root) (root :: before)).head?.or
        (g.secondBack? (root :: before) rest) := by
  rw [secondBack?, Visit.next?_cons hnew]
  simp only [List.append_nil]
  cases hsources : except (g.predecessors root) (root :: before) with
  | nil => rfl
  | cons second others =>
      have hfresh : second ∉ root :: before :=
        (mem_except.mp (hsources ▸ List.mem_cons_self)).2
      rw [Visit.next?_cons hfresh]
      rfl

theorem nodup_root {before rest : List String} {root : String}
    (h : (before.reverse ++ root :: rest).Nodup) :
    root ∉ before ∧ ((root :: before).reverse ++ rest).Nodup := by
  refine ⟨fun hmem => ?_, by simpa using h⟩
  exact (List.nodup_append.mp h).2.2 root (List.mem_reverse.mpr hmem) root List.mem_cons_self rfl

/-- The edge that gives a cycle away. -/
theorem secondBack?_eq_some {g : Graph} {culprit : String} :
    ∀ {rest before : List String}, (before.reverse ++ rest).Nodup →
      g.secondBack? before rest = some culprit →
      ∃ early task later, rest = early ++ task :: later ∧ g.Leads culprit task ∧
        culprit ≠ task ∧ culprit ∉ before ∧ culprit ∉ early
  | [], before, _, h => by cases h
  | root :: rest, before, hnodup, h => by
      obtain ⟨hnew, hnodup⟩ := nodup_root hnodup
      rw [secondBack?_cons hnew, Option.or_eq_some_iff] at h
      rcases h with h | ⟨-, h⟩
      · obtain ⟨hmem, hout⟩ := mem_except.mp (List.mem_of_mem_head? h)
        rw [List.mem_cons, not_or] at hout
        exact ⟨[], root, rest, rfl, mem_predecessors.mp hmem, hout.1, hout.2, List.not_mem_nil⟩
      · obtain ⟨early, task, later, rfl, hleads, hne, hout, hearly⟩ := secondBack?_eq_some hnodup h
        rw [List.mem_cons, not_or] at hout
        refine ⟨root :: early, task, later, rfl, hleads, hne, hout.2, ?_⟩
        exact fun hmem => (List.mem_cons.mp hmem).elim hout.1 hearly

/-- Where nothing is found backwards, every edge comes from before. -/
theorem secondBack?_eq_none {g : Graph} :
    ∀ {rest before : List String}, (before.reverse ++ rest).Nodup →
      g.secondBack? before rest = none →
      ∀ early task later, rest = early ++ task :: later → ∀ source, g.Leads source task →
        source = task ∨ source ∈ before ∨ source ∈ early
  | [], before, _, _, early, task, later, heq, _, _ => by simp at heq
  | root :: rest, before, hnodup, h, early, task, later, heq, source, hleads => by
      obtain ⟨hnew, hnodup⟩ := nodup_root hnodup
      rw [secondBack?_cons hnew, Option.or_eq_none_iff] at h
      cases early with
      | nil =>
          obtain ⟨rfl, -⟩ := List.cons.inj heq
          by_contra hout
          have hmem : source ∈ except (g.predecessors root) (root :: before) :=
            mem_except.mpr ⟨mem_predecessors.mpr hleads, by simpa using hout⟩
          rw [List.head?_eq_none_iff.mp h.1] at hmem
          cases hmem
      | cons _ early =>
          obtain ⟨rfl, rfl⟩ := List.cons.inj heq
          rcases secondBack?_eq_none hnodup h.2 early task later rfl source hleads with
            hsame | hbefore | hearly
          · exact Or.inl hsame
          · rcases List.mem_cons.mp hbefore with rfl | hbefore
            · exact Or.inr (Or.inr List.mem_cons_self)
            · exact Or.inr (Or.inl hbefore)
          · exact Or.inr (Or.inr (List.mem_cons_of_mem _ hearly))

/-! ## What the answer says -/

/-- The task in the answer lies on a cycle. -/
theorem cycle?_on_cycle {g : Graph} {task : String} (h : g.cycle? = some task) :
    TransGen g.Leads task task := by
  unfold cycle? at h
  cases horder : g.finishOrder with
  | error culprit =>
      obtain rfl : culprit = task := by simpa [horder] using h
      exact .single (leads_of_finishOrder_error horder)
  | ok order =>
      obtain ⟨honce, hall, -, hback⟩ := finishOrder_ok horder
      have hsecond : g.secondBack? [] order = some task := by simpa [horder] using h
      have hnodup : (([] : List String).reverse ++ order).Nodup := honce
      obtain ⟨early, next, later, heq, hleads, hne, -, hnot⟩ := secondBack?_eq_some hnodup hsecond
      -- the source of the edge stands behind its target, so the edge is of the second kind
      have hmem : task ∈ order := by
        obtain ⟨edge, hedge, rfl, -⟩ := hleads
        exact (hall _).mpr (g.known edge hedge).1
      have hlater : task ∈ later := by
        rw [heq] at hmem
        rcases List.mem_append.mp hmem with hmem | hmem
        · exact absurd hmem hnot
        · exact (List.mem_cons.mp hmem).resolve_left hne
      obtain ⟨front, behind, rfl⟩ := List.append_of_mem hlater
      rcases hback (early ++ next :: front) task behind (by simp [heq]) next hleads with
        hbehind | hpath
      · rw [heq] at honce
        have hrest := (List.nodup_append.mp honce).2.1
        exact absurd (List.mem_append_right front (List.mem_cons_of_mem task hbehind))
          (List.nodup_cons.mp hrest).1
      · exact .head' hleads hpath

/-- Without an answer the order of finishing ranks the tasks. -/
theorem ranked_of_cycle?_eq_none {g : Graph} (h : g.cycle? = none) : g.Ranked := by
  unfold cycle? at h
  cases horder : g.finishOrder with
  | error _ => simp [horder] at h
  | ok order =>
      obtain ⟨honce, hall, hloopless, -⟩ := finishOrder_ok horder
      refine ⟨order.idxOf, fun edge hedge => ?_⟩
      have hleads : g.Leads edge.source edge.target := ⟨edge, hedge, rfl, rfl⟩
      obtain ⟨early, later, heq⟩ :=
        List.append_of_mem ((hall edge.target).mpr (g.known edge hedge).2)
      have hnone : g.secondBack? [] order = none := by simpa [horder] using h
      have hnodup : (([] : List String).reverse ++ order).Nodup := honce
      have hearly : edge.source ∈ early := by
        rcases secondBack?_eq_none hnodup hnone early _ later heq _ hleads with
          hsame | hnil | hearly
        · refine absurd hleads ?_
          rw [hsame]
          exact hloopless _ ((hall _).mpr (g.known edge hedge).2)
        · cases hnil
        · exact hearly
      have hfresh : edge.target ∉ early := by
        intro hmem
        rw [heq] at honce
        exact (List.nodup_append.mp honce).2.2 _ hmem _ List.mem_cons_self rfl
      show order.idxOf edge.source < order.idxOf edge.target
      rw [heq]
      exact idxOf_lt_idxOf hearly hfresh

end Workflow.Graph
