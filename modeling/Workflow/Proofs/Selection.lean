import Workflow.Proofs.Resolution

/-!
# Which template revision a task runs

A task asks for a revision of its template by version, or for none in particular.  `Chosen` says
which of a list it gets, by the place in the list alone: the first with the version asked for, and
where there is none the last of those with the highest version.  Neither rule asks for an order in
the list or for versions that occur once, and the two go for opposite ends of it.

Where each version does occur once, the place does not matter (`select_eq_some_iff_of_nodup`), and
that is why the list may then stand in any order.

A task of a definition that resolves has run its selection on the list of its source
(`Task.Runs`), and the source that a store is reads that list off one row.
-/

namespace Workflow

namespace TemplateRevision

variable {revisions : List TemplateRevision} {requested : Option UInt32} {r : TemplateRevision}

/-! ## The latest revision -/

theorem latest_eq_none_iff : latest revisions = none ↔ revisions = [] := by
  cases revisions with
  | nil => exact iff_of_true rfl rfl
  | cons first rest =>
      refine iff_of_false ?_ (List.cons_ne_nil first rest)
      unfold latest
      split
      · exact Option.some_ne_none first
      · split
        · exact Option.some_ne_none first
        · exact Option.some_ne_none _

/-- The latest revision is nowhere surpassed, and not even reached behind its place. -/
theorem latest_split (h : latest revisions = some r) : ∃ before after,
    revisions = before ++ r :: after ∧ (∀ s ∈ before, s.version ≤ r.version) ∧
      ∀ s ∈ after, s.version < r.version := by
  fun_induction latest revisions generalizing r with
  | case1 => cases h
  | case2 first rest hnone ih =>
      obtain rfl := Option.some.inj h
      obtain rfl := latest_eq_none_iff.mp hnone
      exact ⟨[], [], rfl, by simp, by simp⟩
  | case3 first rest best hbest hless ih =>
      obtain rfl := Option.some.inj h
      obtain ⟨before, after, hrest, hbefore, hafter⟩ := ih hbest
      refine ⟨[], rest, rfl, by simp, ?_⟩
      -- whatever comes later is at most the best of it, which is surpassed
      intro s hs
      rw [hrest, List.mem_append, List.mem_cons] at hs
      obtain hs | rfl | hs := hs
      · exact UInt32.lt_of_le_of_lt (hbefore s hs) hless
      · exact hless
      · exact UInt32.lt_trans (hafter s hs) hless
  | case4 first rest best hbest hless ih =>
      obtain rfl := Option.some.inj h
      obtain ⟨before, after, hrest, hbefore, hafter⟩ := ih hbest
      refine ⟨first :: before, after, by rw [hrest]; rfl, ?_, hafter⟩
      intro s hs
      obtain rfl | hs := List.mem_cons.mp hs
      · exact UInt32.not_lt.mp hless
      · exact hbefore s hs

theorem mem_of_latest (h : latest revisions = some r) : r ∈ revisions := by
  obtain ⟨before, after, rfl, -, -⟩ := latest_split h
  exact List.mem_append_right before List.mem_cons_self

theorem latest_append_cons {before after : List TemplateRevision}
    (hbefore : ∀ s ∈ before, s.version ≤ r.version) (hafter : ∀ s ∈ after, s.version < r.version) :
    latest (before ++ r :: after) = some r := by
  induction before with
  | nil =>
      cases hrest : latest after with
      | none => simp [latest, hrest]
      | some s =>
          have hless := hafter s (mem_of_latest hrest)
          simp [latest, hrest, hless]
  | cons first before ih =>
      have hrest := ih fun s hs => hbefore s (List.mem_cons_of_mem first hs)
      have hfirst : ¬ r.version < first.version :=
        UInt32.not_lt.mpr (hbefore first List.mem_cons_self)
      simp [latest, hrest, hfirst]

/-! ## The revision asked for -/

/-- Which revision is chosen from a list: the first with the version asked for, or where there is
none the last of those with the highest version. -/
inductive Chosen (revisions : List TemplateRevision) (requested : Option UInt32)
    (r : TemplateRevision) : Prop
  | asked {before after : List TemplateRevision} : requested = some r.version →
      revisions = before ++ r :: after → (∀ s ∈ before, s.version ≠ r.version) →
      Chosen revisions requested r
  | latest {before after : List TemplateRevision} :
      (∀ s ∈ revisions, requested ≠ some s.version) → revisions = before ++ r :: after →
      (∀ s ∈ before, s.version ≤ r.version) → (∀ s ∈ after, s.version < r.version) →
      Chosen revisions requested r

theorem find?_requested_eq_none_iff :
    (requested.bind fun version => revisions.find? fun s => s.version == version) = none ↔
      ∀ s ∈ revisions, requested ≠ some s.version := by
  cases requested with
  | none => simp
  | some version =>
      rw [Option.bind_some, List.find?_eq_none]
      simp only [beq_iff_eq, ne_eq, Option.some.injEq, @eq_comm _ version]

theorem find?_requested_eq_some_iff :
    (requested.bind fun version => revisions.find? fun s => s.version == version) = some r ↔
      requested = some r.version ∧ ∃ before after, revisions = before ++ r :: after ∧
        ∀ s ∈ before, s.version ≠ r.version := by
  cases requested with
  | none => simp
  | some version =>
      rw [Option.bind_some, List.find?_eq_some_iff_append, Option.some.injEq, beq_iff_eq, eq_comm]
      refine and_congr_right ?_
      rintro rfl
      simp

theorem select_eq_none_iff : select revisions requested = none ↔ revisions = [] := by
  rw [select, Option.or_eq_none_iff, latest_eq_none_iff]
  refine and_iff_right_of_imp ?_
  rintro rfl
  exact find?_requested_eq_none_iff.mpr (by simp)

theorem select_eq_some_iff :
    select revisions requested = some r ↔ Chosen revisions requested r := by
  rw [select, Option.or_eq_some_iff, find?_requested_eq_some_iff, find?_requested_eq_none_iff]
  constructor
  · rintro (⟨hasked, before, after, hsplit, hbefore⟩ | ⟨hnone, hlatest⟩)
    · exact .asked hasked hsplit hbefore
    · obtain ⟨before, after, hsplit, hbefore, hafter⟩ := latest_split hlatest
      exact .latest hnone hsplit hbefore hafter
  · intro h
    cases h with
    | asked hasked hsplit hbefore => exact Or.inl ⟨hasked, _, _, hsplit, hbefore⟩
    | latest hnone hsplit hbefore hafter =>
        refine Or.inr ⟨hnone, ?_⟩
        rw [hsplit]
        exact latest_append_cons hbefore hafter

theorem Chosen.mem (h : Chosen revisions requested r) : r ∈ revisions := by
  cases h with
  | asked _ hsplit _ => exact hsplit ▸ List.mem_append_right _ List.mem_cons_self
  | latest _ hsplit _ _ => exact hsplit ▸ List.mem_append_right _ List.mem_cons_self

/-- Without the version asked for, no revision has a higher version than the one chosen. -/
theorem Chosen.highest (h : Chosen revisions requested r)
    (hnone : ∀ s ∈ revisions, requested ≠ some s.version) :
    ∀ s ∈ revisions, s.version ≤ r.version := by
  have hmem := h.mem
  cases h with
  | asked hasked _ _ => exact absurd hasked (hnone r hmem)
  | latest _ hsplit hbefore hafter =>
      intro s hs
      rw [hsplit, List.mem_append, List.mem_cons] at hs
      obtain hs | rfl | hs := hs
      · exact hbefore s hs
      · exact UInt32.le_refl _
      · exact UInt32.le_of_lt (hafter s hs)

/-! ## Lists in which each version occurs once -/

/-- Where each version occurs once the choice is told without the order of the list. -/
theorem select_eq_some_iff_of_nodup (hnodup : (revisions.map version).Nodup) :
    select revisions requested = some r ↔ r ∈ revisions ∧ (requested = some r.version ∨
      (∀ s ∈ revisions, requested ≠ some s.version) ∧ ∀ s ∈ revisions, s.version ≤ r.version) := by
  rw [select_eq_some_iff]
  constructor
  · intro h
    refine ⟨h.mem, ?_⟩
    by_cases hnone : ∀ s ∈ revisions, requested ≠ some s.version
    · exact Or.inr ⟨hnone, h.highest hnone⟩
    · cases h with
      | asked hasked _ _ => exact Or.inl hasked
      | latest hnone' _ _ _ => exact absurd hnone' hnone
  · rintro ⟨hmem, hrule⟩
    obtain ⟨before, after, hsplit⟩ := List.append_of_mem hmem
    have hapart : (∀ s ∈ before, s.version ≠ r.version) ∧ ∀ s ∈ after, s.version ≠ r.version := by
      rw [hsplit, List.map_append, List.map_cons, List.nodup_middle, List.nodup_cons] at hnodup
      constructor
      · intro s hs hsame
        exact hnodup.1 (List.mem_append_left _ (List.mem_map.mpr ⟨s, hs, hsame⟩))
      · intro s hs hsame
        exact hnodup.1 (List.mem_append_right _ (List.mem_map.mpr ⟨s, hs, hsame⟩))
    obtain hasked | ⟨hnone, hhighest⟩ := hrule
    · exact .asked hasked hsplit hapart.1
    · refine .latest hnone hsplit ?_ ?_
      · intro s hs
        exact hhighest s (hsplit ▸ List.mem_append_left _ hs)
      · intro s hs
        have hle := hhighest s (hsplit ▸ List.mem_append_right _ (List.mem_cons_of_mem r hs))
        exact UInt32.lt_of_le_of_ne hle (hapart.2 s hs)

theorem select_perm {others : List TemplateRevision} (hnodup : (revisions.map version).Nodup)
    (hperm : others.Perm revisions) : select others requested = select revisions requested := by
  have hnodup' := (hperm.map version).nodup_iff.mpr hnodup
  refine Option.ext ?_
  intro r
  rw [select_eq_some_iff_of_nodup hnodup, select_eq_some_iff_of_nodup hnodup']
  simp only [hperm.mem_iff]

theorem select_highest (hnodup : (revisions.map version).Nodup) (hmem : r ∈ revisions)
    (hhighest : ∀ s ∈ revisions, s.version ≤ r.version) :
    select revisions (some r.version) = select revisions none := by
  have hasked : select revisions (some r.version) = some r :=
    (select_eq_some_iff_of_nodup hnodup).mpr ⟨hmem, Or.inl rfl⟩
  have hlatest : select revisions none = some r :=
    (select_eq_some_iff_of_nodup hnodup).mpr ⟨hmem, Or.inr ⟨by simp, hhighest⟩⟩
  rw [hasked, hlatest]

end TemplateRevision

/-! ## What a task runs -/

/-- What a task runs: the revision it gets from the list of its template, with its own properties
for inputs, and with the results of the revision or, where that has none, with its own. -/
structure Task.Runs (sources : Sources) (task : Task) (resolved : ResolvedTemplate) : Prop where
  template : task.templateId = some resolved.templateId
  revision : ∃ revisions, sources.templates resolved.templateId = .ok revisions ∧
    TemplateRevision.select revisions task.templateVersion = some resolved.revision
  inputs : resolved.inputs = task.properties
  declared : resolved.revision.results ≠ [] → resolved.results = resolved.revision.results
  inline : resolved.revision.results = [] → resolved.results = task.results

theorem resolveTemplate_ok_iff {sources : Sources} {task : Task} {resolved : ResolvedTemplate} :
    task.resolveTemplate sources = .ok resolved ↔ task.Runs sources resolved := by
  unfold Task.resolveTemplate
  constructor
  · intro h
    split at h
    · cases h
    · next template htemplate =>
        obtain ⟨revisions, hrevisions, h⟩ := bind_ok.mp h
        split at h
        · cases h
        · next revision hselect =>
            cases h
            exact {
              template := htemplate
              revision := ⟨revisions, Lookup.named_ok.mp hrevisions, hselect⟩
              inputs := rfl
              declared := fun hsome => if_neg (by simpa using hsome)
              inline := fun hnone => if_pos (by simpa using hnone) }
  · intro h
    obtain ⟨revisions, hrevisions, hselect⟩ := h.revision
    have hresults : resolved.results =
        if resolved.revision.results.isEmpty then task.results else resolved.revision.results := by
      by_cases hnone : resolved.revision.results = []
      · rw [h.inline hnone, hnone]
        rfl
      · rw [h.declared hnone, if_neg (by simpa using hnone)]
    rw [h.template]
    refine bind_ok.mpr ⟨revisions, Lookup.named_ok.mpr hrevisions, ?_⟩
    simp only [hselect, ← hresults, ← h.inputs]

/-- A task with a template gets nothing when the source fails or has nothing to choose from. -/
theorem resolveTemplate_error_iff_of_some {sources : Sources} {task : Task} {template : String}
    {e : Error} (h : task.templateId = some template) :
    task.resolveTemplate sources = .error e ↔
      Lookup.named "task template" (sources.templates template) = .error e ∨
        sources.templates template = .ok [] ∧ e = .emptyTemplate template := by
  unfold Task.resolveTemplate
  rw [h]
  refine bind_error.trans (or_congr_right ?_)
  constructor
  · rintro ⟨revisions, hrevisions, hrest⟩
    split at hrest
    · next hselect =>
        cases hrest
        obtain rfl := TemplateRevision.select_eq_none_iff.mp hselect
        exact ⟨Lookup.named_ok.mp hrevisions, rfl⟩
    · cases hrest
  · rintro ⟨hrevisions, rfl⟩
    exact ⟨[], Lookup.named_ok.mpr hrevisions, by rw [TemplateRevision.select_eq_none_iff.mpr rfl]⟩

/-- A node of a task that runs a template has what the task runs. -/
theorem node_runs {sources : Sources} {activity : Option Uuid} {task : Task} {node : Node}
    (h : task.node sources activity = .ok node) (huses : task.kind.usesTemplate = true) :
    ∃ resolved, node.kind = .task task.kind resolved ∧ task.Runs sources resolved := by
  obtain ⟨record, -, h⟩ := bind_ok.mp h
  obtain ⟨kind, hkind, h⟩ := bind_ok.mp h
  cases h
  rw [nodeKind_of_usesTemplate huses] at hkind
  obtain ⟨resolved, hresolved, rfl⟩ := map_ok.mp hkind
  exact ⟨resolved, rfl, resolveTemplate_ok_iff.mp hresolved⟩

/-- The revisions that a store has for a template are those that one row decodes to. -/
theorem Store.revisionsOf_ok_iff {store : Store} {template : String}
    {revisions : List TemplateRevision} (hsome : revisions ≠ []) :
    store.revisionsOf template = .ok revisions ↔ ∃ row, store.template? template = some row ∧
      (Decoder.list Decoder.templateRevision).ofJson row.revisions = .ok revisions := by
  unfold Store.revisionsOf
  cases store.template? template with
  | none => simpa using hsome.symm
  | some row =>
      simp only [Option.some.injEq, exists_eq_left']
      split
      · next hnull =>
          -- null is no list, so the row decodes to nothing at all
          rw [hnull]
          refine iff_of_false ?_ (fun hok => nomatch hok)
          intro hok
          cases hok
          exact hsome rfl
      · split
        · next found hfound => rw [hfound, Except.ok.injEq, Except.ok.injEq]
        · next fault hfault => simp [hfault]

/-- **A task runs the revision that is chosen for it.**  Something is chosen from every list but the
empty one, and it is what `Chosen` says: so without the version asked for, nothing in the list is
above it.  Where each version occurs once the order of the list does not matter, and asking for the
highest version is asking for none.  When a definition resolves, every task that runs a template
runs the choice from the list of its source; and what a store has for such a list is one row. -/
theorem task_runs_chosen :
    (∀ revisions requested,
      (TemplateRevision.select revisions requested = none ↔ revisions = []) ∧
      (∀ r, TemplateRevision.select revisions requested = some r ↔
        TemplateRevision.Chosen revisions requested r) ∧
      (∀ r, TemplateRevision.select revisions requested = some r →
        (∀ s ∈ revisions, requested ≠ some s.version) → ∀ s ∈ revisions, s.version ≤ r.version) ∧
      ((revisions.map TemplateRevision.version).Nodup →
        (∀ others, others.Perm revisions → TemplateRevision.select others requested =
          TemplateRevision.select revisions requested) ∧
        ∀ highest ∈ revisions, (∀ s ∈ revisions, s.version ≤ highest.version) →
          TemplateRevision.select revisions (some highest.version) =
            TemplateRevision.select revisions none)) ∧
    (∀ (sources : Sources) (activity : Option Uuid) (definition : Definition) (nodes : List Node),
      definition.nodes sources activity = .ok nodes →
      List.Forall₂ (fun task node => task.kind.usesTemplate = true →
        ∃ resolved, node.kind = .task task.kind resolved ∧ task.Runs sources resolved)
        definition.tasks nodes) ∧
    ∀ (store : Store) template revisions, revisions ≠ [] →
      (store.sources.templates template = .ok revisions ↔ ∃ row,
        store.template? template = some row ∧
          (Decoder.list Decoder.templateRevision).ofJson row.revisions = .ok revisions) := by
  refine ⟨?_, ?_, ?_⟩
  · intro revisions requested
    refine ⟨TemplateRevision.select_eq_none_iff, fun r => TemplateRevision.select_eq_some_iff,
      ?_, ?_⟩
    · intro r hselect hnone
      exact (TemplateRevision.select_eq_some_iff.mp hselect).highest hnone
    · intro hnodup
      constructor
      · intro others hperm
        exact TemplateRevision.select_perm hnodup hperm
      · intro highest hmem hhighest
        exact TemplateRevision.select_highest hnodup hmem hhighest
  · intro sources activity definition nodes h
    exact (mapM_forall₂ h).imp fun _ _ hnode => node_runs hnode
  · intro store template revisions hsome
    exact Store.revisionsOf_ok_iff hsome

/-- Revisions out of order, with two versions that occur twice. -/
def pressRevisions : List TemplateRevision :=
  [⟨1, [], [⟨"sheet", none⟩]⟩, ⟨3, [], [⟨"proof", none⟩]⟩, ⟨1, [], []⟩, ⟨3, [], []⟩, ⟨2, [], []⟩]

/-- They are all of one template. -/
def pressStore : Store :=
  Store.empty.putTemplate ⟨"press", "Press", .array (pressRevisions.map TemplateRevision.toJson)⟩

/-- Tasks that ask for a version which occurs, for one which does not, and for none. -/
def press : Definition :=
  ⟨[Task.new "begin" .start,
    (Task.new "print" .script).withTemplate "press" (some 1),
    { (Task.new "bind" .custom).withTemplate "press" (some 9) with results := [⟨"book", none⟩] },
    (Task.new "fold" .template).withTemplate "press" none]⟩

/-- The first of version 1 runs with its own results, the last of version 3 with those of the task.
The last three revisions have versions of their own, so their order does not matter. -/
theorem press_runs : (∃ nodes, press.nodes pressStore.sources none = .ok nodes ∧
      List.Forall₂ (fun task node => task.kind.usesTemplate = true →
        ∃ resolved, node.kind = .task task.kind resolved ∧ task.Runs pressStore.sources resolved)
        press.tasks nodes ∧
      nodes.map Node.kind = [.start,
        .task .script ⟨"press", ⟨1, [], [⟨"sheet", none⟩]⟩, [], [⟨"sheet", none⟩]⟩,
        .task .custom ⟨"press", ⟨3, [], []⟩, [], [⟨"book", none⟩]⟩,
        .task .template ⟨"press", ⟨3, [], []⟩, [], []⟩]) ∧
    (∃ row, pressStore.template? "press" = some row ∧
      (Decoder.list Decoder.templateRevision).ofJson row.revisions = .ok pressRevisions) ∧
    TemplateRevision.Chosen pressRevisions (some 1) ⟨1, [], [⟨"sheet", none⟩]⟩ ∧
    TemplateRevision.Chosen pressRevisions (some 9) ⟨3, [], []⟩ ∧
    (∀ others, others.Perm (pressRevisions.drop 2) → TemplateRevision.select others (some 9) =
      TemplateRevision.select (pressRevisions.drop 2) (some 9)) ∧
    TemplateRevision.select (pressRevisions.drop 2) (some 3) =
      TemplateRevision.select (pressRevisions.drop 2) none := by
  obtain ⟨hselect, hruns, hrow⟩ := task_runs_chosen
  have hnodup : ((pressRevisions.drop 2).map TemplateRevision.version).Nodup := by decide
  obtain ⟨hperm, hhighest⟩ := (hselect (pressRevisions.drop 2) (some 9)).2.2.2 hnodup
  refine ⟨⟨_, rfl, hruns _ none _ _ rfl, rfl⟩, (hrow pressStore "press" _ (by decide)).mp rfl,
    ?_, ?_, hperm, hhighest ⟨3, [], []⟩ (by decide) (by decide)⟩
  · exact ((hselect pressRevisions (some 1)).2.1 _).mp rfl
  · exact ((hselect pressRevisions (some 9)).2.1 _).mp rfl

end Workflow
