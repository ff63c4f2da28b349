import Workflow.Error
import Workflow.Proofs.Result

/-!
# The first fault

Many things can be wrong at once, but one error is reported.  `Earliest` says which: some item of a
list is at fault, and no item before it is.  The items may be the tasks of a definition, the
dependencies of a task, the lines of a condition, and also the stages of a question, each with the
errors it can report.

A computation reports stages (`Reports`) when its errors are those of the earliest stage at fault.
What is put together with a bind reports the stages of both parts (`Reports.bind`), so a question
is gone through stage by stage.  Where a cycle is at fault, which of its tasks is named is left
open.
-/

namespace Workflow

/-! ## Earliest faults -/

/-- Some item of a list is at fault, and no item before it is. -/
inductive Earliest {α ε : Type} (Fault : α → ε → Prop) : List α → ε → Prop
  | here {item : α} {rest : List α} {e : ε} : Fault item e → Earliest Fault (item :: rest) e
  | later {item : α} {rest : List α} {e : ε} : (∀ other, ¬ Fault item other) →
      Earliest Fault rest e → Earliest Fault (item :: rest) e

section Earliest

variable {α ε : Type} {Fault : α → ε → Prop}

theorem not_earliest_nil {e : ε} : ¬ Earliest Fault [] e := fun h => nomatch h

theorem earliest_cons_iff {item : α} {rest : List α} {e : ε} :
    Earliest Fault (item :: rest) e ↔
      Fault item e ∨ (∀ other, ¬ Fault item other) ∧ Earliest Fault rest e := by
  constructor
  · intro h
    cases h with
    | here hfault => exact Or.inl hfault
    | later hnone hrest => exact Or.inr ⟨hnone, hrest⟩
  · rintro (hfault | ⟨hnone, hrest⟩)
    · exact .here hfault
    · exact .later hnone hrest

theorem earliest_singleton_iff {item : α} {e : ε} : Earliest Fault [item] e ↔ Fault item e := by
  rw [earliest_cons_iff]
  exact or_iff_left fun h => not_earliest_nil h.2

theorem Earliest.exists_mem {items : List α} {e : ε} (h : Earliest Fault items e) :
    ∃ item ∈ items, Fault item e := by
  induction h with
  | here hfault => exact ⟨_, List.mem_cons_self, hfault⟩
  | later _ _ ih =>
      obtain ⟨item, hmem, hfault⟩ := ih
      exact ⟨item, List.mem_cons_of_mem _ hmem, hfault⟩

theorem earliest_append_iff {front back : List α} {e : ε} :
    Earliest Fault (front ++ back) e ↔ Earliest Fault front e ∨
      (∀ other, ¬ Earliest Fault front other) ∧ Earliest Fault back e := by
  induction front with
  | nil =>
      refine ⟨fun h => Or.inr ⟨fun _ => not_earliest_nil, h⟩, ?_⟩
      rintro (hfront | ⟨-, hback⟩)
      · exact absurd hfront not_earliest_nil
      · exact hback
  | cons item rest ih =>
      rw [List.cons_append, earliest_cons_iff, earliest_cons_iff, ih]
      constructor
      · rintro (hfault | ⟨hnone, hrest | ⟨hclear, hback⟩⟩)
        · exact Or.inl (Or.inl hfault)
        · exact Or.inl (Or.inr ⟨hnone, hrest⟩)
        · refine Or.inr ⟨fun other h => ?_, hback⟩
          rcases earliest_cons_iff.mp h with hfault | ⟨-, hrest⟩
          · exact hnone other hfault
          · exact hclear other hrest
      · rintro ((hfault | ⟨hnone, hrest⟩) | ⟨hclear, hback⟩)
        · exact Or.inl hfault
        · exact Or.inr ⟨hnone, Or.inl hrest⟩
        · have hnone : ∀ other, ¬ Fault item other := fun other h => hclear other (.here h)
          exact Or.inr ⟨hnone, Or.inr ⟨fun other h => hclear other (.later hnone h), hback⟩⟩

theorem earliest_congr {Other : α → ε → Prop} : ∀ {items : List α} {e : ε},
    (∀ item ∈ items, ∀ e, Fault item e ↔ Other item e) →
      (Earliest Fault items e ↔ Earliest Other items e)
  | [], _, _ => iff_of_false not_earliest_nil not_earliest_nil
  | item :: rest, e, h => by
      have hitem := h item List.mem_cons_self
      have hrest := @earliest_congr Other rest e
        fun other hother => h other (List.mem_cons_of_mem _ hother)
      rw [earliest_cons_iff, earliest_cons_iff, hitem e, hrest]
      simp only [hitem]

/-- Nothing is earliest at fault where no item is at fault. -/
theorem not_earliest_iff : ∀ {items : List α},
    (∀ e, ¬ Earliest Fault items e) ↔ ∀ item ∈ items, ∀ e, ¬ Fault item e
  | [] => iff_of_true (fun _ => not_earliest_nil) (List.forall_mem_nil _)
  | item :: rest => by
      rw [List.forall_mem_cons, ← not_earliest_iff]
      simp only [earliest_cons_iff, not_or, not_and]
      constructor
      · intro h
        have hitem : ∀ e, ¬ Fault item e := fun e => (h e).1
        exact ⟨hitem, fun e => (h e).2 hitem⟩
      · rintro ⟨hitem, hrest⟩ e
        exact ⟨hitem e, fun _ => hrest e⟩

/-- Going through a list reports the earliest item that fails. -/
theorem mapM_error_iff {β : Type} {f : α → Except ε β}
    (h : ∀ item e, f item = .error e ↔ Fault item e) :
    ∀ {items : List α} {e : ε}, items.mapM f = .error e ↔ Earliest Fault items e
  | [], e => by
      refine ⟨fun herror => ?_, fun hfault => absurd hfault not_earliest_nil⟩
      cases herror
  | item :: rest, e => by
      rw [List.mapM_cons, bind_error, h, earliest_cons_iff]
      refine or_congr_right ?_
      constructor
      · rintro ⟨made, hmade, hrest⟩
        refine ⟨fun other hfault => ?_, ?_⟩
        · rw [(h item other).mpr hfault] at hmade
          cases hmade
        · rcases bind_error.mp hrest with hrest | ⟨_, -, hnone⟩
          · exact (mapM_error_iff h).mp hrest
          · cases hnone
      · rintro ⟨hnone, hrest⟩
        cases hmade : f item with
        | error other => exact absurd ((h item other).mp hmade) (hnone other)
        | ok made => exact ⟨made, rfl, bind_error.mpr (Or.inl ((mapM_error_iff h).mpr hrest))⟩

/-- Where each item fails alike, going through the list fails alike. -/
theorem mapM_error_congr {β : Type} {f f' : α → Except ε β} {items : List α} {e : ε}
    (h : ∀ item ∈ items, ∀ e, f item = .error e ↔ f' item = .error e) :
    items.mapM f = .error e ↔ items.mapM f' = .error e := by
  rw [mapM_error_iff fun _ _ => Iff.rfl, mapM_error_iff fun _ _ => Iff.rfl]
  exact earliest_congr h

end Earliest

/-! ## Stages -/

/-- The same error, or two names for a cycle. -/
def Error.Alike (e e' : Error) : Prop := e' = e ∨ ∃ a b, e = .cycle a ∧ e' = .cycle b

/-- The errors of a computation are those of the earliest stage at fault; for a cycle another task
may be named. -/
structure Reports {α : Type} (x : Except Error α) (stages : List (Error → Prop)) : Prop where
  sound : ∀ e, x = .error e → Earliest (fun stage => stage) stages e
  complete : ∀ e, Earliest (fun stage => stage) stages e →
    ∃ e', x = .error e' ∧ e.Alike e'

namespace Reports

variable {α β : Type} {x : Except Error α} {stages later : List (Error → Prop)}

theorem of_iff (h : ∀ e, x = .error e ↔ Earliest (fun stage => stage) stages e) :
    Reports x stages where
  sound := fun e => (h e).mp
  complete := fun e hfault => ⟨e, (h e).mpr hfault, Or.inl rfl⟩

theorem of_stage {stage : Error → Prop} (h : ∀ e, x = .error e ↔ stage e) : Reports x [stage] := by
  refine of_iff fun e => ?_
  rw [h, earliest_singleton_iff]

theorem ok (a : α) : Reports (.ok a) [] where
  sound := fun _ herror => nomatch herror
  complete := fun _ hfault => absurd hfault not_earliest_nil

/-- Where there is a result no stage is at fault. -/
theorem not_earliest (h : Reports x stages) {a : α} (hok : x = .ok a) (e : Error) :
    ¬ Earliest (fun stage => stage) stages e := by
  intro hfault
  obtain ⟨e', herror, -⟩ := h.complete e hfault
  rw [hok] at herror
  cases herror

/-- There is a result exactly when no stage is at fault. -/
theorem ok_iff (h : Reports x stages) : (∃ a, x = .ok a) ↔ ∀ stage ∈ stages, ∀ e, ¬ stage e := by
  rw [← not_earliest_iff]
  constructor
  · rintro ⟨a, hok⟩
    exact h.not_earliest hok
  · intro hnone
    cases hx : x with
    | ok a => exact ⟨a, rfl⟩
    | error e => exact absurd (h.sound e hx) (hnone e)

/-- One computation after another reports the stages of both. -/
theorem bind {f : α → Except Error β} (h : Reports x stages)
    (hf : ∀ a, x = .ok a → Reports (f a) later) : Reports (x >>= f) (stages ++ later) where
  sound := fun e herror => by
    rcases bind_error.mp herror with hx | ⟨a, ha, hfa⟩
    · exact earliest_append_iff.mpr (Or.inl (h.sound e hx))
    · exact earliest_append_iff.mpr (Or.inr ⟨h.not_earliest ha, (hf a ha).sound e hfa⟩)
  complete := fun e hfault => by
    rcases earliest_append_iff.mp hfault with hfirst | ⟨hnone, hlater⟩
    · obtain ⟨e', herror, hsame⟩ := h.complete e hfirst
      exact ⟨e', bind_error.mpr (Or.inl herror), hsame⟩
    · cases hx : x with
      | error other => exact absurd (h.sound other hx) (hnone other)
      | ok a =>
          obtain ⟨e', herror, hsame⟩ := (hf a hx).complete e hlater
          exact ⟨e', herror, hsame⟩

end Reports

end Workflow
