import Mathlib.Data.List.Forall2
import Mathlib.Data.List.Perm.Basic
import Mathlib.Data.String.Basic
import Workflow.Json.Basic

/-!
# Members of objects

The order of the members of an object says nothing: some writers keep to the order of the fields,
others sort by name.  `Json.Rearranged` is sameness of values up to that order.  Members that are
put in place one by one end up sorted, whatever order they come in
(`Json.foldl_insertMember_eq`).
-/

namespace Workflow.Json

/-! ## Sorted members -/

section Members

variable {α : Type} {name : String} {value : α} {held pairs members : List (String × α)}

/-- The members stand in the order of their names, and each name stands once. -/
def Sorted (members : List (String × α)) : Prop := members.Pairwise fun m n => m.1 < n.1

theorem Sorted.nodup_names (h : Sorted members) : (members.map Prod.fst).Nodup :=
  List.pairwise_map.mpr (h.imp fun hless => hless.ne)

theorem Sorted.eq_of_perm (hheld : Sorted held) (hmembers : Sorted members)
    (hperm : held.Perm members) : held = members := by
  refine hperm.eq_of_pairwise ?_ hheld hmembers
  intro m n _ _ hless hmore
  exact absurd hless hmore.asymm

theorem mem_insertMember {m : String × α} (h : m ∈ insertMember name value held) :
    m = (name, value) ∨ m ∈ held := by
  induction held with
  | nil => exact .inl (List.mem_singleton.mp h)
  | cons first rest ih =>
    obtain ⟨other, x⟩ := first
    simp only [insertMember] at h
    split_ifs at h with hless hsame
    · exact List.mem_cons.mp h
    · exact (List.mem_cons.mp h).imp_right (List.mem_cons_of_mem _)
    · obtain rfl | h := List.mem_cons.mp h
      · exact .inr List.mem_cons_self
      · exact (ih h).imp_right (List.mem_cons_of_mem _)

theorem Sorted.insertMember (h : Sorted held) : Sorted (Json.insertMember name value held) := by
  induction held with
  | nil => exact List.pairwise_singleton _ _
  | cons first rest ih =>
    obtain ⟨other, x⟩ := first
    obtain ⟨hfirst, hrest⟩ := List.pairwise_cons.mp h
    simp only [Json.insertMember]
    split_ifs with hless hsame
    · refine List.pairwise_cons.mpr ⟨?_, h⟩
      intro m hm
      obtain rfl | hm := List.mem_cons.mp hm
      · exact hless
      · exact lt_trans hless (hfirst m hm)
    · subst hsame
      exact List.pairwise_cons.mpr ⟨hfirst, hrest⟩
    · refine List.pairwise_cons.mpr ⟨?_, ih hrest⟩
      intro m hm
      obtain rfl | hm := mem_insertMember hm
      · exact lt_of_le_of_ne (not_lt.mp hless) (Ne.symm hsame)
      · exact hfirst m hm

theorem insertMember_perm (h : name ∉ held.map Prod.fst) :
    (insertMember name value held).Perm ((name, value) :: held) := by
  induction held with
  | nil => exact .refl _
  | cons first rest ih =>
    obtain ⟨other, x⟩ := first
    obtain ⟨hother, hrest⟩ := List.ne_and_not_mem_of_not_mem_cons h
    have hother : name ≠ other := hother
    simp only [insertMember, if_neg hother]
    split_ifs with hless
    · exact .refl _
    · exact ((ih hrest).cons (other, x)).trans (.swap _ _ _)

theorem sorted_foldl (h : Sorted held) :
    Sorted (pairs.foldl (fun held p => Json.insertMember p.1 p.2 held) held) := by
  induction pairs generalizing held with
  | nil => exact h
  | cons pair pairs ih => exact ih h.insertMember

theorem perm_foldl (h : ((pairs ++ held).map Prod.fst).Nodup) :
    (pairs.foldl (fun held p => Json.insertMember p.1 p.2 held) held).Perm (pairs ++ held) := by
  induction pairs generalizing held with
  | nil => exact .refl _
  | cons pair pairs ih =>
    obtain ⟨name, value⟩ := pair
    have hname : name ∉ (pairs ++ held).map Prod.fst := (List.nodup_cons.mp h).1
    rw [List.map_append] at hname
    have hplaced : (insertMember name value held).Perm ((name, value) :: held) :=
      insertMember_perm fun hmem => hname (List.mem_append_right _ hmem)
    have hmoved : (pairs ++ insertMember name value held).Perm ((name, value) :: pairs ++ held) :=
      (hplaced.append_left pairs).trans List.perm_middle
    exact (ih ((hmoved.map Prod.fst).nodup_iff.mpr h)).trans hmoved

/-- Members that are put in place one by one end up in order. -/
theorem foldl_insertMember_eq (hsorted : Sorted members) (hperm : pairs.Perm members) :
    pairs.foldl (fun held p => Json.insertMember p.1 p.2 held) [] = members := by
  have hnodup : ((pairs ++ []).map Prod.fst).Nodup := by
    rw [List.append_nil]
    exact (hperm.map Prod.fst).nodup_iff.mpr hsorted.nodup_names
  have hall := perm_foldl hnodup
  rw [List.append_nil] at hall
  exact (sorted_foldl List.Pairwise.nil).eq_of_perm hsorted (hall.trans hperm)

end Members

/-- The members of all objects in a value, at whatever depth, are sorted. -/
inductive Ordered : Json → Prop where
  | null : Ordered .null
  | bool (b : Bool) : Ordered (.bool b)
  | number (n : Number) : Ordered (.number n)
  | string (s : String) : Ordered (.string s)
  | array {items : List Json} (h : ∀ item ∈ items, Ordered item) : Ordered (.array items)
  | object {members : List (String × Json)} (hsorted : Sorted members)
      (h : ∀ m ∈ members, Ordered m.2) : Ordered (.object members)

/-! ## Members in another order -/

/-- The first value is the second one but for the order of members, at whatever depth. -/
inductive Rearranged : Json → Json → Prop where
  | null : Rearranged .null .null
  | bool (b : Bool) : Rearranged (.bool b) (.bool b)
  | number (n : Number) : Rearranged (.number n) (.number n)
  | string (s : String) : Rearranged (.string s) (.string s)
  | array {items written : List Json} (h : List.Forall₂ Rearranged items written) :
      Rearranged (.array items) (.array written)
  | object {members moved written : List (String × Json)} (hperm : members.Perm moved)
      (hnames : moved.map Prod.fst = written.map Prod.fst)
      (hvalues : List.Forall₂ Rearranged (moved.map Prod.snd) (written.map Prod.snd)) :
      Rearranged (.object members) (.object written)

theorem Rearranged.refl : ∀ value : Json, Rearranged value value
  | .null => .null
  | .bool b => .bool b
  | .number n => .number n
  | .string s => .string s
  | .array items => by
    refine .array (List.forall₂_same.mpr ?_)
    intro item hitem
    have hsmaller := List.sizeOf_lt_of_mem hitem
    exact refl item
  | .object members => by
    refine .object (.refl _) rfl (List.forall₂_same.mpr ?_)
    intro value hvalue
    obtain ⟨⟨name, value⟩, hmem, rfl⟩ := List.mem_map.mp hvalue
    have hsmaller := List.sizeOf_lt_of_mem hmem
    exact refl value
termination_by value => sizeOf value
decreasing_by
  · simp only [Json.array.sizeOf_spec]
    omega
  · simp only [Json.object.sizeOf_spec, Prod.mk.sizeOf_spec] at hsmaller ⊢
    omega

theorem Rearranged.ne_null {value written : Json} (h : value.Rearranged written)
    (hwritten : written ≠ .null) : value ≠ .null := by
  rintro rfl
  cases h
  exact hwritten rfl

end Workflow.Json
