import Workflow.Definition.Json
import Workflow.Proofs.Json.Members
import Workflow.Proofs.Result

/-!
# Reading back what was written

A decoder reads back what a writer writes (`Decoder.ReadsBack`) when everything that it makes of
some document, of a value or of a text, it makes again of the written form, whatever the order of
the members in it.  It need not do so for what it makes of no document: a table is read sorted by
name, and one that is not sorted is not read back.

One lemma for each way to put decoders together says when the result reads back; records have a
module of their own.
-/

namespace Workflow

namespace Decoder

variable {α β : Type} {decode : Decoder α} {write : α → Json}

theorem endOf_ok {stop : Option Fault} {x y : α} : endOf stop x = .ok y ↔ stop = none ∧ x = y := by
  cases stop with
  | none => simp [endOf]
  | some fault => simp [endOf]

/-- Whether some document is decoded to this. -/
def Yields (decode : Decoder α) (x : α) : Prop :=
  ∃ origin document, decode origin document = .ok x

theorem yields_of_ofJson {value : Json} {x : α} (h : decode.ofJson value = .ok x) :
    decode.Yields x :=
  ⟨_, _, h⟩

theorem yields_of_ofText {text : String} {x : α} (h : decode.ofText text = .ok x) :
    decode.Yields x := by
  obtain ⟨found, hfound, h⟩ := bind_ok.mp h
  split at h
  · split_ifs at h
    cases h
    exact ⟨_, _, hfound⟩
  · cases h

/-- Whether everything that is decoded is decoded again from its written form, with the members in
any order. -/
def ReadsBack (decode : Decoder α) (write : α → Json) : Prop :=
  ∀ x, decode.Yields x → ∀ value : Json, value.Rearranged (write x) → decode.ofJson value = .ok x

/-! ## Simple values -/

theorem readsBack_string : ReadsBack string .string := by
  intro s _ value h
  cases h
  rfl

/-- A text that stands for something is written so that it stands for the same again. -/
theorem readsBack_refine {expected : Expected} {f : String → Except Fault α} {text : α → String}
    (h : ∀ s x, f s = .ok x → f (text x) = .ok x) :
    ReadsBack ((stringFor expected).refine f) fun x => .string (text x) := by
  rintro x ⟨origin, document, hx⟩ value hvalue
  cases hvalue
  obtain ⟨s, -, hs⟩ := bind_ok.mp hx
  exact h s x hs

theorem map_ofJson (f : α → β) (value : Json) :
    (decode.map f).ofJson value = (decode.ofJson value).map f := rfl

theorem readsBack_map {f : String → α} {text : α → String} (h : ∀ s, f (text (f s)) = f s) :
    ReadsBack (string.map f) fun x => .string (text x) := by
  rintro x ⟨origin, document, hx⟩ value hvalue
  cases hvalue
  obtain ⟨s, -, rfl⟩ := map_ok.mp hx
  exact congrArg Except.ok (h s)

theorem word32_nat {n : Nat} (h : n < 4294967296) : word32.ofJson (.nat n) = .ok n := by
  have hbounds : (0 : Int) ≤ n ∧ (n : Int) < 4294967296 := by omega
  rw [ofJson, Json.nat, Document.ofJson, word32, if_pos hbounds, Int.toNat_natCast]

theorem readsBack_version : ReadsBack version fun v => .nat v.toNat := by
  intro v _ value h
  have hvalue : value = .nat v.toNat := by
    cases h
    rfl
  rw [hvalue, version, map_ofJson, word32_nat v.toNat_lt]
  exact congrArg Except.ok UInt32.ofNat_toNat

theorem readsBack_choice {choices : List (String × α)} {name : α → String}
    (h : ∀ x, choices.lookup (name x) = some x) :
    ReadsBack (choice choices) fun x => .string (name x) := by
  intro x _ value hvalue
  cases hvalue
  show choiceNamed choices (name x) = .ok x
  rw [choiceNamed, h x]

theorem nullable_ok {origin : Origin} {document : Document} {x : α}
    (h : decode.nullable origin document = .ok (some x)) : decode origin document = .ok x := by
  unfold nullable at h
  split at h
  · cases h
  · cases h
  · obtain ⟨found, hfound, hsome⟩ := map_ok.mp h
    cases hsome
    exact hfound

theorem nullable_of_ne_null {value : Json} (h : value ≠ .null) :
    decode.nullable.ofJson value = (decode.ofJson value).map some := by
  cases value with
  | null => exact absurd rfl h
  | bool b => rfl
  | number n => rfl
  | string s => rfl
  | array items => rfl
  | object members => rfl

/-- Null must stay free for what is missing. -/
theorem ReadsBack.nullable (h : ReadsBack decode write) (hnull : ∀ x, write x ≠ .null) :
    ReadsBack decode.nullable fun x => Json.orNull (x.map write) := by
  rintro x ⟨origin, document, hx⟩ value hvalue
  cases x with
  | none =>
    cases hvalue
    rfl
  | some x =>
    have hwritten : value.Rearranged (write x) := hvalue
    rw [nullable_of_ne_null (hwritten.ne_null (hnull x)),
      h x ⟨origin, document, nullable_ok hx⟩ value hwritten]
    rfl

/-! ## Arrays -/

theorem items_ok {origin : Origin} {documents : List Document} {xs : List α}
    (h : items decode origin documents = .ok xs) :
    ∀ x ∈ xs, ∃ document ∈ documents, decode origin document = .ok x := by
  induction documents generalizing xs with
  | nil =>
    cases h
    exact fun x hx => absurd hx List.not_mem_nil
  | cons document documents ih =>
    obtain ⟨first, hfirst, h⟩ := bind_ok.mp h
    obtain ⟨rest, hrest, rfl⟩ := map_ok.mp h
    intro x hx
    obtain rfl | hx := List.mem_cons.mp hx
    · exact ⟨document, List.mem_cons_self, hfirst⟩
    · obtain ⟨found, hmem, hfound⟩ := ih hrest x hx
      exact ⟨found, List.mem_cons_of_mem _ hmem, hfound⟩

theorem items_written : ∀ {xs : List α} {values : List Json},
    List.Forall₂ Json.Rearranged values (xs.map write) →
      (∀ x ∈ xs, ∀ value : Json, value.Rearranged (write x) → decode.ofJson value = .ok x) →
        items decode .value (Document.ofItems values) = .ok xs
  | [], [], _, _ => rfl
  | x :: xs, value :: values, .cons h hrest, hback => by
    have hx := hback x List.mem_cons_self value h
    have hxs := items_written hrest fun y hy => hback y (List.mem_cons_of_mem x hy)
    exact bind_ok.mpr ⟨x, hx, map_ok.mpr ⟨xs, hxs, rfl⟩⟩

theorem ReadsBack.list (h : ReadsBack decode write) :
    ReadsBack (Decoder.list decode) fun xs => .array (xs.map write) := by
  rintro xs ⟨origin, document, hxs⟩ value hvalue
  unfold Decoder.list at hxs
  split at hxs
  · obtain ⟨inner, -, hxs⟩ := bind_ok.mp hxs
    obtain ⟨found, hfound, hend⟩ := bind_ok.mp hxs
    obtain ⟨-, rfl⟩ := endOf_ok.mp hend
    cases hvalue with
    | array hvalues =>
      have hwritten := items_written hvalues fun x hx => by
        obtain ⟨item, -, hitem⟩ := items_ok hfound x hx
        exact h x ⟨inner, item, hitem⟩
      exact bind_ok.mpr ⟨.value, rfl, bind_ok.mpr ⟨found, hwritten, rfl⟩⟩
  · cases hxs

/-! ## Tables -/

theorem members_ok {origin : Origin} {fields : List (Key × Document)}
    {held xs : List (String × α)} (hheld : Json.Sorted held)
    (h : members decode origin held fields = .ok xs) :
    Json.Sorted xs ∧ ∀ m ∈ xs, m ∈ held ∨ ∃ field ∈ fields, decode origin field.2 = .ok m.2 := by
  induction fields generalizing held with
  | nil =>
    cases h
    exact ⟨hheld, fun m hm => .inl hm⟩
  | cons field fields ih =>
    obtain ⟨name, -, h⟩ := bind_ok.mp h
    obtain ⟨x, hx, h⟩ := bind_ok.mp h
    obtain ⟨hsorted, hmem⟩ := ih hheld.insertMember h
    refine ⟨hsorted, ?_⟩
    intro m hm
    obtain hm | ⟨found, hfound, hread⟩ := hmem m hm
    · obtain rfl | hm := Json.mem_insertMember hm
      · exact .inr ⟨field, List.mem_cons_self, hx⟩
      · exact .inl hm
    · exact .inr ⟨found, List.mem_cons_of_mem _ hfound, hread⟩

/-- Members are put in place one by one. -/
theorem members_eq_foldl {held pairs : List (String × α)} {members : List (String × Json)}
    (h : List.Forall₂ (fun m p => m.1 = p.1 ∧ decode.ofJson m.2 = .ok p.2) members pairs) :
    Decoder.members decode .value held (Document.ofMembers members) =
      .ok (pairs.foldl (fun held p => Json.insertMember p.1 p.2 held) held) := by
  induction h generalizing held with
  | nil => rfl
  | @cons m p members pairs hfirst _ ih =>
    obtain ⟨name, x⟩ := p
    obtain ⟨rfl, hx⟩ := hfirst
    exact bind_ok.mpr ⟨m.1, rfl, bind_ok.mpr ⟨x, hx, ih⟩⟩

theorem forall₂_written : ∀ {xs : List (String × α)} {moved : List (String × Json)},
    moved.map Prod.fst = (xs.map fun m => (m.1, write m.2)).map Prod.fst →
      List.Forall₂ Json.Rearranged (moved.map Prod.snd)
        ((xs.map fun m => (m.1, write m.2)).map Prod.snd) →
        (∀ m ∈ xs, ∀ value : Json, value.Rearranged (write m.2) →
          decode.ofJson value = .ok m.2) →
          List.Forall₂ (fun m p => m.1 = p.1 ∧ decode.ofJson m.2 = .ok p.2) moved xs
  | [], [], _, _, _ => .nil
  | m :: xs, pair :: moved, hnames, .cons h hrest, hback => by
    obtain ⟨hname, hnames⟩ := List.cons.inj hnames
    have hm := hback m List.mem_cons_self pair.2 h
    exact .cons ⟨hname, hm⟩
      (forall₂_written hnames hrest fun n hn => hback n (List.mem_cons_of_mem m hn))

/-- A sorted table is read back, whatever the order in which it is written. -/
theorem members_written {xs : List (String × α)} {members : List (String × Json)}
    (hsorted : Json.Sorted xs)
    (hback : ∀ m ∈ xs, ∀ value : Json, value.Rearranged (write m.2) → decode.ofJson value = .ok m.2)
    (h : (Json.object members).Rearranged (.object (xs.map fun m => (m.1, write m.2)))) :
    Decoder.members decode .value [] (Document.ofMembers members) = .ok xs := by
  cases h with
  | object hperm hnames hvalues =>
    obtain ⟨pairs, hpairs, hxs⟩ :=
      List.perm_comp_forall₂ hperm (forall₂_written hnames hvalues hback)
    rw [members_eq_foldl hpairs, Json.foldl_insertMember_eq hsorted hxs]

theorem ReadsBack.table (h : ReadsBack decode write) :
    ReadsBack (Decoder.table decode) fun xs => .object (xs.map fun m => (m.1, write m.2)) := by
  rintro xs ⟨origin, document, hxs⟩ value hvalue
  unfold Decoder.table at hxs
  split at hxs
  · obtain ⟨inner, -, hxs⟩ := bind_ok.mp hxs
    obtain ⟨found, hfound, hend⟩ := bind_ok.mp hxs
    obtain ⟨-, rfl⟩ := endOf_ok.mp hend
    obtain ⟨hsorted, hmem⟩ := members_ok List.Pairwise.nil hfound
    have hback : ∀ m ∈ found, ∀ value : Json, value.Rearranged (write m.2) →
        decode.ofJson value = .ok m.2 := by
      intro m hm
      obtain hm | ⟨field, -, hfield⟩ := hmem m hm
      · exact absurd hm List.not_mem_nil
      · exact h m.2 ⟨inner, field.2, hfield⟩
    obtain ⟨members, rfl⟩ : ∃ members, value = .object members := by
      cases hvalue
      exact ⟨_, rfl⟩
    exact bind_ok.mpr
      ⟨.value, rfl, bind_ok.mpr ⟨found, members_written hsorted hback hvalue, rfl⟩⟩
  · cases hxs

/-! ## Any value -/

theorem jsonItems_eq (origin : Origin) (documents : List Document) :
    jsonItems origin documents = items json origin documents := by
  induction documents with
  | nil => rfl
  | cons document documents ih => rw [jsonItems, items, ih]

theorem jsonMembers_eq (origin : Origin) (held : List (String × Json))
    (fields : List (Key × Document)) :
    jsonMembers origin held fields = members json origin held fields := by
  induction fields generalizing held with
  | nil => rfl
  | cons field fields ih => simp only [jsonMembers, members, ih]

theorem json_array (origin : Origin) (documents : List Document) (stop : Option Fault) :
    json origin (.array documents stop) = origin.enter >>= fun inner =>
      items json inner documents >>= fun xs => endOf stop (.array xs) := by
  simp only [json, jsonItems_eq]
  rfl

theorem json_object (origin : Origin) (fields : List (Key × Document)) (stop : Option Fault) :
    json origin (.object fields stop) = origin.enter >>= fun inner =>
      members json inner [] fields >>= fun xs => endOf stop (.object xs) := by
  simp only [json, jsonMembers_eq]
  rfl

/-- What is decoded as any value is in order. -/
theorem ordered_of_json : ∀ {origin : Origin} {document : Document} {x : Json},
    json origin document = .ok x → x.Ordered
  | _, .null, _, h => by
    cases h
    exact .null
  | _, .bool b, _, h => by
    cases h
    exact .bool b
  | _, .number kept _, _, h => by
    obtain ⟨n, -, rfl⟩ := map_ok.mp h
    exact .number n
  | _, .string kept _, _, h => by
    obtain ⟨s, -, rfl⟩ := map_ok.mp h
    exact .string s
  | origin, .array documents stop, _, h => by
    rw [json_array] at h
    obtain ⟨inner, -, h⟩ := bind_ok.mp h
    obtain ⟨xs, hxs, hend⟩ := bind_ok.mp h
    obtain ⟨-, rfl⟩ := endOf_ok.mp hend
    refine .array ?_
    intro x hx
    obtain ⟨document, hmem, hdocument⟩ := items_ok hxs x hx
    have hsmaller := List.sizeOf_lt_of_mem hmem
    exact ordered_of_json hdocument
  | origin, .object fields stop, _, h => by
    rw [json_object] at h
    obtain ⟨inner, -, h⟩ := bind_ok.mp h
    obtain ⟨xs, hxs, hend⟩ := bind_ok.mp h
    obtain ⟨-, rfl⟩ := endOf_ok.mp hend
    obtain ⟨hsorted, hread⟩ := members_ok List.Pairwise.nil hxs
    refine .object hsorted ?_
    intro m hm
    obtain hm | ⟨⟨key, document⟩, hmem, hdocument⟩ := hread m hm
    · exact absurd hm List.not_mem_nil
    · have hsmaller := List.sizeOf_lt_of_mem hmem
      exact ordered_of_json hdocument
  | _, .brokenNull _, _, h => nomatch h
  | _, .brokenWord _, _, h => nomatch h
  | _, .absent _, _, h => nomatch h
termination_by _ document => sizeOf document
decreasing_by
  · simp only [Document.array.sizeOf_spec]
    omega
  · simp only [Document.object.sizeOf_spec, Prod.mk.sizeOf_spec] at hsmaller ⊢
    omega

/-- What is in order is decoded as it is. -/
theorem json_of_ordered {x : Json} (h : x.Ordered) :
    ∀ value : Json, value.Rearranged x → json.ofJson value = .ok x := by
  induction h with
  | null =>
    intro value hvalue
    cases hvalue
    rfl
  | bool b =>
    intro value hvalue
    cases hvalue
    rfl
  | number n =>
    intro value hvalue
    cases hvalue
    rfl
  | string s =>
    intro value hvalue
    cases hvalue
    rfl
  | @array xs _ ih =>
    intro value hvalue
    cases hvalue with
    | array hvalues =>
      rw [← List.map_id xs] at hvalues
      have hxs := items_written hvalues ih
      exact (json_array _ _ _).trans (bind_ok.mpr ⟨.value, rfl, bind_ok.mpr ⟨xs, hxs, rfl⟩⟩)
  | @object xs hsorted _ ih =>
    intro value hvalue
    obtain ⟨members, rfl⟩ : ∃ members, value = .object members := by
      cases hvalue
      exact ⟨_, rfl⟩
    have hsame : xs.map (fun m => (m.1, id m.2)) = xs := List.map_id xs
    rw [← hsame] at hvalue
    have hxs := members_written hsorted ih hvalue
    exact (json_object _ _ _).trans (bind_ok.mpr ⟨.value, rfl, bind_ok.mpr ⟨xs, hxs, rfl⟩⟩)

theorem readsBack_json : ReadsBack json id := by
  rintro x ⟨origin, document, hx⟩
  exact json_of_ordered (ordered_of_json hx)

end Decoder

end Workflow
