import Workflow.Proofs.Json.ReadsBack

/-!
# Records that read back

A record reads back when each of its fields does and no two have one name
(`Fields.readsBack_decoder`).  A field is written as a member, or left out when it holds what it is
without one; a way to write it that reads back is a `Field.Writer`, and a record has one for each
field.

A record is read from an object or from an array.  In both every field ends up with something it
can hold (`Field.Yields`): what it is when it is missing, or what its decoder made of some document.
That is all that reading back takes.  The order of the members does not matter, because two members
of different names are read in either order (`Fields.readMember_swap`).
-/

namespace Workflow

variable {α β : Type}

/-! ## Fields -/

/-- What a field may hold: what it is when it is missing, or something decoded. -/
def Field.Yields (field : Field α) (x : α) : Prop :=
  field.missing = some x ∨ field.read.Yields x

/-- How a field is written. What it holds is read back from its member, if it has one; if not, it
is what the field is when it is missing. -/
structure Field.Writer (field : Field α) where
  write : α → Option Json
  written : ∀ x written, field.Yields x → write x = some written →
    ∀ value : Json, value.Rearranged written → field.read.ofJson value = .ok x
  leftOut : ∀ x, field.Yields x → write x = none → field.missing = some x

namespace Fields

/-- What all the fields hold. -/
def Values : List Type → Type
  | [] => Unit
  | α :: ts => α × Values ts

/-- The names of the fields. -/
def names : Fields ts → List String
  | nil => []
  | cons field rest => field.name :: rest.names

/-- The record that is built from what the fields hold. -/
def build : (fields : Fields ts) → Arrow ts β → Values ts → β
  | nil, result, _ => result
  | cons _ rest, make, (x, xs) => rest.build (make x) xs

/-- What all the fields may hold. -/
def Yields : (fields : Fields ts) → Values ts → Prop
  | nil, _ => True
  | cons field rest, (x, xs) => field.Yields x ∧ rest.Yields xs

/-! ## What is read -/

section ReadMember

variable {ts : List Type} {field : Field α} {rest : Fields ts} {origin : Origin} {name : String}
  {document : Document} {slot : Option α} {slots : Slots ts} {next : Slots (α :: ts)}

theorem readMember_self (hname : name = field.name) :
    (cons field rest).readMember origin name document (slot, slots) = .ok next ↔
      slot = none ∧ ∃ x, field.read origin document = .ok x ∧ (some x, slots) = next := by
  simp only [readMember, if_pos hname]
  cases slot with
  | some x => simp
  | none => exact map_ok.trans (and_iff_right rfl).symm

theorem readMember_other (hname : name ≠ field.name) :
    (cons field rest).readMember origin name document (slot, slots) = .ok next ↔
      ∃ after, rest.readMember origin name document slots = .ok after ∧ (slot, after) = next := by
  simp only [readMember, if_neg hname]
  exact map_ok

end ReadMember

/-- Whatever has been read of a field so far was decoded. -/
def Filled : (fields : Fields ts) → Slots ts → Prop
  | nil, _ => True
  | cons field rest, (slot, slots) =>
    (∀ x, slot = some x → field.read.Yields x) ∧ rest.Filled slots

theorem filled_unread : (fields : Fields ts) → fields.Filled fields.unread
  | nil => trivial
  | cons _ rest => ⟨(fun _ h => nomatch h), rest.filled_unread⟩

theorem filled_readMember {origin : Origin} {name : String} {document : Document} :
    ∀ {ts : List Type} {fields : Fields ts} {slots slots' : Slots ts}, fields.Filled slots →
      fields.readMember origin name document slots = .ok slots' → fields.Filled slots'
  | _, nil, _, _, _, _ => trivial
  | _, cons field rest, (slot, slots), _, hfilled, h => by
    by_cases hname : name = field.name
    · obtain ⟨-, x, hx, rfl⟩ := (readMember_self hname).mp h
      refine ⟨?_, hfilled.2⟩
      intro y hy
      cases hy
      exact ⟨origin, document, hx⟩
    · obtain ⟨after, hafter, rfl⟩ := (readMember_other hname).mp h
      exact ⟨hfilled.1, filled_readMember hfilled.2 hafter⟩

theorem filled_readMembers {origin : Origin} {fields : Fields ts} {slots slots' : Slots ts}
    {members : List (Key × Document)} (hfilled : fields.Filled slots)
    (h : fields.readMembers origin slots members = .ok slots') : fields.Filled slots' := by
  induction members generalizing slots with
  | nil =>
    cases h
    exact hfilled
  | cons m members ih =>
    obtain ⟨name, -, h⟩ := bind_ok.mp h
    obtain ⟨next, hnext, h⟩ := bind_ok.mp h
    exact ih (filled_readMember hfilled hnext) h

theorem finish_ok {y : β} : ∀ {ts : List Type} {fields : Fields ts} {slots : Slots ts}
    {make : Arrow ts β}, fields.Filled slots → fields.finish slots make = .ok y →
      ∃ xs, fields.Yields xs ∧ fields.build make xs = y
  | _, nil, _, _, _, h => by
    cases h
    exact ⟨(), trivial, rfl⟩
  | _, cons field rest, (slot, slots), make, hfilled, h => by
    simp only [finish] at h
    split at h
    · next x hx =>
      obtain ⟨xs, hxs, hbuild⟩ := finish_ok hfilled.2 h
      refine ⟨(x, xs), ⟨?_, hxs⟩, hbuild⟩
      cases slot with
      | none => exact .inl hx
      | some held =>
        cases hx
        exact .inr (hfilled.1 x rfl)
    · cases h

theorem endOfItems_ok {origin : Origin} {total : Nat} {stop : Option Fault} {rest : List Document}
    {x y : β} (h : endOfItems origin total stop rest x = .ok y) : x = y := by
  unfold endOfItems at h
  split at h
  · exact (Decoder.endOf_ok.mp h).2
  · cases h
  · cases h

theorem readItems_ok {origin : Origin} {expected : Expected} {total : Nat} {stop : Option Fault}
    {y : β} : ∀ {ts : List Type} {fields : Fields ts} {index : Nat} {documents : List Document}
      {make : Arrow ts β},
      fields.readItems origin expected total stop index documents make = .ok y →
        ∃ xs, fields.Yields xs ∧ fields.build make xs = y
  | _, nil, _, _, _, h => ⟨(), trivial, endOfItems_ok h⟩
  | _, cons field rest, index, [], make, h => by
    obtain ⟨_, -, h⟩ := bind_ok.mp h
    split at h
    · next x hx =>
      obtain ⟨xs, hxs, hbuild⟩ := readItems_ok h
      exact ⟨(x, xs), ⟨.inl hx, hxs⟩, hbuild⟩
    · cases h
  | _, cons field rest, _, document :: documents, make, h => by
    obtain ⟨x, hx, h⟩ := bind_ok.mp h
    obtain ⟨xs, hxs, hbuild⟩ := readItems_ok h
    exact ⟨(x, xs), ⟨.inr ⟨origin, document, hx⟩, hxs⟩, hbuild⟩

/-- A decoded record is built from what its fields may hold. -/
theorem decoder_ok {name : String} {fields : Fields ts} {make : Arrow ts β} {y : β}
    (h : (fields.decoder name make).Yields y) :
    ∃ xs, fields.Yields xs ∧ fields.build make xs = y := by
  obtain ⟨origin, document, h⟩ := h
  unfold decoder at h
  split at h
  · obtain ⟨inner, -, h⟩ := bind_ok.mp h
    obtain ⟨slots, hslots, h⟩ := bind_ok.mp h
    obtain ⟨_, hend, h⟩ := bind_ok.mp h
    obtain ⟨-, rfl⟩ := Decoder.endOf_ok.mp hend
    exact finish_ok (filled_readMembers fields.filled_unread hslots) h
  · obtain ⟨inner, -, h⟩ := bind_ok.mp h
    exact readItems_ok h
  · cases h

/-! ## What is written -/

/-- A way to write each of the fields. -/
inductive Writers : {ts : List Type} → Fields ts → Type 1 where
  | nil : Writers .nil
  | cons {α : Type} {ts : List Type} {field : Field α} {rest : Fields ts} (writer : field.Writer)
      (writers : Writers rest) : Writers (.cons field rest)

namespace Writers

/-- The members that are written. -/
def members : {ts : List Type} → {fields : Fields ts} → Writers fields → Values ts →
    List (String × Json)
  | _, .nil, .nil, _ => []
  | _, .cons field _, .cons writer writers, (x, xs) =>
    Json.optional field.name (writer.write x) ++ writers.members xs

/-- What is read of the fields from the written members. -/
def slots : {ts : List Type} → {fields : Fields ts} → Writers fields → Values ts → Slots ts
  | _, .nil, .nil, _ => ()
  | _, .cons _ _, .cons writer writers, (x, xs) =>
    ((writer.write x).map fun _ => x, writers.slots xs)

theorem members_cons {α : Type} {ts : List Type} {field : Field α} {rest : Fields ts}
    (writer : field.Writer) (writers : Writers rest) (x : α) (xs : Values ts) :
    (cons writer writers).members (x, xs) =
      Json.optional field.name (writer.write x) ++ writers.members xs := rfl

theorem slots_cons {α : Type} {ts : List Type} {field : Field α} {rest : Fields ts}
    (writer : field.Writer) (writers : Writers rest) (x : α) (xs : Values ts) :
    (cons writer writers).slots (x, xs) =
      ((writer.write x).map fun _ => x, writers.slots xs) := rfl

/-- The members have the names of their fields, in the order of the fields. -/
theorem names_sublist : ∀ {ts : List Type} {fields : Fields ts} (writers : Writers fields)
    (xs : Values ts), ((writers.members xs).map Prod.fst).Sublist fields.names
  | _, .nil, .nil, _ => .slnil
  | _, .cons field _, .cons writer writers, (x, xs) => by
    have hmore := names_sublist writers xs
    rw [members_cons]
    cases hx : writer.write x with
    | none => exact hmore.cons field.name
    | some value => exact hmore.cons_cons field.name

end Writers

theorem readMembers_cons_ok {fields : Fields ts} {m : String × Json}
    {members : List (String × Json)} {slots last : Slots ts} :
    fields.readMembers .value slots (Document.ofMembers (m :: members)) = .ok last ↔
      ∃ next, fields.readMember .value m.1 (Document.ofJson m.2) slots = .ok next ∧
        fields.readMembers .value next (Document.ofMembers members) = .ok last := by
  constructor
  · intro h
    obtain ⟨_, hname, h⟩ := bind_ok.mp h
    cases hname
    exact bind_ok.mp h
  · intro h
    exact bind_ok.mpr ⟨m.1, rfl, bind_ok.mpr h⟩

/-- Members of other names are for the other fields. -/
theorem readMembers_others {ts : List Type} {field : Field α} {rest : Fields ts} {slot : Option α}
    {slots : Slots ts} {members : List (String × Json)} (h : ∀ m ∈ members, m.1 ≠ field.name) :
    (cons field rest).readMembers .value (slot, slots) (Document.ofMembers members) =
      (rest.readMembers .value slots (Document.ofMembers members)).map
        fun slots => (slot, slots) := by
  induction members generalizing slots with
  | nil => rfl
  | cons m members ih =>
    obtain ⟨name, value⟩ := m
    have hname : name ≠ field.name := h (name, value) List.mem_cons_self
    simp only [Document.ofMembers, readMembers, Decoder.keyName, Except.bind, readMember,
      if_neg hname]
    cases hread : rest.readMember .value name (Document.ofJson value) slots with
    | error fault => rfl
    | ok next => exact ih fun m hm => h m (List.mem_cons_of_mem _ hm)

/-- The written members leave in every field what it held, if they come in the order of the
fields. -/
theorem readMembers_written : ∀ {ts : List Type} {fields : Fields ts} {writers : Writers fields}
    {xs : Values ts} {members : List (String × Json)}, fields.names.Nodup → fields.Yields xs →
      members.map Prod.fst = (writers.members xs).map Prod.fst →
        List.Forall₂ Json.Rearranged (members.map Prod.snd)
          ((writers.members xs).map Prod.snd) →
          fields.readMembers .value fields.unread (Document.ofMembers members) =
            .ok (writers.slots xs)
  | _, nil, .nil, _, [], _, _, _, _ => rfl
  | _, cons field rest, .cons writer writers, (x, xs), members, hnames, hyields, hsame,
      hvalues => by
    obtain ⟨hfield, hrest⟩ := List.nodup_cons.mp hnames
    -- the members of the other fields pass this one by, whatever has been read of it
    have hmore : ∀ (slot : Option _) (others : List (String × Json)),
        others.map Prod.fst = (writers.members xs).map Prod.fst →
          List.Forall₂ Json.Rearranged (others.map Prod.snd)
            ((writers.members xs).map Prod.snd) →
            (cons field rest).readMembers .value (slot, rest.unread)
              (Document.ofMembers others) = .ok (slot, writers.slots xs) := by
      intro slot others hsame hvalues
      have hother : ∀ m ∈ others, m.1 ≠ field.name := by
        intro m hm heq
        have hmem : m.1 ∈ (writers.members xs).map Prod.fst := hsame ▸ List.mem_map_of_mem hm
        exact hfield (heq ▸ (writers.names_sublist xs).subset hmem)
      rw [readMembers_others hother, readMembers_written hrest hyields.2 hsame hvalues]
      rfl
    rw [Writers.members_cons] at hsame hvalues
    rw [Writers.slots_cons]
    cases hx : writer.write x with
    | none =>
      rw [hx] at hsame hvalues
      exact hmore none members hsame hvalues
    | some written =>
      rw [hx] at hsame hvalues
      cases members with
      | nil => cases hsame
      | cons m others =>
        obtain ⟨hname, hsame⟩ := List.cons.inj hsame
        cases hvalues with
        | cons hvalue hvalues =>
          have hheld := writer.written x written hyields.1 hx m.2 hvalue
          have hread : (cons field rest).readMember .value m.1 (Document.ofJson m.2)
              (none, rest.unread) = .ok (some x, rest.unread) :=
            (readMember_self hname).mpr ⟨rfl, x, hheld, rfl⟩
          exact readMembers_cons_ok.mpr ⟨_, hread, hmore (some x) others hsame hvalues⟩

/-! ## Members in any order -/

/-- Two members of different names are read in either order. -/
theorem readMember_swap {origin : Origin} {name name' : String} (hne : name ≠ name')
    {document document' : Document} : ∀ {ts : List Type} {fields : Fields ts}
      {slots next last : Slots ts}, fields.readMember origin name document slots = .ok next →
        fields.readMember origin name' document' next = .ok last →
          ∃ other, fields.readMember origin name' document' slots = .ok other ∧
            fields.readMember origin name document other = .ok last
  | _, nil, _, _, _, h, h' => by
    obtain ⟨hstop, rfl⟩ := Decoder.endOf_ok.mp h
    obtain ⟨hstop', rfl⟩ := Decoder.endOf_ok.mp h'
    exact ⟨_, h', h⟩
  | _, cons field rest, (slot, slots), _, _, h, h' => by
    by_cases hname : name = field.name
    · have hname' : name' ≠ field.name := fun heq => hne (hname.trans heq.symm)
      obtain ⟨rfl, x, hx, rfl⟩ := (readMember_self hname).mp h
      obtain ⟨after, hafter, rfl⟩ := (readMember_other hname').mp h'
      exact ⟨(none, after), (readMember_other hname').mpr ⟨after, hafter, rfl⟩,
        (readMember_self hname).mpr ⟨rfl, x, hx, rfl⟩⟩
    · obtain ⟨after, hafter, rfl⟩ := (readMember_other hname).mp h
      by_cases hname' : name' = field.name
      · obtain ⟨rfl, x, hx, rfl⟩ := (readMember_self hname').mp h'
        exact ⟨(some x, slots), (readMember_self hname').mpr ⟨rfl, x, hx, rfl⟩,
          (readMember_other hname).mpr ⟨after, hafter, rfl⟩⟩
      · obtain ⟨after', hafter', rfl⟩ := (readMember_other hname').mp h'
        obtain ⟨other, hother, hback⟩ := readMember_swap hne hafter hafter'
        exact ⟨(slot, other), (readMember_other hname').mpr ⟨other, hother, rfl⟩,
          (readMember_other hname).mpr ⟨after', hback, rfl⟩⟩

theorem readMembers_perm {fields : Fields ts} {members others : List (String × Json)}
    {slots last : Slots ts} (hperm : members.Perm others) (hnames : (members.map Prod.fst).Nodup)
    (h : fields.readMembers .value slots (Document.ofMembers members) = .ok last) :
    fields.readMembers .value slots (Document.ofMembers others) = .ok last := by
  induction hperm generalizing slots with
  | nil => exact h
  | cons m _ ih =>
    obtain ⟨next, hnext, h⟩ := readMembers_cons_ok.mp h
    exact readMembers_cons_ok.mpr ⟨next, hnext, ih (List.nodup_cons.mp hnames).2 h⟩
  | swap m n rest =>
    have hne : n.1 ≠ m.1 := by
      intro heq
      exact (List.nodup_cons.mp hnames).1 (heq ▸ List.mem_cons_self)
    obtain ⟨next, hnext, h⟩ := readMembers_cons_ok.mp h
    obtain ⟨after, hafter, h⟩ := readMembers_cons_ok.mp h
    obtain ⟨other, hother, hback⟩ := readMember_swap hne hnext hafter
    exact readMembers_cons_ok.mpr ⟨other, hother, readMembers_cons_ok.mpr ⟨after, hback, h⟩⟩
  | trans hfirst _ ih ih' =>
    exact ih' ((hfirst.map Prod.fst).nodup_iff.mp hnames) (ih hnames h)

/-! ## Building again -/

theorem finish_cons {ts : List Type} {field : Field α} {rest : Fields ts} {slot : Option α}
    {slots : Slots ts} {make : Arrow (α :: ts) β} {x : α} (h : slot.or field.missing = some x) :
    (cons field rest).finish (slot, slots) make = rest.finish slots (make x) := by
  simp only [finish, h]

theorem finish_written : ∀ {ts : List Type} {fields : Fields ts} {writers : Writers fields}
    {xs : Values ts} {make : Arrow ts β}, fields.Yields xs →
      fields.finish (writers.slots xs) make = .ok (fields.build make xs)
  | _, nil, .nil, _, _, _ => rfl
  | _, cons field rest, .cons writer writers, (x, xs), make, hyields => by
    have hslot : ((writer.write x).map fun _ => x).or field.missing = some x := by
      cases hx : writer.write x with
      | none => exact writer.leftOut x hyields.1 hx
      | some value => rfl
    exact (finish_cons hslot).trans (finish_written hyields.2)

/-- A record reads back when its fields do and their names are different. -/
theorem readsBack_decoder {ts : List Type} {name : String} {fields : Fields ts}
    {make : Arrow ts β} {write : β → Json} (writers : Writers fields) (hnames : fields.names.Nodup)
    (hwrite : ∀ xs, write (fields.build make xs) = .object (writers.members xs)) :
    (fields.decoder name make).ReadsBack write := by
  intro y hy value hvalue
  obtain ⟨xs, hyields, rfl⟩ := decoder_ok hy
  rw [hwrite xs] at hvalue
  cases hvalue with
  | @object members moved _ hperm hsame hvalues =>
    have hmoved : fields.readMembers .value fields.unread (Document.ofMembers moved) =
        .ok (writers.slots xs) := readMembers_written hnames hyields hsame hvalues
    have hdistinct : (moved.map Prod.fst).Nodup := by
      rw [hsame]
      exact hnames.sublist (writers.names_sublist xs)
    have hslots := readMembers_perm hperm.symm hdistinct hmoved
    have hfinish : fields.finish (writers.slots xs) make = .ok (fields.build make xs) :=
      finish_written hyields
    exact bind_ok.mpr ⟨Origin.value, rfl, bind_ok.mpr ⟨_, hslots, bind_ok.mpr ⟨_, rfl, hfinish⟩⟩⟩

/-! ## Ways to write a field -/

namespace Writers

variable {ts : List Type} {name : String} {read : Decoder α} {write : α → Json} {rest : Fields ts}

/-- A field that is always there. -/
def required (h : read.ReadsBack write) (writers : Writers rest) :
    Writers (Fields.required name read rest) :=
  .cons
    { write := fun x => some (write x)
      written := by
        intro x written hyields hwritten
        cases hwritten
        obtain hmissing | hyields := hyields
        · cases hmissing
        · exact h x hyields
      leftOut := fun x _ hnone => nomatch hnone }
    writers

/-- A field that may be missing but is always written. -/
def defaulted {missing : α} (h : read.ReadsBack write)
    (hmissing : read.ofJson (write missing) = .ok missing) (writers : Writers rest) :
    Writers (Fields.defaulted name read missing rest) :=
  .cons
    { write := fun x => some (write x)
      written := by
        intro x written hyields hwritten
        cases hwritten
        obtain hdefault | hyields := hyields
        · cases hdefault
          exact h missing (Decoder.yields_of_ofJson hmissing)
        · exact h x hyields
      leftOut := fun x _ hnone => nomatch hnone }
    writers

/-- A field that may be missing or null and is left out when there is nothing to write. -/
def leftOut (h : read.ReadsBack write) (hnull : ∀ x, write x ≠ .null) (writers : Writers rest) :
    Writers (Fields.optional name read rest) :=
  .cons
    { write := fun x => x.map write
      written := by
        intro x written hyields hwritten
        obtain ⟨y, rfl, rfl⟩ := Option.map_eq_some_iff.mp hwritten
        obtain hmissing | hyields := hyields
        · cases hmissing
        · exact h.nullable hnull (some y) hyields
      leftOut := by
        intro x _ hnone
        rw [Option.map_eq_none_iff.mp hnone] }
    writers

/-- A field that may be missing or null and is written as null when there is nothing to write. -/
def asNull (h : read.ReadsBack write) (hnull : ∀ x, write x ≠ .null) (writers : Writers rest) :
    Writers (Fields.optional name read rest) :=
  .defaulted (h.nullable hnull) rfl writers

end Writers

end Fields

end Workflow
