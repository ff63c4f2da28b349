import Mathlib.Data.List.Induction
import Mathlib.Data.List.Nodup
import Workflow.Store.Table

/-!
# What is found in a table

A row that is written is found under its key from then on, and every other key finds what it found
before (`Table.get?_put`); all that is said about the runs of a store comes down to this.

Every row is filed under the key that it has (`Table.filed`), so a table is told from its rows: what
is found under a key is the one row that has it (`Table.get?_eq_some_iff`).  Rows that are taken out
of a table can therefore go without their keys.  Whoever puts them back derives the keys anew, and
of several rows with one key only the last would stay; no row gets lost that way because no two rows
of a table have the same key (`Table.rows_ofRows_perm`).
-/

namespace Workflow

theorem lookup_entry {κ ρ : Type} [DecidableEq κ] (k : κ) (row : ρ) (other : κ)
    (entries : List (κ × ρ)) : ((k, row) :: entries).lookup other =
      if k = other then some row else entries.lookup other := by
  rw [List.lookup_cons]
  by_cases hsame : k = other
  · simp [hsame]
  · simp [hsame, beq_eq_false_iff_ne.mpr (Ne.symm hsame)]

theorem lookup_fileRow {κ ρ : Type} [DecidableEq κ] (k : κ) (row : ρ) (other : κ)
    (entries : List (κ × ρ)) : (fileRow k row entries).lookup other =
      if k = other then some row else entries.lookup other := by
  induction entries with
  | nil => exact lookup_entry k row other []
  | cons first rest ih =>
      obtain ⟨k', row'⟩ := first
      by_cases hfirst : k' = k
      · -- the new row takes the place of the first, so only their key can tell
        subst hfirst
        rw [fileRow, if_pos rfl, lookup_entry, lookup_entry]
        by_cases hsame : k' = other
        · rw [if_pos hsame, if_pos hsame]
        · rw [if_neg hsame, if_neg hsame, if_neg hsame]
      · rw [fileRow, if_neg hfirst, lookup_entry, lookup_entry, ih]
        by_cases hfound : k' = other
        · subst hfound
          rw [if_pos rfl, if_pos rfl, if_neg (Ne.symm hfirst)]
        · rw [if_neg hfound, if_neg hfound]

namespace Table

variable {κ ρ : Type} {key : ρ → κ}

/-! ## Rows and their keys -/

theorem mem_entries_iff {table : Table key} {k : κ} {row : ρ} :
    (k, row) ∈ table.entries ↔ row ∈ table.rows ∧ key row = k := by
  constructor
  · intro hmem
    exact ⟨List.mem_map_of_mem hmem, table.filed _ hmem⟩
  · rintro ⟨hmem, rfl⟩
    obtain ⟨entry, hentry, rfl⟩ := List.mem_map.mp hmem
    rw [table.filed entry hentry]
    exact hentry

/-- The keys that rows have are those that they are filed under. -/
theorem map_key_rows (table : Table key) : table.rows.map key = table.entries.map Prod.fst := by
  rw [rows, List.map_map]
  exact List.map_congr_left table.filed

/-- No two rows have the same key. -/
theorem nodup_keys (table : Table key) : (table.rows.map key).Nodup :=
  table.map_key_rows ▸ table.distinct

variable [DecidableEq κ]

/-- What is found under a key is the row that has it. -/
theorem get?_eq_some_iff {table : Table key} {k : κ} {row : ρ} :
    table.get? k = some row ↔ row ∈ table.rows ∧ key row = k := by
  rw [← mem_entries_iff, get?, List.lookup_eq_some_iff]
  constructor
  · rintro ⟨before, after, hentries, -⟩
    exact hentries ▸ List.mem_append_right before List.mem_cons_self
  · intro hmem
    obtain ⟨before, after, hentries⟩ := List.append_of_mem hmem
    refine ⟨before, after, hentries, fun entry hentry => ?_⟩
    have hdistinct := table.distinct
    rw [hentries, List.map_append, List.nodup_append] at hdistinct
    rw [bne_iff_ne]
    exact (hdistinct.2.2 _ (List.mem_map_of_mem hentry) _ List.mem_cons_self).symm

/-- Tables with the same rows find the same. -/
theorem get?_eq_of_perm {table table' : Table key} (h : table.rows.Perm table'.rows) (k : κ) :
    table.get? k = table'.get? k := by
  apply Option.ext
  intro row
  rw [get?_eq_some_iff, get?_eq_some_iff, h.mem_iff]

/-! ## Writing -/

/-- A row is found under its key, and other keys find what they found before. -/
theorem get?_put (table : Table key) (k : κ) (row : ρ) (hkey : key row = k) (other : κ) :
    (table.put k row hkey).get? other = if k = other then some row else table.get? other :=
  lookup_fileRow k row other table.entries

/-- A row with a new key comes last. -/
theorem rows_put_of_new (table : Table key) {k : κ} {row : ρ} (hkey : key row = k)
    (h : k ∉ table.rows.map key) : (table.put k row hkey).rows = table.rows ++ [row] := by
  rw [map_key_rows] at h
  show (fileRow k row table.entries).map Prod.snd = table.entries.map Prod.snd ++ [row]
  generalize table.entries = entries at h
  induction entries with
  | nil => rfl
  | cons first rest ih =>
      rw [List.map_cons, List.mem_cons, not_or] at h
      rw [fileRow, if_neg (Ne.symm h.1), List.map_cons, ih h.2]
      rfl

/-! ## Rows put in one after another -/

theorem ofRows_concat (rows : List ρ) (row : ρ) :
    (ofRows (rows ++ [row]) : Table key) = (ofRows rows).put (key row) row rfl := by
  simp [ofRows]

/-- Of rows put into a table one after another the last with a key is found. -/
theorem get?_ofRows (rows : List ρ) (k : κ) :
    (ofRows rows : Table key).get? k = rows.reverse.find? fun row => key row = k := by
  induction rows using List.reverseRecOn with
  | nil => rfl
  | append_singleton rows row ih =>
      rw [ofRows_concat, get?_put, ih, List.reverse_concat, List.find?_cons]
      by_cases hrow : key row = k
      · simp [hrow]
      · simp [hrow]

/-- Rows with distinct keys all stay. -/
theorem rows_ofRows {rows : List ρ} (h : (rows.map key).Nodup) :
    (ofRows rows : Table key).rows = rows := by
  induction rows using List.reverseRecOn with
  | nil => rfl
  | append_singleton rows row ih =>
      rw [List.map_append, List.map_singleton, List.nodup_append] at h
      obtain ⟨hrows, -, hnew⟩ := h
      have hsame := ih hrows
      rw [ofRows_concat, rows_put_of_new, hsame]
      intro hmem
      rw [hsame] at hmem
      exact hnew _ hmem _ (List.mem_singleton.mpr rfl) rfl

/-- The rows of a table, in any order, make a table with the same rows. -/
theorem rows_ofRows_perm (table : Table key) {rows : List ρ} (h : rows.Perm table.rows) :
    (ofRows rows : Table key).rows.Perm table.rows := by
  have hdistinct : (rows.map key).Nodup := (h.map key).nodup_iff.mpr table.nodup_keys
  rw [rows_ofRows hdistinct]
  exact h

end Table

end Workflow
