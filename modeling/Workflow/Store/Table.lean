/-!
# Tables

A table holds rows of one type under keys. No key is used twice, and each row is filed under the
key that it has. Whoever writes a row says which key it goes under and has to show that this is its
own; what is under the key already is replaced, in its place, or else the row comes last.
-/

namespace Workflow

/-- Writes a row under a key, among rows under theirs. -/
def fileRow [DecidableEq κ] (k : κ) (row : ρ) : List (κ × ρ) → List (κ × ρ)
  | [] => [(k, row)]
  | entry :: rest => if entry.1 = k then (k, row) :: rest else entry :: fileRow k row rest

theorem mem_fileRow [DecidableEq κ] {k : κ} {row : ρ} {entry : κ × ρ} {entries : List (κ × ρ)}
    (h : entry ∈ fileRow k row entries) : entry = (k, row) ∨ entry ∈ entries := by
  induction entries with
  | nil => exact Or.inl (List.mem_singleton.mp h)
  | cons first rest ih =>
      rw [fileRow] at h
      split at h
      · rcases List.mem_cons.mp h with hnew | hold
        · exact Or.inl hnew
        · exact Or.inr (List.mem_cons_of_mem _ hold)
      · rcases List.mem_cons.mp h with rfl | hlater
        · exact Or.inr List.mem_cons_self
        · exact (ih hlater).imp_right (List.mem_cons_of_mem _)

theorem nodup_fileRow [DecidableEq κ] (k : κ) (row : ρ) {entries : List (κ × ρ)}
    (h : (entries.map Prod.fst).Nodup) : ((fileRow k row entries).map Prod.fst).Nodup := by
  induction entries with
  | nil => simp [fileRow]
  | cons first rest ih =>
      rw [List.map_cons, List.nodup_cons] at h
      rw [fileRow]
      split
      · next hsame => exact List.nodup_cons.mpr ⟨hsame ▸ h.1, h.2⟩
      · next hother =>
          refine List.nodup_cons.mpr ⟨fun hmem => ?_, ih h.2⟩
          obtain ⟨entry, hentry, hkey⟩ := List.mem_map.mp hmem
          rcases mem_fileRow hentry with rfl | hold
          · exact hother hkey.symm
          · exact h.1 (hkey ▸ List.mem_map_of_mem hold)

/-- Rows under distinct keys, each under the key that it has. -/
structure Table (key : ρ → κ) where
  entries : List (κ × ρ)
  distinct : (entries.map Prod.fst).Nodup
  filed : ∀ entry ∈ entries, key entry.2 = entry.1

namespace Table

variable {κ ρ : Type} {key : ρ → κ}

/-- The table without rows. -/
def empty : Table key := ⟨[], List.nodup_nil, fun _ hmem => absurd hmem List.not_mem_nil⟩

/-- The rows, without their keys. -/
def rows (table : Table key) : List ρ := table.entries.map Prod.snd

/-- Writes a row under its key. -/
def put [DecidableEq κ] (table : Table key) (k : κ) (row : ρ) (hkey : key row = k) : Table key where
  entries := fileRow k row table.entries
  distinct := nodup_fileRow k row table.distinct
  filed := fun entry hmem => by
    rcases mem_fileRow hmem with rfl | hold
    · exact hkey
    · exact table.filed entry hold

/-- Writes rows one after another, each under the key that is found in it. -/
def ofRows [DecidableEq κ] (rows : List ρ) : Table key :=
  rows.foldl (fun table row => table.put (key row) row rfl) empty

/-- The row under a key. -/
def get? [DecidableEq κ] (table : Table key) (k : κ) : Option ρ := table.entries.lookup k

end Table

end Workflow
