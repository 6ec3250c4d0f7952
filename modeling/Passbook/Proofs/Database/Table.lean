import Mathlib

/-!
# Tables

A table lists rows in the order in which they came; no two of them have the same key. A row is put in
the place of the row with its key, or behind the others if there is none.
-/
namespace Passbook

structure Table {κ α : Type} (key : α → κ) where
  rows : List α
  distinct : (rows.map key).Nodup

namespace Table

variable {κ α : Type} [DecidableEq κ] {key : α → κ}

/-- The rows with `row` in the place of the one with its key, or behind the others. -/
def replace (key : α → κ) (row : α) : List α → List α
  | [] => [row]
  | first :: rest => if key first = key row then row :: rest else first :: replace key row rest

theorem mem_replace_keys {row : α} {rows : List α} {k : κ} :
    k ∈ (replace key row rows).map key ↔ k = key row ∨ k ∈ rows.map key := by
  induction rows with
  | nil => simp [replace]
  | cons first rest ih =>
      unfold replace
      split
      · next h => simp [h]
      · rw [List.map_cons, List.mem_cons, ih, List.map_cons, List.mem_cons, or_left_comm]

theorem nodup_replace (row : α) {rows : List α} (h : (rows.map key).Nodup) :
    ((replace key row rows).map key).Nodup := by
  induction rows with
  | nil => simp [replace]
  | cons first rest ih =>
      rw [List.map_cons, List.nodup_cons] at h
      unfold replace
      split
      · next heq => rwa [List.map_cons, List.nodup_cons, ← heq]
      · next hne =>
          rw [List.map_cons, List.nodup_cons, mem_replace_keys]
          exact ⟨fun hmem => hmem.elim hne h.1, ih h.2⟩

def empty : Table key := ⟨[], List.nodup_nil⟩

def find (k : κ) (table : Table key) : Option α := table.rows.find? fun row => key row = k

def put (row : α) (table : Table key) : Table key :=
  ⟨replace key row table.rows, nodup_replace row table.distinct⟩

def remove (k : κ) (table : Table key) : Table key where
  rows := table.rows.filter fun row => key row ≠ k
  distinct := table.distinct.sublist (List.Sublist.map key List.filter_sublist)

theorem find_eq_some {k : κ} {table : Table key} {row : α} :
    table.find k = some row ↔ row ∈ table.rows ∧ key row = k := by
  obtain ⟨rows, hdistinct⟩ := table
  unfold find
  induction rows with
  | nil => simp
  | cons first rest ih =>
      rw [List.map_cons, List.nodup_cons] at hdistinct
      rw [List.find?_cons]
      by_cases h : key first = k
      · simp only [h, decide_true, Option.some.injEq, List.mem_cons]
        constructor
        · rintro rfl
          exact ⟨.inl rfl, h⟩
        · rintro ⟨rfl | hmem, hkey⟩
          · rfl
          · exact absurd (List.mem_map.mpr ⟨row, hmem, hkey.trans h.symm⟩) hdistinct.1
      · simp only [h, decide_false, ih hdistinct.2, List.mem_cons]
        constructor
        · exact fun ⟨hmem, hkey⟩ => ⟨.inr hmem, hkey⟩
        · rintro ⟨rfl | hmem, hkey⟩
          · exact absurd hkey h
          · exact ⟨hmem, hkey⟩

theorem find_eq_none {k : κ} {table : Table key} : table.find k = none ↔ k ∉ table.rows.map key := by
  simp [find, List.find?_eq_none]

theorem rows_put (row : α) (table : Table key) : (table.put row).rows = replace key row table.rows := rfl

theorem find_of_mem {table : Table key} {row : α} (h : row ∈ table.rows) :
    table.find (key row) = some row := find_eq_some.mpr ⟨h, rfl⟩

@[simp] theorem find_put (k : κ) (row : α) (table : Table key) :
    (table.put row).find k = if k = key row then some row else table.find k := by
  unfold find
  rw [rows_put]
  induction table.rows with
  | nil =>
      rw [replace, List.find?_cons]
      by_cases hk : k = key row
      · simp [hk]
      · simp [hk, Ne.symm hk]
  | cons first rest ih =>
      unfold replace
      split
      · next h =>
          by_cases hk : k = key row
          · simp [hk]
          · simp [hk, h, Ne.symm hk]
      · next h =>
          rw [List.find?_cons, ih, List.find?_cons]
          by_cases hk : key first = k
          · have hne : k ≠ key row := fun heq => h (hk.trans heq)
            simp [hk, hne]
          · simp [hk]

@[simp] theorem find_remove (k k' : κ) (table : Table key) :
    (table.remove k').find k = if k = k' then none else table.find k := by
  unfold find remove
  rw [List.find?_filter]
  split
  · next h =>
      rw [List.find?_eq_none]
      intro row _
      simp [h]
  · next h =>
      congr 1
      funext row
      by_cases hrow : key row = k
      · simp [hrow, h]
      · simp [hrow]

/-- The rows with a key are the one that is found by it, or none. -/
theorem filter_key (k : κ) (table : Table key) :
    (table.rows.filter fun row => key row = k) = (table.find k).toList := by
  obtain ⟨rows, hdistinct⟩ := table
  unfold find
  dsimp only
  induction rows with
  | nil => rfl
  | cons first rest ih =>
      rw [List.map_cons, List.nodup_cons] at hdistinct
      by_cases h : key first = k
      · have hrest : (rest.filter fun row => key row = k) = [] := by
          refine List.filter_eq_nil_iff.mpr fun row hrow hkey => hdistinct.1 ?_
          rw [h, ← of_decide_eq_true hkey]
          exact List.mem_map_of_mem hrow
        rw [List.filter_cons, List.find?_cons, hrest]
        simp only [h, decide_true, if_true, Option.toList_some]
      · rw [List.filter_cons, List.find?_cons]
        simpa only [h, decide_false, Bool.false_eq_true, if_false] using ih hdistinct.2

/-- A row with a new key comes behind the others. -/
theorem rows_put_of_new {row : α} {table : Table key} (h : table.find (key row) = none) :
    (table.put row).rows = table.rows ++ [row] := by
  rw [find_eq_none] at h
  rw [rows_put]
  generalize table.rows = rows at h ⊢
  induction rows with
  | nil => rfl
  | cons first rest ih =>
      rw [List.map_cons, List.mem_cons, not_or] at h
      simp only [replace, if_neg (Ne.symm h.1), List.cons_append, ih h.2]

/-- A row with an old key takes the place of the old row. -/
theorem rows_put_of_old {row old : α} {table : Table key} (h : table.find (key row) = some old) :
    (table.put row).rows = table.rows.map fun other => if key other = key row then row else other := by
  obtain ⟨rows, hdistinct⟩ := table
  unfold find at h
  change replace key row rows = _
  dsimp only at h ⊢
  induction rows with
  | nil => cases h
  | cons first rest ih =>
      rw [List.find?_cons] at h
      rw [List.map_cons, List.nodup_cons] at hdistinct
      unfold replace
      rw [List.map_cons]
      split
      · next heq =>
          -- The key of the first row does not come again.
          have hrest : ∀ other ∈ rest, (if key other = key row then row else other) = other := by
            intro other hother
            refine if_neg fun hsame => hdistinct.1 ?_
            rw [heq, ← hsame]
            exact List.mem_map_of_mem hother
          rw [List.map_congr_left hrest, List.map_id']
      · next hne =>
          simp only [hne, decide_false] at h
          rw [ih hdistinct.2 h]

/-- Of two rows with one key the second stays. -/
theorem put_put {row row' : α} (h : key row = key row') (table : Table key) :
    (table.put row).put row' = table.put row' := by
  have hrows : ∀ rows : List α, replace key row' (replace key row rows) = replace key row' rows := by
    intro rows
    induction rows with
    | nil => simp only [replace, if_pos h]
    | cons first rest ih =>
        by_cases hfirst : key first = key row
        · simp only [replace, hfirst, h, if_true]
        · simp only [replace, ← h, hfirst, if_false, ih]
  simp only [put, hrows]

/-- A row that is changed and put back is changed where it was. -/
theorem rows_put_of_find (change : α → α) {k : κ} {old : α} {table : Table key}
    (h : table.find k = some old) (hkey : key (change old) = k) :
    (table.put (change old)).rows =
      table.rows.map fun other => if key other = k then change other else other := by
  rw [rows_put_of_old (hkey.symm ▸ h)]
  refine List.map_congr_left fun other hother => ?_
  rw [hkey]
  split
  · next hsame =>
      have hold := (find_of_mem hother).symm.trans (hsame ▸ h)
      rw [Option.some.inj hold]
  · rfl

/-- A change of some rows and then of others, which changes no row any further the second time. -/
theorem map_change_change {change : α → α} {first second : α → Prop} [DecidablePred first]
    [DecidablePred second] (hchange : ∀ row, change (change row) = change row)
    (rows : List α) :
    (rows.map fun row => if first row then change row else row).map
        (fun row => if second row then change row else row) =
      rows.map fun row => if first row ∨ second row then change row else row := by
  rw [List.map_map]
  refine List.map_congr_left fun row _ => ?_
  rw [Function.comp_apply]
  by_cases hrow : first row
  · simp only [hrow, if_true, true_or, hchange, ite_self]
  · simp only [hrow, if_false, false_or]

/-- A total over all rows changes by what the row in question changes. -/
theorem sum_put_of_old {row old : α} {table : Table key} (h : table.find (key row) = some old)
    (weight : α → Int) :
    ((table.put row).rows.map weight).sum = (table.rows.map weight).sum + (weight row - weight old) := by
  rw [rows_put]
  unfold find at h
  generalize table.rows = rows at h ⊢
  induction rows with
  | nil => cases h
  | cons first rest ih =>
      rw [List.find?_cons] at h
      unfold replace
      split
      · next heq =>
          simp only [heq, decide_true, Option.some.injEq] at h
          subst h
          simp only [List.map_cons, List.sum_cons]
          omega
      · next hne =>
          simp only [hne, decide_false] at h
          simp only [List.map_cons, List.sum_cons, ih h]
          omega

end Table

end Passbook
