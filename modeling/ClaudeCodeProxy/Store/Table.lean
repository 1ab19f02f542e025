import Mathlib.Data.List.Nodup
import Mathlib.Data.List.Basic

namespace Store

variable {κ ρ : Type} [DecidableEq κ] {key : ρ → κ}

-- Replace the row that carries the new row's key, or append the new row.
def upsert (key : ρ → κ) (row : ρ) : List ρ → List ρ
  | [] => [row]
  | head :: rest => if key head = key row then row :: rest else head :: upsert key row rest

theorem keys_upsert (row : ρ) (rows : List ρ) :
    (upsert key row rows).map key =
      if key row ∈ rows.map key then rows.map key else rows.map key ++ [key row] := by
  induction rows with
  | nil => simp [upsert]
  | cons head rest ih =>
      by_cases h : key head = key row
      · simp [upsert, h]
      · have hne : key row ≠ key head := Ne.symm h
        rw [upsert, if_neg h, List.map_cons, ih, List.map_cons]
        by_cases hm : key row ∈ rest.map key
        · rw [if_pos hm, if_pos (List.mem_cons_of_mem _ hm)]
        · rw [if_neg hm, if_neg (by simpa [hne] using hm), List.cons_append]

theorem mem_upsert (row : ρ) (rows : List ρ) (hn : (rows.map key).Nodup) (other : ρ) :
    other ∈ upsert key row rows ↔ other = row ∨ (other ∈ rows ∧ key other ≠ key row) := by
  induction rows with
  | nil => simp [upsert]
  | cons head rest ih =>
      rw [List.map_cons, List.nodup_cons] at hn
      by_cases h : key head = key row
      · -- the rows behind the replaced one carry other keys
        have hrest : ∀ x ∈ rest, key x ≠ key row := fun x hx hk =>
          hn.1 (List.mem_map.mpr ⟨x, hx, hk.trans h.symm⟩)
        rw [upsert, if_pos h, List.mem_cons, List.mem_cons]
        constructor
        · rintro (rfl | hm)
          · exact Or.inl rfl
          · exact Or.inr ⟨Or.inr hm, hrest other hm⟩
        · rintro (rfl | ⟨rfl | hm, hk⟩)
          · exact Or.inl rfl
          · exact absurd h hk
          · exact Or.inr hm
      · rw [upsert, if_neg h, List.mem_cons, ih hn.2, List.mem_cons]
        constructor
        · rintro (rfl | rfl | ⟨hm, hk⟩)
          · exact Or.inr ⟨Or.inl rfl, h⟩
          · exact Or.inl rfl
          · exact Or.inr ⟨Or.inr hm, hk⟩
        · rintro (rfl | ⟨rfl | hm, hk⟩)
          · exact Or.inr (Or.inl rfl)
          · exact Or.inl rfl
          · exact Or.inr (Or.inr ⟨hm, hk⟩)

-- Where keys are not repeated, a search by key finds the one row there is.
theorem find?_key_eq_some_iff (rows : List ρ) (hn : (rows.map key).Nodup) (k : κ) (row : ρ) :
    rows.find? (fun row => key row = k) = some row ↔ row ∈ rows ∧ key row = k := by
  constructor
  · intro h
    exact ⟨List.mem_of_find?_eq_some h, by simpa using List.find?_some h⟩
  · rintro ⟨hm, rfl⟩
    obtain ⟨found, hf⟩ : ∃ found, rows.find? (fun other => key other = key row) = some found :=
      Option.isSome_iff_exists.mp (List.find?_isSome.mpr ⟨row, hm, by simp⟩)
    have hk : key found = key row := by simpa using List.find?_some hf
    rw [hf, List.inj_on_of_nodup_map hn (List.mem_of_find?_eq_some hf) hm hk]

-- Rows in the order in which their keys were first written, one row for each key.
structure Table (key : ρ → κ) where
  rows : List ρ
  nodup : (rows.map key).Nodup

namespace Table

def empty : Table key := ⟨[], List.nodup_nil⟩

def get (table : Table key) (k : κ) : Option ρ :=
  table.rows.find? fun row => key row = k

def save (table : Table key) (row : ρ) : Table key where
  rows := upsert key row table.rows
  nodup := by
    rw [keys_upsert]
    split
    · exact table.nodup
    · rename_i h
      exact table.nodup.append (List.nodup_singleton _) (by simpa using h)

def erase (table : Table key) (k : κ) : Table key where
  rows := table.rows.filter fun row => key row ≠ k
  nodup := (List.filter_sublist.map key).nodup table.nodup

-- Any set of rows may be dropped.
def select (table : Table key) (p : ρ → Bool) : Table key where
  rows := table.rows.filter p
  nodup := (List.filter_sublist.map key).nodup table.nodup

-- The rows in another form, under the same keys.
def map {ρ' : Type} {key' : ρ' → κ} (table : Table key) (f : ρ → ρ')
    (hkey : ∀ row, key' (f row) = key row) : Table key' where
  rows := table.rows.map f
  nodup := by
    have hkeys : key' ∘ f = key := funext hkey
    rw [List.map_map, hkeys]
    exact table.nodup

omit [DecidableEq κ] in
@[simp] theorem empty_rows : (empty : Table key).rows = [] := rfl

theorem get_eq_some_iff (table : Table key) (k : κ) (row : ρ) :
    table.get k = some row ↔ row ∈ table.rows ∧ key row = k :=
  find?_key_eq_some_iff table.rows table.nodup k row

theorem get_eq_none_iff (table : Table key) (k : κ) :
    table.get k = none ↔ ∀ row ∈ table.rows, key row ≠ k := by
  simp [get]

theorem get_of_mem (table : Table key) (row : ρ) (h : row ∈ table.rows) :
    table.get (key row) = some row :=
  (table.get_eq_some_iff _ _).mpr ⟨h, rfl⟩

theorem mem_of_get (table : Table key) (k : κ) (row : ρ) (h : table.get k = some row) :
    row ∈ table.rows :=
  ((table.get_eq_some_iff _ _).mp h).1

theorem key_of_get (table : Table key) (k : κ) (row : ρ) (h : table.get k = some row) :
    key row = k :=
  ((table.get_eq_some_iff _ _).mp h).2

@[simp] theorem mem_save (table : Table key) (row other : ρ) :
    other ∈ (table.save row).rows ↔ other = row ∨ (other ∈ table.rows ∧ key other ≠ key row) :=
  mem_upsert row table.rows table.nodup other

@[simp] theorem mem_erase (table : Table key) (k : κ) (row : ρ) :
    row ∈ (table.erase k).rows ↔ row ∈ table.rows ∧ key row ≠ k := by
  simp [erase]

@[simp] theorem get_save_self (table : Table key) (row : ρ) :
    (table.save row).get (key row) = some row :=
  get_of_mem _ row (by simp)

@[simp] theorem get_save_of_ne (table : Table key) (row : ρ) (k : κ) (h : k ≠ key row) :
    (table.save row).get k = table.get k := by
  apply Option.ext
  intro other
  simp only [get_eq_some_iff, mem_save]
  constructor
  · rintro ⟨rfl | ⟨hm, _⟩, rfl⟩
    · exact absurd rfl h
    · exact ⟨hm, rfl⟩
  · rintro ⟨hm, rfl⟩
    exact ⟨Or.inr ⟨hm, h⟩, rfl⟩

theorem get_save (table : Table key) (row : ρ) (k : κ) :
    (table.save row).get k = if k = key row then some row else table.get k := by
  by_cases h : k = key row
  · subst h; simp
  · rw [get_save_of_ne _ _ _ h, if_neg h]

@[simp] theorem get_erase_self (table : Table key) (k : κ) : (table.erase k).get k = none := by
  rw [get_eq_none_iff]
  intro row hm
  exact ((mem_erase _ _ _).mp hm).2

@[simp] theorem get_erase_of_ne (table : Table key) (k other : κ) (h : other ≠ k) :
    (table.erase k).get other = table.get other := by
  apply Option.ext
  intro row
  simp only [get_eq_some_iff, mem_erase]
  constructor
  · rintro ⟨⟨hm, _⟩, hk⟩
    exact ⟨hm, hk⟩
  · rintro ⟨hm, rfl⟩
    exact ⟨⟨hm, h⟩, rfl⟩

theorem get_select (table : Table key) (p : ρ → Bool) (k : κ) :
    (table.select p).get k = (table.get k).filter p := by
  apply Option.ext
  intro row
  rw [get_eq_some_iff, Option.filter_eq_some_iff, get_eq_some_iff, select, List.mem_filter]
  exact and_right_comm

theorem get_map {ρ' : Type} {key' : ρ' → κ} (table : Table key) (f : ρ → ρ')
    (hkey : ∀ row, key' (f row) = key row) (k : κ) :
    (table.map f hkey).get k = (table.get k).map f := by
  unfold get map
  rw [List.find?_map]
  have hsame : (fun row => decide (key' row = k)) ∘ f = fun row => decide (key row = k) := by
    funext row
    simp only [Function.comp, hkey]
  rw [hsame]

-- Where a row that is read after a write or an erasure comes from.
theorem of_get_save (table : Table key) (row : ρ) (k : κ) (found : ρ)
    (h : (table.save row).get k = some found) :
    (k = key row ∧ found = row) ∨ (k ≠ key row ∧ table.get k = some found) := by
  rw [get_save] at h
  by_cases hk : k = key row
  · rw [if_pos hk] at h
    cases h
    exact Or.inl ⟨hk, rfl⟩
  · rw [if_neg hk] at h
    exact Or.inr ⟨hk, h⟩

theorem of_get_erase (table : Table key) (k other : κ) (found : ρ)
    (h : (table.erase k).get other = some found) :
    other ≠ k ∧ table.get other = some found := by
  by_cases hk : other = k
  · subst hk
    rw [get_erase_self] at h
    cases h
  · rw [get_erase_of_ne _ _ _ hk] at h
    exact ⟨hk, h⟩

@[simp] theorem get_empty (k : κ) : (empty : Table key).get k = none := rfl

-- A write that no row selected by `p` takes part in leaves the selection as it is,
-- its order included.
theorem filter_save_of_not (table : Table key) (row : ρ) (p : ρ → Bool) (hrow : p row = false)
    (hold : ∀ old, table.get (key row) = some old → p old = false) :
    (table.save row).rows.filter p = table.rows.filter p := by
  have hold' : ∀ old ∈ table.rows, key old = key row → p old = false := fun old hm hk =>
    hold old ((table.get_eq_some_iff _ _).mpr ⟨hm, hk⟩)
  change (upsert key row table.rows).filter p = _
  generalize table.rows = rows at hold'
  induction rows with
  | nil => simp [upsert, hrow]
  | cons head rest ih =>
      by_cases h : key head = key row
      · simp [upsert, h, hrow, hold' head (by simp) h]
      · rw [upsert, if_neg h, List.filter_cons, List.filter_cons,
          ih fun old hm => hold' old (List.mem_cons_of_mem _ hm)]

-- A selected row written into an empty selection is the whole selection.
theorem filter_save_of_empty (table : Table key) (row : ρ) (p : ρ → Bool) (hrow : p row = true)
    (hempty : table.rows.filter p = []) :
    (table.save row).rows.filter p = [row] := by
  change (upsert key row table.rows).filter p = _
  generalize table.rows = rows at hempty
  induction rows with
  | nil => simp [upsert, hrow]
  | cons head rest ih =>
      have hhead : p head = false := by
        by_contra h
        simp [h] at hempty
      have hrest : rest.filter p = [] := by simpa [hhead] using hempty
      by_cases h : key head = key row
      · rw [upsert, if_pos h, List.filter_cons_of_pos hrow, hrest]
      · rw [upsert, if_neg h, List.filter_cons_of_neg (by simp [hhead]), ih hrest]

end Table

end Store
