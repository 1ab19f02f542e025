import Mathlib.Data.List.Perm.Basic
import ClaudeCodeProxy.Store.Table

namespace Store

variable {κ υ ρ : Type} {key : ρ → κ} {unique : ρ → υ}

-- Rows with a primary key and one more column without duplicates. Their order says
-- nothing.
structure Relation (key : ρ → κ) (unique : ρ → υ) where
  rows : List ρ
  keys : (rows.map key).Nodup
  uniques : (rows.map unique).Nodup

namespace Relation

-- Neither constraint stands against the row.
def Admits (relation : Relation key unique) (row : ρ) : Prop :=
  key row ∉ relation.rows.map key ∧ unique row ∉ relation.rows.map unique

section Insertion

variable [DecidableEq κ] [DecidableEq υ] (relation : Relation key unique) (row : ρ)

instance : Decidable (relation.Admits row) := inferInstanceAs (Decidable (_ ∧ _))

def insert : Option (Relation key unique) :=
  if h : relation.Admits row then
    some {
      rows := relation.rows ++ [row]
      keys := by
        rw [List.map_append]
        exact relation.keys.append (List.nodup_singleton _) (by simpa using h.1)
      uniques := by
        rw [List.map_append]
        exact relation.uniques.append (List.nodup_singleton _) (by simpa using h.2) }
  else
    none

theorem insert_eq_none_iff : relation.insert row = none ↔ ¬relation.Admits row := by
  unfold insert
  by_cases h : relation.Admits row
  · simp [h]
  · simp [h]

theorem insert_of_admits (h : relation.Admits row) :
    ∃ after, relation.insert row = some after ∧ after.rows = relation.rows ++ [row] := by
  refine ⟨_, dif_pos h, rfl⟩

end Insertion

end Relation

-- A new row goes to the end of a table.
theorem upsert_of_new [DecidableEq κ] (row : ρ) (rows : List ρ) (h : key row ∉ rows.map key) :
    upsert key row rows = rows ++ [row] := by
  induction rows with
  | nil => rfl
  | cons head rest ih =>
      rw [List.map_cons, List.mem_cons, not_or] at h
      rw [upsert, if_neg (Ne.symm h.1), ih h.2, List.cons_append]

end Store
