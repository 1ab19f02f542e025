import ClaudeCodeProxy.Python.Value

-- The error a computation ends with, told from the input that it goes through.

namespace Validation

-- The error of a computation, if it ends with one.
def defect : Except ε α → Option ε
  | .ok _ => none
  | .error error => some error

-- What is wrong with a part that is to meet a condition.
def demand (met : Bool) (error : ε) : Option ε := if met then none else some error

@[simp] theorem defect_ok (value : α) : defect (.ok value : Except ε α) = none := rfl

@[simp] theorem defect_error (error : ε) : defect (.error error : Except ε α) = some error := rfl

@[simp] theorem defect_pure (value : α) : defect (pure value : Except ε α) = none := rfl

@[simp] theorem defect_throw (error : ε) : defect (throw error : Except ε α) = some error := rfl

@[simp] theorem demand_true (error : ε) : demand true error = none := rfl

@[simp] theorem demand_false (error : ε) : demand false error = some error := rfl

theorem defect_eq_some_iff {result : Except ε α} {error : ε} :
    defect result = some error ↔ result = .error error := by
  cases result <;> simp

-- Two results of which one is an error are the same if both have that error.
theorem eq_iff_of_defect {result other : Except ε α} {error : ε}
    (h : defect result = some error) : result = other ↔ defect other = some error := by
  rw [defect_eq_some_iff.mp h, defect_eq_some_iff, eq_comm]

theorem defect_mapError {f : ε → δ} (result : Except ε α) :
    defect (result.mapError f) = (defect result).map f := by
  cases result <;> rfl

-- The second step is reached if the first has no defect.
theorem defect_bind {result : Except ε α} {rest : α → Except ε β} {next : Option ε}
    (h : ∀ value, result = .ok value → defect (rest value) = next) :
    defect (result >>= rest) = (defect result).or next := by
  cases result with
  | ok value => exact h value rfl
  | error error => rfl

theorem defect_bind_ok {result : Except ε α} {rest : α → Except ε β}
    (h : ∀ value, defect (rest value) = none) : defect (result >>= rest) = defect result := by
  rw [defect_bind fun value _ => h value, Option.or_none]

theorem defect_bind_of_none {result : Except ε α} {rest : α → Except ε β} {next : Option ε}
    (hresult : defect result = none) (h : ∀ value, defect (rest value) = next) :
    defect (result >>= rest) = next := by
  rw [defect_bind fun value _ => h value, hresult, Option.none_or]

theorem defect_mapM {f : α → Except ε β} {found : α → Option ε}
    (h : ∀ value, defect (f value) = found value) (values : List α) :
    defect (values.mapM f) = values.findSome? found := by
  induction values with
  | nil => rfl
  | cons value values ih =>
      rw [List.mapM_cons, defect_bind fun _ _ => defect_bind_ok fun _ => rfl, h, ih,
        List.findSome?_cons]
      cases found value <;> rfl

end Validation
