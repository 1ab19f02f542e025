import ClaudeCodeProxy.Python.Value

-- Functions that check their input while they read it: what comes of it is settled by the
-- first part that is not as it should be, and by whether that part is checked.

namespace Validation

open Python

inductive Finding
  | fine
  | refused
  | unchecked
  deriving DecidableEq

namespace Finding

-- The first finding that is not fine.
def andThen : Finding → Finding → Finding
  | fine, next => next
  | found, _ => found

-- A part that is looked at before it is used, and one that is not.
def check : Bool → Finding
  | true => fine
  | false => refused

def rely : Bool → Finding
  | true => fine
  | false => unchecked

def all : List Finding → Finding
  | [] => fine
  | finding :: findings => finding.andThen (all findings)

@[simp] theorem fine_andThen (next : Finding) : fine.andThen next = next := rfl

@[simp] theorem refused_andThen (next : Finding) : refused.andThen next = refused := rfl

@[simp] theorem unchecked_andThen (next : Finding) : unchecked.andThen next = unchecked := rfl

@[simp] theorem andThen_fine (finding : Finding) : finding.andThen fine = finding := by
  cases finding <;> rfl

theorem andThen_assoc (first second third : Finding) :
    (first.andThen second).andThen third = first.andThen (second.andThen third) := by
  cases first <;> rfl

theorem andThen_ne_unchecked_iff {finding next : Finding} :
    finding.andThen next ≠ unchecked ↔
      finding ≠ unchecked ∧ (finding = fine → next ≠ unchecked) := by
  cases finding <;> simp

@[simp] theorem check_ne_unchecked (b : Bool) : check b ≠ unchecked := by cases b <;> simp [check]

@[simp] theorem check_eq_fine_iff (b : Bool) : check b = fine ↔ b = true := by
  cases b <;> simp [check]

@[simp] theorem rely_ne_unchecked_iff (b : Bool) : rely b ≠ unchecked ↔ b = true := by
  cases b <;> simp [rely]

@[simp] theorem rely_eq_fine_iff (b : Bool) : rely b = fine ↔ b = true := by
  cases b <;> simp [rely]

section Lists

variable {finding : α → Finding}

theorem all_eq_fine_iff {values : List α} :
    all (values.map finding) = fine ↔ ∀ value ∈ values, finding value = fine := by
  induction values with
  | nil => simp [all]
  | cons value values ih =>
      rw [List.map_cons, all, List.forall_mem_cons, ← ih]
      cases finding value <;> simp

-- A part that would go unchecked is not reached if one before it is refused.
theorem all_ne_unchecked_iff {values : List α} :
    all (values.map finding) ≠ unchecked ↔
      ∀ earlier value later, values = earlier ++ value :: later → finding value = unchecked →
        ∃ other ∈ earlier, finding other = refused := by
  induction values with
  | nil => simp [all]
  | cons first values ih =>
      rw [List.map_cons, all]
      cases hfirst : finding first with
      | fine =>
          rw [fine_andThen, ih]
          constructor
          · intro h earlier value later heq hvalue
            cases earlier with
            | nil =>
                obtain ⟨rfl, -⟩ := List.cons.inj heq
                rw [hfirst] at hvalue
                cases hvalue
            | cons front earlier =>
                obtain ⟨rfl, hrest⟩ := List.cons.inj heq
                obtain ⟨other, hm, hother⟩ := h earlier value later hrest hvalue
                exact ⟨other, .tail _ hm, hother⟩
          · intro h earlier value later heq hvalue
            obtain ⟨other, hm, hother⟩ := h (first :: earlier) value later
              (congrArg (first :: ·) heq) hvalue
            rcases List.mem_cons.mp hm with rfl | hm
            · rw [hfirst] at hother
              cases hother
            · exact ⟨other, hm, hother⟩
      | refused =>
          simp only [refused_andThen, ne_eq, reduceCtorEq, not_false_eq_true, true_iff]
          intro earlier value later heq hvalue
          cases earlier with
          | nil =>
              obtain ⟨rfl, -⟩ := List.cons.inj heq
              rw [hfirst] at hvalue
              cases hvalue
          | cons front earlier =>
              obtain ⟨rfl, -⟩ := List.cons.inj heq
              exact ⟨first, .head _, hfirst⟩
      | unchecked =>
          simp only [unchecked_andThen, ne_eq, not_true_eq_false, false_iff]
          intro h
          obtain ⟨other, hm, -⟩ := h [] first values rfl hfirst
          cases hm

end Lists

theorem check_and (first second : Bool) :
    check (first && second) = (check first).andThen (check second) := by cases first <;> rfl

theorem rely_and (first second : Bool) :
    rely (first && second) = (rely first).andThen (rely second) := by cases first <;> rfl

theorem all_check {p : α → Bool} (values : List α) :
    all (values.map fun value => check (p value)) = check (values.all p) := by
  induction values with
  | nil => rfl
  | cons value values ih =>
      rw [List.map_cons, all, ih, List.all_cons]
      cases p value <;> rfl

theorem all_rely {p : α → Bool} (values : List α) :
    all (values.map fun value => rely (p value)) = rely (values.all p) := by
  induction values with
  | nil => rfl
  | cons value values ih =>
      rw [List.map_cons, all, ih, List.all_cons]
      cases p value <;> rfl

end Finding

-- What a result says of the input, when some errors are refusals.
def Finds (refusal : ε → Prop) (result : Except ε α) : Finding → Prop
  | .fine => ∃ value, result = .ok value
  | .refused => ∃ error, refusal error ∧ result = .error error
  | .unchecked => ∃ error, ¬refusal error ∧ result = .error error

namespace Finds

variable {refusal : ε → Prop}

theorem ok (value : α) : Finds refusal (.ok value) .fine := ⟨value, rfl⟩

theorem pure (value : α) : Finds refusal (Pure.pure value : Except ε α) .fine := ⟨value, rfl⟩

theorem refuse {error : ε} (h : refusal error) :
    Finds refusal (throw error : Except ε α) .refused := ⟨error, h, rfl⟩

theorem error {error : ε} (h : ¬refusal error) :
    Finds refusal (.error error : Except ε α) .unchecked := ⟨error, h, rfl⟩

theorem bind {result : Except ε α} {rest : α → Except ε β} {finding next : Finding}
    (h : Finds refusal result finding)
    (hrest : ∀ value, result = .ok value → Finds refusal (rest value) next) :
    Finds refusal (result >>= rest) (finding.andThen next) := by
  cases finding with
  | fine =>
      obtain ⟨value, rfl⟩ := h
      exact hrest value rfl
  | refused =>
      obtain ⟨error, herror, rfl⟩ := h
      exact ⟨error, herror, rfl⟩
  | unchecked =>
      obtain ⟨error, herror, rfl⟩ := h
      exact ⟨error, herror, rfl⟩

-- A step that is followed by nothing that can fail.
theorem bind_ok {result : Except ε α} {rest : α → Except ε β} {finding : Finding}
    (h : Finds refusal result finding) (hrest : ∀ value, ∃ next, rest value = .ok next) :
    Finds refusal (result >>= rest) finding := by
  rw [← Finding.andThen_fine finding]
  exact h.bind fun value _ => hrest value

theorem mapM {f : α → Except ε β} {finding : α → Finding}
    (h : ∀ value, Finds refusal (f value) (finding value)) (values : List α) :
    Finds refusal (values.mapM f) (Finding.all (values.map finding)) := by
  induction values with
  | nil => exact ⟨[], rfl⟩
  | cons value values ih =>
      rw [List.mapM_cons, List.map_cons, Finding.all]
      exact (h value).bind fun _ _ => ih.bind_ok fun _ => ⟨_, rfl⟩

theorem ite {first second : Except ε α} {finding next : Finding} {condition : Prop}
    [Decidable condition] (hfirst : condition → Finds refusal first finding)
    (hsecond : ¬condition → Finds refusal second next) :
    Finds refusal (if condition then first else second)
      (if condition then finding else next) := by
  split_ifs with h
  · exact hfirst h
  · exact hsecond h

-- The input is taken or refused, and nothing unforeseen happens.
theorem checked_iff {result : Except ε α} {finding : Finding} (h : Finds refusal result finding) :
    (∀ error, result = .error error → refusal error) ↔ finding ≠ .unchecked := by
  cases finding with
  | fine =>
      obtain ⟨value, rfl⟩ := h
      simp
  | refused =>
      obtain ⟨error, herror, rfl⟩ := h
      simpa using herror
  | unchecked =>
      obtain ⟨error, herror, rfl⟩ := h
      simpa using herror

end Finds

end Validation
