import Mathlib.Data.Set.Insert
import Mathlib.Order.Bounds.Basic

-- Decisions over sets of rules: a denial overrides every grant, a set that holds any rule
-- of either kind admits only what it grants, and of several limits the least is in force.

namespace Access

-- The rules of a request: what each says, and whether it is about this request.
structure Rules (ρ : Type) where
  grants : ρ → Prop
  denies : ρ → Prop
  hits : ρ → Prop

namespace Rules

variable {ρ : Type} (rules : Rules ρ) (set other : Set ρ)

def Denied : Prop := ∃ rule ∈ set, rules.denies rule ∧ rules.hits rule

def Granted : Prop := ∃ rule ∈ set, rules.grants rule ∧ rules.hits rule

-- A set without access rules leaves every request open.
def Governed : Prop := ∃ rule ∈ set, rules.grants rule ∨ rules.denies rule

def Admits : Prop := ¬rules.Denied set ∧ (rules.Governed set → rules.Granted set)

variable {rules set other}

theorem Denied.governed (h : rules.Denied set) : rules.Governed set := by
  obtain ⟨rule, hm, hdenies, _⟩ := h
  exact ⟨rule, hm, .inr hdenies⟩

theorem Granted.governed (h : rules.Granted set) : rules.Governed set := by
  obtain ⟨rule, hm, hgrants, _⟩ := h
  exact ⟨rule, hm, .inl hgrants⟩

-- Deny overrides.
theorem denied_of_mem (rule : ρ) (hm : rule ∈ set) (hdenies : rules.denies rule)
    (hhits : rules.hits rule) : rules.Denied set :=
  ⟨rule, hm, hdenies, hhits⟩

variable (rules set other)

theorem denied_union : rules.Denied (set ∪ other) ↔ rules.Denied set ∨ rules.Denied other := by
  unfold Denied
  simp only [Set.mem_union, or_and_right, exists_or]

theorem granted_union : rules.Granted (set ∪ other) ↔ rules.Granted set ∨ rules.Granted other := by
  unfold Granted
  simp only [Set.mem_union, or_and_right, exists_or]

theorem governed_union :
    rules.Governed (set ∪ other) ↔ rules.Governed set ∨ rules.Governed other := by
  unfold Governed
  simp only [Set.mem_union, or_and_right, exists_or]

-- When a part of the rules admits no more than all of them do.
theorem admits_union_of_admits_iff :
    (rules.Admits set → rules.Admits (set ∪ other)) ↔
      rules.Denied set ∨ (rules.Governed set ∧ ¬rules.Granted set) ∨
        (¬rules.Denied other ∧
          (rules.Governed set ∨ (rules.Governed other → rules.Granted other))) := by
  unfold Admits
  rw [denied_union, governed_union, granted_union]
  have hdenied : rules.Denied set → rules.Governed set := Denied.governed
  have hgranted : rules.Granted set → rules.Governed set := Granted.governed
  tauto

theorem denied_insert_iff (rule : ρ) (hmisses : ¬rules.hits rule) :
    rules.Denied (insert rule set) ↔ rules.Denied set := by
  simp [Denied, hmisses]

-- A denial of other requests closes a set that was open, and changes no other set.
theorem admits_insert_iff (rule : ρ) (hdenies : rules.denies rule) (hmisses : ¬rules.hits rule) :
    rules.Admits (insert rule set) ↔ rules.Admits set ∧ rules.Governed set := by
  have hdenied := rules.denied_insert_iff set rule hmisses
  have hgranted : rules.Granted (insert rule set) ↔ rules.Granted set := by
    simp [Granted, hmisses]
  have hgoverned : rules.Governed (insert rule set) := ⟨rule, by simp, .inr hdenies⟩
  have hgoverns : rules.Granted set → rules.Governed set := Granted.governed
  unfold Admits
  rw [hdenied, hgranted]
  tauto

theorem admits_of_not_governed (h : ¬rules.Governed set) : rules.Admits set :=
  ⟨fun hdenied => h hdenied.governed, fun hgoverned => absurd hgoverned h⟩

end Rules

variable {α : Type} [LinearOrder α]

-- The least of the values, if there are any.
def IsLimit (values : Set α) : Option α → Prop
  | none => values = ∅
  | some limit => IsLeast values limit

theorem IsLimit.unique {values : Set α} {first second : Option α} (h : IsLimit values first)
    (h' : IsLimit values second) : first = second := by
  cases first with
  | none =>
      cases second with
      | none => rfl
      | some limit =>
          have hempty : values = ∅ := h
          have hmem : limit ∈ values := h'.1
          simp [hempty] at hmem
  | some limit =>
      cases second with
      | none =>
          have hempty : values = ∅ := h'
          have hmem : limit ∈ values := h.1
          simp [hempty] at hmem
      | some other => exact congrArg some (IsLeast.unique h h')

-- Where there is no limit nothing is too much.
def AtMost : Option α → Option α → Prop
  | _, none => True
  | none, some _ => False
  | some first, some second => first ≤ second

theorem atMost_iff {values others : Set α} {first second : Option α} (h : IsLimit values first)
    (h' : IsLimit others second) :
    AtMost first second ↔ ∀ other ∈ others, ∃ value ∈ values, value ≤ other := by
  cases second with
  | none =>
      have hempty : others = ∅ := h'
      simp [AtMost, hempty]
  | some second =>
      have hmem : second ∈ others := h'.1
      cases first with
      | none =>
          have hempty : values = ∅ := h
          constructor
          · exact False.elim
          · intro hbelow
            obtain ⟨value, hvalue, _⟩ := hbelow second hmem
            simp [hempty] at hvalue
      | some first =>
          constructor
          · intro hle other hother
            have hleast : second ≤ other := h'.2 hother
            exact ⟨first, h.1, le_trans hle hleast⟩
          · intro hbelow
            obtain ⟨value, hvalue, hle⟩ := hbelow second hmem
            have hleast : first ≤ value := h.2 hvalue
            exact le_trans hleast hle

-- More values never raise the limit.
theorem IsLimit.atMost_of_subset {values others : Set α} {first second : Option α}
    (h : IsLimit values first) (h' : IsLimit others second) (hsubset : others ⊆ values) :
    AtMost first second :=
  (atMost_iff h h').mpr fun other hother => ⟨other, hsubset hother, le_refl other⟩

end Access
