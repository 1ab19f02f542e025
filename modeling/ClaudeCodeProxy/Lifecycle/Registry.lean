import Mathlib.Logic.Function.Basic
import Mathlib.Logic.Relation

-- Registries of items that are born once and die for good.

namespace Lifecycle

variable {κ ω : Type} [DecidableEq κ]

-- The content of an item never changes; only whether it is live does.
structure Item (ω : Type) where
  content : ω
  live : Bool

abbrev Registry (κ ω : Type) : Type := κ → Option (Item ω)

inductive Step : Registry κ ω → Registry κ ω → Prop
  | Birth (registry : Registry κ ω) (k : κ) (content : ω) (hfresh : registry k = none) :
      Step registry (Function.update registry k (some ⟨content, true⟩))
  | Retire (registry : Registry κ ω) (k : κ) (item : Item ω) (hitem : registry k = some item) :
      Step registry (Function.update registry k (some ⟨item.content, false⟩))

abbrev Evolves : Registry κ ω → Registry κ ω → Prop := Relation.ReflTransGen Step

theorem Step.persists {first second : Registry κ ω} (h : Step first second) (k : κ)
    (item : Item ω) (hitem : first k = some item) :
    ∃ later, second k = some later ∧ later.content = item.content ∧
      (later.live = true → item.live = true) := by
  cases h with
  | Birth born content hfresh =>
      have hne : k ≠ born := by
        rintro rfl
        rw [hfresh] at hitem
        cases hitem
      exact ⟨item, by rw [Function.update_of_ne hne, hitem], rfl, id⟩
  | Retire retired old hold =>
      by_cases hk : k = retired
      · subst hk
        rw [hold] at hitem
        cases hitem
        exact ⟨⟨item.content, false⟩, Function.update_self .., rfl, by simp⟩
      · exact ⟨item, by rw [Function.update_of_ne hk, hitem], rfl, id⟩

-- An item is never forgotten, keeps its content, and is not revived.
theorem Evolves.persists {first second : Registry κ ω} (h : Evolves first second) (k : κ)
    (item : Item ω) (hitem : first k = some item) :
    ∃ later, second k = some later ∧ later.content = item.content ∧
      (later.live = true → item.live = true) := by
  induction h with
  | refl => exact ⟨item, hitem, rfl, id⟩
  | tail _ hstep ih =>
      obtain ⟨middle, hm, hcontent, hlive⟩ := ih
      obtain ⟨later, hl, hcontent', hlive'⟩ := hstep.persists k middle hm
      exact ⟨later, hl, hcontent'.trans hcontent, fun h => hlive (hlive' h)⟩

theorem Evolves.dead {first second : Registry κ ω} (h : Evolves first second) (k : κ)
    (item : Item ω) (hitem : first k = some item) (hdead : item.live = false) :
    ∃ later, second k = some later ∧ later.content = item.content ∧ later.live = false := by
  obtain ⟨later, hl, hcontent, hlive⟩ := h.persists k item hitem
  refine ⟨later, hl, hcontent, ?_⟩
  by_contra hne
  have halive : later.live = true := by simpa using hne
  rw [hlive halive] at hdead
  cases hdead

end Lifecycle
