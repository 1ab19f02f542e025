import Mathlib.Data.List.Forall2

-- Lists related item by item.

namespace Lists

variable {α β γ : Type}

theorem map_eq_of_forall₂ {f : α → γ} {g : β → γ} {items : List α} {others : List β}
    (h : List.Forall₂ (fun item other => f item = g other) items others) :
    items.map f = others.map g := by
  rw [← List.forall₂_eq_eq_eq, List.forall₂_map_left_iff, List.forall₂_map_right_iff]
  exact h

theorem filterMap_eq_of_forall₂ {f : α → Option γ} {g : β → Option γ} {items : List α}
    {others : List β} (h : List.Forall₂ (fun item other => f item = g other) items others) :
    items.filterMap f = others.filterMap g := by
  induction h with
  | nil => rfl
  | cons h _ ih => simp only [List.filterMap_cons, h, ih]

theorem forall_right {R : α → β → Prop} {p : β → Prop} {items : List α} {others : List β}
    (h : List.Forall₂ R items others) (hp : ∀ a b, R a b → p b) : ∀ other ∈ others, p other := by
  induction h with
  | nil => simp
  | cons hab _ ih => exact List.forall_mem_cons.mpr ⟨hp _ _ hab, ih⟩

theorem forall₂_through {R : β → γ → Prop} {S : α → γ → Prop} {first : List α} {second : List β}
    {third : List γ} (h : List.Forall₂ (fun a b => ∀ c, R b c → S a c) first second)
    (h' : List.Forall₂ R second third) : List.Forall₂ S first third := by
  induction h generalizing third with
  | nil =>
      cases h'
      exact .nil
  | cons hab _ ih =>
      cases h' with
      | cons hbc hrest => exact .cons (hab _ hbc) (ih hrest)

theorem forall₂_choose {R : α → β → Prop} {S : β → γ → Prop} {T : α → γ → Prop} {first : List α}
    {second : List β} (h : List.Forall₂ R first second)
    (hchoose : ∀ a ∈ first, ∀ b, R a b → ∃ c, S b c ∧ T a c) :
    ∃ third, List.Forall₂ S second third ∧ List.Forall₂ T first third := by
  induction h with
  | nil => exact ⟨[], .nil, .nil⟩
  | @cons a b _ _ hab _ ih =>
      obtain ⟨c, hbc, hac⟩ := hchoose a (.head _) b hab
      obtain ⟨third, hsecond, hfirst⟩ := ih fun a hmem => hchoose a (.tail _ hmem)
      exact ⟨c :: third, .cons hbc hsecond, .cons hac hfirst⟩

theorem forall₂_getElem? {R : α → β → Prop} {items : List α} {others : List β}
    (h : List.Forall₂ R items others) {i : Nat} {item : α} (hitem : items[i]? = some item) :
    ∃ other, others[i]? = some other ∧ R item other := by
  induction h generalizing i with
  | nil => cases hitem
  | cons hab _ ih =>
      cases i with
      | zero =>
          cases hitem
          exact ⟨_, rfl, hab⟩
      | succ i => exact ih hitem

theorem forall₂_append_iff {R : α → β → Prop} {first second : List α} {third fourth : List β}
    (hlength : first.length = third.length) :
    List.Forall₂ R (first ++ second) (third ++ fourth) ↔
      List.Forall₂ R first third ∧ List.Forall₂ R second fourth := by
  constructor
  · intro h
    have hfirst := List.forall₂_take_append _ _ _ h
    have hsecond := List.forall₂_drop_append _ _ _ h
    rw [← hlength, List.take_left] at hfirst
    rw [← hlength, List.drop_left] at hsecond
    exact ⟨hfirst, hsecond⟩
  · rintro ⟨hfirst, hsecond⟩
    exact List.rel_append hfirst hsecond

theorem forall₂_iff_forall {R : α → β → Prop} {p : α → Prop} {items : List α} {others : List β}
    (h : List.Forall₂ (fun a b => R a b ↔ p a) items others) :
    List.Forall₂ R items others ↔ ∀ item ∈ items, p item := by
  induction h with
  | nil => simp
  | cons hab _ ih => rw [List.forall₂_cons, List.forall_mem_cons, hab, ih]

theorem forall_iff_of_forall₂ {p : α → Prop} {q : β → Prop} {items : List α} {others : List β}
    (h : List.Forall₂ (fun a b => q b ↔ p a) items others) :
    (∀ other ∈ others, q other) ↔ ∀ item ∈ items, p item := by
  induction h with
  | nil => simp
  | cons hab _ ih => rw [List.forall_mem_cons, List.forall_mem_cons, hab, ih]

end Lists
