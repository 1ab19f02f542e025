import Mathlib.Data.List.MinMax

-- The first of the least items of a list, by its place among the others.

namespace Lists

variable {α β : Type} [LinearOrder β] (f : α → β)

-- The item is less than those before it, and no more than those after it.
def Leads (before : List α) (item : α) (after : List α) : Prop :=
  (∀ other ∈ before, f item < f other) ∧ ∀ other ∈ after, f item ≤ f other

variable {f}

theorem Leads.le {before after : List α} {item : α} (h : Leads f before item after) (other : α)
    (hm : other ∈ before ++ item :: after) : f item ≤ f other := by
  rw [List.mem_append, List.mem_cons] at hm
  rcases hm with hm | rfl | hm
  · exact le_of_lt (h.1 other hm)
  · exact le_refl _
  · exact h.2 other hm

theorem argmin_eq_some_iff (items : List α) (item : α) :
    items.argmin f = some item ↔
      ∃ before after, items = before ++ item :: after ∧ Leads f before item after := by
  induction items generalizing item with
  | nil => simp
  | cons head tail ih =>
      rw [List.argmin_cons]
      constructor
      · intro h
        cases hmin : tail.argmin f with
        | none =>
            rw [List.argmin_eq_none] at hmin
            subst hmin
            cases h
            exact ⟨[], [], rfl, by simp [Leads]⟩
        | some least =>
            simp only [hmin] at h
            have hleast : ∀ other ∈ tail, f least ≤ f other := fun other hm =>
              List.le_of_mem_argmin hm hmin
            by_cases hlt : f least < f head
            · rw [if_pos hlt] at h
              have hsame : least = item := Option.some.inj h
              subst hsame
              obtain ⟨before, after, rfl, hbefore, hafter⟩ := (ih least).mp hmin
              refine ⟨head :: before, after, rfl, ?_, hafter⟩
              exact List.forall_mem_cons.mpr ⟨hlt, hbefore⟩
            · rw [if_neg hlt] at h
              cases h
              refine ⟨[], tail, rfl, by simp, ?_⟩
              exact fun other hm => le_trans (not_lt.mp hlt) (hleast other hm)
      · rintro ⟨before, after, hitems, hbefore, hafter⟩
        cases before with
        | nil =>
            obtain ⟨rfl, rfl⟩ := List.cons.inj hitems
            cases hmin : tail.argmin f with
            | none => rfl
            | some found => exact if_neg (not_lt.mpr (hafter found (List.argmin_mem hmin)))
        | cons first before =>
            obtain ⟨rfl, rfl⟩ := List.cons.inj hitems
            have hmin := (ih item).mpr ⟨before, after, rfl,
              fun other hm => hbefore other (.tail _ hm), hafter⟩
            rw [hmin]
            exact if_pos (hbefore head (.head _))

theorem forall_mem_insert {p : α → Prop} {before after : List α} {item : α} (hitem : p item)
    (h : ∀ other ∈ before ++ after, p other) : ∀ other ∈ before ++ item :: after, p other := by
  intro other hm
  rw [List.mem_append, List.mem_cons] at hm
  rcases hm with hm | rfl | hm
  · exact h other (List.mem_append_left _ hm)
  · exact hitem
  · exact h other (List.mem_append_right _ hm)

-- An item that does not come first is no less than the least, wherever it stands.
theorem le_of_not_leads {before after : List α} {item least : α}
    (hleast : ∀ other ∈ before ++ after, f least ≤ f other) (h : ¬Leads f before item after) :
    f least ≤ f item := by
  by_contra hlt
  have hbelow : f item < f least := not_le.mp hlt
  apply h
  refine ⟨?_, ?_⟩
  · exact fun other hm => lt_of_lt_of_le hbelow (hleast other (List.mem_append_left _ hm))
  · exact fun other hm => le_of_lt (lt_of_lt_of_le hbelow (hleast other (List.mem_append_right _ hm)))

theorem lt_of_not_leads {before after : List α} {item least : α}
    (hbefore : ∀ other ∈ before, f least < f other)
    (hafter : ∀ other ∈ after, f least ≤ f other) (h : ¬Leads f before item after) :
    f least < f item := by
  by_contra hle
  have hbelow : f item ≤ f least := not_lt.mp hle
  apply h
  refine ⟨?_, ?_⟩
  · exact fun other hm => lt_of_le_of_lt hbelow (hbefore other hm)
  · exact fun other hm => le_trans hbelow (hafter other hm)

theorem argmin_insert_of_leads {before after : List α} {item : α}
    (h : Leads f before item after) : (before ++ item :: after).argmin f = some item :=
  (argmin_eq_some_iff _ _).mpr ⟨before, after, rfl, h⟩

-- An item that does not come first changes nothing.
theorem argmin_insert_of_not_leads {before after : List α} {item : α}
    (h : ¬Leads f before item after) :
    (before ++ item :: after).argmin f = (before ++ after).argmin f := by
  cases hmin : (before ++ after).argmin f with
  | none =>
      rw [List.argmin_eq_none, List.append_eq_nil_iff] at hmin
      obtain ⟨rfl, rfl⟩ := hmin
      exact absurd ⟨by simp, by simp⟩ h
  | some least =>
      obtain ⟨front, back, hsplit, hfront, hback⟩ := (argmin_eq_some_iff _ _).mp hmin
      rw [argmin_eq_some_iff]
      -- the least item stands behind the new one or before it
      rcases List.append_eq_append_iff.mp hsplit with
        ⟨middle, rfl, rfl⟩ | ⟨middle, rfl, hmiddle⟩
      · have hlt : f least < f item := by
          apply lt_of_not_leads _ _ h
          · exact fun other hm => hfront other (List.mem_append_left _ hm)
          · intro other hm
            apply Leads.le ⟨hfront, hback⟩ other
            rw [List.append_assoc]
            exact List.mem_append_right _ hm
        exact ⟨before ++ item :: middle, back, by simp, forall_mem_insert hlt hfront, hback⟩
      · cases middle with
        | nil =>
            obtain rfl : least :: back = after := by simpa using hmiddle
            have hlt : f least < f item := by
              apply lt_of_not_leads _ _ h
              · simpa using hfront
              · exact List.forall_mem_cons.mpr ⟨le_refl _, hback⟩
            refine ⟨front ++ [item], back, by simp, forall_mem_insert hlt ?_, hback⟩
            rw [List.append_nil]
            exact hfront
        | cons first middle =>
            obtain ⟨rfl, rfl⟩ := List.cons.inj hmiddle
            have hle : f least ≤ f item := by
              apply le_of_not_leads _ h
              intro other hm
              exact List.le_of_mem_argmin hm hmin
            exact ⟨front, middle ++ item :: after, by simp, hfront, forall_mem_insert hle hback⟩

section Greatest

variable (f)

-- An item that no other exceeds; there may be several.
def Greatest (items : List α) (item : α) : Prop := item ∈ items ∧ ∀ other ∈ items, f other ≤ f item

variable {f}

theorem Greatest.of_argmax {items : List α} {item : α} (h : items.argmax f = some item) :
    Greatest f items item :=
  ⟨List.argmax_mem h, fun _ hm => List.le_of_mem_argmax hm h⟩

theorem Greatest.perm {items other : List α} {item : α} (h : Greatest f items item)
    (hperm : items.Perm other) : Greatest f other item :=
  ⟨hperm.mem_iff.mp h.1, fun item hm => h.2 item (hperm.mem_iff.mpr hm)⟩

theorem Greatest.argmax_ne_none {items : List α} {item : α} (h : Greatest f items item) :
    items.argmax f ≠ none := by
  intro hnone
  have hempty : items = [] := List.argmax_eq_none.mp hnone
  have hm := h.1
  rw [hempty] at hm
  cases hm

-- Of several greatest items the first is found, so each of them is in some order.
theorem Greatest.exists_perm [DecidableEq α] {items : List α} {item : α} {p : α → Bool}
    (h : Greatest f (items.filter p) item) :
    ∃ other : List α, other.Perm items ∧ (other.filter p).argmax f = some item := by
  obtain ⟨hm, hp⟩ := List.mem_filter.mp h.1
  have hperm : (item :: items.erase item).Perm items := (List.perm_cons_erase hm).symm
  refine ⟨item :: items.erase item, hperm, ?_⟩
  have hmax := (h.perm (hperm.filter p).symm).2
  rw [List.filter_cons, if_pos hp] at hmax ⊢
  rw [List.argmax_cons]
  cases hrest : ((items.erase item).filter p).argmax f with
  | none => rfl
  | some found =>
      have hle : f found ≤ f item := hmax found (.tail _ (List.argmax_mem hrest))
      exact if_neg (not_lt.mpr hle)

end Greatest

end Lists
