import Mathlib.Data.List.MinMax
import Mathlib.Data.List.Sort
import Mathlib.Data.Prod.Lex

-- The greatest item of a list whose order is not known, or known up to ties only.

namespace Lists

variable {α β : Type} [LinearOrder β] (f : α → β)

-- The greatest value of `f` is taken once.
def SingleLatest (items : List α) : Prop :=
  ∀ latest ∈ items, (∀ other ∈ items, f other ≤ f latest) →
    ∀ other ∈ items, f other = f latest → other = latest

instance [DecidableEq α] (items : List α) : Decidable (SingleLatest f items) :=
  inferInstanceAs (Decidable (∀ latest ∈ items, (∀ other ∈ items, f other ≤ f latest) →
    ∀ other ∈ items, f other = f latest → other = latest))

variable {f}

theorem SingleLatest.of_distinct {items : List α}
    (h : ∀ first ∈ items, ∀ second ∈ items, f first = f second → first = second) :
    SingleLatest f items := fun latest hlatest _ other hother hsame =>
  h other hother latest hlatest hsame

theorem argmax_eq_some_of_single {items : List α} {item : α} (hm : item ∈ items)
    (hmax : ∀ other ∈ items, f other ≤ f item)
    (hsingle : ∀ other ∈ items, f other = f item → other = item) :
    items.argmax f = some item := by
  cases hfound : items.argmax f with
  | none =>
      rw [List.argmax_eq_none] at hfound
      rw [hfound] at hm
      cases hm
  | some found =>
      have hle : f item ≤ f found := List.le_of_mem_argmax hm hfound
      have hfm : found ∈ items := List.argmax_mem hfound
      rw [hsingle found hfm (le_antisymm (hmax found hfm) hle)]

-- Where the greatest value is taken once, the order of the list does not matter.
theorem argmax_eq_of_perm {items other : List α} (h : SingleLatest f items)
    (hperm : items.Perm other) : other.argmax f = items.argmax f := by
  cases hfound : items.argmax f with
  | none =>
      rw [List.argmax_eq_none] at hfound
      subst hfound
      rw [List.argmax_eq_none]
      exact hperm.nil_eq.symm
  | some found =>
      have hfm : found ∈ items := List.argmax_mem hfound
      have hmax : ∀ item ∈ items, f item ≤ f found := fun item hm =>
        List.le_of_mem_argmax hm hfound
      apply argmax_eq_some_of_single (hperm.mem_iff.mp hfm)
      · exact fun item hm => hmax item (hperm.mem_iff.mpr hm)
      · exact fun item hm => h found hfm hmax item (hperm.mem_iff.mpr hm)

-- Where it is taken more than once, no item is the only greatest one.
theorem exists_other_latest {items : List α} (h : ¬SingleLatest f items) (found : α) :
    ∃ preferred ∈ items, preferred ≠ found ∧ ∀ other ∈ items, f other ≤ f preferred := by
  unfold SingleLatest at h
  push Not at h
  obtain ⟨latest, hlatest, hmax, other, hother, hsame, hne⟩ := h
  by_cases hfound : latest = found
  · subst hfound
    refine ⟨other, hother, hne, ?_⟩
    intro item hm
    rw [hsame]
    exact hmax item hm
  · exact ⟨latest, hlatest, hfound, hmax⟩

-- In a list with the latest first, the first item is the greatest.
theorem argmax_eq_head? {items : List α} (h : items.Pairwise fun first second => f second ≤ f first) :
    items.argmax f = items.head? := by
  cases items with
  | nil => rfl
  | cons head tail =>
      obtain ⟨hhead, _⟩ := List.pairwise_cons.mp h
      rw [List.argmax_cons, List.head?_cons]
      cases hfound : tail.argmax f with
      | none => rfl
      | some found => exact if_neg (not_lt.mpr (hhead found (List.argmax_mem hfound)))

theorem argmax_map {γ : Type} (g : γ → α) (items : List γ) :
    (items.map g).argmax f = (items.argmax (f ∘ g)).map g := by
  induction items with
  | nil => rfl
  | cons head tail ih =>
      rw [List.map_cons, List.argmax_cons, List.argmax_cons, ih]
      cases tail.argmax (f ∘ g) with
      | none => rfl
      | some found =>
          by_cases hlt : f (g head) < f (g found)
          · simp [hlt]
          · simp [hlt]

section Sorting

variable (f)

-- A stable sort with the latest first.
def latestFirst (items : List α) : List α :=
  items.insertionSort fun first second => f second ≤ f first

theorem latestFirst_perm (items : List α) : (latestFirst f items).Perm items :=
  List.perm_insertionSort _ _

theorem latestFirst_sorted (items : List α) :
    (latestFirst f items).Pairwise fun first second => f second ≤ f first := by
  have : Std.Total fun first second : α => f second ≤ f first :=
    ⟨fun first second => le_total (f second) (f first)⟩
  have : IsTrans α fun first second => f second ≤ f first :=
    ⟨fun _ _ _ hfirst hsecond => le_trans hsecond hfirst⟩
  exact List.pairwise_insertionSort _ items

variable [DecidableEq α] (preferred : α)

-- A sort with the latest first and, among items of one value, `preferred` first.
def latestPreferring : List α → List α :=
  latestFirst fun item => toLex (f item, decide (item = preferred))

theorem latestPreferring_perm (items : List α) : (latestPreferring f preferred items).Perm items :=
  latestFirst_perm _ _

theorem latestPreferring_sorted (items : List α) :
    (latestPreferring f preferred items).Pairwise fun first second => f second ≤ f first := by
  have h := latestFirst_sorted (fun item => toLex (f item, decide (item = preferred))) items
  exact h.imp fun hle => (Prod.Lex.toLex_le_toLex'.mp hle).1

-- The sort puts `preferred` first if no selected item is greater.
theorem argmax_filter_latestPreferring (items : List α) (p : α → Bool)
    (hm : preferred ∈ items) (hp : p preferred = true)
    (hmax : ∀ other ∈ items, p other = true → f other ≤ f preferred) :
    ((latestPreferring f preferred items).filter p).argmax f = some preferred := by
  have hperm := (latestPreferring_perm f preferred items).filter p
  have hsorted := (latestFirst_sorted (fun item => toLex (f item, decide (item = preferred)))
    items).filter p
  change ((latestPreferring f preferred items).filter p).Pairwise _ at hsorted
  have hmem : preferred ∈ (latestPreferring f preferred items).filter p :=
    hperm.mem_iff.mpr (List.mem_filter.mpr ⟨hm, hp⟩)
  rw [argmax_eq_head? ((latestPreferring_sorted f preferred items).filter p)]
  generalize (latestPreferring f preferred items).filter p = sorted at hperm hsorted hmem
  cases sorted with
  | nil => cases hmem
  | cons head tail =>
      rw [List.head?_cons]
      rcases List.mem_cons.mp hmem with rfl | htail
      · rfl
      · have hhead : head ∈ items.filter p := hperm.mem_iff.mp (.head _)
        obtain ⟨hhm, hhp⟩ := List.mem_filter.mp hhead
        have hle := (List.pairwise_cons.mp hsorted).1 preferred htail
        obtain ⟨hvalue, hflag⟩ := Prod.Lex.toLex_le_toLex'.mp hle
        have hsame := hflag (le_antisymm hvalue (hmax head hhm hhp))
        simp only [decide_true] at hsame
        rw [of_decide_eq_true (Bool.eq_true_of_true_le hsame)]

end Sorting

end Lists
