import ClaudeCodeProxy.Python.Value
import Mathlib.Data.List.Forall2
import Mathlib.Data.Option.Basic

-- Dictionaries compared by what they hold, and dictionaries without some of their keys.

namespace Python

namespace Value

theorem lookup_cons (entry : String × Value) (entries : List (String × Value)) (key : String) :
    lookup (entry :: entries) key = if key = entry.1 then some entry.2 else lookup entries key := by
  obtain ⟨first, value⟩ := entry
  rw [lookup, List.lookup_cons]
  by_cases h : key = first
  · simp [h]
  · simp [h, beq_eq_false_iff_ne.mpr h, lookup]

@[simp] theorem lookup_nil (key : String) : lookup [] key = none := rfl

theorem lookup_append (first second : List (String × Value)) (key : String) :
    lookup (first ++ second) key = (lookup first key).or (lookup second key) := List.lookup_append

-- Values rewritten, each in the light of its key.
theorem lookup_map (change : String → Value → Value) (entries : List (String × Value))
    (key : String) :
    lookup (entries.map fun entry => (entry.1, change entry.1 entry.2)) key =
      (lookup entries key).map (change key) := by
  induction entries with
  | nil => rfl
  | cons entry entries ih =>
      rw [List.map_cons, lookup_cons, lookup_cons, ih]
      by_cases hkey : key = entry.1
      · rw [if_pos hkey, if_pos hkey, Option.map_some, hkey]
      · rw [if_neg hkey, if_neg hkey]

theorem lookup_isSome_of_mem {entry : String × Value} {entries : List (String × Value)}
    (h : entry ∈ entries) : (lookup entries entry.1).isSome = true := by
  induction entries with
  | nil => cases h
  | cons first entries ih =>
      rw [lookup_cons]
      split_ifs with hkey
      · rfl
      · rcases List.mem_cons.mp h with rfl | hmem
        · exact absurd rfl hkey
        · exact ih hmem

theorem mem_of_lookup {entries : List (String × Value)} {key : String} {value : Value}
    (h : lookup entries key = some value) : (key, value) ∈ entries := by
  induction entries with
  | nil => cases h
  | cons first entries ih =>
      rw [lookup_cons] at h
      split_ifs at h with hkey
      · cases h
        subst hkey
        exact .head _
      · exact .tail _ (ih h)

theorem item_eq_ok {entries : List (String × Value)} {key : String} {value : Value} :
    (Mapping entries).item key = .ok value ↔ lookup entries key = some value := by
  cases h : lookup entries key <;> simp [item, h]

-- Induction over the items of lists and the values of dictionaries.
@[elab_as_elim]
theorem nestedInduction {motive : Value → Prop} (null : motive None)
    (boolean : ∀ b, motive (Boolean b)) (integer : ∀ n, motive (Integer n))
    (float : ∀ x, motive (Float x)) (str : ∀ s, motive (Str s))
    (sequence : ∀ items, (∀ item ∈ items, motive item) → motive (Sequence items))
    (mapping : ∀ entries, (∀ entry ∈ entries, motive entry.2) → motive (Mapping entries))
    (dictionary : ∀ entries, (∀ entry ∈ entries, motive entry.2) → motive (Dictionary entries))
    (value : Value) : motive value := by
  refine @Value.rec motive (fun items => ∀ item ∈ items, motive item)
    (fun entries => ∀ entry ∈ entries, motive entry.2)
    (fun entries => ∀ entry ∈ entries, motive entry.2) (fun entry => motive entry.2)
    (fun entry => motive entry.2) null boolean integer float str sequence mapping dictionary
    ?_ ?_ ?_ ?_ ?_ ?_ ?_ ?_ value
  · exact fun _ hm => by cases hm
  · exact fun _ _ hhead htail => List.forall_mem_cons.mpr ⟨hhead, htail⟩
  · exact fun _ hm => by cases hm
  · exact fun _ _ hhead htail => List.forall_mem_cons.mpr ⟨hhead, htail⟩
  · exact fun _ hm => by cases hm
  · exact fun _ _ hhead htail => List.forall_mem_cons.mpr ⟨hhead, htail⟩
  · exact fun _ _ h => h
  · exact fun _ _ h => h

section Comparison

mutual

-- Equality, but for the order in which dictionaries have their keys.
def same : Value → Value → Bool
  | Sequence items, Sequence others => sameItems items others
  | Mapping entries, Mapping others =>
      sameEntries [] entries others && others.all fun other => (lookup entries other.1).isSome
  | value, other => decide (value = other)

def sameItems : List Value → List Value → Bool
  | [], [] => true
  | item :: items, other :: others => item.same other && sameItems items others
  | _, _ => false

-- The entries that count, those of keys not seen before, have their like.
def sameEntries (seen : List String) : List (String × Value) → List (String × Value) → Bool
  | [], _ => true
  | (key, value) :: entries, others =>
      (decide (key ∈ seen) || match lookup others key with
        | some other => value.same other
        | none => false) && sameEntries (key :: seen) entries others

end

theorem sameEntries_iff {seen : List String} {entries others : List (String × Value)} :
    sameEntries seen entries others = true ↔ ∀ key ∉ seen, ∀ value,
      lookup entries key = some value →
        ∃ other, lookup others key = some other ∧ value.same other = true := by
  induction entries generalizing seen with
  | nil =>
      simp only [sameEntries, true_iff]
      intro key _ value h
      cases h
  | cons entry entries ih =>
      obtain ⟨first, value⟩ := entry
      simp only [sameEntries, Bool.and_eq_true, Bool.or_eq_true, decide_eq_true_eq, ih,
        List.mem_cons, not_or]
      constructor
      · rintro ⟨hfirst, hrest⟩ key hseen found hfound
        rw [lookup_cons] at hfound
        split_ifs at hfound with hkey
        · subst hkey
          cases hfound
          have hlike := hfirst.resolve_left hseen
          split at hlike
          · exact ⟨_, ‹_›, hlike⟩
          · cases hlike
        · exact hrest key ⟨hkey, hseen⟩ found hfound
      · intro h
        constructor
        · by_cases hseen : first ∈ seen
          · exact .inl hseen
          · obtain ⟨other, hother, hlike⟩ := h first hseen value (by simp [lookup_cons])
            right
            rw [hother]
            exact hlike
        · rintro key ⟨hkey, hseen⟩ found hfound
          exact h key hseen found (by rw [lookup_cons, if_neg hkey, hfound])

-- Dictionaries are the same if they hold the same under every key.
theorem same_mapping_iff {entries others : List (String × Value)} :
    (Mapping entries).same (Mapping others) = true ↔
      ∀ key, Option.Rel (fun value other => value.same other = true)
        (lookup entries key) (lookup others key) := by
  simp only [same, Bool.and_eq_true, sameEntries_iff, List.not_mem_nil, not_false_eq_true,
    true_imp_iff, List.all_eq_true]
  constructor
  · rintro ⟨hleft, hright⟩ key
    cases hvalue : lookup entries key with
    | some value =>
        obtain ⟨other, hother, hlike⟩ := hleft key value hvalue
        rw [hother]
        exact .some hlike
    | none =>
        cases hother : lookup others key with
        | none => exact .none
        | some other =>
            have hsome := hright _ (mem_of_lookup hother)
            rw [hvalue] at hsome
            cases hsome
  · intro h
    constructor
    · intro key value hvalue
      have hkey := h key
      rw [hvalue] at hkey
      generalize lookup others key = found at hkey
      cases hkey with
      | some hlike => exact ⟨_, rfl, hlike⟩
    · intro other hmem
      have hsome := lookup_isSome_of_mem hmem
      have hkey := h other.1
      generalize lookup others other.1 = found at hkey hsome
      generalize lookup entries other.1 = value at hkey
      cases hkey with
      | some hlike => rfl
      | none => cases hsome

theorem sameItems_iff {items others : List Value} :
    sameItems items others = true ↔
      List.Forall₂ (fun item other => item.same other = true) items others := by
  induction items generalizing others with
  | nil => cases others <;> simp [sameItems]
  | cons item items ih => cases others <;> simp [sameItems, ih]

theorem same_refl (value : Value) : value.same value = true := by
  induction value using nestedInduction with
  | sequence items ih =>
      rw [same, sameItems_iff]
      exact List.forall₂_same.mpr ih
  | mapping entries ih =>
      rw [same_mapping_iff]
      intro key
      cases hvalue : lookup entries key with
      | none => exact .none
      | some value => exact .some (ih _ (mem_of_lookup hvalue))
  | _ => simp [same]

end Comparison

-- The dictionary holds these fields and no others, in whatever order.
def Holds (entries fields : List (String × Value)) : Prop :=
  ∀ key, lookup entries key = lookup fields key

theorem Holds.same {entries fields : List (String × Value)} (h : Holds entries fields) :
    (Mapping entries).same (Mapping fields) = true := by
  rw [same_mapping_iff]
  intro key
  rw [h key]
  cases lookup fields key with
  | none => exact .none
  | some value => exact .some (same_refl value)

theorem Holds.same_singleton_iff {fields : List (String × Value)} {key : String}
    {value other : Value} (h : Holds fields [(key, value)]) :
    (Mapping fields).same (Mapping [(key, other)]) = true ↔ value.same other = true := by
  rw [same_mapping_iff]
  constructor
  · intro hkeys
    have hkey := hkeys key
    rw [h key, lookup_cons, lookup_cons, if_pos rfl, if_pos rfl] at hkey
    cases hkey with
    | some hsame => exact hsame
  · intro hsame entry
    rw [h entry, lookup_cons, lookup_cons]
    by_cases hkey : entry = key
    · rw [if_pos hkey, if_pos hkey]
      exact .some hsame
    · rw [if_neg hkey, if_neg hkey]
      exact .none

-- A key that only one of two dictionaries has.
theorem not_same_of_key {fields others : List (String × Value)} (key : String)
    (hfound : (lookup fields key).isSome = true) (hnone : lookup others key = none) :
    ¬(Mapping fields).same (Mapping others) = true := by
  intro hsame
  have hkey := same_mapping_iff.mp hsame key
  rw [hnone] at hkey
  generalize lookup fields key = found at hkey hfound
  cases hkey
  cases hfound

section Erasure

-- The dictionary without some keys.
def without (keys : List String) (entries : List (String × Value)) : List (String × Value) :=
  entries.filter fun entry => decide (entry.1 ∉ keys)

theorem lookup_without {keys : List String} {entries : List (String × Value)} {key : String} :
    lookup (without keys entries) key = if key ∈ keys then none else lookup entries key := by
  induction entries with
  | nil => simp [without, lookup]
  | cons entry entries ih =>
      have hrest : lookup (entries.filter fun entry => decide (entry.1 ∉ keys)) key = _ := ih
      rw [without, List.filter_cons]
      by_cases hentry : entry.1 ∈ keys
      · simp only [hentry, not_true_eq_false, decide_false, Bool.false_eq_true, if_false]
        rw [hrest, lookup_cons]
        by_cases hkey : key = entry.1
        · simp [hkey, hentry]
        · simp [hkey]
      · simp only [hentry, not_false_eq_true, decide_true, if_true]
        rw [lookup_cons, lookup_cons, hrest]
        by_cases hkey : key = entry.1
        · simp [hkey, hentry]
        · simp [hkey]

-- The dictionary with the value of one key changed, if it has the key.
def adjusted (key : String) (change : Value → Value) (entries : List (String × Value)) :
    List (String × Value) :=
  entries.map fun entry => if entry.1 = key then (entry.1, change entry.2) else entry

theorem lookup_adjusted {key other : String} {change : Value → Value}
    {entries : List (String × Value)} :
    lookup (adjusted key change entries) other =
      if other = key then (lookup entries other).map change else lookup entries other := by
  induction entries with
  | nil => simp [adjusted]
  | cons entry entries ih =>
      have hrest : lookup (adjusted key change entries) other = _ := ih
      rw [adjusted, List.map_cons, ← adjusted, lookup_cons, lookup_cons, hrest]
      by_cases hentry : entry.1 = key
      · rw [if_pos hentry]
        by_cases hother : other = entry.1
        · simp [hother, hentry]
        · simp [hother]
      · rw [if_neg hentry]
        by_cases hother : other = entry.1
        · simp [hother, hentry]
        · simp [hother]

end Erasure

end Value

end Python
