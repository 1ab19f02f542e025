import Mathlib.Data.List.MinMax
import ClaudeCodeProxy.Models.Domain
import ClaudeCodeProxy.Store.Table

namespace ClaudeCodeProxy

-- The repositories keep their records by a field of the record, in insertion order.
abbrev Ledger : Type := Store.Table VirtualKeyRecord.id
abbrev VirtualKeyCache : Type := Store.Table VirtualKeyCacheEntry.userId
abbrev Users : Type := Store.Table UserRecord.id
abbrev IdentityMappings : Type := Store.Table IdentityMapping.username

def VirtualKeyRecord.isActiveFor (userId : String) (record : VirtualKeyRecord) : Bool :=
  record.userId == userId && record.status == .Active

namespace Ledger

def getKeyByHash (ledger : Ledger) (keyHash : String) : Option VirtualKeyRecord :=
  ledger.rows.find? fun record => record.keyHash = keyHash

-- `max` and `argmax` both take the first of several latest records. The order is
-- named because Mathlib also finds one on `Int` that does not compute.
def getActiveKeyForUser (ledger : Ledger) (userId : String) : Option VirtualKeyRecord :=
  @List.argmax _ _ Int.instLinearOrder.toPreorder _ VirtualKeyRecord.createdAt
    (ledger.rows.filter (VirtualKeyRecord.isActiveFor userId))

end Ledger

def VirtualKeyCache.getActiveKey (cache : VirtualKeyCache) (userId : String) (now : Int) :
    Option VirtualKeyCacheEntry :=
  match cache.get userId with
  | none => none
  | some entry =>
      if entry.ttl ≤ epochSeconds now then none
      else if entry.status ≠ .Active then none
      else some entry

@[simp] theorem isActiveFor_iff (userId : String) (record : VirtualKeyRecord) :
    record.isActiveFor userId = true ↔ record.userId = userId ∧ record.status = .Active := by
  simp [VirtualKeyRecord.isActiveFor]

theorem isActiveFor_eq_false_iff (userId : String) (record : VirtualKeyRecord) :
    record.isActiveFor userId = false ↔ (record.userId = userId → record.status ≠ .Active) := by
  rw [← Bool.not_eq_true, isActiveFor_iff, not_and]

namespace Ledger

theorem getActiveKeyForUser_some (ledger : Ledger) (userId : String) (record : VirtualKeyRecord)
    (h : ledger.getActiveKeyForUser userId = some record) :
    record ∈ ledger.rows ∧ record.userId = userId ∧ record.status = .Active := by
  have hm := List.argmax_mem h
  rw [List.mem_filter, isActiveFor_iff] at hm
  exact hm

theorem getActiveKeyForUser_none_iff (ledger : Ledger) (userId : String) :
    ledger.getActiveKeyForUser userId = none ↔
      ∀ record ∈ ledger.rows, record.userId = userId → record.status ≠ .Active := by
  rw [getActiveKeyForUser, List.argmax_eq_none, List.filter_eq_nil_iff]
  simp only [isActiveFor_iff, not_and]

-- A write that touches no active record of the user leaves the selection as it is.
theorem getActiveKeyForUser_save_of_not (ledger : Ledger) (userId : String)
    (record : VirtualKeyRecord) (hnew : record.userId = userId → record.status ≠ .Active)
    (hold : ∀ old, ledger.get record.id = some old → old.userId = userId → old.status ≠ .Active) :
    getActiveKeyForUser (ledger.save record) userId = ledger.getActiveKeyForUser userId := by
  unfold getActiveKeyForUser
  rw [Store.Table.filter_save_of_not]
  · exact (isActiveFor_eq_false_iff _ _).mpr hnew
  · exact fun old ho => (isActiveFor_eq_false_iff _ _).mpr (hold old ho)

-- The first active record of a user is the one selected.
theorem getActiveKeyForUser_save_of_none (ledger : Ledger) (record : VirtualKeyRecord)
    (hactive : record.status = .Active)
    (hnone : ledger.getActiveKeyForUser record.userId = none) :
    getActiveKeyForUser (ledger.save record) record.userId = some record := by
  have hempty : ledger.rows.filter (VirtualKeyRecord.isActiveFor record.userId) = [] :=
    List.argmax_eq_none.mp hnone
  unfold getActiveKeyForUser
  rw [Store.Table.filter_save_of_empty ledger record _ (by simp [hactive]) hempty]
  rfl

theorem getKeyByHash_some (ledger : Ledger) (keyHash : String) (record : VirtualKeyRecord)
    (h : ledger.getKeyByHash keyHash = some record) :
    record ∈ ledger.rows ∧ record.keyHash = keyHash :=
  ⟨List.mem_of_find?_eq_some h, by simpa using List.find?_some h⟩

-- No two records carry one hash.
def DistinctHashes (ledger : Ledger) : Prop :=
  ∀ first ∈ ledger.rows, ∀ second ∈ ledger.rows, first.keyHash = second.keyHash → first = second

instance (ledger : Ledger) : Decidable ledger.DistinctHashes :=
  inferInstanceAs (Decidable (∀ first ∈ ledger.rows, ∀ second ∈ ledger.rows,
    first.keyHash = second.keyHash → first = second))

theorem getKeyByHash_of_mem (ledger : Ledger) (hd : ledger.DistinctHashes)
    (record : VirtualKeyRecord) (hm : record ∈ ledger.rows) :
    ledger.getKeyByHash record.keyHash = some record := by
  obtain ⟨found, hf⟩ : ∃ found, ledger.getKeyByHash record.keyHash = some found :=
    Option.isSome_iff_exists.mp (List.find?_isSome.mpr ⟨record, hm, by simp⟩)
  obtain ⟨hfm, hh⟩ := ledger.getKeyByHash_some _ _ hf
  rw [hf, hd found hfm record hm hh]

end Ledger

theorem VirtualKeyCache.getActiveKey_some_iff (cache : VirtualKeyCache) (userId : String)
    (now : Int) (entry : VirtualKeyCacheEntry) :
    cache.getActiveKey userId now = some entry ↔
      cache.get userId = some entry ∧ epochSeconds now < entry.ttl ∧ entry.status = .Active := by
  unfold getActiveKey
  cases hc : cache.get userId with
  | none => simp
  | some found =>
      by_cases ht : found.ttl ≤ epochSeconds now
      · simp only [ht, ite_true]
        constructor
        · intro h
          cases h
        · rintro ⟨he, hlt, _⟩
          cases he
          omega
      · by_cases hs : found.status = .Active
        · simp only [ht, hs, ite_false, ne_eq, not_true_eq_false, Option.some.injEq]
          constructor
          · rintro rfl
            exact ⟨rfl, by omega, hs⟩
          · exact fun h => h.1
        · simp only [ht, hs, ite_false, ne_eq, not_false_eq_true, ite_true, Option.some.injEq]
          constructor
          · intro h
            cases h
          · rintro ⟨rfl, _, ha⟩
            exact absurd ha hs

end ClaudeCodeProxy
