import ClaudeCodeProxy.Lifecycle.Registry
import ClaudeCodeProxy.Repositories.VirtualKey

namespace ClaudeCodeProxy

open Lifecycle

-- What no operation changes about a key once its record is written.
structure KeyContent where
  userId : String
  keyHash : String
  encryptedKeyBlob : String
  keyPrefix : String
  createdAt : Int
  expiresAt : Option Int
  deriving DecidableEq

namespace VirtualKeyRecord

def content (record : VirtualKeyRecord) : KeyContent where
  userId := record.userId
  keyHash := record.keyHash
  encryptedKeyBlob := record.encryptedKeyBlob
  keyPrefix := record.keyPrefix
  createdAt := record.createdAt
  expiresAt := record.expiresAt

def item (record : VirtualKeyRecord) : Item KeyContent where
  content := record.content
  live := record.status = .Active

@[simp] theorem item_live (record : VirtualKeyRecord) :
    record.item.live = true ↔ record.status = .Active := by
  simp [item]

theorem item_live_false (record : VirtualKeyRecord) :
    record.item.live = false ↔ record.status ≠ .Active := by
  simp [item]

-- A dead copy of the record.
structure Retires (record copy : VirtualKeyRecord) : Prop where
  id : copy.id = record.id
  content : copy.content = record.content
  dead : copy.status ≠ .Active

theorem Retires.userId {record copy : VirtualKeyRecord} (h : Retires record copy) :
    copy.userId = record.userId :=
  congrArg KeyContent.userId h.content

theorem Retires.keyHash {record copy : VirtualKeyRecord} (h : Retires record copy) :
    copy.keyHash = record.keyHash :=
  congrArg KeyContent.keyHash h.content

theorem Retires.item {record copy : VirtualKeyRecord} (h : Retires record copy) :
    copy.item = ⟨record.item.content, false⟩ := by
  have hlive : copy.item.live = false := copy.item_live_false.mpr h.dead
  have hcontent : copy.item.content = record.item.content := h.content
  rw [← hlive, ← hcontent]

end VirtualKeyRecord

namespace Ledger

-- The ledger as a registry: which keys there are, what they are, and which are live.
def registry (ledger : Ledger) : Registry String KeyContent := fun id =>
  (ledger.get id).map VirtualKeyRecord.item

theorem registry_save (ledger : Ledger) (record : VirtualKeyRecord) :
    registry (ledger.save record) =
      Function.update ledger.registry record.id (some record.item) := by
  funext id
  by_cases h : id = record.id
  · subst h
    simp [registry]
  · rw [Function.update_of_ne h]
    simp [registry, h]

theorem registry_of_get (ledger : Ledger) (id : String) (record : VirtualKeyRecord)
    (h : ledger.get id = some record) : ledger.registry id = some record.item := by
  simp [registry, h]

-- A new active record is a birth.
theorem registry_birth (ledger : Ledger) (record : VirtualKeyRecord)
    (hactive : record.status = .Active) (hfresh : ledger.get record.id = none) :
    Step ledger.registry (registry (ledger.save record)) := by
  have hitem : record.item = ⟨record.content, true⟩ := by simp [VirtualKeyRecord.item, hactive]
  rw [registry_save, hitem]
  apply Step.Birth
  simp [registry, hfresh]

-- A dead copy written over a record of the same content is a retirement.
theorem registry_retire (ledger : Ledger) (record copy : VirtualKeyRecord)
    (hget : ledger.get copy.id = some record) (hretires : record.Retires copy) :
    Step ledger.registry (registry (ledger.save copy)) := by
  rw [registry_save, hretires.item]
  exact Step.Retire _ _ _ (ledger.registry_of_get _ _ hget)

-- A record lives on under its id, with its content, and active only if it was.
theorem get_of_evolves {first second : Ledger} (h : Evolves first.registry second.registry)
    (id : String) (record : VirtualKeyRecord) (hget : first.get id = some record) :
    ∃ later, second.get id = some later ∧ later.content = record.content ∧
      (later.status = .Active → record.status = .Active) := by
  obtain ⟨item, hitem, hcontent, hlive⟩ := h.persists id _ (first.registry_of_get id record hget)
  obtain ⟨later, hl, rfl⟩ := Option.map_eq_some_iff.mp hitem
  exact ⟨later, hl, hcontent, by simpa using hlive⟩

theorem dead_of_evolves {first second : Ledger} (h : Evolves first.registry second.registry)
    (id : String) (record : VirtualKeyRecord) (hget : first.get id = some record)
    (hdead : record.status ≠ .Active) :
    ∃ later, second.get id = some later ∧ later.content = record.content ∧
      later.status ≠ .Active := by
  obtain ⟨item, hitem, hcontent, hlive⟩ :=
    h.dead id _ (first.registry_of_get id record hget) (record.item_live_false.mpr hdead)
  obtain ⟨later, hl, rfl⟩ := Option.map_eq_some_iff.mp hitem
  exact ⟨later, hl, hcontent, later.item_live_false.mp hlive⟩

end Ledger

end ClaudeCodeProxy
