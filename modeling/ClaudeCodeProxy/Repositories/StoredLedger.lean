import ClaudeCodeProxy.Repositories.Storage

-- A table of virtual keys beside the in-memory ledger that it stands for.

namespace ClaudeCodeProxy

open Python PsycopgVirtualKeyStore

section Encoding

@[simp] theorem decodeUtf8_toUTF8 (text : String) : decodeUtf8 text.toUTF8 = .ok text := by
  have hvalid : text.toUTF8.IsValidUTF8 := text.isValidUTF8
  rw [decodeUtf8, String.fromUTF8?, dif_pos hvalid]
  rfl

@[simp] theorem rowToRecord_recordToRow (record : VirtualKeyRecord) :
    rowToRecord (recordToRow record) = .ok record := by
  simp only [rowToRecord, recordToRow, decodeUtf8_toUTF8, VirtualKeyStatus.ofValue_value, raising_ok]
  rfl

theorem recordToRow_injective : Function.Injective recordToRow := by
  intro first second h
  have hread := congrArg rowToRecord h
  rw [rowToRecord_recordToRow, rowToRecord_recordToRow] at hread
  exact Except.ok.inj hread

theorem mapM_rowToRecord (records : List VirtualKeyRecord) :
    (records.map recordToRow).mapM rowToRecord = .ok records := by
  induction records with
  | nil => rfl
  | cons record records ih =>
      rw [List.map_cons, List.mapM_cons, rowToRecord_recordToRow, ih]
      rfl

-- Rows that come from records, in another order, come from these records in that order.
theorem exists_records_of_perm {rows : List VirtualKeyRow} {records : List VirtualKeyRecord}
    (h : rows.Perm (records.map recordToRow)) :
    ∃ listed : List VirtualKeyRecord, rows = listed.map recordToRow ∧ listed.Perm records := by
  have hrange : ∀ row ∈ rows, ∃ record, recordToRow record = row := by
    intro row hm
    obtain ⟨record, _, hrecord⟩ := List.mem_map.mp (h.mem_iff.mp hm)
    exact ⟨record, hrecord⟩
  obtain ⟨listed, rfl⟩ : ∃ listed : List VirtualKeyRecord, listed.map recordToRow = rows := by
    clear h
    induction rows with
    | nil => exact ⟨[], rfl⟩
    | cons row rows ih =>
        obtain ⟨record, rfl⟩ := hrange row (.head _)
        obtain ⟨listed, rfl⟩ := ih fun other hm => hrange other (.tail _ hm)
        exact ⟨record :: listed, rfl⟩
  exact ⟨listed, rfl, (List.map_perm_map_iff recordToRow_injective).mp h⟩

end Encoding

namespace Ledger

-- No record of the ledger has the id or the hash of the record.
def New (ledger : Ledger) (record : VirtualKeyRecord) : Prop :=
  ∀ other ∈ ledger.rows, other.id ≠ record.id ∧ other.keyHash ≠ record.keyHash

instance (ledger : Ledger) : DecidablePred ledger.New := fun record =>
  inferInstanceAs (Decidable (∀ other ∈ ledger.rows,
    other.id ≠ record.id ∧ other.keyHash ≠ record.keyHash))

theorem New.rows_save {ledger : Ledger} {record : VirtualKeyRecord} (h : ledger.New record) :
    (ledger.save record).rows = ledger.rows ++ [record] := by
  apply Store.upsert_of_new
  rw [List.mem_map]
  rintro ⟨other, hm, hid⟩
  exact (h other hm).1 hid

-- For no user do two active records share the latest `created_at`.
def LatestActiveUnique (records : List VirtualKeyRecord) : Prop :=
  ∀ userId, Lists.SingleLatest VirtualKeyRecord.createdAt
    (records.filter (VirtualKeyRecord.isActiveFor userId))

theorem LatestActiveUnique.of_distinct {records : List VirtualKeyRecord}
    (h : ∀ first ∈ records, ∀ second ∈ records, first.userId = second.userId →
      first.createdAt = second.createdAt → first = second) : LatestActiveUnique records := by
  intro userId
  apply Lists.SingleLatest.of_distinct
  intro first hfirst second hsecond hsame
  obtain ⟨hfirst, howner⟩ := List.mem_filter.mp hfirst
  obtain ⟨hsecond, hother⟩ := List.mem_filter.mp hsecond
  rw [isActiveFor_iff] at howner hother
  exact h first hfirst second hsecond (howner.1.trans hother.1.symm) hsame

end Ledger

-- The table has the rows of the records of the ledger, in any order.
def VirtualKeyTable.Holds (table : VirtualKeyTable) (ledger : Ledger) : Prop :=
  table.rows.Perm (ledger.rows.map recordToRow)

instance (table : VirtualKeyTable) (ledger : Ledger) : Decidable (table.Holds ledger) :=
  inferInstanceAs (Decidable (List.Perm _ _))

namespace VirtualKeyTable.Holds

variable {table : VirtualKeyTable} {ledger : Ledger}

theorem admits_iff (h : table.Holds ledger) (record : VirtualKeyRecord) :
    table.Admits (recordToRow record) ↔ ledger.New record := by
  unfold Store.Relation.Admits Ledger.New
  rw [(h.map VirtualKeyRow.id).mem_iff, (h.map VirtualKeyRow.keyHash).mem_iff, List.map_map,
    List.map_map, List.mem_map, List.mem_map]
  constructor
  · rintro ⟨hid, hhash⟩ other hm
    exact ⟨fun hsame => hid ⟨other, hm, hsame⟩, fun hsame => hhash ⟨other, hm, hsame⟩⟩
  · intro hnew
    refine ⟨?_, ?_⟩
    · rintro ⟨other, hm, hsame⟩
      exact (hnew other hm).1 hsame
    · rintro ⟨other, hm, hsame⟩
      exact (hnew other hm).2 hsame

-- A record that is new to the ledger is saved in both.
theorem saveKey_of_new (h : table.Holds ledger) {record : VirtualKeyRecord}
    (hnew : ledger.New record) :
    ∃ after, PostgresVirtualKeyRepository.saveKey table record = .ok after ∧
      after.Holds (ledger.save record) := by
  obtain ⟨after, hinsert, hrows⟩ :=
    table.insert_of_admits (recordToRow record) ((h.admits_iff record).mpr hnew)
  refine ⟨after, ?_, ?_⟩
  · simp only [PostgresVirtualKeyRepository.saveKey, saveVirtualKey, hinsert]
  · unfold Holds
    rw [hrows, hnew.rows_save, List.map_append]
    exact h.append_right _

theorem saveKey_of_not_new (h : table.Holds ledger) {record : VirtualKeyRecord}
    (hold : ¬ledger.New record) :
    PostgresVirtualKeyRepository.saveKey table record = .error (.Raised "UniqueViolation") := by
  have hinsert : table.insert (recordToRow record) = none :=
    (table.insert_eq_none_iff _).mpr fun hadmits => hold ((h.admits_iff record).mp hadmits)
  simp only [PostgresVirtualKeyRepository.saveKey, saveVirtualKey, hinsert]

theorem getKeyByHash (h : table.Holds ledger) (keyHash : String) :
    PostgresVirtualKeyRepository.getKeyByHash table keyHash = .ok (ledger.getKeyByHash keyHash) := by
  unfold PostgresVirtualKeyRepository.getKeyByHash getVirtualKeyByHash
  cases hfound : ledger.getKeyByHash keyHash with
  | none =>
      have hnone : table.rows.find? (fun row => row.keyHash = keyHash) = none := by
        rw [List.find?_eq_none]
        intro row hm
        obtain ⟨record, hrecord, rfl⟩ := List.mem_map.mp (h.mem_iff.mp hm)
        exact List.find?_eq_none.mp hfound record hrecord
      rw [hnone]
  | some record =>
      obtain ⟨hm, hhash⟩ := ledger.getKeyByHash_some keyHash record hfound
      have hrow : table.rows.find? (fun row => row.keyHash = keyHash) =
          some (recordToRow record) := by
        rw [Store.find?_key_eq_some_iff table.rows table.uniques]
        exact ⟨h.mem_iff.mpr (List.mem_map_of_mem hm), hhash⟩
      rw [hrow]
      simp only [rowToRecord_recordToRow]
      rfl

section Listing

variable {listing : List VirtualKeyRow → List VirtualKeyRow}

-- The active records of a user, in the order of the listing.
theorem getActiveKeyForUser_eq (h : table.Holds ledger) (hlisting : ListsByCreatedAt listing)
    (userId : String) :
    ∃ listed : List VirtualKeyRecord, listing (table.rows.filter fun row => row.userId = userId) =
        listed.map recordToRow ∧
      (listed.filter fun record => record.status = .Active).Perm
        (ledger.rows.filter (VirtualKeyRecord.isActiveFor userId)) ∧
      PostgresVirtualKeyRepository.getActiveKeyForUser listing table userId =
        .ok (@List.argmax _ _ Int.instLinearOrder.toPreorder _ VirtualKeyRecord.createdAt
          (listed.filter fun record => record.status = .Active)) := by
  have hrows : (table.rows.filter fun row => row.userId = userId).Perm
      ((ledger.rows.filter fun record => record.userId = userId).map recordToRow) := by
    have hfilter := h.filter fun row => row.userId = userId
    rw [List.filter_map] at hfilter
    exact hfilter
  obtain ⟨listed, hlisted, hperm⟩ := exists_records_of_perm ((hlisting.perm _).trans hrows)
  refine ⟨listed, hlisted, ?_, ?_⟩
  · have hactive := hperm.filter fun record => decide (record.status = .Active)
    rw [List.filter_filter] at hactive
    have hsame : (ledger.rows.filter fun record =>
        decide (record.status = .Active) && decide (record.userId = userId)) =
        ledger.rows.filter (VirtualKeyRecord.isActiveFor userId) := by
      apply List.filter_congr
      intro record _
      rw [Bool.eq_iff_iff, isActiveFor_iff]
      simp [and_comm]
    rw [hsame] at hactive
    exact hactive
  · unfold PostgresVirtualKeyRepository.getActiveKeyForUser listVirtualKeysForUser
    rw [hlisted, mapM_rowToRecord]
    rfl

theorem getActiveKeyForUser (h : table.Holds ledger) (hlisting : ListsByCreatedAt listing)
    (userId : String) (hsingle : Lists.SingleLatest VirtualKeyRecord.createdAt
      (ledger.rows.filter (VirtualKeyRecord.isActiveFor userId))) :
    PostgresVirtualKeyRepository.getActiveKeyForUser listing table userId =
      .ok (ledger.getActiveKeyForUser userId) := by
  obtain ⟨listed, _, hperm, hget⟩ := h.getActiveKeyForUser_eq hlisting userId
  rw [hget]
  exact congrArg Except.ok (Lists.argmax_eq_of_perm hsingle hperm.symm)

end Listing

end VirtualKeyTable.Holds

end ClaudeCodeProxy
