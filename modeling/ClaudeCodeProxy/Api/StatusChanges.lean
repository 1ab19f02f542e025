import ClaudeCodeProxy.Api.Lemmas
import ClaudeCodeProxy.TokenService.StorageSwap

-- The saves of the key services, one after the other, on the table and on the ledger.

namespace ClaudeCodeProxy

open Effects PsycopgVirtualKeyStore

def VirtualKeyTable.saveAll (table : VirtualKeyTable) (records : List VirtualKeyRecord) :
    Except Failure VirtualKeyTable :=
  records.foldlM PostgresVirtualKeyRepository.saveKey table

abbrev Ledger.saveAll (ledger : Ledger) (records : List VirtualKeyRecord) : Ledger :=
  exec (fun ledger record => ledger.save record) ledger records

-- The saves of issue, and the ones of revoke, disable and rotate.
inductive LifecycleSave (ledger : Ledger) : VirtualKeyRecord → Prop
  | Created (record : VirtualKeyRecord) (hnew : ledger.New record) : LifecycleSave ledger record
  | Changed (record : VirtualKeyRecord) (status : VirtualKeyStatus) (revokedAt : Option Int)
      (hget : ledger.get record.id = some record) :
      LifecycleSave ledger { record with status := status, revokedAt := revokedAt }

section Programs

variable (deployment : Deployment) (draw : Draw) (world : World)

def World.SavesOnly (world : World) : Call → Prop
  | .SaveKey record => LifecycleSave world.ledger record
  | _ => True

theorem revoke_obeys (keyId : String) :
    (VirtualKeyLifecycleService.revoke keyId).Obeys (handle deployment draw) World.SavesOnly
      world := by
  simp only [VirtualKeyLifecycleService.revoke, VirtualKeyLifecycleService.requireKey,
    VirtualKeyLifecycleService.invalidate_bind, saveKey_bind, call_bind, Program.call_bind,
    Program.obeys_call, handle]
  refine ⟨trivial, ?_⟩
  cases hget : world.ledger.get keyId with
  | none => trivial
  | some record =>
      obtain rfl : record.id = keyId := world.ledger.key_of_get _ _ hget
      exact ⟨trivial, .Changed record .Revoked _ hget, trivial, trivial, trivial⟩

theorem disable_obeys (keyId : String) :
    (VirtualKeyLifecycleService.disable keyId).Obeys (handle deployment draw) World.SavesOnly
      world := by
  simp only [VirtualKeyLifecycleService.disable, VirtualKeyLifecycleService.requireKey,
    VirtualKeyLifecycleService.invalidate_bind, saveKey_bind, call_bind, Program.call_bind,
    Program.obeys_call, handle]
  refine ⟨trivial, ?_⟩
  cases hget : world.ledger.get keyId with
  | none => trivial
  | some record =>
      obtain rfl : record.id = keyId := world.ledger.key_of_get _ _ hget
      exact ⟨.Changed record .Disabled record.revokedAt hget, trivial, trivial, trivial⟩

-- The replacement is new to the ledger with the disabled copy in it.
theorem rotate_obeys (hfresh : draw.Fresh deployment world) (keyId : String) :
    (deployment.virtualKeyLifecycleService.rotate keyId).Obeys (handle deployment draw)
      World.SavesOnly world := by
  simp only [VirtualKeyLifecycleService.rotate, VirtualKeyLifecycleService.requireKey,
    VirtualKeyLifecycleService.invalidate_bind, saveKey_bind, call_bind, Program.call_bind,
    Program.obeys_call, handle]
  refine ⟨trivial, ?_⟩
  cases hget : world.ledger.get keyId with
  | none => trivial
  | some record =>
      obtain rfl : record.id = keyId := world.ledger.key_of_get _ _ hget
      refine ⟨.Changed record .Disabled record.revokedAt hget, trivial, trivial, trivial, trivial,
        trivial, ?_⟩
      rw [Program.obeys_call]
      refine ⟨trivial, ?_⟩
      simp only [handle]
      cases deployment.encryption.encrypt draw.virtualKey with
      | error error => trivial
      | ok blob =>
          have hnew := hfresh.new record.userId blob world.clock
          refine ⟨.Created _ (?_ : Ledger.New _ (issuedRecord deployment draw record.userId blob
            world.clock)), trivial⟩
          intro other hm
          rcases (Store.Table.mem_save _ _ _).mp hm with rfl | ⟨hold, _⟩
          · exact hnew record (world.ledger.mem_of_get _ _ hget)
          · exact hnew other hold

-- No request saves anything else.
theorem request_obeys (request : Request) (hfresh : draw.Fresh deployment world) :
    (request.program deployment).Obeys (handle deployment draw) World.SavesOnly world := by
  cases request with
  | GetOrCreateKey userId requestId =>
      have hissue := getOrCreateKey_obeys deployment draw world hfresh userId requestId
      refine (hissue.mono ?_).map _
      intro state op hcall
      cases op with
      | SaveKey record => exact .Created record hcall.1
      | _ => trivial
  | Revoke keyId => exact (revoke_obeys deployment draw world keyId).map _
  | Disable keyId => exact (disable_obeys deployment draw world keyId).map _
  | Rotate keyId => exact (rotate_obeys deployment draw world hfresh keyId).map _
  | InvalidateUserCache userId => exact ⟨trivial, trivial⟩
  | Provision provisioning => exact ⟨trivial, trivial, trivial, trivial, trivial⟩

end Programs

-- Every save succeeds, and afterwards the lookups in the table answer as in the ledger.
def Persist (listing : List VirtualKeyRow → List VirtualKeyRow) (table : VirtualKeyTable)
    (ledger : Ledger) (records : List VirtualKeyRecord) : Prop :=
  ∃ after, table.saveAll records = .ok after ∧
    (∀ keyHash, PostgresVirtualKeyRepository.getKeyByHash after keyHash =
      .ok ((ledger.saveAll records).getKeyByHash keyHash)) ∧
    ∀ userId, PostgresVirtualKeyRepository.getActiveKeyForUser listing after userId =
      .ok ((ledger.saveAll records).getActiveKeyForUser userId)

section Saves

variable {table : VirtualKeyTable} {ledger : Ledger} {records : List VirtualKeyRecord}

theorem saveAll_of_new (h : table.Holds ledger)
    (hnew : Admissible (fun ledger record => ledger.save record) Ledger.New ledger records) :
    ∃ after, table.saveAll records = .ok after ∧ after.Holds (ledger.saveAll records) ∧
      (ledger.saveAll records).rows = ledger.rows ++ records := by
  induction records generalizing table ledger with
  | nil => exact ⟨table, rfl, h, (List.append_nil _).symm⟩
  | cons record records ih =>
      obtain ⟨hfirst, hrest⟩ := hnew
      obtain ⟨middle, hsave, hmiddle⟩ := h.saveKey_of_new hfirst
      obtain ⟨after, hall, hholds, hrows⟩ := ih hmiddle hrest
      refine ⟨after, ?_, hholds, ?_⟩
      · unfold VirtualKeyTable.saveAll at hall ⊢
        rw [List.foldlM_cons, hsave]
        exact hall
      · rw [Ledger.saveAll, exec_cons, hrows, hfirst.rows_save, List.append_assoc]
        rfl

theorem new_of_saveAll (h : table.Holds ledger) {after : VirtualKeyTable}
    (hall : table.saveAll records = .ok after) :
    Admissible (fun ledger record => ledger.save record) Ledger.New ledger records := by
  induction records generalizing table ledger with
  | nil => trivial
  | cons record records ih =>
      unfold VirtualKeyTable.saveAll at hall
      rw [List.foldlM_cons] at hall
      by_cases hfirst : ledger.New record
      · obtain ⟨middle, hsave, hmiddle⟩ := h.saveKey_of_new hfirst
        rw [hsave] at hall
        exact ⟨hfirst, ih hmiddle hall⟩
      · rw [h.saveKey_of_not_new hfirst] at hall
        cases hall

-- The copy of a key that it retires is never saved.
theorem saveKey_of_retired (h : table.Holds ledger) (record copy : VirtualKeyRecord)
    (hget : ledger.get record.id = some record) (hretires : record.Retires copy) :
    PostgresVirtualKeyRepository.saveKey table copy = .error (.Raised "UniqueViolation") := by
  apply h.saveKey_of_not_new
  intro hnew
  exact (hnew record (ledger.mem_of_get _ _ hget)).1 hretires.id.symm

end Saves

section Ties

variable {table : VirtualKeyTable} {ledger : Ledger} (h : table.Holds ledger) {userId : String}
include h

-- Listed with a latest active record in front of the others, the table answers with it.
theorem argmax_listed_preferring {preferred : VirtualKeyRecord}
    (hm : preferred ∈ ledger.rows.filter (VirtualKeyRecord.isActiveFor userId))
    (hmax : ∀ other ∈ ledger.rows.filter (VirtualKeyRecord.isActiveFor userId),
      other.createdAt ≤ preferred.createdAt)
    {listed : List VirtualKeyRecord}
    (hlisted : Lists.latestPreferring VirtualKeyRow.createdAt (recordToRow preferred)
      (table.rows.filter fun row => row.userId = userId) = listed.map recordToRow) :
    (listed.filter fun record => record.status = .Active).argmax VirtualKeyRecord.createdAt =
      some preferred := by
  obtain ⟨hmem, howner⟩ := List.mem_filter.mp hm
  rw [isActiveFor_iff] at howner
  have hrow : recordToRow preferred ∈ table.rows.filter fun row => row.userId = userId :=
    List.mem_filter.mpr ⟨h.mem_iff.mpr (List.mem_map_of_mem hmem), decide_eq_true howner.1⟩
  have hactive : decide ((recordToRow preferred).status = VirtualKeyStatus.Active.value) = true := by
    rw [recordToRow, howner.2]
    exact decide_eq_true rfl
  have hlatest : ∀ row ∈ table.rows.filter fun row => row.userId = userId,
      decide (row.status = VirtualKeyStatus.Active.value) = true →
      row.createdAt ≤ (recordToRow preferred).createdAt := by
    intro row hrow hactive
    obtain ⟨hrow, huser⟩ := List.mem_filter.mp hrow
    obtain ⟨record, hrecord, rfl⟩ := List.mem_map.mp (h.mem_iff.mp hrow)
    apply hmax record
    rw [List.mem_filter, isActiveFor_iff]
    exact ⟨hrecord, of_decide_eq_true huser,
      VirtualKeyStatus.value_injective (of_decide_eq_true hactive)⟩
  have hfirst := Lists.argmax_filter_latestPreferring VirtualKeyRow.createdAt
    (recordToRow preferred) _ (fun row => row.status = VirtualKeyStatus.Active.value)
    hrow hactive hlatest
  rw [hlisted, List.filter_map, Lists.argmax_map, Option.map_eq_some_iff] at hfirst
  obtain ⟨record, hrecord, hsame⟩ := hfirst
  rw [← recordToRow_injective hsame, ← hrecord]
  congr 1
  apply List.filter_congr
  intro other _
  exact decide_eq_decide.mpr VirtualKeyStatus.value_injective.eq_iff.symm

-- Where two active records of a user share the latest moment, an order of the rows makes
-- the table answer with the one that the ledger does not select.
theorem exists_listing_of_tie (htie : ¬Lists.SingleLatest VirtualKeyRecord.createdAt
      (ledger.rows.filter (VirtualKeyRecord.isActiveFor userId))) :
    ∃ listing, ListsByCreatedAt listing ∧
      PostgresVirtualKeyRepository.getActiveKeyForUser listing table userId ≠
        .ok (ledger.getActiveKeyForUser userId) := by
  cases hselected : ledger.getActiveKeyForUser userId with
  | none =>
      have hempty : ledger.rows.filter (VirtualKeyRecord.isActiveFor userId) = [] :=
        List.argmax_eq_none.mp hselected
      rw [hempty] at htie
      exact absurd (fun latest hm => by cases hm) htie
  | some found =>
      obtain ⟨preferred, hm, hne, hmax⟩ := Lists.exists_other_latest htie found
      have hlisting : ListsByCreatedAt
          (Lists.latestPreferring VirtualKeyRow.createdAt (recordToRow preferred)) :=
        ⟨Lists.latestPreferring_perm _ _, Lists.latestPreferring_sorted _ _⟩
      refine ⟨_, hlisting, ?_⟩
      obtain ⟨listed, hlisted, _, hget⟩ := h.getActiveKeyForUser_eq hlisting userId
      rw [hget]
      intro hsame
      have hpicked := Except.ok.inj hsame
      rw [argmax_listed_preferring h hm hmax hlisted] at hpicked
      exact hne (Option.some.inj hpicked)

end Ties

-- The saves do what they do on the ledger exactly if none of them repeats an id or a
-- hash and no user is left with two latest active records.
theorem persist_iff (table : VirtualKeyTable) (ledger : Ledger) (h : table.Holds ledger)
    (records : List VirtualKeyRecord) :
    (∀ listing, ListsByCreatedAt listing → Persist listing table ledger records) ↔
      Admissible (fun ledger record => ledger.save record) Ledger.New ledger records ∧
        Ledger.LatestActiveUnique (ledger.rows ++ records) := by
  constructor
  · intro hpersist
    have hsorted : ListsByCreatedAt (Lists.latestFirst VirtualKeyRow.createdAt) :=
      ⟨Lists.latestFirst_perm _, Lists.latestFirst_sorted _⟩
    obtain ⟨after, hall, _⟩ := hpersist _ hsorted
    have hnew := new_of_saveAll h hall
    refine ⟨hnew, ?_⟩
    obtain ⟨final, hfinal, hholds, hrows⟩ := saveAll_of_new h hnew
    intro userId
    rw [← hrows]
    by_contra htie
    obtain ⟨listing, hlisting, hdiffers⟩ := exists_listing_of_tie hholds htie
    obtain ⟨other, hother, _, hactive⟩ := hpersist listing hlisting
    rw [hfinal] at hother
    cases hother
    exact hdiffers (hactive userId)
  · rintro ⟨hnew, hunique⟩ listing hlisting
    obtain ⟨after, hall, hholds, hrows⟩ := saveAll_of_new h hnew
    refine ⟨after, hall, hholds.getKeyByHash, ?_⟩
    intro userId
    apply hholds.getActiveKeyForUser hlisting userId
    rw [hrows]
    exact hunique userId

-- A ledger of one active key, and the table that holds it.
def sampleKeyLedger : Ledger :=
  Store.Table.empty.save (issuedRecord sampleDeployment sampleFirst "user-1" "enc::vk_first" 0)

def sampleKeyTable : VirtualKeyTable where
  rows := sampleKeyLedger.rows.map recordToRow
  keys := by decide
  uniques := by decide

theorem persist_iff_sample :
    Persist (Lists.latestFirst VirtualKeyRow.createdAt) sampleKeyTable sampleKeyLedger
      [issuedRecord sampleDeployment sampleSecond "user-1" "enc::vk_second" 1] :=
  (persist_iff sampleKeyTable sampleKeyLedger (.refl _) _).mpr
    ⟨by decide, .of_distinct (by decide)⟩ _
    ⟨Lists.latestFirst_perm _, Lists.latestFirst_sorted _⟩

-- A revocation does not persist: its INSERT repeats the id of the key.
theorem revocation_does_not_persist :
    ¬∀ (table : VirtualKeyTable) (ledger : Ledger) (records : List VirtualKeyRecord),
      table.Holds ledger →
      Admissible (fun ledger record => ledger.save record) LifecycleSave ledger records →
      ∀ listing, ListsByCreatedAt listing → Persist listing table ledger records := by
  intro h
  let record := issuedRecord sampleDeployment sampleFirst "user-1" "enc::vk_first" 0
  obtain ⟨after, hall, _⟩ := h sampleKeyTable sampleKeyLedger [record.revoked 1] (.refl _)
    ⟨.Changed record .Revoked (some 1) (by decide), trivial⟩ _
    ⟨Lists.latestFirst_perm VirtualKeyRow.createdAt, Lists.latestFirst_sorted _⟩
  have hholds : sampleKeyTable.Holds sampleKeyLedger := .refl _
  have hsave := saveKey_of_retired hholds record (record.revoked 1) (by decide)
    (record.retires_revoked 1)
  rw [VirtualKeyTable.saveAll, List.foldlM_cons, hsave] at hall
  cases hall

end ClaudeCodeProxy
