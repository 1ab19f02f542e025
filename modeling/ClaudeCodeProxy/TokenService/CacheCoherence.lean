import ClaudeCodeProxy.Services.Freshness
import ClaudeCodeProxy.Services.Samples

namespace ClaudeCodeProxy

open Effects

-- The entry carries what a caller is told about the record.
structure VirtualKeyCacheEntry.Describes (entry : VirtualKeyCacheEntry) (record : VirtualKeyRecord) :
    Prop where
  userId : entry.userId = record.userId
  virtualKeyId : entry.virtualKeyId = record.id
  encryptedKeyRef : entry.encryptedKeyRef = record.encryptedKeyBlob
  keyPrefix : entry.keyPrefix = record.keyPrefix
  status : entry.status = record.status

theorem TokenIssueService.cacheEntry_describes (service : TokenIssueService)
    (record : VirtualKeyRecord) (now : Int) : (service.cacheEntry record now).Describes record :=
  ⟨rfl, rfl, rfl, rfl, rfl⟩

-- Every entry, expired or not, describes the record that a ledger read would select.
def CacheCoherent (ledger : Ledger) (cache : VirtualKeyCache) : Prop :=
  ∀ userId entry, cache.get userId = some entry →
    ∃ record, ledger.getActiveKeyForUser userId = some record ∧ entry.Describes record

namespace CacheCoherent

variable {ledger : Ledger} {cache : VirtualKeyCache}

theorem put (h : CacheCoherent ledger cache) (entry : VirtualKeyCacheEntry)
    (record : VirtualKeyRecord) (hrecord : ledger.getActiveKeyForUser entry.userId = some record)
    (hentry : entry.Describes record) : CacheCoherent ledger (cache.save entry) := by
  intro userId found hfound
  rcases cache.of_get_save entry userId found hfound with ⟨rfl, rfl⟩ | ⟨_, hold⟩
  · exact ⟨record, hrecord, hentry⟩
  · exact h userId found hold

theorem erase (h : CacheCoherent ledger cache) (userId : String) :
    CacheCoherent ledger (cache.erase userId) := by
  intro other found hfound
  exact h other found (cache.of_get_erase userId other found hfound).2

-- A ledger write for a user without a cache entry, over no record of another user.
theorem save (h : CacheCoherent ledger cache) (record : VirtualKeyRecord)
    (hcache : cache.get record.userId = none)
    (hold : ∀ old, ledger.get record.id = some old → old.userId = record.userId) :
    CacheCoherent (ledger.save record) cache := by
  intro userId entry hentry
  have hne : record.userId ≠ userId := by
    rintro rfl
    rw [hcache] at hentry
    cases hentry
  rw [Ledger.getActiveKeyForUser_save_of_not]
  · exact h userId entry hentry
  · exact fun huser => absurd huser hne
  · exact fun old hget huser => absurd ((hold old hget).symm.trans huser) hne

theorem retire (h : CacheCoherent ledger cache) (record copy : VirtualKeyRecord)
    (hget : ledger.get record.id = some record) (hretires : record.Retires copy) :
    CacheCoherent (ledger.save copy) (cache.erase copy.userId) := by
  apply (h.erase copy.userId).save copy (Store.Table.get_erase_self _ _)
  intro old hold
  rw [hretires.id, hget] at hold
  cases hold
  exact hretires.userId.symm

end CacheCoherent

variable (deployment : Deployment)

theorem act_cacheCoherent (world : World) (action : Action)
    (h : CacheCoherent world.ledger world.cache) (hfresh : FreshIds world action) :
    CacheCoherent (act deployment world action).ledger (act deployment world action).cache := by
  have hacted := act_acted deployment world action
  generalize act deployment world action = after at hacted ⊢
  cases hacted with
  | Advanced microseconds => exact h
  | Invoked request draw after hserved =>
      cases hserved with
      | Nothing | Provisioned => exact h
      | Dropped userId => exact h.erase userId
      | Filled userId requestId record heligible hrecord =>
          obtain ⟨_, rfl, _⟩ := world.ledger.getActiveKeyForUser_some userId record hrecord
          exact h.put _ record hrecord (TokenIssueService.cacheEntry_describes _ record _)
      | Issued userId requestId blob heligible hnone hencrypt =>
          let record := issuedRecord deployment draw userId blob world.clock
          have hselected : Ledger.getActiveKeyForUser (world.ledger.save record) userId =
              some record :=
            world.ledger.getActiveKeyForUser_save_of_none record rfl hnone
          -- a cache entry of this user would describe a record that is not there
          have hcache : world.cache.get userId = none := by
            cases hentry : world.cache.get userId with
            | none => rfl
            | some entry =>
                obtain ⟨found, hfound, _⟩ := h userId entry hentry
                rw [hnone] at hfound
                cases hfound
          have hsaved : CacheCoherent (world.ledger.save record) world.cache := by
            apply h.save record hcache
            intro old hold
            have hid : world.ledger.get record.id = none := hfresh
            rw [hid] at hold
            cases hold
          exact hsaved.put _ record hselected (TokenIssueService.cacheEntry_describes _ record _)
      | Retired request record copy hget hretired =>
          exact h.retire record copy hget hretired.retires
      | Replaced record blob hget hencrypt =>
          have hretires := record.retires_disabled
          apply (h.retire record _ hget hretires).save
            (issuedRecord deployment draw record.userId blob world.clock)
          · exact Store.Table.get_erase_self _ _
          · intro old hold
            rcases (Store.Table.mem_save _ _ _).mp (Store.Table.mem_of_get _ _ _ hold) with
              rfl | ⟨hm, _⟩
            · rfl
            · have hid : world.ledger.get draw.keyId = none := hfresh
              exact absurd (Store.Table.key_of_get _ _ _ hold)
                ((world.ledger.get_eq_none_iff _).mp hid old hm)

theorem run_cacheCoherent (start : World) (actions : List Action) (hcache : start.cache = .empty)
    (hfresh : Admissible (act deployment) FreshIds start actions) :
    CacheCoherent (runActions deployment start actions).ledger
      (runActions deployment start actions).cache := by
  have hstart : CacheCoherent start.ledger start.cache := by
    intro userId entry hentry
    rw [hcache] at hentry
    cases hentry
  apply exec_invariant (fun _ state => CacheCoherent state.ledger state.cache) hstart _ actions
    hfresh
  intro past state action h hdraw
  exact act_cacheCoherent deployment state action h hdraw

-- What a caller learns, apart from where the key came from.
structure KeyView where
  virtualKey : String
  userId : String
  keyId : String
  keyPrefix : String
  status : VirtualKeyStatus
  deriving DecidableEq

def TokenIssueResult.view (result : TokenIssueResult) : KeyView where
  virtualKey := result.virtualKey
  userId := result.userId
  keyId := result.keyId
  keyPrefix := result.keyPrefix
  status := result.status

theorem runGetOrCreateKey_hit (draw : Draw) (world : World) (userId requestId : String)
    (entry : VirtualKeyCacheEntry)
    (hhit : world.cache.getActiveKey userId world.clock = some entry) :
    (runGetOrCreateKey deployment draw world userId requestId).1 =
      (deployment.encryption.decrypt entry.encryptedKeyRef).map fun virtualKey =>
        cachedResult userId virtualKey entry := by
  have houtcome := getOrCreateKey_outcome deployment draw world userId requestId
  generalize runGetOrCreateKey deployment draw world userId requestId = served at houtcome ⊢
  obtain ⟨result, after⟩ := served
  cases houtcome with
  | Hit other virtualKey hother hdecrypt =>
      rw [hhit] at hother
      cases hother
      rw [hdecrypt]
      rfl
  | HitUnreadable other error hother hdecrypt =>
      rw [hhit] at hother
      cases hother
      rw [hdecrypt]
      rfl
  | NotRegistered hmiss | Denied hmiss | Reused _ _ hmiss | ReusedUnreadable _ _ hmiss
  | Unencrypted _ hmiss | Issued _ hmiss =>
      rw [hhit] at hmiss
      cases hmiss

theorem runGetOrCreateKey_reuse (draw : Draw) (world : World) (userId requestId : String)
    (record : VirtualKeyRecord)
    (hmiss : world.cache.getActiveKey userId world.clock = none) (heligible : world.Eligible userId)
    (hrecord : world.ledger.getActiveKeyForUser userId = some record) :
    runGetOrCreateKey deployment draw world userId requestId =
      ((deployment.encryption.decrypt record.encryptedKeyBlob).map fun virtualKey =>
        reusedResult userId virtualKey record, world.putRecord deployment record) := by
  have houtcome := getOrCreateKey_outcome deployment draw world userId requestId
  generalize runGetOrCreateKey deployment draw world userId requestId = served at houtcome ⊢
  obtain ⟨result, after⟩ := served
  cases houtcome with
  | Hit entry _ hhit | HitUnreadable entry _ hhit =>
      rw [hmiss] at hhit
      cases hhit
  | NotRegistered _ huser =>
      obtain ⟨user, hget, _⟩ := heligible
      rw [huser] at hget
      cases hget
  | Denied _ hdenied => exact absurd heligible hdenied
  | Reused other virtualKey _ _ hother hdecrypt =>
      rw [hrecord] at hother
      cases hother
      rw [hdecrypt]
      rfl
  | ReusedUnreadable other error _ _ hother hdecrypt =>
      rw [hrecord] at hother
      cases hother
      rw [hdecrypt]
      rfl
  | Unencrypted _ _ _ hnone | Issued _ _ _ hnone =>
      rw [hrecord] at hnone
      cases hnone

-- Where the cache answers, a ledger read would have answered the same, and every
-- entry describes the record that the ledger read selects.
theorem cache_transparent (start : World) (actions : List Action)
    (hcache : start.cache = .empty)
    (hfresh : Admissible (act deployment) FreshIds start actions) :
    let world := runActions deployment start actions
    (∀ userId requestId draw draw' entry, world.Eligible userId →
      world.cache.getActiveKey userId world.clock = some entry →
      (runGetOrCreateKey deployment draw world userId requestId).1.map TokenIssueResult.view =
        (runGetOrCreateKey deployment draw' { world with cache := .empty } userId
          requestId).1.map TokenIssueResult.view) ∧
    ∀ entry ∈ world.cache.rows, ∃ record,
      world.ledger.getActiveKeyForUser entry.userId = some record ∧ entry.Describes record := by
  intro world
  have hcoherent := run_cacheCoherent deployment start actions hcache hfresh
  constructor
  · intro userId requestId draw draw' entry heligible hhit
    obtain ⟨hentry, _, _⟩ := (world.cache.getActiveKey_some_iff userId _ entry).mp hhit
    obtain ⟨record, hrecord, hdescribes⟩ := hcoherent userId entry hentry
    rw [runGetOrCreateKey_hit deployment draw world userId requestId entry hhit,
      runGetOrCreateKey_reuse deployment draw' { world with cache := .empty } userId requestId
        record rfl heligible hrecord, hdescribes.encryptedKeyRef]
    cases deployment.encryption.decrypt record.encryptedKeyBlob with
    | error error => rfl
    | ok virtualKey =>
        simp [Except.map, TokenIssueResult.view, cachedResult, reusedResult,
          hdescribes.virtualKeyId, hdescribes.keyPrefix, hdescribes.status]
  · intro entry hm
    exact hcoherent entry.userId entry (world.cache.get_of_mem entry hm)

theorem cache_transparent_sample :
    let world := runActions sampleDeployment .initial [
      .Invoke (sampleProvision true) sampleFirst,
      .Invoke (.GetOrCreateKey "user-1" "request-1") sampleFirst,
      .Invoke (.Rotate "key-1") sampleSecond,
      .Invoke (.GetOrCreateKey "user-1" "request-2") sampleThird]
    (runGetOrCreateKey sampleDeployment sampleThird world "user-1" "request-3").1.map
        TokenIssueResult.view =
      (runGetOrCreateKey sampleDeployment sampleThird { world with cache := .empty } "user-1"
        "request-3").1.map TokenIssueResult.view :=
  (cache_transparent sampleDeployment .initial _ rfl (by decide)).1 "user-1" "request-3"
    sampleThird sampleThird {
      userId := "user-1"
      virtualKeyId := "key-2"
      encryptedKeyRef := "enc::vk_second"
      keyPrefix := "vk_second"
      status := .Active
      ttl := 1767225600 + 15 * 60 } (by decide) (by decide)

end ClaudeCodeProxy
