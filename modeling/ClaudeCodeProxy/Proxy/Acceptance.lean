import ClaudeCodeProxy.Proxy.Lemmas
import ClaudeCodeProxy.TokenService.CacheCoherence

namespace ClaudeCodeProxy

open Effects

-- The record's blob, its hash and the plaintext key belong together.
structure VirtualKeyRecord.Holds (deployment : Deployment) (record : VirtualKeyRecord)
    (virtualKey : String) : Prop where
  wellFormed : WellFormedKey virtualKey
  decrypt : deployment.encryption.decrypt record.encryptedKeyBlob = .ok virtualKey
  keyHash : record.keyHash = deployment.hashVirtualKey virtualKey

theorem VirtualKeyRecord.Retires.holds {deployment : Deployment} {record copy : VirtualKeyRecord}
    {virtualKey : String} (h : record.Retires copy) (hholds : record.Holds deployment virtualKey) :
    copy.Holds deployment virtualKey := by
  have hblob : copy.encryptedKeyBlob = record.encryptedKeyBlob :=
    congrArg KeyContent.encryptedKeyBlob h.content
  exact ⟨hholds.wellFormed, hblob ▸ hholds.decrypt, h.keyHash.trans hholds.keyHash⟩

def Ledger.WellFormed (deployment : Deployment) (ledger : Ledger) : Prop :=
  ∀ record ∈ ledger.rows, ∃ virtualKey, record.Holds deployment virtualKey

theorem Ledger.WellFormed.save {deployment : Deployment} {ledger : Ledger}
    (h : ledger.WellFormed deployment) (record : VirtualKeyRecord) (virtualKey : String)
    (hholds : record.Holds deployment virtualKey) :
    Ledger.WellFormed deployment (ledger.save record) := by
  intro other hm
  rcases (Store.Table.mem_save _ _ _).mp hm with rfl | ⟨hold, _⟩
  · exact ⟨virtualKey, hholds⟩
  · exact h other hold

theorem Ledger.WellFormed.retire {deployment : Deployment} {ledger : Ledger}
    (h : ledger.WellFormed deployment) (record copy : VirtualKeyRecord)
    (hget : ledger.get record.id = some record) (hretires : record.Retires copy) :
    Ledger.WellFormed deployment (ledger.save copy) := by
  obtain ⟨virtualKey, hholds⟩ := h record (ledger.mem_of_get _ _ hget)
  exact h.save copy virtualKey (hretires.holds hholds)

-- The users of cached keys are registered.
def World.CachedUsersKnown (world : World) : Prop :=
  ∀ userId entry, world.cache.get userId = some entry → (world.users.get userId).isSome

theorem issuedRecord_holds {deployment : Deployment} (hround : deployment.encryption.RoundTrip)
    (draw : Draw) (userId blob : String) (now : Int) (hkey : WellFormedKey draw.virtualKey)
    (hencrypt : deployment.encryption.encrypt draw.virtualKey = .ok blob) :
    (issuedRecord deployment draw userId blob now).Holds deployment draw.virtualKey :=
  ⟨hkey, hround _ _ hencrypt, rfl⟩

instance (virtualKey : String) : Decidable (WellFormedKey virtualKey) :=
  decidable_of_iff (Text.startsWith virtualKey VIRTUAL_KEY_PREFIX = true ∧
    Text.strip virtualKey = virtualKey)
    ⟨fun h => ⟨h.1, h.2⟩, fun h => ⟨h.beginning, h.stripped⟩⟩

-- The generators answer fresh keys of the proxy's form.
def ProperDraws (deployment : Deployment) (world : World) (action : Action) : Prop :=
  action.Draws fun draw => draw.Fresh deployment world ∧ WellFormedKey draw.virtualKey

instance (deployment : Deployment) (world : World) : DecidablePred (ProperDraws deployment world) :=
  fun action => inferInstanceAs (Decidable (action.Draws _))

theorem ProperDraws.freshDraws {deployment : Deployment} {world : World} {action : Action}
    (h : ProperDraws deployment world action) : FreshDraws deployment world action :=
  Action.Draws.mono (fun _ hdraw => hdraw.1) h

-- What makes the two services agree.
structure Agreed (deployment : Deployment) (world : World) : Prop where
  coherent : CacheCoherent world.ledger world.cache
  hashes : world.ledger.DistinctHashes
  wellFormed : world.ledger.WellFormed deployment
  known : world.CachedUsersKnown

variable (deployment : Deployment)

theorem act_wellFormed (hround : deployment.encryption.RoundTrip) (world : World) (action : Action)
    (h : world.ledger.WellFormed deployment) (hdraws : ProperDraws deployment world action) :
    (act deployment world action).ledger.WellFormed deployment := by
  have hacted := act_acted deployment world action
  generalize act deployment world action = after at hacted ⊢
  cases hacted with
  | Advanced microseconds => exact h
  | Invoked request draw after hserved =>
      cases hserved with
      | Nothing | Filled | Dropped | Provisioned => exact h
      | Issued userId requestId blob heligible hnone hencrypt =>
          exact h.save _ _ (issuedRecord_holds hround draw userId blob _ hdraws.2 hencrypt)
      | Retired request record copy hget hretired =>
          exact h.retire record copy hget hretired.retires
      | Replaced record blob hget hencrypt =>
          exact (h.retire record _ hget record.retires_disabled).save _ _
            (issuedRecord_holds hround draw record.userId blob _ hdraws.2 hencrypt)

theorem act_cachedUsersKnown (world : World) (action : Action) (h : world.CachedUsersKnown) :
    (act deployment world action).CachedUsersKnown := by
  have hput : ∀ entry : VirtualKeyCacheEntry, world.Eligible entry.userId →
      ∀ userId found, (world.cache.save entry).get userId = some found →
        (world.users.get userId).isSome := by
    intro entry heligible userId found hfound
    rcases world.cache.of_get_save entry userId found hfound with ⟨rfl, _⟩ | ⟨_, hold⟩
    · obtain ⟨user, hget, _⟩ := heligible
      simp [hget]
    · exact h userId found hold
  have herase : ∀ owner userId found, (world.cache.erase owner).get userId = some found →
      (world.users.get userId).isSome := by
    intro owner userId found hfound
    exact h userId found (world.cache.of_get_erase owner userId found hfound).2
  have hacted := act_acted deployment world action
  generalize act deployment world action = after at hacted ⊢
  cases hacted with
  | Advanced microseconds => exact h
  | Invoked request draw after hserved =>
      cases hserved with
      | Nothing => exact h
      | Filled userId requestId record heligible hrecord =>
          obtain ⟨_, rfl, _⟩ := world.ledger.getActiveKeyForUser_some userId record hrecord
          exact hput _ heligible
      | Issued userId requestId blob heligible hnone hencrypt => exact hput _ heligible
      | Retired request record copy hget hretired => exact herase copy.userId
      | Replaced record blob hget hencrypt => exact herase record.userId
      | Dropped userId => exact herase userId
      | Provisioned request user mapping =>
          intro userId entry hentry
          change ((world.users.save user).get userId).isSome
          rw [Store.Table.get_save]
          by_cases huser : userId = user.id
          · simp [huser]
          · rw [if_neg huser]
            exact h userId entry hentry

theorem act_agreed (hround : deployment.encryption.RoundTrip) (world : World) (action : Action)
    (h : Agreed deployment world) (hdraws : ProperDraws deployment world action) :
    Agreed deployment (act deployment world action) where
  coherent := act_cacheCoherent deployment world action h.coherent hdraws.freshDraws.freshIds
  hashes := act_distinctHashes deployment world action h.hashes hdraws.freshDraws
  wellFormed := act_wellFormed deployment hround world action h.wellFormed hdraws
  known := act_cachedUsersKnown deployment world action h.known

theorem run_agreed (hround : deployment.encryption.RoundTrip) (start : World)
    (actions : List Action) (hcache : start.cache = .empty)
    (hledger : start.ledger.WellFormed deployment) (hhashes : start.ledger.DistinctHashes)
    (hdraws : Admissible (act deployment) (ProperDraws deployment) start actions) :
    Agreed deployment (runActions deployment start actions) := by
  have hnone : ∀ userId entry, start.cache.get userId ≠ some entry := by
    intro userId entry hentry
    rw [hcache] at hentry
    cases hentry
  have hstart : Agreed deployment start := {
    coherent := fun userId entry hentry => absurd hentry (hnone userId entry)
    hashes := hhashes
    wellFormed := hledger
    known := fun userId entry hentry => absurd hentry (hnone userId entry) }
  apply exec_invariant (fun _ state => Agreed deployment state) hstart _ actions hdraws
  intro past state action h hdraw
  exact act_agreed deployment hround state action h hdraw

-- The record behind a result, in the state in which the result is returned.
structure TokenIssueResult.Backed (deployment : Deployment) (world : World) (userId : String)
    (result : TokenIssueResult) (record : VirtualKeyRecord) : Prop where
  mem : record ∈ world.ledger.rows
  userId : record.userId = userId
  active : record.status = .Active
  keyId : record.id = result.keyId
  keyPrefix : record.keyPrefix = result.keyPrefix
  holds : record.Holds deployment result.virtualKey

theorem getOrCreateKey_backed (hround : deployment.encryption.RoundTrip) (draw : Draw)
    (world : World) (userId requestId : String) (result : TokenIssueResult)
    (h : Agreed deployment world)
    (hdraws : ProperDraws deployment world (.Invoke (.GetOrCreateKey userId requestId) draw))
    (hresult : (runGetOrCreateKey deployment draw world userId requestId).1 = .ok result) :
    let after := (runGetOrCreateKey deployment draw world userId requestId).2
    (∃ record, result.Backed deployment after userId record) ∧
      ∃ user, after.users.get userId = some user := by
  have houtcome := getOrCreateKey_outcome deployment draw world userId requestId
  generalize runGetOrCreateKey deployment draw world userId requestId = served
    at houtcome hresult ⊢
  obtain ⟨answer, after⟩ := served
  have hholds : ∀ record virtualKey, record ∈ world.ledger.rows →
      deployment.encryption.decrypt record.encryptedKeyBlob = .ok virtualKey →
      record.Holds deployment virtualKey := by
    intro record virtualKey hm hdecrypt
    obtain ⟨held, hheld⟩ := h.wellFormed record hm
    have hsame := hheld.decrypt
    rw [hdecrypt] at hsame
    cases hsame
    exact hheld
  cases houtcome with
  | Hit entry virtualKey hhit hdecrypt =>
      cases hresult
      obtain ⟨hentry, _, _⟩ := (VirtualKeyCache.getActiveKey_some_iff _ userId _ entry).mp hhit
      obtain ⟨record, hrecord, hdescribes⟩ := h.coherent userId entry hentry
      obtain ⟨hm, huser, hactive⟩ := Ledger.getActiveKeyForUser_some _ userId record hrecord
      rw [hdescribes.encryptedKeyRef] at hdecrypt
      refine ⟨⟨record, hm, huser, hactive, hdescribes.virtualKeyId.symm,
        hdescribes.keyPrefix.symm, hholds record virtualKey hm hdecrypt⟩, ?_⟩
      exact Option.isSome_iff_exists.mp (h.known userId entry hentry)
  | Reused record virtualKey hmiss heligible hrecord hdecrypt =>
      cases hresult
      obtain ⟨hm, huser, hactive⟩ := world.ledger.getActiveKeyForUser_some userId record hrecord
      refine ⟨⟨record, hm, huser, hactive, rfl, rfl, hholds record virtualKey hm hdecrypt⟩, ?_⟩
      obtain ⟨user, hget, _⟩ := heligible
      exact ⟨user, hget⟩
  | Issued blob hmiss heligible hnone hencrypt =>
      cases hresult
      let record := issuedRecord deployment draw userId blob world.clock
      have hm : record ∈ (world.ledger.save record).rows := by simp
      refine ⟨⟨record, hm, rfl, rfl, rfl, rfl,
        issuedRecord_holds hround draw userId blob _ hdraws.2 hencrypt⟩, ?_⟩
      obtain ⟨user, hget, _⟩ := heligible
      exact ⟨user, hget⟩
  | HitUnreadable | NotRegistered | Denied | ReusedUnreadable | Unencrypted => cases hresult

-- The proxy accepts every key that the Token Service hands out, for the same user.
theorem issued_key_authenticates (start : World) (actions : List Action) (draw : Draw)
    (userId requestId proxyRequestId : String) (result : TokenIssueResult)
    (hround : deployment.encryption.RoundTrip)
    (hcache : start.cache = .empty)
    (hledger : start.ledger.WellFormed deployment)
    (hhashes : start.ledger.DistinctHashes)
    (hdraws : Admissible (act deployment) (ProperDraws deployment) start
      (actions ++ [.Invoke (.GetOrCreateKey userId requestId) draw]))
    (hresult : (runGetOrCreateKey deployment draw (runActions deployment start actions) userId
      requestId).1 = .ok result) :
    ∃ context, authenticate deployment
        (runGetOrCreateKey deployment draw (runActions deployment start actions) userId
          requestId).2
        (some ("Bearer " ++ result.virtualKey)) proxyRequestId = .ok context ∧
      context.userRecord.id = userId ∧ context.request.user.map (·.userId) = some userId ∧
      context.virtualKeyId = result.keyId ∧ context.keyPrefix = result.keyPrefix := by
  rw [admissible_append, admissible_singleton] at hdraws
  have hagreed := run_agreed deployment hround start actions hcache hledger hhashes hdraws.1
  have hafter := act_agreed deployment hround _ _ hagreed hdraws.2
  obtain ⟨⟨record, hbacked⟩, user, huser⟩ :=
    getOrCreateKey_backed deployment hround draw _ userId requestId result hagreed hdraws.2 hresult
  have hact : act deployment (runActions deployment start actions)
      (.Invoke (.GetOrCreateKey userId requestId) draw) =
      (runGetOrCreateKey deployment draw (runActions deployment start actions) userId
        requestId).2 := by
    simp only [act, serve_getOrCreateKey]
  rw [hact] at hafter
  have hlookup := Ledger.getKeyByHash_of_mem _ hafter.hashes record hbacked.mem
  rw [hbacked.holds.keyHash] at hlookup
  have hid : user.id = userId := Store.Table.key_of_get _ _ _ huser
  have haccepts := authenticate_accepts deployment _ result.virtualKey proxyRequestId record user
    hbacked.holds.wellFormed hlookup hbacked.active (by rw [hbacked.userId, huser])
  exact ⟨_, haccepts, hid, congrArg some hid, hbacked.keyId, hbacked.keyPrefix⟩

theorem issued_key_authenticates_sample :
    ∃ context, authenticate sampleDeployment
        (runGetOrCreateKey sampleDeployment sampleThird (runActions sampleDeployment sampleIssued
          [.Invoke (.InvalidateUserCache "user-1") sampleFirst,
            .Invoke (.Rotate "key-1") sampleSecond]) "user-1" "request-2").2
        (some ("Bearer " ++ "vk_second")) "request-3" = .ok context ∧
      context.userRecord.id = "user-1" ∧ context.request.user.map (·.userId) = some "user-1" ∧
      context.virtualKeyId = "key-2" ∧ context.keyPrefix = "vk_second" := by
  have hledger : World.initial.ledger.WellFormed sampleDeployment := by
    intro record hm
    cases hm
  exact issued_key_authenticates sampleDeployment .initial
    [.Invoke (sampleProvision true) sampleFirst,
      .Invoke (.GetOrCreateKey "user-1" "request-1") sampleFirst,
      .Invoke (.InvalidateUserCache "user-1") sampleFirst,
      .Invoke (.Rotate "key-1") sampleSecond] sampleThird "user-1" "request-2" "request-3" {
        virtualKey := "vk_second"
        userId := "user-1"
        keyId := "key-2"
        keyPrefix := "vk_second"
        status := .Active
        source := .Reused } fakeEncryptionService_roundTrip rfl hledger (by decide) (by decide)
    (by decide)

end ClaudeCodeProxy
