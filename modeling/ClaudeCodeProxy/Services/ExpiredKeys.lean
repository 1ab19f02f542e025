import ClaudeCodeProxy.Proxy.Lemmas
import ClaudeCodeProxy.TokenService.CacheCoherence

-- What becomes of `expires_at`: the code stores and reports it, and never compares it.

namespace ClaudeCodeProxy

open Effects

def VirtualKeyRecord.ExpiredAt (record : VirtualKeyRecord) (now : Int) : Prop :=
  ∃ expiresAt, record.expiresAt = some expiresAt ∧ expiresAt ≤ now

-- No entry outlives the key it stands for.
def World.CacheWithinLifetimes (world : World) : Prop :=
  ∀ entry ∈ world.cache.rows, ∀ record, world.ledger.get entry.virtualKeyId = some record →
    ∀ expiresAt, record.expiresAt = some expiresAt → entry.ttl ≤ epochSeconds expiresAt

section State

variable (deployment : Deployment) (world : World)

-- An expired key is neither accepted nor handed out, now or by an entry that stays.
structure ExpiredKeysDead : Prop where
  accepted : ∀ authorization requestId context,
    authenticate deployment world authorization requestId = .ok context →
    ∀ record, world.ledger.get context.virtualKeyId = some record → ¬record.ExpiredAt world.clock
  returned : ∀ draw userId requestId result,
    (runGetOrCreateKey deployment draw world userId requestId).1 = .ok result →
    ∀ record, (runGetOrCreateKey deployment draw world userId requestId).2.ledger.get
      result.keyId = some record → ¬record.ExpiredAt world.clock
  cached : world.CacheWithinLifetimes

-- No active key expires while it is in use: with a registered owner for the proxy, as the
-- latest one of an eligible user without a cache entry for the Token Service.
structure KeysOutliveUse : Prop where
  presented : ∀ authorization user record,
    presentedRecord deployment world authorization = some record → record.status = .Active →
    world.users.get record.userId = some user → ¬record.ExpiredAt world.clock
  latest : ∀ userId record virtualKey, world.cache.getActiveKey userId world.clock = none →
    world.Eligible userId → world.ledger.getActiveKeyForUser userId = some record →
    deployment.encryption.decrypt record.encryptedKeyBlob = .ok virtualKey →
    ¬record.ExpiredAt world.clock

-- A key that is put into the cache does not expire before its entry.
def OutlivesEntry : Action → Prop
  | .Invoke (.GetOrCreateKey userId _) _ =>
      world.cache.getActiveKey userId world.clock = none → world.Eligible userId →
      ∀ record, world.ledger.getActiveKeyForUser userId = some record →
      ∀ expiresAt, record.expiresAt = some expiresAt →
        epochSeconds (world.clock + normalizeCacheTtl deployment.cacheTtl) ≤ epochSeconds expiresAt
  | _ => True

theorem presentedRecord_mem (authorization : Option String) (record : VirtualKeyRecord)
    (h : presentedRecord deployment world authorization = some record) :
    record ∈ world.ledger.rows := by
  unfold presentedRecord at h
  cases hkey : ProxyAuthService.extractVirtualKey authorization "" with
  | error error =>
      rw [hkey] at h
      cases h
  | ok virtualKey =>
      rw [hkey] at h
      exact (world.ledger.getKeyByHash_some _ record h).1

-- The key that is handed out is the one of a live cache entry, the latest active one of
-- an eligible user, or new.
theorem returned_of_outlive (h : KeysOutliveUse deployment world)
    (hcached : world.CacheWithinLifetimes) (draw : Draw) (userId requestId : String)
    (result : TokenIssueResult)
    (hresult : (runGetOrCreateKey deployment draw world userId requestId).1 = .ok result)
    (record : VirtualKeyRecord)
    (hget : (runGetOrCreateKey deployment draw world userId requestId).2.ledger.get
      result.keyId = some record) : ¬record.ExpiredAt world.clock := by
  have houtcome := getOrCreateKey_outcome deployment draw world userId requestId
  generalize runGetOrCreateKey deployment draw world userId requestId = served
    at houtcome hresult hget
  obtain ⟨answer, after⟩ := served
  cases houtcome with
  | HitUnreadable | NotRegistered | Denied | ReusedUnreadable | Unencrypted => cases hresult
  | Hit entry virtualKey hhit hdecrypt =>
      cases hresult
      obtain ⟨hentry, hlive, _⟩ := (VirtualKeyCache.getActiveKey_some_iff _ userId _ entry).mp hhit
      rintro ⟨expiresAt, hexpires, hexpired⟩
      have hm := Store.Table.mem_of_get _ userId entry hentry
      have hwithin := hcached entry hm record hget expiresAt hexpires
      have hlt := lt_of_epochSeconds_lt _ _ (lt_of_lt_of_le hlive hwithin)
      omega
  | Reused selected virtualKey hmiss heligible hselected hdecrypt =>
      cases hresult
      obtain ⟨hm, _⟩ := Ledger.getActiveKeyForUser_some _ userId selected hselected
      have hsame : record = selected := by
        have hself := world.ledger.get_of_mem selected hm
        exact Option.some.inj (hget.symm.trans hself)
      rw [hsame]
      exact h.latest userId selected virtualKey hmiss heligible hselected hdecrypt
  | Issued blob hmiss heligible hnone hencrypt =>
      cases hresult
      have hself := world.ledger.get_save_self
        (issuedRecord deployment draw userId blob world.clock)
      have hsame : record = issuedRecord deployment draw userId blob world.clock :=
        Option.some.inj (hget.symm.trans hself)
      rw [hsame]
      rintro ⟨expiresAt, hexpires, _⟩
      cases hexpires

theorem expiredKeysDead_iff :
    ExpiredKeysDead deployment world ↔
      KeysOutliveUse deployment world ∧ world.CacheWithinLifetimes := by
  constructor
  · intro h
    refine ⟨⟨?_, ?_⟩, h.cached⟩
    · intro authorization user record hpresented hactive huser
      have haccepted := (authenticate_ok_iff deployment world authorization "" _).mpr
        ⟨record, user, hpresented, hactive, huser, rfl⟩
      exact h.accepted authorization "" _ haccepted record
        (world.ledger.get_of_mem record (presentedRecord_mem deployment world _ _ hpresented))
    · intro userId record virtualKey hmiss heligible hselected hdecrypt
      have hreturned := runGetOrCreateKey_reuse deployment ⟨"", ""⟩ world userId "" record hmiss
        heligible hselected
      rw [hdecrypt] at hreturned
      apply h.returned ⟨"", ""⟩ userId "" _ (congrArg Prod.fst hreturned) record
      rw [hreturned]
      obtain ⟨hm, _⟩ := Ledger.getActiveKeyForUser_some _ userId record hselected
      exact world.ledger.get_of_mem record hm
  · rintro ⟨houtlive, hcached⟩
    refine ⟨?_, returned_of_outlive deployment world houtlive hcached, hcached⟩
    intro authorization requestId context haccepted record hget
    obtain ⟨presented, user, hpresented, hactive, huser, rfl⟩ :=
      (authenticate_ok_iff deployment world authorization requestId context).mp haccepted
    have hself := world.ledger.get_of_mem presented
      (presentedRecord_mem deployment world _ _ hpresented)
    have hsame : record = presented := Option.some.inj (hget.symm.trans hself)
    rw [hsame]
    exact houtlive.presented authorization user presented hpresented hactive huser

end State

section Cache

variable (deployment : Deployment) {world : World}

-- A change of the ledger that gives no key an earlier end keeps the cache within bounds.
theorem World.CacheWithinLifetimes.of_ledger (h : world.CacheWithinLifetimes)
    (ledger : Ledger) (hledger : ∀ keyId record, ledger.get keyId = some record →
      record.expiresAt = none ∨ ∃ old, world.ledger.get keyId = some old ∧
        old.expiresAt = record.expiresAt) :
    ({ world with ledger := ledger } : World).CacheWithinLifetimes := by
  intro entry hm record hget expiresAt hexpires
  rcases hledger entry.virtualKeyId record hget with hnone | ⟨old, hold, hsame⟩
  · rw [hnone] at hexpires
    cases hexpires
  · exact h entry hm old hold expiresAt (hsame.trans hexpires)

theorem World.CacheWithinLifetimes.save (h : world.CacheWithinLifetimes)
    (record : VirtualKeyRecord) (hrecord : record.expiresAt = none ∨
      ∃ old, world.ledger.get record.id = some old ∧ old.expiresAt = record.expiresAt) :
    ({ world with ledger := world.ledger.save record } : World).CacheWithinLifetimes := by
  apply h.of_ledger
  intro keyId found hfound
  rcases world.ledger.of_get_save record keyId found hfound with ⟨rfl, rfl⟩ | ⟨_, hold⟩
  · exact hrecord
  · exact Or.inr ⟨found, hold, rfl⟩

theorem World.CacheWithinLifetimes.erase (h : world.CacheWithinLifetimes) (userId : String) :
    ({ world with cache := world.cache.erase userId } : World).CacheWithinLifetimes := by
  intro entry hm
  exact h entry ((Store.Table.mem_erase _ _ _).mp hm).1

-- A record that is put into the cache keeps it within bounds if it outlives the entry.
theorem putRecord_within_iff (h : world.CacheWithinLifetimes) (record : VirtualKeyRecord)
    (hget : world.ledger.get record.id = some record) :
    (world.putRecord deployment record).CacheWithinLifetimes ↔
      ∀ expiresAt, record.expiresAt = some expiresAt →
        epochSeconds (world.clock + normalizeCacheTtl deployment.cacheTtl) ≤
          epochSeconds expiresAt := by
  constructor
  · intro hafter
    exact hafter (deployment.tokenIssueService.cacheEntry record world.clock)
      ((Store.Table.mem_save _ _ _).mpr (Or.inl rfl)) record hget
  · intro houtlives entry hm found hfound expiresAt hexpires
    rcases (Store.Table.mem_save _ _ _).mp hm with rfl | ⟨hold, _⟩
    · have hsame : found = record := Option.some.inj (hfound.symm.trans hget)
      rw [hsame] at hexpires
      exact houtlives expiresAt hexpires
    · exact h entry hold found hfound expiresAt hexpires

end Cache

variable (deployment : Deployment)

theorem getOrCreateKey_within_iff (world : World) (h : world.CacheWithinLifetimes) (draw : Draw)
    (userId requestId : String) :
    (runGetOrCreateKey deployment draw world userId requestId).2.CacheWithinLifetimes ↔
      OutlivesEntry deployment world (.Invoke (.GetOrCreateKey userId requestId) draw) := by
  have houtcome := getOrCreateKey_outcome deployment draw world userId requestId
  generalize runGetOrCreateKey deployment draw world userId requestId = served at houtcome ⊢
  obtain ⟨answer, after⟩ := served
  -- but for a reuse the cache is as it was, or gets a key that never expires
  cases houtcome with
  | Hit entry _ hhit | HitUnreadable entry _ hhit =>
      apply iff_of_true h
      intro hmiss
      rw [hmiss] at hhit
      cases hhit
  | NotRegistered _ huser =>
      apply iff_of_true h
      rintro _ ⟨user, hget, _⟩
      rw [huser] at hget
      cases hget
  | Denied _ hdenied => exact iff_of_true h fun _ heligible => absurd heligible hdenied
  | Reused record _ hmiss heligible hrecord | ReusedUnreadable record _ hmiss heligible hrecord =>
      obtain ⟨hm, _⟩ := Ledger.getActiveKeyForUser_some _ userId record hrecord
      refine (putRecord_within_iff deployment h record (world.ledger.get_of_mem record hm)).trans ?_
      constructor
      · intro houtlives _ _ found hfound
        rw [hrecord] at hfound
        cases hfound
        exact houtlives
      · intro houtlives
        exact houtlives hmiss heligible record hrecord
  | Unencrypted _ _ _ hnone =>
      apply iff_of_true h
      intro _ _ record hrecord
      rw [hnone] at hrecord
      cases hrecord
  | Issued blob _ _ hnone =>
      refine iff_of_true ?_ ?_
      · have hsaved := h.save (issuedRecord deployment draw userId blob world.clock) (Or.inl rfl)
        apply (putRecord_within_iff deployment hsaved _ (Store.Table.get_save_self _ _)).mpr
        intro expiresAt hexpires
        cases hexpires
      · intro _ _ record hrecord
        rw [hnone] at hrecord
        cases hrecord

-- Of the other requests none lets an entry outlive its key.
theorem served_within {world after : World} {request : Request} {draw : Draw}
    (h : world.CacheWithinLifetimes) (hserved : Served deployment draw world request after)
    (hother : ∀ userId requestId, request ≠ .GetOrCreateKey userId requestId) :
    after.CacheWithinLifetimes := by
  have hretired : ∀ record copy : VirtualKeyRecord, world.ledger.get record.id = some record →
      record.Retires copy → (world.retire copy).CacheWithinLifetimes := by
    intro record copy hget hretires
    have hsaved := h.save copy (Or.inr ⟨record, by rw [hretires.id, hget], ?_⟩)
    · exact hsaved.erase copy.userId
    · exact (congrArg KeyContent.expiresAt hretires.content).symm
  cases hserved with
  | Nothing => exact h
  | Filled userId requestId | Issued userId requestId => exact absurd rfl (hother userId requestId)
  | Retired request record copy hget hretirement =>
      exact hretired record copy hget hretirement.retires
  | Replaced record blob hget hencrypt =>
      exact (hretired record _ hget record.retires_disabled).save _ (Or.inl rfl)
  | Dropped userId => exact h.erase userId
  | Provisioned request user mapping => exact h

theorem act_within_iff (world : World) (action : Action) (h : world.CacheWithinLifetimes) :
    (act deployment world action).CacheWithinLifetimes ↔
      OutlivesEntry deployment world action := by
  cases action with
  | Advance microseconds => exact iff_of_true h trivial
  | Invoke request draw =>
      have hserved := serve_served deployment draw world request
      cases request with
      | GetOrCreateKey userId requestId =>
          rw [act, serve_getOrCreateKey]
          exact getOrCreateKey_within_iff deployment world h draw userId requestId
      | Revoke | Disable | Rotate | InvalidateUserCache | Provision =>
          exact iff_of_true (served_within deployment h hserved (by simp)) trivial

-- In a run expired keys are dead throughout exactly if no active key expires while it is
-- in use and no key is put into the cache that expires before its entry.
theorem expired_keys_dead_iff (start : World) (actions : List Action)
    (hcache : start.cache = .empty) :
    (∀ past, past <+: actions → ExpiredKeysDead deployment (runActions deployment start past)) ↔
      (∀ past, past <+: actions →
        KeysOutliveUse deployment (runActions deployment start past)) ∧
      Admissible (act deployment) (OutlivesEntry deployment) start actions := by
  have hstart : start.CacheWithinLifetimes := by
    intro entry hm
    rw [hcache] at hm
    cases hm
  have hcached := forall_prefix_iff
    (fun world action hwithin (_ : True) => act_within_iff deployment world action hwithin)
    hstart (admissible_of_forall (fun _ _ => trivial) start actions)
  rw [← hcached]
  constructor
  · intro h
    refine ⟨fun past hprefix => ?_, fun past hprefix => ?_⟩
    · exact ((expiredKeysDead_iff deployment _).mp (h past hprefix)).1
    · exact (h past hprefix).cached
  · rintro ⟨houtlive, hwithin⟩ past hprefix
    exact (expiredKeysDead_iff deployment _).mpr ⟨houtlive past hprefix, hwithin past hprefix⟩

-- A registered user with one active key, which ends `lifetime` after the start.
def sampleEnding (lifetime : Int) : World := { World.initial with
  users := Store.Table.empty.save sampleUser
  ledger := Store.Table.empty.save
    { sampleRecord with expiresAt := some (World.initial.clock + lifetime) } }

-- A key with five minutes to go is cached for fifteen.
theorem expired_keys_dead_iff_sample :
    ¬∀ past, past <+: [.Invoke (.GetOrCreateKey "user-1" "request-1") sampleSecond] →
      ExpiredKeysDead sampleDeployment
        (runActions sampleDeployment (sampleEnding (minutes 5)) past) := by
  intro h
  obtain ⟨_, houtlives, _⟩ := (expired_keys_dead_iff sampleDeployment (sampleEnding (minutes 5))
    [.Invoke (.GetOrCreateKey "user-1" "request-1") sampleSecond] rfl).mp h
  have hle := houtlives (by decide) (by decide) _ rfl _ rfl
  revert hle
  decide

def Action.ByTokenService : Action → Prop
  | .Invoke (.GetOrCreateKey _ _) _ | .Advance _ => True
  | _ => False

-- A key that has ended is still accepted.
theorem expired_key_is_accepted :
    ¬∀ (deployment : Deployment) (start : World) (actions : List Action),
      start.cache = .empty → (∀ action ∈ actions, action.ByTokenService) →
      ExpiredKeysDead deployment (runActions deployment start actions) := by
  intro h
  have hdead := h sampleDeployment (sampleEnding 0) [] rfl (by simp)
  have haccepted : authenticate sampleDeployment (sampleEnding 0) (some "Bearer vk_first")
      "request-1" = .ok (restoreTrustedRequestContext "request-1" sampleUser "key-1"
        (sampleHash "vk_first") "vk_first") := by decide
  have hlive := hdead.accepted (some "Bearer vk_first") "request-1" _ haccepted _ rfl
  exact hlive ⟨World.initial.clock, by decide, le_refl _⟩

end ClaudeCodeProxy
