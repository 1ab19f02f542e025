import ClaudeCodeProxy.Services.Freshness
import ClaudeCodeProxy.Services.Samples

namespace ClaudeCodeProxy

open Effects

variable (deployment : Deployment)

-- The user was eligible at a moment of the run from which `ttl` is at most one
-- lifetime away.
def EligibleBefore (start : World) (actions : List Action) (userId : String) (ttl : Int) : Prop :=
  ∃ past, past <+: actions ∧ (runActions deployment start past).Eligible userId ∧
    ttl ≤ epochSeconds ((runActions deployment start past).clock +
      normalizeCacheTtl deployment.cacheTtl)

theorem EligibleBefore.append {deployment : Deployment} {start : World} {actions : List Action}
    {userId : String} {ttl : Int} (h : EligibleBefore deployment start actions userId ttl)
    (action : Action) : EligibleBefore deployment start (actions ++ [action]) userId ttl := by
  obtain ⟨past, hprefix, heligible⟩ := h
  exact ⟨past, hprefix.trans (List.prefix_append _ _), heligible⟩

-- Only for an eligible user is an entry put into the cache.
theorem run_cache_eligible (start : World) (actions : List Action) (hcache : start.cache = .empty)
    (userId : String) (entry : VirtualKeyCacheEntry)
    (hentry : (runActions deployment start actions).cache.get userId = some entry) :
    EligibleBefore deployment start actions userId entry.ttl := by
  induction actions using List.reverseRecOn generalizing userId entry with
  | nil =>
      change start.cache.get userId = some entry at hentry
      rw [hcache] at hentry
      cases hentry
  | append_singleton past action ih =>
      have hlast : runActions deployment start (past ++ [action]) =
          act deployment (runActions deployment start past) action := by simp [runActions]
      rw [hlast] at hentry
      -- an entry that was there before has its moment already
      have hput : ∀ put : VirtualKeyCacheEntry,
          (runActions deployment start past).Eligible put.userId →
          put.ttl = epochSeconds ((runActions deployment start past).clock +
            normalizeCacheTtl deployment.cacheTtl) →
          ((runActions deployment start past).cache.save put).get userId = some entry →
          EligibleBefore deployment start (past ++ [action]) userId entry.ttl := by
        intro put heligible httl hget
        rcases Store.Table.of_get_save _ put userId entry hget with ⟨rfl, rfl⟩ | ⟨_, hold⟩
        · exact ⟨past, List.prefix_append _ _, heligible, httl.le⟩
        · exact (ih userId entry hold).append action
      have herase : ∀ owner,
          ((runActions deployment start past).cache.erase owner).get userId = some entry →
          EligibleBefore deployment start (past ++ [action]) userId entry.ttl := by
        intro owner hget
        exact (ih userId entry (Store.Table.of_get_erase _ owner userId entry hget).2).append action
      have hacted := act_acted deployment (runActions deployment start past) action
      generalize act deployment (runActions deployment start past) action = after at hacted hentry
      cases hacted with
      | Advanced microseconds => exact (ih userId entry hentry).append _
      | Invoked request draw after hserved =>
          cases hserved with
          | Nothing | Provisioned => exact (ih userId entry hentry).append _
          | Filled owner requestId record heligible hrecord =>
              obtain ⟨_, rfl, _⟩ := Ledger.getActiveKeyForUser_some _ owner record hrecord
              exact hput _ heligible rfl hentry
          | Issued owner requestId blob heligible hnone hencrypt =>
              exact hput _ heligible rfl hentry
          | Retired request record copy hget hretired => exact herase copy.userId hentry
          | Replaced record blob hget hencrypt => exact herase record.userId hentry
          | Dropped owner => exact herase owner hentry

-- A new active record is written by the Token Service for an eligible user, or by a
-- rotate for the owner of the key it rotates.
theorem serve_new_active_record (world : World) (request : Request) (draw : Draw)
    (record : VirtualKeyRecord) (hactive : record.status = .Active)
    (hbefore : record ∉ world.ledger.rows)
    (hafter : record ∈ (request.serve deployment draw world).2.ledger.rows) :
    (∃ requestId, request = .GetOrCreateKey record.userId requestId ∧
      world.Eligible record.userId) ∨
    ∃ rotated, request = .Rotate rotated.id ∧ world.ledger.get rotated.id = some rotated ∧
      rotated.userId = record.userId := by
  have hserved := serve_served deployment draw world request
  generalize (request.serve deployment draw world).2 = after at hserved hafter
  have hcopy : ∀ other copy : VirtualKeyRecord, other.Retires copy →
      record ∉ (world.ledger.save copy).rows := by
    intro other copy hretires hm
    rcases (Store.Table.mem_save _ _ _).mp hm with rfl | ⟨hold, _⟩
    · exact hretires.dead hactive
    · exact hbefore hold
  cases hserved with
  | Nothing | Filled | Dropped | Provisioned => exact absurd hafter hbefore
  | Issued userId requestId blob heligible hnone hencrypt =>
      rcases (Store.Table.mem_save _ _ _).mp hafter with rfl | ⟨hold, _⟩
      · exact Or.inl ⟨requestId, rfl, heligible⟩
      · exact absurd hold hbefore
  | Retired request other copy hget hretired =>
      exact absurd hafter (hcopy other copy hretired.retires)
  | Replaced other blob hget hencrypt =>
      rcases (Store.Table.mem_save _ _ _).mp hafter with rfl | ⟨hold, _⟩
      · exact Or.inr ⟨other, rfl, hget, rfl⟩
      · exact absurd hold (hcopy other _ other.retires_disabled)

-- A key comes from an unexpired cache entry or goes to an eligible user.
theorem getOrCreateKey_eligible (world : World) (draw : Draw) (userId requestId : String)
    (result : TokenIssueResult)
    (hresult : (runGetOrCreateKey deployment draw world userId requestId).1 = .ok result) :
    (result.source ≠ .Cache → world.Eligible userId) ∧
    (result.source = .Cache → ∃ entry, world.cache.get userId = some entry ∧
      epochSeconds world.clock < entry.ttl) := by
  have houtcome := getOrCreateKey_outcome deployment draw world userId requestId
  generalize runGetOrCreateKey deployment draw world userId requestId = served
    at houtcome hresult
  obtain ⟨answer, after⟩ := served
  cases houtcome with
  | Hit entry virtualKey hhit hdecrypt =>
      cases hresult
      obtain ⟨hentry, hlive, _⟩ := (VirtualKeyCache.getActiveKey_some_iff _ userId _ entry).mp hhit
      exact ⟨fun h => absurd rfl h, fun _ => ⟨entry, hentry, hlive⟩⟩
  | Reused record virtualKey hmiss heligible hrecord hdecrypt =>
      cases hresult
      exact ⟨fun _ => heligible, fun h => by cases h⟩
  | Issued blob hmiss heligible hnone hencrypt =>
      cases hresult
      exact ⟨fun _ => heligible, fun h => by cases h⟩
  | HitUnreadable | NotRegistered | Denied | ReusedUnreadable | Unencrypted => cases hresult

-- A key from the ledger goes to an eligible user. A key from the cache goes to a user
-- who was eligible less than one cache lifetime ago. A new active record is for an
-- eligible user, or replaces a key of the same user under rotation.
theorem keys_go_to_eligible_users (start : World) (actions : List Action)
    (hcache : start.cache = .empty) :
    let world := runActions deployment start actions
    (∀ userId requestId draw result,
      (runGetOrCreateKey deployment draw world userId requestId).1 = .ok result →
        (result.source ≠ .Cache → world.Eligible userId) ∧
        (result.source = .Cache → ∃ past, past <+: actions ∧
          (runActions deployment start past).Eligible userId ∧
          world.clock - normalizeCacheTtl deployment.cacheTtl <
            (runActions deployment start past).clock)) ∧
    ∀ (request : Request) (draw : Draw) (record : VirtualKeyRecord),
      record.status = .Active → record ∉ world.ledger.rows →
      record ∈ (request.serve deployment draw world).2.ledger.rows →
        (∃ requestId, request = .GetOrCreateKey record.userId requestId ∧
          world.Eligible record.userId) ∨
        ∃ rotated, request = .Rotate rotated.id ∧ world.ledger.get rotated.id = some rotated ∧
          rotated.userId = record.userId := by
  intro world
  refine ⟨?_, serve_new_active_record deployment world⟩
  intro userId requestId draw result hresult
  obtain ⟨hledger, hcached⟩ :=
    getOrCreateKey_eligible deployment world draw userId requestId result hresult
  refine ⟨hledger, ?_⟩
  intro hsource
  obtain ⟨entry, hentry, hlive⟩ := hcached hsource
  obtain ⟨past, hprefix, heligible, httl⟩ :=
    run_cache_eligible deployment start actions hcache userId entry hentry
  refine ⟨past, hprefix, heligible, ?_⟩
  have hlt := lt_of_epochSeconds_lt _ _ (lt_of_lt_of_le hlive httl)
  omega

theorem keys_go_to_eligible_users_sample :
    let actions : List Action := [.Invoke (sampleProvision true) sampleFirst,
      .Invoke (.GetOrCreateKey "user-1" "request-1") sampleFirst,
      .Invoke (sampleProvision false) sampleFirst, .Advance 1000000]
    ∃ past, past <+: actions ∧ (runActions sampleDeployment .initial past).Eligible "user-1" ∧
      (runActions sampleDeployment .initial actions).clock - minutes 15 <
        (runActions sampleDeployment .initial past).clock :=
  ((keys_go_to_eligible_users sampleDeployment .initial _ rfl).1 "user-1" "request-2" sampleSecond {
      virtualKey := "vk_first"
      userId := "user-1"
      keyId := "key-1"
      keyPrefix := "vk_first"
      status := .Active
      source := .Cache } (by decide)).2 rfl

-- A user who is deactivated after a key was cached still gets it, and a rotate still
-- writes a new active key for that user.
theorem deactivated_user_gets_key :
    (¬ ∀ (deployment : Deployment) (start : World) (actions : List Action) (draw : Draw)
        (userId requestId : String) (result : TokenIssueResult),
      start.cache = .empty →
      Admissible (act deployment) (FreshDraws deployment) start actions →
      (runGetOrCreateKey deployment draw (runActions deployment start actions) userId
        requestId).1 = .ok result →
      (runActions deployment start actions).Eligible userId) ∧
    ¬ ∀ (deployment : Deployment) (start : World) (actions : List Action) (request : Request)
        (draw : Draw) (record : VirtualKeyRecord),
      start.cache = .empty →
      Admissible (act deployment) (FreshDraws deployment) start
        (actions ++ [.Invoke request draw]) →
      record.status = .Active → record ∉ (runActions deployment start actions).ledger.rows →
      record ∈ (request.serve deployment draw
        (runActions deployment start actions)).2.ledger.rows →
      (runActions deployment start actions).Eligible record.userId := by
  let actions : List Action := [.Invoke (sampleProvision true) sampleFirst,
    .Invoke (.GetOrCreateKey "user-1" "request-1") sampleFirst,
    .Invoke (sampleProvision false) sampleFirst]
  constructor
  · intro h
    have heligible := h sampleDeployment .initial actions sampleSecond "user-1" "request-2" {
      virtualKey := "vk_first"
      userId := "user-1"
      keyId := "key-1"
      keyPrefix := "vk_first"
      status := .Active
      source := .Cache } rfl (by decide) (by decide)
    exact absurd heligible (by decide)
  · intro h
    have heligible := h sampleDeployment .initial actions (.Rotate "key-1") sampleSecond
      (issuedRecord sampleDeployment sampleSecond "user-1" "enc::vk_second" World.initial.clock)
      rfl (by decide) rfl (by decide) (by decide)
    exact absurd heligible (by decide)

end ClaudeCodeProxy
