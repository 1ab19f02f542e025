import ClaudeCodeProxy.Services.Freshness
import ClaudeCodeProxy.Services.Samples
import ClaudeCodeProxy.TokenService.StoredService

-- The Token Service answers over storage as it does over the in-memory repositories.

namespace ClaudeCodeProxy

open Effects Python

namespace StoredWorld

-- The tables read as the repositories do. An expired item of the cache may be missing.
structure Stores (stored : StoredWorld) (world : World) : Prop where
  users : ∀ userId, PostgresUserRepository.getUser stored.users userId = world.users.get userId
  mappings : ∀ username, stored.mappings.get username = world.mappings.get username
  virtualKeys : stored.virtualKeys.Holds world.ledger
  items : ∀ userId,
    stored.items.get userId =
        (world.cache.get userId).map DynamoDbVirtualKeyCache.entryToItem ∨
      stored.items.get userId = none ∧ ∃ entry, world.cache.get userId = some entry ∧
        entry.ttl ≤ epochSeconds world.clock
  clock : stored.clock = world.clock

namespace Stores

variable {stored : StoredWorld} {world : World} (h : stored.Stores world)
include h

theorem dropExpired : stored.dropExpired.Stores world where
  users := h.users
  mappings := h.mappings
  virtualKeys := h.virtualKeys
  clock := h.clock
  items userId := by
    simp only [StoredWorld.dropExpired, Store.Table.get_select]
    rcases h.items userId with hitem | ⟨hitem, hexpired⟩
    · cases hentry : world.cache.get userId with
      | none =>
          rw [hentry] at hitem
          rw [hitem]
          exact Or.inl rfl
      | some entry =>
          rw [hentry, Option.map_some] at hitem
          rw [hitem, Option.filter_some]
          split
          · exact Or.inl rfl
          · rename_i hdropped
            right
            refine ⟨rfl, entry, rfl, ?_⟩
            simp only [Bool.not_eq_true, Bool.not_eq_false', Bool.and_eq_true,
              decide_eq_true_eq] at hdropped
            rw [← h.clock]
            exact hdropped.1
    · rw [hitem]
      exact Or.inr ⟨rfl, hexpired⟩

theorem advance (microseconds : Nat) :
    ({ stored with clock := stored.clock + microseconds } : StoredWorld).Stores
      { world with clock := world.clock + microseconds } where
  users := h.users
  mappings := h.mappings
  virtualKeys := h.virtualKeys
  clock := by
    simp only [h.clock]
  items userId := by
    rcases h.items userId with hitem | ⟨hitem, entry, hentry, hexpired⟩
    · exact Or.inl hitem
    · refine Or.inr ⟨hitem, entry, hentry, ?_⟩
      have hlater : world.clock ≤ world.clock + microseconds := by omega
      exact le_trans hexpired (epochSeconds_mono _ _ hlater)

-- An item that is missing would not have been read.
theorem getActiveKey (userId : String) :
    DynamoDbVirtualKeyCache.getActiveKey stored.items userId world.clock =
      .ok (world.cache.getActiveKey userId world.clock) := by
  unfold DynamoDbVirtualKeyCache.getActiveKey VirtualKeyCache.getActiveKey
  rcases h.items userId with hitem | ⟨hitem, entry, hentry, hexpired⟩
  · rw [hitem]
    cases world.cache.get userId with
    | none => rfl
    | some entry =>
        simp only [Option.map_some, DynamoDbVirtualKeyCache.entryToItem,
          VirtualKeyStatus.ofValue_value, raising_ok]
        by_cases hexpired : entry.ttl ≤ epochSeconds world.clock
        · rw [if_pos hexpired, if_pos hexpired]
        · rw [if_neg hexpired, if_neg hexpired]
          obtain ⟨owner, keyId, keyRef, keyPrefix, status, ttl⟩ := entry
          cases status with
          | Active => rfl
          | Disabled => rfl
          | Revoked => rfl
  · rw [hitem, hentry]
    simp only [if_pos hexpired]

theorem save_item (entry : VirtualKeyCacheEntry) :
    ({ stored with items :=
        DynamoDbVirtualKeyCache.putActiveKey stored.items entry } : StoredWorld).Stores
      { world with cache := world.cache.save entry } where
  users := h.users
  mappings := h.mappings
  virtualKeys := h.virtualKeys
  clock := h.clock
  items userId := by
    simp only [DynamoDbVirtualKeyCache.putActiveKey, Store.Table.get_save]
    have hkey : (DynamoDbVirtualKeyCache.entryToItem entry).userId = entry.userId := rfl
    rw [hkey]
    by_cases howner : userId = entry.userId
    · left
      rw [if_pos howner, if_pos howner]
      rfl
    · rw [if_neg howner, if_neg howner]
      exact h.items userId

theorem erase_item (userId : String) :
    ({ stored with items :=
        DynamoDbVirtualKeyCache.invalidateUser stored.items userId } : StoredWorld).Stores
      { world with cache := world.cache.erase userId } where
  users := h.users
  mappings := h.mappings
  virtualKeys := h.virtualKeys
  clock := h.clock
  items other := by
    simp only [DynamoDbVirtualKeyCache.invalidateUser]
    by_cases howner : other = userId
    · subst howner
      left
      rw [Store.Table.get_erase_self, Store.Table.get_erase_self]
      rfl
    · rw [Store.Table.get_erase_of_ne _ _ _ howner, Store.Table.get_erase_of_ne _ _ _ howner]
      exact h.items other

end Stores

end StoredWorld

-- The calls of the Token Service, in the states in which it makes them.
def World.TokenServiceCall (world : World) : Call → Prop
  | .SaveKey record => world.ledger.New record ∧
      world.ledger.getActiveKeyForUser record.userId = none
  | .GetActiveKey _ now => now = world.clock
  | .ProvisionUser _ _ | .GetKey _ => False
  | _ => True

theorem Draw.Fresh.new {deployment : Deployment} {world : World} {draw : Draw}
    (h : draw.Fresh deployment world) (userId blob : String) (now : Int) :
    world.ledger.New (issuedRecord deployment draw userId blob now) := by
  intro other hm
  exact ⟨(world.ledger.get_eq_none_iff _).mp h.keyId other hm, h.virtualKey other hm⟩

theorem getOrCreateKey_obeys (deployment : Deployment) (draw : Draw) (world : World)
    (hfresh : draw.Fresh deployment world) (userId requestId : String) :
    (deployment.tokenIssueService.getOrCreateKey userId requestId).Obeys (handle deployment draw)
      World.TokenServiceCall world := by
  simp only [TokenIssueService.getOrCreateKey, call_bind, Program.obeys_call, handle]
  refine ⟨trivial, rfl, ?_⟩
  cases world.cache.getActiveKey userId world.clock with
  | some entry =>
      simp only [Program.obeys_call, handle]
      refine ⟨trivial, ?_⟩
      cases deployment.encryption.decrypt entry.encryptedKeyRef with
      | ok virtualKey => trivial
      | error error => trivial
  | none =>
      simp only [TokenIssueService.requireAllowedUser_bind, Program.obeys_call, handle]
      refine ⟨trivial, ?_⟩
      cases huser : world.users.get userId with
      | none => trivial
      | some user =>
          by_cases hdenied : (!user.proxyAccessEnabled || !user.isActive) = true
          · simp only [if_pos hdenied]
            trivial
          · simp only [if_neg hdenied, Program.obeys_call, handle]
            refine ⟨trivial, ?_⟩
            cases hrecord : world.ledger.getActiveKeyForUser user.id with
            | some record =>
                simp only [TokenIssueService.cacheKeyRecord_bind, Program.obeys_call, handle]
                refine ⟨trivial, trivial, ?_⟩
                cases deployment.encryption.decrypt record.encryptedKeyBlob with
                | ok virtualKey => trivial
                | error error => trivial
            | none =>
                simp only [TokenIssueService.issueNewKey, TokenIssueService.cacheKeyRecord_bind,
                  saveKey_bind, call_bind, Program.obeys_call, handle]
                refine ⟨trivial, trivial, ?_⟩
                cases deployment.encryption.encrypt draw.virtualKey with
                | error error => trivial
                | ok blob =>
                    exact ⟨trivial, ⟨hfresh.new user.id blob world.clock, hrecord⟩, trivial, trivial⟩

section Related

variable {listing : List VirtualKeyRow → List VirtualKeyRow}

-- An answer of the tables is the one of the repositories, with what it leaves behind.
def StoredWorld.Agrees (stored : StoredWorld) (world : World) : Prop :=
  stored.Stores world ∧ Ledger.LatestActiveUnique world.ledger.rows

theorem LatestActiveUnique.save_first {ledger : Ledger}
    (h : Ledger.LatestActiveUnique ledger.rows) {record : VirtualKeyRecord}
    (hnew : ledger.New record) (hnone : ledger.getActiveKeyForUser record.userId = none) :
    Ledger.LatestActiveUnique (ledger.save record).rows := by
  intro userId
  rw [hnew.rows_save, List.filter_append]
  by_cases howner : record.userId = userId
  · subst howner
    have hempty : ledger.rows.filter (VirtualKeyRecord.isActiveFor record.userId) = [] :=
      List.argmax_eq_none.mp hnone
    rw [hempty, List.nil_append]
    apply Lists.SingleLatest.of_distinct
    intro first hfirst second hsecond _
    rw [List.mem_singleton.mp (List.mem_of_mem_filter hfirst),
      List.mem_singleton.mp (List.mem_of_mem_filter hsecond)]
  · have hother : [record].filter (VirtualKeyRecord.isActiveFor userId) = [] := by
      simp [VirtualKeyRecord.isActiveFor, howner]
    rw [hother, List.append_nil]
    exact h userId

theorem handle_related (hlisting : ListsByCreatedAt listing) (deployment : Deployment)
    (draw : Draw) (op : Call) (world : World) (stored : StoredWorld)
    (h : stored.Agrees world) (hcall : world.TokenServiceCall op) :
    (handle deployment draw op world).1 =
        (StoredWorld.answer listing deployment draw op stored).1 ∧
      (StoredWorld.answer listing deployment draw op stored).2.Agrees
        (handle deployment draw op world).2 := by
  obtain ⟨hstores, hunique⟩ := h
  cases op with
  | Clock | UtcNow => exact ⟨congrArg Except.ok hstores.clock.symm, hstores, hunique⟩
  | GenerateKey | GenerateKeyId | Uuid4 | Encrypt | Decrypt => exact ⟨rfl, hstores, hunique⟩
  | InvalidateProxyAuthCache keyId => exact ⟨rfl, hstores, hunique⟩
  | ProvisionUser user mapping => exact hcall.elim
  | GetKey keyId => exact hcall.elim
  | GetUser userId => exact ⟨congrArg Except.ok (hstores.users userId).symm, hstores, hunique⟩
  | GetActiveKeyForUser userId =>
      exact ⟨(hstores.virtualKeys.getActiveKeyForUser hlisting userId (hunique userId)).symm,
        hstores, hunique⟩
  | GetKeyByHash keyHash =>
      exact ⟨(hstores.virtualKeys.getKeyByHash keyHash).symm, hstores, hunique⟩
  | GetActiveKey userId now =>
      obtain rfl : now = world.clock := hcall
      exact ⟨(hstores.getActiveKey userId).symm, hstores, hunique⟩
  | PutActiveKey entry => exact ⟨rfl, hstores.save_item entry, hunique⟩
  | InvalidateUser userId => exact ⟨rfl, hstores.erase_item userId, hunique⟩
  | InvalidateTokenServiceCache userId => exact ⟨rfl, hstores.erase_item userId, hunique⟩
  | SaveKey record =>
      obtain ⟨hnew, hnone⟩ := hcall
      obtain ⟨after, hsave, hholds⟩ := hstores.virtualKeys.saveKey_of_new hnew
      simp only [StoredWorld.answer, hsave, handle]
      refine ⟨trivial, ?_, LatestActiveUnique.save_first hunique hnew hnone⟩
      exact { hstores with virtualKeys := hholds }

def World.KeyServiceCall (world : World) : KeyCall → Prop
  | .GetUserIdForUsername _ => True
  | .Service op => world.TokenServiceCall op

theorem requestKeyProgram_obeys (deployment : Deployment) (draw : Draw) (world : World)
    (hfresh : draw.Fresh deployment world) (event : Value) (requestId : String) :
    (TokenServiceHandler.requestKeyProgram deployment.tokenIssueService event requestId).Obeys
      (handleInMemory deployment draw) World.KeyServiceCall world := by
  unfold TokenServiceHandler.requestKeyProgram
  cases extractUsernameFromEvent event with
  | error error => trivial
  | ok username =>
      simp only [keyCall, Program.perform, Program.call_bind, Program.return_bind,
        Program.obeys_call, handleInMemory]
      refine ⟨trivial, ?_⟩
      cases world.userIdForUsername username with
      | none => trivial
      | some userId =>
          rw [Program.obeys_lift, handleInMemory_restrict]
          exact getOrCreateKey_obeys deployment draw world hfresh userId requestId

theorem handleInMemory_related (hlisting : ListsByCreatedAt listing) (deployment : Deployment)
    (draw : Draw) (op : KeyCall) (world : World) (stored : StoredWorld)
    (h : stored.Agrees world) (hcall : world.KeyServiceCall op) :
    (handleInMemory deployment draw op world).1 =
        (StoredWorld.handle listing deployment draw op stored).1 ∧
      (StoredWorld.handle listing deployment draw op stored).2.Agrees
        (handleInMemory deployment draw op world).2 := by
  have hdropped : stored.dropExpired.Agrees world := ⟨h.1.dropExpired, h.2⟩
  cases op with
  | Service op => exact handle_related hlisting deployment draw op world _ hdropped hcall
  | GetUserIdForUsername username =>
      refine ⟨?_, hdropped⟩
      simp only [handleInMemory, StoredWorld.handle, World.userIdForUsername,
        PostgresUserRepository.getUserIdForUsername, PsycopgUserStore.getIdentityMapping,
        h.1.mappings]
      cases world.mappings.get username with
      | none => rfl
      | some mapping => rfl

theorem tokenService_related (hlisting : ListsByCreatedAt listing) (deployment : Deployment)
    (input : TokenServiceEvent) (world : World) (stored : StoredWorld) (h : stored.Agrees world)
    (hfresh : input.draw.Fresh deployment world) :
    (inMemoryTokenService deployment world input).1 =
        (storedTokenService listing deployment stored input).1 ∧
      (storedTokenService listing deployment stored input).2.Agrees
        (inMemoryTokenService deployment world input).2 := by
  have hlater := h.1.advance input.elapsed
  have hdraw : input.draw.Fresh deployment { world with clock := world.clock + input.elapsed } :=
    ⟨hfresh.keyId, hfresh.virtualKey⟩
  unfold inMemoryTokenService storedTokenService TokenServiceHandler.handleEvent
  cases TokenServiceHandler.resolveRequestId input.event input.generated with
  | error error => exact ⟨rfl, hlater, h.2⟩
  | ok requestId =>
      obtain ⟨hanswer, hafter⟩ := Program.run_related
        (fun world (stored : StoredWorld) => stored.Agrees world)
        (fun op world stored hrel hcall =>
          handleInMemory_related hlisting deployment input.draw op world stored hrel hcall)
        (TokenServiceHandler.requestKeyProgram deployment.tokenIssueService input.event requestId)
        (And.intro hlater h.2) (requestKeyProgram_obeys deployment input.draw _ hdraw _ _)
      refine ⟨?_, hafter⟩
      simp only [hanswer]

end Related

section Loading

def userToRow (user : UserRecord) : UserRow where
  id := user.id
  email := user.email
  displayName := user.displayName
  department := user.department
  costCenter := user.costCenter
  groups := some user.groups
  proxyAccessEnabled := user.proxyAccessEnabled
  isActive := user.isActive
  createdAt := user.createdAt
  updatedAt := user.updatedAt

-- The tables with what the repositories hold, where the hashes allow it.
def StoredWorld.load (world : World) (hhashes : world.ledger.DistinctHashes)
    (drops : Nat → String → Bool) : StoredWorld where
  users := world.users.map userToRow fun _ => rfl
  mappings := world.mappings
  virtualKeys := {
    rows := world.ledger.rows.map PsycopgVirtualKeyStore.recordToRow
    keys := by
      rw [List.map_map]
      exact world.ledger.nodup
    uniques := by
      rw [List.map_map]
      exact List.Nodup.map_on (fun first hfirst second hsecond hsame =>
        hhashes first hfirst second hsecond hsame) world.ledger.nodup.of_map }
  items := world.cache.map DynamoDbVirtualKeyCache.entryToItem fun _ => rfl
  clock := world.clock
  drops := drops
  calls := 0

theorem StoredWorld.load_stores (world : World) (hhashes : world.ledger.DistinctHashes)
    (drops : Nat → String → Bool) : (load world hhashes drops).Stores world where
  users userId := by
    have hget : (load world hhashes drops).users.get userId =
        (world.users.get userId).map userToRow :=
      world.users.get_map userToRow (fun _ => rfl) userId
    unfold PostgresUserRepository.getUser PsycopgUserStore.getUser
    rw [hget]
    cases world.users.get userId with
    | none => rfl
    | some user => rfl
  mappings _ := rfl
  virtualKeys := .refl _
  items userId :=
    Or.inl (world.cache.get_map DynamoDbVirtualKeyCache.entryToItem (fun _ => rfl) userId)
  clock := rfl

end Loading

-- Where the generators do not repeat themselves, both kinds of repositories give the
-- same responses and come to the same ledger.
theorem storage_backends_interchangeable (deployment : Deployment)
    (listing : List VirtualKeyRow → List VirtualKeyRow) (hlisting : ListsByCreatedAt listing)
    (world : World) (stored : StoredWorld) (hstores : stored.Stores world)
    (hdistinct : ∀ first ∈ world.ledger.rows, ∀ second ∈ world.ledger.rows,
      first.userId = second.userId → first.createdAt = second.createdAt → first = second)
    (inputs : List TokenServiceEvent)
    (hfresh : Admissible (fun world input => (inMemoryTokenService deployment world input).2)
      (fun world input => input.draw.Fresh deployment world) world inputs) :
    (inMemoryTokenService deployment).transcript world inputs =
        (storedTokenService listing deployment).transcript stored inputs ∧
      ((storedTokenService listing deployment).final stored inputs).virtualKeys.Holds
        ((inMemoryTokenService deployment).final world inputs).ledger := by
  obtain ⟨hsame, _, hrel⟩ := Machine.transcript_eq_of_related (inMemoryTokenService deployment)
    (storedTokenService listing deployment)
    (fun past state (state' : StoredWorld) =>
      state = (inMemoryTokenService deployment).final world past ∧ state'.Agrees state)
    inputs ⟨rfl, hstores, .of_distinct hdistinct⟩ (by
      rintro past input hprefix state state' ⟨rfl, hrel⟩
      obtain ⟨hanswer, hafter⟩ := tokenService_related hlisting deployment input _ state' hrel
        (hfresh.ok_at hprefix)
      refine ⟨hanswer, ?_, hafter⟩
      rw [Machine.final_append]
      rfl)
  exact ⟨hsame, hrel.1.virtualKeys⟩

-- Two registered users, and an event of each.
def sampleTwoUsers : World := { World.initial with
  users := (Store.Table.empty.save sampleUser).save { sampleUser with id := "user-2" }
  mappings := (Store.Table.empty.save
    { username := "alice", userId := "user-1", createdAt := 0 }).save
      { username := "bob", userId := "user-2", createdAt := 0 } }

def sampleTokenServiceEvent (userArn : String) (draw : Draw) : TokenServiceEvent where
  event := .Mapping [("requestContext", .Mapping [
    ("identity", .Mapping [("userArn", .Str userArn)])])]
  generated := "request-1"
  elapsed := 1000000
  draw := draw

-- The cache drops whatever it may.
def sampleStored : StoredWorld := .load sampleTwoUsers (by decide) fun _ _ => true

theorem storage_backends_interchangeable_sample :
    let inputs := [sampleTokenServiceEvent "assumed-role/dev/alice" sampleFirst,
      sampleTokenServiceEvent "assumed-role/dev/bob" sampleSecond]
    let listing := Lists.latestFirst VirtualKeyRow.createdAt
    (inMemoryTokenService sampleDeployment).transcript sampleTwoUsers inputs =
        (storedTokenService listing sampleDeployment).transcript sampleStored inputs ∧
      ((storedTokenService listing sampleDeployment).final sampleStored inputs).virtualKeys.Holds
        ((inMemoryTokenService sampleDeployment).final sampleTwoUsers inputs).ledger :=
  storage_backends_interchangeable sampleDeployment _
    ⟨Lists.latestFirst_perm _, Lists.latestFirst_sorted _⟩ sampleTwoUsers sampleStored
    (StoredWorld.load_stores _ _ _) (by decide) _ (by decide)

-- A generator that answers the same key for two users: the table refuses the second.
theorem repeated_key_is_refused :
    ¬∀ (deployment : Deployment) (listing : List VirtualKeyRow → List VirtualKeyRow)
      (world : World) (stored : StoredWorld) (inputs : List TokenServiceEvent),
      ListsByCreatedAt listing → stored.Stores world →
      (∀ first ∈ world.ledger.rows, ∀ second ∈ world.ledger.rows,
        first.userId = second.userId → first.createdAt = second.createdAt → first = second) →
      (inMemoryTokenService deployment).transcript world inputs =
          (storedTokenService listing deployment).transcript stored inputs ∧
        ((storedTokenService listing deployment).final stored inputs).virtualKeys.Holds
          ((inMemoryTokenService deployment).final world inputs).ledger := by
  intro h
  let inputs := [sampleTokenServiceEvent "assumed-role/dev/alice" ⟨"vk_contract", "key-1"⟩,
    sampleTokenServiceEvent "assumed-role/dev/bob" ⟨"vk_contract", "key-2"⟩]
  obtain ⟨_, hholds⟩ := h sampleDeployment (Lists.latestFirst VirtualKeyRow.createdAt)
    sampleTwoUsers sampleStored inputs ⟨Lists.latestFirst_perm _, Lists.latestFirst_sorted _⟩
    (StoredWorld.load_stores _ _ _) (by decide)
  have hlength := hholds.length_eq
  revert hlength
  decide

end ClaudeCodeProxy
