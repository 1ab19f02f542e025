import ClaudeCodeProxy.Effects.Interleaving
import ClaudeCodeProxy.Services.Samples
import ClaudeCodeProxy.Services.Steps

namespace ClaudeCodeProxy

open Effects Lifecycle

-- A request with the draws it will make.
structure Job where
  request : Request
  draw : Draw
  deriving DecidableEq

-- What happens without a request: time passes, or the cache table deletes an
-- expired entry.
inductive Change
  | Advance (microseconds : Nat)
  | Expire (userId : String)
  deriving DecidableEq

def World.change (world : World) : Change → World
  | .Advance microseconds => { world with clock := world.clock + microseconds }
  | .Expire userId =>
      match world.cache.get userId with
      | none => world
      | some entry =>
          if entry.ttl ≤ epochSeconds world.clock then
            { world with cache := world.cache.erase userId }
          else world

-- Any number of requests under way, one store call at a time.
def keySystem (deployment : Deployment) :
    System collaborators Failure Response Job World Change where
  start job := job.request.program deployment
  handler job := handle deployment job.draw
  environment change world := world.change change

abbrev KeyThread : Type := Thread collaborators Failure Response Job
abbrev KeyPool : Type := Pool collaborators Failure Response Job World
abbrev KeyEvent : Type := Event Job Change

-- No call is in progress.
def Quiescent (pool : KeyPool) : Prop := ∀ thread ∈ pool.threads, thread.finished

instance (pool : KeyPool) : Decidable (Quiescent pool) :=
  inferInstanceAs (Decidable (∀ thread ∈ pool.threads, thread.finished))

-- What one store call does to the ledger, the cache and the clock.
inductive Touches (world : World) : Call → World → Prop
  | Kept (op : Call) (after : World) (hledger : after.ledger = world.ledger)
      (hcache : after.cache = world.cache) (hclock : after.clock = world.clock)
      (hquiet : ∀ userId, op ≠ .InvalidateTokenServiceCache userId) :
      Touches world op after
  | Saved (record : VirtualKeyRecord) :
      Touches world (.SaveKey record) { world with ledger := world.ledger.save record }
  | Put (entry : VirtualKeyCacheEntry) :
      Touches world (.PutActiveKey entry) { world with cache := world.cache.save entry }
  | Dropped (op : Call) (userId : String)
      (hop : op = .InvalidateUser userId ∨ op = .InvalidateTokenServiceCache userId) :
      Touches world op { world with cache := world.cache.erase userId }

theorem handle_touches (deployment : Deployment) (draw : Draw) (op : Call) (world : World) :
    Touches world op (handle deployment draw op world).2 := by
  cases op with
  | SaveKey record => exact .Saved record
  | PutActiveKey entry => exact .Put entry
  | InvalidateUser userId => exact .Dropped _ userId (Or.inl rfl)
  | InvalidateTokenServiceCache userId => exact .Dropped _ userId (Or.inr rfl)
  | Clock | UtcNow | GenerateKey | GenerateKeyId | Uuid4 | Encrypt | Decrypt | GetUser
  | ProvisionUser | GetActiveKeyForUser | GetKeyByHash | GetKey | GetActiveKey
  | InvalidateProxyAuthCache => exact .Kept _ _ rfl rfl rfl (by simp)

theorem Touches.clock {world after : World} {op : Call} (h : Touches world op after) :
    after.clock = world.clock := by
  cases h with
  | Kept op after hledger hcache hclock hquiet => exact hclock
  | Saved | Put | Dropped => rfl

-- A change of its own leaves the ledger alone and adds nothing to the cache.
theorem World.change_ledger (world : World) (change : Change) :
    (world.change change).ledger = world.ledger := by
  cases change with
  | Advance microseconds => rfl
  | Expire userId =>
      simp only [World.change]
      cases world.cache.get userId with
      | none => rfl
      | some entry =>
          by_cases hexpired : entry.ttl ≤ epochSeconds world.clock
          · simp [hexpired]
          · simp [hexpired]

theorem World.change_cache (world : World) (change : Change) (owner : String)
    (entry : VirtualKeyCacheEntry) (h : (world.change change).cache.get owner = some entry) :
    world.cache.get owner = some entry := by
  cases change with
  | Advance microseconds => exact h
  | Expire userId =>
      simp only [World.change] at h
      cases hget : world.cache.get userId with
      | none =>
          rw [hget] at h
          exact h
      | some found =>
          rw [hget] at h
          by_cases hexpired : found.ttl ≤ epochSeconds world.clock
          · simp only [hexpired, ite_true] at h
            exact (Store.Table.of_get_erase _ _ _ _ h).2
          · simp only [hexpired, ite_false] at h
            exact h

theorem World.change_clock (world : World) (change : Change) :
    world.clock ≤ (world.change change).clock := by
  cases change with
  | Advance microseconds =>
      change world.clock ≤ world.clock + (microseconds : Int)
      omega
  | Expire userId =>
      simp only [World.change]
      cases world.cache.get userId with
      | none => exact le_refl _
      | some entry =>
          by_cases hexpired : entry.ttl ≤ epochSeconds world.clock
          · simp [hexpired]
          · simp [hexpired]

def IsPut (op : Call) : Prop := ∃ entry, op = .PutActiveKey entry

def NotIssued (response : Response) : Prop := ∀ result, response ≠ .Issued result

theorem avoids_call {op : Call} {rest : op.Reply → Service α} {good : α → Prop}
    (hop : ∀ entry, op ≠ .PutActiveKey entry)
    (hrest : ∀ reply, (rest reply).Avoids IsPut good) : (call op >>= rest).Avoids IsPut good :=
  ⟨fun ⟨entry, hput⟩ => hop entry hput, hrest⟩

-- Only `getOrCreateKey` fills the cache and hands out keys.
theorem program_avoids (deployment : Deployment) (request : Request)
    (hother : ∀ userId requestId, request ≠ .GetOrCreateKey userId requestId) :
    (request.program deployment).Avoids IsPut NotIssued := by
  have hkey : ∀ keyId, (VirtualKeyLifecycleService.requireKey keyId).Avoids IsPut fun _ => True := by
    intro keyId
    refine avoids_call (by simp) ?_
    intro found
    cases found with
    | none => trivial
    | some record => trivial
  have hinvalidate : ∀ record,
      (VirtualKeyLifecycleService.invalidate record).Avoids IsPut fun _ => True :=
    fun record => avoids_call (by simp) fun _ => avoids_call (by simp) fun _ => trivial
  cases request with
  | GetOrCreateKey userId requestId => exact absurd rfl (hother userId requestId)
  | Revoke keyId =>
      have h : (VirtualKeyLifecycleService.revoke keyId).Avoids IsPut fun _ => True :=
        (hkey keyId).bind fun record _ => avoids_call (by simp) fun now =>
          avoids_call (by simp) fun _ => (hinvalidate _).bind fun _ _ => trivial
      exact h.bind fun record _ => fun result => by simp
  | Disable keyId =>
      have h : (VirtualKeyLifecycleService.disable keyId).Avoids IsPut fun _ => True :=
        (hkey keyId).bind fun record _ => avoids_call (by simp) fun _ =>
          (hinvalidate _).bind fun _ _ => trivial
      exact h.bind fun record _ => fun result => by simp
  | Rotate keyId =>
      have h : (deployment.virtualKeyLifecycleService.rotate keyId).Avoids IsPut fun _ => True :=
        (hkey keyId).bind fun record _ => avoids_call (by simp) fun _ =>
          (hinvalidate _).bind fun _ _ => avoids_call (by simp) fun newVirtualKey =>
            avoids_call (by simp) fun now => avoids_call (by simp) fun newKeyId =>
              avoids_call (by simp) fun encryptedKey => avoids_call (by simp) fun _ => trivial
      exact h.bind fun record _ => fun result => by simp
  | InvalidateUserCache userId => exact avoids_call (by simp) fun _ => fun result => by simp
  | Provision request =>
      have h : (UserProvisioningService.provision request).Avoids IsPut fun _ => True :=
        avoids_call (by simp) fun createdAt => avoids_call (by simp) fun updatedAt =>
          avoids_call (by simp) fun mappedAt => avoids_call (by simp) fun _ => trivial
      exact h.bind fun record _ => fun result => by simp

-- The rule for `requireAllowedUser` among other threads, where nothing is promised
-- about its call and its exceptions.
theorem requireAllowedUser_safe {σ : Type}
    {contract : Contract collaborators Failure Response Job σ}
    {handler : Handler collaborators Failure σ} {job : Job} {log : List (Answer collaborators)}
    {shared : σ} (userId requestId : String) (rest : UserRecord → Service Response)
    (found : σ → Option UserRecord) (after : σ → σ)
    (hrun : ∀ now, handler (.GetUser userId) now = (.ok (found now), after now))
    (hcall : ∀ next now, contract.check job log (.Call (.GetUser userId) next) now)
    (hraise : ∀ log error now, contract.check job log (.Raise error) now)
    (hrest : ∀ now user, contract.rely shared now → found now = some user →
      contract.Safe handler job (⟨.GetUser userId, found now⟩ :: log) (rest user) (after now)) :
    contract.Safe handler job log
      (TokenIssueService.requireAllowedUser userId requestId >>= rest) shared := by
  rw [TokenIssueService.requireAllowedUser_bind]
  refine .call found after hrun (fun now _ _ => hcall _ now) fun now hnow _ _ => ?_
  have hnext := hrest now
  generalize found now = reply at hnext ⊢
  cases reply with
  | none => exact fun later _ _ => hraise _ _ later
  | some user =>
      by_cases hdenied : (!user.proxyAccessEnabled || !user.isActive) = true
      · simp only [if_pos hdenied]
        exact fun later _ _ => hraise _ _ later
      · simp only [if_neg hdenied]
        exact hnext user hnow rfl

-- One user with one active key, an empty cache, and no call under way.
def samplePool : KeyPool where
  shared := { sampleIssued with cache := .empty }
  threads := []

end ClaudeCodeProxy
