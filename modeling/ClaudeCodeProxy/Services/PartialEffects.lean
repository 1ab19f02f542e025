import ClaudeCodeProxy.Effects.Faults
import ClaudeCodeProxy.Services.Samples
import ClaudeCodeProxy.Services.Steps

namespace ClaudeCodeProxy

open Effects

-- What a request that ends in an exception has done to the ledger and the cache.
inductive Aborted (deployment : Deployment) (draw : Draw) (world : World) :
    Request → Ledger → VirtualKeyCache → Prop
  | Untouched (request : Request) :
      Aborted deployment draw world request world.ledger world.cache
  | Filled (userId requestId : String) (record : VirtualKeyRecord)
      (hselected : world.ledger.getActiveKeyForUser userId = some record) :
      Aborted deployment draw world (.GetOrCreateKey userId requestId) world.ledger
        (world.putRecord deployment record).cache
  | Written (userId requestId blob : String)
      (hnone : world.ledger.getActiveKeyForUser userId = none)
      (hencrypt : deployment.encryption.encrypt draw.virtualKey = .ok blob) :
      Aborted deployment draw world (.GetOrCreateKey userId requestId)
        (world.ledger.save (issuedRecord deployment draw userId blob world.clock)) world.cache
  | Retired (request : Request) (record copy : VirtualKeyRecord)
      (hget : world.ledger.get record.id = some record)
      (hretired : Retirement world.clock record request copy) :
      Aborted deployment draw world request (world.ledger.save copy) world.cache
  | Dropped (request : Request) (record copy : VirtualKeyRecord)
      (hget : world.ledger.get record.id = some record)
      (hretired : Retirement world.clock record request copy) :
      Aborted deployment draw world request (world.ledger.save copy)
        (world.cache.erase copy.userId)

section Requests

variable (deployment : Deployment) (draw : Draw) (world : World)

-- The guard of a request that started in `world`.
def AbortedAt (request : Request) (state : World) : Prop :=
  Aborted deployment draw world request state.ledger state.cache

theorem getOrCreateKey_guarded (userId requestId : String) :
    ((Request.GetOrCreateKey userId requestId).program deployment).Guarded
      (handle deployment draw) (AbortedAt deployment draw world (.GetOrCreateKey userId requestId))
      world := by
  have huntouched : AbortedAt deployment draw world (.GetOrCreateKey userId requestId) world :=
    .Untouched _
  simp only [Request.program, TokenIssueService.getOrCreateKey, call_bind, Program.call_bind]
  refine .call rfl huntouched (.call rfl huntouched ?_)
  cases hhit : world.cache.getActiveKey userId world.clock with
  | some entry => exact .fallible _ rfl huntouched fun virtualKey _ => trivial
  | none =>
      simp only [TokenIssueService.requireAllowedUser, call_bind, Program.call_bind]
      refine .call rfl huntouched ?_
      cases huser : world.users.get userId with
      | none => exact huntouched
      | some user =>
          obtain rfl : user.id = userId := world.users.key_of_get userId user huser
          by_cases hdenied : (!user.proxyAccessEnabled || !user.isActive) = true
          · simp only [if_pos hdenied, Program.raise_bind]
            exact huntouched
          · simp only [if_neg hdenied, Program.pure_eq, Program.return_bind]
            refine .call rfl huntouched ?_
            cases hselected : world.ledger.getActiveKeyForUser user.id with
            | some record =>
                simp only [TokenIssueService.cacheKeyRecord_bind]
                refine .call rfl huntouched ?_
                -- the entry is there when the blob is decrypted
                exact .fallible _ rfl (.Filled _ _ record hselected) fun virtualKey _ => trivial
            | none =>
                simp only [TokenIssueService.issueNewKey, TokenIssueService.cacheKeyRecord_bind,
                  saveKey_bind, call_bind]
                refine .call rfl huntouched (.fallible _ rfl huntouched fun blob hencrypt => ?_)
                refine .call rfl huntouched (.call rfl huntouched ?_)
                exact .call rfl (.Written _ _ blob hselected hencrypt) trivial

-- The steps that the three lifecycle requests share, up to their last invalidation.
theorem retire_guarded {α : Type} (request : Request) (record copy : VirtualKeyRecord)
    (rest : Unit → Service α) (hget : world.ledger.get record.id = some record)
    (hretired : Retirement world.clock record request copy)
    (hrest : AbortedAt deployment draw world request (world.retire copy) →
      (rest ()).Guarded (handle deployment draw) (AbortedAt deployment draw world request)
        (world.retire copy)) :
    (@bind Service _ Unit α (call (.SaveKey copy)) fun _ =>
        VirtualKeyLifecycleService.invalidate copy >>= rest).Guarded (handle deployment draw)
      (AbortedAt deployment draw world request) world := by
  have hdropped : AbortedAt deployment draw world request (world.retire copy) :=
    .Dropped request record copy hget hretired
  simp only [VirtualKeyLifecycleService.invalidate_bind, saveKey_bind]
  refine .call rfl (.Untouched _) ?_
  refine .call rfl (.Retired request record copy hget hretired) ?_
  exact .call rfl hdropped (hrest hdropped)

theorem requireKey_guarded {α : Type} (request : Request) (keyId : String)
    (rest : VirtualKeyRecord → Service α)
    (hrest : ∀ record, world.ledger.get record.id = some record → record.id = keyId →
      (rest record).Guarded (handle deployment draw) (AbortedAt deployment draw world request)
        world) :
    (VirtualKeyLifecycleService.requireKey keyId >>= rest).Guarded (handle deployment draw)
      (AbortedAt deployment draw world request) world := by
  simp only [VirtualKeyLifecycleService.requireKey, call_bind, Program.call_bind]
  refine .call rfl (.Untouched _) ?_
  cases hget : world.ledger.get keyId with
  | none => exact .Untouched _
  | some record =>
      obtain rfl : record.id = keyId := world.ledger.key_of_get _ _ hget
      exact hrest record hget rfl

theorem program_guarded (request : Request) :
    (request.program deployment).Guarded (handle deployment draw)
      (AbortedAt deployment draw world request) world := by
  cases request with
  | GetOrCreateKey userId requestId => exact getOrCreateKey_guarded deployment draw world _ _
  | Revoke keyId =>
      simp only [Request.program, VirtualKeyLifecycleService.revoke, Program.bind_assoc]
      apply requireKey_guarded
      rintro record hget rfl
      simp only [call_bind]
      refine .call rfl (.Untouched _) ?_
      exact retire_guarded deployment draw world _ record (record.revoked world.clock) _ hget
        .Revoke fun _ => trivial
  | Disable keyId =>
      simp only [Request.program, VirtualKeyLifecycleService.disable, Program.bind_assoc]
      apply requireKey_guarded
      rintro record hget rfl
      exact retire_guarded deployment draw world _ record record.disabled _ hget .Disable
        fun _ => trivial
  | Rotate keyId =>
      simp only [Request.program, VirtualKeyLifecycleService.rotate, Program.bind_assoc]
      apply requireKey_guarded
      rintro record hget rfl
      apply retire_guarded deployment draw world _ record record.disabled _ hget .Rotate
      intro hdropped
      simp only [call_bind, saveKey_bind]
      refine .call rfl hdropped (.call rfl hdropped (.call rfl hdropped ?_))
      exact .fallible _ rfl hdropped fun blob _ => .call rfl hdropped trivial
  | InvalidateUserCache userId => exact .call rfl (.Untouched _) trivial
  | Provision request =>
      exact .call rfl (.Untouched _) (.call rfl (.Untouched _) (.call rfl (.Untouched _)
        (.call rfl (.Untouched _) trivial)))

-- Whatever calls to the collaborators fail, a request that ends in an exception has
-- changed nothing, or has stopped behind one of its writes.
theorem failed_request_effects (request : Request) (faults : Nat → Option Failure)
    (error : Failure) (after : World) (number : Nat)
    (hfailed : (request.program deployment).run ((handle deployment draw).faulty faults)
      (world, 0) = (.error error, (after, number))) :
    Aborted deployment draw world request after.ledger after.cache :=
  (program_guarded deployment draw world request).run_faulty hfailed

end Requests

-- The invalidation dispatcher is down: the fourth call of a revoke raises.
def sampleFaults (number : Nat) : Option Failure :=
  if number = 3 then some (.Raised "ConnectionError") else none

-- The sample key's revoke with that fault, and the state it leaves.
def sampleInterrupted : Except Failure Response × World × Nat :=
  ((Request.Revoke "key-1").program sampleDeployment).run
    ((handle sampleDeployment sampleFirst).faulty sampleFaults) (sampleIssued, 0)

theorem failed_request_effects_sample :
    Aborted sampleDeployment sampleFirst sampleIssued (.Revoke "key-1")
      sampleInterrupted.2.1.ledger sampleInterrupted.2.1.cache :=
  failed_request_effects sampleDeployment sampleFirst sampleIssued (.Revoke "key-1") sampleFaults
    (.Raised "ConnectionError") sampleInterrupted.2.1 sampleInterrupted.2.2 rfl

-- The record is revoked although the revoke failed.
theorem failed_revoke_changes_ledger :
    ¬ ∀ (deployment : Deployment) (draw : Draw) (world : World) (request : Request)
        (faults : Nat → Option Failure) (error : Failure) (after : World) (number : Nat),
      (request.program deployment).run ((handle deployment draw).faulty faults) (world, 0) =
        (.error error, (after, number)) →
      after.ledger = world.ledger ∧ after.cache = world.cache := by
  intro h
  have hsame := h sampleDeployment sampleFirst sampleIssued (.Revoke "key-1") sampleFaults
    (.Raised "ConnectionError") sampleInterrupted.2.1 sampleInterrupted.2.2 rfl
  have hrevoked : sampleInterrupted.2.1.ledger.get "key-1" =
      some (sampleRecord.revoked World.initial.clock) := by
    decide
  have hactive : sampleIssued.ledger.get "key-1" = some sampleRecord := by decide
  rw [hsame.1, hactive] at hrevoked
  exact absurd hrevoked (by decide)

end ClaudeCodeProxy
