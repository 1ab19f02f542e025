import ClaudeCodeProxy.Api.Lemmas

namespace ClaudeCodeProxy

open Effects

-- The key that a lifecycle request names.
def Request.namedKey : Request → Option String
  | .Revoke keyId | .Disable keyId | .Rotate keyId => some keyId
  | _ => none

-- The dead copy that a lifecycle request writes over the record it names.
inductive Retirement (now : Int) (record : VirtualKeyRecord) : Request → VirtualKeyRecord → Prop
  | Revoke : Retirement now record (.Revoke record.id) (record.revoked now)
  | Disable : Retirement now record (.Disable record.id) record.disabled
  | Rotate : Retirement now record (.Rotate record.id) record.disabled

theorem Retirement.retires {now : Int} {record copy : VirtualKeyRecord} {request : Request}
    (h : Retirement now record request copy) : record.Retires copy := by
  cases h with
  | Revoke => exact record.retires_revoked now
  | Disable => exact record.retires_disabled
  | Rotate => exact record.retires_disabled

-- Everything one request can do to the world, with what was true before it.
inductive Served (deployment : Deployment) (draw : Draw) (world : World) : Request → World → Prop
  | Nothing (request : Request) : Served deployment draw world request world
  | Filled (userId requestId : String) (record : VirtualKeyRecord)
      (heligible : world.Eligible userId)
      (hrecord : world.ledger.getActiveKeyForUser userId = some record) :
      Served deployment draw world (.GetOrCreateKey userId requestId)
        (world.putRecord deployment record)
  | Issued (userId requestId blob : String) (heligible : world.Eligible userId)
      (hnone : world.ledger.getActiveKeyForUser userId = none)
      (hencrypt : deployment.encryption.encrypt draw.virtualKey = .ok blob) :
      Served deployment draw world (.GetOrCreateKey userId requestId)
        (world.issue deployment draw userId blob)
  | Retired (request : Request) (record copy : VirtualKeyRecord)
      (hget : world.ledger.get record.id = some record)
      (hretired : Retirement world.clock record request copy) :
      Served deployment draw world request (world.retire copy)
  | Replaced (record : VirtualKeyRecord) (blob : String)
      (hget : world.ledger.get record.id = some record)
      (hencrypt : deployment.encryption.encrypt draw.virtualKey = .ok blob) :
      Served deployment draw world (.Rotate record.id) (world.replace deployment draw record blob)
  | Dropped (userId : String) :
      Served deployment draw world (.InvalidateUserCache userId)
        { world with cache := world.cache.erase userId }
  | Provisioned (request : UserProvisioningRequest) (user : UserRecord)
      (mapping : IdentityMapping) :
      Served deployment draw world (.Provision request)
        { world with users := world.users.save user, mappings := world.mappings.save mapping }

variable (deployment : Deployment) (draw : Draw) (world : World)

theorem serve_getOrCreateKey (userId requestId : String) :
    (Request.GetOrCreateKey userId requestId).serve deployment draw world =
      ((runGetOrCreateKey deployment draw world userId requestId).1.map .Issued,
        (runGetOrCreateKey deployment draw world userId requestId).2) :=
  Program.run_map _ _ _ _

theorem serve_revoke (keyId : String) :
    (Request.Revoke keyId).serve deployment draw world =
      match world.ledger.get keyId with
      | none => (.error VirtualKeyLifecycleService.keyNotFound, world)
      | some record =>
          (.ok (.Revoked (record.revoked world.clock)),
            world.retire (record.revoked world.clock)) := by
  rw [Request.serve, Request.program, Program.run_map, run_revoke]
  cases world.ledger.get keyId with
  | none => rfl
  | some record => rfl

theorem serve_disable (keyId : String) :
    (Request.Disable keyId).serve deployment draw world =
      match world.ledger.get keyId with
      | none => (.error VirtualKeyLifecycleService.keyNotFound, world)
      | some record => (.ok (.Disabled record.disabled), world.retire record.disabled) := by
  rw [Request.serve, Request.program, Program.run_map, run_disable]
  cases world.ledger.get keyId with
  | none => rfl
  | some record => rfl

theorem serve_rotate (keyId : String) :
    (Request.Rotate keyId).serve deployment draw world =
      match world.ledger.get keyId with
      | none => (.error VirtualKeyLifecycleService.keyNotFound, world)
      | some record =>
          match deployment.encryption.encrypt draw.virtualKey with
          | .error error => (.error error, world.retire record.disabled)
          | .ok blob =>
              (.ok (.Rotated record.disabled
                  (issuedRecord deployment draw record.userId blob world.clock)),
                world.replace deployment draw record blob) := by
  rw [Request.serve, Request.program, Program.run_bind, run_rotate]
  cases world.ledger.get keyId with
  | none => rfl
  | some record =>
      cases deployment.encryption.encrypt draw.virtualKey with
      | error error => rfl
      | ok blob => rfl

theorem serve_served (request : Request) :
    Served deployment draw world request (request.serve deployment draw world).2 := by
  cases request with
  | GetOrCreateKey userId requestId =>
      have houtcome := getOrCreateKey_outcome deployment draw world userId requestId
      rw [serve_getOrCreateKey]
      generalize runGetOrCreateKey deployment draw world userId requestId = served at houtcome ⊢
      obtain ⟨result, after⟩ := served
      cases houtcome with
      | Hit | HitUnreadable | NotRegistered | Denied | Unencrypted => exact .Nothing _
      | Reused record virtualKey hmiss heligible hrecord hdecrypt =>
          exact .Filled userId requestId record heligible hrecord
      | ReusedUnreadable record error hmiss heligible hrecord hdecrypt =>
          exact .Filled userId requestId record heligible hrecord
      | Issued blob hmiss heligible hnone hencrypt =>
          exact .Issued userId requestId blob heligible hnone hencrypt
  | Revoke keyId =>
      rw [serve_revoke]
      cases hget : world.ledger.get keyId with
      | none => exact .Nothing _
      | some record =>
          obtain rfl : record.id = keyId := world.ledger.key_of_get _ _ hget
          exact .Retired _ record _ hget .Revoke
  | Disable keyId =>
      rw [serve_disable]
      cases hget : world.ledger.get keyId with
      | none => exact .Nothing _
      | some record =>
          obtain rfl : record.id = keyId := world.ledger.key_of_get _ _ hget
          exact .Retired _ record _ hget .Disable
  | Rotate keyId =>
      rw [serve_rotate]
      cases hget : world.ledger.get keyId with
      | none => exact .Nothing _
      | some record =>
          obtain rfl : record.id = keyId := world.ledger.key_of_get _ _ hget
          cases hencrypt : deployment.encryption.encrypt draw.virtualKey with
          | error error => exact .Retired _ record _ hget .Rotate
          | ok blob => exact .Replaced record blob hget hencrypt
  | InvalidateUserCache userId => exact .Dropped userId
  | Provision request => exact .Provisioned request _ _

-- Everything one action can do: time passes, or a request is served.
inductive Acted : Action → World → Prop
  | Advanced (microseconds : Nat) :
      Acted (.Advance microseconds) { world with clock := world.clock + microseconds }
  | Invoked (request : Request) (draw : Draw) (after : World)
      (hserved : Served deployment draw world request after) :
      Acted (.Invoke request draw) after

theorem act_acted (action : Action) : Acted deployment world action (act deployment world action) := by
  cases action with
  | Advance microseconds => exact .Advanced microseconds
  | Invoke request draw => exact .Invoked request draw _ (serve_served deployment draw world request)

end ClaudeCodeProxy
