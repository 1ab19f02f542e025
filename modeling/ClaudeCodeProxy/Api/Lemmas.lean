import ClaudeCodeProxy.Repositories.KeyRegistry
import ClaudeCodeProxy.TokenService.Lemmas

namespace ClaudeCodeProxy

open Effects

namespace VirtualKeyRecord

def revoked (record : VirtualKeyRecord) (now : Int) : VirtualKeyRecord :=
  { record with status := .Revoked, revokedAt := some now }

def disabled (record : VirtualKeyRecord) : VirtualKeyRecord :=
  { record with status := .Disabled }

theorem retires_revoked (record : VirtualKeyRecord) (now : Int) :
    record.Retires (record.revoked now) :=
  ⟨rfl, rfl, by simp [revoked]⟩

theorem retires_disabled (record : VirtualKeyRecord) : record.Retires record.disabled :=
  ⟨rfl, rfl, by simp [disabled]⟩

end VirtualKeyRecord

-- A dead copy written, and the cache entry of its user dropped.
def World.retire (world : World) (copy : VirtualKeyRecord) : World :=
  { world with
    ledger := world.ledger.save copy
    cache := world.cache.erase copy.userId }

def World.replace (deployment : Deployment) (draw : Draw) (world : World)
    (record : VirtualKeyRecord) (blob : String) : World :=
  let retired := world.retire record.disabled
  { retired with
    ledger := retired.ledger.save (issuedRecord deployment draw record.userId blob world.clock) }

variable (deployment : Deployment) (draw : Draw) (world : World)

theorem run_revoke (keyId : String) :
    (VirtualKeyLifecycleService.revoke keyId).run (handle deployment draw) world =
      match world.ledger.get keyId with
      | none => (.error VirtualKeyLifecycleService.keyNotFound, world)
      | some record =>
          (.ok (record.revoked world.clock), world.retire (record.revoked world.clock)) := by
  simp only [VirtualKeyLifecycleService.revoke, VirtualKeyLifecycleService.requireKey,
    VirtualKeyLifecycleService.invalidate_bind, saveKey_bind, call_bind, Program.call_bind,
    Program.run_call, handle]
  cases world.ledger.get keyId with
  | none => rfl
  | some record => rfl

theorem run_disable (keyId : String) :
    (VirtualKeyLifecycleService.disable keyId).run (handle deployment draw) world =
      match world.ledger.get keyId with
      | none => (.error VirtualKeyLifecycleService.keyNotFound, world)
      | some record => (.ok record.disabled, world.retire record.disabled) := by
  simp only [VirtualKeyLifecycleService.disable, VirtualKeyLifecycleService.requireKey,
    VirtualKeyLifecycleService.invalidate_bind, saveKey_bind, call_bind, Program.call_bind,
    Program.run_call, handle]
  cases world.ledger.get keyId with
  | none => rfl
  | some record => rfl

theorem run_rotate (keyId : String) :
    (deployment.virtualKeyLifecycleService.rotate keyId).run (handle deployment draw) world =
      match world.ledger.get keyId with
      | none => (.error VirtualKeyLifecycleService.keyNotFound, world)
      | some record =>
          match deployment.encryption.encrypt draw.virtualKey with
          | .error error => (.error error, world.retire record.disabled)
          | .ok blob =>
              (.ok (record.disabled,
                  issuedRecord deployment draw record.userId blob world.clock),
                world.replace deployment draw record blob) := by
  simp only [VirtualKeyLifecycleService.rotate, VirtualKeyLifecycleService.requireKey,
    VirtualKeyLifecycleService.invalidate_bind, saveKey_bind, call_bind, Program.call_bind,
    Program.run_call, handle]
  cases world.ledger.get keyId with
  | none => rfl
  | some record =>
      simp only [Program.pure_eq, Program.return_bind, Program.run_call, handle]
      cases deployment.encryption.encrypt draw.virtualKey with
      | error error => rfl
      | ok blob => rfl

end ClaudeCodeProxy
