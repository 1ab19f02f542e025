import ClaudeCodeProxy.Security.Keys
import ClaudeCodeProxy.Services.Collaborators

namespace ClaudeCodeProxy

open Effects

structure VirtualKeyLifecycleService where
  hashVirtualKey : String → String

namespace VirtualKeyLifecycleService

def keyNotFound : Failure := .HTTPException 404 "Virtual key not found."

def requireKey (keyId : String) : Service VirtualKeyRecord := do
  match ← call (.GetKey keyId) with
  | none => .Raise keyNotFound
  | some record => return record

def invalidate (record : VirtualKeyRecord) : Service Unit := do
  call (.InvalidateTokenServiceCache record.userId)
  call (.InvalidateProxyAuthCache record.id)

@[simp] theorem invalidate_bind (record : VirtualKeyRecord) (rest : Unit → Service α) :
    (invalidate record >>= rest) =
      @Program.Call collaborators Failure α (.InvalidateTokenServiceCache record.userId) fun _ =>
        @Program.Call collaborators Failure α (.InvalidateProxyAuthCache record.id) fun _ =>
          rest () := rfl

-- None of the three operations looks at the status the record has.
def revoke (keyId : String) : Service VirtualKeyRecord := do
  let record ← requireKey keyId
  let now ← call .Clock
  let revoked := { record with status := .Revoked, revokedAt := some now }
  call (.SaveKey revoked)
  invalidate revoked
  return revoked

def disable (keyId : String) : Service VirtualKeyRecord := do
  let record ← requireKey keyId
  let disabled := { record with status := .Disabled }
  call (.SaveKey disabled)
  invalidate disabled
  return disabled

def rotate (service : VirtualKeyLifecycleService) (keyId : String) :
    Service (VirtualKeyRecord × VirtualKeyRecord) := do
  let record ← requireKey keyId
  let disabled := { record with status := .Disabled }
  call (.SaveKey disabled)
  invalidate disabled
  let newVirtualKey ← call .GenerateKey
  let now ← call .Clock
  let newKeyId ← call .GenerateKeyId
  let encryptedKey ← call (.Encrypt newVirtualKey)
  let replacement : VirtualKeyRecord := {
    id := newKeyId
    userId := record.userId
    keyHash := service.hashVirtualKey newVirtualKey
    encryptedKeyBlob := encryptedKey
    keyPrefix := getVirtualKeyPrefix newVirtualKey
    status := .Active
    createdAt := now }
  call (.SaveKey replacement)
  return (disabled, replacement)

end VirtualKeyLifecycleService

end ClaudeCodeProxy
