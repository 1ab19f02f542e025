import ClaudeCodeProxy.Effects.Program
import ClaudeCodeProxy.Models.Domain
import ClaudeCodeProxy.Models.Errors

namespace ClaudeCodeProxy

open Effects

-- Every call of the key services that reads or changes something outside the service.
inductive Call
  | Clock
  | UtcNow
  | GenerateKey
  | GenerateKeyId
  | Uuid4
  | Encrypt (plaintext : String)
  | Decrypt (ciphertext : String)
  | GetUser (userId : String)
  | ProvisionUser (user : UserRecord) (mapping : IdentityMapping)
  | GetActiveKeyForUser (userId : String)
  | GetKeyByHash (keyHash : String)
  | GetKey (keyId : String)
  | SaveKey (record : VirtualKeyRecord)
  | GetActiveKey (userId : String) (now : Int)
  | PutActiveKey (entry : VirtualKeyCacheEntry)
  | InvalidateUser (userId : String)
  | InvalidateTokenServiceCache (userId : String)
  | InvalidateProxyAuthCache (keyId : String)

def Call.Reply : Call → Type
  | .Clock | .UtcNow => Int
  | .GenerateKey | .GenerateKeyId | .Uuid4 | .Encrypt _ | .Decrypt _ => String
  | .GetUser _ => Option UserRecord
  | .GetActiveKeyForUser _ | .GetKeyByHash _ | .GetKey _ => Option VirtualKeyRecord
  | .GetActiveKey _ _ => Option VirtualKeyCacheEntry
  | .ProvisionUser _ _ | .SaveKey _ | .PutActiveKey _ | .InvalidateUser _
  | .InvalidateTokenServiceCache _ | .InvalidateProxyAuthCache _ => Unit

@[reducible] def collaborators : Signature := ⟨Call, Call.Reply⟩

abbrev Service (α : Type) : Type := Program collaborators Failure α

def call (op : Call) : Service op.Reply := @Program.perform collaborators Failure op

@[simp] theorem call_bind (op : Call) (rest : op.Reply → Service α) :
    (call op >>= rest) = @Program.Call collaborators Failure α op rest := rfl

-- The same for a statement of a `do` block, whose reply is a `Unit` that it drops.
@[simp] theorem saveKey_bind (record : VirtualKeyRecord) (rest : Unit → Service α) :
    @bind Service _ Unit α (call (.SaveKey record)) rest =
      @Program.Call collaborators Failure α (.SaveKey record) fun _ => rest () := rfl

end ClaudeCodeProxy
