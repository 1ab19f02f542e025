import ClaudeCodeProxy.Repositories.VirtualKey
import ClaudeCodeProxy.Security.Encryption
import ClaudeCodeProxy.Security.Keys
import ClaudeCodeProxy.Services.Collaborators

namespace ClaudeCodeProxy

open Effects

-- What is configured once for both services: the hash, the encryption service and
-- the lifetime of cache entries, before it is normalized.
structure Deployment where
  hashVirtualKey : String → String
  encryption : EncryptionService
  cacheTtl : Int

-- The answers of the key and id generators within one request, which draws at
-- most one of each.
structure Draw where
  virtualKey : String
  keyId : String
  deriving DecidableEq

structure World where
  users : Users
  mappings : IdentityMappings
  ledger : Ledger
  cache : VirtualKeyCache
  clock : Int

-- The user is registered, active and enabled.
def World.Eligible (world : World) (userId : String) : Prop :=
  ∃ user, world.users.get userId = some user ∧ user.isActive = true ∧
    user.proxyAccessEnabled = true

instance (world : World) (userId : String) : Decidable (world.Eligible userId) :=
  decidable_of_iff
    ((world.users.get userId).any fun user => user.isActive && user.proxyAccessEnabled)
    (by simp [World.Eligible, Option.any_eq_true])

theorem World.eligible_iff_of_get (world : World) {userId : String} {user : UserRecord}
    (huser : world.users.get userId = some user) :
    world.Eligible userId ↔ ¬(!user.proxyAccessEnabled || !user.isActive) = true := by
  unfold World.Eligible
  rw [huser]
  simp [and_comm]

-- The collaborators at work: the in-memory repositories, one clock, and a
-- dispatcher that deletes the user's cache entry of the Token Service. No component
-- of the repository keeps a proxy auth cache, so its invalidation changes nothing.
def handle (deployment : Deployment) (draw : Draw) : Handler collaborators Failure World
  | .Clock, world => (.ok world.clock, world)
  | .UtcNow, world => (.ok world.clock, world)
  | .GenerateKey, world => (.ok draw.virtualKey, world)
  | .GenerateKeyId, world => (.ok draw.keyId, world)
  | .Uuid4, world => (.ok draw.keyId, world)
  | .Encrypt plaintext, world => (deployment.encryption.encrypt plaintext, world)
  | .Decrypt ciphertext, world => (deployment.encryption.decrypt ciphertext, world)
  | .GetUser userId, world => (.ok (world.users.get userId), world)
  | .ProvisionUser user mapping, world =>
      (.ok (), { world with
        users := world.users.save user
        mappings := world.mappings.save mapping })
  | .GetActiveKeyForUser userId, world => (.ok (world.ledger.getActiveKeyForUser userId), world)
  | .GetKeyByHash keyHash, world => (.ok (world.ledger.getKeyByHash keyHash), world)
  | .GetKey keyId, world => (.ok (world.ledger.get keyId), world)
  | .SaveKey record, world => (.ok (), { world with ledger := world.ledger.save record })
  | .GetActiveKey userId now, world => (.ok (world.cache.getActiveKey userId now), world)
  | .PutActiveKey entry, world => (.ok (), { world with cache := world.cache.save entry })
  | .InvalidateUser userId, world => (.ok (), { world with cache := world.cache.erase userId })
  | .InvalidateTokenServiceCache userId, world =>
      (.ok (), { world with cache := world.cache.erase userId })
  | .InvalidateProxyAuthCache _, world => (.ok (), world)

end ClaudeCodeProxy
