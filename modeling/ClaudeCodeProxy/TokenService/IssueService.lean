import Mathlib.Tactic.SplitIfs
import ClaudeCodeProxy.Security.Keys
import ClaudeCodeProxy.Services.Collaborators

namespace ClaudeCodeProxy

open Effects

def DEFAULT_CACHE_TTL : Int := minutes 15

-- One hour.
def MAX_CACHE_TTL : Int := minutes 60

def normalizeCacheTtl (cacheTtl : Int) : Int :=
  if cacheTtl ≤ 0 then DEFAULT_CACHE_TTL else min cacheTtl MAX_CACHE_TTL

theorem normalizeCacheTtl_pos (cacheTtl : Int) : 0 < normalizeCacheTtl cacheTtl := by
  unfold normalizeCacheTtl DEFAULT_CACHE_TTL MAX_CACHE_TTL minutes MICROSECONDS_PER_SECOND
  split_ifs <;> omega

theorem normalizeCacheTtl_le (cacheTtl : Int) :
    normalizeCacheTtl cacheTtl ≤ MAX_CACHE_TTL := by
  unfold normalizeCacheTtl DEFAULT_CACHE_TTL MAX_CACHE_TTL minutes MICROSECONDS_PER_SECOND
  split_ifs <;> omega

-- A service holds a lifetime in range only.
structure TokenIssueService where
  hashVirtualKey : String → String
  cacheTtl : Int
  cacheTtl_pos : 0 < cacheTtl
  cacheTtl_le : cacheTtl ≤ MAX_CACHE_TTL

namespace TokenIssueService

def new (hashVirtualKey : String → String) (cacheTtl : Int) : TokenIssueService where
  hashVirtualKey := hashVirtualKey
  cacheTtl := normalizeCacheTtl cacheTtl
  cacheTtl_pos := normalizeCacheTtl_pos cacheTtl
  cacheTtl_le := normalizeCacheTtl_le cacheTtl

variable (service : TokenIssueService)

def accessDenied (requestId : String) : ServiceError where
  code := .AccessDenied
  message := "Proxy access is disabled for this user."
  statusCode := 403
  requestId := requestId

def requireAllowedUser (userId requestId : String) : Service UserRecord := do
  match ← call (.GetUser userId) with
  | none => .Raise (.ServiceError (userNotRegisteredError requestId))
  | some user =>
      if !user.proxyAccessEnabled || !user.isActive then
        .Raise (.ServiceError (accessDenied requestId))
      else
        return user

theorem requireAllowedUser_bind (userId requestId : String) (rest : UserRecord → Service α) :
    (requireAllowedUser userId requestId >>= rest) =
      @Program.Call collaborators Failure α (.GetUser userId) fun
        | none => .Raise (.ServiceError (userNotRegisteredError requestId))
        | some user =>
            if !user.proxyAccessEnabled || !user.isActive then
              .Raise (.ServiceError (accessDenied requestId))
            else
              rest user := by
  rw [requireAllowedUser, call_bind, Program.call_bind]
  congr 1
  funext answer
  cases answer with
  | none => rfl
  | some user =>
      by_cases hdenied : (!user.proxyAccessEnabled || !user.isActive) = true
      · simp only [if_pos hdenied]
        rfl
      · simp only [if_neg hdenied]
        rfl

-- The cache entry of a record put at `now`.
def cacheEntry (record : VirtualKeyRecord) (now : Int) : VirtualKeyCacheEntry where
  userId := record.userId
  virtualKeyId := record.id
  encryptedKeyRef := record.encryptedKeyBlob
  keyPrefix := record.keyPrefix
  status := record.status
  ttl := epochSeconds (now + service.cacheTtl)

def cacheKeyRecord (record : VirtualKeyRecord) (now : Int) : Service Unit :=
  call (.PutActiveKey (service.cacheEntry record now))

@[simp] theorem cacheKeyRecord_bind (record : VirtualKeyRecord) (now : Int)
    (rest : Unit → Service α) :
    (service.cacheKeyRecord record now >>= rest) =
      @Program.Call collaborators Failure α (.PutActiveKey (service.cacheEntry record now))
        fun _ => rest () := rfl

def issueNewKey (user : UserRecord) (now : Int) : Service TokenIssueResult := do
  let virtualKey ← call .GenerateKey
  let encryptedKey ← call (.Encrypt virtualKey)
  let id ← call .Uuid4
  let record : VirtualKeyRecord := {
    id := id
    userId := user.id
    keyHash := service.hashVirtualKey virtualKey
    encryptedKeyBlob := encryptedKey
    keyPrefix := getVirtualKeyPrefix virtualKey
    status := .Active
    createdAt := now }
  call (.SaveKey record)
  service.cacheKeyRecord record now
  return {
    virtualKey := virtualKey
    userId := user.id
    keyId := record.id
    keyPrefix := record.keyPrefix
    status := record.status
    source := .Issued }

def getOrCreateKey (userId requestId : String) : Service TokenIssueResult := do
  let now ← call .Clock
  match ← call (.GetActiveKey userId now) with
  | some cachedEntry =>
      let virtualKey ← call (.Decrypt cachedEntry.encryptedKeyRef)
      return {
        virtualKey := virtualKey
        userId := userId
        keyId := cachedEntry.virtualKeyId
        keyPrefix := cachedEntry.keyPrefix
        status := cachedEntry.status
        source := .Cache }
  | none =>
      let user ← requireAllowedUser userId requestId
      match ← call (.GetActiveKeyForUser user.id) with
      | some existingKey =>
          -- the entry is written before the blob is known to decrypt
          service.cacheKeyRecord existingKey now
          let virtualKey ← call (.Decrypt existingKey.encryptedKeyBlob)
          return {
            virtualKey := virtualKey
            userId := user.id
            keyId := existingKey.id
            keyPrefix := existingKey.keyPrefix
            status := existingKey.status
            source := .Reused
            expiresAt := existingKey.expiresAt }
      | none => service.issueNewKey user now

end TokenIssueService

end ClaudeCodeProxy
