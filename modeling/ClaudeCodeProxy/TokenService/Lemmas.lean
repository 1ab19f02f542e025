import ClaudeCodeProxy.Services.Requests

namespace ClaudeCodeProxy

open Effects

-- The record `issueNewKey` writes.
def issuedRecord (deployment : Deployment) (draw : Draw) (userId blob : String) (now : Int) :
    VirtualKeyRecord where
  id := draw.keyId
  userId := userId
  keyHash := deployment.hashVirtualKey draw.virtualKey
  encryptedKeyBlob := blob
  keyPrefix := getVirtualKeyPrefix draw.virtualKey
  status := .Active
  createdAt := now

def World.putRecord (deployment : Deployment) (world : World) (record : VirtualKeyRecord) : World :=
  { world with
    cache := world.cache.save (deployment.tokenIssueService.cacheEntry record world.clock) }

def World.issue (deployment : Deployment) (draw : Draw) (world : World) (userId blob : String) :
    World :=
  let record := issuedRecord deployment draw userId blob world.clock
  World.putRecord deployment { world with ledger := world.ledger.save record } record

def cachedResult (userId virtualKey : String) (entry : VirtualKeyCacheEntry) : TokenIssueResult where
  virtualKey := virtualKey
  userId := userId
  keyId := entry.virtualKeyId
  keyPrefix := entry.keyPrefix
  status := entry.status
  source := .Cache

def reusedResult (userId virtualKey : String) (record : VirtualKeyRecord) : TokenIssueResult where
  virtualKey := virtualKey
  userId := userId
  keyId := record.id
  keyPrefix := record.keyPrefix
  status := record.status
  source := .Reused
  expiresAt := record.expiresAt

def issuedResult (draw : Draw) (userId : String) : TokenIssueResult where
  virtualKey := draw.virtualKey
  userId := userId
  keyId := draw.keyId
  keyPrefix := getVirtualKeyPrefix draw.virtualKey
  status := .Active
  source := .Issued

-- Everything `getOrCreateKey` can do, with the branch conditions that lead there.
inductive IssueOutcome (deployment : Deployment) (draw : Draw) (world : World)
    (userId requestId : String) : Except Failure TokenIssueResult → World → Prop
  | Hit (entry : VirtualKeyCacheEntry) (virtualKey : String)
      (hhit : world.cache.getActiveKey userId world.clock = some entry)
      (hdecrypt : deployment.encryption.decrypt entry.encryptedKeyRef = .ok virtualKey) :
      IssueOutcome deployment draw world userId requestId
        (.ok (cachedResult userId virtualKey entry)) world
  | HitUnreadable (entry : VirtualKeyCacheEntry) (error : Failure)
      (hhit : world.cache.getActiveKey userId world.clock = some entry)
      (hdecrypt : deployment.encryption.decrypt entry.encryptedKeyRef = .error error) :
      IssueOutcome deployment draw world userId requestId (.error error) world
  | NotRegistered (hmiss : world.cache.getActiveKey userId world.clock = none)
      (huser : world.users.get userId = none) :
      IssueOutcome deployment draw world userId requestId
        (.error (.ServiceError (userNotRegisteredError requestId))) world
  | Denied (hmiss : world.cache.getActiveKey userId world.clock = none)
      (hdenied : ¬world.Eligible userId) :
      IssueOutcome deployment draw world userId requestId
        (.error (.ServiceError (TokenIssueService.accessDenied requestId))) world
  | Reused (record : VirtualKeyRecord) (virtualKey : String)
      (hmiss : world.cache.getActiveKey userId world.clock = none)
      (heligible : world.Eligible userId)
      (hrecord : world.ledger.getActiveKeyForUser userId = some record)
      (hdecrypt : deployment.encryption.decrypt record.encryptedKeyBlob = .ok virtualKey) :
      IssueOutcome deployment draw world userId requestId
        (.ok (reusedResult userId virtualKey record)) (world.putRecord deployment record)
  | ReusedUnreadable (record : VirtualKeyRecord) (error : Failure)
      (hmiss : world.cache.getActiveKey userId world.clock = none)
      (heligible : world.Eligible userId)
      (hrecord : world.ledger.getActiveKeyForUser userId = some record)
      (hdecrypt : deployment.encryption.decrypt record.encryptedKeyBlob = .error error) :
      IssueOutcome deployment draw world userId requestId (.error error)
        (world.putRecord deployment record)
  | Unencrypted (error : Failure)
      (hmiss : world.cache.getActiveKey userId world.clock = none)
      (heligible : world.Eligible userId)
      (hnone : world.ledger.getActiveKeyForUser userId = none)
      (hencrypt : deployment.encryption.encrypt draw.virtualKey = .error error) :
      IssueOutcome deployment draw world userId requestId (.error error) world
  | Issued (blob : String)
      (hmiss : world.cache.getActiveKey userId world.clock = none)
      (heligible : world.Eligible userId)
      (hnone : world.ledger.getActiveKeyForUser userId = none)
      (hencrypt : deployment.encryption.encrypt draw.virtualKey = .ok blob) :
      IssueOutcome deployment draw world userId requestId (.ok (issuedResult draw userId))
        (world.issue deployment draw userId blob)

variable (deployment : Deployment) (draw : Draw) (world : World)

theorem run_issueNewKey (user : UserRecord) (now : Int) (hnow : now = world.clock) :
    (deployment.tokenIssueService.issueNewKey user now).run (handle deployment draw) world =
      match deployment.encryption.encrypt draw.virtualKey with
      | .error error => (.error error, world)
      | .ok blob => (.ok (issuedResult draw user.id), world.issue deployment draw user.id blob) := by
  subst hnow
  simp only [TokenIssueService.issueNewKey, TokenIssueService.cacheKeyRecord_bind, call_bind,
    Program.run_call, handle]
  cases deployment.encryption.encrypt draw.virtualKey with
  | error error => rfl
  | ok blob => rfl

theorem getOrCreateKey_outcome (userId requestId : String) :
    IssueOutcome deployment draw world userId requestId
      (runGetOrCreateKey deployment draw world userId requestId).1
      (runGetOrCreateKey deployment draw world userId requestId).2 := by
  simp only [runGetOrCreateKey, TokenIssueService.getOrCreateKey, call_bind, Program.run_call,
    handle]
  cases hhit : world.cache.getActiveKey userId world.clock with
  | some entry =>
      simp only [Program.run_call, handle]
      cases hdecrypt : deployment.encryption.decrypt entry.encryptedKeyRef with
      | ok virtualKey => exact .Hit entry virtualKey hhit hdecrypt
      | error error => exact .HitUnreadable entry error hhit hdecrypt
  | none =>
      simp only [TokenIssueService.requireAllowedUser_bind, Program.run_call, handle]
      cases huser : world.users.get userId with
      | none => exact .NotRegistered hhit huser
      | some user =>
          obtain rfl : user.id = userId := world.users.key_of_get userId user huser
          have heligible := world.eligible_iff_of_get huser
          by_cases hdenied : (!user.proxyAccessEnabled || !user.isActive) = true
          · simp only [if_pos hdenied, Program.run_raise]
            exact .Denied hhit fun h => heligible.mp h hdenied
          · have heligible := heligible.mpr hdenied
            simp only [if_neg hdenied, Program.run_call, handle]
            cases hrecord : world.ledger.getActiveKeyForUser user.id with
            | some record =>
                simp only [TokenIssueService.cacheKeyRecord_bind, Program.run_call, handle]
                cases hdecrypt : deployment.encryption.decrypt record.encryptedKeyBlob with
                | ok virtualKey => exact .Reused record virtualKey hhit heligible hrecord hdecrypt
                | error error =>
                    exact .ReusedUnreadable record error hhit heligible hrecord hdecrypt
            | none =>
                simp only [run_issueNewKey deployment draw world user world.clock rfl]
                cases hencrypt : deployment.encryption.encrypt draw.virtualKey with
                | error error => exact .Unencrypted error hhit heligible hrecord hencrypt
                | ok blob => exact .Issued blob hhit heligible hrecord hencrypt

end ClaudeCodeProxy
