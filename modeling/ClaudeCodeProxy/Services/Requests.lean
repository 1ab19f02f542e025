import ClaudeCodeProxy.Api.AdminUsers
import ClaudeCodeProxy.Api.AdminVirtualKeys
import ClaudeCodeProxy.Api.InternalOps
import ClaudeCodeProxy.Effects.Run
import ClaudeCodeProxy.Proxy.Auth
import ClaudeCodeProxy.Services.World
import ClaudeCodeProxy.TokenService.IssueService

namespace ClaudeCodeProxy

open Effects

namespace Deployment

def tokenIssueService (deployment : Deployment) : TokenIssueService :=
  .new deployment.hashVirtualKey deployment.cacheTtl

def virtualKeyLifecycleService (deployment : Deployment) : VirtualKeyLifecycleService where
  hashVirtualKey := deployment.hashVirtualKey

def proxyAuthService (deployment : Deployment) : ProxyAuthService where
  hashVirtualKey := deployment.hashVirtualKey

end Deployment

-- The requests that reach the key ledger, the cache or the user table.
inductive Request
  | GetOrCreateKey (userId requestId : String)
  | Revoke (keyId : String)
  | Disable (keyId : String)
  | Rotate (keyId : String)
  | InvalidateUserCache (userId : String)
  | Provision (request : UserProvisioningRequest)
  deriving DecidableEq

inductive Response
  | Issued (result : TokenIssueResult)
  | Revoked (record : VirtualKeyRecord)
  | Disabled (record : VirtualKeyRecord)
  | Rotated (disabled replacement : VirtualKeyRecord)
  | Invalidated
  | Provisioned (user : UserRecord) (mapping : IdentityMapping)
  deriving DecidableEq

def Request.program (deployment : Deployment) : Request → Service Response
  | .GetOrCreateKey userId requestId => do
      return .Issued (← deployment.tokenIssueService.getOrCreateKey userId requestId)
  | .Revoke keyId => do
      return .Revoked (← VirtualKeyLifecycleService.revoke keyId)
  | .Disable keyId => do
      return .Disabled (← VirtualKeyLifecycleService.disable keyId)
  | .Rotate keyId => do
      let (disabled, replacement) ← deployment.virtualKeyLifecycleService.rotate keyId
      return .Rotated disabled replacement
  | .InvalidateUserCache userId => do
      CacheInvalidationService.invalidateUserCache userId
      return .Invalidated
  | .Provision request => do
      let (user, mapping) ← UserProvisioningService.provision request
      return .Provisioned user mapping

-- A request served in one piece.
def Request.serve (deployment : Deployment) (request : Request) (draw : Draw) (world : World) :
    Except Failure Response × World :=
  (request.program deployment).run (handle deployment draw) world

-- One step of a run in which requests do not overlap.
inductive Action
  | Invoke (request : Request) (draw : Draw)
  | Advance (microseconds : Nat)

def act (deployment : Deployment) (world : World) : Action → World
  | .Invoke request draw => (request.serve deployment draw world).2
  | .Advance microseconds => { world with clock := world.clock + microseconds }

abbrev runActions (deployment : Deployment) (world : World) (actions : List Action) : World :=
  exec (act deployment) world actions

-- One call of the Token Service on its own, with its result.
def runGetOrCreateKey (deployment : Deployment) (draw : Draw) (world : World)
    (userId requestId : String) : Except Failure TokenIssueResult × World :=
  (deployment.tokenIssueService.getOrCreateKey userId requestId).run (handle deployment draw) world

-- What the proxy answers to a header, in the state of the stores at that moment.
def authenticate (deployment : Deployment) (world : World) (authorizationHeader : Option String)
    (requestId : String) : Except Failure AuthenticatedRequestContext :=
  ((deployment.proxyAuthService.authenticate authorizationHeader requestId).run
    (handle deployment ⟨"", ""⟩) world).1

end ClaudeCodeProxy
