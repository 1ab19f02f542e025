import ClaudeCodeProxy.Security.Keys
import ClaudeCodeProxy.Services.Collaborators

namespace ClaudeCodeProxy

open Effects

def AUTH_REASON_MISSING_BEARER : String := "missing_bearer_token"
def AUTH_REASON_MALFORMED_BEARER : String := "malformed_bearer_token"
def AUTH_REASON_UNKNOWN_KEY : String := "unknown_virtual_key"
def AUTH_REASON_INACTIVE_KEY : String := "inactive_virtual_key"
def AUTH_REASON_ORPHANED_KEY : String := "orphaned_virtual_key"

structure UserContext where
  userId : String
  email : Option String := none
  groups : List String := []
  department : Option String := none
  deriving DecidableEq

structure RequestContext where
  requestId : String
  user : Option UserContext := none
  deriving DecidableEq

structure AuthenticatedRequestContext where
  request : RequestContext
  userRecord : UserRecord
  virtualKeyId : String
  keyHash : String
  keyPrefix : String
  deriving DecidableEq

def restoreTrustedRequestContext (requestId : String) (user : UserRecord)
    (virtualKeyId keyHash keyPrefix : String) : AuthenticatedRequestContext where
  request := {
    requestId := requestId
    user := some {
      userId := user.id
      email := some user.email
      groups := user.groups
      department := user.department } }
  userRecord := user
  virtualKeyId := virtualKeyId
  keyHash := keyHash
  keyPrefix := keyPrefix

structure ProxyAuthService where
  hashVirtualKey : String → String

namespace ProxyAuthService

def authenticationError (requestId reason : String) : ServiceError :=
  authenticationFailedError requestId (some [("reason", .Str reason)])

def extractVirtualKey (authorizationHeader : Option String) (requestId : String) :
    Except ServiceError String :=
  match authorizationHeader with
  | none => .error (authenticationError requestId AUTH_REASON_MISSING_BEARER)
  | some header =>
      if Text.strip header = "" then
        .error (authenticationError requestId AUTH_REASON_MISSING_BEARER)
      else
        let (scheme, separator, token) := Text.partition ' ' header
        if separator ≠ " " ∨ scheme ≠ "Bearer" ∨ Text.strip token = "" then
          .error (authenticationError requestId AUTH_REASON_MALFORMED_BEARER)
        else
          let normalizedToken := Text.strip token
          if Text.startsWith normalizedToken VIRTUAL_KEY_PREFIX then
            .ok normalizedToken
          else
            .error (authenticationError requestId AUTH_REASON_MALFORMED_BEARER)

def authenticate (service : ProxyAuthService) (authorizationHeader : Option String)
    (requestId : String) : Service AuthenticatedRequestContext :=
  match extractVirtualKey authorizationHeader requestId with
  | .error error => .Raise (.ServiceError error)
  | .ok virtualKey => do
      let keyHash := service.hashVirtualKey virtualKey
      match ← call (.GetKeyByHash keyHash) with
      | none =>
          .Raise (.ServiceError (authenticationError requestId AUTH_REASON_UNKNOWN_KEY))
      | some record =>
          if record.status ≠ .Active then
            .Raise (.ServiceError (authenticationError requestId AUTH_REASON_INACTIVE_KEY))
          else
            match ← call (.GetUser record.userId) with
            | none =>
                .Raise (.ServiceError (authenticationError requestId AUTH_REASON_ORPHANED_KEY))
            | some user =>
                return restoreTrustedRequestContext requestId user record.id record.keyHash
                  record.keyPrefix

end ProxyAuthService

end ClaudeCodeProxy
