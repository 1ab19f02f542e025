import ClaudeCodeProxy.Services.Requests

namespace ClaudeCodeProxy

open Effects Python

section Identity

def extractIdentitySection (event : Value) : Except Failure Value := do
  let requestContext ← raising (event.get "requestContext")
  if !requestContext.isMapping then
    throw (.IdentityResolutionError "API Gateway requestContext is missing.")
  let identity ← raising (requestContext.get "identity")
  if !identity.isMapping then
    throw (.IdentityResolutionError "API Gateway requestContext.identity is missing.")
  return identity

def missingUserArn : Failure :=
  .IdentityResolutionError "API Gateway requestContext.identity.userArn is missing."

def extractUserArn (event : Value) : Except Failure String := do
  let identity ← extractIdentitySection event
  match ← raising (identity.get "userArn") with
  | .Str userArn => if Text.strip userArn = "" then throw missingUserArn else return userArn
  | _ => throw missingUserArn

def parseUsernameFromUserArn (userArn : String) : Except Failure String :=
  let username := Text.strip (Text.afterLast '/' userArn)
  if username = "" ∨ username = userArn then
    throw (.IdentityResolutionError ("Could not parse username from user ARN: " ++ userArn))
  else
    return username

def extractUsernameFromEvent (event : Value) : Except Failure String := do
  parseUsernameFromUserArn (← extractUserArn event)

end Identity

namespace TokenServiceHandler

-- The body is the payload, rendered as JSON.
structure Response where
  statusCode : Nat
  headers : List (String × String) := [("Content-Type", "application/json")]
  body : Value
  deriving DecidableEq

-- What the handler reads of an event itself may raise here; no handler is around it.
def resolveRequestId (event : Value) (generated : String) : Except Exception String := do
  let requestContext ← event.get "requestContext" (.Mapping [])
  match ← requestContext.get "requestId" with
  | .Str requestId => return if Text.strip requestId = "" then generated else requestId
  | _ => return generated

def keyPayload (result : TokenIssueResult) (requestId : String) : Value := .Mapping [
  ("virtual_key", .Str result.virtualKey),
  ("user_id", .Str result.userId),
  ("key_id", .Str result.keyId),
  ("key_prefix", .Str result.keyPrefix),
  ("request_id", .Str requestId)]

def respond (requestId : String) : Except Failure TokenIssueResult → Response
  | .ok result => { statusCode := 200, body := keyPayload result requestId }
  | .error (.IdentityResolutionError message) => {
      statusCode := 400
      body := buildErrorEnvelope {
        code := .InvalidIdentity
        message := message
        statusCode := 400
        requestId := requestId } }
  | .error (.ServiceError error) => {
      statusCode := error.statusCode
      body := buildErrorEnvelope error }
  | .error _ => { statusCode := 500, body := buildErrorEnvelope (internalError requestId) }

-- The part of the handler whose exceptions become responses.
def requestKey (userIdForUsername : String → Option String)
    (issue : String → String → Except Failure TokenIssueResult) (event : Value)
    (requestId : String) : Except Failure TokenIssueResult := do
  let username ← extractUsernameFromEvent event
  match userIdForUsername username with
  | none => throw (.ServiceError
      (userNotRegisteredError requestId (some [("username", .Str username)])))
  | some userId => issue userId requestId

def handleGetOrCreateKey (userIdForUsername : String → Option String)
    (issue : String → String → Except Failure TokenIssueResult) (generated : String)
    (event : Value) : Except Exception Response := do
  let requestId ← resolveRequestId event generated
  return respond requestId (requestKey userIdForUsername issue event requestId)

end TokenServiceHandler

def World.userIdForUsername (world : World) (username : String) : Option String :=
  (world.mappings.get username).map IdentityMapping.userId

end ClaudeCodeProxy
