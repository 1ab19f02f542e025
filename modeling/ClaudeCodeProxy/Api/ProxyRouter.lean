import ClaudeCodeProxy.Api.ErrorResponses
import ClaudeCodeProxy.Proxy.AuditLogger
import ClaudeCodeProxy.Proxy.BedrockConverse.SseEvents

namespace ClaudeCodeProxy

open Effects Python

-- What the router reads of a request. Its body is parsed on demand, and its state may
-- already hold a request id.
structure HttpRequest where
  json : Except Failure Value
  authorization : Option String := none
  stateRequestId : Value := .None

-- What is known of a request once it has passed every gate.
structure Admission where
  body : Value
  model : Value
  requestId : String
  startedAt : Rat
  authenticated : AuthenticatedRequestContext
  resolvedModel : ResolvedModel
  policyDecision : PolicyDecision
  quotaDecision : QuotaDecision

-- The generator of a streaming response, not yet started.
structure AuditedStream where
  admission : Admission
  decoder : ConverseStreamDecoder
  events : List Value

inductive MessageResponse
  | Json (response : JSONResponse)
  | Streaming (stream : AuditedStream)

def resolveRequestId (http : HttpRequest) : Runtime String :=
  match http.stateRequestId with
  | .Str requestId =>
      if Text.strip requestId ≠ "" then return requestId else request .GenerateRequestId
  | _ => request .GenerateRequestId

-- `int((now - started_at) * 1000)`
def elapsedMs (startedAt now : Rat) : Int :=
  ((now - startedAt) * 1000).num.tdiv ((now - startedAt) * 1000).den

def elapsedLatencyMs (startedAt : Rat) : Runtime Int := do
  return elapsedMs startedAt (← request .PerfCounter)

def errorResponse (error : Failure) (requestId : String) : Except Failure MessageResponse :=
  (errorResponseForException error requestId).map .Json

-- A refusal inside the pipeline: the denial goes to the audit log, if there is one,
-- and the error to the client.
def deny (audited : Bool) (requestId denialReason : String)
    (authenticated : AuthenticatedRequestContext) (requestedModel : Value)
    (resolvedModel : Option String) (policyDecision : PolicyDecision) (error : ServiceError) :
    Runtime MessageResponse := do
  if audited then
    AuditLogger.recordDenial requestId denialReason (some authenticated) requestedModel
      resolvedModel (some policyDecision)
  ofExcept (errorResponse (.ServiceError error) requestId)

def blockedMessage (gate : String) (denialReason : Option String) : String :=
  "Request blocked by " ++ gate ++ ": " ++ denialReason.getD "None" ++ "."

-- `reason or default`
def reasonOr (denialReason : Option String) (default : String) : String :=
  match denialReason with
  | some reason => if reason = "" then default else reason
  | none => default

def retryAfterHeaders (decision : RateLimitDecision) : List (String × String) :=
  decision.retryAfterSeconds.toList.map fun seconds => ("Retry-After", toString seconds)

-- `record_success` as both response modes call it.
def recordAdmitted (python : Interpreter) (admission : Admission) (usage : Value) :
    Runtime Unit := do
  let latencyMs ← elapsedLatencyMs admission.startedAt
  AuditLogger.recordSuccess python admission.authenticated admission.requestId admission.model
    admission.resolvedModel.bedrockModelId admission.policyDecision usage
    admission.quotaDecision.usageSnapshot (some latencyMs)

-- The calls after the last gate: the request is built, sent, and its answer recorded.
def invokeBedrock (python : Interpreter) (audited : Bool) (admission : Admission) :
    Runtime MessageResponse := do
  let converseRequest ← attempt (.BuildConverseRequest admission.body admission.resolvedModel)
  if converseRequest.operation = "converse_stream" then
    let events ← attempt (.ConverseStream converseRequest)
    return .Streaming ⟨admission, { model := admission.model }, events⟩
  else
    let rawResponse ← attempt (.Converse converseRequest)
    let parsedResponse ← attempt (.ParseConverseResponse rawResponse admission.model)
    if audited then
      let usage ← ofExcept (raising (parsedResponse.item "usage"))
      recordAdmitted python admission usage
    ofExcept ((jsonResponse 200 parsedResponse).map .Json)

-- The guarded part of `create_message`, after the authentication.
def runPipeline (python : Interpreter) (audited : Bool) (body : Value) (requestId : String)
    (startedAt : Rat) (authenticated : AuthenticatedRequestContext) :
    Runtime MessageResponse := do
  let model ← ofExcept (raising (body.item "model"))
  let resolvedModel ← attempt (.Resolve model)
  -- the router passes no policies and no budgets
  let policyDecision ← attempt (.EvaluatePolicy authenticated.userRecord model [])
  if !policyDecision.allowed then
    deny audited requestId (reasonOr policyDecision.denialReason "policy_denied") authenticated
      model resolvedModel.bedrockModelId policyDecision
      (accessDeniedError requestId none (blockedMessage "policy" policyDecision.denialReason))
  else
    let quotaDecision ← attempt (.EvaluateQuota [] 0 none resolvedModel.bedrockModelId none)
    if !quotaDecision.allowed then
      deny audited requestId
        (reasonOr quotaDecision.denialReason DENIAL_QUOTA_HARD_LIMIT_EXCEEDED) authenticated
        model resolvedModel.bedrockModelId policyDecision
        (accessDeniedError requestId none (blockedMessage "quota" quotaDecision.denialReason))
    else
      let user ← ofExcept (raising authenticated.user)
      let rateLimitDecision ← attempt (.CheckRateLimit user.userId)
      if !rateLimitDecision.allowed then
        deny audited requestId DENIAL_REASON_RATE_LIMITED authenticated
          model resolvedModel.bedrockModelId policyDecision
          (rateLimitExceededError requestId none (some (retryAfterHeaders rateLimitDecision)))
      else
        invokeBedrock python audited ⟨body, model, requestId, startedAt, authenticated,
          resolvedModel, policyDecision, quotaDecision⟩

def createMessage (python : Interpreter) (audited : Bool) (http : HttpRequest) :
    Runtime MessageResponse := do
  let body ← ofExcept http.json
  let requestId ← resolveRequestId http
  let startedAt ← request .PerfCounter
  match ← request (.Ask (.Authenticate http.authorization requestId)) with
  | .error error =>
      if audited then
        let model ← ofExcept (raising (body.get "model"))
        AuditLogger.recordDenial requestId DENIAL_REASON_AUTHENTICATION_FAILED none model none none
      ofExcept (errorResponse error requestId)
  | .ok authenticated =>
      (runPipeline python audited body requestId startedAt authenticated).tryCatch fun error =>
        ofExcept (errorResponse error requestId)

-- `_stream_with_audit` from its first step on: whatever ends the frames, the request
-- is recorded, and then an exception goes on its way.
def streamWithAudit (python : Interpreter) (audited : Bool) (stream : AuditedStream) :
    Runtime Ending := do
  let (ending, decoder) ← stream.decoder.iterSseEvents python stream.events
  if audited then
    recordAdmitted python stream.admission decoder.usage.toValue
  match ending with
  | .Raised error => .Raise error
  | ending => return ending

-- A request with its response sent to the client: the server iterates a stream, and
-- an exception in it ends the body of a response that is already on its way.
def serveMessage (python : Interpreter) (audited : Bool) (http : HttpRequest) :
    Runtime MessageResponse := do
  match ← createMessage python audited http with
  | .Json response => return .Json response
  | .Streaming stream =>
      (streamWithAudit python audited stream >>= fun _ => return .Streaming stream).tryCatch
        fun _ => return .Streaming stream

-- The keys of the answer of `CountTokens`, in either spelling.
def countedTokens (python : Interpreter) (countResponse : Value) : Except Exception Int := do
  let snakeCase ← countResponse.get "input_tokens" (.Integer 0)
  (← countResponse.get "inputTokens" snakeCase).toCount python

-- The guarded part of `count_tokens`.
def countConverse (http : HttpRequest) (body : Value) (requestId : String) : Runtime Value := do
  let _ ← attempt (.Authenticate http.authorization requestId)
  let model ← ofExcept (raising (body.item "model"))
  let resolvedModel ← attempt (.Resolve model)
  let converseRequest ← attempt (.BuildConverseRequest body resolvedModel)
  attempt (.CountTokens converseRequest)

def countTokens (python : Interpreter) (http : HttpRequest) : Runtime MessageResponse := do
  let body ← ofExcept http.json
  let requestId ← resolveRequestId http
  match ← (countConverse http body requestId).captured with
  | .error error => ofExcept (errorResponse error requestId)
  | .ok countResponse =>
      let inputTokens ← ofExcept (raising (countedTokens python countResponse))
      ofExcept ((jsonResponse 200 (.Mapping [("input_tokens", .Integer inputTokens)])).map .Json)

end ClaudeCodeProxy
