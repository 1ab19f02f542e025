import ClaudeCodeProxy.Proxy.Runtime

namespace ClaudeCodeProxy

open Effects Python

def AUDIT_EVENT_AUTH_SUCCESS : String := "auth_success"
def AUDIT_EVENT_AUTH_FAILURE : String := "auth_failure"
def AUDIT_EVENT_POLICY_DENIED : String := "policy_denied"
def AUDIT_EVENT_QUOTA_BLOCKED : String := "quota_hard_limit_blocked"
def AUDIT_EVENT_RATE_LIMITED : String := "rate_limited"

def AUDIT_DECISION_ALLOWED : String := "allowed"
def AUDIT_DECISION_DENIED : String := "denied"

def DENIAL_REASON_AUTHENTICATION_FAILED : String := "authentication_failed"
def DENIAL_REASON_RATE_LIMITED : String := "rate_limited"

-- The property `user`, which asserts that there is one.
def AuthenticatedRequestContext.user (authenticated : AuthenticatedRequestContext) :
    Except Exception UserContext :=
  match authenticated.request.user with
  | some user => .ok user
  | none => .error .AssertionError

theorem AuthenticatedRequestContext.user_eq_ok {authenticated : AuthenticatedRequestContext}
    {user : UserContext} (h : authenticated.user = .ok user) :
    authenticated.request.user = some user := by
  unfold AuthenticatedRequestContext.user at h
  cases hfound : authenticated.request.user with
  | none =>
      rw [hfound] at h
      cases h
  | some found =>
      rw [hfound] at h
      cases h
      rfl

def denialReasonToEventType (denialReason : String) : String :=
  if denialReason = DENIAL_QUOTA_HARD_LIMIT_EXCEEDED then AUDIT_EVENT_QUOTA_BLOCKED
  else if denialReason = DENIAL_REASON_RATE_LIMITED then AUDIT_EVENT_RATE_LIMITED
  else if denialReason = DENIAL_REASON_AUTHENTICATION_FAILED then AUDIT_EVENT_AUTH_FAILURE
  else AUDIT_EVENT_POLICY_DENIED

namespace AuditLogger

def optional (toValue : α → Value) (value : Option α) : Value := (value.map toValue).getD .None

def policyResultPayload (policyDecision : PolicyDecision) : Value := .Mapping [
  ("allowed", .Boolean policyDecision.allowed),
  ("denial_reason", optional .Str policyDecision.denialReason),
  ("effective_max_output_tokens", optional .Integer policyDecision.effectiveMaxOutputTokens),
  ("trace", .Mapping [
    ("evaluated_scopes", .Sequence (policyDecision.trace.evaluatedScopes.map .Str)),
    ("matched_policy_ids", .Sequence (policyDecision.trace.matchedPolicyIds.map .Str))])]

-- Without a cost snapshot there is no catalog id and every cost is zero.
def usageEvent (id requestId : String) (user : UserContext) (requestedModel : Value)
    (resolvedModel : Option String) (usage : Usage) (usageSnapshot : Option UsageCostSnapshot)
    (latencyMs : Option Int) (createdAt : Int) : UsageEventRecord where
  id := id
  requestId := requestId
  userId := user.userId
  userEmail := user.email
  requestedModel := requestedModel
  resolvedModel := resolvedModel
  pricingCatalogId := usageSnapshot.map UsageCostSnapshot.pricingCatalogId
  inputTokens := usage.inputTokens
  outputTokens := usage.outputTokens
  totalTokens := usage.totalTokens
  cacheWriteInputTokens := usage.cacheWriteInputTokens
  cacheReadInputTokens := usage.cacheReadInputTokens
  cacheDetails := usage.cacheDetails
  estimatedInputCostUsd := (usageSnapshot.map UsageCostSnapshot.estimatedInputCostUsd).getD 0
  estimatedOutputCostUsd := (usageSnapshot.map UsageCostSnapshot.estimatedOutputCostUsd).getD 0
  estimatedCacheWriteCostUsd :=
    (usageSnapshot.map UsageCostSnapshot.estimatedCacheWriteCostUsd).getD 0
  estimatedCacheReadCostUsd :=
    (usageSnapshot.map UsageCostSnapshot.estimatedCacheReadCostUsd).getD 0
  estimatedTotalCostUsd := (usageSnapshot.map UsageCostSnapshot.estimatedTotalCostUsd).getD 0
  latencyMs := latencyMs
  createdAt := createdAt

-- The counts `record_success` takes out of the dictionary it is given.
def readUsage (python : Interpreter) (usage : Value) : Except Exception Usage := do
  return {
    inputTokens := ← tokenCount python usage "input_tokens"
    outputTokens := ← tokenCount python usage "output_tokens"
    totalTokens := ← tokenCount python usage "total_tokens"
    cacheWriteInputTokens := ← tokenCount python usage "cache_write_input_tokens"
    cacheReadInputTokens := ← tokenCount python usage "cache_read_input_tokens"
    cacheDetails := ← usage.get "cache_details" }

def successEvent (id requestId : String) (user : UserContext) (requestedModel : Value)
    (resolvedModel : Option String) (policyDecision : PolicyDecision) (createdAt : Int) :
    AuditEventRecord where
  id := id
  requestId := requestId
  eventType := AUDIT_EVENT_AUTH_SUCCESS
  actorUserId := some user.userId
  actorUserEmail := user.email
  decision := AUDIT_DECISION_ALLOWED
  requestedModel := requestedModel
  resolvedModel := resolvedModel
  policyResult := some (policyResultPayload policyDecision)
  createdAt := createdAt

def recordSuccess (python : Interpreter) (authenticated : AuthenticatedRequestContext)
    (requestId : String) (requestedModel : Value) (resolvedModel : Option String)
    (policyDecision : PolicyDecision) (usage : Value) (usageSnapshot : Option UsageCostSnapshot)
    (latencyMs : Option Int) : Runtime Unit := do
  let createdAt ← request .Clock
  let usageEventId ← request .EventId
  let user ← ofExcept (raising authenticated.user)
  let counts ← ofExcept (raising (readUsage python usage))
  let auditEventId ← request .EventId
  attempt (.RecordUsage (usageEvent usageEventId requestId user requestedModel resolvedModel
    counts usageSnapshot latencyMs createdAt))
  attempt (.RecordAudit (successEvent auditEventId requestId user requestedModel resolvedModel
    policyDecision createdAt))

def denialEvent (id requestId denialReason : String) (user : Option UserContext)
    (requestedModel : Value) (resolvedModel : Option String)
    (policyDecision : Option PolicyDecision) (createdAt : Int) : AuditEventRecord where
  id := id
  requestId := requestId
  eventType := denialReasonToEventType denialReason
  actorUserId := user.map UserContext.userId
  actorUserEmail := user.bind UserContext.email
  decision := AUDIT_DECISION_DENIED
  requestedModel := requestedModel
  resolvedModel := resolvedModel
  denialReason := some denialReason
  policyResult := policyDecision.map policyResultPayload
  createdAt := createdAt

-- The user of a request that has been authenticated, if it has been.
def actor (authenticated : Option AuthenticatedRequestContext) :
    Except Exception (Option UserContext) :=
  match authenticated with
  | none => .ok none
  | some authenticated => authenticated.user.map some

def recordDenial (requestId denialReason : String)
    (authenticated : Option AuthenticatedRequestContext) (requestedModel : Value)
    (resolvedModel : Option String) (policyDecision : Option PolicyDecision) : Runtime Unit := do
  let id ← request .EventId
  let user ← ofExcept (raising (actor authenticated))
  let createdAt ← request .Clock
  attempt (.RecordAudit (denialEvent id requestId denialReason user requestedModel resolvedModel
    policyDecision createdAt))

end AuditLogger

end ClaudeCodeProxy
