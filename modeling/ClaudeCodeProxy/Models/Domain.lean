import ClaudeCodeProxy.Python.Value
import Mathlib.Order.Basic

namespace ClaudeCodeProxy

open Python

-- A `datetime` is an `Int` of microseconds since the epoch and a `timedelta` an `Int`
-- of microseconds.
def MICROSECONDS_PER_SECOND : Int := 1000000

def minutes (count : Int) : Int := count * 60 * MICROSECONDS_PER_SECOND

-- `int(moment.timestamp())`: whole seconds since the epoch, cut toward zero.
def epochSeconds (moment : Int) : Int := moment.tdiv MICROSECONDS_PER_SECOND

inductive VirtualKeyStatus
  | Active
  | Disabled
  | Revoked
  deriving DecidableEq

def VirtualKeyStatus.value : VirtualKeyStatus → String
  | .Active => "active"
  | .Disabled => "disabled"
  | .Revoked => "revoked"

-- `VirtualKeyStatus(value)`
def VirtualKeyStatus.ofValue : String → Except Exception VirtualKeyStatus
  | "active" => .ok .Active
  | "disabled" => .ok .Disabled
  | "revoked" => .ok .Revoked
  | _ => .error .ValueError

@[simp] theorem VirtualKeyStatus.ofValue_value (status : VirtualKeyStatus) :
    ofValue status.value = .ok status := by
  cases status with
  | Active => rfl
  | Disabled => rfl
  | Revoked => rfl

theorem VirtualKeyStatus.value_injective : Function.Injective value := by
  intro first second h
  have hread := congrArg ofValue h
  rw [ofValue_value, ofValue_value] at hread
  exact Except.ok.inj hread

inductive TokenIssueSource
  | Cache
  | Reused
  | Issued
  deriving DecidableEq

structure IdentityMapping where
  username : String
  userId : String
  identityProvider : String := "identity-center"
  createdAt : Int
  deriving DecidableEq

structure UserRecord where
  id : String
  email : String
  displayName : String
  department : Option String := none
  costCenter : Option String := none
  groups : List String := []
  proxyAccessEnabled : Bool := true
  isActive : Bool := true
  createdAt : Int
  updatedAt : Int
  deriving DecidableEq

structure AdminIdentityRecord where
  principalId : String
  role : String
  isActive : Bool := true
  createdAt : Int
  updatedAt : Int
  deriving DecidableEq

structure VirtualKeyRecord where
  id : String
  userId : String
  keyHash : String
  encryptedKeyBlob : String
  keyPrefix : String
  status : VirtualKeyStatus
  createdAt : Int
  expiresAt : Option Int := none
  revokedAt : Option Int := none
  lastUsedAt : Option Int := none
  deriving DecidableEq

structure VirtualKeyCacheEntry where
  userId : String
  virtualKeyId : String
  encryptedKeyRef : String
  keyPrefix : String
  status : VirtualKeyStatus
  ttl : Int
  deriving DecidableEq

structure TokenIssueResult where
  virtualKey : String
  userId : String
  keyId : String
  keyPrefix : String
  status : VirtualKeyStatus
  source : TokenIssueSource
  expiresAt : Option Int := none
  deriving DecidableEq

inductive BudgetPeriodType
  | Day
  | Month
  deriving DecidableEq

inductive BudgetMetricType
  | Tokens
  | CostUsd
  deriving DecidableEq

structure PolicyRecord where
  id : String
  scopeType : String
  scopeId : String
  ruleType : String
  ruleValue : String
  isActive : Bool := true
  deriving DecidableEq

structure BudgetPolicyRecord where
  id : String
  scopeType : String
  scopeId : String
  periodType : BudgetPeriodType
  metricType : BudgetMetricType
  limitValue : Int
  softLimitPercent : Int
  hardLimitPercent : Int
  isActive : Bool := true
  deriving DecidableEq

structure ModelAliasRuleRecord where
  id : String
  pattern : String
  logicalModel : String
  priority : Int
  isActive : Bool := true
  deriving DecidableEq

structure ModelRouteRecord where
  id : String
  logicalModel : String
  provider : String
  bedrockApiRoute : String
  bedrockModelId : Option String
  inferenceProfileId : Option String
  supportsNativeStructuredOutput : Bool
  supportsReasoning : Bool
  supportsPromptCacheTtl : Bool
  supportsDisableParallelToolUse : Bool
  priority : Int
  isActive : Bool := true
  deriving DecidableEq

-- Prices and costs are exact rationals, and a `date` is an `Int` of days.
structure ModelPricingRecord where
  id : String
  provider : String
  modelId : String
  inputCostPerMillion : Rat
  outputCostPerMillion : Rat
  cacheWriteInputCostPerMillion : Rat := 0
  cacheReadInputCostPerMillion : Rat := 0
  currency : String := "USD"
  effectiveFrom : Option Int := none
  effectiveTo : Option Int := none
  deriving DecidableEq

structure UsageEventRecord where
  id : String
  requestId : String
  userId : String
  userEmail : Option String
  requestedModel : Value
  resolvedModel : Option String
  pricingCatalogId : Option String
  inputTokens : Int
  outputTokens : Int
  totalTokens : Int
  cacheWriteInputTokens : Int := 0
  cacheReadInputTokens : Int := 0
  cacheDetails : Value := .None
  estimatedInputCostUsd : Rat := 0
  estimatedOutputCostUsd : Rat := 0
  estimatedCacheWriteCostUsd : Rat := 0
  estimatedCacheReadCostUsd : Rat := 0
  estimatedTotalCostUsd : Rat := 0
  latencyMs : Option Int := none
  teamId : Option String := none
  createdAt : Int
  deriving DecidableEq

structure AuditEventRecord where
  id : String
  requestId : String
  eventType : String
  actorUserId : Option String
  actorUserEmail : Option String
  decision : String
  requestedModel : Value := .None
  resolvedModel : Option String := none
  denialReason : Option String := none
  policyResult : Option Value := none
  teamId : Option String := none
  createdAt : Int
  deriving DecidableEq

-- Cutting to whole seconds keeps the order of moments.
theorem epochSeconds_mono (first second : Int) (h : first ≤ second) :
    epochSeconds first ≤ epochSeconds second := by
  exact Int.tdiv_le_tdiv (by decide) h

theorem lt_of_epochSeconds_lt (first second : Int)
    (h : epochSeconds first < epochSeconds second) : first < second := by
  by_contra hn
  have hle := epochSeconds_mono second first (Int.not_lt.mp hn)
  omega

end ClaudeCodeProxy
