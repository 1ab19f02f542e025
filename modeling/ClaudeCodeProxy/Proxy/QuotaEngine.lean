import ClaudeCodeProxy.Models.Domain
import ClaudeCodeProxy.Models.Errors
import Mathlib.Algebra.Order.Ring.Rat
import Mathlib.Data.List.MinMax
import Mathlib.Data.Prod.Lex
import Mathlib.Data.String.Basic

namespace ClaudeCodeProxy

open Python

def MILLION : Rat := 1000000
def DENIAL_QUOTA_HARD_LIMIT_EXCEEDED : String := "quota_hard_limit_exceeded"

-- `SCOPE_RANK.get(scope_type, 99)`
def scopeRank : String → Nat
  | "user" => 0
  | "team" => 1
  | "global" => 2
  | _ => 99

structure TokenUsageEstimate where
  inputTokens : Int := 0
  outputTokens : Int := 0
  cacheWriteInputTokens : Int := 0
  cacheReadInputTokens : Int := 0
  deriving DecidableEq

structure UsageCostSnapshot where
  pricingCatalogId : String
  estimatedInputCostUsd : Rat
  estimatedOutputCostUsd : Rat
  estimatedCacheWriteCostUsd : Rat
  estimatedCacheReadCostUsd : Rat
  estimatedTotalCostUsd : Rat
  deriving DecidableEq

structure QuotaDecision where
  allowed : Bool
  denialReason : Option String
  effectivePolicy : Option BudgetPolicyRecord
  softLimitReached : Bool
  hardLimitReached : Bool
  projectedUsage : Rat
  usageSnapshot : Option UsageCostSnapshot := none
  deriving DecidableEq

-- The engine with what its pricing repository answers, if it has one.
structure QuotaEngine where
  pricingRepository : Option (String → Except Failure (Option ModelPricingRecord))

namespace QuotaEngine

def effectiveLimitValue (limitValue percent : Int) : Rat := limitValue * (percent / 100)

-- The key of a policy, part by part. The orders are named because Mathlib also finds some
-- that do not compute.
abbrev PolicyKey : Type := Rat ×ₗ Int ×ₗ Int ×ₗ Nat ×ₗ String

abbrev policyOrder : LinearOrder PolicyKey :=
  @Prod.Lex.instLinearOrder _ _ Rat.linearOrder
    (@Prod.Lex.instLinearOrder _ _ Int.instLinearOrder
      (@Prod.Lex.instLinearOrder _ _ Int.instLinearOrder
        (@Prod.Lex.instLinearOrder _ _ Nat.instLinearOrder inferInstance)))

-- What the policies are compared by, in this order.
def policyKey (policy : BudgetPolicyRecord) : PolicyKey :=
  toLex (effectiveLimitValue policy.limitValue policy.hardLimitPercent,
    toLex (policy.limitValue, toLex (policy.hardLimitPercent,
      toLex (scopeRank policy.scopeType, policy.id))))

def selectEffectivePolicy (policies : List BudgetPolicyRecord) : Option BudgetPolicyRecord :=
  @List.argmin _ _ policyOrder.toPreorder policyOrder.toDecidableLT policyKey
    (policies.filter BudgetPolicyRecord.isActive)

def getActivePricing (engine : QuotaEngine) (modelId : Option String) :
    Except Failure (Option ModelPricingRecord) :=
  match engine.pricingRepository, modelId with
  | some getActivePricing, some modelId => getActivePricing modelId
  | _, _ => .ok none

def costSnapshot (pricing : ModelPricingRecord) (usage : TokenUsageEstimate) :
    UsageCostSnapshot :=
  let inputCost := usage.inputTokens * pricing.inputCostPerMillion / MILLION
  let outputCost := usage.outputTokens * pricing.outputCostPerMillion / MILLION
  let cacheWriteCost :=
    usage.cacheWriteInputTokens * pricing.cacheWriteInputCostPerMillion / MILLION
  let cacheReadCost :=
    usage.cacheReadInputTokens * pricing.cacheReadInputCostPerMillion / MILLION
  { pricingCatalogId := pricing.id
    estimatedInputCostUsd := inputCost
    estimatedOutputCostUsd := outputCost
    estimatedCacheWriteCostUsd := cacheWriteCost
    estimatedCacheReadCostUsd := cacheReadCost
    estimatedTotalCostUsd := inputCost + outputCost + cacheWriteCost + cacheReadCost }

def buildUsageSnapshot (pricing : Option ModelPricingRecord)
    (tokenUsage : Option TokenUsageEstimate) : Option UsageCostSnapshot :=
  match pricing, tokenUsage with
  | some pricing, some usage => some (costSnapshot pricing usage)
  | _, _ => none

def resolveRequestedUsage (effectivePolicy : Option BudgetPolicyRecord)
    (requestedUsage : Option Rat) (usageSnapshot : Option UsageCostSnapshot) : Rat :=
  match requestedUsage, effectivePolicy, usageSnapshot with
  | some requested, _, _ => requested
  | none, some policy, some snapshot =>
      if policy.metricType = .CostUsd then snapshot.estimatedTotalCostUsd else 0
  | none, _, _ => 0

def evaluate (engine : QuotaEngine) (budgetPolicies : List BudgetPolicyRecord)
    (currentUsage : Rat) (requestedUsage : Option Rat := none) (modelId : Option String := none)
    (tokenUsage : Option TokenUsageEstimate := none) : Except Failure QuotaDecision := do
  let effectivePolicy := selectEffectivePolicy budgetPolicies
  let pricing ← engine.getActivePricing modelId
  let usageSnapshot := buildUsageSnapshot pricing tokenUsage
  let projectedUsage :=
    currentUsage + resolveRequestedUsage effectivePolicy requestedUsage usageSnapshot
  match effectivePolicy with
  | none =>
      return {
        allowed := true
        denialReason := none
        effectivePolicy := none
        softLimitReached := false
        hardLimitReached := false
        projectedUsage := projectedUsage
        usageSnapshot := usageSnapshot }
  | some policy =>
      let softLimit := effectiveLimitValue policy.limitValue policy.softLimitPercent
      let hardLimit := effectiveLimitValue policy.limitValue policy.hardLimitPercent
      let hardLimitReached := decide (hardLimit ≤ projectedUsage)
      return {
        allowed := !hardLimitReached
        denialReason := if hardLimitReached then some DENIAL_QUOTA_HARD_LIMIT_EXCEEDED else none
        effectivePolicy := some policy
        softLimitReached := decide (softLimit ≤ projectedUsage)
        hardLimitReached := hardLimitReached
        projectedUsage := projectedUsage
        usageSnapshot := usageSnapshot }

-- Every part of the snapshot of a decision comes from the row that was asked for once.
theorem evaluate_snapshot {engine : QuotaEngine} {budgetPolicies : List BudgetPolicyRecord}
    {currentUsage : Rat} {requestedUsage : Option Rat} {modelId : Option String}
    {tokenUsage : Option TokenUsageEstimate} {decision : QuotaDecision}
    (h : engine.evaluate budgetPolicies currentUsage requestedUsage modelId tokenUsage =
      .ok decision) :
    ∃ pricing, engine.getActivePricing modelId = .ok pricing ∧
      decision.usageSnapshot = buildUsageSnapshot pricing tokenUsage := by
  unfold evaluate at h
  obtain ⟨pricing, hpricing, h⟩ := bind_eq_ok.mp h
  refine ⟨pricing, hpricing, ?_⟩
  cases hpolicy : selectEffectivePolicy budgetPolicies with
  | none =>
      rw [hpolicy] at h
      rw [← pure_eq_ok.mp h]
  | some policy =>
      rw [hpolicy] at h
      rw [← pure_eq_ok.mp h]

-- Without budgets nothing is denied; only the pricing can fail.
theorem evaluate_nil (engine : QuotaEngine) (currentUsage : Rat) (modelId : Option String) :
    (∃ error, engine.getActivePricing modelId = .error error ∧
      engine.evaluate [] currentUsage none modelId none = .error error) ∨
    ∃ decision, engine.evaluate [] currentUsage none modelId none = .ok decision ∧
      decision.allowed = true ∧ decision.usageSnapshot = none := by
  cases hpricing : engine.getActivePricing modelId with
  | error error => exact .inl ⟨error, rfl, by simp [evaluate, hpricing, bind, Except.bind]⟩
  | ok pricing =>
      refine .inr ⟨{
        allowed := true
        denialReason := none
        effectivePolicy := none
        softLimitReached := false
        hardLimitReached := false
        projectedUsage := currentUsage }, ?_, rfl, rfl⟩
      have hsnapshot : buildUsageSnapshot pricing none = none := by cases pricing <;> rfl
      simp [evaluate, hpricing, hsnapshot, selectEffectivePolicy, resolveRequestedUsage, bind,
        Except.bind, pure, Except.pure]

end QuotaEngine

end ClaudeCodeProxy
