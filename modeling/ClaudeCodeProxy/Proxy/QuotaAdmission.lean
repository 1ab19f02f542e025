import ClaudeCodeProxy.Lists.Extremes
import ClaudeCodeProxy.Proxy.QuotaEngine
import Mathlib.Data.List.Nodup
import Mathlib.Tactic.Linarith
import Mathlib.Tactic.Ring

namespace ClaudeCodeProxy

open Lists Python

namespace QuotaEngine

def hardLimit (policy : BudgetPolicyRecord) : Rat :=
  effectiveLimitValue policy.limitValue policy.hardLimitPercent

theorem hardLimit_eq (policy : BudgetPolicyRecord) :
    hardLimit policy = policy.limitValue * policy.hardLimitPercent / 100 := by
  unfold hardLimit effectiveLimitValue
  ring

-- The decision once the policy and the projected usage are known.
def decisionOf (effectivePolicy : Option BudgetPolicyRecord) (projectedUsage : Rat)
    (usageSnapshot : Option UsageCostSnapshot) : QuotaDecision :=
  match effectivePolicy with
  | none => {
      allowed := true
      denialReason := none
      effectivePolicy := none
      softLimitReached := false
      hardLimitReached := false
      projectedUsage := projectedUsage
      usageSnapshot := usageSnapshot }
  | some policy =>
      let softLimit := effectiveLimitValue policy.limitValue policy.softLimitPercent
      let hardLimitReached := decide (hardLimit policy ≤ projectedUsage)
      { allowed := !hardLimitReached
        denialReason := if hardLimitReached then some DENIAL_QUOTA_HARD_LIMIT_EXCEEDED else none
        effectivePolicy := some policy
        softLimitReached := decide (softLimit ≤ projectedUsage)
        hardLimitReached := hardLimitReached
        projectedUsage := projectedUsage
        usageSnapshot := usageSnapshot }

-- The pricing is all that can fail.
theorem evaluate_eq_decisionOf {engine : QuotaEngine} {modelId : Option String}
    {pricing : Option ModelPricingRecord} (hpricing : engine.getActivePricing modelId = .ok pricing)
    (policies : List BudgetPolicyRecord) (currentUsage : Rat) (requestedUsage : Option Rat)
    (tokenUsage : Option TokenUsageEstimate) :
    engine.evaluate policies currentUsage requestedUsage modelId tokenUsage =
      .ok (decisionOf (selectEffectivePolicy policies)
        (currentUsage + resolveRequestedUsage (selectEffectivePolicy policies) requestedUsage
          (buildUsageSnapshot pricing tokenUsage))
        (buildUsageSnapshot pricing tokenUsage)) := by
  unfold evaluate
  rw [hpricing, ok_bind]
  cases hselect : selectEffectivePolicy policies with
  | none => rfl
  | some policy => rfl

theorem decisionOf_allowed_some (policy : BudgetPolicyRecord) (projectedUsage : Rat)
    (usageSnapshot : Option UsageCostSnapshot) :
    (decisionOf (some policy) projectedUsage usageSnapshot).allowed = true ↔
      projectedUsage < hardLimit policy := by
  simp [decisionOf]

section Order

-- An earlier key has a lower hard limit.
theorem hardLimit_le_of_key {first second : BudgetPolicyRecord}
    (h : policyOrder.le (policyKey first) (policyKey second)) :
    hardLimit first ≤ hardLimit second := by
  rcases Prod.Lex.toLex_le_toLex.mp h with hlt | ⟨heq, _⟩
  · exact le_of_lt hlt
  · exact le_of_eq heq

theorem id_eq_of_key {first second : BudgetPolicyRecord} (h : policyKey first = policyKey second) :
    first.id = second.id := by
  simp only [policyKey, toLex_inj, Prod.mk.injEq] at h
  exact h.2.2.2.2

variable {policies : List BudgetPolicyRecord}

theorem selectEffectivePolicy_none_iff :
    selectEffectivePolicy policies = none ↔ ∀ policy ∈ policies, policy.isActive = false := by
  rw [selectEffectivePolicy, List.argmin_eq_none, List.filter_eq_nil_iff]
  simp only [Bool.not_eq_true]

theorem selectEffectivePolicy_some {winner : BudgetPolicyRecord}
    (h : selectEffectivePolicy policies = some winner) :
    winner ∈ policies ∧ winner.isActive = true ∧ ∀ policy ∈ policies, policy.isActive = true →
      policyOrder.le (policyKey winner) (policyKey policy) := by
  obtain ⟨hm, hactive⟩ := List.mem_filter.mp (List.argmin_mem h)
  refine ⟨hm, hactive, ?_⟩
  intro policy hmem hpolicy
  exact @List.le_of_mem_argmin _ _ policyOrder _ _ _ _ (List.mem_filter.mpr ⟨hmem, hpolicy⟩) h

-- The one check stands for all of them.
theorem decisionOf_allowed_iff (projectedUsage : Rat) (usageSnapshot : Option UsageCostSnapshot) :
    (decisionOf (selectEffectivePolicy policies) projectedUsage usageSnapshot).allowed = true ↔
      ∀ policy ∈ policies, policy.isActive = true → projectedUsage < hardLimit policy := by
  cases hselect : selectEffectivePolicy policies with
  | none =>
      have hnone := selectEffectivePolicy_none_iff.mp hselect
      constructor
      · intro _ policy hm hactive
        rw [hnone policy hm] at hactive
        cases hactive
      · intro _
        rfl
  | some winner =>
      obtain ⟨hm, hactive, hleast⟩ := selectEffectivePolicy_some hselect
      rw [decisionOf_allowed_some]
      constructor
      · intro hbelow policy hmem hpolicy
        exact lt_of_lt_of_le hbelow (hardLimit_le_of_key (hleast policy hmem hpolicy))
      · exact fun hall => hall winner hm hactive

-- With distinct ids the active policies determine the one that is selected.
theorem selectEffectivePolicy_congr {others : List BudgetPolicyRecord}
    (hids : (policies.map BudgetPolicyRecord.id).Nodup)
    (hsame : ∀ policy, policy.isActive = true → (policy ∈ others ↔ policy ∈ policies)) :
    selectEffectivePolicy others = selectEffectivePolicy policies := by
  cases hselect : selectEffectivePolicy policies with
  | none =>
      have hnone := selectEffectivePolicy_none_iff.mp hselect
      rw [selectEffectivePolicy_none_iff]
      intro policy hm
      by_contra hactive
      have hactive' : policy.isActive = true := by simpa using hactive
      exact hactive (hnone policy ((hsame policy hactive').mp hm))
  | some winner =>
      obtain ⟨hm, hactive, hleast⟩ := selectEffectivePolicy_some hselect
      cases hother : selectEffectivePolicy others with
      | none =>
          have hnone := selectEffectivePolicy_none_iff.mp hother
          rw [hnone winner ((hsame winner hactive).mpr hm)] at hactive
          cases hactive
      | some found =>
          obtain ⟨hm', hactive', hleast'⟩ := selectEffectivePolicy_some hother
          have hfound : found ∈ policies := (hsame found hactive').mp hm'
          have hkey : policyKey found = policyKey winner := policyOrder.le_antisymm _ _
            (hleast' winner ((hsame winner hactive).mpr hm) hactive) (hleast found hfound hactive')
          rw [List.inj_on_of_nodup_map hids hfound hm (id_eq_of_key hkey)]

end Order

-- Admission is the conjunction of the hard limits, and nothing about it depends on the
-- order of the policies, on inactive ones or on soft limits.
theorem allowed_iff_below_every_hard_limit (engine : QuotaEngine)
    (policies : List BudgetPolicyRecord) (currentUsage requestedUsage : Rat)
    (modelId : Option String) (tokenUsage : Option TokenUsageEstimate)
    (pricing : Option ModelPricingRecord) (hids : (policies.map BudgetPolicyRecord.id).Nodup)
    (hpricing : engine.getActivePricing modelId = .ok pricing) :
    ∃ decision, engine.evaluate policies currentUsage (some requestedUsage) modelId tokenUsage =
        .ok decision ∧
      (decision.allowed = true ↔ ∀ policy ∈ policies, policy.isActive = true →
        currentUsage + requestedUsage < policy.limitValue * policy.hardLimitPercent / 100) ∧
      (∀ soft : BudgetPolicyRecord → Int, ∃ decision',
        engine.evaluate (policies.map fun policy => { policy with softLimitPercent := soft policy })
            currentUsage (some requestedUsage) modelId tokenUsage = .ok decision' ∧
          decision'.allowed = decision.allowed) ∧
      ∀ policies', (∀ policy, policy.isActive = true → (policy ∈ policies' ↔ policy ∈ policies)) →
        ∃ decision', engine.evaluate policies' currentUsage (some requestedUsage) modelId
            tokenUsage = .ok decision' ∧
          decision'.allowed = decision.allowed ∧
          decision'.effectivePolicy = decision.effectivePolicy ∧
          decision'.softLimitReached = decision.softLimitReached ∧
          decision'.hardLimitReached = decision.hardLimitReached := by
  have heval := fun policies =>
    evaluate_eq_decisionOf hpricing policies currentUsage (some requestedUsage) tokenUsage
  simp only [resolveRequestedUsage] at heval
  refine ⟨_, heval policies, ?_, ?_, ?_⟩
  · rw [decisionOf_allowed_iff]
    simp only [hardLimit_eq]
  · intro soft
    refine ⟨_, heval _, ?_⟩
    rw [Bool.eq_iff_iff, decisionOf_allowed_iff, decisionOf_allowed_iff, List.forall_mem_map]
    rfl
  · intro policies' hsame
    refine ⟨_, heval policies', ?_⟩
    rw [selectEffectivePolicy_congr hids hsame]
    exact ⟨rfl, rfl, rfl, rfl⟩

def sampleTokenBudget : BudgetPolicyRecord where
  id := "team-tokens"
  scopeType := "team"
  scopeId := "team-1"
  periodType := .Month
  metricType := .Tokens
  limitValue := 9
  softLimitPercent := 80
  hardLimitPercent := 100

def sampleCostBudget : BudgetPolicyRecord where
  id := "user-cost"
  scopeType := "user"
  scopeId := "user-1"
  periodType := .Day
  metricType := .CostUsd
  limitValue := 10
  softLimitPercent := 80
  hardLimitPercent := 100

def samplePriceRow : ModelPricingRecord where
  id := "price-1"
  provider := "anthropic"
  modelId := "claude-opus-4"
  inputCostPerMillion := 3
  outputCostPerMillion := 15

def sampleQuotaEngine : QuotaEngine where
  pricingRepository := some fun modelId =>
    .ok (if modelId = samplePriceRow.modelId then some samplePriceRow else none)

theorem allowed_iff_below_every_hard_limit_sample :
    ∃ decision, sampleQuotaEngine.evaluate [sampleCostBudget, sampleTokenBudget] 8 (some 1)
        (some "claude-opus-4") none = .ok decision ∧
      (decision.allowed = true ↔ ∀ policy ∈ [sampleCostBudget, sampleTokenBudget],
        policy.isActive = true →
        8 + 1 < (policy.limitValue * policy.hardLimitPercent / 100 : Rat)) := by
  obtain ⟨decision, heval, hiff, -⟩ := allowed_iff_below_every_hard_limit sampleQuotaEngine
    [sampleCostBudget, sampleTokenBudget] 8 1 (some "claude-opus-4") none (some samplePriceRow)
    (by decide) (by decide)
  exact ⟨decision, heval, hiff⟩

section MoreBudgets

-- What a request without a stated usage counts for under a policy.
def charge (usageSnapshot : Option UsageCostSnapshot) (policy : BudgetPolicyRecord) : Rat :=
  resolveRequestedUsage (some policy) none usageSnapshot

-- The usage from which on the policy denies the request.
def headroom (usageSnapshot : Option UsageCostSnapshot) (policy : BudgetPolicyRecord) : Rat :=
  hardLimit policy - charge usageSnapshot policy

-- The policy comes first among the active ones, by the order of their keys.
def Prevails (before : List BudgetPolicyRecord) (policy : BudgetPolicyRecord)
    (after : List BudgetPolicyRecord) : Prop :=
  policy.isActive = true ∧
    @Leads _ _ policyOrder policyKey (before.filter BudgetPolicyRecord.isActive) policy
      (after.filter BudgetPolicyRecord.isActive)

theorem selectEffectivePolicy_some_iff (policies : List BudgetPolicyRecord)
    (winner : BudgetPolicyRecord) :
    selectEffectivePolicy policies = some winner ↔
      ∃ front back, policies = front ++ winner :: back ∧ Prevails front winner back := by
  unfold selectEffectivePolicy
  constructor
  · intro h
    obtain ⟨first, last, hsplit, hleads⟩ := (@argmin_eq_some_iff _ _ policyOrder _ _ _).mp h
    obtain ⟨front, rest, rfl, rfl, hrest⟩ := List.filter_eq_append_iff.mp hsplit
    obtain ⟨skipped, back, rfl, hskipped, hactive, rfl⟩ := List.filter_eq_cons_iff.mp hrest
    have hnone : skipped.filter BudgetPolicyRecord.isActive = [] :=
      List.filter_eq_nil_iff.mpr hskipped
    refine ⟨front ++ skipped, back, by simp, hactive, ?_⟩
    rw [List.filter_append, hnone, List.append_nil]
    exact hleads
  · rintro ⟨front, back, rfl, hactive, hleads⟩
    rw [List.filter_append, List.filter_cons_of_pos hactive]
    exact @argmin_insert_of_leads _ _ policyOrder _ _ _ _ hleads

theorem selectEffectivePolicy_insert (before after : List BudgetPolicyRecord)
    (extra : BudgetPolicyRecord) (h : ¬Prevails before extra after) :
    selectEffectivePolicy (before ++ extra :: after) = selectEffectivePolicy (before ++ after) := by
  unfold selectEffectivePolicy
  rw [List.filter_append, List.filter_append]
  by_cases hactive : extra.isActive = true
  · rw [List.filter_cons_of_pos hactive]
    apply @argmin_insert_of_not_leads _ _ policyOrder
    exact fun hleads => h ⟨hactive, hleads⟩
  · rw [List.filter_cons_of_neg hactive]

theorem allowed_iff_below_headroom (usageSnapshot : Option UsageCostSnapshot) (currentUsage : Rat)
    (policy : BudgetPolicyRecord) :
    (decisionOf (some policy) (currentUsage + resolveRequestedUsage (some policy) none
        usageSnapshot) usageSnapshot).allowed = true ↔
      currentUsage < headroom usageSnapshot policy := by
  rw [decisionOf_allowed_some, headroom, charge]
  exact lt_sub_iff_add_lt.symm

-- One budget more admits more only where it takes the place of the policy in force and
-- the usage lies between what that one and the new one leave.
theorem more_budgets_iff (engine : QuotaEngine) (before after : List BudgetPolicyRecord)
    (extra : BudgetPolicyRecord) (currentUsage : Rat) (modelId : Option String)
    (tokenUsage : Option TokenUsageEstimate) (pricing : Option ModelPricingRecord)
    (hpricing : engine.getActivePricing modelId = .ok pricing) :
    ∃ decision extended,
      engine.evaluate (before ++ after) currentUsage none modelId tokenUsage = .ok decision ∧
      engine.evaluate (before ++ extra :: after) currentUsage none modelId tokenUsage =
        .ok extended ∧
      ((decision.allowed = false → extended.allowed = false) ↔
        ∀ front winner back, before ++ after = front ++ winner :: back →
          Prevails front winner back → Prevails before extra after →
          currentUsage < headroom (buildUsageSnapshot pricing tokenUsage) winner ∨
            headroom (buildUsageSnapshot pricing tokenUsage) extra ≤ currentUsage) := by
  have heval := fun policies =>
    evaluate_eq_decisionOf hpricing policies currentUsage none tokenUsage
  refine ⟨_, _, heval (before ++ after), heval (before ++ extra :: after), ?_⟩
  generalize buildUsageSnapshot pricing tokenUsage = usageSnapshot
  by_cases hprevails : Prevails before extra after
  · have hextra : selectEffectivePolicy (before ++ extra :: after) = some extra :=
      (selectEffectivePolicy_some_iff _ _).mpr ⟨before, after, rfl, hprevails⟩
    rw [hextra, ← Bool.not_eq_true, ← Bool.not_eq_true, allowed_iff_below_headroom]
    cases hwinner : selectEffectivePolicy (before ++ after) with
    | none =>
        constructor
        · intro _ front winner back hsplit hwins
          have hsome := (selectEffectivePolicy_some_iff _ winner).mpr ⟨front, back, hsplit, hwins⟩
          rw [hwinner] at hsome
          cases hsome
        · intro _ hdenied
          exact absurd rfl hdenied
    | some winner =>
        rw [allowed_iff_below_headroom, not_lt, not_lt]
        constructor
        · intro hmonotone front found back hsplit hwins _
          have hsome := (selectEffectivePolicy_some_iff _ found).mpr ⟨front, back, hsplit, hwins⟩
          obtain rfl : winner = found := Option.some.inj (hwinner.symm.trans hsome)
          by_cases hbelow : currentUsage < headroom usageSnapshot winner
          · exact .inl hbelow
          · exact .inr (hmonotone (not_lt.mp hbelow))
        · intro hall hreached
          obtain ⟨front, back, hsplit, hwins⟩ := (selectEffectivePolicy_some_iff _ winner).mp hwinner
          rcases hall front winner back hsplit hwins hprevails with hbelow | habove
          · exact absurd hbelow (not_lt.mpr hreached)
          · exact habove
  · rw [selectEffectivePolicy_insert before after extra hprevails]
    constructor
    · intro _ front winner back _ _ h
      exact absurd h hprevails
    · exact fun _ hdenied => hdenied

-- Policies of one metric leave no such gap.
theorem headroom_le_of_metric (usageSnapshot : Option UsageCostSnapshot)
    {before after front back : List BudgetPolicyRecord} {extra winner : BudgetPolicyRecord}
    (hsplit : before ++ after = front ++ winner :: back) (hwins : Prevails front winner back)
    (hextra : Prevails before extra after) (hmetric : extra.metricType = winner.metricType) :
    headroom usageSnapshot extra ≤ headroom usageSnapshot winner := by
  have hselect : selectEffectivePolicy (before ++ extra :: after) = some extra :=
    (selectEffectivePolicy_some_iff _ _).mpr ⟨before, after, rfl, hextra⟩
  obtain ⟨-, -, hleast⟩ := selectEffectivePolicy_some hselect
  have hm : winner ∈ before ++ extra :: after := by
    have hmem : winner ∈ before ++ after := by simp [hsplit]
    rw [List.mem_append] at hmem
    simp only [List.mem_append, List.mem_cons]
    tauto
  have hlimit := hardLimit_le_of_key (hleast winner hm hwins.1)
  have hcharge : charge usageSnapshot extra = charge usageSnapshot winner := by
    cases usageSnapshot with
    | none => rfl
    | some snapshot => simp only [charge, resolveRequestedUsage, hmetric]
  rw [headroom, headroom, hcharge]
  exact sub_le_sub_right hlimit _

theorem more_budgets_sample :
    ∃ decision extended,
      sampleQuotaEngine.evaluate [sampleTokenBudget] 9 none (some "claude-opus-4") none =
        .ok decision ∧
      sampleQuotaEngine.evaluate [sampleTokenBudget, sampleCostBudget] 9 none
        (some "claude-opus-4") none = .ok extended ∧
      (decision.allowed = false → extended.allowed = false) := by
  obtain ⟨decision, extended, heval, hextended, hiff⟩ := more_budgets_iff sampleQuotaEngine
    [sampleTokenBudget] [] sampleCostBudget 9 (some "claude-opus-4") none (some samplePriceRow)
    (by decide)
  refine ⟨decision, extended, heval, hextended, hiff.mpr ?_⟩
  intro front winner back _ _ hprevails
  have hkey := hprevails.2.1 sampleTokenBudget (by decide)
  exact absurd hkey (by decide +kernel)

-- A cost budget that is reached is not enforced any more once a lower token budget,
-- under which the request counts for nothing, takes its place.
theorem more_budgets_admit_more :
    ¬ ∀ (engine : QuotaEngine) (before after : List BudgetPolicyRecord)
      (extra : BudgetPolicyRecord) (currentUsage : Rat) (modelId : Option String)
      (tokenUsage : Option TokenUsageEstimate) (pricing : Option ModelPricingRecord),
      engine.getActivePricing modelId = .ok pricing →
      ∃ decision extended,
        engine.evaluate (before ++ after) currentUsage none modelId tokenUsage = .ok decision ∧
        engine.evaluate (before ++ extra :: after) currentUsage none modelId tokenUsage =
          .ok extended ∧
        (decision.allowed = false → extended.allowed = false) := by
  intro h
  obtain ⟨decision, extended, heval, hextended, hmonotone⟩ := h sampleQuotaEngine
    [sampleCostBudget] [] sampleTokenBudget 8 (some "claude-opus-4")
    (some { inputTokens := 1000000 }) (some samplePriceRow) (by decide)
  have hdenied : (sampleQuotaEngine.evaluate [sampleCostBudget] 8 none (some "claude-opus-4")
      (some { inputTokens := 1000000 })).map QuotaDecision.allowed = .ok false := by
    decide +kernel
  have hadmitted : (sampleQuotaEngine.evaluate [sampleCostBudget, sampleTokenBudget] 8 none
      (some "claude-opus-4") (some { inputTokens := 1000000 })).map QuotaDecision.allowed =
        .ok true := by
    decide +kernel
  rw [show [sampleCostBudget] = [sampleCostBudget] ++ [] from rfl, heval] at hdenied
  rw [show [sampleCostBudget, sampleTokenBudget] = [sampleCostBudget] ++ sampleTokenBudget :: []
    from rfl, hextended] at hadmitted
  have hfalse : decision.allowed = false := Except.ok.inj hdenied
  have htrue : extended.allowed = true := Except.ok.inj hadmitted
  rw [hmonotone hfalse] at htrue
  cases htrue

end MoreBudgets

end QuotaEngine

end ClaudeCodeProxy
