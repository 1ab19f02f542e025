import ClaudeCodeProxy.Api.Components

-- Which costs the usage events of a request carry.

namespace ClaudeCodeProxy

open Effects Python

-- The event names the pricing row, and its costs are its counts at the prices of the row.
structure UsageEventRecord.PricedBy (event : UsageEventRecord) (pricing : ModelPricingRecord) :
    Prop where
  catalog : event.pricingCatalogId = some pricing.id
  input : event.estimatedInputCostUsd =
    event.inputTokens * pricing.inputCostPerMillion / MILLION
  output : event.estimatedOutputCostUsd =
    event.outputTokens * pricing.outputCostPerMillion / MILLION
  cacheWrite : event.estimatedCacheWriteCostUsd =
    event.cacheWriteInputTokens * pricing.cacheWriteInputCostPerMillion / MILLION
  cacheRead : event.estimatedCacheReadCostUsd =
    event.cacheReadInputTokens * pricing.cacheReadInputCostPerMillion / MILLION
  total : event.estimatedTotalCostUsd = event.estimatedInputCostUsd +
    event.estimatedOutputCostUsd + event.estimatedCacheWriteCostUsd +
    event.estimatedCacheReadCostUsd

-- The event names no pricing row and no costs.
structure UsageEventRecord.Unpriced (event : UsageEventRecord) : Prop where
  catalog : event.pricingCatalogId = none
  input : event.estimatedInputCostUsd = 0
  output : event.estimatedOutputCostUsd = 0
  cacheWrite : event.estimatedCacheWriteCostUsd = 0
  cacheRead : event.estimatedCacheReadCostUsd = 0
  total : event.estimatedTotalCostUsd = 0

theorem UsageEventRecord.Unpriced.not_pricedBy {event : UsageEventRecord} (h : event.Unpriced)
    (pricing : ModelPricingRecord) : ¬event.PricedBy pricing := by
  intro hpriced
  have hcatalog := hpriced.catalog
  rw [h.catalog] at hcatalog
  cases hcatalog

-- An engine with the snapshot of the usage would have priced the event by its row.
theorem usageEvent_pricedBy (id requestId : String) (user : UserContext) (model : Value)
    (resolvedModel : Option String) (usage : Usage) (pricing : ModelPricingRecord)
    (latencyMs : Option Int) (createdAt : Int) :
    (AuditLogger.usageEvent id requestId user model resolvedModel usage
      (QuotaEngine.buildUsageSnapshot (some pricing) (some {
        inputTokens := usage.inputTokens
        outputTokens := usage.outputTokens
        cacheWriteInputTokens := usage.cacheWriteInputTokens
        cacheReadInputTokens := usage.cacheReadInputTokens }))
      latencyMs createdAt).PricedBy pricing :=
  ⟨rfl, rfl, rfl, rfl, rfl, rfl⟩

section Ledger

variable {python : Interpreter} {audited : Bool} {log : Log}

-- What is recorded of an admitted request has the costs of its snapshot.
theorem recordAdmitted_unpriced {admission : Admission} {usage : Value}
    {outcome : Except Failure Unit} (h : (recordAdmitted python admission usage).Traces log outcome)
    (hsnapshot : admission.quotaDecision.usageSnapshot = none) :
    ∀ event ∈ usageEvents log, event.Unpriced := by
  obtain ⟨now, record, rfl, hrecord⟩ := recordAdmitted_run h
  rw [hsnapshot] at hrecord
  intro event hmem
  cases hrecord with
  | NoUser createdAt usageEventId error huser => cases hmem
  | Uncounted createdAt usageEventId user error huser hcounts => cases hmem
  | UsageLost createdAt usageEventId auditEventId user counts error huser hcounts =>
      cases List.mem_singleton.mp hmem
      exact ⟨rfl, rfl, rfl, rfl, rfl, rfl⟩
  | Recorded createdAt usageEventId auditEventId user counts reply huser hcounts =>
      cases List.mem_singleton.mp hmem
      exact ⟨rfl, rfl, rfl, rfl, rfl, rfl⟩

theorem InvocationRun.unpriced {admission : Admission} {outcome : Except Failure MessageResponse}
    (h : InvocationRun python audited admission log outcome)
    (hsnapshot : admission.quotaDecision.usageSnapshot = none) :
    ∀ event ∈ usageEvents log, event.Unpriced := by
  cases h with
  | Lost converseRequest rawResponse parsedResponse usage record error hstream haudited husage
      hrecord => exact @recordAdmitted_unpriced python record _ _ _ hrecord hsnapshot
  | Recorded converseRequest rawResponse parsedResponse usage record hstream haudited husage
      hrecord => exact @recordAdmitted_unpriced python record _ _ _ hrecord hsnapshot
  | _ =>
      intro event hmem
      cases hmem

-- The engine is asked without an estimate of the usage, so it takes no snapshot.
theorem no_snapshot {engine : QuotaEngine} {modelId : Option String}
    {quotaDecision : QuotaDecision}
    (hquota : ∀ budgetPolicies currentUsage requestedUsage modelId tokenUsage,
      AnswersAs log (.EvaluateQuota budgetPolicies currentUsage requestedUsage modelId tokenUsage)
        (engine.evaluate budgetPolicies currentUsage requestedUsage modelId tokenUsage))
    (hmem : answered (.EvaluateQuota [] 0 none modelId none) (.ok quotaDecision) ∈ log) :
    quotaDecision.usageSnapshot = none := by
  have hreply := hquota _ _ _ _ _ _ hmem
  rcases engine.evaluate_nil 0 modelId with ⟨error, -, hevaluate⟩ | ⟨decision, hevaluate, -, hnone⟩
  · rw [hevaluate] at hreply
    cases hreply
  · rw [hevaluate] at hreply
    cases hreply
    exact hnone

theorem PipelineRun.unpriced {engine : QuotaEngine} {body : Value} {requestId : String}
    {startedAt : Rat} {authenticated : AuthenticatedRequestContext}
    {outcome : Except Failure MessageResponse}
    (h : PipelineRun python audited body requestId startedAt authenticated log outcome)
    (hquota : ∀ budgetPolicies currentUsage requestedUsage modelId tokenUsage,
      AnswersAs log (.EvaluateQuota budgetPolicies currentUsage requestedUsage modelId tokenUsage)
        (engine.evaluate budgetPolicies currentUsage requestedUsage modelId tokenUsage)) :
    ∀ event ∈ usageEvents log, event.Unpriced := by
  intro event hmem
  cases h with
  | PolicyDenied model resolvedModel policyDecision record outcome hmodel hdenied hrecord =>
      exact absurd hmem hrecord.not_recorded
  | QuotaDenied model resolvedModel policyDecision quotaDecision record outcome hmodel hpolicy
      hdenied hrecord =>
      exact absurd hmem hrecord.not_recorded
  | RateDenied model resolvedModel policyDecision quotaDecision user rateLimitDecision record
      outcome hmodel hpolicy hquota' huser hdenied hrecord =>
      exact absurd hmem hrecord.not_recorded
  | Admitted admission user rateLimitDecision tail outcome hbody hid hstart hauthenticated hmodel
      hpolicy hquota' huser hrate hinvocation =>
      exact hinvocation.unpriced (no_snapshot hquota (.tail _ (.tail _ (.head _)))) event hmem
  | _ => cases hmem

theorem MessageRun.unpriced {engine : QuotaEngine} {http : HttpRequest}
    {outcome : Except Failure MessageResponse} (h : MessageRun python audited http log outcome)
    (hquota : ∀ budgetPolicies currentUsage requestedUsage modelId tokenUsage,
      AnswersAs log (.EvaluateQuota budgetPolicies currentUsage requestedUsage modelId tokenUsage)
        (engine.evaluate budgetPolicies currentUsage requestedUsage modelId tokenUsage)) :
    ∀ event ∈ usageEvents log, event.Unpriced := by
  intro event hmem
  rcases h.split with ⟨body, idLog, tail, requestId, startedAt, authenticated, result, -, hid, rfl,
    -, hpipeline⟩ | ⟨error, -, rfl⟩ |
    ⟨body, idLog, record, requestId, startedAt, error, -, hid, rfl, -, hnone⟩
  · rw [usageEvents_append, hid.quiet.2.1] at hmem
    exact hpipeline.unpriced (fun _ _ _ _ _ reply hreply => hquota _ _ _ _ _ reply
      (List.mem_append_right idLog (.tail _ (.tail _ hreply)))) event hmem
  · cases hmem
  · rw [usageEvents_append, hid.quiet.2.1] at hmem
    have hrecorded : event ∈ usageEvents record := hmem
    rw [hnone] at hrecorded
    cases hrecorded

-- The admission of a stream carries the decision that the engine gave.
theorem MessageRun.stream_snapshot {engine : QuotaEngine} {http : HttpRequest}
    {stream : AuditedStream}
    (h : MessageRun python audited http log (.ok (.Streaming stream)))
    (hquota : ∀ budgetPolicies currentUsage requestedUsage modelId tokenUsage,
      AnswersAs log (.EvaluateQuota budgetPolicies currentUsage requestedUsage modelId tokenUsage)
        (engine.evaluate budgetPolicies currentUsage requestedUsage modelId tokenUsage)) :
    stream.admission.quotaDecision.usageSnapshot = none := by
  obtain ⟨body, idLog, tail, requestId, startedAt, authenticated, -, -, rfl, hpipeline⟩ :=
    h.streaming
  obtain ⟨-, -, -, -, user, rateLimitDecision, converseRequest, -, -, -, rfl⟩ := hpipeline.streaming
  exact no_snapshot hquota (List.mem_append_right idLog
    (.tail _ (.tail _ (.tail _ (.tail _ (.head _))))))

end Ledger

-- Whatever the pricing repository lists and whatever the provider reports, in neither
-- response mode is a recorded event priced by a row.
theorem recorded_usage_unpriced (python : Interpreter) (audited : Bool) (engine : QuotaEngine)
    (http : HttpRequest) (log : Log) (outcome : Except Failure MessageResponse)
    (event : UsageEventRecord) (pricing : ModelPricingRecord)
    (h : (serveMessage python audited http).Traces log outcome)
    (hquota : ∀ budgetPolicies currentUsage requestedUsage modelId tokenUsage,
      AnswersAs log (.EvaluateQuota budgetPolicies currentUsage requestedUsage modelId tokenUsage)
        (engine.evaluate budgetPolicies currentUsage requestedUsage modelId tokenUsage))
    (hmem : event ∈ usageEvents log) : event.Unpriced ∧ ¬event.PricedBy pricing := by
  have hunpriced : event.Unpriced := by
    cases serveMessage_run h with
    | Raised log error hcreate => exact hcreate.unpriced hquota event hmem
    | Json log response hcreate => exact hcreate.unpriced hquota event hmem
    | Streamed created streamed stream ending hcreate hstream =>
        have hcreated : ∀ budgetPolicies currentUsage requestedUsage modelId tokenUsage,
            AnswersAs created
              (.EvaluateQuota budgetPolicies currentUsage requestedUsage modelId tokenUsage)
              (engine.evaluate budgetPolicies currentUsage requestedUsage modelId tokenUsage) :=
          fun _ _ _ _ _ reply hreply =>
            hquota _ _ _ _ _ reply (List.mem_append_left streamed hreply)
        rw [usageEvents_append] at hmem
        rcases List.mem_append.mp hmem with hmem | hmem
        · exact hcreate.unpriced hcreated event hmem
        obtain ⟨frames, record, ending, final, rfl, hframes, hrecord⟩ := streamWithAudit_run hstream
        rw [usageEvents_append, hframes.onlyFrames.quiet.2.1, List.nil_append] at hmem
        rcases hrecord with ⟨-, rfl⟩ | ⟨-, result, hrecord⟩
        · cases hmem
        · exact recordAdmitted_unpriced hrecord (hcreate.stream_snapshot hcreated) event hmem
  exact ⟨hunpriced, hunpriced.not_pricedBy pricing⟩

section Samples

-- What the sample provider reports, without a price in either mode.
def sampleUsageEvent : UsageEventRecord where
  id := "event-1"
  requestId := "request-1"
  userId := "user-1"
  userEmail := some "alice@example.com"
  requestedModel := .Str "claude-sonnet-4"
  resolvedModel := some "anthropic.claude-sonnet"
  pricingCatalogId := none
  inputTokens := 10
  outputTokens := 2
  totalTokens := 0
  latencyMs := some 0
  createdAt := World.initial.clock

theorem sampleUsageEvent_recorded (stream : Bool) : sampleUsageEvent ∈ usageEvents
    (sampleEnvironment.run (serveMessage samplePython true (sampleHttp stream))).1 := by
  cases stream
  · decide +kernel
  · decide +kernel

theorem recorded_usage_unpriced_sample :
    sampleUsageEvent.Unpriced ∧ ¬sampleUsageEvent.PricedBy samplePricing := by
  have hask := sampleEnvironment.answersAs (serveMessage samplePython true (sampleHttp true))
  exact recorded_usage_unpriced samplePython true sampleComponents.quotaEngine (sampleHttp true) _ _
    sampleUsageEvent samplePricing (sampleEnvironment.traces_run _)
    (fun budgetPolicies currentUsage requestedUsage modelId tokenUsage =>
      hask (.EvaluateQuota budgetPolicies currentUsage requestedUsage modelId tokenUsage))
    (sampleUsageEvent_recorded true)

-- The model has an active pricing row, and the event that is recorded does not name it.
theorem priced_model_recorded_without_price :
    let run := sampleEnvironment.run (serveMessage samplePython true (sampleHttp false))
    (serveMessage samplePython true (sampleHttp false)).Traces run.1 run.2 ∧
      sampleComponents.Serve sampleIssued run.1 ∧
      sampleComponents.quotaEngine.getActivePricing sampleUsageEvent.resolvedModel =
        .ok (some samplePricing) ∧
      sampleUsageEvent ∈ usageEvents run.1 ∧ ¬sampleUsageEvent.PricedBy samplePricing := by
  refine ⟨sampleEnvironment.traces_run _,
    ProxyComponents.serve_of_run _ _ _ sampleProvider_limits _, rfl,
    sampleUsageEvent_recorded false, ?_⟩
  intro hpriced
  cases hpriced.catalog

end Samples

end ClaudeCodeProxy
