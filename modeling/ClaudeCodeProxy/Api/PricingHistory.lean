import ClaudeCodeProxy.Api.AdminModelMappings
import ClaudeCodeProxy.Api.StreamRecords
import ClaudeCodeProxy.Effects.Run

-- The prices of the rows that recorded costs refer to.

namespace ClaudeCodeProxy

open Effects Python ModelMappingAdminService

structure Prices where
  input : Rat
  output : Rat
  cacheWrite : Rat
  cacheRead : Rat
  deriving DecidableEq

def ModelPricingRecord.prices (pricing : ModelPricingRecord) : Prices where
  input := pricing.inputCostPerMillion
  output := pricing.outputCostPerMillion
  cacheWrite := pricing.cacheWriteInputCostPerMillion
  cacheRead := pricing.cacheReadInputCostPerMillion

-- A decision of the engine, with the row it has asked for.
structure Evaluation where
  decision : QuotaDecision
  pricing : Option ModelPricingRecord
  tokenUsage : Option TokenUsageEstimate
  snapshot : decision.usageSnapshot = QuotaEngine.buildUsageSnapshot pricing tokenUsage

-- A usage event that the store has taken, with the evaluation its costs come from.
structure RecordedUsage where
  event : UsageEventRecord
  evaluation : Evaluation

structure PricingWorld where
  stores : PricingStores
  evaluations : List Evaluation
  ledger : List RecordedUsage

inductive PricingAction
  | UpdatePricingCatalog (pricingId : String) (request : PricingCatalogUpdateRequest)
      (faults : Nat → Option Failure)
  | Reload
  | Evaluate (getActivePricing : String → Except Failure (Option ModelPricingRecord))
      (budgetPolicies : List BudgetPolicyRecord) (currentUsage : Rat)
      (requestedUsage : Option Rat) (modelId : Option String) (evaluation : Evaluation)
  | RecordSuccess (authenticated : AuthenticatedRequestContext) (requestId : String)
      (requestedModel : Value) (resolvedModel : Option String) (policyDecision : PolicyDecision)
      (usage : Value) (latencyMs : Option Int) (evaluation : Evaluation) (log : Log)
      (outcome : Except Failure Unit)

-- The usage events of a log that the store has taken.
def takenUsage (log : Log) : List UsageEventRecord := log.filterMap fun
  | ⟨.Ask (.RecordUsage event), .ok _⟩ => some event
  | _ => none

def PricingWorld.act (world : PricingWorld) : PricingAction → PricingWorld
  | .UpdatePricingCatalog pricingId request faults =>
      { world with stores := world.stores.update pricingId request faults }
  | .Reload => { world with stores := world.stores.reload }
  | .Evaluate _ _ _ _ _ evaluation =>
      { world with evaluations := evaluation :: world.evaluations }
  | .RecordSuccess _ _ _ _ _ _ _ evaluation log _ =>
      { world with ledger := world.ledger ++ (takenUsage log).map (⟨·, evaluation⟩) }

-- An evaluation is one the engine has answered with, and what is recorded goes with the
-- snapshot of one of them.
def Happens (python : Interpreter) (world : PricingWorld) : PricingAction → Prop
  | .UpdatePricingCatalog _ _ _ | .Reload => True
  | .Evaluate getActivePricing budgetPolicies currentUsage requestedUsage modelId evaluation =>
      QuotaEngine.getActivePricing ⟨some getActivePricing⟩ modelId = .ok evaluation.pricing ∧
        QuotaEngine.evaluate ⟨some getActivePricing⟩ budgetPolicies currentUsage requestedUsage
          modelId evaluation.tokenUsage = .ok evaluation.decision
  | .RecordSuccess authenticated requestId requestedModel resolvedModel policyDecision usage
      latencyMs evaluation log outcome =>
      evaluation ∈ world.evaluations ∧
        (AuditLogger.recordSuccess python authenticated requestId requestedModel resolvedModel
          policyDecision usage evaluation.decision.usageSnapshot latencyMs).Traces log outcome

-- The costs of the event are those of a usage at the prices of the row.
structure UsageEventRecord.CostedBy (event : UsageEventRecord) (pricing : ModelPricingRecord)
    (usage : TokenUsageEstimate) : Prop where
  catalog : event.pricingCatalogId = some pricing.id
  input : event.estimatedInputCostUsd =
    (QuotaEngine.costSnapshot pricing usage).estimatedInputCostUsd
  output : event.estimatedOutputCostUsd =
    (QuotaEngine.costSnapshot pricing usage).estimatedOutputCostUsd
  cacheWrite : event.estimatedCacheWriteCostUsd =
    (QuotaEngine.costSnapshot pricing usage).estimatedCacheWriteCostUsd
  cacheRead : event.estimatedCacheReadCostUsd =
    (QuotaEngine.costSnapshot pricing usage).estimatedCacheReadCostUsd
  total : event.estimatedTotalCostUsd =
    (QuotaEngine.costSnapshot pricing usage).estimatedTotalCostUsd

-- The catalog has the row with the prices it had when it was read.
def PricingCatalog.Carries (catalog : PricingCatalog) (pricing : ModelPricingRecord) : Prop :=
  ∃ row, catalog.get pricing.id = some row ∧ row.prices = pricing.prices

-- The costs of the event are those of the row its evaluation has read, and the catalog
-- still has the prices of that row.
structure RecordedUsage.Priced (catalog : PricingCatalog) (recorded : RecordedUsage)
    (pricing : ModelPricingRecord) : Prop where
  read : recorded.evaluation.pricing = some pricing
  costed : ∃ usage, recorded.event.CostedBy pricing usage
  carried : catalog.Carries pricing

-- Every recorded event that names a row can be recomputed from the row.
def PricingWorld.Audited (world : PricingWorld) : Prop :=
  ∀ recorded ∈ world.ledger, ∀ catalogId, recorded.event.pricingCatalogId = some catalogId →
    ∃ pricing, recorded.Priced world.stores.catalog pricing

-- Recorded events refer to the row.
def PricingWorld.Refers (world : PricingWorld) (pricingId : String) : Prop :=
  ∃ recorded ∈ world.ledger, recorded.event.pricingCatalogId = some pricingId

-- An update of a row that recorded events refer to repeats its prices, and what is
-- recorded comes from a row whose prices have not been replaced in the meantime.
def Careful (world : PricingWorld) : PricingAction → Prop
  | .UpdatePricingCatalog pricingId request faults =>
      faults 0 = none → world.Refers pricingId →
        ∀ row, world.stores.catalog.get pricingId = some row →
          (pricingRecord pricingId request).prices = row.prices
  | .RecordSuccess _ _ _ _ _ _ _ evaluation log _ =>
      takenUsage log ≠ [] → evaluation.tokenUsage ≠ none →
        ∀ pricing, evaluation.pricing = some pricing → world.stores.catalog.Carries pricing
  | _ => True

section Costs

-- A row with the same id and prices gives the same costs.
theorem costSnapshot_congr {row pricing : ModelPricingRecord} (hid : row.id = pricing.id)
    (hprices : row.prices = pricing.prices) (usage : TokenUsageEstimate) :
    QuotaEngine.costSnapshot row usage = QuotaEngine.costSnapshot pricing usage := by
  simp only [ModelPricingRecord.prices, Prices.mk.injEq] at hprices
  obtain ⟨hinput, houtput, hwrite, hread⟩ := hprices
  simp only [QuotaEngine.costSnapshot, hid, hinput, houtput, hwrite, hread]

-- So the costs of an audited event are those of the row as it stands in the catalog.
theorem RecordedUsage.Priced.recomputed {catalog : PricingCatalog} {recorded : RecordedUsage}
    {pricing : ModelPricingRecord} (h : recorded.Priced catalog pricing) :
    ∃ row usage, catalog.get pricing.id = some row ∧ recorded.event.CostedBy row usage := by
  obtain ⟨row, hrow, hprices⟩ := h.carried
  obtain ⟨usage, hcosted⟩ := h.costed
  have hid : row.id = pricing.id := catalog.key_of_get pricing.id row hrow
  have hsame := costSnapshot_congr hid hprices usage
  refine ⟨row, usage, hrow, ?_⟩
  constructor
  case catalog => rw [hid]; exact hcosted.catalog
  case input => rw [hsame]; exact hcosted.input
  case output => rw [hsame]; exact hcosted.output
  case cacheWrite => rw [hsame]; exact hcosted.cacheWrite
  case cacheRead => rw [hsame]; exact hcosted.cacheRead
  case total => rw [hsame]; exact hcosted.total

variable {python : Interpreter} {world : PricingWorld}

-- What one call records: nothing, or one event with the costs of the snapshot.
theorem recordSuccess_taken {authenticated : AuthenticatedRequestContext} {requestId : String}
    {requestedModel : Value} {resolvedModel : Option String} {policyDecision : PolicyDecision}
    {usage : Value} {usageSnapshot : Option UsageCostSnapshot} {latencyMs : Option Int}
    {log : Log} {outcome : Except Failure Unit}
    (h : (AuditLogger.recordSuccess python authenticated requestId requestedModel resolvedModel
      policyDecision usage usageSnapshot latencyMs).Traces log outcome) :
    takenUsage log = [] ∨ ∃ id user counts createdAt, takenUsage log =
      [AuditLogger.usageEvent id requestId user requestedModel resolvedModel counts usageSnapshot
        latencyMs createdAt] := by
  cases recordSuccess_run h with
  | NoUser createdAt usageEventId error huser => exact .inl rfl
  | Uncounted createdAt usageEventId user error huser hcounts => exact .inl rfl
  | UsageLost createdAt usageEventId auditEventId user counts error huser hcounts =>
      exact .inl rfl
  | Recorded createdAt usageEventId auditEventId user counts reply huser hcounts =>
      exact .inr ⟨usageEventId, user, counts, createdAt, rfl⟩

-- The event names the row that the evaluation has read, if the evaluation has priced a usage.
theorem Evaluation.taken (evaluation : Evaluation) {authenticated : AuthenticatedRequestContext}
    {requestId : String} {requestedModel : Value} {resolvedModel : Option String}
    {policyDecision : PolicyDecision} {usage : Value} {latencyMs : Option Int} {log : Log}
    {outcome : Except Failure Unit}
    (h : (AuditLogger.recordSuccess python authenticated requestId requestedModel resolvedModel
      policyDecision usage evaluation.decision.usageSnapshot latencyMs).Traces log outcome) :
    takenUsage log = [] ∨ ∃ event, takenUsage log = [event] ∧
      ((event.pricingCatalogId = none ∧
          (evaluation.pricing = none ∨ evaluation.tokenUsage = none)) ∨
        ∃ pricing tokens, evaluation.pricing = some pricing ∧
          evaluation.tokenUsage = some tokens ∧ event.CostedBy pricing tokens) := by
  rcases recordSuccess_taken h with hnone | ⟨id, user, counts, createdAt, htaken⟩
  · exact .inl hnone
  refine .inr ⟨_, htaken, ?_⟩
  have hsnapshot := evaluation.snapshot
  cases hpricing : evaluation.pricing with
  | none =>
      left
      rw [hpricing] at hsnapshot
      rw [hsnapshot]
      exact ⟨rfl, .inl rfl⟩
  | some pricing =>
      cases htokens : evaluation.tokenUsage with
      | none =>
          left
          rw [hpricing, htokens] at hsnapshot
          rw [hsnapshot]
          exact ⟨rfl, .inr rfl⟩
      | some tokens =>
          right
          rw [hpricing, htokens] at hsnapshot
          refine ⟨pricing, tokens, rfl, rfl, ?_⟩
          rw [hsnapshot]
          exact ⟨rfl, rfl, rfl, rfl, rfl, rfl⟩

end Costs

section Steps

variable {python : Interpreter} {world : PricingWorld}

theorem PricingCatalog.carries_save_of_ne {catalog : PricingCatalog}
    {record pricing : ModelPricingRecord} (h : pricing.id ≠ record.id) :
    PricingCatalog.Carries (catalog.save record) pricing ↔ catalog.Carries pricing := by
  unfold PricingCatalog.Carries
  rw [Store.Table.get_save_of_ne catalog record pricing.id h]

theorem PricingCatalog.carries_save_self {catalog : PricingCatalog}
    {record pricing : ModelPricingRecord} (h : pricing.id = record.id) :
    PricingCatalog.Carries (catalog.save record) pricing ↔ record.prices = pricing.prices := by
  unfold PricingCatalog.Carries
  rw [h, Store.Table.get_save_self]
  simp

-- A ledger is audited by another catalog just when that one carries the same rows.
theorem PricingWorld.Audited.iff_carries (haudited : world.Audited) (stores : PricingStores) :
    PricingWorld.Audited { world with stores := stores } ↔
      ∀ recorded ∈ world.ledger, ∀ pricing, recorded.Priced world.stores.catalog pricing →
        stores.catalog.Carries pricing := by
  constructor
  · intro h recorded hmem pricing hpriced
    obtain ⟨usage, hcosted⟩ := hpriced.costed
    obtain ⟨other, hother⟩ := h recorded hmem pricing.id hcosted.catalog
    have hsame : some other = some pricing := hother.read.symm.trans hpriced.read
    rw [← Option.some.inj hsame]
    exact hother.carried
  · intro h recorded hmem catalogId hcatalog
    obtain ⟨pricing, hpriced⟩ := haudited recorded hmem catalogId hcatalog
    exact ⟨pricing, hpriced.read, hpriced.costed, h recorded hmem pricing hpriced⟩

theorem update_audited_iff (haudited : world.Audited) (pricingId : String)
    (request : PricingCatalogUpdateRequest) (faults : Nat → Option Failure) :
    (world.act (.UpdatePricingCatalog pricingId request faults)).Audited ↔
      Careful world (.UpdatePricingCatalog pricingId request faults) := by
  rw [PricingWorld.act, haudited.iff_carries]
  rcases world.stores.update_cases pricingId request faults with ⟨hfault, hsame⟩ |
    ⟨hnone, -, hsaved⟩
  · rw [hsame]
    constructor
    · intro _ hnone
      exact absurd hnone hfault
    · intro _ recorded _ pricing hpriced
      exact hpriced.carried
  · rw [hsaved]
    constructor
    · rintro h - ⟨recorded, hmem, hcatalog⟩ row hrow
      obtain ⟨pricing, hpriced⟩ := haudited recorded hmem pricingId hcatalog
      obtain ⟨usage, hcosted⟩ := hpriced.costed
      have hid : pricing.id = pricingId := Option.some.inj (hcosted.catalog.symm.trans hcatalog)
      obtain ⟨found, hfound, hprices⟩ := hpriced.carried
      rw [hid, hrow] at hfound
      rw [Option.some.inj hfound, hprices]
      exact (PricingCatalog.carries_save_self hid).mp (h recorded hmem pricing hpriced)
    · intro hcareful recorded hmem pricing hpriced
      by_cases hid : pricing.id = pricingId
      · obtain ⟨row, hrow, hprices⟩ := hpriced.carried
        obtain ⟨usage, hcosted⟩ := hpriced.costed
        rw [hid] at hrow
        have hrefers : world.Refers pricingId := ⟨recorded, hmem, hid ▸ hcosted.catalog⟩
        have hrepeats := hcareful hnone hrefers row hrow
        exact (PricingCatalog.carries_save_self hid).mpr (hrepeats.trans hprices)
      · exact (PricingCatalog.carries_save_of_ne hid).mpr hpriced.carried

theorem record_audited_iff (haudited : world.Audited)
    {authenticated : AuthenticatedRequestContext} {requestId : String}
    {requestedModel : Value} {resolvedModel : Option String} {policyDecision : PolicyDecision}
    {usage : Value} {latencyMs : Option Int} {evaluation : Evaluation} {log : Log}
    {outcome : Except Failure Unit}
    (h : (AuditLogger.recordSuccess python authenticated requestId requestedModel resolvedModel
      policyDecision usage evaluation.decision.usageSnapshot latencyMs).Traces log outcome) :
    (world.act (.RecordSuccess authenticated requestId requestedModel resolvedModel policyDecision
        usage latencyMs evaluation log outcome)).Audited ↔
      Careful world (.RecordSuccess authenticated requestId requestedModel resolvedModel
        policyDecision usage latencyMs evaluation log outcome) := by
  simp only [PricingWorld.act, Careful]
  rcases evaluation.taken h with hnone | ⟨event, htaken, hevent⟩
  · rw [hnone]
    constructor
    · intro _ hne
      exact absurd rfl hne
    · intro _
      simpa [PricingWorld.Audited] using haudited
  rw [htaken]
  constructor
  · intro hafter _ htokens pricing hpricing
    rcases hevent with ⟨-, hunpriced | hunused⟩ | ⟨read, tokens, hread, -, hcosted⟩
    · rw [hpricing] at hunpriced
      cases hunpriced
    · exact absurd hunused htokens
    · obtain ⟨found, hfound⟩ := hafter ⟨event, evaluation⟩ (by simp) read.id hcosted.catalog
      rw [Option.some.inj (hpricing.symm.trans hfound.read)]
      exact hfound.carried
  · intro hcareful recorded hmem catalogId hcatalog
    rcases List.mem_append.mp hmem with hold | hnew
    · exact haudited recorded hold catalogId hcatalog
    · obtain rfl : recorded = ⟨event, evaluation⟩ := by simpa using hnew
      rcases hevent with ⟨hnone, -⟩ | ⟨read, tokens, hread, htokens, hcosted⟩
      · rw [hnone] at hcatalog
        cases hcatalog
      · have hcarried := hcareful (by simp) (by simp [htokens]) read hread
        exact ⟨read, hread, ⟨tokens, hcosted⟩, hcarried⟩

theorem act_audited_iff (haudited : world.Audited) (action : PricingAction)
    (h : Happens python world action) : (world.act action).Audited ↔ Careful world action := by
  cases action with
  | UpdatePricingCatalog pricingId request faults =>
      exact update_audited_iff haudited pricingId request faults
  | Reload => exact ⟨fun _ => trivial, fun _ => haudited⟩
  | Evaluate getActivePricing budgetPolicies currentUsage requestedUsage modelId evaluation =>
      exact ⟨fun _ => trivial, fun _ => haudited⟩
  | RecordSuccess authenticated requestId requestedModel resolvedModel policyDecision usage
      latencyMs evaluation log outcome => exact record_audited_iff haudited h.2

end Steps

-- The costs of every recorded event can be recomputed from the catalog throughout a run
-- just when no step replaces prices that recorded costs rest on. Each snapshot comes from
-- one row in any case.
theorem priced_history_iff (python : Interpreter) (start : PricingWorld)
    (actions : List PricingAction) (hstart : start.Audited)
    (hrun : Admissible PricingWorld.act (Happens python) start actions) :
    ((∀ past, past <+: actions → (exec PricingWorld.act start past).Audited) ↔
      Admissible PricingWorld.act Careful start actions) ∧
    ∀ (engine : QuotaEngine) budgetPolicies currentUsage requestedUsage modelId tokenUsage decision,
      engine.evaluate budgetPolicies currentUsage requestedUsage modelId tokenUsage =
        .ok decision →
      ∀ snapshot, decision.usageSnapshot = some snapshot →
        ∃ pricing usage, engine.getActivePricing modelId = .ok (some pricing) ∧
          tokenUsage = some usage ∧ snapshot = QuotaEngine.costSnapshot pricing usage := by
  constructor
  · have hstep : ∀ (world : PricingWorld) (action : PricingAction), world.Audited →
        Happens python world action → ((world.act action).Audited ↔ Careful world action) :=
      fun world action haudited => act_audited_iff haudited action
    exact forall_prefix_iff hstep hstart hrun
  · intro engine budgetPolicies currentUsage requestedUsage modelId tokenUsage decision hdecision
      snapshot hsnapshot
    obtain ⟨pricing, hpricing, hbuilt⟩ := QuotaEngine.evaluate_snapshot hdecision
    rw [hsnapshot] at hbuilt
    cases pricing with
    | none => cases hbuilt
    | some pricing =>
        cases tokenUsage with
        | none => cases hbuilt
        | some usage => exact ⟨pricing, usage, hpricing, rfl, Option.some.inj hbuilt⟩

section Closing

-- The repository answers with rows it has loaded, and rows are closed and added, never
-- given other prices.
def KeepsPrices (world : PricingWorld) : PricingAction → Prop
  | .UpdatePricingCatalog pricingId request faults =>
      faults 0 = none → ∀ row, world.stores.catalog.get pricingId = some row →
        (pricingRecord pricingId request).prices = row.prices
  | .Evaluate getActivePricing _ _ _ modelId _ =>
      ∀ model pricing, modelId = some model → getActivePricing model = .ok (some pricing) →
        pricing ∈ world.stores.loaded
  | _ => True

-- Every row that may still be recorded is in the catalog with its prices.
structure PricingWorld.Backed (world : PricingWorld) : Prop where
  loaded : ∀ pricing ∈ world.stores.loaded, world.stores.catalog.Carries pricing
  evaluated : ∀ evaluation ∈ world.evaluations, ∀ pricing, evaluation.pricing = some pricing →
    world.stores.catalog.Carries pricing
  audited : world.Audited

theorem PricingCatalog.carries_of_mem {catalog : PricingCatalog} {row : ModelPricingRecord}
    (h : row ∈ catalog.rows) : catalog.Carries row :=
  ⟨row, catalog.get_of_mem row h, rfl⟩

theorem PricingCatalog.Carries.save {catalog : PricingCatalog}
    {record pricing : ModelPricingRecord} (h : catalog.Carries pricing)
    (hkept : ∀ row, catalog.get record.id = some row → record.prices = row.prices) :
    PricingCatalog.Carries (catalog.save record) pricing := by
  by_cases hid : pricing.id = record.id
  · obtain ⟨row, hrow, hprices⟩ := h
    rw [hid] at hrow
    exact (PricingCatalog.carries_save_self hid).mpr ((hkept row hrow).trans hprices)
  · exact (PricingCatalog.carries_save_of_ne hid).mpr h

variable {python : Interpreter} {world : PricingWorld}

theorem PricingWorld.Backed.update (hbacked : world.Backed) {pricingId : String}
    {request : PricingCatalogUpdateRequest} {faults : Nat → Option Failure}
    (hkeeps : KeepsPrices world (.UpdatePricingCatalog pricingId request faults)) :
    (world.act (.UpdatePricingCatalog pricingId request faults)).Backed := by
  rcases world.stores.update_cases pricingId request faults with ⟨-, hsame⟩ |
    ⟨hnone, hloaded, hsaved⟩
  · rw [PricingWorld.act, hsame]
    exact hbacked
  have hcarried : ∀ pricing, world.stores.catalog.Carries pricing →
      (world.stores.update pricingId request faults).catalog.Carries pricing := by
    intro pricing hpricing
    rw [hsaved]
    exact hpricing.save (hkeeps hnone)
  constructor
  · intro pricing hmem
    change pricing ∈ (world.stores.update pricingId request faults).loaded at hmem
    rcases hloaded with hloaded | hloaded
    · rw [hloaded] at hmem
      exact hcarried pricing (hbacked.loaded pricing hmem)
    · rw [hloaded] at hmem
      exact PricingCatalog.carries_of_mem hmem
  · intro evaluation hmem pricing hpricing
    exact hcarried pricing (hbacked.evaluated evaluation hmem pricing hpricing)
  · apply hbacked.audited.iff_carries _ |>.mpr
    intro recorded hmem pricing hpriced
    exact hcarried pricing hpriced.carried

theorem PricingWorld.Backed.act (hbacked : world.Backed) (action : PricingAction)
    (h : Happens python world action) (hkeeps : KeepsPrices world action) :
    (world.act action).Backed := by
  cases action with
  | UpdatePricingCatalog pricingId request faults => exact hbacked.update hkeeps
  | Reload =>
      exact ⟨fun pricing hmem => PricingCatalog.carries_of_mem hmem, hbacked.evaluated,
        hbacked.audited⟩
  | Evaluate getActivePricing budgetPolicies currentUsage requestedUsage modelId evaluation =>
      refine ⟨hbacked.loaded, ?_, hbacked.audited⟩
      intro other hmem pricing hpricing
      rcases List.mem_cons.mp hmem with rfl | hold
      · have hasked := h.1
        rw [hpricing] at hasked
        cases modelId with
        | none => cases hasked
        | some model => exact hbacked.loaded pricing (hkeeps model pricing rfl hasked)
      · exact hbacked.evaluated other hold pricing hpricing
  | RecordSuccess authenticated requestId requestedModel resolvedModel policyDecision usage
      latencyMs evaluation log outcome =>
      refine ⟨hbacked.loaded, hbacked.evaluated, ?_⟩
      apply (act_audited_iff hbacked.audited _ h).mpr
      intro _ _ pricing hpricing
      exact hbacked.evaluated evaluation h.1 pricing hpricing

-- A catalog whose rows are never given other prices is never out of step with the ledger.
theorem unchanged_prices_audited (start : PricingWorld) (actions : List PricingAction)
    (hstart : start.Backed)
    (hrun : Admissible PricingWorld.act
      (fun world action => Happens python world action ∧ KeepsPrices world action) start actions) :
    (exec PricingWorld.act start actions).Audited := by
  have hbacked := exec_invariant (fun _ world => world.Backed) hstart
    (fun _ world action hbacked h => hbacked.act action h.1 h.2) actions hrun
  exact hbacked.audited

end Closing

section Samples

def samplePrices (inputCost : Rat) : PricingCatalogUpdateRequest where
  provider := "bedrock"
  modelId := "anthropic.claude-sonnet"
  inputCostPerMillion := inputCost
  outputCostPerMillion := 15

def sampleTokens : TokenUsageEstimate where
  inputTokens := 1000
  outputTokens := 500

def sampleRow : ModelPricingRecord := pricingRecord "pricing-1" (samplePrices 3)

def sampleEvaluation : Evaluation where
  decision := {
    allowed := true
    denialReason := none
    effectivePolicy := none
    softLimitReached := false
    hardLimitReached := false
    projectedUsage := 0
    usageSnapshot := some (QuotaEngine.costSnapshot sampleRow sampleTokens) }
  pricing := some sampleRow
  tokenUsage := some sampleTokens
  snapshot := rfl

def sampleRecording : Runtime Unit :=
  AuditLogger.recordSuccess samplePython sampleAdmission.authenticated "request-1"
    (.Str "claude-sonnet-4") (some "anthropic.claude-sonnet") sampleAdmission.policyDecision
    (.Mapping []) sampleEvaluation.decision.usageSnapshot none

-- The row is written, read by an evaluation that is recorded, and written once more.
def sampleHistory (inputCost : Rat) : List PricingAction := [
  .UpdatePricingCatalog "pricing-1" (samplePrices 3) (fun _ => none),
  .Evaluate (fun _ => .ok (some sampleRow)) [] 0 none (some "anthropic.claude-sonnet")
    sampleEvaluation,
  .RecordSuccess sampleAdmission.authenticated "request-1" (.Str "claude-sonnet-4")
    (some "anthropic.claude-sonnet") sampleAdmission.policyDecision (.Mapping []) none
    sampleEvaluation (sampleEnvironment.run sampleRecording).1
    (sampleEnvironment.run sampleRecording).2,
  .UpdatePricingCatalog "pricing-1" (samplePrices inputCost) (fun _ => none)]

def emptyPricingWorld : PricingWorld := ⟨⟨.empty, []⟩, [], []⟩

theorem emptyPricingWorld_audited : emptyPricingWorld.Audited := List.forall_mem_nil _

theorem sampleHistory_happens (inputCost : Rat) :
    Admissible PricingWorld.act (Happens samplePython) emptyPricingWorld
      (sampleHistory inputCost) := by
  simp only [sampleHistory, Admissible]
  refine ⟨trivial, ⟨rfl, by with_unfolding_all rfl⟩, ⟨List.mem_cons_self, ?_⟩, trivial, trivial⟩
  exact sampleEnvironment.traces_run sampleRecording

theorem sampleHistory_recorded (inputCost : Rat) : ∃ event,
    (exec PricingWorld.act emptyPricingWorld (sampleHistory inputCost)).ledger =
      [⟨event, sampleEvaluation⟩] ∧ event.pricingCatalogId = some "pricing-1" :=
  ⟨_, rfl, rfl⟩

theorem sampleHistory_priced (inputCost : Rat) :
    (exec PricingWorld.act emptyPricingWorld (sampleHistory inputCost)).stores.catalog.get
      "pricing-1" = some (pricingRecord "pricing-1" (samplePrices inputCost)) := rfl

-- The last write closes the row without another price.
theorem priced_history_sample :
    (exec PricingWorld.act emptyPricingWorld (sampleHistory 3)).Audited := by
  have h := priced_history_iff samplePython emptyPricingWorld (sampleHistory 3)
    emptyPricingWorld_audited (sampleHistory_happens 3)
  apply h.1.mpr _ _ (List.prefix_refl _)
  simp only [sampleHistory, Admissible]
  refine ⟨?_, trivial, ?_, ?_, trivial⟩
  · rintro - ⟨recorded, hmem, -⟩
    cases hmem
  · rintro - - pricing hpricing
    cases hpricing
    exact ⟨sampleRow, rfl, rfl⟩
  · rintro - - row hrow
    cases hrow
    rfl

-- Once it has another price, the recorded costs are those of no row.
theorem priced_row_replaced :
    ¬∀ python start actions, PricingWorld.Audited start →
      Admissible PricingWorld.act (Happens python) start actions →
      ∀ past, past <+: actions → (exec PricingWorld.act start past).Audited := by
  intro hclaim
  have haudited := hclaim samplePython emptyPricingWorld (sampleHistory 4)
    emptyPricingWorld_audited (sampleHistory_happens 4) _ (List.prefix_refl _)
  obtain ⟨event, hledger, hcatalog⟩ := sampleHistory_recorded 4
  obtain ⟨pricing, hpriced⟩ := haudited ⟨event, sampleEvaluation⟩
    (by rw [hledger]; exact List.mem_singleton_self _) "pricing-1" hcatalog
  cases hpriced.read
  obtain ⟨row, hrow, hprices⟩ := hpriced.carried
  cases (sampleHistory_priced 4).symm.trans hrow
  exact absurd hprices (by decide +kernel)

end Samples

end ClaudeCodeProxy
