import ClaudeCodeProxy.Api.MessageLogs
import ClaudeCodeProxy.Services.Samples

-- The components of the repository behind the calls of the handlers.

namespace ClaudeCodeProxy

open Effects Python

-- Wherever the log has the call, the reply is this one.
def AnswersAs (log : Log) (dependency : Dependency)
    (result : Except Failure dependency.Result) : Prop :=
  ∀ reply, answered dependency reply ∈ log → reply = result

theorem Environment.answersAs (environment : Environment) (program : Runtime α)
    (dependency : Dependency) :
    AnswersAs (environment.run program).1 dependency (environment.ask dependency) :=
  environment.ask_of_mem_run program dependency

theorem AnswersAs.append {first second : Log} {dependency : Dependency}
    {result : Except Failure dependency.Result}
    (h : AnswersAs (first ++ second) dependency result) : AnswersAs second dependency result :=
  fun reply hmem => h reply (List.mem_append_right _ hmem)

-- What the components of a proxy are built from.
structure ProxyComponents where
  python : Interpreter
  deployment : Deployment
  resolver : ModelResolver
  quotaEngine : QuotaEngine

namespace ProxyComponents

-- All of them at work, before a provider, a limiter and a store.
def environment (components : ProxyComponents) (world : World)
    (provider : (dependency : Dependency) → Except Failure dependency.Result) :
    Environment where
  requestId := "request-1"
  perfCounter := 0
  clock := world.clock
  eventId := "event-1"
  ask
    | .Authenticate authorization requestId =>
        authenticate components.deployment world authorization requestId
    | .Resolve model => components.resolver.resolve components.python model
    | .EvaluatePolicy user model policies =>
        raising (PolicyEngine.evaluate components.python user model policies)
    | .EvaluateQuota budgetPolicies currentUsage requestedUsage modelId tokenUsage =>
        components.quotaEngine.evaluate budgetPolicies currentUsage requestedUsage modelId
          tokenUsage
    | .BuildConverseRequest body resolvedModel =>
        buildConverseRequest components.python body resolvedModel
    | .ParseConverseResponse response model =>
        raising (parseConverseResponse components.python response model)
    | dependency => provider dependency
  demand _ := .Next

-- Every component that the log asks is the one of the repository.
structure Serve (components : ProxyComponents) (world : World) (log : Log) : Prop where
  authenticate : ∀ authorization requestId, AnswersAs log (.Authenticate authorization requestId)
    (authenticate components.deployment world authorization requestId)
  resolve : ∀ model, AnswersAs log (.Resolve model)
    (components.resolver.resolve components.python model)
  evaluatePolicy : ∀ user model policies, AnswersAs log (.EvaluatePolicy user model policies)
    (raising (PolicyEngine.evaluate components.python user model policies))
  evaluateQuota : ∀ budgetPolicies currentUsage requestedUsage modelId tokenUsage,
    AnswersAs log (.EvaluateQuota budgetPolicies currentUsage requestedUsage modelId tokenUsage)
      (components.quotaEngine.evaluate budgetPolicies currentUsage requestedUsage modelId tokenUsage)
  checkRateLimit : ∀ userId reply, answered (.CheckRateLimit userId) reply ∈ log →
    ∃ limiter now, reply = .ok (InMemoryRateLimiter.check limiter now userId).1
  buildConverseRequest : ∀ body resolvedModel,
    AnswersAs log (.BuildConverseRequest body resolvedModel)
      (buildConverseRequest components.python body resolvedModel)
  parseConverseResponse : ∀ response model, AnswersAs log (.ParseConverseResponse response model)
    (raising (parseConverseResponse components.python response model))

theorem Serve.append {components : ProxyComponents} {world : World} (first second : Log)
    (h : components.Serve world (first ++ second)) : components.Serve world second where
  authenticate authorization requestId := (h.authenticate authorization requestId).append
  resolve model := (h.resolve model).append
  evaluatePolicy user model policies := (h.evaluatePolicy user model policies).append
  evaluateQuota budgetPolicies currentUsage requestedUsage modelId tokenUsage :=
    (h.evaluateQuota budgetPolicies currentUsage requestedUsage modelId tokenUsage).append
  checkRateLimit userId reply hmem :=
    h.checkRateLimit userId reply (List.mem_append_right first hmem)
  buildConverseRequest body resolvedModel := (h.buildConverseRequest body resolvedModel).append
  parseConverseResponse response model := (h.parseConverseResponse response model).append

theorem serve_of_run (components : ProxyComponents) (world : World)
    (provider : (dependency : Dependency) → Except Failure dependency.Result)
    (hlimiter : ∀ userId, ∃ limiter now, provider (.CheckRateLimit userId) =
      .ok (InMemoryRateLimiter.check limiter now userId).1) (program : Runtime α) :
    components.Serve world ((components.environment world provider).run program).1 := by
  have hask := (components.environment world provider).answersAs program
  constructor
  case checkRateLimit =>
    intro userId reply hmem
    obtain ⟨limiter, now, hreply⟩ := hlimiter userId
    exact ⟨limiter, now, (hask (.CheckRateLimit userId) reply hmem).trans hreply⟩
  case authenticate => exact fun authorization requestId => hask (.Authenticate authorization requestId)
  case resolve => exact fun model => hask (.Resolve model)
  case evaluatePolicy => exact fun user model policies => hask (.EvaluatePolicy user model policies)
  case evaluateQuota =>
    exact fun budgetPolicies currentUsage requestedUsage modelId tokenUsage =>
      hask (.EvaluateQuota budgetPolicies currentUsage requestedUsage modelId tokenUsage)
  case buildConverseRequest =>
    exact fun body resolvedModel => hask (.BuildConverseRequest body resolvedModel)
  case parseConverseResponse => exact fun response model => hask (.ParseConverseResponse response model)

end ProxyComponents

-- A call of the log raised.
def Failed : Answer runtime → Bool
  | ⟨.Ask _, .error _⟩ => true
  | _ => false

theorem presentable_of_not_failed (log : Log) (h : log.all (fun answer => !Failed answer) = true) :
    Presentable log ∧ StoreWorks log := by
  have hnone : ∀ dependency error, answered dependency (.error error) ∉ log := by
    intro dependency error hmem
    exact absurd (List.all_eq_true.mp h _ hmem) (by simp [Failed])
  exact ⟨fun dependency error hmem => absurd hmem (hnone dependency error),
    fun event => hnone (.RecordUsage event), fun event => hnone (.RecordAudit event)⟩

section Samples

def sampleAlias : ModelAliasRuleRecord where
  id := "alias-1"
  pattern := "claude-*"
  logicalModel := "sonnet"
  priority := 1

def sampleRoute : ModelRouteRecord where
  id := "route-1"
  logicalModel := "sonnet"
  provider := "bedrock"
  bedrockApiRoute := "converse"
  bedrockModelId := some "anthropic.claude-sonnet"
  inferenceProfileId := none
  supportsNativeStructuredOutput := false
  supportsReasoning := false
  supportsPromptCacheTtl := false
  supportsDisableParallelToolUse := false
  priority := 1

def samplePricing : ModelPricingRecord where
  id := "pricing-1"
  provider := "bedrock"
  modelId := "anthropic.claude-sonnet"
  inputCostPerMillion := 3
  outputCostPerMillion := 15

def sampleComponents : ProxyComponents where
  python := samplePython
  deployment := sampleDeployment
  resolver := ⟨[sampleAlias], [sampleRoute]⟩
  quotaEngine := ⟨some fun modelId =>
    .ok (if modelId = samplePricing.modelId then some samplePricing else none)⟩

def sampleUsage : Value := .Mapping [("inputTokens", .Integer 10), ("outputTokens", .Integer 2)]

def sampleResponse : Value := .Mapping [
  ("output", .Mapping [("message", .Mapping [
    ("role", .Str "assistant"),
    ("content", .Sequence [.Mapping [("text", .Str "Hello.")]])])]),
  ("stopReason", .Str "end_turn"),
  ("usage", sampleUsage)]

def sampleEvents : List Value := [
  .Mapping [("messageStart", .Mapping [("role", .Str "assistant")])],
  .Mapping [("contentBlockStart", .Mapping [
    ("contentBlockIndex", .Integer 0), ("start", .Mapping [("text", .Str "")])])],
  .Mapping [("contentBlockDelta", .Mapping [
    ("contentBlockIndex", .Integer 0), ("delta", .Mapping [("text", .Str "Hello.")])])],
  .Mapping [("contentBlockStop", .Mapping [("contentBlockIndex", .Integer 0)])],
  .Mapping [("messageStop", .Mapping [("stopReason", .Str "end_turn")])],
  .Mapping [("metadata", .Mapping [("usage", sampleUsage)])]]

-- The provider answers, the limit is one request a minute, and the store takes everything.
def sampleProvider : (dependency : Dependency) → Except Failure dependency.Result
  | .CheckRateLimit userId =>
      .ok ((InMemoryRateLimiter.new 1).check World.initial.clock userId).1
  | .Converse _ => .ok sampleResponse
  | .ConverseStream _ => .ok sampleEvents
  | .CountTokens _ => .ok sampleUsage
  | .NextEvent _ | .EndOfEvents | .RecordUsage _ | .RecordAudit _ => .ok ()
  | _ => .error (.Raised "NotImplementedError")

theorem sampleProvider_limits (userId : String) : ∃ limiter now,
    sampleProvider (.CheckRateLimit userId) = .ok (InMemoryRateLimiter.check limiter now userId).1 :=
  ⟨_, _, rfl⟩

def sampleEnvironment : Environment := sampleComponents.environment sampleIssued sampleProvider

def sampleBody (stream : Bool) : List (String × Value) := [
  ("model", .Str "claude-sonnet-4"),
  ("messages", .Sequence [.Mapping [("role", .Str "user"), ("content", .Str "Hi.")]]),
  ("stream", .Boolean stream)]

def sampleHttp (stream : Bool) : HttpRequest where
  json := .ok (.Mapping (sampleBody stream))
  authorization := some "Bearer vk_first"

end Samples

end ClaudeCodeProxy
