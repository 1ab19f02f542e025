import ClaudeCodeProxy.Proxy.PolicyEngine
import Mathlib.Data.List.MinMax

namespace ClaudeCodeProxy

open Python

def REASON_UNKNOWN_MODEL : String := "unknown_model"
def REASON_UNSUPPORTED_ROUTE : String := "unsupported_model_route"

structure ResolvedModelCapabilities where
  supportsNativeStructuredOutput : Bool
  supportsReasoning : Bool
  supportsPromptCacheTtl : Bool
  supportsDisableParallelToolUse : Bool
  deriving DecidableEq

def ResolvedModelCapabilities.fromRoute (route : ModelRouteRecord) :
    ResolvedModelCapabilities where
  supportsNativeStructuredOutput := route.supportsNativeStructuredOutput
  supportsReasoning := route.supportsReasoning
  supportsPromptCacheTtl := route.supportsPromptCacheTtl
  supportsDisableParallelToolUse := route.supportsDisableParallelToolUse

structure ResolvedModel where
  requestedModel : Value
  logicalModel : String
  provider : String
  bedrockApiRoute : String
  bedrockModelId : Option String
  inferenceProfileId : Option String
  awsRegionName : Option String
  capabilities : ResolvedModelCapabilities
  deriving DecidableEq

-- The resolver with the rows its two repositories list.
structure ModelResolver where
  aliasRules : List ModelAliasRuleRecord
  modelRoutes : List ModelRouteRecord

namespace ModelResolver

def findAliasRule (resolver : ModelResolver) (requestedModel : Value) :
    Except Exception (Option ModelAliasRuleRecord) := do
  let matchingRules ← resolver.aliasRules.filterM fun rule =>
    if rule.isActive then fnmatchcase requestedModel rule.pattern else return false
  return @List.argmax _ _ Int.instLinearOrder.toPreorder _ ModelAliasRuleRecord.priority
    matchingRules

def findRoute (resolver : ModelResolver) (logicalModel : String) : Option ModelRouteRecord :=
  let matchingRoutes := resolver.modelRoutes.filter fun route =>
    route.isActive && route.logicalModel == logicalModel
  @List.argmax _ _ Int.instLinearOrder.toPreorder _ ModelRouteRecord.priority matchingRoutes

def unknownModel (python : Interpreter) (requestedModel : Value) : Failure :=
  .ModelResolutionError requestedModel REASON_UNKNOWN_MODEL
    ("Model '" ++ requestedModel.toStr python ++ "' is not allowed.")

def noRoute (requestedModel : Value) (logicalModel : String) : Failure :=
  .ModelResolutionError requestedModel REASON_UNSUPPORTED_ROUTE
    ("Logical model '" ++ logicalModel ++ "' has no supported Bedrock Converse route.")

def unsupportedRoute (requestedModel : Value) (logicalModel bedrockApiRoute : String) : Failure :=
  .ModelResolutionError requestedModel REASON_UNSUPPORTED_ROUTE
    ("Logical model '" ++ logicalModel ++ "' resolves to unsupported Bedrock route '" ++
      bedrockApiRoute ++ "'.")

def resolvedBy (requestedModel : Value) (logicalModel : String) (route : ModelRouteRecord) :
    ResolvedModel where
  requestedModel := requestedModel
  logicalModel := logicalModel
  provider := route.provider
  bedrockApiRoute := route.bedrockApiRoute
  bedrockModelId := route.bedrockModelId
  inferenceProfileId := route.inferenceProfileId
  awsRegionName := none
  capabilities := .fromRoute route

def resolve (python : Interpreter) (resolver : ModelResolver) (requestedModel : Value) :
    Except Failure ResolvedModel := do
  match ← raising (resolver.findAliasRule requestedModel) with
  | none => throw (unknownModel python requestedModel)
  | some aliasRule =>
      match resolver.findRoute aliasRule.logicalModel with
      | none => throw (noRoute requestedModel aliasRule.logicalModel)
      | some route =>
          if route.bedrockApiRoute ≠ "converse" then
            throw (unsupportedRoute requestedModel aliasRule.logicalModel route.bedrockApiRoute)
          else
            return resolvedBy requestedModel aliasRule.logicalModel route

-- A name that is not resolved is refused with the reason.
theorem resolve_unserviced (python : Interpreter) (resolver : ModelResolver)
    (requestedModel : Value) : Unserviced (resolver.resolve python requestedModel) := by
  unfold resolve
  refine (unserviced_bind _ _).mpr ⟨unserviced_raising _, fun aliasRule _ => ?_⟩
  cases aliasRule with
  | none => simp [unknownModel]
  | some aliasRule =>
      cases hroute : resolver.findRoute aliasRule.logicalModel with
      | none => simp [hroute, noRoute]
      | some route => simp [hroute, unsupportedRoute]

-- The route, and with it the target, is that of the logical model.
theorem resolve_route {python : Interpreter} {resolver : ModelResolver} {requestedModel : Value}
    {resolvedModel : ResolvedModel}
    (h : resolver.resolve python requestedModel = .ok resolvedModel) :
    ∃ route, resolver.findRoute resolvedModel.logicalModel = some route ∧
      resolvedModel = resolvedBy requestedModel resolvedModel.logicalModel route := by
  unfold resolve at h
  cases halias : raising (resolver.findAliasRule requestedModel) with
  | error error =>
      rw [halias] at h
      cases h
  | ok aliasRule =>
      cases aliasRule with
      | none =>
          rw [halias] at h
          cases h
      | some aliasRule =>
          simp only [halias, bind, Except.bind] at h
          cases hroute : resolver.findRoute aliasRule.logicalModel with
          | none =>
              rw [hroute] at h
              cases h
          | some route =>
              simp only [hroute] at h
              split_ifs at h
              cases h
              exact ⟨route, hroute, rfl⟩

end ModelResolver

end ClaudeCodeProxy
