import ClaudeCodeProxy.Api.AdminPurge
import ClaudeCodeProxy.Effects.Faults
import ClaudeCodeProxy.Proxy.BedrockConverse.BuiltRequests
import ClaudeCodeProxy.Proxy.ResolutionOrder

-- The routes that the admin interface stores, and the requests that are sent by them.

namespace ClaudeCodeProxy

open Effects Python

-- A call of the service; the store may refuse the row, and the notifier may fail.
structure RouteUpdate where
  routeId : String
  request : ModelRouteUpdateRequest
  draw : Draw
  faults : Nat → Option Failure := fun _ => none

def RouteUpdate.record (update : RouteUpdate) : ModelRouteRecord :=
  ModelMappingAdminService.modelRouteRecord update.routeId update.request

section Updates

variable (deployment : Deployment) (identities : AdminIdentities) (usage : UsageQueries)

def AdminStores.updateModelRoute (stores : AdminStores) (update : RouteUpdate) : AdminStores :=
  ((ModelMappingAdminService.updateModelRoute update.routeId update.request).run
    ((handleAdmin deployment identities usage update.draw).faulty update.faults) (stores, 0)).2.1

-- The routes of the table after a sequence of updates.
def storedRoutes (start : AdminStores) (updates : List RouteUpdate) : List ModelRouteRecord :=
  (exec (AdminStores.updateModelRoute deployment identities usage) start updates).routes.rows

theorem updateModelRoute_cases (stores : AdminStores) (update : RouteUpdate) :
    (stores.updateModelRoute deployment identities usage update).routes = stores.routes ∨
      (stores.updateModelRoute deployment identities usage update).routes =
        stores.routes.save update.record := by
  unfold AdminStores.updateModelRoute ModelMappingAdminService.updateModelRoute
  cases hstore : update.faults 0 with
  | some error =>
      left
      simp [adminCall, Program.perform, Program.run, Handler.faulty, hstore]
  | none =>
      right
      cases hreload : update.faults 1 with
      | some error =>
          simp [adminCall, Program.perform, Program.run, Handler.faulty, handleAdmin, hstore,
            hreload, RouteUpdate.record]
      | none =>
          simp [adminCall, Program.perform, Program.run, Handler.faulty, handleAdmin, hstore,
            hreload, RouteUpdate.record]

-- Every stored route was there from the start or was put there by an update.
theorem mem_storedRoutes (start : AdminStores) (updates : List RouteUpdate)
    (route : ModelRouteRecord)
    (hm : route ∈ storedRoutes deployment identities usage start updates) :
    route ∈ start.routes.rows ∨ ∃ update ∈ updates, route = update.record := by
  induction updates generalizing start with
  | nil => exact .inl hm
  | cons update updates ih =>
      have hstep := updateModelRoute_cases deployment identities usage start update
      rcases ih (start.updateModelRoute deployment identities usage update) hm with
        hold | ⟨later, hlater, hsame⟩
      · rcases hstep with hkept | hsaved
        · rw [hkept] at hold
          exact .inl hold
        · rw [hsaved] at hold
          rcases (Store.Table.mem_save _ _ _).mp hold with hnew | ⟨hold, -⟩
          · exact .inr ⟨update, .head _, hnew⟩
          · exact .inl hold
      · exact .inr ⟨later, .tail _ hlater, hsame⟩

end Updates

section Targets

-- An id that names something.
def Named (id : Option String) : Prop := ∃ text, id = some text ∧ text ≠ ""

-- The route has an id of a model or of a profile that a request can be sent to.
def HasTarget (route : ModelRouteRecord) : Prop :=
  Named route.bedrockModelId ∨ Named route.inferenceProfileId

-- A route that can be used names its target.
def Targeted (route : ModelRouteRecord) : Prop :=
  route.isActive = true → route.bedrockApiRoute = "converse" → HasTarget route

theorem targetModelId_ne_empty_iff (requestedModel : Value) (logicalModel : String)
    (route : ModelRouteRecord) :
    RequestBuilder.targetModelId (ModelResolver.resolvedBy requestedModel logicalModel route) ≠ "" ↔
      HasTarget route := by
  unfold RequestBuilder.targetModelId HasTarget Named
  cases hmodel : route.bedrockModelId with
  | none =>
      cases hprofile : route.inferenceProfileId with
      | none => simp [ModelResolver.resolvedBy, hmodel, hprofile]
      | some profile => simp [ModelResolver.resolvedBy, hmodel, hprofile]
  | some modelId =>
      cases hprofile : route.inferenceProfileId with
      | none =>
          by_cases hempty : modelId = ""
          · simp [ModelResolver.resolvedBy, hmodel, hprofile, hempty]
          · simp [ModelResolver.resolvedBy, hmodel, hprofile, hempty]
      | some profile =>
          by_cases hempty : modelId = ""
          · simp [ModelResolver.resolvedBy, hmodel, hprofile, hempty]
          · simp [ModelResolver.resolvedBy, hmodel, hprofile, hempty]

-- The request is sent by an active Converse route of the logical model that an active
-- rule for the requested model names, both of the highest priority.
def ComesFrom (resolver : ModelResolver) (requestedModel : Value) (request : ConverseRequest) :
    Prop :=
  ∃ text rule route, requestedModel = .Str text ∧
    ModelResolver.TopRule resolver.aliasRules text rule ∧
    ModelResolver.TopRoute resolver.modelRoutes rule.logicalModel route ∧
    route.bedrockApiRoute = "converse" ∧
    request.targetModelId = RequestBuilder.targetModelId
      (ModelResolver.resolvedBy requestedModel rule.logicalModel route) ∧
    request.inferenceProfileId = route.inferenceProfileId

-- What a resolution and the builder make of a request has a target.
def RequestsTargeted (python : Interpreter) (modelRoutes : List ModelRouteRecord) : Prop :=
  ∀ aliasRules requestedModel resolvedModel body request,
    (ModelResolver.mk aliasRules modelRoutes).resolve python requestedModel = .ok resolvedModel →
    buildConverseRequest python body resolvedModel = .ok request →
    request.targetModelId ≠ "" ∧ ComesFrom ⟨aliasRules, modelRoutes⟩ requestedModel request

theorem resolve_eq_ok {python : Interpreter} {resolver : ModelResolver} {requestedModel : Value}
    {resolvedModel : ResolvedModel}
    (h : resolver.resolve python requestedModel = .ok resolvedModel) :
    ∃ text rule route, requestedModel = .Str text ∧
      ModelResolver.TopRule resolver.aliasRules text rule ∧
      ModelResolver.TopRoute resolver.modelRoutes rule.logicalModel route ∧
      route.bedrockApiRoute = "converse" ∧
      resolvedModel = ModelResolver.resolvedBy requestedModel rule.logicalModel route := by
  have hfound : ∃ rule, resolver.findAliasRule requestedModel = .ok (some rule) := by
    unfold ModelResolver.resolve at h
    obtain ⟨found, hfound, hrest⟩ := bind_eq_ok.mp h
    cases found with
    | none => cases hrest
    | some rule => exact ⟨rule, raising_eq_ok hfound⟩
  obtain ⟨rule, hrule⟩ := hfound
  by_cases htext : ∃ text, requestedModel = .Str text
  · obtain ⟨text, rfl⟩ := htext
    have hok : resolver.outcome python (.Str text) = .ok resolvedModel := by
      rw [ModelResolver.outcome, h]
      rfl
    rw [ModelResolver.outcome_of_rule hrule] at hok
    obtain ⟨route, hroute, hconverse, hresolved⟩ := ModelResolver.routed_eq_ok hok
    exact ⟨text, rule, route, rfl, ModelResolver.topRule_of_findAliasRule hrule,
      ModelResolver.topRoute_of_findRoute hroute, hconverse, hresolved⟩
  · rw [ModelResolver.findAliasRule_of_not_text _ _ fun text hsame => htext ⟨text, hsame⟩] at hrule
    split_ifs at hrule
    cases hrule

theorem requestsTargeted_of_hasTarget {python : Interpreter} {modelRoutes : List ModelRouteRecord}
    (h : ∀ logicalModel route, ModelResolver.TopRoute modelRoutes logicalModel route →
      route.bedrockApiRoute = "converse" → HasTarget route) :
    RequestsTargeted python modelRoutes := by
  intro aliasRules requestedModel resolvedModel body request hresolve hbuild
  obtain ⟨text, rule, route, rfl, hrule, hroute, hconverse, rfl⟩ := resolve_eq_ok hresolve
  obtain ⟨parts, -, rfl⟩ := buildConverseRequest_ok_iff.mp hbuild
  refine ⟨?_, text, rule, route, rfl, hrule, hroute, hconverse, rfl, rfl⟩
  exact (targetModelId_ne_empty_iff _ _ _).mpr (h rule.logicalModel route hroute hconverse)

-- A request that asks for nothing is built for every model.
theorem buildConverseRequest_empty (python : Interpreter) (resolvedModel : ResolvedModel) :
    ∃ request, buildConverseRequest python (.Mapping []) resolvedModel = .ok request ∧
      request.targetModelId = RequestBuilder.targetModelId resolvedModel := by
  have hreasoning : RequestBuilder.normalizeReasoningRequest python (.Mapping []) resolvedModel =
      .ok none := by
    unfold RequestBuilder.normalizeReasoningRequest
    cases resolvedModel.capabilities.supportsReasoning with
    | false => rfl
    | true => rfl
  rw [buildConverseRequest_eq, hreasoning]
  exact ⟨_, rfl, rfl⟩

-- Every top route is the one a request is sent by, in some order of the rows and for
-- some table of rules.
theorem hasTarget_of_requestsTargeted {python : Interpreter} {modelRoutes : List ModelRouteRecord}
    (h : ∀ listed : List ModelRouteRecord, listed.Perm modelRoutes → RequestsTargeted python listed)
    {logicalModel : String} {route : ModelRouteRecord}
    (hroute : ModelResolver.TopRoute modelRoutes logicalModel route)
    (hconverse : route.bedrockApiRoute = "converse") : HasTarget route := by
  let aliasRules : List ModelAliasRuleRecord := [⟨"alias-1", "*", logicalModel, 0, true⟩]
  obtain ⟨listed, hperm, hfirst⟩ := hroute.exists_perm
  have hfound : (ModelResolver.mk aliasRules listed).findRoute logicalModel = some route := hfirst
  have hresolve : (ModelResolver.mk aliasRules listed).resolve python (.Str "m") =
      .ok (ModelResolver.resolvedBy (.Str "m") logicalModel route) := by
    have hrule : (ModelResolver.mk aliasRules listed).findAliasRule (.Str "m") =
        .ok (some ⟨"alias-1", "*", logicalModel, 0, true⟩) := by
      have hmatch : Text.fnmatchcase "m" "*" = true := by decide
      rw [ModelResolver.findAliasRule_text]
      simp [aliasRules, hmatch]
    unfold ModelResolver.resolve
    rw [hrule]
    simp only [raising_ok, ok_bind, hfound, hconverse]
    rfl
  obtain ⟨request, hbuild, htarget⟩ := buildConverseRequest_empty python
    (ModelResolver.resolvedBy (.Str "m") logicalModel route)
  obtain ⟨hne, -⟩ := h listed hperm aliasRules _ _ _ _ hresolve hbuild
  rw [htarget] at hne
  exact (targetModelId_ne_empty_iff _ _ _).mp hne

end Targets

-- In whatever order the stored routes are listed, every request has a target exactly if
-- the top routes have one. Updates that name a target for each usable route see to it.
theorem resolved_request_targeted_iff (python : Interpreter) (deployment : Deployment)
    (identities : AdminIdentities) (usage : UsageQueries) (start : AdminStores)
    (updates : List RouteUpdate) :
    let routes := storedRoutes deployment identities usage start updates
    ((∀ listed : List ModelRouteRecord, listed.Perm routes → RequestsTargeted python listed) ↔
      ∀ logicalModel route, ModelResolver.TopRoute routes logicalModel route →
        route.bedrockApiRoute = "converse" → HasTarget route) ∧
    ((∀ route ∈ start.routes.rows, Targeted route) →
      (∀ update ∈ updates, Targeted update.record) →
      ∀ listed : List ModelRouteRecord, listed.Perm routes → RequestsTargeted python listed) := by
  intro routes
  have htop : (∀ logicalModel route, ModelResolver.TopRoute routes logicalModel route →
      route.bedrockApiRoute = "converse" → HasTarget route) →
      ∀ listed : List ModelRouteRecord, listed.Perm routes → RequestsTargeted python listed := by
    intro h listed hperm
    apply requestsTargeted_of_hasTarget
    intro logicalModel route hroute
    exact h logicalModel route (hroute.perm (hperm.filter _))
  refine ⟨⟨?_, htop⟩, ?_⟩
  · intro h logicalModel route hroute hconverse
    exact hasTarget_of_requestsTargeted h hroute hconverse
  · intro hstart hupdates
    apply htop
    intro logicalModel route hroute hconverse
    obtain ⟨hm, hactive⟩ := List.mem_filter.mp hroute.1
    rw [Bool.and_eq_true] at hactive
    rcases mem_storedRoutes deployment identities usage start updates route hm with
      hold | ⟨update, hupdate, rfl⟩
    · exact hstart route hold hactive.1 hconverse
    · exact hupdates update hupdate hactive.1 hconverse

-- An update that leaves out both ids.
def sampleUpdate : RouteUpdate where
  routeId := "route-1"
  draw := sampleFirst
  request := {
    logicalModel := "sonnet"
    provider := "bedrock"
    bedrockApiRoute := "converse"
    supportsNativeStructuredOutput := true
    supportsReasoning := true
    supportsPromptCacheTtl := true
    supportsDisableParallelToolUse := true
    priority := 100 }

def emptyStores : AdminStores := ⟨.initial, [], .empty, ⟨.empty, []⟩, [], []⟩

theorem request_without_target :
    ¬∀ (python : Interpreter) (deployment : Deployment) (identities : AdminIdentities)
      (usage : UsageQueries) (updates : List RouteUpdate),
      RequestsTargeted python
        (storedRoutes deployment identities usage emptyStores updates) := by
  intro h
  let python : Interpreter := ⟨fun _ => "", fun _ => none⟩
  let usage : UsageQueries := ⟨fun _ _ _ => .ok [], fun _ _ _ _ => .ok []⟩
  let aliasRules : List ModelAliasRuleRecord := [⟨"alias-1", "claude-*", "sonnet", 1, true⟩]
  obtain ⟨hne, -⟩ := h python sampleDeployment .empty usage [sampleUpdate] aliasRules
    (.Str "claude-sonnet-4")
    (ModelResolver.resolvedBy (.Str "claude-sonnet-4") "sonnet" sampleUpdate.record)
    (.Mapping [("model", .Str "claude-sonnet-4"), ("messages", .Sequence [])]) _ rfl rfl
  exact hne rfl

end ClaudeCodeProxy
