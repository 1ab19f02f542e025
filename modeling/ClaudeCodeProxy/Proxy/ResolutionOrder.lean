import ClaudeCodeProxy.Lists.Extremes
import ClaudeCodeProxy.Proxy.ModelResolver

-- What the order of the rows of its two tables has to do with a resolution.

namespace ClaudeCodeProxy

open Python

-- The reason of a failure, as the client is told it.
def Failure.reason : Failure → String
  | .ModelResolutionError _ reason _ | .BedrockRequestBuildError reason _ => reason
  | error => error.className

namespace ModelResolver

-- An active rule for the model that no other such rule exceeds in priority.
def TopRule (aliasRules : List ModelAliasRuleRecord) (model : String) :
    ModelAliasRuleRecord → Prop :=
  Lists.Greatest ModelAliasRuleRecord.priority
    (aliasRules.filter fun rule => rule.isActive && Text.fnmatchcase model rule.pattern)

def TopRoute (modelRoutes : List ModelRouteRecord) (logicalModel : String) :
    ModelRouteRecord → Prop :=
  Lists.Greatest ModelRouteRecord.priority
    (modelRoutes.filter fun route => route.isActive && route.logicalModel == logicalModel)

-- Two routes that a resolution cannot tell apart.
def Alike (first second : ModelRouteRecord) : Prop :=
  (first.bedrockApiRoute ≠ "converse" ∧ second.bedrockApiRoute ≠ "converse") ∨
    (first.provider = second.provider ∧ first.bedrockApiRoute = second.bedrockApiRoute ∧
      first.bedrockModelId = second.bedrockModelId ∧
      first.inferenceProfileId = second.inferenceProfileId ∧
      ResolvedModelCapabilities.fromRoute first = .fromRoute second)

-- No top route of the logical model can be used.
def Unroutable (modelRoutes : List ModelRouteRecord) (logicalModel : String) : Prop :=
  ∀ route, TopRoute modelRoutes logicalModel route → route.bedrockApiRoute ≠ "converse"

-- Whichever of the top rules and of their top routes are taken, it is all the same.
def Settled (resolver : ModelResolver) (model : String) : Prop :=
  ∀ first second, TopRule resolver.aliasRules model first →
    TopRule resolver.aliasRules model second →
    (Unroutable resolver.modelRoutes first.logicalModel ∧
      Unroutable resolver.modelRoutes second.logicalModel) ∨
    (first.logicalModel = second.logicalModel ∧
      ∀ route other, TopRoute resolver.modelRoutes first.logicalModel route →
        TopRoute resolver.modelRoutes first.logicalModel other → Alike route other)

-- A resolution with the reason of its failure in place of its text.
def outcome (python : Interpreter) (resolver : ModelResolver) (requestedModel : Value) :
    Except String ResolvedModel :=
  (resolver.resolve python requestedModel).mapError Failure.reason

section Selection

theorem findAliasRule_text (resolver : ModelResolver) (model : String) :
    resolver.findAliasRule (.Str model) =
      .ok (@List.argmax _ _ Int.instLinearOrder.toPreorder _ ModelAliasRuleRecord.priority
        (resolver.aliasRules.filter fun rule =>
          rule.isActive && Text.fnmatchcase model rule.pattern)) := by
  unfold findAliasRule
  rw [filterM_of_ok (p := fun rule => rule.isActive && Text.fnmatchcase model rule.pattern)]
  · rfl
  · intro rule _
    cases hactive : rule.isActive with
    | false => rfl
    | true => rfl

-- A model that is no text matches nothing; whether the patterns are tried at all does
-- not depend on their order.
theorem findAliasRule_of_not_text (resolver : ModelResolver) (requestedModel : Value)
    (h : ∀ text, requestedModel ≠ .Str text) :
    resolver.findAliasRule requestedModel =
      if resolver.aliasRules.any fun rule => rule.isActive then .error .TypeError
      else .ok none := by
  have hmatch : ∀ pattern, fnmatchcase requestedModel pattern = .error .TypeError := by
    intro pattern
    cases requestedModel with
    | Str text => exact absurd rfl (h text)
    | _ => rfl
  unfold findAliasRule
  by_cases hany : (resolver.aliasRules.any fun rule => rule.isActive) = true
  · have hcases : ∀ rule ∈ resolver.aliasRules,
        (if rule.isActive then fnmatchcase requestedModel rule.pattern else return false) =
            .ok false ∨
          (if rule.isActive then fnmatchcase requestedModel rule.pattern else return false) =
            .error Exception.TypeError := by
      intro rule _
      cases hactive : rule.isActive with
      | false => exact .inl rfl
      | true => exact .inr (hmatch rule.pattern)
    obtain ⟨rule, hm, hactive⟩ := List.any_eq_true.mp hany
    rw [if_pos hany, filterM_of_error hcases ⟨rule, hm, by rw [if_pos hactive, hmatch]⟩]
    rfl
  · rw [if_neg hany, filterM_of_ok (p := fun _ => false)]
    · simp [ok_bind, pure, Except.pure]
    · intro rule hm
      have hinactive : ¬rule.isActive = true := fun hactive =>
        hany (List.any_eq_true.mpr ⟨rule, hm, hactive⟩)
      rw [if_neg hinactive]
      rfl

-- What becomes of a logical model, given the route that is found for it.
def routed (requestedModel : Value) (logicalModel : String) (route : Option ModelRouteRecord) :
    Except String ResolvedModel :=
  match route with
  | none => .error REASON_UNSUPPORTED_ROUTE
  | some route =>
      if route.bedrockApiRoute ≠ "converse" then .error REASON_UNSUPPORTED_ROUTE
      else .ok (resolvedBy requestedModel logicalModel route)

theorem outcome_of_rule {python : Interpreter} {resolver : ModelResolver} {model : String}
    {aliasRule : ModelAliasRuleRecord}
    (h : resolver.findAliasRule (.Str model) = .ok (some aliasRule)) :
    resolver.outcome python (.Str model) = routed (.Str model) aliasRule.logicalModel
      (resolver.findRoute aliasRule.logicalModel) := by
  unfold outcome resolve routed
  rw [h]
  simp only [raising_ok, ok_bind]
  cases hroute : resolver.findRoute aliasRule.logicalModel with
  | none => rfl
  | some route =>
      simp only
      split_ifs with hunsupported
      · rfl
      · rfl

theorem outcome_of_no_rule {python : Interpreter} {resolver : ModelResolver} {model : String}
    (h : resolver.findAliasRule (.Str model) = .ok none) :
    resolver.outcome python (.Str model) = .error REASON_UNKNOWN_MODEL := by
  unfold outcome resolve
  rw [h]
  rfl

theorem topRoute_of_findRoute {resolver : ModelResolver} {logicalModel : String}
    {route : ModelRouteRecord} (h : resolver.findRoute logicalModel = some route) :
    TopRoute resolver.modelRoutes logicalModel route := Lists.Greatest.of_argmax h

theorem topRule_of_findAliasRule {resolver : ModelResolver} {model : String}
    {aliasRule : ModelAliasRuleRecord}
    (h : resolver.findAliasRule (.Str model) = .ok (some aliasRule)) :
    TopRule resolver.aliasRules model aliasRule := by
  rw [findAliasRule_text] at h
  exact Lists.Greatest.of_argmax (Except.ok.inj h)

theorem routed_of_unroutable {requestedModel : Value} {logicalModel : String}
    {resolver : ModelResolver} (h : Unroutable resolver.modelRoutes logicalModel) :
    routed requestedModel logicalModel (resolver.findRoute logicalModel) =
      .error REASON_UNSUPPORTED_ROUTE := by
  cases hroute : resolver.findRoute logicalModel with
  | none => rfl
  | some route => exact if_pos (h route (topRoute_of_findRoute hroute))

theorem routed_converse {requestedModel : Value} {logicalModel : String}
    {route : ModelRouteRecord} (h : route.bedrockApiRoute = "converse") :
    routed requestedModel logicalModel (some route) =
      .ok (resolvedBy requestedModel logicalModel route) := by
  simp [routed, h]

theorem routed_eq_ok {requestedModel : Value} {logicalModel : String}
    {route : Option ModelRouteRecord} {resolvedModel : ResolvedModel}
    (h : routed requestedModel logicalModel route = .ok resolvedModel) :
    ∃ found, route = some found ∧ found.bedrockApiRoute = "converse" ∧
      resolvedModel = resolvedBy requestedModel logicalModel found := by
  cases route with
  | none => cases h
  | some found =>
      simp only [routed] at h
      split_ifs at h with hunsupported
      exact ⟨found, rfl, not_not.mp hunsupported, (Except.ok.inj h).symm⟩

theorem routed_alike {requestedModel : Value} {logicalModel : String}
    {first second : ModelRouteRecord} (h : Alike first second) :
    routed requestedModel logicalModel (some first) =
      routed requestedModel logicalModel (some second) := by
  rcases h with ⟨hfirst, hsecond⟩ | ⟨hprovider, hroute, hmodel, hprofile, hcapabilities⟩
  · simp [routed, hfirst, hsecond]
  · simp [routed, resolvedBy, hprovider, hroute, hmodel, hprofile, hcapabilities]

theorem alike_of_resolvedBy {requestedModel : Value} {logicalModel : String}
    {first second : ModelRouteRecord}
    (h : resolvedBy requestedModel logicalModel first =
      resolvedBy requestedModel logicalModel second) : Alike first second := by
  simp only [resolvedBy, ResolvedModel.mk.injEq] at h
  obtain ⟨-, -, hprovider, hroute, hmodel, hprofile, -, hcapabilities⟩ := h
  exact .inr ⟨hprovider, hroute, hmodel, hprofile, hcapabilities⟩

end Selection

section Orders

variable {python : Interpreter} {resolver : ModelResolver}

-- Each top rule and each top route is taken in some order of the rows.
theorem exists_order_of_topRule {model : String} {aliasRule : ModelAliasRuleRecord}
    (h : TopRule resolver.aliasRules model aliasRule) :
    ∃ aliasRules : List ModelAliasRuleRecord, aliasRules.Perm resolver.aliasRules ∧
      ∀ modelRoutes, (ModelResolver.mk aliasRules modelRoutes).findAliasRule (.Str model) =
        .ok (some aliasRule) := by
  obtain ⟨aliasRules, hperm, hfirst⟩ := h.exists_perm
  refine ⟨aliasRules, hperm, ?_⟩
  intro modelRoutes
  rw [findAliasRule_text]
  exact congrArg Except.ok hfirst

theorem exists_order_of_topRoute {logicalModel : String} {route : ModelRouteRecord}
    (h : TopRoute resolver.modelRoutes logicalModel route) :
    ∃ modelRoutes : List ModelRouteRecord, modelRoutes.Perm resolver.modelRoutes ∧
      ∀ aliasRules, (ModelResolver.mk aliasRules modelRoutes).findRoute logicalModel =
        some route := by
  obtain ⟨modelRoutes, hperm, hfirst⟩ := h.exists_perm
  exact ⟨modelRoutes, hperm, fun _ => hfirst⟩

-- No order of the rows changes what a resolution comes to.
def OrderFree (python : Interpreter) (resolver : ModelResolver) (requestedModel : Value) : Prop :=
  ∀ aliasRules modelRoutes, aliasRules.Perm resolver.aliasRules →
    modelRoutes.Perm resolver.modelRoutes →
    (ModelResolver.mk aliasRules modelRoutes).outcome python requestedModel =
      resolver.outcome python requestedModel

theorem orderFree_of_not_text {requestedModel : Value}
    (h : ∀ text, requestedModel ≠ .Str text) : OrderFree python resolver requestedModel := by
  intro aliasRules modelRoutes hrules _
  have hany : (aliasRules.any fun rule => rule.isActive) =
      resolver.aliasRules.any fun rule => rule.isActive := hrules.any_eq
  unfold outcome resolve
  rw [findAliasRule_of_not_text _ _ h, findAliasRule_of_not_text _ _ h, hany]
  split
  · rfl
  · rfl

-- With its rule in front, and its route, a choice is what the resolution comes to.
theorem OrderFree.outcome_of_top {model : String} {aliasRule : ModelAliasRuleRecord}
    {route : ModelRouteRecord} (h : OrderFree python resolver (.Str model))
    (hrule : TopRule resolver.aliasRules model aliasRule)
    (hroute : TopRoute resolver.modelRoutes aliasRule.logicalModel route) :
    resolver.outcome python (.Str model) =
      routed (.Str model) aliasRule.logicalModel (some route) := by
  obtain ⟨aliasRules, hrules, hfirst⟩ := exists_order_of_topRule hrule
  obtain ⟨modelRoutes, hroutes, hfound⟩ := exists_order_of_topRoute hroute
  rw [← h aliasRules modelRoutes hrules hroutes, outcome_of_rule (hfirst modelRoutes), hfound]

theorem OrderFree.outcome_of_topRule {model : String} {aliasRule : ModelAliasRuleRecord}
    (h : OrderFree python resolver (.Str model))
    (hrule : TopRule resolver.aliasRules model aliasRule) :
    resolver.outcome python (.Str model) = routed (.Str model) aliasRule.logicalModel
      (resolver.findRoute aliasRule.logicalModel) := by
  obtain ⟨aliasRules, hrules, hfirst⟩ := exists_order_of_topRule hrule
  rw [← h aliasRules resolver.modelRoutes hrules (.refl _), outcome_of_rule (hfirst _)]
  rfl

-- A top rule with a usable route settles what all others lead to.
theorem OrderFree.settled_of_converse {model : String} {first second : ModelAliasRuleRecord}
    {route : ModelRouteRecord} (h : OrderFree python resolver (.Str model))
    (hfirst : TopRule resolver.aliasRules model first)
    (hsecond : TopRule resolver.aliasRules model second)
    (hroute : TopRoute resolver.modelRoutes first.logicalModel route)
    (hconverse : route.bedrockApiRoute = "converse") :
    first.logicalModel = second.logicalModel ∧
      ∀ other, TopRoute resolver.modelRoutes first.logicalModel other → Alike route other := by
  have hbase := h.outcome_of_top hfirst hroute
  rw [routed_converse hconverse] at hbase
  constructor
  · have hother := h.outcome_of_topRule hsecond
    rw [hbase] at hother
    obtain ⟨found, -, -, hsame⟩ := routed_eq_ok hother.symm
    exact congrArg ResolvedModel.logicalModel hsame
  · intro other htop
    have hother := h.outcome_of_top hfirst htop
    rw [hbase] at hother
    obtain ⟨found, hfound, -, hsame⟩ := routed_eq_ok hother.symm
    cases hfound
    exact alike_of_resolvedBy hsame

theorem OrderFree.settled {model : String} (h : OrderFree python resolver (.Str model)) :
    resolver.Settled model := by
  intro first second hfirst hsecond
  by_cases hall : Unroutable resolver.modelRoutes first.logicalModel ∧
      Unroutable resolver.modelRoutes second.logicalModel
  · exact .inl hall
  · right
    -- one of the two leads to a route that can be used
    have husable : ∃ aliasRule route, (aliasRule = first ∨ aliasRule = second) ∧
        TopRoute resolver.modelRoutes aliasRule.logicalModel route ∧
        route.bedrockApiRoute = "converse" := by
      by_contra hnone
      apply hall
      constructor
      · exact fun route htop hroute => hnone ⟨first, route, .inl rfl, htop, hroute⟩
      · exact fun route htop hroute => hnone ⟨second, route, .inr rfl, htop, hroute⟩
    obtain ⟨aliasRule, route, hwhich, htop, hconverse⟩ := husable
    have hrule : TopRule resolver.aliasRules model aliasRule := by
      rcases hwhich with rfl | rfl
      · exact hfirst
      · exact hsecond
    obtain ⟨hsame, halike⟩ := h.settled_of_converse hrule hfirst htop hconverse
    obtain ⟨hsame', -⟩ := h.settled_of_converse hrule hsecond htop hconverse
    refine ⟨hsame.symm.trans hsame', ?_⟩
    intro one other hone hother
    rw [← hsame] at hone hother
    have hconverse' : one.bedrockApiRoute = "converse" := by
      rcases halike one hone with ⟨hnot, -⟩ | ⟨-, hroute, -⟩
      · exact absurd hconverse hnot
      · rw [← hroute]
        exact hconverse
    exact (h.settled_of_converse hrule hrule hone hconverse').2 other hother

theorem findRoute_alike {aliasRules others : List ModelAliasRuleRecord}
    {modelRoutes : List ModelRouteRecord} {requestedModel : Value} {logicalModel : String}
    (hroutes : modelRoutes.Perm resolver.modelRoutes)
    (halike : ∀ route other, TopRoute resolver.modelRoutes logicalModel route →
      TopRoute resolver.modelRoutes logicalModel other → Alike route other) :
    routed requestedModel logicalModel
        ((ModelResolver.mk aliasRules modelRoutes).findRoute logicalModel) =
      routed requestedModel logicalModel
        ((ModelResolver.mk others resolver.modelRoutes).findRoute logicalModel) := by
  have hperm := hroutes.filter fun route => route.isActive && route.logicalModel == logicalModel
  cases hfirst : (ModelResolver.mk aliasRules modelRoutes).findRoute logicalModel with
  | none =>
      cases hsecond : (ModelResolver.mk others resolver.modelRoutes).findRoute logicalModel with
      | none => rfl
      | some other =>
          have htop := topRoute_of_findRoute hsecond
          exact absurd hfirst (htop.perm hperm.symm).argmax_ne_none
  | some route =>
      have htop : TopRoute resolver.modelRoutes logicalModel route :=
        (topRoute_of_findRoute hfirst).perm hperm
      cases hsecond : (ModelResolver.mk others resolver.modelRoutes).findRoute logicalModel with
      | none => exact absurd hsecond htop.argmax_ne_none
      | some other => exact routed_alike (halike route other htop (topRoute_of_findRoute hsecond))

theorem Settled.orderFree {model : String} (h : resolver.Settled model) :
    OrderFree python resolver (.Str model) := by
  intro aliasRules modelRoutes hrules hroutes
  have hperm := hrules.filter fun rule => rule.isActive && Text.fnmatchcase model rule.pattern
  have hunroutable : ∀ logicalModel, Unroutable resolver.modelRoutes logicalModel →
      Unroutable modelRoutes logicalModel := fun logicalModel hnone route htop =>
    hnone route (htop.perm (hroutes.filter _))
  have hbase := findAliasRule_text resolver model
  have hother := findAliasRule_text ⟨aliasRules, modelRoutes⟩ model
  cases hfirst : (resolver.aliasRules.filter fun rule =>
      rule.isActive && Text.fnmatchcase model rule.pattern).argmax
        ModelAliasRuleRecord.priority with
  | none =>
      have hempty := List.argmax_eq_none.mp hfirst
      rw [hempty] at hperm
      rw [hperm.eq_nil] at hother
      rw [hfirst] at hbase
      rw [outcome_of_no_rule hbase, outcome_of_no_rule hother]
  | some first =>
      rw [hfirst] at hbase
      have htop := topRule_of_findAliasRule hbase
      cases hsecond : (aliasRules.filter fun rule =>
          rule.isActive && Text.fnmatchcase model rule.pattern).argmax
            ModelAliasRuleRecord.priority with
      | none => exact absurd hsecond (htop.perm hperm.symm).argmax_ne_none
      | some second =>
          rw [hsecond] at hother
          have htop' := (topRule_of_findAliasRule hother).perm hperm
          rw [outcome_of_rule hbase, outcome_of_rule hother]
          rcases h second first htop' htop with ⟨hnone, hnone'⟩ | ⟨hsame, halike⟩
          · rw [routed_of_unroutable hnone', routed_of_unroutable (hunroutable _ hnone)]
          · rw [← hsame]
            exact findRoute_alike hroutes halike

end Orders

end ModelResolver

-- A resolution is the same in every order of the rows exactly if its ties are settled;
-- a model that is no text ties nothing.
theorem resolution_orderFree_iff (python : Interpreter) (resolver : ModelResolver)
    (requestedModel : Value) :
    ModelResolver.OrderFree python resolver requestedModel ↔
      ∀ text, requestedModel = .Str text → resolver.Settled text := by
  constructor
  · rintro h text rfl
    exact h.settled
  · intro h
    by_cases htext : ∃ text, requestedModel = .Str text
    · obtain ⟨text, rfl⟩ := htext
      exact (h text rfl).orderFree
    · exact ModelResolver.orderFree_of_not_text fun text hsame => htext ⟨text, hsame⟩

-- Two rules of one priority that match the same model.
def sampleTie : ModelResolver where
  aliasRules := [
    ⟨"alias-1", "claude-*", "sonnet", 10, true⟩,
    ⟨"alias-2", "*-4", "opus", 10, true⟩]
  modelRoutes := [
    ⟨"route-1", "sonnet", "bedrock", "converse", some "anthropic.sonnet", none, true, true, true,
      true, 10, true⟩,
    ⟨"route-2", "opus", "bedrock", "converse", some "anthropic.opus", none, true, true, true,
      true, 10, true⟩]

theorem tie_depends_on_order :
    ¬∀ (python : Interpreter) (resolver : ModelResolver) (requestedModel : Value),
      (resolver.aliasRules.map ModelAliasRuleRecord.id).Nodup →
      (resolver.modelRoutes.map ModelRouteRecord.id).Nodup →
      ModelResolver.OrderFree python resolver requestedModel := by
  intro h
  have hsame := h ⟨fun _ => "", fun _ => none⟩ sampleTie (.Str "claude-4") (by decide)
    (by decide) sampleTie.aliasRules.reverse sampleTie.modelRoutes (List.reverse_perm _) (.refl _)
  revert hsame
  decide

end ClaudeCodeProxy
