import ClaudeCodeProxy.Api.AdminBudgetPolicies
import ClaudeCodeProxy.Api.Components
import ClaudeCodeProxy.Proxy.BedrockConverse.RequestErrors
import ClaudeCodeProxy.Proxy.Lemmas

-- What the stored policies and budgets of a user have to do with the answer.

namespace ClaudeCodeProxy

open Effects Python

-- The policies stored for the user deny the model, or the budgets are used up.
def StoredDenial (components : ProxyComponents) (repository : PolicyRepository)
    (teamIds : List String) (currentUsage : Rat) (user : UserRecord) (body : Value) : Prop :=
  (∃ model decision, body.item "model" = .ok model ∧
    PolicyEngine.evaluate components.python user model
      (repository.listPoliciesForSubject user.id user.groups user.department) = .ok decision ∧
    decision.allowed = false) ∨
  ∃ decision, components.quotaEngine.evaluate
      (repository.listBudgetPoliciesForSubject user.id teamIds) currentUsage = .ok decision ∧
    decision.hardLimitReached = true

-- The answer is 403, and Bedrock is not called.
def Blocked (log : Log) (outcome : Except Failure MessageResponse) : Prop :=
  (∃ response, outcome = .ok (.Json response) ∧ response.statusCode = 403) ∧ bedrockCalls log = []

-- The model is known and the user is not let through.
def GateCloses (components : ProxyComponents) (user : UserRecord) (body : Value) : Prop :=
  (∃ model resolvedModel, body.item "model" = .ok model ∧
    components.resolver.resolve components.python model = .ok resolvedModel) ∧
  (user.isActive && user.proxyAccessEnabled) = false

section Answers

variable {requestId : String}

theorem blocked_statusCode {log : Log} {error : Failure}
    (h : Blocked log (errorResponse error requestId)) :
    (normalizeException error requestId).statusCode = 403 := by
  obtain ⟨⟨response, hresponse, hstatus⟩, -⟩ := h
  unfold errorResponse at hresponse
  cases hshown : errorResponseForException error requestId with
  | error other =>
      rw [hshown] at hresponse
      cases hresponse
  | ok shown =>
      rw [hshown] at hresponse
      cases hresponse
      rw [← errorResponseForException_statusCode hshown, hstatus]

theorem not_blocked_of_unserviced {log : Log} {error : Failure}
    (h : ∀ other, error ≠ .ServiceError other) :
    ¬Blocked log (errorResponse error requestId) := by
  intro hblocked
  have hstatus := blocked_statusCode hblocked
  rcases normalizeException_statusCode error requestId h with hcode | hcode
  · rw [hstatus] at hcode
    cases hcode
  · rw [hstatus] at hcode
    cases hcode

-- An error of a component that raises no service errors.
theorem Unserviced.not_blocked {log : Log} {error : Failure} {result : Except Failure α}
    (h : Unserviced result) (herror : .error error = result) :
    ¬Blocked log (errorResponse error requestId) := by
  apply not_blocked_of_unserviced
  rintro other rfl
  exact h other herror.symm

theorem errorResponse_of_refusal (refusal : ServiceError) (hdetails : refusal.details = none) :
    ∃ response, errorResponse (.ServiceError refusal) requestId = .ok (.Json response) ∧
      response.statusCode = refusal.statusCode := by
  obtain ⟨response, hresponse, hstatus⟩ := serviceErrorResponse_ok refusal (by simp [hdetails])
  refine ⟨response, ?_, hstatus⟩
  rw [errorResponse, errorResponseForException, normalizeException, hresponse]
  rfl

end Answers

section Pipeline

variable {audited : Bool} {body : Value} {requestId : String} {startedAt : Rat}
  {authenticated : AuthenticatedRequestContext} {log : Log}
  {outcome : Except Failure MessageResponse}

-- With a user in the context and a store that works a refusal is answered as it is.
theorem DenyRun.answered {denialReason : String} {model : Value} {resolvedModel : Option String}
    {policyDecision : PolicyDecision} {refusal : ServiceError} {user : UserContext}
    (h : DenyRun audited requestId denialReason authenticated model resolvedModel policyDecision
      refusal log outcome)
    (huser : authenticated.user = .ok user) (hstore : StoreWorks log) :
    outcome = errorResponse (.ServiceError refusal) requestId := by
  cases h with
  | Unlogged haudited => rfl
  | Logged record haudited hrecord => rfl
  | Lost record error haudited hrecord =>
      generalize hresult : Except.error error = result at hrecord
      cases hrecord with
      | NoUser id error' hactor =>
          simp only [AuditLogger.actor, huser] at hactor
          cases hactor
      | Recorded id createdAt user' reply hactor =>
          subst hresult
          exact absurd (.tail _ (.tail _ (.head _))) (hstore.2 _ error)

-- Before policies that are none, the gate of the user decides.
theorem allowed_eq_eligible {components : ProxyComponents} {world : World} {model : Value}
    {policyDecision : PolicyDecision} (hserve : components.Serve world log)
    (hmem : answered (.EvaluatePolicy authenticated.userRecord model []) (.ok policyDecision) ∈ log) :
    policyDecision.allowed =
      (authenticated.userRecord.isActive && authenticated.userRecord.proxyAccessEnabled) := by
  obtain ⟨decision, hdecision, hallowed⟩ :=
    PolicyEngine.evaluate_nil components.python authenticated.userRecord
  have hreply := hserve.evaluatePolicy _ _ _ _ hmem
  rw [hdecision] at hreply
  cases hreply
  exact hallowed

-- Without budgets the quota engine lets pass, unless it cannot read the price.
theorem quota_reply {components : ProxyComponents} {world : World} {modelId : Option String}
    {reply : Except Failure QuotaDecision} (hserve : components.Serve world log)
    (hmem : answered (.EvaluateQuota [] 0 none modelId none) reply ∈ log) :
    (∃ error, components.quotaEngine.getActivePricing modelId = .error error ∧
      reply = .error error) ∨
    ∃ decision, reply = .ok decision ∧ decision.allowed = true := by
  have hreply := hserve.evaluateQuota _ _ _ _ _ _ hmem
  rcases components.quotaEngine.evaluate_nil 0 modelId with
    ⟨error, hpriced, hevaluate⟩ | ⟨decision, hevaluate, hallowed, -⟩
  · exact .inl ⟨error, hpriced, hreply.trans hevaluate⟩
  · exact .inr ⟨decision, hreply.trans hevaluate, hallowed⟩

theorem caught_errorResponse (refusal : ServiceError) (hdetails : refusal.details = none) :
    caught requestId (errorResponse (.ServiceError refusal) requestId) =
      errorResponse (.ServiceError refusal) requestId := by
  obtain ⟨response, hresponse, -⟩ := @errorResponse_of_refusal requestId refusal hdetails
  rw [hresponse]
  rfl

-- A refusal is blocked if it is one of 403, and only then.
theorem denial_blocked_iff {denialReason : String} {model : Value} {resolvedModel : Option String}
    {policyDecision : PolicyDecision} {refusal : ServiceError} {user : UserContext}
    (h : DenyRun audited requestId denialReason authenticated model resolvedModel policyDecision
      refusal log outcome)
    (gates : Log) (hdetails : refusal.details = none) (hcalls : bedrockCalls gates = [])
    (huser : authenticated.user = .ok user) (hstore : StoreWorks (gates ++ log)) :
    Blocked (gates ++ log) (caught requestId outcome) ↔ refusal.statusCode = 403 := by
  obtain ⟨response, hresponse, hstatus⟩ := @errorResponse_of_refusal requestId refusal hdetails
  rw [h.answered huser (hstore.append gates log).2, caught_errorResponse refusal hdetails,
    hresponse, ← hstatus]
  constructor
  · rintro ⟨⟨shown, hshown, hforbidden⟩, -⟩
    cases hshown
    exact hforbidden
  · intro hforbidden
    refine ⟨⟨response, rfl, hforbidden⟩, ?_⟩
    rw [bedrockCalls_append, hcalls, bedrockCalls_eq_nil h.stages.1]
    rfl

theorem InvocationRun.not_blocked {python : Interpreter} {admission : Admission}
    (h : InvocationRun python audited admission log outcome)
    (hbuild : ∀ body resolvedModel, AnswersAs log (.BuildConverseRequest body resolvedModel)
      (buildConverseRequest python body resolvedModel)) :
    ¬Blocked log (caught requestId outcome) := by
  cases h with
  | BuildRaised error =>
      exact (buildConverseRequest_unserviced python _ _).not_blocked (hbuild _ _ _ (.head _))
  | _ =>
      rintro ⟨-, hcalls⟩
      exact absurd hcalls (List.cons_ne_nil _ _)

-- The gate of the user is the only reason for a 403.
theorem PipelineRun.blocked_iff {components : ProxyComponents} {world : World}
    (h : PipelineRun components.python audited body requestId startedAt authenticated log outcome)
    (hserve : components.Serve world log) (hstore : StoreWorks log)
    (huser : ∃ user, authenticated.user = .ok user)
    (hpricing : ∀ modelId, Unserviced (components.quotaEngine.getActivePricing modelId)) :
    Blocked log (caught requestId outcome) ↔ GateCloses components authenticated.userRecord body := by
  obtain ⟨user, huser⟩ := huser
  have hopen : ∀ {model policyDecision},
      answered (.EvaluatePolicy authenticated.userRecord model []) (.ok policyDecision) ∈ log →
      policyDecision.allowed = true → ¬GateCloses components authenticated.userRecord body := by
    rintro model policyDecision hmem hallowed ⟨-, hblocked⟩
    rw [← allowed_eq_eligible hserve hmem, hallowed] at hblocked
    cases hblocked
  cases h with
  | NoModel error hmodel =>
      refine iff_of_false ((unserviced_raising _).not_blocked hmodel.symm) ?_
      rintro ⟨⟨model, resolvedModel, hitem, -⟩, -⟩
      rw [hitem] at hmodel
      cases hmodel
  | ResolveRaised model error hmodel =>
      have hreply := hserve.resolve _ _ (.head _)
      refine iff_of_false ((components.resolver.resolve_unserviced _ _).not_blocked hreply) ?_
      rintro ⟨⟨model', resolvedModel, hitem, hresolve⟩, -⟩
      rw [hitem] at hmodel
      cases hmodel
      rw [← hreply] at hresolve
      cases hresolve
  | PolicyRaised model resolvedModel error hmodel =>
      have hreply := hserve.evaluatePolicy _ _ _ _ (.tail _ (.head _))
      obtain ⟨decision, hdecision, -⟩ :=
        PolicyEngine.evaluate_nil components.python authenticated.userRecord
      rw [hdecision] at hreply
      cases hreply
  | PolicyDenied model resolvedModel policyDecision record outcome hmodel hdenied hrecord =>
      have hresolve := hserve.resolve _ _ (.head _)
      have hblocked := allowed_eq_eligible hserve (.tail _ (.head _))
      rw [hdenied] at hblocked
      refine iff_of_true ?_
        ⟨⟨model, resolvedModel, raising_eq_ok hmodel, hresolve.symm⟩, hblocked.symm⟩
      exact (denial_blocked_iff hrecord [_, _] rfl rfl huser hstore).mpr rfl
  | QuotaRaised model resolvedModel policyDecision error hmodel hpolicy =>
      refine iff_of_false ?_ (hopen (.tail _ (.head _)) hpolicy)
      rcases quota_reply hserve (.tail _ (.tail _ (.head _))) with
        ⟨error', hpriced, hreply⟩ | ⟨decision, hreply, -⟩
      · cases hreply
        exact (hpricing resolvedModel.bedrockModelId).not_blocked hpriced.symm
      · cases hreply
  | QuotaDenied model resolvedModel policyDecision quotaDecision record outcome hmodel hpolicy
      hdenied hrecord =>
      rcases quota_reply hserve (.tail _ (.tail _ (.head _))) with
        ⟨error, -, hreply⟩ | ⟨decision, hreply, hallowed⟩
      · cases hreply
      · cases hreply
        rw [hallowed] at hdenied
        cases hdenied
  | NoUser model resolvedModel policyDecision quotaDecision error hmodel hpolicy hquota hnone =>
      rw [huser] at hnone
      cases hnone
  | RateRaised model resolvedModel policyDecision quotaDecision user' error hmodel hpolicy hquota
      huser' =>
      obtain ⟨limiter, now, hreply⟩ :=
        hserve.checkRateLimit _ _ (.tail _ (.tail _ (.tail _ (.head _))))
      cases hreply
  | RateDenied model resolvedModel policyDecision quotaDecision user' rateLimitDecision record
      outcome hmodel hpolicy hquota huser' hdenied hrecord =>
      refine iff_of_false ?_ (hopen (.tail _ (.head _)) hpolicy)
      intro hblocked
      have hforbidden := (denial_blocked_iff hrecord [_, _, _, _] rfl rfl huser hstore).mp hblocked
      cases hforbidden
  | Admitted admission user' rateLimitDecision tail outcome hbody hid hstart hauthenticated hmodel
      hpolicy hquota huser' hrate hinvocation =>
      refine iff_of_false ?_ (hopen (.tail _ (.head _)) hpolicy)
      exact hinvocation.not_blocked (hserve.append [_, _, _, _] _).buildConverseRequest

end Pipeline

-- A request of an accepted user is blocked exactly when the gate of the user closes.
theorem createMessage_blocked_iff {components : ProxyComponents} {audited : Bool} {world : World}
    {http : HttpRequest} {log : Log} {outcome : Except Failure MessageResponse} {body : Value}
    {user : UserRecord} (h : (createMessage components.python audited http).Traces log outcome)
    (hserve : components.Serve world log) (hstore : StoreWorks log)
    (hpricing : ∀ modelId, Unserviced (components.quotaEngine.getActivePricing modelId))
    (hbody : http.json = .ok body)
    (haccepted : AcceptedUser components.deployment world http.authorization user) :
    Blocked log outcome ↔ GateCloses components user body := by
  obtain ⟨record, hrecord, hactive, huser⟩ := haccepted
  have hauth : ∀ {requestId}, authenticate components.deployment world http.authorization
      requestId = .ok (restoreTrustedRequestContext requestId user record.id record.keyHash
        record.keyPrefix) :=
    (authenticate_ok_iff _ _ _ _ _).mpr ⟨record, user, hrecord, hactive, huser, rfl⟩
  rcases (createMessage_run h).split with ⟨body, idLog, tail, requestId, startedAt, authenticated,
    result, hbody', hid, rfl, rfl, hpipeline⟩ | ⟨error, hbody', rfl⟩ |
    ⟨body, idLog, denied, requestId, startedAt, error, hbody', hid, rfl, -⟩
  rotate_left
  · rw [hbody] at hbody'
    cases hbody'
  · have hreply := hserve.authenticate _ _ _ (List.mem_append_right idLog (.tail _ (.head _)))
    rw [hauth] at hreply
    cases hreply
  rw [hbody] at hbody'
  cases hbody'
  have hreply := hserve.authenticate _ _ _ (List.mem_append_right idLog (.tail _ (.head _)))
  rw [hauth] at hreply
  cases hreply
  have hcalls : bedrockCalls (idLog ++ ⟨.PerfCounter, startedAt⟩ ::
      answered (.Authenticate http.authorization requestId)
        (.ok (restoreTrustedRequestContext requestId user record.id record.keyHash
          record.keyPrefix)) :: tail) = bedrockCalls tail := by
    rw [bedrockCalls_append, bedrockCalls_eq_nil hid.quiet.1]
    rfl
  have hblocked := hpipeline.blocked_iff ((hserve.append _ _).append [_, _] _)
    ((hstore.append _ _).2.append [_, _] _).2 ⟨_, rfl⟩ hpricing
  rw [Blocked, hcalls]
  exact hblocked

-- The claims of the store are met: whom it denies, the router blocks.
def StoredPoliciesEnforced (components : ProxyComponents) (world : World)
    (repository : PolicyRepository) (teamIds : List String) (currentUsage : Rat)
    (http : HttpRequest) (log : Log) (outcome : Except Failure MessageResponse) : Prop :=
  ∀ body user, http.json = .ok body →
    AcceptedUser components.deployment world http.authorization user →
    StoredDenial components repository teamIds currentUsage user body → Blocked log outcome

-- The router never asks the store. It blocks those whom the gate of the user stops, and
-- nobody else.
theorem storedPolicies_enforced_iff (components : ProxyComponents) (audited : Bool)
    (world : World) (repository : PolicyRepository) (teamIds : List String) (currentUsage : Rat)
    (http : HttpRequest) (log : Log) (outcome : Except Failure MessageResponse)
    (h : (createMessage components.python audited http).Traces log outcome)
    (hserve : components.Serve world log) (hstore : StoreWorks log)
    (hpricing : ∀ modelId, Unserviced (components.quotaEngine.getActivePricing modelId)) :
    StoredPoliciesEnforced components world repository teamIds currentUsage http log outcome ↔
      ∀ body user, http.json = .ok body →
        AcceptedUser components.deployment world http.authorization user →
        StoredDenial components repository teamIds currentUsage user body →
        GateCloses components user body := by
  constructor
  · intro henforced body user hbody haccepted hdenied
    exact (createMessage_blocked_iff h hserve hstore hpricing hbody haccepted).mp
      (henforced body user hbody haccepted hdenied)
  · intro hgate body user hbody haccepted hdenied
    exact (createMessage_blocked_iff h hserve hstore hpricing hbody haccepted).mpr
      (hgate body user hbody haccepted hdenied)

section Samples

theorem samplePricing_unserviced (modelId : Option String) :
    Unserviced (sampleComponents.quotaEngine.getActivePricing modelId) := by
  cases modelId <;> rintro error ⟨⟩

def sampleBudget : BudgetPolicyCreateRequest where
  id := "budget-1"
  periodType := .Month
  metricType := .Tokens
  limitValue := 100
  softLimitPercent := 80
  hardLimitPercent := 100
  softWithinHard := by decide
  hardWithinLimit := by decide

-- The repository lists the budgets that have been created for a user.
def sampleRepository : PolicyRepository where
  listPoliciesForSubject _ _ _ := []
  listBudgetPoliciesForSubject userId _ :=
    match BudgetPolicyAdminService.createUserPolicy sampleIssued.users [] "user-1" sampleBudget with
    | .ok (_, store) => store.filter fun policy => policy.scopeId == userId
    | .error _ => []

-- At a hundred tokens the budget is used up.
theorem sampleBudget_denies :
    StoredDenial sampleComponents sampleRepository [] 100 sampleUser
      (.Mapping (sampleBody false)) :=
  .inr ⟨_, rfl, by decide +kernel⟩

theorem storedPolicies_enforced_iff_sample :
    let run := sampleEnvironment.run (createMessage samplePython true (sampleHttp false))
    StoredDenial sampleComponents sampleRepository [] 100 sampleUser
        (.Mapping (sampleBody false)) ∧
      (StoredPoliciesEnforced sampleComponents sampleIssued sampleRepository [] 100
          (sampleHttp false) run.1 run.2 ↔
        ∀ body user, (sampleHttp false).json = .ok body →
          AcceptedUser sampleDeployment sampleIssued (some "Bearer vk_first") user →
          StoredDenial sampleComponents sampleRepository [] 100 user body →
          GateCloses sampleComponents user body) := by
  have hstore := (presentable_of_not_failed
    (sampleEnvironment.run (createMessage samplePython true (sampleHttp false))).1 (by decide)).2
  exact ⟨sampleBudget_denies, storedPolicies_enforced_iff sampleComponents true sampleIssued
    sampleRepository [] 100 (sampleHttp false) _ _ (sampleEnvironment.traces_run _)
    (ProxyComponents.serve_of_run _ _ _ sampleProvider_limits _) hstore samplePricing_unserviced⟩

-- A budget of a hundred tokens is used up, and the request is served.
theorem created_budget_ignored :
    let run := sampleEnvironment.run (createMessage samplePython true (sampleHttp false))
    (createMessage samplePython true (sampleHttp false)).Traces run.1 run.2 ∧
      sampleComponents.Serve sampleIssued run.1 ∧ StoreWorks run.1 ∧
      ¬StoredPoliciesEnforced sampleComponents sampleIssued sampleRepository [] 100
        (sampleHttp false) run.1 run.2 := by
  refine ⟨sampleEnvironment.traces_run _,
    ProxyComponents.serve_of_run _ _ _ sampleProvider_limits _,
    (presentable_of_not_failed _ (by decide)).2, ?_⟩
  intro henforced
  have hcalls : (bedrockCalls (sampleEnvironment.run
      (createMessage samplePython true (sampleHttp false))).1).isEmpty = false := by decide
  have hrecord : presentedRecord sampleDeployment sampleIssued (some "Bearer vk_first") =
      some sampleRecord := by decide
  obtain ⟨-, hnone⟩ := henforced (.Mapping (sampleBody false)) sampleUser rfl
    ⟨sampleRecord, hrecord, rfl, by decide⟩ sampleBudget_denies
  rw [hnone] at hcalls
  cases hcalls

end Samples

end ClaudeCodeProxy
