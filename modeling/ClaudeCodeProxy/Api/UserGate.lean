import ClaudeCodeProxy.Api.Components
import ClaudeCodeProxy.Api.CountRuns
import ClaudeCodeProxy.Proxy.Lemmas

-- Which requests get to Bedrock past the gate of the user.

namespace ClaudeCodeProxy

open Effects Python

inductive Endpoint
  | CreateMessage
  | CountTokens
  deriving DecidableEq

def Endpoint.handle (python : Interpreter) (audited : Bool) (http : HttpRequest) :
    Endpoint → Runtime MessageResponse
  | .CreateMessage => createMessage python audited http
  | .CountTokens => countTokens python http

-- A request that gets to Bedrock presents the key of a user who is active and enabled.
def UserGated (deployment : Deployment) (world : World) (authorization : Option String)
    (log : Log) : Prop :=
  bedrockCalls log ≠ [] → ∃ user, presentedUser deployment world authorization = some user ∧
    user.isActive = true ∧ user.proxyAccessEnabled = true

-- The key is active, its owner is not, and everything that comes before the count succeeds.
def CountedForBlockedUser (deployment : Deployment) (world : World) (http : HttpRequest)
    (resolve : Value → Except Failure ResolvedModel)
    (build : Value → ResolvedModel → Except Failure ConverseRequest) : Prop :=
  (∃ user, AcceptedUser deployment world http.authorization user ∧
    (user.isActive && user.proxyAccessEnabled) = false) ∧
  ∃ body model resolvedModel converseRequest, http.json = .ok body ∧
    body.item "model" = .ok model ∧ resolve model = .ok resolvedModel ∧
    build body resolvedModel = .ok converseRequest

variable {python : Interpreter} {audited : Bool} {deployment : Deployment} {world : World}
  {http : HttpRequest} {log : Log} {outcome : Except Failure MessageResponse}

theorem AcceptedUser.presentedUser {authorization : Option String} {user : UserRecord}
    (h : AcceptedUser deployment world authorization user) :
    presentedUser deployment world authorization = some user := by
  obtain ⟨record, hrecord, -, huser⟩ := h
  simp [ClaudeCodeProxy.presentedUser, hrecord, huser]

theorem presentedUser_of_authenticate {authorization : Option String} {requestId : String}
    {context : AuthenticatedRequestContext}
    (h : authenticate deployment world authorization requestId = .ok context) :
    presentedUser deployment world authorization = some context.userRecord := by
  obtain ⟨record, user, hrecord, hactive, huser, rfl⟩ := (authenticate_ok_iff _ _ _ _ _).mp h
  exact AcceptedUser.presentedUser ⟨record, hrecord, hactive, huser⟩

-- The pipeline calls Bedrock only for a user whom the policy engine lets pass.
theorem PipelineRun.eligible {body : Value} {requestId : String} {startedAt : Rat}
    {authenticated : AuthenticatedRequestContext}
    (h : PipelineRun python audited body requestId startedAt authenticated log outcome)
    (hpolicies : ∀ user model policies, AnswersAs log (.EvaluatePolicy user model policies)
      (raising (PolicyEngine.evaluate python user model policies)))
    (hcalls : bedrockCalls log ≠ []) :
    authenticated.userRecord.isActive = true ∧
      authenticated.userRecord.proxyAccessEnabled = true := by
  cases h with
  | PolicyDenied model resolvedModel policyDecision record outcome hmodel hdenied hrecord =>
      exact absurd (bedrockCalls_eq_nil hrecord.stages.1) hcalls
  | QuotaDenied model resolvedModel policyDecision quotaDecision record outcome hmodel hpolicy
      hdenied hrecord => exact absurd (bedrockCalls_eq_nil hrecord.stages.1) hcalls
  | RateDenied model resolvedModel policyDecision quotaDecision user rateLimitDecision record
      outcome hmodel hpolicy hquota huser hdenied hrecord =>
      exact absurd (bedrockCalls_eq_nil hrecord.stages.1) hcalls
  | Admitted admission user rateLimitDecision tail outcome hbody hid hstart hauthenticated hmodel
      hpolicy hquota huser hrate hinvocation =>
      have hdecision := hpolicies _ _ _ _ (.tail _ (.head _))
      exact PolicyEngine.eligible_of_allowed (raising_eq_ok hdecision.symm) hpolicy
  | _ => exact absurd rfl hcalls

theorem createMessage_userGated (h : (createMessage python audited http).Traces log outcome)
    (hauth : ∀ authorization requestId, AnswersAs log (.Authenticate authorization requestId)
      (authenticate deployment world authorization requestId))
    (hpolicies : ∀ user model policies, AnswersAs log (.EvaluatePolicy user model policies)
      (raising (PolicyEngine.evaluate python user model policies))) :
    UserGated deployment world http.authorization log := by
  intro hcalls
  rcases (createMessage_run h).split with ⟨body, idLog, tail, requestId, startedAt, authenticated,
    result, -, hid, rfl, -, hpipeline⟩ | ⟨error, -, rfl⟩ |
    ⟨body, idLog, record, requestId, startedAt, error, -, hid, rfl, hrecord, -⟩
  rotate_left
  · exact absurd rfl hcalls
  · rw [bedrockCalls_append, bedrockCalls_eq_nil hid.quiet.1] at hcalls
    exact absurd (@bedrockCalls_eq_nil record hrecord) hcalls
  rw [bedrockCalls_append, bedrockCalls_eq_nil hid.quiet.1] at hcalls
  have hcontext := hauth _ _ _ (List.mem_append_right idLog (.tail _ (.head _)))
  refine ⟨authenticated.userRecord, presentedUser_of_authenticate hcontext.symm, ?_⟩
  refine hpipeline.eligible (fun user model policies reply hmem => ?_) hcalls
  exact hpolicies user model policies reply
    (List.mem_append_right idLog (.tail _ (.tail _ hmem)))

-- A count of tokens gets to Bedrock as soon as the key, the model and the body are good.
theorem CountPipelineRun.calls_iff {body : Value} {requestId : String} {tail : Log}
    {result : Except Failure Value} (h : CountPipelineRun http body requestId tail result)
    (resolve : Value → Except Failure ResolvedModel)
    (build : Value → ResolvedModel → Except Failure ConverseRequest)
    (hauth : ∀ authorization requestId, AnswersAs tail (.Authenticate authorization requestId)
      (authenticate deployment world authorization requestId))
    (hresolve : ∀ model, AnswersAs tail (.Resolve model) (resolve model))
    (hbuild : ∀ body resolvedModel, AnswersAs tail (.BuildConverseRequest body resolvedModel)
      (build body resolvedModel)) :
    bedrockCalls tail ≠ [] ↔
      (∃ context, authenticate deployment world http.authorization requestId = .ok context) ∧
      ∃ model resolvedModel converseRequest, body.item "model" = .ok model ∧
        resolve model = .ok resolvedModel ∧ build body resolvedModel = .ok converseRequest := by
  cases h with
  | AuthenticateRaised error =>
      have hcontext := hauth _ _ _ (.head _)
      simp [bedrockCalls, isBedrockCall, ← hcontext]
  | NoModel authenticated error hmodel =>
      obtain ⟨exception, hitem, -⟩ := raising_eq_error hmodel
      simp [bedrockCalls, isBedrockCall, hitem]
  | ResolveRaised authenticated model error hmodel =>
      have hitem := raising_eq_ok hmodel
      have hresolved := hresolve _ _ (.tail _ (.head _))
      simp [bedrockCalls, isBedrockCall, hitem, ← hresolved]
  | BuildRaised authenticated model resolvedModel error hmodel =>
      have hitem := raising_eq_ok hmodel
      have hresolved := hresolve _ _ (.tail _ (.head _))
      have hbuilt := hbuild _ _ _ (.tail _ (.tail _ (.head _)))
      refine iff_of_false (fun hcalls => hcalls rfl) ?_
      rintro ⟨-, model', resolvedModel', converseRequest, hitem', hresolved', hbuilt'⟩
      rw [hitem] at hitem'
      cases hitem'
      rw [← hresolved] at hresolved'
      cases hresolved'
      rw [← hbuilt] at hbuilt'
      cases hbuilt'
  | Called authenticated model resolvedModel converseRequest reply hmodel =>
      have hcontext := hauth _ _ _ (.head _)
      have hresolved := hresolve _ _ (.tail _ (.head _))
      have hbuilt := hbuild _ _ _ (.tail _ (.tail _ (.head _)))
      refine iff_of_true (List.cons_ne_nil _ _) ⟨⟨authenticated, hcontext.symm⟩, model,
        resolvedModel, converseRequest, raising_eq_ok hmodel, hresolved.symm, hbuilt.symm⟩

theorem CountRun.calls_iff (h : CountRun python http log outcome)
    (resolve : Value → Except Failure ResolvedModel)
    (build : Value → ResolvedModel → Except Failure ConverseRequest)
    (hauth : ∀ authorization requestId, AnswersAs log (.Authenticate authorization requestId)
      (authenticate deployment world authorization requestId))
    (hresolve : ∀ model, AnswersAs log (.Resolve model) (resolve model))
    (hbuild : ∀ body resolvedModel, AnswersAs log (.BuildConverseRequest body resolvedModel)
      (build body resolvedModel)) :
    bedrockCalls log ≠ [] ↔
      (∃ user, AcceptedUser deployment world http.authorization user) ∧
      ∃ body model resolvedModel converseRequest, http.json = .ok body ∧
        body.item "model" = .ok model ∧ resolve model = .ok resolvedModel ∧
        build body resolvedModel = .ok converseRequest := by
  rcases h.split with ⟨error, hbody, rfl⟩ | ⟨body, idLog, tail, requestId, result, hbody, hid, rfl,
    hpipeline⟩
  · simp [hbody]
  have hcalls := hpipeline.calls_iff resolve build (fun _ _ => (hauth _ _).append)
    (fun _ => (hresolve _).append) (fun _ _ => (hbuild _ _).append)
  rw [bedrockCalls_append, bedrockCalls_eq_nil hid.quiet.1, List.nil_append, hcalls]
  refine and_congr ⟨?_, ?_⟩ ⟨?_, ?_⟩
  · rintro ⟨context, hcontext⟩
    obtain ⟨record, user, hrecord, hactive, huser, -⟩ := (authenticate_ok_iff _ _ _ _ _).mp hcontext
    exact ⟨user, record, hrecord, hactive, huser⟩
  · rintro ⟨user, record, hrecord, hactive, huser⟩
    exact ⟨_, (authenticate_ok_iff _ _ _ _ _).mpr ⟨record, user, hrecord, hactive, huser, rfl⟩⟩
  · rintro ⟨model, resolvedModel, converseRequest, hmodel⟩
    exact ⟨body, model, resolvedModel, converseRequest, hbody, hmodel⟩
  · rintro ⟨body', model, resolvedModel, converseRequest, hbody', hmodel⟩
    rw [hbody] at hbody'
    cases hbody'
    exact ⟨model, resolvedModel, converseRequest, hmodel⟩

theorem countTokens_userGated_iff (h : (countTokens python http).Traces log outcome)
    (resolve : Value → Except Failure ResolvedModel)
    (build : Value → ResolvedModel → Except Failure ConverseRequest)
    (hauth : ∀ authorization requestId, AnswersAs log (.Authenticate authorization requestId)
      (authenticate deployment world authorization requestId))
    (hresolve : ∀ model, AnswersAs log (.Resolve model) (resolve model))
    (hbuild : ∀ body resolvedModel, AnswersAs log (.BuildConverseRequest body resolvedModel)
      (build body resolvedModel)) :
    UserGated deployment world http.authorization log ↔
      ¬CountedForBlockedUser deployment world http resolve build := by
  have hcalls := (countTokens_run h).calls_iff resolve build hauth hresolve hbuild
  constructor
  · rintro hgated ⟨⟨user, haccepted, hblocked⟩, hbuilt⟩
    obtain ⟨owner, howner, hisActive, henabled⟩ := hgated (hcalls.mpr ⟨⟨user, haccepted⟩, hbuilt⟩)
    rw [haccepted.presentedUser] at howner
    cases howner
    simp [hisActive, henabled] at hblocked
  · intro hcounted hreached
    obtain ⟨⟨user, haccepted⟩, hbuilt⟩ := hcalls.mp hreached
    refine ⟨user, haccepted.presentedUser, ?_⟩
    rw [← Bool.and_eq_true]
    by_contra hblocked
    exact hcounted ⟨⟨user, haccepted, Bool.eq_false_iff.mpr hblocked⟩, hbuilt⟩

-- The gate holds on the whole surface except for counts of tokens.
theorem userGated_iff (python : Interpreter) (audited : Bool) (deployment : Deployment)
    (world : World) (endpoint : Endpoint) (http : HttpRequest) (log : Log)
    (outcome : Except Failure MessageResponse) (resolve : Value → Except Failure ResolvedModel)
    (build : Value → ResolvedModel → Except Failure ConverseRequest)
    (h : (endpoint.handle python audited http).Traces log outcome)
    (hauth : ∀ authorization requestId, AnswersAs log (.Authenticate authorization requestId)
      (authenticate deployment world authorization requestId))
    (hpolicies : ∀ user model policies, AnswersAs log (.EvaluatePolicy user model policies)
      (raising (PolicyEngine.evaluate python user model policies)))
    (hresolve : ∀ model, AnswersAs log (.Resolve model) (resolve model))
    (hbuild : ∀ body resolvedModel, AnswersAs log (.BuildConverseRequest body resolvedModel)
      (build body resolvedModel)) :
    UserGated deployment world http.authorization log ↔
      endpoint = .CreateMessage ∨ ¬CountedForBlockedUser deployment world http resolve build := by
  cases endpoint with
  | CreateMessage => exact iff_of_true (createMessage_userGated h hauth hpolicies) (.inl rfl)
  | CountTokens =>
      rw [countTokens_userGated_iff h resolve build hauth hresolve hbuild]
      simp

section Samples

-- The user of the sample is deactivated after the key has been issued.
def sampleDeactivated : World :=
  runActions sampleDeployment sampleIssued [.Invoke (sampleProvision false) sampleSecond]

def deactivatedEnvironment : Environment :=
  sampleComponents.environment sampleDeactivated sampleProvider

theorem userGated_iff_sample :
    let gate := fun endpoint : Endpoint =>
      UserGated sampleDeployment sampleDeactivated (some "Bearer vk_first")
          (deactivatedEnvironment.run (endpoint.handle samplePython true (sampleHttp false))).1 ↔
        endpoint = .CreateMessage ∨ ¬CountedForBlockedUser sampleDeployment sampleDeactivated
          (sampleHttp false) (sampleComponents.resolver.resolve samplePython)
          (buildConverseRequest samplePython)
    gate .CreateMessage ∧ gate .CountTokens := by
  intro gate
  have hgate : ∀ endpoint, gate endpoint := by
    intro endpoint
    have hask := deactivatedEnvironment.answersAs
      (endpoint.handle samplePython true (sampleHttp false))
    exact userGated_iff samplePython true sampleDeployment sampleDeactivated endpoint
      (sampleHttp false) _ _ (sampleComponents.resolver.resolve samplePython)
      (buildConverseRequest samplePython) (deactivatedEnvironment.traces_run _)
      (fun authorization requestId => hask (.Authenticate authorization requestId))
      (fun user model policies => hask (.EvaluatePolicy user model policies))
      (fun model => hask (.Resolve model))
      (fun body resolvedModel => hask (.BuildConverseRequest body resolvedModel))
  exact ⟨hgate .CreateMessage, hgate .CountTokens⟩

-- A count of tokens for a deactivated user reaches the provider.
theorem deactivated_user_counts_tokens :
    let run := deactivatedEnvironment.run
      (Endpoint.CountTokens.handle samplePython true (sampleHttp false))
    (Endpoint.CountTokens.handle samplePython true (sampleHttp false)).Traces run.1 run.2 ∧
      (∀ authorization requestId, AnswersAs run.1 (.Authenticate authorization requestId)
        (authenticate sampleDeployment sampleDeactivated authorization requestId)) ∧
      (∀ user model policies, AnswersAs run.1 (.EvaluatePolicy user model policies)
        (raising (PolicyEngine.evaluate samplePython user model policies))) ∧
      ¬UserGated sampleDeployment sampleDeactivated (some "Bearer vk_first") run.1 := by
  have hask := deactivatedEnvironment.answersAs
    (Endpoint.CountTokens.handle samplePython true (sampleHttp false))
  refine ⟨deactivatedEnvironment.traces_run _,
    fun authorization requestId => hask (.Authenticate authorization requestId),
    fun user model policies => hask (.EvaluatePolicy user model policies), ?_⟩
  intro hgated
  have hcalls : (bedrockCalls (deactivatedEnvironment.run
      (Endpoint.CountTokens.handle samplePython true (sampleHttp false))).1).isEmpty = false := by
    decide
  have hinactive : (presentedUser sampleDeployment sampleDeactivated
      (some "Bearer vk_first")).all (fun user => !user.isActive) = true := by decide
  obtain ⟨user, huser, hactive, -⟩ := hgated (List.isEmpty_eq_false_iff.mp hcalls)
  rw [huser, Option.all_some, hactive] at hinactive
  cases hinactive

end Samples

end ClaudeCodeProxy
