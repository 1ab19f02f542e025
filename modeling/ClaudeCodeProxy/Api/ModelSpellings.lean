import ClaudeCodeProxy.Api.Components
import ClaudeCodeProxy.Lists.Forall2
import ClaudeCodeProxy.Proxy.Lemmas
import ClaudeCodeProxy.Proxy.PolicyDecisions

-- Two requests that name one model differently.

namespace ClaudeCodeProxy

open Access Effects Python

section Router

variable {python : Interpreter} {audited : Bool} {log : Log}
  {outcome : Except Failure MessageResponse}

-- The calls that a request makes to the policy engine, by the model that each is about.
def evaluatedModel? : Answer runtime → Option Value
  | ⟨.Ask (.EvaluatePolicy _ model _), _⟩ => some model
  | _ => none

def evaluatedModels (log : Log) : List Value := log.filterMap evaluatedModel?

theorem evaluatedModel?_of_not_stage (answer : Answer runtime) (h : isStage answer.1 = false) :
    evaluatedModel? answer = none := by
  rcases answer with ⟨op, reply⟩
  cases op with
  | Ask dependency =>
      cases dependency with
      | EvaluatePolicy user model policies => cases h
      | _ => rfl
  | _ => rfl

@[simp] theorem evaluatedModels_append (first second : Log) :
    evaluatedModels (first ++ second) = evaluatedModels first ++ evaluatedModels second :=
  List.filterMap_append

theorem evaluatedModels_eq_nil {log : Log} (h : stages log = []) : evaluatedModels log = [] := by
  refine List.filterMap_eq_nil_iff.mpr fun answer hmem => evaluatedModel?_of_not_stage answer ?_
  rw [← Bool.not_eq_true]
  exact List.filter_eq_nil_iff.mp h answer hmem

theorem InvocationRun.evaluatedModels {admission : Admission}
    (h : InvocationRun python audited admission log outcome) : evaluatedModels log = [] := by
  cases h with
  | Lost converseRequest rawResponse parsedResponse usage record error hstream haudited husage
      hrecord => exact @evaluatedModels_eq_nil record (recordAdmitted_stages hrecord).1
  | Recorded converseRequest rawResponse parsedResponse usage record hstream haudited husage
      hrecord => exact @evaluatedModels_eq_nil record (recordAdmitted_stages hrecord).1
  | _ => rfl

-- The policy engine is asked about the client's spelling, not about what it resolves to.
theorem PipelineRun.evaluatedModels {body : Value} {requestId : String} {startedAt : Rat}
    {authenticated : AuthenticatedRequestContext} {model : Value}
    (h : PipelineRun python audited body requestId startedAt authenticated log outcome)
    (hmem : model ∈ evaluatedModels log) : body.item "model" = .ok model := by
  have hasked : ∀ {asked : Value}, raising (body.item "model") = .ok asked → model ∈ [asked] →
      body.item "model" = .ok model := by
    intro asked hasked hsame
    rw [List.mem_singleton.mp hsame]
    exact raising_eq_ok hasked
  cases h with
  | NoModel error hmodel => cases hmem
  | ResolveRaised asked error hmodel => cases hmem
  | PolicyRaised asked resolvedModel error hmodel => exact hasked hmodel hmem
  | PolicyDenied asked resolvedModel decision record outcome hmodel hdenied hrecord =>
      have hnone := evaluatedModels_eq_nil hrecord.stages.1
      exact hasked hmodel (hnone ▸ hmem)
  | QuotaDenied asked resolvedModel decision quotaDecision record outcome hmodel hpolicy hdenied
      hrecord =>
      have hnone := evaluatedModels_eq_nil hrecord.stages.1
      exact hasked hmodel (hnone ▸ hmem)
  | RateDenied asked resolvedModel decision quotaDecision user rateLimitDecision record outcome
      hmodel hpolicy hquota huser hdenied hrecord =>
      have hnone := evaluatedModels_eq_nil hrecord.stages.1
      exact hasked hmodel (hnone ▸ hmem)
  | Admitted admission user rateLimitDecision tail outcome hbody hid hstart hauthenticated hmodel
      hpolicy hquota huser hrate hinvocation =>
      exact hasked hmodel (hinvocation.evaluatedModels ▸ hmem)
  | QuotaRaised asked resolvedModel decision error hmodel hpolicy => exact hasked hmodel hmem
  | NoUser asked resolvedModel decision quotaDecision error hmodel hpolicy hquota huser =>
      exact hasked hmodel hmem
  | RateRaised asked resolvedModel decision quotaDecision user error hmodel hpolicy hquota huser =>
      exact hasked hmodel hmem

theorem createMessage_evaluatedModels {http : HttpRequest} {model : Value}
    (h : (createMessage python audited http).Traces log outcome)
    (hmem : model ∈ evaluatedModels log) :
    ∃ body, http.json = .ok body ∧ body.item "model" = .ok model := by
  rcases (createMessage_run h).split with ⟨body, idLog, tail, requestId, startedAt, authenticated,
    result, hbody, hid, rfl, -, hpipeline⟩ | ⟨error, -, rfl⟩ |
    ⟨body, idLog, record, requestId, startedAt, error, -, hid, rfl, hrecord, -⟩
  · rw [evaluatedModels_append, evaluatedModels_eq_nil hid.quiet.1] at hmem
    exact ⟨body, hbody, hpipeline.evaluatedModels hmem⟩
  · cases hmem
  · rw [evaluatedModels_append, evaluatedModels_eq_nil hid.quiet.1, List.nil_append] at hmem
    have hrecorded : model ∈ evaluatedModels record := hmem
    rw [evaluatedModels_eq_nil hrecord] at hrecorded
    cases hrecorded

end Router

namespace PolicyEngine

-- What a decision says on access, or the exception in its place.
def verdict (python : Interpreter) (user : UserRecord) (policies : List PolicyRecord)
    (model : String) : Except Exception (Bool × Option String) :=
  (fun decision => (decision.allowed, decision.denialReason)) <$>
    evaluate python user (.Str model) policies

-- The names resolve to one logical model.
def OneModel (python : Interpreter) (resolver : ModelResolver) (first second : String) : Prop :=
  ∃ resolvedModel resolvedModel', resolver.resolve python (.Str first) = .ok resolvedModel ∧
    resolver.resolve python (.Str second) = .ok resolvedModel' ∧
    resolvedModel.logicalModel = resolvedModel'.logicalModel

-- Two names of one model are answered alike.
def SpellingsAgree (python : Interpreter) (resolver : ModelResolver) (user : UserRecord)
    (policies : List PolicyRecord) (first second : String) : Prop :=
  OneModel python resolver first second →
    verdict python user policies first = verdict python user policies second

-- Whether the patterns of the rules that apply tell the names apart where it matters.
structure MatchAlike (rules : Set PolicyRecord) (first second : String) : Prop where
  denied : (modelRules first).Denied rules ↔ (modelRules second).Denied rules
  granted : ¬(modelRules first).Denied rules → (modelRules first).Governed rules →
    ((modelRules first).Granted rules ↔ (modelRules second).Granted rules)

section Verdicts

variable {python : Interpreter} {user : UserRecord} {policies : List PolicyRecord}

theorem limitsParse_of_ok {limit : Option Int}
    (h : resolveEffectiveMaxOutputTokens python (collectPoliciesByScope user policies) =
      .ok limit) : LimitsParse python user policies := by
  obtain ⟨limits, hlimits, -⟩ := bind_eq_ok.mp h
  intro policy hm happlies htype
  have hcollected := (mem_collectPoliciesByScope user policies policy).mpr ⟨hm, happlies⟩
  have hfiltered : policy ∈ (collectPoliciesByScope user policies).filter
      fun policy => policy.ruleType == MAX_OUTPUT_TOKENS_RULE :=
    List.mem_filter.mpr ⟨hcollected, beq_iff_eq.mpr htype⟩
  obtain ⟨index, hindex⟩ := List.mem_iff_getElem?.mp hfiltered
  obtain ⟨limit, -, hlimit⟩ := Lists.forall₂_getElem? (mapM_eq_ok.mp hlimits) hindex
  exact ⟨limit, hlimit⟩

-- A user that is shut out, or a limit that is no number, is met before any model is looked at.
theorem verdict_of_shut (h : ¬(user.isActive = true ∧ user.proxyAccessEnabled = true ∧
      LimitsParse python user policies)) (first second : String) :
    verdict python user policies first = verdict python user policies second := by
  suffices hsame : evaluate python user (.Str first) policies =
      evaluate python user (.Str second) policies by rw [verdict, verdict, hsame]
  unfold evaluate
  cases hactive : user.isActive with
  | false => rfl
  | true =>
      cases henabled : user.proxyAccessEnabled with
      | false => rfl
      | true =>
          cases hlimits : resolveEffectiveMaxOutputTokens python
              (collectPoliciesByScope user policies) with
          | error exception => simp only [hlimits]; rfl
          | ok limit => exact absurd ⟨hactive, henabled, limitsParse_of_ok hlimits⟩ h

theorem verdict_eq {model : String} {decision : PolicyDecision}
    (h : evaluate python user (.Str model) policies = .ok decision) :
    verdict python user policies model = .ok (decision.allowed, decision.denialReason) := by
  rw [verdict, h]
  rfl

theorem Decides.denied_iff {model : String} {rules : Set PolicyRecord} {decision : PolicyDecision}
    (h : Decides python model rules decision) :
    decision.denialReason = some DENIAL_MODEL_DENIED ↔ (modelRules model).Denied rules := by
  constructor
  · intro hreason
    by_contra hdenied
    by_cases hadmits : (modelRules model).Admits rules
    · rw [(h.admitted hadmits).2] at hreason
      cases hreason
    · rw [(h.refused hdenied hadmits).2] at hreason
      exact absurd (Option.some.inj hreason) (by decide)
  · exact fun hdenied => (h.denied hdenied).2

theorem admits_iff_of_matchAlike {rules : Set PolicyRecord} {first second : String}
    (h : MatchAlike rules first second) :
    (modelRules first).Admits rules ↔ (modelRules second).Admits rules := by
  have hgoverned : (modelRules first).Governed rules ↔ (modelRules second).Governed rules := Iff.rfl
  have hdenied := h.denied
  have hgranted := h.granted
  unfold Rules.Admits
  tauto

-- The verdict tells a denial, a refusal and an admission apart.
theorem verdict_eq_iff {first second : String} (hactive : user.isActive = true)
    (henabled : user.proxyAccessEnabled = true) (hlimits : LimitsParse python user policies) :
    verdict python user policies first = verdict python user policies second ↔
      MatchAlike (applicable user policies) first second := by
  obtain ⟨decision, hdecision, hdecides⟩ :=
    evaluate_decides python user first policies hactive henabled hlimits
  obtain ⟨decision', hdecision', hdecides'⟩ :=
    evaluate_decides python user second policies hactive henabled hlimits
  rw [verdict_eq hdecision, verdict_eq hdecision', Except.ok.injEq, Prod.mk.injEq]
  constructor
  · rintro ⟨hallowed, hreason⟩
    have hadmits : (modelRules first).Admits (applicable user policies) ↔
        (modelRules second).Admits (applicable user policies) := by
      rw [← hdecides.allowed_iff, ← hdecides'.allowed_iff, hallowed]
    have hdenied : (modelRules first).Denied (applicable user policies) ↔
        (modelRules second).Denied (applicable user policies) := by
      rw [← hdecides.denied_iff, ← hdecides'.denied_iff, hreason]
    refine ⟨hdenied, fun hopen hgoverned => ?_⟩
    have hgoverned' : (modelRules second).Governed (applicable user policies) := hgoverned
    unfold Rules.Admits at hadmits
    tauto
  · intro h
    by_cases hdenied : (modelRules first).Denied (applicable user policies)
    · obtain ⟨hallowed, hreason⟩ := hdecides.denied hdenied
      obtain ⟨hallowed', hreason'⟩ := hdecides'.denied (h.denied.mp hdenied)
      exact ⟨hallowed.trans hallowed'.symm, hreason.trans hreason'.symm⟩
    · by_cases hadmits : (modelRules first).Admits (applicable user policies)
      · obtain ⟨hallowed, hreason⟩ := hdecides.admitted hadmits
        obtain ⟨hallowed', hreason'⟩ :=
          hdecides'.admitted ((admits_iff_of_matchAlike h).mp hadmits)
        exact ⟨hallowed.trans hallowed'.symm, hreason.trans hreason'.symm⟩
      · obtain ⟨hallowed, hreason⟩ := hdecides.refused hdenied hadmits
        obtain ⟨hallowed', hreason'⟩ := hdecides'.refused (hdenied ∘ h.denied.mpr)
          (hadmits ∘ (admits_iff_of_matchAlike h).mpr)
        exact ⟨hallowed.trans hallowed'.symm, hreason.trans hreason'.symm⟩

end Verdicts

-- The names of one model are answered alike exactly where the rules' patterns, which are
-- matched against the names themselves, do not tell them apart.
theorem spellingsAgree_iff (python : Interpreter) (resolver : ModelResolver) (user : UserRecord)
    (policies : List PolicyRecord) (first second : String) :
    SpellingsAgree python resolver user policies first second ↔
      (OneModel python resolver first second → user.isActive = true →
        user.proxyAccessEnabled = true → LimitsParse python user policies →
          MatchAlike (applicable user policies) first second) := by
  constructor
  · intro h hsame hactive henabled hlimits
    exact (verdict_eq_iff hactive henabled hlimits).mp (h hsame)
  · intro h hsame
    by_cases hopen : user.isActive = true ∧ user.proxyAccessEnabled = true ∧
        LimitsParse python user policies
    · obtain ⟨hactive, henabled, hlimits⟩ := hopen
      exact (verdict_eq_iff hactive henabled hlimits).mpr (h hsame hactive henabled hlimits)
    · exact verdict_of_shut hopen first second

def sampleDeny : PolicyRecord where
  id := "policy-1"
  scopeType := "global"
  scopeId := ""
  ruleType := MODEL_DENY_RULE
  ruleValue := "claude-sonnet-4"

def sampleAllow : PolicyRecord where
  id := "policy-2"
  scopeType := "global"
  scopeId := ""
  ruleType := MODEL_ALLOW_RULE
  ruleValue := "claude-*"

-- The denial names one spelling of the model; another one is let through to the same target.
theorem spelling_evades_denial :
    verdict samplePython sampleUser [sampleDeny, sampleAllow] "claude-sonnet-4" =
      .ok (false, some DENIAL_MODEL_DENIED) ∧
    verdict samplePython sampleUser [sampleDeny, sampleAllow] "claude-sonnet-latest" =
      .ok (true, none) ∧
    ¬SpellingsAgree samplePython sampleComponents.resolver sampleUser [sampleDeny, sampleAllow]
      "claude-sonnet-4" "claude-sonnet-latest" := by
  have hdenied : verdict samplePython sampleUser [sampleDeny, sampleAllow] "claude-sonnet-4" =
      .ok (false, some DENIAL_MODEL_DENIED) := by decide
  have hallowed : verdict samplePython sampleUser [sampleDeny, sampleAllow]
      "claude-sonnet-latest" = .ok (true, none) := by decide
  refine ⟨hdenied, hallowed, fun h => ?_⟩
  have hsame := h ⟨ModelResolver.resolvedBy (.Str "claude-sonnet-4") "sonnet" sampleRoute,
    ModelResolver.resolvedBy (.Str "claude-sonnet-latest") "sonnet" sampleRoute, by decide,
    by decide, rfl⟩
  rw [hdenied, hallowed] at hsame
  cases hsame

end PolicyEngine

end ClaudeCodeProxy
