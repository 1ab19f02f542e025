import ClaudeCodeProxy.Models.Domain
import ClaudeCodeProxy.Models.Errors
import ClaudeCodeProxy.Text.Glob

namespace ClaudeCodeProxy

open Python

def MODEL_ALLOW_RULE : String := "allow_model"
def MODEL_DENY_RULE : String := "deny_model"
def MAX_OUTPUT_TOKENS_RULE : String := "max_output_tokens"

def DENIAL_USER_INACTIVE : String := "user_inactive"
def DENIAL_PROXY_ACCESS_DISABLED : String := "proxy_access_disabled"
def DENIAL_MODEL_DENIED : String := "model_denied"
def DENIAL_MODEL_NOT_ALLOWED : String := "model_not_allowed"

structure PolicyEvaluationTrace where
  evaluatedScopes : List String := []
  matchedPolicyIds : List String := []
  deriving DecidableEq

structure PolicyDecision where
  allowed : Bool
  denialReason : Option String := none
  effectiveMaxOutputTokens : Option Int := none
  trace : PolicyEvaluationTrace := {}
  deriving DecidableEq

-- `fnmatchcase(name, pattern)`, which takes only texts.
def fnmatchcase (name : Value) (pattern : String) : Except Exception Bool :=
  match name with
  | .Str s => .ok (Text.fnmatchcase s pattern)
  | _ => .error .TypeError

namespace PolicyEngine

-- The scopes of a user with the policies of each, from the most specific on.
def scopes (user : UserRecord) : List (String × String) :=
  [("user", user.id)] ++ user.groups.map (fun group => ("group", group)) ++
    user.department.toList.map fun department => ("department", department)

def collectPoliciesByScope (user : UserRecord) (policies : List PolicyRecord) :
    List PolicyRecord :=
  (scopes user).flatMap (fun scope => policies.filter fun policy =>
    policy.isActive && policy.scopeType == scope.1 && policy.scopeId == scope.2) ++
  policies.filter fun policy => policy.isActive && policy.scopeType == "global"

def traceScopes (user : UserRecord) : List String :=
  ["user_status"] ++ (scopes user).map (fun scope => scope.1 ++ ":" ++ scope.2) ++ ["global"]

def resolveEffectiveMaxOutputTokens (python : Interpreter) (policies : List PolicyRecord) :
    Except Exception (Option Int) := do
  let tokenLimits ← (policies.filter fun policy =>
    policy.ruleType == MAX_OUTPUT_TOKENS_RULE).mapM fun policy =>
      (Value.Str policy.ruleValue).toInt python
  return tokenLimits.min?

def ruleMatchesModel (policy : PolicyRecord) (model : Value) : Except Exception Bool :=
  fnmatchcase model policy.ruleValue

-- `any(policy.rule_type == rule_type and self._rule_matches_model(policy, model) ...)`
def anyMatching (ruleType : String) (model : Value) : List PolicyRecord → Except Exception Bool
  | [] => .ok false
  | policy :: policies => do
      if policy.ruleType == ruleType then
        if ← ruleMatchesModel policy model then
          return true
      anyMatching ruleType model policies

def userStatusDenial (denialReason : String) : PolicyDecision where
  allowed := false
  denialReason := some denialReason
  trace := { evaluatedScopes := ["user_status"] }

def evaluate (python : Interpreter) (user : UserRecord) (model : Value)
    (policies : List PolicyRecord) : Except Exception PolicyDecision := do
  if !user.isActive then
    return userStatusDenial DENIAL_USER_INACTIVE
  if !user.proxyAccessEnabled then
    return userStatusDenial DENIAL_PROXY_ACCESS_DISABLED
  let orderedPolicies := collectPoliciesByScope user policies
  let maxOutputTokens ← resolveEffectiveMaxOutputTokens python orderedPolicies
  let trace : PolicyEvaluationTrace := {
    evaluatedScopes := traceScopes user
    matchedPolicyIds := orderedPolicies.map PolicyRecord.id }
  if ← anyMatching MODEL_DENY_RULE model orderedPolicies then
    return {
      allowed := false
      denialReason := some DENIAL_MODEL_DENIED
      effectiveMaxOutputTokens := maxOutputTokens
      trace := trace }
  let hasAccessRules := orderedPolicies.any fun policy =>
    policy.ruleType == MODEL_ALLOW_RULE || policy.ruleType == MODEL_DENY_RULE
  let hasMatchingAllow ← anyMatching MODEL_ALLOW_RULE model orderedPolicies
  if hasAccessRules && !hasMatchingAllow then
    return {
      allowed := false
      denialReason := some DENIAL_MODEL_NOT_ALLOWED
      effectiveMaxOutputTokens := maxOutputTokens
      trace := trace }
  return {
    allowed := true
    effectiveMaxOutputTokens := maxOutputTokens
    trace := trace }

-- The gate of the user comes before any policy.
theorem evaluate_of_inactive (python : Interpreter) (user : UserRecord) (model : Value)
    (policies : List PolicyRecord)
    (huser : (user.isActive && user.proxyAccessEnabled) = false) :
    ∃ decision, evaluate python user model policies = .ok decision ∧ decision.allowed = false := by
  cases hactive : user.isActive with
  | false => exact ⟨userStatusDenial DENIAL_USER_INACTIVE, by simp [evaluate, hactive], rfl⟩
  | true =>
      have henabled : user.proxyAccessEnabled = false := by simpa [hactive] using huser
      exact ⟨userStatusDenial DENIAL_PROXY_ACCESS_DISABLED,
        by simp [evaluate, hactive, henabled], rfl⟩

theorem eligible_of_allowed {python : Interpreter} {user : UserRecord} {model : Value}
    {policies : List PolicyRecord} {decision : PolicyDecision}
    (h : evaluate python user model policies = .ok decision) (hallowed : decision.allowed = true) :
    user.isActive = true ∧ user.proxyAccessEnabled = true := by
  rw [← Bool.and_eq_true]
  by_contra huser
  obtain ⟨denial, hdenial, hdenied⟩ :=
    evaluate_of_inactive python user model policies (Bool.eq_false_iff.mpr huser)
  rw [h] at hdenial
  cases hdenial
  rw [hallowed] at hdenied
  cases hdenied

-- Without policies the gate of the user is all there is, whatever the model is called.
theorem evaluate_nil (python : Interpreter) (user : UserRecord) :
    ∃ decision, (∀ model, evaluate python user model [] = .ok decision) ∧
      decision.allowed = (user.isActive && user.proxyAccessEnabled) := by
  cases hactive : user.isActive with
  | false =>
      exact ⟨userStatusDenial DENIAL_USER_INACTIVE,
        fun model => by simp [evaluate, hactive], rfl⟩
  | true =>
      cases henabled : user.proxyAccessEnabled with
      | false =>
          exact ⟨userStatusDenial DENIAL_PROXY_ACCESS_DISABLED,
            fun model => by simp [evaluate, hactive, henabled], rfl⟩
      | true =>
          have hnone : collectPoliciesByScope user [] = [] := by simp [collectPoliciesByScope]
          refine ⟨{ allowed := true, trace := { evaluatedScopes := traceScopes user } },
            fun model => ?_, rfl⟩
          simp [evaluate, hactive, henabled, hnone, anyMatching, resolveEffectiveMaxOutputTokens]
          rfl

end PolicyEngine

end ClaudeCodeProxy
