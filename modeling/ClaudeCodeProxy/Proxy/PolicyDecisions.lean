import ClaudeCodeProxy.Access.Rules
import ClaudeCodeProxy.Proxy.PolicyEngine
import Mathlib.Tactic.SplitIfs

namespace ClaudeCodeProxy

open Access Python

namespace PolicyEngine

-- The policy is active, and its scope is one of the user's.
def Applies (user : UserRecord) (policy : PolicyRecord) : Prop :=
  policy.isActive = true ∧
    ((policy.scopeType = "user" ∧ policy.scopeId = user.id) ∨
      (policy.scopeType = "group" ∧ policy.scopeId ∈ user.groups) ∨
      (policy.scopeType = "department" ∧ user.department = some policy.scopeId) ∨
      policy.scopeType = "global")

instance (user : UserRecord) : DecidablePred (Applies user) := fun policy =>
  inferInstanceAs (Decidable (policy.isActive = true ∧ _))

theorem mem_collectPoliciesByScope (user : UserRecord) (policies : List PolicyRecord)
    (policy : PolicyRecord) :
    policy ∈ collectPoliciesByScope user policies ↔ policy ∈ policies ∧ Applies user policy := by
  simp only [collectPoliciesByScope, scopes, List.mem_append, List.mem_flatMap, List.mem_filter,
    List.mem_singleton, List.mem_map, Option.mem_toList, Bool.and_eq_true,
    beq_iff_eq, Applies]
  constructor
  · rintro (⟨scope, (rfl | ⟨group, hgroup, rfl⟩) | ⟨department, hdepartment, rfl⟩, hm,
        ⟨hactive, htype⟩, hid⟩ | ⟨hm, hactive, htype⟩)
    · exact ⟨hm, hactive, .inl ⟨htype, hid⟩⟩
    · exact ⟨hm, hactive, .inr (.inl ⟨htype, hid ▸ hgroup⟩)⟩
    · exact ⟨hm, hactive, .inr (.inr (.inl ⟨htype, hid ▸ hdepartment⟩))⟩
    · exact ⟨hm, hactive, .inr (.inr (.inr htype))⟩
  · rintro ⟨hm, hactive, ⟨htype, hid⟩ | ⟨htype, hgroup⟩ | ⟨htype, hdepartment⟩ | htype⟩
    · exact .inl ⟨_, .inl (.inl rfl), hm, ⟨hactive, htype⟩, hid⟩
    · exact .inl ⟨_, .inl (.inr ⟨_, hgroup, rfl⟩), hm, ⟨hactive, htype⟩, rfl⟩
    · exact .inl ⟨_, .inr ⟨_, hdepartment, rfl⟩, hm, ⟨hactive, htype⟩, rfl⟩
    · exact .inr ⟨hm, hactive, htype⟩

-- What the rules say about a model.
def modelRules (model : String) : Rules PolicyRecord where
  grants policy := policy.ruleType = MODEL_ALLOW_RULE
  denies policy := policy.ruleType = MODEL_DENY_RULE
  hits policy := Text.fnmatchcase model policy.ruleValue = true

def applicable (user : UserRecord) (policies : List PolicyRecord) : Set PolicyRecord :=
  {policy | policy ∈ policies ∧ Applies user policy}

-- The numbers of the rules on output tokens.
def tokenLimits (python : Interpreter) (rules : Set PolicyRecord) : Set Int :=
  {limit | ∃ policy ∈ rules, policy.ruleType = MAX_OUTPUT_TOKENS_RULE ∧
    (Value.Str policy.ruleValue).toInt python = .ok limit}

-- The rules on output tokens that apply have numbers for values.
def LimitsParse (python : Interpreter) (user : UserRecord) (policies : List PolicyRecord) : Prop :=
  ∀ policy ∈ policies, Applies user policy → policy.ruleType = MAX_OUTPUT_TOKENS_RULE →
    ∃ limit, (Value.Str policy.ruleValue).toInt python = .ok limit

-- A decision is the one that a set of rules makes about a model.
structure Decides (python : Interpreter) (model : String) (rules : Set PolicyRecord)
    (decision : PolicyDecision) : Prop where
  denied : (modelRules model).Denied rules →
    decision.allowed = false ∧ decision.denialReason = some DENIAL_MODEL_DENIED
  refused : ¬(modelRules model).Denied rules → ¬(modelRules model).Admits rules →
    decision.allowed = false ∧ decision.denialReason = some DENIAL_MODEL_NOT_ALLOWED
  admitted : (modelRules model).Admits rules →
    decision.allowed = true ∧ decision.denialReason = none
  limited : IsLimit (tokenLimits python rules) decision.effectiveMaxOutputTokens

-- Two decisions that differ at most in their traces.
structure SameOutcome (first second : PolicyDecision) : Prop where
  allowed : first.allowed = second.allowed
  denialReason : first.denialReason = second.denialReason
  effectiveMaxOutputTokens : first.effectiveMaxOutputTokens = second.effectiveMaxOutputTokens

-- Access is decided by what a set denies and what it admits.
theorem Decides.sameAccess {python : Interpreter} {model : String} {rules others : Set PolicyRecord}
    {first second : PolicyDecision} (h : Decides python model rules first)
    (h' : Decides python model others second)
    (hdenied : (modelRules model).Denied others ↔ (modelRules model).Denied rules)
    (hadmits : (modelRules model).Admits others ↔ (modelRules model).Admits rules) :
    second.allowed = first.allowed ∧ second.denialReason = first.denialReason := by
  by_cases hdeny : (modelRules model).Denied rules
  · obtain ⟨hallowed, hreason⟩ := h.denied hdeny
    obtain ⟨hallowed', hreason'⟩ := h'.denied (hdenied.mpr hdeny)
    exact ⟨hallowed'.trans hallowed.symm, hreason'.trans hreason.symm⟩
  · by_cases hgrant : (modelRules model).Admits rules
    · obtain ⟨hallowed, hreason⟩ := h.admitted hgrant
      obtain ⟨hallowed', hreason'⟩ := h'.admitted (hadmits.mpr hgrant)
      exact ⟨hallowed'.trans hallowed.symm, hreason'.trans hreason.symm⟩
    · obtain ⟨hallowed, hreason⟩ := h.refused hdeny hgrant
      obtain ⟨hallowed', hreason'⟩ := h'.refused (hdeny ∘ hdenied.mp) (hgrant ∘ hadmits.mp)
      exact ⟨hallowed'.trans hallowed.symm, hreason'.trans hreason.symm⟩

theorem Decides.sameOutcome {python : Interpreter} {model : String} {rules : Set PolicyRecord}
    {first second : PolicyDecision} (h : Decides python model rules first)
    (h' : Decides python model rules second) : SameOutcome first second := by
  obtain ⟨hallowed, hreason⟩ := h'.sameAccess h Iff.rfl Iff.rfl
  exact ⟨hallowed, hreason, h.limited.unique h'.limited⟩

theorem Decides.allowed_iff {python : Interpreter} {model : String} {rules : Set PolicyRecord}
    {decision : PolicyDecision} (h : Decides python model rules decision) :
    decision.allowed = true ↔ (modelRules model).Admits rules := by
  constructor
  · intro hallowed
    by_contra hadmits
    have hfalse : decision.allowed = false := by
      by_cases hdenied : (modelRules model).Denied rules
      · exact (h.denied hdenied).1
      · exact (h.refused hdenied hadmits).1
    rw [hallowed] at hfalse
    cases hfalse
  · exact fun hadmits => (h.admitted hadmits).1

theorem anyMatching_text (ruleType model : String) (policies : List PolicyRecord) :
    anyMatching ruleType (.Str model) policies = .ok (policies.any fun policy =>
      policy.ruleType == ruleType && Text.fnmatchcase model policy.ruleValue) := by
  induction policies with
  | nil => rfl
  | cons policy policies ih =>
      rw [anyMatching, ih, List.any_cons]
      by_cases htype : (policy.ruleType == ruleType) = true
      · cases hhits : Text.fnmatchcase model policy.ruleValue with
        | true => simp [htype, ruleMatchesModel, fnmatchcase, hhits, ok_bind, pure, Except.pure]
        | false => simp [htype, ruleMatchesModel, fnmatchcase, hhits, ok_bind]
      · simp [htype]

theorem isLimit_min? (values : List Int) : IsLimit {limit | limit ∈ values} values.min? := by
  cases hmin : values.min? with
  | none =>
      rw [List.min?_eq_none_iff] at hmin
      subst hmin
      simp [IsLimit]
  | some limit =>
      rw [List.min?_eq_some_iff] at hmin
      exact ⟨hmin.1, hmin.2⟩

theorem resolveEffectiveMaxOutputTokens_spec (python : Interpreter) (policies : List PolicyRecord)
    (hlimits : ∀ policy ∈ policies, policy.ruleType = MAX_OUTPUT_TOKENS_RULE →
      ∃ limit, (Value.Str policy.ruleValue).toInt python = .ok limit) :
    ∃ limit, resolveEffectiveMaxOutputTokens python policies = .ok limit ∧
      IsLimit (tokenLimits python {policy | policy ∈ policies}) limit := by
  have hparse : ∀ policy ∈ policies.filter (fun policy => policy.ruleType == MAX_OUTPUT_TOKENS_RULE),
      ∃ limit, (Value.Str policy.ruleValue).toInt python = .ok limit := by
    intro policy hm
    rw [List.mem_filter, beq_iff_eq] at hm
    exact hlimits policy hm.1 hm.2
  obtain ⟨limits, hvalues⟩ := mapM_ok_of_forall hparse
  refine ⟨limits.min?, ?_, ?_⟩
  · rw [resolveEffectiveMaxOutputTokens, hvalues]
    rfl
  · have hset : tokenLimits python {policy | policy ∈ policies} = {limit | limit ∈ limits} := by
      ext limit
      rw [Set.mem_ofPred_eq, mem_of_mapM_ok hvalues]
      simp [tokenLimits, and_assoc]
    rw [hset]
    exact isLimit_min? limits

-- The engine looks for a rule in a list; the list has the rules that apply.
theorem any_matches_iff (user : UserRecord) (policies : List PolicyRecord)
    (ruleType model : String) :
    ((collectPoliciesByScope user policies).any fun policy =>
        policy.ruleType == ruleType && Text.fnmatchcase model policy.ruleValue) = true ↔
      ∃ policy ∈ applicable user policies, policy.ruleType = ruleType ∧
        Text.fnmatchcase model policy.ruleValue = true := by
  simp only [List.any_eq_true, Bool.and_eq_true, beq_iff_eq, mem_collectPoliciesByScope]
  rfl

theorem any_governs_iff (user : UserRecord) (policies : List PolicyRecord) (model : String) :
    ((collectPoliciesByScope user policies).any fun policy =>
        policy.ruleType == MODEL_ALLOW_RULE || policy.ruleType == MODEL_DENY_RULE) = true ↔
      (modelRules model).Governed (applicable user policies) := by
  simp only [List.any_eq_true, Bool.or_eq_true, beq_iff_eq, mem_collectPoliciesByScope]
  rfl

-- The engine decides by the set of the rules that apply, and by nothing else.
theorem evaluate_decides (python : Interpreter) (user : UserRecord) (model : String)
    (policies : List PolicyRecord) (hactive : user.isActive = true)
    (henabled : user.proxyAccessEnabled = true) (hlimits : LimitsParse python user policies) :
    ∃ decision, evaluate python user (.Str model) policies = .ok decision ∧
      Decides python model (applicable user policies) decision := by
  have hmem := mem_collectPoliciesByScope user policies
  have hset : {policy | policy ∈ collectPoliciesByScope user policies} =
      applicable user policies := Set.ext hmem
  obtain ⟨limit, hresolve, hlimit⟩ := resolveEffectiveMaxOutputTokens_spec python
    (collectPoliciesByScope user policies) fun policy hm htype =>
      hlimits policy ((hmem policy).mp hm).1 ((hmem policy).mp hm).2 htype
  rw [hset] at hlimit
  have hdenied := any_matches_iff user policies MODEL_DENY_RULE model
  have hgranted := any_matches_iff user policies MODEL_ALLOW_RULE model
  have hgoverned := any_governs_iff user policies model
  change _ ↔ (modelRules model).Denied (applicable user policies) at hdenied
  change _ ↔ (modelRules model).Granted (applicable user policies) at hgranted
  have hclosed : (((collectPoliciesByScope user policies).any fun policy =>
      policy.ruleType == MODEL_ALLOW_RULE || policy.ruleType == MODEL_DENY_RULE) &&
        !(collectPoliciesByScope user policies).any fun policy =>
          policy.ruleType == MODEL_ALLOW_RULE && Text.fnmatchcase model policy.ruleValue) = true ↔
        ¬((modelRules model).Governed (applicable user policies) →
          (modelRules model).Granted (applicable user policies)) := by
    rw [Bool.and_eq_true, hgoverned, Bool.not_eq_true', ← Bool.not_eq_true, hgranted,
      Classical.not_imp]
  simp only [evaluate, hactive, henabled, Bool.not_true, Bool.false_eq_true, ite_false,
    anyMatching_text, hresolve, ok_bind]
  by_cases hdeny : (modelRules model).Denied (applicable user policies)
  · rw [if_pos (hdenied.mpr hdeny)]
    refine ⟨_, rfl, fun _ => ⟨rfl, rfl⟩, fun hnot => absurd hdeny hnot, ?_, hlimit⟩
    exact fun hadmits => absurd hdeny hadmits.1
  · rw [if_neg (hdeny ∘ hdenied.mp)]
    by_cases hopen : (modelRules model).Governed (applicable user policies) →
        (modelRules model).Granted (applicable user policies)
    · rw [if_neg fun hclose => hclosed.mp hclose hopen]
      refine ⟨_, rfl, fun hnot => absurd hnot hdeny, ?_, fun _ => ⟨rfl, rfl⟩, hlimit⟩
      exact fun _ hrefused => absurd ⟨hdeny, hopen⟩ hrefused
    · rw [if_pos (hclosed.mpr hopen)]
      refine ⟨_, rfl, fun hnot => absurd hnot hdeny, fun _ _ => ⟨rfl, rfl⟩, ?_, hlimit⟩
      exact fun hadmits => absurd hadmits.2 hopen

end PolicyEngine

end ClaudeCodeProxy
