import ClaudeCodeProxy.Proxy.PolicyDecisions

-- What a change of the policies, or of the attributes of a user, does to the decision.

namespace ClaudeCodeProxy

open Access Python

namespace PolicyEngine

section Sets

variable (python : Interpreter) (user : UserRecord) (before after : List PolicyRecord)
  (policy : PolicyRecord)

theorem applicable_insert (happlies : Applies user policy) :
    applicable user (before ++ policy :: after) =
      insert policy (applicable user (before ++ after)) := by
  ext other
  simp only [applicable, Set.mem_ofPred_eq, Set.mem_insert_iff, List.mem_append, List.mem_cons]
  constructor
  · rintro ⟨hm | rfl | hm, hother⟩
    · exact .inr ⟨.inl hm, hother⟩
    · exact .inl rfl
    · exact .inr ⟨.inr hm, hother⟩
  · rintro (rfl | ⟨hm | hm, hother⟩)
    · exact ⟨.inr (.inl rfl), happlies⟩
    · exact ⟨.inl hm, hother⟩
    · exact ⟨.inr (.inr hm), hother⟩

theorem applicable_insert_of_not (happlies : ¬Applies user policy) :
    applicable user (before ++ policy :: after) = applicable user (before ++ after) := by
  ext other
  simp only [applicable, Set.mem_ofPred_eq, List.mem_append, List.mem_cons]
  constructor
  · rintro ⟨hm | rfl | hm, hother⟩
    · exact ⟨.inl hm, hother⟩
    · exact absurd hother happlies
    · exact ⟨.inr hm, hother⟩
  · rintro ⟨hm | hm, hother⟩
    · exact ⟨.inl hm, hother⟩
    · exact ⟨.inr (.inr hm), hother⟩

variable {python user before after}

theorem LimitsParse.insert (h : LimitsParse python user (before ++ after))
    (hpolicy : policy.ruleType = MAX_OUTPUT_TOKENS_RULE →
      ∃ limit, (Value.Str policy.ruleValue).toInt python = .ok limit) :
    LimitsParse python user (before ++ policy :: after) := by
  intro other hm happlies htype
  rw [List.mem_append, List.mem_cons] at hm
  rcases hm with hm | rfl | hm
  · exact h other (by simp [hm]) happlies htype
  · exact hpolicy htype
  · exact h other (by simp [hm]) happlies htype

end Sets

theorem applies_of_groups (user : UserRecord) (groups : List String)
    (hgroups : ∀ group, group ∈ groups ↔ group ∈ user.groups) (policy : PolicyRecord) :
    Applies { user with groups := groups } policy ↔ Applies user policy := by
  simp only [Applies, hgroups]

section Outcomes

variable {python : Interpreter} {user : UserRecord} {model : String}
  (hactive : user.isActive = true) (henabled : user.proxyAccessEnabled = true)
include hactive henabled

-- What the policies that apply decide does not depend on how they are listed.
theorem sameOutcome_of_same_policies {policies policies' : List PolicyRecord}
    {groups : List String} {decision : PolicyDecision} (hlimits : LimitsParse python user policies)
    (hdecides : Decides python model (applicable user policies) decision)
    (hsame : ∀ policy, Applies user policy → (policy ∈ policies' ↔ policy ∈ policies))
    (hgroups : ∀ group, group ∈ groups ↔ group ∈ user.groups) :
    ∃ decision', evaluate python { user with groups := groups } (.Str model) policies' =
        .ok decision' ∧ SameOutcome decision decision' := by
  have happlies := applies_of_groups user groups hgroups
  have hset : applicable { user with groups := groups } policies' =
      applicable user policies := by
    ext policy
    simp only [applicable, Set.mem_ofPred_eq, happlies]
    exact and_congr_left (hsame policy)
  have hlimits' : LimitsParse python { user with groups := groups } policies' := by
    intro policy hm happly htype
    have happly' := (happlies policy).mp happly
    exact hlimits policy ((hsame policy happly').mp hm) happly' htype
  obtain ⟨decision', heval', hdecides'⟩ :=
    evaluate_decides python { user with groups := groups } model policies' hactive henabled hlimits'
  rw [hset] at hdecides'
  exact ⟨decision', heval', hdecides.sameOutcome hdecides'⟩

theorem denied_of_deny_added {before after : List PolicyRecord} {deny : PolicyRecord}
    (hlimits : LimitsParse python user (before ++ after)) (happlies : Applies user deny)
    (htype : deny.ruleType = MODEL_DENY_RULE)
    (hhits : Text.fnmatchcase model deny.ruleValue = true) :
    ∃ decision', evaluate python user (.Str model) (before ++ deny :: after) = .ok decision' ∧
      decision'.allowed = false ∧ decision'.denialReason = some DENIAL_MODEL_DENIED := by
  have hlimits' : LimitsParse python user (before ++ deny :: after) := by
    apply hlimits.insert
    intro hlimit
    rw [htype] at hlimit
    exact absurd hlimit (by decide)
  obtain ⟨decision', heval', hdecides'⟩ :=
    evaluate_decides python user model (before ++ deny :: after) hactive henabled hlimits'
  rw [applicable_insert user before after deny happlies] at hdecides'
  refine ⟨decision', heval', hdecides'.denied ?_⟩
  exact Rules.denied_of_mem deny (Set.mem_insert _ _) htype hhits

theorem atMost_of_limit_added {before after : List PolicyRecord} {rule : PolicyRecord}
    {limit : Int} {decision : PolicyDecision} (hlimits : LimitsParse python user (before ++ after))
    (hdecides : Decides python model (applicable user (before ++ after)) decision)
    (happlies : Applies user rule)
    (hlimit : (Value.Str rule.ruleValue).toInt python = .ok limit) :
    ∃ decision', evaluate python user (.Str model) (before ++ rule :: after) = .ok decision' ∧
      AtMost decision'.effectiveMaxOutputTokens decision.effectiveMaxOutputTokens := by
  obtain ⟨decision', heval', hdecides'⟩ :=
    evaluate_decides python user model (before ++ rule :: after) hactive henabled
      (hlimits.insert rule fun _ => ⟨limit, hlimit⟩)
  refine ⟨decision', heval', hdecides'.limited.atMost_of_subset hdecides.limited ?_⟩
  rw [applicable_insert user before after rule happlies]
  rintro value ⟨policy, hm, hvalue⟩
  exact ⟨policy, Set.mem_insert_of_mem _ hm, hvalue⟩

end Outcomes

-- Repeating or reordering policies or groups, and adding or dropping policies that do
-- not apply, keeps the outcome; a denial of the model settles it, and a rule on output
-- tokens never raises the limit.
theorem policy_outcome_of_applicable_rules (python : Interpreter) (user : UserRecord)
    (model : String) (policies : List PolicyRecord) (hactive : user.isActive = true)
    (henabled : user.proxyAccessEnabled = true) (hlimits : LimitsParse python user policies) :
    ∃ decision, evaluate python user (.Str model) policies = .ok decision ∧
      (∀ policies' groups,
        (∀ policy, Applies user policy → (policy ∈ policies' ↔ policy ∈ policies)) →
        (∀ group, group ∈ groups ↔ group ∈ user.groups) →
        ∃ decision', evaluate python { user with groups := groups } (.Str model) policies' =
            .ok decision' ∧ SameOutcome decision decision') ∧
      (∀ before after deny, policies = before ++ after → Applies user deny →
        deny.ruleType = MODEL_DENY_RULE → Text.fnmatchcase model deny.ruleValue = true →
        ∃ decision', evaluate python user (.Str model) (before ++ deny :: after) =
            .ok decision' ∧ decision'.allowed = false ∧
          decision'.denialReason = some DENIAL_MODEL_DENIED) ∧
      ∀ before after rule limit, policies = before ++ after → Applies user rule →
        rule.ruleType = MAX_OUTPUT_TOKENS_RULE →
        (Value.Str rule.ruleValue).toInt python = .ok limit →
        ∃ decision', evaluate python user (.Str model) (before ++ rule :: after) =
            .ok decision' ∧
          AtMost decision'.effectiveMaxOutputTokens decision.effectiveMaxOutputTokens := by
  obtain ⟨decision, heval, hdecides⟩ :=
    evaluate_decides python user model policies hactive henabled hlimits
  refine ⟨decision, heval, ?_, ?_, ?_⟩
  · intro policies' groups hsame hgroups
    exact sameOutcome_of_same_policies hactive henabled hlimits hdecides hsame hgroups
  · rintro before after deny rfl happlies htype hhits
    exact denied_of_deny_added hactive henabled hlimits happlies htype hhits
  · rintro before after rule limit rfl happlies htype hlimit
    exact atMost_of_limit_added hactive henabled hlimits hdecides happlies hlimit

-- The samples hold decimal digits only.
def sampleLimitReader : Interpreter where
  repr _ := ""
  readInt text :=
    if text ≠ "" ∧ text.toList.all Char.isDigit then
      some (text.toList.foldl (fun number digit => 10 * number + (digit.toNat - 48)) 0)
    else none

-- A user of one group.
def sampleMember : UserRecord where
  id := "user-1"
  email := "dev@example.com"
  displayName := "Dev"
  groups := ["eng"]
  createdAt := 0
  updatedAt := 0

def sampleGroupDeny : PolicyRecord where
  id := "group-deny"
  scopeType := "group"
  scopeId := "eng"
  ruleType := MODEL_DENY_RULE
  ruleValue := "claude-opus-*"

def sampleGlobalLimit : PolicyRecord where
  id := "global-limit"
  scopeType := "global"
  scopeId := "default"
  ruleType := MAX_OUTPUT_TOKENS_RULE
  ruleValue := "2000"

theorem samplePolicies_parse :
    LimitsParse sampleLimitReader sampleMember [sampleGlobalLimit, sampleGroupDeny] := by
  intro policy hm _ htype
  rcases List.mem_pair.mp hm with rfl | rfl
  · exact ⟨2000, by decide⟩
  · exact absurd htype (by decide)

theorem policy_outcome_sample :
    ∃ decision decision', evaluate sampleLimitReader sampleMember (.Str "claude-opus-4")
        [sampleGlobalLimit, sampleGroupDeny] = .ok decision ∧
      evaluate sampleLimitReader { sampleMember with groups := ["eng", "eng"] }
        (.Str "claude-opus-4") [sampleGroupDeny, sampleGlobalLimit, sampleGroupDeny] =
          .ok decision' ∧ SameOutcome decision decision' := by
  obtain ⟨decision, heval, hsame, -⟩ := policy_outcome_of_applicable_rules sampleLimitReader
    sampleMember "claude-opus-4" [sampleGlobalLimit, sampleGroupDeny] rfl rfl samplePolicies_parse
  obtain ⟨decision', heval', houtcome⟩ :=
    hsame [sampleGroupDeny, sampleGlobalLimit, sampleGroupDeny] ["eng", "eng"]
      (fun policy _ => by
        simp only [List.mem_cons, List.not_mem_nil, or_false]
        tauto) (fun group => by simp [sampleMember])
  exact ⟨decision, decision', heval, heval', houtcome⟩

-- The user as the engine sees them when the directory names no groups or no department.
def withoutAttributes (groups department : Bool) (user : UserRecord) : UserRecord :=
  { user with
    groups := if groups then [] else user.groups
    department := if department then none else user.department }

theorem applies_of_withoutAttributes {groups department : Bool} {user : UserRecord}
    {policy : PolicyRecord} (h : Applies (withoutAttributes groups department user) policy) :
    Applies user policy := by
  obtain ⟨hactive, hscope⟩ := h
  refine ⟨hactive, ?_⟩
  rcases hscope with huser | ⟨htype, hgroup⟩ | ⟨htype, hdepartment⟩ | hglobal
  · exact .inl huser
  · cases groups with
    | true => simp [withoutAttributes] at hgroup
    | false => exact .inr (.inl ⟨htype, hgroup⟩)
  · cases department with
    | true => simp [withoutAttributes] at hdepartment
    | false => exact .inr (.inr (.inl ⟨htype, hdepartment⟩))
  · exact .inr (.inr (.inr hglobal))

-- The policies that apply to the one user and not to the other.
def lost (user reduced : UserRecord) (policies : List PolicyRecord) : Set PolicyRecord :=
  applicable user policies \ applicable reduced policies

theorem applicable_eq_union {user reduced : UserRecord}
    (h : ∀ policy, Applies reduced policy → Applies user policy) (policies : List PolicyRecord) :
    applicable user policies = applicable reduced policies ∪ lost user reduced policies := by
  have hsubset : applicable reduced policies ⊆ applicable user policies := by
    rintro policy ⟨hm, happlies⟩
    exact ⟨hm, h policy happlies⟩
  rw [lost, Set.union_sdiff_cancel hsubset]

-- The rules that are kept refuse the model anyway, or none of the lost ones denies it
-- and the kept ones still close the default.
def KeepsAccess (model : String) (kept lost : Set PolicyRecord) : Prop :=
  (modelRules model).Denied kept ∨
    ((modelRules model).Governed kept ∧ ¬(modelRules model).Granted kept) ∨
    (¬(modelRules model).Denied lost ∧
      ((modelRules model).Governed kept ∨
        ((modelRules model).Governed lost → (modelRules model).Granted lost)))

-- No lost limit is below every limit that is kept.
def KeepsLimits (python : Interpreter) (kept lost : Set PolicyRecord) : Prop :=
  ∀ limit ∈ tokenLimits python lost, ∃ tighter ∈ tokenLimits python kept, tighter ≤ limit

theorem tokenLimits_union (python : Interpreter) (kept lost : Set PolicyRecord) :
    tokenLimits python (kept ∪ lost) = tokenLimits python kept ∪ tokenLimits python lost := by
  ext limit
  simp only [tokenLimits, Set.mem_union, Set.mem_ofPred_eq, or_and_right, exists_or]

theorem keepsLimits_iff {python : Interpreter} {kept lost : Set PolicyRecord}
    {first second : Option Int} (h : IsLimit (tokenLimits python kept) first)
    (h' : IsLimit (tokenLimits python (kept ∪ lost)) second) :
    AtMost first second ↔ KeepsLimits python kept lost := by
  rw [atMost_iff h h', tokenLimits_union]
  constructor
  · exact fun hall limit hm => hall limit (.inr hm)
  · rintro hlost limit (hm | hm)
    · exact ⟨limit, hm, le_refl limit⟩
    · exact hlost limit hm

theorem missing_attributes_grant_nothing_iff (python : Interpreter) (user : UserRecord)
    (model : String) (policies : List PolicyRecord) (groups department : Bool)
    (hactive : user.isActive = true) (henabled : user.proxyAccessEnabled = true)
    (hlimits : LimitsParse python user policies) :
    ∃ decision reduced, evaluate python user (.Str model) policies = .ok decision ∧
      evaluate python (withoutAttributes groups department user) (.Str model) policies =
        .ok reduced ∧
      (((reduced.allowed = true → decision.allowed = true) ∧
          AtMost reduced.effectiveMaxOutputTokens decision.effectiveMaxOutputTokens) ↔
        KeepsAccess model (applicable (withoutAttributes groups department user) policies)
            (lost user (withoutAttributes groups department user) policies) ∧
          KeepsLimits python (applicable (withoutAttributes groups department user) policies)
            (lost user (withoutAttributes groups department user) policies)) := by
  have happlies : ∀ policy, Applies (withoutAttributes groups department user) policy →
      Applies user policy := fun policy => applies_of_withoutAttributes
  obtain ⟨decision, heval, hdecides⟩ :=
    evaluate_decides python user model policies hactive henabled hlimits
  obtain ⟨reduced, hevalreduced, hreduced⟩ :=
    evaluate_decides python (withoutAttributes groups department user) model policies hactive
      henabled fun policy hm happly => hlimits policy hm (happlies policy happly)
  refine ⟨decision, reduced, heval, hevalreduced, ?_⟩
  rw [hdecides.allowed_iff, hreduced.allowed_iff]
  have hlimited := hdecides.limited
  rw [applicable_eq_union happlies policies] at hlimited ⊢
  rw [keepsLimits_iff hreduced.limited hlimited, Rules.admits_union_of_admits_iff]
  rfl

theorem missing_attributes_sample :
    ∃ decision reduced, evaluate sampleLimitReader sampleMember (.Str "claude-haiku-4")
        [sampleGlobalLimit] = .ok decision ∧
      evaluate sampleLimitReader (withoutAttributes true false sampleMember)
        (.Str "claude-haiku-4") [sampleGlobalLimit] = .ok reduced ∧
      (reduced.allowed = true → decision.allowed = true) := by
  have hparse : LimitsParse sampleLimitReader sampleMember [sampleGlobalLimit] := by
    intro policy hm happlies htype
    exact samplePolicies_parse policy (by simp [List.mem_singleton.mp hm]) happlies htype
  obtain ⟨decision, reduced, heval, hreduced, hiff⟩ := missing_attributes_grant_nothing_iff
    sampleLimitReader sampleMember "claude-haiku-4" [sampleGlobalLimit] true false rfl rfl hparse
  have hkept : lost sampleMember (withoutAttributes true false sampleMember) [sampleGlobalLimit] =
      ∅ := by
    ext policy
    simp only [lost, applicable, Set.mem_sdiff, Set.mem_ofPred_eq, List.mem_singleton,
      Set.mem_empty_iff_false, iff_false]
    rintro ⟨⟨rfl, _⟩, hlost⟩
    exact hlost ⟨rfl, by decide⟩
  refine ⟨decision, reduced, heval, hreduced, (hiff.mpr ⟨.inr (.inr ⟨?_, .inr ?_⟩), ?_⟩).1⟩
  · rw [hkept]
    rintro ⟨policy, hm, _⟩
    exact hm
  · rw [hkept]
    rintro ⟨policy, hm, _⟩
    exact absurd hm (Set.notMem_empty policy)
  · rw [hkept]
    rintro limit ⟨policy, hm, _⟩
    exact absurd hm (Set.notMem_empty policy)

-- A member of a group that is denied a model gets it when the groups are missing.
theorem missing_groups_grant_access :
    ¬ ∀ (python : Interpreter) (user : UserRecord) (model : String)
      (policies : List PolicyRecord) (groups department : Bool), user.isActive = true →
      user.proxyAccessEnabled = true → LimitsParse python user policies →
      ∃ decision reduced, evaluate python user (.Str model) policies = .ok decision ∧
        evaluate python (withoutAttributes groups department user) (.Str model) policies =
          .ok reduced ∧
        (reduced.allowed = true → decision.allowed = true) ∧
        AtMost reduced.effectiveMaxOutputTokens decision.effectiveMaxOutputTokens := by
  intro h
  obtain ⟨decision, reduced, heval, hreduced, hallowed, -⟩ := h sampleLimitReader sampleMember
    "claude-opus-4" [sampleGlobalLimit, sampleGroupDeny] true false rfl rfl samplePolicies_parse
  have hdenied : (evaluate sampleLimitReader sampleMember (.Str "claude-opus-4")
      [sampleGlobalLimit, sampleGroupDeny]).map PolicyDecision.allowed = .ok false := by decide
  have hopen : (evaluate sampleLimitReader (withoutAttributes true false sampleMember)
      (.Str "claude-opus-4") [sampleGlobalLimit, sampleGroupDeny]).map PolicyDecision.allowed =
        .ok true := by decide
  rw [heval] at hdenied
  rw [hreduced] at hopen
  have hfalse : decision.allowed = false := Except.ok.inj hdenied
  have htrue : reduced.allowed = true := Except.ok.inj hopen
  rw [hallowed htrue] at hfalse
  cases hfalse

theorem not_governed_iff (user : UserRecord) (model : String) (policies : List PolicyRecord) :
    ¬(modelRules model).Governed (applicable user policies) ↔
      ∀ policy ∈ policies, Applies user policy →
        policy.ruleType ≠ MODEL_ALLOW_RULE ∧ policy.ruleType ≠ MODEL_DENY_RULE := by
  constructor
  · intro hnone policy hm happlies
    exact ⟨fun hallow => hnone ⟨policy, ⟨hm, happlies⟩, .inl hallow⟩,
      fun hdeny => hnone ⟨policy, ⟨hm, happlies⟩, .inr hdeny⟩⟩
  · rintro hnone ⟨policy, ⟨hm, happlies⟩, hallow | hdeny⟩
    · exact (hnone policy hm happlies).1 hallow
    · exact (hnone policy hm happlies).2 hdeny

-- A denial that does not name the model changes the outcome for it only where it is the
-- first access rule that applies: then it closes the default.
theorem other_model_denial (python : Interpreter) (user : UserRecord) (model : String)
    (before after : List PolicyRecord) (deny : PolicyRecord) (hactive : user.isActive = true)
    (henabled : user.proxyAccessEnabled = true)
    (hlimits : LimitsParse python user (before ++ after)) (htype : deny.ruleType = MODEL_DENY_RULE)
    (hmisses : Text.fnmatchcase model deny.ruleValue = false) :
    ∃ decision decision', evaluate python user (.Str model) (before ++ after) = .ok decision ∧
      evaluate python user (.Str model) (before ++ deny :: after) = .ok decision' ∧
      if Applies user deny ∧ ∀ policy ∈ before ++ after, Applies user policy →
          policy.ruleType ≠ MODEL_ALLOW_RULE ∧ policy.ruleType ≠ MODEL_DENY_RULE then
        decision.allowed = true ∧ decision.denialReason = none ∧ decision'.allowed = false ∧
          decision'.denialReason = some DENIAL_MODEL_NOT_ALLOWED
      else
        decision'.allowed = decision.allowed ∧ decision'.denialReason = decision.denialReason := by
  have hnotlimit : deny.ruleType = MAX_OUTPUT_TOKENS_RULE → False := by
    rw [htype]
    decide
  obtain ⟨decision, heval, hdecides⟩ :=
    evaluate_decides python user model (before ++ after) hactive henabled hlimits
  obtain ⟨decision', heval', hdecides'⟩ :=
    evaluate_decides python user model (before ++ deny :: after) hactive henabled
      (hlimits.insert deny fun hlimit => (hnotlimit hlimit).elim)
  refine ⟨decision, decision', heval, heval', ?_⟩
  have hmisses' : ¬(modelRules model).hits deny := by
    change ¬Text.fnmatchcase model deny.ruleValue = true
    rw [hmisses]
    exact Bool.false_ne_true
  have hgoverned := not_governed_iff user model (before ++ after)
  by_cases happlies : Applies user deny
  · rw [applicable_insert user before after deny happlies] at hdecides'
    have hdenied := (modelRules model).denied_insert_iff
      (applicable user (before ++ after)) deny hmisses'
    have hadmits := (modelRules model).admits_insert_iff
      (applicable user (before ++ after)) deny htype hmisses'
    by_cases hgovern : (modelRules model).Governed (applicable user (before ++ after))
    · rw [if_neg fun hboth => hgoverned.mpr hboth.2 hgovern]
      exact hdecides.sameAccess hdecides' hdenied (hadmits.trans (and_iff_left hgovern))
    · rw [if_pos ⟨happlies, hgoverned.mp hgovern⟩]
      obtain ⟨hallowed, hreason⟩ :=
        hdecides.admitted ((modelRules model).admits_of_not_governed _ hgovern)
      obtain ⟨hallowed', hreason'⟩ := hdecides'.refused
        (fun hdeny => hgovern (hdenied.mp hdeny).governed) fun hadmit => hgovern (hadmits.mp hadmit).2
      exact ⟨hallowed, hreason, hallowed', hreason'⟩
  · rw [applicable_insert_of_not user before after deny happlies] at hdecides'
    rw [if_neg fun hboth => happlies hboth.1]
    exact hdecides.sameAccess hdecides' Iff.rfl Iff.rfl

theorem other_model_denial_sample :
    ∃ decision decision', evaluate sampleLimitReader sampleMember (.Str "claude-haiku-4")
        [sampleGlobalLimit] = .ok decision ∧
      evaluate sampleLimitReader sampleMember (.Str "claude-haiku-4")
        [sampleGlobalLimit, sampleGroupDeny] = .ok decision' ∧
      decision.allowed = true ∧ decision'.allowed = false := by
  have hparse : LimitsParse sampleLimitReader sampleMember ([sampleGlobalLimit] ++ []) := by
    intro policy hm happlies htype
    obtain rfl : policy = sampleGlobalLimit := by simpa using hm
    exact samplePolicies_parse sampleGlobalLimit (by simp) happlies htype
  obtain ⟨decision, decision', heval, heval', houtcome⟩ := other_model_denial sampleLimitReader
    sampleMember "claude-haiku-4" [sampleGlobalLimit] [] sampleGroupDeny rfl rfl hparse rfl
    (by decide)
  rw [if_pos ⟨by decide, by decide⟩] at houtcome
  exact ⟨decision, decision', heval, heval', houtcome.1, houtcome.2.2.1⟩

-- The denial of one model closes the default for another.
theorem other_model_denied :
    ¬ ∀ (python : Interpreter) (user : UserRecord) (model : String)
      (before after : List PolicyRecord) (deny : PolicyRecord), user.isActive = true →
      user.proxyAccessEnabled = true → LimitsParse python user (before ++ after) →
      deny.ruleType = MODEL_DENY_RULE → Text.fnmatchcase model deny.ruleValue = false →
      ∃ decision decision', evaluate python user (.Str model) (before ++ after) = .ok decision ∧
        evaluate python user (.Str model) (before ++ deny :: after) = .ok decision' ∧
        decision'.allowed = decision.allowed ∧ decision'.denialReason = decision.denialReason := by
  intro h
  obtain ⟨decision, decision', heval, heval', hallowed, -⟩ := h sampleLimitReader sampleMember
    "claude-haiku-4" [] [] sampleGroupDeny rfl rfl
    (fun policy hm => absurd hm List.not_mem_nil) rfl (by decide)
  have hopen : (evaluate sampleLimitReader sampleMember (.Str "claude-haiku-4") []).map
      PolicyDecision.allowed = .ok true := by decide
  have hclosed : (evaluate sampleLimitReader sampleMember (.Str "claude-haiku-4")
      [sampleGroupDeny]).map PolicyDecision.allowed = .ok false := by decide
  rw [show ([] : List PolicyRecord) = [] ++ [] from rfl, heval] at hopen
  rw [show [sampleGroupDeny] = [] ++ sampleGroupDeny :: [] from rfl, heval'] at hclosed
  have htrue : decision.allowed = true := Except.ok.inj hopen
  have hfalse : decision'.allowed = false := Except.ok.inj hclosed
  rw [hallowed, htrue] at hfalse
  cases hfalse

end PolicyEngine

end ClaudeCodeProxy
