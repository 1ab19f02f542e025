import ClaudeCodeProxy.Models.Errors
import ClaudeCodeProxy.Repositories.VirtualKey

namespace ClaudeCodeProxy

-- What a policy store lists for a user.
structure PolicyRepository where
  listPoliciesForSubject : String → List String → Option String → List PolicyRecord
  listBudgetPoliciesForSubject : String → List String → List BudgetPolicyRecord

structure BudgetPolicyCreateRequest where
  id : String
  periodType : BudgetPeriodType
  metricType : BudgetMetricType
  limitValue : Int
  softLimitPercent : Int
  hardLimitPercent : Int
  softWithinHard : softLimitPercent ≤ hardLimitPercent
  hardWithinLimit : hardLimitPercent ≤ 100

namespace BudgetPolicyAdminService

def requireUser (users : Users) (userId : String) : Except Failure UserRecord :=
  match users.get userId with
  | some user => .ok user
  | none => .error (.HTTPException 404 "User not found.")

def userPolicy (userId : String) (request : BudgetPolicyCreateRequest) : BudgetPolicyRecord where
  id := request.id
  scopeType := "user"
  scopeId := userId
  periodType := request.periodType
  metricType := request.metricType
  limitValue := request.limitValue
  softLimitPercent := request.softLimitPercent
  hardLimitPercent := request.hardLimitPercent

-- The created policy, and the store with it.
def createUserPolicy (users : Users) (store : List BudgetPolicyRecord) (userId : String)
    (request : BudgetPolicyCreateRequest) :
    Except Failure (BudgetPolicyRecord × List BudgetPolicyRecord) := do
  let user ← requireUser users userId
  if !user.isActive then
    throw (.HTTPException 400 "Cannot create budget policy for inactive user.")
  else
    return (userPolicy userId request, store ++ [userPolicy userId request])

-- A policy is created for an active user only. It is in force at once, and its
-- thresholds are those of a valid request.
theorem createUserPolicy_created {users : Users} {store after : List BudgetPolicyRecord}
    {userId : String} {request : BudgetPolicyCreateRequest} {policy : BudgetPolicyRecord}
    (h : createUserPolicy users store userId request = .ok (policy, after)) :
    (∃ user, users.get userId = some user ∧ user.isActive = true) ∧ after = store ++ [policy] ∧
      policy.scopeType = "user" ∧ policy.scopeId = userId ∧ policy.isActive = true ∧
      policy.softLimitPercent ≤ policy.hardLimitPercent ∧ policy.hardLimitPercent ≤ 100 := by
  unfold createUserPolicy requireUser at h
  cases huser : users.get userId with
  | none =>
      rw [huser] at h
      cases h
  | some user =>
      simp only [huser] at h
      change (if !user.isActive then _ else _) = _ at h
      split_ifs at h with hinactive
      cases h
      exact ⟨⟨user, rfl, by simpa using hinactive⟩, rfl, rfl, rfl, rfl, request.softWithinHard,
        request.hardWithinLimit⟩

end BudgetPolicyAdminService

end ClaudeCodeProxy
