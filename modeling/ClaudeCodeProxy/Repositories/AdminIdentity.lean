import ClaudeCodeProxy.Models.Domain
import ClaudeCodeProxy.Store.Table

namespace ClaudeCodeProxy

-- The allowlist of the Admin API.
abbrev AdminIdentities : Type := Store.Table AdminIdentityRecord.principalId

-- The role of an identity that the store has read; one that is not active has none.
def adminRole : Option AdminIdentityRecord → Option String
  | none => none
  | some identity => if !identity.isActive then none else some identity.role

def AdminIdentities.getAdminRole (identities : AdminIdentities) (principalId : String) :
    Option String :=
  adminRole (identities.get principalId)

theorem AdminIdentities.getAdminRole_eq_some_iff (identities : AdminIdentities)
    (principalId role : String) :
    identities.getAdminRole principalId = some role ↔
      ∃ identity, identities.get principalId = some identity ∧ identity.isActive = true ∧
        identity.role = role := by
  unfold getAdminRole
  cases identities.get principalId with
  | none => simp [adminRole]
  | some identity =>
      by_cases hactive : identity.isActive = true
      · simp [adminRole, hactive]
      · simp [adminRole, hactive]

end ClaudeCodeProxy
