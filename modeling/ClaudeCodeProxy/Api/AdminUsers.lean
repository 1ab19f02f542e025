import ClaudeCodeProxy.Services.Collaborators

namespace ClaudeCodeProxy

open Effects

structure UserProvisioningRequest where
  username : String
  userId : String
  email : String
  displayName : String
  department : Option String := none
  costCenter : Option String := none
  groups : List String := []
  proxyAccessEnabled : Bool := true
  isActive : Bool := true
  deriving DecidableEq

namespace UserProvisioningService

-- The creation times come from the `default_factory` of the record fields.
def provision (request : UserProvisioningRequest) : Service (UserRecord × IdentityMapping) := do
  let createdAt ← call .UtcNow
  let updatedAt ← call .UtcNow
  let user : UserRecord := {
    id := request.userId
    email := request.email
    displayName := request.displayName
    department := request.department
    costCenter := request.costCenter
    groups := request.groups
    proxyAccessEnabled := request.proxyAccessEnabled
    isActive := request.isActive
    createdAt := createdAt
    updatedAt := updatedAt }
  let mappedAt ← call .UtcNow
  let mapping : IdentityMapping := {
    username := request.username
    userId := request.userId
    createdAt := mappedAt }
  call (.ProvisionUser user mapping)
  return (user, mapping)

end UserProvisioningService

end ClaudeCodeProxy
