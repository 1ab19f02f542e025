import ClaudeCodeProxy.Api.AdminBudgetPolicies
import ClaudeCodeProxy.Api.AdminModelMappings
import ClaudeCodeProxy.Effects.Simulation
import ClaudeCodeProxy.Repositories.AdminIdentity
import ClaudeCodeProxy.Services.Requests

-- The endpoints of the Admin API, each from its guard on.

namespace ClaudeCodeProxy

open Effects Python Store

def ADMIN_ROLE_OPERATOR : String := "operator"
def ADMIN_ROLE_AUDITOR : String := "auditor"

abbrev ModelRoutes : Type := Table ModelRouteRecord.id

-- The calls of the admin services and of their guard.
inductive AdminCall
  | GetAdminIdentity (principalId : String)
  | Service (op : Call)
  | CreatePolicy (policy : BudgetPolicyRecord)
  | UpsertModelRoute (record : ModelRouteRecord)
  | ReloadResolver
  | Pricing (op : PricingCall)
  | QueryUsage (userId teamId model : Option String)
  | QueryAuditEvents (userId teamId model eventType : Option String)

def AdminCall.Reply : AdminCall → Type
  | .GetAdminIdentity _ => Option AdminIdentityRecord
  | .Service op => op.Reply
  | .QueryUsage _ _ _ => List UsageEventRecord
  | .QueryAuditEvents _ _ _ _ => List AuditEventRecord
  | .CreatePolicy _ | .UpsertModelRoute _ | .ReloadResolver | .Pricing _ => Unit

@[reducible] def adminCalls : Signature := ⟨AdminCall, AdminCall.Reply⟩

abbrev AdminProgram (α : Type) : Type := Program adminCalls Failure α

def adminCall (op : AdminCall) : AdminProgram op.Reply := @Program.perform adminCalls Failure op

def serviceCalls : Embedding collaborators adminCalls := ⟨.Service, fun _ answer => answer⟩

def pricingAdminCalls : Embedding pricingCalls adminCalls := ⟨.Pricing, fun _ answer => answer⟩

-- Which of the services are configured, and where the principal is named.
structure AdminDependencies where
  adminIdentityRepository : Bool := false
  adminPrincipalHeader : String := "X-Admin-Principal"
  userProvisioningService : Bool := false
  budgetPolicyService : Bool := false
  virtualKeyAdminService : Option VirtualKeyLifecycleService := none
  modelMappingService : Bool := false
  usageQueryService : Bool := false

structure AdminActor where
  principalId : String
  role : String
  deriving DecidableEq

section Guard

variable (dependencies : AdminDependencies) (headers : String → Option String)

def adminAccessDenied : Failure := .HTTPException 403 "Admin access denied."

-- The principal that the headers name, if any does and the allowlist can be asked.
def presentedPrincipal : Option String :=
  match dependencies.adminIdentityRepository, headers dependencies.adminPrincipalHeader with
  | true, some principalId =>
      if Text.strip principalId = "" then none else some (Text.strip principalId)
  | _, _ => none

def requireAdminRole (allowedRoles : List String) : AdminProgram AdminActor := do
  match presentedPrincipal dependencies headers with
  | none => .Raise adminAccessDenied
  | some principalId =>
      match adminRole (← adminCall (.GetAdminIdentity principalId)) with
      | none => .Raise adminAccessDenied
      | some role =>
          if role ∈ allowedRoles then
            return { principalId := principalId, role := role }
          else
            .Raise adminAccessDenied

def requireAdminRead : AdminProgram AdminActor :=
  requireAdminRole dependencies headers [ADMIN_ROLE_OPERATOR, ADMIN_ROLE_AUDITOR]

def requireAdminWrite : AdminProgram AdminActor :=
  requireAdminRole dependencies headers [ADMIN_ROLE_OPERATOR]

end Guard

structure ModelRouteUpdateRequest where
  logicalModel : String
  provider : String
  bedrockApiRoute : String
  bedrockModelId : Option String := none
  inferenceProfileId : Option String := none
  supportsNativeStructuredOutput : Bool
  supportsReasoning : Bool
  supportsPromptCacheTtl : Bool
  supportsDisableParallelToolUse : Bool
  priority : Int
  isActive : Bool := true
  deriving DecidableEq

def ModelMappingAdminService.modelRouteRecord (routeId : String)
    (request : ModelRouteUpdateRequest) : ModelRouteRecord where
  id := routeId
  logicalModel := request.logicalModel
  provider := request.provider
  bedrockApiRoute := request.bedrockApiRoute
  bedrockModelId := request.bedrockModelId
  inferenceProfileId := request.inferenceProfileId
  supportsNativeStructuredOutput := request.supportsNativeStructuredOutput
  supportsReasoning := request.supportsReasoning
  supportsPromptCacheTtl := request.supportsPromptCacheTtl
  supportsDisableParallelToolUse := request.supportsDisableParallelToolUse
  priority := request.priority
  isActive := request.isActive

def ModelMappingAdminService.updateModelRoute (routeId : String)
    (request : ModelRouteUpdateRequest) : AdminProgram ModelRouteRecord := do
  let record := modelRouteRecord routeId request
  let () ← adminCall (.UpsertModelRoute record)
  let () ← adminCall .ReloadResolver
  return record

-- `createUserPolicy` call by call.
def BudgetPolicyAdminService.createUserPolicyProgram (userId : String)
    (request : BudgetPolicyCreateRequest) : AdminProgram BudgetPolicyRecord := do
  match ← (call (.GetUser userId)).lift serviceCalls with
  | none => .Raise (.HTTPException 404 "User not found.")
  | some user =>
      if !user.isActive then
        .Raise (.HTTPException 400 "Cannot create budget policy for inactive user.")
      else do
        let () ← adminCall (.CreatePolicy (userPolicy userId request))
        return userPolicy userId request

-- A request with its body as it was validated.
inductive AdminRequest
  | CreateUser (payload : UserProvisioningRequest)
  | CreateUserBudgetPolicy (userId : String) (payload : BudgetPolicyCreateRequest)
  | RevokeVirtualKey (keyId : String)
  | DisableVirtualKey (keyId : String)
  | RotateVirtualKey (keyId : String)
  | UpdateModelRoute (routeId : String) (payload : ModelRouteUpdateRequest)
  | UpdatePricingCatalog (pricingId : String) (payload : PricingCatalogUpdateRequest)
  | ListUsage (userId teamId model : Option String)
  | ListAuditEvents (userId teamId model eventType : Option String)

-- The payload of a response, or the record that it encodes.
inductive AdminResponse
  | Payload (value : Value)
  | BudgetPolicy (policy : BudgetPolicyRecord)
  | ModelRoute (record : ModelRouteRecord)
  | Pricing (record : ModelPricingRecord)
  | Usage (items : List UsageEventRecord)
  | AuditEvents (items : List AuditEventRecord)

section Endpoints

variable (dependencies : AdminDependencies) (headers : String → Option String)

-- A service that is not configured is noticed after the guard.
def configured (service : Bool) (name : String) : AdminProgram Unit :=
  if service then return () else .Raise (.HTTPException 500 (name ++ " is not configured."))

def virtualKeyService : AdminProgram VirtualKeyLifecycleService :=
  match dependencies.virtualKeyAdminService with
  | some service => return service
  | none => .Raise (.HTTPException 500 "Virtual key admin service is not configured.")

def createUser (payload : UserProvisioningRequest) : AdminProgram AdminResponse := do
  let _ ← requireAdminWrite dependencies headers
  configured dependencies.userProvisioningService "User provisioning service"
  let (user, mapping) ← (UserProvisioningService.provision payload).lift serviceCalls
  return .Payload (.Mapping [
    ("user_id", .Str user.id),
    ("username", .Str mapping.username),
    ("email", .Str user.email),
    ("display_name", .Str user.displayName),
    ("proxy_access_enabled", .Boolean user.proxyAccessEnabled),
    ("is_active", .Boolean user.isActive)])

def createUserBudgetPolicy (userId : String) (payload : BudgetPolicyCreateRequest) :
    AdminProgram AdminResponse := do
  let _ ← requireAdminWrite dependencies headers
  configured dependencies.budgetPolicyService "Budget policy service"
  return .BudgetPolicy (← BudgetPolicyAdminService.createUserPolicyProgram userId payload)

def keyStatusPayload (record : VirtualKeyRecord) : AdminResponse := .Payload (.Mapping [
  ("key_id", .Str record.id),
  ("user_id", .Str record.userId),
  ("status", .Str record.status.value)])

def revokeVirtualKey (keyId : String) : AdminProgram AdminResponse := do
  let _ ← requireAdminWrite dependencies headers
  let _ ← virtualKeyService dependencies
  return keyStatusPayload (← (VirtualKeyLifecycleService.revoke keyId).lift serviceCalls)

def disableVirtualKey (keyId : String) : AdminProgram AdminResponse := do
  let _ ← requireAdminWrite dependencies headers
  let _ ← virtualKeyService dependencies
  return keyStatusPayload (← (VirtualKeyLifecycleService.disable keyId).lift serviceCalls)

def rotateVirtualKey (keyId : String) : AdminProgram AdminResponse := do
  let _ ← requireAdminWrite dependencies headers
  let service ← virtualKeyService dependencies
  let (previous, replacement) ← (service.rotate keyId).lift serviceCalls
  return .Payload (.Mapping [
    ("old_key_id", .Str previous.id),
    ("new_key_id", .Str replacement.id),
    ("user_id", .Str replacement.userId),
    ("status", .Str replacement.status.value)])

def updateModelRoute (routeId : String) (payload : ModelRouteUpdateRequest) :
    AdminProgram AdminResponse := do
  let _ ← requireAdminWrite dependencies headers
  configured dependencies.modelMappingService "Model mapping service"
  return .ModelRoute (← ModelMappingAdminService.updateModelRoute routeId payload)

def updatePricingCatalog (pricingId : String) (payload : PricingCatalogUpdateRequest) :
    AdminProgram AdminResponse := do
  let _ ← requireAdminWrite dependencies headers
  configured dependencies.modelMappingService "Model mapping service"
  return .Pricing
    (← (ModelMappingAdminService.updatePricingCatalog pricingId payload).lift pricingAdminCalls)

def listUsage (userId teamId model : Option String) : AdminProgram AdminResponse := do
  let _ ← requireAdminRead dependencies headers
  configured dependencies.usageQueryService "Usage query service"
  return .Usage (← adminCall (.QueryUsage userId teamId model))

def listAuditEvents (userId teamId model eventType : Option String) :
    AdminProgram AdminResponse := do
  let _ ← requireAdminRead dependencies headers
  configured dependencies.usageQueryService "Usage query service"
  return .AuditEvents (← adminCall (.QueryAuditEvents userId teamId model eventType))

def AdminRequest.program : AdminRequest → AdminProgram AdminResponse
  | .CreateUser payload => createUser dependencies headers payload
  | .CreateUserBudgetPolicy userId payload =>
      createUserBudgetPolicy dependencies headers userId payload
  | .RevokeVirtualKey keyId => revokeVirtualKey dependencies headers keyId
  | .DisableVirtualKey keyId => disableVirtualKey dependencies headers keyId
  | .RotateVirtualKey keyId => rotateVirtualKey dependencies headers keyId
  | .UpdateModelRoute routeId payload => updateModelRoute dependencies headers routeId payload
  | .UpdatePricingCatalog pricingId payload =>
      updatePricingCatalog dependencies headers pricingId payload
  | .ListUsage userId teamId model => listUsage dependencies headers userId teamId model
  | .ListAuditEvents userId teamId model eventType =>
      listAuditEvents dependencies headers userId teamId model eventType

end Endpoints

end ClaudeCodeProxy
