import ClaudeCodeProxy.Api.AdminRoutes
import ClaudeCodeProxy.Effects.Machine
import ClaudeCodeProxy.Services.Samples

namespace ClaudeCodeProxy

open Effects Store

inductive Invalidation
  | TokenServiceCache (userId : String)
  | ProxyAuthCache (keyId : String)
  deriving DecidableEq

inductive ReloadTarget
  | Resolver
  | Pricing
  deriving DecidableEq

-- What the admin services keep, with the invalidations and the reloads they have issued.
structure AdminStores where
  world : World
  policies : List BudgetPolicyRecord
  routes : ModelRoutes
  pricing : PricingStores
  invalidations : List Invalidation
  reloads : List ReloadTarget

-- The answers of the usage store, which no endpoint changes.
structure UsageQueries where
  queryUsage : Option String → Option String → Option String →
    Except Failure (List UsageEventRecord)
  queryAuditEvents : Option String → Option String → Option String → Option String →
    Except Failure (List AuditEventRecord)

def Call.invalidations : Call → List Invalidation
  | .InvalidateTokenServiceCache userId => [.TokenServiceCache userId]
  | .InvalidateProxyAuthCache keyId => [.ProxyAuthCache keyId]
  | _ => []

def PricingCall.reloads : PricingCall → List ReloadTarget
  | .UpsertPricing _ => []
  | .Reload => [.Pricing]

def handleAdmin (deployment : Deployment) (identities : AdminIdentities) (usage : UsageQueries)
    (draw : Draw) : Handler adminCalls Failure AdminStores
  | .GetAdminIdentity principalId, stores => (.ok (identities.get principalId), stores)
  | .Service op, stores =>
      ((handle deployment draw op stores.world).1,
        { stores with
          world := (handle deployment draw op stores.world).2
          invalidations := stores.invalidations ++ op.invalidations })
  | .CreatePolicy policy, stores =>
      (.ok (), { stores with policies := stores.policies ++ [policy] })
  | .UpsertModelRoute record, stores =>
      (.ok (), { stores with routes := stores.routes.save record })
  | .ReloadResolver, stores =>
      (.ok (), { stores with reloads := stores.reloads ++ [.Resolver] })
  | .Pricing op, stores =>
      ((handlePricing op stores.pricing).1,
        { stores with
          pricing := (handlePricing op stores.pricing).2
          reloads := stores.reloads ++ op.reloads })
  | .QueryUsage userId teamId model, stores => (usage.queryUsage userId teamId model, stores)
  | .QueryAuditEvents userId teamId model eventType, stores =>
      (usage.queryAuditEvents userId teamId model eventType, stores)

section Services

variable (deployment : Deployment) (identities : AdminIdentities) (usage : UsageQueries)
  (draw : Draw) (stores : AdminStores)

-- Behind the guard a key service does what it does on its own.
theorem run_lift_service (program : Service α) :
    ((program.lift serviceCalls).run (handleAdmin deployment identities usage draw) stores).1 =
        (program.run (handle deployment draw) stores.world).1 ∧
      ((program.lift serviceCalls).run
          (handleAdmin deployment identities usage draw) stores).2.world =
        (program.run (handle deployment draw) stores.world).2 := by
  rw [Program.run_lift]
  apply Program.run_related (fun stores world => stores.world = world) _ program rfl
    (Program.obeys_of_forall (fun _ _ => trivial) program stores)
  rintro op stores world rfl (_ : True)
  refine ⟨?_, rfl⟩
  simp only [Handler.restrict, handleAdmin, serviceCalls]
  cases (handle deployment draw op stores.world).1 with
  | ok reply => rfl
  | error error => rfl

theorem run_createUserPolicy (userId : String) (request : BudgetPolicyCreateRequest) :
    (BudgetPolicyAdminService.createUserPolicyProgram userId request).run
        (handleAdmin deployment identities usage draw) stores =
      match BudgetPolicyAdminService.createUserPolicy stores.world.users stores.policies userId
        request with
      | .ok (policy, policies) => (.ok policy, { stores with policies := policies })
      | .error error => (.error error, stores) := by
  unfold BudgetPolicyAdminService.createUserPolicyProgram
    BudgetPolicyAdminService.createUserPolicy BudgetPolicyAdminService.requireUser
  simp only [call, Program.perform, Program.lift, Program.call_bind, Program.run_call, handleAdmin,
    handle, serviceCalls, Call.invalidations, List.append_nil]
  cases huser : stores.world.users.get userId with
  | none => rfl
  | some user =>
      obtain ⟨_, _, _, _, _, _, _, isActive, _, _⟩ := user
      cases isActive with
      | true => rfl
      | false => rfl

end Services

-- A request as it arrives, with what the generators answer and the calls that fail
-- while it is served.
structure AdminHttp where
  headers : String → Option String
  request : AdminRequest
  draw : Draw
  faults : Nat → Option Failure := fun _ => none

inductive AdminInput
  | Http (http : AdminHttp)
  | Advance (microseconds : Nat)

-- The Admin API with its allowlist.
structure AdminApi where
  deployment : Deployment
  dependencies : AdminDependencies
  identities : AdminIdentities
  usage : UsageQueries

-- The calls that can change a store, or issue something.
def AdminCall.Writes : AdminCall → Prop
  | .GetAdminIdentity _ | .QueryUsage _ _ _ | .QueryAuditEvents _ _ _ _ => False
  | _ => True

section Reads

variable (dependencies : AdminDependencies) (headers : String → Option String)

theorem requireAdminRead_avoids :
    (requireAdminRead dependencies headers).Avoids AdminCall.Writes fun _ => True := by
  unfold requireAdminRead requireAdminRole
  cases presentedPrincipal dependencies headers with
  | none => trivial
  | some principalId =>
      simp only [adminCall, Program.perform, Program.call_bind, Program.return_bind]
      refine ⟨id, ?_⟩
      intro identity
      cases hrole : adminRole identity with
      | none =>
          simp only [hrole]
          trivial
      | some role =>
          simp only [hrole]
          by_cases hallowed : role ∈ [ADMIN_ROLE_OPERATOR, ADMIN_ROLE_AUDITOR]
          · rw [if_pos hallowed]
            trivial
          · rw [if_neg hallowed]
            trivial

theorem configured_avoids (service : Bool) (name : String) :
    (configured service name).Avoids AdminCall.Writes fun _ => True := by
  cases service with
  | true => trivial
  | false => trivial

theorem listUsage_avoids (userId teamId model : Option String) :
    (listUsage dependencies headers userId teamId model).Avoids AdminCall.Writes
      fun _ => True := by
  apply (requireAdminRead_avoids dependencies headers).bind
  intro _ _
  apply (configured_avoids dependencies.usageQueryService "Usage query service").bind
  intro _ _
  exact ⟨id, fun _ => trivial⟩

theorem listAuditEvents_avoids (userId teamId model eventType : Option String) :
    (listAuditEvents dependencies headers userId teamId model eventType).Avoids AdminCall.Writes
      fun _ => True := by
  apply (requireAdminRead_avoids dependencies headers).bind
  intro _ _
  apply (configured_avoids dependencies.usageQueryService "Usage query service").bind
  intro _ _
  exact ⟨id, fun _ => trivial⟩

end Reads

namespace AdminApi

variable (api : AdminApi)

def respond (http : AdminHttp) (stores : AdminStores) :
    Except Failure AdminResponse × AdminStores × Nat :=
  (http.request.program api.dependencies http.headers).run
    ((handleAdmin api.deployment api.identities api.usage http.draw).faulty http.faults) (stores, 0)

def machine : Machine AdminStores AdminInput (Option (Except Failure AdminResponse))
  | stores, .Http http => (some (api.respond http stores).1, (api.respond http stores).2.1)
  | stores, .Advance microseconds =>
      (none, { stores with world := { stores.world with
        clock := stores.world.clock + microseconds } })

-- The entry of the principal in the allowlist is active with the role of an operator.
def ByOperator (http : AdminHttp) : Prop :=
  ∃ principalId, presentedPrincipal api.dependencies http.headers = some principalId ∧
    ∃ identity, api.identities.get principalId = some identity ∧ identity.isActive = true ∧
      identity.role = ADMIN_ROLE_OPERATOR

instance (http : AdminHttp) : Decidable (api.ByOperator http) :=
  decidable_of_iff ((presentedPrincipal api.dependencies http.headers).any fun principalId =>
    (api.identities.get principalId).any fun identity =>
      identity.isActive && identity.role == ADMIN_ROLE_OPERATOR) (by
    simp [ByOperator, Option.any_eq_true])

-- Time passes for everybody.
def keeps : AdminInput → Bool
  | .Http http => decide (api.ByOperator http)
  | .Advance _ => true

-- The guard of a write lets no other principal through, whatever fails and whatever
-- the endpoint goes on to do.
theorem run_write_denied (http : AdminHttp) (stores : AdminStores) (h : ¬api.ByOperator http)
    (rest : AdminActor → AdminProgram AdminResponse) :
    ((requireAdminWrite api.dependencies http.headers >>= rest).run
      ((handleAdmin api.deployment api.identities api.usage http.draw).faulty http.faults)
        (stores, 0)).2.1 = stores := by
  unfold requireAdminWrite requireAdminRole
  cases hprincipal : presentedPrincipal api.dependencies http.headers with
  | none => rfl
  | some principalId =>
      have hrole : api.identities.getAdminRole principalId ≠ some ADMIN_ROLE_OPERATOR := by
        intro hrole
        obtain ⟨identity, hget, hactive, hoperator⟩ :=
          (api.identities.getAdminRole_eq_some_iff principalId _).mp hrole
        exact h ⟨principalId, hprincipal, identity, hget, hactive, hoperator⟩
      unfold AdminIdentities.getAdminRole at hrole
      simp only [adminCall, Program.perform, Program.call_bind, Program.return_bind,
        Program.run_call, Handler.faulty]
      cases hfault : http.faults 0 with
      | some error => rfl
      | none =>
          simp only [handleAdmin]
          cases hanswer : adminRole (api.identities.get principalId) with
          | none => rfl
          | some role =>
              have hother : role ∉ [ADMIN_ROLE_OPERATOR] := by
                rw [List.mem_singleton]
                rintro rfl
                exact hrole hanswer
              simp only [if_neg hother]
              rfl

-- Neither of the queries changes anything, whoever asks.
theorem respond_read (http : AdminHttp) (stores : AdminStores)
    (h : (http.request.program api.dependencies http.headers).Avoids AdminCall.Writes
      fun _ => True) :
    (api.respond http stores).2.1 = stores := by
  apply h.run_faulty
  intro op state hreads
  cases op with
  | GetAdminIdentity | QueryUsage | QueryAuditEvents => rfl
  | Service | CreatePolicy | UpsertModelRoute | ReloadResolver | Pricing =>
      exact absurd trivial hreads

theorem respond_denied (http : AdminHttp) (stores : AdminStores) (h : ¬api.ByOperator http) :
    (api.respond http stores).2.1 = stores := by
  cases hrequest : http.request with
  | CreateUser | CreateUserBudgetPolicy | RevokeVirtualKey | DisableVirtualKey
  | RotateVirtualKey | UpdateModelRoute | UpdatePricingCatalog =>
      rw [respond, hrequest]
      exact api.run_write_denied http stores h _
  | ListUsage userId teamId model =>
      apply api.respond_read http stores
      rw [hrequest]
      exact listUsage_avoids api.dependencies http.headers userId teamId model
  | ListAuditEvents userId teamId model eventType =>
      apply api.respond_read http stores
      rw [hrequest]
      exact listAuditEvents_avoids api.dependencies http.headers userId teamId model eventType

-- What the requests of others leave in the stores is what they would be without them.
theorem final_without_others (start : AdminStores) (inputs : List AdminInput) :
    api.machine.final start inputs = api.machine.final start (inputs.filter api.keeps) := by
  apply Machine.final_purge
  intro stores input hother
  cases input with
  | Advance microseconds => cases hother
  | Http http => exact api.respond_denied http stores (of_decide_eq_false hother)

end AdminApi

end ClaudeCodeProxy
