import ClaudeCodeProxy.Api.StreamRecords

-- What the ledgers may depend on. The messages, the system prompt, the tools, the key and
-- the generated text are not part of it.

namespace ClaudeCodeProxy

open Effects Python

-- What is observed of a request. Of an exception, only that it was raised.
inductive Observation
  | Authenticated (requestId : String) (user : Option (Option UserContext))
  | Resolved (bedrockModelId : Option (Option String))
  | PolicyDecided (decision : Option PolicyDecision)
  | QuotaDecided (decision : Option QuotaDecision)
  | RateLimitDecided (allowed : Option Bool)
  | EventId (id : String)
  | Clock (createdAt : Int)
  | UsageStored (stored : Bool)

def observe : Answer runtime → Option Observation
  | ⟨.Ask (.Authenticate _ requestId), reply⟩ =>
      some (.Authenticated requestId (reply.toOption.map fun authenticated =>
        authenticated.request.user))
  | ⟨.Ask (.Resolve _), reply⟩ =>
      some (.Resolved (reply.toOption.map ResolvedModel.bedrockModelId))
  | ⟨.Ask (.EvaluatePolicy _ _ _), reply⟩ => some (.PolicyDecided reply.toOption)
  | ⟨.Ask (.EvaluateQuota _ _ _ _ _), reply⟩ => some (.QuotaDecided reply.toOption)
  | ⟨.Ask (.CheckRateLimit _), reply⟩ =>
      some (.RateLimitDecided (reply.toOption.map RateLimitDecision.allowed))
  | ⟨.Ask (.RecordUsage _), reply⟩ => some (.UsageStored reply.isOk)
  | ⟨.EventId, id⟩ => some (.EventId id)
  | ⟨.Clock, createdAt⟩ => some (.Clock createdAt)
  | _ => none

def observations (log : Log) : List Observation := log.filterMap observe

-- The time from the start of the request to its record.
def perfCounter? : Answer runtime → Option Rat
  | ⟨.PerfCounter, now⟩ => some now
  | _ => none

def latency (log : Log) : Option Int :=
  match log.filterMap perfCounter? with
  | [startedAt, now] => some (elapsedMs startedAt now)
  | _ => none

-- The usage that a response reports, and the last one that a stream reports.
def responseUsage? (python : Interpreter) : Answer runtime → Option Usage
  | ⟨.Ask (.ParseConverseResponse _ _), .ok parsedResponse⟩ =>
      (parsedResponse.item "usage" >>= AuditLogger.readUsage python).toOption
  | _ => none

def isStreamed : Answer runtime → Bool
  | ⟨.Ask (.ConverseStream _), .ok _⟩ => true
  | _ => false

def obtainedUsage (python : Interpreter) (log : Log) : Option Usage :=
  if log.any isStreamed then some (lastUsage python {} (fetchedEvents log))
  else log.findSome? (responseUsage? python)

abbrev Ledgers : Type := List UsageEventRecord × List AuditEventRecord

def ledgers (log : Log) : Ledgers := (usageEvents log, auditEvents log)

-- What the ledgers say, from what may be known of the request alone.
def expectedLedgers (model : Value) (usage : Option Usage) (latencyMs : Option Int) :
    List Observation → Ledgers
  | [.Authenticated requestId none, .EventId id, .Clock createdAt] =>
      ([], [AuditLogger.denialEvent id requestId DENIAL_REASON_AUTHENTICATION_FAILED none model
        none none createdAt])
  | [.Authenticated requestId (some user), .Resolved (some resolvedModel),
      .PolicyDecided (some policyDecision), .EventId id, .Clock createdAt] =>
      ([], [AuditLogger.denialEvent id requestId
        (reasonOr policyDecision.denialReason "policy_denied") user model resolvedModel
        (some policyDecision) createdAt])
  | [.Authenticated requestId (some user), .Resolved (some resolvedModel),
      .PolicyDecided (some policyDecision), .QuotaDecided (some quotaDecision), .EventId id,
      .Clock createdAt] =>
      ([], [AuditLogger.denialEvent id requestId
        (reasonOr quotaDecision.denialReason DENIAL_QUOTA_HARD_LIMIT_EXCEEDED) user model
        resolvedModel (some policyDecision) createdAt])
  | [.Authenticated requestId (some user), .Resolved (some resolvedModel),
      .PolicyDecided (some policyDecision), .QuotaDecided (some _), .RateLimitDecided (some _),
      .EventId id, .Clock createdAt] =>
      ([], [AuditLogger.denialEvent id requestId DENIAL_REASON_RATE_LIMITED user model
        resolvedModel (some policyDecision) createdAt])
  | [.Authenticated requestId (some (some user)), .Resolved (some resolvedModel),
      .PolicyDecided (some policyDecision), .QuotaDecided (some quotaDecision),
      .RateLimitDecided (some _), .Clock createdAt, .EventId usageEventId,
      .EventId auditEventId, .UsageStored stored] =>
      (usage.toList.map fun counts => AuditLogger.usageEvent usageEventId requestId user model
          resolvedModel counts quotaDecision.usageSnapshot latencyMs createdAt,
        if stored then [AuditLogger.successEvent auditEventId requestId user model resolvedModel
          policyDecision createdAt] else [])
  | _ => ([], [])

def requestedModel (body : Value) : Value :=
  match body.get "model" with
  | .ok model => model
  | .error _ => .None

-- The ledgers of the log are the expected ones.
def Ledgered (python : Interpreter) (body : Value) (log : Log) : Prop :=
  ledgers log = expectedLedgers (requestedModel body) (obtainedUsage python log) (latency log)
    (observations log)

section Runs

variable {python : Interpreter} {requestId : String} {body : Value}

theorem requestedModel_of_item {model : Value} (h : raising (body.item "model") = .ok model) :
    requestedModel body = model := by
  have hitem := raising_eq_ok h
  cases body with
  | Mapping entries =>
      simp only [Value.item] at hitem
      split at hitem
      · rename_i found hfound
        cases hitem
        simp [requestedModel, hfound]
      · cases hitem
  | _ => cases hitem

theorem requestedModel_of_get {model : Value} (h : raising (body.get "model") = .ok model) :
    requestedModel body = model := by
  rw [requestedModel, raising_eq_ok h]

theorem actor_eq_user {authenticated : AuthenticatedRequestContext} {user : Option UserContext}
    (h : raising (AuditLogger.actor (some authenticated)) = .ok user) :
    authenticated.request.user = user := by
  obtain ⟨found, hfound, rfl⟩ := map_eq_ok.mp (raising_eq_ok h)
  exact AuthenticatedRequestContext.user_eq_ok hfound

-- A denial in the audit log, or one that stopped for want of a user.
inductive RefusalRecord (requestId denialReason : String)
    (authenticated : AuthenticatedRequestContext) (model : Value) (resolvedModel : Option String)
    (policyDecision : PolicyDecision) : Log → Prop
  | NoUser (id : String) :
      RefusalRecord requestId denialReason authenticated model resolvedModel policyDecision
        [⟨.EventId, id⟩]
  | Recorded (id : String) (createdAt : Int) (reply : Except Failure Unit) :
      RefusalRecord requestId denialReason authenticated model resolvedModel policyDecision
        [⟨.EventId, id⟩, ⟨.Clock, createdAt⟩,
          answered (.RecordAudit (AuditLogger.denialEvent id requestId denialReason
            authenticated.request.user model resolvedModel (some policyDecision) createdAt)) reply]

theorem DenyRun.refusal {denialReason : String} {authenticated : AuthenticatedRequestContext}
    {model : Value} {resolvedModel : Option String} {policyDecision : PolicyDecision}
    {refusal : ServiceError} {record : Log} {outcome : Except Failure MessageResponse}
    (h : DenyRun true requestId denialReason authenticated model resolvedModel policyDecision
      refusal record outcome) :
    RefusalRecord requestId denialReason authenticated model resolvedModel policyDecision
      record := by
  have hrecorded : ∀ {result : Except Failure Unit},
      DenialRun requestId denialReason (some authenticated) model resolvedModel
        (some policyDecision) record result →
      RefusalRecord requestId denialReason authenticated model resolvedModel policyDecision
        record := by
    intro result hrecord
    cases hrecord with
    | NoUser id error huser => exact .NoUser id
    | Recorded id createdAt user reply huser =>
        rw [← actor_eq_user huser]
        exact .Recorded id createdAt result
  cases h with
  | Unlogged haudited => cases haudited
  | Logged _ haudited hrecord => exact hrecorded hrecord
  | Lost _ error haudited hrecord => exact hrecorded hrecord

-- What has been observed of a request when it passes the last gate.
def admitted (admission : Admission) (user : UserContext) (allowed : Bool) : List Observation := [
  .Authenticated admission.requestId (some (some user)),
  .Resolved (some admission.resolvedModel.bedrockModelId),
  .PolicyDecided (some admission.policyDecision),
  .QuotaDecided (some admission.quotaDecision),
  .RateLimitDecided (some allowed)]

-- The record of an admitted request, behind a log that has nothing else to say.
theorem recordAdmitted_ledgered {admission : Admission} {user : UserContext} {allowed : Bool}
    {usage : Value} {before record : Log} {outcome : Except Failure Unit}
    (huser : raising admission.authenticated.user = .ok user)
    (hmodel : requestedModel body = admission.model) (hledgers : ledgers before = ([], []))
    (hobserved : observations before = admitted admission user allowed)
    (hstart : before.filterMap perfCounter? = [admission.startedAt])
    (husage : obtainedUsage python (before ++ record) =
      (AuditLogger.readUsage python usage).toOption)
    (h : (recordAdmitted python admission usage).Traces record outcome) :
    Ledgered python body (before ++ record) := by
  have hsplit : ledgers (before ++ record) = ledgers record := by
    obtain ⟨husageEvents, hauditEvents⟩ := Prod.mk.inj hledgers
    rw [ledgers, usageEvents_append, auditEvents_append, husageEvents, hauditEvents]
    rfl
  have hobservations : observations (before ++ record) =
      admitted admission user allowed ++ observations record := by
    rw [← hobserved]
    exact List.filterMap_append
  have hlatency : (before ++ record).filterMap perfCounter? =
      admission.startedAt :: record.filterMap perfCounter? := by
    rw [List.filterMap_append, hstart]
    rfl
  rw [Ledgered, hsplit, husage, hmodel, hobservations, latency, hlatency]
  obtain ⟨now, record, rfl, hrecord⟩ := recordAdmitted_run h
  cases hrecord with
  | NoUser createdAt usageEventId error huser' => rfl
  | Uncounted createdAt usageEventId user' error huser' hcounts => rfl
  | UsageLost createdAt usageEventId auditEventId user' counts error huser' hcounts =>
      rw [huser] at huser'
      cases huser'
      rw [raising_eq_ok hcounts]
      rfl
  | Recorded createdAt usageEventId auditEventId user' counts reply huser' hcounts =>
      rw [huser] at huser'
      cases huser'
      rw [raising_eq_ok hcounts]
      rfl

-- A record asks nothing of the provider.
theorem recordAdmitted_silent {admission : Admission} {usage : Value} {record : Log}
    {outcome : Except Failure Unit}
    (h : (recordAdmitted python admission usage).Traces record outcome) :
    record.any isStreamed = false ∧ record.findSome? (responseUsage? python) = none ∧
      fetchedEvents record = [] := by
  obtain ⟨now, record, rfl, hrecord⟩ := recordAdmitted_run h
  cases hrecord <;> exact ⟨rfl, rfl, rfl⟩

-- The log of a request up to its last gate.
def gates (http : HttpRequest) (admission : Admission) (user : UserContext)
    (rateLimitDecision : RateLimitDecision) : Log := [
  ⟨.PerfCounter, admission.startedAt⟩,
  answered (.Authenticate http.authorization admission.requestId) (.ok admission.authenticated),
  answered (.Resolve admission.model) (.ok admission.resolvedModel),
  answered (.EvaluatePolicy admission.authenticated.userRecord admission.model [])
    (.ok admission.policyDecision),
  answered (.EvaluateQuota [] 0 none admission.resolvedModel.bedrockModelId none)
    (.ok admission.quotaDecision),
  answered (.CheckRateLimit user.userId) (.ok rateLimitDecision)]

theorem gates_observed {http : HttpRequest} {admission : Admission} {user : UserContext}
    {rateLimitDecision : RateLimitDecision}
    (huser : raising admission.authenticated.user = .ok user) :
    observations (gates http admission user rateLimitDecision) =
      admitted admission user rateLimitDecision.allowed := by
  rw [admitted, ← AuthenticatedRequestContext.user_eq_ok (raising_eq_ok huser)]
  rfl

-- The calls of a request that does not stream.
def conversation (admission : Admission) (converseRequest : ConverseRequest)
    (rawResponse parsedResponse : Value) : Log := [
  answered (.BuildConverseRequest admission.body admission.resolvedModel) (.ok converseRequest),
  answered (.Converse converseRequest) (.ok rawResponse),
  answered (.ParseConverseResponse rawResponse admission.model) (.ok parsedResponse)]

theorem conversation_usage {http : HttpRequest} {admission : Admission} {user : UserContext}
    {rateLimitDecision : RateLimitDecision} {converseRequest : ConverseRequest}
    {rawResponse parsedResponse usage : Value} {record : Log} {outcome : Except Failure Unit}
    (husage : raising (parsedResponse.item "usage") = .ok usage)
    (h : (recordAdmitted python admission usage).Traces record outcome) :
    obtainedUsage python (gates http admission user rateLimitDecision ++
      conversation admission converseRequest rawResponse parsedResponse ++ record) =
      (AuditLogger.readUsage python usage).toOption := by
  obtain ⟨hstreamed, hresponse, -⟩ := recordAdmitted_silent h
  have hread : responseUsage? python (answered (.ParseConverseResponse rawResponse admission.model)
      (.ok parsedResponse)) = (AuditLogger.readUsage python usage).toOption := by
    change (parsedResponse.item "usage" >>= AuditLogger.readUsage python).toOption = _
    rw [raising_eq_ok husage]
    rfl
  rw [obtainedUsage, List.any_append, hstreamed, List.findSome?_append, hresponse, Option.or_none]
  simp only [gates, conversation, List.cons_append, List.nil_append, List.findSome?_cons, hread]
  cases AuditLogger.readUsage python usage <;> rfl

theorem InvocationRun.ledgered {http : HttpRequest} {admission : Admission} {user : UserContext}
    {rateLimitDecision : RateLimitDecision} {tail : Log}
    {outcome : Except Failure MessageResponse}
    (huser : raising admission.authenticated.user = .ok user)
    (hmodel : requestedModel body = admission.model)
    (h : InvocationRun python true admission tail outcome)
    (hjson : ∀ stream, outcome ≠ .ok (.Streaming stream)) :
    Ledgered python body (gates http admission user rateLimitDecision ++ tail) := by
  have hrecorded : ∀ {converseRequest : ConverseRequest} {rawResponse parsedResponse usage : Value}
      {record : Log} {result : Except Failure Unit},
      raising (parsedResponse.item "usage") = .ok usage →
      (recordAdmitted python admission usage).Traces record result →
      Ledgered python body (gates http admission user rateLimitDecision ++
        conversation admission converseRequest rawResponse parsedResponse ++ record) :=
    fun husage hrecord => recordAdmitted_ledgered huser hmodel rfl (gates_observed huser) rfl
      (conversation_usage husage hrecord) hrecord
  cases h with
  | Streamed converseRequest events hstream => exact absurd rfl (hjson _)
  | Unlogged converseRequest rawResponse parsedResponse hstream haudited => cases haudited
  | Lost converseRequest rawResponse parsedResponse usage record error hstream haudited husage
      hrecord => exact hrecorded husage hrecord
  | Recorded converseRequest rawResponse parsedResponse usage record hstream haudited husage
      hrecord => exact hrecorded husage hrecord
  | _ => rfl

-- The authentication and the guarded part of a request that does not stream.
theorem PipelineRun.ledgered {http : HttpRequest} {startedAt : Rat}
    {authenticated : AuthenticatedRequestContext} {tail : Log}
    {outcome : Except Failure MessageResponse}
    (h : PipelineRun python true body requestId startedAt authenticated tail outcome)
    (hjson : ∀ stream, outcome ≠ .ok (.Streaming stream)) :
    Ledgered python body (⟨.PerfCounter, startedAt⟩ ::
      answered (.Authenticate http.authorization requestId) (.ok authenticated) :: tail) := by
  cases h with
  | NoModel error hmodel => rfl
  | ResolveRaised model error hmodel => rfl
  | PolicyRaised model resolvedModel error hmodel => rfl
  | PolicyDenied model resolvedModel policyDecision record outcome hmodel hdenied hrecord =>
      rw [Ledgered, requestedModel_of_item hmodel]
      cases hrecord.refusal <;> rfl
  | QuotaRaised model resolvedModel policyDecision error hmodel hpolicy => rfl
  | QuotaDenied model resolvedModel policyDecision quotaDecision record outcome hmodel hpolicy
      hdenied hrecord =>
      rw [Ledgered, requestedModel_of_item hmodel]
      cases hrecord.refusal <;> rfl
  | NoUser model resolvedModel policyDecision quotaDecision error hmodel hpolicy hquota huser => rfl
  | RateRaised model resolvedModel policyDecision quotaDecision user error hmodel hpolicy hquota
      huser => rfl
  | RateDenied model resolvedModel policyDecision quotaDecision user rateLimitDecision record
      outcome hmodel hpolicy hquota huser hdenied hrecord =>
      rw [Ledgered, requestedModel_of_item hmodel]
      cases hrecord.refusal <;> rfl
  | Admitted admission user rateLimitDecision tail outcome hbody hid hstart hauthenticated hmodel
      hpolicy hquota huser hrate hinvocation =>
      subst hbody hid hstart hauthenticated
      exact hinvocation.ledgered huser (requestedModel_of_item hmodel) hjson

theorem RequestIdRun.ledgered {http : HttpRequest} {idLog rest : Log}
    (hid : RequestIdRun http idLog requestId) (h : Ledgered python body rest) :
    Ledgered python body (idLog ++ rest) := by
  cases hid with
  | Own requestId hown hstrip => exact h
  | Generated requestId hown => exact h

theorem MessageRun.ledgered {http : HttpRequest} {log : Log}
    {outcome : Except Failure MessageResponse} (hbody : http.json = .ok body)
    (h : MessageRun python true http log outcome)
    (hjson : ∀ stream, outcome ≠ .ok (.Streaming stream)) : Ledgered python body log := by
  have hdenied : ∀ {idLog record : Log} {requestId : String} {startedAt : Rat} {error : Failure}
      {model : Value} {result : Except Failure Unit}, RequestIdRun http idLog requestId →
      raising (body.get "model") = .ok model →
      DenialRun requestId DENIAL_REASON_AUTHENTICATION_FAILED none model none none record result →
      Ledgered python body (idLog ++ ⟨.PerfCounter, startedAt⟩ ::
        answered (.Authenticate http.authorization requestId) (.error error) :: record) := by
    intro idLog record requestId startedAt error model result hid hmodel hrecord
    refine hid.ledgered ?_
    rw [Ledgered, requestedModel_of_get hmodel]
    cases hrecord with
    | NoUser id error huser => rfl
    | Recorded id createdAt user reply huser =>
        cases huser
        rfl
  cases h with
  | Unreadable error hbody' => rfl
  | Unauthenticated body' idLog requestId startedAt error hbody' hid haudited => cases haudited
  | NoModel body' idLog requestId startedAt error error' hbody' hid haudited hmodel =>
      exact hid.ledgered rfl
  | Lost body' model idLog record requestId startedAt error error' hbody' hid haudited hmodel
      hrecord =>
      rw [hbody] at hbody'
      cases hbody'
      exact hdenied hid hmodel hrecord
  | Refused body' model idLog record requestId startedAt error hbody' hid haudited hmodel hrecord =>
      rw [hbody] at hbody'
      cases hbody'
      exact hdenied hid hmodel hrecord
  | Authenticated body' idLog tail requestId startedAt authenticated outcome hbody' hid hpipeline =>
      rw [hbody] at hbody'
      cases hbody'
      refine hid.ledgered (hpipeline.ledgered ?_)
      rintro stream rfl
      exact hjson stream rfl

-- The calls of a request that streams, up to its first frame.
def opening (body : Value) (admission : Admission) (converseRequest : ConverseRequest)
    (events : List Value) : Log := [
  answered (.BuildConverseRequest body admission.resolvedModel) (.ok converseRequest),
  answered (.ConverseStream converseRequest) (.ok events)]

end Runs

section Samples

end Samples

end ClaudeCodeProxy
