import ClaudeCodeProxy.Api.ProxyRouter

namespace ClaudeCodeProxy

open Effects Python

section Recording

variable (python : Interpreter)

-- A recorded success: the clock, an id for each event, the usage, then the audit event.
inductive SuccessRun (authenticated : AuthenticatedRequestContext) (requestId : String)
    (requestedModel : Value) (resolvedModel : Option String) (policyDecision : PolicyDecision)
    (usage : Value) (usageSnapshot : Option UsageCostSnapshot) (latencyMs : Option Int) :
    Log → Except Failure Unit → Prop
  | NoUser (createdAt : Int) (usageEventId : String) (error : Failure)
      (huser : raising authenticated.user = .error error) :
      SuccessRun authenticated requestId requestedModel resolvedModel policyDecision usage
        usageSnapshot latencyMs
        [⟨.Clock, createdAt⟩, ⟨.EventId, usageEventId⟩] (.error error)
  | Uncounted (createdAt : Int) (usageEventId : String) (user : UserContext)
      (error : Failure) (huser : raising authenticated.user = .ok user)
      (hcounts : raising (AuditLogger.readUsage python usage) = .error error) :
      SuccessRun authenticated requestId requestedModel resolvedModel policyDecision usage
        usageSnapshot latencyMs
        [⟨.Clock, createdAt⟩, ⟨.EventId, usageEventId⟩] (.error error)
  | UsageLost (createdAt : Int) (usageEventId auditEventId : String) (user : UserContext)
      (counts : Usage) (error : Failure) (huser : raising authenticated.user = .ok user)
      (hcounts : raising (AuditLogger.readUsage python usage) = .ok counts) :
      SuccessRun authenticated requestId requestedModel resolvedModel policyDecision usage
        usageSnapshot latencyMs
        [⟨.Clock, createdAt⟩, ⟨.EventId, usageEventId⟩, ⟨.EventId, auditEventId⟩,
          answered (.RecordUsage (AuditLogger.usageEvent usageEventId requestId user
            requestedModel resolvedModel counts usageSnapshot latencyMs createdAt))
            (.error error)]
        (.error error)
  | Recorded (createdAt : Int) (usageEventId auditEventId : String) (user : UserContext)
      (counts : Usage) (reply : Except Failure Unit) (huser : raising authenticated.user = .ok user)
      (hcounts : raising (AuditLogger.readUsage python usage) = .ok counts) :
      SuccessRun authenticated requestId requestedModel resolvedModel policyDecision usage
        usageSnapshot latencyMs
        [⟨.Clock, createdAt⟩, ⟨.EventId, usageEventId⟩, ⟨.EventId, auditEventId⟩,
          answered (.RecordUsage (AuditLogger.usageEvent usageEventId requestId user
            requestedModel resolvedModel counts usageSnapshot latencyMs createdAt)) (.ok ()),
          answered (.RecordAudit (AuditLogger.successEvent auditEventId requestId user
            requestedModel resolvedModel policyDecision createdAt)) reply]
        reply

-- A recorded denial: an id, the clock, the audit event.
inductive DenialRun (requestId denialReason : String)
    (authenticated : Option AuthenticatedRequestContext) (requestedModel : Value)
    (resolvedModel : Option String) (policyDecision : Option PolicyDecision) :
    Log → Except Failure Unit → Prop
  | NoUser (id : String) (error : Failure)
      (huser : raising (AuditLogger.actor authenticated) = .error error) :
      DenialRun requestId denialReason authenticated requestedModel resolvedModel policyDecision
        [⟨.EventId, id⟩] (.error error)
  | Recorded (id : String) (createdAt : Int) (user : Option UserContext)
      (reply : Except Failure Unit)
      (huser : raising (AuditLogger.actor authenticated) = .ok user) :
      DenialRun requestId denialReason authenticated requestedModel resolvedModel policyDecision
        [⟨.EventId, id⟩, ⟨.Clock, createdAt⟩,
          answered (.RecordAudit (AuditLogger.denialEvent id requestId denialReason user
            requestedModel resolvedModel policyDecision createdAt)) reply]
        reply

variable {python}

theorem recordSuccess_run {authenticated : AuthenticatedRequestContext} {requestId : String}
    {requestedModel : Value} {resolvedModel : Option String} {policyDecision : PolicyDecision}
    {usage : Value} {usageSnapshot : Option UsageCostSnapshot} {latencyMs : Option Int}
    {log : Log} {outcome : Except Failure Unit}
    (h : (AuditLogger.recordSuccess python authenticated requestId requestedModel resolvedModel
      policyDecision usage usageSnapshot latencyMs).Traces log outcome) :
    SuccessRun python authenticated requestId requestedModel resolvedModel policyDecision usage
      usageSnapshot latencyMs log outcome := by
  simp only [AuditLogger.recordSuccess, traces_request_bind, traces_ofExcept_bind] at h
  obtain ⟨createdAt, tail, rfl, usageEventId, tail, rfl, h⟩ := h
  rcases h with ⟨error, huser, rfl, rfl⟩ | ⟨user, huser, h⟩
  · exact .NoUser createdAt usageEventId error huser
  rcases h with ⟨error, hcounts, rfl, rfl⟩ | ⟨counts, hcounts, h⟩
  · exact .Uncounted createdAt usageEventId user error huser hcounts
  obtain ⟨auditEventId, tail, rfl, h⟩ := h
  replace h := (traces_recordUsage_bind _ _ _ _).mp h
  rcases h with ⟨error, rfl, rfl⟩ | ⟨tail, rfl, h⟩
  · exact .UsageLost createdAt usageEventId auditEventId user counts error huser hcounts
  · cases (traces_attempt _ _ _).mp h
    exact .Recorded createdAt usageEventId auditEventId user counts outcome huser hcounts

theorem recordDenial_run {requestId denialReason : String}
    {authenticated : Option AuthenticatedRequestContext} {requestedModel : Value}
    {resolvedModel : Option String} {policyDecision : Option PolicyDecision}
    {log : Log} {outcome : Except Failure Unit}
    (h : (AuditLogger.recordDenial requestId denialReason authenticated requestedModel
      resolvedModel policyDecision).Traces log outcome) :
    DenialRun requestId denialReason authenticated requestedModel resolvedModel policyDecision
      log outcome := by
  simp only [AuditLogger.recordDenial, traces_request_bind, traces_ofExcept_bind] at h
  obtain ⟨id, tail, rfl, h⟩ := h
  rcases h with ⟨error, huser, rfl, rfl⟩ | ⟨user, huser, createdAt, tail, rfl, h⟩
  · exact .NoUser id error huser
  · cases (traces_attempt _ _ _).mp h
    exact .Recorded id createdAt user outcome huser

end Recording

section Pipeline

variable (python : Interpreter) (audited : Bool)

-- A refusal that is recorded, or not when there is no audit log, and then answered.
inductive DenyRun (requestId denialReason : String) (authenticated : AuthenticatedRequestContext)
    (model : Value) (resolvedModel : Option String) (policyDecision : PolicyDecision)
    (refusal : ServiceError) : Log → Except Failure MessageResponse → Prop
  | Unlogged (haudited : audited = false) :
      DenyRun requestId denialReason authenticated model resolvedModel policyDecision refusal
        [] (errorResponse (.ServiceError refusal) requestId)
  | Logged (record : Log) (haudited : audited = true)
      (hrecord : DenialRun requestId denialReason (some authenticated) model resolvedModel
        (some policyDecision) record (.ok ())) :
      DenyRun requestId denialReason authenticated model resolvedModel policyDecision refusal
        record (errorResponse (.ServiceError refusal) requestId)
  | Lost (record : Log) (error : Failure) (haudited : audited = true)
      (hrecord : DenialRun requestId denialReason (some authenticated) model resolvedModel
        (some policyDecision) record (.error error)) :
      DenyRun requestId denialReason authenticated model resolvedModel policyDecision refusal
        record (.error error)

-- From the last gate on: what was called, and what came of it.
inductive InvocationRun (admission : Admission) : Log → Except Failure MessageResponse → Prop
  | BuildRaised (error : Failure) :
      InvocationRun admission
        [answered (.BuildConverseRequest admission.body admission.resolvedModel) (.error error)]
        (.error error)
  | StreamRaised (converseRequest : ConverseRequest) (error : Failure)
      (hstream : converseRequest.operation = "converse_stream") :
      InvocationRun admission
        [answered (.BuildConverseRequest admission.body admission.resolvedModel)
            (.ok converseRequest),
          answered (.ConverseStream converseRequest) (.error error)]
        (.error error)
  | Streamed (converseRequest : ConverseRequest) (events : List Value)
      (hstream : converseRequest.operation = "converse_stream") :
      InvocationRun admission
        [answered (.BuildConverseRequest admission.body admission.resolvedModel)
            (.ok converseRequest),
          answered (.ConverseStream converseRequest) (.ok events)]
        (.ok (.Streaming ⟨admission, { model := admission.model }, events⟩))
  | ConverseRaised (converseRequest : ConverseRequest) (error : Failure)
      (hstream : converseRequest.operation ≠ "converse_stream") :
      InvocationRun admission
        [answered (.BuildConverseRequest admission.body admission.resolvedModel)
            (.ok converseRequest),
          answered (.Converse converseRequest) (.error error)]
        (.error error)
  | ParseRaised (converseRequest : ConverseRequest) (rawResponse : Value) (error : Failure)
      (hstream : converseRequest.operation ≠ "converse_stream") :
      InvocationRun admission
        [answered (.BuildConverseRequest admission.body admission.resolvedModel)
            (.ok converseRequest),
          answered (.Converse converseRequest) (.ok rawResponse),
          answered (.ParseConverseResponse rawResponse admission.model) (.error error)]
        (.error error)
  | Unlogged (converseRequest : ConverseRequest) (rawResponse parsedResponse : Value)
      (hstream : converseRequest.operation ≠ "converse_stream") (haudited : audited = false) :
      InvocationRun admission
        [answered (.BuildConverseRequest admission.body admission.resolvedModel)
            (.ok converseRequest),
          answered (.Converse converseRequest) (.ok rawResponse),
          answered (.ParseConverseResponse rawResponse admission.model) (.ok parsedResponse)]
        ((jsonResponse 200 parsedResponse).map .Json)
  | NoUsage (converseRequest : ConverseRequest) (rawResponse parsedResponse : Value)
      (error : Failure) (hstream : converseRequest.operation ≠ "converse_stream")
      (haudited : audited = true) (husage : raising (parsedResponse.item "usage") = .error error) :
      InvocationRun admission
        [answered (.BuildConverseRequest admission.body admission.resolvedModel)
            (.ok converseRequest),
          answered (.Converse converseRequest) (.ok rawResponse),
          answered (.ParseConverseResponse rawResponse admission.model) (.ok parsedResponse)]
        (.error error)
  | Lost (converseRequest : ConverseRequest) (rawResponse parsedResponse usage : Value)
      (record : Log) (error : Failure) (hstream : converseRequest.operation ≠ "converse_stream")
      (haudited : audited = true) (husage : raising (parsedResponse.item "usage") = .ok usage)
      (hrecord : (recordAdmitted python admission usage).Traces record (.error error)) :
      InvocationRun admission
        (answered (.BuildConverseRequest admission.body admission.resolvedModel)
            (.ok converseRequest) ::
          answered (.Converse converseRequest) (.ok rawResponse) ::
          answered (.ParseConverseResponse rawResponse admission.model) (.ok parsedResponse) ::
          record)
        (.error error)
  | Recorded (converseRequest : ConverseRequest) (rawResponse parsedResponse usage : Value)
      (record : Log) (hstream : converseRequest.operation ≠ "converse_stream")
      (haudited : audited = true) (husage : raising (parsedResponse.item "usage") = .ok usage)
      (hrecord : (recordAdmitted python admission usage).Traces record (.ok ())) :
      InvocationRun admission
        (answered (.BuildConverseRequest admission.body admission.resolvedModel)
            (.ok converseRequest) ::
          answered (.Converse converseRequest) (.ok rawResponse) ::
          answered (.ParseConverseResponse rawResponse admission.model) (.ok parsedResponse) ::
          record)
        ((jsonResponse 200 parsedResponse).map .Json)

-- The guarded part of the handler: the gate that raised or refused, or the invocation.
inductive PipelineRun (body : Value) (requestId : String) (startedAt : Rat)
    (authenticated : AuthenticatedRequestContext) :
    Log → Except Failure MessageResponse → Prop
  | NoModel (error : Failure) (hmodel : raising (body.item "model") = .error error) :
      PipelineRun body requestId startedAt authenticated [] (.error error)
  | ResolveRaised (model : Value) (error : Failure)
      (hmodel : raising (body.item "model") = .ok model) :
      PipelineRun body requestId startedAt authenticated
        [answered (.Resolve model) (.error error)] (.error error)
  | PolicyRaised (model : Value) (resolvedModel : ResolvedModel) (error : Failure)
      (hmodel : raising (body.item "model") = .ok model) :
      PipelineRun body requestId startedAt authenticated
        [answered (.Resolve model) (.ok resolvedModel),
          answered (.EvaluatePolicy authenticated.userRecord model []) (.error error)]
        (.error error)
  | PolicyDenied (model : Value) (resolvedModel : ResolvedModel) (policyDecision : PolicyDecision)
      (record : Log) (outcome : Except Failure MessageResponse)
      (hmodel : raising (body.item "model") = .ok model)
      (hdenied : policyDecision.allowed = false)
      (hrecord : DenyRun audited requestId (reasonOr policyDecision.denialReason "policy_denied")
        authenticated model resolvedModel.bedrockModelId policyDecision
        (accessDeniedError requestId none (blockedMessage "policy" policyDecision.denialReason))
        record outcome) :
      PipelineRun body requestId startedAt authenticated
        (answered (.Resolve model) (.ok resolvedModel) ::
          answered (.EvaluatePolicy authenticated.userRecord model []) (.ok policyDecision) ::
          record)
        outcome
  | QuotaRaised (model : Value) (resolvedModel : ResolvedModel) (policyDecision : PolicyDecision)
      (error : Failure) (hmodel : raising (body.item "model") = .ok model)
      (hpolicy : policyDecision.allowed = true) :
      PipelineRun body requestId startedAt authenticated
        [answered (.Resolve model) (.ok resolvedModel),
          answered (.EvaluatePolicy authenticated.userRecord model []) (.ok policyDecision),
          answered (.EvaluateQuota [] 0 none resolvedModel.bedrockModelId none) (.error error)]
        (.error error)
  | QuotaDenied (model : Value) (resolvedModel : ResolvedModel) (policyDecision : PolicyDecision)
      (quotaDecision : QuotaDecision) (record : Log) (outcome : Except Failure MessageResponse)
      (hmodel : raising (body.item "model") = .ok model)
      (hpolicy : policyDecision.allowed = true) (hdenied : quotaDecision.allowed = false)
      (hrecord : DenyRun audited requestId
        (reasonOr quotaDecision.denialReason DENIAL_QUOTA_HARD_LIMIT_EXCEEDED)
        authenticated model resolvedModel.bedrockModelId policyDecision
        (accessDeniedError requestId none (blockedMessage "quota" quotaDecision.denialReason))
        record outcome) :
      PipelineRun body requestId startedAt authenticated
        (answered (.Resolve model) (.ok resolvedModel) ::
          answered (.EvaluatePolicy authenticated.userRecord model []) (.ok policyDecision) ::
          answered (.EvaluateQuota [] 0 none resolvedModel.bedrockModelId none)
            (.ok quotaDecision) ::
          record)
        outcome
  | NoUser (model : Value) (resolvedModel : ResolvedModel) (policyDecision : PolicyDecision)
      (quotaDecision : QuotaDecision) (error : Failure)
      (hmodel : raising (body.item "model") = .ok model)
      (hpolicy : policyDecision.allowed = true) (hquota : quotaDecision.allowed = true)
      (huser : raising authenticated.user = .error error) :
      PipelineRun body requestId startedAt authenticated
        [answered (.Resolve model) (.ok resolvedModel),
          answered (.EvaluatePolicy authenticated.userRecord model []) (.ok policyDecision),
          answered (.EvaluateQuota [] 0 none resolvedModel.bedrockModelId none)
            (.ok quotaDecision)]
        (.error error)
  | RateRaised (model : Value) (resolvedModel : ResolvedModel) (policyDecision : PolicyDecision)
      (quotaDecision : QuotaDecision) (user : UserContext) (error : Failure)
      (hmodel : raising (body.item "model") = .ok model)
      (hpolicy : policyDecision.allowed = true) (hquota : quotaDecision.allowed = true)
      (huser : raising authenticated.user = .ok user) :
      PipelineRun body requestId startedAt authenticated
        [answered (.Resolve model) (.ok resolvedModel),
          answered (.EvaluatePolicy authenticated.userRecord model []) (.ok policyDecision),
          answered (.EvaluateQuota [] 0 none resolvedModel.bedrockModelId none)
            (.ok quotaDecision),
          answered (.CheckRateLimit user.userId) (.error error)]
        (.error error)
  | RateDenied (model : Value) (resolvedModel : ResolvedModel) (policyDecision : PolicyDecision)
      (quotaDecision : QuotaDecision) (user : UserContext) (rateLimitDecision : RateLimitDecision)
      (record : Log) (outcome : Except Failure MessageResponse)
      (hmodel : raising (body.item "model") = .ok model)
      (hpolicy : policyDecision.allowed = true) (hquota : quotaDecision.allowed = true)
      (huser : raising authenticated.user = .ok user)
      (hdenied : rateLimitDecision.allowed = false)
      (hrecord : DenyRun audited requestId DENIAL_REASON_RATE_LIMITED
        authenticated model resolvedModel.bedrockModelId policyDecision
        (rateLimitExceededError requestId none (some (retryAfterHeaders rateLimitDecision)))
        record outcome) :
      PipelineRun body requestId startedAt authenticated
        (answered (.Resolve model) (.ok resolvedModel) ::
          answered (.EvaluatePolicy authenticated.userRecord model []) (.ok policyDecision) ::
          answered (.EvaluateQuota [] 0 none resolvedModel.bedrockModelId none)
            (.ok quotaDecision) ::
          answered (.CheckRateLimit user.userId) (.ok rateLimitDecision) ::
          record)
        outcome
  | Admitted (admission : Admission) (user : UserContext) (rateLimitDecision : RateLimitDecision)
      (tail : Log) (outcome : Except Failure MessageResponse)
      (hbody : admission.body = body) (hid : admission.requestId = requestId)
      (hstart : admission.startedAt = startedAt)
      (hauthenticated : admission.authenticated = authenticated)
      (hmodel : raising (body.item "model") = .ok admission.model)
      (hpolicy : admission.policyDecision.allowed = true)
      (hquota : admission.quotaDecision.allowed = true)
      (huser : raising authenticated.user = .ok user) (hrate : rateLimitDecision.allowed = true)
      (hinvocation : InvocationRun python audited admission tail outcome) :
      PipelineRun body requestId startedAt authenticated
        (answered (.Resolve admission.model) (.ok admission.resolvedModel) ::
          answered (.EvaluatePolicy authenticated.userRecord admission.model [])
            (.ok admission.policyDecision) ::
          answered (.EvaluateQuota [] 0 none admission.resolvedModel.bedrockModelId none)
            (.ok admission.quotaDecision) ::
          answered (.CheckRateLimit user.userId) (.ok rateLimitDecision) ::
          tail)
        outcome

variable {python audited}

theorem deny_run {requestId denialReason : String} {authenticated : AuthenticatedRequestContext}
    {model : Value} {resolvedModel : Option String} {policyDecision : PolicyDecision}
    {refusal : ServiceError} {log : Log} {outcome : Except Failure MessageResponse}
    (h : (deny audited requestId denialReason authenticated model resolvedModel policyDecision
      refusal).Traces log outcome) :
    DenyRun audited requestId denialReason authenticated model resolvedModel policyDecision
      refusal log outcome := by
  cases haudited : audited with
  | false =>
      simp only [deny, haudited, Bool.false_eq_true, ite_false, traces_ofExcept] at h
      obtain ⟨rfl, rfl⟩ := h
      exact .Unlogged rfl
  | true =>
      simp only [deny, haudited, ite_true, Program.traces_bind, traces_ofExcept] at h
      rcases h with ⟨error, hrecord, rfl⟩ | ⟨record, _, _, rfl, hrecord, rfl, rfl⟩
      · exact .Lost log error rfl (recordDenial_run hrecord)
      · rw [List.append_nil]
        exact .Logged record rfl (recordDenial_run hrecord)

theorem invokeBedrock_run {admission : Admission} {log : Log}
    {outcome : Except Failure MessageResponse}
    (h : (invokeBedrock python audited admission).Traces log outcome) :
    InvocationRun python audited admission log outcome := by
  simp only [invokeBedrock, traces_attempt_bind] at h
  rcases h with ⟨error, rfl, rfl⟩ | ⟨converseRequest, tail, rfl, h⟩
  · exact .BuildRaised error
  by_cases hstream : converseRequest.operation = "converse_stream"
  · simp only [hstream, ite_true, traces_attempt_bind] at h
    rcases h with ⟨error, rfl, rfl⟩ | ⟨events, tail, rfl, rfl, rfl⟩
    · exact .StreamRaised converseRequest error hstream
    · exact .Streamed converseRequest events hstream
  simp only [hstream, ite_false, traces_attempt_bind] at h
  rcases h with ⟨error, rfl, rfl⟩ | ⟨rawResponse, tail, rfl, h⟩
  · exact .ConverseRaised converseRequest error hstream
  rcases h with ⟨error, rfl, rfl⟩ | ⟨parsedResponse, tail, rfl, h⟩
  · exact .ParseRaised converseRequest rawResponse error hstream
  cases haudited : audited with
  | false =>
      simp only [haudited, Bool.false_eq_true, ite_false, traces_ofExcept] at h
      obtain ⟨rfl, rfl⟩ := h
      exact .Unlogged converseRequest rawResponse parsedResponse hstream rfl
  | true =>
      simp only [haudited, ite_true, traces_ofExcept_bind] at h
      rcases h with ⟨error, husage, rfl, rfl⟩ | ⟨usage, husage, h⟩
      · exact .NoUsage converseRequest rawResponse parsedResponse error hstream rfl husage
      simp only [Program.traces_bind, traces_ofExcept] at h
      rcases h with ⟨error, hrecord, rfl⟩ | ⟨record, _, _, rfl, hrecord, rfl, rfl⟩
      · exact .Lost converseRequest rawResponse parsedResponse usage tail error hstream rfl husage
          hrecord
      · rw [List.append_nil]
        exact .Recorded converseRequest rawResponse parsedResponse usage record hstream rfl husage
          hrecord

theorem runPipeline_run {body : Value} {requestId : String} {startedAt : Rat}
    {authenticated : AuthenticatedRequestContext} {log : Log}
    {outcome : Except Failure MessageResponse}
    (h : (runPipeline python audited body requestId startedAt authenticated).Traces log outcome) :
    PipelineRun python audited body requestId startedAt authenticated log outcome := by
  simp only [runPipeline, traces_ofExcept_bind, traces_attempt_bind] at h
  rcases h with ⟨error, hmodel, rfl, rfl⟩ | ⟨model, hmodel, h⟩
  · exact .NoModel error hmodel
  rcases h with ⟨error, rfl, rfl⟩ | ⟨resolvedModel, tail, rfl, h⟩
  · exact .ResolveRaised model error hmodel
  rcases h with ⟨error, rfl, rfl⟩ | ⟨policyDecision, tail, rfl, h⟩
  · exact .PolicyRaised model resolvedModel error hmodel
  cases hpolicy : policyDecision.allowed with
  | false =>
      simp only [hpolicy, Bool.not_false, ite_true] at h
      exact .PolicyDenied model resolvedModel policyDecision tail outcome hmodel hpolicy (deny_run h)
  | true =>
  simp only [hpolicy, Bool.not_true, Bool.false_eq_true, ite_false, traces_attempt_bind] at h
  rcases h with ⟨error, rfl, rfl⟩ | ⟨quotaDecision, tail, rfl, h⟩
  · exact .QuotaRaised model resolvedModel policyDecision error hmodel hpolicy
  cases hquota : quotaDecision.allowed with
  | false =>
      simp only [hquota, Bool.not_false, ite_true] at h
      exact .QuotaDenied model resolvedModel policyDecision quotaDecision tail outcome hmodel
        hpolicy hquota (deny_run h)
  | true =>
  simp only [hquota, Bool.not_true, Bool.false_eq_true, ite_false, traces_ofExcept_bind,
    traces_attempt_bind] at h
  rcases h with ⟨error, huser, rfl, rfl⟩ | ⟨user, huser, h⟩
  · exact .NoUser model resolvedModel policyDecision quotaDecision error hmodel hpolicy hquota huser
  rcases h with ⟨error, rfl, rfl⟩ | ⟨rateLimitDecision, tail, rfl, h⟩
  · exact .RateRaised model resolvedModel policyDecision quotaDecision user error hmodel hpolicy
      hquota huser
  cases hrate : rateLimitDecision.allowed with
  | false =>
      simp only [hrate, Bool.not_false, ite_true] at h
      exact .RateDenied model resolvedModel policyDecision quotaDecision user rateLimitDecision tail
        outcome hmodel hpolicy hquota huser hrate (deny_run h)
  | true =>
      simp only [hrate, Bool.not_true, Bool.false_eq_true, ite_false] at h
      exact .Admitted ⟨body, model, requestId, startedAt, authenticated, resolvedModel,
        policyDecision, quotaDecision⟩ user rateLimitDecision tail outcome rfl rfl rfl rfl hmodel
        hpolicy hquota huser hrate (invokeBedrock_run h)

-- An exception of the guarded part becomes an error response.
def caught (requestId : String) :
    Except Failure MessageResponse → Except Failure MessageResponse
  | .ok response => .ok response
  | .error error => errorResponse error requestId

-- The id of a request is its own, or one generated for it.
inductive RequestIdRun (http : HttpRequest) : Log → String → Prop
  | Own (requestId : String) (hown : http.stateRequestId = .Str requestId)
      (hstrip : Text.strip requestId ≠ "") :
      RequestIdRun http [] requestId
  | Generated (requestId : String)
      (hown : ∀ ownId, http.stateRequestId = .Str ownId → Text.strip ownId = "") :
      RequestIdRun http [⟨.GenerateRequestId, requestId⟩] requestId

-- The handler: an unreadable body, a failed authentication, or the guarded part.
inductive MessageRun (python : Interpreter) (audited : Bool) (http : HttpRequest) :
    Log → Except Failure MessageResponse → Prop
  | Unreadable (error : Failure) (hbody : http.json = .error error) :
      MessageRun python audited http [] (.error error)
  | Unauthenticated (body : Value) (idLog : Log) (requestId : String) (startedAt : Rat)
      (error : Failure) (hbody : http.json = .ok body) (hid : RequestIdRun http idLog requestId)
      (haudited : audited = false) :
      MessageRun python audited http
        (idLog ++ [⟨.PerfCounter, startedAt⟩,
          answered (.Authenticate http.authorization requestId) (.error error)])
        (errorResponse error requestId)
  | NoModel (body : Value) (idLog : Log) (requestId : String) (startedAt : Rat)
      (error error' : Failure) (hbody : http.json = .ok body)
      (hid : RequestIdRun http idLog requestId) (haudited : audited = true)
      (hmodel : raising (body.get "model") = .error error') :
      MessageRun python audited http
        (idLog ++ [⟨.PerfCounter, startedAt⟩,
          answered (.Authenticate http.authorization requestId) (.error error)])
        (.error error')
  | Lost (body model : Value) (idLog record : Log) (requestId : String) (startedAt : Rat)
      (error error' : Failure) (hbody : http.json = .ok body)
      (hid : RequestIdRun http idLog requestId) (haudited : audited = true)
      (hmodel : raising (body.get "model") = .ok model)
      (hrecord : DenialRun requestId DENIAL_REASON_AUTHENTICATION_FAILED none model none none
        record (.error error')) :
      MessageRun python audited http
        (idLog ++ ⟨.PerfCounter, startedAt⟩ ::
          answered (.Authenticate http.authorization requestId) (.error error) :: record)
        (.error error')
  | Refused (body model : Value) (idLog record : Log) (requestId : String) (startedAt : Rat)
      (error : Failure) (hbody : http.json = .ok body)
      (hid : RequestIdRun http idLog requestId) (haudited : audited = true)
      (hmodel : raising (body.get "model") = .ok model)
      (hrecord : DenialRun requestId DENIAL_REASON_AUTHENTICATION_FAILED none model none none
        record (.ok ())) :
      MessageRun python audited http
        (idLog ++ ⟨.PerfCounter, startedAt⟩ ::
          answered (.Authenticate http.authorization requestId) (.error error) :: record)
        (errorResponse error requestId)
  | Authenticated (body : Value) (idLog tail : Log) (requestId : String) (startedAt : Rat)
      (authenticated : AuthenticatedRequestContext) (outcome : Except Failure MessageResponse)
      (hbody : http.json = .ok body) (hid : RequestIdRun http idLog requestId)
      (hpipeline : PipelineRun python audited body requestId startedAt authenticated tail outcome) :
      MessageRun python audited http
        (idLog ++ ⟨.PerfCounter, startedAt⟩ ::
          answered (.Authenticate http.authorization requestId) (.ok authenticated) :: tail)
        (caught requestId outcome)

theorem resolveRequestId_run {http : HttpRequest} {log : Log} {outcome : Except Failure String}
    (h : (resolveRequestId http).Traces log outcome) :
    ∃ requestId, outcome = .ok requestId ∧ RequestIdRun http log requestId := by
  have hgenerated : (∀ ownId, http.stateRequestId = .Str ownId → Text.strip ownId = "") →
      (request .GenerateRequestId).Traces log outcome →
      ∃ requestId, outcome = .ok requestId ∧ RequestIdRun http log requestId := by
    rintro hown ⟨requestId, rest, rfl, rfl, rfl⟩
    exact ⟨requestId, rfl, .Generated requestId hown⟩
  cases hown : http.stateRequestId with
  | Str requestId =>
      by_cases hstrip : Text.strip requestId = ""
      · simp only [resolveRequestId, hown, hstrip, ne_eq, not_true_eq_false] at h
        refine hgenerated ?_ h
        rintro ownId hownId
        rw [hown] at hownId
        cases hownId
        exact hstrip
      · simp only [resolveRequestId, hown, hstrip, ne_eq, not_false_eq_true] at h
        obtain ⟨rfl, rfl⟩ := h
        exact ⟨requestId, rfl, .Own requestId hown hstrip⟩
  | _ =>
      simp only [resolveRequestId, hown] at h
      exact hgenerated (by simp [hown]) h

theorem RequestIdRun.traces {http : HttpRequest} {log : Log} {requestId : String}
    (h : RequestIdRun http log requestId) :
    (resolveRequestId http).Traces log (.ok requestId) := by
  cases h with
  | Own requestId hown hstrip =>
      simp only [resolveRequestId, hown, hstrip, ne_eq, not_false_eq_true]
      exact ⟨rfl, rfl⟩
  | Generated requestId hown =>
      have hgenerate : resolveRequestId http = request .GenerateRequestId := by
        cases hstate : http.stateRequestId with
        | Str ownId =>
            simp only [resolveRequestId, hstate, hown ownId hstate]
            exact if_neg (not_not.mpr rfl)
        | _ =>
            simp only [resolveRequestId, hstate]
            rfl
      rw [hgenerate]
      exact ⟨requestId, [], rfl, rfl, rfl⟩

theorem traces_resolveRequestId_bind {http : HttpRequest} {rest : String → Runtime α}
    {log : Log} {outcome : Except Failure α}
    (h : (resolveRequestId http >>= rest).Traces log outcome) :
    ∃ idLog tail requestId, log = idLog ++ tail ∧ RequestIdRun http idLog requestId ∧
      (rest requestId).Traces tail outcome := by
  rcases (Program.traces_bind _ _ _ _).mp h with ⟨error, hid, rfl⟩ |
    ⟨idLog, tail, requestId, rfl, hid, hrest⟩
  · obtain ⟨requestId, hcontra, -⟩ := resolveRequestId_run hid
    cases hcontra
  · obtain ⟨_, hok, hid⟩ := resolveRequestId_run hid
    cases hok
    exact ⟨idLog, tail, requestId, rfl, hid, hrest⟩

-- `create_message` once the authentication has raised.
def rejectCaller (audited : Bool) (body : Value) (requestId : String) (error : Failure) :
    Runtime MessageResponse := do
  if audited then
    let model ← ofExcept (raising (body.get "model"))
    AuditLogger.recordDenial requestId DENIAL_REASON_AUTHENTICATION_FAILED none model none none
  ofExcept (errorResponse error requestId)

-- Either the body cannot be read, or the authentication raises, or the guarded part runs.
theorem createMessage_split {http : HttpRequest} {log : Log}
    {outcome : Except Failure MessageResponse}
    (h : (createMessage python audited http).Traces log outcome) :
    (∃ error, http.json = .error error ∧ log = [] ∧ outcome = .error error) ∨
    ∃ body idLog requestId startedAt tail, http.json = .ok body ∧
      RequestIdRun http idLog requestId ∧
      ((∃ error, log = idLog ++ ⟨.PerfCounter, startedAt⟩ ::
            answered (.Authenticate http.authorization requestId) (.error error) :: tail ∧
          (rejectCaller audited body requestId error).Traces tail outcome) ∨
        ∃ authenticated result, log = idLog ++ ⟨.PerfCounter, startedAt⟩ ::
            answered (.Authenticate http.authorization requestId) (.ok authenticated) :: tail ∧
          (runPipeline python audited body requestId startedAt authenticated).Traces tail result ∧
          outcome = caught requestId result) := by
  simp only [createMessage, traces_ofExcept_bind] at h
  rcases h with ⟨error, hbody, rfl, rfl⟩ | ⟨body, hbody, h⟩
  · exact .inl ⟨error, hbody, rfl, rfl⟩
  obtain ⟨idLog, tail, requestId, rfl, hid, hrest⟩ := traces_resolveRequestId_bind h
  obtain ⟨startedAt, tail, rfl, answer, tail, rfl, hrest⟩ := hrest
  refine .inr ⟨body, idLog, requestId, startedAt, tail, hbody, hid, ?_⟩
  cases answer with
  | error error => exact .inl ⟨error, rfl, hrest⟩
  | ok authenticated =>
      rcases (Program.traces_tryCatch _ _ _ _).mp hrest with ⟨response, hpipeline, rfl⟩ |
        ⟨before, after, error, rfl, hpipeline, hafter⟩
      · exact .inr ⟨authenticated, .ok response, rfl, hpipeline, rfl⟩
      · obtain ⟨rfl, rfl⟩ := (traces_ofExcept _ _ _).mp hafter
        rw [List.append_nil]
        exact .inr ⟨authenticated, .error error, rfl, hpipeline, rfl⟩

theorem createMessage_run {http : HttpRequest} {log : Log}
    {outcome : Except Failure MessageResponse}
    (h : (createMessage python audited http).Traces log outcome) :
    MessageRun python audited http log outcome := by
  rcases createMessage_split h with ⟨error, hbody, rfl, rfl⟩ |
    ⟨body, idLog, requestId, startedAt, tail, hbody, hid, hrun⟩
  · exact .Unreadable error hbody
  rcases hrun with ⟨error, rfl, hreject⟩ | ⟨authenticated, result, rfl, hpipeline, rfl⟩
  · cases haudited : audited with
    | false =>
        simp only [rejectCaller, haudited, Bool.false_eq_true, ite_false, traces_ofExcept]
          at hreject
        obtain ⟨rfl, rfl⟩ := hreject
        exact .Unauthenticated body idLog requestId startedAt error hbody hid rfl
    | true =>
        simp only [rejectCaller, haudited, ite_true, traces_ofExcept_bind] at hreject
        rcases hreject with ⟨error', hmodel, rfl, rfl⟩ | ⟨model, hmodel, hreject⟩
        · exact .NoModel body idLog requestId startedAt error error' hbody hid rfl hmodel
        simp only [Program.traces_bind, traces_ofExcept] at hreject
        rcases hreject with ⟨error', hrecord, rfl⟩ | ⟨record, _, _, rfl, hrecord, rfl, rfl⟩
        · exact .Lost body model idLog tail requestId startedAt error error' hbody hid rfl hmodel
            (recordDenial_run hrecord)
        · rw [List.append_nil]
          exact .Refused body model idLog record requestId startedAt error hbody hid rfl hmodel
            (recordDenial_run hrecord)
  · exact .Authenticated body idLog tail requestId startedAt authenticated result hbody hid
      (runPipeline_run hpipeline)

section Streams

variable {stream : AuditedStream}

theorem errorResponse_ne_streaming (error : Failure) (requestId : String) :
    errorResponse error requestId ≠ .ok (.Streaming stream) := by
  unfold errorResponse
  cases errorResponseForException error requestId <;> rintro ⟨⟩

theorem json_ne_streaming (response : Except Failure JSONResponse) :
    response.map MessageResponse.Json ≠ .ok (.Streaming stream) := by
  cases response <;> rintro ⟨⟩

theorem DenyRun.not_streaming {requestId denialReason : String}
    {authenticated : AuthenticatedRequestContext} {model : Value}
    {resolvedModel : Option String} {policyDecision : PolicyDecision} {refusal : ServiceError}
    {log : Log}
    (h : DenyRun audited requestId denialReason authenticated model resolvedModel policyDecision
      refusal log (.ok (.Streaming stream))) : False := by
  generalize houtcome : Except.ok (MessageResponse.Streaming stream) = outcome at h
  cases h with
  | Unlogged haudited => exact errorResponse_ne_streaming _ requestId houtcome.symm
  | Logged record haudited hrecord => exact errorResponse_ne_streaming _ requestId houtcome.symm
  | Lost record error haudited hrecord => cases houtcome

theorem InvocationRun.streaming {admission : Admission} {log : Log}
    (h : InvocationRun python audited admission log (.ok (.Streaming stream))) :
    stream.admission = admission ∧ stream.decoder = { model := admission.model } ∧
    ∃ converseRequest : ConverseRequest, converseRequest.operation = "converse_stream" ∧
      log = [answered (.BuildConverseRequest admission.body admission.resolvedModel)
          (.ok converseRequest),
        answered (.ConverseStream converseRequest) (.ok stream.events)] := by
  generalize houtcome : Except.ok (MessageResponse.Streaming stream) = outcome at h
  cases h with
  | Streamed converseRequest events hstream =>
      cases houtcome
      exact ⟨rfl, rfl, converseRequest, hstream, rfl⟩
  | Unlogged converseRequest rawResponse parsedResponse hstream haudited =>
      exact (json_ne_streaming _ houtcome.symm).elim
  | Recorded converseRequest rawResponse parsedResponse usage record hstream haudited husage
      hrecord => exact (json_ne_streaming _ houtcome.symm).elim
  | _ => cases houtcome

-- A stream has passed every gate.
theorem PipelineRun.streaming {body : Value} {requestId : String} {startedAt : Rat}
    {authenticated : AuthenticatedRequestContext} {log : Log}
    (h : PipelineRun python audited body requestId startedAt authenticated log
      (.ok (.Streaming stream))) :
    stream.admission.requestId = requestId ∧ stream.admission.startedAt = startedAt ∧
    stream.admission.authenticated = authenticated ∧
    stream.decoder = { model := stream.admission.model } ∧
    ∃ (user : UserContext) (rateLimitDecision : RateLimitDecision)
      (converseRequest : ConverseRequest),
      raising (body.item "model") = .ok stream.admission.model ∧
      raising authenticated.user = .ok user ∧
      converseRequest.operation = "converse_stream" ∧
      log = [answered (.Resolve stream.admission.model) (.ok stream.admission.resolvedModel),
        answered (.EvaluatePolicy authenticated.userRecord stream.admission.model [])
          (.ok stream.admission.policyDecision),
        answered (.EvaluateQuota [] 0 none stream.admission.resolvedModel.bedrockModelId none)
          (.ok stream.admission.quotaDecision),
        answered (.CheckRateLimit user.userId) (.ok rateLimitDecision),
        answered (.BuildConverseRequest body stream.admission.resolvedModel)
          (.ok converseRequest),
        answered (.ConverseStream converseRequest) (.ok stream.events)] := by
  generalize houtcome : Except.ok (MessageResponse.Streaming stream) = outcome at h
  cases h with
  | PolicyDenied model resolvedModel policyDecision record outcome hmodel hdenied hrecord =>
      subst houtcome
      exact hrecord.not_streaming.elim
  | QuotaDenied model resolvedModel policyDecision quotaDecision record outcome hmodel hpolicy
      hdenied hrecord =>
      subst houtcome
      exact hrecord.not_streaming.elim
  | RateDenied model resolvedModel policyDecision quotaDecision user rateLimitDecision record
      outcome hmodel hpolicy hquota huser hdenied hrecord =>
      subst houtcome
      exact hrecord.not_streaming.elim
  | Admitted admission user rateLimitDecision tail outcome hbody hid hstart hauthenticated hmodel
      hpolicy hquota huser hrate hinvocation =>
      subst houtcome
      obtain ⟨rfl, hdecoder, converseRequest, hstream, rfl⟩ := hinvocation.streaming
      subst hbody
      exact ⟨hid, hstart, hauthenticated, hdecoder, user, rateLimitDecision, converseRequest,
        hmodel, huser, hstream, rfl⟩
  | _ => cases houtcome

-- A stream is the outcome of the guarded part of an authenticated request.
theorem MessageRun.streaming {http : HttpRequest} {log : Log}
    (h : MessageRun python audited http log (.ok (.Streaming stream))) :
    ∃ body idLog tail requestId startedAt authenticated, http.json = .ok body ∧
      RequestIdRun http idLog requestId ∧
      log = idLog ++ ⟨.PerfCounter, startedAt⟩ ::
        answered (.Authenticate http.authorization requestId) (.ok authenticated) :: tail ∧
      PipelineRun python audited body requestId startedAt authenticated tail
        (.ok (.Streaming stream)) := by
  generalize houtcome : Except.ok (MessageResponse.Streaming stream) = outcome at h
  cases h with
  | Unauthenticated body idLog requestId startedAt error hbody hid haudited =>
      exact (errorResponse_ne_streaming _ requestId houtcome.symm).elim
  | Refused body model idLog record requestId startedAt error hbody hid haudited hmodel hrecord =>
      exact (errorResponse_ne_streaming _ requestId houtcome.symm).elim
  | Authenticated body idLog tail requestId startedAt authenticated outcome hbody hid hpipeline =>
      cases outcome with
      | ok response =>
          cases houtcome
          exact ⟨body, idLog, tail, requestId, startedAt, authenticated, hbody, hid, rfl, hpipeline⟩
      | error error => exact (errorResponse_ne_streaming error requestId houtcome.symm).elim
  | _ => cases houtcome

end Streams

-- What is sent: a response, or a stream that has been iterated as far as it went.
inductive ServedRun (python : Interpreter) (audited : Bool) (http : HttpRequest) :
    Log → Except Failure MessageResponse → Prop
  | Raised (log : Log) (error : Failure)
      (hcreate : MessageRun python audited http log (.error error)) :
      ServedRun python audited http log (.error error)
  | Json (log : Log) (response : JSONResponse)
      (hcreate : MessageRun python audited http log (.ok (.Json response))) :
      ServedRun python audited http log (.ok (.Json response))
  | Streamed (created streamed : Log) (stream : AuditedStream) (ending : Except Failure Ending)
      (hcreate : MessageRun python audited http created (.ok (.Streaming stream)))
      (hstream : (streamWithAudit python audited stream).Traces streamed ending) :
      ServedRun python audited http (created ++ streamed) (.ok (.Streaming stream))

theorem serveMessage_run {http : HttpRequest} {log : Log}
    {outcome : Except Failure MessageResponse}
    (h : (serveMessage python audited http).Traces log outcome) :
    ServedRun python audited http log outcome := by
  simp only [serveMessage, Program.traces_bind] at h
  rcases h with ⟨error, hcreate, rfl⟩ | ⟨created, streamed, response, rfl, hcreate, h⟩
  · exact .Raised log error (createMessage_run hcreate)
  cases response with
  | Json response =>
      obtain ⟨rfl, rfl⟩ := h
      rw [List.append_nil]
      exact .Json created response (createMessage_run hcreate)
  | Streaming stream =>
      simp only [Program.traces_tryCatch, Program.traces_bind] at h
      rcases h with ⟨value, h, rfl⟩ | ⟨before, after, error, rfl, h, rfl, rfl⟩
      · rcases h with ⟨error, -, hcontra⟩ | ⟨before, after, ending, rfl, hstream, rfl, hvalue⟩
        · cases hcontra
        · cases hvalue
          rw [List.append_nil]
          exact .Streamed created before stream (.ok ending) (createMessage_run hcreate) hstream
      · rcases h with ⟨error', hstream, hcontra⟩ | ⟨before, after, ending, rfl, -, rfl, hcontra⟩
        · cases hcontra
          rw [List.append_nil]
          exact .Streamed created before stream (.error error) (createMessage_run hcreate) hstream
        · cases hcontra

end Pipeline

end ClaudeCodeProxy
