import ClaudeCodeProxy.Api.Components

namespace ClaudeCodeProxy

open Effects Python

-- The handler answers with an error.
def Refused (outcome : Except Failure MessageResponse) : Prop :=
  ∃ response, outcome = .ok (.Json response) ∧ 400 ≤ response.statusCode

-- Every gate was called once, in the order of the pipeline, and passed; then came `bedrock`.
def PassedGates (authorization : Option String) (body model : Value) (log : Log)
    (bedrock : Answer runtime) : Prop :=
  ∃ requestId authenticated resolvedModel policyDecision quotaDecision userId rateLimitDecision
      converseRequest,
    policyDecision.allowed = true ∧ quotaDecision.allowed = true ∧
    rateLimitDecision.allowed = true ∧
    (bedrock.1 = .Ask (.Converse converseRequest) ∨
      bedrock.1 = .Ask (.ConverseStream converseRequest)) ∧
    log = [
      answered (.Authenticate authorization requestId) (.ok authenticated),
      answered (.Resolve model) (.ok resolvedModel),
      answered (.EvaluatePolicy authenticated.userRecord model []) (.ok policyDecision),
      answered (.EvaluateQuota [] 0 none resolvedModel.bedrockModelId none) (.ok quotaDecision),
      answered (.CheckRateLimit userId) (.ok rateLimitDecision),
      answered (.BuildConverseRequest body resolvedModel) (.ok converseRequest),
      bedrock]

section Refusals

theorem errorResponse_refused (error : Failure) (requestId : String) (h : error.Presentable) :
    Refused (errorResponse error requestId) := by
  obtain ⟨response, hresponse, hstatus⟩ := errorResponseForException_status error requestId h
  exact ⟨response, by rw [errorResponse, hresponse]; rfl, hstatus⟩

theorem Refused.caught {outcome : Except Failure MessageResponse} (h : Refused outcome)
    (requestId : String) : Refused (caught requestId outcome) := by
  obtain ⟨response, rfl, hstatus⟩ := h
  exact ⟨response, rfl, hstatus⟩

theorem presentable_of_raising {result : Except Exception α} {error : Failure}
    (h : raising result = .error error) : error.Presentable := by
  obtain ⟨exception, -, rfl⟩ := raising_eq_error h
  trivial

theorem not_raised_ok (dependency : Dependency) (value : dependency.Result) :
    ¬raised (answered dependency (.ok value)) := by
  rintro ⟨dependency', error, h⟩
  cases h

end Refusals

section Pipeline

variable {python : Interpreter} {audited : Bool}

theorem DenyRun.refused {requestId denialReason : String}
    {authenticated : AuthenticatedRequestContext} {model : Value}
    {resolvedModel : Option String} {policyDecision : PolicyDecision} {refusal : ServiceError}
    {log : Log} {outcome : Except Failure MessageResponse}
    (h : DenyRun audited requestId denialReason authenticated model resolvedModel policyDecision
      refusal log outcome)
    (hrefusal : (Failure.ServiceError refusal).Presentable) (hlog : Presentable log) :
    Refused (caught requestId outcome) := by
  cases h with
  | Unlogged haudited => exact (errorResponse_refused _ requestId hrefusal).caught requestId
  | Logged _ haudited hrecord => exact (errorResponse_refused _ requestId hrefusal).caught requestId
  | Lost _ error haudited hrecord =>
      exact errorResponse_refused error requestId (hrecord.presentable hlog)

theorem accessDenied_presentable (requestId message : String) :
    (Failure.ServiceError (accessDeniedError requestId none message)).Presentable := by
  refine ⟨by simp [accessDeniedError], ?_⟩
  rintro details ⟨⟩

theorem rateLimitExceeded_presentable (requestId : String)
    (headers : Option (List (String × String))) :
    (Failure.ServiceError (rateLimitExceededError requestId none headers)).Presentable := by
  refine ⟨by simp [rateLimitExceededError], ?_⟩
  rintro details ⟨⟩

-- Without a call of Bedrock that answers, the invocation raises and records nothing.
theorem InvocationRun.refused {admission : Admission} {log : Log}
    {outcome : Except Failure MessageResponse} (h : InvocationRun python audited admission log outcome)
    (hraised : ∀ bedrock ∈ bedrockCalls log, raised bedrock) (hlog : Presentable log) :
    (∃ error, outcome = .error error ∧ error.Presentable) ∧ usageEvents log = [] := by
  cases h with
  | BuildRaised error => exact ⟨⟨error, rfl, hlog _ error (.head _)⟩, rfl⟩
  | StreamRaised converseRequest error hstream =>
      exact ⟨⟨error, rfl, hlog _ error (.tail _ (.head _))⟩, rfl⟩
  | ConverseRaised converseRequest error hstream =>
      exact ⟨⟨error, rfl, hlog _ error (.tail _ (.head _))⟩, rfl⟩
  | Streamed converseRequest events hstream =>
      exact absurd (hraised _ (.head _)) (not_raised_ok (.ConverseStream converseRequest) events)
  | ParseRaised converseRequest rawResponse error hstream =>
      exact absurd (hraised _ (.head _)) (not_raised_ok (.Converse converseRequest) rawResponse)
  | Unlogged converseRequest rawResponse parsedResponse hstream haudited =>
      exact absurd (hraised _ (.head _)) (not_raised_ok (.Converse converseRequest) rawResponse)
  | NoUsage converseRequest rawResponse parsedResponse error hstream haudited husage =>
      exact absurd (hraised _ (.head _)) (not_raised_ok (.Converse converseRequest) rawResponse)
  | Lost converseRequest rawResponse parsedResponse usage record error hstream haudited husage
      hrecord =>
      exact absurd (hraised _ (.head _)) (not_raised_ok (.Converse converseRequest) rawResponse)
  | Recorded converseRequest rawResponse parsedResponse usage record hstream haudited husage
      hrecord =>
      exact absurd (hraised _ (.head _)) (not_raised_ok (.Converse converseRequest) rawResponse)

-- Bedrock is called at most once, right after the request has been built.
theorem InvocationRun.stages {admission : Admission} {log : Log}
    {outcome : Except Failure MessageResponse}
    (h : InvocationRun python audited admission log outcome) :
    bedrockCalls log = [] ∨ ∃ converseRequest bedrock,
      (bedrock.1 = .Ask (.Converse converseRequest) ∨
        bedrock.1 = .Ask (.ConverseStream converseRequest)) ∧
      stages log = [answered (.BuildConverseRequest admission.body admission.resolvedModel)
        (.ok converseRequest), bedrock] := by
  cases h with
  | BuildRaised error => exact .inl rfl
  | StreamRaised converseRequest error hstream =>
      exact .inr ⟨converseRequest, _, .inr rfl, rfl⟩
  | Streamed converseRequest events hstream => exact .inr ⟨converseRequest, _, .inr rfl, rfl⟩
  | ConverseRaised converseRequest error hstream =>
      exact .inr ⟨converseRequest, _, .inl rfl, rfl⟩
  | ParseRaised converseRequest rawResponse error hstream =>
      exact .inr ⟨converseRequest, _, .inl rfl, rfl⟩
  | Unlogged converseRequest rawResponse parsedResponse hstream haudited =>
      exact .inr ⟨converseRequest, _, .inl rfl, rfl⟩
  | NoUsage converseRequest rawResponse parsedResponse error hstream haudited husage =>
      exact .inr ⟨converseRequest, _, .inl rfl, rfl⟩
  | Lost converseRequest rawResponse parsedResponse usage record error hstream haudited husage
      hrecord =>
      refine .inr ⟨converseRequest, answered (.Converse converseRequest) (.ok rawResponse),
        .inl rfl, ?_⟩
      simp [stages_cons, isStage, isBedrockCall, (recordAdmitted_stages hrecord).1]
  | Recorded converseRequest rawResponse parsedResponse usage record hstream haudited husage
      hrecord =>
      refine .inr ⟨converseRequest, answered (.Converse converseRequest) (.ok rawResponse),
        .inl rfl, ?_⟩
      simp [stages_cons, isStage, isBedrockCall, (recordAdmitted_stages hrecord).1]

theorem InvocationRun.usageEvents_le_one {admission : Admission} {log : Log}
    {outcome : Except Failure MessageResponse}
    (h : InvocationRun python audited admission log outcome) : (usageEvents log).length ≤ 1 := by
  cases h with
  | Lost converseRequest rawResponse parsedResponse usage record error hstream haudited husage
      hrecord => simpa [usageEvents_cons, usageEvent?] using (recordAdmitted_stages hrecord).2
  | Recorded converseRequest rawResponse parsedResponse usage record hstream haudited husage
      hrecord => simpa [usageEvents_cons, usageEvent?] using (recordAdmitted_stages hrecord).2
  | _ => exact Nat.zero_le 1

theorem DenyRun.bedrockCalls {requestId denialReason : String}
    {authenticated : AuthenticatedRequestContext} {model : Value}
    {resolvedModel : Option String} {policyDecision : PolicyDecision} {refusal : ServiceError}
    {log : Log} {outcome : Except Failure MessageResponse}
    (h : DenyRun audited requestId denialReason authenticated model resolvedModel policyDecision
      refusal log outcome) : bedrockCalls log = [] := bedrockCalls_eq_nil h.stages.1

-- Bedrock is reached only from the last gate, with every gate passed.
theorem PipelineRun.stages {body model : Value} {requestId : String} {startedAt : Rat}
    {authenticated : AuthenticatedRequestContext} {log : Log}
    {outcome : Except Failure MessageResponse}
    (h : PipelineRun python audited body requestId startedAt authenticated log outcome)
    (hmodel : raising (body.item "model") = .ok model) (authorization : Option String) :
    bedrockCalls log = [] ∨ ∃ bedrock, bedrockCalls log = [bedrock] ∧
      PassedGates authorization body model
        (answered (.Authenticate authorization requestId) (.ok authenticated) ::
          ClaudeCodeProxy.stages log) bedrock := by
  cases h with
  | PolicyDenied model resolvedModel policyDecision record outcome hmodel hdenied hrecord =>
      exact .inl hrecord.bedrockCalls
  | QuotaDenied model resolvedModel policyDecision quotaDecision record outcome hmodel hpolicy
      hdenied hrecord => exact .inl hrecord.bedrockCalls
  | RateDenied model resolvedModel policyDecision quotaDecision user rateLimitDecision record
      outcome hmodel hpolicy hquota huser hdenied hrecord => exact .inl hrecord.bedrockCalls
  | Admitted admission user rateLimitDecision tail outcome hbody hid hstart hauthenticated hmodel'
      hpolicy hquota huser hrate hinvocation =>
      rcases hinvocation.stages with hnone | ⟨converseRequest, bedrock, hcall, hstages⟩
      · exact .inl hnone
      have hsame : admission.model = model := by
        rw [hmodel] at hmodel'
        cases hmodel'
        rfl
      have hbedrock : isBedrockCall bedrock.1 = true := by
        rcases hcall with hcall | hcall <;> rw [hcall] <;> rfl
      have hcalls : bedrockCalls tail = [bedrock] := by
        have hbuild : isBedrockCall (.Ask (.BuildConverseRequest admission.body
            admission.resolvedModel)) = false := rfl
        rw [bedrockCalls_eq_filter, hstages]
        simp [hbuild, hbedrock]
      refine .inr ⟨bedrock, hcalls, requestId, authenticated, admission.resolvedModel,
        admission.policyDecision, admission.quotaDecision, user.userId, rateLimitDecision,
        converseRequest, hpolicy, hquota, hrate, hcall, ?_⟩
      subst hbody hsame
      simp [stages_cons, isStage, hstages]
  | _ => exact .inl rfl

-- Without a call of Bedrock that answers, the request is refused and nothing is recorded.
theorem PipelineRun.refused {body : Value} {requestId : String} {startedAt : Rat}
    {authenticated : AuthenticatedRequestContext} {log : Log}
    {outcome : Except Failure MessageResponse}
    (h : PipelineRun python audited body requestId startedAt authenticated log outcome)
    (hraised : ∀ bedrock ∈ bedrockCalls log, raised bedrock) (hlog : Presentable log) :
    Refused (caught requestId outcome) ∧ usageEvents log = [] := by
  cases h with
  | NoModel error hmodel =>
      exact ⟨errorResponse_refused error requestId (presentable_of_raising hmodel), rfl⟩
  | ResolveRaised model error hmodel =>
      exact ⟨errorResponse_refused error requestId (hlog _ error (.head _)), rfl⟩
  | PolicyRaised model resolvedModel error hmodel =>
      exact ⟨errorResponse_refused error requestId (hlog _ error (.tail _ (.head _))), rfl⟩
  | PolicyDenied model resolvedModel policyDecision record outcome hmodel hdenied hrecord =>
      have htail := (hlog.append [_, _] _).2
      exact ⟨hrecord.refused (accessDenied_presentable _ _) htail, hrecord.stages.2⟩
  | QuotaRaised model resolvedModel policyDecision error hmodel hpolicy =>
      exact ⟨errorResponse_refused error requestId
        (hlog _ error (.tail _ (.tail _ (.head _)))), rfl⟩
  | QuotaDenied model resolvedModel policyDecision quotaDecision record outcome hmodel hpolicy
      hdenied hrecord =>
      have htail := (hlog.append [_, _, _] _).2
      exact ⟨hrecord.refused (accessDenied_presentable _ _) htail, hrecord.stages.2⟩
  | NoUser model resolvedModel policyDecision quotaDecision error hmodel hpolicy hquota huser =>
      exact ⟨errorResponse_refused error requestId (presentable_of_raising huser), rfl⟩
  | RateRaised model resolvedModel policyDecision quotaDecision user error hmodel hpolicy hquota
      huser =>
      exact ⟨errorResponse_refused error requestId
        (hlog _ error (.tail _ (.tail _ (.tail _ (.head _))))), rfl⟩
  | RateDenied model resolvedModel policyDecision quotaDecision user rateLimitDecision record
      outcome hmodel hpolicy hquota huser hdenied hrecord =>
      have htail := (hlog.append [_, _, _, _] _).2
      exact ⟨hrecord.refused (rateLimitExceeded_presentable _ _) htail, hrecord.stages.2⟩
  | Admitted admission user rateLimitDecision tail outcome hbody hid hstart hauthenticated hmodel
      hpolicy hquota huser hrate hinvocation =>
      have htail := (hlog.append [_, _, _, _] _).2
      obtain ⟨⟨error, rfl, herror⟩, husage⟩ := hinvocation.refused hraised htail
      exact ⟨errorResponse_refused error requestId herror, husage⟩

theorem PipelineRun.usageEvents_le_one {body : Value} {requestId : String} {startedAt : Rat}
    {authenticated : AuthenticatedRequestContext} {log : Log}
    {outcome : Except Failure MessageResponse}
    (h : PipelineRun python audited body requestId startedAt authenticated log outcome) :
    (usageEvents log).length ≤ 1 := by
  cases h with
  | PolicyDenied model resolvedModel policyDecision record outcome hmodel hdenied hrecord =>
      exact (congrArg List.length hrecord.stages.2).trans_le (Nat.zero_le 1)
  | QuotaDenied model resolvedModel policyDecision quotaDecision record outcome hmodel hpolicy
      hdenied hrecord => exact (congrArg List.length hrecord.stages.2).trans_le (Nat.zero_le 1)
  | RateDenied model resolvedModel policyDecision quotaDecision user rateLimitDecision record
      outcome hmodel hpolicy hquota huser hdenied hrecord =>
      exact (congrArg List.length hrecord.stages.2).trans_le (Nat.zero_le 1)
  | Admitted admission user rateLimitDecision tail outcome hbody hid hstart hauthenticated hmodel
      hpolicy hquota huser hrate hinvocation => exact hinvocation.usageEvents_le_one
  | _ => exact Nat.zero_le 1

end Pipeline

section Requests

variable {python : Interpreter} {audited : Bool} {http : HttpRequest}

-- What a request that is fail-closed shows in its log and in its outcome.
structure FailsClosed (authorization : Option String) (body model : Value) (log : Log)
    (outcome : Except Failure MessageResponse) : Prop where
  gates : bedrockCalls log = [] ∨ ∃ bedrock, bedrockCalls log = [bedrock] ∧
    PassedGates authorization body model (stages log) bedrock
  refused : (∀ bedrock ∈ bedrockCalls log, raised bedrock) →
    Refused outcome ∧ usageEvents log = []
  recorded : (usageEvents log).length ≤ 1

-- A request that is not authenticated reaches no other gate.
theorem failsClosed_of_unauthenticated {authorization : Option String} {body model : Value}
    {idLog record : Log} {requestId : String} {startedAt : Rat} {error : Failure}
    {outcome : Except Failure MessageResponse} (hid : RequestIdRun http idLog requestId)
    (hrecord : stages record = [] ∧ usageEvents record = []) (houtcome : Refused outcome) :
    FailsClosed authorization body model
      (idLog ++ ⟨.PerfCounter, startedAt⟩ ::
        answered (.Authenticate authorization requestId) (.error error) :: record) outcome := by
  obtain ⟨hstages, husage, -⟩ := hid.quiet
  have hcalls : bedrockCalls (idLog ++ ⟨.PerfCounter, startedAt⟩ ::
      answered (.Authenticate authorization requestId) (.error error) :: record) = [] := by
    rw [bedrockCalls_append, bedrockCalls_eq_nil hstages]
    exact @bedrockCalls_eq_nil record hrecord.1
  have hevents : usageEvents (idLog ++ ⟨.PerfCounter, startedAt⟩ ::
      answered (.Authenticate authorization requestId) (.error error) :: record) = [] := by
    rw [usageEvents_append, husage]
    exact hrecord.2
  exact ⟨.inl hcalls, fun _ => ⟨houtcome, hevents⟩, hevents ▸ Nat.zero_le 1⟩

-- The record of a failed authentication names no user, so only the store can lose it.
theorem DenialRun.not_lost {requestId denialReason : String} {model : Value}
    {resolvedModel : Option String} {policyDecision : Option PolicyDecision} {record : Log}
    {error : Failure}
    (h : DenialRun requestId denialReason none model resolvedModel policyDecision record
      (.error error)) (hstore : StoreWorks record) : False := by
  generalize houtcome : Except.error error = outcome at h
  cases h with
  | NoUser id error' huser => cases huser
  | Recorded id createdAt user reply huser =>
      subst houtcome
      exact hstore.2 _ error (.tail _ (.tail _ (.head _)))

theorem MessageRun.failsClosed {entries : List (String × Value)} {model : Value} {log : Log}
    {outcome : Except Failure MessageResponse}
    (h : MessageRun python audited http log outcome)
    (hbody : http.json = .ok (.Mapping entries))
    (hmodel : Value.lookup entries "model" = some model) (hlog : Presentable log)
    (hstore : StoreWorks log) :
    FailsClosed http.authorization (.Mapping entries) model log outcome := by
  cases h with
  | Unreadable error hbody' =>
      rw [hbody] at hbody'
      cases hbody'
  | Unauthenticated body idLog requestId startedAt error hbody' hid haudited =>
      have hshown := (hlog.append _ _).2 _ error (.tail _ (.head _))
      exact failsClosed_of_unauthenticated hid ⟨rfl, rfl⟩
        (errorResponse_refused error requestId hshown)
  | NoModel body idLog requestId startedAt error error' hbody' hid haudited hget =>
      rw [hbody] at hbody'
      cases hbody'
      cases hget
  | Lost body model idLog record requestId startedAt error error' hbody' hid haudited hget
      hrecord => exact (hrecord.not_lost ((hstore.append _ _).2.append [_, _] _).2).elim
  | Refused body model idLog record requestId startedAt error hbody' hid haudited hget hrecord =>
      have hshown := (hlog.append _ _).2 _ error (.tail _ (.head _))
      exact failsClosed_of_unauthenticated hid hrecord.stages
        (errorResponse_refused error requestId hshown)
  | Authenticated body idLog tail requestId startedAt authenticated outcome hbody' hid hpipeline =>
      rw [hbody] at hbody'
      cases hbody'
      have hitem : raising ((Value.Mapping entries).item "model") = .ok model := by
        rw [Value.item_mapping entries "model" model hmodel]
        rfl
      obtain ⟨hstages, husage, -⟩ := hid.quiet
      have hcalls : bedrockCalls (idLog ++ ⟨.PerfCounter, startedAt⟩ ::
          answered (.Authenticate http.authorization requestId) (.ok authenticated) :: tail) =
          bedrockCalls tail := by
        rw [bedrockCalls_append, bedrockCalls_eq_nil hstages]
        rfl
      have hevents : usageEvents (idLog ++ ⟨.PerfCounter, startedAt⟩ ::
          answered (.Authenticate http.authorization requestId) (.ok authenticated) :: tail) =
          usageEvents tail := by
        rw [usageEvents_append, husage]
        rfl
      have hreached : stages (idLog ++ ⟨.PerfCounter, startedAt⟩ ::
          answered (.Authenticate http.authorization requestId) (.ok authenticated) :: tail) =
          answered (.Authenticate http.authorization requestId) (.ok authenticated) ::
            stages tail := by
        rw [stages_append, hstages]
        rfl
      refine ⟨?_, fun hraised => ?_, ?_⟩
      · rw [hcalls, hreached]
        exact hpipeline.stages hitem http.authorization
      · rw [hcalls] at hraised
        rw [hevents]
        exact hpipeline.refused hraised ((hlog.append _ _).2.append [_, _] _).2
      · rw [hevents]
        exact hpipeline.usageEvents_le_one

-- What a stream has called before it is iterated.
theorem MessageRun.quiet {log : Log} {stream : AuditedStream}
    (h : MessageRun python audited http log (.ok (.Streaming stream))) :
    usageEvents log = [] ∧ ∃ converseRequest : ConverseRequest,
      answered (.ConverseStream converseRequest) (.ok stream.events) ∈ bedrockCalls log := by
  obtain ⟨body, idLog, tail, requestId, startedAt, authenticated, -, hid, rfl, hpipeline⟩ :=
    h.streaming
  obtain ⟨-, -, -, -, user, rateLimitDecision, converseRequest, -, -, -, rfl⟩ := hpipeline.streaming
  obtain ⟨-, husage, -⟩ := hid.quiet
  refine ⟨?_, converseRequest, ?_⟩
  · rw [usageEvents_append, husage]
    rfl
  · rw [bedrockCalls_append]
    exact List.mem_append_right _ (.head _)

-- A stream is not refused, it comes from a call that answered, and nothing has been
-- recorded before it is iterated.
theorem ServedRun.failsClosed {entries : List (String × Value)} {model : Value} {log : Log}
    {outcome : Except Failure MessageResponse}
    (h : ServedRun python audited http log outcome)
    (hbody : http.json = .ok (.Mapping entries))
    (hmodel : Value.lookup entries "model" = some model) (hlog : Presentable log)
    (hstore : StoreWorks log) :
    FailsClosed http.authorization (.Mapping entries) model log outcome := by
  cases h with
  | Raised log error hcreate => exact hcreate.failsClosed hbody hmodel hlog hstore
  | Json log response hcreate => exact hcreate.failsClosed hbody hmodel hlog hstore
  | Streamed created streamed stream ending hcreate hstream =>
      have hclosed := hcreate.failsClosed hbody hmodel (hlog.append _ _).1 (hstore.append _ _).1
      obtain ⟨hstages, hrecorded⟩ := streamWithAudit_stages hstream
      obtain ⟨hnone, converseRequest, hcall⟩ := hcreate.quiet
      have hcalls : bedrockCalls (created ++ streamed) = bedrockCalls created := by
        rw [bedrockCalls_append, bedrockCalls_eq_nil hstages, List.append_nil]
      refine ⟨?_, fun hraised => ?_, ?_⟩
      · rw [hcalls, stages_append, hstages, List.append_nil]
        exact hclosed.gates
      · rw [hcalls] at hraised
        exact absurd (hraised _ hcall) (not_raised_ok (.ConverseStream converseRequest) _)
      · rw [usageEvents_append, hnone]
        exact hrecorded

-- Bedrock is called at most once, after every gate has passed; a request for which it
-- does not answer is refused and costs nothing; and no request is counted twice.
theorem createMessage_failsClosed (python : Interpreter) (audited : Bool) (http : HttpRequest)
    (entries : List (String × Value)) (model : Value) (log : Log)
    (outcome : Except Failure MessageResponse) (hbody : http.json = .ok (.Mapping entries))
    (hmodel : Value.lookup entries "model" = some model) (hlog : Presentable log)
    (hstore : StoreWorks log)
    (h : (createMessage python audited http).Traces log outcome ∨
      (serveMessage python audited http).Traces log outcome) :
    FailsClosed http.authorization (.Mapping entries) model log outcome := by
  rcases h with hcreate | hserve
  · exact (createMessage_run hcreate).failsClosed hbody hmodel hlog hstore
  · exact (serveMessage_run hserve).failsClosed hbody hmodel hlog hstore

theorem createMessage_failsClosed_sample :
    FailsClosed (some "Bearer vk_first") (.Mapping (sampleBody true)) (.Str "claude-sonnet-4")
      (sampleEnvironment.run (serveMessage samplePython true (sampleHttp true))).1
      (sampleEnvironment.run (serveMessage samplePython true (sampleHttp true))).2 := by
  obtain ⟨hlog, hstore⟩ := presentable_of_not_failed
    (sampleEnvironment.run (serveMessage samplePython true (sampleHttp true))).1 (by decide)
  exact createMessage_failsClosed samplePython true (sampleHttp true) (sampleBody true)
    (.Str "claude-sonnet-4") _ _ rfl rfl hlog hstore (.inr (sampleEnvironment.traces_run _))

end Requests

end ClaudeCodeProxy
