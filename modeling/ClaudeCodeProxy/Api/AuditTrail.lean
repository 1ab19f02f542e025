import ClaudeCodeProxy.Api.StreamRecords

-- What the audit log has of a request, however the request ends.

namespace ClaudeCodeProxy

open Effects Python

-- Bedrock gave a response or a stream.
def isProduced : Answer runtime → Bool
  | ⟨.Ask (.Converse _), .ok _⟩ => true
  | ⟨.Ask (.ConverseStream _), .ok _⟩ => true
  | _ => false

-- `parsed_response["usage"]` is there, and its counts can be read.
def hasUsage (python : Interpreter) (parsedResponse : Value) : Bool :=
  (parsedResponse.item "usage" >>= AuditLogger.readUsage python).isOk

-- The calls in the second `try`, whose `except` tells the client and nobody else.
def isGuarded : Dependency → Bool
  | .Resolve _ | .EvaluatePolicy _ _ _ | .EvaluateQuota _ _ _ _ _ | .CheckRateLimit _
  | .BuildConverseRequest _ _ | .Converse _ | .ConverseStream _
  | .ParseConverseResponse _ _ => true
  | _ => false

-- The answer sends the request into the second `except`.
def Interrupts (python : Interpreter) : Answer runtime → Bool
  | ⟨.Ask (.Authenticate _ _), .ok authenticated⟩ => authenticated.request.user.isNone
  | ⟨.Ask (.ParseConverseResponse _ _), .ok parsedResponse⟩ => !hasUsage python parsedResponse
  | ⟨.Ask dependency, .error _⟩ => isGuarded dependency
  | _ => false

-- One audit event, of this request, that says whether Bedrock gave anything.
def Audited (requestId : String) (log : Log) : Prop :=
  ∃ event, auditEvents log = [event] ∧ event.requestId = requestId ∧
    event.decision =
      if log.any isProduced then AUDIT_DECISION_ALLOWED else AUDIT_DECISION_DENIED

-- A part of a log: the request is in the audit log, or it was interrupted before that.
inductive TrailRun (python : Interpreter) (requestId : String) (log : Log) : Prop
  | Recorded (haudited : Audited requestId log)
      (hclear : ∀ answer ∈ log, Interrupts python answer = false) :
      TrailRun python requestId log
  | Interrupted (answer : Answer runtime) (hnone : auditEvents log = []) (hmem : answer ∈ log)
      (hinterrupts : Interrupts python answer = true) :
      TrailRun python requestId log

section Trails

variable {python : Interpreter} {requestId : String}

theorem TrailRun.audited_iff {log : Log} (h : TrailRun python requestId log) :
    Audited requestId log ↔ ∀ answer ∈ log, Interrupts python answer = false := by
  cases h with
  | Recorded haudited hclear => exact ⟨fun _ => hclear, fun _ => haudited⟩
  | Interrupted answer hnone hmem hinterrupts =>
      constructor
      · rintro ⟨event, hevents, -⟩
        rw [hnone] at hevents
        cases hevents
      · intro hclear
        rw [hclear answer hmem] at hinterrupts
        cases hinterrupts

-- What comes before the record, and is neither Bedrock nor an interruption, changes nothing.
theorem TrailRun.append {before log : Log} (hevents : auditEvents before = [])
    (hproduced : before.any isProduced = false)
    (hclear : ∀ answer ∈ before, Interrupts python answer = false)
    (h : TrailRun python requestId log) : TrailRun python requestId (before ++ log) := by
  have hevents : auditEvents (before ++ log) = auditEvents log := by
    rw [auditEvents_append, hevents, List.nil_append]
  cases h with
  | Recorded haudited hclear' =>
      obtain ⟨event, hevent, hid, hdecision⟩ := haudited
      refine .Recorded ⟨event, hevents.trans hevent, hid, ?_⟩
        (List.forall_mem_append.mpr ⟨hclear, hclear'⟩)
      rw [hdecision, List.any_append, hproduced, Bool.false_or]
  | Interrupted answer hnone hmem hinterrupts =>
      exact .Interrupted answer (hevents.trans hnone) (List.mem_append_right _ hmem) hinterrupts

theorem TrailRun.cons {answer : Answer runtime} {log : Log}
    (hevent : auditEvent? answer.1 = none) (hproduced : isProduced answer = false)
    (hclear : Interrupts python answer = false) (h : TrailRun python requestId log) :
    TrailRun python requestId (answer :: log) := by
  have hevents : auditEvents [answer] = [] := by rw [auditEvents_cons, hevent]; rfl
  have hany : [answer].any isProduced = false := by rw [List.any_cons, hproduced]; rfl
  exact h.append hevents hany (List.forall_mem_singleton.mpr hclear)

theorem hasUsage_of_item_error {parsedResponse : Value} {error : Failure}
    (h : raising (parsedResponse.item "usage") = .error error) :
    hasUsage python parsedResponse = false := by
  obtain ⟨exception, hitem, -⟩ := raising_eq_error h
  rw [hasUsage, hitem]
  rfl

theorem hasUsage_of_item {parsedResponse usage : Value}
    (h : raising (parsedResponse.item "usage") = .ok usage) :
    hasUsage python parsedResponse = (AuditLogger.readUsage python usage).isOk := by
  rw [hasUsage, raising_eq_ok h]
  rfl

-- The record of an admitted request is there exactly when its usage can be read.
theorem recordAdmitted_trail {admission : Admission} {user : UserContext} {usage : Value}
    {record : Log} {outcome : Except Failure Unit}
    (huser : raising admission.authenticated.user = .ok user)
    (h : (recordAdmitted python admission usage).Traces record outcome) (hstore : StoreWorks record) :
    (∀ answer ∈ record, Interrupts python answer = false) ∧
      if (AuditLogger.readUsage python usage).isOk then
        ∃ event, auditEvents record = [event] ∧ event.requestId = admission.requestId ∧
          event.decision = AUDIT_DECISION_ALLOWED
      else auditEvents record = [] := by
  cases hcounts : AuditLogger.readUsage python usage with
  | ok counts =>
      obtain ⟨-, now, createdAt, usageEventId, auditEventId, rfl⟩ := recordAdmitted_recorded h huser
        hcounts hstore
      exact ⟨by simp [successLog, Interrupts], _, rfl, rfl, rfl⟩
  | error exception =>
      obtain ⟨now, record, rfl, hrecord⟩ := recordAdmitted_run h
      cases hrecord with
      | NoUser createdAt usageEventId error huser' =>
          rw [huser] at huser'
          cases huser'
      | Uncounted createdAt usageEventId user' error huser' hcounts' =>
          exact ⟨by simp [Interrupts], rfl⟩
      | UsageLost createdAt usageEventId auditEventId user' counts error huser' hcounts' =>
          rw [raising_eq_ok hcounts'] at hcounts
          cases hcounts
      | Recorded createdAt usageEventId auditEventId user' counts reply huser' hcounts' =>
          rw [raising_eq_ok hcounts'] at hcounts
          cases hcounts

theorem DenialRun.trail {denialReason : String}
    {authenticated : Option AuthenticatedRequestContext} {user : Option UserContext}
    {model : Value} {resolvedModel : Option String} {policyDecision : Option PolicyDecision}
    {record : Log} {outcome : Except Failure Unit}
    (huser : raising (AuditLogger.actor authenticated) = .ok user)
    (h : DenialRun requestId denialReason authenticated model resolvedModel policyDecision record
      outcome) : TrailRun python requestId record := by
  cases h with
  | NoUser id error huser' =>
      rw [huser] at huser'
      cases huser'
  | Recorded id createdAt user' reply huser' =>
      refine .Recorded ⟨_, rfl, rfl, rfl⟩ ?_
      cases outcome <;> simp [Interrupts, isGuarded]

theorem actor_some {authenticated : AuthenticatedRequestContext} {user : UserContext}
    (huser : raising authenticated.user = .ok user) :
    raising (AuditLogger.actor (some authenticated)) = .ok (some user) := by
  rw [AuditLogger.actor, raising_eq_ok huser]
  rfl

theorem DenyRun.trail {denialReason : String} {authenticated : AuthenticatedRequestContext}
    {user : UserContext} {model : Value} {resolvedModel : Option String}
    {policyDecision : PolicyDecision} {refusal : ServiceError} {record : Log}
    {outcome : Except Failure MessageResponse} (huser : raising authenticated.user = .ok user)
    (h : DenyRun true requestId denialReason authenticated model resolvedModel policyDecision
      refusal record outcome) : TrailRun python requestId record := by
  cases h with
  | Unlogged haudited => cases haudited
  | Logged _ haudited hrecord => exact hrecord.trail (actor_some huser)
  | Lost _ error haudited hrecord => exact hrecord.trail (actor_some huser)

-- A parsed response is recorded as far as its usage can be read.
theorem parsed_trail {admission : Admission} {user : UserContext}
    {converseRequest : ConverseRequest} {rawResponse parsedResponse usage : Value} {record : Log}
    {outcome : Except Failure Unit} (huser : raising admission.authenticated.user = .ok user)
    (husage : raising (parsedResponse.item "usage") = .ok usage)
    (hrecord : (recordAdmitted python admission usage).Traces record outcome)
    (hstore : StoreWorks record) :
    TrailRun python admission.requestId
      (answered (.BuildConverseRequest admission.body admission.resolvedModel)
          (.ok converseRequest) ::
        answered (.Converse converseRequest) (.ok rawResponse) ::
        answered (.ParseConverseResponse rawResponse admission.model) (.ok parsedResponse) ::
        record) := by
  obtain ⟨hclear, htrail⟩ := recordAdmitted_trail huser hrecord hstore
  cases hcounts : (AuditLogger.readUsage python usage).isOk with
  | true =>
      rw [if_pos hcounts] at htrail
      obtain ⟨event, hevent, hid, hdecision⟩ := htrail
      refine .Recorded ⟨event, hevent, hid, hdecision⟩ ?_
      simp only [List.forall_mem_cons]
      refine ⟨rfl, rfl, ?_, hclear⟩
      simp [Interrupts, hasUsage_of_item husage, hcounts]
  | false =>
      rw [if_neg (by simp [hcounts])] at htrail
      refine .Interrupted _ htrail (.tail _ (.tail _ (.head _))) ?_
      simp [Interrupts, hasUsage_of_item husage, hcounts]

-- Bedrock, or what is asked before and after it.
theorem InvocationRun.trail {admission : Admission} {user : UserContext} {log : Log}
    {outcome : Except Failure MessageResponse}
    (huser : raising admission.authenticated.user = .ok user)
    (h : InvocationRun python true admission log outcome)
    (hjson : ∀ stream, outcome ≠ .ok (.Streaming stream)) (hstore : StoreWorks log) :
    TrailRun python admission.requestId log := by
  cases h with
  | BuildRaised error => exact .Interrupted _ rfl (.head _) rfl
  | StreamRaised converseRequest error hstream =>
      exact .Interrupted _ rfl (.tail _ (.head _)) rfl
  | Streamed converseRequest events hstream => exact absurd rfl (hjson _)
  | ConverseRaised converseRequest error hstream =>
      exact .Interrupted _ rfl (.tail _ (.head _)) rfl
  | ParseRaised converseRequest rawResponse error hstream =>
      exact .Interrupted _ rfl (.tail _ (.tail _ (.head _))) rfl
  | Unlogged converseRequest rawResponse parsedResponse hstream haudited => cases haudited
  | NoUsage converseRequest rawResponse parsedResponse error hstream haudited husage =>
      refine .Interrupted _ rfl (.tail _ (.tail _ (.head _))) ?_
      simp [Interrupts, hasUsage_of_item_error husage]
  | Lost converseRequest rawResponse parsedResponse usage record error hstream haudited husage
      hrecord => exact parsed_trail huser husage hrecord (hstore.append [_, _, _] record).2
  | Recorded converseRequest rawResponse parsedResponse usage record hstream haudited husage
      hrecord => exact parsed_trail huser husage hrecord (hstore.append [_, _, _] record).2

-- A user is there from the authentication on, or the request is never recorded.
theorem PipelineRun.trail {body : Value} {startedAt : Rat}
    {authenticated : AuthenticatedRequestContext} {user : UserContext} {model : Value} {log : Log}
    {outcome : Except Failure MessageResponse} (hmodel : body.item "model" = .ok model)
    (huser : raising authenticated.user = .ok user)
    (h : PipelineRun python true body requestId startedAt authenticated log outcome)
    (hjson : ∀ stream, outcome ≠ .ok (.Streaming stream)) (hstore : StoreWorks log) :
    TrailRun python requestId log := by
  cases h with
  | NoModel error hmodel' =>
      rw [hmodel] at hmodel'
      cases hmodel'
  | ResolveRaised model' error hmodel' => exact .Interrupted _ rfl (.head _) rfl
  | PolicyRaised model' resolvedModel error hmodel' =>
      exact .Interrupted _ rfl (.tail _ (.head _)) rfl
  | PolicyDenied model' resolvedModel policyDecision record outcome hmodel' hdenied hrecord =>
      exact ((hrecord.trail huser).cons rfl rfl rfl).cons rfl rfl rfl
  | QuotaRaised model' resolvedModel policyDecision error hmodel' hpolicy =>
      exact .Interrupted _ rfl (.tail _ (.tail _ (.head _))) rfl
  | QuotaDenied model' resolvedModel policyDecision quotaDecision record outcome hmodel' hpolicy
      hdenied hrecord =>
      exact (((hrecord.trail huser).cons rfl rfl rfl).cons rfl rfl rfl).cons rfl rfl rfl
  | NoUser model' resolvedModel policyDecision quotaDecision error hmodel' hpolicy hquota huser' =>
      rw [huser] at huser'
      cases huser'
  | RateRaised model' resolvedModel policyDecision quotaDecision user' error hmodel' hpolicy hquota
      huser' => exact .Interrupted _ rfl (.tail _ (.tail _ (.tail _ (.head _)))) rfl
  | RateDenied model' resolvedModel policyDecision quotaDecision user' rateLimitDecision record
      outcome hmodel' hpolicy hquota huser' hdenied hrecord =>
      exact ((((hrecord.trail huser).cons rfl rfl rfl).cons rfl rfl rfl).cons rfl rfl rfl).cons
        rfl rfl rfl
  | Admitted admission user' rateLimitDecision tail outcome hbody hid hstart hauthenticated hmodel'
      hpolicy hquota huser' hrate hinvocation =>
      subst hid hauthenticated
      have htail := hinvocation.trail huser hjson (hstore.append [_, _, _, _] tail).2
      exact (((htail.cons rfl rfl rfl).cons rfl rfl rfl).cons rfl rfl rfl).cons rfl rfl rfl

-- Nothing is recorded of a request whose context has no user.
theorem DenyRun.unrecorded {audited : Bool} {denialReason : String}
    {authenticated : AuthenticatedRequestContext} {error : Failure} {model : Value}
    {resolvedModel : Option String} {policyDecision : PolicyDecision} {refusal : ServiceError}
    {record : Log} {outcome : Except Failure MessageResponse}
    (huser : raising authenticated.user = .error error)
    (h : DenyRun audited requestId denialReason authenticated model resolvedModel policyDecision
      refusal record outcome) : auditEvents record = [] := by
  have hactor : ∀ user, raising (AuditLogger.actor (some authenticated)) ≠ .ok user := by
    obtain ⟨exception, hnone, -⟩ := raising_eq_error huser
    rw [AuditLogger.actor, hnone]
    exact fun user => nofun
  cases h with
  | Unlogged haudited => rfl
  | Logged _ haudited hrecord =>
      cases hrecord with
      | Recorded id createdAt user reply huser' => exact absurd huser' (hactor user)
  | Lost _ error' haudited hrecord =>
      cases hrecord with
      | NoUser id huser' => rfl
      | Recorded id createdAt user reply huser' => exact absurd huser' (hactor user)

theorem PipelineRun.unrecorded {audited : Bool} {body : Value} {startedAt : Rat}
    {authenticated : AuthenticatedRequestContext} {error : Failure} {log : Log}
    {outcome : Except Failure MessageResponse} (huser : raising authenticated.user = .error error)
    (h : PipelineRun python audited body requestId startedAt authenticated log outcome) :
    auditEvents log = [] := by
  cases h with
  | PolicyDenied model resolvedModel policyDecision record outcome hmodel hdenied hrecord =>
      have hnone := hrecord.unrecorded huser
      exact hnone
  | QuotaDenied model resolvedModel policyDecision quotaDecision record outcome hmodel hpolicy
      hdenied hrecord =>
      have hnone := hrecord.unrecorded huser
      exact hnone
  | RateDenied model resolvedModel policyDecision quotaDecision user rateLimitDecision record
      outcome hmodel hpolicy hquota huser' hdenied hrecord =>
      rw [huser] at huser'
      cases huser'
  | Admitted admission user rateLimitDecision tail outcome hbody hid hstart hauthenticated hmodel
      hpolicy hquota huser' hrate hinvocation =>
      rw [huser] at huser'
      cases huser'
  | _ => rfl

theorem RequestIdRun.trail {http : HttpRequest} {idLog rest : Log}
    (hid : RequestIdRun http idLog requestId) (h : TrailRun python requestId rest) :
    TrailRun python requestId (idLog ++ rest) := by
  cases hid with
  | Own requestId hown hstrip => exact h
  | Generated requestId hown => exact h.cons rfl rfl rfl

theorem MessageRun.trail {http : HttpRequest} {entries : List (String × Value)} {model : Value}
    {log : Log} {outcome : Except Failure MessageResponse}
    (hbody : http.json = .ok (.Mapping entries)) (hmodel : Value.lookup entries "model" = some model)
    (h : MessageRun python true http log outcome)
    (hjson : ∀ stream, outcome ≠ .ok (.Streaming stream)) (hstore : StoreWorks log) :
    ∃ idLog rest requestId, log = idLog ++ rest ∧ RequestIdRun http idLog requestId ∧
      TrailRun python requestId log := by
  cases h with
  | Unreadable error hbody' =>
      rw [hbody] at hbody'
      cases hbody'
  | Unauthenticated body idLog requestId startedAt error hbody' hid haudited => cases haudited
  | NoModel body idLog requestId startedAt error error' hbody' hid haudited hmodel' =>
      rw [hbody] at hbody'
      cases hbody'
      simp [Value.get] at hmodel'
  | Lost body model' idLog record requestId startedAt error error' hbody' hid haudited hmodel'
      hrecord =>
      exact ⟨idLog, _, requestId, rfl, hid,
        hid.trail (((hrecord.trail rfl).cons rfl rfl rfl).cons rfl rfl rfl)⟩
  | Refused body model' idLog record requestId startedAt error hbody' hid haudited hmodel' hrecord =>
      exact ⟨idLog, _, requestId, rfl, hid,
        hid.trail (((hrecord.trail rfl).cons rfl rfl rfl).cons rfl rfl rfl)⟩
  | Authenticated body idLog tail requestId startedAt authenticated outcome hbody' hid hpipeline =>
      rw [hbody] at hbody'
      cases hbody'
      refine ⟨idLog, _, requestId, rfl, hid, hid.trail (.cons rfl rfl rfl ?_)⟩
      have hitem : (Value.Mapping entries).item "model" = .ok model := by rw [Value.item, hmodel]
      cases huser : authenticated.request.user with
      | none =>
          have hnone : authenticated.user = .error .AssertionError := by
            rw [AuthenticatedRequestContext.user, huser]
          have hraised : raising authenticated.user = _ := congrArg raising hnone
          have hunrecorded := hpipeline.unrecorded hraised
          exact .Interrupted _ hunrecorded (.head _) (by simp [Interrupts, huser])
      | some user =>
          have hsome : raising authenticated.user = .ok user := by
            rw [AuthenticatedRequestContext.user, huser]
            rfl
          refine .cons rfl rfl (by simp [Interrupts, huser]) (hpipeline.trail hitem hsome ?_ ?_)
          · rintro stream rfl
            exact hjson stream rfl
          · exact ((hstore.append idLog _).2.append [_, _] tail).2

theorem OnlyFrames.clear {log : Log} (h : OnlyFrames log) :
    ∀ answer ∈ log, Interrupts python answer = false := by
  refine h.forall_mem (fun frame demand => rfl) ?_ ?_
  · intro event reply
    cases reply <;> rfl
  · intro reply
    cases reply <;> rfl

theorem RequestIdRun.clear {http : HttpRequest} {idLog : Log}
    (hid : RequestIdRun http idLog requestId) :
    ∀ answer ∈ idLog, Interrupts python answer = false := by
  cases hid with
  | Own requestId hown hstrip => exact List.forall_mem_nil _
  | Generated requestId hown => exact List.forall_mem_singleton.mpr rfl

-- Bedrock has given a stream, and nothing on the way has interrupted the request.
theorem MessageRun.stream_created {http : HttpRequest} {created : Log} {stream : AuditedStream}
    (h : MessageRun python true http created (.ok (.Streaming stream))) :
    created.any isProduced = true ∧ (∀ answer ∈ created, Interrupts python answer = false) ∧
      ∃ idLog rest, created = idLog ++ rest ∧
        RequestIdRun http idLog stream.admission.requestId := by
  obtain ⟨body, idLog, tail, requestId, startedAt, authenticated, -, hid, rfl, hpipeline⟩ :=
    h.streaming
  obtain ⟨rfl, -, -, -, user, rateLimitDecision, converseRequest, -, huser, -, rfl⟩ :=
    hpipeline.streaming
  refine ⟨?_, List.forall_mem_append.mpr ⟨hid.clear, ?_⟩, idLog, _, rfl, hid⟩
  · simp [isProduced]
  · simp [Interrupts, AuthenticatedRequestContext.user_eq_ok (raising_eq_ok huser)]

-- A stream that has been iterated is in the audit log, however it ended.
theorem stream_trail {http : HttpRequest} {created streamed : Log} {stream : AuditedStream}
    {ending : Except Failure Ending}
    (h : MessageRun python true http created (.ok (.Streaming stream)))
    (hstream : (streamWithAudit python true stream).Traces streamed ending)
    (hstore : StoreWorks (created ++ streamed)) :
    ∃ idLog rest requestId, created ++ streamed = idLog ++ rest ∧ RequestIdRun http idLog requestId ∧
      TrailRun python requestId (created ++ streamed) := by
  obtain ⟨-, hcreated, -, user, huser⟩ := h.stream_unrecorded
  obtain ⟨frames, record, ending, final, rfl, hframes, hrecord⟩ := streamWithAudit_run hstream
  rcases hrecord with ⟨hunaudited, -⟩ | ⟨-, result, hrecord⟩
  · cases hunaudited
  obtain ⟨-, now, createdAt, usageEventId, auditEventId, rfl⟩ := recordAdmitted_recorded hrecord
    huser (readUsage_toValue python final.usage) ((hstore.append created _).2.append frames _).2
  obtain ⟨hproduced, hclear, idLog, rest, hsplit, hid⟩ := h.stream_created
  have hevents : auditEvents (created ++ (frames ++ successLog stream.admission user final.usage now
      createdAt usageEventId auditEventId)) =
      [AuditLogger.successEvent auditEventId stream.admission.requestId user stream.admission.model
        stream.admission.resolvedModel.bedrockModelId stream.admission.policyDecision createdAt] := by
    rw [auditEvents_append, hcreated, auditEvents_append, hframes.onlyFrames.quiet.2.2]
    rfl
  refine ⟨idLog, _, _, by rw [hsplit, List.append_assoc], hid, .Recorded ⟨_, hevents, rfl, ?_⟩ ?_⟩
  · rw [List.any_append, hproduced, Bool.true_or]
    rfl
  · refine List.forall_mem_append.mpr ⟨hclear, List.forall_mem_append.mpr
      ⟨hframes.onlyFrames.clear, ?_⟩⟩
    simp [successLog, Interrupts]

theorem ServedRun.trail {http : HttpRequest} {entries : List (String × Value)} {model : Value}
    {log : Log} {outcome : Except Failure MessageResponse}
    (hbody : http.json = .ok (.Mapping entries))
    (hmodel : Value.lookup entries "model" = some model)
    (h : ServedRun python true http log outcome) (hstore : StoreWorks log) :
    ∃ idLog rest requestId, log = idLog ++ rest ∧ RequestIdRun http idLog requestId ∧
      TrailRun python requestId log := by
  cases h with
  | Raised log error hcreate => exact hcreate.trail hbody hmodel (by simp) hstore
  | Json log response hcreate => exact hcreate.trail hbody hmodel (by simp) hstore
  | Streamed created streamed stream ending hcreate hstream =>
      exact stream_trail hcreate hstream hstore

end Trails

-- A request is in the audit log unless one of the guarded calls raises, the context of its key
-- has no user, or its parsed response has no usage that can be read.
theorem audit_trail_iff (python : Interpreter) (http : HttpRequest)
    (entries : List (String × Value)) (model : Value) (log : Log)
    (outcome : Except Failure MessageResponse) (hbody : http.json = .ok (.Mapping entries))
    (hmodel : Value.lookup entries "model" = some model)
    (h : (serveMessage python true http).Traces log outcome) (hstore : StoreWorks log) :
    ∃ idLog rest requestId, log = idLog ++ rest ∧
      (resolveRequestId http).Traces idLog (.ok requestId) ∧
      (Audited requestId log ↔ ∀ answer ∈ log, Interrupts python answer = false) := by
  obtain ⟨idLog, rest, requestId, hlog, hid, htrail⟩ :=
    (serveMessage_run h).trail hbody hmodel hstore
  exact ⟨idLog, rest, requestId, hlog, hid.traces, htrail.audited_iff⟩

section Samples

def unknownModelHttp : HttpRequest where
  json := .ok (.Mapping [("model", .Str "gpt-4"), ("messages", .Sequence [])])
  authorization := some "Bearer vk_first"

theorem sampleEnvironment_stores (program : Runtime α) :
    StoreWorks (sampleEnvironment.run program).1 := by
  constructor
  · intro event error hmem
    cases sampleEnvironment.ask_of_mem_run program (.RecordUsage event) (.error error) hmem
  · intro event error hmem
    cases sampleEnvironment.ask_of_mem_run program (.RecordAudit event) (.error error) hmem

theorem audit_trail_iff_sample :
    let log := (sampleEnvironment.run (serveMessage samplePython true (sampleHttp true))).1
    ∃ idLog rest requestId, log = idLog ++ rest ∧
      (resolveRequestId (sampleHttp true)).Traces idLog (.ok requestId) ∧
      (Audited requestId log ↔ ∀ answer ∈ log, Interrupts samplePython answer = false) :=
  audit_trail_iff samplePython (sampleHttp true) (sampleBody true) (.Str "claude-sonnet-4") _ _ rfl
    (by with_unfolding_all rfl) (sampleEnvironment.traces_run _)
    (sampleEnvironment_stores _)

-- The key is accepted, the model has no route, the client is told, and no event is written.
theorem unknown_model_unaudited :
    let run := sampleEnvironment.run (serveMessage samplePython true unknownModelHttp)
    (∃ response, run.2 = .ok (.Json response) ∧ response.statusCode = 400) ∧
      StoreWorks run.1 ∧ ∀ requestId, ¬Audited requestId run.1 := by
  refine ⟨⟨_, rfl, rfl⟩, sampleEnvironment_stores _, ?_⟩
  rintro requestId ⟨event, hevents, -⟩
  have hnone : auditEvents (sampleEnvironment.run
      (serveMessage samplePython true unknownModelHttp)).1 = [] := by decide
  rw [hnone] at hevents
  cases hevents

end Samples

end ClaudeCodeProxy
