import ClaudeCodeProxy.Api.Envelopes
import ClaudeCodeProxy.Api.Observability

-- What a request leaves under its id: the rows of the ledgers, and the header of its response.

namespace ClaudeCodeProxy.Observability

open Effects Python

section Rows

inductive LedgerRow
  | Usage (event : UsageEventRecord)
  | Audit (event : AuditEventRecord)

def LedgerRow.requestId : LedgerRow → String
  | .Usage event => event.requestId
  | .Audit event => event.requestId

-- The row that a store has taken.
def filed? : Answer runtime → Option LedgerRow
  | ⟨.Ask (.RecordUsage event), .ok _⟩ => some (.Usage event)
  | ⟨.Ask (.RecordAudit event), .ok _⟩ => some (.Audit event)
  | _ => none

def filed (log : Log) : List LedgerRow := log.filterMap filed?

def generated? : Answer runtime → Option String
  | ⟨.GenerateRequestId, requestId⟩ => some requestId
  | _ => none

def generated (log : Log) : List String := log.filterMap generated?

-- A request is refused, or it is billed and then allowed; it may end at any point before that.
inductive Filing (requestId : String) : List LedgerRow → Prop
  | Nothing : Filing requestId []
  | Refused (audit : AuditEventRecord) (hid : audit.requestId = requestId)
      (hdecision : audit.decision = AUDIT_DECISION_DENIED) : Filing requestId [.Audit audit]
  | Billed (usage : UsageEventRecord) (hid : usage.requestId = requestId) :
      Filing requestId [.Usage usage]
  | Settled (usage : UsageEventRecord) (audit : AuditEventRecord)
      (husage : usage.requestId = requestId) (haudit : audit.requestId = requestId)
      (hdecision : audit.decision = AUDIT_DECISION_ALLOWED)
      (hactor : audit.actorUserId = some usage.userId) :
      Filing requestId [.Usage usage, .Audit audit]

theorem Filing.requestId_eq {requestId : String} {rows : List LedgerRow}
    (h : Filing requestId rows) : ∀ row ∈ rows, row.requestId = requestId := by
  cases h with
  | Nothing => exact List.forall_mem_nil _
  | Refused audit hid hdecision => exact List.forall_mem_singleton.mpr hid
  | Billed usage hid => exact List.forall_mem_singleton.mpr hid
  | Settled usage audit husage haudit hdecision hactor =>
      exact List.forall_mem_cons.mpr ⟨husage, List.forall_mem_singleton.mpr haudit⟩

-- A request that is stopped has filed a part of what it would have.
theorem Filing.of_prefix {requestId : String} {rows earlier : List LedgerRow}
    (h : Filing requestId rows) (hbegins : earlier <+: rows) : Filing requestId earlier := by
  obtain ⟨later, hrows⟩ := hbegins
  cases earlier with
  | nil => exact .Nothing
  | cons first earlier =>
      cases h with
      | Nothing => cases hrows
      | Refused audit hid hdecision =>
          obtain ⟨rfl, hrest⟩ := List.cons.inj hrows
          obtain ⟨rfl, -⟩ := List.append_eq_nil_iff.mp hrest
          exact .Refused audit hid hdecision
      | Billed usage hid =>
          obtain ⟨rfl, hrest⟩ := List.cons.inj hrows
          obtain ⟨rfl, -⟩ := List.append_eq_nil_iff.mp hrest
          exact .Billed usage hid
      | Settled usage audit husage haudit hdecision hactor =>
          obtain ⟨rfl, hrest⟩ := List.cons.inj hrows
          cases earlier with
          | nil => exact .Billed usage husage
          | cons second earlier =>
              obtain ⟨rfl, hnone⟩ := List.cons.inj hrest
              obtain ⟨rfl, -⟩ := List.append_eq_nil_iff.mp hnone
              exact .Settled usage audit husage haudit hdecision hactor

theorem filed_append (first second : Log) : filed (first ++ second) = filed first ++ filed second :=
  List.filterMap_append

theorem generated_append (first second : Log) :
    generated (first ++ second) = generated first ++ generated second := List.filterMap_append

-- What a part of a request files is filed under its id, and the part generates no other.
structure Files (requestId : String) (log : Log) : Prop where
  unnamed : generated log = []
  filing : Filing requestId (filed log)

end Rows

section Runs

variable {python : Interpreter} {audited : Bool} {requestId : String}

theorem Files.nothing {log : Log} (hunnamed : generated log = []) (hfiled : filed log = []) :
    Files requestId log :=
  ⟨hunnamed, hfiled ▸ .Nothing⟩

theorem Files.prepend (first : Log) {second : Log} (h : Files requestId second)
    (hunnamed : generated first = []) (hfiled : filed first = []) :
    Files requestId (first ++ second) := by
  refine ⟨?_, ?_⟩
  · rw [generated_append, hunnamed, h.unnamed]
    rfl
  · rw [filed_append, hfiled]
    exact h.filing

theorem Files.append {first second : Log} (h : Files requestId first)
    (hunnamed : generated second = []) (hfiled : filed second = []) :
    Files requestId (first ++ second) := by
  refine ⟨?_, ?_⟩
  · rw [generated_append, hunnamed, h.unnamed]
    rfl
  · rw [filed_append, hfiled, List.append_nil]
    exact h.filing

theorem files_denial {denialReason : String} {authenticated : Option AuthenticatedRequestContext}
    {model : Value} {resolvedModel : Option String} {policyDecision : Option PolicyDecision}
    {log : Log} {outcome : Except Failure Unit}
    (h : DenialRun requestId denialReason authenticated model resolvedModel policyDecision log
      outcome) : Files requestId log := by
  cases h with
  | NoUser id error huser => exact .nothing rfl rfl
  | Recorded id createdAt user reply huser =>
      cases outcome with
      | ok value => exact ⟨rfl, .Refused _ rfl rfl⟩
      | error error => exact .nothing rfl rfl

theorem files_deny {denialReason : String} {authenticated : AuthenticatedRequestContext}
    {model : Value} {resolvedModel : Option String} {policyDecision : PolicyDecision}
    {refusal : ServiceError} {log : Log} {outcome : Except Failure MessageResponse}
    (h : DenyRun audited requestId denialReason authenticated model resolvedModel policyDecision
      refusal log outcome) : Files requestId log := by
  cases h with
  | Unlogged haudited => exact .nothing rfl rfl
  | Logged _ haudited hrecord => exact files_denial hrecord
  | Lost _ error haudited hrecord => exact files_denial hrecord

theorem files_recordAdmitted {admission : Admission} {usage : Value} {record : Log}
    {outcome : Except Failure Unit}
    (h : (recordAdmitted python admission usage).Traces record outcome) :
    Files admission.requestId record := by
  obtain ⟨now, rest, rfl, hrecord⟩ := recordAdmitted_run h
  cases hrecord with
  | NoUser createdAt usageEventId error huser => exact .nothing rfl rfl
  | Uncounted createdAt usageEventId user error huser hcounts => exact .nothing rfl rfl
  | UsageLost createdAt usageEventId auditEventId user counts error huser hcounts =>
      exact .nothing rfl rfl
  | Recorded createdAt usageEventId auditEventId user counts reply huser hcounts =>
      cases outcome with
      | ok value => exact ⟨rfl, .Settled _ _ rfl rfl rfl rfl⟩
      | error error => exact ⟨rfl, .Billed _ rfl⟩

theorem files_invocation {admission : Admission} {log : Log}
    {outcome : Except Failure MessageResponse}
    (h : InvocationRun python audited admission log outcome) :
    Files admission.requestId log := by
  cases h with
  | Lost converseRequest rawResponse parsedResponse usage record error hstream haudited husage
      hrecord => exact (files_recordAdmitted hrecord).prepend [_, _, _] rfl rfl
  | Recorded converseRequest rawResponse parsedResponse usage record hstream haudited husage
      hrecord => exact (files_recordAdmitted hrecord).prepend [_, _, _] rfl rfl
  | _ => exact .nothing rfl rfl

theorem files_pipeline {body : Value} {startedAt : Rat}
    {authenticated : AuthenticatedRequestContext} {log : Log}
    {outcome : Except Failure MessageResponse}
    (h : PipelineRun python audited body requestId startedAt authenticated log outcome) :
    Files requestId log := by
  cases h with
  | PolicyDenied model resolvedModel policyDecision record outcome hmodel hdenied hrecord =>
      exact (files_deny hrecord).prepend [_, _] rfl rfl
  | QuotaDenied model resolvedModel policyDecision quotaDecision record outcome hmodel hpolicy
      hdenied hrecord => exact (files_deny hrecord).prepend [_, _, _] rfl rfl
  | RateDenied model resolvedModel policyDecision quotaDecision user rateLimitDecision record
      outcome hmodel hpolicy hquota huser hdenied hrecord =>
      exact (files_deny hrecord).prepend [_, _, _, _] rfl rfl
  | Admitted admission user rateLimitDecision tail outcome hbody hid hstart hauthenticated hmodel
      hpolicy hquota huser hrate hinvocation =>
      subst hid
      exact (files_invocation hinvocation).prepend [_, _, _, _] rfl rfl
  | _ => exact .nothing rfl rfl

theorem ownId {http : HttpRequest} {idLog : Log} {other : String}
    (hid : RequestIdRun http idLog other) (hstate : http.stateRequestId = .Str requestId)
    (hstrip : Text.strip requestId ≠ "") : idLog = [] ∧ other = requestId := by
  cases hid with
  | Own other hown hother =>
      rw [hstate] at hown
      cases hown
      exact ⟨rfl, rfl⟩
  | Generated other hown => exact absurd (hown requestId hstate) hstrip

theorem files_message {http : HttpRequest} {log : Log} {outcome : Except Failure MessageResponse}
    (h : MessageRun python audited http log outcome)
    (hstate : http.stateRequestId = .Str requestId) (hstrip : Text.strip requestId ≠ "") :
    Files requestId log := by
  cases h with
  | Unreadable error hbody => exact .nothing rfl rfl
  | Unauthenticated body idLog other startedAt error hbody hid haudited =>
      obtain ⟨rfl, rfl⟩ := ownId hid hstate hstrip
      exact .nothing rfl rfl
  | NoModel body idLog other startedAt error error' hbody hid haudited hmodel =>
      obtain ⟨rfl, rfl⟩ := ownId hid hstate hstrip
      exact .nothing rfl rfl
  | Lost body model idLog record other startedAt error error' hbody hid haudited hmodel hrecord =>
      obtain ⟨rfl, rfl⟩ := ownId hid hstate hstrip
      exact (files_denial hrecord).prepend [_, _] rfl rfl
  | Refused body model idLog record other startedAt error hbody hid haudited hmodel hrecord =>
      obtain ⟨rfl, rfl⟩ := ownId hid hstate hstrip
      exact (files_denial hrecord).prepend [_, _] rfl rfl
  | Authenticated body idLog tail other startedAt authenticated outcome hbody hid hpipeline =>
      obtain ⟨rfl, rfl⟩ := ownId hid hstate hstrip
      exact (files_pipeline hpipeline).prepend [_, _] rfl rfl

theorem files_count {http : HttpRequest} {log : Log} {outcome : Except Failure MessageResponse}
    (h : CountRun python http log outcome) (hstate : http.stateRequestId = .Str requestId)
    (hstrip : Text.strip requestId ≠ "") : Files requestId log := by
  rcases h.split with ⟨error, -, rfl⟩ | ⟨body, idLog, tail, other, result, -, hid, rfl, htail⟩
  · exact .nothing rfl rfl
  · obtain ⟨rfl, rfl⟩ := ownId hid hstate hstrip
    cases htail with
    | _ => exact .nothing rfl rfl

theorem files_handle {endpoint : Endpoint} {http : HttpRequest} {log : Log}
    {outcome : Except Failure MessageResponse}
    (h : (endpoint.handle python audited http).Traces log outcome)
    (hstate : http.stateRequestId = .Str requestId) (hstrip : Text.strip requestId ≠ "") :
    Files requestId log := by
  cases endpoint with
  | CreateMessage => exact files_message (createMessage_run h) hstate hstrip
  | CountTokens => exact files_count (countTokens_run h) hstate hstrip

theorem unfiled_frames {log : Log} (h : OnlyFrames log) : generated log = [] ∧ filed log = [] := by
  refine ⟨List.filterMap_eq_nil_iff.mpr ?_, List.filterMap_eq_nil_iff.mpr ?_⟩
  · exact h.forall_mem (fun _ _ => rfl) (fun _ _ => rfl) fun _ => rfl
  · exact h.forall_mem (fun _ _ => rfl) (fun _ _ => rfl) fun _ => rfl

theorem files_stream {stream : AuditedStream} {log : Log} {outcome : Except Failure Ending}
    (h : (streamWithAudit python audited stream).Traces log outcome) :
    Files stream.admission.requestId log := by
  obtain ⟨frames, record, ending, final, rfl, hframes, hrecord⟩ := streamWithAudit_run h
  obtain ⟨hunnamed, hfiled⟩ := unfiled_frames hframes.onlyFrames
  rcases hrecord with ⟨-, rfl⟩ | ⟨-, result, hrecord⟩
  · rw [List.append_nil]
    exact .nothing hunnamed hfiled
  · exact (files_recordAdmitted hrecord).prepend frames hunnamed hfiled

-- A stream has filed nothing before it starts, and files under the id of its request.
theorem unfiled_streaming {endpoint : Endpoint} {http : HttpRequest} {log : Log}
    {stream : AuditedStream}
    (h : (endpoint.handle python audited http).Traces log (.ok (.Streaming stream)))
    (hstate : http.stateRequestId = .Str requestId) (hstrip : Text.strip requestId ≠ "") :
    filed log = [] ∧ stream.admission.requestId = requestId := by
  cases endpoint with
  | CreateMessage =>
      obtain ⟨body, idLog, tail, other, startedAt, authenticated, -, hid, rfl, hpipeline⟩ :=
        (createMessage_run h).streaming
      obtain ⟨rfl, rfl⟩ := ownId hid hstate hstrip
      obtain ⟨hadmission, -, -, -, user, rateLimitDecision, converseRequest, -, -, -, rfl⟩ :=
        hpipeline.streaming
      exact ⟨rfl, hadmission⟩
  | CountTokens =>
      rcases countTokens_split h with ⟨error, -, -, hcontra⟩ |
        ⟨body, idLog, other, tail, result, -, -, -, -, hreply⟩
      · cases hcontra
      cases result with
      | error error => exact (errorResponse_ne_streaming error other hreply.symm).elim
      | ok countResponse =>
          rw [replyCount] at hreply
          cases hcount : raising (countedTokens python countResponse) with
          | error error =>
              rw [hcount] at hreply
              cases hreply
          | ok inputTokens =>
              rw [hcount] at hreply
              have hjson : (jsonResponse 200
                  (.Mapping [("input_tokens", .Integer inputTokens)])).map MessageResponse.Json =
                .ok (.Streaming stream) := hreply.symm
              exact (json_ne_streaming _ hjson).elim

theorem sendBody_run {response : MessageResponse} {log : Log}
    {result : Except Failure MessageResponse}
    (h : (sendBody python audited response).Traces log result) :
    (∃ sent, response = .Json sent) ∧ log = [] ∨
    ∃ stream ending, response = .Streaming stream ∧
      (streamWithAudit python audited stream).Traces log ending := by
  cases response with
  | Json sent =>
      obtain ⟨rfl, -⟩ := h
      exact .inl ⟨⟨sent, rfl⟩, rfl⟩
  | Streaming stream =>
      refine .inr ⟨stream, ?_⟩
      simp only [sendBody, Program.traces_tryCatch, Program.traces_bind] at h
      rcases h with ⟨_, ⟨error, _, hcontra⟩ | ⟨before, _, ending, rfl, hstream, rfl, -⟩, -⟩ |
        ⟨before, _, error, rfl, ⟨_, hstream, -⟩ | ⟨_, _, _, _, _, _, hcontra⟩, rfl, -⟩
      · cases hcontra
      · rw [List.append_nil]
        exact ⟨.ok ending, rfl, hstream⟩
      · rw [List.append_nil]
        exact ⟨.error _, rfl, hstream⟩
      · cases hcontra

-- What the router answers is what the route does, or the one exception that it answers itself.
theorem respond_run {endpoint : Endpoint} {http : HttpRequest} {log : Log}
    {outcome : Except Failure MessageResponse}
    (h : (respond python audited endpoint http).Traces log outcome) :
    (endpoint.handle python audited http).Traces log outcome ∨
      ∃ sent error, (endpoint.handle python audited http).Traces log (.error error) ∧
        outcome = .ok (.Json sent) ∧ sent.headers = [] := by
  rcases (Program.traces_tryCatch _ _ _ _).mp h with ⟨value, hvalue, rfl⟩ |
    ⟨before, after, error, rfl, herror, hanswer⟩
  · exact .inl hvalue
  · cases error with
    | HTTPException statusCode detail =>
        obtain ⟨rfl, rfl⟩ := hanswer
        rw [List.append_nil]
        exact .inr ⟨_, _, herror, rfl, rfl⟩
    | _ =>
        obtain ⟨rfl, rfl⟩ := hanswer
        rw [List.append_nil]
        exact .inl herror

theorem files_respond {endpoint : Endpoint} {http : HttpRequest} {log : Log}
    {outcome : Except Failure MessageResponse}
    (h : (respond python audited endpoint http).Traces log outcome)
    (hstate : http.stateRequestId = .Str requestId) (hstrip : Text.strip requestId ≠ "") :
    Files requestId log := by
  rcases respond_run h with hroute | ⟨_, _, hroute, -, -⟩
  · exact files_handle hroute hstate hstrip
  · exact files_handle hroute hstate hstrip

-- Whatever becomes of the body, all that the request has filed is in order.
theorem files_served {endpoint : Endpoint} {http : HttpRequest} {created streamed : Log}
    {response : MessageResponse} {result : Except Failure MessageResponse}
    (hcreate : (respond python audited endpoint http).Traces created (.ok response))
    (hbody : (sendBody python audited response).Traces streamed result)
    (hstate : http.stateRequestId = .Str requestId) (hstrip : Text.strip requestId ≠ "") :
    Files requestId (created ++ streamed) := by
  have hfiles := files_respond hcreate hstate hstrip
  rcases sendBody_run hbody with ⟨-, rfl⟩ | ⟨stream, ending, rfl, hstream⟩
  · rw [List.append_nil]
    exact hfiles
  · rcases respond_run hcreate with hroute | ⟨_, _, -, hcontra, -⟩
    · obtain ⟨hfiled, rfl⟩ := unfiled_streaming hroute hstate hstrip
      exact (files_stream hstream).prepend created hfiles.unnamed hfiled
    · cases hcontra

end Runs

section Headers

theorem getHeader_setDefault {headers : List (String × String)} {key : String} (value : String)
    (h : getHeader headers key = none) :
    getHeader (setDefault headers key value) key = some value := by
  have hnone : headers.find? (fun header => sameHeader header.1 key) = none :=
    Option.map_eq_none_iff.mp h
  have hany : headers.any (fun header => sameHeader header.1 key) = false := by
    rw [List.any_eq_false]
    exact fun header hm => List.find?_eq_none.mp hnone header hm
  have hsame : sameHeader key key = true := beq_self_eq_true _
  unfold getHeader setDefault
  rw [hany, if_neg Bool.false_ne_true, List.find?_append, hnone, Option.none_or,
    List.find?_singleton, if_pos hsame]
  rfl

-- An exception that brings no request id of its own, and a response that does not.
def Plain : Failure → Prop
  | .ServiceError error => getHeader (error.headers.getD []) REQUEST_ID_HEADER = none
  | _ => True

def Unnamed (response : MessageResponse) : Prop :=
  getHeader (responseHeaders response) REQUEST_ID_HEADER = none

def plainReply : (op : RuntimeCall) → op.Reply → Prop
  | .Ask _, .error error => Plain error
  | _, _ => True

variable {python : Interpreter} {audited : Bool}

-- Among collaborators whose exceptions are plain.
abbrev EnsuresPlain (program : Runtime α) (good : α → Prop) : Prop :=
  program.Ensures plainReply good Plain

theorem plain_of_isPython {error : Failure} (h : IsPython error) : Plain error := by
  obtain ⟨exception, rfl⟩ := h
  trivial

theorem plain_attempt (dependency : Dependency) :
    EnsuresPlain (attempt dependency) fun _ => True := by
  intro reply hreply
  cases reply with
  | ok value => trivial
  | error error => exact hreply

theorem plain_request_bind {op : RuntimeCall} {rest : op.Reply → Runtime α} {good : α → Prop}
    (h : ∀ reply, EnsuresPlain (rest reply) good) : EnsuresPlain (request op >>= rest) good :=
  fun reply _ => h reply

theorem plain_raising (result : Except Exception α) :
    EnsuresPlain (ofExcept (raising result)) fun _ => True := by
  cases hresult : raising result with
  | ok value => trivial
  | error error => exact plain_of_isPython (isPython_of_raising hresult)

theorem plain_errorResponse {error : Failure} (requestId : String) (h : Plain error) :
    EnsuresPlain (ofExcept (errorResponse error requestId)) Unnamed := by
  have hheaders : getHeader ((normalizeException error requestId).headers.getD [])
      REQUEST_ID_HEADER = none := by
    cases error with
    | ServiceError error => exact h
    | _ => rfl
  rw [errorResponse_eq, serviceErrorResponse_eq]
  split_ifs
  · exact hheaders
  · trivial

theorem plain_success (content : Value) :
    EnsuresPlain (ofExcept ((jsonResponse 200 content).map MessageResponse.Json)) Unnamed := by
  unfold jsonResponse
  split_ifs
  · exact rfl
  · trivial

theorem plain_recordDenial (requestId denialReason : String)
    (authenticated : Option AuthenticatedRequestContext) (requestedModel : Value)
    (resolvedModel : Option String) (policyDecision : Option PolicyDecision) :
    EnsuresPlain (AuditLogger.recordDenial requestId denialReason authenticated requestedModel
      resolvedModel policyDecision) fun _ => True := by
  refine plain_request_bind fun id => ?_
  refine (plain_raising _).bind fun user _ => ?_
  refine plain_request_bind fun createdAt => ?_
  exact plain_attempt _

theorem plain_recordAdmitted (admission : Admission) (usage : Value) :
    EnsuresPlain (recordAdmitted python admission usage) fun _ => True := by
  refine plain_request_bind fun now => ?_
  refine plain_request_bind fun createdAt => ?_
  refine plain_request_bind fun usageEventId => ?_
  refine (plain_raising _).bind fun user _ => ?_
  refine (plain_raising _).bind fun counts _ => ?_
  refine plain_request_bind fun auditEventId => ?_
  exact Program.Ensures.bind (plain_attempt _) fun _ _ => plain_attempt _

theorem plain_deny {requestId denialReason : String}
    {authenticated : AuthenticatedRequestContext} {requestedModel : Value}
    {resolvedModel : Option String} {policyDecision : PolicyDecision} {error : ServiceError}
    (h : Plain (.ServiceError error)) :
    EnsuresPlain (deny audited requestId denialReason authenticated requestedModel resolvedModel
      policyDecision error) Unnamed := by
  cases audited with
  | false => exact plain_errorResponse requestId h
  | true =>
      exact (plain_recordDenial _ _ _ _ _ _).bind fun _ _ => plain_errorResponse requestId h

theorem plain_invokeBedrock (admission : Admission) :
    EnsuresPlain (invokeBedrock python audited admission) Unnamed := by
  refine (plain_attempt _).bind fun converseRequest _ => ?_
  by_cases hstream : converseRequest.operation = "converse_stream"
  · rw [if_pos hstream]
    exact (plain_attempt _).bind fun _ _ => rfl
  rw [if_neg hstream]
  refine (plain_attempt _).bind fun rawResponse _ => ?_
  refine (plain_attempt _).bind fun parsedResponse _ => ?_
  cases audited with
  | false => exact plain_success parsedResponse
  | true =>
      refine (plain_raising _).bind fun usage _ => ?_
      exact (plain_recordAdmitted admission usage).bind fun _ _ => plain_success parsedResponse

-- `Retry-After` is no request id.
theorem plain_rateLimited (requestId : String) (decision : RateLimitDecision) :
    Plain (.ServiceError (rateLimitExceededError requestId none
      (some (retryAfterHeaders decision)))) := by
  have hother : sameHeader "Retry-After" REQUEST_ID_HEADER = false := by decide
  show getHeader (retryAfterHeaders decision) REQUEST_ID_HEADER = none
  unfold retryAfterHeaders getHeader
  cases decision.retryAfterSeconds with
  | none => rfl
  | some seconds => simp [hother]

theorem plain_runPipeline (body : Value) (requestId : String) (startedAt : Rat)
    (authenticated : AuthenticatedRequestContext) :
    EnsuresPlain (runPipeline python audited body requestId startedAt authenticated) Unnamed := by
  refine (plain_raising _).bind fun model _ => ?_
  refine (plain_attempt _).bind fun resolvedModel _ => ?_
  refine (plain_attempt _).bind fun policyDecision _ => ?_
  split_ifs
  · exact plain_deny rfl
  refine (plain_attempt _).bind fun quotaDecision _ => ?_
  split_ifs
  · exact plain_deny rfl
  refine (plain_raising _).bind fun user _ => ?_
  refine (plain_attempt _).bind fun rateLimitDecision _ => ?_
  split_ifs
  · exact plain_deny (plain_rateLimited requestId rateLimitDecision)
  · exact plain_invokeBedrock _

theorem plain_resolveRequestId (http : HttpRequest) :
    EnsuresPlain (resolveRequestId http) fun _ => True := by
  apply Program.ensures_of_traces
  intro log outcome h
  obtain ⟨requestId, rfl, -⟩ := resolveRequestId_run h
  exact .inl ⟨requestId, rfl, True.intro⟩

theorem plain_createMessage (http : HttpRequest) (hbody : ∀ error, http.json = .error error →
    Plain error) : EnsuresPlain (createMessage python audited http) Unnamed := by
  have hjson : EnsuresPlain (ofExcept http.json) fun _ => True := by
    cases hresult : http.json with
    | ok body => exact True.intro
    | error error => exact hbody error hresult
  refine hjson.bind fun body _ => ?_
  refine (plain_resolveRequestId http).bind fun requestId _ => ?_
  refine plain_request_bind fun startedAt => ?_
  intro reply hreply
  cases reply with
  | error error =>
      cases audited with
      | false => exact plain_errorResponse requestId hreply
      | true =>
          refine (plain_raising _).bind fun model _ => ?_
          exact (plain_recordDenial _ _ _ _ _ _).bind fun _ _ =>
            plain_errorResponse requestId hreply
  | ok authenticated =>
      exact (plain_runPipeline body requestId startedAt authenticated).tryCatch
        fun error herror => plain_errorResponse requestId herror

theorem plain_countTokens (http : HttpRequest) (hbody : ∀ error, http.json = .error error →
    Plain error) : EnsuresPlain (countTokens python http) Unnamed := by
  have hjson : EnsuresPlain (ofExcept http.json) fun _ => True := by
    cases hresult : http.json with
    | ok body => exact True.intro
    | error error => exact hbody error hresult
  have hconverse : ∀ body requestId, EnsuresPlain (countConverse http body requestId)
      fun _ => True := by
    intro body requestId
    refine (plain_attempt _).bind fun _ _ => ?_
    refine (plain_raising _).bind fun model _ => ?_
    refine (plain_attempt _).bind fun resolvedModel _ => ?_
    exact Program.Ensures.bind (plain_attempt _) fun _ _ => plain_attempt _
  refine hjson.bind fun body _ => ?_
  refine (plain_resolveRequestId http).bind fun requestId _ => ?_
  refine (hconverse body requestId).captured.bind fun result hresult => ?_
  cases result with
  | error error => exact plain_errorResponse requestId (hresult.2 error rfl)
  | ok countResponse => exact (plain_raising _).bind fun _ _ => plain_success _

-- The header is the middleware's own where no exception that came up has brought one.
theorem unnamed_handle {endpoint : Endpoint} {http : HttpRequest} {log : Log}
    {response : MessageResponse}
    (h : (endpoint.handle python audited http).Traces log (.ok response))
    (hplain : ∀ dependency error, answered dependency (.error error) ∈ log → Plain error) :
    Unnamed response := by
  have hreplies : ∀ answer ∈ log, plainReply answer.1 answer.2 := by
    rintro ⟨op, reply⟩ hm
    cases op with
    | Ask dependency =>
        cases reply with
        | ok value => exact True.intro
        | error error => exact hplain dependency error hm
    | _ => exact True.intro
  have hreadable : ∀ error, http.json = .error error → Plain error := by
    intro error hbody
    cases endpoint with
    | CreateMessage =>
        simp only [Endpoint.handle, createMessage, hbody, ofExcept, Program.raise_bind] at h
        cases h.2
    | CountTokens =>
        simp only [Endpoint.handle, countTokens, hbody, ofExcept, Program.raise_bind] at h
        cases h.2
  have hensures : EnsuresPlain (endpoint.handle python audited http) Unnamed := by
    cases endpoint with
    | CreateMessage => exact plain_createMessage http hreadable
    | CountTokens => exact plain_countTokens http hreadable
  rcases hensures.traces h hreplies with ⟨_, hresponse, hunnamed⟩ | ⟨_, hcontra, -⟩
  · cases hresponse
    exact hunnamed
  · cases hcontra

theorem unnamed_respond {endpoint : Endpoint} {http : HttpRequest} {log : Log}
    {response : MessageResponse}
    (h : (respond python audited endpoint http).Traces log (.ok response))
    (hplain : ∀ dependency error, answered dependency (.error error) ∈ log → Plain error) :
    Unnamed response := by
  rcases respond_run h with hroute | ⟨sent, _, -, hsent, hheaders⟩
  · exact unnamed_handle hroute hplain
  · cases hsent
    show getHeader sent.headers REQUEST_ID_HEADER = none
    rw [hheaders]
    rfl

end Headers

end ClaudeCodeProxy.Observability
