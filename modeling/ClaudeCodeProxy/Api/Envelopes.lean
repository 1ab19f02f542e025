import ClaudeCodeProxy.Api.AuditTrail
import ClaudeCodeProxy.Api.FailClosed
import ClaudeCodeProxy.Api.UserGate
import ClaudeCodeProxy.Effects.Forwarding

-- What a client gets back for a request of any shape, and when an exception leaves the
-- handler instead.

namespace ClaudeCodeProxy

open Effects Python

section Envelopes

def succeeded (response : JSONResponse) : Bool :=
  decide (200 ≤ response.statusCode ∧ response.statusCode < 300)

-- The content of an error response that tells the id of the request.
def ErrorEnvelope (requestId : String) (content : Value) : Prop :=
  ∃ errorType message details, content = .Mapping [
    ("type", .Str "error"),
    ("error", .Mapping ([("type", .Str errorType), ("message", .Str message)] ++ details)),
    ("request_id", .Str requestId)]

def Enveloped (requestId : String) : MessageResponse → Prop
  | .Json response => succeeded response = false → ErrorEnvelope requestId response.content
  | .Streaming _ => True

-- A service error is shown as it is: its details have to be JSON, and its id that of the
-- request.
def Reportable (requestId : String) : Failure → Prop
  | .ServiceError error => (Value.Mapping (error.details.getD [])).jsonCompliant = true ∧
      (error.requestId = requestId ∨ 200 ≤ error.statusCode ∧ error.statusCode < 300)
  | _ => True

def errorContent (error : ServiceError) : Value := .Mapping [
  ("type", .Str "error"),
  ("error", .Mapping ([("type", .Str (errorType error.code)), ("message", .Str error.message)] ++
    match error.details with
    | none | some [] => []
    | some details => [("details", .Mapping details)])),
  ("request_id", .Str error.requestId)]

theorem errorContent_compliant (error : ServiceError) :
    (errorContent error).jsonCompliant =
      (Value.Mapping (error.details.getD [])).jsonCompliant := by
  rw [errorContent]
  cases error.details with
  | none => rfl
  | some details =>
      cases details with
      | nil => rfl
      | cons detail details => simp [Value.jsonCompliant, Value.entriesCompliant]

theorem serviceErrorResponse_eq (error : ServiceError) :
    serviceErrorResponse error =
      if (Value.Mapping (error.details.getD [])).jsonCompliant then
        .ok ⟨error.statusCode, errorContent error, error.headers.getD []⟩
      else .error (.ofPython .ValueError) := by
  rw [← errorContent_compliant]
  rfl

theorem errorEnvelope_errorContent_iff {requestId : String} {error : ServiceError} :
    ErrorEnvelope requestId (errorContent error) ↔ error.requestId = requestId := by
  constructor
  · rintro ⟨errorType, message, details, h⟩
    simp only [errorContent, Value.Mapping.injEq, List.cons.injEq, Prod.mk.injEq, true_and,
      Value.Str.injEq, and_true] at h
    exact h.2
  · rintro rfl
    exact ⟨_, _, _, rfl⟩

theorem errorResponse_eq (error : Failure) (requestId : String) :
    errorResponse error requestId =
      (serviceErrorResponse (normalizeException error requestId)).map .Json := rfl

-- An error is shown in an envelope of the request exactly if it can be.
theorem errorResponse_enveloped_iff {error : Failure} {requestId : String} :
    (∃ response, errorResponse error requestId = .ok response ∧ Enveloped requestId response) ↔
      Reportable requestId error := by
  have hiff : ∀ shown : ServiceError,
      (∃ response, (serviceErrorResponse shown).map MessageResponse.Json = .ok response ∧
        Enveloped requestId response) ↔ Reportable requestId (.ServiceError shown) := by
    intro shown
    rw [serviceErrorResponse_eq, Reportable]
    split_ifs with hcompliant
    · constructor
      · rintro ⟨_, ⟨rfl⟩, henvelope⟩
        refine ⟨hcompliant, ?_⟩
        by_cases hsucceeded : 200 ≤ shown.statusCode ∧ shown.statusCode < 300
        · exact .inr hsucceeded
        · exact .inl (errorEnvelope_errorContent_iff.mp (henvelope (decide_eq_false hsucceeded)))
      · rintro ⟨-, hid⟩
        refine ⟨_, rfl, fun hsucceeded => ?_⟩
        exact errorEnvelope_errorContent_iff.mpr
          (hid.resolve_right (of_decide_eq_false hsucceeded))
    · exact ⟨fun ⟨_, h, _⟩ => (by cases h), fun h => absurd h.1 hcompliant⟩
  rw [errorResponse_eq, hiff]
  cases error with
  | ServiceError error => rfl
  | _ => exact ⟨fun _ => trivial, fun _ => ⟨rfl, .inl rfl⟩⟩

end Envelopes

section Guarded

variable {python : Interpreter} {audited : Bool}

-- What a dependency raises.
def failureOf : (op : RuntimeCall) → op.Reply → Option Failure
  | .Ask _, .error error => some error
  | _, _ => none

-- What Bedrock counts.
def countOf : (op : RuntimeCall) → op.Reply → Option Value
  | .Ask (.CountTokens _), .ok countResponse => some countResponse
  | _, _ => none

def IsPython (error : Failure) : Prop := ∃ exception, error = .ofPython exception

theorem isPython_of_raising {result : Except Exception α} {error : Failure}
    (h : raising result = .error error) : IsPython error := by
  obtain ⟨exception, -, rfl⟩ := raising_eq_error h
  exact ⟨exception, rfl⟩

-- Nobody is authenticated.
def Unauthenticating : RuntimeCall → Prop
  | .Ask (.Authenticate _ _) => False
  | _ => True

abbrev Forwarding (allowed : RuntimeCall → Prop) (program : Runtime α) (good : α → Prop) : Prop :=
  program.Forwards failureOf IsPython allowed good

variable {allowed : RuntimeCall → Prop}

theorem forwarding_attempt {dependency : Dependency} (h : allowed (.Ask dependency)) :
    Forwarding allowed (attempt dependency) fun _ => True := by
  apply Program.forwards_call h
  · intro reply error h
    cases reply with
    | ok value => cases h
    | error error => cases h; rfl
  · intro reply h
    cases reply with
    | ok value => trivial
    | error error => cases h

theorem forwarding_request_bind {op : RuntimeCall} {rest : op.Reply → Runtime α} {good : α → Prop}
    (hop : allowed op) (hreply : ∀ reply, failureOf op reply = none)
    (h : ∀ reply, Forwarding allowed (rest reply) good) :
    Forwarding allowed (request op >>= rest) good :=
  Program.forwards_call hop
    (fun reply error hfailure => by rw [hreply reply] at hfailure; cases hfailure)
    fun reply _ => h reply

theorem forwarding_ofExcept {result : Except Failure α} {good : α → Prop}
    (hgood : ∀ value, result = .ok value → good value)
    (hown : ∀ error, result = .error error → IsPython error) :
    Forwarding allowed (ofExcept result) good := by
  cases result with
  | ok value => exact hgood value rfl
  | error error => exact hown error rfl

theorem forwarding_raising (result : Except Exception α) :
    Forwarding allowed (ofExcept (raising result)) fun _ => True :=
  forwarding_ofExcept (fun _ _ => trivial) fun _ => isPython_of_raising

theorem forwarding_recordDenial (requestId denialReason : String)
    (authenticated : Option AuthenticatedRequestContext) (requestedModel : Value)
    (resolvedModel : Option String) (policyDecision : Option PolicyDecision) :
    Forwarding Unauthenticating (AuditLogger.recordDenial requestId denialReason authenticated
      requestedModel resolvedModel policyDecision) fun _ => True := by
  refine forwarding_request_bind trivial (fun _ => rfl) fun id => ?_
  refine (forwarding_raising _).bind fun user _ => ?_
  refine forwarding_request_bind trivial (fun _ => rfl) fun createdAt => ?_
  exact forwarding_attempt trivial

theorem forwarding_recordSuccess (authenticated : AuthenticatedRequestContext)
    (requestId : String) (requestedModel : Value) (resolvedModel : Option String)
    (policyDecision : PolicyDecision) (usage : Value)
    (usageSnapshot : Option UsageCostSnapshot) (latencyMs : Option Int) :
    Forwarding Unauthenticating (AuditLogger.recordSuccess python authenticated requestId
      requestedModel resolvedModel policyDecision usage usageSnapshot latencyMs) fun _ => True := by
  refine forwarding_request_bind trivial (fun _ => rfl) fun createdAt => ?_
  refine forwarding_request_bind trivial (fun _ => rfl) fun usageEventId => ?_
  refine (forwarding_raising _).bind fun user _ => ?_
  refine (forwarding_raising _).bind fun counts _ => ?_
  refine forwarding_request_bind trivial (fun _ => rfl) fun auditEventId => ?_
  exact Program.Forwards.bind (forwarding_attempt trivial) fun _ _ => forwarding_attempt trivial

theorem forwarding_recordAdmitted (admission : Admission) (usage : Value) :
    Forwarding Unauthenticating (recordAdmitted python admission usage) fun _ => True := by
  refine forwarding_request_bind trivial (fun _ => rfl) fun now => ?_
  exact forwarding_recordSuccess _ _ _ _ _ _ _ _

theorem forwarding_errorResponse {error : Failure} {requestId : String}
    (h : Reportable requestId error) :
    Forwarding Unauthenticating (ofExcept (errorResponse error requestId))
      (Enveloped requestId) := by
  obtain ⟨response, hresponse, henvelope⟩ := errorResponse_enveloped_iff.mpr h
  rw [hresponse]
  exact henvelope

theorem forwarding_deny {requestId denialReason : String}
    {authenticated : AuthenticatedRequestContext} {requestedModel : Value}
    {resolvedModel : Option String} {policyDecision : PolicyDecision} {error : ServiceError}
    (h : Reportable requestId (.ServiceError error)) :
    Forwarding Unauthenticating (deny audited requestId denialReason authenticated requestedModel
      resolvedModel policyDecision error) (Enveloped requestId) := by
  cases audited with
  | false => exact forwarding_errorResponse h
  | true =>
      exact (forwarding_recordDenial _ _ _ _ _ _).bind fun _ _ => forwarding_errorResponse h

-- A reply that is no JSON raises in the guarded part.
theorem forwarding_success (requestId : String) (content : Value) :
    Forwarding Unauthenticating (ofExcept ((jsonResponse 200 content).map MessageResponse.Json))
      (Enveloped requestId) := by
  unfold jsonResponse
  split_ifs
  · exact fun hsucceeded => by cases hsucceeded
  · exact ⟨.ValueError, rfl⟩

theorem forwarding_invokeBedrock (admission : Admission) (requestId : String) :
    Forwarding Unauthenticating (invokeBedrock python audited admission) (Enveloped requestId) := by
  refine (forwarding_attempt trivial).bind fun converseRequest _ => ?_
  by_cases hstream : converseRequest.operation = "converse_stream"
  · rw [if_pos hstream]
    exact (forwarding_attempt trivial).bind fun _ _ => trivial
  rw [if_neg hstream]
  refine (forwarding_attempt trivial).bind fun rawResponse _ => ?_
  refine (forwarding_attempt trivial).bind fun parsedResponse _ => ?_
  cases audited with
  | false => exact forwarding_success requestId parsedResponse
  | true =>
      refine (forwarding_raising _).bind fun usage _ => ?_
      exact (forwarding_recordAdmitted admission usage).bind fun _ _ =>
        forwarding_success requestId parsedResponse

theorem forwarding_runPipeline (body : Value) (requestId : String) (startedAt : Rat)
    (authenticated : AuthenticatedRequestContext) :
    Forwarding Unauthenticating (runPipeline python audited body requestId startedAt authenticated)
      (Enveloped requestId) := by
  refine (forwarding_raising _).bind fun model _ => ?_
  refine (forwarding_attempt trivial).bind fun resolvedModel _ => ?_
  refine (forwarding_attempt trivial).bind fun policyDecision _ => ?_
  split_ifs
  · exact forwarding_deny ⟨rfl, .inl rfl⟩
  refine (forwarding_attempt trivial).bind fun quotaDecision _ => ?_
  split_ifs
  · exact forwarding_deny ⟨rfl, .inl rfl⟩
  refine (forwarding_raising _).bind fun user _ => ?_
  refine (forwarding_attempt trivial).bind fun rateLimitDecision _ => ?_
  split_ifs
  · exact forwarding_deny ⟨rfl, .inl rfl⟩
  · exact forwarding_invokeBedrock _ requestId

theorem IsPython.reportable {error : Failure} (h : IsPython error) (requestId : String) :
    Reportable requestId error := by
  obtain ⟨exception, rfl⟩ := h
  trivial

theorem failureOf_eq_some {answer : Answer runtime} {error : Failure}
    (h : failureOf answer.1 answer.2 = some error) :
    ∃ dependency, answer = answered dependency (.error error) := by
  obtain ⟨op, reply⟩ := answer
  cases op with
  | Ask dependency =>
      cases reply with
      | ok value => cases h
      | error error' =>
          cases h
          exact ⟨dependency, rfl⟩
  | _ => cases h

-- What dependencies raised can be shown to the client of the request.
def FailuresReportable (requestId : String) (log : Log) : Prop :=
  ∀ dependency error, answered dependency (.error error) ∈ log → Reportable requestId error

-- What is caught is shown in an envelope, if what a dependency raised can be.
theorem caught_enveloped_iff {program : Runtime MessageResponse} {requestId : String} {log : Log}
    {result : Except Failure MessageResponse}
    (hprogram : Forwarding allowed program (Enveloped requestId))
    (htraces : program.Traces log result) :
    (∃ response, caught requestId result = .ok response ∧ Enveloped requestId response) ↔
      FailuresReportable requestId log := by
  rcases hprogram.traces htraces with ⟨earlier, answer, error, rfl, hearlier, hanswer, rfl⟩ |
    ⟨hnone, hresult⟩
  · refine errorResponse_enveloped_iff.trans ⟨fun h dependency other hm => ?_, fun h => ?_⟩
    · rcases List.mem_append.mp hm with hm | hm
      · cases hearlier _ hm
      · obtain rfl := List.mem_singleton.mp hm
        cases hanswer
        exact h
    · obtain ⟨dependency, rfl⟩ := failureOf_eq_some hanswer
      exact h dependency error (by simp)
  · refine iff_of_true ?_ fun dependency error hm => by cases hnone _ hm
    rcases hresult with ⟨response, hresponse, rfl⟩ | ⟨error, herror, rfl⟩
    · exact ⟨response, rfl, hresponse⟩
    · exact errorResponse_enveloped_iff.mpr (herror.reportable requestId)

end Guarded

section Rejections

variable {python : Interpreter} {audited : Bool} {http : HttpRequest} {log : Log}
  {outcome : Except Failure MessageResponse}

theorem DenialRun.not_failed {requestId denialReason : String}
    {authenticated : Option AuthenticatedRequestContext} {model : Value}
    {resolvedModel : Option String} {policyDecision : Option PolicyDecision}
    (h : DenialRun requestId denialReason authenticated model resolvedModel policyDecision log
      (.ok ())) (dependency : Dependency) (error : Failure) :
    answered dependency (.error error) ∉ log := by
  generalize houtcome : Except.ok () = outcome at h
  cases h with
  | NoUser id error' huser => cases houtcome
  | Recorded id createdAt user reply huser =>
      subst houtcome
      intro hm
      simp only [List.mem_cons, List.not_mem_nil, or_false] at hm
      rcases hm with hm | hm | hm <;> cases hm

-- The denial is recorded, if the body has a model to record, and the error goes out.
theorem rejectCaller_run {body : Value} {requestId : String} {error : Failure}
    (h : (rejectCaller audited body requestId error).Traces log outcome) (hstore : StoreWorks log) :
    stages log = [] ∧ (∀ dependency other, answered dependency (.error other) ∉ log) ∧
      outcome = if audited = true ∧ body.isMapping = false then .error (.ofPython .AttributeError)
        else errorResponse error requestId := by
  cases haudited : audited with
  | false =>
      rw [rejectCaller, haudited] at h
      obtain ⟨rfl, rfl⟩ := (traces_ofExcept _ _ _).mp h
      exact ⟨rfl, fun _ _ => List.not_mem_nil, by simp⟩
  | true =>
      rw [rejectCaller, haudited, if_pos rfl, traces_ofExcept_bind] at h
      rcases h with ⟨error', hmodel, rfl, rfl⟩ | ⟨model, hmodel, h⟩
      · cases body with
        | Mapping entries => cases hmodel
        | _ =>
            cases hmodel
            exact ⟨rfl, fun _ _ => List.not_mem_nil, by simp [Value.isMapping]⟩
      have hmapping : body.isMapping = true := by
        cases body with
        | Mapping entries => rfl
        | _ => cases hmodel
      rw [if_neg (by simp [hmapping])]
      rcases (Program.traces_bind _ _ _ _).mp h with ⟨error', hrecord, rfl⟩ |
        ⟨record, rest, _, rfl, hrecord, hrest⟩
      · exact ((recordDenial_run hrecord).not_lost hstore).elim
      · obtain ⟨rfl, rfl⟩ := (traces_ofExcept _ _ _).mp hrest
        rw [List.append_nil]
        have hrun := recordDenial_run hrecord
        exact ⟨hrun.stages.1, hrun.not_failed, rfl⟩

-- Whatever keeps credentials from being accepted, the error is the same but for its reason.
theorem authenticate_error {deployment : Deployment} {world : World}
    {authorization : Option String} {requestId : String} {error : Failure}
    (h : authenticate deployment world authorization requestId = .error error) :
    ∃ reason, error = .ServiceError (ProxyAuthService.authenticationError requestId reason) := by
  simp only [authenticate, ProxyAuthService.authenticate] at h
  cases hkey : ProxyAuthService.extractVirtualKey authorization requestId with
  | error error' =>
      rw [hkey] at h
      cases h
      cases authorization with
      | none =>
          cases hkey
          exact ⟨_, rfl⟩
      | some header =>
          simp only [ProxyAuthService.extractVirtualKey] at hkey
          split_ifs at hkey <;> cases hkey <;> exact ⟨_, rfl⟩
  | ok virtualKey =>
      rw [hkey] at h
      simp only [call_bind, Program.run_call, handle, Deployment.proxyAuthService] at h
      cases hrecord : world.ledger.getKeyByHash (deployment.hashVirtualKey virtualKey) with
      | none =>
          rw [hrecord] at h
          cases h
          exact ⟨_, rfl⟩
      | some record =>
          rw [hrecord] at h
          by_cases hactive : record.status = .Active
          · simp only [hactive, ne_eq, not_true_eq_false, if_false, Program.run_call, handle] at h
            cases huser : world.users.get record.userId with
            | none =>
                rw [huser] at h
                cases h
                exact ⟨_, rfl⟩
            | some user =>
                rw [huser] at h
                cases h
          · simp only [ne_eq, hactive, not_false_eq_true, if_true] at h
            cases h
            exact ⟨_, rfl⟩

end Rejections

section Answers

variable {python : Interpreter} {audited : Bool} {http : HttpRequest} {log : Log}
  {outcome : Except Failure MessageResponse}

-- The id that the request has in a run.
def RunId (http : HttpRequest) (log : Log) (requestId : String) : Prop :=
  ∃ idLog tail, RequestIdRun http idLog requestId ∧ log = idLog ++ tail

-- There is a response, in an envelope if it tells of an error. Without authentication no
-- other gate is called, and credentials that are not accepted get a 401.
structure AlwaysAnswered (http : HttpRequest) (log : Log)
    (outcome : Except Failure MessageResponse) : Prop where
  enveloped : ∃ response, outcome = .ok response ∧
    ∀ requestId, RunId http log requestId → Enveloped requestId response
  closed : ∀ requestId error,
    answered (.Authenticate http.authorization requestId) (.error error) ∈ log →
      stages log = [answered (.Authenticate http.authorization requestId) (.error error)]
  rejected : ∀ (deployment : Deployment) (world : World) requestId error,
    authenticate deployment world http.authorization requestId = .error error →
    answered (.Authenticate http.authorization requestId) (.error error) ∈ log →
      ∃ response, outcome = .ok (.Json response) ∧ response.statusCode = 401

-- What Bedrock counted is a number.
def CountsReadable (python : Interpreter) (log : Log) : Prop :=
  ∀ converseRequest countResponse,
    answered (.CountTokens converseRequest) (.ok countResponse) ∈ log →
      ∃ inputTokens, countedTokens python countResponse = .ok inputTokens

-- The body can be read, and is an object where a failed authentication is recorded; the
-- count of Bedrock is a number; and what dependencies raise can be shown.
structure Answerable (python : Interpreter) (audited : Bool) (http : HttpRequest)
    (endpoint : Endpoint) (log : Log) : Prop where
  readable : ∃ body, http.json = .ok body
  object : endpoint = .CreateMessage → audited = true → ∀ body requestId error,
    http.json = .ok body →
    answered (.Authenticate http.authorization requestId) (.error error) ∈ log →
      body.isMapping = true
  counted : endpoint = .CountTokens → CountsReadable python log
  reportable : ∀ requestId, RunId http log requestId → FailuresReportable requestId log

theorem RequestIdRun.unique {idLog other tail rest : Log} {requestId otherId : String}
    (h : RequestIdRun http idLog requestId) (hother : RequestIdRun http other otherId)
    (hlog : idLog ++ tail = other ++ rest) : otherId = requestId := by
  cases h with
  | Own requestId hown hstrip =>
      cases hother with
      | Own otherId hown' hstrip' =>
          rw [hown] at hown'
          cases hown'
          rfl
      | Generated otherId hown' => exact absurd (hown' requestId hown) hstrip
  | Generated requestId hown =>
      cases hother with
      | Own otherId hown' hstrip' => exact absurd (hown otherId hown') hstrip'
      | Generated otherId hown' =>
          cases hlog
          rfl

theorem RequestIdRun.runId_iff {idLog tail : Log} {requestId other : String}
    (h : RequestIdRun http idLog requestId) :
    RunId http (idLog ++ tail) other ↔ other = requestId := by
  constructor
  · rintro ⟨otherLog, rest, hother, hlog⟩
    exact h.unique hother hlog
  · rintro rfl
    exact ⟨idLog, tail, h, rfl⟩

-- An id is not asked of a dependency.
theorem RequestIdRun.not_answered {idLog : Log} {requestId : String}
    (h : RequestIdRun http idLog requestId) (dependency : Dependency)
    (reply : Except Failure dependency.Result) : answered dependency reply ∉ idLog := by
  cases h with
  | Own requestId hown hstrip => exact List.not_mem_nil
  | Generated requestId hown =>
      intro hm
      cases List.mem_singleton.mp hm

theorem FailuresReportable.append_iff {requestId : String} {first second : Log} :
    FailuresReportable requestId (first ++ second) ↔
      FailuresReportable requestId first ∧ FailuresReportable requestId second := by
  simp only [FailuresReportable, List.mem_append, or_imp, forall_and]

theorem FailuresReportable.cons_error_iff {requestId : String} {dependency : Dependency}
    {error : Failure} {log : Log} :
    FailuresReportable requestId (answered dependency (.error error) :: log) ↔
      Reportable requestId error ∧ FailuresReportable requestId log := by
  constructor
  · intro h
    exact ⟨h dependency error (.head _), fun other error' hm => h other error' (.tail _ hm)⟩
  · rintro ⟨herror, hlog⟩ other error' hm
    rcases List.mem_cons.mp hm with heq | hm
    · cases heq
      exact herror
    · exact hlog other error' hm

theorem FailuresReportable.cons_iff {requestId : String} {answer : Answer runtime} {log : Log}
    (h : failureOf answer.1 answer.2 = none) :
    FailuresReportable requestId (answer :: log) ↔ FailuresReportable requestId log := by
  constructor
  · exact fun hall other error hm => hall other error (.tail _ hm)
  · intro hlog other error hm
    rcases List.mem_cons.mp hm with rfl | hm
    · cases h
    · exact hlog other error hm

theorem RequestIdRun.failuresReportable {idLog : Log} {requestId : String}
    (h : RequestIdRun http idLog requestId) (other : String) : FailuresReportable other idLog :=
  fun dependency error hm => absurd hm (h.not_answered dependency (.error error))

-- The authentication is the only thing that failed.
theorem alwaysAnswered_of_rejected {requestId : String} {error : Failure}
    (hid : ∀ other, RunId http log other ↔ other = requestId)
    (hstages : stages log =
      [answered (.Authenticate http.authorization requestId) (.error error)])
    (hfailed : ∀ otherId other,
      answered (.Authenticate http.authorization otherId) (.error other) ∈ log →
        otherId = requestId ∧ other = error) :
    AlwaysAnswered http log (errorResponse error requestId) ↔ Reportable requestId error := by
  rw [← errorResponse_enveloped_iff]
  constructor
  · intro h
    obtain ⟨response, hresponse, henvelope⟩ := h.enveloped
    exact ⟨response, hresponse, henvelope requestId ((hid requestId).mpr rfl)⟩
  · rintro ⟨response, hresponse, henvelope⟩
    refine ⟨⟨response, hresponse, fun other hother => ?_⟩, fun otherId other hm => ?_,
      fun deployment world otherId other hauthenticate hm => ?_⟩
    · rw [(hid other).mp hother]
      exact henvelope
    · obtain ⟨rfl, rfl⟩ := hfailed otherId other hm
      exact hstages
    · obtain ⟨rfl, rfl⟩ := hfailed otherId other hm
      obtain ⟨reason, rfl⟩ := authenticate_error hauthenticate
      exact ⟨_, rfl, rfl⟩

theorem alwaysAnswered_of_authenticated {requestId : String}
    (hid : ∀ other, RunId http log other ↔ other = requestId)
    (hfailed : ∀ otherId other,
      answered (.Authenticate http.authorization otherId) (.error other) ∉ log) :
    AlwaysAnswered http log outcome ↔
      ∃ response, outcome = .ok response ∧ Enveloped requestId response := by
  constructor
  · intro h
    obtain ⟨response, hresponse, henvelope⟩ := h.enveloped
    exact ⟨response, hresponse, henvelope requestId ((hid requestId).mpr rfl)⟩
  · rintro ⟨response, hresponse, henvelope⟩
    refine ⟨⟨response, hresponse, fun other hother => ?_⟩,
      fun otherId other hm => absurd hm (hfailed otherId other),
      fun _ _ otherId other _ hm => absurd hm (hfailed otherId other)⟩
    rw [(hid other).mp hother]
    exact henvelope

theorem not_alwaysAnswered_of_error {error : Failure} :
    ¬AlwaysAnswered http log (.error error) := by
  intro h
  obtain ⟨response, hcontra, -⟩ := h.enveloped
  cases hcontra

-- Nobody is authenticated: an audited denial looks into the body.
theorem rejectCaller_answered_iff {body : Value} {requestId : String} {idLog tail : Log}
    {startedAt : Rat} {error : Failure} (hbody : http.json = .ok body)
    (hid : RequestIdRun http idLog requestId) (hstore : StoreWorks tail)
    (h : (rejectCaller audited body requestId error).Traces tail outcome) :
    AlwaysAnswered http (idLog ++ ⟨.PerfCounter, startedAt⟩ ::
        answered (.Authenticate http.authorization requestId) (.error error) :: tail) outcome ↔
      Answerable python audited http .CreateMessage (idLog ++ ⟨.PerfCounter, startedAt⟩ ::
        answered (.Authenticate http.authorization requestId) (.error error) :: tail) := by
  obtain ⟨hquiet, hnone, rfl⟩ := rejectCaller_run h hstore
  have hm : answered (.Authenticate http.authorization requestId) (.error error) ∈
      idLog ++ ⟨.PerfCounter, startedAt⟩ ::
        answered (.Authenticate http.authorization requestId) (.error error) :: tail :=
    List.mem_append_right _ (.tail _ (.head _))
  have hreport : FailuresReportable requestId (idLog ++ ⟨.PerfCounter, startedAt⟩ ::
      answered (.Authenticate http.authorization requestId) (.error error) :: tail) ↔
        Reportable requestId error := by
    rw [FailuresReportable.append_iff, FailuresReportable.cons_iff rfl,
      FailuresReportable.cons_error_iff]
    exact ⟨fun h => h.2.1, fun h => ⟨hid.failuresReportable _, h,
      fun dependency other htail => absurd htail (hnone dependency other)⟩⟩
  by_cases hbad : audited = true ∧ body.isMapping = false
  · rw [if_pos hbad]
    refine iff_of_false not_alwaysAnswered_of_error fun hanswerable => ?_
    have hobject := hanswerable.object rfl hbad.1 body requestId error hbody hm
    rw [hbad.2] at hobject
    cases hobject
  rw [if_neg hbad, alwaysAnswered_of_rejected fun _ => hid.runId_iff]
  · constructor
    · intro herror
      refine ⟨⟨body, hbody⟩, fun _ haudited other _ _ hother _ => ?_, nofun,
        fun other hother => ?_⟩
      · rw [hbody] at hother
        cases hother
        by_contra hmapping
        exact hbad ⟨haudited, Bool.eq_false_of_not_eq_true hmapping⟩
      · rw [hid.runId_iff.mp hother]
        exact hreport.mpr herror
    · exact fun hanswerable => hreport.mp (hanswerable.reportable _ (hid.runId_iff.mpr rfl))
  · rw [stages_append, hid.quiet.1]
    exact congrArg (_ :: ·) hquiet
  · intro otherId other hother
    rcases List.mem_append.mp hother with hother | hother
    · exact absurd hother (hid.not_answered _ _)
    · simp only [List.mem_cons] at hother
      rcases hother with hother | hother | hother
      · cases hother
      · cases hother
        exact ⟨rfl, rfl⟩
      · exact absurd hother (hnone _ _)

-- What the guarded part raises is caught.
theorem runPipeline_answered_iff {body : Value} {requestId : String} {idLog tail : Log}
    {startedAt : Rat} {authenticated : AuthenticatedRequestContext}
    {result : Except Failure MessageResponse} (hbody : http.json = .ok body)
    (hid : RequestIdRun http idLog requestId)
    (h : (runPipeline python audited body requestId startedAt authenticated).Traces tail result) :
    AlwaysAnswered http (idLog ++ ⟨.PerfCounter, startedAt⟩ ::
        answered (.Authenticate http.authorization requestId) (.ok authenticated) :: tail)
        (caught requestId result) ↔
      Answerable python audited http .CreateMessage (idLog ++ ⟨.PerfCounter, startedAt⟩ ::
        answered (.Authenticate http.authorization requestId) (.ok authenticated) :: tail) := by
  have hforwards := @forwarding_runPipeline python audited body requestId startedAt authenticated
  have hreport : FailuresReportable requestId (idLog ++ ⟨.PerfCounter, startedAt⟩ ::
      answered (.Authenticate http.authorization requestId) (.ok authenticated) :: tail) ↔
        FailuresReportable requestId tail := by
    rw [FailuresReportable.append_iff, FailuresReportable.cons_iff rfl,
      FailuresReportable.cons_iff rfl]
    exact ⟨And.right, fun h => ⟨hid.failuresReportable _, h⟩⟩
  have hpassed : ∀ otherId other, answered (.Authenticate http.authorization otherId)
      (.error other) ∉ idLog ++ ⟨.PerfCounter, startedAt⟩ ::
        answered (.Authenticate http.authorization requestId) (.ok authenticated) :: tail := by
    intro otherId other hother
    rcases List.mem_append.mp hother with hother | hother
    · exact hid.not_answered _ _ hother
    · simp only [List.mem_cons] at hother
      rcases hother with hother | hother | hother
      · cases hother
      · cases hother
      · exact hforwards.calls h _ hother
  rw [alwaysAnswered_of_authenticated (fun _ => hid.runId_iff) hpassed,
    caught_enveloped_iff hforwards h, ← hreport]
  constructor
  · intro hshown
    refine ⟨⟨body, hbody⟩,
      fun _ _ _ otherId other _ hother => absurd hother (hpassed otherId other), nofun,
      fun other hother => ?_⟩
    rw [hid.runId_iff.mp hother]
    exact hshown
  · exact fun hanswerable => hanswerable.reportable _ (hid.runId_iff.mpr rfl)

theorem createMessage_answered_iff (h : (createMessage python audited http).Traces log outcome)
    (hstore : StoreWorks log) :
    AlwaysAnswered http log outcome ↔ Answerable python audited http .CreateMessage log := by
  rcases createMessage_split h with ⟨error, hbody, rfl, rfl⟩ |
    ⟨body, idLog, requestId, startedAt, tail, hbody, hid, hrun⟩
  · refine iff_of_false not_alwaysAnswered_of_error fun hanswerable => ?_
    obtain ⟨body, hread⟩ := hanswerable.readable
    rw [hbody] at hread
    cases hread
  rcases hrun with ⟨error, rfl, hreject⟩ | ⟨authenticated, result, rfl, hpipeline, rfl⟩
  · exact rejectCaller_answered_iff hbody hid ((hstore.append _ _).2.append [_, _] _).2 hreject
  · exact runPipeline_answered_iff hbody hid hpipeline

theorem countReply_enveloped_iff {requestId : String} {countResponse : Value} :
    (∃ response, replyCount python requestId (.ok countResponse) = .ok response ∧
        Enveloped requestId response) ↔
      ∃ inputTokens, countedTokens python countResponse = .ok inputTokens := by
  rw [replyCount]
  cases countedTokens python countResponse with
  | ok inputTokens =>
      exact iff_of_true ⟨_, rfl, fun hsucceeded => by cases hsucceeded⟩ ⟨inputTokens, rfl⟩
  | error exception =>
      constructor
      · rintro ⟨response, hresponse, -⟩
        cases hresponse
      · rintro ⟨inputTokens, hcount⟩
        cases hcount

theorem CountsReadable.append_iff {first second : Log} :
    CountsReadable python (first ++ second) ↔
      CountsReadable python first ∧ CountsReadable python second := by
  simp only [CountsReadable, List.mem_append, or_imp, forall_and]

theorem CountsReadable.cons_iff {answer : Answer runtime} (h : countOf answer.1 answer.2 = none) :
    CountsReadable python (answer :: log) ↔ CountsReadable python log := by
  constructor
  · exact fun hall converseRequest countResponse hm => hall converseRequest _ (.tail _ hm)
  · intro hlog converseRequest countResponse hm
    rcases List.mem_cons.mp hm with rfl | hm
    · cases h
    · exact hlog converseRequest countResponse hm

theorem CountsReadable.count_iff {converseRequest : ConverseRequest} {countResponse : Value} :
    CountsReadable python [answered (.CountTokens converseRequest) (.ok countResponse)] ↔
      ∃ inputTokens, countedTokens python countResponse = .ok inputTokens := by
  constructor
  · exact fun h => h converseRequest countResponse (.head _)
  · intro h other count hm
    cases List.mem_singleton.mp hm
    exact h

-- An error is shown, a count is read.
theorem CountPipelineRun.replied_iff {body : Value} {requestId : String}
    {result : Except Failure Value} (h : CountPipelineRun http body requestId log result) :
    (∃ response, replyCount python requestId result = .ok response ∧
        Enveloped requestId response) ↔
      CountsReadable python log ∧ FailuresReportable requestId log := by
  have hnoFailure : FailuresReportable requestId [] := fun _ _ hm => absurd hm List.not_mem_nil
  have hnoCount : CountsReadable python [] := fun _ _ hm => absurd hm List.not_mem_nil
  cases h with
  | AuthenticateRaised error =>
      rw [replyCount, errorResponse_enveloped_iff, CountsReadable.cons_iff rfl,
        FailuresReportable.cons_error_iff]
      exact ⟨fun h => ⟨hnoCount, h, hnoFailure⟩, fun h => h.2.1⟩
  | NoModel authenticated error hmodel =>
      rw [replyCount, errorResponse_enveloped_iff, CountsReadable.cons_iff rfl,
        FailuresReportable.cons_iff rfl]
      exact iff_of_true ((isPython_of_raising hmodel).reportable requestId) ⟨hnoCount, hnoFailure⟩
  | ResolveRaised authenticated model error hmodel =>
      rw [replyCount, errorResponse_enveloped_iff, CountsReadable.cons_iff rfl,
        CountsReadable.cons_iff rfl, FailuresReportable.cons_iff rfl,
        FailuresReportable.cons_error_iff]
      exact ⟨fun h => ⟨hnoCount, h, hnoFailure⟩, fun h => h.2.1⟩
  | BuildRaised authenticated model resolvedModel error hmodel =>
      rw [replyCount, errorResponse_enveloped_iff, CountsReadable.cons_iff rfl,
        CountsReadable.cons_iff rfl, CountsReadable.cons_iff rfl,
        FailuresReportable.cons_iff rfl, FailuresReportable.cons_iff rfl,
        FailuresReportable.cons_error_iff]
      exact ⟨fun h => ⟨hnoCount, h, hnoFailure⟩, fun h => h.2.1⟩
  | Called authenticated model resolvedModel converseRequest reply hmodel =>
      rw [CountsReadable.cons_iff rfl, CountsReadable.cons_iff rfl,
        CountsReadable.cons_iff rfl, FailuresReportable.cons_iff rfl,
        FailuresReportable.cons_iff rfl, FailuresReportable.cons_iff rfl]
      cases result with
      | error error =>
          rw [replyCount, errorResponse_enveloped_iff, CountsReadable.cons_iff rfl]
          exact ⟨fun h => ⟨hnoCount, FailuresReportable.cons_error_iff.mpr ⟨h, hnoFailure⟩⟩,
            fun h => (FailuresReportable.cons_error_iff.mp h.2).1⟩
      | ok countResponse =>
          rw [countReply_enveloped_iff, FailuresReportable.cons_iff rfl]
          exact ⟨fun h => ⟨CountsReadable.count_iff.mpr h, hnoFailure⟩,
            fun h => CountsReadable.count_iff.mp h.1⟩

-- Only the first answer of a count is about the caller.
theorem CountPipelineRun.authenticate_failed {body : Value} {requestId : String}
    {result : Except Failure Value} (h : CountPipelineRun http body requestId log result)
    {otherId : String} {error : Failure}
    (hm : answered (.Authenticate http.authorization otherId) (.error error) ∈ log) :
    otherId = requestId ∧ result = .error error ∧
      log = [answered (.Authenticate http.authorization requestId) (.error error)] := by
  cases h with
  | AuthenticateRaised error' =>
      cases List.mem_singleton.mp hm
      exact ⟨rfl, rfl, rfl⟩
  | _ =>
      simp only [List.mem_cons, List.not_mem_nil, or_false] at hm
      rcases hm with hm | hm | hm | hm <;> cases hm

theorem countTokens_answered_iff (h : (countTokens python http).Traces log outcome) :
    AlwaysAnswered http log outcome ↔ Answerable python audited http .CountTokens log := by
  rcases countTokens_split h with ⟨error, hbody, rfl, rfl⟩ |
    ⟨body, idLog, requestId, tail, result, hbody, hid, rfl, hguarded, rfl⟩
  · refine iff_of_false not_alwaysAnswered_of_error fun hanswerable => ?_
    obtain ⟨body, hread⟩ := hanswerable.readable
    rw [hbody] at hread
    cases hread
  have hrun := countConverse_run hguarded
  have hparts : Answerable python audited http .CountTokens (idLog ++ tail) ↔
      CountsReadable python tail ∧ FailuresReportable requestId tail := by
    constructor
    · intro hanswerable
      exact ⟨(CountsReadable.append_iff.mp (hanswerable.counted rfl)).2,
        (FailuresReportable.append_iff.mp
          (hanswerable.reportable requestId (hid.runId_iff.mpr rfl))).2⟩
    · rintro ⟨hcounts, hfailures⟩
      refine ⟨⟨body, hbody⟩, nofun, fun _ => CountsReadable.append_iff.mpr ⟨?_, hcounts⟩,
        fun other hother => ?_⟩
      · exact fun converseRequest _ hm => absurd hm (hid.not_answered _ _)
      · rw [hid.runId_iff.mp hother]
        exact FailuresReportable.append_iff.mpr ⟨hid.failuresReportable _, hfailures⟩
  rw [hparts, ← hrun.replied_iff]
  by_cases hfailed : ∃ otherId other,
      answered (.Authenticate http.authorization otherId) (.error other) ∈ tail
  · obtain ⟨otherId, error, hm⟩ := hfailed
    obtain ⟨rfl, rfl, rfl⟩ := hrun.authenticate_failed hm
    rw [replyCount, errorResponse_enveloped_iff, alwaysAnswered_of_rejected fun _ => hid.runId_iff]
    · rw [stages_append, hid.quiet.1]
      rfl
    · intro otherId other hother
      rcases List.mem_append.mp hother with hother | hother
      · exact absurd hother (hid.not_answered _ _)
      · cases List.mem_singleton.mp hother
        exact ⟨rfl, rfl⟩
  · refine alwaysAnswered_of_authenticated (fun _ => hid.runId_iff) fun otherId other hother => ?_
    rcases List.mem_append.mp hother with hother | hother
    · exact hid.not_answered _ _ hother
    · exact hfailed ⟨otherId, other, hother⟩

-- A request is answered exactly if its body can be read, and is an object where it is looked
-- into outside of the guarded part, and what its dependencies answer can be shown.
theorem request_answered_iff (python : Interpreter) (audited : Bool) (http : HttpRequest)
    (endpoint : Endpoint) (log : Log) (outcome : Except Failure MessageResponse)
    (h : (endpoint.handle python audited http).Traces log outcome) (hstore : StoreWorks log) :
    AlwaysAnswered http log outcome ↔ Answerable python audited http endpoint log := by
  cases endpoint with
  | CreateMessage => exact createMessage_answered_iff h hstore
  | CountTokens => exact countTokens_answered_iff h

end Answers

section Samples

theorem request_answered_iff_sample :
    let run := sampleEnvironment.run (Endpoint.CreateMessage.handle samplePython true
      (sampleHttp false))
    AlwaysAnswered (sampleHttp false) run.1 run.2 ↔
      Answerable samplePython true (sampleHttp false) .CreateMessage run.1 :=
  request_answered_iff samplePython true (sampleHttp false) .CreateMessage _ _
    (sampleEnvironment.traces_run _) (presentable_of_not_failed _ (by decide)).2

def emptyListHttp : HttpRequest where
  json := .ok (.Sequence [])
  authorization := none

-- The body is looked into before the client is told that there are no credentials.
theorem list_body_not_answered :
    let run := sampleEnvironment.run (Endpoint.CreateMessage.handle samplePython true emptyListHttp)
    (Endpoint.CreateMessage.handle samplePython true emptyListHttp).Traces run.1 run.2 ∧
      StoreWorks run.1 ∧ run.2 = .error (.Raised "AttributeError") ∧
      ¬AlwaysAnswered emptyListHttp run.1 run.2 := by
  have hraised : (sampleEnvironment.run (Endpoint.CreateMessage.handle samplePython true
      emptyListHttp)).2 = .error (.Raised "AttributeError") := rfl
  refine ⟨sampleEnvironment.traces_run _, sampleEnvironment_stores _, hraised, ?_⟩
  rw [hraised]
  exact not_alwaysAnswered_of_error

end Samples

end ClaudeCodeProxy
