import ClaudeCodeProxy.Effects.Trace
import ClaudeCodeProxy.TokenService.Handler

-- The Token Service handler call by call, with its metrics and its log line, over any user
-- repository and any issue service.

namespace ClaudeCodeProxy

open Effects Python

def TOKEN_SERVICE_REQUEST_COUNT_METRIC : String := "token_service.requests"
def TOKEN_SERVICE_ERROR_COUNT_METRIC : String := "token_service.errors"
def TOKEN_SERVICE_LATENCY_METRIC : String := "token_service.request_latency_ms"
def TOKEN_SERVICE_CACHE_HIT_METRIC : String := "token_service.cache_hits"
def TOKEN_SERVICE_CACHE_MISS_METRIC : String := "token_service.cache_misses"
def TOKEN_SERVICE_FAILURE_EVENT : String := "token_service_request_failed"

-- What the handler calls. The repository and the issue service may raise.
inductive HandlerCall
  | GenerateRequestId
  | PerfCounter
  | GetUserIdForUsername (username : String)
  | GetOrCreateKey (userId requestId : String)
  | Increment (name : String) (tags : List (String × String))
  | Observe (name : String) (value : Int) (tags : List (String × String))
  | Warning (record : Value)

def HandlerCall.Reply : HandlerCall → Type
  | .GenerateRequestId => String
  | .PerfCounter => Rat
  | .GetUserIdForUsername _ => Except Failure (Option String)
  | .GetOrCreateKey _ _ => Except Failure TokenIssueResult
  | .Increment _ _ | .Observe _ _ _ | .Warning _ => Unit

@[reducible] def handlerCalls : Signature := ⟨HandlerCall, HandlerCall.Reply⟩

abbrev Handling (α : Type) : Type := Program handlerCalls Failure α

abbrev HandlerLog : Type := List (Answer handlerCalls)

def TokenIssueSource.value : TokenIssueSource → String
  | .Cache => "cache"
  | .Reused => "reused"
  | .Issued => "issued"

namespace TokenServiceHandler

def perform (op : HandlerCall) : Handling op.Reply := @Program.perform handlerCalls Failure op

-- A call whose reply says nothing.
def tell (op : HandlerCall) : Handling Unit :=
  @Program.Call handlerCalls Failure Unit op fun _ => .Return ()

-- The request id that the event has, if it is one that can be used.
def requestIdIn (event : Value) : Except Exception (Option String) := do
  let requestContext ← event.get "requestContext" (.Mapping [])
  match ← requestContext.get "requestId" with
  | .Str requestId => return if Text.strip requestId = "" then none else some requestId
  | _ => return none

def obtainRequestId (event : Value) : Handling String :=
  match requestIdIn event with
  | .error exception => .Raise (.ofPython exception)
  | .ok (some requestId) => return requestId
  | .ok none => perform .GenerateRequestId

-- The statements under `try` up to the response.
def obtainKey (event : Value) (requestId : String) : Handling TokenIssueResult :=
  match extractUsernameFromEvent event with
  | .error error => .Raise error
  | .ok username => do
      match ← perform (.GetUserIdForUsername username) with
      | .error error => .Raise error
      | .ok none => .Raise (.ServiceError
          (userNotRegisteredError requestId (some [("username", .Str username)])))
      | .ok (some userId) =>
          match ← perform (.GetOrCreateKey userId requestId) with
          | .error error => .Raise error
          | .ok result => return result

-- `int((perf_counter() - started_at) * 1000)`
def latencyMs (startedAt stoppedAt : Rat) : Int :=
  ((stoppedAt - startedAt) * 1000).num.tdiv ((stoppedAt - startedAt) * 1000).den

def requestTags (statusCode : Nat) : List (String × String) :=
  [("operation", "get_or_create_key"), ("status_code", toString statusCode)]

def sourceTags : List (String × String) := [("operation", "get_or_create_key")]

-- Where an issued key came from.
def countSource (tokenSource : Option String) : Handling Unit :=
  if tokenSource = some "cache" then
    tell (.Increment TOKEN_SERVICE_CACHE_HIT_METRIC sourceTags)
  else if tokenSource.isSome then
    tell (.Increment TOKEN_SERVICE_CACHE_MISS_METRIC sourceTags)
  else
    return ()

-- The first argument says whether there is a recorder.
def recordMetrics (metrics : Bool) (statusCode : Nat) (latencyMs : Int)
    (tokenSource : Option String) : Handling Unit := do
  if metrics then
    tell (.Increment TOKEN_SERVICE_REQUEST_COUNT_METRIC (requestTags statusCode))
    tell (.Observe TOKEN_SERVICE_LATENCY_METRIC latencyMs (requestTags statusCode))
    if 400 ≤ statusCode then
      tell (.Increment TOKEN_SERVICE_ERROR_COUNT_METRIC (requestTags statusCode))
    countSource tokenSource

-- `.get("error", {}).get("type")` of the body.
def errorType (body : Value) : Except Exception Value := do
  (← body.get "error" (.Mapping [])).get "type"

def failureRecord (requestId : String) (statusCode : Nat) (errorType : Value) : Value :=
  .Mapping [
    ("error_type", errorType),
    ("event", .Str TOKEN_SERVICE_FAILURE_EVENT),
    ("request_id", .Str requestId),
    ("status_code", .Integer statusCode)]

def warnOfFailure (requestId : String) (response : Response) : Handling Unit :=
  if 400 ≤ response.statusCode then
    match errorType response.body with
    | .error exception => .Raise (.ofPython exception)
    | .ok errorType => tell (.Warning (failureRecord requestId response.statusCode errorType))
  else
    return ()

def tokenSource (issued : Except Failure TokenIssueResult) : Option String :=
  match issued with
  | .ok result => some result.source.value
  | .error _ => none

def handleRecorded (metrics : Bool) (event : Value) : Handling Response := do
  let requestId ← obtainRequestId event
  let startedAt ← perform .PerfCounter
  let issued ← (obtainKey event requestId).captured
  let response := respond requestId issued
  let stoppedAt ← perform .PerfCounter
  recordMetrics metrics response.statusCode (latencyMs startedAt stoppedAt) (tokenSource issued)
  warnOfFailure requestId response
  return response

-- What the handler reads first is there as an object, or not there at all.
def ReadableContext (fields : List (String × Value)) : Prop :=
  ∀ context, Value.lookup fields "requestContext" = some context → context.isMapping = true

section Identification

theorem requestIdIn_readable {fields : List (String × Value)} (h : ReadableContext fields) :
    ∃ found, requestIdIn (.Mapping fields) = .ok found ∧ found ≠ some "" := by
  have hcontext : ∃ entries, (Value.Mapping fields).get "requestContext" (.Mapping []) =
      .ok (.Mapping entries) := by
    rw [Value.get_mapping]
    cases hfound : Value.lookup fields "requestContext" with
    | none => exact ⟨[], rfl⟩
    | some context =>
        have hmapping := h context hfound
        cases context with
        | Mapping entries => exact ⟨entries, rfl⟩
        | _ => cases hmapping
  obtain ⟨entries, hcontext⟩ := hcontext
  simp only [requestIdIn, hcontext, Python.ok_bind, Value.get_mapping]
  split
  · next requestId _ =>
      refine ⟨_, rfl, ?_⟩
      split
      · exact fun hnone => by cases hnone
      · next hstrip =>
          intro hempty
          cases hempty
          exact hstrip (by decide)
  · exact ⟨none, rfl, fun hnone => by cases hnone⟩

theorem requestIdIn_unreadable {fields : List (String × Value)} (h : ¬ReadableContext fields) :
    requestIdIn (.Mapping fields) = .error .AttributeError := by
  simp only [ReadableContext, not_forall] at h
  obtain ⟨context, hfound, hmapping⟩ := h
  simp only [requestIdIn, Value.get_mapping, hfound, Option.getD_some, Python.ok_bind]
  cases context with
  | Mapping entries => exact absurd rfl hmapping
  | _ => rfl

-- The id of a request is asked for only when the event has none.
theorem resolveRequestId_eq (event : Value) (generated : String) :
    resolveRequestId event generated =
      (fun found => found.getD generated) <$> requestIdIn event := by
  unfold resolveRequestId requestIdIn
  cases event.get "requestContext" (.Mapping []) with
  | error exception => rfl
  | ok requestContext =>
      simp only [Python.ok_bind]
      cases requestContext.get "requestId" with
      | error exception => rfl
      | ok found =>
          cases found with
          | Str requestId =>
              simp only [Python.ok_bind]
              split <;> rfl
          | _ => rfl

theorem extractIdentitySection_cases (fields : List (String × Value)) :
    (∃ message, extractIdentitySection (.Mapping fields) =
      .error (.IdentityResolutionError message)) ∨
      ∃ entries, extractIdentitySection (.Mapping fields) = .ok (.Mapping entries) := by
  simp only [extractIdentitySection, Value.get_mapping, raising_ok, Python.ok_bind]
  cases (Value.lookup fields "requestContext").getD .None with
  | Mapping context =>
      simp only [Value.get_mapping, raising_ok, Python.ok_bind]
      cases (Value.lookup context "identity").getD .None with
      | Mapping entries => exact .inr ⟨entries, rfl⟩
      | _ => exact .inl ⟨_, rfl⟩
  | _ => exact .inl ⟨_, rfl⟩

theorem extractUserArn_cases (fields : List (String × Value)) :
    (∃ message, extractUserArn (.Mapping fields) = .error (.IdentityResolutionError message)) ∨
      ∃ userArn, extractUserArn (.Mapping fields) = .ok userArn := by
  rcases extractIdentitySection_cases fields with ⟨message, h⟩ | ⟨entries, h⟩
  · exact .inl ⟨message, by rw [extractUserArn, h]; rfl⟩
  · simp only [extractUserArn, h, Python.ok_bind, Value.get_mapping, raising_ok]
    cases (Value.lookup entries "userArn").getD .None with
    | Str userArn =>
        dsimp only
        split
        · exact .inl ⟨_, rfl⟩
        · exact .inr ⟨userArn, rfl⟩
    | _ => exact .inl ⟨_, rfl⟩

-- Of an object nothing else can go wrong in telling who the caller is.
theorem extractUsername_cases (fields : List (String × Value)) :
    (∃ message, extractUsernameFromEvent (.Mapping fields) =
      .error (.IdentityResolutionError message)) ∨
      ∃ username, extractUsernameFromEvent (.Mapping fields) = .ok username := by
  rcases extractUserArn_cases fields with ⟨message, h⟩ | ⟨userArn, h⟩
  · exact .inl ⟨message, by rw [extractUsernameFromEvent, h]; rfl⟩
  · simp only [extractUsernameFromEvent, h, Python.ok_bind, parseUsernameFromUserArn]
    split
    · exact .inl ⟨_, rfl⟩
    · exact .inr ⟨_, rfl⟩

end Identification

section Runs

-- The calls of the guarded statements, and what they come to.
inductive KeyRun (event : Value) (requestId : String) :
    HandlerLog → Except Failure TokenIssueResult → Prop
  | Unidentified (error : Failure) (hevent : extractUsernameFromEvent event = .error error) :
      KeyRun event requestId [] (.error error)
  | LookupFailed (username : String) (error : Failure)
      (hevent : extractUsernameFromEvent event = .ok username) :
      KeyRun event requestId [⟨.GetUserIdForUsername username, .error error⟩] (.error error)
  | Unregistered (username : String) (hevent : extractUsernameFromEvent event = .ok username) :
      KeyRun event requestId [⟨.GetUserIdForUsername username, .ok none⟩]
        (.error (.ServiceError
          (userNotRegisteredError requestId (some [("username", .Str username)]))))
  | Asked (username userId : String) (reply : Except Failure TokenIssueResult)
      (hevent : extractUsernameFromEvent event = .ok username) :
      KeyRun event requestId [⟨.GetUserIdForUsername username, .ok (some userId)⟩,
        ⟨.GetOrCreateKey userId requestId, reply⟩] reply

theorem obtainKey_run {event : Value} {requestId : String} {log : HandlerLog}
    {issued : Except Failure TokenIssueResult} (h : (obtainKey event requestId).Traces log issued) :
    KeyRun event requestId log issued := by
  unfold obtainKey at h
  cases hevent : extractUsernameFromEvent event with
  | error error =>
      rw [hevent] at h
      obtain ⟨rfl, rfl⟩ := h
      exact .Unidentified error hevent
  | ok username =>
      rw [hevent] at h
      obtain ⟨found, tail, rfl, h⟩ := h
      cases found with
      | error error =>
          obtain ⟨rfl, rfl⟩ := h
          exact .LookupFailed username error hevent
      | ok found =>
          cases found with
          | none =>
              obtain ⟨rfl, rfl⟩ := h
              exact .Unregistered username hevent
          | some userId =>
              obtain ⟨reply, tail, rfl, h⟩ := h
              cases reply with
              | error error =>
                  obtain ⟨rfl, rfl⟩ := h
                  exact .Asked username userId (.error error) hevent
              | ok result =>
                  obtain ⟨rfl, rfl⟩ := h
                  exact .Asked username userId (.ok result) hevent

def sourceCalls (tokenSource : Option String) : List HandlerCall :=
  if tokenSource = some "cache" then [.Increment TOKEN_SERVICE_CACHE_HIT_METRIC sourceTags]
  else if tokenSource.isSome then [.Increment TOKEN_SERVICE_CACHE_MISS_METRIC sourceTags]
  else []

def errorCalls (statusCode : Nat) : List HandlerCall :=
  if 400 ≤ statusCode then
    [.Increment TOKEN_SERVICE_ERROR_COUNT_METRIC (requestTags statusCode)]
  else []

-- What the recorder is told of a response.
def metricCalls (statusCode : Nat) (latencyMs : Int) (tokenSource : Option String) :
    List HandlerCall :=
  .Increment TOKEN_SERVICE_REQUEST_COUNT_METRIC (requestTags statusCode) ::
    .Observe TOKEN_SERVICE_LATENCY_METRIC latencyMs (requestTags statusCode) ::
    (errorCalls statusCode ++ sourceCalls tokenSource)

theorem traces_perform_bind {op : HandlerCall} {rest : op.Reply → Handling α} {log : HandlerLog}
    {outcome : Except Failure α} (h : (perform op >>= rest).Traces log outcome) :
    ∃ reply tail, log = ⟨op, reply⟩ :: tail ∧ (rest reply).Traces tail outcome := h

theorem traces_tell_bind {op : HandlerCall} {rest : Unit → Handling α} {log : HandlerLog}
    {outcome : Except Failure α} (h : (tell op >>= rest).Traces log outcome) :
    ∃ reply tail, log = ⟨op, reply⟩ :: tail ∧ (rest ()).Traces tail outcome := h

theorem traces_tell {op : HandlerCall} {log : HandlerLog} {outcome : Except Failure Unit}
    (h : (tell op).Traces log outcome) : log.map Sigma.fst = [op] ∧ outcome = .ok () := by
  obtain ⟨reply, tail, rfl, rfl, rfl⟩ := h
  exact ⟨rfl, rfl⟩

theorem countSource_run {tokenSource : Option String} {log : HandlerLog}
    {outcome : Except Failure Unit} (h : (countSource tokenSource).Traces log outcome) :
    log.map Sigma.fst = sourceCalls tokenSource ∧ outcome = .ok () := by
  unfold countSource at h
  unfold sourceCalls
  split_ifs at h ⊢
  · exact traces_tell h
  · exact traces_tell h
  · obtain ⟨rfl, rfl⟩ := h
    exact ⟨rfl, rfl⟩

theorem recordMetrics_run {metrics : Bool} {statusCode : Nat} {latencyMs : Int}
    {tokenSource : Option String} {log : HandlerLog} {outcome : Except Failure Unit}
    (h : (recordMetrics metrics statusCode latencyMs tokenSource).Traces log outcome) :
    log.map Sigma.fst = (if metrics then metricCalls statusCode latencyMs tokenSource else []) ∧
      outcome = .ok () := by
  cases metrics with
  | false =>
      obtain ⟨rfl, rfl⟩ := h
      exact ⟨rfl, rfl⟩
  | true =>
      obtain ⟨_, observed, rfl, hobserve⟩ := traces_tell_bind h
      obtain ⟨_, tail, rfl, hrest⟩ := traces_tell_bind hobserve
      by_cases herror : 400 ≤ statusCode
      · simp only [if_pos herror] at hrest
        obtain ⟨_, counted, rfl, hlast⟩ := traces_tell_bind hrest
        obtain ⟨hcalls, rfl⟩ := countSource_run hlast
        refine ⟨?_, rfl⟩
        simp only [List.map_cons, hcalls, metricCalls, errorCalls, if_pos herror, if_true,
          List.singleton_append]
      · simp only [if_neg herror] at hrest
        obtain ⟨hcalls, rfl⟩ := countSource_run hrest
        refine ⟨?_, rfl⟩
        simp only [List.map_cons, hcalls, metricCalls, errorCalls, if_neg herror, if_true,
          List.nil_append]

theorem errorType_envelope (error : ServiceError) :
    errorType (buildErrorEnvelope error) = .ok (.Str error.code.value) := rfl

-- Every response but that of an issued key has the envelope of an error as its body.
theorem respond_error (requestId : String) (error : Failure) :
    ∃ envelope, (respond requestId (.error error)).body = buildErrorEnvelope envelope ∧
      (respond requestId (.error error)).statusCode = envelope.statusCode := by
  cases error with
  | ServiceError error => exact ⟨error, rfl, rfl⟩
  | IdentityResolutionError message => exact ⟨_, rfl, rfl⟩
  | _ => exact ⟨internalError requestId, rfl, rfl⟩

theorem warnOfFailure_run {requestId : String} {issued : Except Failure TokenIssueResult}
    {log : HandlerLog} {outcome : Except Failure Unit}
    (h : (warnOfFailure requestId (respond requestId issued)).Traces log outcome) :
    (∀ op ∈ log.map Sigma.fst, ∃ record, op = .Warning record) ∧ outcome = .ok () := by
  unfold warnOfFailure at h
  split at h
  · next hstatus =>
      cases issued with
      | ok result =>
          have h200 : (respond requestId (.ok result)).statusCode = 200 := rfl
          omega
      | error error =>
          obtain ⟨envelope, hbody, -⟩ := respond_error requestId error
          rw [hbody, errorType_envelope] at h
          obtain ⟨hcalls, rfl⟩ := traces_tell h
          refine ⟨fun op hm => ?_, rfl⟩
          rw [hcalls] at hm
          exact ⟨_, List.mem_singleton.mp hm⟩
  · obtain ⟨rfl, rfl⟩ := h
    exact ⟨List.forall_mem_nil _, rfl⟩

-- The id of the request, and the log of getting it.
def Opened (event : Value) (requestId : String) (log : HandlerLog) : Prop :=
  (requestIdIn event = .ok (some requestId) ∧ log = []) ∨
    (requestIdIn event = .ok none ∧ log = [⟨.GenerateRequestId, requestId⟩])

inductive HandledRun (metrics : Bool) (event : Value) : HandlerLog → Except Failure Response → Prop
  | Escaped (exception : Exception) (hevent : requestIdIn event = .error exception) :
      HandledRun metrics event [] (.error (.ofPython exception))
  | Responded (requestId : String) (opening keyLog recorded closing : HandlerLog)
      (startedAt stoppedAt : Rat) (issued : Except Failure TokenIssueResult)
      (hopening : Opened event requestId opening) (hkey : KeyRun event requestId keyLog issued)
      (hrecorded : recorded.map Sigma.fst =
        if metrics then
          metricCalls (respond requestId issued).statusCode (latencyMs startedAt stoppedAt)
            (tokenSource issued)
        else [])
      (hclosing : ∀ op ∈ closing.map Sigma.fst, ∃ record, op = .Warning record) :
      HandledRun metrics event
        (opening ++ ⟨.PerfCounter, startedAt⟩ ::
          (keyLog ++ ⟨.PerfCounter, stoppedAt⟩ :: (recorded ++ closing)))
        (.ok (respond requestId issued))

theorem obtainRequestId_run {event : Value} {log : HandlerLog} {outcome : Except Failure String}
    (h : (obtainRequestId event).Traces log outcome) :
    (∃ exception, requestIdIn event = .error exception ∧ log = [] ∧
        outcome = .error (.ofPython exception)) ∨
      ∃ requestId, outcome = .ok requestId ∧ Opened event requestId log := by
  unfold obtainRequestId at h
  cases hevent : requestIdIn event with
  | error exception =>
      rw [hevent] at h
      obtain ⟨rfl, rfl⟩ := h
      exact .inl ⟨exception, rfl, rfl, rfl⟩
  | ok found =>
      rw [hevent] at h
      cases found with
      | some requestId =>
          obtain ⟨rfl, rfl⟩ := h
          exact .inr ⟨requestId, rfl, .inl ⟨hevent, rfl⟩⟩
      | none =>
          obtain ⟨requestId, tail, rfl, rfl, rfl⟩ := h
          exact .inr ⟨requestId, rfl, .inr ⟨hevent, rfl⟩⟩

theorem handleRecorded_run {metrics : Bool} {event : Value} {log : HandlerLog}
    {outcome : Except Failure Response} (h : (handleRecorded metrics event).Traces log outcome) :
    HandledRun metrics event log outcome := by
  rcases (Program.traces_bind _ _ _ _).mp h with ⟨error, hraised, rfl⟩ |
    ⟨opening, answering, requestId, rfl, hopening, hanswer⟩
  · rcases obtainRequestId_run hraised with ⟨exception, hevent, rfl, hescaped⟩ | ⟨_, hok, -⟩
    · cases hescaped
      exact .Escaped exception hevent
    · cases hok
  have hopened : Opened event requestId opening := by
    rcases obtainRequestId_run hopening with ⟨_, _, _, hescaped⟩ | ⟨_, hok, hopened⟩
    · cases hescaped
    · cases hok
      exact hopened
  obtain ⟨startedAt, guarded, rfl, hguarded⟩ := traces_perform_bind hanswer
  rcases (Program.traces_bind _ _ _ _).mp hguarded with ⟨error, hraised, rfl⟩ |
    ⟨keyLog, stopping, issued, rfl, hcaptured, hstop⟩
  · obtain ⟨_, hresult, -⟩ := (Program.traces_captured _ _ _).mp hraised
    cases hresult
  obtain ⟨_, hresult, hkey⟩ := (Program.traces_captured _ _ _).mp hcaptured
  cases hresult
  obtain ⟨stoppedAt, telling, rfl, htell⟩ := traces_perform_bind hstop
  rcases (Program.traces_bind _ _ _ _).mp htell with ⟨error, hraised, rfl⟩ |
    ⟨recorded, warning, _, rfl, hrecorded, hwarn⟩
  · cases (recordMetrics_run hraised).2
  rcases (Program.traces_bind _ _ _ _).mp hwarn with ⟨error, hraised, rfl⟩ |
    ⟨closing, returning, _, rfl, hclosing, hreturn⟩
  · cases (warnOfFailure_run hraised).2
  obtain ⟨rfl, rfl⟩ := hreturn
  rw [List.append_nil]
  exact .Responded requestId opening keyLog recorded closing startedAt stoppedAt issued hopened
    (obtainKey_run hkey) (recordMetrics_run hrecorded).1 (warnOfFailure_run hclosing).1

end Runs

section Agreement

variable {userIdForUsername : String → Option String}
  {issue : String → String → Except Failure TokenIssueResult}

theorem requestKey_eq_of_run {event : Value} {requestId : String} {keyLog : HandlerLog}
    {issued : Except Failure TokenIssueResult} (h : KeyRun event requestId keyLog issued)
    (husers : ∀ username found,
      (⟨.GetUserIdForUsername username, found⟩ : Answer handlerCalls) ∈ keyLog →
        found = .ok (userIdForUsername username))
    (hissue : ∀ userId requestId reply,
      (⟨.GetOrCreateKey userId requestId, reply⟩ : Answer handlerCalls) ∈ keyLog →
        reply = issue userId requestId) :
    requestKey userIdForUsername issue event requestId = issued := by
  cases h with
  | Unidentified error hevent =>
      rw [requestKey, hevent]
      rfl
  | LookupFailed username error hevent => cases husers _ _ (List.mem_singleton.mpr rfl)
  | Unregistered username hevent =>
      have hnone : none = userIdForUsername username :=
        Except.ok.inj (husers _ _ (List.mem_singleton.mpr rfl))
      simp only [requestKey, hevent, Python.ok_bind, ← hnone]
      rfl
  | Asked username userId reply hevent =>
      have hsome : some userId = userIdForUsername username :=
        Except.ok.inj (husers _ _ (.head _))
      have hreply := hissue _ _ _ (.tail _ (List.mem_singleton.mpr rfl))
      simp only [requestKey, hevent, Python.ok_bind, ← hsome, hreply]

-- Over a repository and a service that are functions the run comes to what
-- `handleGetOrCreateKey` says, metrics or not.
theorem handleRecorded_agrees {metrics : Bool} {event : Value} {generated : String}
    {log : HandlerLog} {outcome : Except Failure Response}
    (hrun : (handleRecorded metrics event).Traces log outcome)
    (hgenerated : ∀ requestId,
      (⟨.GenerateRequestId, requestId⟩ : Answer handlerCalls) ∈ log → requestId = generated)
    (husers : ∀ username found,
      (⟨.GetUserIdForUsername username, found⟩ : Answer handlerCalls) ∈ log →
        found = .ok (userIdForUsername username))
    (hissue : ∀ userId requestId reply,
      (⟨.GetOrCreateKey userId requestId, reply⟩ : Answer handlerCalls) ∈ log →
        reply = issue userId requestId) :
    outcome = raising (handleGetOrCreateKey userIdForUsername issue generated event) := by
  cases handleRecorded_run hrun with
  | Escaped exception hevent =>
      rw [handleGetOrCreateKey, resolveRequestId_eq, hevent]
      rfl
  | Responded requestId opening keyLog recorded closing startedAt stoppedAt issued hopening hkey
      hrecorded hclosing =>
      have hid : resolveRequestId event generated = .ok requestId := by
        rw [resolveRequestId_eq]
        rcases hopening with ⟨hfound, -⟩ | ⟨hfound, rfl⟩
        · rw [hfound]
          rfl
        · rw [hfound, ← hgenerated requestId (.head _)]
          rfl
      have hkeyLog : ∀ answer ∈ keyLog, answer ∈ opening ++ ⟨.PerfCounter, startedAt⟩ ::
          (keyLog ++ ⟨.PerfCounter, stoppedAt⟩ :: (recorded ++ closing)) := fun answer hm =>
        List.mem_append_right _ (.tail _ (List.mem_append_left _ hm))
      rw [handleGetOrCreateKey, hid, Python.ok_bind, requestKey_eq_of_run hkey
        (fun username found hm => husers username found (hkeyLog _ hm))
        (fun userId other reply hm => hissue userId other reply (hkeyLog _ hm))]
      rfl

end Agreement

end TokenServiceHandler

end ClaudeCodeProxy
