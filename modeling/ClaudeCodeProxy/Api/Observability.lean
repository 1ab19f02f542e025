import ClaudeCodeProxy.Api.ConcurrentRequests
import ClaudeCodeProxy.Api.MessageLogs
import ClaudeCodeProxy.Effects.Simulation

-- The middleware around the runtime routes: the id of a request, what is counted of its response,
-- and what of it is sent.

namespace ClaudeCodeProxy.Observability

open Effects Python

def RUNTIME_REQUEST_COUNT_METRIC : String := "runtime.requests"
def RUNTIME_REQUEST_ERROR_COUNT_METRIC : String := "runtime.errors"
def RUNTIME_REQUEST_LATENCY_METRIC : String := "runtime.request_latency_ms"
def RUNTIME_FAILURE_EVENT : String := "runtime_request_failed"
def REQUEST_ID_HEADER : String := "X-Request-Id"

-- The calls of the routes, and around them those of the middleware: the metrics recorder, the
-- logger, and the start of the response; or the answer of the application's outermost layer to an
-- exception that comes up to it, a 500 without headers of ours.
inductive ServingCall
  | Route (op : RuntimeCall)
  | Increment (name : String) (tags : List (String × String))
  | Observe (name : String) (value : Int) (tags : List (String × String))
  | Warning (record : Value)
  | Start (statusCode : Nat) (headers : List (String × String))
  | ServerError

def ServingCall.Reply : ServingCall → Type
  | .Route op => op.Reply
  | .Increment _ _ | .Observe _ _ _ => Except Failure Unit
  | .Warning _ | .Start _ _ | .ServerError => Unit

@[reducible] def serving : Signature := ⟨ServingCall, ServingCall.Reply⟩

abbrev Serving (α : Type) : Type := Program serving Failure α

abbrev ServingLog : Type := List (Answer serving)

def routing : Embedding runtime serving := ⟨.Route, fun _ reply => reply⟩

-- A recorder that raises is caught by nobody.
def orRaise : Except Failure Unit → Serving Unit
  | .ok () => .Return ()
  | .error error => .Raise error

def increment (name : String) (tags : List (String × String)) : Serving Unit := do
  orRaise (← @Program.perform serving Failure (.Increment name tags))

def observe (name : String) (value : Int) (tags : List (String × String)) : Serving Unit := do
  orRaise (← @Program.perform serving Failure (.Observe name value tags))

def warning (record : Value) : Serving Unit := @Program.perform serving Failure (.Warning record)

def startResponse (statusCode : Nat) (headers : List (String × String)) : Serving Unit :=
  @Program.perform serving Failure (.Start statusCode headers)

def serverError (error : Failure) : Serving α := do
  @Program.perform serving Failure .ServerError
  .Raise error

def perfCounter : Serving Rat := @Program.perform serving Failure (.Route .PerfCounter)

def lower (name : String) : List Char := name.toList.map Char.toLower

def sameHeader (name other : String) : Bool := lower name == lower other

-- `headers.setdefault`, to which the names of headers have no case.
def setDefault (headers : List (String × String)) (key value : String) :
    List (String × String) :=
  if headers.any fun header => sameHeader header.1 key then headers else headers ++ [(key, value)]

def getHeader (headers : List (String × String)) (key : String) : Option String :=
  (headers.find? fun header => sameHeader header.1 key).map Prod.snd

def method : String := "POST"

def path : Endpoint → String
  | .CreateMessage => "/v1/messages"
  | .CountTokens => "/v1/messages/count_tokens"

-- A stream answers with the status and the headers of a response that has begun well.
def statusCode : MessageResponse → Nat
  | .Json response => response.statusCode
  | .Streaming _ => 200

def responseHeaders : MessageResponse → List (String × String)
  | .Json response => response.headers
  | .Streaming _ => []

def requestTags (endpoint : Endpoint) (statusCode : Nat) : List (String × String) :=
  [("method", method), ("path", path endpoint), ("status_code", toString statusCode)]

-- The text is written with sorted keys.
def failureRecord (requestId : String) (endpoint : Endpoint) (statusCode : Nat) : Value :=
  .Mapping [
    ("event", .Str RUNTIME_FAILURE_EVENT),
    ("method", .Str method),
    ("path", .Str (path endpoint)),
    ("request_id", .Str requestId),
    ("status_code", .Integer statusCode)]

-- The first argument says whether there is a recorder.
def recordMetrics (metrics : Bool) (latencyMs : Int) (responseStatus : Nat)
    (tags : List (String × String)) : Serving Unit := do
  if metrics then
    increment RUNTIME_REQUEST_COUNT_METRIC tags
    observe RUNTIME_REQUEST_LATENCY_METRIC latencyMs tags
    if 400 ≤ responseStatus then
      increment RUNTIME_REQUEST_ERROR_COUNT_METRIC tags

def warnOfFailure (requestId : String) (endpoint : Endpoint) (responseStatus : Nat) :
    Serving Unit := do
  if 400 ≤ responseStatus then
    warning (failureRecord requestId endpoint responseStatus)

variable (python : Interpreter) (audited metrics : Bool)

-- The router answers such an exception of a route itself, inside the middleware.
def httpException : Failure → Runtime MessageResponse
  | .HTTPException statusCode detail =>
      return .Json ⟨statusCode, .Mapping [("detail", .Str detail)], []⟩
  | error => .Raise error

def respond (endpoint : Endpoint) (http : HttpRequest) : Runtime MessageResponse :=
  (endpoint.handle python audited http).tryCatch httpException

-- The response of the route, and the headers it leaves the middleware with.
def runtimeObservabilityMiddleware (endpoint : Endpoint) (http : HttpRequest) :
    Serving (MessageResponse × List (String × String)) := do
  let requestId ← (resolveRequestId http).lift routing
  let startedAt ← perfCounter
  let response ← (respond python audited endpoint
    { http with stateRequestId := .Str requestId }).lift routing
  let stoppedAt ← perfCounter
  recordMetrics metrics (elapsedMs startedAt stoppedAt) (statusCode response)
    (requestTags endpoint (statusCode response))
  warnOfFailure requestId endpoint (statusCode response)
  return (response, setDefault (responseHeaders response) REQUEST_ID_HEADER requestId)

-- The body of a stream is made after its response has started; an exception in it ends it.
def sendBody (response : MessageResponse) : Runtime MessageResponse :=
  match response with
  | .Json response => return .Json response
  | .Streaming stream =>
      (streamWithAudit python audited stream >>= fun _ => return .Streaming stream).tryCatch
        fun _ => return .Streaming stream

def serve (endpoint : Endpoint) (http : HttpRequest) : Serving MessageResponse := do
  let (response, headers) ←
    (runtimeObservabilityMiddleware python audited metrics endpoint http).tryCatch serverError
  startResponse (statusCode response) headers
  (sendBody python audited response).lift routing

section Routing

-- A call of a route, as the middleware passes it on.
def route (answer : Answer runtime) : Answer serving := ⟨.Route answer.1, answer.2⟩

def routed? : Answer serving → Option (Answer runtime)
  | ⟨.Route op, reply⟩ => some ⟨op, reply⟩
  | _ => none

def routed (log : ServingLog) : Log := log.filterMap routed?

def isRoute : ServingCall → Bool
  | .Route _ => true
  | _ => false

theorem routed_append (first second : ServingLog) :
    routed (first ++ second) = routed first ++ routed second := List.filterMap_append

@[simp] theorem routed_map_route (log : Log) : routed (log.map route) = log := by
  induction log with
  | nil => rfl
  | cons answer log ih => exact congrArg (answer :: ·) ih

theorem routed_eq_nil {log : ServingLog} (h : ∀ answer ∈ log, isRoute answer.1 = false) :
    routed log = [] := by
  apply List.filterMap_eq_nil_iff.mpr
  rintro ⟨op, reply⟩ hm
  have hop := h _ hm
  cases op with
  | Route op => cases hop
  | _ => rfl

theorem carries_iff {log : ServingLog} {inner : Log} :
    List.Forall₂ routing.Carries log inner ↔ log = inner.map route := by
  induction log generalizing inner with
  | nil => cases inner <;> simp
  | cons answer log ih =>
      constructor
      · intro h
        cases h with
        | cons hcarried htail =>
            obtain ⟨op, reply, rfl, rfl⟩ := hcarried
            rw [ih.mp htail]
            rfl
      · intro h
        cases inner with
        | nil => cases h
        | cons head inner =>
            obtain ⟨rfl, hlog⟩ := List.cons.inj h
            exact .cons ⟨head.1, head.2, rfl, rfl⟩ (ih.mpr hlog)

theorem traces_routing {program : Runtime α} {log : ServingLog} {outcome : Except Failure α} :
    (program.lift routing).Traces log outcome ↔
      ∃ inner, log = inner.map route ∧ program.Traces inner outcome := by
  simp only [Program.traces_lift, carries_iff]

theorem traces_routing_bind {program : Runtime α} {rest : α → Serving β} {log : ServingLog}
    {outcome : Except Failure β} :
    (program.lift routing >>= rest).Traces log outcome ↔
      (∃ inner error, log = inner.map route ∧ program.Traces inner (.error error) ∧
        outcome = .error error) ∨
      ∃ inner tail value, log = inner.map route ++ tail ∧ program.Traces inner (.ok value) ∧
        (rest value).Traces tail outcome := by
  simp only [Program.traces_bind, traces_routing]
  constructor
  · rintro (⟨error, ⟨inner, rfl, hinner⟩, rfl⟩ |
      ⟨before, tail, value, rfl, ⟨inner, rfl, hinner⟩, htail⟩)
    · exact .inl ⟨inner, error, rfl, hinner, rfl⟩
    · exact .inr ⟨inner, tail, value, rfl, hinner, htail⟩
  · rintro (⟨inner, error, rfl, hinner, rfl⟩ | ⟨inner, tail, value, rfl, hinner, htail⟩)
    · exact .inl ⟨error, ⟨inner, rfl, hinner⟩, rfl⟩
    · exact .inr ⟨_, tail, value, rfl, ⟨inner, rfl, hinner⟩, htail⟩

end Routing

section Runs

-- What the recorder is told of a response, and what the logger is.
def metricCalls (latencyMs : Int) (responseStatus : Nat) (tags : List (String × String)) :
    List ServingCall :=
  if metrics then
    .Increment RUNTIME_REQUEST_COUNT_METRIC tags ::
      .Observe RUNTIME_REQUEST_LATENCY_METRIC latencyMs tags ::
      (if 400 ≤ responseStatus then [.Increment RUNTIME_REQUEST_ERROR_COUNT_METRIC tags] else [])
  else []

def warningCalls (requestId : String) (endpoint : Endpoint) (responseStatus : Nat) :
    List ServingCall :=
  if 400 ≤ responseStatus then [.Warning (failureRecord requestId endpoint responseStatus)] else []

-- A call that the recorder has raised on.
def refused : Answer serving → Bool
  | ⟨.Increment _ _, .error _⟩ | ⟨.Observe _ _ _, .error _⟩ => true
  | _ => false

-- A request whose route raises is not counted, and one on which the recorder raises may be counted
-- in part; the outermost layer answers both. Any other is counted, then its response starts, and
-- then its body is sent.
inductive ServeRun (endpoint : Endpoint) (http : HttpRequest) :
    ServingLog → Except Failure MessageResponse → Prop
  | Raised (idLog created : Log) (requestId : String) (startedAt : Rat) (error : Failure)
      (hid : RequestIdRun http idLog requestId)
      (hcreate : (respond python audited endpoint
        { http with stateRequestId := .Str requestId }).Traces created (.error error)) :
      ServeRun endpoint http
        (idLog.map route ++ ⟨.Route .PerfCounter, startedAt⟩ ::
          (created.map route ++ [⟨.ServerError, ()⟩])) (.error error)
  | Unrecorded (idLog created : Log) (requestId : String) (startedAt stoppedAt : Rat)
      (response : MessageResponse) (report : ServingLog) (error : Failure)
      (hid : RequestIdRun http idLog requestId)
      (hcreate : (respond python audited endpoint
        { http with stateRequestId := .Str requestId }).Traces created (.ok response))
      (hreport : report.map Sigma.fst <+:
        metricCalls metrics (elapsedMs startedAt stoppedAt) (statusCode response)
          (requestTags endpoint (statusCode response)))
      (hrefused : report.any refused = true) :
      ServeRun endpoint http
        (idLog.map route ++ ⟨.Route .PerfCounter, startedAt⟩ ::
          (created.map route ++ ⟨.Route .PerfCounter, stoppedAt⟩ ::
            (report ++ [⟨.ServerError, ()⟩]))) (.error error)
  | Answered (idLog created streamed : Log) (requestId : String) (startedAt stoppedAt : Rat)
      (response : MessageResponse) (report : ServingLog)
      (result : Except Failure MessageResponse) (hid : RequestIdRun http idLog requestId)
      (hcreate : (respond python audited endpoint
        { http with stateRequestId := .Str requestId }).Traces created (.ok response))
      (hreport : report.map Sigma.fst =
        metricCalls metrics (elapsedMs startedAt stoppedAt) (statusCode response)
          (requestTags endpoint (statusCode response)) ++
        warningCalls requestId endpoint (statusCode response))
      (hbody : (sendBody python audited response).Traces streamed result) :
      ServeRun endpoint http
        (idLog.map route ++ ⟨.Route .PerfCounter, startedAt⟩ ::
          (created.map route ++ ⟨.Route .PerfCounter, stoppedAt⟩ ::
            (report ++ ⟨.Start (statusCode response)
              (setDefault (responseHeaders response) REQUEST_ID_HEADER requestId), ()⟩ ::
              streamed.map route)))
        result

variable {python audited metrics}

theorem traces_perfCounter_bind {rest : Rat → Serving α} {log : ServingLog}
    {outcome : Except Failure α} (h : (perfCounter >>= rest).Traces log outcome) :
    ∃ now tail, log = ⟨.Route .PerfCounter, now⟩ :: tail ∧ (rest now).Traces tail outcome := h

theorem increment_run {name : String} {tags : List (String × String)} {log : ServingLog}
    {outcome : Except Failure Unit} (h : (increment name tags).Traces log outcome) :
    log = [⟨.Increment name tags, outcome⟩] := by
  obtain ⟨reply, tail, rfl, hreply⟩ := h
  cases reply <;> (obtain ⟨rfl, rfl⟩ := hreply; rfl)

theorem observe_run {name : String} {value : Int} {tags : List (String × String)}
    {log : ServingLog} {outcome : Except Failure Unit}
    (h : (observe name value tags).Traces log outcome) :
    log = [⟨.Observe name value tags, outcome⟩] := by
  obtain ⟨reply, tail, rfl, hreply⟩ := h
  cases reply <;> (obtain ⟨rfl, rfl⟩ := hreply; rfl)

-- Either the recorder has been told everything, or it has raised on the last that it was told.
theorem recordMetrics_run {latencyMs : Int} {responseStatus : Nat}
    {tags : List (String × String)} {log : ServingLog} {outcome : Except Failure Unit}
    (h : (recordMetrics metrics latencyMs responseStatus tags).Traces log outcome) :
    (outcome = .ok () ∧ log.map Sigma.fst = metricCalls metrics latencyMs responseStatus tags) ∨
      ∃ error, outcome = .error error ∧
        log.map Sigma.fst <+: metricCalls metrics latencyMs responseStatus tags ∧
        log.any refused = true := by
  cases metrics with
  | false =>
      obtain ⟨rfl, rfl⟩ := h
      exact .inl ⟨rfl, rfl⟩
  | true =>
      unfold metricCalls
      rcases (Program.traces_bind _ _ _ _).mp h with ⟨error, hcount, rfl⟩ |
        ⟨_, _, _, rfl, hcount, hrest⟩
      · obtain rfl := increment_run hcount
        exact .inr ⟨error, rfl, ⟨_, rfl⟩, rfl⟩
      obtain rfl := increment_run hcount
      rcases (Program.traces_bind _ _ _ _).mp hrest with ⟨error, hlatency, rfl⟩ |
        ⟨_, _, _, rfl, hlatency, hlast⟩
      · obtain rfl := observe_run hlatency
        exact .inr ⟨error, rfl, ⟨_, rfl⟩, rfl⟩
      obtain rfl := observe_run hlatency
      by_cases herror : 400 ≤ responseStatus
      · simp only [if_pos herror] at hlast ⊢
        obtain rfl := increment_run hlast
        cases outcome with
        | ok _ => exact .inl ⟨rfl, rfl⟩
        | error error => exact .inr ⟨error, rfl, ⟨[], rfl⟩, rfl⟩
      · simp only [if_neg herror] at hlast ⊢
        obtain ⟨rfl, rfl⟩ := hlast
        exact .inl ⟨rfl, rfl⟩

theorem warnOfFailure_run {requestId : String} {endpoint : Endpoint} {responseStatus : Nat}
    {log : ServingLog} {outcome : Except Failure Unit}
    (h : (warnOfFailure requestId endpoint responseStatus).Traces log outcome) :
    log.map Sigma.fst = warningCalls requestId endpoint responseStatus ∧ outcome = .ok () := by
  unfold warnOfFailure at h
  unfold warningCalls
  by_cases herror : 400 ≤ responseStatus
  · simp only [if_pos herror] at h ⊢
    obtain ⟨_, _, rfl, rfl, rfl⟩ := h
    exact ⟨rfl, rfl⟩
  · simp only [if_neg herror] at h ⊢
    obtain ⟨rfl, rfl⟩ := h
    exact ⟨rfl, rfl⟩

theorem runtimeObservabilityMiddleware_run {endpoint : Endpoint} {http : HttpRequest}
    {log : ServingLog} {outcome : Except Failure (MessageResponse × List (String × String))}
    (h : (runtimeObservabilityMiddleware python audited metrics endpoint http).Traces log
      outcome) :
    ∃ idLog requestId startedAt created, RequestIdRun http idLog requestId ∧
      ((∃ error, (respond python audited endpoint
          { http with stateRequestId := .Str requestId }).Traces created (.error error) ∧
        log = idLog.map route ++ ⟨.Route .PerfCounter, startedAt⟩ :: created.map route ∧
        outcome = .error error) ∨
      (∃ response stoppedAt report error, (respond python audited endpoint
          { http with stateRequestId := .Str requestId }).Traces created (.ok response) ∧
        report.map Sigma.fst <+:
          metricCalls metrics (elapsedMs startedAt stoppedAt) (statusCode response)
            (requestTags endpoint (statusCode response)) ∧
        report.any refused = true ∧
        log = idLog.map route ++ ⟨.Route .PerfCounter, startedAt⟩ ::
          (created.map route ++ ⟨.Route .PerfCounter, stoppedAt⟩ :: report) ∧
        outcome = .error error) ∨
      ∃ response stoppedAt report, (respond python audited endpoint
          { http with stateRequestId := .Str requestId }).Traces created (.ok response) ∧
        report.map Sigma.fst =
          metricCalls metrics (elapsedMs startedAt stoppedAt) (statusCode response)
            (requestTags endpoint (statusCode response)) ++
          warningCalls requestId endpoint (statusCode response) ∧
        log = idLog.map route ++ ⟨.Route .PerfCounter, startedAt⟩ ::
          (created.map route ++ ⟨.Route .PerfCounter, stoppedAt⟩ :: report) ∧
        outcome = .ok (response,
          setDefault (responseHeaders response) REQUEST_ID_HEADER requestId)) := by
  unfold runtimeObservabilityMiddleware at h
  rcases traces_routing_bind.mp h with ⟨idLog, error, rfl, hid, rfl⟩ |
    ⟨idLog, tail, requestId, rfl, hid, hrest⟩
  · obtain ⟨requestId, hok, -⟩ := resolveRequestId_run hid
    cases hok
  obtain ⟨_, hok, hid⟩ := resolveRequestId_run hid
  cases hok
  obtain ⟨startedAt, tail, rfl, hroute⟩ := traces_perfCounter_bind hrest
  rcases traces_routing_bind.mp hroute with ⟨created, error, rfl, hcreate, rfl⟩ |
    ⟨created, tail, response, rfl, hcreate, hanswered⟩
  · exact ⟨idLog, requestId, startedAt, created, hid, .inl ⟨error, hcreate, rfl, rfl⟩⟩
  obtain ⟨stoppedAt, tail, rfl, hreport⟩ := traces_perfCounter_bind hanswered
  rw [Program.traces_bind] at hreport
  rcases hreport with ⟨error, hmetrics, rfl⟩ | ⟨counted, rest, _, rfl, hmetrics, hwarning⟩
  · rcases recordMetrics_run hmetrics with ⟨hok, -⟩ | ⟨_, herror, hcalls, hrefused⟩
    · cases hok
    · exact ⟨idLog, requestId, startedAt, created, hid,
        .inr (.inl ⟨response, stoppedAt, tail, error, hcreate, hcalls, hrefused, rfl, rfl⟩)⟩
  rw [Program.traces_bind] at hwarning
  rcases hwarning with ⟨error, hwarned, rfl⟩ | ⟨warned, _, _, rfl, hwarned, rfl, rfl⟩
  · cases (warnOfFailure_run hwarned).2
  have hcalls : (counted ++ (warned ++ [])).map Sigma.fst =
      metricCalls metrics (elapsedMs startedAt stoppedAt) (statusCode response)
        (requestTags endpoint (statusCode response)) ++
      warningCalls requestId endpoint (statusCode response) := by
    rcases recordMetrics_run hmetrics with ⟨-, hcalls⟩ | ⟨_, herror, -⟩
    · rw [List.append_nil, List.map_append, hcalls, (warnOfFailure_run hwarned).1]
    · cases herror
  exact ⟨idLog, requestId, startedAt, created, hid,
    .inr (.inr ⟨response, stoppedAt, counted ++ (warned ++ []), hcreate, hcalls, rfl, rfl⟩)⟩

-- The outermost layer answers what comes up to it, and lets it come up further.
theorem serverError_run {error : Failure} {log : ServingLog} {outcome : Except Failure α}
    (h : (serverError error : Serving α).Traces log outcome) :
    log = [⟨.ServerError, ()⟩] ∧ outcome = .error error := by
  obtain ⟨_, _, rfl, rfl, rfl⟩ := h
  exact ⟨rfl, rfl⟩

theorem serve_run {endpoint : Endpoint} {http : HttpRequest} {log : ServingLog}
    {outcome : Except Failure MessageResponse}
    (h : (serve python audited metrics endpoint http).Traces log outcome) :
    ServeRun python audited metrics endpoint http log outcome := by
  unfold serve at h
  rw [Program.traces_bind] at h
  rcases h with ⟨error, hcaught, rfl⟩ | ⟨before, after, ⟨response, headers⟩, rfl, hcaught, h⟩
  all_goals
    rw [Program.traces_tryCatch] at hcaught
    rcases hcaught with ⟨_, hmiddleware, hsame⟩ | ⟨_, _, _, rfl, hmiddleware, hanswer⟩
  · cases hsame
  · obtain ⟨rfl, herror⟩ := serverError_run hanswer
    obtain rfl := Except.error.inj herror
    obtain ⟨idLog, requestId, startedAt, created, hid, ⟨_, hcreate, rfl, herror⟩ |
      ⟨response, stoppedAt, report, _, hcreate, hreport, hrefused, rfl, herror⟩ |
      ⟨_, _, _, _, _, _, hok⟩⟩ := runtimeObservabilityMiddleware_run hmiddleware
    · cases herror
      simp only [List.append_assoc, List.cons_append]
      exact .Raised idLog created requestId startedAt error hid hcreate
    · cases herror
      simp only [List.append_assoc, List.cons_append]
      exact .Unrecorded idLog created requestId startedAt stoppedAt response report error hid
        hcreate hreport hrefused
    · cases hok
  · cases hsame
    obtain ⟨idLog, requestId, startedAt, created, hid, ⟨_, _, _, herror⟩ |
      ⟨_, _, _, _, _, _, _, _, herror⟩ |
      ⟨_, stoppedAt, report, hcreate, hreport, rfl, hok⟩⟩ :=
        runtimeObservabilityMiddleware_run hmiddleware
    · cases herror
    · cases herror
    obtain ⟨rfl, rfl⟩ := Prod.mk.inj (Except.ok.inj hok)
    obtain ⟨_, tail, rfl, hsent⟩ := h
    obtain ⟨streamed, rfl, hbody⟩ := traces_routing.mp hsent
    simp only [List.append_assoc, List.cons_append]
    exact .Answered idLog created streamed requestId startedAt stoppedAt response report outcome hid
      hcreate hreport hbody
  · cases (serverError_run hanswer).2

end Runs

end ClaudeCodeProxy.Observability
