import ClaudeCodeProxy.Api.RequestIds

-- Requests side by side behind the middleware, with ledgers and metrics in common: what can be told
-- of a request by its id.

namespace ClaudeCodeProxy.Observability

open Effects Python

section Servers

def isMetric : ServingCall → Bool
  | .Increment _ _ | .Observe _ _ _ => true
  | _ => false

abbrev Replies : Type := (op : ServingCall) → op.Reply

-- The ids drawn and the rows filed, each with the number of its request, what the recorder has
-- been told, and what the collaborators answer next.
structure ServingProcess where
  drawn : List (Nat × String)
  rows : List (Nat × LedgerRow)
  metrics : List ServingCall
  replies : Replies

def ServingProcess.reply (draw : Nat → String) (process : ServingProcess) :
    (op : ServingCall) → op.Reply
  | .Route .GenerateRequestId => draw process.drawn.length
  | op => process.replies op

def ServingProcess.keep (process : ServingProcess) (number : Nat) (answer : Answer serving) :
    ServingProcess where
  drawn := process.drawn ++ (generated (routed [answer])).map (Prod.mk number)
  rows := process.rows ++ (filed (routed [answer])).map (Prod.mk number)
  metrics := process.metrics ++ [answer.1].filter isMetric
  replies := process.replies

def answer (draw : Nat → String) (incoming : Incoming) : Handler serving Failure ServingProcess :=
  fun op process =>
    (.ok (process.reply draw op), process.keep incoming.number ⟨op, process.reply draw op⟩)

variable (python : Interpreter) (audited metrics : Bool) (draw : Nat → String)

def application : System serving Failure MessageResponse Incoming ServingProcess Replies where
  start incoming := serve python audited metrics incoming.endpoint incoming.http
  handler := answer draw
  environment replies process := { process with replies }

def ServingProcess.idle (replies : Replies) : ServingProcess :=
  ⟨[], [], [], replies⟩

abbrev ServingThread : Type := Thread serving Failure MessageResponse Incoming

abbrev ServingPool : Type := Pool serving Failure MessageResponse Incoming ServingProcess

def identifiers (thread : ServingThread) : List String := generated (routed thread.log.reverse)

def ServingProcess.rowsUnder (process : ServingProcess) (requestId : String) : List LedgerRow :=
  (process.rows.map Prod.snd).filter fun row => row.requestId == requestId

def isStart : ServingCall → Bool
  | .Start _ _ => true
  | _ => false

def isResponse : ServingCall → Bool
  | .Start _ _ | .ServerError => true
  | _ => false

def isFailedStart : ServingCall → Bool
  | .Start statusCode _ => 400 ≤ statusCode
  | _ => false

def isIncrement (name : String) : ServingCall → Bool
  | .Increment other _ => other == name
  | _ => false

def isObservation (name : String) : ServingCall → Bool
  | .Observe other _ _ => other == name
  | _ => false

def calls (thread : ServingThread) (p : ServingCall → Bool) : Bool :=
  thread.log.any fun answer => p answer.1

-- What can be told of requests by their ids, and of all of them by what was counted.
structure Traceable (pool : ServingPool) : Prop where
  distinct : ∀ (i j : Nat) (first second : ServingThread), pool.threads[i]? = some first →
    pool.threads[j]? = some second → ∀ requestId ∈ identifiers first,
      requestId ∈ identifiers second → i = j
  filed : ∀ thread ∈ pool.threads, ∀ requestId ∈ identifiers thread,
    Filing requestId (pool.shared.rowsUnder requestId) ∧
      pool.shared.rowsUnder requestId = filed (routed thread.log.reverse)
  known : ∀ row ∈ pool.shared.rows, ∃ thread ∈ pool.threads,
    identifiers thread = [row.2.requestId]
  returned : ∀ thread ∈ pool.threads, ∀ statusCode headers,
    ⟨.Start statusCode headers, ()⟩ ∈ thread.log →
    (∀ dependency error, answered dependency (.error error) ∈ routed thread.log → Plain error) →
    ∃ requestId, identifiers thread = [requestId] ∧
      getHeader headers REQUEST_ID_HEADER = some requestId
  answered : ∀ thread ∈ pool.threads, thread.finished →
    thread.log.countP (fun answer => isResponse answer.1) = 1
  counted : metrics = true → (∀ thread ∈ pool.threads, thread.finished) →
    (∀ thread ∈ pool.threads, ∀ answer ∈ thread.log, refused answer = false) →
    pool.shared.metrics.countP (isIncrement RUNTIME_REQUEST_COUNT_METRIC) =
        pool.threads.countP (calls · isStart) ∧
      pool.shared.metrics.countP (isObservation RUNTIME_REQUEST_LATENCY_METRIC) =
        pool.threads.countP (calls · isStart) ∧
      pool.shared.metrics.countP (isIncrement RUNTIME_REQUEST_ERROR_COUNT_METRIC) =
        pool.threads.countP (calls · isFailedStart)

end Servers

section Runs

variable {python : Interpreter} {audited metrics : Bool}

-- What a whole run of a request leaves under the id that was generated for it.
structure Traced (requestId : String) (log : ServingLog) : Prop where
  named : generated (routed log) = [requestId]
  filing : Filing requestId (filed (routed log))
  returned : ∀ before statusCode headers after,
    log = before ++ ⟨.Start statusCode headers, ()⟩ :: after →
    (∀ dependency error, answered dependency (.error error) ∈ routed before → Plain error) →
    getHeader headers REQUEST_ID_HEADER = some requestId

theorem not_start_route (log : Log) (statusCode : Nat) (headers : List (String × String)) :
    (⟨.Start statusCode headers, ()⟩ : Answer serving) ∉ log.map route := by
  intro hm
  obtain ⟨answer, -, hroute⟩ := List.mem_map.mp hm
  cases (Sigma.mk.inj hroute).1

-- What the middleware reports of a request: no call of the route, and no response.
def Reporting (report : ServingLog) : Prop :=
  ∀ answer ∈ report, isRoute answer.1 = false ∧ isResponse answer.1 = false

theorem metricCalls_own {latencyMs : Int} {responseStatus : Nat} {tags : List (String × String)}
    {op : ServingCall} (hm : op ∈ metricCalls metrics latencyMs responseStatus tags) :
    isRoute op = false ∧ isResponse op = false := by
  have hall : ∀ op ∈ metricCalls metrics latencyMs responseStatus tags,
      isRoute op = false ∧ isResponse op = false := by
    unfold metricCalls
    split_ifs <;> simp [isRoute, isResponse]
  exact hall op hm

theorem warningCalls_own {requestId : String} {endpoint : Endpoint} {responseStatus : Nat}
    {op : ServingCall} (hm : op ∈ warningCalls requestId endpoint responseStatus) :
    isRoute op = false ∧ isResponse op = false := by
  have hall : ∀ op ∈ warningCalls requestId endpoint responseStatus,
      isRoute op = false ∧ isResponse op = false := by
    unfold warningCalls
    split_ifs <;> simp [isRoute, isResponse]
  exact hall op hm

theorem reporting_whole {report : ServingLog} {requestId : String} {endpoint : Endpoint}
    {latencyMs : Int} {responseStatus : Nat} {tags : List (String × String)}
    (h : report.map Sigma.fst = metricCalls metrics latencyMs responseStatus tags ++
      warningCalls requestId endpoint responseStatus) : Reporting report := by
  intro answer hanswer
  have hop : answer.1 ∈ report.map Sigma.fst := List.mem_map_of_mem hanswer
  rw [h] at hop
  rcases List.mem_append.mp hop with hmetric | hwarning
  · exact metricCalls_own hmetric
  · exact warningCalls_own hwarning

theorem reporting_begun {report : ServingLog} {latencyMs : Int} {responseStatus : Nat}
    {tags : List (String × String)}
    (h : report.map Sigma.fst <+: metricCalls metrics latencyMs responseStatus tags) :
    Reporting report :=
  fun _ hanswer => metricCalls_own (h.subset (List.mem_map_of_mem hanswer))

-- A run whose response does not come through the middleware.
theorem Traced.of_unstarted {log : ServingLog} {requestId : String} {calls : Log}
    (hrouted : routed log = ⟨.GenerateRequestId, requestId⟩ :: calls)
    (hfiles : Files requestId calls)
    (hstart : ∀ statusCode headers, ⟨.Start statusCode headers, ()⟩ ∉ log) :
    Traced requestId log := by
  refine ⟨?_, ?_, ?_⟩
  · rw [hrouted]
    exact congrArg (requestId :: ·) hfiles.unnamed
  · rw [hrouted]
    exact hfiles.filing
  · intro before statusCode headers after hlog _
    refine absurd ?_ (hstart statusCode headers)
    rw [hlog]
    exact List.mem_append_right _ (.head _)

theorem Traced.of_raised {created : Log} {requestId : String} {startedAt : Rat}
    (hcreate : Files requestId created) :
    Traced requestId (⟨.Route .GenerateRequestId, requestId⟩ ::
      ⟨.Route .PerfCounter, startedAt⟩ :: (created.map route ++ [⟨.ServerError, ()⟩])) := by
  have hrouted : routed (created.map route ++ [⟨.ServerError, ()⟩]) = created := by
    rw [routed_append, routed_map_route]
    exact List.append_nil _
  have hfiles : Files requestId ([⟨.PerfCounter, startedAt⟩] ++ created) :=
    hcreate.prepend _ rfl rfl
  refine .of_unstarted (congrArg (_ :: _ :: ·) hrouted) hfiles fun statusCode headers hm => ?_
  rcases List.mem_cons.mp hm with hm | hm
  · cases (Sigma.mk.inj hm).1
  rcases List.mem_cons.mp hm with hm | hm
  · cases (Sigma.mk.inj hm).1
  rcases List.mem_append.mp hm with hm | hm
  · exact not_start_route created statusCode headers hm
  · cases (Sigma.mk.inj (List.mem_singleton.mp hm)).1

-- The calls before the response starts.
def opening (requestId : String) (startedAt : Rat) (created : Log) (stoppedAt : Rat)
    (report : ServingLog) : ServingLog :=
  ⟨.Route .GenerateRequestId, requestId⟩ :: ⟨.Route .PerfCounter, startedAt⟩ ::
    (created.map route ++ ⟨.Route .PerfCounter, stoppedAt⟩ :: report)

section Openings

variable {requestId : String} {startedAt stoppedAt : Rat} {created : Log} {report : ServingLog}

theorem routed_opening (hreport : Reporting report) :
    routed (opening requestId startedAt created stoppedAt report) =
      ⟨.GenerateRequestId, requestId⟩ :: ⟨.PerfCounter, startedAt⟩ ::
        (created ++ [⟨.PerfCounter, stoppedAt⟩]) := by
  have hnone : routed report = [] := routed_eq_nil fun answer hm => (hreport answer hm).1
  show _ :: _ :: routed (created.map route ++ _ :: report) = _
  rw [routed_append, routed_map_route]
  show _ :: _ :: (created ++ _ :: routed report) = _
  rw [hnone]

theorem not_start_opening (hreport : Reporting report) (statusCode : Nat)
    (headers : List (String × String)) :
    (⟨.Start statusCode headers, ()⟩ : Answer serving) ∉
      opening requestId startedAt created stoppedAt report := by
  intro hm
  rcases List.mem_cons.mp hm with hm | hm
  · cases (Sigma.mk.inj hm).1
  rcases List.mem_cons.mp hm with hm | hm
  · cases (Sigma.mk.inj hm).1
  rcases List.mem_append.mp hm with hm | hm
  · exact not_start_route created statusCode headers hm
  rcases List.mem_cons.mp hm with hm | hm
  · cases (Sigma.mk.inj hm).1
  · cases (hreport _ hm).2

theorem Traced.of_unrecorded (hcreate : Files requestId created) (hreport : Reporting report) :
    Traced requestId
      (opening requestId startedAt created stoppedAt report ++ [⟨.ServerError, ()⟩]) := by
  have hrouted : routed (opening requestId startedAt created stoppedAt report ++
      [⟨.ServerError, ()⟩]) = ⟨.GenerateRequestId, requestId⟩ ::
        ([⟨.PerfCounter, startedAt⟩] ++ (created ++ [⟨.PerfCounter, stoppedAt⟩])) := by
    rw [routed_append, routed_opening hreport]
    exact List.append_nil _
  refine .of_unstarted hrouted ((hcreate.append rfl rfl).prepend _ rfl rfl)
    fun statusCode headers hm => ?_
  rcases List.mem_append.mp hm with hm | hm
  · exact not_start_opening hreport statusCode headers hm
  · cases (Sigma.mk.inj (List.mem_singleton.mp hm)).1

theorem Traced.of_answered {endpoint : Endpoint} {http : HttpRequest} {streamed : Log}
    {response : MessageResponse} {result : Except Failure MessageResponse}
    (hstrip : Text.strip requestId ≠ "") (hstate : http.stateRequestId = .Str requestId)
    (hcreate : (respond python audited endpoint http).Traces created (.ok response))
    (hreport : Reporting report)
    (hbody : (sendBody python audited response).Traces streamed result) :
    Traced requestId (opening requestId startedAt created stoppedAt report ++
      ⟨.Start (statusCode response)
        (setDefault (responseHeaders response) REQUEST_ID_HEADER requestId), ()⟩ ::
      streamed.map route) := by
  have hfiles := files_served hcreate hbody hstate hstrip
  have hrouted : routed (opening requestId startedAt created stoppedAt report ++
      ⟨.Start (statusCode response)
        (setDefault (responseHeaders response) REQUEST_ID_HEADER requestId), ()⟩ ::
      streamed.map route) =
      ⟨.GenerateRequestId, requestId⟩ :: ⟨.PerfCounter, startedAt⟩ ::
        (created ++ ⟨.PerfCounter, stoppedAt⟩ :: streamed) := by
    rw [routed_append, routed_opening hreport]
    show _ ++ routed (streamed.map route) = _
    rw [routed_map_route]
    simp only [List.cons_append, List.append_assoc, List.nil_append]
  have hsplit : ∀ {β : Type} (project : Log → List β),
      (∀ first second, project (first ++ second) = project first ++ project second) →
      project [⟨.PerfCounter, stoppedAt⟩] = [] →
      project (created ++ ⟨.PerfCounter, stoppedAt⟩ :: streamed) =
        project (created ++ streamed) := by
    intro β project happend hnone
    rw [← List.singleton_append, happend, happend, hnone, happend, List.nil_append]
  refine ⟨?_, ?_, ?_⟩
  · rw [hrouted]
    show requestId :: generated (created ++ _ :: streamed) = _
    rw [hsplit generated generated_append rfl, hfiles.unnamed]
  · rw [hrouted]
    show Filing requestId (filed (created ++ _ :: streamed))
    rw [hsplit filed filed_append rfl]
    exact hfiles.filing
  · intro before status headers after hlog hplain
    obtain ⟨rfl, hstart, -⟩ := (List.append_cons_inj_of_notMem
      (not_start_opening hreport status headers) (not_start_route streamed status headers)).mp hlog
    cases hstart
    apply getHeader_setDefault
    refine unnamed_respond hcreate fun dependency error hm => hplain dependency error ?_
    rw [routed_opening hreport]
    exact .tail _ (.tail _ (List.mem_append_left _ hm))

end Openings

-- The middleware draws the one id of the request, before anything else.
theorem ServeRun.traced {endpoint : Endpoint} {http : HttpRequest} {log : ServingLog}
    {outcome : Except Failure MessageResponse}
    (h : ServeRun python audited metrics endpoint http log outcome)
    (hstate : http.stateRequestId = .None) :
    ∃ requestId tail, log = ⟨.Route .GenerateRequestId, requestId⟩ :: tail ∧
      (Text.strip requestId ≠ "" → Traced requestId log) := by
  have hdrawn : ∀ {idLog : Log} {requestId : String}, RequestIdRun http idLog requestId →
      idLog = [⟨.GenerateRequestId, requestId⟩] := by
    intro idLog requestId hid
    cases hid with
    | Own _ hown hstrip =>
        rw [hstate] at hown
        cases hown
    | Generated _ hown => rfl
  cases h with
  | Raised idLog created requestId startedAt error hid hcreate =>
      obtain rfl := hdrawn hid
      exact ⟨requestId, _, rfl, fun hstrip => .of_raised (files_respond hcreate rfl hstrip)⟩
  | Unrecorded idLog created requestId startedAt stoppedAt response report error hid hcreate
      hreport hrefused =>
      obtain rfl := hdrawn hid
      refine ⟨requestId, _, rfl, fun hstrip => ?_⟩
      have htraced := @Traced.of_unrecorded requestId startedAt stoppedAt created report
        (files_respond hcreate rfl hstrip) (reporting_begun hreport)
      simp only [opening, List.cons_append, List.append_assoc] at htraced
      exact htraced
  | Answered idLog created streamed requestId startedAt stoppedAt response report result hid
      hcreate hreport hbody =>
      obtain rfl := hdrawn hid
      refine ⟨requestId, _, rfl, fun hstrip => ?_⟩
      have htraced := @Traced.of_answered python audited requestId startedAt stoppedAt created
        report _ _ _ _ _ hstrip rfl hcreate (reporting_whole hreport) hbody
      simp only [opening, List.cons_append, List.append_assoc] at htraced
      exact htraced

section Counts

variable {p : ServingCall → Bool}

theorem countP_route (hroute : ∀ op, p (.Route op) = false) (log : Log) :
    (log.map route).countP (fun answer => p answer.1) = 0 := by
  rw [List.countP_eq_zero]
  intro answer hm hp
  obtain ⟨call, -, rfl⟩ := List.mem_map.mp hm
  have hcall := hroute call.1
  rw [show p (route call).1 = p (.Route call.1) from rfl, hcall] at hp
  cases hp

-- Only the middleware's own calls and the response count.
theorem countP_raised (hroute : ∀ op, p (.Route op) = false) (idLog created : Log)
    (startedAt : Rat) (rest : ServingLog) :
    (idLog.map route ++ ⟨.Route .PerfCounter, startedAt⟩ ::
      (created.map route ++ rest)).countP (fun answer => p answer.1) =
      (rest.map Sigma.fst).countP p := by
  have hrest : (rest.map Sigma.fst).countP p = rest.countP fun answer => p answer.1 := by
    rw [List.countP_map]
    rfl
  simp only [List.countP_append, List.countP_cons, countP_route hroute, hroute, Bool.false_eq_true,
    if_false, Nat.add_zero, Nat.zero_add, hrest]

theorem countP_reported (hroute : ∀ op, p (.Route op) = false) (idLog created streamed : Log)
    (startedAt stoppedAt : Rat) (report : ServingLog) (response : Answer serving) :
    (idLog.map route ++ ⟨.Route .PerfCounter, startedAt⟩ ::
      (created.map route ++ ⟨.Route .PerfCounter, stoppedAt⟩ ::
        (report ++ response :: streamed.map route))).countP (fun answer => p answer.1) =
      (report.map Sigma.fst).countP p + (p response.1).toNat := by
  have hstreamed : ((streamed.map route).map Sigma.fst).countP p = 0 := by
    rw [List.countP_map]
    exact countP_route hroute streamed
  rw [countP_raised hroute]
  simp only [List.map_cons, List.map_append, List.countP_cons, List.countP_append, hroute,
    hstreamed, Bool.false_eq_true, if_false, Nat.add_zero, Nat.zero_add]
  cases p response.1 <;> rfl

theorem countP_report (latencyMs : Int) (responseStatus : Nat) (requestId : String)
    (endpoint : Endpoint) (headers : List (String × String)) :
    let report := metricCalls true latencyMs responseStatus (requestTags endpoint responseStatus) ++
      warningCalls requestId endpoint responseStatus
    report.countP (isIncrement RUNTIME_REQUEST_COUNT_METRIC) = 1 ∧
      report.countP (isObservation RUNTIME_REQUEST_LATENCY_METRIC) = 1 ∧
      report.countP (isIncrement RUNTIME_REQUEST_ERROR_COUNT_METRIC) =
        (isFailedStart (.Start responseStatus headers)).toNat ∧
      report.countP isStart = 0 ∧ report.countP isFailedStart = 0 := by
  have hnames : (RUNTIME_REQUEST_COUNT_METRIC == RUNTIME_REQUEST_ERROR_COUNT_METRIC) = false ∧
      (RUNTIME_REQUEST_ERROR_COUNT_METRIC == RUNTIME_REQUEST_COUNT_METRIC) = false := by decide
  by_cases herror : 400 ≤ responseStatus
  · simp [metricCalls, warningCalls, herror, isIncrement, isObservation, isStart, isFailedStart,
      hnames]
  · simp [metricCalls, warningCalls, herror, isIncrement, isObservation, isStart, isFailedStart,
      hnames]

theorem countP_response {report : ServingLog} (h : Reporting report) :
    (report.map Sigma.fst).countP isResponse = 0 := by
  rw [List.countP_eq_zero]
  intro op hm hresponse
  obtain ⟨answer, hanswer, rfl⟩ := List.mem_map.mp hm
  rw [(h answer hanswer).2] at hresponse
  cases hresponse

-- However it goes, a run is answered once.
theorem ServeRun.answered {endpoint : Endpoint} {http : HttpRequest} {log : ServingLog}
    {outcome : Except Failure MessageResponse}
    (h : ServeRun python audited metrics endpoint http log outcome) :
    log.countP (fun answer => isResponse answer.1) = 1 := by
  have hroute : ∀ op, isResponse (.Route op) = false := fun _ => rfl
  cases h with
  | Raised idLog created requestId startedAt error hid hcreate =>
      exact countP_raised hroute idLog created startedAt _
  | Unrecorded idLog created requestId startedAt stoppedAt response report error hid hcreate
      hreport hrefused =>
      refine (countP_reported hroute idLog created [] startedAt stoppedAt report _).trans ?_
      rw [countP_response (reporting_begun hreport)]
      rfl
  | Answered idLog created streamed requestId startedAt stoppedAt response report result hid
      hcreate hreport hbody =>
      rw [countP_reported hroute, countP_response (reporting_whole hreport)]
      rfl

-- A run is counted once if it is answered, and once more if the answer is an error.
theorem ServeRun.counted {endpoint : Endpoint} {http : HttpRequest} {log : ServingLog}
    {outcome : Except Failure MessageResponse}
    (h : ServeRun python audited true endpoint http log outcome)
    (htaken : ∀ answer ∈ log, refused answer = false) :
    log.countP (fun answer => isIncrement RUNTIME_REQUEST_COUNT_METRIC answer.1) =
        log.countP (fun answer => isStart answer.1) ∧
      log.countP (fun answer => isObservation RUNTIME_REQUEST_LATENCY_METRIC answer.1) =
        log.countP (fun answer => isStart answer.1) ∧
      log.countP (fun answer => isIncrement RUNTIME_REQUEST_ERROR_COUNT_METRIC answer.1) =
        log.countP (fun answer => isFailedStart answer.1) ∧
      log.countP (fun answer => isStart answer.1) ≤ 1 ∧
      log.countP (fun answer => isFailedStart answer.1) ≤ 1 := by
  have hincrement : ∀ name op, isIncrement name (.Route op) = false := fun _ _ => rfl
  have hobservation : ∀ name op, isObservation name (.Route op) = false := fun _ _ => rfl
  have hstart : ∀ op, isStart (.Route op) = false := fun _ => rfl
  have hfailed : ∀ op, isFailedStart (.Route op) = false := fun _ => rfl
  cases h with
  | Raised idLog created requestId startedAt error hid hcreate =>
      rw [countP_raised (hincrement _), countP_raised (hobservation _),
        countP_raised (hincrement _), countP_raised hstart, countP_raised hfailed]
      exact ⟨rfl, rfl, rfl, Nat.zero_le 1, Nat.zero_le 1⟩
  | Unrecorded idLog created requestId startedAt stoppedAt response report error hid hcreate
      hreport hrefused =>
      obtain ⟨answer, hm, hanswer⟩ := List.any_eq_true.mp hrefused
      have hlate : answer ∈ report ++ [⟨.ServerError, ()⟩] := List.mem_append_left _ hm
      rw [htaken answer (List.mem_append_right _ (.tail _ (List.mem_append_right _
        (.tail _ hlate))))] at hanswer
      cases hanswer
  | Answered idLog created streamed requestId startedAt stoppedAt response report result hid
      hcreate hreport hbody =>
      obtain ⟨hrequests, hlatencies, herrors, hstarts, hfailures⟩ :=
        countP_report (elapsedMs startedAt stoppedAt) (statusCode response) requestId endpoint
          (setDefault (responseHeaders response) REQUEST_ID_HEADER requestId)
      have hsmall := Bool.toNat_le (isFailedStart (.Start (statusCode response)
        (setDefault (responseHeaders response) REQUEST_ID_HEADER requestId)))
      rw [countP_reported (hincrement _), countP_reported (hobservation _),
        countP_reported (hincrement _), countP_reported hstart, countP_reported hfailed, hreport,
        hrequests, hlatencies, herrors, hstarts, hfailures]
      refine ⟨rfl, rfl, ?_, le_refl 1, ?_⟩
      · exact Nat.add_comm _ 0
      · rw [Nat.zero_add]
        exact hsmall

end Counts

end Runs

section Contracts

-- What one request has put on a list that all of them share.
def owned (entries : List (Nat × β)) (number : Nat) : List β :=
  (entries.filter fun entry => entry.1 == number).map Prod.snd

theorem mem_owned {entries : List (Nat × β)} {number : Nat} {value : β} :
    value ∈ owned entries number ↔ (number, value) ∈ entries := by
  constructor
  · intro h
    obtain ⟨entry, hkept, rfl⟩ := List.mem_map.mp h
    obtain ⟨hm, hsame⟩ := List.mem_filter.mp hkept
    rw [← eq_of_beq hsame]
    exact hm
  · intro h
    exact List.mem_map.mpr ⟨_, List.mem_filter.mpr ⟨h, beq_self_eq_true number⟩, rfl⟩

theorem owned_append (entries : List (Nat × β)) (number other : Nat) (values : List β) :
    owned (entries ++ values.map (Prod.mk number)) other =
      owned entries other ++ if number = other then values else [] := by
  unfold owned
  rw [List.filter_append, List.map_append, List.filter_map]
  by_cases hsame : number = other
  · have hall : values.filter ((fun entry : Nat × β => entry.1 == other) ∘ Prod.mk number) =
        values := List.filter_eq_self.mpr fun _ _ => beq_iff_eq.mpr hsame
    rw [hall, if_pos hsame, List.map_map]
    exact congrArg (_ ++ ·) (List.map_id values)
  · have hnone : values.filter ((fun entry : Nat × β => entry.1 == other) ∘ Prod.mk number) =
        [] := List.filter_eq_nil_iff.mpr fun _ _ h => hsame (eq_of_beq h)
    rw [hnone, if_neg hsame]
    rfl

variable (draw : Nat → String)

-- Every request owns the rows it has filed and the ids drawn for it.
def tracingContract : Ownership serving Incoming ServingProcess Nat where
  owner := Incoming.number
  inv process := process.drawn.map Prod.snd = (List.range process.drawn.length).map draw
  rely number before after := owned after.rows number = owned before.rows number ∧
    owned after.drawn number = owned before.drawn number
  check incoming log process := owned process.rows incoming.number = filed (routed log.reverse) ∧
    owned process.drawn incoming.number = generated (routed log.reverse)
  refl _ _ := ⟨rfl, rfl⟩
  trans _ _ _ _ first second := ⟨second.1.trans first.1, second.2.trans first.2⟩

variable {draw}

theorem inv_keep {process : ServingProcess} (h : (tracingContract draw).inv process)
    (number : Nat) (op : ServingCall) :
    (tracingContract draw).inv (process.keep number ⟨op, process.reply draw op⟩) := by
  have hother : generated (routed [⟨op, process.reply draw op⟩]) = [] →
      (tracingContract draw).inv (process.keep number ⟨op, process.reply draw op⟩) := by
    intro hnone
    show (process.drawn ++ _).map Prod.snd = (List.range (process.drawn ++ _).length).map draw
    rw [hnone, List.map_nil, List.append_nil]
    exact h
  cases op with
  | Route op =>
      cases op with
      | GenerateRequestId =>
          show (process.drawn ++ [(number, draw process.drawn.length)]).map Prod.snd =
            (List.range (process.drawn ++ [_]).length).map draw
          rw [List.map_append, List.length_append, List.length_singleton, List.range_succ,
            List.map_append]
          exact congrArg (· ++ [draw process.drawn.length]) h
      | Ask dependency => cases dependency <;> exact hother rfl
      | _ => exact hother rfl
  | _ => exact hother rfl

theorem tracingContract_call (incoming : Incoming) (log : ServingLog) (op : ServingCall)
    (process : ServingProcess) (hinv : (tracingContract draw).inv process)
    (hcheck : (tracingContract draw).check incoming log process) :
    (tracingContract draw).Guarantee incoming process (answer draw incoming op process).2 ∧
      (tracingContract draw).CheckedAfter incoming log op (answer draw incoming op process) := by
  refine ⟨⟨inv_keep hinv _ _, ?_⟩, ?_⟩
  · intro other hother
    have hne : incoming.number ≠ other := Ne.symm hother
    refine ⟨?_, ?_⟩
    · show owned (process.rows ++ _) other = _
      rw [owned_append, if_neg hne, List.append_nil]
    · show owned (process.drawn ++ _) other = _
      rw [owned_append, if_neg hne, List.append_nil]
  · refine ⟨?_, ?_⟩
    · show owned (process.rows ++ _) _ = filed (routed (_ :: log).reverse)
      rw [owned_append, if_pos rfl, List.reverse_cons, routed_append, filed_append, hcheck.1]
    · show owned (process.drawn ++ _) _ = generated (routed (_ :: log).reverse)
      rw [owned_append, if_pos rfl, List.reverse_cons, routed_append, generated_append, hcheck.2]

end Contracts

section Arrivals

-- The number of a request is its own, and the server has put nothing into its state.
def Arrives (pool : ServingPool) : Event Incoming Replies → Prop
  | .Spawn incoming => (∀ thread ∈ pool.threads, thread.request.number ≠ incoming.number) ∧
      incoming.http.stateRequestId = .None
  | .Step _ | .Environment _ => True

instance (pool : ServingPool) : DecidablePred (Arrives pool)
  | .Spawn incoming => inferInstanceAs (Decidable
      ((∀ thread ∈ pool.threads, thread.request.number ≠ incoming.number) ∧
        incoming.http.stateRequestId = .None))
  | .Step _ | .Environment _ => isTrue trivial

-- Nothing is filed and no id is drawn but for the requests of the pool.
structure Attributed (pool : ServingPool) : Prop where
  rows : ∀ row ∈ pool.shared.rows, row.1 ∈ (pool.threads.map Thread.request).map Incoming.number
  drawn : ∀ id ∈ pool.shared.drawn, id.1 ∈ (pool.threads.map Thread.request).map Incoming.number
  fresh : ∀ request ∈ pool.threads.map Thread.request, request.http.stateRequestId = .None

variable {python : Interpreter} {audited metrics : Bool} {draw : Nat → String}

theorem Attributed.step {pool : ServingPool} (h : Attributed pool)
    {event : Event Incoming Replies} (harrives : Arrives pool event) :
    Attributed ((application python audited metrics draw).step pool event) := by
  cases event with
  | Spawn incoming =>
      have hrequests : ((application python audited metrics draw).step pool
          (.Spawn incoming)).threads.map Thread.request =
          pool.threads.map Thread.request ++ [incoming] := List.map_append
      refine ⟨?_, ?_, ?_⟩
      all_goals rw [hrequests]
      · intro row hm
        rw [List.map_append]
        exact List.mem_append_left _ (h.rows row hm)
      · intro id hm
        rw [List.map_append]
        exact List.mem_append_left _ (h.drawn id hm)
      · exact List.forall_mem_append.mpr ⟨h.fresh, List.forall_mem_singleton.mpr harrives.2⟩
  | Environment replies => exact ⟨h.rows, h.drawn, h.fresh⟩
  | Step index =>
      have hrequests := (application python audited metrics draw).requests_step pool index
      rcases (application python audited metrics draw).step_cases pool index with hsame |
        ⟨actor, op, next, ha, hp, hs⟩
      · rw [hsame]
        exact h
      have hactor : actor.request.number ∈ (pool.threads.map Thread.request).map
          Incoming.number :=
        List.mem_map_of_mem (List.mem_map_of_mem (List.mem_of_getElem? ha))
      have hshared : ((application python audited metrics draw).step pool (.Step index)).shared =
          pool.shared.keep actor.request.number ⟨op, pool.shared.reply draw op⟩ := by
        rw [hs]
        exact actor.step_shared _ pool.shared op next hp
      refine ⟨?_, ?_, ?_⟩
      all_goals rw [hrequests]
      · intro row hm
        rw [hshared] at hm
        rcases List.mem_append.mp hm with hm | hm
        · exact h.rows row hm
        · obtain ⟨_, -, rfl⟩ := List.mem_map.mp hm
          exact hactor
      · intro id hm
        rw [hshared] at hm
        rcases List.mem_append.mp hm with hm | hm
        · exact h.drawn id hm
        · obtain ⟨_, -, rfl⟩ := List.mem_map.mp hm
          exact hactor
      · exact h.fresh

theorem attributed_exec {replies : Replies}
    {events : List (Event Incoming Replies)}
    (harrives : Admissible (application python audited metrics draw).step Arrives
      ⟨.idle replies, []⟩ events) :
    Attributed ((application python audited metrics draw).exec ⟨.idle replies, []⟩ events) :=
  exec_invariant (fun _ pool => Attributed pool)
    ⟨List.forall_mem_nil _, List.forall_mem_nil _, List.forall_mem_nil _⟩
    (fun _ _ _ h hok => h.step hok) events harrives

theorem tracingContract_poolSafe {replies : Replies}
    {events : List (Event Incoming Replies)}
    (harrives : Admissible (application python audited metrics draw).step Arrives
      ⟨.idle replies, []⟩ events) :
    (tracingContract draw).PoolSafe (application python audited metrics draw)
      (fun _ _ _ _ => True)
      ((application python audited metrics draw).exec ⟨.idle replies, []⟩ events) := by
  have hattributed := harrives.with_invariant Attributed
    ⟨List.forall_mem_nil _, List.forall_mem_nil _, List.forall_mem_nil _⟩
    fun pool event h hok => h.step hok
  refine Ownership.exec_poolSafe rfl rfl ?_ ?_ ?_ events hattributed
  · exact fun pool incoming h => h.1.1
  · rintro pool incoming ⟨⟨hfresh, -⟩, hknown⟩ hinv
    have hnew : incoming.number ∉ (pool.threads.map Thread.request).map Incoming.number := by
      intro hm
      rw [List.map_map] at hm
      obtain ⟨thread, hthread, hsame⟩ := List.mem_map.mp hm
      exact hfresh thread hthread hsame
    refine Ownership.Safe.of_calls ?_ ?_ ?_
    · exact fun log before after h hr => ⟨hr.1.trans h.1, hr.2.trans h.2⟩
    · exact fun log op now hinv hcheck => tracingContract_call incoming log op now hinv hcheck
    · refine ⟨?_, ?_⟩
      · apply List.eq_nil_iff_forall_not_mem.mpr
        exact fun row hm => hnew (hknown.rows _ (mem_owned.mp hm))
      · apply List.eq_nil_iff_forall_not_mem.mpr
        exact fun id hm => hnew (hknown.drawn _ (mem_owned.mp hm))
  · exact fun pool replies _ hinv => ⟨hinv, fun _ => ⟨rfl, rfl⟩⟩

end Arrivals

section Tracing

variable {python : Interpreter} {audited metrics : Bool} {draw : Nat → String}

-- A request that has made a call has its id, and what it has done begins a traced run.
theorem begun {thread : ServingThread} {process : ServingProcess}
    (hbegins : thread.Begins (application python audited metrics draw))
    (hcheck : (tracingContract draw).check thread.request thread.log process)
    (hinv : (tracingContract draw).inv process)
    (hvisible : ∀ n, Text.strip (draw n) ≠ "")
    (hfresh : thread.request.http.stateRequestId = .None) :
    thread.log = [] ∨ ∃ requestId rest, identifiers thread = [requestId] ∧
      Traced requestId (thread.log.reverse ++ rest) := by
  obtain ⟨rest, outcome, hrun⟩ := hbegins.exists_run fun op => process.reply draw op
  obtain ⟨requestId, tail, hlog, htraced⟩ := (serve_run hrun).traced hfresh
  cases hreverse : thread.log.reverse with
  | nil => exact .inl (List.reverse_eq_nil_iff.mp hreverse)
  | cons first earlier =>
      have hfirst : first = ⟨.Route .GenerateRequestId, requestId⟩ := by
        rw [hreverse] at hlog
        exact (List.cons.inj hlog).1
      have hmem : requestId ∈ identifiers thread := by
        unfold identifiers
        rw [hreverse, hfirst]
        exact .head _
      have hdrawn : requestId ∈ process.drawn.map Prod.snd := by
        have hown : requestId ∈ owned process.drawn thread.request.number := by
          rw [hcheck.2]
          exact hmem
        exact List.mem_map_of_mem (mem_owned.mp hown)
      have hstrip : Text.strip requestId ≠ "" := by
        rw [hinv] at hdrawn
        obtain ⟨n, -, rfl⟩ := List.mem_map.mp hdrawn
        exact hvisible n
      have htraced := htraced hstrip
      refine .inr ⟨requestId, rest, ?_, hreverse ▸ htraced⟩
      have hnamed := htraced.named
      rw [routed_append, generated_append] at hnamed
      unfold identifiers at hmem ⊢
      cases hids : generated (routed thread.log.reverse) with
      | nil =>
          rw [hids] at hmem
          cases hmem
      | cons id ids =>
          rw [hids] at hnamed
          obtain ⟨rfl, hnone⟩ := List.cons.inj hnamed
          rw [(List.append_eq_nil_iff.mp hnone).1]

theorem Traced.filing_of_prefix {requestId : String} {log rest : ServingLog}
    (h : Traced requestId (log ++ rest)) : Filing requestId (filed (routed log)) := by
  refine h.filing.of_prefix ?_
  rw [routed_append, filed_append]
  exact List.prefix_append _ _

theorem increment_isMetric {name : String} (op : ServingCall) (h : isIncrement name op = true) :
    isMetric op = true := by
  cases op with
  | Increment other tags => rfl
  | _ => cases h

theorem observation_isMetric {name : String} (op : ServingCall)
    (h : isObservation name op = true) : isMetric op = true := by
  cases op with
  | Observe other value tags => rfl
  | _ => cases h

-- The calls of the requests, all together, are what the recorder has been told.
theorem countP_metrics (p : ServingCall → Bool) (hmetric : ∀ op, p op = true → isMetric op = true)
    (replies : Replies) (events : List (Event Incoming Replies)) :
    ((application python audited metrics draw).exec
        ⟨.idle replies, []⟩ events).shared.metrics.countP p =
      (((application python audited metrics draw).exec ⟨.idle replies, []⟩ events).threads.map
        fun thread => thread.log.countP fun answer => p answer.1).sum := by
  have htally := @exec_total _ _ _ _ _ _ (fun answer : Answer serving => (p answer.1).toNat)
    (application python audited metrics draw) (fun process => process.metrics.countP p) ?_ ?_
    (fun _ _ => rfl) ⟨.idle replies, []⟩ rfl events
  · rw [htally]
    show 0 + _ = _
    rw [Nat.zero_add]
    unfold Pool.total
    congr 2
    funext thread
    exact sum_toNat (fun answer : Answer serving => p answer.1) thread.log
  · rintro incoming op process reply after ⟨⟩
    show (process.metrics ++ [op].filter isMetric).countP p = _
    rw [List.countP_append]
    congr 1
    cases hp : p op with
    | true =>
        rw [List.filter_singleton, hmetric op hp]
        simp [hp]
    | false =>
        cases hm : isMetric op <;> simp [hm, hp]
  · rintro incoming op process error after ⟨⟩

theorem toNat_any (p : α → Bool) {items : List α} (h : items.countP p ≤ 1) :
    items.countP p = (items.any p).toNat := by
  cases hany : items.any p with
  | false =>
      rw [List.countP_eq_zero.mpr (List.any_eq_false.mp hany)]
      rfl
  | true =>
      have hpos := List.countP_pos_iff.mpr (List.any_eq_true.mp hany)
      show items.countP p = 1
      omega

-- A request that has ended has made a whole run.
theorem finished_run {thread : ServingThread}
    (hbegins : thread.Begins (application python audited metrics draw))
    (hfinished : thread.finished) :
    ∃ outcome, ServeRun python audited metrics thread.request.endpoint thread.request.http
      thread.log.reverse outcome := by
  cases hp : thread.program with
  | Return value => exact ⟨_, serve_run (hbegins.finished hp)⟩
  | Raise error =>
      have hraised := hbegins [] (.error error) (by rw [hp]; exact ⟨rfl, rfl⟩)
      rw [List.append_nil] at hraised
      exact ⟨_, serve_run hraised⟩
  | Call op next => exact absurd hp (hfinished op next)

-- What a request has told the recorder by its end.
theorem finished_counts {thread : ServingThread}
    (hbegins : thread.Begins (application python audited true draw)) (hfinished : thread.finished)
    (htaken : ∀ answer ∈ thread.log, refused answer = false) :
    thread.log.countP (fun answer => isIncrement RUNTIME_REQUEST_COUNT_METRIC answer.1) =
        (calls thread isStart).toNat ∧
      thread.log.countP (fun answer => isObservation RUNTIME_REQUEST_LATENCY_METRIC answer.1) =
        (calls thread isStart).toNat ∧
      thread.log.countP (fun answer => isIncrement RUNTIME_REQUEST_ERROR_COUNT_METRIC answer.1) =
        (calls thread isFailedStart).toNat := by
  obtain ⟨outcome, hrun⟩ := finished_run hbegins hfinished
  obtain ⟨hrequests, hlatencies, herrors, hstarts, hfailures⟩ :=
    hrun.counted fun answer hm => htaken answer (List.mem_reverse.mp hm)
  simp only [List.countP_reverse] at hrequests hlatencies herrors hstarts hfailures
  rw [toNat_any _ hstarts] at hrequests hlatencies
  rw [toNat_any _ hfailures] at herrors
  exact ⟨hrequests, hlatencies, herrors⟩

theorem answers_application (python : Interpreter) (audited metrics : Bool) (draw : Nat → String) :
    (application python audited metrics draw).Answers := fun _ _ _ => ⟨_, rfl⟩

-- A response that has started has the id of its request, or one that an exception brought.
theorem Traced.returned_of_prefix {requestId : String} {log rest : ServingLog}
    (h : Traced requestId (log ++ rest)) {statusCode : Nat} {headers : List (String × String)}
    (hm : ⟨.Start statusCode headers, ()⟩ ∈ log)
    (hplain : ∀ dependency error, answered dependency (.error error) ∈ routed log → Plain error) :
    getHeader headers REQUEST_ID_HEADER = some requestId := by
  obtain ⟨before, after, rfl⟩ := List.append_of_mem hm
  apply h.returned before statusCode headers (after ++ rest)
  · rw [List.append_assoc, List.cons_append]
  · intro dependency error hbefore
    apply hplain dependency error
    rw [routed_append]
    exact List.mem_append_left _ hbefore

-- The rows under the id of a request are those that the request has filed.
theorem rowsUnder_eq {process : ServingProcess} {number : Nat} {requestId : String}
    (h : ∀ row ∈ process.rows, row.2.requestId = requestId ↔ row.1 = number) :
    process.rowsUnder requestId = owned process.rows number := by
  unfold ServingProcess.rowsUnder owned
  rw [List.filter_map]
  congr 1
  apply List.filter_congr
  intro row hm
  have hiff := h row hm
  rw [Bool.eq_iff_iff, Function.comp_apply, beq_iff_eq, beq_iff_eq]
  exact hiff

theorem requests_traceable (python : Interpreter) (audited metrics : Bool) (draw : Nat → String)
    (hdraw : Function.Injective draw) (hvisible : ∀ n, Text.strip (draw n) ≠ "")
    (replies : Replies) (events : List (Event Incoming Replies))
    (harrives : Admissible (application python audited metrics draw).step Arrives
      ⟨.idle replies, []⟩ events) :
    Traceable metrics
      ((application python audited metrics draw).exec ⟨.idle replies, []⟩ events) := by
  have hsafe := tracingContract_poolSafe harrives
  have hattributed := attributed_exec harrives
  have hcounts := fun p hmetric => @countP_metrics python audited metrics draw p hmetric replies
    events
  have hbegins : ∀ thread ∈ ((application python audited metrics draw).exec
      ⟨.idle replies, []⟩ events).threads,
      thread.Begins (application python audited metrics draw) :=
    begins_exec (answers_application python audited metrics draw) rfl events
  generalize (application python audited metrics draw).exec ⟨.idle replies, []⟩ events = pool
    at hsafe hattributed hcounts hbegins ⊢
  have hbegun : ∀ thread ∈ pool.threads, thread.log = [] ∨ ∃ requestId rest,
      identifiers thread = [requestId] ∧ Traced requestId (thread.log.reverse ++ rest) :=
    fun thread hm => begun (hbegins thread hm) (hsafe.check hm) hsafe.inv hvisible
      (hattributed.fresh _ (List.mem_map_of_mem hm))
  -- An id is drawn once, and so for one request.
  have hnodup : (pool.shared.drawn.map Prod.snd).Nodup := by
    rw [hsafe.inv]
    exact List.nodup_range.map hdraw
  have hsame : ∀ first ∈ pool.threads, ∀ second ∈ pool.threads, ∀ requestId ∈ identifiers first,
      requestId ∈ identifiers second → first.request.number = second.request.number := by
    intro first hfirst second hsecond requestId hm hm'
    have hentry : (first.request.number, requestId) ∈ pool.shared.drawn :=
      mem_owned.mp ((hsafe.check hfirst).2.symm ▸ hm)
    have hentry' : (second.request.number, requestId) ∈ pool.shared.drawn :=
      mem_owned.mp ((hsafe.check hsecond).2.symm ▸ hm')
    exact congrArg Prod.fst (List.inj_on_of_nodup_map hnodup hentry hentry' rfl)
  have hfiling : ∀ thread ∈ pool.threads, ∀ requestId ∈ identifiers thread,
      Filing requestId (filed (routed thread.log.reverse)) := by
    intro thread hm requestId hid
    rcases hbegun thread hm with hnil | ⟨other, rest, hids, htraced⟩
    · unfold identifiers at hid
      rw [hnil] at hid
      cases hid
    · rw [hids] at hid
      rw [List.mem_singleton.mp hid]
      exact htraced.filing_of_prefix
  have howner : ∀ row ∈ pool.shared.rows, ∃ thread ∈ pool.threads,
      thread.request.number = row.1 ∧ identifiers thread = [row.2.requestId] := by
    intro row hrow
    have hnumber := hattributed.rows row hrow
    rw [List.map_map] at hnumber
    obtain ⟨thread, hm, hsame⟩ := List.mem_map.mp hnumber
    have hnumber : thread.request.number = row.1 := hsame
    have hfiled : row.2 ∈ filed (routed thread.log.reverse) := by
      have hown : row.2 ∈ owned pool.shared.rows thread.request.number := by
        rw [hnumber]
        exact mem_owned.mpr hrow
      exact (hsafe.check hm).1 ▸ hown
    rcases hbegun thread hm with hnil | ⟨requestId, rest, hids, htraced⟩
    · rw [hnil] at hfiled
      cases hfiled
    · have hrequestId := htraced.filing_of_prefix.requestId_eq row.2 hfiled
      exact ⟨thread, hm, hnumber, hrequestId ▸ hids⟩
  refine ⟨?_, ?_, ?_, ?_, ?_, ?_⟩
  · intro i j first second hi hj requestId hm hm'
    exact hsafe.distinct i j first second hi hj (hsame first (List.mem_of_getElem? hi) second
      (List.mem_of_getElem? hj) requestId hm hm')
  · intro thread hm requestId hid
    have hrows : pool.shared.rowsUnder requestId = filed (routed thread.log.reverse) := by
      rw [← (hsafe.check hm).1]
      apply rowsUnder_eq
      intro row hrow
      obtain ⟨other, hother, hnumber, hids⟩ := howner row hrow
      rw [← hnumber]
      constructor
      · intro hrequestId
        apply hsame other hother thread hm requestId _ hid
        rw [hids, hrequestId]
        exact .head _
      · intro hequal
        have hfiled : row.2 ∈ filed (routed thread.log.reverse) := by
          rw [← (hsafe.check hm).1, ← hequal, hnumber]
          exact mem_owned.mpr hrow
        exact (hfiling thread hm requestId hid).requestId_eq row.2 hfiled
    rw [hrows]
    exact ⟨hfiling thread hm requestId hid, rfl⟩
  · intro row hrow
    obtain ⟨thread, hm, -, hids⟩ := howner row hrow
    exact ⟨thread, hm, hids⟩
  · intro thread hm statusCode headers hstart hplain
    rcases hbegun thread hm with hnil | ⟨requestId, rest, hids, htraced⟩
    · rw [hnil] at hstart
      cases hstart
    · refine ⟨requestId, hids, ?_⟩
      apply htraced.returned_of_prefix (List.mem_reverse.mpr hstart)
      intro dependency error herror
      apply hplain dependency error
      unfold routed at herror ⊢
      rw [List.filterMap_reverse] at herror
      exact List.mem_reverse.mp herror
  · intro thread hm hfinished
    obtain ⟨outcome, hrun⟩ := finished_run (hbegins thread hm) hfinished
    rw [← List.countP_reverse]
    exact hrun.answered
  · rintro rfl hfinished htaken
    have hended := fun thread hm =>
      finished_counts (hbegins thread hm) (hfinished thread hm) (htaken thread hm)
    refine ⟨?_, ?_, ?_⟩
    · rw [hcounts _ increment_isMetric, ← sum_toNat]
      exact congrArg List.sum (List.map_congr_left fun thread hm => (hended thread hm).1)
    · rw [hcounts _ observation_isMetric, ← sum_toNat]
      exact congrArg List.sum (List.map_congr_left fun thread hm => (hended thread hm).2.1)
    · rw [hcounts _ increment_isMetric, ← sum_toNat]
      exact congrArg List.sum (List.map_congr_left fun thread hm => (hended thread hm).2.2)

-- Ids that only grow.
def sampleDraw (n : Nat) : String := String.ofList (List.replicate (n + 1) 'r')

theorem sampleDraw_injective : Function.Injective sampleDraw := by
  intro first second h
  have hlists : List.replicate (first + 1) 'r' = List.replicate (second + 1) 'r' := by
    have h' := congrArg String.toList h
    simpa [sampleDraw] using h'
  have hlengths := congrArg List.length hlists
  simp only [List.length_replicate] at hlengths
  omega

theorem sampleDraw_visible (n : Nat) : Text.strip (sampleDraw n) ≠ "" := by
  intro h
  have hspace := (Text.strip_eq_empty_iff _).mp h 'r' (by simp [sampleDraw])
  exact absurd hspace (by decide)

-- The sample answers, with a recorder that takes what it is told.
def sampleReplies : Replies
  | .Route op => sampleEnvironment.reply op
  | .Increment _ _ | .Observe _ _ _ => .ok ()
  | .Warning _ | .Start _ _ | .ServerError => ()

-- A reply in one piece, a stream, a count and a body that is no JSON, call by call in turn.
def sampleTraffic : List (Event Incoming Replies) :=
  .Spawn ⟨0, .CreateMessage, sampleHttp false⟩ :: .Spawn ⟨1, .CreateMessage, sampleHttp true⟩ ::
    .Spawn ⟨2, .CountTokens, sampleHttp false⟩ ::
    .Spawn ⟨3, .CountTokens,
      { sampleHttp false with json := .error (.Raised "JSONDecodeError") }⟩ ::
    (List.replicate 22 [.Step 0, .Step 1, .Step 1, .Step 2]).flatten ++ List.replicate 3 (.Step 3)

theorem requests_traceable_sample :
    Traceable true ((application samplePython true true sampleDraw).exec
      ⟨.idle sampleReplies, []⟩ sampleTraffic) :=
  requests_traceable samplePython true true sampleDraw sampleDraw_injective sampleDraw_visible
    sampleReplies sampleTraffic (by decide)

end Tracing

end ClaudeCodeProxy.Observability
