import ClaudeCodeProxy.TokenService.HandlerRuns

-- What the Token Service handler answers, and what it counts, in every run of it.

namespace ClaudeCodeProxy

open Effects Python

namespace TokenServiceHandler

section Accounts

-- The calls that go to the user repository and to the issue service.
def asks : HandlerCall → Bool
  | .GetUserIdForUsername _ | .GetOrCreateKey _ _ => true
  | _ => false

def isIncrement (name : String) : HandlerCall → Bool
  | .Increment other _ => other == name
  | _ => false

def increments (name : String) (log : HandlerLog) : Nat :=
  (log.map Sigma.fst).countP (isIncrement name)

-- The issue service was asked for a key and returned one.
def KeyIssued (log : HandlerLog) : Prop :=
  ∃ userId requestId result,
    (⟨.GetOrCreateKey userId requestId, .ok result⟩ : Answer handlerCalls) ∈ log

-- The repository or the issue service raised the failure.
def RaisedIn (log : HandlerLog) (failure : Failure) : Prop :=
  (∃ username, (⟨.GetUserIdForUsername username, .error failure⟩ : Answer handlerCalls) ∈ log) ∨
    ∃ userId requestId,
      (⟨.GetOrCreateKey userId requestId, .error failure⟩ : Answer handlerCalls) ∈ log

theorem KeyRun.keyIssued_iff {event : Value} {requestId : String} {keyLog : HandlerLog}
    {issued : Except Failure TokenIssueResult} (h : KeyRun event requestId keyLog issued) :
    KeyIssued keyLog ↔ ∃ result, issued = .ok result := by
  constructor
  · rintro ⟨userId, other, result, hm⟩
    cases h with
    | Unidentified error hevent => cases hm
    | LookupFailed username error hevent => cases List.mem_singleton.mp hm
    | Unregistered username hevent => cases List.mem_singleton.mp hm
    | Asked username found reply hevent =>
        rcases List.mem_cons.mp hm with hfirst | hsecond
        · cases hfirst
        · cases List.mem_singleton.mp hsecond
          exact ⟨result, rfl⟩
  · rintro ⟨result, rfl⟩
    cases h with
    | Asked username userId reply hevent =>
        exact ⟨userId, requestId, result, .tail _ (List.mem_singleton.mpr rfl)⟩

theorem KeyRun.raised {event : Value} {requestId : String} {keyLog : HandlerLog}
    {issued : Except Failure TokenIssueResult} {failure : Failure}
    (h : KeyRun event requestId keyLog issued) (hraised : RaisedIn keyLog failure) :
    issued = .error failure := by
  cases h with
  | Unidentified error hevent => rcases hraised with ⟨_, hm⟩ | ⟨_, _, hm⟩ <;> cases hm
  | LookupFailed username error hevent =>
      rcases hraised with ⟨_, hm⟩ | ⟨_, _, hm⟩
      · cases List.mem_singleton.mp hm
        rfl
      · cases List.mem_singleton.mp hm
  | Unregistered username hevent =>
      rcases hraised with ⟨_, hm⟩ | ⟨_, _, hm⟩ <;> cases List.mem_singleton.mp hm
  | Asked username userId reply hevent =>
      rcases hraised with ⟨_, hm⟩ | ⟨_, _, hm⟩
      · rcases List.mem_cons.mp hm with hfirst | hsecond
        · cases hfirst
        · cases List.mem_singleton.mp hsecond
      · rcases List.mem_cons.mp hm with hfirst | hsecond
        · cases hfirst
        · cases List.mem_singleton.mp hsecond
          rfl

theorem KeyRun.not_increment {event : Value} {requestId : String} {keyLog : HandlerLog}
    {issued : Except Failure TokenIssueResult} (h : KeyRun event requestId keyLog issued)
    (name : String) : increments name keyLog = 0 := by
  cases h <;> rfl

theorem not_asks_of_mem_metricCalls {statusCode : Nat} {latencyMs : Int}
    {tokenSource : Option String} {op : HandlerCall}
    (hm : op ∈ metricCalls statusCode latencyMs tokenSource) : asks op = false := by
  have hall : (metricCalls statusCode latencyMs tokenSource).all (fun op => !asks op) = true := by
    unfold metricCalls errorCalls sourceCalls
    split_ifs <;> rfl
  simpa using List.all_eq_true.mp hall op hm

theorem count_errors (statusCode : Nat) (latencyMs : Int) (tokenSource : Option String) :
    (metricCalls statusCode latencyMs tokenSource).countP
      (isIncrement TOKEN_SERVICE_ERROR_COUNT_METRIC) = if 400 ≤ statusCode then 1 else 0 := by
  unfold metricCalls errorCalls sourceCalls
  split_ifs <;> rfl

theorem count_sources (statusCode : Nat) (latencyMs : Int) (tokenSource : Option String) :
    (metricCalls statusCode latencyMs tokenSource).countP
        (isIncrement TOKEN_SERVICE_CACHE_HIT_METRIC) +
      (metricCalls statusCode latencyMs tokenSource).countP
        (isIncrement TOKEN_SERVICE_CACHE_MISS_METRIC) = if tokenSource.isSome then 1 else 0 := by
  unfold metricCalls errorCalls sourceCalls
  by_cases hcache : tokenSource = some "cache"
  · subst hcache
    by_cases herror : 400 ≤ statusCode
    · rw [if_pos herror]
      rfl
    · rw [if_neg herror]
      rfl
  · rw [if_neg hcache]
    split_ifs <;> rfl

theorem RaisedIn.of_mem {log other : HandlerLog} {failure : Failure} (h : RaisedIn log failure)
    (hm : ∀ answer ∈ log, asks answer.1 = true → answer ∈ other) : RaisedIn other failure := by
  rcases h with ⟨username, h⟩ | ⟨userId, requestId, h⟩
  · exact .inl ⟨username, hm _ h rfl⟩
  · exact .inr ⟨userId, requestId, hm _ h rfl⟩

theorem KeyIssued.of_mem {log other : HandlerLog} (h : KeyIssued log)
    (hm : ∀ answer ∈ log, asks answer.1 = true → answer ∈ other) : KeyIssued other := by
  obtain ⟨userId, requestId, result, h⟩ := h
  exact ⟨userId, requestId, result, hm _ h rfl⟩

section Responded

variable {metrics : Bool} {event : Value} {requestId : String}
  {opening keyLog recorded closing : HandlerLog} {startedAt stoppedAt : Rat}
  {issued : Except Failure TokenIssueResult}

-- Only the guarded part of a run asks the repository and the issue service.
theorem mem_keyLog_of_asks {calls : List HandlerCall} {answer : Answer handlerCalls}
    (hopening : Opened event requestId opening) (hrecorded : recorded.map Sigma.fst = calls)
    (hcalls : ∀ op ∈ calls, asks op = false)
    (hclosing : ∀ op ∈ closing.map Sigma.fst, ∃ record, op = .Warning record)
    (hm : answer ∈ opening ++ ⟨.PerfCounter, startedAt⟩ ::
      (keyLog ++ ⟨.PerfCounter, stoppedAt⟩ :: (recorded ++ closing)))
    (hasks : asks answer.1 = true) : answer ∈ keyLog := by
  rcases List.mem_append.mp hm with hm | hm
  · rcases hopening with ⟨-, rfl⟩ | ⟨-, rfl⟩
    · cases hm
    · cases List.mem_singleton.mp hm
      cases hasks
  rcases List.mem_cons.mp hm with rfl | hm
  · cases hasks
  rcases List.mem_append.mp hm with hm | hm
  · exact hm
  rcases List.mem_cons.mp hm with rfl | hm
  · cases hasks
  rcases List.mem_append.mp hm with hm | hm
  · rw [hcalls _ (hrecorded ▸ List.mem_map_of_mem hm)] at hasks
    cases hasks
  · obtain ⟨record, hwarning⟩ := hclosing _ (List.mem_map_of_mem hm)
    rw [hwarning] at hasks
    cases hasks

-- Only the recorder counts.
theorem increments_responded (name : String) (hopening : Opened event requestId opening)
    (hkey : KeyRun event requestId keyLog issued)
    (hclosing : ∀ op ∈ closing.map Sigma.fst, ∃ record, op = .Warning record) :
    increments name (opening ++ ⟨.PerfCounter, startedAt⟩ ::
      (keyLog ++ ⟨.PerfCounter, stoppedAt⟩ :: (recorded ++ closing))) =
        increments name recorded := by
  have hopened : increments name opening = 0 := by
    rcases hopening with ⟨-, rfl⟩ | ⟨-, rfl⟩ <;> rfl
  have hguarded : increments name keyLog = 0 := hkey.not_increment name
  have hclosed : increments name closing = 0 := by
    refine List.countP_eq_zero.mpr fun op hm => ?_
    obtain ⟨record, rfl⟩ := hclosing op hm
    exact fun h => by cases h
  simp only [increments, List.map_append, List.map_cons, List.countP_append, List.countP_cons,
    isIncrement] at hopened hguarded hclosed ⊢
  simp only [hopened, hguarded, hclosed]
  simp

end Responded

end Accounts

-- `error.request_id` of a body.
def errorRequestId (body : Value) : Option String :=
  match (do (← body.get "error" (.Mapping [])).get "request_id" : Except Exception Value) with
  | .ok (.Str requestId) => some requestId
  | _ => none

theorem errorRequestId_envelope (error : ServiceError) :
    errorRequestId (buildErrorEnvelope error) = some error.requestId := rfl

-- The response to an event, with what was counted for it.
structure Answered (metrics : Bool) (event : Value) (log : HandlerLog)
    (outcome : Except Failure Response) (response : Response) : Prop where
  returned : outcome = .ok response
  headers : response.headers = [("Content-Type", "application/json")]
  issued : response.statusCode = 200 ↔ KeyIssued log
  unidentified : (∀ username, extractUsernameFromEvent event ≠ .ok username) →
    response.statusCode = 400
  unregistered : ∀ username,
    (⟨.GetUserIdForUsername username, .ok none⟩ : Answer handlerCalls) ∈ log →
      response.statusCode = 403
  serviceError : ∀ error, RaisedIn log (.ServiceError error) →
    response.statusCode = error.statusCode
  otherwise : ∀ failure, RaisedIn log failure → (∀ error, failure ≠ .ServiceError error) →
    response.statusCode = 500
  requestId : ¬KeyIssued log →
    ∃ requestId, errorRequestId response.body = some requestId ∧ requestId ≠ ""
  sources : metrics = true →
    increments TOKEN_SERVICE_CACHE_HIT_METRIC log + increments TOKEN_SERVICE_CACHE_MISS_METRIC log =
      if response.statusCode = 200 then 1 else 0
  errors : metrics = true →
    increments TOKEN_SERVICE_ERROR_COUNT_METRIC log = if 400 ≤ response.statusCode then 1 else 0

-- An error that says of itself what the handler then makes of it.
def Classifiable : Failure → Prop
  | .ServiceError error => error.statusCode ≠ 200 ∧ error.requestId ≠ ""
  | .IdentityResolutionError _ => False
  | _ => True

section Answers

-- Where an error of the guarded part comes from.
theorem KeyRun.error_cases {fields : List (String × Value)} {requestId : String}
    {keyLog : HandlerLog} {failure : Failure}
    (h : KeyRun (.Mapping fields) requestId keyLog (.error failure)) :
    (∃ message, failure = .IdentityResolutionError message ∧ keyLog = [] ∧
        ∀ username, extractUsernameFromEvent (.Mapping fields) ≠ .ok username) ∨
      (∃ username, extractUsernameFromEvent (.Mapping fields) = .ok username) ∧
        ((∃ details, failure = .ServiceError (userNotRegisteredError requestId details) ∧
          ¬∃ other, RaisedIn keyLog other) ∨ RaisedIn keyLog failure) := by
  cases h with
  | Unidentified error hevent =>
      rcases extractUsername_cases fields with ⟨message, hmessage⟩ | ⟨username, hok⟩
      · rw [hmessage] at hevent
        cases hevent
        refine .inl ⟨message, rfl, rfl, fun username hok => ?_⟩
        rw [hmessage] at hok
        cases hok
      · rw [hok] at hevent
        cases hevent
  | LookupFailed username error hevent =>
      exact .inr ⟨⟨username, hevent⟩, .inr (.inl ⟨username, List.mem_singleton.mpr rfl⟩)⟩
  | Unregistered username hevent =>
      refine .inr ⟨⟨username, hevent⟩, .inl ⟨_, rfl, ?_⟩⟩
      rintro ⟨other, ⟨_, hm⟩ | ⟨_, _, hm⟩⟩ <;> cases List.mem_singleton.mp hm
  | Asked username userId reply hevent =>
      exact .inr ⟨⟨username, hevent⟩,
        .inr (.inr ⟨userId, requestId, .tail _ (List.mem_singleton.mpr rfl)⟩)⟩

theorem KeyRun.unregistered {event : Value} {requestId username : String} {keyLog : HandlerLog}
    {issued : Except Failure TokenIssueResult} (h : KeyRun event requestId keyLog issued)
    (hm : (⟨.GetUserIdForUsername username, .ok none⟩ : Answer handlerCalls) ∈ keyLog) :
    (respond requestId issued).statusCode = 403 := by
  cases h with
  | Unidentified error hevent => cases hm
  | LookupFailed other error hevent => cases List.mem_singleton.mp hm
  | Unregistered other hevent => rfl
  | Asked other userId reply hevent =>
      rcases List.mem_cons.mp hm with hfirst | hsecond
      · cases hfirst
      · cases List.mem_singleton.mp hsecond

-- The response to an error, if the error is the handler's own or one that says what it is.
theorem respond_failure {fields : List (String × Value)} {requestId : String}
    {keyLog : HandlerLog} {failure : Failure} (hid : requestId ≠ "")
    (h : KeyRun (.Mapping fields) requestId keyLog (.error failure))
    (hclass : ∀ other, RaisedIn keyLog other → Classifiable other) :
    (respond requestId (.error failure)).statusCode ≠ 200 ∧
      ∃ errorId, errorRequestId (respond requestId (.error failure)).body = some errorId ∧
        errorId ≠ "" := by
  rcases h.error_cases with ⟨message, rfl, -, -⟩ | ⟨-, ⟨details, rfl, -⟩ | hraised⟩
  · exact ⟨(by decide : (400 : Nat) ≠ 200), requestId, rfl, hid⟩
  · exact ⟨(by decide : (403 : Nat) ≠ 200), requestId, rfl, hid⟩
  · have hclassifiable := hclass failure hraised
    cases failure with
    | ServiceError error => exact ⟨hclassifiable.1, error.requestId, rfl, hclassifiable.2⟩
    | IdentityResolutionError message => exact hclassifiable.elim
    | _ => exact ⟨(by decide : (500 : Nat) ≠ 200), requestId, rfl, hid⟩

theorem respond_unidentified {fields : List (String × Value)} {requestId : String}
    {keyLog : HandlerLog} {issued : Except Failure TokenIssueResult}
    (h : KeyRun (.Mapping fields) requestId keyLog issued)
    (hnone : ∀ username, extractUsernameFromEvent (.Mapping fields) ≠ .ok username) :
    (respond requestId issued).statusCode = 400 := by
  cases h with
  | Unidentified error hevent =>
      rcases extractUsername_cases fields with ⟨message, hmessage⟩ | ⟨username, hok⟩
      · rw [hmessage] at hevent
        cases hevent
        rfl
      · exact absurd hok (hnone username)
  | LookupFailed username error hevent => exact absurd hevent (hnone username)
  | Unregistered username hevent => exact absurd hevent (hnone username)
  | Asked username userId reply hevent => exact absurd hevent (hnone username)

-- The id of a request whose event can be read is never empty.
theorem Opened.requestId_ne {fields : List (String × Value)} {requestId : String}
    {opening : HandlerLog} (h : Opened (.Mapping fields) requestId opening)
    (hreadable : ReadableContext fields)
    (hgenerated : ∀ generated, (⟨.GenerateRequestId, generated⟩ : Answer handlerCalls) ∈ opening →
      generated ≠ "") : requestId ≠ "" := by
  rcases h with ⟨hfound, -⟩ | ⟨-, rfl⟩
  · obtain ⟨found, hread, hne⟩ := requestIdIn_readable hreadable
    rw [hread] at hfound
    cases hfound
    exact fun hempty => hne (congrArg some hempty)
  · exact hgenerated requestId (List.mem_singleton.mpr rfl)

theorem statusCode_eq_200_iff {fields : List (String × Value)} {requestId : String}
    {keyLog : HandlerLog} {issued : Except Failure TokenIssueResult} (hid : requestId ≠ "")
    (h : KeyRun (.Mapping fields) requestId keyLog issued)
    (hclass : ∀ other, RaisedIn keyLog other → Classifiable other) :
    (respond requestId issued).statusCode = 200 ↔ KeyIssued keyLog := by
  rw [h.keyIssued_iff]
  cases issued with
  | ok result => exact ⟨fun _ => ⟨result, rfl⟩, fun _ => rfl⟩
  | error failure =>
      constructor
      · exact fun h200 => absurd h200 (respond_failure hid h hclass).1
      · rintro ⟨result, hok⟩
        cases hok

theorem respond_headers (requestId : String) (issued : Except Failure TokenIssueResult) :
    (respond requestId issued).headers = [("Content-Type", "application/json")] := by
  cases issued with
  | ok result => rfl
  | error failure => cases failure <;> rfl

-- The accounts of the recorder, if there is one.
theorem sources_responded {requestId : String} {recorded : HandlerLog} {latencyMs : Int}
    {issued : Except Failure TokenIssueResult}
    (hrecorded : recorded.map Sigma.fst =
      metricCalls (respond requestId issued).statusCode latencyMs (tokenSource issued))
    (h200 : (respond requestId issued).statusCode = 200 ↔ ∃ result, issued = .ok result) :
    increments TOKEN_SERVICE_CACHE_HIT_METRIC recorded +
        increments TOKEN_SERVICE_CACHE_MISS_METRIC recorded =
      if (respond requestId issued).statusCode = 200 then 1 else 0 := by
  rw [increments, increments, hrecorded, count_sources]
  cases issued with
  | ok result => rfl
  | error failure =>
      have hne : ¬(respond requestId (.error failure)).statusCode = 200 := by
        rw [h200]
        rintro ⟨result, hok⟩
        cases hok
      rw [if_neg hne]
      rfl

variable {metrics : Bool} {fields : List (String × Value)} {requestId : String}
  {opening keyLog recorded log : HandlerLog} {issued : Except Failure TokenIssueResult}
  {response : Response}

theorem classifiable_of_answered (hopening : Opened (.Mapping fields) requestId opening)
    (hkey : KeyRun (.Mapping fields) requestId keyLog issued)
    (hsub : ∀ answer ∈ log, asks answer.1 = true → answer ∈ keyLog)
    (h : Answered metrics (.Mapping fields) log (.ok (respond requestId issued)) response) :
    ReadableContext fields ∧ ∀ failure, RaisedIn log failure → Classifiable failure := by
  cases h.returned
  refine ⟨?_, fun failure hraised => ?_⟩
  · by_contra hunreadable
    have hescaped := requestIdIn_unreadable hunreadable
    rcases hopening with ⟨hfound, -⟩ | ⟨hfound, -⟩
    · rw [hescaped] at hfound
      cases hfound
    · rw [hescaped] at hfound
      cases hfound
  · cases hkey.raised (hraised.of_mem hsub)
    have hnokey : ¬KeyIssued log := fun hissued => by
      obtain ⟨result, hok⟩ := hkey.keyIssued_iff.mp (hissued.of_mem hsub)
      cases hok
    cases failure with
    | ServiceError error =>
        refine ⟨fun h200 => hnokey (h.issued.mp h200), ?_⟩
        obtain ⟨errorId, hread, hne⟩ := h.requestId hnokey
        cases (errorRequestId_envelope error).symm.trans hread
        exact hne
    | IdentityResolutionError message => cases h.otherwise _ hraised fun error h => by cases h
    | _ => trivial

theorem answered_of_classifiable {latencyMs : Int} (hid : requestId ≠ "")
    (hkey : KeyRun (.Mapping fields) requestId keyLog issued)
    (hsub : ∀ answer ∈ log, asks answer.1 = true → answer ∈ keyLog)
    (hsup : ∀ answer ∈ keyLog, asks answer.1 = true → answer ∈ log)
    (hcounts : ∀ name, increments name log = increments name recorded)
    (hrecorded : recorded.map Sigma.fst =
      if metrics then
        metricCalls (respond requestId issued).statusCode latencyMs (tokenSource issued)
      else [])
    (hclassifiable : ∀ failure, RaisedIn log failure → Classifiable failure) :
    Answered metrics (.Mapping fields) log (.ok (respond requestId issued))
      (respond requestId issued) := by
  have hclass : ∀ other, RaisedIn keyLog other → Classifiable other := fun other hraised =>
    hclassifiable other (hraised.of_mem hsup)
  have h200 := statusCode_eq_200_iff hid hkey hclass
  refine {
    returned := rfl
    headers := respond_headers requestId issued
    issued := h200.trans ⟨fun h => h.of_mem hsup, fun h => h.of_mem hsub⟩
    unidentified := respond_unidentified hkey
    unregistered := fun username hm => hkey.unregistered (hsub _ hm rfl)
    serviceError := ?_
    otherwise := ?_
    requestId := ?_
    sources := ?_
    errors := ?_ }
  · intro error hraised
    cases hkey.raised (hraised.of_mem hsub)
    rfl
  · intro failure hraised hother
    cases hkey.raised (hraised.of_mem hsub)
    have hclassified := hclassifiable failure hraised
    cases failure with
    | ServiceError error => exact absurd rfl (hother error)
    | IdentityResolutionError message => exact hclassified.elim
    | _ => rfl
  · intro hnokey
    cases hissued : issued with
    | ok result => exact absurd ((hkey.keyIssued_iff.mpr ⟨result, hissued⟩).of_mem hsup) hnokey
    | error failure =>
        subst hissued
        exact (respond_failure hid hkey hclass).2
  · intro hmetrics
    rw [hmetrics, if_pos rfl] at hrecorded
    rw [hcounts, hcounts]
    exact sources_responded hrecorded (h200.trans hkey.keyIssued_iff)
  · intro hmetrics
    rw [hmetrics, if_pos rfl] at hrecorded
    rw [hcounts, increments, hrecorded, count_errors]

end Answers

theorem handleRecorded_answers_iff (metrics : Bool) (fields : List (String × Value))
    (log : HandlerLog) (outcome : Except Failure Response)
    (hrun : (handleRecorded metrics (.Mapping fields)).Traces log outcome)
    (hgenerated : ∀ requestId,
      (⟨.GenerateRequestId, requestId⟩ : Answer handlerCalls) ∈ log → requestId ≠ "") :
    (∃ response, Answered metrics (.Mapping fields) log outcome response) ↔
      ReadableContext fields ∧ ∀ failure, RaisedIn log failure → Classifiable failure := by
  cases handleRecorded_run hrun with
  | Escaped exception hevent =>
      constructor
      · rintro ⟨response, hanswered⟩
        cases hanswered.returned
      · rintro ⟨hreadable, -⟩
        obtain ⟨found, hread, -⟩ := requestIdIn_readable hreadable
        rw [hread] at hevent
        cases hevent
  | Responded requestId opening keyLog recorded closing startedAt stoppedAt issued hopening hkey
      hrecorded hclosing =>
      have hcalls : ∀ op ∈ (if metrics then metricCalls (respond requestId issued).statusCode
          (latencyMs startedAt stoppedAt) (tokenSource issued) else []), asks op = false := by
        intro op hm
        split at hm
        · exact not_asks_of_mem_metricCalls hm
        · cases hm
      have hsub : ∀ answer ∈ opening ++ ⟨.PerfCounter, startedAt⟩ ::
          (keyLog ++ ⟨.PerfCounter, stoppedAt⟩ :: (recorded ++ closing)),
          asks answer.1 = true → answer ∈ keyLog := fun answer hm hasks =>
        mem_keyLog_of_asks hopening hrecorded hcalls hclosing hm hasks
      constructor
      · rintro ⟨response, hanswered⟩
        exact classifiable_of_answered hopening hkey hsub hanswered
      · rintro ⟨hreadable, hclassifiable⟩
        have hid : requestId ≠ "" := hopening.requestId_ne hreadable fun generated hm =>
          hgenerated generated (List.mem_append_left _ hm)
        exact ⟨_, answered_of_classifiable hid hkey hsub
          (fun answer hm _ => List.mem_append_right _ (.tail _ (List.mem_append_left _ hm)))
          (fun name => increments_responded name hopening hkey hclosing) hrecorded hclassifiable⟩

-- An object whose `requestContext` is null gets no response at all.
theorem handleRecorded_null_context :
    ∃ log outcome, (handleRecorded true (.Mapping [("requestContext", .None)])).Traces log outcome ∧
      outcome = .error (.Raised "AttributeError") ∧
      ¬∃ response, Answered true (.Mapping [("requestContext", .None)]) log outcome response := by
  refine ⟨[], _, ⟨rfl, rfl⟩, rfl, ?_⟩
  rintro ⟨response, hanswered⟩
  cases hanswered.returned

-- A registered caller who gets a key from the cache.
def sampleHandlerReply : (op : HandlerCall) → op.Reply
  | .GenerateRequestId => "request-1"
  | .PerfCounter => (0 : Rat)
  | .GetUserIdForUsername _ => .ok (some "user-1")
  | .GetOrCreateKey userId _ => .ok {
      virtualKey := "vk_first"
      userId := userId
      keyId := "key-1"
      keyPrefix := "vk_first"
      status := .Active
      source := .Cache }
  | .Increment _ _ | .Observe _ _ _ | .Warning _ => ()

def sampleEventFields : List (String × Value) := [("requestContext", .Mapping [
  ("identity", .Mapping [("userArn", .Str "arn:aws:sts::123456789012:assumed-role/Dev/alice")])])]

theorem handleRecorded_answers_sample :
    ∃ response, Answered true (.Mapping sampleEventFields)
      ((handleRecorded true (.Mapping sampleEventFields)).record sampleHandlerReply).1
      ((handleRecorded true (.Mapping sampleEventFields)).record sampleHandlerReply).2 response := by
  have hreply := Program.mem_record (handleRecorded true (.Mapping sampleEventFields))
    sampleHandlerReply
  refine (handleRecorded_answers_iff true sampleEventFields _ _ (Program.traces_record _ _)
    fun requestId hm => ?_).mpr ⟨fun context hcontext => ?_, fun failure hraised => ?_⟩
  · have hid : requestId = "request-1" := hreply _ hm
    have hne : ("request-1" : String) ≠ "" := by decide
    exact fun hempty => hne (hid.symm.trans hempty)
  · cases hcontext
    rfl
  · rcases hraised with ⟨username, hm⟩ | ⟨userId, requestId, hm⟩
    · cases hreply _ hm
    · cases hreply _ hm

end TokenServiceHandler

end ClaudeCodeProxy
