import ClaudeCodeProxy.Api.FailClosed
import ClaudeCodeProxy.Api.UserGate
import ClaudeCodeProxy.Effects.Threads
import ClaudeCodeProxy.Proxy.RateCounts
import Mathlib.Data.List.Perm.Subperm

-- Requests side by side in one process, which share a rate limiter.

namespace ClaudeCodeProxy

open Effects Python

-- The calls that a model answers.
def isInvocation : RuntimeCall → Bool
  | .Ask (.Converse _) | .Ask (.ConverseStream _) => true
  | _ => false

-- What is sent to Bedrock.
def sentRequest? : RuntimeCall → Option ConverseRequest
  | .Ask (.Converse request) | .Ask (.ConverseStream request) | .Ask (.CountTokens request) =>
      some request
  | _ => none

def rateCheck? : Answer runtime → Option (String × RateLimitDecision)
  | ⟨.Ask (.CheckRateLimit userId), .ok decision⟩ => some (userId, decision)
  | _ => none

def rateChecks (log : Log) : List (String × RateLimitDecision) := log.filterMap rateCheck?

section Logs

-- The limiter is asked at most once, and a model is invoked only for a user that was
-- authenticated and that the limiter has let pass, before.
structure Metered (log : Log) : Prop where
  once : (rateChecks log).length ≤ 1
  passed : ∀ before invocation after, log = before ++ invocation :: after →
    isInvocation invocation.1 = true →
    ∃ authorization requestId authenticated user decision,
      answered (.Authenticate authorization requestId) (.ok authenticated) ∈ before ∧
      raising authenticated.user = .ok user ∧ decision.allowed = true ∧
      rateChecks before = [(user.userId, decision)]

theorem isBedrockCall_of_isInvocation {op : RuntimeCall} (h : isInvocation op = true) :
    isBedrockCall op = true := by
  cases op with
  | Ask dependency =>
      cases dependency with
      | Converse _ => rfl
      | ConverseStream _ => rfl
      | _ => cases h
  | _ => cases h

theorem isBedrockCall_of_sent {op : RuntimeCall} {request : ConverseRequest}
    (h : sentRequest? op = some request) : isBedrockCall op = true := by
  cases op with
  | Ask dependency =>
      cases dependency with
      | Converse _ => rfl
      | ConverseStream _ => rfl
      | CountTokens _ => rfl
      | _ => cases h
  | _ => cases h

theorem isStage_of_isBedrockCall {op : RuntimeCall} (h : isBedrockCall op = true) :
    isStage op = true := by
  cases op with
  | Ask dependency => cases dependency <;> first | rfl | cases h
  | _ => cases h

theorem rateChecks_stages (log : Log) : rateChecks (stages log) = rateChecks log := by
  unfold rateChecks stages
  rw [List.filterMap_filter]
  congr 1
  funext answer
  rcases answer with ⟨op, reply⟩
  cases op with
  | Ask dependency => cases dependency <;> rfl
  | _ => rfl

-- The gates and the calls of Bedrock tell whether a request is metered.
theorem Metered.of_stages {log : Log} (h : Metered (stages log)) : Metered log := by
  refine ⟨?_, ?_⟩
  · rw [← rateChecks_stages]
    exact h.once
  intro before invocation after hlog hinvocation
  have hstages : stages log = stages before ++ invocation :: stages after := by
    have hstage := isStage_of_isBedrockCall (isBedrockCall_of_isInvocation hinvocation)
    rw [hlog, stages_append, stages_cons, if_pos hstage]
  obtain ⟨authorization, requestId, authenticated, user, decision, hmem, huser, hallowed,
    hchecks⟩ := h.passed _ _ _ hstages hinvocation
  refine ⟨authorization, requestId, authenticated, user, decision, ?_, huser, hallowed, ?_⟩
  · exact (List.mem_filter.mp hmem).1
  · rw [← rateChecks_stages]
    exact hchecks

theorem metered_of_quiet {log reached : Log} (hstages : stages log = reached)
    (hchecks : (rateChecks reached).length ≤ 1)
    (hquiet : reached.all (fun answer => !isInvocation answer.1) = true) : Metered log := by
  apply Metered.of_stages
  rw [hstages]
  refine ⟨hchecks, ?_⟩
  intro before invocation after hlog hinvocation
  have hother := List.all_eq_true.mp hquiet invocation (by rw [hlog]; simp)
  rw [hinvocation] at hother
  cases hother

-- A call after an admission.
theorem metered_of_admitted {log : Log} (reached : Log) {authorization : Option String}
    {requestId : String} {authenticated : AuthenticatedRequestContext} {user : UserContext}
    {decision : RateLimitDecision} {invocation : Answer runtime}
    (hstages : stages log = reached ++ [invocation])
    (hmem : answered (.Authenticate authorization requestId) (.ok authenticated) ∈ reached)
    (huser : raising authenticated.user = .ok user) (hallowed : decision.allowed = true)
    (hchecks : rateChecks reached = [(user.userId, decision)])
    (hquiet : reached.all (fun answer => !isInvocation answer.1) = true)
    (hlast : rateCheck? invocation = none) : Metered log := by
  apply Metered.of_stages
  rw [hstages]
  refine ⟨?_, ?_⟩
  · unfold rateChecks at hchecks ⊢
    rw [List.filterMap_append, hchecks]
    simp [hlast]
  intro before other after hlog hinvocation
  have hbefore : before = reached := by
    rcases List.append_eq_append_iff.mp hlog with ⟨tail, hbefore, htail⟩ | ⟨tail, hsplit, htail⟩
    · cases tail with
      | nil => rw [hbefore, List.append_nil]
      | cons answer tail => cases tail <;> cases htail
    · cases tail with
      | nil => rw [hsplit, List.append_nil]
      | cons answer tail =>
          cases htail
          have hother := List.all_eq_true.mp hquiet other (by rw [hsplit]; simp)
          rw [hinvocation] at hother
          cases hother
  rw [hbefore]
  exact ⟨authorization, requestId, authenticated, user, decision, hmem, huser, hallowed, hchecks⟩

theorem Metered.append_quiet {first second : Log} (h : Metered first)
    (hquiet : stages second = []) : Metered (first ++ second) := by
  have hnone : rateChecks second = [] := by
    rw [← rateChecks_stages, hquiet]
    rfl
  refine ⟨?_, ?_⟩
  · have honce := h.once
    unfold rateChecks at honce hnone ⊢
    rw [List.filterMap_append, hnone, List.append_nil]
    exact honce
  intro before invocation after hlog hinvocation
  have hstage := isStage_of_isBedrockCall (isBedrockCall_of_isInvocation hinvocation)
  rcases List.append_eq_append_iff.mp hlog with ⟨tail, -, htail⟩ | ⟨tail, hsplit, htail⟩
  · have hmem : invocation ∈ stages second := by
      refine List.mem_filter.mpr ⟨?_, hstage⟩
      rw [htail]
      simp
    rw [hquiet] at hmem
    cases hmem
  · cases tail with
    | nil =>
        have hmem : invocation ∈ stages second := by
          refine List.mem_filter.mpr ⟨?_, hstage⟩
          rw [← List.nil_append second, ← htail]
          exact .head _
        rw [hquiet] at hmem
        cases hmem
    | cons other tail =>
        cases htail
        exact h.passed before invocation tail hsplit hinvocation

end Logs

section Runs

variable {python : Interpreter} {audited : Bool} {http : HttpRequest}

-- Either the request cannot be built, or a model is invoked right after it has been.
theorem InvocationRun.reached {admission : Admission} {log : Log}
    {outcome : Except Failure MessageResponse}
    (h : InvocationRun python audited admission log outcome) :
    (∃ error, log = [answered (.BuildConverseRequest admission.body admission.resolvedModel)
      (.error error)]) ∨
    ∃ converseRequest invocation, rateCheck? invocation = none ∧
      sentRequest? invocation.1 = some converseRequest ∧
      ClaudeCodeProxy.stages log =
        [answered (.BuildConverseRequest admission.body admission.resolvedModel)
          (.ok converseRequest), invocation] := by
  rcases h.stages with hnone | ⟨converseRequest, invocation, hcall, hstages⟩
  · cases h with
    | BuildRaised error => exact .inl ⟨error, rfl⟩
    | _ => cases hnone
  · refine .inr ⟨converseRequest, invocation, ?_, ?_, hstages⟩
    · rcases invocation with ⟨op, reply⟩
      rcases hcall with rfl | rfl <;> rfl
    · rcases hcall with hcall | hcall <;> rw [hcall] <;> rfl

-- The gates that a request has come to, and the call of a model behind them.
structure Invoking (body : Value) (authenticated : AuthenticatedRequestContext) (reached : Log)
    (invocation : Answer runtime) : Prop where
  checked : ∃ user decision, raising authenticated.user = .ok user ∧ decision.allowed = true ∧
    rateChecks reached = [(user.userId, decision)]
  built : ∃ resolvedModel converseRequest, sentRequest? invocation.1 = some converseRequest ∧
    answered (.BuildConverseRequest body resolvedModel) (.ok converseRequest) ∈ reached
  unchecked : rateCheck? invocation = none

theorem PipelineRun.reached {body : Value} {requestId : String} {startedAt : Rat}
    {authenticated : AuthenticatedRequestContext} {tail : Log}
    {outcome : Except Failure MessageResponse}
    (h : PipelineRun python audited body requestId startedAt authenticated tail outcome) :
    ∃ reached, reached.all (fun answer => !isBedrockCall answer.1) = true ∧
      (ClaudeCodeProxy.stages tail = reached ∧ (rateChecks reached).length ≤ 1 ∨
        ∃ invocation, ClaudeCodeProxy.stages tail = reached ++ [invocation] ∧
          Invoking body authenticated reached invocation) := by
  cases h with
  | PolicyDenied model resolvedModel policyDecision record outcome hmodel hdenied hrecord =>
      exact ⟨[_, _], rfl, .inl ⟨congrArg (fun rest => _ :: _ :: rest) hrecord.stages.1,
        Nat.zero_le 1⟩⟩
  | QuotaDenied model resolvedModel policyDecision quotaDecision record outcome hmodel hpolicy
      hdenied hrecord =>
      exact ⟨[_, _, _], rfl, .inl ⟨congrArg (fun rest => _ :: _ :: _ :: rest) hrecord.stages.1,
        Nat.zero_le 1⟩⟩
  | RateDenied model resolvedModel policyDecision quotaDecision user rateLimitDecision record
      outcome hmodel hpolicy hquota huser hdenied hrecord =>
      exact ⟨[_, _, _, _], rfl,
        .inl ⟨congrArg (fun rest => _ :: _ :: _ :: _ :: rest) hrecord.stages.1, le_refl 1⟩⟩
  | Admitted admission user rateLimitDecision tail outcome hbody hid hstart hauthenticated hmodel
      hpolicy hquota huser hrate hinvocation =>
      subst hbody
      rcases hinvocation.reached with ⟨error, rfl⟩ |
        ⟨converseRequest, invocation, hcall, hsent, hstages⟩
      · exact ⟨_, rfl, .inl ⟨rfl, le_refl 1⟩⟩
      · exact ⟨[_, _, _, _, _], rfl, .inr ⟨invocation,
          congrArg (fun rest => _ :: _ :: _ :: _ :: rest) hstages,
          ⟨user, rateLimitDecision, huser, hrate, rfl⟩,
          ⟨admission.resolvedModel, converseRequest, hsent,
            .tail _ (.tail _ (.tail _ (.tail _ (.head _))))⟩, hcall⟩⟩
  | _ => exact ⟨_, rfl, .inl ⟨rfl, Nat.zero_le 1⟩⟩

theorem quiet_of_reached {reached : Log}
    (h : reached.all (fun answer => !isBedrockCall answer.1) = true) :
    reached.all (fun answer => !isInvocation answer.1) = true := by
  refine List.all_eq_true.mpr fun answer hm => ?_
  have hother := List.all_eq_true.mp h answer hm
  cases hinvocation : isInvocation answer.1 with
  | false => rfl
  | true =>
      rw [isBedrockCall_of_isInvocation hinvocation] at hother
      cases hother

-- A request that is authenticated has its gates behind the authentication.
theorem stages_authenticated {idLog tail : Log} {requestId : String} {startedAt : Rat}
    {reply : Except Failure AuthenticatedRequestContext} (hid : RequestIdRun http idLog requestId) :
    stages (idLog ++ ⟨.PerfCounter, startedAt⟩ ::
      answered (.Authenticate http.authorization requestId) reply :: tail) =
        answered (.Authenticate http.authorization requestId) reply :: stages tail := by
  rw [stages_append, hid.quiet.1]
  rfl

theorem MessageRun.metered {log : Log} {outcome : Except Failure MessageResponse}
    (h : MessageRun python audited http log outcome) : Metered log := by
  rcases h.split with ⟨body, idLog, tail, requestId, startedAt, authenticated, result, -, hid, rfl,
      -, hpipeline⟩ | ⟨error, -, rfl⟩ |
    ⟨body, idLog, record, requestId, startedAt, error, -, hid, rfl, hrecord, -⟩
  · obtain ⟨reached, hquiet, ⟨hreached, hchecks⟩ | ⟨invocation, hreached, hinvoking⟩⟩ :=
      hpipeline.reached
    · refine metered_of_quiet (stages_authenticated hid) ?_ ?_
      all_goals rw [hreached]
      · exact hchecks
      · exact quiet_of_reached hquiet
    · obtain ⟨user, decision, huser, hallowed, hchecks⟩ := hinvoking.checked
      have hstages := @stages_authenticated http idLog tail requestId startedAt (.ok authenticated)
        hid
      rw [hreached] at hstages
      exact metered_of_admitted (_ :: reached) hstages (.head _) huser hallowed hchecks
        (quiet_of_reached hquiet) hinvoking.unchecked
  · exact metered_of_quiet rfl (Nat.zero_le 1) rfl
  · have hstages := @stages_authenticated http idLog record requestId startedAt (.error error) hid
    rw [hrecord] at hstages
    exact metered_of_quiet hstages (Nat.zero_le 1) rfl

theorem ServedRun.metered {log : Log} {outcome : Except Failure MessageResponse}
    (h : ServedRun python audited http log outcome) : Metered log := by
  cases h with
  | Raised log error hcreate => exact hcreate.metered
  | Json log response hcreate => exact hcreate.metered
  | Streamed created streamed stream ending hcreate hstream =>
      exact hcreate.metered.append_quiet (streamWithAudit_stages hstream).1

-- `count_tokens` asks for no allowance, and invokes no model.
theorem CountRun.metered {log : Log} {outcome : Except Failure MessageResponse}
    (h : CountRun python http log outcome) : Metered log := by
  rcases h.split with ⟨error, -, rfl⟩ | ⟨body, idLog, tail, requestId, result, -, hid, rfl, htail⟩
  · exact metered_of_quiet rfl (Nat.zero_le 1) rfl
  · have hstages : stages (idLog ++ tail) = stages tail := by
      rw [stages_append, hid.quiet.1, List.nil_append]
    cases htail with
    | _ => exact metered_of_quiet hstages (Nat.zero_le 1) rfl

end Runs

section Servers

-- A request at the proxy. The number is its own.
structure Incoming where
  number : Nat
  endpoint : Endpoint
  http : HttpRequest

-- A call of the limiter with its answer, and the request that made it.
structure RateEntry where
  number : Nat
  check : RateCheck
  decision : RateLimitDecision

-- The process: its limiter with the clock and the calls so far, and what the other
-- collaborators answer next.
structure ProxyProcess where
  clock : Int
  rateLimiter : InMemoryRateLimiter
  entries : List RateEntry
  replies : (op : RuntimeCall) → op.Reply

inductive Shift
  | Tick (elapsed : Nat)
  | Replies (replies : (op : RuntimeCall) → op.Reply)

def Shift.apply : Shift → ProxyProcess → ProxyProcess
  | .Tick elapsed, process => { process with clock := process.clock + elapsed }
  | .Replies replies, process => { process with replies }

def ProxyProcess.checkRateLimit (process : ProxyProcess) (number : Nat) (userId : String) :
    RateLimitDecision × ProxyProcess :=
  let answer := process.rateLimiter.check process.clock userId
  (answer.1,
    { process with
      rateLimiter := answer.2
      entries := process.entries ++ [⟨number, ⟨process.clock, userId⟩, answer.1⟩] })

def Incoming.handler (incoming : Incoming) : Handler runtime Failure ProxyProcess
  | .Ask (.CheckRateLimit userId), process =>
      (.ok (.ok (process.checkRateLimit incoming.number userId).1),
        (process.checkRateLimit incoming.number userId).2)
  | op, process => (.ok (process.replies op), process)

variable (python : Interpreter) (audited : Bool)

def Incoming.program (incoming : Incoming) : Runtime MessageResponse :=
  match incoming.endpoint with
  | .CreateMessage => serveMessage python audited incoming.http
  | .CountTokens => countTokens python incoming.http

def proxy : System runtime Failure MessageResponse Incoming ProxyProcess Shift where
  start := Incoming.program python audited
  handler := Incoming.handler
  environment := Shift.apply

def ProxyProcess.idle (requestsPerMinute clock : Int) (replies : (op : RuntimeCall) → op.Reply) :
    ProxyProcess where
  clock := clock
  rateLimiter := .new requestsPerMinute
  entries := []
  replies := replies

end Servers

section Invariants

variable (requestsPerMinute : Int)

-- The limiter let the request pass for that user in that clock minute.
def RateEntry.admits (userId : String) (minute : Int) (entry : RateEntry) : Bool :=
  entry.check.userId == userId && entry.check.minute == minute && entry.decision.allowed

def allowances (entries : List RateEntry) (userId : String) (minute : Int) : List RateEntry :=
  entries.filter (RateEntry.admits userId minute)

theorem length_allowances (entries : List RateEntry) (userId : String) (minute : Int) :
    (allowances entries userId minute).length =
      RateCounts.admitted (entries.map fun entry => (entry.check, entry.decision)) userId
        minute := by
  rw [RateCounts.admitted, List.countP_map, List.countP_eq_length_filter]
  rfl

namespace ProxyProcess

variable (process : ProxyProcess)

def entriesOf (number : Nat) : List RateEntry :=
  process.entries.filter fun entry => entry.number == number

def admitted (number : Nat) (userId : String) (minute : Int) : Bool :=
  (process.entriesOf number).any (RateEntry.admits userId minute)

-- The entries are the calls of the limiter, made at a clock that never goes back.
structure Consistent : Prop where
  limiter : process.rateLimiter =
    InMemoryRateLimiter.machine.final (.new requestsPerMinute) (process.entries.map RateEntry.check)
  answers : process.entries.map (fun entry => (entry.check, entry.decision)) =
    InMemoryRateLimiter.machine.transcript (.new requestsPerMinute)
      (process.entries.map RateEntry.check)
  ordered : (process.entries.map RateEntry.check).Pairwise fun earlier later =>
    earlier.now ≤ later.now
  past : ∀ entry ∈ process.entries, entry.check.now ≤ process.clock

variable {requestsPerMinute process}

theorem Consistent.checkRateLimit (h : process.Consistent requestsPerMinute) (number : Nat)
    (userId : String) :
    (process.checkRateLimit number userId).2.Consistent requestsPerMinute := by
  have hanswer : (InMemoryRateLimiter.machine
      (InMemoryRateLimiter.machine.final (.new requestsPerMinute)
        (process.entries.map RateEntry.check)) ⟨process.clock, userId⟩) =
      process.rateLimiter.check process.clock userId := by
    rw [← h.limiter]
    rfl
  refine ⟨?_, ?_, ?_, ?_⟩
  · simp only [ProxyProcess.checkRateLimit, List.map_append, List.map_cons, List.map_nil,
      Machine.final_append, Machine.final_cons, Machine.final_nil, hanswer]
  · simp only [ProxyProcess.checkRateLimit, List.map_append, List.map_cons, List.map_nil,
      Machine.transcript_append, Machine.transcript_cons, Machine.transcript_nil, hanswer,
      h.answers]
  · simp only [ProxyProcess.checkRateLimit, List.map_append, List.map_cons, List.map_nil]
    refine List.pairwise_append.mpr ⟨h.ordered, List.pairwise_singleton _ _, ?_⟩
    intro earlier hearlier later hlater
    obtain ⟨entry, hentry, rfl⟩ := List.mem_map.mp hearlier
    rw [List.mem_singleton.mp hlater]
    exact h.past entry hentry
  · intro entry hentry
    rcases List.mem_append.mp hentry with hentry | hentry
    · exact h.past entry hentry
    · rw [List.mem_singleton.mp hentry]
      exact le_refl _

theorem Consistent.apply (h : process.Consistent requestsPerMinute) (change : Shift) :
    (change.apply process).Consistent requestsPerMinute := by
  cases change with
  | Tick elapsed =>
      refine ⟨h.limiter, h.answers, h.ordered, ?_⟩
      intro entry hentry
      have hpast := h.past entry hentry
      simp only [Shift.apply]
      omega
  | Replies replies => exact ⟨h.limiter, h.answers, h.ordered, h.past⟩

theorem consistent_idle (clock : Int) (replies : (op : RuntimeCall) → op.Reply) :
    (idle requestsPerMinute clock replies).Consistent requestsPerMinute :=
  ⟨rfl, rfl, .nil, List.forall_mem_nil _⟩

-- The entries of a run of the limiter, as the counters see them.
theorem Consistent.counted (h : process.Consistent requestsPerMinute) :
    process.entries.map (fun entry => (entry.check, entry.decision)) =
      (RateCounts.machine (max 1 requestsPerMinute)).transcript .zero
        (process.entries.map RateEntry.check) :=
  h.answers.trans (InMemoryRateLimiter.transcript_eq_counts requestsPerMinute _ h.ordered)

theorem Consistent.limited (h : process.Consistent requestsPerMinute) (userId : String)
    (minute : Int) :
    ((allowances process.entries userId minute).length : Int) ≤ max 1 requestsPerMinute := by
  have hcount := RateCounts.final_eq_admitted (max 1 requestsPerMinute)
    (process.entries.map RateEntry.check) userId minute
  rw [← h.counted, ← length_allowances] at hcount
  rw [← hcount]
  exact RateCounts.final_le _ (by omega) _ _ _

theorem Consistent.allowed_iff (h : process.Consistent requestsPerMinute)
    {past rest : List RateEntry} {entry : RateEntry}
    (hentries : process.entries = past ++ entry :: rest) :
    entry.decision.allowed = true ↔
      ((allowances past entry.check.userId entry.check.minute).length : Int) <
        max 1 requestsPerMinute := by
  have hcounted := h.counted
  rw [hentries, List.map_append, List.map_cons] at hcounted
  have hentry := (RateCounts.entry_of_transcript hcounted.symm).1
  rw [length_allowances]
  exact hentry

end ProxyProcess

-- Every request owns the entries of its calls.
def rateContract : Ownership runtime Incoming ProxyProcess Nat where
  owner := Incoming.number
  inv := ProxyProcess.Consistent requestsPerMinute
  rely number before after := after.entriesOf number = before.entriesOf number
  check incoming log process := rateChecks log.reverse =
    (process.entriesOf incoming.number).map fun entry => (entry.check.userId, entry.decision)
  refl _ _ := rfl
  trans _ _ _ _ first second := second.trans first

variable {requestsPerMinute} {incoming : Incoming} {process : ProxyProcess}

theorem entriesOf_checkRateLimit (number other : Nat) (userId : String) :
    (process.checkRateLimit number userId).2.entriesOf other =
      process.entriesOf other ++
        if number = other then
          [⟨number, ⟨process.clock, userId⟩, (process.checkRateLimit number userId).1⟩]
        else [] := by
  simp only [ProxyProcess.entriesOf, ProxyProcess.checkRateLimit, List.filter_append,
    List.filter_singleton]
  by_cases hsame : number = other
  · simp [hsame]
  · have hbeq : (number == other) = false := by simpa using hsame
    simp [hbeq, hsame]

-- A call of a request is recorded for it, and for no other.
theorem rateContract_call (log : Log) (op : RuntimeCall)
    (hinv : process.Consistent requestsPerMinute)
    (hcheck : (rateContract requestsPerMinute).check incoming log process) :
    (rateContract requestsPerMinute).Guarantee incoming process (incoming.handler op process).2 ∧
      (rateContract requestsPerMinute).CheckedAfter incoming log op
        (incoming.handler op process) := by
  have hquiet : ∀ (op : RuntimeCall) (reply : op.Reply), rateCheck? ⟨op, reply⟩ = none →
      (rateContract requestsPerMinute).check incoming (⟨op, reply⟩ :: log) process := by
    intro op reply hnone
    show rateChecks (⟨op, reply⟩ :: log).reverse = _
    rw [List.reverse_cons, rateChecks, List.filterMap_append]
    simp only [List.filterMap_cons, hnone, List.filterMap_nil, List.append_nil]
    exact hcheck
  have hkeeps : (rateContract requestsPerMinute).Guarantee incoming process process :=
    Ownership.guarantee_refl hinv
  cases op with
  | Ask dependency =>
      cases dependency with
      | CheckRateLimit userId =>
          refine ⟨⟨hinv.checkRateLimit _ _, ?_⟩, ?_⟩
          · intro other hother
            show (process.checkRateLimit incoming.number userId).2.entriesOf other = _
            have hne : incoming.number ≠ other := Ne.symm hother
            rw [entriesOf_checkRateLimit, if_neg hne, List.append_nil]
          · show rateChecks (_ :: log).reverse =
              List.map _ ((process.checkRateLimit incoming.number userId).2.entriesOf _)
            rw [List.reverse_cons, rateChecks, List.filterMap_append, entriesOf_checkRateLimit,
              if_pos rfl, List.map_append]
            exact congrArg₂ _ hcheck rfl
      | _ => exact ⟨hkeeps, hquiet _ _ rfl⟩
  | _ => exact ⟨hkeeps, hquiet _ _ rfl⟩

end Invariants

section Runs

abbrev ProxyPool : Type := Pool runtime Failure MessageResponse Incoming ProxyProcess

def invokes (thread : Thread runtime Failure MessageResponse Incoming) : Bool :=
  thread.log.any fun answer => isInvocation answer.1

-- The numbers of the requests are their own.
def Arrives (pool : ProxyPool) : Event Incoming Shift → Prop
  | .Spawn incoming => ∀ thread ∈ pool.threads, thread.request.number ≠ incoming.number
  | .Step _ | .Environment _ => True

instance (pool : ProxyPool) : DecidablePred (Arrives pool)
  | .Spawn incoming => inferInstanceAs
      (Decidable (∀ thread ∈ pool.threads, thread.request.number ≠ incoming.number))
  | .Step _ | .Environment _ => isTrue trivial

def Attributed (pool : ProxyPool) : Prop :=
  ∀ entry ∈ pool.shared.entries,
    entry.number ∈ (pool.threads.map Thread.request).map Incoming.number

variable {python : Interpreter} {audited : Bool}

theorem entries_handler (incoming : Incoming) (op : RuntimeCall) (process : ProxyProcess) :
    ∀ entry ∈ (incoming.handler op process).2.entries,
      entry ∈ process.entries ∨ entry.number = incoming.number := by
  intro entry hentry
  cases op with
  | Ask dependency =>
      cases dependency with
      | CheckRateLimit userId =>
          rcases List.mem_append.mp hentry with hentry | hentry
          · exact .inl hentry
          · rw [List.mem_singleton.mp hentry]
            exact .inr rfl
      | _ => exact .inl hentry
  | _ => exact .inl hentry

theorem answers_proxy (python : Interpreter) (audited : Bool) :
    (proxy python audited).Answers := by
  intro incoming op process
  cases op with
  | Ask dependency => cases dependency <;> exact ⟨_, rfl⟩
  | _ => exact ⟨_, rfl⟩

theorem Attributed.step {pool : ProxyPool} (h : Attributed pool) (event : Event Incoming Shift) :
    Attributed ((proxy python audited).step pool event) := by
  cases event with
  | Spawn incoming =>
      intro entry hentry
      show entry.number ∈ ((pool.threads ++ [_]).map Thread.request).map Incoming.number
      rw [List.map_append, List.map_append]
      exact List.mem_append_left _ (h entry hentry)
  | Environment change => cases change <;> exact h
  | Step index =>
      unfold Attributed
      rw [(proxy python audited).requests_step]
      rcases (proxy python audited).step_cases pool index with hsame |
        ⟨actor, op, next, ha, hp, hs⟩
      · rw [hsame]
        exact h
      intro entry hentry
      rw [hs, actor.step_shared _ pool.shared op next hp] at hentry
      rcases entries_handler actor.request op pool.shared entry hentry with hold | hnumber
      · exact h entry hold
      · rw [hnumber]
        exact List.mem_map_of_mem (List.mem_map_of_mem (List.mem_of_getElem? ha))

-- What the limiter keeps of a run of requests: the requests of a user that invoke a model, by
-- the minutes they were let pass in, the one allowance of each, and why a request was let pass.
structure RateLimited (requestsPerMinute : Int) (pool : ProxyPool) : Prop where
  limited : ∀ userId minute,
    ((pool.threads.filter fun thread =>
      invokes thread && pool.shared.admitted thread.request.number userId minute).length : Int) ≤
        max 1 requestsPerMinute
  attributed : ∀ thread ∈ pool.threads, invokes thread = true →
    ∃ authorization requestId authenticated user entry,
      answered (.Authenticate authorization requestId) (.ok authenticated) ∈ thread.log ∧
      raising authenticated.user = .ok user ∧
      pool.shared.entriesOf thread.request.number = [entry] ∧
      entry.check.userId = user.userId ∧ entry.decision.allowed = true ∧
      ∀ userId minute, pool.shared.admitted thread.request.number userId minute = true ↔
        userId = user.userId ∧ minute = entry.check.minute
  served : ∀ past entry rest, pool.shared.entries = past ++ entry :: rest →
    (entry.decision.allowed = true ↔
      ((allowances past entry.check.userId entry.check.minute).length : Int) <
        max 1 requestsPerMinute)

theorem metered_program (incoming : Incoming) {log : Log}
    {outcome : Except Failure MessageResponse}
    (h : (incoming.program python audited).Traces log outcome) : Metered log := by
  unfold Incoming.program at h
  cases hendpoint : incoming.endpoint with
  | CreateMessage =>
      rw [hendpoint] at h
      exact (serveMessage_run h).metered
  | CountTokens =>
      rw [hendpoint] at h
      exact (countTokens_run h).metered

-- A request that invokes a model has one entry: the allowance of its user.
theorem entriesOf_invoking {process : ProxyProcess} {requestsPerMinute : Int}
    {thread : Thread runtime Failure MessageResponse Incoming}
    (hbegins : thread.Begins (proxy python audited))
    (hcheck : (rateContract requestsPerMinute).check thread.request thread.log process)
    (hinvokes : invokes thread = true) :
    ∃ authorization requestId authenticated user entry,
      answered (.Authenticate authorization requestId) (.ok authenticated) ∈ thread.log ∧
      raising authenticated.user = .ok user ∧
      process.entriesOf thread.request.number = [entry] ∧
      entry.check.userId = user.userId ∧ entry.decision.allowed = true := by
  obtain ⟨rest, outcome, hrun⟩ := hbegins.exists_run process.replies
  have hmetered := metered_program thread.request hrun
  obtain ⟨invocation, hm, hinvocation⟩ := List.any_eq_true.mp hinvokes
  obtain ⟨before, after, hlog⟩ := List.append_of_mem (List.mem_reverse.mpr hm)
  have hfull : thread.log.reverse ++ rest = before ++ invocation :: (after ++ rest) := by
    rw [hlog, List.append_assoc, List.cons_append]
  obtain ⟨authorization, requestId, authenticated, user, decision, hauthenticated, huser, hallowed,
    hchecks⟩ := hmetered.passed _ _ _ hfull hinvocation
  have hmine : rateChecks thread.log.reverse = [(user.userId, decision)] := by
    have honce := hmetered.once
    rw [hfull] at honce
    rw [hlog]
    unfold rateChecks at hchecks honce ⊢
    rw [List.filterMap_append, hchecks] at honce ⊢
    have hnone : (invocation :: (after ++ rest)).filterMap rateCheck? = [] := by
      rw [← List.length_eq_zero_iff]
      simp only [List.length_append, List.length_singleton] at honce
      omega
    rw [← List.cons_append, List.filterMap_append] at hnone
    rw [(List.append_eq_nil_iff.mp hnone).1, List.append_nil]
  have hentries := hcheck.symm.trans hmine
  obtain ⟨entry, hentry, hpair⟩ := List.map_eq_singleton_iff.mp hentries
  obtain ⟨huserId, hdecision⟩ := Prod.mk.inj hpair
  refine ⟨authorization, requestId, authenticated, user, entry, ?_, huser, hentry, huserId, ?_⟩
  · have hmem : answered (.Authenticate authorization requestId) (.ok authenticated) ∈
        thread.log.reverse := by
      rw [hlog]
      exact List.mem_append_left _ hauthenticated
    exact List.mem_reverse.mp hmem
  · rw [hdecision]
    exact hallowed

-- The requests of a pool share the limiter as the contract says.
theorem rateContract_poolSafe (requestsPerMinute clock : Int)
    (replies : (op : RuntimeCall) → op.Reply) (events : List (Event Incoming Shift))
    (harrives : Admissible (proxy python audited).step Arrives
      ⟨.idle requestsPerMinute clock replies, []⟩ events) :
    (rateContract requestsPerMinute).PoolSafe (proxy python audited) (fun _ _ _ _ => True)
      ((proxy python audited).exec ⟨.idle requestsPerMinute clock replies, []⟩ events) := by
  have hattributed := harrives.with_invariant Attributed (List.forall_mem_nil _)
    fun pool event h _ => h.step event
  refine Ownership.exec_poolSafe (ProxyProcess.consistent_idle clock replies) rfl ?_ ?_ ?_ events
    hattributed
  · exact fun pool incoming h => h.1
  · rintro pool incoming ⟨hfresh, hknown⟩ hinv
    have hnone : pool.shared.entriesOf incoming.number = [] := by
      apply List.filter_eq_nil_iff.mpr
      intro entry hentry hnumber
      have hmem := hknown entry hentry
      rw [List.map_map] at hmem
      obtain ⟨thread, hm, hsame⟩ := List.mem_map.mp hmem
      exact hfresh thread hm (hsame.trans (eq_of_beq hnumber))
    refine Ownership.Safe.of_calls ?_ ?_ ?_
    · exact fun log before after h hr => h.trans (congrArg (List.map _) hr.symm)
    · exact fun log op now hinv hcheck => rateContract_call log op hinv hcheck
    · exact (congrArg (List.map _) hnone).symm
  · intro pool change _ hinv
    refine ⟨hinv.apply change, ?_⟩
    intro who
    cases change <;> rfl

theorem requests_rate_limited (python : Interpreter) (audited : Bool)
    (requestsPerMinute clock : Int) (replies : (op : RuntimeCall) → op.Reply)
    (events : List (Event Incoming Shift))
    (harrives : Admissible (proxy python audited).step Arrives
      ⟨.idle requestsPerMinute clock replies, []⟩ events) :
    RateLimited requestsPerMinute
      ((proxy python audited).exec ⟨.idle requestsPerMinute clock replies, []⟩ events) := by
  have hsafe := rateContract_poolSafe requestsPerMinute clock replies events harrives
  have hbegins : ∀ thread ∈ ((proxy python audited).exec
      ⟨.idle requestsPerMinute clock replies, []⟩ events).threads,
      thread.Begins (proxy python audited) :=
    begins_exec (answers_proxy python audited) rfl events
  generalize (proxy python audited).exec ⟨.idle requestsPerMinute clock replies, []⟩ events = pool
    at hsafe hbegins ⊢
  refine ⟨?_, ?_, ?_⟩
  · intro userId minute
    have hnumbers : (pool.threads.map fun thread => thread.request.number).Nodup := by
      refine List.pairwise_map.mpr (List.pairwise_iff_getElem.mpr ?_)
      intro i j hi hj hlt hsame
      have heq := hsafe.distinct i j _ _ (List.getElem?_eq_getElem hi)
        (List.getElem?_eq_getElem hj) hsame
      omega
    have hsubset : ((pool.threads.filter fun thread =>
        invokes thread && pool.shared.admitted thread.request.number userId minute).map
          fun thread => thread.request.number) ⊆
        (allowances pool.shared.entries userId minute).map RateEntry.number := by
      intro number hnumber
      obtain ⟨thread, hm, rfl⟩ := List.mem_map.mp hnumber
      have hadmitted := ((Bool.and_eq_true _ _).mp (List.mem_filter.mp hm).2).2
      obtain ⟨entry, hentry, hadmits⟩ := List.any_eq_true.mp hadmitted
      obtain ⟨hentry, hsame⟩ := List.mem_filter.mp hentry
      exact List.mem_map.mpr ⟨entry, List.mem_filter.mpr ⟨hentry, hadmits⟩, eq_of_beq hsame⟩
    have hlength := ((hnumbers.sublist (List.filter_sublist.map _)).subperm hsubset).length_le
    rw [List.length_map, List.length_map] at hlength
    have hlimit := hsafe.inv.limited userId minute
    omega
  · intro thread hm hinvokes
    obtain ⟨authorization, requestId, authenticated, user, entry, hauthenticated, huser, hentry,
      huserId, hallowed⟩ := entriesOf_invoking (hbegins thread hm) (hsafe.check hm) hinvokes
    refine ⟨authorization, requestId, authenticated, user, entry, hauthenticated, huser, hentry,
      huserId, hallowed, ?_⟩
    intro userId minute
    rw [ProxyProcess.admitted, hentry, List.any_cons, List.any_nil, Bool.or_false,
      RateEntry.admits, huserId, hallowed, Bool.and_true, Bool.and_eq_true, beq_iff_eq, beq_iff_eq]
    constructor
    · rintro ⟨rfl, rfl⟩
      exact ⟨rfl, rfl⟩
    · rintro ⟨rfl, rfl⟩
      exact ⟨rfl, rfl⟩
  · exact fun past entry rest hentries => hsafe.inv.allowed_iff hentries

-- Two requests of one user, call by call in turn.
def sampleArrivals : List (Event Incoming Shift) :=
  .Spawn ⟨0, .CreateMessage, sampleHttp false⟩ :: .Spawn ⟨1, .CreateMessage, sampleHttp true⟩ ::
    (List.replicate 20 [.Step 0, .Step 1]).flatten

theorem requests_rate_limited_sample :
    RateLimited 1 ((proxy samplePython true).exec ⟨.idle 1 0 sampleEnvironment.reply, []⟩
      sampleArrivals) :=
  requests_rate_limited samplePython true 1 0 sampleEnvironment.reply sampleArrivals (by decide)

end Runs

end ClaudeCodeProxy
