import ClaudeCodeProxy.Api.MessageRuns
import ClaudeCodeProxy.Proxy.BedrockConverse.Iteration

-- What a log shows of a request: the gates it passed, the calls of Bedrock, and the
-- events handed to the usage repository.

namespace ClaudeCodeProxy

open Effects Python

def isBedrockCall : RuntimeCall → Bool
  | .Ask (.Converse _) | .Ask (.ConverseStream _) | .Ask (.CountTokens _) => true
  | _ => false

-- The gates before Bedrock, in the order of the pipeline, and Bedrock itself.
def isStage : RuntimeCall → Bool
  | .Ask (.Authenticate _ _) | .Ask (.Resolve _) | .Ask (.EvaluatePolicy _ _ _)
  | .Ask (.EvaluateQuota _ _ _ _ _) | .Ask (.CheckRateLimit _)
  | .Ask (.BuildConverseRequest _ _) => true
  | op => isBedrockCall op

-- The calls of a generator of frames.
def isStreamCall : RuntimeCall → Bool
  | .Ask (.NextEvent _) | .Ask .EndOfEvents | .Yield _ => true
  | _ => false

def usageEvent? : RuntimeCall → Option UsageEventRecord
  | .Ask (.RecordUsage event) => some event
  | _ => none

def auditEvent? : RuntimeCall → Option AuditEventRecord
  | .Ask (.RecordAudit event) => some event
  | _ => none

def stages (log : Log) : Log := log.filter fun answer => isStage answer.1

def bedrockCalls (log : Log) : Log := log.filter fun answer => isBedrockCall answer.1

def usageEvents (log : Log) : List UsageEventRecord := log.filterMap fun answer =>
  usageEvent? answer.1

def auditEvents (log : Log) : List AuditEventRecord := log.filterMap fun answer =>
  auditEvent? answer.1

-- The call of a dependency raised.
def raised (answer : Answer runtime) : Prop :=
  ∃ dependency error, answer = answered dependency (.error error)

-- Every exception in the log is one a client can be told of.
def Presentable (log : Log) : Prop :=
  ∀ dependency error, answered dependency (.error error) ∈ log → error.Presentable

-- The repository takes every event.
def StoreWorks (log : Log) : Prop :=
  (∀ event error, answered (.RecordUsage event) (.error error) ∉ log) ∧
    ∀ event error, answered (.RecordAudit event) (.error error) ∉ log

theorem Presentable.append (first second : Log) (h : Presentable (first ++ second)) :
    Presentable first ∧ Presentable second :=
  ⟨fun dependency error hmem => h dependency error (List.mem_append_left _ hmem),
    fun dependency error hmem => h dependency error (List.mem_append_right _ hmem)⟩

theorem StoreWorks.append (first second : Log) (h : StoreWorks (first ++ second)) :
    StoreWorks first ∧ StoreWorks second :=
  ⟨⟨fun event error hmem => h.1 event error (List.mem_append_left _ hmem),
      fun event error hmem => h.2 event error (List.mem_append_left _ hmem)⟩,
    ⟨fun event error hmem => h.1 event error (List.mem_append_right _ hmem),
      fun event error hmem => h.2 event error (List.mem_append_right _ hmem)⟩⟩

section Observations

variable (first second : Log)

@[simp] theorem stages_append : stages (first ++ second) = stages first ++ stages second :=
  List.filter_append first second

@[simp] theorem bedrockCalls_append :
    bedrockCalls (first ++ second) = bedrockCalls first ++ bedrockCalls second :=
  List.filter_append first second

@[simp] theorem usageEvents_append :
    usageEvents (first ++ second) = usageEvents first ++ usageEvents second :=
  List.filterMap_append

@[simp] theorem auditEvents_append :
    auditEvents (first ++ second) = auditEvents first ++ auditEvents second :=
  List.filterMap_append

theorem stages_cons (answer : Answer runtime) (log : Log) :
    stages (answer :: log) = if isStage answer.1 then answer :: stages log else stages log := by
  simp [stages, List.filter_cons]

theorem usageEvents_cons (answer : Answer runtime) (log : Log) :
    usageEvents (answer :: log) = (usageEvent? answer.1).toList ++ usageEvents log := by
  simp only [usageEvents, List.filterMap_cons]
  cases usageEvent? answer.1 <;> rfl

theorem auditEvents_cons (answer : Answer runtime) (log : Log) :
    auditEvents (answer :: log) = (auditEvent? answer.1).toList ++ auditEvents log := by
  simp only [auditEvents, List.filterMap_cons]
  cases auditEvent? answer.1 <;> rfl

end Observations

@[simp] theorem bedrockCalls_nil : bedrockCalls [] = [] := rfl

theorem bedrockCalls_eq_filter (log : Log) :
    bedrockCalls log = (stages log).filter fun answer => isBedrockCall answer.1 := by
  rw [bedrockCalls, stages, List.filter_filter]
  congr 1
  funext answer
  rcases answer with ⟨op, reply⟩
  cases op with
  | Ask dependency => cases dependency <;> rfl
  | _ => rfl

-- A log without stages has no call of Bedrock either.
theorem bedrockCalls_eq_nil {log : Log} (h : stages log = []) : bedrockCalls log = [] := by
  rw [bedrockCalls_eq_filter, h]
  rfl

section Streams

variable {python : Interpreter} {decoder final : ConverseStreamDecoder}

-- The log only fetches events and hands out frames.
def OnlyFrames (log : Log) : Prop := ∀ answer ∈ log, isStreamCall answer.1 = true

-- What holds of frames and of fetched events holds of all of such a log.
theorem OnlyFrames.forall_mem {log : Log} {property : Answer runtime → Prop} (h : OnlyFrames log)
    (hframe : ∀ frame demand, property ⟨.Yield frame, demand⟩)
    (hnext : ∀ event reply, property ⟨.Ask (.NextEvent event), reply⟩)
    (hend : ∀ reply, property ⟨.Ask .EndOfEvents, reply⟩) : ∀ answer ∈ log, property answer := by
  rintro ⟨op, reply⟩ hmem
  have hcall := h _ hmem
  cases op with
  | Yield frame => exact hframe frame reply
  | Ask dependency =>
      cases dependency with
      | NextEvent event => exact hnext event reply
      | EndOfEvents => exact hend reply
      | _ => cases hcall
  | _ => cases hcall

theorem OnlyFrames.quiet {log : Log} (h : OnlyFrames log) :
    stages log = [] ∧ usageEvents log = [] ∧ auditEvents log = [] := by
  refine ⟨List.filter_eq_nil_iff.mpr ?_, List.filterMap_eq_nil_iff.mpr ?_,
    List.filterMap_eq_nil_iff.mpr ?_⟩
  · refine h.forall_mem ?_ ?_ ?_ <;> simp [isStage, isBedrockCall]
  · refine h.forall_mem ?_ ?_ ?_ <;> simp [usageEvent?]
  · refine h.forall_mem ?_ ?_ ?_ <;> simp [auditEvent?]

theorem OnlyFrames.cons {answer : Answer runtime} {log : Log}
    (hcall : isStreamCall answer.1 = true) (h : OnlyFrames log) : OnlyFrames (answer :: log) :=
  List.forall_mem_cons.mpr ⟨hcall, h⟩

theorem OnlyFrames.append {first second : Log} (h : OnlyFrames first) (h' : OnlyFrames second) :
    OnlyFrames (first ++ second) :=
  List.forall_mem_append.mpr ⟨h, h'⟩

theorem onlyFrames_nil : OnlyFrames [] := List.forall_mem_nil _

theorem FlushRun.onlyFrames {flushed : Log} {ending : Option Ending}
    (h : FlushRun decoder flushed ending final) : OnlyFrames flushed := by
  cases h with
  | Raised exception hpending => exact onlyFrames_nil
  | Nothing hpending => exact onlyFrames_nil
  | ClosedFirst messageDelta messageStop hpending => exact onlyFrames_nil.cons rfl
  | ClosedSecond messageDelta messageStop hpending => exact (onlyFrames_nil.cons rfl).cons rfl
  | Flushed messageDelta messageStop hpending => exact (onlyFrames_nil.cons rfl).cons rfl

theorem Iteration.onlyFrames {events : List Value} {log : Log} {ending : Ending}
    (h : Iteration python decoder events log ending final) : OnlyFrames log := by
  induction h with
  | EndRaised decoder error => exact onlyFrames_nil.cons rfl
  | Ended decoder final flushed ending hflush => exact hflush.onlyFrames.cons rfl
  | NextRaised decoder event events error => exact onlyFrames_nil.cons rfl
  | ReactRaised decoder event events exception hreact => exact onlyFrames_nil.cons rfl
  | Taken decoder next final event events frame tail ending hreact htail ih =>
      exact (ih.cons rfl).cons rfl
  | Left decoder next event events frame hreact => exact (onlyFrames_nil.cons rfl).cons rfl
  | Noted decoder next final event events tail ending hreact htail ih => exact ih.cons rfl
  | Flushed decoder next after final event events flushed tail ending hreact hflush htail ih =>
      exact (hflush.onlyFrames.append ih).cons rfl
  | FlushEnded decoder next final event events flushed ending hreact hflush =>
      exact hflush.onlyFrames.cons rfl
  | Aborted decoder event events frame demand hreact => exact (onlyFrames_nil.cons rfl).cons rfl

end Streams

section Records

variable {python : Interpreter} {audited : Bool}

theorem DenialRun.stages {requestId denialReason : String}
    {authenticated : Option AuthenticatedRequestContext} {model : Value}
    {resolvedModel : Option String} {policyDecision : Option PolicyDecision} {log : Log}
    {outcome : Except Failure Unit}
    (h : DenialRun requestId denialReason authenticated model resolvedModel policyDecision log
      outcome) : stages log = [] ∧ usageEvents log = [] := by
  cases h with
  | NoUser id error huser => exact ⟨rfl, rfl⟩
  | Recorded id createdAt user reply huser => exact ⟨rfl, rfl⟩

-- An exception of the record is one of the language or one of the repository.
theorem DenialRun.presentable {requestId denialReason : String}
    {authenticated : Option AuthenticatedRequestContext} {model : Value}
    {resolvedModel : Option String} {policyDecision : Option PolicyDecision} {log : Log}
    {error : Failure}
    (h : DenialRun requestId denialReason authenticated model resolvedModel policyDecision log
      (.error error)) (hlog : Presentable log) : error.Presentable := by
  generalize houtcome : Except.error error = outcome at h
  cases h with
  | NoUser id error' huser =>
      cases houtcome
      obtain ⟨exception, -, rfl⟩ := raising_eq_error huser
      trivial
  | Recorded id createdAt user reply huser =>
      subst houtcome
      exact hlog _ error (.tail _ (.tail _ (.head _)))

theorem DenyRun.stages {requestId denialReason : String}
    {authenticated : AuthenticatedRequestContext} {model : Value}
    {resolvedModel : Option String} {policyDecision : PolicyDecision} {refusal : ServiceError}
    {log : Log} {outcome : Except Failure MessageResponse}
    (h : DenyRun audited requestId denialReason authenticated model resolvedModel policyDecision
      refusal log outcome) : stages log = [] ∧ usageEvents log = [] := by
  cases h with
  | Unlogged haudited => exact ⟨rfl, rfl⟩
  | Logged _ haudited hrecord => exact hrecord.stages
  | Lost _ error haudited hrecord => exact hrecord.stages

theorem DenyRun.not_recorded {requestId denialReason : String}
    {authenticated : AuthenticatedRequestContext} {model : Value}
    {resolvedModel : Option String} {policyDecision : PolicyDecision} {refusal : ServiceError}
    {log : Log} {outcome : Except Failure MessageResponse} {event : UsageEventRecord}
    (h : DenyRun audited requestId denialReason authenticated model resolvedModel policyDecision
      refusal log outcome) : event ∉ usageEvents log := by
  rw [h.stages.2]
  exact List.not_mem_nil

theorem SuccessRun.stages {authenticated : AuthenticatedRequestContext} {requestId : String}
    {model : Value} {resolvedModel : Option String} {policyDecision : PolicyDecision}
    {usage : Value} {usageSnapshot : Option UsageCostSnapshot} {latencyMs : Option Int}
    {log : Log} {outcome : Except Failure Unit}
    (h : SuccessRun python authenticated requestId model resolvedModel policyDecision usage
      usageSnapshot latencyMs log outcome) :
    ClaudeCodeProxy.stages log = [] ∧ (usageEvents log).length ≤ 1 := by
  cases h with
  | NoUser createdAt usageEventId error huser => exact ⟨rfl, Nat.zero_le 1⟩
  | Uncounted createdAt usageEventId user error huser hcounts => exact ⟨rfl, Nat.zero_le 1⟩
  | UsageLost createdAt usageEventId auditEventId user counts error huser hcounts =>
      exact ⟨rfl, le_refl 1⟩
  | Recorded createdAt usageEventId auditEventId user counts reply huser hcounts =>
      exact ⟨rfl, le_refl 1⟩

theorem traces_elapsedLatencyMs_bind (startedAt : Rat) (rest : Int → Runtime α) (log : Log)
    (outcome : Except Failure α) :
    (elapsedLatencyMs startedAt >>= rest).Traces log outcome ↔
      ∃ now tail, log = ⟨.PerfCounter, now⟩ :: tail ∧
        (rest (elapsedMs startedAt now)).Traces tail outcome := Iff.rfl

theorem recordAdmitted_run {admission : Admission} {usage : Value} {log : Log}
    {outcome : Except Failure Unit}
    (h : (recordAdmitted python admission usage).Traces log outcome) :
    ∃ now record, log = ⟨.PerfCounter, now⟩ :: record ∧
      SuccessRun python admission.authenticated admission.requestId admission.model
        admission.resolvedModel.bedrockModelId admission.policyDecision usage
        admission.quotaDecision.usageSnapshot (some (elapsedMs admission.startedAt now))
        record outcome := by
  simp only [recordAdmitted, traces_elapsedLatencyMs_bind] at h
  obtain ⟨now, record, rfl, hrecord⟩ := h
  exact ⟨now, record, rfl, recordSuccess_run hrecord⟩

theorem recordAdmitted_stages {admission : Admission} {usage : Value} {log : Log}
    {outcome : Except Failure Unit}
    (h : (recordAdmitted python admission usage).Traces log outcome) :
    stages log = [] ∧ (usageEvents log).length ≤ 1 := by
  obtain ⟨now, record, rfl, hrecord⟩ := recordAdmitted_run h
  exact hrecord.stages

-- A stream that has been started: its frames, and then the record.
theorem streamWithAudit_run {stream : AuditedStream} {log : Log} {outcome : Except Failure Ending}
    (h : (streamWithAudit python audited stream).Traces log outcome) :
    ∃ frames record ending final, log = frames ++ record ∧
      Iteration python stream.decoder stream.events frames ending final ∧
      (audited = false ∧ record = [] ∨ audited = true ∧
        ∃ result, (recordAdmitted python stream.admission final.usage.toValue).Traces record
          result) := by
  simp only [streamWithAudit, Program.traces_bind] at h
  rcases h with ⟨error, hframes, rfl⟩ | ⟨frames, tail, ⟨ending, final⟩, rfl, hframes, h⟩
  · obtain ⟨ending, final, hcontra, -⟩ := iterSseEvents_run hframes
    cases hcontra
  obtain ⟨_, _, hok, hiteration⟩ := iterSseEvents_run hframes
  cases hok
  refine ⟨frames, tail, ending, final, rfl, hiteration, ?_⟩
  cases haudited : audited with
  | false =>
      refine .inl ⟨rfl, ?_⟩
      simp only [haudited, Bool.false_eq_true, ite_false] at h
      cases ending <;> exact h.1
  | true =>
      refine .inr ⟨rfl, ?_⟩
      simp only [haudited, ite_true, Program.traces_bind] at h
      rcases h with ⟨error, hrecord, -⟩ | ⟨record, rest, _, rfl, hrecord, hrest⟩
      · exact ⟨.error error, hrecord⟩
      · have hnil : rest = [] := by cases ending <;> exact hrest.1
        rw [hnil, List.append_nil]
        exact ⟨.ok (), hrecord⟩

theorem streamWithAudit_stages {stream : AuditedStream} {log : Log}
    {outcome : Except Failure Ending}
    (h : (streamWithAudit python audited stream).Traces log outcome) :
    stages log = [] ∧ (usageEvents log).length ≤ 1 := by
  obtain ⟨frames, record, ending, final, rfl, hframes, hrecord⟩ := streamWithAudit_run h
  obtain ⟨hstages, husage, -⟩ := hframes.onlyFrames.quiet
  rw [stages_append, usageEvents_append, hstages, husage]
  rcases hrecord with ⟨-, rfl⟩ | ⟨-, result, hrecord⟩
  · exact ⟨rfl, Nat.zero_le 1⟩
  · exact recordAdmitted_stages hrecord

-- Nothing before the authentication is a stage or a record.
theorem RequestIdRun.quiet {http : HttpRequest} {idLog : Log} {requestId : String}
    (h : RequestIdRun http idLog requestId) :
    ClaudeCodeProxy.stages idLog = [] ∧ usageEvents idLog = [] ∧ auditEvents idLog = [] := by
  cases h <;> exact ⟨rfl, rfl, rfl⟩

-- Either the request is authenticated and goes through the guarded part, or it ends with
-- the authentication.
theorem MessageRun.split {http : HttpRequest} {log : Log}
    {outcome : Except Failure MessageResponse} (h : MessageRun python audited http log outcome) :
    (∃ body idLog tail requestId startedAt authenticated result, http.json = .ok body ∧
      RequestIdRun http idLog requestId ∧
      log = idLog ++ ⟨.PerfCounter, startedAt⟩ ::
        answered (.Authenticate http.authorization requestId) (.ok authenticated) :: tail ∧
      outcome = caught requestId result ∧
      PipelineRun python audited body requestId startedAt authenticated tail result) ∨
    (∃ error, http.json = .error error ∧ log = []) ∨
    ∃ body idLog record requestId startedAt error, http.json = .ok body ∧
      RequestIdRun http idLog requestId ∧
      log = idLog ++ ⟨.PerfCounter, startedAt⟩ ::
        answered (.Authenticate http.authorization requestId) (.error error) :: record ∧
      stages record = [] ∧ usageEvents record = [] := by
  cases h with
  | Unreadable error hbody => exact .inr (.inl ⟨error, hbody, rfl⟩)
  | Unauthenticated body idLog requestId startedAt error hbody hid haudited =>
      exact .inr (.inr ⟨body, idLog, [], requestId, startedAt, error, hbody, hid, rfl, rfl, rfl⟩)
  | NoModel body idLog requestId startedAt error error' hbody hid haudited hmodel =>
      exact .inr (.inr ⟨body, idLog, [], requestId, startedAt, error, hbody, hid, rfl, rfl, rfl⟩)
  | Lost body model idLog record requestId startedAt error error' hbody hid haudited hmodel
      hrecord =>
      exact .inr (.inr ⟨body, idLog, record, requestId, startedAt, error, hbody, hid, rfl,
        hrecord.stages⟩)
  | Refused body model idLog record requestId startedAt error hbody hid haudited hmodel hrecord =>
      exact .inr (.inr ⟨body, idLog, record, requestId, startedAt, error, hbody, hid, rfl,
        hrecord.stages⟩)
  | Authenticated body idLog tail requestId startedAt authenticated outcome hbody hid hpipeline =>
      exact .inl ⟨body, idLog, tail, requestId, startedAt, authenticated, outcome, hbody, hid, rfl,
        rfl, hpipeline⟩

end Records

end ClaudeCodeProxy
