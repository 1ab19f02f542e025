import ClaudeCodeProxy.Api.AuditTrail
import ClaudeCodeProxy.Effects.Run

-- The usage ledger beside the audit ledger over runs of completed calls, when either store
-- may fail.

namespace ClaudeCodeProxy

open Effects Python

-- The events that the stores took.
def storedUsage? : Answer runtime → Option UsageEventRecord
  | ⟨.Ask (.RecordUsage event), .ok _⟩ => some event
  | _ => none

def storedAudit? : Answer runtime → Option AuditEventRecord
  | ⟨.Ask (.RecordAudit event), .ok _⟩ => some event
  | _ => none

def storedUsage (log : Log) : List UsageEventRecord := log.filterMap storedUsage?

def storedAudit (log : Log) : List AuditEventRecord := log.filterMap storedAudit?

structure StoredEvents where
  usage : List UsageEventRecord
  audit : List AuditEventRecord

-- The ids of the requests that were billed, and of those that were allowed.
def billed (events : List UsageEventRecord) : List String := events.map UsageEventRecord.requestId

def allowed (events : List AuditEventRecord) : List String :=
  (events.filter fun event => event.decision = AUDIT_DECISION_ALLOWED).map
    AuditEventRecord.requestId

-- A call that came to its end, and did not end as a stream.
structure CompletedCall (python : Interpreter) (audited : Bool) where
  http : HttpRequest
  log : Log
  outcome : Except Failure MessageResponse
  traces : (createMessage python audited http).Traces log outcome
  complete : ∀ stream, outcome ≠ .ok (.Streaming stream)

section Calls

variable {python : Interpreter} {audited : Bool}

def StoredEvents.record (ledgers : StoredEvents) (call : CompletedCall python audited) :
    StoredEvents where
  usage := ledgers.usage ++ storedUsage call.log
  audit := ledgers.audit ++ storedAudit call.log

def storedAfter (calls : List (CompletedCall python audited)) : StoredEvents :=
  exec StoredEvents.record ⟨[], []⟩ calls

def StoredEvents.Paired (ledgers : StoredEvents) : Prop :=
  ∀ requestId, (∃ event ∈ ledgers.usage, event.requestId = requestId) ↔
    ∃ event ∈ ledgers.audit, event.requestId = requestId ∧
      event.decision = AUDIT_DECISION_ALLOWED

-- The client got an exception of the server, or a response with the status of an error.
def Rejects (outcome : Except Failure MessageResponse) : Prop :=
  ∀ response, outcome = .ok (.Json response) → response.statusCode ≠ 200

-- The audit store takes the event of an allowed request, and once the usage is stored the
-- parsed response can be written as JSON.
structure KeepsPace (log : Log) : Prop where
  audited : ∀ event error, event.decision = AUDIT_DECISION_ALLOWED →
    answered (.RecordAudit event) (.error error) ∉ log
  rendered : ∀ event, answered (.RecordUsage event) (.ok ()) ∈ log →
    ∀ rawResponse model parsedResponse,
      answered (.ParseConverseResponse rawResponse model) (.ok parsedResponse) ∈ log →
        parsedResponse.jsonCompliant = true

-- A request leaves its id in both ledgers and has the answer, or in none of them.
structure Settles (log : Log) (outcome : Except Failure MessageResponse) : Prop where
  paired : billed (storedUsage log) = allowed (storedAudit log)
  answered : Rejects outcome → storedUsage log = []

end Calls

section Steps

theorem storedUsage_append (first second : Log) :
    storedUsage (first ++ second) = storedUsage first ++ storedUsage second :=
  List.filterMap_append

theorem storedAudit_append (first second : Log) :
    storedAudit (first ++ second) = storedAudit first ++ storedAudit second :=
  List.filterMap_append

-- No store was written to, except for the audit events of refusals.
def Unbilled (log : Log) : Prop := storedUsage log = [] ∧ allowed (storedAudit log) = []

theorem Unbilled.settles {log : Log} (h : Unbilled log)
    (outcome : Except Failure MessageResponse) : Settles log outcome where
  paired := by rw [h.1, h.2]; rfl
  answered _ := h.1

theorem allowed_append (first second : List AuditEventRecord) :
    allowed (first ++ second) = allowed first ++ allowed second := by
  rw [allowed, List.filter_append, List.map_append]
  rfl

theorem billed_append (first second : List UsageEventRecord) :
    billed (first ++ second) = billed first ++ billed second := List.map_append

theorem Unbilled.append {first second : Log} (h : Unbilled first) (h' : Unbilled second) :
    Unbilled (first ++ second) := by
  rw [Unbilled, storedUsage_append, storedAudit_append, allowed_append, h.1, h.2, h'.1, h'.2]
  exact ⟨rfl, rfl⟩

theorem Settles.prepend {first second : Log} {outcome : Except Failure MessageResponse}
    (h : Unbilled first) (h' : Settles second outcome) : Settles (first ++ second) outcome where
  paired := by
    rw [storedUsage_append, storedAudit_append, billed_append, allowed_append, h.1, h.2]
    exact h'.paired
  answered hrejects := by rw [storedUsage_append, h.1, h'.answered hrejects]; rfl

theorem Settles.cons {answer : Answer runtime} {log : Log}
    {outcome : Except Failure MessageResponse} (h : Unbilled [answer]) (h' : Settles log outcome) :
    Settles (answer :: log) outcome := Settles.prepend h h'

variable {python : Interpreter} {audited : Bool}

theorem DenialRun.unbilled {requestId denialReason : String}
    {authenticated : Option AuthenticatedRequestContext} {model : Value}
    {resolvedModel : Option String} {policyDecision : Option PolicyDecision} {log : Log}
    {outcome : Except Failure Unit}
    (h : DenialRun requestId denialReason authenticated model resolvedModel policyDecision log
      outcome) : Unbilled log := by
  cases h with
  | NoUser id error huser => exact ⟨rfl, rfl⟩
  | Recorded id createdAt user reply huser =>
      cases outcome with
      | ok value => exact ⟨rfl, rfl⟩
      | error error => exact ⟨rfl, rfl⟩

theorem DenyRun.unbilled {requestId denialReason : String}
    {authenticated : AuthenticatedRequestContext} {model : Value}
    {resolvedModel : Option String} {policyDecision : PolicyDecision} {refusal : ServiceError}
    {log : Log} {outcome : Except Failure MessageResponse}
    (h : DenyRun audited requestId denialReason authenticated model resolvedModel policyDecision
      refusal log outcome) : Unbilled log := by
  cases h with
  | Unlogged haudited => exact ⟨rfl, rfl⟩
  | Logged _ haudited hrecord => exact hrecord.unbilled
  | Lost _ error haudited hrecord => exact hrecord.unbilled

theorem KeepsPace.tail {answer : Answer runtime} {log : Log} (h : KeepsPace (answer :: log)) :
    KeepsPace log where
  audited event error hallowed hm := h.audited event error hallowed (.tail _ hm)
  rendered event hm rawResponse model parsedResponse hparsed :=
    h.rendered event (.tail _ hm) rawResponse model parsedResponse (.tail _ hparsed)

-- A record that raised wrote nothing, unless the audit store refused an allowed request.
theorem recordAdmitted_lost {admission : Admission} {usage : Value} {record : Log} {error : Failure}
    (h : (recordAdmitted python admission usage).Traces record (.error error))
    (hpace : KeepsPace record) : Unbilled record := by
  obtain ⟨now, rest, rfl, hrecord⟩ := recordAdmitted_run h
  generalize houtcome : Except.error error = outcome at hrecord
  cases hrecord with
  | NoUser createdAt usageEventId error' huser => exact ⟨rfl, rfl⟩
  | Uncounted createdAt usageEventId user error' huser hcounts => exact ⟨rfl, rfl⟩
  | UsageLost createdAt usageEventId auditEventId user counts error' huser hcounts =>
      exact ⟨rfl, rfl⟩
  | Recorded createdAt usageEventId auditEventId user counts reply huser hcounts =>
      subst houtcome
      exact absurd (.tail _ (.tail _ (.tail _ (.tail _ (.tail _ (.head _))))))
        (hpace.audited _ error rfl)

-- One that came through wrote the same id to both.
theorem recordAdmitted_kept {admission : Admission} {usage : Value} {record : Log}
    (h : (recordAdmitted python admission usage).Traces record (.ok ())) :
    billed (storedUsage record) = allowed (storedAudit record) ∧
      ∃ event, answered (.RecordUsage event) (.ok ()) ∈ record := by
  obtain ⟨now, rest, rfl, hrecord⟩ := recordAdmitted_run h
  generalize houtcome : Except.ok () = outcome at hrecord
  cases hrecord with
  | NoUser createdAt usageEventId error huser => cases houtcome
  | Uncounted createdAt usageEventId user error huser hcounts => cases houtcome
  | UsageLost createdAt usageEventId auditEventId user counts error huser hcounts =>
      cases houtcome
  | Recorded createdAt usageEventId auditEventId user counts reply huser hcounts =>
      subst houtcome
      exact ⟨rfl, _, .tail _ (.tail _ (.tail _ (.tail _ (.head _))))⟩

theorem InvocationRun.settles {admission : Admission} {log : Log}
    {outcome : Except Failure MessageResponse}
    (h : InvocationRun python audited admission log outcome) (hpace : KeepsPace log) :
    Settles log outcome := by
  cases h with
  | BuildRaised error => exact Unbilled.settles ⟨rfl, rfl⟩ _
  | StreamRaised converseRequest error hstream => exact Unbilled.settles ⟨rfl, rfl⟩ _
  | Streamed converseRequest events hstream => exact Unbilled.settles ⟨rfl, rfl⟩ _
  | ConverseRaised converseRequest error hstream => exact Unbilled.settles ⟨rfl, rfl⟩ _
  | ParseRaised converseRequest rawResponse error hstream => exact Unbilled.settles ⟨rfl, rfl⟩ _
  | Unlogged converseRequest rawResponse parsedResponse hstream haudited =>
      exact Unbilled.settles ⟨rfl, rfl⟩ _
  | NoUsage converseRequest rawResponse parsedResponse error hstream haudited husage =>
      exact Unbilled.settles ⟨rfl, rfl⟩ _
  | Lost converseRequest rawResponse parsedResponse usage record error hstream haudited husage
      hrecord =>
      have hlost := recordAdmitted_lost hrecord hpace.tail.tail.tail
      exact .cons ⟨rfl, rfl⟩ (.cons ⟨rfl, rfl⟩ (.cons ⟨rfl, rfl⟩ (hlost.settles _)))
  | Recorded converseRequest rawResponse parsedResponse usage record hstream haudited husage
      hrecord =>
      obtain ⟨hpaired, event, hevent⟩ := recordAdmitted_kept hrecord
      have hcompliant : parsedResponse.jsonCompliant = true :=
        hpace.rendered event (.tail _ (.tail _ (.tail _ hevent))) rawResponse admission.model
          parsedResponse (.tail _ (.tail _ (.head _)))
      refine .cons ⟨rfl, rfl⟩ (.cons ⟨rfl, rfl⟩ (.cons ⟨rfl, rfl⟩
        ⟨hpaired, fun hrejects => ?_⟩))
      rw [jsonResponse, if_pos hcompliant] at hrejects
      exact absurd rfl (hrejects _ rfl)

-- The answer to an exception is the answer to a request that was not billed.
theorem Settles.caught {log : Log} {result : Except Failure MessageResponse}
    (h : Settles log result) (requestId : String) : Settles log (caught requestId result) := by
  cases result with
  | ok response => exact h
  | error error =>
      exact ⟨h.paired, fun _ => h.answered fun response hok => by cases hok⟩

theorem PipelineRun.settles {body : Value} {requestId : String} {startedAt : Rat}
    {authenticated : AuthenticatedRequestContext} {log : Log}
    {outcome : Except Failure MessageResponse}
    (h : PipelineRun python audited body requestId startedAt authenticated log outcome)
    (hpace : KeepsPace log) : Settles log outcome := by
  cases h with
  | NoModel error hmodel => exact Unbilled.settles ⟨rfl, rfl⟩ _
  | ResolveRaised model error hmodel => exact Unbilled.settles ⟨rfl, rfl⟩ _
  | PolicyRaised model resolvedModel error hmodel => exact Unbilled.settles ⟨rfl, rfl⟩ _
  | PolicyDenied model resolvedModel policyDecision record outcome hmodel hdenied hrecord =>
      exact .cons ⟨rfl, rfl⟩ (.cons ⟨rfl, rfl⟩ (hrecord.unbilled.settles _))
  | QuotaRaised model resolvedModel policyDecision error hmodel hpolicy =>
      exact Unbilled.settles ⟨rfl, rfl⟩ _
  | QuotaDenied model resolvedModel policyDecision quotaDecision record outcome hmodel hpolicy
      hdenied hrecord =>
      exact .cons ⟨rfl, rfl⟩ (.cons ⟨rfl, rfl⟩ (.cons ⟨rfl, rfl⟩ (hrecord.unbilled.settles _)))
  | NoUser model resolvedModel policyDecision quotaDecision error hmodel hpolicy hquota huser =>
      exact Unbilled.settles ⟨rfl, rfl⟩ _
  | RateRaised model resolvedModel policyDecision quotaDecision user error hmodel hpolicy hquota
      huser => exact Unbilled.settles ⟨rfl, rfl⟩ _
  | RateDenied model resolvedModel policyDecision quotaDecision user rateLimitDecision record
      outcome hmodel hpolicy hquota huser hdenied hrecord =>
      exact .cons ⟨rfl, rfl⟩ (.cons ⟨rfl, rfl⟩ (.cons ⟨rfl, rfl⟩ (.cons ⟨rfl, rfl⟩
        (hrecord.unbilled.settles _))))
  | Admitted admission user rateLimitDecision tail outcome hbody hid hstart hauthenticated hmodel
      hpolicy hquota huser hrate hinvocation =>
      have hsettles := hinvocation.settles hpace.tail.tail.tail.tail
      exact .cons ⟨rfl, rfl⟩ (.cons ⟨rfl, rfl⟩ (.cons ⟨rfl, rfl⟩ (.cons ⟨rfl, rfl⟩ hsettles)))

theorem RequestIdRun.unbilled {http : HttpRequest} {idLog : Log} {requestId : String}
    (h : RequestIdRun http idLog requestId) : Unbilled idLog := by
  cases h <;> exact ⟨rfl, rfl⟩

theorem KeepsPace.of_append {first second : Log} (h : KeepsPace (first ++ second)) :
    KeepsPace second := by
  induction first with
  | nil => exact h
  | cons answer first ih => exact ih h.tail

-- The step of a run.
theorem CompletedCall.settles (call : CompletedCall python audited) (hpace : KeepsPace call.log) :
    Settles call.log call.outcome := by
  obtain ⟨http, log, outcome, htraces, _⟩ := call
  cases createMessage_run htraces with
  | Unreadable error hbody => exact Unbilled.settles ⟨rfl, rfl⟩ _
  | Unauthenticated body idLog requestId startedAt error hbody hid haudited =>
      exact (hid.unbilled.append ⟨rfl, rfl⟩).settles _
  | NoModel body idLog requestId startedAt error error' hbody hid haudited hmodel =>
      exact (hid.unbilled.append ⟨rfl, rfl⟩).settles _
  | Lost body model idLog record requestId startedAt error error' hbody hid haudited hmodel
      hrecord =>
      exact .prepend hid.unbilled
        (.cons ⟨rfl, rfl⟩ (.cons ⟨rfl, rfl⟩ (hrecord.unbilled.settles _)))
  | Refused body model idLog record requestId startedAt error hbody hid haudited hmodel hrecord =>
      exact .prepend hid.unbilled
        (.cons ⟨rfl, rfl⟩ (.cons ⟨rfl, rfl⟩ (hrecord.unbilled.settles _)))
  | Authenticated body idLog tail requestId startedAt authenticated result hbody hid hpipeline =>
      have hsettles := (hpipeline.settles (KeepsPace.of_append hpace).tail.tail).caught requestId
      exact .prepend hid.unbilled (.cons ⟨rfl, rfl⟩ (.cons ⟨rfl, rfl⟩ hsettles))

-- Over a run the two ledgers have the same ids, in the same order.
theorem storedAfter_settled (calls : List (CompletedCall python audited))
    (hpace : ∀ call ∈ calls, KeepsPace call.log) :
    billed (storedAfter calls).usage = allowed (storedAfter calls).audit := by
  induction calls using List.reverseRecOn with
  | nil => rfl
  | append_singleton past call ih =>
      have hpast := ih fun other hm => hpace other (List.mem_append_left _ hm)
      have hcall := (call.settles (hpace call (by simp))).paired
      simp only [storedAfter, exec_append, exec_cons, exec_nil] at hpast ⊢
      rw [StoredEvents.record, billed_append, allowed_append, hpast, hcall]

theorem paired_of_eq {ledgers : StoredEvents} (h : billed ledgers.usage = allowed ledgers.audit) :
    ledgers.Paired := by
  intro requestId
  have hmem : requestId ∈ billed ledgers.usage ↔ requestId ∈ allowed ledgers.audit := by rw [h]
  rw [billed, allowed, List.mem_map, List.mem_map] at hmem
  rw [hmem]
  constructor
  · rintro ⟨event, hm, hid⟩
    obtain ⟨hm, hdecision⟩ := List.mem_filter.mp hm
    exact ⟨event, hm, hid, of_decide_eq_true hdecision⟩
  · rintro ⟨event, hm, hid, hdecision⟩
    exact ⟨event, List.mem_filter.mpr ⟨hm, decide_eq_true hdecision⟩, hid⟩

end Steps

theorem ledgers_stay_paired (python : Interpreter) (audited : Bool)
    (calls : List (CompletedCall python audited)) (hpace : ∀ call ∈ calls, KeepsPace call.log)
    (past : List (CompletedCall python audited)) (hpast : past <+: calls) :
    (storedAfter past).Paired ∧
      ∀ call ∈ past, Rejects call.outcome → storedUsage call.log = [] := by
  have hpace : ∀ call ∈ past, KeepsPace call.log := fun call hm => hpace call (hpast.subset hm)
  refine ⟨paired_of_eq (storedAfter_settled past hpace), fun call hm hrejects => ?_⟩
  exact (call.settles (hpace call hm)).answered hrejects

section Samples

-- The audit store is out of reach.
def sampleAuditOutage : Environment := { sampleEnvironment with
  ask
    | .RecordAudit _ => .error (.Raised "OperationalError")
    | dependency => sampleEnvironment.ask dependency }

def CompletedCall.ofRun (environment : Environment) (http : HttpRequest)
    (h : ∀ stream, (environment.run (createMessage samplePython true http)).2 ≠
      .ok (.Streaming stream)) : CompletedCall samplePython true where
  http := http
  log := (environment.run (createMessage samplePython true http)).1
  outcome := (environment.run (createMessage samplePython true http)).2
  traces := environment.traces_run _
  complete := h

def samplePairedCall : CompletedCall samplePython true :=
  .ofRun sampleEnvironment (sampleHttp false) fun stream h => by
    cases h.symm.trans (by with_unfolding_all rfl :
      (sampleEnvironment.run (createMessage samplePython true (sampleHttp false))).2 =
        .ok (.Json ⟨200, _, []⟩))

def sampleLostCall : CompletedCall samplePython true :=
  .ofRun sampleAuditOutage (sampleHttp false) fun stream h => by
    cases h.symm.trans (by with_unfolding_all rfl :
      (sampleAuditOutage.run (createMessage samplePython true (sampleHttp false))).2 =
        .ok (.Json ⟨502, _, []⟩))

def rendersParsed : Answer runtime → Bool
  | ⟨.Ask (.ParseConverseResponse _ _), .ok parsedResponse⟩ => parsedResponse.jsonCompliant
  | _ => true

theorem ledgers_stay_paired_sample : (storedAfter [samplePairedCall, samplePairedCall]).Paired := by
  have hrenders : samplePairedCall.log.all rendersParsed = true := by decide
  have hpace : KeepsPace samplePairedCall.log := by
    refine ⟨fun event error _ hm => ?_, fun event _ rawResponse model parsedResponse hm => ?_⟩
    · cases sampleEnvironment.ask_of_mem_run _ (.RecordAudit event) (.error error) hm
    · exact List.all_eq_true.mp hrenders _ hm
  refine (ledgers_stay_paired samplePython true [samplePairedCall, samplePairedCall] ?_ _
    (List.prefix_refl _)).1
  intro call hm
  have hsame : call = samplePairedCall := by simpa using hm
  rw [hsame]
  exact hpace

-- The usage is stored, the audit event is not, and the client is told of an error.
theorem ledgers_unpaired_in_outage :
    ∃ calls : List (CompletedCall samplePython true), ¬(storedAfter calls).Paired ∧
      ∃ call ∈ calls, Rejects call.outcome ∧ storedUsage call.log ≠ [] := by
  have husage : ∃ event, storedUsage sampleLostCall.log = [event] ∧
      event.requestId = "request-1" := ⟨_, rfl, rfl⟩
  have haudit : storedAudit sampleLostCall.log = [] := rfl
  obtain ⟨event, hevent, hid⟩ := husage
  refine ⟨[sampleLostCall], fun hpaired => ?_, sampleLostCall, .head _, fun response hok => ?_, ?_⟩
  · obtain ⟨other, hm, -⟩ := (hpaired "request-1").mp ⟨event, by
      simp [storedAfter, StoredEvents.record, hevent], hid⟩
    simp [storedAfter, StoredEvents.record, haudit] at hm
  · obtain ⟨content, hstatus⟩ : ∃ content, sampleLostCall.outcome =
        .ok (.Json ⟨502, content, []⟩) := ⟨_, by with_unfolding_all rfl⟩
    cases hstatus.symm.trans hok
    exact (by decide : (502 : Nat) ≠ 200)
  · rw [hevent]
    exact List.cons_ne_nil _ _

end Samples

end ClaudeCodeProxy
