import ClaudeCodeProxy.Api.Components
import ClaudeCodeProxy.Proxy.BedrockConverse.UsageCollection

-- What is recorded of a stream, however it ends.

namespace ClaudeCodeProxy

open Effects Python

-- The counts of an event.
def UsageEventRecord.usage (event : UsageEventRecord) : Usage where
  inputTokens := event.inputTokens
  outputTokens := event.outputTokens
  totalTokens := event.totalTokens
  cacheWriteInputTokens := event.cacheWriteInputTokens
  cacheReadInputTokens := event.cacheReadInputTokens
  cacheDetails := event.cacheDetails

-- The audit logger reads from the decoder's dictionary what the decoder has put there.
theorem readUsage_toValue (python : Interpreter) (usage : Usage) :
    AuditLogger.readUsage python usage.toValue = .ok usage := by
  simp [AuditLogger.readUsage, tokenCount, Usage.toValue, Value.lookup, bind, Except.bind, pure,
    Except.pure, List.lookup_cons]

-- The log of a success that the store takes.
def successLog (admission : Admission) (user : UserContext) (counts : Usage) (now : Rat)
    (createdAt : Int) (usageEventId auditEventId : String) : Log :=
  [⟨.PerfCounter, now⟩, ⟨.Clock, createdAt⟩, ⟨.EventId, usageEventId⟩, ⟨.EventId, auditEventId⟩,
    answered (.RecordUsage (AuditLogger.usageEvent usageEventId admission.requestId user
      admission.model admission.resolvedModel.bedrockModelId counts
      admission.quotaDecision.usageSnapshot (some (elapsedMs admission.startedAt now)) createdAt))
      (.ok ()),
    answered (.RecordAudit (AuditLogger.successEvent auditEventId admission.requestId user
      admission.model admission.resolvedModel.bedrockModelId admission.policyDecision createdAt))
      (.ok ())]

section Records

variable {python : Interpreter}

theorem recordAdmitted_recorded {admission : Admission} {usage : Value} {log : Log}
    {outcome : Except Failure Unit} {user : UserContext} {counts : Usage}
    (h : (recordAdmitted python admission usage).Traces log outcome)
    (huser : raising admission.authenticated.user = .ok user)
    (hcounts : AuditLogger.readUsage python usage = .ok counts) (hstore : StoreWorks log) :
    outcome = .ok () ∧ ∃ now createdAt usageEventId auditEventId,
      log = successLog admission user counts now createdAt usageEventId auditEventId := by
  obtain ⟨now, record, rfl, hrecord⟩ := recordAdmitted_run h
  cases hrecord with
  | NoUser createdAt usageEventId error huser' =>
      rw [huser] at huser'
      cases huser'
  | Uncounted createdAt usageEventId user' error huser' hcounts' =>
      rw [hcounts] at hcounts'
      cases hcounts'
  | UsageLost createdAt usageEventId auditEventId user' counts' error huser' hcounts' =>
      exact absurd (.tail _ (.tail _ (.tail _ (.tail _ (.head _))))) (hstore.1 _ error)
  | Recorded createdAt usageEventId auditEventId user' counts' reply huser' hcounts' =>
      rw [huser] at huser'
      cases huser'
      rw [hcounts] at hcounts'
      cases hcounts'
      cases outcome with
      | error error =>
          exact absurd (.tail _ (.tail _ (.tail _ (.tail _ (.tail _ (.head _))))))
            (hstore.2 _ error)
      | ok done => exact ⟨rfl, now, createdAt, usageEventId, auditEventId, rfl⟩

theorem MessageRun.stream_unrecorded {audited : Bool} {http : HttpRequest} {log : Log}
    {stream : AuditedStream}
    (h : MessageRun python audited http log (.ok (.Streaming stream))) :
    usageEvents log = [] ∧ auditEvents log = [] ∧
      stream.decoder = { model := stream.admission.model } ∧
      ∃ user, raising stream.admission.authenticated.user = .ok user := by
  obtain ⟨body, idLog, tail, requestId, startedAt, authenticated, -, hid, rfl, hpipeline⟩ :=
    h.streaming
  obtain ⟨-, -, hauthenticated, hdecoder, user, rateLimitDecision, converseRequest, -, huser, -,
    rfl⟩ := hpipeline.streaming
  obtain ⟨-, husage, haudit⟩ := hid.quiet
  refine ⟨?_, ?_, hdecoder, user, hauthenticated ▸ huser⟩
  · rw [usageEvents_append, husage]
    rfl
  · rw [auditEvents_append, haudit]
    rfl

-- One usage event and one audit event, behind the last frame, with the counts of the last
-- metadata that could be read.
theorem stream_recorded_once (python : Interpreter) (http : HttpRequest) (stream : AuditedStream)
    (created log : Log) (outcome : Except Failure Ending)
    (hcreate : (createMessage python true http).Traces created (.ok (.Streaming stream)))
    (hstream : (streamWithAudit python true stream).Traces log outcome) (hstore : StoreWorks log) :
    ∃ frames record usageEvent auditEvent, log = frames ++ record ∧ yieldedFrames record = [] ∧
      usageEvents (created ++ frames) = [] ∧ auditEvents (created ++ frames) = [] ∧
      usageEvents record = [usageEvent] ∧ auditEvents record = [auditEvent] ∧
      usageEvent.requestId = stream.admission.requestId ∧
      auditEvent.requestId = stream.admission.requestId ∧
      usageEvent.usage = lastUsage python {} (fetchedEvents log) := by
  obtain ⟨husage, haudit, hdecoder, user, huser⟩ := (createMessage_run hcreate).stream_unrecorded
  obtain ⟨frames, record, ending, final, rfl, hframes, hrecord⟩ := streamWithAudit_run hstream
  obtain ⟨-, hnoUsage, hnoAudit⟩ := hframes.onlyFrames.quiet
  rcases hrecord with ⟨hunaudited, -⟩ | ⟨-, result, hrecord⟩
  · cases hunaudited
  obtain ⟨-, now, createdAt, usageEventId, auditEventId, rfl⟩ := recordAdmitted_recorded hrecord
    huser (readUsage_toValue python final.usage) (hstore.append _ _).2
  refine ⟨frames, _, _, _, rfl, rfl, ?_, ?_, rfl, rfl, rfl, rfl, ?_⟩
  · rw [usageEvents_append, husage, hnoUsage]
    rfl
  · rw [auditEvents_append, haudit, hnoAudit]
    rfl
  · have hfetched : fetchedEvents (frames ++ successLog stream.admission user final.usage now
        createdAt usageEventId auditEventId) = fetchedEvents frames := by
      rw [fetchedEvents_append]
      exact List.append_nil _
    rw [hfetched]
    have hcollected := hframes.usage
    rw [hdecoder] at hcollected
    exact hcollected

end Records

section Samples

def sampleAdmission : Admission where
  body := .Mapping (sampleBody true)
  model := .Str "claude-sonnet-4"
  requestId := "request-1"
  startedAt := 0
  authenticated := restoreTrustedRequestContext "request-1" sampleUser "key-1"
    (sampleHash "vk_first") "vk_first"
  resolvedModel := ModelResolver.resolvedBy (.Str "claude-sonnet-4") "sonnet" sampleRoute
  policyDecision := {
    allowed := true
    trace := { evaluatedScopes := ["user_status", "user:user-1", "global"] } }
  quotaDecision := {
    allowed := true
    denialReason := none
    effectivePolicy := none
    softLimitReached := false
    hardLimitReached := false
    projectedUsage := 0 }

def sampleStream : AuditedStream where
  admission := sampleAdmission
  decoder := { model := .Str "claude-sonnet-4" }
  events := sampleEvents

theorem stream_recorded_once_sample :
    let log := (sampleEnvironment.run (streamWithAudit samplePython true sampleStream)).1
    ∃ frames record usageEvent auditEvent, log = frames ++ record ∧ yieldedFrames record = [] ∧
      usageEvents ((sampleEnvironment.run (createMessage samplePython true
        (sampleHttp true))).1 ++ frames) = [] ∧
      auditEvents ((sampleEnvironment.run (createMessage samplePython true
        (sampleHttp true))).1 ++ frames) = [] ∧
      usageEvents record = [usageEvent] ∧ auditEvents record = [auditEvent] ∧
      usageEvent.requestId = "request-1" ∧ auditEvent.requestId = "request-1" ∧
      usageEvent.usage = lastUsage samplePython {} (fetchedEvents log) := by
  have hcreate : (sampleEnvironment.run (createMessage samplePython true (sampleHttp true))).2 =
      .ok (.Streaming sampleStream) := by with_unfolding_all rfl
  exact stream_recorded_once samplePython (sampleHttp true) sampleStream _ _ _
    (hcreate ▸ sampleEnvironment.traces_run _) (sampleEnvironment.traces_run _)
    (presentable_of_not_failed _ (by decide)).2

end Samples

end ClaudeCodeProxy
