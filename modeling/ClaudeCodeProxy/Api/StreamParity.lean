import ClaudeCodeProxy.Api.StreamRecords
import ClaudeCodeProxy.Proxy.BedrockConverse.ClientMessages
import ClaudeCodeProxy.Proxy.BedrockConverse.ParsedResponses

-- A response in one piece, and the same response as a stream.

namespace ClaudeCodeProxy

open Effects Python

section Encoding

-- A block of text or a call of a tool, as a response has it.
inductive ToldBlock : Value → StreamBlock → Prop
  | Text (fields : List (String × Value)) (text : String)
      (htext : Value.lookup fields "text" = some (.Str text)) :
      ToldBlock (.Mapping fields) (.Text text)
  | ToolUse (fields tool : List (String × Value)) (toolUseId name : Value)
      (htext : Value.lookup fields "text" = none)
      (htool : Value.lookup fields "toolUse" = some (.Mapping tool))
      (hid : Value.lookup tool "toolUseId" = some toolUseId)
      (hname : Value.lookup tool "name" = some name) :
      ToldBlock (.Mapping fields)
        (.ToolUse toolUseId name ((Value.lookup tool "input").getD (.Mapping [])))

-- The stream tells the response, block by block.
structure Encodes {python : Interpreter} (loads : JsonReader)
    (fields message : List (String × Value)) (content : List Value) (usage : Usage)
    (stream : List (ProviderEvent python)) (told : Message) : Prop where
  spoken : told.Spoken stream
  role : told.role = (Value.lookup message "role").getD (.Str "assistant")
  blocks : ∃ blocks indices, List.Forall₂ ToldBlock content blocks ∧
    Delivers loads told.blocks indices blocks
  stopReason : Value.lookup fields "stopReason" = some (.Str told.stopReason)
  usage : told.usage = some usage

end Encoding

section Messages

variable {python : Interpreter} {loads : JsonReader} {fields message : List (String × Value)}
  {content : List Value} {usage : Usage} {stream : List (ProviderEvent python)} {told : Message}

def StreamBlock.parsed (block : StreamBlock) : ParsedContent := { contentBlocks := [block.content] }

theorem ToldBlock.parsed {value : Value} {block : StreamBlock} (h : ToldBlock value block) :
    BlockParsed value block.parsed := by
  cases h with
  | Text fields text htext => exact .Text htext
  | ToolUse fields tool toolUseId name htext htool hid hname =>
      exact .ToolUse htext htool hid hname

theorem join_parsed (blocks : List StreamBlock) :
    (ParsedContent.join (blocks.map StreamBlock.parsed)).contentBlocks =
      blocks.map StreamBlock.content := by
  induction blocks with
  | nil => rfl
  | cons block blocks ih => exact congrArg (block.content :: ·) ih

theorem clientStopReason_str (stopReason : String) :
    clientStopReason (.Str stopReason) = .Str (mappedStopReason stopReason) := by
  by_cases hsupported : stopReason ∈ SUPPORTED_STOP_REASONS
  · simp [clientStopReason, mappedStopReason, Value.isNone, Value.isStr, List.any_beq, hsupported]
  · simp [clientStopReason, mappedStopReason, Value.isNone, Value.isStr, List.any_beq, hsupported]

-- What the client reads in either of them.
def Message.seen (told : Message) (blocks : List StreamBlock) : ClientMessage where
  role := told.role
  content := .Sequence (blocks.map StreamBlock.content)
  stopReason := .Str (mappedStopReason told.stopReason)
  usage := (told.usage.getD {}).toValue

theorem readReply_parsed (hresponse : WellFormedResponse python fields message content usage)
    {blocks : List StreamBlock} (hplain : List.Forall₂ ToldBlock content blocks)
    (hencodes : Encodes loads fields message content usage stream told) (model : Value) :
    ∃ reply, parseConverseResponse python (.Mapping fields) model = .ok reply ∧
      readReply reply = .ok (told.seen blocks) ∧ reply.item "usage" = .ok usage.toValue := by
  have hparts : List.Forall₂ BlockParsed content (blocks.map StreamBlock.parsed) :=
    List.forall₂_map_right_iff.mpr (hplain.imp fun _ _ => ToldBlock.parsed)
  obtain ⟨reply, hparse, hreply⟩ := parseConverseResponse_ok hresponse hparts model
  have hrole := Value.item_mapping _ _ _ hreply.role
  have hcontent := Value.item_mapping _ _ _ hreply.content
  have hstop := Value.item_mapping _ _ _ hreply.stopReason
  have husage := Value.item_mapping _ _ _ hreply.usage
  refine ⟨.Mapping reply, hparse, ?_, husage⟩
  rw [readReply, hrole, hcontent, hstop, husage, join_parsed, hencodes.stopReason,
    Option.getD_some, clientStopReason_str, ← hencodes.role, Message.seen, hencodes.usage]
  rfl

-- The client of the stream has the same message in the end.
theorem stream_seen {blocks : List StreamBlock} {indices : List Int} (hspoken : told.Spoken stream)
    (hdelivers : Delivers loads told.blocks indices blocks) {messageId : String} {model : Value}
    {log : Log} {outcome : Except Failure (Ending × ConverseStreamDecoder)}
    (h : (ConverseStreamDecoder.iterSseEvents python { model := model, messageId := messageId }
      (values stream)).Traces log outcome) (hdrained : Drained log) :
    assembleMessage loads (yieldedFrames log) = .ok (told.seen blocks) := by
  have hframes := (stream_grammar python messageId model told stream hspoken log outcome h
    hdrained).1.1
  rw [hframes, assembleMessage_frames hdelivers]
  rfl

end Messages

section Records

variable {python : Interpreter} {audited : Bool} {log : Log} {event : UsageEventRecord}

theorem recordAdmitted_usage {admission : Admission} {usage : Value}
    {outcome : Except Failure Unit} (h : (recordAdmitted python admission usage).Traces log outcome)
    (hmem : event ∈ usageEvents log) : AuditLogger.readUsage python usage = .ok event.usage := by
  obtain ⟨now, record, rfl, hrecord⟩ := recordAdmitted_run h
  cases hrecord with
  | NoUser createdAt usageEventId error huser => cases hmem
  | Uncounted createdAt usageEventId user error huser hcounts => cases hmem
  | UsageLost createdAt usageEventId auditEventId user counts error huser hcounts =>
      cases List.mem_singleton.mp hmem
      exact raising_eq_ok hcounts
  | Recorded createdAt usageEventId auditEventId user counts reply huser hcounts =>
      cases List.mem_singleton.mp hmem
      exact raising_eq_ok hcounts

-- What is recorded without a stream is the usage of the parsed response.
def Reported (python : Interpreter) (log : Log) (event : UsageEventRecord) : Prop :=
  ∃ request rawResponse model parsedResponse usage,
    answered (.Converse request) (.ok rawResponse) ∈ log ∧
      answered (.ParseConverseResponse rawResponse model) (.ok parsedResponse) ∈ log ∧
      parsedResponse.item "usage" = .ok usage ∧
      AuditLogger.readUsage python usage = .ok event.usage

theorem Reported.append {before : Log} (h : Reported python log event) :
    Reported python (before ++ log) event := by
  obtain ⟨request, rawResponse, model, parsedResponse, usage, hconverse, hparse, hread⟩ := h
  exact ⟨request, rawResponse, model, parsedResponse, usage, List.mem_append_right before hconverse,
    List.mem_append_right before hparse, hread⟩

theorem InvocationRun.reported {admission : Admission}
    {outcome : Except Failure MessageResponse}
    (h : InvocationRun python audited admission log outcome) (hmem : event ∈ usageEvents log) :
    Reported python log event := by
  cases h with
  | Lost converseRequest rawResponse parsedResponse usage record error hstream haudited husage
      hrecord =>
      exact ⟨_, rawResponse, _, parsedResponse, usage, .tail _ (.head _),
        .tail _ (.tail _ (.head _)), raising_eq_ok husage, recordAdmitted_usage hrecord hmem⟩
  | Recorded converseRequest rawResponse parsedResponse usage record hstream haudited husage
      hrecord =>
      exact ⟨_, rawResponse, _, parsedResponse, usage, .tail _ (.head _),
        .tail _ (.tail _ (.head _)), raising_eq_ok husage, recordAdmitted_usage hrecord hmem⟩
  | _ => cases hmem

theorem PipelineRun.reported {body : Value} {requestId : String} {startedAt : Rat}
    {authenticated : AuthenticatedRequestContext} {outcome : Except Failure MessageResponse}
    (h : PipelineRun python audited body requestId startedAt authenticated log outcome)
    (hmem : event ∈ usageEvents log) : Reported python log event := by
  cases h with
  | PolicyDenied model resolvedModel policyDecision record outcome hmodel hdenied hrecord =>
      exact absurd hmem hrecord.not_recorded
  | QuotaDenied model resolvedModel policyDecision quotaDecision record outcome hmodel hpolicy
      hdenied hrecord =>
      exact absurd hmem hrecord.not_recorded
  | RateDenied model resolvedModel policyDecision quotaDecision user rateLimitDecision record
      outcome hmodel hpolicy hquota' huser hdenied hrecord =>
      exact absurd hmem hrecord.not_recorded
  | Admitted admission user rateLimitDecision tail outcome hbody hid hstart hauthenticated hmodel
      hpolicy hquota' huser hrate hinvocation =>
      exact @Reported.append python tail event [_, _, _, _] (hinvocation.reported hmem)
  | _ => cases hmem

theorem MessageRun.reported {http : HttpRequest} {outcome : Except Failure MessageResponse}
    (h : MessageRun python audited http log outcome) (hmem : event ∈ usageEvents log) :
    Reported python log event := by
  rcases h.split with ⟨body, idLog, tail, requestId, startedAt, authenticated, result, -, hid, rfl,
    -, hpipeline⟩ | ⟨error, -, rfl⟩ |
    ⟨body, idLog, record, requestId, startedAt, error, -, hid, rfl, -, hnone⟩
  · rw [usageEvents_append, hid.quiet.2.1] at hmem
    exact (@Reported.append python tail event [_, _] (hpipeline.reported hmem)).append
  · cases hmem
  · rw [usageEvents_append, hid.quiet.2.1] at hmem
    have hrecorded : event ∈ usageEvents record := hmem
    rw [hnone] at hrecorded
    cases hrecorded

theorem MessageRun.stream_asked {http : HttpRequest} {audit : AuditedStream}
    (h : MessageRun python audited http log (.ok (.Streaming audit))) :
    ∃ request, answered (.ConverseStream request) (.ok audit.events) ∈ log := by
  obtain ⟨body, idLog, tail, requestId, startedAt, authenticated, -, -, rfl, hpipeline⟩ :=
    h.streaming
  obtain ⟨-, -, -, -, user, rateLimitDecision, request, -, -, -, rfl⟩ := hpipeline.streaming
  refine ⟨request, List.mem_append_right idLog ?_⟩
  exact .tail _ (.tail _ (.tail _ (.tail _ (.tail _ (.tail _ (.tail _ (.head _)))))))

end Records

section Served

variable {python : Interpreter} {loads : JsonReader} {fields message : List (String × Value)}
  {content : List Value} {usage : Usage} {stream : List (ProviderEvent python)} {told : Message}

-- The provider gives this response, or this stream to a client that takes all of it.
structure ProviderGives (python : Interpreter) (response : Value) (events : List Value)
    (log : Log) : Prop where
  converse : ∀ request, AnswersAs log (.Converse request) (.ok response)
  converseStream : ∀ request, AnswersAs log (.ConverseStream request) (.ok events)
  parse : ∀ response model, AnswersAs log (.ParseConverseResponse response model)
    (raising (parseConverseResponse python response model))
  drained : Drained log

theorem MessageRun.reported_usage {audited : Bool} {http : HttpRequest} {log : Log}
    {outcome : Except Failure MessageResponse} {event : UsageEventRecord}
    (hresponse : WellFormedResponse python fields message content usage)
    (hencodes : Encodes loads fields message content usage stream told)
    (h : MessageRun python audited http log outcome)
    (hgives : ProviderGives python (.Mapping fields) (values stream) log)
    (hmem : event ∈ usageEvents log) : event.usage = usage := by
  obtain ⟨request, rawResponse, model, parsedResponse, read, hconverse, hparse, hitem, hread⟩ :=
    h.reported hmem
  have hraw : rawResponse = .Mapping fields := Except.ok.inj (hgives.converse request _ hconverse)
  subst hraw
  have hparsed := raising_eq_ok (hgives.parse _ model _ hparse).symm
  obtain ⟨blocks, indices, hplain, -⟩ := hencodes.blocks
  obtain ⟨reply, hreply, -, husage⟩ := readReply_parsed hresponse hplain hencodes model
  have hsame : parsedResponse = reply := Except.ok.inj (hparsed.symm.trans hreply)
  rw [hsame, husage] at hitem
  cases hitem
  rw [readUsage_toValue] at hread
  exact (Except.ok.inj hread).symm

theorem streamed_usage {audited : Bool} {audit : AuditedStream} {log : Log}
    {outcome : Except Failure Ending} {event : UsageEventRecord} (hspoken : told.Spoken stream)
    (husage : told.usage = some usage) (hdecoder : audit.decoder = { model := audit.admission.model })
    (hevents : audit.events = values stream)
    (h : (streamWithAudit python audited audit).Traces log outcome) (hdrained : Drained log)
    (hmem : event ∈ usageEvents log) : event.usage = usage := by
  obtain ⟨frames, record, ending, final, rfl, hframes, hrecord⟩ := streamWithAudit_run h
  rw [usageEvents_append, hframes.onlyFrames.quiet.2.1, List.nil_append] at hmem
  rcases hrecord with ⟨-, rfl⟩ | ⟨-, result, hrecord⟩
  · cases hmem
  have hcollected := hframes.usage
  rw [hdecoder, hevents] at hframes
  obtain ⟨sent, next, last, closed, hadvance, hflushed, -⟩ :=
    @advance_spoken python { model := audit.admission.model } told stream hspoken rfl rfl
  have hfetched := hframes.fetched_all (hdrained.append frames record).1 hadvance hflushed
  rw [hfetched, hspoken.lastUsage, husage] at hcollected
  have hread := recordAdmitted_usage hrecord hmem
  rw [readUsage_toValue] at hread
  exact (Except.ok.inj hread).symm.trans hcollected

-- In either mode the usage of the response is recorded.
theorem served_usage {http : HttpRequest} {log : Log} {outcome : Except Failure MessageResponse}
    {event : UsageEventRecord} (hresponse : WellFormedResponse python fields message content usage)
    (hencodes : Encodes loads fields message content usage stream told)
    (h : (serveMessage python true http).Traces log outcome)
    (hgives : ProviderGives python (.Mapping fields) (values stream) log)
    (hmem : event ∈ usageEvents log) : event.usage = usage := by
  cases serveMessage_run h with
  | Raised log error hcreate => exact hcreate.reported_usage hresponse hencodes hgives hmem
  | Json log response hcreate => exact hcreate.reported_usage hresponse hencodes hgives hmem
  | Streamed created streamed audit ending hcreate hstream =>
      obtain ⟨hnone, -, hdecoder, -⟩ := hcreate.stream_unrecorded
      rw [usageEvents_append, hnone, List.nil_append] at hmem
      obtain ⟨request, hasked⟩ := hcreate.stream_asked
      have hevents : audit.events = values stream :=
        Except.ok.inj (hgives.converseStream request _ (List.mem_append_left streamed hasked))
      exact streamed_usage hencodes.spoken hencodes.usage hdecoder hevents hstream
        (hgives.drained.append _ streamed).2 hmem

end Served

-- A client of the stream has what a client of the response has, and both requests are
-- recorded with the same usage.
theorem streaming_parity (python : Interpreter) (loads : JsonReader)
    (fields message : List (String × Value)) (content : List Value) (usage : Usage)
    (stream : List (ProviderEvent python)) (told : Message)
    (hresponse : WellFormedResponse python fields message content usage)
    (hencodes : Encodes loads fields message content usage stream told) :
    (∀ messageId model log outcome,
      (ConverseStreamDecoder.iterSseEvents python { model := model, messageId := messageId }
        (values stream)).Traces log outcome → Drained log →
      ∃ reply seen, parseConverseResponse python (.Mapping fields) model = .ok reply ∧
        readReply reply = .ok seen ∧ assembleMessage loads (yieldedFrames log) = .ok seen) ∧
    ∀ http http' log log' outcome outcome',
      (serveMessage python true http).Traces log outcome →
      (serveMessage python true http').Traces log' outcome' →
      ProviderGives python (.Mapping fields) (values stream) log →
      ProviderGives python (.Mapping fields) (values stream) log' →
      ∀ event ∈ usageEvents log, ∀ event' ∈ usageEvents log', event.usage = event'.usage := by
  constructor
  · intro messageId model log outcome h hdrained
    obtain ⟨blocks, indices, hplain, hdelivers⟩ := hencodes.blocks
    obtain ⟨reply, hparse, hseen, -⟩ := readReply_parsed hresponse hplain hencodes model
    exact ⟨reply, _, hparse, hseen, stream_seen hencodes.spoken hdelivers h hdrained⟩
  · intro http http' log log' outcome outcome' h h' hgives hgives' event hmem event' hmem'
    rw [served_usage hresponse hencodes h hgives hmem,
      served_usage hresponse hencodes h' hgives' hmem']

section Samples

def sampleCall : List (String × Value) := [("toolUseId", .Str "call-1"), ("name", .Str "weather"),
  ("input", .Mapping [("city", .Str "Oslo")])]

def sampleContent : List Value := [
  .Mapping [("text", .Str "Let me look.")],
  .Mapping (member "toolUse" sampleCall)]

def sampleReplyMessage : List (String × Value) :=
  [("role", .Str "assistant"), ("content", .Sequence sampleContent)]

def sampleFields : List (String × Value) := [
  ("output", .Mapping (member "message" sampleReplyMessage)),
  ("stopReason", .Str "guardrail_intervened"),
  ("usage", sampleReport)]

theorem sampleFields_wellFormed :
    WellFormedResponse samplePython sampleFields sampleReplyMessage sampleContent sampleUsed where
  output := ⟨_, rfl, rfl⟩
  content := rfl
  stopReason := rfl
  requestMetadata := by
    intro metadata hmetadata
    cases hmetadata
  usage := rfl

theorem sampleStreamed_encodes : Encodes sampleReader sampleFields sampleReplyMessage sampleContent
    sampleUsed sampleStreamed
    ⟨.Str "assistant", sampleBlockEvents, "guardrail_intervened", some sampleUsed⟩ where
  spoken := tell_spoken sampleBlocks_delivered.interleaved _ _ _
  role := rfl
  blocks := ⟨sampleBlocks, [0, 1],
    .cons (.Text _ _ rfl) (.cons (.ToolUse _ sampleCall _ _ rfl rfl rfl rfl) .nil),
    sampleBlocks_delivered⟩
  stopReason := rfl
  usage := rfl

-- A provider with this response, in one piece and as a stream.
def parityProvider : (dependency : Dependency) → Except Failure dependency.Result
  | .Converse _ => .ok (.Mapping sampleFields)
  | .ConverseStream _ => .ok (values sampleStreamed)
  | dependency => sampleProvider dependency

def parityLog (stream : Bool) : Log :=
  ((sampleComponents.environment sampleIssued parityProvider).run
    (serveMessage samplePython true (sampleHttp stream))).1

theorem parityLog_given (stream : Bool) :
    ProviderGives samplePython (.Mapping sampleFields) (values sampleStreamed)
      (parityLog stream) where
  converse request := (sampleComponents.environment sampleIssued parityProvider).answersAs _
    (.Converse request)
  converseStream request := (sampleComponents.environment sampleIssued parityProvider).answersAs _
    (.ConverseStream request)
  parse response model := (sampleComponents.environment sampleIssued parityProvider).answersAs _
    (.ParseConverseResponse response model)
  drained := Environment.drained (fun _ => rfl) rfl (fun _ => rfl) _

theorem streaming_parity_sample :
    (∃ reply seen, parseConverseResponse samplePython (.Mapping sampleFields) .None = .ok reply ∧
      readReply reply = .ok seen ∧
      assembleMessage sampleReader (yieldedFrames (steadyEnvironment.run
        (ConverseStreamDecoder.iterSseEvents samplePython { model := .None, messageId := "msg-1" }
          (values sampleStreamed))).1) = .ok seen) ∧
    ∃ event ∈ usageEvents (parityLog false), ∃ event' ∈ usageEvents (parityLog true),
      event.usage = event'.usage := by
  have h := streaming_parity samplePython sampleReader sampleFields sampleReplyMessage
    sampleContent sampleUsed sampleStreamed _ sampleFields_wellFormed sampleStreamed_encodes
  constructor
  · exact h.1 "msg-1" .None _ _ (steadyEnvironment.traces_run _)
      (Environment.drained (fun _ => rfl) rfl (fun _ => rfl) _)
  · have hjson : ∃ event, (usageEvents (parityLog false))[0]? = some event := ⟨_, rfl⟩
    have hstream : ∃ event, (usageEvents (parityLog true))[0]? = some event := ⟨_, rfl⟩
    obtain ⟨event, hevent⟩ := hjson
    obtain ⟨event', hevent'⟩ := hstream
    have hmem := List.mem_of_getElem? hevent
    have hmem' := List.mem_of_getElem? hevent'
    exact ⟨event, hmem, event', hmem', h.2 _ _ _ _ _ _ (Environment.traces_run _ _)
      (Environment.traces_run _ _) (parityLog_given false) (parityLog_given true) event hmem event'
      hmem'⟩

end Samples

end ClaudeCodeProxy
