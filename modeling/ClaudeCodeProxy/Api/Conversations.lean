import ClaudeCodeProxy.Api.ConcurrentRequests
import ClaudeCodeProxy.Api.Envelopes
import ClaudeCodeProxy.Api.StreamParity
import ClaudeCodeProxy.Proxy.BedrockConverse.RoundTrips
import ClaudeCodeProxy.Proxy.BedrockConverse.SseFrames
import ClaudeCodeProxy.Proxy.BedrockConverse.StreamReplay

-- Conversations: a client that hands back every reply it has had, in one piece or as a stream, with
-- its next request.

namespace ClaudeCodeProxy

open Effects EventStream Lists Python RequestBuilder

section Calls

variable {python : Interpreter} {audited : Bool} {http : HttpRequest}

-- Every request that Bedrock gets was built from this body.
def SendsBuilt (body : Value) (log : Log) : Prop :=
  ∀ call ∈ log, ∀ request, sentRequest? call.1 = some request →
    ∃ model, answered (.BuildConverseRequest body model) (.ok request) ∈ log

theorem SendsBuilt.append_quiet {body : Value} {first second : Log} (h : SendsBuilt body first)
    (hquiet : stages second = []) : SendsBuilt body (first ++ second) := by
  intro call hcall request hsent
  rcases List.mem_append.mp hcall with hcall | hcall
  · obtain ⟨model, hbuilt⟩ := h call hcall request hsent
    exact ⟨model, List.mem_append_left _ hbuilt⟩
  · have hstage : call ∈ stages second :=
      List.mem_filter.mpr ⟨hcall, isStage_of_isBedrockCall (isBedrockCall_of_sent hsent)⟩
    rw [hquiet] at hstage
    cases hstage

-- The gates of a log and its calls of Bedrock tell what is sent.
theorem sendsBuilt_of_stages {body : Value} {log : Log} (h : SendsBuilt body (stages log)) :
    SendsBuilt body log := by
  intro call hcall request hsent
  have hstage : call ∈ stages log :=
    List.mem_filter.mpr ⟨hcall, isStage_of_isBedrockCall (isBedrockCall_of_sent hsent)⟩
  obtain ⟨model, hbuilt⟩ := h call hstage request hsent
  exact ⟨model, (List.mem_filter.mp hbuilt).1⟩

theorem sendsBuilt_of_quiet {body : Value} {log reached : Log} (hstages : stages log = reached)
    (hquiet : reached.all (fun answer => !isBedrockCall answer.1) = true) :
    SendsBuilt body log := by
  apply sendsBuilt_of_stages
  rw [hstages]
  intro call hcall request hsent
  have hother := List.all_eq_true.mp hquiet call hcall
  rw [isBedrockCall_of_sent hsent] at hother
  cases hother

theorem sendsBuilt_of_built {body : Value} {log reached : Log} {invocation : Answer runtime}
    {model : ResolvedModel} {converseRequest : ConverseRequest}
    (hstages : stages log = reached ++ [invocation])
    (hquiet : reached.all (fun answer => !isBedrockCall answer.1) = true)
    (hsent : sentRequest? invocation.1 = some converseRequest)
    (hbuilt : answered (.BuildConverseRequest body model) (.ok converseRequest) ∈ reached) :
    SendsBuilt body log := by
  apply sendsBuilt_of_stages
  rw [hstages]
  intro call hcall request hrequest
  rcases List.mem_append.mp hcall with hcall | hcall
  · have hother := List.all_eq_true.mp hquiet call hcall
    rw [isBedrockCall_of_sent hrequest] at hother
    cases hother
  · rw [List.mem_singleton.mp hcall, hsent] at hrequest
    cases hrequest
    exact ⟨model, List.mem_append_left _ hbuilt⟩

theorem MessageRun.sendsBuilt {body : Value} {log : Log} {outcome : Except Failure MessageResponse}
    (h : MessageRun python audited http log outcome) (hbody : http.json = .ok body) :
    SendsBuilt body log := by
  rcases h.split with ⟨other, idLog, tail, requestId, startedAt, authenticated, result, hjson, hid,
      rfl, -, hpipeline⟩ | ⟨error, -, rfl⟩ |
    ⟨other, idLog, record, requestId, startedAt, error, -, hid, rfl, hrecord, -⟩
  · rw [hbody] at hjson
    cases hjson
    obtain ⟨reached, hquiet, ⟨hreached, -⟩ | ⟨invocation, hreached, hinvoking⟩⟩ :=
      hpipeline.reached
    · have hstages := @stages_authenticated http idLog tail requestId startedAt (.ok authenticated)
        hid
      rw [hreached] at hstages
      exact sendsBuilt_of_quiet hstages hquiet
    · obtain ⟨model, converseRequest, hsent, hbuilt⟩ := hinvoking.built
      have hstages := @stages_authenticated http idLog tail requestId startedAt (.ok authenticated)
        hid
      rw [hreached] at hstages
      exact @sendsBuilt_of_built body _ (_ :: reached) _ _ _ hstages hquiet hsent (.tail _ hbuilt)
  · exact sendsBuilt_of_quiet rfl rfl
  · have hstages := @stages_authenticated http idLog record requestId startedAt (.error error) hid
    rw [hrecord] at hstages
    exact sendsBuilt_of_quiet hstages rfl

theorem CountRun.sendsBuilt {body : Value} {log : Log} {outcome : Except Failure MessageResponse}
    (h : CountRun python http log outcome) (hbody : http.json = .ok body) :
    SendsBuilt body log := by
  rcases h.split with ⟨error, -, rfl⟩ | ⟨other, idLog, tail, requestId, result, hjson, hid, rfl,
    htail⟩
  · exact sendsBuilt_of_quiet rfl rfl
  rw [hbody] at hjson
  cases hjson
  have hstages : stages (idLog ++ tail) = stages tail := by
    rw [stages_append, hid.quiet.1, List.nil_append]
  cases htail with
  | Called authenticated model resolvedModel converseRequest reply hmodel =>
      exact @sendsBuilt_of_built body _ [_, _, _] _ _ _ hstages rfl rfl
        (.tail _ (.tail _ (.head _)))
  | _ => exact sendsBuilt_of_quiet hstages rfl

theorem sendsBuilt_program (incoming : Incoming) {body : Value} {log : Log}
    {outcome : Except Failure MessageResponse}
    (h : (incoming.program python audited).Traces log outcome)
    (hbody : incoming.http.json = .ok body) : SendsBuilt body log := by
  unfold Incoming.program at h
  cases hendpoint : incoming.endpoint with
  | CreateMessage =>
      rw [hendpoint] at h
      cases serveMessage_run h with
      | Raised log error hcreate => exact hcreate.sendsBuilt hbody
      | Json log response hcreate => exact hcreate.sendsBuilt hbody
      | Streamed created streamed stream ending hcreate hstream =>
          exact (hcreate.sendsBuilt hbody).append_quiet (streamWithAudit_stages hstream).1
  | CountTokens =>
      rw [hendpoint] at h
      exact (countTokens_run h).sendsBuilt hbody

end Calls

section Replies

-- The block as Bedrock has it in a history.
def StreamBlock.wrapped : StreamBlock → Value
  | .Text text => textBlock (.Str text)
  | .ToolUse toolUseId name input => .Mapping [("toolUse", .Mapping [
      ("toolUseId", toolUseId), ("name", name), ("input", input)])]
  | .Reasoning text => .Mapping [("reasoningContent", .Mapping [
      ("reasoningText", textBlock (.Str text))])]

-- A text, or a call of a tool with an id and a name.
def StreamBlock.plain : StreamBlock → Bool
  | .Text _ | .ToolUse (.Str _) (.Str _) _ => true
  | _ => false

-- The blocks are those of the response.
structure GivesReply (python : Interpreter) (response : Value) (blocks : List StreamBlock) :
    Prop where
  plain : blocks.all StreamBlock.plain = true
  told : ∃ fields message content usage, response = .Mapping fields ∧
    WellFormedResponse python fields message content usage ∧
    (Value.lookup message "role").getD (.Str "assistant") = .Str "assistant" ∧
    List.Forall₂ ToldBlock content blocks

-- The blocks are those of the stream, in whatever pieces and order their events come.
structure GivesStream (python : Interpreter) (loads : JsonReader) (events : List Value)
    (blocks : List StreamBlock) : Prop where
  plain : blocks.all StreamBlock.plain = true
  told : ∃ (stream : List (ProviderEvent python)) (message : Message) (indices : List Int),
    events = values stream ∧ message.Spoken stream ∧ message.role = .Str "assistant" ∧
    Delivers loads message.blocks indices blocks

-- Whenever the provider is asked it says these blocks, and its streams do not break off.
structure ProviderSays (python : Interpreter) (loads : JsonReader) (log : Log)
    (blocks : List StreamBlock) : Prop where
  converse : ∀ request response, answered (.Converse request) (.ok response) ∈ log →
    GivesReply python response blocks
  converseStream : ∀ request events, answered (.ConverseStream request) (.ok events) ∈ log →
    GivesStream python loads events blocks
  parse : ∀ response model, AnswersAs log (.ParseConverseResponse response model)
    (raising (parseConverseResponse python response model))
  drained : Drained log

variable {python : Interpreter} {audited : Bool} {loads : JsonReader} {http : HttpRequest}
  {blocks : List StreamBlock} {seen : ClientMessage}

theorem readReply_errorContent (error : ServiceError) :
    readReply (errorContent error) ≠ .ok seen := by
  intro h
  cases h

theorem readReply_errorResponse {error : Failure} {requestId : String} {response : JSONResponse}
    (h : errorResponse error requestId = .ok (.Json response)) :
    readReply response.content ≠ .ok seen := by
  rw [errorResponse_eq, serviceErrorResponse_eq] at h
  split_ifs at h
  · cases h
    exact readReply_errorContent _
  · cases h

theorem content_jsonResponse {parsed : Value} {response : JSONResponse}
    (h : (jsonResponse 200 parsed).map MessageResponse.Json = .ok (.Json response)) :
    response.content = parsed := by
  unfold jsonResponse at h
  split_ifs at h
  · cases h
    rfl
  · cases h

-- What a client can read as a reply is what the parser made of a response of the provider.
def Relays (log : Log) (content : Value) : Prop :=
  ∃ request response model, answered (.Converse request) (.ok response) ∈ log ∧
    answered (.ParseConverseResponse response model) (.ok content) ∈ log

theorem Relays.append {first second : Log} {content : Value} (h : Relays second content) :
    Relays (first ++ second) content := by
  obtain ⟨request, response, model, hconverse, hparse⟩ := h
  exact ⟨request, response, model, List.mem_append_right _ hconverse,
    List.mem_append_right _ hparse⟩

theorem InvocationRun.relays {admission : Admission} {log : Log} {response : JSONResponse}
    (h : InvocationRun python audited admission log (.ok (.Json response))) :
    Relays log response.content := by
  generalize houtcome : Except.ok (MessageResponse.Json response) = outcome at h
  cases h with
  | Unlogged converseRequest rawResponse parsedResponse hstream haudited =>
      rw [content_jsonResponse houtcome.symm]
      exact ⟨converseRequest, rawResponse, _, .tail _ (.head _), .tail _ (.tail _ (.head _))⟩
  | Recorded converseRequest rawResponse parsedResponse usage record hstream haudited husage
      hrecord =>
      rw [content_jsonResponse houtcome.symm]
      exact ⟨converseRequest, rawResponse, _, .tail _ (.head _), .tail _ (.tail _ (.head _))⟩
  | _ => cases houtcome

theorem DenyRun.unread {requestId denialReason : String}
    {authenticated : AuthenticatedRequestContext} {model : Value} {resolvedModel : Option String}
    {policyDecision : PolicyDecision} {refusal : ServiceError} {log : Log}
    {response : JSONResponse}
    (h : DenyRun audited requestId denialReason authenticated model resolvedModel policyDecision
      refusal log (.ok (.Json response))) : readReply response.content ≠ .ok seen := by
  generalize houtcome : Except.ok (MessageResponse.Json response) = outcome at h
  cases h with
  | Unlogged haudited => exact readReply_errorResponse houtcome.symm
  | Logged haudited hrecord => exact readReply_errorResponse houtcome.symm
  | Lost error haudited hrecord => cases houtcome

theorem PipelineRun.relays {body : Value} {requestId : String} {startedAt : Rat}
    {authenticated : AuthenticatedRequestContext} {log : Log} {response : JSONResponse}
    (h : PipelineRun python audited body requestId startedAt authenticated log
      (.ok (.Json response))) (hread : readReply response.content = .ok seen) :
    Relays log response.content := by
  generalize houtcome : Except.ok (MessageResponse.Json response) = outcome at h
  cases h with
  | PolicyDenied model resolvedModel policyDecision record outcome hmodel hdenied hrecord =>
      subst houtcome
      exact absurd hread hrecord.unread
  | QuotaDenied model resolvedModel policyDecision quotaDecision record outcome hmodel hpolicy
      hdenied hrecord =>
      subst houtcome
      exact absurd hread hrecord.unread
  | RateDenied model resolvedModel policyDecision quotaDecision user rateLimitDecision record
      outcome hmodel hpolicy hquota huser hdenied hrecord =>
      subst houtcome
      exact absurd hread hrecord.unread
  | Admitted admission user rateLimitDecision tail outcome hbody hid hstart hauthenticated hmodel
      hpolicy hquota huser hrate hinvocation =>
      subst houtcome
      exact @Relays.append [_, _, _, _] tail response.content hinvocation.relays
  | _ => cases houtcome

theorem MessageRun.relays {log : Log} {response : JSONResponse}
    (h : MessageRun python audited http log (.ok (.Json response)))
    (hread : readReply response.content = .ok seen) : Relays log response.content := by
  generalize houtcome : Except.ok (MessageResponse.Json response) = outcome at h
  cases h with
  | Unauthenticated body idLog requestId startedAt error hbody hid haudited =>
      exact absurd hread (readReply_errorResponse houtcome.symm)
  | Refused body model idLog record requestId startedAt error hbody hid haudited hmodel hrecord =>
      exact absurd hread (readReply_errorResponse houtcome.symm)
  | Authenticated body idLog tail requestId startedAt authenticated result hbody hid hpipeline =>
      cases result with
      | error error => exact absurd hread (readReply_errorResponse houtcome.symm)
      | ok answer =>
          cases houtcome
          exact (@Relays.append [_, _] tail _ (hpipeline.relays hread)).append
  | _ => cases houtcome

-- The message that a client keeps of a reply.
def ClientMessage.turn (message : ClientMessage) : Value :=
  .Mapping [("role", message.role), ("content", message.content)]

def replyTurn (blocks : List StreamBlock) : Value :=
  assistantMessage (blocks.map StreamBlock.content)

theorem GivesReply.turn_eq {response content model : Value} (h : GivesReply python response blocks)
    (hparse : parseConverseResponse python response model = .ok content)
    (hread : readReply content = .ok seen) : seen.turn = replyTurn blocks := by
  obtain ⟨fields, message, told, usage, rfl, hresponse, hrole, htold⟩ := h.told
  have hparts : List.Forall₂ BlockParsed told (blocks.map StreamBlock.parsed) :=
    List.forall₂_map_right_iff.mpr (htold.imp fun _ _ => ToldBlock.parsed)
  obtain ⟨reply, hreply, hreplies⟩ := parseConverseResponse_ok hresponse hparts model
  rw [hparse] at hreply
  cases hreply
  have hrole' := Value.item_mapping _ _ _ hreplies.role
  have hcontent := Value.item_mapping _ _ _ hreplies.content
  have hstop := Value.item_mapping _ _ _ hreplies.stopReason
  have husage := Value.item_mapping _ _ _ hreplies.usage
  rw [readReply, hrole', hcontent, hstop, husage, hrole, join_parsed] at hread
  cases hread
  rfl

theorem GivesStream.turn_eq {events : List Value} {model : Value} {log : Log}
    {outcome : Except Failure (Ending × ConverseStreamDecoder)}
    (h : GivesStream python loads events blocks)
    (htraces : (ConverseStreamDecoder.iterSseEvents python { model := model } events).Traces log
      outcome) (hdrained : Drained log)
    (hread : assembleMessage loads (yieldedFrames log) = .ok seen) :
    seen.turn = replyTurn blocks := by
  obtain ⟨stream, message, indices, rfl, hspoken, hrole, hdelivers⟩ := h.told
  obtain ⟨frames, next, last, final, hadvance, hflushed, hmessage⟩ :=
    @advance_spoken python { model := model } message stream hspoken rfl rfl
  have hframes := (drained_frames htraces hdrained hadvance hflushed).1
  rw [hframes, hmessage, assembleMessage_frames hdelivers, hrole] at hread
  cases hread
  rfl

theorem yieldedFrames_recordAdmitted {admission : Admission} {usage : Value} {log : Log}
    {outcome : Except Failure Unit}
    (h : (recordAdmitted python admission usage).Traces log outcome) : yieldedFrames log = [] := by
  obtain ⟨now, record, rfl, hrecord⟩ := recordAdmitted_run h
  cases hrecord <;> rfl

-- The frames of a served stream are those of its decoder.
theorem streamWithAudit_frames {stream : AuditedStream} {log : Log}
    {outcome : Except Failure Ending}
    (h : (streamWithAudit python audited stream).Traces log outcome) :
    ∃ frames record result, log = frames ++ record ∧ yieldedFrames record = [] ∧
      (stream.decoder.iterSseEvents python stream.events).Traces frames result := by
  simp only [streamWithAudit, Program.traces_bind] at h
  rcases h with ⟨error, hframes, rfl⟩ | ⟨frames, tail, ⟨ending, final⟩, rfl, hframes, h⟩
  · exact ⟨log, [], _, (List.append_nil log).symm, rfl, hframes⟩
  refine ⟨frames, tail, _, rfl, ?_, hframes⟩
  cases haudited : audited with
  | false =>
      simp only [haudited, Bool.false_eq_true, ite_false] at h
      cases ending <;> rw [h.1] <;> rfl
  | true =>
      simp only [haudited, ite_true, Program.traces_bind] at h
      rcases h with ⟨error, hrecord, -⟩ | ⟨record, rest, _, rfl, hrecord, hrest⟩
      · exact yieldedFrames_recordAdmitted hrecord
      · have hnil : rest = [] := by cases ending <;> exact hrest.1
        rw [hnil, List.append_nil]
        exact yieldedFrames_recordAdmitted hrecord

theorem MessageRun.no_frames {log : Log} {stream : AuditedStream}
    (h : MessageRun python audited http log (.ok (.Streaming stream))) :
    yieldedFrames log = [] := by
  obtain ⟨body, idLog, tail, requestId, startedAt, authenticated, -, hid, rfl, hpipeline⟩ :=
    h.streaming
  obtain ⟨-, -, -, -, user, rateLimitDecision, converseRequest, -, -, -, rfl⟩ := hpipeline.streaming
  rw [yieldedFrames_append]
  cases hid <;> rfl

end Replies

section Conversations

-- What a client makes of the bytes of a stream.
def readStream (loads : JsonReader) (chunks : List (List UInt8)) : Option ClientMessage :=
  readFrames loads chunks >>= fun frames => (assembleMessage loads frames).toOption

variable (dumps : Value → String) (loads : JsonReader)

-- A client has read the message in the response, or in the bytes of the stream, cut anywhere.
inductive Received (log : Log) : MessageResponse → ClientMessage → Prop
  | Json (response : JSONResponse) (seen : ClientMessage)
      (hread : readReply response.content = .ok seen) : Received log (.Json response) seen
  | Stream (stream : AuditedStream) (chunks : List (List UInt8)) (seen : ClientMessage)
      (hserialises : ∀ frame ∈ yieldedFrames log, Serialises dumps loads frame.payload)
      (hchunks : chunks.flatten =
        (yieldedFrames log).flatMap fun frame => utf8 (sseFrame dumps frame.event frame.payload))
      (hread : readStream loads chunks = some seen) : Received log (.Streaming stream) seen

-- The messages of a client, and where among them which replies are.
inductive Conversation (python : Interpreter) (audited : Bool) :
    List Value → List (Nat × List StreamBlock) → Prop
  | Start : Conversation python audited [] []
  | Reply {messages : List Value} {replies : List (Nat × List StreamBlock)}
      (h : Conversation python audited messages replies) (asked : List Value) (http : HttpRequest)
      (fields : Fields) (hbody : http.json = .ok (.Mapping fields))
      (hmessages : Value.lookup fields "messages" = some (.Sequence (messages ++ asked)))
      (log : Log) (response : MessageResponse)
      (htraces : (serveMessage python audited http).Traces log (.ok response))
      (blocks : List StreamBlock) (hprovider : ProviderSays python loads log blocks)
      (seen : ClientMessage) (hreceived : Received dumps loads log response seen) :
      Conversation python audited (messages ++ asked ++ [seen.turn])
        (replies ++ [((messages ++ asked).length, blocks)])

variable {dumps loads} {python : Interpreter} {audited : Bool}

-- The bytes of a stream hold the frames of its decoder.
theorem readFrames_yielded {decoder : ConverseStreamDecoder} {events : List Value} {frames : Log}
    {outcome : Except Failure (Ending × ConverseStreamDecoder)}
    (h : (decoder.iterSseEvents python events).Traces frames outcome)
    (hserialises : ∀ frame ∈ yieldedFrames frames, Serialises dumps loads frame.payload)
    {chunks : List (List UInt8)} (hchunks : chunks.flatten =
      (yieldedFrames frames).flatMap fun frame => utf8 (sseFrame dumps frame.event frame.payload)) :
    readFrames loads chunks = some (yieldedFrames frames) := by
  obtain ⟨ending, final, -, hiteration⟩ := iterSseEvents_run h
  have hsendable : ∀ event ∈ (yieldedFrames frames).map (Frame.told dumps), event.Sendable := by
    intro event hm
    obtain ⟨frame, hframe, rfl⟩ := List.mem_map.mp hm
    exact Frame.told_sendable (hiteration.wellNamed frame hframe) (hserialises frame hframe)
  rw [readFrames, readEvents_text hsendable (by rw [hchunks, List.flatMap_map]; rfl)]
  refine mapM_written fun frame hm => ?_
  rw [readFrame, Frame.told, (hserialises frame hm).inverted]
  rfl

-- A served stream in its parts: what makes it, the decoder's iteration, and what is recorded.
theorem served_stream {http : HttpRequest} {log : Log} {stream : AuditedStream}
    (h : (serveMessage python audited http).Traces log (.ok (.Streaming stream))) :
    ∃ created frames record result, log = created ++ (frames ++ record) ∧
      MessageRun python audited http created (.ok (.Streaming stream)) ∧
      (stream.decoder.iterSseEvents python stream.events).Traces frames result ∧
      yieldedFrames log = yieldedFrames frames := by
  have hserved := serveMessage_run h
  cases hserved with
  | Streamed created streamed stream ending hcreate hstream =>
      obtain ⟨frames, record, result, rfl, hnone, hframes⟩ := streamWithAudit_frames hstream
      refine ⟨created, frames, record, result, rfl, hcreate, hframes, ?_⟩
      rw [yieldedFrames_append, yieldedFrames_append, hcreate.no_frames, hnone, List.append_nil,
        List.nil_append]

theorem readFrames_served {http : HttpRequest} {log : Log} {stream : AuditedStream}
    (h : (serveMessage python audited http).Traces log (.ok (.Streaming stream)))
    (hserialises : ∀ frame ∈ yieldedFrames log, Serialises dumps loads frame.payload)
    {chunks : List (List UInt8)} (hchunks : chunks.flatten =
      (yieldedFrames log).flatMap fun frame => utf8 (sseFrame dumps frame.event frame.payload)) :
    readFrames loads chunks = some (yieldedFrames log) := by
  obtain ⟨created, frames, record, result, -, -, hframes, hyielded⟩ := served_stream h
  rw [hyielded] at hserialises hchunks ⊢
  exact readFrames_yielded hframes hserialises hchunks

theorem Received.turn {http : HttpRequest} {log : Log} {response : MessageResponse}
    {blocks : List StreamBlock} {seen : ClientMessage}
    (h : Received dumps loads log response seen)
    (htraces : (serveMessage python audited http).Traces log (.ok response))
    (hprovider : ProviderSays python loads log blocks) :
    blocks.all StreamBlock.plain = true ∧ seen.turn = replyTurn blocks := by
  cases h with
  | Json response seen hread =>
      have hserved := serveMessage_run htraces
      cases hserved with
      | Json log response hcreate =>
          obtain ⟨request, rawResponse, model, hconverse, hparse⟩ := hcreate.relays hread
          have hgives := hprovider.converse request rawResponse hconverse
          have hparsed := raising_eq_ok (hprovider.parse rawResponse model _ hparse).symm
          exact ⟨hgives.plain, hgives.turn_eq hparsed hread⟩
  | Stream stream chunks seen hserialises hchunks hread =>
      rw [readStream, readFrames_served htraces hserialises hchunks] at hread
      obtain ⟨created, frames, record, result, rfl, hcreate, hframes, hyielded⟩ :=
        served_stream htraces
      obtain ⟨request, hasked⟩ := hcreate.stream_asked
      have hgives := hprovider.converseStream request stream.events
        (List.mem_append_left _ hasked)
      obtain ⟨-, -, hdecoder, -⟩ := hcreate.stream_unrecorded
      rw [hdecoder] at hframes
      have hdrained := ((hprovider.drained.append _ _).2.append _ _).1
      rw [hyielded, Option.bind_eq_bind, Option.bind_some] at hread
      cases hassembled : assembleMessage loads (yieldedFrames frames) with
      | error error =>
          rw [hassembled] at hread
          cases hread
      | ok message =>
          rw [hassembled] at hread
          cases hread
          exact ⟨hgives.plain, hgives.turn_eq hframes hdrained hassembled⟩

-- The client has each reply where it came in, as the provider said it.
theorem Conversation.holds {messages : List Value} {replies : List (Nat × List StreamBlock)}
    (h : Conversation dumps loads python audited messages replies) :
    ∀ reply ∈ replies, reply.2.all StreamBlock.plain = true ∧
      messages[reply.1]? = some (replyTurn reply.2) := by
  induction h with
  | Start => exact List.forall_mem_nil _
  | @Reply messages replies h asked http fields hbody hmessages log response htraces blocks
      hprovider seen hreceived ih =>
      obtain ⟨hplain, hturn⟩ := hreceived.turn htraces hprovider
      refine List.forall_mem_append.mpr ⟨?_, ?_⟩
      · intro reply hm
        obtain ⟨hold, hat⟩ := ih reply hm
        have hlt : reply.1 < messages.length := (List.getElem?_eq_some_iff.mp hat).1
        refine ⟨hold, ?_⟩
        rw [List.append_assoc, List.getElem?_append_left hlt]
        exact hat
      · rw [List.forall_mem_singleton]
        refine ⟨hplain, ?_⟩
        rw [List.getElem?_concat_length, hturn]

theorem BlockRendered.wrapped {block : StreamBlock} {rendered : Value}
    (h : BlockRendered (printedText python) "assistant" block.content rendered)
    (hplain : block.plain = true) : rendered = block.wrapped := by
  cases block with
  | Text text => exact h.eq_text rfl
  | Reasoning text => cases hplain
  | ToolUse toolUseId name input =>
      cases toolUseId with
      | Str id =>
          cases name with
          | Str name => exact h.eq_toolUse rfl
          | _ => cases hplain
      | _ => cases hplain

theorem wrapped_of_rendered {blocks : List StreamBlock} {rendered : List Value}
    (h : List.Forall₂ (fun block => BlockRendered (printedText python) "assistant"
      (StreamBlock.content block)) blocks rendered)
    (hplain : blocks.all StreamBlock.plain = true) : rendered = blocks.map StreamBlock.wrapped := by
  induction h with
  | nil => rfl
  | @cons block first blocks rest hblock hblocks ih =>
      rw [List.all_cons, Bool.and_eq_true] at hplain
      rw [hblock.wrapped hplain.1, ih hplain.2, List.map_cons]

theorem MessageRendered.of_replyTurn {reasoningEnabled : Bool} {blocks : List StreamBlock}
    {rendered : Value} (hplain : blocks.all StreamBlock.plain = true)
    (h : MessageRendered (printedText python) reasoningEnabled (replyTurn blocks) rendered) :
    rendered = assistantMessage (blocks.map StreamBlock.wrapped) := by
  generalize hmessage : replyTurn blocks = message at h
  cases h with
  | @Message fields role thinking content hrole hsupported hthinking hcontent =>
      cases hmessage
      have hassistant : printedText python [("role", .Str "assistant"),
          ("content", .Sequence (blocks.map StreamBlock.content))] "role" = .Str "assistant" :=
        printedText_of_lookup python rfl
      rw [hassistant] at hrole
      cases hrole
      have hnone : thinking = [] := by
        cases reasoningEnabled <;> exact List.forall₂_nil_left_iff.mp hthinking
      rw [hnone, wrapped_of_rendered (List.forall₂_map_left_iff.mp hcontent) hplain,
        List.nil_append]
      rfl

-- Every request of the conversation, whatever it asks and whichever way, shows Bedrock the
-- replies so far as Bedrock has said them.
theorem replies_handed_back {messages : List Value} {replies : List (Nat × List StreamBlock)}
    (h : Conversation dumps loads python audited messages replies) (incoming : Incoming)
    (fields : Fields) (asked : List Value) (hbody : incoming.http.json = .ok (.Mapping fields))
    (hmessages : Value.lookup fields "messages" = some (.Sequence (messages ++ asked)))
    (log : Log) (outcome : Except Failure MessageResponse)
    (htraces : (incoming.program python audited).Traces log outcome)
    (hbuilds : ∀ body model, AnswersAs log (.BuildConverseRequest body model)
      (buildConverseRequest python body model)) :
    ∀ call ∈ log, ∀ request, sentRequest? call.1 = some request →
      ∃ sent, request.payload.item "messages" = .ok (.Sequence sent) ∧
        ∀ reply ∈ replies,
          sent[reply.1]? = some (assistantMessage (reply.2.map StreamBlock.wrapped)) := by
  intro call hcall request hsent
  obtain ⟨model, hbuilt⟩ := sendsBuilt_program incoming htraces hbody call hcall request hsent
  have hrequest := (hbuilds _ model _ hbuilt).symm
  obtain ⟨parts, hparts, rfl⟩ := buildConverseRequest_ok_iff.mp hrequest
  have hraw : parts.rawMessages = messages ++ asked := by
    have hiterated := hparts.iterated
    rw [requestMessages, getField, Value.get_mapping, hmessages] at hiterated
    exact (Except.ok.inj hiterated).symm
  refine ⟨parts.messages, Value.item_eq_ok.mpr parts.lookup_messages, ?_⟩
  intro reply hm
  obtain ⟨hplain, hat⟩ := h.holds reply hm
  have hlt : reply.1 < messages.length := (List.getElem?_eq_some_iff.mp hat).1
  have hindex : parts.rawMessages[reply.1]? = some (replyTurn reply.2) := by
    rw [hraw, List.getElem?_append_left hlt]
    exact hat
  obtain ⟨rendered, hsent, hrendered⟩ := forall₂_getElem? hparts.rendered hindex
  rw [hsent, hrendered.of_replyTurn hplain]

end Conversations

section Samples

def sampleTalk : Environment := sampleComponents.environment sampleIssued parityProvider

def sampleQuestionTurn : Value := .Mapping [("role", .Str "user"), ("content", .Str "Hi.")]

def sampleSaid : ClientMessage where
  role := .Str "assistant"
  content := .Sequence (sampleBlocks.map StreamBlock.content)
  stopReason := .Str "end_turn"
  usage := sampleUsed.toValue

-- The next question, streamed.
def sampleNextFields : Fields := [
  ("model", .Str "claude-sonnet-4"),
  ("messages", .Sequence [sampleQuestionTurn, sampleSaid.turn, sampleQuestionTurn]),
  ("stream", .Boolean true)]

def sampleNextHttp : HttpRequest :=
  { json := .ok (.Mapping sampleNextFields), authorization := some "Bearer vk_first" }

abbrev sampleNextLog : Log :=
  (sampleTalk.run (serveMessage samplePython true sampleNextHttp)).1

def sampleNextFrames : List Frame := yieldedFrames sampleNextLog

-- `json.dumps` as far as the frames go: printable texts, integers and names.
def quotedText (text : String) : List Char :=
  '"' :: text.toList.flatMap (fun c => if c = '"' ∨ c = '\\' then ['\\', c] else [c]) ++ ['"']

mutual

def jsonText : Value → List Char
  | .None => "null".toList
  | .Boolean b => (if b then "true" else "false").toList
  | .Integer n => (toString n).toList
  | .Float _ | .Dictionary _ => []
  | .Str text => quotedText text
  | .Sequence items => '[' :: jsonItems items ++ [']']
  | .Mapping entries => '\x7b' :: jsonEntries entries ++ ['\x7d']
termination_by structural value => value

def jsonItems : List Value → List Char
  | [] => []
  | [item] => jsonText item
  | item :: next :: rest => jsonText item ++ ", ".toList ++ jsonItems (next :: rest)
termination_by structural items => items

def jsonEntries : List (String × Value) → List Char
  | [] => []
  | [entry] => jsonEntry entry
  | entry :: next :: rest => jsonEntry entry ++ ", ".toList ++ jsonEntries (next :: rest)
termination_by structural entries => entries

def jsonEntry : String × Value → List Char
  | (key, value) => quotedText key ++ ": ".toList ++ jsonText value
termination_by structural entry => entry

end

def talkDumps (payload : Value) : String := String.ofList (jsonText payload)

-- `json.loads` of the documents of the talk.
def talkDocuments : List Value :=
  .Mapping [("city", .Str "Oslo")] :: sampleNextFrames.map Frame.payload

def talkLoads : JsonReader := fun document =>
  match talkDocuments.find? fun value => jsonText value = document.toList with
  | some value => .ok value
  | none => .error .ValueError

theorem talkFrames_serialise :
    ∀ frame ∈ sampleNextFrames, Serialises talkDumps talkLoads frame.payload := by
  have hall : (sampleNextFrames.all fun frame =>
      (jsonText frame.payload).all (fun c => c ≠ '\n' ∧ c ≠ '\r') &&
        talkDocuments.find? (fun value => jsonText value = jsonText frame.payload) ==
          some frame.payload) = true := by decide +kernel
  intro frame hm
  obtain ⟨hline, hfound⟩ := (Bool.and_eq_true _ _).mp (List.all_eq_true.mp hall frame hm)
  refine ⟨?_, ?_⟩
  · rw [OneLine, talkDumps, String.toList_ofList]
    have hplain := fun c hc => of_decide_eq_true (List.all_eq_true.mp hline c hc)
    exact ⟨fun hc => (hplain _ hc).2 rfl, fun hc => (hplain _ hc).1 rfl⟩
  · rw [talkLoads, talkDumps, String.toList_ofList, eq_of_beq hfound]

theorem talkBlocks_delivered : Delivers talkLoads sampleBlockEvents [0, 1] sampleBlocks where
  ordered := by decide
  whole := .cons ⟨_, .Text ["Let me ", "look."], rfl⟩
    (.cons ⟨_, .ToolUse _ _ _ ["\x7b\"city\": ", "\"Oslo\"\x7d"] (by decide) rfl, rfl⟩ .nil)
  covered := by decide

theorem sampleTalk_provider (program : Runtime α) :
    ProviderSays samplePython talkLoads (sampleTalk.run program).1 sampleBlocks where
  converse request response hm := by
    cases sampleTalk.answersAs program (.Converse request) _ hm
    exact ⟨rfl, _, _, _, _, rfl, sampleFields_wellFormed, rfl,
      .cons (.Text _ _ rfl) (.cons (.ToolUse _ sampleCall _ _ rfl rfl rfl rfl) .nil)⟩
  converseStream request events hm := by
    cases sampleTalk.answersAs program (.ConverseStream request) _ hm
    exact ⟨rfl, sampleStreamed, _, [0, 1], rfl, sampleStreamed_encodes.spoken, rfl,
      talkBlocks_delivered⟩
  parse response model := sampleTalk.answersAs program (.ParseConverseResponse response model)
  drained := Environment.drained (fun _ => rfl) rfl (fun _ => rfl) _

theorem sampleConversation_first : Conversation talkDumps talkLoads samplePython true
    [sampleQuestionTurn, sampleSaid.turn] [(1, sampleBlocks)] := by
  obtain ⟨response, hresponse, hread⟩ : ∃ response : JSONResponse,
      (sampleTalk.run (serveMessage samplePython true (sampleHttp false))).2 =
        .ok (.Json response) ∧ readReply response.content = .ok sampleSaid := ⟨_, rfl, rfl⟩
  have htraces := sampleTalk.traces_run (serveMessage samplePython true (sampleHttp false))
  rw [hresponse] at htraces
  exact .Reply .Start [sampleQuestionTurn] (sampleHttp false) (sampleBody false) rfl rfl _ _
    htraces sampleBlocks (sampleTalk_provider _) sampleSaid (.Json response sampleSaid hread)

theorem sampleNextFrames_assembled :
    ∃ seen, assembleMessage talkLoads sampleNextFrames = .ok seen ∧
      seen.turn = sampleSaid.turn := by
  have hassembled : (assembleMessage talkLoads sampleNextFrames).toOption.map
      ClientMessage.turn = some sampleSaid.turn := by decide +kernel
  cases hresult : assembleMessage talkLoads sampleNextFrames with
  | error error =>
      rw [hresult] at hassembled
      cases hassembled
  | ok seen =>
      rw [hresult] at hassembled
      exact ⟨seen, rfl, Option.some.inj hassembled⟩

-- One reply in one piece, and one as a stream that comes in two pieces.
theorem sampleConversation : Conversation talkDumps talkLoads samplePython true
    [sampleQuestionTurn, sampleSaid.turn, sampleQuestionTurn, sampleSaid.turn]
    [(1, sampleBlocks), (3, sampleBlocks)] := by
  obtain ⟨stream, hstream⟩ : ∃ stream : AuditedStream,
      (sampleTalk.run (serveMessage samplePython true sampleNextHttp)).2 =
        .ok (.Streaming stream) := ⟨_, rfl⟩
  have htraces := sampleTalk.traces_run (serveMessage samplePython true sampleNextHttp)
  rw [hstream] at htraces
  obtain ⟨seen, hassembled, hturn⟩ := sampleNextFrames_assembled
  let bytes := sampleNextFrames.flatMap fun frame =>
    utf8 (sseFrame talkDumps frame.event frame.payload)
  have hchunks : [bytes.take 100, bytes.drop 100].flatten = bytes := by
    simp [List.take_append_drop]
  have hread : readStream talkLoads [bytes.take 100, bytes.drop 100] = some seen := by
    rw [readStream, readFrames_served htraces talkFrames_serialise hchunks]
    show (assembleMessage talkLoads sampleNextFrames).toOption = _
    rw [hassembled]
    rfl
  have hnext := Conversation.Reply sampleConversation_first [sampleQuestionTurn] sampleNextHttp
    sampleNextFields rfl rfl _ _ htraces sampleBlocks (sampleTalk_provider _) seen
    (.Stream stream _ seen talkFrames_serialise hchunks hread)
  rw [hturn] at hnext
  exact hnext

-- The next question after those, streamed as well.
def sampleLastFields : Fields := [
  ("model", .Str "claude-sonnet-4"),
  ("messages", .Sequence [sampleQuestionTurn, sampleSaid.turn, sampleQuestionTurn, sampleSaid.turn,
    sampleQuestionTurn]),
  ("stream", .Boolean true)]

def sampleLast : Incoming where
  number := 2
  endpoint := .CreateMessage
  http := { json := .ok (.Mapping sampleLastFields), authorization := some "Bearer vk_first" }

theorem replies_handed_back_sample :
    let log := (sampleTalk.run (sampleLast.program samplePython true)).1
    log.any (fun call => (sentRequest? call.1).isSome) = true ∧
    ∀ call ∈ log, ∀ request, sentRequest? call.1 = some request →
      ∃ sent, request.payload.item "messages" = .ok (.Sequence sent) ∧
        ∀ reply ∈ [(1, sampleBlocks), (3, sampleBlocks)],
          sent[reply.1]? = some (assistantMessage (reply.2.map StreamBlock.wrapped)) :=
  ⟨by decide, replies_handed_back sampleConversation sampleLast sampleLastFields
    [sampleQuestionTurn] rfl rfl _ _ (sampleTalk.traces_run _)
    fun body model => sampleTalk.answersAs _ (.BuildConverseRequest body model)⟩

end Samples

end ClaudeCodeProxy
