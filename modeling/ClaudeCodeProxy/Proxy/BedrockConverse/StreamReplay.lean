import ClaudeCodeProxy.Proxy.BedrockConverse.ClientMessages
import ClaudeCodeProxy.Proxy.BedrockConverse.Noninterference
import ClaudeCodeProxy.Proxy.BedrockConverse.Transcript

-- A streamed message that comes back in the history of a later request.

namespace ClaudeCodeProxy

open Effects Lists Python RequestBuilder

section Replies

-- What the builder is to make of a block of the provider; reasoning has its own field.
def StreamBlock.converse : StreamBlock → Option Value
  | .Text text => some (textBlock (.Str text))
  | .ToolUse toolUseId name input => some (.Mapping [("toolUse", .Mapping [
      ("toolUseId", toolUseId), ("name", name), ("input", input)])])
  | .Reasoning _ => none

def StreamBlock.isReasoning : StreamBlock → Bool
  | .Reasoning _ => true
  | _ => false

-- A provider gives the id and the name of a tool call as texts.
def StreamBlock.isNamed : StreamBlock → Bool
  | .ToolUse (.Str _) (.Str _) _ => true
  | .ToolUse _ _ _ => false
  | _ => true

def assistantMessage (content : List Value) : Value :=
  .Mapping [("role", .Str "assistant"), ("content", .Sequence content)]

-- The request with another history.
def withMessages (messages : List Value) : Value → Value
  | .Mapping fields => .Mapping (Value.adjusted "messages" (fun _ => .Sequence messages) fields)
  | value => value

theorem getField_withMessages {request : Value} {key : String} (messages : List Value)
    (h : key ≠ "messages") (default : Value) :
    getField (withMessages messages request) key default = getField request key default := by
  cases request with
  | Mapping fields => simp [withMessages, getField, Value.lookup_adjusted, h]
  | _ => rfl

theorem agreeOn_withMessages {keys : List String} {request : Value} (messages : List Value)
    (h : "messages" ∉ keys) : AgreeOn keys request (withMessages messages request) := by
  intro key hkey default
  have hne : key ≠ "messages" := fun heq => h (heq ▸ hkey)
  exact (getField_withMessages messages hne default).symm

theorem requestMessages_withMessages {request message : Value} {rawMessages : List Value}
    (h : requestMessages request = .ok rawMessages) (hmem : message ∈ rawMessages)
    (messages : List Value) :
    requestMessages (withMessages messages request) = .ok messages := by
  cases request with
  | Mapping fields =>
      cases hlookup : Value.lookup fields "messages" with
      | none =>
          simp only [requestMessages, getField, Value.get_mapping, hlookup] at h
          cases h
          cases hmem
      | some found =>
          simp only [requestMessages, withMessages, getField, Value.get_mapping,
            Value.lookup_adjusted, hlookup]
          rfl
  | _ => cases h

end Replies

section Weakening

variable {python : Interpreter} {request : Value}

-- Without reasoning the builder looks at less of a message.
theorem normalizeMessage_weakened {reasoningEnabled kept : Bool} {rawMessage message : Value}
    (hkept : kept = true → reasoningEnabled = true)
    (h : normalizeMessage python reasoningEnabled rawMessage = .ok message) :
    ∃ weakened, normalizeMessage python kept rawMessage = .ok weakened := by
  cases kept with
  | true => exact ⟨message, hkept rfl ▸ h⟩
  | false =>
      cases rawMessage with
      | Mapping fields =>
          rw [normalizeMessage_mapping] at h ⊢
          by_cases hsupported : (writtenText fields "role").toStr python ∈ SUPPORTED_MESSAGE_ROLES
          · rw [if_pos hsupported] at h ⊢
            obtain ⟨content, hcontent, -⟩ := bind_eq_ok.mp h
            simp only [normalizeContentBlocks_eq, bind_eq_ok, pure_eq_ok] at hcontent
            obtain ⟨blocks, hblocks, thinking, -, rest, hrest, -⟩ := hcontent
            have hweak : normalizeContentBlocks python
                ((Value.lookup fields "content").getD .None)
                ((writtenText fields "role").toStr python) .None = .ok rest := by
              simp only [normalizeContentBlocks_eq, bind_eq_ok, pure_eq_ok]
              refine ⟨blocks, hblocks, [], ?_, rest, hrest, List.nil_append rest⟩
              simp [Value.truthy, pure, Except.pure]
            exact ⟨_, bind_eq_ok.mpr ⟨rest, hweak, rfl⟩⟩
          · rw [if_neg hsupported] at h
            exact absurd h (by simp)
      | _ => cases h

theorem mapToolChoice_disabled (python : Interpreter) (toolChoice : Value) :
    ∃ choice, mapToolChoice python toolChoice false = .ok choice := by
  cases toolChoice with
  | Mapping fields =>
      simp only [mapToolChoice, Value.isNone, Value.isMapping, Bool.not_true, Bool.or_false,
        Bool.false_eq_true, if_false, getField_mapping, getText_mapping, ok_bind]
      split_ifs
      · exact ⟨_, rfl⟩
      · exact ⟨_, rfl⟩
      · exact ⟨_, rfl⟩
  | _ => exact ⟨_, rfl⟩

theorem buildToolConfig_weakened {reasoningEnabled kept : Bool} {config : Fields}
    (hkept : kept = true → reasoningEnabled = true)
    (h : buildToolConfig python request reasoningEnabled = .ok config) :
    ∃ weakened, buildToolConfig python request kept = .ok weakened := by
  cases kept with
  | true => exact ⟨config, hkept rfl ▸ h⟩
  | false =>
      simp only [buildToolConfig, ite_eq_iff, bind_eq_ok, pure_eq_ok, exists_eq_left'] at h ⊢
      obtain ⟨tools, htools, toolChoice, hchoice, h⟩ := h
      obtain ⟨choice, hmapped⟩ := mapToolChoice_disabled python toolChoice
      rcases h with ⟨hempty, -⟩ | ⟨hsome, h⟩
      · exact ⟨_, tools, htools, toolChoice, hchoice, .inl ⟨hempty, rfl⟩⟩
      · rcases h with ⟨htruthy, items, hitems, specs, hspecs, -⟩ | ⟨hnone, -⟩
        · exact ⟨_, tools, htools, toolChoice, hchoice,
            .inr ⟨hsome, .inl ⟨htruthy, items, hitems, specs, hspecs, choice, hmapped, rfl⟩⟩⟩
        · exact ⟨_, tools, htools, toolChoice, hchoice,
            .inr ⟨hsome, .inr ⟨hnone, choice, hmapped, rfl⟩⟩⟩

theorem buildAdditionalModelRequestFields_any {resolvedModel : ResolvedModel}
    {reasoning : Option Value} {fields : Fields}
    (h : buildAdditionalModelRequestFields request resolvedModel reasoning = .ok fields)
    (other : Option Value) :
    ∃ others, buildAdditionalModelRequestFields request resolvedModel other = .ok others := by
  obtain ⟨parallelToolCalls, hcalls, -⟩ := bind_eq_ok.mp h
  exact ⟨_, bind_eq_ok.mpr ⟨parallelToolCalls, hcalls, rfl⟩⟩

end Weakening

section Continuity

-- The turns are gone through one after the other, up to the first that breaks.
theorem hasReasoningContinuity_append (first second : List Value) :
    hasReasoningContinuity (first ++ second) =
      hasReasoningContinuity first >>= fun kept =>
        if kept then hasReasoningContinuity second else pure false := by
  induction first with
  | nil => rfl
  | cons rawMessage first ih =>
      cases rawMessage with
      | Mapping fields =>
          simp only [List.cons_append, hasReasoningContinuity, getField_mapping, ok_bind, ih]
          split_ifs
          · rfl
          · cases coerceBlocks ((Value.lookup fields "content").getD .None) with
            | error error => rfl
            | ok blocks =>
                simp only [ok_bind]
                split_ifs <;> rfl
      | _ => exact ih

-- One message more can only end the reasoning.
theorem hasReasoningContinuity_insert {before after : List Value} {message : Value}
    {reasoningEnabled kept : Bool}
    (h : hasReasoningContinuity (before ++ after) = .ok reasoningEnabled)
    (hmessage : hasReasoningContinuity [message] = .ok kept) :
    ∃ enabled, hasReasoningContinuity (before ++ message :: after) = .ok enabled ∧
      (enabled = true → reasoningEnabled = true) := by
  rw [hasReasoningContinuity_append] at h ⊢
  obtain ⟨first, hfirst, h⟩ := bind_eq_ok.mp h
  rw [hfirst, ok_bind]
  cases first with
  | false => exact ⟨false, rfl, nofun⟩
  | true =>
      rw [if_pos rfl] at h ⊢
      rw [← List.singleton_append, hasReasoningContinuity_append, hmessage, ok_bind]
      cases kept with
      | false => exact ⟨false, rfl, nofun⟩
      | true => exact ⟨reasoningEnabled, h, id⟩

-- A turn that comes without its thinking is one without tool calls.
theorem hasReasoningContinuity_assistant (content : List Value) :
    hasReasoningContinuity [assistantMessage content] =
      .ok (!content.any (hasType "tool_use")) := by
  have hcalls : (content.any fun block =>
      match block with
      | .Mapping entries => ((Value.lookup entries "type").getD .None).isStr "tool_use"
      | _ => false) = content.any (hasType "tool_use") := rfl
  have hblocks : ∀ kept : Bool, (if kept && !(Value.None).truthy then pure false else pure true :
      Except Failure Bool) = .ok (!kept) := by
    intro kept
    cases kept <;> rfl
  rw [← hcalls]
  exact hblocks _

end Continuity

section Insertion

variable {python : Interpreter} {request : Value} {resolvedModel : ResolvedModel}
  {before after content : List Value} {parts : RequestParts}

theorem mapM_accepts_iff {f : Value → Except Failure Value} {items : List Value} :
    (∃ results, items.mapM f = .ok results) ↔ ∀ item ∈ items, ∃ result, f item = .ok result := by
  constructor
  · rintro ⟨results, hresults⟩ item hmem
    obtain ⟨i, hi⟩ := List.mem_iff_getElem?.mp hmem
    obtain ⟨result, -, hresult⟩ := forall₂_getElem? (mapM_eq_ok.mp hresults) hi
    exact ⟨result, hresult⟩
  · intro h
    induction items with
    | nil => exact ⟨[], rfl⟩
    | cons item items ih =>
        obtain ⟨result, hresult⟩ := h item (.head _)
        obtain ⟨results, hresults⟩ := ih fun other hmem => h other (.tail _ hmem)
        exact ⟨result :: results, mapM_eq_ok.mpr (.cons hresult (mapM_eq_ok.mp hresults))⟩

-- With a message more there is still a history that can be gone through.
theorem RequestParts.BuiltFrom.continuity_insert
    (h : parts.BuiltFrom python (withMessages (before ++ after) request) resolvedModel)
    (hsame : parts.rawMessages = before ++ after) (content : List Value) :
    ∃ enabled, (if parts.requestedReasoning.isSome then
        hasReasoningContinuity (before ++ assistantMessage content :: after)
      else pure false) = .ok enabled ∧ (enabled = true → parts.reasoningEnabled = true) := by
  have henabled := h.enabled
  rw [hsame] at henabled
  by_cases hrequested : parts.requestedReasoning.isSome = true
  · rw [if_pos hrequested] at henabled ⊢
    exact hasReasoningContinuity_insert henabled (hasReasoningContinuity_assistant content)
  · rw [if_neg hrequested]
    exact ⟨false, rfl, nofun⟩

theorem RequestParts.BuiltFrom.messages_insert {message : Value} {enabled : Bool}
    (h : parts.BuiltFrom python (withMessages (before ++ after) request) resolvedModel)
    (hsame : parts.rawMessages = before ++ after)
    (hkept : enabled = true → parts.reasoningEnabled = true)
    (hmessage : normalizeMessage python enabled (assistantMessage content) = .ok message) :
    ∃ messages, (before ++ assistantMessage content :: after).mapM
        (normalizeMessage python enabled) = .ok messages ∧
      messages[before.length]? = some message := by
  have haccepted := mapM_accepts_iff.mp ⟨_, h.messages⟩
  rw [hsame] at haccepted
  have hall : ∀ item ∈ before ++ assistantMessage content :: after,
      ∃ result, normalizeMessage python enabled item = .ok result := by
    intro item hmem
    simp only [List.mem_append, List.mem_cons] at hmem
    rcases hmem with hmem | rfl | hmem
    · obtain ⟨_, hitem⟩ := haccepted item (List.mem_append_left after hmem)
      exact normalizeMessage_weakened hkept hitem
    · exact ⟨message, hmessage⟩
    · obtain ⟨_, hitem⟩ := haccepted item (List.mem_append_right before hmem)
      exact normalizeMessage_weakened hkept hitem
  obtain ⟨messages, hmessages⟩ := mapM_accepts_iff.mpr hall
  have hat : (before ++ assistantMessage content :: after)[before.length]? =
      some (assistantMessage content) := by simp
  obtain ⟨found, hfound, hnormal⟩ := forall₂_getElem? (mapM_eq_ok.mp hmessages) hat
  rw [hmessage] at hnormal
  cases hnormal
  exact ⟨messages, hmessages, hfound⟩

-- A message that the builder takes can be put into any history that it takes.
theorem RequestParts.BuiltFrom.insert {message : Value}
    (hraw : requestMessages request = .ok (before ++ assistantMessage content :: after))
    (h : parts.BuiltFrom python (withMessages (before ++ after) request) resolvedModel)
    (hmessage : ∀ reasoningEnabled, normalizeMessage python reasoningEnabled
      (assistantMessage content) = .ok message) :
    ∃ others : RequestParts, others.BuiltFrom python request resolvedModel ∧
      others.messages[before.length]? = some message := by
  have hagree : ∀ {keys}, "messages" ∉ keys →
      AgreeOn keys request (withMessages (before ++ after) request) :=
    fun hkeys => agreeOn_withMessages _ hkeys
  have hsame : parts.rawMessages = before ++ after := by
    have hmem : assistantMessage content ∈ before ++ assistantMessage content :: after := by simp
    have hiterated := requestMessages_withMessages hraw hmem (before ++ after)
    exact Except.ok.inj (h.iterated.symm.trans hiterated)
  obtain ⟨enabled, henabled, hkept⟩ := h.continuity_insert hsame content
  obtain ⟨messages, hmessages, hat⟩ := h.messages_insert hsame hkept (hmessage enabled)
  obtain ⟨toolConfig, htools⟩ := buildToolConfig_weakened hkept h.toolConfig
  obtain ⟨fields, hfields⟩ := buildAdditionalModelRequestFields_any h.additionalFields
    (if enabled then parts.requestedReasoning else none)
  let others : RequestParts := { parts with
    reasoningEnabled := enabled
    rawMessages := before ++ assistantMessage content :: after
    messages := messages
    toolConfig := toolConfig
    additionalFields := fields }
  refine ⟨others, ?_, hat⟩
  constructor
  · rw [normalizeReasoningRequest_congr (hagree (by decide))]
    exact h.requested
  · exact hraw
  · exact henabled
  · exact hmessages
  · rw [← getField_withMessages (before ++ after) (by decide)]
    exact h.systemBlocks
  · rw [buildInferenceConfig_congr (hagree (by decide))]
    exact h.inferenceConfig
  · rw [buildToolConfig_congr (hagree (by decide))]
    exact htools
  · rw [buildAdditionalModelRequestFields_congr (hagree (by decide))]
    exact hfields
  · rw [buildOutputConfig_congr (hagree (by decide))]
    exact h.outputConfig
  · rw [← getField_withMessages (before ++ after) (by decide)]
    exact h.stream

end Insertion

section Replay

variable {python : Interpreter} {loads : JsonReader} {told : Message}
  {stream : List (ProviderEvent python)} {indices : List Int} {blocks : List StreamBlock}

theorem normalizeContentBlock_content {block : StreamBlock} {rendered : Value}
    (hnamed : block.isNamed = true) (h : block.converse = some rendered) :
    normalizeContentBlock python "assistant" block.content = .ok rendered := by
  cases block with
  | Text text =>
      cases h
      rfl
  | ToolUse toolUseId name input =>
      cases toolUseId with
      | Str toolUseId =>
          cases name with
          | Str name =>
              cases h
              rfl
          | _ => cases hnamed
      | _ => cases hnamed
  | Reasoning text => cases h

-- The builder knows no block of the type that the decoder streams reasoning as.
theorem normalizeContentBlock_thinking (python : Interpreter) (text : String) :
    normalizeContentBlock python "assistant" (StreamBlock.Reasoning text).content =
      .error (invalidContent "Unsupported content block type 'thinking'.") := rfl

theorem normalizeMessage_assistant (python : Interpreter) (reasoningEnabled : Bool)
    (content : List Value) :
    normalizeMessage python reasoningEnabled (assistantMessage content) =
      content.mapM (normalizeContentBlock python "assistant") >>= fun rendered =>
        pure (assistantMessage rendered) := by
  have hrole : (writtenText [("role", .Str "assistant"), ("content", .Sequence content)]
      "role").toStr python = "assistant" := rfl
  have hblocks : normalizeContentBlocks python (.Sequence content) "assistant" .None =
      content.mapM (normalizeContentBlock python "assistant") := by
    rw [normalizeContentBlocks_eq]
    exact bind_pure (content.mapM (normalizeContentBlock python "assistant"))
  rw [← hblocks, assistantMessage, normalizeMessage_mapping, hrole, if_pos (by decide)]
  cases reasoningEnabled <;> rfl

theorem normalizeMessage_streamed (reasoningEnabled : Bool)
    (hnamed : ∀ block ∈ blocks, block.isNamed = true)
    (hplain : ∀ block ∈ blocks, block.isReasoning = false) :
    normalizeMessage python reasoningEnabled (assistantMessage (blocks.map StreamBlock.content)) =
      .ok (assistantMessage (blocks.filterMap StreamBlock.converse)) := by
  have hblocks : (blocks.map StreamBlock.content).mapM (normalizeContentBlock python "assistant") =
      .ok (blocks.filterMap StreamBlock.converse) := by
    rw [mapM_eq_ok]
    induction blocks with
    | nil => exact .nil
    | cons block blocks ih =>
        have hrest := ih (fun other hmem => hnamed other (.tail _ hmem))
          (fun other hmem => hplain other (.tail _ hmem))
        have hblock : ∃ rendered, block.converse = some rendered := by
          cases block with
          | Reasoning text => exact absurd (hplain _ (.head _)) (by simp [StreamBlock.isReasoning])
          | _ => exact ⟨_, rfl⟩
        obtain ⟨rendered, hrendered⟩ := hblock
        rw [List.map_cons, List.filterMap_cons_some hrendered]
        exact .cons (normalizeContentBlock_content (hnamed _ (.head _)) hrendered) hrest
  rw [normalizeMessage_assistant, hblocks, ok_bind]
  rfl

theorem streamed_without_reasoning {reasoningEnabled : Bool} {message : Value}
    (h : normalizeMessage python reasoningEnabled
      (assistantMessage (blocks.map StreamBlock.content)) = .ok message) :
    ∀ block ∈ blocks, block.isReasoning = false := by
  intro block hmem
  rw [normalizeMessage_assistant] at h
  obtain ⟨rendered, hrendered, -⟩ := bind_eq_ok.mp h
  obtain ⟨result, hresult⟩ := mapM_accepts_iff.mp ⟨rendered, hrendered⟩ block.content
    (List.mem_map_of_mem hmem)
  cases block with
  | Reasoning text =>
      rw [normalizeContentBlock_thinking] at hresult
      cases hresult
  | _ => rfl

-- The message comes to the provider again, with what was said and what was called.
def Replayed (python : Interpreter) (request : Value) (resolvedModel : ResolvedModel)
    (position : Nat) (blocks : List StreamBlock) : Prop :=
  ∃ built messages, buildConverseRequest python request resolvedModel = .ok built ∧
    built.payload.item "messages" = .ok (.Sequence messages) ∧
    messages[position]? = some (assistantMessage (blocks.filterMap StreamBlock.converse))

theorem replayed_iff_plain {request : Value} {resolvedModel : ResolvedModel}
    {before after : List Value} {others : ConverseRequest}
    (hnamed : ∀ block ∈ blocks, block.isNamed = true)
    (hraw : requestMessages request =
      .ok (before ++ assistantMessage (blocks.map StreamBlock.content) :: after))
    (hothers : buildConverseRequest python (withMessages (before ++ after) request)
      resolvedModel = .ok others) :
    Replayed python request resolvedModel before.length blocks ↔
      ∀ block ∈ blocks, block.isReasoning = false := by
  constructor
  · rintro ⟨built, messages, hbuilt, -, -⟩
    obtain ⟨parts, hparts, rfl⟩ := buildConverseRequest_ok_iff.mp hbuilt
    have hsame : parts.rawMessages =
        before ++ assistantMessage (blocks.map StreamBlock.content) :: after :=
      Except.ok.inj (hparts.iterated.symm.trans hraw)
    have hmem : assistantMessage (blocks.map StreamBlock.content) ∈ parts.rawMessages := by
      rw [hsame]
      simp
    obtain ⟨message, hmessage⟩ := mapM_accepts_iff.mp ⟨_, hparts.messages⟩ _ hmem
    exact streamed_without_reasoning hmessage
  · intro hplain
    obtain ⟨parts, hparts, -⟩ := buildConverseRequest_ok_iff.mp hothers
    obtain ⟨replaying, hreplaying, hat⟩ := hparts.insert hraw
      fun reasoningEnabled => normalizeMessage_streamed reasoningEnabled hnamed hplain
    exact ⟨_, replaying.messages, buildConverseRequest_ok_iff.mpr ⟨replaying, hreplaying, rfl⟩,
      Value.item_mapping _ _ _ replaying.lookup_messages, hat⟩

-- Whatever history the message comes back in, if the builder takes that without it.
theorem streamed_message_replayed_iff {messageId : String} {model : Value} {log : Log}
    {outcome : Except Failure (Ending × ConverseStreamDecoder)} (hspoken : told.Spoken stream)
    (hdelivers : Delivers loads told.blocks indices blocks)
    (hnamed : ∀ block ∈ blocks, block.isNamed = true)
    (h : (ConverseStreamDecoder.iterSseEvents python { model := model, messageId := messageId }
      (values stream)).Traces log outcome) (hdrained : Drained log) {content : List Value}
    (hcontent : assembleContent loads (yieldedFrames log) = .ok content)
    {request : Value} {resolvedModel : ResolvedModel} {before after : List Value}
    {others : ConverseRequest}
    (hraw : requestMessages request = .ok (before ++ assistantMessage content :: after))
    (hothers : buildConverseRequest python (withMessages (before ++ after) request)
      resolvedModel = .ok others) :
    Replayed python request resolvedModel before.length blocks ↔
      ∀ block ∈ blocks, block.isReasoning = false := by
  have hframes := (stream_grammar python messageId model told stream hspoken log outcome h
    hdrained).1.1
  rw [hframes, assembleContent_message hdelivers] at hcontent
  cases hcontent
  exact replayed_iff_plain hnamed hraw hothers

-- What a client that stays gets of a stream over a connection that holds.
def sampleSent (stream : List (ProviderEvent samplePython)) :
    Log × Except Failure (Ending × ConverseStreamDecoder) :=
  steadyEnvironment.run (ConverseStreamDecoder.iterSseEvents samplePython
    { model := .None, messageId := "msg-1" } (values stream))

theorem sampleSent_drained (stream : List (ProviderEvent samplePython)) :
    Drained (sampleSent stream).1 :=
  Environment.drained (fun _ => rfl) rfl (fun _ => rfl) _

def sampleTold (events : List BlockEvent) : List (ProviderEvent samplePython) :=
  tell (.Str "assistant") events "end_turn" sampleReport sampleUsed
    (sampleReport_used samplePython)

theorem sampleTold_spoken {events : List BlockEvent} (h : Interleaved events) :
    Message.Spoken ⟨.Str "assistant", events, "end_turn", some sampleUsed⟩ (sampleTold events) :=
  tell_spoken h _ _ _

theorem sampleSent_content {events : List BlockEvent}
    (h : Delivers sampleReader events indices blocks) :
    assembleContent sampleReader (yieldedFrames (sampleSent (sampleTold events)).1) =
      .ok (blocks.map StreamBlock.content) := by
  have hframes := (stream_grammar _ _ _ _ _ (sampleTold_spoken h.interleaved) _ _
    (steadyEnvironment.traces_run _) (sampleSent_drained (sampleTold events))).1.1
  rw [sampleSent, hframes]
  exact assembleContent_message h _ _

-- A question, an answer of the model and the result of the tool that it may have called.
def sampleReplayRequest (content : List Value) : Value := .Mapping [
  ("thinking", .Mapping [("budget_tokens", .Integer 2000)]),
  ("messages", .Sequence [sampleQuestion, assistantMessage content, sampleAnswer])]

theorem sampleReplayRequest_accepted (content : List Value) :
    ∃ others, buildConverseRequest samplePython
      (withMessages ([sampleQuestion] ++ [sampleAnswer]) (sampleReplayRequest content))
      (sampleModel true) = .ok others := ⟨_, rfl⟩

theorem streamed_message_sample : Replayed samplePython
    (sampleReplayRequest (sampleBlocks.map StreamBlock.content)) (sampleModel true) 1 sampleBlocks := by
  obtain ⟨others, hothers⟩ := sampleReplayRequest_accepted (sampleBlocks.map StreamBlock.content)
  have h := @streamed_message_replayed_iff samplePython sampleReader _ _ [0, 1] sampleBlocks
    "msg-1" .None _ _ (sampleTold_spoken sampleBlocks_delivered.interleaved)
    sampleBlocks_delivered (by decide) (steadyEnvironment.traces_run _)
    (sampleSent_drained (sampleTold sampleBlockEvents)) _
    (sampleSent_content sampleBlocks_delivered) _ _ [sampleQuestion] [sampleAnswer] _ rfl hothers
  exact h.mpr (by decide)

def sampleMusing : List StreamBlock := [.Reasoning "Look it up."]

def sampleMusingEvents : List BlockEvent :=
  wholeBlock 0 .ReasoningContent [.ReasoningContent "Look ", .ReasoningContent "it up."]

theorem sampleMusing_delivered : Delivers sampleReader sampleMusingEvents [0] sampleMusing where
  ordered := by decide
  whole := .cons ⟨_, .Reasoning ["Look ", "it up."], rfl⟩ .nil
  covered := by decide

theorem sampleMusing_refused : buildConverseRequest samplePython
    (sampleReplayRequest (sampleMusing.map StreamBlock.content)) (sampleModel true) =
      .error (invalidContent "Unsupported content block type 'thinking'.") := rfl

def fromUser : Value → Bool
  | .Mapping fields => ((Value.lookup fields "role").getD .None).isStr "user"
  | _ => false

-- What the client was sent as a block of the content is refused as one.
theorem streamed_thinking_refused :
    ¬∀ (python : Interpreter) (loads : JsonReader) (told : Message)
      (stream : List (ProviderEvent python)) (indices : List Int) (blocks : List StreamBlock)
      (messageId : String) (model : Value) (log : Log)
      (outcome : Except Failure (Ending × ConverseStreamDecoder)) (content : List Value)
      (request : Value) (resolvedModel : ResolvedModel) (before : List Value) (answer : Value)
      (after : List Value) (others : ConverseRequest),
      told.Spoken stream → Delivers loads told.blocks indices blocks →
      (∀ block ∈ blocks, block.isNamed = true) →
      (ConverseStreamDecoder.iterSseEvents python { model := model, messageId := messageId }
        (values stream)).Traces log outcome → Drained log →
      assembleContent loads (yieldedFrames log) = .ok content →
      fromUser answer = true →
      requestMessages request = .ok (before ++ assistantMessage content :: answer :: after) →
      buildConverseRequest python (withMessages (before ++ answer :: after) request)
        resolvedModel = .ok others →
      Replayed python request resolvedModel before.length blocks := by
  intro hclaim
  obtain ⟨others, hothers⟩ := sampleReplayRequest_accepted (sampleMusing.map StreamBlock.content)
  obtain ⟨built, messages, hbuilt, -, -⟩ := hclaim samplePython sampleReader _
    (sampleTold sampleMusingEvents) [0] sampleMusing "msg-1" .None _ _ _
    (sampleReplayRequest (sampleMusing.map StreamBlock.content)) (sampleModel true) [sampleQuestion]
    sampleAnswer [] others (sampleTold_spoken sampleMusing_delivered.interleaved)
    sampleMusing_delivered (by decide) (steadyEnvironment.traces_run _)
    (sampleSent_drained (sampleTold sampleMusingEvents))
    (sampleSent_content sampleMusing_delivered) rfl rfl hothers
  rw [sampleMusing_refused] at hbuilt
  cases hbuilt

end Replay

end ClaudeCodeProxy
