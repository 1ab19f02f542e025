import ClaudeCodeProxy.Proxy.BedrockConverse.BuiltRequests
import ClaudeCodeProxy.Proxy.Runtime

-- What of a request the builder does not look at.

namespace ClaudeCodeProxy

open Python RequestBuilder

section Fields

-- Two requests in which some fields have the same value, or are both missing.
def AgreeOn (keys : List String) (request other : Value) : Prop :=
  ∀ key ∈ keys, ∀ default, getField request key default = getField other key default

variable {request other : Value}

def inferenceFields : List String := ["max_tokens", "stop_sequences", "temperature", "top_p"]

theorem buildInferenceConfig_congr (h : AgreeOn inferenceFields request other) :
    buildInferenceConfig request = buildInferenceConfig other := by
  unfold buildInferenceConfig configEntry
  rw [h "max_tokens" (by simp [inferenceFields]), h "stop_sequences" (by simp [inferenceFields]),
    h "temperature" (by simp [inferenceFields]), h "top_p" (by simp [inferenceFields])]

def toolFields : List String := ["tools", "tool_choice"]

theorem buildToolConfig_congr {python : Interpreter} {reasoningEnabled : Bool}
    (h : AgreeOn toolFields request other) :
    buildToolConfig python request reasoningEnabled =
      buildToolConfig python other reasoningEnabled := by
  unfold buildToolConfig
  rw [h "tools" (by simp [toolFields]), h "tool_choice" (by simp [toolFields])]

theorem buildAdditionalModelRequestFields_congr {resolvedModel : ResolvedModel}
    {reasoning : Option Value} (h : AgreeOn ["parallel_tool_calls"] request other) :
    buildAdditionalModelRequestFields request resolvedModel reasoning =
      buildAdditionalModelRequestFields other resolvedModel reasoning := by
  unfold buildAdditionalModelRequestFields
  rw [h "parallel_tool_calls" (by simp)]

-- The model cannot be told to make one call at a time, so the field does not matter.
theorem buildAdditionalModelRequestFields_ungated {resolvedModel : ResolvedModel}
    {reasoning : Option Value} {fields entries : List (String × Value)}
    (hgate : resolvedModel.capabilities.supportsDisableParallelToolUse = false)
    (h : buildAdditionalModelRequestFields request resolvedModel reasoning = .ok fields) :
    buildAdditionalModelRequestFields (.Mapping entries) resolvedModel reasoning = .ok fields := by
  simp only [buildAdditionalModelRequestFields, hgate, Bool.and_false, Bool.false_eq_true,
    if_false, bind_eq_ok] at h ⊢
  obtain ⟨_, _, h⟩ := h
  exact ⟨_, rfl, h⟩

theorem normalizeReasoningRequest_congr {python : Interpreter} {resolvedModel : ResolvedModel}
    (h : AgreeOn ["thinking", "reasoning_effort"] request other) :
    normalizeReasoningRequest python request resolvedModel =
      normalizeReasoningRequest python other resolvedModel := by
  unfold normalizeReasoningRequest
  rw [h "thinking" (by simp), h "reasoning_effort" (by simp)]

theorem buildOutputConfig_congr {resolvedModel : ResolvedModel}
    (h : AgreeOn ["response_format"] request other) :
    buildOutputConfig request resolvedModel = buildOutputConfig other resolvedModel := by
  unfold buildOutputConfig
  rw [h "response_format" (by simp)]

-- A schema is refused before it gets into the payload.
theorem buildOutputConfig_ungated {resolvedModel : ResolvedModel} {config : Option Value}
    (hgate : resolvedModel.capabilities.supportsNativeStructuredOutput = false)
    (h : buildOutputConfig request resolvedModel = .ok config) : config = none := by
  obtain ⟨responseFormat, _, h⟩ := bind_eq_ok.mp h
  by_cases hnone : responseFormat.isNone = true
  · rw [if_pos hnone, pure_eq_ok] at h
    exact h.symm
  · simp only [hnone, Bool.false_eq_true, if_false, hgate, Bool.not_false, Bool.true_or, if_true,
      ite_eq_iff, bind_eq_ok, throw_eq_ok, false_and, and_false, exists_false,
      or_self] at h

end Fields

section Erasure

-- A dictionary without some of its keys; other values have none to lose.
def erased (keys : List String) : Value → Value
  | .Mapping entries => .Mapping (Value.without keys entries)
  | value => value

theorem getField_erased {keys : List String} {value : Value} {key : String}
    (h : key ∉ keys) (default : Value) :
    getField (erased keys value) key default = getField value key default := by
  cases value with
  | Mapping entries => simp [erased, getField, Value.lookup_without, h]
  | _ => rfl

theorem agreeOn_erased {keys erasedKeys : List String} {value : Value}
    (h : ∀ key ∈ keys, key ∉ erasedKeys) : AgreeOn keys (erased erasedKeys value) value :=
  fun key hkey => getField_erased (h key hkey)

def withoutThinkingBlocks : Value → Value
  | .Sequence messages => .Sequence (messages.map (erased ["thinking_blocks"]))
  | messages => messages

-- The request without anything that is about reasoning.
def withoutReasoning (request : Value) : Value :=
  match erased ["thinking", "reasoning_effort"] request with
  | .Mapping entries => .Mapping (Value.adjusted "messages" withoutThinkingBlocks entries)
  | value => value

theorem getField_withoutReasoning {request : Value} {key : String}
    (h : key ∉ ["messages", "thinking", "reasoning_effort"]) (default : Value) :
    getField (withoutReasoning request) key default = getField request key default := by
  simp only [List.mem_cons, List.not_mem_nil, or_false, not_or] at h
  cases request with
  | Mapping entries =>
      simp [withoutReasoning, erased, getField, Value.lookup_adjusted, Value.lookup_without, h]
  | _ => rfl

theorem agreeOn_withoutReasoning {keys : List String} {request : Value}
    (h : ∀ key ∈ keys, key ∉ ["messages", "thinking", "reasoning_effort"]) :
    AgreeOn keys (withoutReasoning request) request :=
  fun key hkey => getField_withoutReasoning (h key hkey)

theorem normalizeReasoningRequest_withoutReasoning {python : Interpreter}
    {resolvedModel : ResolvedModel} (entries : List (String × Value)) :
    normalizeReasoningRequest python (withoutReasoning (.Mapping entries)) resolvedModel =
      .ok none := by
  by_cases hgate : resolvedModel.capabilities.supportsReasoning = true
  · simp [normalizeReasoningRequest, withoutReasoning, erased, getField, Value.lookup_adjusted,
      Value.lookup_without, hgate, bind_eq_ok, Value.isNone]
  · simp [normalizeReasoningRequest, hgate]

theorem requestMessages_withoutReasoning {entries : List (String × Value)}
    {rawMessages : List Value} (h : requestMessages (.Mapping entries) = .ok rawMessages) :
    ∃ others, requestMessages (withoutReasoning (.Mapping entries)) = .ok others ∧
      (others = rawMessages.map (erased ["thinking_blocks"]) ∨ others = rawMessages) := by
  have hlookup : Value.lookup (Value.adjusted "messages" withoutThinkingBlocks
      (Value.without ["thinking", "reasoning_effort"] entries)) "messages" =
        (Value.lookup entries "messages").map withoutThinkingBlocks := by
    simp [Value.lookup_adjusted, Value.lookup_without]
  simp only [requestMessages, withoutReasoning, erased, getField, Value.get_mapping, hlookup,
    raising_ok] at h ⊢
  replace h := raising_eq_ok h
  cases hmessages : Value.lookup entries "messages" with
  | none =>
      rw [hmessages] at h
      exact ⟨_, rfl, .inr (by cases h; rfl)⟩
  | some messages =>
      rw [hmessages] at h
      cases messages with
      | Sequence items =>
          cases h
          exact ⟨_, rfl, .inl rfl⟩
      | _ => exact ⟨rawMessages, congrArg raising h, .inr rfl⟩

theorem normalizeMessage_erased {python : Interpreter} (rawMessage : Value) :
    normalizeMessage python false (erased ["thinking_blocks"] rawMessage) =
      normalizeMessage python false rawMessage := by
  unfold normalizeMessage
  rw [getField_erased (by simp), getField_erased (by simp)]
  cases rawMessage <;> rfl

end Erasure

section Gates

variable {python : Interpreter} {request : Value} {resolvedModel : ResolvedModel}

theorem builtFrom_withoutReasoning {parts : RequestParts}
    (h : parts.BuiltFrom python request resolvedModel) (hdisabled : parts.reasoningEnabled = false) :
    ∃ others : RequestParts, others.BuiltFrom python (withoutReasoning request) resolvedModel ∧
      others.converseRequest resolvedModel = parts.converseRequest resolvedModel := by
  obtain ⟨entries, rfl⟩ := h.mapping
  obtain ⟨rawMessages, hiterated, hraw⟩ := requestMessages_withoutReasoning h.iterated
  have hmessages : rawMessages.mapM (normalizeMessage python false) = .ok parts.messages := by
    have hmessages := h.messages
    rw [hdisabled] at hmessages
    rcases hraw with rfl | rfl
    · simpa only [List.mapM_map, Function.comp_def, normalizeMessage_erased] using hmessages
    · exact hmessages
  have hadditional := h.additionalFields
  simp only [RequestParts.reasoning, hdisabled, Bool.false_eq_true, if_false] at hadditional
  refine ⟨{ parts with requestedReasoning := none, rawMessages := rawMessages }, ?_, rfl⟩
  constructor
  · exact normalizeReasoningRequest_withoutReasoning entries
  · exact hiterated
  · simp [hdisabled]
  · simpa only [hdisabled] using hmessages
  · rw [getField_withoutReasoning (by simp)]
    exact h.systemBlocks
  · rw [buildInferenceConfig_congr (agreeOn_withoutReasoning (by decide))]
    exact h.inferenceConfig
  · rw [buildToolConfig_congr (agreeOn_withoutReasoning (by decide))]
    exact h.toolConfig
  · rw [buildAdditionalModelRequestFields_congr (agreeOn_withoutReasoning (by decide))]
    simpa [RequestParts.reasoning] using hadditional
  · rw [buildOutputConfig_congr (agreeOn_withoutReasoning (by decide))]
    exact h.outputConfig
  · rw [getField_withoutReasoning (by simp)]
    exact h.stream

theorem builtFrom_withoutParallelToolCalls {parts : RequestParts}
    (h : parts.BuiltFrom python request resolvedModel)
    (hgate : resolvedModel.capabilities.supportsDisableParallelToolUse = false) :
    parts.BuiltFrom python (erased ["parallel_tool_calls"] request) resolvedModel := by
  obtain ⟨entries, rfl⟩ := h.mapping
  constructor
  · rw [normalizeReasoningRequest_congr (agreeOn_erased (by decide))]
    exact h.requested
  · rw [requestMessages, getField_erased (by simp)]
    exact h.iterated
  · exact h.enabled
  · exact h.messages
  · rw [getField_erased (by simp)]
    exact h.systemBlocks
  · rw [buildInferenceConfig_congr (agreeOn_erased (by decide))]
    exact h.inferenceConfig
  · rw [buildToolConfig_congr (agreeOn_erased (by decide))]
    exact h.toolConfig
  · exact buildAdditionalModelRequestFields_ungated hgate h.additionalFields
  · rw [buildOutputConfig_congr (agreeOn_erased (by decide))]
    exact h.outputConfig
  · rw [getField_erased (by simp)]
    exact h.stream

-- What the model is not to do leaves nothing of itself in the request that is sent.
theorem disabled_features_leave_no_trace {built : ConverseRequest}
    (h : buildConverseRequest python request resolvedModel = .ok built) :
    (built.reasoningEnabled = false →
      buildConverseRequest python (withoutReasoning request) resolvedModel = .ok built) ∧
    (resolvedModel.capabilities.supportsDisableParallelToolUse = false →
      buildConverseRequest python (erased ["parallel_tool_calls"] request) resolvedModel =
        .ok built) ∧
    (resolvedModel.capabilities.supportsNativeStructuredOutput = false →
      built.payload.contains "outputConfig" = .ok false) := by
  obtain ⟨parts, hparts, rfl⟩ := buildConverseRequest_ok_iff.mp h
  refine ⟨fun hdisabled => ?_, fun hgate => ?_, fun hgate => ?_⟩
  · obtain ⟨others, hothers, heq⟩ := builtFrom_withoutReasoning hparts hdisabled
    exact buildConverseRequest_ok_iff.mpr ⟨others, hothers, heq.symm⟩
  · exact buildConverseRequest_ok_iff.mpr
      ⟨parts, builtFrom_withoutParallelToolCalls hparts hgate, rfl⟩
  · have hnone := buildOutputConfig_ungated hgate hparts.outputConfig
    simp only [RequestParts.converseRequest, Value.contains_mapping,
      RequestParts.lookup_outputConfig, hnone, Option.isSome_none]

-- The thinking that led to the tool call is gone, so the model is not to reason.
theorem broken_continuity_leaves_no_trace :
    buildConverseRequest samplePython (withoutReasoning (sampleTurns [])) (sampleModel true) =
      buildConverseRequest samplePython (sampleTurns []) (sampleModel true) := by
  have h : ∃ built, buildConverseRequest samplePython (sampleTurns []) (sampleModel true) =
      .ok built ∧ built.reasoningEnabled = false := ⟨_, rfl, rfl⟩
  obtain ⟨built, h, hdisabled⟩ := h
  rw [h]
  exact (disabled_features_leave_no_trace h).1 hdisabled

end Gates

end ClaudeCodeProxy
