import ClaudeCodeProxy.Proxy.BedrockConverse.RequestBuilder
import ClaudeCodeProxy.Python.Dictionaries

-- The parts that a built request is put together from.

namespace ClaudeCodeProxy

open Python RequestBuilder

-- The messages that the builder goes through.
def requestMessages (request : Value) : Except Failure (List Value) := do
  raising (← getField request "messages" (.Sequence [])).iterate

structure RequestParts where
  requestedReasoning : Option Value
  reasoningEnabled : Bool
  rawMessages : List Value
  messages : List Value
  systemBlocks : List Value
  inferenceConfig : List (String × Value)
  toolConfig : List (String × Value)
  additionalFields : List (String × Value)
  outputConfig : Option Value
  stream : Value

namespace RequestParts

-- The reasoning that goes into the payload.
def reasoning (parts : RequestParts) : Option Value :=
  if parts.reasoningEnabled then parts.requestedReasoning else none

def payload (parts : RequestParts) : List (String × Value) :=
  [("messages", .Sequence parts.messages)] ++
    payloadEntry "system" (.Sequence parts.systemBlocks) ++
    payloadEntry "inferenceConfig" (.Mapping parts.inferenceConfig) ++
    payloadEntry "toolConfig" (.Mapping parts.toolConfig) ++
    payloadEntry "additionalModelRequestFields" (.Mapping parts.additionalFields) ++
    parts.outputConfig.toList.map fun config => ("outputConfig", config)

def converseRequest (parts : RequestParts) (resolvedModel : ResolvedModel) : ConverseRequest where
  operation := if parts.stream.truthy then "converse_stream" else "converse"
  targetModelId := targetModelId resolvedModel
  inferenceProfileId := resolvedModel.inferenceProfileId
  payload := .Mapping parts.payload
  reasoningEnabled := parts.reasoningEnabled

theorem lookup_payloadEntry (name key : String) (value : Value) :
    Value.lookup (payloadEntry name value) key =
      if key = name ∧ value.truthy = true then some value else none := by
  unfold payloadEntry
  by_cases htruthy : value.truthy = true <;> simp [htruthy, Value.lookup_cons]

section Payload

variable (parts : RequestParts)

theorem lookup_payload (key : String) : Value.lookup parts.payload key =
    if key = "messages" then some (.Sequence parts.messages)
    else if key = "system" ∧ parts.systemBlocks ≠ [] then some (.Sequence parts.systemBlocks)
    else if key = "inferenceConfig" ∧ parts.inferenceConfig ≠ [] then
      some (.Mapping parts.inferenceConfig)
    else if key = "toolConfig" ∧ parts.toolConfig ≠ [] then some (.Mapping parts.toolConfig)
    else if key = "additionalModelRequestFields" ∧ parts.additionalFields ≠ [] then
      some (.Mapping parts.additionalFields)
    else if key = "outputConfig" then parts.outputConfig else none := by
  have houtput : Value.lookup (parts.outputConfig.toList.map fun config => ("outputConfig", config))
      key = if key = "outputConfig" then parts.outputConfig else none := by
    cases parts.outputConfig <;> simp [Value.lookup_cons]
  simp only [payload, Value.lookup_append, lookup_payloadEntry, Value.lookup_cons,
    Value.lookup_nil, Value.truthy, houtput, Bool.not_eq_true', List.isEmpty_eq_false_iff]
  split_ifs <;> rfl

theorem lookup_messages :
    Value.lookup parts.payload "messages" = some (.Sequence parts.messages) := rfl

theorem lookup_outputConfig : Value.lookup parts.payload "outputConfig" = parts.outputConfig := by
  simp [lookup_payload]

theorem lookup_system : Value.lookup parts.payload "system" =
    if parts.systemBlocks = [] then none else some (.Sequence parts.systemBlocks) := by
  simp [lookup_payload]

theorem lookup_inferenceConfig : Value.lookup parts.payload "inferenceConfig" =
    if parts.inferenceConfig = [] then none else some (.Mapping parts.inferenceConfig) := by
  simp [lookup_payload]

theorem lookup_toolConfig : Value.lookup parts.payload "toolConfig" =
    if parts.toolConfig = [] then none else some (.Mapping parts.toolConfig) := by
  simp [lookup_payload]

theorem lookup_additionalFields : Value.lookup parts.payload "additionalModelRequestFields" =
    if parts.additionalFields = [] then none else some (.Mapping parts.additionalFields) := by
  simp [lookup_payload]

end Payload

-- Each part comes from its helper.
structure BuiltFrom (python : Interpreter) (request : Value) (resolvedModel : ResolvedModel)
    (parts : RequestParts) : Prop where
  requested : normalizeReasoningRequest python request resolvedModel = .ok parts.requestedReasoning
  iterated : requestMessages request = .ok parts.rawMessages
  enabled : (if parts.requestedReasoning.isSome then hasReasoningContinuity parts.rawMessages
    else pure false) = .ok parts.reasoningEnabled
  messages : parts.rawMessages.mapM (normalizeMessage python parts.reasoningEnabled) =
    .ok parts.messages
  systemBlocks : (do normalizeSystemBlocks python (← getField request "system")) =
    .ok parts.systemBlocks
  inferenceConfig : buildInferenceConfig request = .ok parts.inferenceConfig
  toolConfig : buildToolConfig python request parts.reasoningEnabled = .ok parts.toolConfig
  additionalFields : buildAdditionalModelRequestFields request resolvedModel parts.reasoning =
    .ok parts.additionalFields
  outputConfig : buildOutputConfig request resolvedModel = .ok parts.outputConfig
  stream : getField request "stream" = .ok parts.stream

end RequestParts

-- `messages or []` has the items of `messages`, when these can be gone through.
theorem iterate_orElse {messages : Value} {items : List Value} (h : messages.iterate = .ok items) :
    (messages.orElse (.Sequence [])).iterate = .ok items := by
  by_cases htruthy : messages.truthy = true
  · rw [Value.orElse, if_pos htruthy, h]
  · rw [Value.orElse, if_neg htruthy]
    cases messages with
    | Sequence blocks =>
        simp only [Value.truthy, Bool.not_eq_true, Bool.not_eq_false', List.isEmpty_iff] at htruthy
        subst htruthy
        exact h
    | Mapping entries =>
        simp only [Value.truthy, Bool.not_eq_true, Bool.not_eq_false', List.isEmpty_iff] at htruthy
        subst htruthy
        exact h
    | Str s =>
        simp only [Value.truthy, bne_iff_ne, ne_eq, not_not] at htruthy
        subst htruthy
        exact h
    | _ => cases h

section Inversion

variable {python : Interpreter} {request : Value} {resolvedModel : ResolvedModel}

-- The second half of the builder, once it is known whether the model is to reason.
def assemble (python : Interpreter) (request : Value) (resolvedModel : ResolvedModel)
    (requestedReasoning : Option Value) (reasoningEnabled : Bool) :
    Except Failure ConverseRequest := do
  let rawMessages ← requestMessages request
  let messages ← rawMessages.mapM (normalizeMessage python reasoningEnabled)
  let systemBlocks ← do normalizeSystemBlocks python (← getField request "system")
  let inferenceConfig ← buildInferenceConfig request
  let toolConfig ← buildToolConfig python request reasoningEnabled
  let additionalFields ← buildAdditionalModelRequestFields request resolvedModel
    (if reasoningEnabled then requestedReasoning else none)
  let outputConfig ← buildOutputConfig request resolvedModel
  let stream ← getField request "stream"
  let parts : RequestParts := ⟨requestedReasoning, reasoningEnabled, rawMessages, messages,
    systemBlocks, inferenceConfig, toolConfig, additionalFields, outputConfig, stream⟩
  return parts.converseRequest resolvedModel

def continuity (request : Value) : Except Failure Bool := do
  let messages := (← getField request "messages" (.Sequence [])).orElse (.Sequence [])
  hasReasoningContinuity (← raising messages.iterate)

theorem buildConverseRequest_eq :
    buildConverseRequest python request resolvedModel =
      normalizeReasoningRequest python request resolvedModel >>= fun requestedReasoning =>
        (if requestedReasoning.isSome then continuity request else pure false) >>=
          assemble python request resolvedModel requestedReasoning := by
  unfold buildConverseRequest
  congr 1
  funext requestedReasoning
  cases requestedReasoning with
  | none =>
      simp only [Option.isSome_none, Bool.false_eq_true, if_false, pure_bind, assemble,
        normalizeMessages, requestMessages, bind_assoc]
      rfl
  | some reasoning =>
      simp only [Option.isSome_some, if_true, continuity, bind_assoc]
      refine bind_congr fun messages => bind_congr fun items => bind_congr fun enabled => ?_
      simp only [assemble, normalizeMessages, requestMessages, bind_assoc]
      rfl

theorem continuity_eq {rawMessages : List Value}
    (h : requestMessages request = .ok rawMessages) :
    continuity request = hasReasoningContinuity rawMessages := by
  obtain ⟨messages, hmessages, hiterated⟩ := bind_eq_ok.mp h
  have hitems := iterate_orElse (raising_eq_ok hiterated)
  simp only [continuity, hmessages, bind, Except.bind, hitems, raising_ok]

-- The builder returns what it has put together from its parts.
theorem buildConverseRequest_ok_iff {built : ConverseRequest} :
    buildConverseRequest python request resolvedModel = .ok built ↔
      ∃ parts, RequestParts.BuiltFrom python request resolvedModel parts ∧
        built = parts.converseRequest resolvedModel := by
  rw [buildConverseRequest_eq]
  constructor
  · intro h
    obtain ⟨requested, hrequested, h⟩ := bind_eq_ok.mp h
    obtain ⟨enabled, henabled, h⟩ := bind_eq_ok.mp h
    simp only [assemble, bind_eq_ok, pure_eq_ok] at h
    obtain ⟨raw, hraw, messages, hmessages, prompt, hprompt, system, hsystem, inference,
      hinference, tools, htools, additional, hadditional, output, houtput, stream, hstream,
      rfl⟩ := h
    rw [continuity_eq hraw] at henabled
    exact ⟨⟨requested, enabled, raw, messages, system, inference, tools, additional, output,
      stream⟩, ⟨hrequested, hraw, henabled, hmessages, bind_eq_ok.mpr ⟨prompt, hprompt, hsystem⟩,
      hinference, htools, hadditional, houtput, hstream⟩, rfl⟩
  · rintro ⟨parts, hparts, rfl⟩
    have henabled := hparts.enabled
    rw [← continuity_eq hparts.iterated] at henabled
    obtain ⟨prompt, hprompt, hsystem⟩ := bind_eq_ok.mp hparts.systemBlocks
    refine bind_eq_ok.mpr ⟨_, hparts.requested, bind_eq_ok.mpr ⟨_, henabled, ?_⟩⟩
    simp only [assemble, bind_eq_ok, pure_eq_ok]
    exact ⟨_, hparts.iterated, _, hparts.messages, prompt, hprompt, _, hsystem, _,
      hparts.inferenceConfig, _, hparts.toolConfig, _, hparts.additionalFields, _,
      hparts.outputConfig, _, hparts.stream, rfl⟩

-- The builder reads with `get`, so what it accepts is a dictionary.
theorem RequestParts.BuiltFrom.mapping {parts : RequestParts}
    (h : parts.BuiltFrom python request resolvedModel) : ∃ entries, request = .Mapping entries := by
  cases request with
  | Mapping entries => exact ⟨entries, rfl⟩
  | _ => cases h.stream

end Inversion

section Samples

def sampleModel (capable : Bool) : ResolvedModel where
  requestedModel := .Str "claude-sonnet-4"
  logicalModel := "sonnet"
  provider := "bedrock"
  bedrockApiRoute := "converse"
  bedrockModelId := some "anthropic.claude-sonnet"
  inferenceProfileId := none
  awsRegionName := none
  capabilities := ⟨capable, capable, capable, capable⟩

def sampleToolUse : Value := .Mapping [
  ("type", .Str "tool_use"), ("id", .Str "call-1"), ("name", .Str "search"),
  ("input", .Mapping [("query", .Str "weather")])]

def sampleThinking : Value := .Mapping [
  ("type", .Str "thinking"), ("thinking", .Str "Look it up."), ("signature", .Str "c2ln")]

def sampleQuestion : Value := .Mapping [
  ("role", .Str "user"), ("content", .Str "How is the weather?")]

def sampleAnswer : Value := .Mapping [
  ("role", .Str "user"), ("content", .Sequence [.Mapping [
    ("type", .Str "tool_result"), ("tool_use_id", .Str "call-1"), ("content", .Str "Sunny.")]])]

-- A question, the call of a tool and its result.
def sampleTurns (thinkingBlocks : List Value) : Value := .Mapping [
  ("thinking", .Mapping [("budget_tokens", .Integer 2000)]),
  ("messages", .Sequence [
    sampleQuestion,
    .Mapping [("role", .Str "assistant"), ("content", .Sequence [sampleToolUse]),
      ("thinking_blocks", .Sequence thinkingBlocks)],
    sampleAnswer])]

end Samples

end ClaudeCodeProxy
