import ClaudeCodeProxy.Proxy.ModelResolver

namespace ClaudeCodeProxy

open Python

def REASON_INVALID_ROLE : String := "invalid_role"
def REASON_INVALID_CONTENT : String := "invalid_content"
def REASON_STRUCTURED_OUTPUT_NOT_SUPPORTED : String := "structured_output_not_supported"

def SUPPORTED_MESSAGE_ROLES : List String := ["user", "assistant"]

-- `REASONING_BUDGETS.get(reasoning_effort, REASONING_BUDGETS["medium"])`
def reasoningBudget : String → Int
  | "low" => 1024
  | "high" => 8192
  | _ => 4096

def MIN_REASONING_BUDGET_TOKENS : Int := 1024

structure ConverseRequest where
  operation : String
  targetModelId : String
  inferenceProfileId : Option String
  payload : Value
  reasoningEnabled : Bool := false
  deriving DecidableEq

namespace RequestBuilder

def invalidContent (message : String) : Failure :=
  .BedrockRequestBuildError REASON_INVALID_CONTENT message

def structuredOutputNotSupported (message : String) : Failure :=
  .BedrockRequestBuildError REASON_STRUCTURED_OUTPUT_NOT_SUPPORTED message

def textBlock (text : Value) : Value := .Mapping [("text", text)]

def getField (value : Value) (key : String) (default : Value := .None) : Except Failure Value :=
  raising (value.get key default)

-- `str(value.get(key, ""))`
def getText (python : Interpreter) (value : Value) (key : String) : Except Failure Value := do
  return .Str ((← getField value key (.Str "")).toStr python)

def normalizeSystemBlock (python : Interpreter) (block : Value) : Except Failure Value :=
  match block with
  | .Str _ => return textBlock block
  | .Mapping _ => do
      if (← getField block "type").isStr "text" then
        return textBlock (← getText python block "text")
      else
        return block
  | _ => throw (invalidContent "Unsupported system block.")

def normalizeSystemBlocks (python : Interpreter) (system : Value) : Except Failure (List Value) :=
  match system with
  | .None => return []
  | .Str _ => return [textBlock system]
  | .Sequence blocks => blocks.mapM (normalizeSystemBlock python)
  | _ => throw (invalidContent "Unsupported system prompt format.")

def coerceBlocks (content : Value) : Except Failure (List Value) :=
  match content with
  | .None => return []
  | .Str _ => return [content]
  | .Sequence blocks => return blocks
  | _ => throw (invalidContent "Message content must be a string or list of blocks.")

def normalizeToolResultBlock (python : Interpreter) (block : Value) : Except Failure Value :=
  match block with
  | .Str _ => return textBlock block
  | .Mapping _ => do
      let blockType ← getField block "type"
      if blockType.isStr "text" then
        return textBlock (← getText python block "text")
      if blockType.isStr "json" then
        return .Mapping [("json", ← getField block "json" (.Mapping []))]
      throw (invalidContent
        ("Unsupported tool result block type '" ++ blockType.toStr python ++ "'."))
  | _ => throw (invalidContent "Unsupported tool result content block.")

def normalizeToolResultContent (python : Interpreter) (content : Value) :
    Except Failure (List Value) :=
  match content with
  | .None => return []
  | .Str _ => return [textBlock content]
  | _ => do (← coerceBlocks content).mapM (normalizeToolResultBlock python)

-- A block of another type than `thinking` is left out.
def normalizeThinkingBlock (python : Interpreter) (block : Value) :
    Except Failure (Option Value) :=
  match block with
  | .Mapping _ => do
      if !(← getField block "type").isStr "thinking" then
        return none
      let reasoningText ← getText python block "thinking"
      let signature ← getField block "signature"
      let signatureEntry := if signature.truthy then [("signature", signature)] else []
      return some (.Mapping [("reasoningContent",
        .Mapping ([("reasoningText", textBlock reasoningText)] ++ signatureEntry))])
  | _ => throw (invalidContent "Unsupported thinking block.")

def normalizeThinkingBlocks (python : Interpreter) (thinkingBlocks : Value) :
    Except Failure (List Value) := do
  let blocks ← (← coerceBlocks thinkingBlocks).mapM (normalizeThinkingBlock python)
  return blocks.reduceOption

def normalizeContentBlock (python : Interpreter) (role : String) (block : Value) :
    Except Failure Value :=
  match block with
  | .Str _ => return textBlock block
  | .Mapping entries => do
      let blockType ← getField block "type"
      if blockType.isStr "text" then
        return textBlock (← getText python block "text")
      if blockType.isStr "tool_use" && role == "assistant" then
        return .Mapping [("toolUse", .Mapping [
          ("toolUseId", ← getText python block "id"),
          ("name", ← getText python block "name"),
          ("input", ← getField block "input" (.Mapping []))])]
      if blockType.isStr "tool_result" && role == "user" then
        return .Mapping [("toolResult", .Mapping [
          ("toolUseId", ← getText python block "tool_use_id"),
          ("status", .Str (if (← getField block "is_error").truthy then "error" else "success")),
          ("content", .Sequence
            (← normalizeToolResultContent python (← getField block "content")))])]
      if ← raising (blockType.memStrs ["image", "document"]) then
        return .Mapping [(blockType.toStr python,
          .Mapping (entries.filter fun entry => entry.1 != "type"))]
      throw (invalidContent ("Unsupported content block type '" ++ blockType.toStr python ++ "'."))
  | _ => throw (invalidContent "Unsupported content block.")

def normalizeContentBlocks (python : Interpreter) (content : Value) (role : String)
    (thinkingBlocks : Value) : Except Failure (List Value) := do
  let blocks ← coerceBlocks content
  let thinking ← if role == "assistant" && thinkingBlocks.truthy then
      normalizeThinkingBlocks python thinkingBlocks
    else
      pure []
  return thinking ++ (← blocks.mapM (normalizeContentBlock python role))

def normalizeMessage (python : Interpreter) (includeThinkingBlocks : Bool) (rawMessage : Value) :
    Except Failure Value := do
  if !rawMessage.isMapping then
    throw (invalidContent "Each message must be an object.")
  let role := (← getField rawMessage "role" (.Str "")).toStr python
  if role ∉ SUPPORTED_MESSAGE_ROLES then
    throw (.BedrockRequestBuildError REASON_INVALID_ROLE
      ("Unsupported message role '" ++ role ++ "'."))
  let thinkingBlocks ← if includeThinkingBlocks then getField rawMessage "thinking_blocks"
    else pure .None
  let content ← normalizeContentBlocks python (← getField rawMessage "content") role thinkingBlocks
  return .Mapping [("role", .Str role), ("content", .Sequence content)]

def normalizeMessages (python : Interpreter) (messages : Value) (includeThinkingBlocks : Bool) :
    Except Failure (List Value) := do
  (← raising messages.iterate).mapM (normalizeMessage python includeThinkingBlocks)

-- One entry of the inference configuration, when the request has a value for it.
def configEntry (request : Value) (key name : String)
    (convert : Value → Except Failure Value := pure) : Except Failure (List (String × Value)) := do
  let value ← getField request key
  if value.isNone then
    return []
  return [(name, ← convert value)]

def toList (value : Value) : Except Failure Value := do
  return .Sequence (← raising value.iterate)

def buildInferenceConfig (request : Value) : Except Failure (List (String × Value)) := do
  return (← configEntry request "max_tokens" "maxTokens") ++
    (← configEntry request "stop_sequences" "stopSequences" toList) ++
    (← configEntry request "temperature" "temperature") ++
    (← configEntry request "top_p" "topP")

mutual

def injectAdditionalPropertiesFalse : Value → Value
  | .Sequence items => .Sequence (injectItems items)
  | .Mapping entries =>
      let injected := injectEntries entries
      if ((Value.lookup entries "type").getD .None).isStr "object" &&
          (Value.lookup entries "additionalProperties").isNone then
        .Mapping (injected ++ [("additionalProperties", .Boolean false)])
      else
        .Mapping injected
  | node => node

def injectItems : List Value → List Value
  | [] => []
  | item :: items => injectAdditionalPropertiesFalse item :: injectItems items

-- Under three of the keys stand schemas by name, under four others schemas themselves.
def injectEntries : List (String × Value) → List (String × Value)
  | [] => []
  | (key, value) :: entries =>
      let nested :=
        if key ∈ ["properties", "$defs", "definitions"] then injectNamed value
        else if key ∈ ["items", "anyOf", "allOf", "oneOf"] then
          injectAdditionalPropertiesFalse value
        else value
      (key, nested) :: injectEntries entries

def injectNamed : Value → Value
  | .Mapping entries => .Mapping (injectValues entries)
  | value => value

def injectValues : List (String × Value) → List (String × Value)
  | [] => []
  | (key, value) :: entries => (key, injectAdditionalPropertiesFalse value) :: injectValues entries

end

-- What becomes of the value of a key.
def injectKeyword (key : String) (value : Value) : Value :=
  if key ∈ ["properties", "$defs", "definitions"] then injectNamed value
  else if key ∈ ["items", "anyOf", "allOf", "oneOf"] then injectAdditionalPropertiesFalse value
  else value

-- The same for a dictionary with other keys than texts, under which there are no schemas.
def injectDictionary : Value → Value
  | .Dictionary entries =>
      let injected := entries.map fun entry =>
        (entry.1, (entry.1.text?.map (injectKeyword · entry.2)).getD entry.2)
      let texts := Value.textEntries entries
      if ((Value.lookup texts "type").getD .None).isStr "object" &&
          (Value.lookup texts "additionalProperties").isNone then
        .Dictionary (injected ++ [(.Str "additionalProperties", .Boolean false)])
      else
        .Dictionary injected
  | node => injectAdditionalPropertiesFalse node

-- A pair that `dict` takes from a sequence: a list of two items, a text of two
-- characters or a dictionary of two keys. What is to be a key must be hashable.
def dictPair (pair : Value) : Except Exception (Key × Value) := do
  match ← pair.iterate with
  | [first, value] =>
      match Key.ofValue? first with
      | some key => return (key, value)
      | none => .error .TypeError
  | _ => .error .ValueError

-- A later pair replaces the value of an earlier one of its key; the key stays as it was.
def setEntry (entries : List (Key × Value)) (pair : Key × Value) : List (Key × Value) :=
  if entries.any fun entry => entry.1.same pair.1 then
    entries.map fun entry => if entry.1.same pair.1 then (entry.1, pair.2) else entry
  else entries ++ [pair]

-- Where all keys are texts the dictionary is one that JSON could have given.
def dictionaryOf (entries : List (Key × Value)) : Value :=
  if entries.all fun entry => entry.1.text?.isSome then .Mapping (Value.textEntries entries)
  else .Dictionary entries

-- `dict(value)`
def toDict (value : Value) : Except Exception Value :=
  match value with
  | .Mapping _ | .Dictionary _ => return value
  | _ => do
      let pairs ← (← value.iterate).mapM dictPair
      return dictionaryOf (pairs.foldl setEntry [])

-- `dict([[1, 2], [true, 3], "ab"])`
example : toDict (.Sequence [.Sequence [.Integer 1, .Integer 2],
      .Sequence [.Boolean true, .Integer 3], .Str "ab"]) =
    .ok (.Dictionary [(.Integer 1, .Integer 3), (.Str "a", .Str "b")]) := by decide

def normalizeSchema (schema : Value) : Except Failure Value := do
  return injectDictionary (← raising (toDict schema))

def toolSpec (python : Interpreter) (tool : Value) : Except Failure Value := do
  let name ← getText python tool "name"
  let description ← getField tool "description"
  let inputSchema ← getField tool "input_schema" (.Mapping [("type", .Str "object")])
  return .Mapping [("toolSpec", .Mapping [
    ("name", name),
    ("description", description),
    ("inputSchema", .Mapping [("json", ← normalizeSchema inputSchema)])])]

def autoChoice : Value := .Mapping [("auto", .Mapping [])]

def mapToolChoice (python : Interpreter) (toolChoice : Value) (reasoningEnabled : Bool) :
    Except Failure (Option Value) := do
  if toolChoice.isNone then
    return none
  if reasoningEnabled || !toolChoice.isMapping then
    return some autoChoice
  let choiceType ← getField toolChoice "type"
  if choiceType.isStr "tool" then
    return some (.Mapping [("tool", .Mapping [("name", ← getText python toolChoice "name")])])
  if choiceType.isStr "any" then
    return some (.Mapping [("any", .Mapping [])])
  return some autoChoice

-- The entries of the tool configuration; it is left out when it has none.
def buildToolConfig (python : Interpreter) (request : Value) (reasoningEnabled : Bool) :
    Except Failure (List (String × Value)) := do
  let tools := (← getField request "tools").orElse (.Sequence [])
  let toolChoice ← getField request "tool_choice"
  if !tools.truthy && toolChoice.isNone then
    return []
  let toolEntry ← if tools.truthy then do
      let specs ← (← raising tools.iterate).mapM (toolSpec python)
      pure [("tools", .Sequence specs)]
    else
      pure []
  let mappedToolChoice ← mapToolChoice python toolChoice reasoningEnabled
  return toolEntry ++ mappedToolChoice.toList.map fun choice => ("toolChoice", choice)

def buildAdditionalModelRequestFields (request : Value) (resolvedModel : ResolvedModel)
    (requestedReasoning : Option Value) : Except Failure (List (String × Value)) := do
  let parallelToolCalls ← getField request "parallel_tool_calls"
  let disabled := if parallelToolCalls = .Boolean false &&
      resolvedModel.capabilities.supportsDisableParallelToolUse then
    [("disable_parallel_tool_use", .Boolean true)] else []
  return disabled ++ requestedReasoning.toList.map fun thinking => ("thinking", thinking)

def normalizeReasoningRequest (python : Interpreter) (request : Value)
    (resolvedModel : ResolvedModel) : Except Failure (Option Value) := do
  if !resolvedModel.capabilities.supportsReasoning then
    return none
  let thinking ← getField request "thinking"
  let reasoningEffort ← getField request "reasoning_effort"
  if thinking.isNone && reasoningEffort.isNone then
    return none
  let requested ← if thinking.isMapping then getField thinking "budget_tokens" else pure .None
  let budgetTokens ← if !requested.isNone then do
      pure (max (← raising (requested.toInt python)) MIN_REASONING_BUDGET_TOKENS)
    else
      match reasoningEffort with
      | .Str effort => pure (reasoningBudget effort)
      | _ => pure MIN_REASONING_BUDGET_TOKENS
  return some (.Mapping [("type", .Str "enabled"), ("budget_tokens", .Integer budgetTokens)])

def buildOutputConfig (request : Value) (resolvedModel : ResolvedModel) :
    Except Failure (Option Value) := do
  let responseFormat ← getField request "response_format"
  if responseFormat.isNone then
    return none
  if !responseFormat.isMapping then
    throw (structuredOutputNotSupported "Unsupported structured output configuration.")
  if (← getField responseFormat "type").isStr "json_object" then
    throw (structuredOutputNotSupported "Schema-less structured output is not supported.")
  let jsonSchema ← getField responseFormat "json_schema"
  let schema ← if jsonSchema.isMapping then getField jsonSchema "schema" else pure .None
  if !resolvedModel.capabilities.supportsNativeStructuredOutput || !schema.isMapping then
    throw (structuredOutputNotSupported
      "Native structured output is not supported for this model.")
  let normalizedSchema ← normalizeSchema schema
  let name ← configEntry jsonSchema "name" "name"
  let description ← configEntry jsonSchema "description" "description"
  return some (.Mapping [("textFormat", .Mapping [
    ("type", .Str "json_schema"),
    ("structure", .Mapping [
      ("jsonSchema", .Mapping ([("schema", normalizedSchema)] ++ name ++ description))])])])

-- Every assistant turn with a tool call comes with its thinking blocks.
def hasReasoningContinuity : List Value → Except Failure Bool
  | [] => return true
  | .Mapping fields :: rawMessages => do
      let rawMessage := Value.Mapping fields
      if !(← getField rawMessage "role").isStr "assistant" then
        hasReasoningContinuity rawMessages
      else
        let blocks ← coerceBlocks (← getField rawMessage "content")
        let hasToolUse := blocks.any fun block =>
          match block with
          | .Mapping entries => ((Value.lookup entries "type").getD .None).isStr "tool_use"
          | _ => false
        if hasToolUse && !(← getField rawMessage "thinking_blocks").truthy then
          return false
        else
          hasReasoningContinuity rawMessages
  | _ :: rawMessages => hasReasoningContinuity rawMessages

-- `payload[key] = value`, unless the value is empty
def payloadEntry (key : String) (value : Value) : List (String × Value) :=
  if value.truthy then [(key, value)] else []

-- `resolved_model.bedrock_model_id or resolved_model.inference_profile_id or ""`
def targetModelId (resolvedModel : ResolvedModel) : String :=
  match resolvedModel.bedrockModelId with
  | some modelId => if modelId != "" then modelId else resolvedModel.inferenceProfileId.getD ""
  | none => resolvedModel.inferenceProfileId.getD ""

end RequestBuilder

open RequestBuilder in
def buildConverseRequest (python : Interpreter) (request : Value) (resolvedModel : ResolvedModel) :
    Except Failure ConverseRequest := do
  let requestedReasoning ← normalizeReasoningRequest python request resolvedModel
  let reasoningEnabled ← if requestedReasoning.isSome then do
      let messages := (← getField request "messages" (.Sequence [])).orElse (.Sequence [])
      hasReasoningContinuity (← raising messages.iterate)
    else
      pure false
  let messages ← normalizeMessages python (← getField request "messages" (.Sequence []))
    reasoningEnabled
  let systemBlocks ← normalizeSystemBlocks python (← getField request "system")
  let inferenceConfig ← buildInferenceConfig request
  let toolConfig ← buildToolConfig python request reasoningEnabled
  let additionalFields ← buildAdditionalModelRequestFields request resolvedModel
    (if reasoningEnabled then requestedReasoning else none)
  let outputConfig ← buildOutputConfig request resolvedModel
  let stream ← getField request "stream"
  return {
    operation := if stream.truthy then "converse_stream" else "converse"
    targetModelId := targetModelId resolvedModel
    inferenceProfileId := resolvedModel.inferenceProfileId
    payload := .Mapping ([("messages", .Sequence messages)] ++
      payloadEntry "system" (.Sequence systemBlocks) ++
      payloadEntry "inferenceConfig" (.Mapping inferenceConfig) ++
      payloadEntry "toolConfig" (.Mapping toolConfig) ++
      payloadEntry "additionalModelRequestFields" (.Mapping additionalFields) ++
      outputConfig.toList.map fun config => ("outputConfig", config))
    reasoningEnabled := reasoningEnabled }

end ClaudeCodeProxy
