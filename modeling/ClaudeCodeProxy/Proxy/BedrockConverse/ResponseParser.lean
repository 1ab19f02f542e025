import ClaudeCodeProxy.Models.Errors

namespace ClaudeCodeProxy

open Python

def DEFAULT_MESSAGE_ID : String := "msg_bedrock"
def DEFAULT_STREAM_MESSAGE_ID : String := "msg_bedrock_stream"

def SUPPORTED_STOP_REASONS : List String := ["end_turn", "max_tokens", "stop_sequence", "tool_use"]

-- The dictionary `normalize_usage` returns, with its six keys as fields.
structure Usage where
  inputTokens : Int := 0
  outputTokens : Int := 0
  totalTokens : Int := 0
  cacheWriteInputTokens : Int := 0
  cacheReadInputTokens : Int := 0
  cacheDetails : Value := .None
  deriving DecidableEq

def Usage.toValue (usage : Usage) : Value := .Mapping [
  ("input_tokens", .Integer usage.inputTokens),
  ("output_tokens", .Integer usage.outputTokens),
  ("total_tokens", .Integer usage.totalTokens),
  ("cache_write_input_tokens", .Integer usage.cacheWriteInputTokens),
  ("cache_read_input_tokens", .Integer usage.cacheReadInputTokens),
  ("cache_details", usage.cacheDetails)]

-- `int(usage.get(key, 0) or 0)`
def tokenCount (python : Interpreter) (usage : Value) (key : String) : Except Exception Int := do
  (← usage.get key (.Integer 0)).toCount python

def normalizeUsage (python : Interpreter) (usage : Value) : Except Exception Usage := do
  let usage := usage.orElse (.Mapping [])
  return {
    inputTokens := ← tokenCount python usage "inputTokens"
    outputTokens := ← tokenCount python usage "outputTokens"
    totalTokens := ← tokenCount python usage "totalTokens"
    cacheWriteInputTokens := ← tokenCount python usage "cacheWriteInputTokens"
    cacheReadInputTokens := ← tokenCount python usage "cacheReadInputTokens"
    cacheDetails := ← usage.get "cacheDetails" }

-- The stop reason for the client, and what is kept of the provider's.
def mapStopReason (rawStopReason : Value) : Except Exception (Value × List (String × Value)) := do
  if rawStopReason.isNone then
    return (.None, [])
  if ← rawStopReason.memStrs SUPPORTED_STOP_REASONS then
    return (rawStopReason, [])
  return (.Str "end_turn", [("raw_stop_reason", rawStopReason)])

-- What the loop over the content of a response collects.
structure ParsedContent where
  contentBlocks : List Value := []
  thinkingBlocks : List Value := []
  providerReasoning : List Value := []
  deriving DecidableEq

def parseContentBlock (parsed : ParsedContent) (block : Value) :
    Except Exception ParsedContent := do
  if ← block.contains "text" then
    let text ← block.item "text"
    return { parsed with contentBlocks := parsed.contentBlocks ++
      [.Mapping [("type", .Str "text"), ("text", text)]] }
  if ← block.contains "toolUse" then
    let toolUse ← block.item "toolUse"
    let toolUseId ← toolUse.item "toolUseId"
    let name ← toolUse.item "name"
    let input ← toolUse.get "input" (.Mapping [])
    return { parsed with contentBlocks := parsed.contentBlocks ++
      [.Mapping [("type", .Str "tool_use"), ("id", toolUseId), ("name", name), ("input", input)]] }
  if ← block.contains "reasoningContent" then
    let reasoning ← block.item "reasoningContent"
    let reasoningText ← (← reasoning.get "reasoningText" (.Mapping [])).get "text" (.Str "")
    let signature ← reasoning.get "signature"
    let signatureEntry := if signature.isNone then [] else [("signature", signature)]
    return { parsed with
      providerReasoning := parsed.providerReasoning ++ [reasoning]
      thinkingBlocks := parsed.thinkingBlocks ++
        [.Mapping ([("type", .Str "thinking"), ("thinking", reasoningText)] ++ signatureEntry)] }
  return parsed

def parseConverseResponse (python : Interpreter) (response : Value) (model : Value) :
    Except Exception Value := do
  let outputMessage ← (← response.get "output" (.Mapping [])).get "message" (.Mapping [])
  let rawContent ← (← outputMessage.get "content" (.Sequence [])).iterate
  let parsed ← rawContent.foldlM parseContentBlock {}
  let (stopReason, rawMetadata) ← mapStopReason (← response.get "stopReason")
  let providerMetadata := if parsed.providerReasoning.isEmpty then rawMetadata
    else rawMetadata ++ [("reasoning", .Sequence parsed.providerReasoning)]
  let id ← (← response.get "requestMetadata" (.Mapping [])).get "requestId"
    (.Str DEFAULT_MESSAGE_ID)
  let role ← outputMessage.get "role" (.Str "assistant")
  let stopSequence ← response.get "stopSequence"
  let usage ← normalizeUsage python (← response.get "usage")
  let thinkingBlocks := if parsed.thinkingBlocks.isEmpty then []
    else [("thinking_blocks", .Sequence parsed.thinkingBlocks)]
  let metadata := if providerMetadata.isEmpty then []
    else [("provider_metadata", .Mapping providerMetadata)]
  return .Mapping ([
    ("id", id),
    ("type", .Str "message"),
    ("role", role),
    ("model", model),
    ("content", .Sequence parsed.contentBlocks),
    ("stop_reason", stopReason),
    ("stop_sequence", stopSequence),
    ("usage", usage.toValue)] ++ thinkingBlocks ++ metadata)

end ClaudeCodeProxy
