import ClaudeCodeProxy.Proxy.BedrockConverse.ResponseParser

namespace ClaudeCodeProxy

open Python

-- A frame of the event stream: `_sse_frame` renders its name and its payload.
structure Frame where
  event : String
  payload : Value
  deriving DecidableEq

-- The frames carry their own name as the type of the payload.
def Frame.of (event : String) (fields : List (String × Value) := []) : Frame where
  event := event
  payload := .Mapping (("type", .Str event) :: fields)

inductive EventKind
  | MessageStart
  | ContentBlockStart
  | ContentBlockDelta
  | ContentBlockStop
  | MessageStop
  | Metadata
  | Exception
  | Unrecognised
  deriving DecidableEq

def EventKind.key : EventKind → String
  | .MessageStart => "messageStart"
  | .ContentBlockStart => "contentBlockStart"
  | .ContentBlockDelta => "contentBlockDelta"
  | .ContentBlockStop => "contentBlockStop"
  | .MessageStop => "messageStop"
  | .Metadata => "metadata"
  | .Exception => "exception"
  | .Unrecognised => ""

-- The first of the keys that the event has, in the order in which the loop looks for them.
def classifyFrom (event : Value) : List EventKind → Except Exception EventKind
  | [] => return .Unrecognised
  | kind :: kinds => do
      if ← event.contains kind.key then
        return kind
      else
        classifyFrom event kinds

def classify (event : Value) : Except Exception EventKind := classifyFrom event
  [.MessageStart, .ContentBlockStart, .ContentBlockDelta, .ContentBlockStop, .MessageStop,
    .Metadata, .Exception]

structure ConverseStreamDecoder where
  model : Value
  messageId : String := DEFAULT_STREAM_MESSAGE_ID
  usage : Usage := {}
  -- the text of each block of `thinking_blocks` and of `provider_reasoning`
  thinkingBlocks : List String := []
  providerReasoning : List String := []
  thinkingBlockPositions : List (Int × Nat) := []
  pendingStopReason : Value := .None
  deriving DecidableEq

namespace ConverseStreamDecoder

-- `StreamingUsageCollector.update_from_metadata`
def updateFromMetadata (python : Interpreter) (decoder : ConverseStreamDecoder)
    (metadataEvent : Value) : Except Exception ConverseStreamDecoder := do
  let metadata ← metadataEvent.get "metadata" metadataEvent
  return { decoder with usage := ← normalizeUsage python (← metadata.get "usage") }

def normalizeContentBlockStart (decoder : ConverseStreamDecoder) (blockIndex : Int)
    (start : Value) : Except Exception (Value × ConverseStreamDecoder) := do
  if ← start.contains "text" then
    return (.Mapping [("type", .Str "text"), ("text", .Str "")], decoder)
  if ← start.contains "toolUse" then
    let toolUse ← start.item "toolUse"
    return (.Mapping [
      ("type", .Str "tool_use"),
      ("id", ← toolUse.get "toolUseId"),
      ("name", ← toolUse.get "name"),
      ("input", .Mapping [])], decoder)
  if ← start.contains "reasoningContent" then
    return (.Mapping [("type", .Str "thinking"), ("thinking", .Str "")], { decoder with
      thinkingBlockPositions :=
        (blockIndex, decoder.thinkingBlocks.length) :: decoder.thinkingBlockPositions
      thinkingBlocks := decoder.thinkingBlocks ++ [""]
      providerReasoning := decoder.providerReasoning ++ [""] })
  return (.Mapping [("type", .Str "text"), ("text", .Str "")], decoder)

-- `self.thinking_blocks[position]["thinking"] += text`, and the same for the provider's block.
def appendThinking (decoder : ConverseStreamDecoder) (position : Nat) (text : Value) :
    Except Exception ConverseStreamDecoder :=
  match text with
  | .Str s => .ok { decoder with
      thinkingBlocks := decoder.thinkingBlocks.modify position (· ++ s)
      providerReasoning := decoder.providerReasoning.modify position (· ++ s) }
  | _ => .error .TypeError

def normalizeContentBlockDelta (decoder : ConverseStreamDecoder) (blockIndex : Int)
    (delta : Value) : Except Exception (Value × ConverseStreamDecoder) := do
  if ← delta.contains "text" then
    return (.Mapping [("type", .Str "text_delta"), ("text", ← delta.item "text")], decoder)
  if ← delta.contains "toolUse" then
    let toolUse ← delta.item "toolUse"
    return (.Mapping [
      ("type", .Str "input_json_delta"),
      ("partial_json", ← toolUse.get "input" (.Str ""))], decoder)
  if ← delta.contains "reasoningContent" then
    let reasoningText ← (← delta.item "reasoningContent").get "text" (.Str "")
    match decoder.thinkingBlockPositions.lookup blockIndex with
    | none => throw .KeyError
    | some position =>
        let decoder ← decoder.appendThinking position reasoningText
        return (.Mapping [("type", .Str "thinking_delta"), ("thinking", reasoningText)], decoder)
  return (.Mapping [("type", .Str "text_delta"), ("text", .Str "")], decoder)

-- The two closing frames, when a stop reason is pending.
def pendingStop (decoder : ConverseStreamDecoder) : Except Exception (Option (Frame × Frame)) := do
  if decoder.pendingStopReason.isNone then
    return none
  let stopReason := if ← decoder.pendingStopReason.memStrs SUPPORTED_STOP_REASONS then
      decoder.pendingStopReason
    else
      .Str "end_turn"
  return some (
    Frame.of "message_delta" [
      ("delta", .Mapping [("stop_reason", stopReason), ("stop_sequence", .None)]),
      ("usage", decoder.usage.toValue)],
    Frame.of "message_stop")

-- What the body of the loop makes of one event.
inductive Reaction
  | Emit (frame : Frame) (decoder : ConverseStreamDecoder)
  | Note (decoder : ConverseStreamDecoder)
  | Flush (decoder : ConverseStreamDecoder)
  | Abort (frame : Frame)
  deriving DecidableEq

-- The branch of the loop for a kind.
def reactTo (python : Interpreter) (decoder : ConverseStreamDecoder) (event : Value) :
    EventKind → Except Exception Reaction
  | .MessageStart => do
      let role ← (← event.item "messageStart").get "role" (.Str "assistant")
      return .Emit (Frame.of "message_start" [("message", .Mapping [
        ("id", .Str decoder.messageId),
        ("type", .Str "message"),
        ("role", role),
        ("model", decoder.model),
        ("content", .Sequence [])])]) decoder
  | .ContentBlockStart => do
      let blockStart ← event.item "contentBlockStart"
      let blockIndex ← (← blockStart.item "contentBlockIndex").toInt python
      let (contentBlock, decoder) ← decoder.normalizeContentBlockStart blockIndex
        (← blockStart.get "start" (.Mapping []))
      return .Emit (Frame.of "content_block_start" [
        ("index", .Integer blockIndex),
        ("content_block", contentBlock)]) decoder
  | .ContentBlockDelta => do
      let blockDelta ← event.item "contentBlockDelta"
      let blockIndex ← (← blockDelta.item "contentBlockIndex").toInt python
      let (deltaPayload, decoder) ← decoder.normalizeContentBlockDelta blockIndex
        (← blockDelta.get "delta" (.Mapping []))
      return .Emit (Frame.of "content_block_delta" [
        ("index", .Integer blockIndex),
        ("delta", deltaPayload)]) decoder
  | .ContentBlockStop => do
      let blockStop ← event.item "contentBlockStop"
      let blockIndex ← (← blockStop.item "contentBlockIndex").toInt python
      return .Emit (Frame.of "content_block_stop" [("index", .Integer blockIndex)]) decoder
  | .MessageStop => do
      let stopReason ← (← event.item "messageStop").get "stopReason"
      return .Note { decoder with pendingStopReason := stopReason }
  | .Metadata => do
      return .Flush (← decoder.updateFromMetadata python event)
  | .Exception => do
      let exception ← event.item "exception"
      return .Abort (Frame.of "error" [("error", .Mapping [
        ("type", .Str "api_error"),
        ("message", .Str (exception.toStr python))])])
  | .Unrecognised => return .Note decoder

def react (python : Interpreter) (decoder : ConverseStreamDecoder) (event : Value) :
    Except Exception Reaction := do
  decoder.reactTo python event (← classify event)

end ConverseStreamDecoder

end ClaudeCodeProxy
