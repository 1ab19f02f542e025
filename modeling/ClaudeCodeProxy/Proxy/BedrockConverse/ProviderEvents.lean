import ClaudeCodeProxy.Proxy.BedrockConverse.Draining

-- What the events of a provider say, and what the decoder makes of each.

namespace ClaudeCodeProxy

open Effects Python

inductive BlockKind
  | Text
  | ToolUse
  | ReasoningContent
  deriving DecidableEq

inductive BlockOpening
  | Text
  | ToolUse (toolUseId name : Value)
  | ReasoningContent

inductive BlockDelta
  | Text (text : Value)
  | ToolUse (input : Value)
  | ReasoningContent (text : String)

inductive BlockEvent
  | Start (index : Int) (opening : BlockOpening)
  | Delta (index : Int) (delta : BlockDelta)
  | Stop (index : Int)

-- What an event of the provider says.
inductive StreamEvent
  | MessageStart (role : Value)
  | Block (event : BlockEvent)
  | MessageStop (stopReason : String)
  | Metadata (usage : Usage)
  | Exception (exception : Value)
  | Unrecognised

def BlockOpening.kind : BlockOpening → BlockKind
  | .Text => .Text
  | .ToolUse _ _ => .ToolUse
  | .ReasoningContent => .ReasoningContent

def BlockDelta.kind : BlockDelta → BlockKind
  | .Text _ => .Text
  | .ToolUse _ => .ToolUse
  | .ReasoningContent _ => .ReasoningContent

def BlockEvent.index : BlockEvent → Int
  | .Start index _ | .Delta index _ | .Stop index => index

section Encoding

-- The one member of a union that is set.
def Member (names : List String) (entries : List (String × Value)) (name : String)
    (payload : Value) : Prop :=
  Value.lookup entries name = some payload ∧
    ∀ other ∈ names, other ≠ name → Value.lookup entries other = none

def STREAM_MEMBERS : List String := ["messageStart", "contentBlockStart", "contentBlockDelta",
  "contentBlockStop", "messageStop", "metadata", "exception"]

def CONTENT_MEMBERS : List String := ["text", "toolUse", "reasoningContent"]

-- Where no member is set, the block is one of text.
inductive Opens (start : List (String × Value)) : BlockOpening → Prop
  | Plain (hnone : ∀ name ∈ CONTENT_MEMBERS, Value.lookup start name = none) :
      Opens start .Text
  | Text (text : Value) (hmember : Member CONTENT_MEMBERS start "text" text) :
      Opens start .Text
  | ToolUse (fields : List (String × Value))
      (hmember : Member CONTENT_MEMBERS start "toolUse" (.Mapping fields)) :
      Opens start (.ToolUse ((Value.lookup fields "toolUseId").getD .None)
        ((Value.lookup fields "name").getD .None))
  | ReasoningContent (reasoning : Value)
      (hmember : Member CONTENT_MEMBERS start "reasoningContent" reasoning) :
      Opens start .ReasoningContent

inductive Continues (delta : List (String × Value)) : BlockDelta → Prop
  | Plain (hnone : ∀ name ∈ CONTENT_MEMBERS, Value.lookup delta name = none) :
      Continues delta (.Text (.Str ""))
  | Text (text : Value) (hmember : Member CONTENT_MEMBERS delta "text" text) :
      Continues delta (.Text text)
  | ToolUse (fields : List (String × Value))
      (hmember : Member CONTENT_MEMBERS delta "toolUse" (.Mapping fields)) :
      Continues delta (.ToolUse ((Value.lookup fields "input").getD (.Str "")))
  | ReasoningContent (fields : List (String × Value)) (text : String)
      (hmember : Member CONTENT_MEMBERS delta "reasoningContent" (.Mapping fields))
      (htext : (Value.lookup fields "text").getD (.Str "") = .Str text) :
      Continues delta (.ReasoningContent text)

-- The dictionary of an event.
inductive Carries (python : Interpreter) : Value → StreamEvent → Prop
  | MessageStart (entries fields : List (String × Value))
      (hmember : Member STREAM_MEMBERS entries "messageStart" (.Mapping fields)) :
      Carries python (.Mapping entries)
        (.MessageStart ((Value.lookup fields "role").getD (.Str "assistant")))
  | BlockStart (entries fields start : List (String × Value)) (index : Int)
      (opening : BlockOpening)
      (hmember : Member STREAM_MEMBERS entries "contentBlockStart" (.Mapping fields))
      (hindex : Value.lookup fields "contentBlockIndex" = some (.Integer index))
      (hstart : (Value.lookup fields "start").getD (.Mapping []) = .Mapping start)
      (hopens : Opens start opening) :
      Carries python (.Mapping entries) (.Block (.Start index opening))
  | BlockDelta (entries fields delta : List (String × Value)) (index : Int)
      (content : BlockDelta)
      (hmember : Member STREAM_MEMBERS entries "contentBlockDelta" (.Mapping fields))
      (hindex : Value.lookup fields "contentBlockIndex" = some (.Integer index))
      (hdelta : (Value.lookup fields "delta").getD (.Mapping []) = .Mapping delta)
      (hcontinues : Continues delta content) :
      Carries python (.Mapping entries) (.Block (.Delta index content))
  | BlockStop (entries fields : List (String × Value)) (index : Int)
      (hmember : Member STREAM_MEMBERS entries "contentBlockStop" (.Mapping fields))
      (hindex : Value.lookup fields "contentBlockIndex" = some (.Integer index)) :
      Carries python (.Mapping entries) (.Block (.Stop index))
  | MessageStop (entries fields : List (String × Value)) (stopReason : String)
      (hmember : Member STREAM_MEMBERS entries "messageStop" (.Mapping fields))
      (hreason : Value.lookup fields "stopReason" = some (.Str stopReason)) :
      Carries python (.Mapping entries) (.MessageStop stopReason)
  | Metadata (entries fields : List (String × Value)) (usage : Usage)
      (hmember : Member STREAM_MEMBERS entries "metadata" (.Mapping fields))
      (husage : normalizeUsage python ((Value.lookup fields "usage").getD .None) = .ok usage) :
      Carries python (.Mapping entries) (.Metadata usage)
  | Exception (entries : List (String × Value)) (exception : Value)
      (hmember : Member STREAM_MEMBERS entries "exception" exception) :
      Carries python (.Mapping entries) (.Exception exception)
  | Unrecognised (entries : List (String × Value))
      (hnone : ∀ name ∈ STREAM_MEMBERS, Value.lookup entries name = none) :
      Carries python (.Mapping entries) .Unrecognised

end Encoding

structure ProviderEvent (python : Interpreter) where
  value : Value
  meaning : StreamEvent
  carries : Carries python value meaning

section Frames

def BlockOpening.contentBlock : BlockOpening → Value
  | .Text => .Mapping [("type", .Str "text"), ("text", .Str "")]
  | .ToolUse toolUseId name => .Mapping [("type", .Str "tool_use"), ("id", toolUseId),
      ("name", name), ("input", .Mapping [])]
  | .ReasoningContent => .Mapping [("type", .Str "thinking"), ("thinking", .Str "")]

def BlockDelta.payload : BlockDelta → Value
  | .Text text => .Mapping [("type", .Str "text_delta"), ("text", text)]
  | .ToolUse input => .Mapping [("type", .Str "input_json_delta"), ("partial_json", input)]
  | .ReasoningContent text =>
      .Mapping [("type", .Str "thinking_delta"), ("thinking", .Str text)]

def BlockEvent.frame : BlockEvent → Frame
  | .Start index opening => Frame.of "content_block_start" [("index", .Integer index),
      ("content_block", opening.contentBlock)]
  | .Delta index delta => Frame.of "content_block_delta" [("index", .Integer index),
      ("delta", delta.payload)]
  | .Stop index => Frame.of "content_block_stop" [("index", .Integer index)]

def startFrame (messageId : String) (model role : Value) : Frame :=
  Frame.of "message_start" [("message", .Mapping [
    ("id", .Str messageId),
    ("type", .Str "message"),
    ("role", role),
    ("model", model),
    ("content", .Sequence [])])]

def mappedStopReason (stopReason : String) : String :=
  if stopReason ∈ SUPPORTED_STOP_REASONS then stopReason else "end_turn"

def closingFrames (stopReason : String) (usage : Usage) : List Frame := [
  Frame.of "message_delta" [
    ("delta", .Mapping [("stop_reason", .Str (mappedStopReason stopReason)),
      ("stop_sequence", .None)]),
    ("usage", usage.toValue)],
  Frame.of "message_stop"]

def errorFrame (python : Interpreter) (exception : Value) : Frame :=
  Frame.of "error" [("error", .Mapping [
    ("type", .Str "api_error"),
    ("message", .Str (exception.toStr python))])]

end Frames

section Decoding

variable {python : Interpreter} {decoder : ConverseStreamDecoder}
  {entries fields : List (String × Value)}

theorem classify_member {kind : EventKind} {payload : Value} (hkind : kind ≠ .Unrecognised)
    (h : Member STREAM_MEMBERS entries kind.key payload) :
    classify (.Mapping entries) = .ok kind := by
  obtain ⟨hfound, hother⟩ := h
  simp only [STREAM_MEMBERS, List.forall_mem_cons] at hother
  cases kind with
  | Unrecognised => exact absurd rfl hkind
  | _ =>
      simp only [EventKind.key] at hfound hother
      simp [classify, classifyFrom, EventKind.key, bind, Except.bind, pure, Except.pure, hfound, hother]

theorem classify_unrecognised (h : ∀ name ∈ STREAM_MEMBERS, Value.lookup entries name = none) :
    classify (.Mapping entries) = .ok .Unrecognised := by
  simp only [STREAM_MEMBERS, List.forall_mem_cons] at h
  simp [classify, classifyFrom, EventKind.key, bind, Except.bind, pure, Except.pure, h]

theorem react_member {kind : EventKind} {payload : Value} (hkind : kind ≠ .Unrecognised)
    (h : Member STREAM_MEMBERS entries kind.key payload) :
    decoder.react python (.Mapping entries) =
      decoder.reactTo python (.Mapping entries) kind := by
  rw [ConverseStreamDecoder.react, classify_member hkind h]
  rfl

theorem item_member {name : String} {names : List String} {payload : Value}
    (h : Member names entries name payload) : (Value.Mapping entries).item name = .ok payload :=
  Value.item_mapping entries name payload h.1

-- The decoder knows where the thinking of the block goes.
def Thinks (decoder : ConverseStreamDecoder) (index : Int) : Prop :=
  (decoder.thinkingBlockPositions.lookup index).isSome = true

-- The decoder after a block event.
def ConverseStreamDecoder.after (decoder : ConverseStreamDecoder) :
    BlockEvent → ConverseStreamDecoder
  | .Start index .ReasoningContent => { decoder with
      thinkingBlockPositions :=
        (index, decoder.thinkingBlocks.length) :: decoder.thinkingBlockPositions
      thinkingBlocks := decoder.thinkingBlocks ++ [""]
      providerReasoning := decoder.providerReasoning ++ [""] }
  | .Delta index (.ReasoningContent text) =>
      match decoder.thinkingBlockPositions.lookup index with
      | some position => { decoder with
          thinkingBlocks := decoder.thinkingBlocks.modify position (· ++ text)
          providerReasoning := decoder.providerReasoning.modify position (· ++ text) }
      | none => decoder
  | _ => decoder

-- What a block event leaves alone, and the thinking blocks it may open.
structure Passes (decoder next : ConverseStreamDecoder) (event : BlockEvent) : Prop where
  usage : next.usage = decoder.usage
  pendingStopReason : next.pendingStopReason = decoder.pendingStopReason
  thinks : ∀ index, Thinks decoder index → Thinks next index
  opened : ∀ index, event = .Start index .ReasoningContent → Thinks next index

theorem passes_self {event : BlockEvent} (h : ∀ index, event ≠ .Start index .ReasoningContent) :
    Passes decoder decoder event :=
  ⟨rfl, rfl, fun _ hthinks => hthinks, fun index hevent => absurd hevent (h index)⟩

theorem passes_after (decoder : ConverseStreamDecoder) (event : BlockEvent) :
    Passes decoder (decoder.after event) event := by
  cases event with
  | Start index opening =>
      cases opening with
      | ReasoningContent =>
          refine ⟨rfl, rfl, ?_, ?_⟩
          · intro other hthinks
            simp only [Thinks, ConverseStreamDecoder.after, List.lookup_cons]
            split
            · rfl
            · exact hthinks
          · rintro other ⟨⟩
            simp [Thinks, ConverseStreamDecoder.after]
      | _ => exact passes_self (by simp)
  | Delta index delta =>
      cases delta with
      | ReasoningContent text =>
          cases hposition : decoder.thinkingBlockPositions.lookup index with
          | none =>
              simp only [ConverseStreamDecoder.after, hposition]
              exact passes_self (by simp)
          | some position =>
              simp only [ConverseStreamDecoder.after, hposition]
              exact ⟨rfl, rfl, fun _ hthinks => hthinks, by simp⟩
      | _ => exact passes_self (by simp)
  | Stop index => exact passes_self (by simp)

theorem normalizeContentBlockStart_opens {index : Int} {opening : BlockOpening}
    (h : Opens fields opening) :
    decoder.normalizeContentBlockStart index (.Mapping fields) =
      .ok (opening.contentBlock, decoder.after (.Start index opening)) := by
  cases h with
  | Plain hnone =>
      simp only [CONTENT_MEMBERS, List.forall_mem_cons] at hnone
      simp [ConverseStreamDecoder.normalizeContentBlockStart, hnone, bind, Except.bind, pure,
        Except.pure, BlockOpening.contentBlock, ConverseStreamDecoder.after]
  | Text text hmember =>
      simp [ConverseStreamDecoder.normalizeContentBlockStart, hmember.1, bind, Except.bind, pure,
        Except.pure, BlockOpening.contentBlock, ConverseStreamDecoder.after]
  | ToolUse toolUse hmember =>
      have hitem := item_member hmember
      obtain ⟨hfound, hother⟩ := hmember
      simp only [CONTENT_MEMBERS, List.forall_mem_cons] at hother
      simp [ConverseStreamDecoder.normalizeContentBlockStart, hfound, hother, hitem, bind,
        Except.bind, pure, Except.pure, BlockOpening.contentBlock, ConverseStreamDecoder.after]
  | ReasoningContent reasoning hmember =>
      obtain ⟨hfound, hother⟩ := hmember
      simp only [CONTENT_MEMBERS, List.forall_mem_cons] at hother
      simp [ConverseStreamDecoder.normalizeContentBlockStart, hfound, hother, bind,
        Except.bind, pure, Except.pure, BlockOpening.contentBlock, ConverseStreamDecoder.after]

-- Thinking goes to a block that has been opened.
def Primed (decoder : ConverseStreamDecoder) : BlockEvent → Prop
  | .Delta index (.ReasoningContent _) => Thinks decoder index
  | _ => True

theorem normalizeContentBlockDelta_continues {index : Int} {delta : BlockDelta}
    (h : Continues fields delta) (hprimed : Primed decoder (.Delta index delta)) :
    decoder.normalizeContentBlockDelta index (.Mapping fields) =
      .ok (delta.payload, decoder.after (.Delta index delta)) := by
  cases h with
  | Plain hnone =>
      simp only [CONTENT_MEMBERS, List.forall_mem_cons] at hnone
      simp [ConverseStreamDecoder.normalizeContentBlockDelta, hnone, bind, Except.bind, pure,
        Except.pure, BlockDelta.payload, ConverseStreamDecoder.after]
  | Text text hmember =>
      have hitem := item_member hmember
      simp [ConverseStreamDecoder.normalizeContentBlockDelta, hmember.1, hitem, bind, Except.bind,
        pure, Except.pure, BlockDelta.payload, ConverseStreamDecoder.after]
  | ToolUse toolUse hmember =>
      have hitem := item_member hmember
      obtain ⟨hfound, hother⟩ := hmember
      simp only [CONTENT_MEMBERS, List.forall_mem_cons] at hother
      simp [ConverseStreamDecoder.normalizeContentBlockDelta, hfound, hother, hitem, bind,
        Except.bind, pure, Except.pure, BlockDelta.payload, ConverseStreamDecoder.after]
  | ReasoningContent reasoning text hmember htext =>
      have hitem := item_member hmember
      obtain ⟨hfound, hother⟩ := hmember
      simp only [CONTENT_MEMBERS, List.forall_mem_cons] at hother
      obtain ⟨position, hposition⟩ := Option.isSome_iff_exists.mp hprimed
      simp [ConverseStreamDecoder.normalizeContentBlockDelta, hfound, hother, hitem, htext,
        hposition, ConverseStreamDecoder.appendThinking, bind, Except.bind, pure, Except.pure,
        BlockDelta.payload, ConverseStreamDecoder.after]

theorem framesOf_block {value : Value} {event : BlockEvent}
    (h : Carries python value (.Block event)) (hprimed : Primed decoder event) :
    decoder.framesOf python value = some ([event.frame], decoder.after event) := by
  cases h with
  | BlockStart entries fields start index opening hmember hindex hstart hopens =>
      have hnext := @normalizeContentBlockStart_opens decoder start index opening hopens
      have hreact := @react_member python decoder entries .ContentBlockStart _ (by decide) hmember
      rw [ConverseStreamDecoder.framesOf, hreact]
      simp [ConverseStreamDecoder.reactTo, item_member hmember, Value.item_mapping _ _ _ hindex,
        hstart, hnext, Value.toInt, bind, Except.bind, pure, Except.pure, BlockEvent.frame]
  | BlockDelta entries fields delta index content hmember hindex hdelta hcontinues =>
      have hnext := normalizeContentBlockDelta_continues hcontinues hprimed
      have hreact := @react_member python decoder entries .ContentBlockDelta _ (by decide) hmember
      rw [ConverseStreamDecoder.framesOf, hreact]
      simp [ConverseStreamDecoder.reactTo, item_member hmember, Value.item_mapping _ _ _ hindex,
        hdelta, hnext, Value.toInt, bind, Except.bind, pure, Except.pure, BlockEvent.frame]
  | BlockStop entries fields index hmember hindex =>
      have hreact := @react_member python decoder entries .ContentBlockStop _ (by decide) hmember
      rw [ConverseStreamDecoder.framesOf, hreact]
      simp [ConverseStreamDecoder.reactTo, item_member hmember, Value.item_mapping _ _ _ hindex,
        Value.toInt, bind, Except.bind, pure, Except.pure, BlockEvent.frame,
        ConverseStreamDecoder.after]

theorem framesOf_messageStart {value role : Value} (h : Carries python value (.MessageStart role)) :
    decoder.framesOf python value =
      some ([startFrame decoder.messageId decoder.model role], decoder) := by
  cases h with
  | MessageStart entries fields hmember =>
      have hreact := @react_member python decoder entries .MessageStart _ (by decide) hmember
      rw [ConverseStreamDecoder.framesOf, hreact]
      simp [ConverseStreamDecoder.reactTo, item_member hmember, bind, Except.bind, pure, Except.pure,
        startFrame]

theorem framesOf_messageStop {value : Value} {stopReason : String}
    (h : Carries python value (.MessageStop stopReason)) :
    decoder.framesOf python value =
      some ([], { decoder with pendingStopReason := .Str stopReason }) := by
  cases h with
  | MessageStop entries fields stopReason hmember hreason =>
      have hreact := @react_member python decoder entries .MessageStop _ (by decide) hmember
      rw [ConverseStreamDecoder.framesOf, hreact]
      simp [ConverseStreamDecoder.reactTo, item_member hmember, hreason, bind, Except.bind, pure,
        Except.pure]

theorem framesOf_metadata {value : Value} {usage : Usage}
    (h : Carries python value (.Metadata usage)) :
    decoder.framesOf python value =
      ({ decoder with usage := usage } : ConverseStreamDecoder).flushed.toOption := by
  cases h with
  | Metadata entries fields usage hmember husage =>
      have hreact := @react_member python decoder entries .Metadata _ (by decide) hmember
      rw [ConverseStreamDecoder.framesOf, hreact]
      simp [ConverseStreamDecoder.reactTo, ConverseStreamDecoder.updateFromMetadata, hmember.1,
        husage, bind, Except.bind, pure, Except.pure]

theorem framesOf_unrecognised {value : Value} (h : Carries python value .Unrecognised) :
    decoder.framesOf python value = some ([], decoder) := by
  cases h with
  | Unrecognised entries hnone =>
      rw [ConverseStreamDecoder.framesOf, ConverseStreamDecoder.react, classify_unrecognised hnone]
      rfl

theorem react_exception {value exception : Value}
    (h : Carries python value (.Exception exception)) :
    decoder.react python value = .ok (.Abort (errorFrame python exception)) := by
  cases h with
  | Exception entries exception hmember =>
      rw [@react_member python decoder entries .Exception _ (by decide) hmember]
      simp [ConverseStreamDecoder.reactTo, item_member hmember, bind, Except.bind, pure, Except.pure,
        errorFrame]

theorem flushed_pending {stopReason : String} (h : decoder.pendingStopReason = .Str stopReason) :
    decoder.flushed = .ok (closingFrames stopReason decoder.usage,
      { decoder with pendingStopReason := .None }) := by
  have hmember : (Value.Str stopReason).memStrs SUPPORTED_STOP_REASONS =
      .ok (decide (stopReason ∈ SUPPORTED_STOP_REASONS)) := by
    simp [Value.memStrs, Value.hashable, Value.isStr, List.any_beq]
  rw [ConverseStreamDecoder.flushed, ConverseStreamDecoder.pendingStop, h, hmember]
  by_cases hsupported : stopReason ∈ SUPPORTED_STOP_REASONS <;>
    simp [Value.isNone, hsupported, closingFrames, mappedStopReason, bind, Except.bind, pure,
      Except.pure]

theorem flushed_none (h : decoder.pendingStopReason = .None) :
    decoder.flushed = .ok ([], decoder) := by
  rw [ConverseStreamDecoder.flushed, ConverseStreamDecoder.pendingStop, h]
  rfl

end Decoding

end ClaudeCodeProxy
