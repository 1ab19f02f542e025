import ClaudeCodeProxy.Lists.Forall2
import ClaudeCodeProxy.Proxy.BedrockConverse.StreamGrammar
import ClaudeCodeProxy.Python.Dictionaries
import Mathlib.Data.List.Sort

-- The message that a client puts together from the frames of a stream.

namespace ClaudeCodeProxy

open Effects Python

-- What a JSON document stands for, if it is one.
abbrev JsonReader : Type := String → Except Exception Value

section Client

-- A content block as its start has it, and what its deltas have brought since.
structure ClientBlock where
  contentBlock : Value := .None
  text : String := ""
  thinking : String := ""
  partialJson : String := ""

structure ClientMessage where
  role : Value
  content : Value
  stopReason : Value
  usage : Value
  deriving DecidableEq

def readText : Value → Except Exception String
  | .Str text => .ok text
  | _ => .error .TypeError

def ClientBlock.receiveDelta (block : ClientBlock) (delta : Value) :
    Except Exception ClientBlock := do
  let type ← delta.item "type"
  if type.isStr "text_delta" then
    return { block with text := block.text ++ (← readText (← delta.item "text")) }
  else if type.isStr "input_json_delta" then
    return { block with
      partialJson := block.partialJson ++ (← readText (← delta.item "partial_json")) }
  else if type.isStr "thinking_delta" then
    return { block with thinking := block.thinking ++ (← readText (← delta.item "thinking")) }
  else
    return block

def ClientBlock.receive (block : ClientBlock) (frame : Frame) : Except Exception ClientBlock :=
  match frame.event with
  | "content_block_start" => do
      return { contentBlock := ← frame.payload.item "content_block" }
  | "content_block_delta" => do
      block.receiveDelta (← frame.payload.item "delta")
  | _ => .ok block

-- A text with a piece behind it.
def extended (piece : String) : Value → Value
  | .Str text => .Str (text ++ piece)
  | value => value

-- The block with everything that has come for it. The input of a tool is a JSON document,
-- unless nothing has come.
def ClientBlock.finish (loads : JsonReader) (block : ClientBlock) : Except Exception Value :=
  match block.contentBlock with
  | .Mapping fields => do
      let fields := Value.adjusted "text" (extended block.text)
        (Value.adjusted "thinking" (extended block.thinking) fields)
      if block.partialJson = "" then
        return .Mapping fields
      else
        let input ← loads block.partialJson
        return .Mapping (Value.adjusted "input" (fun _ => input) fields)
  | _ => .error .TypeError

-- The number of the block that a frame is about.
def Frame.index (frame : Frame) : Option Int :=
  match frame.payload.item "index" with
  | .ok (.Integer index) => some index
  | _ => none

def framesAt (index : Int) (frames : List Frame) : List Frame :=
  frames.filter fun frame => frame.index = some index

def framesNamed (event : String) (frames : List Frame) : List Frame :=
  frames.filter fun frame => frame.event = event

def startedIndices (frames : List Frame) : List Int :=
  (framesNamed "content_block_start" frames).filterMap Frame.index

def assembleBlock (loads : JsonReader) (frames : List Frame) : Except Exception Value := do
  let block ← frames.foldlM ClientBlock.receive {}
  block.finish loads

-- The blocks in the order of their numbers.
def assembleContent (loads : JsonReader) (frames : List Frame) :
    Except Exception (List Value) :=
  ((startedIndices frames).insertionSort (· ≤ ·)).mapM fun index =>
    assembleBlock loads (framesAt index frames)

-- The payload of the frame of a name, if there is one.
def payloadOf (event : String) (frames : List Frame) : Except Exception Value :=
  match framesNamed event frames with
  | frame :: _ => .ok frame.payload
  | [] => .error .KeyError

def assembleMessage (loads : JsonReader) (frames : List Frame) : Except Exception ClientMessage := do
  let message ← (← payloadOf "message_start" frames).item "message"
  let messageDelta ← payloadOf "message_delta" frames
  return {
    role := ← message.item "role"
    content := .Sequence (← assembleContent loads frames)
    stopReason := ← (← messageDelta.item "delta").item "stop_reason"
    usage := ← messageDelta.item "usage" }

-- What a client reads in the reply to a request that does not stream.
def readReply (reply : Value) : Except Exception ClientMessage := do
  return {
    role := ← reply.item "role"
    content := ← reply.item "content"
    stopReason := ← reply.item "stop_reason"
    usage := ← reply.item "usage" }

end Client

section Delivery

-- A content block of a message, as the provider means it.
inductive StreamBlock
  | Text (text : String)
  | ToolUse (toolUseId name input : Value)
  | Reasoning (text : String)

def StreamBlock.opening : StreamBlock → BlockOpening
  | .Text _ => .Text
  | .ToolUse toolUseId name _ => .ToolUse toolUseId name
  | .Reasoning _ => .ReasoningContent

-- The deltas bring the block in pieces, the input of a tool as a JSON document. A tool
-- without one is called with nothing.
inductive Pieces (loads : JsonReader) : StreamBlock → List BlockDelta → Prop
  | Text (pieces : List String) :
      Pieces loads (.Text (String.join pieces)) (pieces.map fun piece => .Text (.Str piece))
  | ToolUse (toolUseId name input : Value) (pieces : List String)
      (hsome : String.join pieces ≠ "") (hinput : loads (String.join pieces) = .ok input) :
      Pieces loads (.ToolUse toolUseId name input)
        (pieces.map fun piece => .ToolUse (.Str piece))
  | NoInput (toolUseId name : Value) (pieces : List String) (hnone : String.join pieces = "") :
      Pieces loads (.ToolUse toolUseId name (.Mapping []))
        (pieces.map fun piece => .ToolUse (.Str piece))
  | Reasoning (pieces : List String) :
      Pieces loads (.Reasoning (String.join pieces)) (pieces.map .ReasoningContent)

def wholeBlock (index : Int) (opening : BlockOpening) (deltas : List BlockDelta) :
    List BlockEvent :=
  .Start index opening :: (deltas.map (.Delta index) ++ [.Stop index])

-- The events bring these blocks, each under a number of its own, and nothing else.
structure Delivers (loads : JsonReader) (events : List BlockEvent) (indices : List Int)
    (blocks : List StreamBlock) : Prop where
  ordered : indices.Pairwise (· < ·)
  whole : List.Forall₂ (fun index block => ∃ deltas, Pieces loads block deltas ∧
    eventsAt index events = wholeBlock index block.opening deltas) indices blocks
  covered : ∀ event ∈ events, event.index ∈ indices

-- The block as a client has it in its transcript.
def StreamBlock.content : StreamBlock → Value
  | .Text text => .Mapping [("type", .Str "text"), ("text", .Str text)]
  | .ToolUse toolUseId name input => .Mapping [("type", .Str "tool_use"), ("id", toolUseId),
      ("name", name), ("input", input)]
  | .Reasoning text => .Mapping [("type", .Str "thinking"), ("thinking", .Str text)]

end Delivery

section Numbers

variable {messageId : String} {model : Value}

theorem frame_index (event : BlockEvent) : event.frame.index = some event.index := by
  cases event <;> rfl

theorem closingFrames_index (stopReason : String) (usage : Usage) :
    ∀ frame ∈ closingFrames stopReason usage, frame.index = none := by
  intro frame hmem
  simp only [closingFrames, List.mem_cons, List.not_mem_nil, or_false] at hmem
  rcases hmem with rfl | rfl <;> rfl

theorem framesAt_message (message : Message) (index : Int) :
    framesAt index (message.frames messageId model) =
      (eventsAt index message.blocks).map BlockEvent.frame := by
  have hstart : (startFrame messageId model message.role).index = none := rfl
  have hclosing : framesAt index (closingFrames message.stopReason (message.usage.getD {})) =
      [] := by
    apply List.filter_eq_nil_iff.mpr
    intro frame hmem
    simp [closingFrames_index _ _ frame hmem]
  rw [framesAt, Message.frames, List.filter_cons_of_neg (by simp [hstart]), List.filter_append,
    ← framesAt, ← framesAt, hclosing, List.append_nil, framesAt, eventsAt, List.filter_map]
  congr 1
  apply List.filter_congr
  intro event _
  simp [frame_index]

-- The number of the block that an event starts.
def startIndex? : BlockEvent → Option Int
  | .Start index _ => some index
  | _ => none

theorem startedIndices_message (message : Message) :
    startedIndices (message.frames messageId model) = message.blocks.filterMap startIndex? := by
  have hclosing : startedIndices (closingFrames message.stopReason (message.usage.getD {})) =
      [] := rfl
  have happend : ∀ first second, startedIndices (first ++ second) =
      startedIndices first ++ startedIndices second := by
    intro first second
    simp [startedIndices, framesNamed]
  have hblocks : ∀ events : List BlockEvent, startedIndices (events.map BlockEvent.frame) =
      events.filterMap startIndex? := by
    intro events
    induction events with
    | nil => rfl
    | cons event events ih =>
        rw [List.map_cons, ← List.singleton_append, happend, ih]
        cases event <;> rfl
  change startedIndices (message.blocks.map BlockEvent.frame ++ closingFrames _ _) = _
  rw [happend, hclosing, List.append_nil, hblocks]

theorem count_startIndex (events : List BlockEvent) (index : Int) :
    (events.filterMap startIndex?).count index =
      ((eventsAt index events).filterMap startIndex?).length := by
  induction events with
  | nil => rfl
  | cons event events ih =>
      by_cases hindex : event.index = index
      · have hat : eventsAt index (event :: events) = event :: eventsAt index events := by
          rw [eventsAt, List.filter_cons_of_pos (by simpa using hindex), ← eventsAt]
        rw [hat]
        cases event with
        | Start first opening =>
            obtain rfl : first = index := hindex
            simp only [List.filterMap_cons, startIndex?, List.length_cons, List.count_cons_self, ih]
        | Delta first delta =>
            rw [List.filterMap_cons_none rfl, List.filterMap_cons_none rfl, ih]
        | Stop first => rw [List.filterMap_cons_none rfl, List.filterMap_cons_none rfl, ih]
      · have hat : eventsAt index (event :: events) = eventsAt index events := by
          rw [eventsAt, List.filter_cons_of_neg (by simpa using hindex), ← eventsAt]
        rw [hat, ← ih]
        cases event with
        | Start first opening =>
            have hne : first ≠ index := hindex
            simp only [List.filterMap_cons, startIndex?, List.count_cons_of_ne hne]
        | Delta first delta => rw [List.filterMap_cons_none rfl]
        | Stop first => rw [List.filterMap_cons_none rfl]

theorem wholeBlock_starts (index : Int) (opening : BlockOpening) (deltas : List BlockDelta) :
    (wholeBlock index opening deltas).filterMap startIndex? = [index] := by
  have hdeltas : (deltas.map (BlockEvent.Delta index)).filterMap startIndex? = [] := by
    apply List.filterMap_eq_nil_iff.mpr
    intro event hmem
    obtain ⟨delta, -, rfl⟩ := List.mem_map.mp hmem
    rfl
  simp only [wholeBlock, List.filterMap_cons, List.filterMap_append, hdeltas, startIndex?]
  rfl

theorem Delivers.eventsAt_eq_nil {loads : JsonReader} {events : List BlockEvent}
    {indices : List Int} {blocks : List StreamBlock} (h : Delivers loads events indices blocks)
    {index : Int} (hmem : index ∉ indices) : eventsAt index events = [] := by
  apply List.filter_eq_nil_iff.mpr
  intro event hevent hindex
  have hcovered := h.covered event hevent
  rw [of_decide_eq_true hindex] at hcovered
  exact hmem hcovered

-- The client goes through the blocks in their order.
theorem Delivers.sorted {loads : JsonReader} {events : List BlockEvent} {indices : List Int}
    {blocks : List StreamBlock} (h : Delivers loads events indices blocks) :
    (events.filterMap startIndex?).insertionSort (· ≤ ·) = indices := by
  have hperm : (events.filterMap startIndex?).Perm indices := by
    rw [List.perm_iff_count]
    intro index
    rw [count_startIndex]
    by_cases hmem : index ∈ indices
    · obtain ⟨i, hi⟩ := List.mem_iff_getElem?.mp hmem
      obtain ⟨block, -, deltas, -, hat⟩ := Lists.forall₂_getElem? h.whole hi
      have hnodup : indices.Nodup := h.ordered.imp (fun hlt => ne_of_lt hlt)
      rw [hat, wholeBlock_starts, List.count_eq_one_of_mem hnodup hmem]
      rfl
    · rw [h.eventsAt_eq_nil hmem, List.count_eq_zero_of_not_mem hmem]
      rfl
  have hsorted : indices.Pairwise (· ≤ ·) := h.ordered.imp (fun hlt => le_of_lt hlt)
  exact ((List.perm_insertionSort _ _).trans hperm).eq_of_pairwise'
    (List.pairwise_insertionSort _ _) hsorted

end Numbers

section Assembly

variable {loads : JsonReader} {index : Int}

-- Deltas of one kind come to their pieces in one.
theorem receive_pieces (delta : String → BlockDelta) (grow : ClientBlock → String → ClientBlock)
    (hempty : ∀ block, grow block "" = block)
    (hgrow : ∀ block first second, grow (grow block first) second = grow block (first ++ second))
    (hreceive : ∀ (block : ClientBlock) piece,
      block.receive (BlockEvent.Delta index (delta piece)).frame = .ok (grow block piece))
    (pieces : List String) (block : ClientBlock) :
    (((pieces.map delta).map (BlockEvent.Delta index)).map BlockEvent.frame).foldlM
      ClientBlock.receive block = .ok (grow block (String.join pieces)) := by
  induction pieces generalizing block with
  | nil =>
      rw [String.join_nil, hempty]
      rfl
  | cons piece pieces ih =>
      simp only [List.map_cons, List.foldlM_cons, hreceive, ok_bind]
      rw [ih, hgrow, String.join_cons]

theorem receive_text (pieces : List String) (block : ClientBlock) :
    (((pieces.map fun piece => BlockDelta.Text (.Str piece)).map (BlockEvent.Delta index)).map
      BlockEvent.frame).foldlM ClientBlock.receive block =
      .ok { block with text := block.text ++ String.join pieces } := by
  apply receive_pieces (fun piece => .Text (.Str piece))
    (fun block piece => { block with text := block.text ++ piece })
  · intro block
    simp only [String.append_empty]
  · intro block first second
    simp only [String.append_assoc]
  · intro block piece
    rfl

theorem receive_input (pieces : List String) (block : ClientBlock) :
    (((pieces.map fun piece => BlockDelta.ToolUse (.Str piece)).map (BlockEvent.Delta index)).map
      BlockEvent.frame).foldlM ClientBlock.receive block =
      .ok { block with partialJson := block.partialJson ++ String.join pieces } := by
  apply receive_pieces (fun piece => .ToolUse (.Str piece))
    (fun block piece => { block with partialJson := block.partialJson ++ piece })
  · intro block
    simp only [String.append_empty]
  · intro block first second
    simp only [String.append_assoc]
  · intro block piece
    rfl

theorem receive_thinking (pieces : List String) (block : ClientBlock) :
    (((pieces.map BlockDelta.ReasoningContent).map (BlockEvent.Delta index)).map
      BlockEvent.frame).foldlM ClientBlock.receive block =
      .ok { block with thinking := block.thinking ++ String.join pieces } := by
  apply receive_pieces .ReasoningContent
    (fun block piece => { block with thinking := block.thinking ++ piece })
  · intro block
    simp only [String.append_empty]
  · intro block first second
    simp only [String.append_assoc]
  · intro block piece
    rfl

theorem assembleBlock_whole {block : StreamBlock} {deltas : List BlockDelta}
    (h : Pieces loads block deltas) :
    assembleBlock loads ((wholeBlock index block.opening deltas).map BlockEvent.frame) =
      .ok block.content := by
  have hstart : ∀ opening, ClientBlock.receive {} (BlockEvent.Start index opening).frame =
      .ok { contentBlock := opening.contentBlock } := by
    intro opening
    cases opening <;> rfl
  have hlast : ∀ block : ClientBlock, ([BlockEvent.Stop index].map BlockEvent.frame).foldlM
      ClientBlock.receive block = .ok block := fun _ => rfl
  rw [assembleBlock, wholeBlock, List.map_cons, List.map_append, List.foldlM_cons, hstart, ok_bind,
    List.foldlM_append]
  cases h with
  | Text pieces =>
      rw [receive_text, ok_bind, hlast, ok_bind]
      simp [ClientBlock.finish, StreamBlock.opening, BlockOpening.contentBlock, Value.adjusted,
        extended, StreamBlock.content, pure, Except.pure]
  | ToolUse toolUseId name input pieces hsome hinput =>
      rw [receive_input, ok_bind, hlast, ok_bind]
      simp [ClientBlock.finish, StreamBlock.opening, BlockOpening.contentBlock, Value.adjusted,
        StreamBlock.content, hsome, hinput, ok_bind, pure, Except.pure]
  | NoInput toolUseId name pieces hnone =>
      rw [receive_input, ok_bind, hlast, ok_bind]
      simp [ClientBlock.finish, StreamBlock.opening, BlockOpening.contentBlock, Value.adjusted,
        StreamBlock.content, hnone, pure, Except.pure]
  | Reasoning pieces =>
      rw [receive_thinking, ok_bind, hlast, ok_bind]
      simp [ClientBlock.finish, StreamBlock.opening, BlockOpening.contentBlock, Value.adjusted,
        extended, StreamBlock.content, pure, Except.pure]

-- A client that gets the frames of a message has its blocks.
theorem assembleContent_message {message : Message} {indices : List Int}
    {blocks : List StreamBlock} (h : Delivers loads message.blocks indices blocks)
    (messageId : String) (model : Value) :
    assembleContent loads (message.frames messageId model) =
      .ok (blocks.map StreamBlock.content) := by
  rw [assembleContent, startedIndices_message, h.sorted, mapM_eq_ok]
  rw [List.forall₂_map_right_iff]
  apply h.whole.imp
  rintro index block ⟨deltas, hpieces, hat⟩
  rw [framesAt_message, hat]
  exact assembleBlock_whole hpieces

-- And the message with them.
theorem assembleMessage_frames {message : Message} {indices : List Int} {blocks : List StreamBlock}
    (h : Delivers loads message.blocks indices blocks) (messageId : String) (model : Value) :
    assembleMessage loads (message.frames messageId model) = .ok {
      role := message.role
      content := .Sequence (blocks.map StreamBlock.content)
      stopReason := .Str (mappedStopReason message.stopReason)
      usage := (message.usage.getD {}).toValue } := by
  have hstart : payloadOf "message_start" (message.frames messageId model) =
      .ok (startFrame messageId model message.role).payload := rfl
  have hdelta : payloadOf "message_delta" (message.frames messageId model) =
      .ok (.Mapping [("type", .Str "message_delta"),
        ("delta", .Mapping [("stop_reason", .Str (mappedStopReason message.stopReason)),
          ("stop_sequence", .None)]),
        ("usage", (message.usage.getD {}).toValue)]) := by
    have hblocks : framesNamed "message_delta" (message.blocks.map BlockEvent.frame) = [] := by
      apply List.filter_eq_nil_iff.mpr
      intro frame hmem
      obtain ⟨event, -, rfl⟩ := List.mem_map.mp hmem
      cases event <;> simp [BlockEvent.frame, Frame.of]
    have hframes : framesNamed "message_delta" (message.frames messageId model) =
        framesNamed "message_delta" (message.blocks.map BlockEvent.frame) ++
          framesNamed "message_delta"
            (closingFrames message.stopReason (message.usage.getD {})) :=
      List.filter_append _ _
    rw [payloadOf, hframes, hblocks]
    rfl
  rw [assembleMessage, hstart, ok_bind, hdelta]
  rw [assembleContent_message h]
  rfl

end Assembly

section Telling

-- Blocks that are delivered are whole, whatever comes between their parts.
theorem Pieces.kind {loads : JsonReader} {block : StreamBlock} {deltas : List BlockDelta}
    (h : Pieces loads block deltas) : ∀ delta ∈ deltas, delta.kind = block.opening.kind := by
  intro delta hmem
  cases h with
  | Text pieces =>
      obtain ⟨piece, -, rfl⟩ := List.mem_map.mp hmem
      rfl
  | ToolUse toolUseId name input pieces hsome hinput =>
      obtain ⟨piece, -, rfl⟩ := List.mem_map.mp hmem
      rfl
  | NoInput toolUseId name pieces hnone =>
      obtain ⟨piece, -, rfl⟩ := List.mem_map.mp hmem
      rfl
  | Reasoning pieces =>
      obtain ⟨piece, -, rfl⟩ := List.mem_map.mp hmem
      rfl

theorem Delivers.interleaved {loads : JsonReader} {events : List BlockEvent} {indices : List Int}
    {blocks : List StreamBlock} (h : Delivers loads events indices blocks) :
    Interleaved events := by
  intro index
  by_cases hmem : index ∈ indices
  · obtain ⟨i, hi⟩ := List.mem_iff_getElem?.mp hmem
    obtain ⟨block, -, deltas, hpieces, hat⟩ := Lists.forall₂_getElem? h.whole hi
    exact .inr ⟨index, block.opening, deltas, hat, hpieces.kind⟩
  · exact .inl (h.eventsAt_eq_nil hmem)

theorem member_member {names : List String} (name : String) (payload : Value) :
    Member names [(name, payload)] name payload := by
  refine ⟨by simp [Value.lookup_cons], ?_⟩
  intro other _ hne
  simp [Value.lookup_cons, hne]

def encodeOpening : BlockOpening → List (String × Value)
  | .Text => []
  | .ToolUse toolUseId name => member "toolUse" [("toolUseId", toolUseId), ("name", name)]
  | .ReasoningContent => member "reasoningContent" []

def encodeDelta : BlockDelta → List (String × Value)
  | .Text text => [("text", text)]
  | .ToolUse input => member "toolUse" [("input", input)]
  | .ReasoningContent text => member "reasoningContent" [("text", .Str text)]

theorem encodeOpening_opens (opening : BlockOpening) : Opens (encodeOpening opening) opening := by
  cases opening with
  | Text => exact .Plain fun _ _ => rfl
  | ToolUse toolUseId name => exact .ToolUse _ (member_member "toolUse" _)
  | ReasoningContent => exact .ReasoningContent _ (member_member "reasoningContent" _)

theorem encodeDelta_continues (delta : BlockDelta) : Continues (encodeDelta delta) delta := by
  cases delta with
  | Text text => exact .Text _ (member_member "text" _)
  | ToolUse input => exact .ToolUse _ (member_member "toolUse" _)
  | ReasoningContent text =>
      exact .ReasoningContent _ text (member_member "reasoningContent" _) rfl

variable {python : Interpreter}

-- The event of the provider with nothing in it but what it says.
def BlockEvent.tell : BlockEvent → ProviderEvent python
  | .Start index opening => ⟨_, _, .BlockStart _
      [("contentBlockIndex", .Integer index), ("start", .Mapping (encodeOpening opening))] _ index
      opening (member_member "contentBlockStart" _) rfl rfl (encodeOpening_opens opening)⟩
  | .Delta index delta => ⟨_, _, .BlockDelta _
      [("contentBlockIndex", .Integer index), ("delta", .Mapping (encodeDelta delta))] _ index
      delta (member_member "contentBlockDelta" _) rfl rfl (encodeDelta_continues delta)⟩
  | .Stop index => ⟨_, _, .BlockStop _ [("contentBlockIndex", .Integer index)] index
      (member_member "contentBlockStop" _) rfl⟩

def tellStart (role : Value) : ProviderEvent python :=
  ⟨_, _, .MessageStart _ [("role", role)] (member_member "messageStart" _)⟩

def tellStop (stopReason : String) : ProviderEvent python :=
  ⟨_, _, .MessageStop _ [("stopReason", .Str stopReason)] stopReason
    (member_member "messageStop" _) rfl⟩

def tellUsage (reported : Value) (usage : Usage)
    (h : normalizeUsage python reported = .ok usage) : ProviderEvent python :=
  ⟨_, _, .Metadata _ [("usage", reported)] usage (member_member "metadata" _) h⟩

-- A message that ends with its metadata.
def tell (role : Value) (events : List BlockEvent) (stopReason : String) (reported : Value)
    (usage : Usage) (h : normalizeUsage python reported = .ok usage) :
    List (ProviderEvent python) :=
  tellStart role :: (events.map BlockEvent.tell ++
    [tellStop stopReason, tellUsage reported usage h])

theorem meanings_tell (events : List BlockEvent) :
    meanings (events.map (@BlockEvent.tell python)) = events.map .Block := by
  induction events with
  | nil => rfl
  | cons event events ih =>
      cases event <;> exact congrArg (_ :: ·) ih

theorem tell_spoken {events : List BlockEvent} (hinterleaved : Interleaved events) (role : Value)
    (stopReason : String) {reported : Value} {usage : Usage}
    (h : normalizeUsage python reported = .ok usage) :
    Message.Spoken ⟨role, events, stopReason, some usage⟩
      (tell role events stopReason reported usage h) where
  interleaved := hinterleaved
  events := by
    refine ⟨_, .head _, ?_⟩
    have hblocks : (events.map StreamEvent.Block).filter StreamEvent.recognised =
        events.map .Block := by
      apply List.filter_eq_self.mpr
      intro meaning hmem
      obtain ⟨event, -, rfl⟩ := List.mem_map.mp hmem
      rfl
    have hmeanings : meanings (tell role events stopReason reported usage h) =
        .MessageStart role :: (meanings (events.map (@BlockEvent.tell python)) ++
          [.MessageStop stopReason, .Metadata usage]) := by
      simp [meanings, tell, tellStart, tellStop, tellUsage, Value.lookup_cons]
    rw [hmeanings, meanings_tell, List.filter_cons_of_pos rfl, List.filter_append, hblocks]
    rfl

end Telling

section Samples

def sampleForecast : String := "\x7b\"city\": \"Oslo\"\x7d"

-- A client that can read one document.
def sampleReader : JsonReader := fun document =>
  if document = sampleForecast then .ok (.Mapping [("city", .Str "Oslo")])
  else .error .ValueError

def sampleBlocks : List StreamBlock := [
  .Text "Let me look.",
  .ToolUse (.Str "call-1") (.Str "weather") (.Mapping [("city", .Str "Oslo")])]

-- The provider stops for a reason of its own, and does not count the whole.
def sampleReport : Value := .Mapping [("inputTokens", .Integer 10), ("outputTokens", .Integer 2),
  ("totalTokens", .None)]

def sampleUsed : Usage := { inputTokens := 10, outputTokens := 2 }

-- The tool is called before the text has come to its end.
def sampleBlockEvents : List BlockEvent := [
  .Start 0 .Text, .Delta 0 (.Text (.Str "Let me ")),
  .Start 1 (.ToolUse (.Str "call-1") (.Str "weather")),
  .Delta 1 (.ToolUse (.Str "\x7b\"city\": ")), .Delta 0 (.Text (.Str "look.")), .Stop 0,
  .Delta 1 (.ToolUse (.Str "\"Oslo\"\x7d")), .Stop 1]

theorem sampleReport_used (python : Interpreter) :
    normalizeUsage python sampleReport = .ok sampleUsed := rfl

def sampleStreamed : List (ProviderEvent samplePython) :=
  tell (.Str "assistant") sampleBlockEvents "guardrail_intervened" sampleReport sampleUsed
    (sampleReport_used samplePython)

theorem sampleBlocks_delivered : Delivers sampleReader sampleBlockEvents [0, 1] sampleBlocks where
  ordered := by decide
  whole := .cons ⟨_, .Text ["Let me ", "look."], rfl⟩
    (.cons ⟨_, .ToolUse _ _ _ ["\x7b\"city\": ", "\"Oslo\"\x7d"] (by decide) rfl, rfl⟩ .nil)
  covered := by decide

end Samples

end ClaudeCodeProxy
