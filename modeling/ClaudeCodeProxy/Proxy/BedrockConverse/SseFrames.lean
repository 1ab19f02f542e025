import ClaudeCodeProxy.Proxy.BedrockConverse.ClientMessages
import ClaudeCodeProxy.Text.EventStream

-- The frames of the decoder as text, and a client that reads them from the wire.

namespace ClaudeCodeProxy

open Effects EventStream Python

section Names

variable {python : Interpreter} {decoder next final : ConverseStreamDecoder}

def SSE_EVENTS : List String := ["message_start", "content_block_start", "content_block_delta",
  "content_block_stop", "message_delta", "message_stop", "error"]

-- The frame that a reaction hands out.
def frameOf? : ConverseStreamDecoder.Reaction → Option Frame
  | .Emit frame _ | .Abort frame => some frame
  | .Note _ | .Flush _ => none

theorem reactTo_named {event : Value} {kind : EventKind} {frame : Frame}
    {reaction : ConverseStreamDecoder.Reaction}
    (h : decoder.reactTo python event kind = .ok reaction)
    (hframe : frameOf? reaction = some frame) :
    frame.event ∈ SSE_EVENTS := by
  cases kind with
  | MessageStart =>
      simp only [ConverseStreamDecoder.reactTo, bind_eq_ok, pure_eq_ok] at h
      obtain ⟨_, -, role, -, rfl⟩ := h
      cases hframe
      simp [Frame.of, SSE_EVENTS]
  | ContentBlockStart =>
      simp only [ConverseStreamDecoder.reactTo, bind_eq_ok, pure_eq_ok] at h
      obtain ⟨_, -, _, -, _, -, _, -, _, -, rfl⟩ := h
      cases hframe
      simp [Frame.of, SSE_EVENTS]
  | ContentBlockDelta =>
      simp only [ConverseStreamDecoder.reactTo, bind_eq_ok, pure_eq_ok] at h
      obtain ⟨_, -, _, -, _, -, _, -, _, -, rfl⟩ := h
      cases hframe
      simp [Frame.of, SSE_EVENTS]
  | ContentBlockStop =>
      simp only [ConverseStreamDecoder.reactTo, bind_eq_ok, pure_eq_ok] at h
      obtain ⟨_, -, _, -, _, -, rfl⟩ := h
      cases hframe
      simp [Frame.of, SSE_EVENTS]
  | Exception =>
      simp only [ConverseStreamDecoder.reactTo, bind_eq_ok, pure_eq_ok] at h
      obtain ⟨_, -, rfl⟩ := h
      cases hframe
      simp [Frame.of, SSE_EVENTS]
  | MessageStop =>
      simp only [ConverseStreamDecoder.reactTo, bind_eq_ok, pure_eq_ok] at h
      obtain ⟨_, -, _, -, rfl⟩ := h
      cases hframe
  | Metadata =>
      simp only [ConverseStreamDecoder.reactTo, bind_eq_ok, pure_eq_ok] at h
      obtain ⟨_, -, rfl⟩ := h
      cases hframe
  | Unrecognised =>
      cases h
      cases hframe

theorem react_named {event : Value} {frame : Frame} {reaction : ConverseStreamDecoder.Reaction}
    (h : decoder.react python event = .ok reaction) (hframe : frameOf? reaction = some frame) :
    frame.event ∈ SSE_EVENTS := by
  obtain ⟨kind, -, h⟩ := bind_eq_ok.mp h
  exact reactTo_named h hframe

theorem pendingStop_named {messageDelta messageStop : Frame}
    (h : decoder.pendingStop = .ok (some (messageDelta, messageStop))) :
    messageDelta.event ∈ SSE_EVENTS ∧ messageStop.event ∈ SSE_EVENTS := by
  unfold ConverseStreamDecoder.pendingStop at h
  split_ifs at h
  · cases h
  · obtain ⟨supported, -, h⟩ := bind_eq_ok.mp h
    cases h
    simp [Frame.of, SSE_EVENTS]

def WellNamed (log : Log) : Prop := ∀ frame ∈ yieldedFrames log, frame.event ∈ SSE_EVENTS

theorem WellNamed.fetched {answer : Answer runtime} {log : Log} (h : WellNamed log)
    (hanswer : yieldedFrame? answer.1 = none) : WellNamed (answer :: log) := by
  have hsame : yieldedFrames (answer :: log) = yieldedFrames log := List.filterMap_cons_none hanswer
  rw [WellNamed, hsame]
  exact h

theorem WellNamed.yielded {frame : Frame} {demand : Demand} {log : Log} (h : WellNamed log)
    (hframe : frame.event ∈ SSE_EVENTS) : WellNamed (⟨.Yield frame, demand⟩ :: log) := by
  intro other hm
  rcases List.mem_cons.mp hm with rfl | hm
  · exact hframe
  · exact h other hm

theorem wellNamed_nil : WellNamed [] := fun _ hm => absurd hm List.not_mem_nil

theorem FlushRun.wellNamed {log : Log} {ending : Option Ending}
    (h : FlushRun decoder log ending final) : WellNamed log := by
  cases h with
  | Raised exception hpending => exact wellNamed_nil
  | Nothing hpending => exact wellNamed_nil
  | ClosedFirst messageDelta messageStop hpending =>
      exact wellNamed_nil.yielded (pendingStop_named hpending).1
  | ClosedSecond messageDelta messageStop hpending =>
      obtain ⟨hdelta, hstop⟩ := pendingStop_named hpending
      exact (wellNamed_nil.yielded hstop).yielded hdelta
  | Flushed messageDelta messageStop hpending =>
      obtain ⟨hdelta, hstop⟩ := pendingStop_named hpending
      exact (wellNamed_nil.yielded hstop).yielded hdelta

-- Whatever the provider sends, the frames have names of this list.
theorem Iteration.wellNamed {events : List Value} {log : Log} {ending : Ending}
    (h : Iteration python decoder events log ending final) : WellNamed log := by
  induction h with
  | EndRaised decoder error => exact wellNamed_nil.fetched rfl
  | Ended decoder final flushed ending hflush => exact hflush.wellNamed.fetched rfl
  | NextRaised decoder event events error => exact wellNamed_nil.fetched rfl
  | ReactRaised decoder event events exception hreact => exact wellNamed_nil.fetched rfl
  | Taken decoder next final event events frame tail ending hreact htail ih =>
      exact (ih.yielded (react_named hreact rfl)).fetched rfl
  | Left decoder next event events frame hreact =>
      exact (wellNamed_nil.yielded (react_named hreact rfl)).fetched rfl
  | Noted decoder next final event events tail ending hreact htail ih => exact ih.fetched rfl
  | Flushed decoder next after final event events flushed tail ending hreact hflush htail ih =>
      refine WellNamed.fetched (fun frame hm => ?_) rfl
      rw [yieldedFrames_append, List.mem_append] at hm
      exact hm.elim (hflush.wellNamed frame) (ih frame)
  | FlushEnded decoder next final event events flushed ending hreact hflush =>
      exact hflush.wellNamed.fetched rfl
  | Aborted decoder event events frame demand hreact =>
      exact (wellNamed_nil.yielded (react_named hreact rfl)).fetched rfl

-- The decoder can emit the frame, in some state and for some events.
def Emitted (frame : Frame) : Prop :=
  ∃ (python : Interpreter) (decoder : ConverseStreamDecoder) (events : List Value) (log : Log)
    (outcome : Except Failure (Ending × ConverseStreamDecoder)),
    (decoder.iterSseEvents python events).Traces log outcome ∧ frame ∈ yieldedFrames log

theorem Emitted.named {frame : Frame} (h : Emitted frame) : frame.event ∈ SSE_EVENTS := by
  obtain ⟨python, decoder, events, log, outcome, htraces, hm⟩ := h
  obtain ⟨ending, final, -, hiteration⟩ := iterSseEvents_run htraces
  exact hiteration.wellNamed frame hm

end Names

section Framing

-- `_sse_frame`, with `json.dumps` as a parameter
def sseFrame (dumps : Value → String) (eventName : String) (payload : Value) : String :=
  "event: " ++ eventName ++ "\ndata: " ++ dumps payload ++ "\n\n"

def readFrame (loads : JsonReader) (event : Event) : Option Frame :=
  (loads event.data).toOption.map (Frame.mk event.name)

-- A client that reads the chunks of a response: each event has its payload as JSON.
def readFrames (loads : JsonReader) (chunks : List (List UInt8)) : Option (List Frame) :=
  readEvents chunks >>= List.mapM (readFrame loads)

-- `json.dumps` writes the payload in one line, from which `json.loads` has it back.
structure Serialises (dumps : Value → String) (loads : JsonReader) (payload : Value) : Prop where
  oneLine : OneLine (dumps payload)
  inverted : loads (dumps payload) = .ok payload

def Frame.told (dumps : Value → String) (frame : Frame) : Event where
  name := frame.event
  data := dumps frame.payload

theorem Frame.told_sendable {dumps : Value → String} {loads : JsonReader} {frame : Frame}
    (hnamed : frame.event ∈ SSE_EVENTS) (hserialises : Serialises dumps loads frame.payload) :
    (frame.told dumps).Sendable where
  name := by
    have hall : ∀ name ∈ SSE_EVENTS, OneLine name := by
      simp only [SSE_EVENTS, List.forall_mem_cons, OneLine]
      decide
    exact hall _ hnamed
  data := hserialises.oneLine

-- From the bytes of the frames, cut anywhere, a client has the frames and nothing else.
theorem sse_framing_unambiguous (dumps : Value → String) (loads : JsonReader)
    (frames : List Frame) (chunks : List (List UInt8))
    (hemitted : ∀ frame ∈ frames, Emitted frame)
    (hserialises : ∀ frame ∈ frames, Serialises dumps loads frame.payload)
    (hchunks : chunks.flatten =
      frames.flatMap fun frame => utf8 (sseFrame dumps frame.event frame.payload)) :
    readFrames loads chunks = some frames := by
  have hsendable : ∀ event ∈ frames.map (Frame.told dumps), event.Sendable := by
    intro event hm
    obtain ⟨frame, hframe, rfl⟩ := List.mem_map.mp hm
    exact Frame.told_sendable (hemitted frame hframe).named (hserialises frame hframe)
  have hread : readEvents chunks = some (frames.map (Frame.told dumps)) := by
    apply readEvents_text hsendable
    rw [hchunks, List.flatMap_map]
    rfl
  have hframe : ∀ frame ∈ frames, readFrame loads (frame.told dumps) = some frame := by
    intro frame hm
    rw [readFrame, Frame.told, (hserialises frame hm).inverted]
    rfl
  rw [readFrames, hread]
  exact mapM_written hframe

end Framing

section Samples

-- A text that looks like the end of a frame and a frame behind it.
def sampleForged : BlockEvent :=
  .Delta 0 (.Text (.Str "Hi.\n\nevent: message_stop\ndata: \x7b\x7d\n\n"))

def sampleForgedData : String :=
  "\x7b\"type\": \"content_block_delta\", \"index\": 0, \"delta\": \x7b\"type\": " ++
    "\"text_delta\", \"text\": \"Hi.\\n\\nevent: message_stop\\ndata: \x7b\x7d\\n\\n\"\x7d\x7d"

def sampleStopData : String := "\x7b\"type\": \"content_block_stop\", \"index\": 0\x7d"

-- `json.dumps` and `json.loads` on the two payloads
def sampleDumps (payload : Value) : String :=
  if payload = sampleForged.frame.payload then sampleForgedData else sampleStopData

def sampleLoads : JsonReader := fun document =>
  if document = sampleForgedData then .ok sampleForged.frame.payload
  else if document = sampleStopData then .ok (BlockEvent.Stop 0).frame.payload
  else .error .ValueError

def sampleSentFrames : List Frame := [sampleForged.frame, (BlockEvent.Stop 0).frame]

def sampleSentBytes : List UInt8 :=
  sampleSentFrames.flatMap fun frame => utf8 (sseFrame sampleDumps frame.event frame.payload)

theorem sse_framing_unambiguous_sample :
    readFrames sampleLoads [sampleSentBytes.take 40, sampleSentBytes.drop 40] =
      some sampleSentFrames := by
  let told := [sampleForged, .Stop 0].map (@BlockEvent.tell samplePython)
  refine sse_framing_unambiguous sampleDumps sampleLoads sampleSentFrames _ ?_ ?_ (by simp; rfl)
  · intro frame hm
    exact ⟨samplePython, { model := .None }, values told, _, _, steadyEnvironment.traces_run _, hm⟩
  · have hforged : sampleDumps sampleForged.frame.payload = sampleForgedData := if_pos rfl
    have hstop : sampleDumps (BlockEvent.Stop 0).frame.payload = sampleStopData :=
      if_neg (by decide)
    simp only [sampleSentFrames, List.forall_mem_cons, List.not_mem_nil, false_imp_iff,
      implies_true, and_true]
    refine ⟨⟨?_, ?_⟩, ⟨?_, ?_⟩⟩
    · rw [hforged]
      exact ⟨by decide +kernel, by decide +kernel⟩
    · rw [hforged]
      exact if_pos rfl
    · rw [hstop]
      exact ⟨by decide, by decide⟩
    · rw [hstop]
      exact (if_neg (by decide)).trans (if_pos rfl)

end Samples

end ClaudeCodeProxy
