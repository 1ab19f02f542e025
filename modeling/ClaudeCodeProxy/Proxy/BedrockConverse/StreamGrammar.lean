import ClaudeCodeProxy.Proxy.BedrockConverse.ProviderEvents

-- The events that a provider sends for one message, and the frames that a client gets for
-- them.

namespace ClaudeCodeProxy

open Effects Python

section Grammar

-- One message of the provider. Without metadata nothing is known of its usage.
structure Message where
  role : Value
  blocks : List BlockEvent
  stopReason : String
  usage : Option Usage

def eventsAt (index : Int) (blocks : List BlockEvent) : List BlockEvent :=
  blocks.filter fun event => event.index = index

-- A start, deltas of the same kind, and a stop.
def WholeBlock (events : List BlockEvent) : Prop :=
  ∃ (index : Int) (opening : BlockOpening) (deltas : List BlockDelta),
    events = .Start index opening :: (deltas.map (.Delta index) ++ [.Stop index]) ∧
      ∀ delta ∈ deltas, delta.kind = opening.kind

-- Whole blocks, each with an index of its own, in any interleaving.
def Interleaved (blocks : List BlockEvent) : Prop :=
  ∀ index, eventsAt index blocks = [] ∨ WholeBlock (eventsAt index blocks)

def StreamEvent.recognised : StreamEvent → Bool
  | .Unrecognised => false
  | _ => true

-- The stop and the metadata come in either order.
def Message.closings (message : Message) : List (List StreamEvent) :=
  match message.usage with
  | none => [[.MessageStop message.stopReason]]
  | some usage => [[.MessageStop message.stopReason, .Metadata usage],
      [.Metadata usage, .MessageStop message.stopReason]]

def meanings {python : Interpreter} (stream : List (ProviderEvent python)) : List StreamEvent :=
  stream.map ProviderEvent.meaning

def values {python : Interpreter} (stream : List (ProviderEvent python)) : List Value :=
  stream.map ProviderEvent.value

-- The stream is the message, with unrecognised events anywhere in it.
structure Message.Spoken {python : Interpreter} (message : Message)
    (stream : List (ProviderEvent python)) : Prop where
  interleaved : Interleaved message.blocks
  events : ∃ closing ∈ message.closings, (meanings stream).filter StreamEvent.recognised =
    .MessageStart message.role :: (message.blocks.map .Block ++ closing)

-- What a client gets of it.
def Message.frames (message : Message) (messageId : String) (model : Value) : List Frame :=
  startFrame messageId model message.role :: (message.blocks.map BlockEvent.frame ++
    closingFrames message.stopReason (message.usage.getD {}))

end Grammar

section Decoding

variable {python : Interpreter} {decoder : ConverseStreamDecoder}

theorem values_append (first second : List (ProviderEvent python)) :
    values (first ++ second) = values first ++ values second := List.map_append

theorem values_cons (event : ProviderEvent python) (stream : List (ProviderEvent python)) :
    values (event :: stream) = event.value :: values stream := rfl

-- Unrecognised events change nothing.
theorem advance_recognised (stream : List (ProviderEvent python)) :
    decoder.advance python (values stream) =
      decoder.advance python (values (stream.filter fun event => event.meaning.recognised)) := by
  induction stream generalizing decoder with
  | nil => rfl
  | cons event stream ih =>
      have hcarries := event.carries
      cases hmeaning : event.meaning with
      | Unrecognised =>
          rw [hmeaning] at hcarries
          rw [List.filter_cons_of_neg (by simp [hmeaning, StreamEvent.recognised]), ← ih]
          exact ConverseStreamDecoder.advance_silent _ (framesOf_unrecognised hcarries)
      | _ =>
          rw [List.filter_cons_of_pos (by simp [hmeaning, StreamEvent.recognised])]
          simp only [values, List.map_cons, ConverseStreamDecoder.advance]
          cases decoder.framesOf python event.value with
          | none => rfl
          | some reaction => exact congrArg (· >>= _) ih

-- Every thought has its block opened before it.
def Announced (decoder : ConverseStreamDecoder) (blocks : List BlockEvent) : Prop :=
  ∀ before index text after, blocks = before ++ .Delta index (.ReasoningContent text) :: after →
    Thinks decoder index ∨ .Start index .ReasoningContent ∈ before

theorem announced_nil : Announced decoder [] :=
  fun before index text after heq => by simp at heq

theorem Announced.congr {next : ConverseStreamDecoder} {blocks : List BlockEvent}
    (hpositions : next.thinkingBlockPositions = decoder.thinkingBlockPositions) :
    Announced next blocks ↔ Announced decoder blocks := by
  simp only [Announced, Thinks, hpositions]

theorem thinks_after_iff {event : BlockEvent} {index : Int} :
    Thinks (decoder.after event) index ↔
      Thinks decoder index ∨ event = .Start index .ReasoningContent := by
  constructor
  · intro h
    cases event with
    | Start other opening =>
        cases opening with
        | ReasoningContent =>
            by_cases heq : index = other
            · exact .inr (by rw [heq])
            · simp only [Thinks, ConverseStreamDecoder.after, List.lookup_cons] at h
              rw [beq_eq_false_iff_ne.mpr heq] at h
              exact .inl h
        | _ => exact .inl h
    | Delta other delta =>
        cases delta with
        | ReasoningContent text =>
            simp only [Thinks, ConverseStreamDecoder.after] at h
            split at h <;> exact .inl h
        | _ => exact .inl h
    | Stop other => exact .inl h
  · rintro (h | rfl)
    · exact (passes_after decoder event).thinks index h
    · exact (passes_after decoder _).opened index rfl

theorem announced_cons_iff {block : BlockEvent} {blocks : List BlockEvent} :
    Announced decoder (block :: blocks) ↔
      Primed decoder block ∧ Announced (decoder.after block) blocks := by
  constructor
  · intro h
    constructor
    · cases block with
      | Delta index delta =>
          cases delta with
          | ReasoningContent text =>
              exact (h [] index text blocks rfl).resolve_right List.not_mem_nil
          | _ => trivial
      | _ => trivial
    · rintro before index text after rfl
      rw [thinks_after_iff]
      rcases h (block :: before) index text after rfl with hthinks | hmem
      · exact .inl (.inl hthinks)
      · rcases List.mem_cons.mp hmem with hopened | hmem
        · exact .inl (.inr hopened.symm)
        · exact .inr hmem
  · rintro ⟨hprimed, hannounced⟩ before index text after heq
    cases before with
    | nil =>
        cases heq
        exact .inl hprimed
    | cons head before =>
        obtain ⟨rfl, rfl⟩ := List.cons.inj heq
        rcases hannounced before index text after rfl with hthinks | hmem
        · rcases thinks_after_iff.mp hthinks with hthinks | hopened
          · exact .inl hthinks
          · exact .inr (hopened ▸ .head _)
        · exact .inr (.tail _ hmem)

theorem eventsAt_split (before : List BlockEvent) (event : BlockEvent) (after : List BlockEvent) :
    eventsAt event.index (before ++ event :: after) =
      eventsAt event.index before ++ event :: eventsAt event.index after := by
  simp [eventsAt]

theorem announced_of_interleaved {blocks : List BlockEvent} (h : Interleaved blocks) :
    Announced decoder blocks := by
  rintro before index text after rfl
  right
  have hat : eventsAt index (before ++ .Delta index (.ReasoningContent text) :: after) =
      eventsAt index before ++ .Delta index (.ReasoningContent text) :: eventsAt index after :=
    eventsAt_split before (.Delta index (.ReasoningContent text)) after
  rcases h index with hnone | ⟨index', opening, deltas, hblock, hkinds⟩
  · rw [hat] at hnone
    simp at hnone
  rw [hat] at hblock
  cases hbefore : eventsAt index before with
  | nil =>
      rw [hbefore] at hblock
      cases hblock
  | cons head tail =>
      rw [hbefore, List.cons_append] at hblock
      obtain ⟨rfl, htail⟩ := List.cons.inj hblock
      have hdelta : BlockEvent.Delta index (.ReasoningContent text) ∈
          deltas.map (.Delta index') ++ [.Stop index'] :=
        htail ▸ List.mem_append_right _ (.head _)
      have hstart : BlockEvent.Start index' opening ∈ eventsAt index before :=
        hbefore ▸ List.mem_cons_self
      simp only [List.mem_append, List.mem_map, List.mem_singleton] at hdelta
      rcases hdelta with ⟨delta, hmem, hevent⟩ | hstop
      · cases hevent
        have hkind := hkinds _ hmem
        cases opening with
        | ReasoningContent => exact List.mem_of_mem_filter hstart
        | _ => cases hkind
      · cases hstop

theorem advance_blocks {blocks : List BlockEvent} (stream : List (ProviderEvent python))
    (hevents : meanings stream = blocks.map .Block) (hannounced : Announced decoder blocks) :
    ∃ next, decoder.advance python (values stream) = some (blocks.map BlockEvent.frame, next) ∧
      next.usage = decoder.usage ∧ next.pendingStopReason = decoder.pendingStopReason := by
  induction blocks generalizing decoder stream with
  | nil =>
      cases List.map_eq_nil_iff.mp hevents
      exact ⟨decoder, rfl, rfl, rfl⟩
  | cons block blocks ih =>
      obtain ⟨event, stream, rfl, hmeaning, hrest⟩ := List.map_eq_cons_iff.mp hevents
      have hcarries := event.carries
      rw [hmeaning] at hcarries
      obtain ⟨hprimed, hannounced⟩ := announced_cons_iff.mp hannounced
      have hnext := framesOf_block hcarries hprimed
      have hpasses := passes_after decoder block
      obtain ⟨final, hfinal, husage, hpending⟩ := ih stream hrest hannounced
      refine ⟨final, ?_, husage.trans hpasses.usage, hpending.trans hpasses.pendingStopReason⟩
      change decoder.advance python (event.value :: values stream) = _
      simp [ConverseStreamDecoder.advance, hnext, hfinal]

theorem framesOf_stop {stop : ProviderEvent python} {stopReason : String}
    (h : stop.meaning = .MessageStop stopReason) :
    decoder.framesOf python stop.value =
      some ([], { decoder with pendingStopReason := .Str stopReason }) := by
  have hcarries := stop.carries
  rw [h] at hcarries
  exact framesOf_messageStop hcarries

-- In either order, the closing events make the closing frames, some of them at the end.
theorem advance_closing {message : Message} (stream : List (ProviderEvent python))
    (hevents : meanings stream ∈ message.closings) (husage : decoder.usage = {})
    (hpending : decoder.pendingStopReason = .None) :
    ∃ frames next last final, decoder.advance python (values stream) = some (frames, next) ∧
      next.flushed = .ok (last, final) ∧
      frames ++ last = closingFrames message.stopReason (message.usage.getD {}) := by
  obtain ⟨role, blocks, stopReason, usage⟩ := message
  cases usage with
  | none =>
      rw [Message.closings, List.mem_singleton] at hevents
      obtain ⟨stop, rest, rfl, hstop, hrest⟩ := List.map_eq_cons_iff.mp hevents
      cases List.map_eq_nil_iff.mp hrest
      have hadvance := ConverseStreamDecoder.advance_silent [] (@framesOf_stop python decoder _ _ hstop)
      exact ⟨[], _, _, _, hadvance, flushed_pending rfl, by rw [husage]; rfl⟩
  | some usage =>
      simp only [Message.closings, List.mem_cons, List.not_mem_nil, or_false] at hevents
      rcases hevents with hevents | hevents
      · obtain ⟨stop, rest, rfl, hstop, hrest⟩ := List.map_eq_cons_iff.mp hevents
        obtain ⟨metadata, rest, rfl, hmetadata, hrest⟩ := List.map_eq_cons_iff.mp hrest
        cases List.map_eq_nil_iff.mp hrest
        have hcarries := metadata.carries
        rw [hmetadata] at hcarries
        have hadvance := ConverseStreamDecoder.advance_silent [metadata.value]
          (@framesOf_stop python decoder _ _ hstop)
        let closed : ConverseStreamDecoder :=
          { decoder with pendingStopReason := .None, usage := usage }
        refine ⟨closingFrames stopReason usage, closed, [], closed, ?_, flushed_none rfl,
          List.append_nil _⟩
        refine hadvance.trans ?_
        rw [ConverseStreamDecoder.advance, framesOf_metadata hcarries, flushed_pending rfl]
        rfl
      · obtain ⟨metadata, rest, rfl, hmetadata, hrest⟩ := List.map_eq_cons_iff.mp hevents
        obtain ⟨stop, rest, rfl, hstop, hrest⟩ := List.map_eq_cons_iff.mp hrest
        cases List.map_eq_nil_iff.mp hrest
        have hcarries := metadata.carries
        rw [hmetadata] at hcarries
        let told : ConverseStreamDecoder := { decoder with usage := usage }
        have hflushed : told.flushed = .ok ([], told) := flushed_none hpending
        have htold : decoder.framesOf python metadata.value = some ([], told) :=
          (framesOf_metadata hcarries).trans (congrArg Except.toOption hflushed)
        refine ⟨[], { told with pendingStopReason := .Str stopReason }, _, _, ?_,
          flushed_pending rfl, rfl⟩
        exact (ConverseStreamDecoder.advance_silent [stop.value] htold).trans
          (ConverseStreamDecoder.advance_silent [] (framesOf_stop hstop))

-- The frames of the message: some from its events, and the others from the end of the stream.
theorem advance_spoken {message : Message} {stream : List (ProviderEvent python)}
    (h : message.Spoken stream) (husage : decoder.usage = {})
    (hpending : decoder.pendingStopReason = .None) :
    ∃ frames next last final, decoder.advance python (values stream) = some (frames, next) ∧
      next.flushed = .ok (last, final) ∧
      frames ++ last = message.frames decoder.messageId decoder.model := by
  obtain ⟨hinterleaved, closing, hclosing, hevents⟩ := h
  rw [meanings, List.filter_map] at hevents
  obtain ⟨start, rest, hstream, hstart, hrest⟩ := List.map_eq_cons_iff.mp hevents
  obtain ⟨body, ending, rfl, hbody, hending⟩ := List.map_eq_append_iff.mp hrest
  have hcarries := start.carries
  rw [hstart] at hcarries
  obtain ⟨middle, hmiddle, husage', hpending'⟩ := advance_blocks body hbody
    (announced_of_interleaved hinterleaved)
  obtain ⟨frames, next, last, final, hframes, hflushed, hclosed⟩ :=
    advance_closing ending (hending ▸ hclosing) (husage'.trans husage) (hpending'.trans hpending)
  have hrest : decoder.advance python (values body ++ values ending) =
      some (message.blocks.map BlockEvent.frame ++ frames, next) :=
    ConverseStreamDecoder.advance_append.mpr ⟨_, middle, frames, hmiddle, hframes, rfl⟩
  refine ⟨[startFrame decoder.messageId decoder.model message.role] ++
    (message.blocks.map BlockEvent.frame ++ frames), next, last, final, ?_, hflushed, ?_⟩
  · have hstart' : decoder.advance python [start.value] =
        some ([startFrame decoder.messageId decoder.model message.role], decoder) := by
      simp [ConverseStreamDecoder.advance, framesOf_messageStart hcarries]
    rw [advance_recognised, show stream.filter (fun event => event.meaning.recognised) =
      start :: (body ++ ending) from hstream, values_cons, values_append]
    exact (@ConverseStreamDecoder.advance_append python decoder next [start.value] _ _).mpr
      ⟨_, decoder, _, hstart', hrest, rfl⟩
  · rw [Message.frames, ← hclosed]
    simp

def StreamEvent.usage? : StreamEvent → Option Usage
  | .Metadata usage => some usage
  | _ => none

theorem metadataUsage_of_member {kind : EventKind} {entries : List (String × Value)}
    {payload : Value} (hkind : kind ≠ .Unrecognised) (hmetadata : kind ≠ .Metadata)
    (h : Member STREAM_MEMBERS entries kind.key payload) :
    metadataUsage python (.Mapping entries) = none :=
  metadataUsage_of_not_metadata (classify_member hkind h) hmetadata

theorem metadataUsage_of_carries {value : Value} {meaning : StreamEvent}
    (h : Carries python value meaning) : metadataUsage python value = meaning.usage? := by
  cases h with
  | MessageStart entries fields hmember =>
      exact @metadataUsage_of_member python .MessageStart entries _ (by decide) (by decide) hmember
  | BlockStart entries fields start index opening hmember hindex hstart hopens =>
      exact @metadataUsage_of_member python .ContentBlockStart entries _ (by decide) (by decide) hmember
  | BlockDelta entries fields delta index content hmember hindex hdelta hcontinues =>
      exact @metadataUsage_of_member python .ContentBlockDelta entries _ (by decide) (by decide) hmember
  | BlockStop entries fields index hmember hindex =>
      exact @metadataUsage_of_member python .ContentBlockStop entries _ (by decide) (by decide) hmember
  | MessageStop entries fields stopReason hmember hreason =>
      exact @metadataUsage_of_member python .MessageStop entries _ (by decide) (by decide) hmember
  | Metadata entries fields usage hmember husage =>
      rw [metadataUsage, @classify_member entries .Metadata _ (by decide) hmember]
      simp [hmember.1, husage, StreamEvent.usage?, ok_bind, Except.toOption]
  | Exception entries exception hmember =>
      exact @metadataUsage_of_member python .Exception entries _ (by decide) (by decide) hmember
  | Unrecognised entries hnone =>
      exact metadataUsage_of_not_metadata (classify_unrecognised hnone) (by decide)

-- What is read of a spoken message, event by event: of its blocks, and of its closing.
theorem Message.Spoken.filterMap_meanings {β : Type} {message : Message}
    {stream : List (ProviderEvent python)} (h : message.Spoken stream)
    (read : StreamEvent → Option β) (hunrecognised : read .Unrecognised = none)
    (hstart : ∀ role, read (.MessageStart role) = none) :
    ∃ closing ∈ message.closings, (meanings stream).filterMap read =
      message.blocks.filterMap (fun event => read (.Block event)) ++ closing.filterMap read := by
  obtain ⟨closing, hclosing, hevents⟩ := h.events
  refine ⟨closing, hclosing, ?_⟩
  have hrecognised : (meanings stream).filterMap read =
      ((meanings stream).filter StreamEvent.recognised).filterMap read := by
    rw [List.filterMap_filter]
    congr 1
    funext meaning
    cases meaning with
    | Unrecognised => exact hunrecognised
    | _ => rfl
  rw [hrecognised, hevents, List.filterMap_cons_none (hstart message.role), List.filterMap_append,
    List.filterMap_map]
  rfl

-- A message is billed for the usage that it comes with.
theorem Message.Spoken.lastUsage {message : Message} {stream : List (ProviderEvent python)}
    (h : message.Spoken stream) (usage : Usage) :
    ClaudeCodeProxy.lastUsage python usage (values stream) = message.usage.getD usage := by
  have hvalues : (values stream).filterMap (metadataUsage python) =
      (meanings stream).filterMap StreamEvent.usage? := by
    rw [values, meanings, List.filterMap_map, List.filterMap_map]
    congr 1
    funext event
    exact metadataUsage_of_carries event.carries
  obtain ⟨closing, hclosing, hread⟩ := h.filterMap_meanings StreamEvent.usage? rfl fun _ => rfl
  have hblocks : message.blocks.filterMap (fun event => StreamEvent.usage? (.Block event)) = [] :=
    List.filterMap_eq_nil_iff.mpr fun _ _ => rfl
  have hclosings : closing.filterMap StreamEvent.usage? = message.usage.toList := by
    obtain ⟨role, blocks, stopReason, reported⟩ := message
    cases reported with
    | none =>
        rw [List.mem_singleton.mp hclosing]
        rfl
    | some reported =>
        simp only [Message.closings, List.mem_cons, List.not_mem_nil, or_false] at hclosing
        rcases hclosing with rfl | rfl <;> rfl
  rw [ClaudeCodeProxy.lastUsage, hvalues, hread, hblocks, hclosings]
  cases message.usage <;> rfl

-- A list with two marked items in it ends with them, if one that it equals does.
theorem split_at_closing {α : Type} {opening before between after : List α}
    {stop metadata first second : α}
    (h : before ++ stop :: (between ++ metadata :: after) = opening ++ [first, second])
    (hstop : stop ∉ opening) :
    before = opening ∧ between = [] ∧ after = [] ∧ stop = first ∧ metadata = second := by
  rcases List.append_eq_append_iff.mp h with ⟨rest, rfl, htail⟩ | ⟨rest, rfl, htail⟩
  · cases rest with
    | nil =>
        cases between with
        | nil =>
            cases htail
            exact ⟨(List.append_nil before).symm, rfl, rfl, rfl, rfl⟩
        | cons item between => simp at htail
    | cons item rest =>
        obtain ⟨rfl, -⟩ := List.cons.inj htail
        exact absurd (List.mem_append_right _ (.head _)) hstop
  · have hlength := congrArg List.length htail
    simp only [List.length_append, List.length_cons, List.length_nil] at hlength
    have hrest : rest = [] := List.length_eq_zero_iff.mp (by omega)
    have hbetween : between = [] := List.length_eq_zero_iff.mp (by omega)
    have hafter : after = [] := List.length_eq_zero_iff.mp (by omega)
    subst hrest hbetween hafter
    cases htail
    exact ⟨List.append_nil opening, rfl, rfl, rfl, rfl⟩

-- The stop and the metadata may change places.
theorem Message.Spoken.swap {message : Message} {before between after : List (ProviderEvent python)}
    {stop metadata : ProviderEvent python} {stopReason : String} {usage : Usage}
    (h : message.Spoken (before ++ stop :: (between ++ metadata :: after)))
    (hstop : stop.meaning = .MessageStop stopReason) (hmetadata : metadata.meaning = .Metadata usage) :
    message.Spoken (before ++ metadata :: (between ++ stop :: after)) := by
  obtain ⟨role, blocks, stopReason', usage'⟩ := message
  obtain ⟨hinterleaved, closing, hclosing, hevents⟩ := h
  refine ⟨hinterleaved, ?_⟩
  simp only [meanings, List.map_append, List.map_cons, List.filter_append, List.filter_cons, hstop,
    hmetadata, StreamEvent.recognised, ite_true] at hevents ⊢
  have hopening : .MessageStop stopReason ∉
      .MessageStart role :: blocks.map StreamEvent.Block := by simp
  have hsplit : (before.map ProviderEvent.meaning).filter StreamEvent.recognised ++
      .MessageStop stopReason :: ((between.map ProviderEvent.meaning).filter StreamEvent.recognised ++
        .Metadata usage :: (after.map ProviderEvent.meaning).filter StreamEvent.recognised) =
      (.MessageStart role :: blocks.map .Block) ++ closing := hevents
  cases usage' with
  | none =>
      rw [Message.closings, List.mem_singleton] at hclosing
      subst hclosing
      have hmem : StreamEvent.Metadata usage ∈
          (.MessageStart role :: blocks.map .Block) ++ [.MessageStop stopReason'] :=
        hsplit ▸ by simp
      simp at hmem
  | some usage' =>
      simp only [Message.closings, List.mem_cons, List.not_mem_nil, or_false] at hclosing
      rcases hclosing with rfl | rfl
      · obtain ⟨hbefore, hbetween, hafter, hsameStop, hsameMetadata⟩ :=
          split_at_closing hsplit hopening
        refine ⟨_, .tail _ (.head _), ?_⟩
        rw [hbefore, hbetween, hafter, hsameStop, hsameMetadata]
        rfl
      · obtain ⟨-, -, -, hsame, -⟩ := split_at_closing hsplit hopening
        cases hsame

end Decoding

section Runs

variable {python : Interpreter} {decoder next : ConverseStreamDecoder} {log : Log}
  {outcome : Except Failure (Ending × ConverseStreamDecoder)}

theorem drained_frames {events : List Value} {frames last : List Frame}
    {final : ConverseStreamDecoder}
    (h : (decoder.iterSseEvents python events).Traces log outcome) (hdrained : Drained log)
    (hadvance : decoder.advance python events = some (frames, next))
    (hflushed : next.flushed = .ok (last, final)) :
    yieldedFrames log = frames ++ last ∧ outcome = .ok (.Exhausted, final) := by
  obtain ⟨ending, final, rfl, hiteration⟩ := iterSseEvents_run h
  rw [← List.append_nil events] at hiteration
  obtain ⟨tail, rfl, htail⟩ := hiteration.passes hdrained hadvance
  obtain ⟨rfl, rfl, rfl⟩ := htail.ends (hdrained.append _ tail).2 hflushed
  refine ⟨?_, rfl⟩
  rw [yieldedFrames_append, (passed_spec hadvance).2]
  exact congrArg (frames ++ ·) (yieldedFrames_yielded last)

theorem aborted_log {before events : List Value} {event : Value} {frames : List Frame}
    {frame : Frame}
    (h : (decoder.iterSseEvents python (before ++ event :: events)).Traces log outcome)
    (hdrained : Drained log) (hadvance : decoder.advance python before = some (frames, next))
    (habort : next.react python event = .ok (.Abort frame)) :
    log = passed python decoder before ++
        [answered (.NextEvent event) (.ok ()), ⟨.Yield frame, .Next⟩] ∧
      ∃ final, outcome = .ok (.Exhausted, final) := by
  obtain ⟨ending, final, rfl, hiteration⟩ := iterSseEvents_run h
  obtain ⟨tail, rfl, htail⟩ := hiteration.passes hdrained hadvance
  obtain ⟨rfl, rfl, -⟩ := htail.aborts (hdrained.append _ tail).2 habort
  exact ⟨rfl, final, rfl⟩

end Runs

-- The frames of a message, in whatever order it closes, and of one that the provider breaks off.
theorem stream_grammar (python : Interpreter) (messageId : String) (model : Value)
    (message : Message) (stream : List (ProviderEvent python)) (hspoken : message.Spoken stream)
    (log : Log) (outcome : Except Failure (Ending × ConverseStreamDecoder))
    (h : (ConverseStreamDecoder.iterSseEvents python { model := model, messageId := messageId }
      (values stream)).Traces log outcome) (hdrained : Drained log) :
    (yieldedFrames log = message.frames messageId model ∧
      ∃ final, outcome = .ok (.Exhausted, final)) ∧
    (∀ before stop between metadata after stopReason usage,
      stream = before ++ stop :: (between ++ metadata :: after) →
      stop.meaning = .MessageStop stopReason → metadata.meaning = .Metadata usage →
      ∀ log' outcome',
        (ConverseStreamDecoder.iterSseEvents python { model := model, messageId := messageId }
          (values (before ++ metadata :: (between ++ stop :: after)))).Traces log' outcome' →
        Drained log' → yieldedFrames log' = yieldedFrames log) ∧
    (∀ before after exception failure rest, stream = before ++ after →
      exception.meaning = .Exception failure →
      ∀ log' outcome',
        (ConverseStreamDecoder.iterSseEvents python { model := model, messageId := messageId }
          (values (before ++ exception :: rest))).Traces log' outcome' →
        Drained log' →
        ∃ common tail, log = common ++ tail ∧ fetchedEvents common = values before ∧
          (∀ frame demand remaining, tail ≠ ⟨.Yield frame, demand⟩ :: remaining) ∧
          log' = common ++ [answered (.NextEvent exception.value) (.ok ()),
            ⟨.Yield (errorFrame python failure), .Next⟩] ∧
          ∃ final, outcome' = .ok (.Exhausted, final)) := by
  let decoder : ConverseStreamDecoder := { model := model, messageId := messageId }
  have hframes : ∀ stream' : List (ProviderEvent python), message.Spoken stream' →
      ∀ log' outcome', (decoder.iterSseEvents python (values stream')).Traces log' outcome' →
        Drained log' → yieldedFrames log' = message.frames messageId model ∧
          ∃ final, outcome' = .ok (.Exhausted, final) := by
    intro stream' hspoken' log' outcome' h' hdrained'
    obtain ⟨frames, next, last, final, hadvance, hflushed, hmessage⟩ :=
      @advance_spoken python decoder message stream' hspoken' rfl rfl
    obtain ⟨hsent, hend⟩ := drained_frames h' hdrained' hadvance hflushed
    exact ⟨hsent.trans hmessage, final, hend⟩
  refine ⟨hframes stream hspoken log outcome h hdrained, ?_, ?_⟩
  · rintro before stop between metadata after stopReason usage rfl hstop hmetadata log' outcome' h'
      hdrained'
    have hswapped := hspoken.swap hstop hmetadata
    rw [(hframes _ hspoken log outcome h hdrained).1, (hframes _ hswapped log' outcome' h' hdrained').1]
  · rintro before after exception failure rest rfl hexception log' outcome' h' hdrained'
    obtain ⟨frames, final, last, closed, hadvance, -, -⟩ :=
      @advance_spoken python decoder message _ hspoken rfl rfl
    rw [values_append] at hadvance h
    obtain ⟨taken, next, remaining, htaken, -, -⟩ := ConverseStreamDecoder.advance_append.mp hadvance
    have hcarries := exception.carries
    rw [hexception] at hcarries
    rw [values_append, values_cons] at h'
    obtain ⟨hlog', hending⟩ := aborted_log h' hdrained' htaken (react_exception hcarries)
    obtain ⟨ending, final, -, hiteration⟩ := iterSseEvents_run h
    obtain ⟨tail, hlog, htail⟩ := hiteration.passes hdrained htaken
    exact ⟨_, tail, hlog, (passed_spec htaken).1, fun frame demand remaining => htail.fetches, hlog',
      hending⟩

section Samples

def member (name : String) (fields : List (String × Value)) : List (String × Value) :=
  [(name, .Mapping fields)]

def sampleMessage : Message where
  role := .Str "assistant"
  blocks := [.Start 0 .Text, .Start 1 .ReasoningContent, .Delta 1 (.ReasoningContent "Hm."),
    .Delta 0 (.Text (.Str "Hello.")), .Stop 1, .Stop 0]
  stopReason := "end_turn"
  usage := some {}

-- Two interleaved blocks, an event that nobody knows, and the metadata before the stop.
def sampleProviderEvents : List (ProviderEvent samplePython) := [
  ⟨_, _, .MessageStart (member "messageStart" []) [] ⟨rfl, by decide⟩⟩,
  ⟨_, _, .BlockStart (member "contentBlockStart" [("contentBlockIndex", .Integer 0)])
    [("contentBlockIndex", .Integer 0)] [] 0 .Text ⟨rfl, by decide⟩ rfl rfl (.Plain (by decide))⟩,
  ⟨_, _, .BlockStart (member "contentBlockStart" [("contentBlockIndex", .Integer 1),
      ("start", .Mapping (member "reasoningContent" []))])
    [("contentBlockIndex", .Integer 1), ("start", .Mapping (member "reasoningContent" []))]
    (member "reasoningContent" []) 1 .ReasoningContent ⟨rfl, by decide⟩ rfl rfl
    (.ReasoningContent (.Mapping []) ⟨rfl, by decide⟩)⟩,
  ⟨_, _, .Unrecognised (member "ping" []) (by decide)⟩,
  ⟨_, _, .BlockDelta (member "contentBlockDelta" [("contentBlockIndex", .Integer 1),
      ("delta", .Mapping (member "reasoningContent" [("text", .Str "Hm.")]))])
    [("contentBlockIndex", .Integer 1),
      ("delta", .Mapping (member "reasoningContent" [("text", .Str "Hm.")]))]
    (member "reasoningContent" [("text", .Str "Hm.")]) 1 (.ReasoningContent "Hm.")
    ⟨rfl, by decide⟩ rfl rfl (.ReasoningContent [("text", .Str "Hm.")] "Hm." ⟨rfl, by decide⟩ rfl)⟩,
  ⟨_, _, .BlockDelta (member "contentBlockDelta" [("contentBlockIndex", .Integer 0),
      ("delta", .Mapping [("text", .Str "Hello.")])])
    [("contentBlockIndex", .Integer 0), ("delta", .Mapping [("text", .Str "Hello.")])]
    [("text", .Str "Hello.")] 0 (.Text (.Str "Hello.")) ⟨rfl, by decide⟩ rfl rfl
    (.Text (.Str "Hello.") ⟨rfl, by decide⟩)⟩,
  ⟨_, _, .BlockStop (member "contentBlockStop" [("contentBlockIndex", .Integer 1)])
    [("contentBlockIndex", .Integer 1)] 1 ⟨rfl, by decide⟩ rfl⟩,
  ⟨_, _, .BlockStop (member "contentBlockStop" [("contentBlockIndex", .Integer 0)])
    [("contentBlockIndex", .Integer 0)] 0 ⟨rfl, by decide⟩ rfl⟩,
  ⟨_, _, .Metadata (member "metadata" []) [] {} ⟨rfl, by decide⟩ rfl⟩,
  ⟨_, _, .MessageStop (member "messageStop" [("stopReason", .Str "end_turn")])
    [("stopReason", .Str "end_turn")] "end_turn" ⟨rfl, by decide⟩ rfl⟩]

theorem sampleMessage_spoken : sampleMessage.Spoken sampleProviderEvents where
  interleaved index := by
    by_cases hfirst : index = 0
    · subst hfirst
      exact .inr ⟨0, .Text, [.Text (.Str "Hello.")], rfl, by simp [BlockDelta.kind, BlockOpening.kind]⟩
    by_cases hsecond : index = 1
    · subst hsecond
      exact .inr ⟨1, .ReasoningContent, [.ReasoningContent "Hm."], rfl,
        by simp [BlockDelta.kind, BlockOpening.kind]⟩
    · left
      simp [eventsAt, sampleMessage, BlockEvent.index, Ne.symm hfirst, Ne.symm hsecond]
  events := ⟨_, .tail _ (.head _), rfl⟩

-- A connection that holds, and a client that stays.
def steadyEnvironment : Environment where
  requestId := "request-1"
  perfCounter := 0
  clock := 0
  eventId := "event-1"
  ask
    | .NextEvent _ | .EndOfEvents => .ok ()
    | _ => .error (.Raised "NotImplementedError")
  demand _ := .Next

theorem stream_grammar_sample :
    yieldedFrames (steadyEnvironment.run (ConverseStreamDecoder.iterSseEvents samplePython
      { model := .Str "claude-sonnet-4", messageId := "msg-1" }
      (values sampleProviderEvents))).1 =
      sampleMessage.frames "msg-1" (.Str "claude-sonnet-4") :=
  (stream_grammar samplePython "msg-1" (.Str "claude-sonnet-4") sampleMessage sampleProviderEvents
    sampleMessage_spoken _ _ (steadyEnvironment.traces_run _)
    (List.all_eq_true.mp (by decide))).1.1

end Samples

end ClaudeCodeProxy
