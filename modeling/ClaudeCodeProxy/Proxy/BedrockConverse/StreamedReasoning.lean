import ClaudeCodeProxy.Lists.Forall2
import ClaudeCodeProxy.Proxy.BedrockConverse.ClientMessages
import ClaudeCodeProxy.Proxy.BedrockConverse.ParsedResponses
import Mathlib.Data.List.Nodup

-- The reasoning that the decoder keeps of a stream, and that the parser keeps of a response.

namespace ClaudeCodeProxy

open Effects Lists Python

section Thoughts

-- The number of the block of reasoning that an event starts.
def reasoningStart? : BlockEvent → Option Int
  | .Start index .ReasoningContent => some index
  | _ => none

-- The text that an event adds to the reasoning of a block.
def thoughtAt? (index : Int) : BlockEvent → Option String
  | .Delta other (.ReasoningContent text) => if other = index then some text else none
  | _ => none

def reasoningStarts (events : List BlockEvent) : List Int := events.filterMap reasoningStart?

def thoughtAt (events : List BlockEvent) (index : Int) : String :=
  String.join (events.filterMap (thoughtAt? index))

-- The texts of the blocks of reasoning, in the order in which these start.
def thoughts (events : List BlockEvent) : List String :=
  (reasoningStarts events).map (thoughtAt events)

theorem reasoningStarts_append (first second : List BlockEvent) :
    reasoningStarts (first ++ second) = reasoningStarts first ++ reasoningStarts second :=
  List.filterMap_append

theorem thoughtAt_concat (events : List BlockEvent) (event : BlockEvent) (index : Int) :
    thoughtAt (events ++ [event]) index =
      thoughtAt events index ++ (thoughtAt? index event).getD "" := by
  rw [thoughtAt, thoughtAt, List.filterMap_append, String.join_append]
  congr 1
  cases hthought : thoughtAt? index event with
  | none => simp [hthought]
  | some text => simp [hthought]

theorem mem_reasoningStarts {events : List BlockEvent} {index : Int} :
    index ∈ reasoningStarts events ↔ .Start index .ReasoningContent ∈ events := by
  rw [reasoningStarts, List.mem_filterMap]
  constructor
  · rintro ⟨event, hmem, hstart⟩
    cases event with
    | Start other opening =>
        cases opening with
        | ReasoningContent =>
            cases hstart
            exact hmem
        | _ => cases hstart
    | _ => cases hstart
  · intro hmem
    exact ⟨_, hmem, rfl⟩

-- No event is about the block of a number.
def Unseen (events : List BlockEvent) (index : Int) : Prop := eventsAt index events = []

theorem Unseen.not_started {events : List BlockEvent} {index : Int} (h : Unseen events index) :
    index ∉ reasoningStarts events := by
  intro hmem
  have hstart := List.filter_eq_nil_iff.mp h _ (mem_reasoningStarts.mp hmem)
  exact hstart (decide_eq_true rfl)

theorem Unseen.thoughtAt {events : List BlockEvent} {index : Int} (h : Unseen events index) :
    thoughtAt events index = "" := by
  have hnone : events.filterMap (thoughtAt? index) = [] := by
    rw [List.filterMap_eq_nil_iff]
    intro event hmem
    have hother := List.filter_eq_nil_iff.mp h event hmem
    cases event with
    | Delta other delta =>
        cases delta with
        | ReasoningContent text =>
            have hne : other ≠ index := fun heq => hother (decide_eq_true heq)
            exact if_neg hne
        | _ => rfl
    | _ => rfl
  rw [ClaudeCodeProxy.thoughtAt, hnone]
  rfl

-- Reasoning is started once, and goes on where it has been started.
structure Orderly (events : List BlockEvent) : Prop where
  started : ∀ before index after,
    events = before ++ .Start index .ReasoningContent :: after → Unseen before index
  continued : ∀ before index text after,
    events = before ++ .Delta index (.ReasoningContent text) :: after →
      index ∈ reasoningStarts before

theorem Interleaved.orderly {events : List BlockEvent} (h : Interleaved events) :
    Orderly events where
  started := by
    rintro before index after rfl
    have hat : eventsAt index (before ++ .Start index .ReasoningContent :: after) =
        eventsAt index before ++ .Start index .ReasoningContent :: eventsAt index after :=
      eventsAt_split before (.Start index .ReasoningContent) after
    rcases h index with hnone | ⟨other, opening, deltas, hblock, -⟩
    · rw [hat] at hnone
      simp at hnone
    rw [hat] at hblock
    cases hbefore : eventsAt index before with
    | nil => exact hbefore
    | cons head tail =>
        rw [hbefore, List.cons_append] at hblock
        obtain ⟨-, htail⟩ := List.cons.inj hblock
        have hstart : BlockEvent.Start index .ReasoningContent ∈
            deltas.map (.Delta other) ++ [.Stop other] :=
          htail ▸ List.mem_append_right _ (.head _)
        simp at hstart
  continued := by
    intro before index text after hevents
    have hannounced := @announced_of_interleaved { model := .None } _ h _ _ _ _ hevents
    exact mem_reasoningStarts.mpr (hannounced.resolve_left (by simp [Thinks]))

end Thoughts

section Collecting

variable {python : Interpreter} {decoder next : ConverseStreamDecoder}

-- The decoder has the thoughts of the events so far, and knows where each of them is.
structure Recollects (decoder : ConverseStreamDecoder) (events : List BlockEvent) : Prop where
  thinkingBlocks : decoder.thinkingBlocks = thoughts events
  providerReasoning : decoder.providerReasoning = thoughts events
  nodup : (reasoningStarts events).Nodup
  positions : ∀ index ∈ reasoningStarts events, ∃ position,
    decoder.thinkingBlockPositions.lookup index = some position ∧
      (reasoningStarts events)[position]? = some index

theorem Recollects.congr {events : List BlockEvent} (h : Recollects decoder events)
    (hthinking : next.thinkingBlocks = decoder.thinkingBlocks)
    (hprovider : next.providerReasoning = decoder.providerReasoning)
    (hpositions : next.thinkingBlockPositions = decoder.thinkingBlockPositions) :
    Recollects next events where
  thinkingBlocks := hthinking.trans h.thinkingBlocks
  providerReasoning := hprovider.trans h.providerReasoning
  nodup := h.nodup
  positions := hpositions ▸ h.positions

theorem Recollects.thinks {events : List BlockEvent} {index : Int} (h : Recollects decoder events)
    (hmem : index ∈ reasoningStarts events) : Thinks decoder index := by
  obtain ⟨position, hposition, -⟩ := h.positions index hmem
  exact Option.isSome_iff_exists.mpr ⟨position, hposition⟩

-- An event that is not about reasoning.
theorem thoughts_silent {event : BlockEvent} (events : List BlockEvent)
    (hstart : reasoningStart? event = none) (hthought : ∀ index, thoughtAt? index event = none) :
    reasoningStarts (events ++ [event]) = reasoningStarts events ∧
      thoughts (events ++ [event]) = thoughts events := by
  have hstarts : reasoningStarts (events ++ [event]) = reasoningStarts events := by
    rw [reasoningStarts_append, reasoningStarts, reasoningStarts, List.filterMap_cons_none hstart]
    exact List.append_nil _
  refine ⟨hstarts, ?_⟩
  rw [thoughts, thoughts, hstarts]
  apply List.map_congr_left
  intro index _
  rw [thoughtAt_concat, hthought]
  exact String.append_empty

theorem thoughts_started {events : List BlockEvent} {index : Int} (h : Unseen events index) :
    thoughts (events ++ [.Start index .ReasoningContent]) = thoughts events ++ [""] := by
  have hstarts : reasoningStarts (events ++ [.Start index .ReasoningContent]) =
      reasoningStarts events ++ [index] := reasoningStarts_append _ _
  have hsame : ∀ other, thoughtAt (events ++ [.Start index .ReasoningContent]) other =
      thoughtAt events other := by
    intro other
    rw [thoughtAt_concat]
    exact String.append_empty
  rw [thoughts, hstarts, List.map_append, thoughts, funext hsame, List.map_singleton, h.thoughtAt]

theorem thoughts_continued {events : List BlockEvent} {index : Int} {position : Nat}
    (text : String) (hnodup : (reasoningStarts events).Nodup)
    (hposition : (reasoningStarts events)[position]? = some index) :
    thoughts (events ++ [.Delta index (.ReasoningContent text)]) =
      (thoughts events).modify position (· ++ text) := by
  have hstarts : reasoningStarts (events ++ [.Delta index (.ReasoningContent text)]) =
      reasoningStarts events := by
    rw [reasoningStarts_append]
    exact List.append_nil _
  apply List.ext_getElem?
  intro i
  rw [List.getElem?_modify, thoughts, thoughts, hstarts, List.getElem?_map, List.getElem?_map]
  cases hi : (reasoningStarts events)[i]? with
  | none => rfl
  | some other =>
      by_cases heq : position = i
      · subst heq
        have hsame : other = index := Option.some.inj (hi.symm.trans hposition)
        simp [thoughtAt_concat, thoughtAt?, hsame]
      · have hne : index ≠ other := by
          rintro rfl
          obtain ⟨hlt, hget⟩ := List.getElem?_eq_some_iff.mp hposition
          obtain ⟨hlt', hget'⟩ := List.getElem?_eq_some_iff.mp hi
          exact heq ((List.Nodup.getElem_inj_iff hnodup).mp (hget.trans hget'.symm))
        simp [thoughtAt_concat, thoughtAt?, hne, heq]

theorem Recollects.silent {events : List BlockEvent} {event : BlockEvent}
    (h : Recollects decoder events) (hstart : reasoningStart? event = none)
    (hthought : ∀ index, thoughtAt? index event = none) :
    Recollects decoder (events ++ [event]) := by
  obtain ⟨hstarts, hthoughts⟩ := thoughts_silent events hstart hthought
  constructor
  · rw [hthoughts, h.thinkingBlocks]
  · rw [hthoughts, h.providerReasoning]
  · rw [hstarts]
    exact h.nodup
  · rw [hstarts]
    exact h.positions

-- A new thought goes to the end of both lists.
theorem Recollects.started {events : List BlockEvent} {index : Int}
    (h : Recollects decoder events) (hunseen : Unseen events index) :
    Recollects (decoder.after (.Start index .ReasoningContent))
      (events ++ [.Start index .ReasoningContent]) := by
  have hstarts : reasoningStarts (events ++ [.Start index .ReasoningContent]) =
      reasoningStarts events ++ [index] := reasoningStarts_append _ _
  have hlength : decoder.thinkingBlocks.length = (reasoningStarts events).length := by
    rw [h.thinkingBlocks, thoughts, List.length_map]
  constructor
  · rw [thoughts_started hunseen, ← h.thinkingBlocks]
    rfl
  · rw [thoughts_started hunseen, ← h.providerReasoning]
    rfl
  · rw [hstarts]
    exact List.nodup_append'.mpr ⟨h.nodup, List.nodup_singleton index,
      List.disjoint_singleton.mpr hunseen.not_started⟩
  · intro other hmem
    rw [hstarts] at hmem ⊢
    by_cases heq : other = index
    · subst heq
      refine ⟨(reasoningStarts events).length, ?_, by simp⟩
      simp [ConverseStreamDecoder.after, hlength]
    · have hmem' : other ∈ reasoningStarts events := by simpa [heq] using hmem
      have hne : (other == index) = false := beq_eq_false_iff_ne.mpr heq
      obtain ⟨position, hposition, hat⟩ := h.positions other hmem'
      refine ⟨position, ?_, ?_⟩
      · simp [ConverseStreamDecoder.after, List.lookup_cons, hne, hposition]
      · rw [List.getElem?_append_left (List.getElem?_eq_some_iff.mp hat).1]
        exact hat

-- More of a thought goes to its place in both lists.
theorem Recollects.continued {events : List BlockEvent} {index : Int} (text : String)
    (h : Recollects decoder events) (hmem : index ∈ reasoningStarts events) :
    Recollects (decoder.after (.Delta index (.ReasoningContent text)))
      (events ++ [.Delta index (.ReasoningContent text)]) := by
  obtain ⟨position, hposition, hat⟩ := h.positions index hmem
  have hstarts : reasoningStarts (events ++ [.Delta index (.ReasoningContent text)]) =
      reasoningStarts events := by
    rw [reasoningStarts_append]
    exact List.append_nil _
  have hthoughts := thoughts_continued text h.nodup hat
  constructor
  · rw [hthoughts, ← h.thinkingBlocks]
    simp only [ConverseStreamDecoder.after, hposition]
  · rw [hthoughts, ← h.providerReasoning]
    simp only [ConverseStreamDecoder.after, hposition]
  · rw [hstarts]
    exact h.nodup
  · rw [hstarts]
    simp only [ConverseStreamDecoder.after, hposition]
    exact h.positions

theorem Recollects.after {events : List BlockEvent} {event : BlockEvent}
    (h : Recollects decoder events) (horderly : Orderly (events ++ [event])) :
    Recollects (decoder.after event) (events ++ [event]) := by
  cases event with
  | Start index opening =>
      cases opening with
      | ReasoningContent => exact h.started (horderly.started _ _ [] rfl)
      | _ => exact h.silent rfl fun _ => rfl
  | Delta index delta =>
      cases delta with
      | ReasoningContent text => exact h.continued text (horderly.continued _ _ _ [] rfl)
      | _ => exact h.silent rfl fun _ => rfl
  | Stop index => exact h.silent rfl fun _ => rfl

theorem flushed_recollects {events : List BlockEvent} {frames : List Frame}
    (h : Recollects decoder events) (hflushed : decoder.flushed = .ok (frames, next)) :
    Recollects next events := by
  simp only [ConverseStreamDecoder.flushed, bind_eq_ok] at hflushed
  obtain ⟨pending, -, hflushed⟩ := hflushed
  cases pending with
  | none =>
      cases hflushed
      exact h
  | some closing =>
      cases hflushed
      exact h.congr rfl rfl rfl

def blockEvent? : StreamEvent → Option BlockEvent
  | .Block event => some event
  | _ => none

-- The block events of a stream.
def blockEvents (stream : List (ProviderEvent python)) : List BlockEvent :=
  (meanings stream).filterMap blockEvent?

theorem Message.Spoken.blockEvents_eq {message : Message} {stream : List (ProviderEvent python)}
    (h : message.Spoken stream) : blockEvents stream = message.blocks := by
  obtain ⟨closing, hclosing, hread⟩ := h.filterMap_meanings blockEvent? rfl fun _ => rfl
  have hblocks : message.blocks.filterMap (fun event => blockEvent? (.Block event)) =
      message.blocks := List.filterMap_some
  have hclosings : closing.filterMap blockEvent? = [] := by
    obtain ⟨role, blocks, stopReason, usage⟩ := message
    cases usage with
    | none =>
        rw [List.mem_singleton.mp hclosing]
        rfl
    | some usage =>
        simp only [Message.closings, List.mem_cons, List.not_mem_nil, or_false] at hclosing
        rcases hclosing with rfl | rfl <;> rfl
  rw [blockEvents, hread, hblocks, hclosings, List.append_nil]

-- One event of the provider.
theorem Recollects.react {events : List BlockEvent} {event : ProviderEvent python}
    {frames : List Frame} (h : Recollects decoder events)
    (horderly : Orderly (events ++ (blockEvent? event.meaning).toList))
    (hframes : decoder.framesOf python event.value = some (frames, next)) :
    Recollects next (events ++ (blockEvent? event.meaning).toList) := by
  have hcarries := event.carries
  cases hmeaning : event.meaning with
  | Block block =>
      rw [hmeaning] at hcarries horderly
      have hprimed : Primed decoder block := by
        cases block with
        | Delta index delta =>
            cases delta with
            | ReasoningContent text => exact h.thinks (horderly.continued _ _ _ [] rfl)
            | _ => trivial
        | _ => trivial
      rw [framesOf_block hcarries hprimed] at hframes
      cases hframes
      exact h.after horderly
  | MessageStart role =>
      rw [hmeaning] at hcarries
      rw [framesOf_messageStart hcarries] at hframes
      cases hframes
      exact (List.append_nil events).symm ▸ h
  | MessageStop stopReason =>
      rw [framesOf_stop hmeaning] at hframes
      cases hframes
      exact (List.append_nil events).symm ▸ h.congr rfl rfl rfl
  | Metadata usage =>
      rw [hmeaning] at hcarries
      rw [framesOf_metadata hcarries] at hframes
      let told : ConverseStreamDecoder := { decoder with usage := usage }
      have htold : Recollects told events := h.congr rfl rfl rfl
      cases hflushed : told.flushed with
      | error exception =>
          rw [hflushed] at hframes
          cases hframes
      | ok closed =>
          rw [hflushed] at hframes
          cases hframes
          exact (List.append_nil events).symm ▸ flushed_recollects htold hflushed
  | Exception exception =>
      rw [hmeaning] at hcarries
      rw [ConverseStreamDecoder.framesOf, react_exception hcarries] at hframes
      cases hframes
  | Unrecognised =>
      rw [hmeaning] at hcarries
      rw [framesOf_unrecognised hcarries] at hframes
      cases hframes
      exact (List.append_nil events).symm ▸ h

theorem Orderly.before {first second : List BlockEvent} (h : Orderly (first ++ second)) :
    Orderly first where
  started before index after heq := h.started before index (after ++ second) (by simp [heq])
  continued before index text after heq :=
    h.continued before index text (after ++ second) (by simp [heq])

-- All of a stream, whatever comes between the reasoning.
theorem Recollects.advance {stream : List (ProviderEvent python)} {events : List BlockEvent}
    {frames : List Frame} (h : Recollects decoder events)
    (horderly : Orderly (events ++ blockEvents stream))
    (hadvance : decoder.advance python (values stream) = some (frames, next)) :
    Recollects next (events ++ blockEvents stream) := by
  induction stream generalizing decoder events frames with
  | nil =>
      cases hadvance
      exact (List.append_nil events).symm ▸ h
  | cons event stream ih =>
      obtain ⟨first, middle, rest, hfirst, hrest, rfl⟩ :=
        ConverseStreamDecoder.advance_cons hadvance
      have hsplit : blockEvents (event :: stream) =
          (blockEvent? event.meaning).toList ++ blockEvents stream := by
        rw [blockEvents, meanings, List.map_cons, List.filterMap_cons]
        cases blockEvent? event.meaning <;> rfl
      rw [hsplit, ← List.append_assoc] at horderly ⊢
      exact ih (h.react horderly.before hfirst) horderly hrest

-- What is left in the decoder when the stream is exhausted.
theorem Message.Spoken.recollected {message : Message} {stream : List (ProviderEvent python)}
    (h : message.Spoken stream) {messageId : String} {model : Value} {log : Log}
    {outcome : Except Failure (Ending × ConverseStreamDecoder)}
    (htraces : (ConverseStreamDecoder.iterSseEvents python
      { model := model, messageId := messageId } (values stream)).Traces log outcome)
    (hdrained : Drained log) :
    ∃ final, outcome = .ok (.Exhausted, final) ∧ Recollects final message.blocks := by
  let decoder : ConverseStreamDecoder := { model := model, messageId := messageId }
  obtain ⟨frames, next, last, final, hadvance, hflushed, -⟩ :=
    @advance_spoken python decoder message stream h rfl rfl
  have hnothing : Recollects decoder [] := ⟨rfl, rfl, List.nodup_nil, by simp [reasoningStarts]⟩
  have hall : blockEvents stream = message.blocks := h.blockEvents_eq
  have horderly : Orderly ([] ++ blockEvents stream) := hall ▸ h.interleaved.orderly
  have hnext := hnothing.advance horderly hadvance
  rw [List.nil_append, hall] at hnext
  exact ⟨final, (drained_frames htraces hdrained hadvance hflushed).2,
    flushed_recollects hnext hflushed⟩

end Collecting

section Delivery

variable {python : Interpreter}

-- A block of reasoning, as the provider means it.
structure ReasoningBlock where
  text : String
  signature : Option String

-- What stands under a path of keys.
def reach : List String → Value → Option Value
  | [], value => some value
  | key :: keys, .Mapping fields => Value.lookup fields key >>= reach keys
  | _, _ => none

-- The piece of a signature that an event adds to the reasoning of a block.
def signatureAt? (index : Int) (event : ProviderEvent python) : Option Value :=
  match event.meaning with
  | .Block (.Delta other (.ReasoningContent _)) =>
      if other = index then
        reach ["contentBlockDelta", "delta", "reasoningContent", "signature"] event.value
      else none
  | _ => none

def signaturesAt (stream : List (ProviderEvent python)) (index : Int) : List Value :=
  stream.filterMap (signatureAt? index)

-- A signature, if any piece of one has come.
def joinedSignature : List String → Option String
  | [] => none
  | pieces => some (String.join pieces)

-- The stream brings these blocks of reasoning, in the order in which they start.
def BringsReasoning (stream : List (ProviderEvent python)) (told : Message)
    (blocks : List ReasoningBlock) : Prop :=
  List.Forall₂ (fun index block => thoughtAt told.blocks index = block.text ∧
    ∃ pieces, signaturesAt stream index = pieces.map Value.Str ∧
      joinedSignature pieces = block.signature) (reasoningStarts told.blocks) blocks

-- A block of a response, and the reasoning in it. A signature stands beside the text or
-- with it.
inductive ReasoningIn : Value → List ReasoningBlock → Prop
  | Other {block : Value} {content : List Value}
      (h : BlockParsed block { contentBlocks := content }) : ReasoningIn block []
  | Unsigned {fields reasoning inner : List (String × Value)} {text : String}
      (hblock : Value.Holds fields [("reasoningContent", .Mapping reasoning)])
      (hreasoning : Value.Holds reasoning [("reasoningText", .Mapping inner)])
      (hinner : Value.Holds inner [("text", .Str text)]) :
      ReasoningIn (.Mapping fields) [⟨text, none⟩]
  | SignedBeside {fields reasoning inner : List (String × Value)} {text signature : String}
      (hblock : Value.Holds fields [("reasoningContent", .Mapping reasoning)])
      (hreasoning : Value.Holds reasoning [("reasoningText", .Mapping inner),
        ("signature", .Str signature)])
      (hinner : Value.Holds inner [("text", .Str text)]) :
      ReasoningIn (.Mapping fields) [⟨text, some signature⟩]
  | SignedWith {fields reasoning inner : List (String × Value)} {text signature : String}
      (hblock : Value.Holds fields [("reasoningContent", .Mapping reasoning)])
      (hreasoning : Value.Holds reasoning [("reasoningText", .Mapping inner)])
      (hinner : Value.Holds inner [("text", .Str text), ("signature", .Str signature)]) :
      ReasoningIn (.Mapping fields) [⟨text, some signature⟩]

end Delivery

section Completeness

variable {python : Interpreter}

def plainReasoning (text : String) : Value :=
  .Mapping [("reasoningText", .Mapping [("text", .Str text)])]

-- `decoder.thinking_blocks`
def ConverseStreamDecoder.thinkingBlockValues (decoder : ConverseStreamDecoder) : List Value :=
  decoder.thinkingBlocks.map fun text => thinkingBlock (.Str text) none

-- `decoder.provider_reasoning`
def ConverseStreamDecoder.providerReasoningValues (decoder : ConverseStreamDecoder) :
    List Value :=
  decoder.providerReasoning.map plainReasoning

-- The parsed reply has the same reasoning as the decoder; where it has none, the keys for
-- it are missing.
def SameReasoning (decoder : ConverseStreamDecoder) (reply : List (String × Value)) : Prop :=
  ((Value.lookup reply "thinking_blocks").getD (.Sequence [])).same
    (.Sequence decoder.thinkingBlockValues) = true ∧
  ∃ metadata, (Value.lookup reply "provider_metadata").getD (.Mapping []) = .Mapping metadata ∧
    ((Value.lookup metadata "reasoning").getD (.Sequence [])).same
      (.Sequence decoder.providerReasoningValues) = true

-- What the parser keeps of a block is what the decoder has, unless it is signed.
def Compares (block : ReasoningBlock) (kept : Value × Value) : Prop :=
  (kept.1.same (thinkingBlock (.Str block.text) none) = true ∧
    kept.2.same (plainReasoning block.text) = true) ↔ block.signature = none

theorem ReasoningIn.parsed {value : Value} {blocks : List ReasoningBlock}
    (h : ReasoningIn value blocks) :
    ∃ part kept, BlockParsed value part ∧ part.thinkingBlocks = kept.map Prod.fst ∧
      part.providerReasoning = kept.map Prod.snd ∧ List.Forall₂ Compares blocks kept := by
  cases h with
  | Other h => exact ⟨_, [], h, rfl, rfl, .nil⟩
  | @Unsigned fields reasoning inner text hblock hreasoning hinner =>
      have hread : reasoningText reasoning = some (.Str text) := by
        simp [reasoningText, hreasoning "reasoningText", hinner "text", Value.lookup_cons]
      have hsignature : topSignature reasoning = none := by
        simp [topSignature, hreasoning "signature", Value.lookup_cons]
      have hplain : (Value.Mapping reasoning).same (plainReasoning text) = true :=
        hreasoning.same_singleton_iff.mpr hinner.same
      refine ⟨_, [(_, _)], .Reasoning (hblock "text") (hblock "toolUse")
        (hblock "reasoningContent") hread, rfl, rfl, .cons ?_ .nil⟩
      rw [hsignature]
      exact iff_of_true ⟨Value.same_refl _, hplain⟩ rfl
  | @SignedBeside fields reasoning inner text signature hblock hreasoning hinner =>
      have hread : reasoningText reasoning = some (.Str text) := by
        simp [reasoningText, hreasoning "reasoningText", hinner "text", Value.lookup_cons]
      have hother : ¬(Value.Mapping reasoning).same (plainReasoning text) = true :=
        Value.not_same_of_key "signature" (by simp [hreasoning "signature", Value.lookup_cons]) rfl
      exact ⟨_, [(_, _)], .Reasoning (hblock "text") (hblock "toolUse")
        (hblock "reasoningContent") hread, rfl, rfl,
        .cons (iff_of_false (fun h => hother h.2) nofun) .nil⟩
  | @SignedWith fields reasoning inner text signature hblock hreasoning hinner =>
      have hread : reasoningText reasoning = some (.Str text) := by
        simp [reasoningText, hreasoning "reasoningText", hinner "text", Value.lookup_cons]
      have hother : ¬(Value.Mapping reasoning).same (plainReasoning text) = true := by
        rw [plainReasoning, hreasoning.same_singleton_iff]
        exact Value.not_same_of_key "signature" (by simp [hinner "signature", Value.lookup_cons])
          rfl
      exact ⟨_, [(_, _)], .Reasoning (hblock "text") (hblock "toolUse")
        (hblock "reasoningContent") hread, rfl, rfl,
        .cons (iff_of_false (fun h => hother h.2) nofun) .nil⟩

theorem reasoning_parsed {content : List Value} {groups : List (List ReasoningBlock)}
    (h : List.Forall₂ ReasoningIn content groups) :
    ∃ parts kept, List.Forall₂ BlockParsed content parts ∧
      (ParsedContent.join parts).thinkingBlocks = kept.map Prod.fst ∧
      (ParsedContent.join parts).providerReasoning = kept.map Prod.snd ∧
      List.Forall₂ Compares groups.flatten kept := by
  induction h with
  | nil => exact ⟨[], [], .nil, rfl, rfl, .nil⟩
  | cons hblock _ ih =>
      obtain ⟨part, first, hparsed, hthinking, hreasoning, hfirst⟩ := hblock.parsed
      obtain ⟨parts, rest, hparts, hthinking', hreasoning', hrest⟩ := ih
      refine ⟨part :: parts, first ++ rest, .cons hparsed hparts, ?_, ?_, ?_⟩
      · rw [List.map_append, ← hthinking, ← hthinking']
        rfl
      · rw [List.map_append, ← hreasoning, ← hreasoning']
        rfl
      · exact List.rel_append hfirst hrest

theorem compares_iff {blocks : List ReasoningBlock} {kept : List (Value × Value)}
    (h : List.Forall₂ Compares blocks kept) :
    (List.Forall₂ (fun value other => value.same other = true) (kept.map Prod.fst)
        (blocks.map fun block => thinkingBlock (.Str block.text) none) ∧
      List.Forall₂ (fun value other => value.same other = true) (kept.map Prod.snd)
        (blocks.map fun block => plainReasoning block.text)) ↔
      ∀ block ∈ blocks, block.signature = none := by
  induction h with
  | nil => simp
  | cons hblock _ ih =>
      unfold Compares at hblock
      rw [List.forall_mem_cons, ← ih, ← hblock]
      simp only [List.map_cons, List.forall₂_cons]
      tauto

theorem Recollects.values {decoder : ConverseStreamDecoder} {told : Message}
    {stream : List (ProviderEvent python)} {blocks : List ReasoningBlock}
    (h : Recollects decoder told.blocks) (hbrings : BringsReasoning stream told blocks) :
    decoder.thinkingBlockValues =
        (blocks.map fun block => thinkingBlock (.Str block.text) none) ∧
      decoder.providerReasoningValues = blocks.map fun block => plainReasoning block.text := by
  have htexts : thoughts told.blocks = blocks.map ReasoningBlock.text :=
    map_eq_of_forall₂ (hbrings.imp fun _ _ h => h.1)
  constructor
  · rw [ConverseStreamDecoder.thinkingBlockValues, h.thinkingBlocks, htexts, List.map_map]
    rfl
  · rw [ConverseStreamDecoder.providerReasoningValues, h.providerReasoning, htexts, List.map_map]
    rfl

-- A list that is left out when it is empty.
theorem getD_sequence (values : List Value) :
    (if values = [] then none else some (Value.Sequence values)).getD (.Sequence []) =
      .Sequence values := by
  by_cases hempty : values = []
  · rw [if_pos hempty, hempty]
    rfl
  · rw [if_neg hempty]
    rfl

theorem ReplyTo.sameReasoning_iff {fields message reply : List (String × Value)}
    {parsed : ParsedContent} {usage : Usage} (h : ReplyTo fields message parsed usage reply)
    (decoder : ConverseStreamDecoder) :
    SameReasoning decoder reply ↔
      Value.sameItems parsed.thinkingBlocks decoder.thinkingBlockValues = true ∧
        Value.sameItems parsed.providerReasoning decoder.providerReasoningValues = true := by
  obtain ⟨metadata, hmetadata, hfound⟩ := h.reasoning
  rw [SameReasoning, h.thinkingBlocks, getD_sequence, hmetadata]
  constructor
  · rintro ⟨hsame, other, hother, hsame'⟩
    cases hother
    rw [hfound, getD_sequence] at hsame'
    exact ⟨hsame, hsame'⟩
  · rintro ⟨hsame, hsame'⟩
    refine ⟨hsame, metadata, rfl, ?_⟩
    rw [hfound, getD_sequence]
    exact hsame'

-- The decoder keeps all of the reasoning that has no signature.
theorem streamed_reasoning_iff {told : Message} {stream : List (ProviderEvent python)}
    {blocks : List ReasoningBlock} (hspoken : told.Spoken stream)
    (hbrings : BringsReasoning stream told blocks) {messageId : String} {model : Value} {log : Log}
    {outcome : Except Failure (Ending × ConverseStreamDecoder)}
    (h : (ConverseStreamDecoder.iterSseEvents python { model := model, messageId := messageId }
      (values stream)).Traces log outcome) (hdrained : Drained log)
    {fields message : List (String × Value)} {content : List Value} {usage : Usage}
    (hresponse : WellFormedResponse python fields message content usage)
    {groups : List (List ReasoningBlock)} (hcontent : List.Forall₂ ReasoningIn content groups)
    (hblocks : groups.flatten = blocks) :
    ∃ decoder reply, outcome = .ok (.Exhausted, decoder) ∧
      parseConverseResponse python (.Mapping fields) model = .ok (.Mapping reply) ∧
      (SameReasoning decoder reply ↔ ∀ block ∈ blocks, block.signature = none) := by
  obtain ⟨decoder, rfl, hrecollects⟩ := hspoken.recollected h hdrained
  obtain ⟨parts, kept, hparts, hthinking, hreasoning, hcompares⟩ := reasoning_parsed hcontent
  rw [hblocks] at hcompares
  obtain ⟨reply, hparse, hreply⟩ := parseConverseResponse_ok hresponse hparts model
  obtain ⟨hdecoded, hprovided⟩ := hrecollects.values hbrings
  refine ⟨decoder, reply, rfl, hparse, ?_⟩
  rw [← compares_iff hcompares, hreply.sameReasoning_iff, Value.sameItems_iff,
    Value.sameItems_iff, hthinking, hreasoning, hdecoded, hprovided]

-- The signature comes in an event of its own, and may be in two pieces.
def tellSignature (index : Int) (piece : String) : ProviderEvent python :=
  ⟨_, .Block (.Delta index (.ReasoningContent "")), .BlockDelta _
    [("contentBlockIndex", .Integer index),
      ("delta", .Mapping (member "reasoningContent" [("signature", .Str piece)]))] _ index _
    (member_member "contentBlockDelta" _) rfl rfl
    (.ReasoningContent _ "" (member_member "reasoningContent" _) rfl)⟩

def samplePieces (signed : Bool) : List String := if signed then ["c2", "ln"] else []

def sampleThought (signed : Bool) : ReasoningBlock where
  text := "Look it up."
  signature := if signed then some "c2ln" else none

-- An answer starts before the thought has come to its end.
def sampleThoughtTold (signed : Bool) : Message where
  role := .Str "assistant"
  blocks := [.Start 0 .ReasoningContent, .Delta 0 (.ReasoningContent "Look "), .Start 1 .Text,
    .Delta 0 (.ReasoningContent "it up.")] ++
      (samplePieces signed).map (fun _ => .Delta 0 (.ReasoningContent "")) ++
      [.Stop 0, .Delta 1 (.Text (.Str "Sunny.")), .Stop 1]
  stopReason := "end_turn"
  usage := some sampleUsed

def sampleThoughtStream (signed : Bool) : List (ProviderEvent samplePython) :=
  [tellStart (.Str "assistant"), BlockEvent.tell (.Start 0 .ReasoningContent),
    BlockEvent.tell (.Delta 0 (.ReasoningContent "Look ")), BlockEvent.tell (.Start 1 .Text),
    BlockEvent.tell (.Delta 0 (.ReasoningContent "it up."))] ++
    (samplePieces signed).map (tellSignature 0) ++
    [BlockEvent.tell (.Stop 0), BlockEvent.tell (.Delta 1 (.Text (.Str "Sunny."))),
      BlockEvent.tell (.Stop 1), tellStop "end_turn",
      tellUsage sampleReport sampleUsed (sampleReport_used samplePython)]

theorem sampleThoughtStream_spoken (signed : Bool) :
    (sampleThoughtTold signed).Spoken (sampleThoughtStream signed) where
  interleaved := by
    have hdelivered : Delivers sampleReader (sampleThoughtTold signed).blocks [0, 1]
        [.Reasoning "Look it up.", .Text "Sunny."] := by
      cases signed with
      | false =>
          exact ⟨by decide, .cons ⟨_, .Reasoning ["Look ", "it up."], rfl⟩
            (.cons ⟨_, .Text ["Sunny."], rfl⟩ .nil), by decide⟩
      | true =>
          exact ⟨by decide, .cons ⟨_, .Reasoning ["Look ", "it up.", "", ""], rfl⟩
            (.cons ⟨_, .Text ["Sunny."], rfl⟩ .nil), by decide⟩
    exact hdelivered.interleaved
  events := by
    cases signed with
    | false => exact ⟨_, .head _, rfl⟩
    | true => exact ⟨_, .head _, rfl⟩

theorem sampleThoughtStream_brings (signed : Bool) :
    BringsReasoning (sampleThoughtStream signed) (sampleThoughtTold signed)
      [sampleThought signed] := by
  cases signed with
  | false => exact .cons ⟨rfl, [], rfl, rfl⟩ .nil
  | true => exact .cons ⟨rfl, ["c2", "ln"], rfl, rfl⟩ .nil

def sampleThoughtContent (signed : Bool) : List Value := [
  .Mapping (member "reasoningContent" ([("reasoningText", .Mapping [("text",
    .Str "Look it up.")])] ++ if signed then [("signature", .Str "c2ln")] else [])),
  .Mapping [("text", .Str "Sunny.")]]

def sampleThoughtMessage (signed : Bool) : List (String × Value) :=
  [("role", .Str "assistant"), ("content", .Sequence (sampleThoughtContent signed))]

def sampleThoughtFields (signed : Bool) : List (String × Value) := [
  ("output", .Mapping (member "message" (sampleThoughtMessage signed))),
  ("stopReason", .Str "end_turn"),
  ("usage", sampleReport)]

theorem sampleThoughtFields_wellFormed (signed : Bool) : WellFormedResponse samplePython
    (sampleThoughtFields signed) (sampleThoughtMessage signed) (sampleThoughtContent signed)
    sampleUsed where
  output := ⟨_, rfl, rfl⟩
  content := rfl
  stopReason := rfl
  requestMetadata := by
    intro metadata hmetadata
    cases hmetadata
  usage := rfl

theorem sampleThoughtContent_reasoning (signed : Bool) :
    List.Forall₂ ReasoningIn (sampleThoughtContent signed) [[sampleThought signed], []] := by
  have hanswer : ReasoningIn (.Mapping [("text", .Str "Sunny.")]) [] := .Other (.Text rfl)
  cases signed with
  | false =>
      exact .cons (.Unsigned (fun _ => rfl) (fun _ => rfl) (fun _ => rfl)) (.cons hanswer .nil)
  | true =>
      exact .cons (.SignedBeside (fun _ => rfl) (fun _ => rfl) (fun _ => rfl)) (.cons hanswer .nil)

def sampleThoughtRun (signed : Bool) : Runtime (Ending × ConverseStreamDecoder) :=
  ConverseStreamDecoder.iterSseEvents samplePython { model := .None, messageId := "msg-1" }
    (values (sampleThoughtStream signed))

theorem sampleThoughtRun_drained (signed : Bool) :
    Drained (steadyEnvironment.run (sampleThoughtRun signed)).1 :=
  Environment.drained (fun _ => rfl) rfl (fun _ => rfl) _

theorem streamed_reasoning_sample : ∃ decoder reply,
    (steadyEnvironment.run (sampleThoughtRun false)).2 = .ok (.Exhausted, decoder) ∧
      parseConverseResponse samplePython (.Mapping (sampleThoughtFields false)) .None =
        .ok (.Mapping reply) ∧ SameReasoning decoder reply := by
  obtain ⟨decoder, reply, hexhausted, hparse, hiff⟩ := streamed_reasoning_iff
    (sampleThoughtStream_spoken false) (sampleThoughtStream_brings false)
    (steadyEnvironment.traces_run (sampleThoughtRun false)) (sampleThoughtRun_drained false)
    (sampleThoughtFields_wellFormed false) (sampleThoughtContent_reasoning false) rfl
  exact ⟨decoder, reply, hexhausted, hparse, hiff.mpr (by simp [sampleThought])⟩

-- Of a signed thought only the text is left.
theorem streamed_signature_lost :
    ¬∀ (python : Interpreter) (told : Message) (stream : List (ProviderEvent python))
      (blocks : List ReasoningBlock) (messageId : String) (model : Value) (log : Log)
      (outcome : Except Failure (Ending × ConverseStreamDecoder))
      (fields message : List (String × Value)) (content : List Value) (usage : Usage)
      (groups : List (List ReasoningBlock)),
      told.Spoken stream → BringsReasoning stream told blocks →
      (ConverseStreamDecoder.iterSseEvents python { model := model, messageId := messageId }
        (values stream)).Traces log outcome → Drained log →
      WellFormedResponse python fields message content usage →
      List.Forall₂ ReasoningIn content groups → groups.flatten = blocks →
      ∃ decoder reply, outcome = .ok (.Exhausted, decoder) ∧
        parseConverseResponse python (.Mapping fields) model = .ok (.Mapping reply) ∧
        SameReasoning decoder reply := by
  intro hclaim
  obtain ⟨decoder, reply, hexhausted, hparse, hthinking, -⟩ := hclaim samplePython _ _ _ "msg-1"
    .None _ _ _ _ _ _ _ (sampleThoughtStream_spoken true) (sampleThoughtStream_brings true)
    (steadyEnvironment.traces_run (sampleThoughtRun true)) (sampleThoughtRun_drained true)
    (sampleThoughtFields_wellFormed true) (sampleThoughtContent_reasoning true) rfl
  have hkept : ∃ decoder, (steadyEnvironment.run (sampleThoughtRun true)).2 =
      .ok (.Exhausted, decoder) ∧
      decoder.thinkingBlockValues = [thinkingBlock (.Str "Look it up.") none] := ⟨_, rfl, rfl⟩
  have hparsed : ∃ reply, parseConverseResponse samplePython
      (.Mapping (sampleThoughtFields true)) .None = .ok (.Mapping reply) ∧
      Value.lookup reply "thinking_blocks" =
        some (.Sequence [thinkingBlock (.Str "Look it up.") (some (.Str "c2ln"))]) := ⟨_, rfl, rfl⟩
  obtain ⟨decoder', hexhausted', hvalues⟩ := hkept
  obtain ⟨reply', hparse', hlookup⟩ := hparsed
  cases hexhausted.symm.trans hexhausted'
  cases hparse.symm.trans hparse'
  rw [hlookup, hvalues] at hthinking
  revert hthinking
  decide

end Completeness

end ClaudeCodeProxy
