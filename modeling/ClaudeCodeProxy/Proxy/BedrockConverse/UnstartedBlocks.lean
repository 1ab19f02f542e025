import ClaudeCodeProxy.Proxy.BedrockConverse.StreamedReasoning

-- Streams with blocks that the provider does not start.

namespace ClaudeCodeProxy

open Effects Python

section Blocks

def StreamEvent.isException : StreamEvent → Bool
  | .Exception _ => true
  | _ => false

-- The block events up to the first exception: the loop looks at nothing behind it.
def heardBlocks : List StreamEvent → List BlockEvent
  | [] => []
  | meaning :: meanings =>
      if meaning.isException then []
      else (blockEvent? meaning).toList ++ heardBlocks meanings

-- A delta comes after a start of its block, and reasoning after a start of reasoning.
def Introduced (blocks : List BlockEvent) : Prop :=
  ∀ before index delta after, blocks = before ++ .Delta index delta :: after →
    (∃ opening, .Start index opening ∈ before) ∧
      (delta.kind = .ReasoningContent → .Start index .ReasoningContent ∈ before)

-- The texts that stand beside an index, in their order.
def collectedAt : List Int → List String → Int → String
  | other :: others, text :: texts, index =>
      (if other = index then text else "") ++ collectedAt others texts index
  | _, _, _ => ""

end Blocks

section Collected

theorem collectedAt_of_not_mem {indices : List Int} {index : Int} (h : index ∉ indices)
    (texts : List String) : collectedAt indices texts index = "" := by
  induction indices generalizing texts with
  | nil => rfl
  | cons other indices ih =>
      cases texts with
      | nil => rfl
      | cons text texts =>
          have hne : other ≠ index := fun heq => h (heq ▸ .head _)
          rw [collectedAt, if_neg hne, ih fun hm => h (.tail _ hm)]
          rfl

-- A block that starts has no text yet.
theorem collectedAt_started {indices : List Int} {texts : List String}
    (hlength : texts.length = indices.length) (other index : Int) :
    collectedAt (indices ++ [other]) (texts ++ [""]) index = collectedAt indices texts index := by
  induction indices generalizing texts with
  | nil =>
      cases List.length_eq_zero_iff.mp hlength
      simp [collectedAt]
  | cons first indices ih =>
      cases texts with
      | nil => cases hlength
      | cons text texts =>
          rw [List.cons_append, List.cons_append, collectedAt, collectedAt,
            ih (Nat.succ.inj hlength)]

-- More text for the last block of an index goes to the end of what the index has.
theorem collectedAt_continued {before after : List Int} {index : Int} {texts : List String}
    (hlength : texts.length = (before ++ index :: after).length) (hlast : index ∉ after)
    (piece : String) (other : Int) :
    collectedAt (before ++ index :: after) (texts.modify before.length (· ++ piece)) other =
      collectedAt (before ++ index :: after) texts other ++ if index = other then piece else "" := by
  induction before generalizing texts with
  | nil =>
      cases texts with
      | nil => cases hlength
      | cons text texts =>
          rw [List.nil_append, List.length_nil, List.modify_zero_cons, collectedAt, collectedAt]
          by_cases heq : index = other
          · subst heq
            simp [collectedAt_of_not_mem hlast]
          · simp [heq]
  | cons first before ih =>
      cases texts with
      | nil => cases hlength
      | cons text texts =>
          rw [List.cons_append, List.length_cons, List.modify_succ_cons, collectedAt, collectedAt,
            ih (Nat.succ.inj hlength), String.append_assoc]

end Collected

section Keeping

variable {python : Interpreter} {decoder next : ConverseStreamDecoder} {events : List BlockEvent}

-- The decoder has all the reasoning of the events so far, under the last block of an index.
structure Keeps (decoder : ConverseStreamDecoder) (events : List BlockEvent) : Prop where
  length : decoder.thinkingBlocks.length = (reasoningStarts events).length
  collected : ∀ index,
    collectedAt (reasoningStarts events) decoder.thinkingBlocks index = thoughtAt events index
  positions : ∀ index position, decoder.thinkingBlockPositions.lookup index = some position →
    ∃ before after, reasoningStarts events = before ++ index :: after ∧
      position = before.length ∧ index ∉ after

theorem Keeps.congr (h : Keeps decoder events)
    (hthinking : next.thinkingBlocks = decoder.thinkingBlocks)
    (hpositions : next.thinkingBlockPositions = decoder.thinkingBlockPositions) :
    Keeps next events where
  length := hthinking ▸ h.length
  collected := hthinking ▸ h.collected
  positions := hpositions ▸ h.positions

theorem Keeps.silent {event : BlockEvent} (h : Keeps decoder events)
    (hstart : reasoningStart? event = none) (hthought : ∀ index, thoughtAt? index event = none) :
    Keeps decoder (events ++ [event]) := by
  have hstarts := (thoughts_silent events hstart hthought).1
  constructor
  · rw [hstarts]
    exact h.length
  · intro index
    rw [hstarts, thoughtAt_concat, hthought, Option.getD_none, String.append_empty]
    exact h.collected index
  · rw [hstarts]
    exact h.positions

theorem reasoningStarts_started (events : List BlockEvent) (index : Int) :
    reasoningStarts (events ++ [.Start index .ReasoningContent]) =
      reasoningStarts events ++ [index] := reasoningStarts_append _ _

theorem reasoningStarts_continued (events : List BlockEvent) (index : Int) (delta : BlockDelta) :
    reasoningStarts (events ++ [.Delta index delta]) = reasoningStarts events := by
  rw [reasoningStarts_append]
  exact List.append_nil _

theorem Keeps.started (h : Keeps decoder events) (index : Int) :
    Keeps (decoder.after (.Start index .ReasoningContent))
      (events ++ [.Start index .ReasoningContent]) := by
  constructor
  · rw [reasoningStarts_started]
    simp [ConverseStreamDecoder.after, h.length]
  · intro other
    rw [reasoningStarts_started, thoughtAt_concat]
    change collectedAt _ (decoder.thinkingBlocks ++ [""]) other = thoughtAt events other ++ ""
    rw [collectedAt_started h.length, String.append_empty]
    exact h.collected other
  · intro other position hposition
    rw [reasoningStarts_started]
    simp only [ConverseStreamDecoder.after, List.lookup_cons] at hposition
    by_cases heq : other = index
    · subst heq
      simp only [beq_self_eq_true, Option.some.injEq] at hposition
      exact ⟨reasoningStarts events, [], rfl, hposition ▸ h.length, List.not_mem_nil⟩
    · rw [beq_eq_false_iff_ne.mpr heq] at hposition
      obtain ⟨before, after, hstarts, hbefore, hlast⟩ := h.positions other position hposition
      refine ⟨before, after ++ [index], by simp [hstarts], hbefore, ?_⟩
      simp [hlast, heq]

theorem Keeps.continued (h : Keeps decoder events) {index : Int} (hthinks : Thinks decoder index)
    (text : String) :
    Keeps (decoder.after (.Delta index (.ReasoningContent text)))
      (events ++ [.Delta index (.ReasoningContent text)]) := by
  obtain ⟨position, hposition⟩ := Option.isSome_iff_exists.mp hthinks
  obtain ⟨before, after, hstarts, rfl, hlast⟩ := h.positions index position hposition
  have hlength := h.length
  rw [hstarts] at hlength
  constructor
  · rw [reasoningStarts_continued]
    simp only [ConverseStreamDecoder.after, hposition, List.length_modify]
    exact h.length
  · intro other
    rw [reasoningStarts_continued, thoughtAt_concat, ← h.collected other, hstarts]
    simp only [ConverseStreamDecoder.after, hposition]
    rw [collectedAt_continued hlength hlast text other]
    by_cases heq : index = other <;> simp [thoughtAt?, heq]
  · rw [reasoningStarts_continued]
    simp only [ConverseStreamDecoder.after, hposition]
    exact h.positions

theorem Keeps.after {event : BlockEvent} (h : Keeps decoder events)
    (hprimed : Primed decoder event) : Keeps (decoder.after event) (events ++ [event]) := by
  cases event with
  | Start index opening =>
      cases opening with
      | ReasoningContent => exact h.started index
      | _ => exact h.silent rfl fun _ => rfl
  | Delta index delta =>
      cases delta with
      | ReasoningContent text => exact h.continued hprimed text
      | _ => exact h.silent rfl fun _ => rfl
  | Stop index => exact h.silent rfl fun _ => rfl

end Keeping

section Hearing

variable {python : Interpreter} {decoder next final : ConverseStreamDecoder} {ending : Ending}
  {log : Log}

-- The table that starts fill has nothing under the index.
theorem react_unprimed {value : Value} {event : BlockEvent}
    (h : Carries python value (.Block event)) (hprimed : ¬Primed decoder event) :
    decoder.react python value = .error .KeyError := by
  cases h with
  | BlockStart entries fields start index opening hmember hindex hstart hopens =>
      exact absurd trivial hprimed
  | BlockStop entries fields index hmember hindex => exact absurd trivial hprimed
  | BlockDelta entries fields delta index content hmember hindex hdelta hcontinues =>
      cases hcontinues with
      | Plain hnone => exact absurd trivial hprimed
      | Text text hcontent => exact absurd trivial hprimed
      | ToolUse toolUse hcontent => exact absurd trivial hprimed
      | ReasoningContent reasoning text hcontent htext =>
          have hnone : decoder.thinkingBlockPositions.lookup index = none :=
            Option.not_isSome_iff_eq_none.mp hprimed
          have hitem := item_member hcontent
          obtain ⟨hfound, hother⟩ := hcontent
          simp only [CONTENT_MEMBERS, List.forall_mem_cons] at hother
          have hraised : decoder.normalizeContentBlockDelta index (.Mapping delta) =
              .error .KeyError := by
            simp [ConverseStreamDecoder.normalizeContentBlockDelta, hfound, hother, hitem, htext,
              hnone, bind, Except.bind, throw, throwThe, MonadExceptOf.throw]
          rw [@react_member python decoder entries .ContentBlockDelta _ (by decide) hmember]
          simp [ConverseStreamDecoder.reactTo, item_member hmember,
            Value.item_mapping _ _ _ hindex, hdelta, hraised, Value.toInt, bind, Except.bind]

-- A frame that is about a block.
def Frame.aboutBlock (frame : Frame) : Bool :=
  decide (frame.event ∈ ["content_block_start", "content_block_delta", "content_block_stop"])

theorem BlockEvent.frame_aboutBlock (event : BlockEvent) : event.frame.aboutBlock = true := by
  cases event <;> rfl

-- The pending stop reason is a string, if there is one.
def Settled (decoder : ConverseStreamDecoder) : Prop :=
  decoder.pendingStopReason = .None ∨ ∃ stopReason, decoder.pendingStopReason = .Str stopReason

-- Nothing about blocks goes out, and nothing about them is noted.
structure Elsewhere (decoder next : ConverseStreamDecoder) (frames : List Frame) : Prop where
  frames : frames.filter Frame.aboutBlock = []
  thinkingBlocks : next.thinkingBlocks = decoder.thinkingBlocks
  positions : next.thinkingBlockPositions = decoder.thinkingBlockPositions
  settled : Settled next

theorem Settled.flushed (h : Settled decoder) :
    ∃ frames next, decoder.flushed = .ok (frames, next) ∧ Elsewhere decoder next frames := by
  rcases h with hnone | ⟨stopReason, hpending⟩
  · exact ⟨[], decoder, flushed_none hnone, rfl, rfl, rfl, .inl hnone⟩
  · exact ⟨_, _, flushed_pending hpending, rfl, rfl, rfl, .inl rfl⟩

theorem framesOf_elsewhere {value : Value} {meaning : StreamEvent}
    (h : Carries python value meaning) (hsettled : Settled decoder)
    (hblock : blockEvent? meaning = none) (hexception : meaning.isException = false) :
    ∃ frames next, decoder.framesOf python value = some (frames, next) ∧
      Elsewhere decoder next frames := by
  cases meaning with
  | Block event => cases hblock
  | Exception exception => cases hexception
  | MessageStart role => exact ⟨_, _, framesOf_messageStart h, rfl, rfl, rfl, hsettled⟩
  | MessageStop stopReason => exact ⟨_, _, framesOf_messageStop h, rfl, rfl, rfl, .inr ⟨_, rfl⟩⟩
  | Metadata usage =>
      have htold : Settled ({ decoder with usage := usage } : ConverseStreamDecoder) := hsettled
      obtain ⟨frames, next, hflushed, helsewhere⟩ := htold.flushed
      refine ⟨frames, next, ?_, helsewhere.frames, helsewhere.thinkingBlocks,
        helsewhere.positions, helsewhere.settled⟩
      rw [framesOf_metadata h, hflushed]
      rfl
  | Unrecognised => exact ⟨_, _, framesOf_unrecognised h, rfl, rfl, rfl, hsettled⟩

-- How a stream ends whose blocks are announced.
structure Told (past blocks : List BlockEvent) (log : Log) (ending : Ending)
    (final : ConverseStreamDecoder) : Prop where
  exhausted : ending = .Exhausted
  keeps : Keeps final (past ++ blocks)
  frames : (yieldedFrames log).filter Frame.aboutBlock = blocks.map BlockEvent.frame

theorem heardBlocks_cons {meaning : StreamEvent} (h : meaning.isException = false)
    (rest : List StreamEvent) :
    heardBlocks (meaning :: rest) = (blockEvent? meaning).toList ++ heardBlocks rest :=
  if_neg (Bool.eq_false_iff.mp h)

theorem Told.passed {event : Value} {frames : List Frame} {past blocks : List BlockEvent}
    {tail : Log} (h : Told past blocks tail ending final)
    (hframes : frames.filter Frame.aboutBlock = []) :
    Told past blocks (answered (.NextEvent event) (.ok ()) :: (yielded frames ++ tail)) ending
      final where
  exhausted := h.exhausted
  keeps := h.keeps
  frames := by
    change (yieldedFrames (yielded frames ++ tail)).filter Frame.aboutBlock = _
    rw [yieldedFrames_append, yieldedFrames_yielded, List.filter_append, hframes, h.frames]
    rfl

theorem Told.ended {past : List BlockEvent} (hkeeps : Keeps final past)
    (hframes : (yieldedFrames log).filter Frame.aboutBlock = []) :
    Told past [] log .Exhausted final where
  exhausted := rfl
  keeps := (List.append_nil past).symm ▸ hkeeps
  frames := hframes

theorem Told.heard {event : Value} {block : BlockEvent} {past blocks : List BlockEvent}
    {tail : Log} (h : Told (past ++ [block]) blocks tail ending final) :
    Told past (block :: blocks)
      (answered (.NextEvent event) (.ok ()) :: (yielded [block.frame] ++ tail)) ending final where
  exhausted := h.exhausted
  keeps := by
    rw [← List.singleton_append, ← List.append_assoc]
    exact h.keeps
  frames := by
    change (block.frame :: yieldedFrames tail).filter Frame.aboutBlock = _
    rw [List.filter_cons_of_pos block.frame_aboutBlock, h.frames]
    rfl

theorem StreamEvent.eq_exception {meaning : StreamEvent} (h : meaning.isException = true) :
    ∃ exception, meaning = .Exception exception := by
  cases meaning with
  | Exception exception => exact ⟨exception, rfl⟩
  | _ => cases h

theorem eq_block_of_blockEvent? {meaning : StreamEvent} {block : BlockEvent}
    (h : blockEvent? meaning = some block) : meaning = .Block block := by
  cases meaning with
  | Block event => cases h; rfl
  | _ => cases h

-- The loop gets to its end, unless it gets to reasoning that has no block.
theorem Iteration.told {stream : List (ProviderEvent python)} {past : List BlockEvent}
    (h : Iteration python decoder (values stream) log ending final) (hdrained : Drained log)
    (hkeeps : Keeps decoder past) (hsettled : Settled decoder) :
    Announced decoder (heardBlocks (meanings stream)) ∧
        Told past (heardBlocks (meanings stream)) log ending final ∨
      ¬Announced decoder (heardBlocks (meanings stream)) ∧ ∃ error, ending = .Raised error := by
  induction stream generalizing decoder past log with
  | nil =>
      obtain ⟨frames, next, hflushed, helsewhere⟩ := hsettled.flushed
      obtain ⟨rfl, rfl, rfl⟩ := h.ends hdrained hflushed
      refine .inl ⟨announced_nil, .ended
        (hkeeps.congr helsewhere.thinkingBlocks helsewhere.positions) ?_⟩
      change (yieldedFrames (yielded frames)).filter Frame.aboutBlock = []
      rw [yieldedFrames_yielded, helsewhere.frames]
  | cons event stream ih =>
      have hcarries := event.carries
      rw [values_cons] at h
      cases hexception : event.meaning.isException with
      | true =>
          have hheard : heardBlocks (meanings (event :: stream)) = [] := if_pos hexception
          obtain ⟨exception, hmeaning⟩ := StreamEvent.eq_exception hexception
          rw [hmeaning] at hcarries
          have habort := @react_exception python decoder _ _ hcarries
          obtain ⟨rfl, rfl, rfl⟩ := h.aborts hdrained habort
          rw [hheard]
          exact .inl ⟨announced_nil, .ended hkeeps rfl⟩
      | false =>
          have hheard := heardBlocks_cons hexception (meanings stream)
          change heardBlocks (meanings (event :: stream)) = _ at hheard
          rw [hheard]
          cases hblock : blockEvent? event.meaning with
          | none =>
              obtain ⟨frames, next, hframes, helsewhere⟩ :=
                framesOf_elsewhere hcarries hsettled hblock hexception
              obtain ⟨tail, rfl, htail⟩ := h.step hdrained hframes
              have hrest := ((Drained.append [_] _ hdrained).2.append _ tail).2
              rcases ih htail hrest (hkeeps.congr helsewhere.thinkingBlocks helsewhere.positions)
                helsewhere.settled with ⟨hannounced, htold⟩ | ⟨hannounced, hraised⟩
              · exact .inl ⟨(Announced.congr helsewhere.positions).mp hannounced,
                  htold.passed helsewhere.frames⟩
              · exact .inr ⟨mt (Announced.congr helsewhere.positions).mpr hannounced, hraised⟩
          | some block =>
              rw [eq_block_of_blockEvent? hblock] at hcarries
              simp only [Option.toList_some, List.singleton_append]
              by_cases hprimed : Primed decoder block
              · obtain ⟨tail, rfl, htail⟩ := h.step hdrained (framesOf_block hcarries hprimed)
                have hframed := (Drained.append [_] _ hdrained).2
                have hrest := (hframed.append (yielded [block.frame]) tail).2
                have hsettled' : Settled (decoder.after block) := by
                  rw [Settled, (passes_after decoder block).pendingStopReason]
                  exact hsettled
                rcases ih htail hrest (hkeeps.after hprimed) hsettled' with
                  ⟨hannounced, htold⟩ | ⟨hannounced, hraised⟩
                · exact .inl ⟨announced_cons_iff.mpr ⟨hprimed, hannounced⟩, htold.heard⟩
                · exact .inr ⟨fun h => hannounced (announced_cons_iff.mp h).2, hraised⟩
              · have hreact := react_unprimed hcarries hprimed
                exact .inr ⟨fun h => hprimed (announced_cons_iff.mp h).1,
                  _, h.raises hdrained hreact⟩

end Hearing

section Tolerance

variable {python : Interpreter}

-- Every delta goes out behind a start of its block.
def Preceded (frames : List Frame) : Prop :=
  ∀ before frame after, frames = before ++ frame :: after → frame.event = "content_block_delta" →
    ∃ start ∈ before, start.event = "content_block_start" ∧ start.index = frame.index

-- The loop ends without an exception, its deltas have starts, and its reasoning is kept.
structure Tolerated (blocks : List BlockEvent) (log : Log)
    (outcome : Except Failure (Ending × ConverseStreamDecoder)) : Prop where
  finished : ∃ final, outcome = .ok (.Exhausted, final)
  preceded : Preceded (yieldedFrames log)
  accumulated : ∀ ending final, outcome = .ok (ending, final) →
    final.thinkingBlocks.length = (reasoningStarts blocks).length ∧ ∀ index,
      collectedAt (reasoningStarts blocks) final.thinkingBlocks index = thoughtAt blocks index

theorem preceded_iff {frames : List Frame} {blocks : List BlockEvent}
    (h : frames.filter Frame.aboutBlock = blocks.map BlockEvent.frame) :
    Preceded frames ↔ ∀ before index delta after, blocks = before ++ .Delta index delta :: after →
      ∃ opening, .Start index opening ∈ before := by
  constructor
  · rintro hpreceded before index delta after rfl
    rw [List.map_append, List.map_cons, List.filter_eq_append_iff] at h
    obtain ⟨first, rest, rfl, hfirst, hrest⟩ := h
    obtain ⟨skipped, last, rfl, hskipped, -, -⟩ := List.filter_eq_cons_iff.mp hrest
    obtain ⟨start, hm, hevent, hindex⟩ := hpreceded (first ++ skipped) _ last
      (List.append_assoc _ _ _).symm rfl
    have habout : start.aboutBlock = true := by simp [Frame.aboutBlock, hevent]
    have hm' : start ∈ before.map BlockEvent.frame := by
      rw [← hfirst]
      rcases List.mem_append.mp hm with hm | hm
      · exact List.mem_filter.mpr ⟨hm, habout⟩
      · exact absurd habout (hskipped start hm)
    obtain ⟨event, hbefore, rfl⟩ := List.mem_map.mp hm'
    rw [frame_index, frame_index, Option.some.injEq] at hindex
    cases event with
    | Start other opening =>
        cases hindex
        exact ⟨opening, hbefore⟩
    | Delta other delta => simp [BlockEvent.frame, Frame.of] at hevent
    | Stop other => simp [BlockEvent.frame, Frame.of] at hevent
  · rintro hstarts first frame last rfl hevent
    have habout : frame.aboutBlock = true := by simp [Frame.aboutBlock, hevent]
    rw [List.filter_append, List.filter_cons_of_pos habout] at h
    obtain ⟨before, rest, rfl, hbefore, hrest⟩ := List.map_eq_append_iff.mp h.symm
    obtain ⟨event, after, rfl, rfl, -⟩ := List.map_eq_cons_iff.mp hrest
    cases event with
    | Start index opening => simp [BlockEvent.frame, Frame.of] at hevent
    | Stop index => simp [BlockEvent.frame, Frame.of] at hevent
    | Delta index delta =>
        obtain ⟨opening, hm⟩ := hstarts before index delta after rfl
        have hframe : (BlockEvent.Start index opening).frame ∈ before.map BlockEvent.frame :=
          List.mem_map_of_mem hm
        rw [hbefore] at hframe
        exact ⟨_, List.mem_of_mem_filter hframe, rfl, rfl⟩

-- With an empty table, only starts of reasoning announce reasoning.
theorem introduced_iff {blocks : List BlockEvent} {decoder : ConverseStreamDecoder}
    (h : decoder.thinkingBlockPositions = []) :
    Introduced blocks ↔ Announced decoder blocks ∧
      ∀ before index delta after, blocks = before ++ .Delta index delta :: after →
        ∃ opening, .Start index opening ∈ before := by
  have hnone : ∀ index, ¬Thinks decoder index := fun index => by simp [Thinks, h]
  constructor
  · intro hintroduced
    exact ⟨fun before index text after heq =>
        .inr ((hintroduced before index (.ReasoningContent text) after heq).2 rfl),
      fun before index delta after heq => (hintroduced before index delta after heq).1⟩
  · rintro ⟨hannounced, hstarts⟩ before index delta after heq
    refine ⟨hstarts before index delta after heq, fun hkind => ?_⟩
    cases delta with
    | ReasoningContent text =>
        exact (hannounced before index text after heq).resolve_left (hnone index)
    | _ => cases hkind

-- The decoder gets over blocks exactly if the provider starts them, reasoning as reasoning.
theorem unstarted_blocks_iff (python : Interpreter) (messageId : String) (model : Value)
    (stream : List (ProviderEvent python)) (log : Log)
    (outcome : Except Failure (Ending × ConverseStreamDecoder))
    (h : (ConverseStreamDecoder.iterSseEvents python { model := model, messageId := messageId }
      (values stream)).Traces log outcome) (hdrained : Drained log) :
    Tolerated (heardBlocks (meanings stream)) log outcome ↔
      Introduced (heardBlocks (meanings stream)) := by
  let decoder : ConverseStreamDecoder := { model := model, messageId := messageId }
  have hnothing : Keeps decoder [] := ⟨rfl, fun _ => rfl, nofun⟩
  obtain ⟨ending, final, rfl, hiteration⟩ := iterSseEvents_run h
  rw [@introduced_iff _ decoder rfl]
  rcases hiteration.told hdrained hnothing (.inl rfl) with
    ⟨hannounced, htold⟩ | ⟨hannounced, error, rfl⟩
  · obtain rfl := htold.exhausted
    rw [← preceded_iff htold.frames]
    constructor
    · exact fun htolerated => ⟨hannounced, htolerated.preceded⟩
    · rintro ⟨-, hpreceded⟩
      refine ⟨⟨final, rfl⟩, hpreceded, ?_⟩
      rintro _ _ ⟨⟩
      exact ⟨htold.keeps.length, htold.keeps.collected⟩
  · refine iff_of_false (fun htolerated => ?_) fun hintroduced => hannounced hintroduced.1
    obtain ⟨final', hfinished⟩ := htolerated.finished
    cases hfinished

end Tolerance

section Samples

-- The provider begins with the reasoning itself.
def sampleUnstarted : List (ProviderEvent samplePython) :=
  [.Delta 0 (.ReasoningContent "Hm."), .Stop 0].map BlockEvent.tell

theorem reasoning_without_start :
    let run := steadyEnvironment.run (ConverseStreamDecoder.iterSseEvents samplePython
      { model := .Str "claude-sonnet-4", messageId := "msg-1" } (values sampleUnstarted))
    (ConverseStreamDecoder.iterSseEvents samplePython
        { model := .Str "claude-sonnet-4", messageId := "msg-1" }
        (values sampleUnstarted)).Traces run.1 run.2 ∧
      Drained run.1 ∧ ¬Tolerated (heardBlocks (meanings sampleUnstarted)) run.1 run.2 := by
  refine ⟨steadyEnvironment.traces_run _, List.all_eq_true.mp (by decide), fun htolerated => ?_⟩
  obtain ⟨final, hfinished⟩ := htolerated.finished
  cases hfinished

theorem unstarted_blocks_iff_sample :
    Tolerated (heardBlocks (meanings sampleProviderEvents))
        (steadyEnvironment.run (ConverseStreamDecoder.iterSseEvents samplePython
          { model := .Str "claude-sonnet-4", messageId := "msg-1" }
          (values sampleProviderEvents))).1
        (steadyEnvironment.run (ConverseStreamDecoder.iterSseEvents samplePython
          { model := .Str "claude-sonnet-4", messageId := "msg-1" }
          (values sampleProviderEvents))).2 ↔
      Introduced (heardBlocks (meanings sampleProviderEvents)) :=
  unstarted_blocks_iff samplePython "msg-1" (.Str "claude-sonnet-4") sampleProviderEvents _ _
    (steadyEnvironment.traces_run _) (List.all_eq_true.mp (by decide))

end Samples

end ClaudeCodeProxy
