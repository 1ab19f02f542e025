import ClaudeCodeProxy.Proxy.BedrockConverse.Iteration

-- What the decoder has collected of the usage when the generator ends, however it ends.

namespace ClaudeCodeProxy

open Effects Python

-- The usage in an event, if the decoder takes the event for metadata and can read it.
def metadataUsage (python : Interpreter) (event : Value) : Option Usage :=
  match classify event with
  | .ok .Metadata =>
      (do normalizeUsage python (← (← event.get "metadata" event).get "usage")).toOption
  | _ => none

-- The usage of the last of the events that has one, and `usage` if none has.
def lastUsage (python : Interpreter) (usage : Usage) (events : List Value) : Usage :=
  (events.filterMap (metadataUsage python)).getLastD usage

-- The events that the provider gave.
def fetchedEvent? : Answer runtime → Option Value
  | ⟨.Ask (.NextEvent event), .ok _⟩ => some event
  | _ => none

def fetchedEvents (log : Log) : List Value := log.filterMap fetchedEvent?

section Decoder

variable {python : Interpreter} {decoder next : ConverseStreamDecoder} {event : Value}

namespace ConverseStreamDecoder

theorem normalizeContentBlockStart_usage {blockIndex : Int} {start contentBlock : Value}
    (h : decoder.normalizeContentBlockStart blockIndex start = .ok (contentBlock, next)) :
    next.usage = decoder.usage := by
  simp only [normalizeContentBlockStart, bind_eq_ok] at h
  obtain ⟨hasText, -, h⟩ := h
  split_ifs at h
  · cases h
    rfl
  simp only [bind_eq_ok] at h
  obtain ⟨hasToolUse, -, h⟩ := h
  split_ifs at h
  · simp only [bind_eq_ok] at h
    obtain ⟨toolUse, -, toolUseId, -, name, -, h⟩ := h
    cases h
    rfl
  simp only [bind_eq_ok] at h
  obtain ⟨hasReasoning, -, h⟩ := h
  split_ifs at h
  · cases h
    rfl
  · cases h
    rfl

theorem appendThinking_usage {position : Nat} {text : Value}
    (h : decoder.appendThinking position text = .ok next) : next.usage = decoder.usage := by
  cases text with
  | Str s =>
      cases h
      rfl
  | _ => cases h

theorem normalizeContentBlockDelta_usage {blockIndex : Int} {delta payload : Value}
    (h : decoder.normalizeContentBlockDelta blockIndex delta = .ok (payload, next)) :
    next.usage = decoder.usage := by
  simp only [normalizeContentBlockDelta, bind_eq_ok] at h
  obtain ⟨hasText, -, h⟩ := h
  split_ifs at h
  · simp only [bind_eq_ok] at h
    obtain ⟨text, -, h⟩ := h
    cases h
    rfl
  simp only [bind_eq_ok] at h
  obtain ⟨hasToolUse, -, h⟩ := h
  split_ifs at h
  · simp only [bind_eq_ok] at h
    obtain ⟨toolUse, -, partialJson, -, h⟩ := h
    cases h
    rfl
  simp only [bind_eq_ok] at h
  obtain ⟨hasReasoning, -, h⟩ := h
  split_ifs at h
  · simp only [bind_eq_ok] at h
    obtain ⟨reasoning, -, reasoningText, -, h⟩ := h
    cases hposition : decoder.thinkingBlockPositions.lookup blockIndex with
    | none =>
        rw [hposition] at h
        cases h
    | some position =>
        simp only [hposition, bind_eq_ok] at h
        obtain ⟨appended, happended, h⟩ := h
        cases h
        exact appendThinking_usage happended
  · cases h
    rfl

end ConverseStreamDecoder

theorem metadataUsage_of_not_metadata {kind : EventKind} (h : classify event = .ok kind)
    (hkind : kind ≠ .Metadata) : metadataUsage python event = none := by
  cases kind with
  | Metadata => exact absurd rfl hkind
  | _ => rw [metadataUsage, h]

theorem metadataUsage_of_metadata (h : classify event = .ok .Metadata) :
    metadataUsage python event =
      (decoder.updateFromMetadata python event).toOption.map ConverseStreamDecoder.usage := by
  rw [metadataUsage, h]
  simp only [ConverseStreamDecoder.updateFromMetadata]
  rcases event.get "metadata" event with error | metadata
  · rfl
  rcases hget : metadata.get "usage" with error | reported
  · simp [hget, bind, Except.bind, Except.toOption]
  rcases hread : normalizeUsage python reported with error | usage
  · simp [hget, hread, bind, Except.bind, Except.toOption]
  · simp [hget, hread, bind, Except.bind, Except.toOption, pure, Except.pure]

-- What an event changes of the usage: metadata that can be read replaces it.
def Collects (python : Interpreter) (decoder : ConverseStreamDecoder) (event : Value) :
    Except Exception ConverseStreamDecoder.Reaction → Prop
  | .ok (.Emit _ next) | .ok (.Note next) =>
      metadataUsage python event = none ∧ next.usage = decoder.usage
  | .ok (.Flush next) => metadataUsage python event = some next.usage
  | .ok (.Abort _) | .error _ => metadataUsage python event = none

-- Only metadata touches what has been collected.
theorem reactTo_collects {kind : EventKind} (hclassify : classify event = .ok kind)
    (hkind : kind ≠ .Metadata) :
    Collects python decoder event (decoder.reactTo python event kind) := by
  have hnone := @metadataUsage_of_not_metadata python event kind hclassify hkind
  cases hreaction : decoder.reactTo python event kind with
  | error error => exact hnone
  | ok reaction =>
      cases kind with
      | MessageStart =>
          simp only [ConverseStreamDecoder.reactTo, bind_eq_ok] at hreaction
          obtain ⟨start, -, role, -, h⟩ := hreaction
          cases h
          exact ⟨hnone, rfl⟩
      | ContentBlockStart =>
          simp only [ConverseStreamDecoder.reactTo, bind_eq_ok] at hreaction
          obtain ⟨blockStart, -, index, -, blockIndex, -, start, -, ⟨contentBlock, next⟩, hstart, h⟩ :=
            hreaction
          cases h
          exact ⟨hnone, ConverseStreamDecoder.normalizeContentBlockStart_usage hstart⟩
      | ContentBlockDelta =>
          simp only [ConverseStreamDecoder.reactTo, bind_eq_ok] at hreaction
          obtain ⟨blockDelta, -, index, -, blockIndex, -, delta, -, ⟨payload, next⟩, hdelta, h⟩ :=
            hreaction
          cases h
          exact ⟨hnone, ConverseStreamDecoder.normalizeContentBlockDelta_usage hdelta⟩
      | ContentBlockStop =>
          simp only [ConverseStreamDecoder.reactTo, bind_eq_ok] at hreaction
          obtain ⟨blockStop, -, index, -, blockIndex, -, h⟩ := hreaction
          cases h
          exact ⟨hnone, rfl⟩
      | MessageStop =>
          simp only [ConverseStreamDecoder.reactTo, bind_eq_ok] at hreaction
          obtain ⟨stop, -, stopReason, -, h⟩ := hreaction
          cases h
          exact ⟨hnone, rfl⟩
      | Metadata => exact absurd rfl hkind
      | Exception =>
          simp only [ConverseStreamDecoder.reactTo, bind_eq_ok] at hreaction
          obtain ⟨exception, -, h⟩ := hreaction
          cases h
          exact hnone
      | Unrecognised =>
          cases hreaction
          exact ⟨hnone, rfl⟩

theorem react_collects (python : Interpreter) (decoder : ConverseStreamDecoder) (event : Value) :
    Collects python decoder event (decoder.react python event) := by
  cases hkind : classify event with
  | error error =>
      simp only [ConverseStreamDecoder.react, hkind, bind, Except.bind, Collects]
      rw [metadataUsage, hkind]
  | ok kind =>
      have hreact : decoder.react python event = decoder.reactTo python event kind := by
        simp [ConverseStreamDecoder.react, hkind, bind, Except.bind]
      rw [hreact]
      by_cases hmetadata : kind = .Metadata
      · subst hmetadata
        have husage := @metadataUsage_of_metadata python decoder event hkind
        simp only [ConverseStreamDecoder.reactTo]
        rcases hupdate : decoder.updateFromMetadata python event with error | next
        · rw [hupdate] at husage
          exact husage
        · rw [hupdate] at husage
          exact husage
      · exact reactTo_collects hkind hmetadata

end Decoder

section Iteration

variable {python : Interpreter} {decoder final : ConverseStreamDecoder}

theorem lastUsage_cons (python : Interpreter) (usage : Usage) (event : Value)
    (events : List Value) :
    lastUsage python usage (event :: events) =
      lastUsage python ((metadataUsage python event).getD usage) events := by
  unfold lastUsage
  cases h : metadataUsage python event with
  | none => rw [List.filterMap_cons_none h]; rfl
  | some collected => rw [List.filterMap_cons_some h, List.getLastD_cons]; rfl

theorem FlushRun.usage {flushed : Log} {ending : Option Ending}
    (h : FlushRun decoder flushed ending final) :
    final.usage = decoder.usage ∧ fetchedEvents flushed = [] := by
  cases h <;> exact ⟨rfl, rfl⟩

theorem fetchedEvents_append (first second : Log) :
    fetchedEvents (first ++ second) = fetchedEvents first ++ fetchedEvents second :=
  List.filterMap_append

-- Wherever the generator ends, the decoder has the usage of the last metadata it has read.
theorem Iteration.usage {events : List Value} {log : Log} {ending : Ending}
    (h : Iteration python decoder events log ending final) :
    final.usage = lastUsage python decoder.usage (fetchedEvents log) := by
  induction h with
  | EndRaised decoder error => rfl
  | Ended decoder final flushed ending hflush =>
      change final.usage = lastUsage python decoder.usage (fetchedEvents flushed)
      rw [hflush.usage.1, hflush.usage.2]
      rfl
  | NextRaised decoder event events error => rfl
  | ReactRaised decoder event events exception hreact =>
      have hcollects := react_collects python decoder event
      rw [hreact] at hcollects
      change decoder.usage = lastUsage python decoder.usage [event]
      rw [lastUsage_cons, show metadataUsage python event = none from hcollects]
      rfl
  | Taken decoder next final event events frame tail ending hreact htail ih =>
      have hcollects := react_collects python decoder event
      rw [hreact] at hcollects
      obtain ⟨hnone, husage⟩ := hcollects
      change final.usage = lastUsage python decoder.usage (event :: fetchedEvents tail)
      rw [lastUsage_cons, hnone, ih, husage]
      rfl
  | Left decoder next event events frame hreact =>
      have hcollects := react_collects python decoder event
      rw [hreact] at hcollects
      obtain ⟨hnone, husage⟩ := hcollects
      change next.usage = lastUsage python decoder.usage [event]
      rw [lastUsage_cons, hnone, husage]
      rfl
  | Noted decoder next final event events tail ending hreact htail ih =>
      have hcollects := react_collects python decoder event
      rw [hreact] at hcollects
      obtain ⟨hnone, husage⟩ := hcollects
      change final.usage = lastUsage python decoder.usage (event :: fetchedEvents tail)
      rw [lastUsage_cons, hnone, ih, husage]
      rfl
  | Flushed decoder next after final event events flushed tail ending hreact hflush htail ih =>
      have hcollects := react_collects python decoder event
      rw [hreact] at hcollects
      change final.usage =
        lastUsage python decoder.usage (event :: fetchedEvents (flushed ++ tail))
      rw [lastUsage_cons, show metadataUsage python event = some next.usage from hcollects,
        fetchedEvents_append, hflush.usage.2, ih, hflush.usage.1]
      rfl
  | FlushEnded decoder next final event events flushed ending hreact hflush =>
      have hcollects := react_collects python decoder event
      rw [hreact] at hcollects
      change final.usage = lastUsage python decoder.usage (event :: fetchedEvents flushed)
      rw [lastUsage_cons, show metadataUsage python event = some next.usage from hcollects,
        hflush.usage.2, hflush.usage.1]
      rfl
  | Aborted decoder event events frame demand hreact =>
      have hcollects := react_collects python decoder event
      rw [hreact] at hcollects
      change decoder.usage = lastUsage python decoder.usage [event]
      rw [lastUsage_cons, show metadataUsage python event = none from hcollects]
      rfl

end Iteration

end ClaudeCodeProxy
