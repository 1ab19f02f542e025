import ClaudeCodeProxy.Proxy.BedrockConverse.Transcript

-- Requests in which the model is to reason.

namespace ClaudeCodeProxy

open Python RequestBuilder

-- An assistant turn that calls a tool.
def usesTools : Value → Bool
  | .Mapping fields =>
      ((Value.lookup fields "role").getD .None).isStr "assistant" &&
        (blocksOf ((Value.lookup fields "content").getD .None)).any (hasType "tool_use")
  | _ => false

-- There is a thinking block that the builder replays.
def keepsThinking : Value → Bool
  | .Mapping fields =>
      (blocksOf ((Value.lookup fields "thinking_blocks").getD .None)).any (hasType "thinking")
  | _ => false

def isReasoning : Value → Bool
  | .Mapping fields => (Value.lookup fields "reasoningContent").isSome
  | _ => false

def startsWithReasoning (message : Value) : Bool :=
  match contentOf message with
  | first :: _ => isReasoning first
  | [] => false

-- The payload asks for reasoning, does not force a tool, and has the reasoning that led to
-- each tool call so far.
structure ConsistentReasoning (rawMessages : List Value) (payload : Value) : Prop where
  thinking : ∃ additional thinking budget,
    payload.item "additionalModelRequestFields" = .ok additional ∧
    additional.item "thinking" = .ok thinking ∧
    thinking.item "type" = .ok (.Str "enabled") ∧
    thinking.item "budget_tokens" = .ok (.Integer budget) ∧ 1024 ≤ budget
  toolChoice : ∀ config choice, payload.item "toolConfig" = .ok config →
    config.item "toolChoice" = .ok choice → choice = autoChoice
  replayed : ∃ messages, payload.item "messages" = .ok (.Sequence messages) ∧
    List.Forall₂ (fun rawMessage message =>
      usesTools rawMessage = true → startsWithReasoning message = true) rawMessages messages

section Helpers

variable {python : Interpreter} {request : Value} {resolvedModel : ResolvedModel}

def enabledReasoning (budget : Int) : Value :=
  .Mapping [("type", .Str "enabled"), ("budget_tokens", .Integer budget)]

theorem le_reasoningBudget (effort : String) : 1024 ≤ reasoningBudget effort := by
  unfold reasoningBudget
  split <;> decide

theorem effortReasoning_ok {effort reasoning : Value}
    (h : (match effort with
      | .Str effort => do
          let budgetTokens ← pure (reasoningBudget effort)
          pure (some (enabledReasoning budgetTokens))
      | _ => do
          let budgetTokens ← pure MIN_REASONING_BUDGET_TOKENS
          pure (some (enabledReasoning budgetTokens)) : Except Failure (Option Value)) =
        .ok (some reasoning)) :
    ∃ budget, 1024 ≤ budget ∧ reasoning = enabledReasoning budget := by
  cases effort with
  | Str effort =>
      cases h
      exact ⟨_, le_reasoningBudget effort, rfl⟩
  | _ =>
      cases h
      exact ⟨_, le_refl _, rfl⟩

-- Whatever asks for the reasoning, the model gets at least the smallest budget.
theorem normalizeReasoningRequest_ok {reasoning : Value}
    (h : normalizeReasoningRequest python request resolvedModel = .ok (some reasoning)) :
    ∃ budget, 1024 ≤ budget ∧ reasoning = enabledReasoning budget := by
  simp only [normalizeReasoningRequest, ite_eq_iff, bind_eq_ok, pure_eq_ok, Option.some.injEq,
    reduceCtorEq, and_false, false_or, exists_eq_left'] at h
  obtain ⟨-, thinking, -, effort, -, -, h⟩ := h
  rcases h with ⟨-, requested, -, ⟨-, tokens, -, rfl⟩ | ⟨-, h⟩⟩ | ⟨-, ⟨hnone, -⟩ | ⟨-, h⟩⟩
  · exact ⟨_, le_max_right _ _, rfl⟩
  · exact effortReasoning_ok h
  · cases hnone
  · exact effortReasoning_ok h

theorem mapToolChoice_enabled {toolChoice choice : Value}
    (h : mapToolChoice python toolChoice true = .ok (some choice)) : choice = autoChoice := by
  unfold mapToolChoice at h
  by_cases hnone : toolChoice.isNone = true
  · rw [if_pos hnone] at h
    cases h
  · rw [if_neg hnone, Bool.true_or, if_pos rfl] at h
    exact (Option.some.inj (pure_eq_ok.mp h)).symm

theorem buildToolConfig_ok {reasoningEnabled : Bool} {config : Fields}
    (h : buildToolConfig python request reasoningEnabled = .ok config) :
    Value.lookup config "toolChoice" = none ∨ ∃ toolChoice choice,
      mapToolChoice python toolChoice reasoningEnabled = .ok (some choice) ∧
        Value.lookup config "toolChoice" = some choice := by
  simp only [buildToolConfig, ite_eq_iff, bind_eq_ok, pure_eq_ok, exists_eq_left'] at h
  obtain ⟨tools, -, toolChoice, -, ⟨-, rfl⟩ | ⟨-, h⟩⟩ := h
  · exact .inl rfl
  rcases h with ⟨-, _, -, specs, -, mapped, hmapped, rfl⟩ | ⟨-, mapped, hmapped, rfl⟩
  · cases mapped with
    | none => exact .inl rfl
    | some choice => exact .inr ⟨toolChoice, choice, hmapped, rfl⟩
  · cases mapped with
    | none => exact .inl rfl
    | some choice => exact .inr ⟨toolChoice, choice, hmapped, rfl⟩

end Helpers

section Replay

variable {python : Interpreter}

theorem BlockRendered.not_reasoning {text : Fields → String → Value} {role : String}
    {block rendered : Value} (h : BlockRendered text role block rendered) :
    isReasoning rendered = false := by
  cases h with
  | Media htype hkind =>
      simp only [List.mem_cons, List.not_mem_nil, or_false] at hkind
      rcases hkind with rfl | rfl <;> rfl
  | _ => rfl

theorem ThinkingRendered.reasoning {text : Fields → String → Value} {block rendered : Value}
    (h : ThinkingRendered text block rendered) : isReasoning rendered = true := by
  cases h
  rfl

theorem MessageRendered.startsWithReasoning_iff {rawMessage message : Value}
    (h : MessageRendered (printedText python) true rawMessage message)
    (huses : usesTools rawMessage = true) :
    startsWithReasoning message = true ↔ keepsThinking rawMessage = true := by
  cases h with
  | @Message fields role thinking content hrole hsupported hthinking hcontent =>
      simp only [usesTools, Bool.and_eq_true, getD_isStr] at huses
      have hassistant : role = "assistant" := by
        simp only [printedText, writtenText, huses.1, Option.getD_some, Value.toStr,
          Value.Str.injEq] at hrole
        exact hrole.symm
      have hsplit : contentOf (.Mapping [("role", .Str role),
          ("content", .Sequence (thinking ++ content))]) = thinking ++ content := rfl
      subst hassistant
      simp only [replayedThinking, beq_self_eq_true, if_true] at hthinking
      unfold startsWithReasoning
      rw [hsplit, keepsThinking, List.any_eq_true]
      generalize hfilter : (blocksOf ((Value.lookup fields "thinking_blocks").getD .None)).filter
        (hasType "thinking") = replayed at hthinking
      generalize blocksOf ((Value.lookup fields "content").getD .None) = blocks at hcontent
      cases hthinking with
      | nil =>
          have hnone := List.filter_eq_nil_iff.mp hfilter
          constructor
          · intro hfirst
            cases hcontent with
            | nil => cases hfirst
            | cons hblock _ => exact absurd hfirst (by simp [hblock.not_reasoning])
          · rintro ⟨block, hmem, htype⟩
            exact absurd htype (hnone block hmem)
      | @cons block rendered rest _ hrendered _ =>
          have hmem : block ∈ block :: rest := List.mem_cons_self
          rw [← hfilter] at hmem
          obtain ⟨hmem, htype⟩ := List.mem_filter.mp hmem
          exact iff_of_true hrendered.reasoning ⟨block, hmem, htype⟩

theorem replayed_iff {rawMessages messages : List Value}
    (h : List.Forall₂ (MessageRendered (printedText python) true) rawMessages messages) :
    List.Forall₂ (fun rawMessage message =>
        usesTools rawMessage = true → startsWithReasoning message = true) rawMessages messages ↔
      ∀ rawMessage ∈ rawMessages,
        usesTools rawMessage = true → keepsThinking rawMessage = true := by
  induction h with
  | nil => simp
  | cons hmessage _ ih =>
      rw [List.forall₂_cons, List.forall_mem_cons, ih]
      exact and_congr_left fun _ => forall_congr' fun huses => hmessage.startsWithReasoning_iff huses

end Replay

section Consistency

variable {python : Interpreter} {request : Value} {resolvedModel : ResolvedModel}
  {built : ConverseRequest} {parts : RequestParts}

theorem RequestParts.BuiltFrom.enabledReasoning (h : parts.BuiltFrom python request resolvedModel)
    (henabled : parts.reasoningEnabled = true) :
    ∃ budget, 1024 ≤ budget ∧ parts.reasoning = some (ClaudeCodeProxy.enabledReasoning budget) := by
  have hif := h.enabled
  cases hrequested : parts.requestedReasoning with
  | none =>
      rw [hrequested, henabled] at hif
      cases hif
  | some reasoning =>
      obtain ⟨budget, hbudget, rfl⟩ := normalizeReasoningRequest_ok (hrequested ▸ h.requested)
      exact ⟨budget, hbudget, by rw [RequestParts.reasoning, henabled, if_pos rfl, hrequested]⟩

theorem lookup_thinking {reasoning : Value} {fields : Fields}
    (h : buildAdditionalModelRequestFields request resolvedModel (some reasoning) = .ok fields) :
    Value.lookup fields "thinking" = some reasoning := by
  obtain ⟨parallelToolCalls, -, h⟩ := bind_eq_ok.mp h
  rw [← pure_eq_ok.mp h]
  split_ifs <;> rfl

theorem RequestParts.BuiltFrom.consistent_iff (h : parts.BuiltFrom python request resolvedModel)
    (henabled : parts.reasoningEnabled = true) :
    ConsistentReasoning parts.rawMessages (.Mapping parts.payload) ↔
      ∀ rawMessage ∈ parts.rawMessages,
        usesTools rawMessage = true → keepsThinking rawMessage = true := by
  have hrendered := h.rendered
  rw [henabled] at hrendered
  constructor
  · rintro ⟨-, -, messages, hitem, hreplayed⟩
    have hmessages := (Value.item_eq_ok.mp hitem).symm.trans parts.lookup_messages
    cases hmessages
    exact (replayed_iff hrendered).mp hreplayed
  · intro hkept
    refine ⟨?_, ?_, parts.messages, Value.item_eq_ok.mpr parts.lookup_messages,
      (replayed_iff hrendered).mpr hkept⟩
    · obtain ⟨budget, hbudget, hreasoning⟩ := h.enabledReasoning henabled
      have hthinking := lookup_thinking (hreasoning ▸ h.additionalFields)
      have hne : parts.additionalFields ≠ [] := by
        intro hnil
        rw [hnil] at hthinking
        cases hthinking
      have hitem := parts.lookup_additionalFields
      rw [if_neg hne] at hitem
      exact ⟨_, _, budget, Value.item_eq_ok.mpr hitem, Value.item_eq_ok.mpr hthinking, rfl, rfl,
        hbudget⟩
    · intro config choice hconfig hchoice
      have hlookup := (Value.item_eq_ok.mp hconfig).symm.trans parts.lookup_toolConfig
      split_ifs at hlookup with hempty
      cases hlookup
      rcases buildToolConfig_ok (henabled ▸ h.toolConfig) with hnone | ⟨_, mapped, hmapped, hsome⟩
      · exact absurd (Value.item_eq_ok.mp hchoice) (by simp [hnone])
      · have hsame := (Value.item_eq_ok.mp hchoice).symm.trans hsome
        cases hsame
        exact mapToolChoice_enabled hmapped

-- The first two parts hold of every request; the third is a matter of its history.
theorem consistent_reasoning_iff {rawMessages : List Value}
    (hraw : requestMessages request = .ok rawMessages)
    (h : buildConverseRequest python request resolvedModel = .ok built)
    (henabled : built.reasoningEnabled = true) :
    ConsistentReasoning rawMessages built.payload ↔
      ∀ rawMessage ∈ rawMessages,
        usesTools rawMessage = true → keepsThinking rawMessage = true := by
  obtain ⟨parts, hparts, rfl⟩ := buildConverseRequest_ok_iff.mp h
  have hsame : rawMessages = parts.rawMessages := Except.ok.inj (hraw.symm.trans hparts.iterated)
  subst hsame
  exact hparts.consistent_iff henabled

theorem sampleTurns_consistent : ∃ rawMessages built,
    requestMessages (sampleTurns [sampleThinking]) = .ok rawMessages ∧
      buildConverseRequest samplePython (sampleTurns [sampleThinking]) (sampleModel true) =
        .ok built ∧ ConsistentReasoning rawMessages built.payload := by
  have h : ∃ rawMessages built, requestMessages (sampleTurns [sampleThinking]) = .ok rawMessages ∧
      buildConverseRequest samplePython (sampleTurns [sampleThinking]) (sampleModel true) =
        .ok built ∧ built.reasoningEnabled = true ∧
      rawMessages.all (fun rawMessage => !usesTools rawMessage || keepsThinking rawMessage) = true :=
    ⟨_, _, rfl, rfl, rfl, rfl⟩
  obtain ⟨rawMessages, built, hraw, h, henabled, hkept⟩ := h
  refine ⟨rawMessages, built, hraw, h, (consistent_reasoning_iff hraw h henabled).mpr ?_⟩
  intro rawMessage hmem huses
  simpa [huses] using List.all_eq_true.mp hkept rawMessage hmem

def sampleRedacted : Value := .Mapping [
  ("type", .Str "redacted_thinking"), ("data", .Str "cmVkYWN0ZWQ=")]

-- A redacted block keeps the reasoning on, but is not replayed.
theorem redacted_thinking_not_replayed :
    ¬∀ python request resolvedModel rawMessages built,
      requestMessages request = .ok rawMessages →
      buildConverseRequest python request resolvedModel = .ok built →
      built.reasoningEnabled = true → ConsistentReasoning rawMessages built.payload := by
  intro hclaim
  have h : ∃ rawMessages built, requestMessages (sampleTurns [sampleRedacted]) = .ok rawMessages ∧
      buildConverseRequest samplePython (sampleTurns [sampleRedacted]) (sampleModel true) =
        .ok built ∧ built.reasoningEnabled = true ∧
      rawMessages.any (fun rawMessage => usesTools rawMessage && !keepsThinking rawMessage) = true :=
    ⟨_, _, rfl, rfl, rfl, rfl⟩
  obtain ⟨rawMessages, built, hraw, h, henabled, hdropped⟩ := h
  have hconsistent := hclaim _ _ _ _ _ hraw h henabled
  obtain ⟨parts, hparts, rfl⟩ := buildConverseRequest_ok_iff.mp h
  have hsame : rawMessages = parts.rawMessages := Except.ok.inj (hraw.symm.trans hparts.iterated)
  subst hsame
  obtain ⟨rawMessage, hmem, hraw⟩ := List.any_eq_true.mp hdropped
  have hkept := (hparts.consistent_iff henabled).mp hconsistent rawMessage hmem
  simp only [Bool.and_eq_true, Bool.not_eq_true'] at hraw
  exact absurd (hkept hraw.1) (by simp [hraw.2])

end Consistency

end ClaudeCodeProxy
