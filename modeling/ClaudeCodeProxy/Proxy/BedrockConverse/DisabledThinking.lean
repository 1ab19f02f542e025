import ClaudeCodeProxy.Proxy.BedrockConverse.Noninterference
import ClaudeCodeProxy.Proxy.BedrockConverse.RequestDefects

-- A request that turns thinking off, against one that does not speak of it. The builder does
-- not look at the type of `thinking`, so any object there asks for reasoning.

namespace ClaudeCodeProxy

open Python RequestBuilder Validation

section Body

variable {python : Interpreter} {resolvedModel : ResolvedModel}

-- The fields that are read once it is known whether the model is to reason.
def bodyFields : List String :=
  ["messages", "system"] ++ inferenceFields ++ toolFields ++
    ["parallel_tool_calls", "response_format", "stream"]

theorem assemble_congr {request other : Value} (requestedReasoning : Option Value)
    (reasoningEnabled : Bool) (h : AgreeOn bodyFields request other) :
    assemble python request resolvedModel requestedReasoning reasoningEnabled =
      assemble python other resolvedModel requestedReasoning reasoningEnabled := by
  have hsub {keys : List String} (hkeys : ∀ key ∈ keys, key ∈ bodyFields) :
      AgreeOn keys request other := fun key hkey => h key (hkeys key hkey)
  have hparallel : AgreeOn ["parallel_tool_calls"] request other := hsub (by decide)
  unfold assemble requestMessages
  rw [h "messages" (by decide), h "system" (by decide), h "stream" (by decide),
    buildInferenceConfig_congr (hsub (by decide)), buildToolConfig_congr (hsub (by decide)),
    buildOutputConfig_congr (hsub (by decide))]
  simp only [buildAdditionalModelRequestFields_congr hparallel]

-- A budget that was asked for has no place in a request without reasoning.
theorem assemble_unreasoned (request : Value) (requestedReasoning : Option Value) :
    assemble python request resolvedModel requestedReasoning false =
      assemble python request resolvedModel none false := rfl

theorem assemble_reasoningEnabled {request : Value} {requestedReasoning : Option Value}
    {reasoningEnabled : Bool} {built : ConverseRequest}
    (h : assemble python request resolvedModel requestedReasoning reasoningEnabled = .ok built) :
    built.reasoningEnabled = reasoningEnabled := by
  simp only [assemble, bind_eq_ok, pure_eq_ok] at h
  obtain ⟨_, -, _, -, _, -, _, -, _, -, _, -, _, -, _, -, _, -, rfl⟩ := h
  rfl

end Body

section Thinking

variable {python : Interpreter} {fields thinking : Fields} {resolvedModel : ResolvedModel}

def messagesField (fields : Fields) : Value :=
  (Value.lookup fields "messages").getD (.Sequence [])

-- The request that is built without the object, whatever the model can do.
theorem buildConverseRequest_withoutThinking
    (heffort : Value.lookup fields "reasoning_effort" = none) :
    buildConverseRequest python (erased ["thinking"] (.Mapping fields)) resolvedModel =
      assemble python (.Mapping fields) resolvedModel none false := by
  have hnone : normalizeReasoningRequest python (erased ["thinking"] (.Mapping fields))
      resolvedModel = .ok none := by
    by_cases hcapable : resolvedModel.capabilities.supportsReasoning = true
    · simp [normalizeReasoningRequest, erased, getField, Value.lookup_without, heffort, hcapable,
        bind_eq_ok, Value.isNone]
    · simp [normalizeReasoningRequest, hcapable]
  rw [buildConverseRequest_eq, hnone]
  exact assemble_congr none false (agreeOn_erased (by decide))

theorem reasoningRequested_of_thinking
    (hthinking : Value.lookup fields "thinking" = some (.Mapping thinking)) :
    reasoningRequested fields resolvedModel = resolvedModel.capabilities.supportsReasoning := by
  simp [reasoningRequested, hthinking, Value.isNone]

variable (python fields resolvedModel)

-- What a request for reasoning ends with, if its history lets the model reason.
def reasoningDefect : Option Failure :=
  (budgetDefect python fields).or <|
    (historyDefect (messagesField fields)).or (bodyDefect python fields resolvedModel true)

-- The object comes to nothing: the model cannot reason, or the history has lost the thinking
-- behind a call of a tool, or the request has a defect that is met before any that the budget,
-- the history or the replayed thinking add.
inductive IgnoresThinking : Prop
  | Incapable (hcapable : resolvedModel.capabilities.supportsReasoning = false)
  | Interrupted (hbudget : budgetDefect python fields = none)
      (hhistory : historyDefect (messagesField fields) = none)
      (hlost : continuous (itemsOf (messagesField fields)) = false)
  | Malformed {error : Failure} (hbody : bodyDefect python fields resolvedModel false = some error)
      (hreasoning : reasoningDefect python fields resolvedModel = some error)

variable {python fields resolvedModel}

theorem error_eq_assemble_iff {error : Failure}
    (hcapable : resolvedModel.capabilities.supportsReasoning = true)
    (hkept : budgetDefect python fields = none → historyDefect (messagesField fields) = none →
      continuous (itemsOf (messagesField fields)) = true)
    (hreasoning : reasoningDefect python fields resolvedModel = some error) :
    .error error = assemble python (.Mapping fields) resolvedModel none false ↔
      IgnoresThinking python fields resolvedModel := by
  rw [eq_iff_of_defect (defect_error error), assemble_defect]
  constructor
  · intro hbody
    exact .Malformed hbody hreasoning
  · intro h
    cases h with
    | Incapable hincapable =>
        rw [hcapable] at hincapable
        cases hincapable
    | Interrupted hbudget hhistory hlost =>
        rw [hkept hbudget hhistory] at hlost
        cases hlost
    | Malformed hbody hother =>
        rw [hbody, ← hother, hreasoning]

-- A request that has no defect when the model reasons is built with reasoning.
theorem ok_ne_assemble {requestedReasoning : Option Value} {built : ConverseRequest}
    (h : assemble python (.Mapping fields) resolvedModel requestedReasoning true = .ok built) :
    .ok built ≠ assemble python (.Mapping fields) resolvedModel none false := by
  intro heq
  have hfalse := assemble_reasoningEnabled heq.symm
  rw [assemble_reasoningEnabled h] at hfalse
  cases hfalse

theorem reasoned_eq_assemble_iff (requestedReasoning : Option Value)
    (hcapable : resolvedModel.capabilities.supportsReasoning = true)
    (hbudget : budgetDefect python fields = none)
    (hhistory : historyDefect (messagesField fields) = none)
    (hkept : continuous (itemsOf (messagesField fields)) = true) :
    assemble python (.Mapping fields) resolvedModel requestedReasoning true =
        assemble python (.Mapping fields) resolvedModel none false ↔
      IgnoresThinking python fields resolvedModel := by
  have hreasoning : reasoningDefect python fields resolvedModel =
      bodyDefect python fields resolvedModel true := by
    rw [reasoningDefect, hbudget, hhistory, Option.none_or, Option.none_or]
  have hbody := assemble_defect python fields resolvedModel requestedReasoning true
  cases hbuilt : assemble python (.Mapping fields) resolvedModel requestedReasoning true with
  | error error =>
      rw [hbuilt, ← hreasoning] at hbody
      exact error_eq_assemble_iff hcapable (fun _ _ => hkept) hbody.symm
  | ok built =>
      rw [hbuilt, ← hreasoning] at hbody
      refine iff_of_false (ok_ne_assemble hbuilt) fun h => ?_
      cases h with
      | Incapable hincapable =>
          rw [hcapable] at hincapable
          cases hincapable
      | Interrupted _ _ hlost =>
          rw [hkept] at hlost
          cases hlost
      | Malformed _ hother =>
          rw [← hbody] at hother
          cases hother

-- From the history on, once the budget is read.
theorem continued_eq_assemble_iff (requestedReasoning : Option Value)
    (hcapable : resolvedModel.capabilities.supportsReasoning = true)
    (hbudget : budgetDefect python fields = none) :
    continuity (.Mapping fields) >>=
          assemble python (.Mapping fields) resolvedModel requestedReasoning =
        assemble python (.Mapping fields) resolvedModel none false ↔
      IgnoresThinking python fields resolvedModel := by
  have hhistory : defect (continuity (.Mapping fields)) = historyDefect (messagesField fields) :=
    continuity_defect fields
  cases hcontinuity : continuity (.Mapping fields) with
  | error error =>
      rw [hcontinuity] at hhistory
      have hreasoning : reasoningDefect python fields resolvedModel = some error := by
        rw [reasoningDefect, hbudget, ← hhistory]
        rfl
      refine error_eq_assemble_iff hcapable (fun _ hnone => ?_) hreasoning
      rw [← hhistory] at hnone
      cases hnone
  | ok enabled =>
      rw [hcontinuity] at hhistory
      have henabled : enabled = continuous (itemsOf (messagesField fields)) :=
        continuity_ok hcontinuity
      rw [ok_bind]
      cases enabled with
      | false =>
          exact iff_of_true (assemble_unreasoned _ _)
            (.Interrupted hbudget hhistory.symm henabled.symm)
      | true =>
          exact reasoned_eq_assemble_iff requestedReasoning hcapable hbudget hhistory.symm
            henabled.symm

-- The type of the object is nowhere in the condition.
theorem thinking_object_ignored_iff
    (hthinking : Value.lookup fields "thinking" = some (.Mapping thinking))
    (heffort : Value.lookup fields "reasoning_effort" = none) :
    buildConverseRequest python (.Mapping fields) resolvedModel =
        buildConverseRequest python (erased ["thinking"] (.Mapping fields)) resolvedModel ↔
      IgnoresThinking python fields resolvedModel := by
  have hrequested : reasoningRequested fields resolvedModel =
      resolvedModel.capabilities.supportsReasoning := reasoningRequested_of_thinking hthinking
  rw [buildConverseRequest_withoutThinking heffort, buildConverseRequest_eq]
  cases hcapable : resolvedModel.capabilities.supportsReasoning with
  | false =>
      have hnone : normalizeReasoningRequest python (.Mapping fields) resolvedModel = .ok none := by
        rw [normalizeReasoningRequest, hcapable]
        rfl
      rw [hnone]
      exact iff_of_true rfl (.Incapable hcapable)
  | true =>
      rw [hcapable] at hrequested
      have hbudget := normalizeReasoningRequest_defect python fields hcapable
      cases hnormalized : normalizeReasoningRequest python (.Mapping fields) resolvedModel with
      | error error =>
          rw [hnormalized] at hbudget
          have hreasoning : reasoningDefect python fields resolvedModel = some error := by
            rw [reasoningDefect, ← hbudget]
            rfl
          refine error_eq_assemble_iff hcapable (fun hnone => ?_) hreasoning
          rw [← hbudget] at hnone
          cases hnone
      | ok requested =>
          rw [hnormalized] at hbudget
          rw [ok_bind, normalizeReasoningRequest_isSome python hnormalized, hrequested, if_pos rfl]
          exact continued_eq_assemble_iff requested hcapable hbudget.symm

-- The request turns thinking off, and nothing else in it speaks of reasoning.
structure DisablesThinking (fields thinking : Fields) : Prop where
  object : Value.lookup fields "thinking" = some (.Mapping thinking)
  type : Value.lookup thinking "type" = some (.Str "disabled")
  effort : Value.lookup fields "reasoning_effort" = none

-- To turn thinking off is not to ask for it only where nothing could have come of it.
theorem disabled_thinking_ignored_iff (python : Interpreter) (resolvedModel : ResolvedModel)
    (h : DisablesThinking fields thinking) :
    buildConverseRequest python (.Mapping fields) resolvedModel =
        buildConverseRequest python (erased ["thinking"] (.Mapping fields)) resolvedModel ↔
      IgnoresThinking python fields resolvedModel :=
  thinking_object_ignored_iff h.object h.effort

def sampleDisabled (turns : List Value) : Fields := [
  ("thinking", .Mapping [("type", .Str "disabled")]),
  ("tools", .Sequence [.Mapping [("name", .Str "search")]]),
  ("tool_choice", .Mapping [("type", .Str "any")]),
  ("messages", .Sequence turns)]

theorem sampleDisabled_disables (turns : List Value) :
    DisablesThinking (sampleDisabled turns) [("type", .Str "disabled")] := ⟨rfl, rfl, rfl⟩

def sampleCallTurns : List Value := [
  sampleQuestion,
  .Mapping [("role", .Str "assistant"), ("content", .Sequence [sampleToolUse])],
  sampleAnswer]

-- The thinking behind the call is gone, so that the model could not have reasoned anyway.
theorem disabled_thinking_ignored_sample :
    buildConverseRequest samplePython (.Mapping (sampleDisabled sampleCallTurns))
        (sampleModel true) =
      buildConverseRequest samplePython
        (erased ["thinking"] (.Mapping (sampleDisabled sampleCallTurns))) (sampleModel true) :=
  (disabled_thinking_ignored_iff samplePython (sampleModel true) (sampleDisabled_disables _)).mpr
    (.Interrupted rfl rfl rfl)

-- A first question is sent with reasoning on and the forced call of a tool relaxed.
theorem disabled_thinking_turned_on :
    DisablesThinking (sampleDisabled [sampleQuestion]) [("type", .Str "disabled")] ∧
    ∃ built other,
      buildConverseRequest samplePython (.Mapping (sampleDisabled [sampleQuestion]))
        (sampleModel true) = .ok built ∧
      buildConverseRequest samplePython
        (erased ["thinking"] (.Mapping (sampleDisabled [sampleQuestion]))) (sampleModel true) =
          .ok other ∧
      built.payload.item "additionalModelRequestFields" =
        .ok (.Mapping [("thinking", enabledReasoning 1024)]) ∧
      (built.payload.item "toolConfig" >>= fun config => config.item "toolChoice") =
        .ok autoChoice ∧
      (other.payload.item "toolConfig" >>= fun config => config.item "toolChoice") =
        .ok (.Mapping [("any", .Mapping [])]) ∧
      built ≠ other := by
  refine ⟨⟨rfl, rfl, rfl⟩, _, _, rfl, rfl, rfl, rfl, rfl, fun h => ?_⟩
  have hreasoning := congrArg ConverseRequest.reasoningEnabled h
  cases hreasoning

end Thinking

end ClaudeCodeProxy
