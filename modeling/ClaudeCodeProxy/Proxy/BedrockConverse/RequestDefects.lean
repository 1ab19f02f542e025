import ClaudeCodeProxy.Proxy.BedrockConverse.MalformedRequests
import ClaudeCodeProxy.Validation.Defects

-- The error that a malformed request ends with.

namespace ClaudeCodeProxy

open Python RequestBuilder Validation

-- What the language says of a value that it cannot use.
def raisedBy (result : Except Exception α) : Option Failure :=
  (defect result).map Failure.ofPython

theorem defect_raising (result : Except Exception α) : defect (raising result) = raisedBy result :=
  defect_mapError result

theorem defect_iterate {value : Value} {rest : List Value → Except Failure α}
    {next : Option Failure} (h : defect (rest (itemsOf value)) = next) :
    defect (raising value.iterate >>= rest) = (raisedBy value.iterate).or next := by
  rw [← defect_raising]
  refine defect_bind fun items hitems => ?_
  rw [itemsOf, raising_eq_ok hitems] at h
  exact h

section Blocks

variable (python : Interpreter)

def contentDefect (content : Value) : Option Failure :=
  demand (coercible content)
    (invalidContent "Message content must be a string or list of blocks.")

theorem coerceBlocks_defect (content : Value) :
    defect (coerceBlocks content) = contentDefect content := by
  cases content <;> rfl

def resultBlockDefect : Value → Option Failure
  | .Str _ => none
  | .Mapping fields =>
      let type := (Value.lookup fields "type").getD .None
      demand (type.isStr "text" || type.isStr "json") (invalidContent
        ("Unsupported tool result block type '" ++ type.toStr python ++ "'."))
  | _ => some (invalidContent "Unsupported tool result content block.")

theorem normalizeToolResultBlock_defect (block : Value) :
    defect (normalizeToolResultBlock python block) = resultBlockDefect python block := by
  cases block with
  | Mapping fields =>
      simp only [normalizeToolResultBlock, getField_mapping, getText_mapping, ok_bind,
        resultBlockDefect]
      cases ((Value.lookup fields "type").getD .None).isStr "text" with
      | true => rfl
      | false => cases ((Value.lookup fields "type").getD .None).isStr "json" <;> rfl
  | _ => rfl

def resultDefect (content : Value) : Option Failure :=
  (contentDefect content).or ((blocksOf content).findSome? (resultBlockDefect python))

theorem normalizeToolResultContent_defect (content : Value) :
    defect (normalizeToolResultContent python content) = resultDefect python content := by
  cases content with
  | Sequence blocks => exact defect_mapM (normalizeToolResultBlock_defect python) blocks
  | _ => rfl

def blockDefect (role : String) : Value → Option Failure
  | .Str _ => none
  | .Mapping fields =>
      let type := (Value.lookup fields "type").getD .None
      if type.isStr "text" || type.isStr "tool_use" && role == "assistant" then none
      else if type.isStr "tool_result" && role == "user" then
        resultDefect python ((Value.lookup fields "content").getD .None)
      else (demand type.hashable (.ofPython .TypeError)).or
        (demand (["image", "document"].any fun text => type.isStr text) (invalidContent
          ("Unsupported content block type '" ++ type.toStr python ++ "'.")))
  | _ => some (invalidContent "Unsupported content block.")

theorem normalizeContentBlock_defect (role : String) (block : Value) :
    defect (normalizeContentBlock python role block) = blockDefect python role block := by
  cases block with
  | Mapping fields =>
      simp only [normalizeContentBlock, blockDefect, getField_mapping, getText_mapping, ok_bind]
      generalize (Value.lookup fields "type").getD .None = type
      by_cases htext : type.isStr "text" = true
      · rw [if_pos htext, htext]
        rfl
      rw [if_neg htext, Bool.eq_false_of_not_eq_true htext, Bool.false_or]
      by_cases huse : (type.isStr "tool_use" && role == "assistant") = true
      · rw [if_pos huse, if_pos huse]
        rfl
      rw [if_neg huse, if_neg huse]
      by_cases hresult : (type.isStr "tool_result" && role == "user") = true
      · rw [if_pos hresult, if_pos hresult, ← normalizeToolResultContent_defect]
        exact defect_bind_ok fun _ => rfl
      rw [if_neg hresult, if_neg hresult, Value.memStrs]
      cases type.hashable with
      | false => rfl
      | true => cases ["image", "document"].any fun text => type.isStr text <;> rfl
  | _ => rfl

def thinkingBlockDefect (block : Value) : Option Failure :=
  demand block.isMapping (invalidContent "Unsupported thinking block.")

theorem normalizeThinkingBlock_defect (block : Value) :
    defect (normalizeThinkingBlock python block) = thinkingBlockDefect block := by
  cases block with
  | Mapping fields =>
      simp only [normalizeThinkingBlock, getField_mapping, getText_mapping, ok_bind]
      cases ((Value.lookup fields "type").getD .None).isStr "thinking" <;> rfl
  | _ => rfl

def thinkingBlocksDefect (thinkingBlocks : Value) : Option Failure :=
  (contentDefect thinkingBlocks).or ((blocksOf thinkingBlocks).findSome? thinkingBlockDefect)

theorem normalizeThinkingBlocks_defect (thinkingBlocks : Value) :
    defect (normalizeThinkingBlocks python thinkingBlocks) =
      thinkingBlocksDefect thinkingBlocks := by
  rw [thinkingBlocksDefect, ← coerceBlocks_defect]
  refine defect_bind fun blocks hblocks => ?_
  rw [coerceBlocks_ok hblocks, ← defect_mapM (normalizeThinkingBlock_defect python)]
  exact defect_bind_ok fun _ => rfl

-- The blocks of a turn, after its thinking if that is replayed.
def turnDefect (role : String) (content thinkingBlocks : Value) : Option Failure :=
  (contentDefect content).or <|
    (if role == "assistant" && thinkingBlocks.truthy then thinkingBlocksDefect thinkingBlocks
      else none).or
    ((blocksOf content).findSome? (blockDefect python role))

theorem normalizeContentBlocks_defect (content : Value) (role : String) (thinkingBlocks : Value) :
    defect (normalizeContentBlocks python content role thinkingBlocks) =
      turnDefect python role content thinkingBlocks := by
  rw [normalizeContentBlocks_eq, turnDefect, ← coerceBlocks_defect]
  refine defect_bind fun blocks hblocks => ?_
  rw [coerceBlocks_ok hblocks]
  have hrest (thinking : List Value) : defect ((blocksOf content).mapM
      (normalizeContentBlock python role) >>= fun rest => pure (thinking ++ rest)) =
        (blocksOf content).findSome? (blockDefect python role) := by
    rw [← defect_mapM (normalizeContentBlock_defect python role)]
    exact defect_bind_ok fun _ => rfl
  rw [defect_bind fun thinking _ => hrest thinking]
  cases role == "assistant" && thinkingBlocks.truthy with
  | true => rw [if_pos rfl, if_pos rfl, normalizeThinkingBlocks_defect]
  | false => rfl

def messageDefect (reasoningEnabled : Bool) : Value → Option Failure
  | .Mapping fields =>
      let role := (writtenText fields "role").toStr python
      if role ∈ SUPPORTED_MESSAGE_ROLES then
        turnDefect python role ((Value.lookup fields "content").getD .None)
          (if reasoningEnabled then (Value.lookup fields "thinking_blocks").getD .None else .None)
      else some (.BedrockRequestBuildError REASON_INVALID_ROLE
        ("Unsupported message role '" ++ role ++ "'."))
  | _ => some (invalidContent "Each message must be an object.")

theorem normalizeMessage_defect (reasoningEnabled : Bool) (rawMessage : Value) :
    defect (normalizeMessage python reasoningEnabled rawMessage) =
      messageDefect python reasoningEnabled rawMessage := by
  cases rawMessage with
  | Mapping fields =>
      rw [normalizeMessage_mapping, messageDefect]
      by_cases hrole : (writtenText fields "role").toStr python ∈ SUPPORTED_MESSAGE_ROLES
      · rw [if_pos hrole, if_pos hrole, ← normalizeContentBlocks_defect]
        exact defect_bind_ok fun _ => rfl
      · rw [if_neg hrole, if_neg hrole]
        rfl
  | _ => rfl

end Blocks

section Sections

variable (python : Interpreter)

def messagesDefect (reasoningEnabled : Bool) (messages : Value) : Option Failure :=
  (raisedBy messages.iterate).or
    ((itemsOf messages).findSome? (messageDefect python reasoningEnabled))

-- The turns are looked through up to the first that calls a tool without its thinking.
def turnsDefect : List Value → Option Failure
  | [] => none
  | message :: messages =>
      if isAssistant message then
        (contentDefect (contentField message)).or
          (if usesTools message && !(thinkingField message).truthy then none
            else turnsDefect messages)
      else turnsDefect messages

theorem hasReasoningContinuity_defect (messages : List Value) :
    defect (hasReasoningContinuity messages) = turnsDefect messages := by
  induction messages with
  | nil => rfl
  | cons message messages ih =>
      cases message with
      | Mapping fields =>
          rw [hasReasoningContinuity_mapping, turnsDefect]
          cases isAssistant (.Mapping fields) with
          | false => exact ih
          | true =>
              rw [if_pos rfl, if_pos rfl, ← coerceBlocks_defect]
              refine defect_bind fun _ _ => ?_
              cases usesTools (.Mapping fields) && !(thinkingField (.Mapping fields)).truthy with
              | true => rfl
              | false => exact ih
      | _ => exact ih

def historyDefect (messages : Value) : Option Failure :=
  (raisedBy (messages.orElse (.Sequence [])).iterate).or (turnsDefect (itemsOf messages))

theorem continuity_defect (fields : Fields) :
    defect (continuity (.Mapping fields)) =
      historyDefect ((Value.lookup fields "messages").getD (.Sequence [])) := by
  rw [historyDefect, ← itemsOf_orElse]
  exact defect_iterate (hasReasoningContinuity_defect _)

def systemBlockDefect : Value → Option Failure
  | .Str _ | .Mapping _ => none
  | _ => some (invalidContent "Unsupported system block.")

def systemDefect : Value → Option Failure
  | .None | .Str _ => none
  | .Sequence blocks => blocks.findSome? systemBlockDefect
  | _ => some (invalidContent "Unsupported system prompt format.")

theorem normalizeSystemBlocks_defect (system : Value) :
    defect (normalizeSystemBlocks python system) = systemDefect system := by
  cases system with
  | Sequence blocks =>
      refine defect_mapM (fun block => ?_) blocks
      cases block with
      | Mapping fields =>
          simp only [normalizeSystemBlock, getField_mapping, getText_mapping, ok_bind]
          cases ((Value.lookup fields "type").getD .None).isStr "text" <;> rfl
      | _ => rfl
  | _ => rfl

def stopSequencesDefect (stopSequences : Value) : Option Failure :=
  if stopSequences.isNone then none else raisedBy stopSequences.iterate

theorem configEntry_defect (fields : Fields) (key name : String) :
    defect (configEntry (.Mapping fields) key name) = none := by
  simp only [configEntry, getField_mapping, ok_bind]
  cases ((Value.lookup fields key).getD .None).isNone <;> rfl

theorem stopSequences_defect (fields : Fields) :
    defect (configEntry (.Mapping fields) "stop_sequences" "stopSequences" toList) =
      stopSequencesDefect ((Value.lookup fields "stop_sequences").getD .None) := by
  simp only [configEntry, getField_mapping, ok_bind, stopSequencesDefect]
  cases ((Value.lookup fields "stop_sequences").getD .None).isNone with
  | true => rfl
  | false =>
      rw [if_neg Bool.false_ne_true, if_neg Bool.false_ne_true, ← defect_raising]
      exact (defect_bind_ok fun _ => rfl).trans (defect_bind_ok fun _ => rfl)

theorem buildInferenceConfig_defect (fields : Fields) :
    defect (buildInferenceConfig (.Mapping fields)) =
      stopSequencesDefect ((Value.lookup fields "stop_sequences").getD .None) := by
  rw [← stopSequences_defect]
  refine defect_bind_of_none (configEntry_defect fields _ _) fun _ => defect_bind_ok fun _ => ?_
  refine defect_bind_of_none (configEntry_defect fields _ _) fun _ => ?_
  exact defect_bind_of_none (configEntry_defect fields _ _) fun _ => rfl

-- A tool is a dictionary, and its schema something that `dict` takes.
def toolDefect : Value → Option Failure
  | .Mapping fields => raisedBy (toDict ((Value.lookup fields "input_schema").getD
      (.Mapping [("type", .Str "object")])))
  | _ => some (.ofPython .AttributeError)

theorem toolSpec_defect (tool : Value) : defect (toolSpec python tool) = toolDefect tool := by
  cases tool with
  | Mapping fields =>
      simp only [toolSpec, getField_mapping, getText_mapping, ok_bind, normalizeSchema,
        toolDefect, bind_assoc]
      rw [← defect_raising]
      exact defect_bind_ok fun _ => rfl
  | _ => rfl

def toolsDefect (tools : Value) : Option Failure :=
  if tools.truthy then (raisedBy tools.iterate).or ((itemsOf tools).findSome? toolDefect) else none

theorem buildToolConfig_defect (fields : Fields) (reasoningEnabled : Bool) :
    defect (buildToolConfig python (.Mapping fields) reasoningEnabled) =
      toolsDefect ((Value.lookup fields "tools").getD .None) := by
  simp only [buildToolConfig, getField_mapping, ok_bind, toolsDefect]
  generalize (Value.lookup fields "tools").getD .None = tools
  generalize (Value.lookup fields "tool_choice").getD .None = toolChoice
  obtain ⟨choice, hchoice⟩ := mapToolChoice_finds python toolChoice reasoningEnabled
  simp only [hchoice, ok_bind]
  cases htruthy : tools.truthy with
  | false =>
      rw [Value.orElse, htruthy]
      cases toolChoice.isNone <;> rfl
  | true =>
      rw [Value.orElse, htruthy, if_pos rfl, htruthy, if_pos rfl]
      refine defect_iterate ?_
      rw [← defect_mapM (toolSpec_defect python)]
      exact defect_bind_ok fun _ => rfl

def outputDefect (fields : Fields) (resolvedModel : ResolvedModel) : Option Failure :=
  match (Value.lookup fields "response_format").getD .None with
  | .None => none
  | .Mapping format =>
      if ((Value.lookup format "type").getD .None).isStr "json_object" then
        some (structuredOutputNotSupported "Schema-less structured output is not supported.")
      else demand (outputReadable fields resolvedModel) (structuredOutputNotSupported
        "Native structured output is not supported for this model.")
  | _ => some (structuredOutputNotSupported "Unsupported structured output configuration.")

theorem buildOutputConfig_defect (fields : Fields) (resolvedModel : ResolvedModel) :
    defect (buildOutputConfig (.Mapping fields) resolvedModel) =
      outputDefect fields resolvedModel := by
  simp only [buildOutputConfig, getField_mapping, ok_bind, outputDefect, outputReadable]
  cases (Value.lookup fields "response_format").getD .None with
  | Mapping format =>
      simp only [Value.isNone, Value.isMapping, Bool.false_eq_true, if_false, Bool.not_true,
        getField_mapping, ok_bind]
      cases ((Value.lookup format "type").getD .None).isStr "json_object" with
      | true => rfl
      | false =>
          cases (Value.lookup format "json_schema").getD .None with
          | Mapping jsonSchema =>
              simp only [getField_mapping, ok_bind]
              cases resolvedModel.capabilities.supportsNativeStructuredOutput with
              | false => rfl
              | true =>
                  cases (Value.lookup jsonSchema "schema").getD .None with
                  | Mapping schema =>
                      refine defect_bind_of_none rfl fun _ => ?_
                      refine defect_bind_of_none (configEntry_defect jsonSchema _ _) fun _ => ?_
                      exact defect_bind_of_none (configEntry_defect jsonSchema _ _) fun _ => rfl
                  | _ => rfl
          | _ => cases resolvedModel.capabilities.supportsNativeStructuredOutput <;> rfl
  | _ => rfl

-- What is wrong with a request once it is known whether the model is to reason.
def bodyDefect (fields : Fields) (resolvedModel : ResolvedModel) (reasoningEnabled : Bool) :
    Option Failure :=
  (messagesDefect python reasoningEnabled
      ((Value.lookup fields "messages").getD (.Sequence []))).or <|
    (systemDefect ((Value.lookup fields "system").getD .None)).or <|
    (stopSequencesDefect ((Value.lookup fields "stop_sequences").getD .None)).or <|
    (toolsDefect ((Value.lookup fields "tools").getD .None)).or
    (outputDefect fields resolvedModel)

theorem assemble_defect (fields : Fields) (resolvedModel : ResolvedModel)
    (requestedReasoning : Option Value) (reasoningEnabled : Bool) :
    defect (assemble python (.Mapping fields) resolvedModel requestedReasoning reasoningEnabled) =
      bodyDefect python fields resolvedModel reasoningEnabled := by
  simp only [assemble, requestMessages, getField_mapping, ok_bind, bodyDefect, messagesDefect,
    Option.or_assoc, ← normalizeSystemBlocks_defect python, ← buildInferenceConfig_defect,
    ← buildToolConfig_defect python fields reasoningEnabled, ← buildOutputConfig_defect,
    ← defect_mapM (normalizeMessage_defect python reasoningEnabled)]
  refine defect_iterate (defect_bind fun _ _ => defect_bind fun _ _ => defect_bind fun _ _ => ?_)
  refine defect_bind fun _ _ => defect_bind_of_none rfl fun _ => ?_
  exact defect_bind_ok fun _ => rfl

def budgetDefect (fields : Fields) : Option Failure :=
  match (Value.lookup fields "thinking").getD .None with
  | .Mapping thinking =>
      let budgetTokens := (Value.lookup thinking "budget_tokens").getD .None
      if budgetTokens.isNone then none else raisedBy (budgetTokens.toInt python)
  | _ => none

theorem normalizeReasoningRequest_defect (fields : Fields) {resolvedModel : ResolvedModel}
    (hcapable : resolvedModel.capabilities.supportsReasoning = true) :
    defect (normalizeReasoningRequest python (.Mapping fields) resolvedModel) =
      budgetDefect python fields := by
  simp only [normalizeReasoningRequest, getField_mapping, ok_bind, budgetDefect, hcapable]
  generalize (Value.lookup fields "reasoning_effort").getD .None = effort
  cases (Value.lookup fields "thinking").getD .None with
  | Mapping thinking =>
      simp only [getField_mapping, Value.isMapping, if_true, ok_bind]
      cases ((Value.lookup thinking "budget_tokens").getD .None).isNone with
      | true => cases effort <;> rfl
      | false => exact (defect_bind_ok fun _ => rfl).trans (defect_raising _)
  | _ => cases effort <;> rfl

-- The error a request ends with: the budget is read first, if the model can reason, then the
-- history, if it is asked to, and then the parts of the payload.
def requestDefect (fields : Fields) (resolvedModel : ResolvedModel) : Option Failure :=
  let messages := (Value.lookup fields "messages").getD (.Sequence [])
  let requested := reasoningRequested fields resolvedModel
  (if resolvedModel.capabilities.supportsReasoning then budgetDefect python fields else none).or <|
    (if requested then historyDefect messages else none).or
    (bodyDefect python fields resolvedModel (requested && continuous (itemsOf messages)))

theorem buildConverseRequest_defect (fields : Fields) (resolvedModel : ResolvedModel) :
    defect (buildConverseRequest python (.Mapping fields) resolvedModel) =
      requestDefect python fields resolvedModel := by
  have hfirst : defect (normalizeReasoningRequest python (.Mapping fields) resolvedModel) =
      if resolvedModel.capabilities.supportsReasoning then budgetDefect python fields else none := by
    by_cases hcapable : resolvedModel.capabilities.supportsReasoning = true
    · rw [normalizeReasoningRequest_defect python fields hcapable, if_pos hcapable]
    · rw [if_neg hcapable, normalizeReasoningRequest, Bool.eq_false_of_not_eq_true hcapable]
      rfl
  rw [buildConverseRequest_eq, requestDefect, ← hfirst]
  refine defect_bind fun requested hok => ?_
  rw [normalizeReasoningRequest_isSome python hok]
  cases reasoningRequested fields resolvedModel with
  | false => exact assemble_defect python fields resolvedModel requested false
  | true =>
      rw [if_pos rfl, if_pos rfl, ← continuity_defect]
      refine defect_bind fun enabled henabled => ?_
      rw [continuity_ok henabled]
      exact assemble_defect python fields resolvedModel requested _

end Sections

end ClaudeCodeProxy
