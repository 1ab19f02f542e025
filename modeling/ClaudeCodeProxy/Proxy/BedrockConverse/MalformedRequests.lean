import ClaudeCodeProxy.Api.ErrorResponses
import ClaudeCodeProxy.Proxy.BedrockConverse.EnabledReasoning
import ClaudeCodeProxy.Validation.Findings

-- What the builder makes of requests of any shape: which it takes, which it refuses, and on
-- which it fails with an exception of the language.

namespace ClaudeCodeProxy

open Python RequestBuilder Validation

-- The builder refuses the request.
def Refusal (error : Failure) : Prop :=
  ∃ reason message, error = .BedrockRequestBuildError reason message

theorem not_refusal_ofPython (exception : Exception) : ¬Refusal (.ofPython exception) := by
  rintro ⟨reason, message, ⟨⟩⟩

theorem finds_raising {result : Except Exception α} :
    Finds Refusal (raising result) (.rely result.toOption.isSome) := by
  cases result with
  | ok value => exact .ok value
  | error exception => exact .error (not_refusal_ofPython exception)

theorem finds_invalidContent (message : String) :
    Finds Refusal (throw (invalidContent message) : Except Failure α) .refused :=
  .refuse ⟨_, _, rfl⟩

section Blocks

variable (python : Interpreter)

def coercible : Value → Bool
  | .None | .Str _ | .Sequence _ => true
  | _ => false

theorem coerceBlocks_finds (content : Value) :
    Finds Refusal (coerceBlocks content) (.check (coercible content)) := by
  cases content with
  | None | Str _ | Sequence _ => exact .pure _
  | _ => exact finds_invalidContent _

def resultBlockReadable : Value → Bool
  | .Str _ => true
  | .Mapping fields => hasType "text" (.Mapping fields) || hasType "json" (.Mapping fields)
  | _ => false

theorem normalizeToolResultBlock_finds (block : Value) :
    Finds Refusal (normalizeToolResultBlock python block)
      (.check (resultBlockReadable block)) := by
  cases block with
  | Str s => exact .pure _
  | Mapping fields =>
      simp only [normalizeToolResultBlock, getField_mapping, getText_mapping, ok_bind,
        resultBlockReadable, hasType]
      cases ((Value.lookup fields "type").getD .None).isStr "text" with
      | true => exact .pure _
      | false =>
          cases ((Value.lookup fields "type").getD .None).isStr "json" with
          | true => exact .pure _
          | false => exact finds_invalidContent _
  | _ => exact finds_invalidContent _

-- The content of the result of a tool: a text, or a list of readable blocks.
def resultReadable (content : Value) : Bool :=
  coercible content && (blocksOf content).all resultBlockReadable

theorem normalizeToolResultContent_finds (content : Value) :
    Finds Refusal (normalizeToolResultContent python content)
      (.check (resultReadable content)) := by
  cases content with
  | None | Str _ => exact .pure _
  | Sequence blocks =>
      have h := Finds.mapM (normalizeToolResultBlock_finds python) blocks
      rw [Finding.all_check] at h
      exact h
  | _ => exact finds_invalidContent _

-- A block whose type is a list or a dictionary cannot be compared with the names of the types.
def blockFinding (role : String) : Value → Finding
  | .Str _ => .fine
  | .Mapping fields =>
      let type := (Value.lookup fields "type").getD .None
      if type.isStr "text" || type.isStr "tool_use" && role == "assistant" then .fine
      else if type.isStr "tool_result" && role == "user" then
        .check (resultReadable ((Value.lookup fields "content").getD .None))
      else (Finding.rely type.hashable).andThen
        (.check (["image", "document"].any fun text => type.isStr text))
  | _ => .refused

theorem blockFinding_eq_unchecked_iff {role : String} {block : Value} :
    blockFinding role block = .unchecked ↔ ∃ fields, block = .Mapping fields ∧
      ((Value.lookup fields "type").getD .None).hashable = false := by
  cases block with
  | Mapping fields =>
      simp only [blockFinding, Value.Mapping.injEq, exists_eq_left']
      generalize (Value.lookup fields "type").getD .None = type
      -- the types that are told apart are texts, which can be compared
      cases type with
      | Sequence _ | Mapping _ | Dictionary _ =>
          simp [Value.isStr, Value.hashable, Finding.rely]
      | _ =>
          simp only [Value.hashable, Finding.rely, Finding.fine_andThen, Bool.true_eq_false,
            iff_false]
          split_ifs <;> simp
  | _ => simp [blockFinding]

theorem memStrs_finds {value : Value} {texts : List String}
    {rest : Bool → Except Failure Value} {next : Finding}
    (h : Finds Refusal (rest (texts.any fun text => value.isStr text)) next) :
    Finds Refusal (raising (value.memStrs texts) >>= rest)
      ((Finding.rely value.hashable).andThen next) := by
  unfold Value.memStrs
  cases value.hashable with
  | true => exact h
  | false => exact .error (not_refusal_ofPython _)

theorem normalizeContentBlock_finds (role : String) (block : Value) :
    Finds Refusal (normalizeContentBlock python role block) (blockFinding role block) := by
  cases block with
  | Str s => exact .pure _
  | Mapping fields =>
      simp only [normalizeContentBlock, blockFinding, getField_mapping, getText_mapping, ok_bind]
      generalize (Value.lookup fields "type").getD .None = type
      by_cases htext : type.isStr "text" = true
      · rw [if_pos htext, htext]
        exact .pure _
      rw [if_neg htext, Bool.eq_false_of_not_eq_true htext, Bool.false_or]
      refine .ite (fun _ => .pure _) fun _ => .ite (fun _ => ?_) fun _ => ?_
      · exact (normalizeToolResultContent_finds python _).bind_ok fun _ => ⟨_, rfl⟩
      · apply memStrs_finds
        cases ["image", "document"].any fun text => type.isStr text with
        | true => exact .pure _
        | false => exact finds_invalidContent _
  | _ => exact finds_invalidContent _

theorem normalizeThinkingBlock_finds (block : Value) :
    Finds Refusal (normalizeThinkingBlock python block) (.check block.isMapping) := by
  cases block with
  | Mapping fields =>
      simp only [normalizeThinkingBlock, getField_mapping, getText_mapping, ok_bind]
      cases ((Value.lookup fields "type").getD .None).isStr "thinking" <;> exact .pure _
  | _ => exact finds_invalidContent _

def thinkingReadable (thinkingBlocks : Value) : Bool :=
  coercible thinkingBlocks && (blocksOf thinkingBlocks).all Value.isMapping

theorem normalizeThinkingBlocks_finds (thinkingBlocks : Value) :
    Finds Refusal (normalizeThinkingBlocks python thinkingBlocks)
      (.check (thinkingReadable thinkingBlocks)) := by
  rw [thinkingReadable, Finding.check_and]
  refine (coerceBlocks_finds thinkingBlocks).bind fun blocks hblocks => ?_
  rw [coerceBlocks_ok hblocks, ← Finding.all_check]
  exact (Finds.mapM (normalizeThinkingBlock_finds python) _).bind_ok fun _ => ⟨_, rfl⟩

-- Thinking blocks are read in the turns of the assistant only.
def contentFinding (role : String) (content thinkingBlocks : Value) : Finding :=
  (Finding.check (coercible content)).andThen
    ((Finding.check (!(role == "assistant" && thinkingBlocks.truthy) ||
      thinkingReadable thinkingBlocks)).andThen
      (.all ((blocksOf content).map (blockFinding role))))

theorem normalizeContentBlocks_finds (content : Value) (role : String) (thinkingBlocks : Value) :
    Finds Refusal (normalizeContentBlocks python content role thinkingBlocks)
      (contentFinding role content thinkingBlocks) := by
  rw [normalizeContentBlocks_eq]
  refine (coerceBlocks_finds content).bind fun blocks hblocks => ?_
  rw [coerceBlocks_ok hblocks]
  apply Finds.bind
  · cases role == "assistant" && thinkingBlocks.truthy with
    | true => exact normalizeThinkingBlocks_finds python thinkingBlocks
    | false => exact .pure _
  · intro thinking _
    exact (Finds.mapM (normalizeContentBlock_finds python role) _).bind_ok fun _ => ⟨_, rfl⟩

def messageFinding (reasoningEnabled : Bool) : Value → Finding
  | .Mapping fields =>
      let role := (writtenText fields "role").toStr python
      (Finding.check (role ∈ SUPPORTED_MESSAGE_ROLES)).andThen
        (contentFinding role ((Value.lookup fields "content").getD .None)
          (if reasoningEnabled then (Value.lookup fields "thinking_blocks").getD .None else .None))
  | _ => .refused

theorem normalizeMessage_finds (reasoningEnabled : Bool) (rawMessage : Value) :
    Finds Refusal (normalizeMessage python reasoningEnabled rawMessage)
      (messageFinding python reasoningEnabled rawMessage) := by
  cases rawMessage with
  | Mapping fields =>
      rw [normalizeMessage_mapping, messageFinding]
      by_cases hrole : (writtenText fields "role").toStr python ∈ SUPPORTED_MESSAGE_ROLES
      · rw [if_pos hrole, decide_eq_true hrole]
        exact (normalizeContentBlocks_finds python _ _ _).bind_ok fun _ => ⟨_, rfl⟩
      · rw [if_neg hrole, decide_eq_false hrole]
        exact .refuse ⟨_, _, rfl⟩
  | _ => exact finds_invalidContent _

end Blocks

section Sections

variable (python : Interpreter)

def iterable (value : Value) : Bool := value.iterate.toOption.isSome

def itemsOf (value : Value) : List Value := value.iterate.toOption.getD []

theorem iterate_finds {value : Value} {rest : List Value → Except Failure α} {next : Finding}
    (h : Finds Refusal (rest (itemsOf value)) next) :
    Finds Refusal (raising value.iterate >>= rest)
      ((Finding.rely (iterable value)).andThen next) := by
  unfold itemsOf at h
  unfold iterable
  cases hitems : value.iterate with
  | ok items =>
      rw [hitems] at h
      exact h
  | error exception => exact .error (not_refusal_ofPython _)

def messagesFinding (reasoningEnabled : Bool) (messages : Value) : Finding :=
  (Finding.rely (iterable messages)).andThen
    (.all ((itemsOf messages).map (messageFinding python reasoningEnabled)))

-- A turn of the assistant counts if its role is written as a string.
def isAssistant : Value → Bool
  | .Mapping fields => ((Value.lookup fields "role").getD .None).isStr "assistant"
  | _ => false

def contentField : Value → Value
  | .Mapping fields => (Value.lookup fields "content").getD .None
  | _ => .None

def thinkingField : Value → Value
  | .Mapping fields => (Value.lookup fields "thinking_blocks").getD .None
  | _ => .None

-- The turns are read up to the first that calls a tool without its thinking.
def turnsReadable : List Value → Bool
  | [] => true
  | message :: messages =>
      if isAssistant message then
        coercible (contentField message) &&
          (usesTools message && !(thinkingField message).truthy || turnsReadable messages)
      else turnsReadable messages

def continuous (messages : List Value) : Bool :=
  messages.all fun message => !usesTools message || (thinkingField message).truthy

theorem hasReasoningContinuity_mapping (fields : Fields) (messages : List Value) :
    hasReasoningContinuity (.Mapping fields :: messages) =
      if isAssistant (.Mapping fields) then do
        let _ ← coerceBlocks (contentField (.Mapping fields))
        if usesTools (.Mapping fields) && !(thinkingField (.Mapping fields)).truthy then
          return false
        else hasReasoningContinuity messages
      else hasReasoningContinuity messages := by
  simp only [hasReasoningContinuity, getField_mapping, ok_bind]
  cases hrole : ((Value.lookup fields "role").getD .None).isStr "assistant" with
  | false => simp [isAssistant, hrole]
  | true =>
      simp only [isAssistant, hrole, Bool.not_true, Bool.false_eq_true, if_false, if_true]
      have huses : usesTools (.Mapping fields) =
          (blocksOf (contentField (.Mapping fields))).any (hasType "tool_use") := by
        rw [usesTools, hrole, Bool.true_and]
        rfl
      rw [huses]
      cases hblocks : coerceBlocks (contentField (.Mapping fields)) with
      | error error =>
          rw [contentField] at hblocks
          rw [hblocks]
          rfl
      | ok blocks =>
          have heq := coerceBlocks_ok hblocks
          rw [contentField] at hblocks
          rw [hblocks, ← heq, ok_bind, ok_bind]
          have hcalls : hasType "tool_use" = fun block => match block with
              | .Mapping entries => ((Value.lookup entries "type").getD .None).isStr "tool_use"
              | _ => false := by
            funext block
            cases block <;> rfl
          rw [hcalls]
          rfl

theorem hasReasoningContinuity_finds (messages : List Value) :
    Finds Refusal (hasReasoningContinuity messages) (.check (turnsReadable messages)) := by
  induction messages with
  | nil => exact .pure _
  | cons message messages ih =>
      cases message with
      | Mapping fields =>
          rw [hasReasoningContinuity_mapping, turnsReadable]
          cases isAssistant (.Mapping fields) with
          | false => exact ih
          | true =>
              rw [if_pos rfl, if_pos rfl, Finding.check_and]
              refine (coerceBlocks_finds _).bind fun _ _ => ?_
              cases usesTools (.Mapping fields) && !(thinkingField (.Mapping fields)).truthy with
              | true => exact .pure _
              | false => exact ih
      | _ => exact ih

theorem hasReasoningContinuity_ok {messages : List Value} {enabled : Bool}
    (h : hasReasoningContinuity messages = .ok enabled) : enabled = continuous messages := by
  induction messages with
  | nil =>
      cases h
      rfl
  | cons message messages ih =>
      cases message with
      | Mapping fields =>
          rw [hasReasoningContinuity_mapping] at h
          rw [continuous, List.all_cons]
          cases hassistant : isAssistant (.Mapping fields) with
          | false =>
              rw [hassistant] at h
              have huses : usesTools (.Mapping fields) = false := by
                simp only [isAssistant] at hassistant
                simp [usesTools, hassistant]
              rw [huses]
              exact ih h
          | true =>
              rw [hassistant, if_pos rfl] at h
              obtain ⟨blocks, -, h⟩ := bind_eq_ok.mp h
              cases hlost : usesTools (.Mapping fields) &&
                !(thinkingField (.Mapping fields)).truthy with
              | true =>
                  rw [hlost] at h
                  cases h
                  simp only [Bool.and_eq_true, Bool.not_eq_true'] at hlost
                  rw [hlost.1, hlost.2]
                  rfl
              | false =>
                  rw [hlost] at h
                  rw [ih h]
                  have hkept : (!usesTools (.Mapping fields) ||
                      (thinkingField (.Mapping fields)).truthy) = true := by
                    cases huses : usesTools (.Mapping fields) with
                    | false => rfl
                    | true => simpa [huses] using hlost
                  rw [hkept]
                  rfl
      | _ => exact ih h

def systemReadable : Value → Bool
  | .None | .Str _ => true
  | .Sequence blocks => blocks.all fun block =>
      match block with
      | .Str _ | .Mapping _ => true
      | _ => false
  | _ => false

theorem normalizeSystemBlocks_finds (system : Value) :
    Finds Refusal (normalizeSystemBlocks python system) (.check (systemReadable system)) := by
  cases system with
  | None | Str _ => exact .pure _
  | Sequence blocks =>
      rw [systemReadable, ← Finding.all_check]
      refine Finds.mapM (fun block => ?_) blocks
      cases block with
      | Str s => exact .pure _
      | Mapping fields =>
          simp only [normalizeSystemBlock, getField_mapping, getText_mapping, ok_bind]
          split_ifs <;> exact .pure _
      | _ => exact finds_invalidContent _
  | _ => exact finds_invalidContent _

def stopSequencesReadable (stopSequences : Value) : Bool :=
  stopSequences.isNone || iterable stopSequences

theorem configEntry_finds (fields : Fields) (key name : String) :
    Finds Refusal (configEntry (.Mapping fields) key name) .fine := by
  simp only [configEntry, getField_mapping, ok_bind]
  split_ifs <;> exact .pure _

theorem toList_finds (value : Value) : Finds Refusal (toList value) (.rely (iterable value)) :=
  finds_raising.bind_ok fun _ => ⟨_, rfl⟩

theorem buildInferenceConfig_finds (fields : Fields) :
    Finds Refusal (buildInferenceConfig (.Mapping fields))
      (.rely (stopSequencesReadable ((Value.lookup fields "stop_sequences").getD .None))) := by
  rw [← Finding.fine_andThen (Finding.rely _)]
  refine (configEntry_finds fields _ _).bind fun _ _ => Finds.bind_ok ?_ fun _ => ?_
  · simp only [configEntry, getField_mapping, ok_bind, stopSequencesReadable]
    cases ((Value.lookup fields "stop_sequences").getD .None).isNone with
    | true => exact .pure _
    | false => exact (toList_finds _).bind_ok fun _ => ⟨_, rfl⟩
  · obtain ⟨temperature, htemperature⟩ := configEntry_finds fields "temperature" "temperature"
    obtain ⟨topP, htopP⟩ := configEntry_finds fields "top_p" "topP"
    rw [htemperature, htopP]
    exact ⟨_, rfl⟩

-- A tool is a dictionary, and its schema something that `dict` takes.
def toolReadable : Value → Bool
  | .Mapping fields =>
      (toDict ((Value.lookup fields "input_schema").getD
        (.Mapping [("type", .Str "object")]))).toOption.isSome
  | _ => false

theorem toolSpec_finds (tool : Value) :
    Finds Refusal (toolSpec python tool) (.rely (toolReadable tool)) := by
  cases tool with
  | Mapping fields =>
      simp only [toolSpec, getField_mapping, getText_mapping, ok_bind, normalizeSchema,
        toolReadable, bind_assoc]
      exact finds_raising.bind_ok fun _ => ⟨_, rfl⟩
  | _ => exact .error (not_refusal_ofPython .AttributeError)

def toolsReadable (tools : Value) : Bool :=
  !tools.truthy || iterable tools && (itemsOf tools).all toolReadable

theorem mapToolChoice_finds (toolChoice : Value) (reasoningEnabled : Bool) :
    Finds Refusal (mapToolChoice python toolChoice reasoningEnabled) .fine := by
  unfold mapToolChoice
  split_ifs with hnone hauto
  · exact .pure _
  · exact .pure _
  · cases toolChoice with
    | Mapping fields =>
        simp only [getField_mapping, getText_mapping, ok_bind]
        split_ifs <;> exact .pure _
    | _ => simp [Value.isMapping] at hauto

theorem buildToolConfig_finds (fields : Fields) (reasoningEnabled : Bool) :
    Finds Refusal (buildToolConfig python (.Mapping fields) reasoningEnabled)
      (.rely (toolsReadable ((Value.lookup fields "tools").getD .None))) := by
  simp only [buildToolConfig, getField_mapping, ok_bind, toolsReadable]
  generalize (Value.lookup fields "tools").getD .None = tools
  generalize (Value.lookup fields "tool_choice").getD .None = toolChoice
  obtain ⟨choice, hchoice⟩ := mapToolChoice_finds python toolChoice reasoningEnabled
  simp only [hchoice, ok_bind]
  cases htruthy : tools.truthy with
  | false =>
      rw [Value.orElse, htruthy]
      cases toolChoice.isNone <;> exact .pure _
  | true =>
      rw [Value.orElse, htruthy, if_pos rfl, htruthy, Bool.not_true, Bool.false_or,
        Finding.rely_and, ← Finding.all_rely]
      exact iterate_finds ((Finds.mapM (toolSpec_finds python) _).bind_ok fun _ => ⟨_, rfl⟩)

def outputReadable (fields : Fields) (resolvedModel : ResolvedModel) : Bool :=
  match (Value.lookup fields "response_format").getD .None with
  | .None => true
  | .Mapping format =>
      !((Value.lookup format "type").getD .None).isStr "json_object" &&
        resolvedModel.capabilities.supportsNativeStructuredOutput &&
        match (Value.lookup format "json_schema").getD .None with
        | .Mapping jsonSchema => ((Value.lookup jsonSchema "schema").getD .None).isMapping
        | _ => false
  | _ => false

theorem buildOutputConfig_finds (fields : Fields) (resolvedModel : ResolvedModel) :
    Finds Refusal (buildOutputConfig (.Mapping fields) resolvedModel)
      (.check (outputReadable fields resolvedModel)) := by
  simp only [buildOutputConfig, getField_mapping, ok_bind, outputReadable]
  cases (Value.lookup fields "response_format").getD .None with
  | None => exact .pure _
  | Mapping format =>
      simp only [Value.isNone, Value.isMapping, Bool.false_eq_true, if_false, Bool.not_true,
        getField_mapping, ok_bind]
      cases ((Value.lookup format "type").getD .None).isStr "json_object" with
      | true => exact .refuse ⟨_, _, rfl⟩
      | false =>
          cases (Value.lookup format "json_schema").getD .None with
          | Mapping jsonSchema =>
              simp only [getField_mapping, ok_bind]
              cases resolvedModel.capabilities.supportsNativeStructuredOutput with
              | false => exact .refuse ⟨_, _, rfl⟩
              | true =>
                  cases (Value.lookup jsonSchema "schema").getD .None with
                  | Mapping schema =>
                      obtain ⟨name, hname⟩ := configEntry_finds jsonSchema "name" "name"
                      obtain ⟨description, hdescription⟩ :=
                        configEntry_finds jsonSchema "description" "description"
                      simp only [hname, hdescription, ok_bind]
                      exact .pure _
                  | _ => exact .refuse ⟨_, _, rfl⟩
          | _ =>
              cases resolvedModel.capabilities.supportsNativeStructuredOutput <;>
                exact .refuse ⟨_, _, rfl⟩
  | _ => exact .refuse ⟨_, _, rfl⟩

-- What the request asks the model to think, if it asks for it and the model can.
def reasoningRequested (fields : Fields) (resolvedModel : ResolvedModel) : Bool :=
  resolvedModel.capabilities.supportsReasoning &&
    !(((Value.lookup fields "thinking").getD .None).isNone &&
      ((Value.lookup fields "reasoning_effort").getD .None).isNone)

def budgetReadable (fields : Fields) (resolvedModel : ResolvedModel) : Bool :=
  match (Value.lookup fields "thinking").getD .None with
  | .Mapping thinking =>
      let budgetTokens := (Value.lookup thinking "budget_tokens").getD .None
      !resolvedModel.capabilities.supportsReasoning || budgetTokens.isNone ||
        (budgetTokens.toInt python).toOption.isSome
  | _ => true

theorem normalizeReasoningRequest_finds (fields : Fields) (resolvedModel : ResolvedModel) :
    Finds Refusal (normalizeReasoningRequest python (.Mapping fields) resolvedModel)
      (.rely (budgetReadable python fields resolvedModel)) := by
  simp only [normalizeReasoningRequest, getField_mapping, ok_bind, budgetReadable]
  generalize (Value.lookup fields "thinking").getD .None = thinking
  generalize (Value.lookup fields "reasoning_effort").getD .None = effort
  cases resolvedModel.capabilities.supportsReasoning with
  | false => cases thinking <;> exact .pure _
  | true =>
      cases thinking with
      | Mapping thinking =>
          simp only [getField_mapping, Value.isMapping, if_true, ok_bind]
          cases ((Value.lookup thinking "budget_tokens").getD .None).isNone with
          | true => cases effort <;> exact .pure _
          | false => exact finds_raising.bind_ok fun _ => ⟨_, rfl⟩
      | _ => cases effort <;> exact .pure _

theorem normalizeReasoningRequest_isSome {fields : Fields} {resolvedModel : ResolvedModel}
    {requested : Option Value}
    (h : normalizeReasoningRequest python (.Mapping fields) resolvedModel = .ok requested) :
    requested.isSome = reasoningRequested fields resolvedModel := by
  simp only [normalizeReasoningRequest, getField_mapping, ok_bind] at h
  simp only [reasoningRequested]
  generalize (Value.lookup fields "thinking").getD .None = thinking at h ⊢
  generalize (Value.lookup fields "reasoning_effort").getD .None = effort at h ⊢
  cases hcapable : resolvedModel.capabilities.supportsReasoning with
  | false =>
      rw [hcapable] at h
      cases h
      rfl
  | true =>
      rw [hcapable] at h
      cases thinking with
      | Mapping thinking =>
          simp only [getField_mapping, Value.isMapping, if_true, ok_bind] at h
          cases hgiven : ((Value.lookup thinking "budget_tokens").getD .None).isNone with
          | true =>
              rw [hgiven] at h
              cases effort <;> cases h <;> rfl
          | false =>
              rw [hgiven] at h
              obtain ⟨budget, -, h⟩ := bind_eq_ok.mp h
              cases h
              rfl
      | _ => cases effort <;> cases h <;> rfl

end Sections

section Requests

variable (python : Interpreter)

-- The turns are read once more, before the others, if the model is to reason.
def historyFinding (messages : Value) : Finding :=
  (Finding.rely (iterable (messages.orElse (.Sequence [])))).andThen
    (.check (turnsReadable (itemsOf messages)))

theorem itemsOf_orElse (messages : Value) :
    itemsOf (messages.orElse (.Sequence [])) = itemsOf messages := by
  unfold itemsOf
  cases hitems : messages.iterate with
  | ok items => rw [iterate_orElse hitems]
  | error exception =>
      -- what cannot be gone through has no items, whether or not it counts as empty
      cases messages with
      | None => rfl
      | Boolean b => cases b <;> rfl
      | Integer n => unfold Value.orElse; split_ifs <;> rfl
      | Float x => unfold Value.orElse; split_ifs <;> rfl
      | Dictionary entries => unfold Value.orElse; split_ifs <;> rfl
      | _ => cases hitems

theorem continuity_finds (fields : Fields) :
    Finds Refusal (continuity (.Mapping fields))
      (historyFinding ((Value.lookup fields "messages").getD (.Sequence []))) := by
  rw [historyFinding, ← itemsOf_orElse]
  exact iterate_finds (hasReasoningContinuity_finds _)

theorem continuity_ok {fields : Fields} {enabled : Bool}
    (h : continuity (.Mapping fields) = .ok enabled) :
    enabled = continuous (itemsOf ((Value.lookup fields "messages").getD (.Sequence []))) := by
  simp only [continuity, getField_mapping, ok_bind] at h
  obtain ⟨items, hitems, h⟩ := bind_eq_ok.mp h
  rw [hasReasoningContinuity_ok h, ← itemsOf_orElse, itemsOf, raising_eq_ok hitems]
  rfl

-- The first defect of a request, in the order in which the builder comes to its parts.
def requestFinding (fields : Fields) (resolvedModel : ResolvedModel) : Finding :=
  let messages := (Value.lookup fields "messages").getD (.Sequence [])
  let requested := reasoningRequested fields resolvedModel
  let enabled := requested && continuous (itemsOf messages)
  (Finding.rely (budgetReadable python fields resolvedModel)).andThen <|
    (if requested then historyFinding messages else .fine).andThen <|
    (messagesFinding python enabled messages).andThen <|
    (Finding.check (systemReadable ((Value.lookup fields "system").getD .None))).andThen <|
    (Finding.rely (stopSequencesReadable
      ((Value.lookup fields "stop_sequences").getD .None))).andThen <|
    (Finding.rely (toolsReadable ((Value.lookup fields "tools").getD .None))).andThen
    (.check (outputReadable fields resolvedModel))

theorem buildAdditionalModelRequestFields_finds (fields : Fields) (resolvedModel : ResolvedModel)
    (requestedReasoning : Option Value) :
    Finds Refusal
      (buildAdditionalModelRequestFields (.Mapping fields) resolvedModel requestedReasoning)
      .fine := ⟨_, rfl⟩

theorem assemble_finds (fields : Fields) (resolvedModel : ResolvedModel)
    (requestedReasoning : Option Value) (reasoningEnabled : Bool) :
    Finds Refusal (assemble python (.Mapping fields) resolvedModel requestedReasoning
        reasoningEnabled)
      ((messagesFinding python reasoningEnabled
          ((Value.lookup fields "messages").getD (.Sequence []))).andThen <|
        (Finding.check (systemReadable ((Value.lookup fields "system").getD .None))).andThen <|
        (Finding.rely (stopSequencesReadable
          ((Value.lookup fields "stop_sequences").getD .None))).andThen <|
        (Finding.rely (toolsReadable ((Value.lookup fields "tools").getD .None))).andThen
        (.check (outputReadable fields resolvedModel))) := by
  simp only [assemble, requestMessages, getField_mapping, ok_bind, messagesFinding,
    Finding.andThen_assoc]
  refine iterate_finds ((Finds.mapM (normalizeMessage_finds python _) _).bind fun _ _ => ?_)
  refine (normalizeSystemBlocks_finds python _).bind fun _ _ => ?_
  refine (buildInferenceConfig_finds fields).bind fun _ _ => ?_
  refine (buildToolConfig_finds python fields _).bind fun _ _ => ?_
  rw [← Finding.fine_andThen (Finding.check _)]
  refine (buildAdditionalModelRequestFields_finds fields resolvedModel _).bind fun _ _ => ?_
  exact (buildOutputConfig_finds fields resolvedModel).bind_ok fun _ => ⟨_, rfl⟩

theorem buildConverseRequest_finds (fields : Fields) (resolvedModel : ResolvedModel) :
    Finds Refusal (buildConverseRequest python (.Mapping fields) resolvedModel)
      (requestFinding python fields resolvedModel) := by
  rw [buildConverseRequest_eq]
  refine (normalizeReasoningRequest_finds python fields resolvedModel).bind fun requested hok => ?_
  rw [normalizeReasoningRequest_isSome python hok]
  cases reasoningRequested fields resolvedModel with
  | false => exact assemble_finds python fields resolvedModel requested false
  | true =>
      refine (continuity_finds fields).bind fun enabled henabled => ?_
      rw [continuity_ok henabled]
      exact assemble_finds python fields resolvedModel requested _

-- An assistant turn is refused when it is looked through for calls of tools.
def historyRefused (fields : Fields) (resolvedModel : ResolvedModel) : Bool :=
  reasoningRequested fields resolvedModel &&
    !turnsReadable (itemsOf ((Value.lookup fields "messages").getD (.Sequence [])))

-- What is used without a check can be used, or comes after something that is refused.
structure FirstDefectRefused (fields : Fields) (resolvedModel : ResolvedModel) : Prop where
  budget : budgetReadable python fields resolvedModel = true
  messages : historyRefused fields resolvedModel = false →
    iterable ((Value.lookup fields "messages").getD (.Sequence [])) = true
  blocks : historyRefused fields resolvedModel = false →
    let items := itemsOf ((Value.lookup fields "messages").getD (.Sequence []))
    let finding := messageFinding python
      (reasoningRequested fields resolvedModel && continuous items)
    ∀ earlier message later, items = earlier ++ message :: later → finding message = .unchecked →
      ∃ other ∈ earlier, finding other = .refused
  sections : historyRefused fields resolvedModel = false →
    let items := itemsOf ((Value.lookup fields "messages").getD (.Sequence []))
    let finding := messageFinding python
      (reasoningRequested fields resolvedModel && continuous items)
    (∀ message ∈ items, finding message = .fine) →
    systemReadable ((Value.lookup fields "system").getD .None) = true →
      stopSequencesReadable ((Value.lookup fields "stop_sequences").getD .None) = true ∧
        toolsReadable ((Value.lookup fields "tools").getD .None) = true

theorem iterable_orElse {messages : Value} (h : iterable messages = true) :
    iterable (messages.orElse (.Sequence [])) = true := by
  unfold iterable at h ⊢
  cases hitems : messages.iterate with
  | ok items => rw [iterate_orElse hitems]; rfl
  | error exception =>
      rw [hitems] at h
      cases h

theorem iterable_of_unreadable {messages : Value}
    (h : turnsReadable (itemsOf messages) = false) : iterable messages = true := by
  unfold iterable
  unfold itemsOf at h
  cases hitems : messages.iterate with
  | ok items => rfl
  | error exception =>
      rw [hitems] at h
      cases h

theorem messagesFinding_ne_unchecked_iff {enabled : Bool} {messages : Value} {next : Finding} :
    (messagesFinding python enabled messages).andThen next ≠ .unchecked ↔
      iterable messages = true ∧
      (∀ earlier message later, itemsOf messages = earlier ++ message :: later →
        messageFinding python enabled message = .unchecked →
          ∃ other ∈ earlier, messageFinding python enabled other = .refused) ∧
      ((∀ message ∈ itemsOf messages, messageFinding python enabled message = .fine) →
        next ≠ .unchecked) := by
  rw [messagesFinding, Finding.andThen_assoc, Finding.andThen_ne_unchecked_iff,
    Finding.rely_ne_unchecked_iff, Finding.rely_eq_fine_iff, Finding.andThen_ne_unchecked_iff,
    Finding.all_ne_unchecked_iff, Finding.all_eq_fine_iff]
  exact and_congr_right fun h => forall_prop_of_true h

theorem historyFinding_ne_unchecked_iff {requested : Bool} {messages : Value} {next : Finding}
    (hnext : next ≠ .unchecked → iterable messages = true) :
    (if requested then historyFinding messages else .fine).andThen next ≠ .unchecked ↔
      ((requested && !turnsReadable (itemsOf messages)) = false → next ≠ .unchecked) := by
  cases requested with
  | false => exact ⟨fun h _ => h, fun h => h rfl⟩
  | true =>
      rw [if_pos rfl, historyFinding, Finding.andThen_assoc, Finding.andThen_ne_unchecked_iff,
        Finding.rely_ne_unchecked_iff, Finding.rely_eq_fine_iff, Finding.andThen_ne_unchecked_iff,
        Finding.check_eq_fine_iff, Bool.true_and, Bool.not_eq_false']
      constructor
      · rintro ⟨hiterable, h⟩ hreadable
        exact (h hiterable).2 hreadable
      · intro h
        have hiterable : iterable messages = true := by
          by_cases hreadable : turnsReadable (itemsOf messages) = true
          · exact hnext (h hreadable)
          · exact iterable_of_unreadable (Bool.eq_false_of_not_eq_true hreadable)
        exact ⟨iterable_orElse hiterable, fun _ => ⟨Finding.check_ne_unchecked _, h⟩⟩

theorem sections_ne_unchecked_iff {system stop tools output : Bool} :
    ((Finding.check system).andThen <| (Finding.rely stop).andThen <|
        (Finding.rely tools).andThen (.check output)) ≠ .unchecked ↔
      (system = true → stop = true ∧ tools = true) := by
  cases system <;> cases stop <;> cases tools <;> cases output <;> decide

theorem requestFinding_ne_unchecked_iff {fields : Fields} {resolvedModel : ResolvedModel} :
    requestFinding python fields resolvedModel ≠ .unchecked ↔
      FirstDefectRefused python fields resolvedModel := by
  simp only [requestFinding]
  rw [Finding.andThen_ne_unchecked_iff, Finding.rely_ne_unchecked_iff, Finding.rely_eq_fine_iff,
    historyFinding_ne_unchecked_iff fun h => ((messagesFinding_ne_unchecked_iff python).mp h).1,
    messagesFinding_ne_unchecked_iff, sections_ne_unchecked_iff]
  constructor
  · rintro ⟨hbudget, h⟩
    exact ⟨hbudget, fun hhistory => (h hbudget hhistory).1,
      fun hhistory => (h hbudget hhistory).2.1, fun hhistory => (h hbudget hhistory).2.2⟩
  · intro h
    exact ⟨h.budget, fun _ hhistory =>
      ⟨h.messages hhistory, h.blocks hhistory, h.sections hhistory⟩⟩

-- The status and the type of the error that a client is told of.
def ClientError (error : ServiceError) : Prop :=
  error.statusCode = 400 ∧ errorType error.code = ANTHROPIC_INVALID_REQUEST_ERROR

theorem Refusal.clientError {error : Failure} (h : Refusal error) (requestId : String) :
    ClientError (normalizeException error requestId) := by
  obtain ⟨reason, message, rfl⟩ := h
  exact ⟨rfl, rfl⟩

-- A request is answered or refused, in the words of the builder and as the fault of the
-- client, exactly if its first defect is one that the builder looks for.
theorem malformed_request_refused_iff (fields : Fields) (resolvedModel : ResolvedModel) :
    (∀ error, buildConverseRequest python (.Mapping fields) resolvedModel = .error error →
      Refusal error ∧ ∀ requestId, ClientError (normalizeException error requestId)) ↔
      FirstDefectRefused python fields resolvedModel := by
  rw [← requestFinding_ne_unchecked_iff,
    ← (buildConverseRequest_finds python fields resolvedModel).checked_iff]
  exact ⟨fun h error herror => (h error herror).1,
    fun h error herror => ⟨h error herror, (h error herror).clientError⟩⟩

end Requests

-- Messages that are not there at all, but `null`, are blamed on the upstream.
theorem null_messages_blamed_on_upstream :
    buildConverseRequest samplePython (.Mapping [("messages", .None)]) (sampleModel true) =
        .error (.Raised "TypeError") ∧
      ¬Refusal (.Raised "TypeError") ∧
      (normalizeException (.Raised "TypeError") "req-1").statusCode = 502 :=
  ⟨by decide, not_refusal_ofPython .TypeError, rfl⟩

end ClaudeCodeProxy
