import ClaudeCodeProxy.Proxy.BedrockConverse.RequestBuilder

-- The builder refuses a request in its own words, or fails with an exception of the
-- language. It raises no service error.

namespace ClaudeCodeProxy

open Python

namespace RequestBuilder

variable (python : Interpreter)

@[simp] theorem unserviced_getField (value : Value) (key : String) (default : Value) :
    Unserviced (getField value key default) := unserviced_raising _

@[simp] theorem unserviced_getText (value : Value) (key : String) :
    Unserviced (getText python value key) := by simp [getText]

@[simp] theorem unserviced_normalizeSystemBlock (block : Value) :
    Unserviced (normalizeSystemBlock python block) := by
  cases block <;> simp [normalizeSystemBlock, invalidContent]

@[simp] theorem unserviced_normalizeSystemBlocks (system : Value) :
    Unserviced (normalizeSystemBlocks python system) := by
  cases system <;> simp [normalizeSystemBlocks, invalidContent, unserviced_mapM]

@[simp] theorem unserviced_coerceBlocks (content : Value) : Unserviced (coerceBlocks content) := by
  cases content <;> simp [coerceBlocks, invalidContent]

@[simp] theorem unserviced_normalizeToolResultBlock (block : Value) :
    Unserviced (normalizeToolResultBlock python block) := by
  cases block <;> simp [normalizeToolResultBlock, invalidContent]

@[simp] theorem unserviced_normalizeToolResultContent (content : Value) :
    Unserviced (normalizeToolResultContent python content) := by
  cases content <;> simp [normalizeToolResultContent, unserviced_mapM]

@[simp] theorem unserviced_normalizeThinkingBlock (block : Value) :
    Unserviced (normalizeThinkingBlock python block) := by
  cases block <;> simp [normalizeThinkingBlock, invalidContent]

@[simp] theorem unserviced_normalizeThinkingBlocks (thinkingBlocks : Value) :
    Unserviced (normalizeThinkingBlocks python thinkingBlocks) := by
  simp [normalizeThinkingBlocks, unserviced_mapM]

@[simp] theorem unserviced_normalizeContentBlock (role : String) (block : Value) :
    Unserviced (normalizeContentBlock python role block) := by
  cases block <;> simp [normalizeContentBlock, invalidContent]

@[simp] theorem unserviced_normalizeContentBlocks (content : Value) (role : String)
    (thinkingBlocks : Value) :
    Unserviced (normalizeContentBlocks python content role thinkingBlocks) := by
  simp [normalizeContentBlocks, unserviced_mapM]

@[simp] theorem unserviced_normalizeMessage (includeThinkingBlocks : Bool) (rawMessage : Value) :
    Unserviced (normalizeMessage python includeThinkingBlocks rawMessage) := by
  simp [normalizeMessage, invalidContent]

@[simp] theorem unserviced_normalizeMessages (messages : Value) (includeThinkingBlocks : Bool) :
    Unserviced (normalizeMessages python messages includeThinkingBlocks) := by
  simp [normalizeMessages, unserviced_mapM]

theorem unserviced_configEntry (request : Value) (key name : String)
    (convert : Value → Except Failure Value) (h : ∀ value, Unserviced (convert value)) :
    Unserviced (configEntry request key name convert) := by
  simp [configEntry, h]

@[simp] theorem unserviced_buildInferenceConfig (request : Value) :
    Unserviced (buildInferenceConfig request) := by
  simp [buildInferenceConfig, unserviced_configEntry, toList]

@[simp] theorem unserviced_toolSpec (tool : Value) : Unserviced (toolSpec python tool) := by
  simp [toolSpec, normalizeSchema]

@[simp] theorem unserviced_mapToolChoice (toolChoice : Value) (reasoningEnabled : Bool) :
    Unserviced (mapToolChoice python toolChoice reasoningEnabled) := by
  simp [mapToolChoice]

@[simp] theorem unserviced_buildToolConfig (request : Value) (reasoningEnabled : Bool) :
    Unserviced (buildToolConfig python request reasoningEnabled) := by
  simp [buildToolConfig, unserviced_mapM]

@[simp] theorem unserviced_buildAdditionalModelRequestFields (request : Value)
    (resolvedModel : ResolvedModel) (requestedReasoning : Option Value) :
    Unserviced (buildAdditionalModelRequestFields request resolvedModel requestedReasoning) := by
  simp [buildAdditionalModelRequestFields]

@[simp] theorem unserviced_normalizeReasoningRequest (request : Value)
    (resolvedModel : ResolvedModel) :
    Unserviced (normalizeReasoningRequest python request resolvedModel) := by
  simp only [normalizeReasoningRequest, unserviced_ite, unserviced_bind, unserviced_getField]
  refine ⟨fun _ => unserviced_pure none, fun _ => ⟨trivial, fun thinking _ => ⟨trivial, ?_⟩⟩⟩
  intro reasoningEffort _
  cases reasoningEffort <;> simp

@[simp] theorem unserviced_buildOutputConfig (request : Value) (resolvedModel : ResolvedModel) :
    Unserviced (buildOutputConfig request resolvedModel) := by
  simp [buildOutputConfig, structuredOutputNotSupported, normalizeSchema, unserviced_configEntry]

@[simp] theorem unserviced_hasReasoningContinuity (rawMessages : List Value) :
    Unserviced (hasReasoningContinuity rawMessages) := by
  induction rawMessages with
  | nil => simp [hasReasoningContinuity]
  | cons rawMessage rawMessages ih =>
      cases rawMessage <;> simp [hasReasoningContinuity, ih]

end RequestBuilder

theorem buildConverseRequest_unserviced (python : Interpreter) (request : Value)
    (resolvedModel : ResolvedModel) :
    Unserviced (buildConverseRequest python request resolvedModel) := by
  simp [buildConverseRequest]

end ClaudeCodeProxy
