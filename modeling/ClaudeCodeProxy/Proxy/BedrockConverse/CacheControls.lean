import ClaudeCodeProxy.Proxy.BedrockConverse.MalformedRequests
import ClaudeCodeProxy.Proxy.BedrockConverse.Noninterference

-- Where the cache controls of a request get into the request that is sent.

namespace ClaudeCodeProxy

open Lists Python RequestBuilder

section Controls

def fieldOf (value : Value) (key : String) : Value :=
  match value with
  | .Mapping fields => (Value.lookup fields key).getD .None
  | _ => .None

def hasCacheControl : Value → Bool
  | .Mapping fields => (Value.lookup fields "cache_control").isSome
  | _ => false

def MEDIA_TYPES : List String := ["image", "document"]

-- A block that is sent carries the control itself, or in its image or document.
def carriesCacheControl (block : Value) : Bool :=
  hasCacheControl block || MEDIA_TYPES.any fun kind => hasCacheControl (fieldOf block kind)

structure CacheControlFree (payload : Value) : Prop where
  system : ∀ block ∈ itemsOf (fieldOf payload "system"), hasCacheControl block = false
  content : ∀ message ∈ itemsOf (fieldOf payload "messages"),
    ∀ block ∈ itemsOf (fieldOf message "content"), carriesCacheControl block = false

-- The builder puts together anew the blocks of the request that have a control.
structure ControlsRebuilt (request : Value) : Prop where
  system : ∀ block ∈ itemsOf (fieldOf request "system"), hasCacheControl block = true →
    hasType "text" block = true
  content : ∀ message ∈ itemsOf (fieldOf request "messages"),
    ∀ block ∈ itemsOf (fieldOf message "content"), hasCacheControl block = true →
      ∀ kind ∈ MEDIA_TYPES, hasType kind block = false

end Controls

section Removal

def mapItems (change : Value → Value) : Value → Value
  | .Sequence items => .Sequence (items.map change)
  | value => value

def adjustField (key : String) (change : Value → Value) : Value → Value
  | .Mapping fields => .Mapping (Value.adjusted key change fields)
  | value => value

def withoutControl : Value → Value := erased ["cache_control"]

-- The result of a tool has blocks of its own.
def withoutControls (block : Value) : Value :=
  if hasType "tool_result" block then
    adjustField "content" (mapItems withoutControl) (withoutControl block)
  else withoutControl block

def withoutCacheControl (request : Value) : Value :=
  adjustField "messages" (mapItems (adjustField "content" (mapItems withoutControls)))
    (adjustField "system" (mapItems withoutControl) request)

theorem getField_adjustField {key other : String} {change : Value → Value} {value : Value}
    (h : other ≠ key) (default : Value) :
    getField (adjustField key change value) other default = getField value other default := by
  cases value with
  | Mapping fields => simp [adjustField, getField, Value.lookup_adjusted, h]
  | _ => rfl

theorem agreeOn_withoutCacheControl {keys : List String} {request : Value}
    (h : ∀ key ∈ keys, key ∉ ["messages", "system"]) :
    AgreeOn keys (withoutCacheControl request) request := by
  intro key hkey default
  have hother := h key hkey
  simp only [List.mem_cons, List.not_mem_nil, or_false, not_or] at hother
  rw [withoutCacheControl, getField_adjustField hother.1, getField_adjustField hother.2]

theorem without_eq_self {key : String} {fields : Fields} (h : Value.lookup fields key = none) :
    Value.without [key] fields = fields := by
  apply List.filter_eq_self.mpr
  intro entry hm
  have hne : entry.1 ≠ key := by
    rintro rfl
    have hsome := Value.lookup_isSome_of_mem hm
    rw [h] at hsome
    cases hsome
  simp [hne]

theorem withoutControl_of_none {block : Value} (h : hasCacheControl block = false) :
    withoutControl block = block := by
  cases block with
  | Mapping fields =>
      have hnone : Value.lookup fields "cache_control" = none := by
        simpa [hasCacheControl] using h
      exact congrArg Value.Mapping (without_eq_self hnone)
  | _ => rfl

theorem hasType_withoutControls (kind : String) (block : Value) :
    hasType kind (withoutControls block) = hasType kind block := by
  cases block with
  | Mapping fields =>
      unfold withoutControls
      split_ifs <;>
        simp [withoutControl, erased, adjustField, hasType, Value.lookup_adjusted,
          Value.lookup_without]
  | _ => rfl

end Removal

section Blocks

variable {python : Interpreter} {text : Fields → String → Value} {role : String}
  {block rendered : Value}

theorem not_media_of_type {fields : Fields} {name : String}
    (htype : Value.lookup fields "type" = some (.Str name)) (hname : name ∉ MEDIA_TYPES) :
    ¬∃ kind ∈ MEDIA_TYPES, hasType kind (.Mapping fields) = true := by
  rintro ⟨kind, hkind, hmedia⟩
  rw [hasType_mapping, htype] at hmedia
  cases hmedia
  exact hname hkind

-- Of the blocks with a control, only images and documents keep it.
theorem BlockRendered.carries_iff (h : BlockRendered text role block rendered) :
    carriesCacheControl rendered = true ↔
      hasCacheControl block = true ∧ ∃ kind ∈ MEDIA_TYPES, hasType kind block = true := by
  cases h with
  | Str s =>
      refine iff_of_false ?_ fun h => by cases h.1
      simp [carriesCacheControl, textBlock, hasCacheControl, fieldOf, MEDIA_TYPES,
        Value.lookup_cons]
  | Text htype =>
      refine iff_of_false ?_ fun h => not_media_of_type htype (by decide) h.2
      simp [carriesCacheControl, textBlock, hasCacheControl, fieldOf, MEDIA_TYPES,
        Value.lookup_cons]
  | ToolUse htype hrole =>
      refine iff_of_false ?_ fun h => not_media_of_type htype (by decide) h.2
      simp [carriesCacheControl, hasCacheControl, fieldOf, MEDIA_TYPES, Value.lookup_cons]
  | ToolResult htype hrole hinner =>
      refine iff_of_false ?_ fun h => not_media_of_type htype (by decide) h.2
      simp [carriesCacheControl, hasCacheControl, fieldOf, MEDIA_TYPES, Value.lookup_cons]
  | @Media fields kind htype hkind =>
      have hmedia : ∃ kind ∈ MEDIA_TYPES, hasType kind (.Mapping fields) = true :=
        ⟨kind, hkind, hasType_mapping.mpr htype⟩
      rw [and_iff_left hmedia]
      simp only [List.mem_cons, List.not_mem_nil, or_false] at hkind
      rcases hkind with rfl | rfl <;>
        simp [carriesCacheControl, hasCacheControl, fieldOf, MEDIA_TYPES, Value.lookup_cons,
          Value.lookup_without]

theorem ThinkingRendered.not_carries (h : ThinkingRendered text block rendered) :
    carriesCacheControl rendered = false := by
  cases h
  rfl

theorem normalizeSystemBlock_control (h : normalizeSystemBlock python block = .ok rendered) :
    hasCacheControl rendered = true ↔
      hasCacheControl block = true ∧ hasType "text" block = false := by
  cases block with
  | Str s =>
      cases h
      exact iff_of_false (by simp [textBlock, hasCacheControl, Value.lookup_cons])
        fun h => by cases h.1
  | Mapping fields =>
      simp only [normalizeSystemBlock, getField_mapping, getText_mapping, ok_bind] at h
      have htype : hasType "text" (.Mapping fields) =
          ((Value.lookup fields "type").getD .None).isStr "text" := rfl
      rw [← htype] at h
      cases htext : hasType "text" (.Mapping fields) with
      | true =>
          rw [htext] at h
          cases h
          exact iff_of_false (by simp [textBlock, hasCacheControl, Value.lookup_cons])
            fun h => by cases h.2
      | false =>
          rw [htext] at h
          cases h
          exact (and_iff_left rfl).symm
  | _ => cases h

theorem normalizeSystemBlock_withoutControl
    (h : normalizeSystemBlock python block = .ok rendered)
    (hrebuilt : hasCacheControl block = true → hasType "text" block = true) :
    normalizeSystemBlock python (withoutControl block) = .ok rendered := by
  cases hcontrol : hasCacheControl block with
  | false =>
      rw [withoutControl_of_none hcontrol]
      exact h
  | true =>
      have htext := hrebuilt hcontrol
      cases block with
      | Mapping fields =>
          rw [hasType_mapping] at htext
          simp only [withoutControl, erased, normalizeSystemBlock, getField_mapping,
            getText_mapping, ok_bind, printedText, writtenText, Value.lookup_without, htext] at h ⊢
          exact h
      | _ => cases hcontrol

theorem ResultBlockRendered.withoutControl
    (h : ResultBlockRendered (printedText python) block rendered) :
    ResultBlockRendered (printedText python) (ClaudeCodeProxy.withoutControl block) rendered := by
  cases h with
  | Str s => exact .Str s
  | @Text fields htype =>
      have hsame : printedText python (Value.without ["cache_control"] fields) "text" =
          printedText python fields "text" := by
        simp [printedText, writtenText, Value.lookup_without]
      rw [← hsame]
      exact .Text (by simp [Value.lookup_without, htype])
  | @Json fields htype =>
      have hsame : Value.lookup (Value.without ["cache_control"] fields) "json" =
          Value.lookup fields "json" := by
        simp [Value.lookup_without]
      rw [← hsame]
      exact .Json (by simp [Value.lookup_without, htype])

theorem normalizeToolResultContent_withoutControl {content : Value} {inner : List Value}
    (h : normalizeToolResultContent python content = .ok inner) :
    normalizeToolResultContent python (mapItems withoutControl content) = .ok inner := by
  cases content with
  | Sequence blocks =>
      refine mapM_eq_ok.mpr (List.forall₂_map_left_iff.mpr ?_)
      refine (mapM_eq_ok.mp h).imp fun block rendered hblock => ?_
      exact normalizeToolResultBlock_ok_iff.mpr
        (normalizeToolResultBlock_ok_iff.mp hblock).withoutControl
  | _ => exact h

theorem withoutControls_of_type {fields : Fields} {name : String}
    (htype : Value.lookup fields "type" = some (.Str name)) (hname : name ≠ "tool_result") :
    withoutControls (.Mapping fields) = .Mapping (Value.without ["cache_control"] fields) := by
  rw [withoutControls, if_neg]
  · rfl
  · rw [hasType_mapping, htype]
    simpa using hname

theorem printedText_without (fields : Fields) {key : String} (h : key ≠ "cache_control") :
    printedText python (Value.without ["cache_control"] fields) key =
      printedText python fields key := by
  simp [printedText, writtenText, Value.lookup_without, h]

theorem normalizeContentBlock_toolResult {fields : Fields}
    (htype : Value.lookup fields "type" = some (.Str "tool_result")) :
    normalizeContentBlock python "user" (.Mapping fields) = (do
      let inner ← normalizeToolResultContent python ((Value.lookup fields "content").getD .None)
      return .Mapping [("toolResult", .Mapping [
        ("toolUseId", printedText python fields "tool_use_id"),
        ("status", .Str (resultStatus fields)),
        ("content", .Sequence inner)])]) := by
  simp only [normalizeContentBlock, getField_mapping, getText_mapping, ok_bind, htype,
    Option.getD_some, Value.isStr]
  rfl

theorem normalizeToolResult_withoutControls {fields : Fields}
    (htype : Value.lookup fields "type" = some (.Str "tool_result"))
    (h : normalizeContentBlock python "user" (.Mapping fields) = .ok rendered) :
    normalizeContentBlock python "user" (withoutControls (.Mapping fields)) = .ok rendered := by
  have hbare : withoutControls (.Mapping fields) = .Mapping (Value.adjusted "content"
      (mapItems withoutControl) (Value.without ["cache_control"] fields)) := by
    rw [withoutControls, if_pos (hasType_mapping.mpr htype)]
    rfl
  rw [normalizeContentBlock_toolResult htype] at h
  obtain ⟨inner, hinner, h⟩ := bind_eq_ok.mp h
  rw [hbare, normalizeContentBlock_toolResult
    (by simp [Value.lookup_adjusted, Value.lookup_without, htype])]
  refine bind_eq_ok.mpr ⟨inner, ?_, ?_⟩
  · have hcontent := normalizeToolResultContent_withoutControl hinner
    cases hlookup : Value.lookup fields "content" with
    | none =>
        rw [hlookup] at hcontent
        simpa [mapItems, Value.lookup_adjusted, Value.lookup_without, hlookup] using hcontent
    | some content =>
        rw [hlookup] at hcontent
        simpa [Value.lookup_adjusted, Value.lookup_without, hlookup] using hcontent
  · rw [← h]
    simp [printedText, writtenText, resultStatus, Value.lookup_adjusted, Value.lookup_without]

theorem normalizeContentBlock_withoutControls
    (h : normalizeContentBlock python role block = .ok rendered)
    (hrebuilt : hasCacheControl block = true → ∀ kind ∈ MEDIA_TYPES, hasType kind block = false) :
    normalizeContentBlock python role (withoutControls block) = .ok rendered := by
  cases normalizeContentBlock_ok h with
  | Str s => exact h
  | Text htype =>
      rw [withoutControls_of_type htype (by decide)]
      simp [normalizeContentBlock, getField_mapping, getText_mapping, ok_bind,
        Value.lookup_without, printedText_without, htype, Value.isStr, pure, Except.pure]
  | ToolUse htype hrole =>
      rw [withoutControls_of_type htype (by decide)]
      simp [normalizeContentBlock, getField_mapping, getText_mapping, ok_bind,
        Value.lookup_without, printedText_without, htype, hrole, Value.isStr, pure, Except.pure]
  | ToolResult htype hrole hinner =>
      subst hrole
      exact normalizeToolResult_withoutControls htype h
  | @Media fields kind htype hkind =>
      have hnone : hasCacheControl (.Mapping fields) = false := by
        by_contra hcontrol
        have hother := hrebuilt (Bool.eq_true_of_not_eq_false hcontrol) kind hkind
        rw [hasType_mapping.mpr htype] at hother
        cases hother
      have hne : kind ≠ "tool_result" := by
        rintro rfl
        exact absurd hkind (by decide)
      rw [withoutControls_of_type htype hne]
      change normalizeContentBlock python role (withoutControl (.Mapping fields)) = _
      rw [withoutControl_of_none hnone]
      exact h

end Blocks

section Messages

variable {python : Interpreter} {role : String} {reasoningEnabled : Bool}

theorem mem_blocksOf_iff {content block : Value} (h : hasCacheControl block = true) :
    block ∈ blocksOf content ↔ block ∈ itemsOf content := by
  cases content with
  | Sequence items => rfl
  | Str s =>
      refine iff_of_false (fun hm => ?_) fun hm => ?_
      · cases List.mem_singleton.mp hm
        cases h
      · obtain ⟨c, -, rfl⟩ := List.mem_map.mp hm
        cases h
  | Mapping fields =>
      refine iff_of_false List.not_mem_nil fun hm => ?_
      obtain ⟨entry, -, rfl⟩ := List.mem_map.mp hm
      cases h
  | _ => exact Iff.rfl

theorem normalizeContentBlocks_withoutControls {content thinkingBlocks : Value}
    {rendered : List Value}
    (h : normalizeContentBlocks python content role thinkingBlocks = .ok rendered)
    (hrebuilt : ∀ block ∈ itemsOf content, hasCacheControl block = true →
      ∀ kind ∈ MEDIA_TYPES, hasType kind block = false) :
    normalizeContentBlocks python (mapItems withoutControls content) role thinkingBlocks =
      .ok rendered := by
  cases content with
  | Sequence blocks =>
      simp only [normalizeContentBlocks_eq, bind_eq_ok, pure_eq_ok] at h ⊢
      obtain ⟨_, hblocks, thinking, hthinking, rest, hrest, rfl⟩ := h
      cases hblocks
      refine ⟨_, rfl, thinking, hthinking, rest, ?_, rfl⟩
      refine mapM_eq_ok.mpr (List.forall₂_map_left_iff.mpr ?_)
      have hboth := (List.forall₂_and_left _ _).mpr ⟨hrebuilt, mapM_eq_ok.mp hrest⟩
      exact hboth.imp fun block rendered h => normalizeContentBlock_withoutControls h.2 h.1
  | _ => exact h

def withoutMessageControls : Value → Value := adjustField "content" (mapItems withoutControls)

theorem lookup_withoutMessageControls (fields : Fields) (key : String) :
    (Value.lookup (Value.adjusted "content" (mapItems withoutControls) fields) key).getD .None =
      if key = "content" then mapItems withoutControls ((Value.lookup fields key).getD .None)
      else (Value.lookup fields key).getD .None := by
  rw [Value.lookup_adjusted]
  by_cases hkey : key = "content"
  · rw [if_pos hkey, if_pos hkey]
    cases Value.lookup fields key <;> rfl
  · rw [if_neg hkey, if_neg hkey]

theorem normalizeMessage_withoutControls {rawMessage message : Value}
    (h : normalizeMessage python reasoningEnabled rawMessage = .ok message)
    (hrebuilt : ∀ block ∈ itemsOf (fieldOf rawMessage "content"), hasCacheControl block = true →
      ∀ kind ∈ MEDIA_TYPES, hasType kind block = false) :
    normalizeMessage python reasoningEnabled (withoutMessageControls rawMessage) = .ok message := by
  cases rawMessage with
  | Mapping fields =>
      have hrole : writtenText (Value.adjusted "content" (mapItems withoutControls) fields) "role" =
          writtenText fields "role" := by
        simp [writtenText, Value.lookup_adjusted]
      change normalizeMessage python reasoningEnabled
        (.Mapping (Value.adjusted "content" (mapItems withoutControls) fields)) = _
      rw [normalizeMessage_mapping] at h ⊢
      rw [printedText, hrole, lookup_withoutMessageControls, lookup_withoutMessageControls,
        if_pos rfl, if_neg (show "thinking_blocks" ≠ "content" by decide)]
      by_cases hsupported : (writtenText fields "role").toStr python ∈ SUPPORTED_MESSAGE_ROLES
      · rw [if_pos hsupported] at h ⊢
        obtain ⟨content, hcontent, h⟩ := bind_eq_ok.mp h
        exact bind_eq_ok.mpr
          ⟨content, normalizeContentBlocks_withoutControls hcontent hrebuilt, h⟩
      · rw [if_neg hsupported] at h
        exact absurd h (by simp)
  | _ => cases h

theorem usesTools_withoutControls (message : Value) :
    usesTools (withoutMessageControls message) = usesTools message := by
  cases message with
  | Mapping fields =>
      change (_ && (blocksOf ((Value.lookup (Value.adjusted "content" (mapItems withoutControls)
        fields) "content").getD .None)).any (hasType "tool_use")) = _
      rw [lookup_withoutMessageControls, lookup_withoutMessageControls, if_pos rfl,
        if_neg (by decide), usesTools]
      cases (Value.lookup fields "content").getD .None with
      | Sequence blocks =>
          congr 1
          change (blocks.map withoutControls).any (hasType "tool_use") = _
          rw [List.any_map]
          exact congrArg blocks.any (funext (hasType_withoutControls "tool_use"))
      | _ => rfl
  | _ => rfl

-- Continuity does not depend on what a block has but its type.
theorem hasReasoningContinuity_withoutControls (rawMessages : List Value) :
    hasReasoningContinuity (rawMessages.map withoutMessageControls) =
      hasReasoningContinuity rawMessages := by
  induction rawMessages with
  | nil => rfl
  | cons message rawMessages ih =>
      cases message with
      | Mapping fields =>
          have huses := usesTools_withoutControls (.Mapping fields)
          change hasReasoningContinuity (.Mapping (Value.adjusted "content"
            (mapItems withoutControls) fields) :: rawMessages.map withoutMessageControls) = _
          change usesTools (.Mapping (Value.adjusted "content" (mapItems withoutControls)
            fields)) = _ at huses
          rw [hasReasoningContinuity_mapping, hasReasoningContinuity_mapping, ih, huses]
          simp only [isAssistant, contentField, thinkingField, lookup_withoutMessageControls]
          cases (Value.lookup fields "content").getD .None <;> rfl
      | _ => exact ih

-- A message that is sent has a control where one of its images or documents has.
theorem MessageRendered.carries_iff {text : Fields → String → Value} {rawMessage message : Value}
    (h : MessageRendered text reasoningEnabled rawMessage message) :
    (∀ block ∈ itemsOf (fieldOf message "content"), carriesCacheControl block = false) ↔
      ∀ block ∈ itemsOf (fieldOf rawMessage "content"), hasCacheControl block = true →
        ∀ kind ∈ MEDIA_TYPES, hasType kind block = false := by
  cases h with
  | @Message fields role thinking content hrole hsupported hthinking hcontent =>
      have hsent : ∀ block ∈ thinking, carriesCacheControl block = false :=
        forall_right hthinking fun _ _ => ThinkingRendered.not_carries
      have hblocks : List.Forall₂ (fun block rendered => carriesCacheControl rendered = false ↔
          (hasCacheControl block = true → ∀ kind ∈ MEDIA_TYPES, hasType kind block = false))
          (blocksOf ((Value.lookup fields "content").getD .None)) content := by
        refine hcontent.imp fun block rendered hblock => ?_
        rw [← Bool.not_eq_true, hblock.carries_iff]
        simp
      change (∀ block ∈ thinking ++ content, carriesCacheControl block = false) ↔ _
      rw [List.forall_mem_append, and_iff_right hsent, forall_iff_of_forall₂ hblocks]
      constructor
      · exact fun h block hm hcontrol => h block ((mem_blocksOf_iff hcontrol).mpr hm) hcontrol
      · exact fun h block hm hcontrol => h block ((mem_blocksOf_iff hcontrol).mp hm) hcontrol

end Messages

section Prompts

variable {python : Interpreter} {system : Value} {systemBlocks : List Value}

theorem normalizeSystemBlocks_withoutControl
    (h : normalizeSystemBlocks python system = .ok systemBlocks)
    (hrebuilt : ∀ block ∈ itemsOf system, hasCacheControl block = true →
      hasType "text" block = true) :
    normalizeSystemBlocks python (mapItems withoutControl system) = .ok systemBlocks := by
  cases system with
  | Sequence blocks =>
      refine mapM_eq_ok.mpr (List.forall₂_map_left_iff.mpr ?_)
      have hboth := (List.forall₂_and_left _ _).mpr ⟨hrebuilt, mapM_eq_ok.mp h⟩
      exact hboth.imp fun block rendered h => normalizeSystemBlock_withoutControl h.2 h.1
  | _ => exact h

theorem normalizeSystemBlocks_controlFree_iff
    (h : normalizeSystemBlocks python system = .ok systemBlocks) :
    (∀ block ∈ systemBlocks, hasCacheControl block = false) ↔
      ∀ block ∈ itemsOf system, hasCacheControl block = true → hasType "text" block = true := by
  cases system with
  | None =>
      cases h
      exact iff_of_true nofun nofun
  | Str s =>
      cases h
      refine iff_of_true (fun block hm => ?_) fun block hm hcontrol => ?_
      · cases List.mem_singleton.mp hm
        simp [textBlock, hasCacheControl, Value.lookup_cons]
      · obtain ⟨c, -, rfl⟩ := List.mem_map.mp hm
        cases hcontrol
  | Sequence blocks =>
      refine forall_iff_of_forall₂ ((mapM_eq_ok.mp h).imp fun block rendered hblock => ?_)
      rw [← Bool.not_eq_true, normalizeSystemBlock_control hblock]
      simp
  | _ => cases h

end Prompts

section Requests

variable {python : Interpreter} {request : Value} {resolvedModel : ResolvedModel}
  {parts : RequestParts}

theorem requestMessages_mapping (entries : Fields) :
    requestMessages (.Mapping entries) =
      raising ((Value.lookup entries "messages").getD (.Sequence [])).iterate := rfl

theorem RequestParts.BuiltFrom.rawMessages_eq (h : parts.BuiltFrom python request resolvedModel) :
    itemsOf (fieldOf request "messages") = parts.rawMessages := by
  obtain ⟨entries, rfl⟩ := h.mapping
  have hiterated := raising_eq_ok (requestMessages_mapping entries ▸ h.iterated)
  change itemsOf ((Value.lookup entries "messages").getD .None) = _
  cases hlookup : Value.lookup entries "messages" with
  | none =>
      rw [hlookup] at hiterated
      exact Except.ok.inj hiterated
  | some messages =>
      rw [hlookup] at hiterated
      exact congrArg (fun items => items.toOption.getD []) hiterated

theorem RequestParts.BuiltFrom.mappings (h : parts.BuiltFrom python request resolvedModel) :
    ∀ rawMessage ∈ parts.rawMessages, rawMessage.isMapping = true := by
  have hflipped : List.Forall₂ (flip (MessageRendered (printedText python) parts.reasoningEnabled))
      parts.messages parts.rawMessages := List.Forall₂.flip h.rendered
  refine forall_right hflipped fun message rawMessage hrendered => ?_
  cases hrendered
  rfl

theorem texts_eq_nil {α : Type} {text : α → String} {entries : List α}
    (h : ∀ item ∈ entries.map fun entry => Value.Str (text entry), item.isMapping = true) :
    (entries.map fun entry => Value.Str (text entry)) = [] := by
  cases entries with
  | nil => rfl
  | cons entry entries => cases h _ (.head _)

-- What has no dictionaries to go through has nothing at all to change.
theorem iterate_mapItems {change : Value → Value} {value : Value} {items : List Value}
    (h : value.iterate = .ok items) (hmappings : ∀ item ∈ items, item.isMapping = true) :
    (mapItems change value).iterate = .ok (items.map change) := by
  cases value with
  | Sequence blocks =>
      cases h
      rfl
  | Str s =>
      have hempty : items = [] := by
        cases h
        exact texts_eq_nil hmappings
      rw [hempty] at h ⊢
      exact h
  | Mapping fields =>
      have hempty : items = [] := by
        cases h
        exact texts_eq_nil hmappings
      rw [hempty] at h ⊢
      exact h
  | _ => cases h

theorem requestMessages_withoutCacheControl {entries : Fields} {rawMessages : List Value}
    (h : requestMessages (.Mapping entries) = .ok rawMessages)
    (hmappings : ∀ message ∈ rawMessages, message.isMapping = true) :
    requestMessages (withoutCacheControl (.Mapping entries)) =
      .ok (rawMessages.map withoutMessageControls) := by
  have hlookup : Value.lookup (Value.adjusted "messages" (mapItems withoutMessageControls)
      (Value.adjusted "system" (mapItems withoutControl) entries)) "messages" =
        (Value.lookup entries "messages").map (mapItems withoutMessageControls) := by
    simp [Value.lookup_adjusted]
  have hiterated := raising_eq_ok (requestMessages_mapping entries ▸ h)
  change requestMessages (.Mapping (Value.adjusted "messages" (mapItems withoutMessageControls)
    (Value.adjusted "system" (mapItems withoutControl) entries))) = _
  rw [requestMessages_mapping, hlookup]
  cases hmessages : Value.lookup entries "messages" with
  | none =>
      rw [hmessages] at hiterated
      cases hiterated
      rfl
  | some messages =>
      rw [hmessages] at hiterated
      exact congrArg raising (iterate_mapItems hiterated hmappings)

theorem getField_system_withoutCacheControl (entries : Fields) :
    getField (withoutCacheControl (.Mapping entries)) "system" =
      .ok (mapItems withoutControl (fieldOf (.Mapping entries) "system")) := by
  rw [withoutCacheControl, getField_adjustField (by decide)]
  change Except.ok ((Value.lookup (Value.adjusted "system" (mapItems withoutControl) entries)
    "system").getD .None) = _
  rw [Value.lookup_adjusted, if_pos rfl, fieldOf]
  cases Value.lookup entries "system" <;> rfl

theorem RequestParts.BuiltFrom.normalized (h : parts.BuiltFrom python request resolvedModel) :
    normalizeSystemBlocks python (fieldOf request "system") = .ok parts.systemBlocks := by
  obtain ⟨entries, rfl⟩ := h.mapping
  exact h.systemBlocks

theorem RequestParts.BuiltFrom.withoutCacheControl
    (h : parts.BuiltFrom python request resolvedModel)
    (hrebuilt : ControlsRebuilt request) :
    ∃ others : RequestParts,
      others.BuiltFrom python (ClaudeCodeProxy.withoutCacheControl request) resolvedModel ∧
        others.converseRequest resolvedModel = parts.converseRequest resolvedModel := by
  have hraw := h.rawMessages_eq
  have hnormalized := normalizeSystemBlocks_withoutControl h.normalized hrebuilt.system
  obtain ⟨entries, rfl⟩ := h.mapping
  refine ⟨{ parts with rawMessages := parts.rawMessages.map withoutMessageControls }, ?_, rfl⟩
  constructor
  · rw [normalizeReasoningRequest_congr (agreeOn_withoutCacheControl (by decide))]
    exact h.requested
  · exact requestMessages_withoutCacheControl h.iterated h.mappings
  · rw [hasReasoningContinuity_withoutControls]
    exact h.enabled
  · refine mapM_eq_ok.mpr (List.forall₂_map_left_iff.mpr ?_)
    have hboth := (List.forall₂_and_left _ _).mpr
      ⟨fun message hm => hrebuilt.content message (hraw ▸ hm), mapM_eq_ok.mp h.messages⟩
    exact hboth.imp fun message rendered h => normalizeMessage_withoutControls h.2 h.1
  · rw [getField_system_withoutCacheControl]
    exact hnormalized
  · rw [buildInferenceConfig_congr (agreeOn_withoutCacheControl (by decide))]
    exact h.inferenceConfig
  · rw [buildToolConfig_congr (agreeOn_withoutCacheControl (by decide))]
    exact h.toolConfig
  · rw [buildAdditionalModelRequestFields_congr (agreeOn_withoutCacheControl (by decide))]
    exact h.additionalFields
  · rw [buildOutputConfig_congr (agreeOn_withoutCacheControl (by decide))]
    exact h.outputConfig
  · rw [@agreeOn_withoutCacheControl ["stream"] _ (by decide) "stream" (by simp)]
    exact h.stream

theorem RequestParts.itemsOf_system (parts : RequestParts) :
    itemsOf (fieldOf (.Mapping parts.payload) "system") = parts.systemBlocks := by
  rw [fieldOf, parts.lookup_system]
  by_cases hempty : parts.systemBlocks = []
  · rw [if_pos hempty, hempty]
    rfl
  · rw [if_neg hempty]
    rfl

theorem RequestParts.BuiltFrom.cacheControlFree_iff
    (h : parts.BuiltFrom python request resolvedModel) :
    CacheControlFree (.Mapping parts.payload) ↔ ControlsRebuilt request := by
  have hsystem := normalizeSystemBlocks_controlFree_iff h.normalized
  rw [← parts.itemsOf_system] at hsystem
  have hcontent := forall_iff_of_forall₂ (h.rendered.imp fun _ _ => MessageRendered.carries_iff)
  rw [← h.rawMessages_eq] at hcontent
  constructor
  · exact fun hfree => ⟨hsystem.mp hfree.system, hcontent.mp hfree.content⟩
  · exact fun hrebuilt => ⟨hsystem.mpr hrebuilt.system, hcontent.mpr hrebuilt.content⟩

-- A model that takes no cache controls gets none exactly if all are in blocks that are put
-- together anew.
theorem cache_controls_gated_iff (python : Interpreter) (request : Value)
    (resolvedModel : ResolvedModel) (built : ConverseRequest)
    (h : buildConverseRequest python request resolvedModel = .ok built) :
    (resolvedModel.capabilities.supportsPromptCacheTtl = false →
        CacheControlFree built.payload ∧
          buildConverseRequest python (withoutCacheControl request) resolvedModel = .ok built) ↔
      (resolvedModel.capabilities.supportsPromptCacheTtl = false → ControlsRebuilt request) := by
  obtain ⟨parts, hparts, rfl⟩ := buildConverseRequest_ok_iff.mp h
  refine imp_congr_right fun _ => ?_
  constructor
  · exact fun hgated => hparts.cacheControlFree_iff.mp hgated.1
  · intro hrebuilt
    obtain ⟨others, hothers, heq⟩ := hparts.withoutCacheControl hrebuilt
    exact ⟨hparts.cacheControlFree_iff.mpr hrebuilt,
      buildConverseRequest_ok_iff.mpr ⟨others, hothers, heq.symm⟩⟩

end Requests

section Samples

def sampleControlled (fields : Fields) : Value := .Mapping (fields ++
  [("cache_control", .Mapping [("type", .Str "ephemeral"), ("ttl", .Str "1h")])])

def sampleInstruction : Value :=
  sampleControlled [("type", .Str "text"), ("text", .Str "Be brief.")]

def samplePicture : Value := sampleControlled [
  ("type", .Str "image"), ("format", .Str "png"),
  ("source", .Mapping [("bytes", .Str "iVBORw0K")])]

-- A prompt and a block that are both to be cached for an hour.
def sampleCached (block : Value) : Value := .Mapping [
  ("system", .Sequence [sampleInstruction]),
  ("messages", .Sequence [.Mapping [
    ("role", .Str "user"), ("content", .Sequence [block])]])]

theorem image_keeps_cache_control :
    ∃ built,
      buildConverseRequest samplePython (sampleCached samplePicture) (sampleModel false) =
          .ok built ∧
        (sampleModel false).capabilities.supportsPromptCacheTtl = false ∧
        ¬CacheControlFree built.payload := by
  refine ⟨_, rfl, rfl, fun hfree => ?_⟩
  have hcontrol := hfree.content _ (.head _) _ (.head _)
  revert hcontrol
  decide

theorem cache_controls_gated_iff_sample :
    ∃ built,
      buildConverseRequest samplePython (sampleCached sampleInstruction) (sampleModel false) =
          .ok built ∧
        CacheControlFree built.payload ∧
        buildConverseRequest samplePython (withoutCacheControl (sampleCached sampleInstruction))
          (sampleModel false) = .ok built := by
  have hrebuilt : ControlsRebuilt (sampleCached sampleInstruction) := by
    constructor <;> decide
  refine ⟨_, rfl, ?_⟩
  exact (cache_controls_gated_iff samplePython (sampleCached sampleInstruction)
    (sampleModel false) _ rfl).mpr (fun _ => hrebuilt) rfl

end Samples

end ClaudeCodeProxy
