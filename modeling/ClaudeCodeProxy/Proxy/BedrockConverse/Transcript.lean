import ClaudeCodeProxy.Lists.Forall2
import ClaudeCodeProxy.Proxy.BedrockConverse.BuiltRequests
import ClaudeCodeProxy.Proxy.Runtime
import Mathlib.Data.List.ReduceOption

-- What becomes of the turns of a conversation.

namespace ClaudeCodeProxy

open Lists Python RequestBuilder

abbrev Fields := List (String × Value)

-- The items of a content that is a list, a text or missing.
def blocksOf : Value → List Value
  | .Str s => [.Str s]
  | .Sequence blocks => blocks
  | _ => []

def hasType (kind : String) : Value → Bool
  | .Mapping fields => ((Value.lookup fields "type").getD .None).isStr kind
  | _ => false

-- A text of a block as it stands there, and as the builder prints it.
def writtenText (fields : Fields) (key : String) : Value :=
  (Value.lookup fields key).getD (.Str "")

def printedText (python : Interpreter) (fields : Fields) (key : String) : Value :=
  .Str ((writtenText fields key).toStr python)

section Rendering

variable (text : Fields → String → Value)

-- A block of the result of a tool, and its counterpart.
inductive ResultBlockRendered : Value → Value → Prop
  | Str (s : String) : ResultBlockRendered (.Str s) (textBlock (.Str s))
  | Text {fields : Fields} (htype : Value.lookup fields "type" = some (.Str "text")) :
      ResultBlockRendered (.Mapping fields) (textBlock (text fields "text"))
  | Json {fields : Fields} (htype : Value.lookup fields "type" = some (.Str "json")) :
      ResultBlockRendered (.Mapping fields)
        (.Mapping [("json", (Value.lookup fields "json").getD (.Mapping []))])

def resultStatus (fields : Fields) : String :=
  if ((Value.lookup fields "is_error").getD .None).truthy then "error" else "success"

-- A block of the content of a message, and its counterpart.
inductive BlockRendered (role : String) : Value → Value → Prop
  | Str (s : String) : BlockRendered role (.Str s) (textBlock (.Str s))
  | Text {fields : Fields} (htype : Value.lookup fields "type" = some (.Str "text")) :
      BlockRendered role (.Mapping fields) (textBlock (text fields "text"))
  | ToolUse {fields : Fields} (htype : Value.lookup fields "type" = some (.Str "tool_use"))
      (hrole : role = "assistant") :
      BlockRendered role (.Mapping fields) (.Mapping [("toolUse", .Mapping [
        ("toolUseId", text fields "id"),
        ("name", text fields "name"),
        ("input", (Value.lookup fields "input").getD (.Mapping []))])])
  | ToolResult {fields : Fields} {inner : List Value}
      (htype : Value.lookup fields "type" = some (.Str "tool_result")) (hrole : role = "user")
      (hinner : List.Forall₂ (ResultBlockRendered text)
        (blocksOf ((Value.lookup fields "content").getD .None)) inner) :
      BlockRendered role (.Mapping fields) (.Mapping [("toolResult", .Mapping [
        ("toolUseId", text fields "tool_use_id"),
        ("status", .Str (resultStatus fields)),
        ("content", .Sequence inner)])])
  | Media {fields : Fields} {kind : String}
      (htype : Value.lookup fields "type" = some (.Str kind))
      (hkind : kind ∈ ["image", "document"]) :
      BlockRendered role (.Mapping fields)
        (.Mapping [(kind, .Mapping (Value.without ["type"] fields))])

-- A thinking block, and the reasoning it is replayed as.
inductive ThinkingRendered : Value → Value → Prop
  | Thinking {fields : Fields} : ThinkingRendered (.Mapping fields)
      (.Mapping [("reasoningContent", .Mapping ([("reasoningText",
        textBlock (text fields "thinking"))] ++
          if ((Value.lookup fields "signature").getD .None).truthy then
            [("signature", (Value.lookup fields "signature").getD .None)] else []))])

-- The thinking blocks of a message that are replayed.
def replayedThinking (role : String) (thinkingBlocks : Value) : List Value :=
  if role == "assistant" then (blocksOf thinkingBlocks).filter (hasType "thinking") else []

inductive MessageRendered (reasoningEnabled : Bool) : Value → Value → Prop
  | Message {fields : Fields} {role : String} {thinking content : List Value}
      (hrole : text fields "role" = .Str role) (hsupported : role ∈ SUPPORTED_MESSAGE_ROLES)
      (hthinking : List.Forall₂ (ThinkingRendered text)
        (replayedThinking role (if reasoningEnabled then
          (Value.lookup fields "thinking_blocks").getD .None else .None)) thinking)
      (hcontent : List.Forall₂ (BlockRendered text role)
        (blocksOf ((Value.lookup fields "content").getD .None)) content) :
      MessageRendered reasoningEnabled (.Mapping fields)
        (.Mapping [("role", .Str role), ("content", .Sequence (thinking ++ content))])

variable {text} in
theorem BlockRendered.eq_text {role : String} {fields : Fields} {rendered : Value}
    (h : BlockRendered text role (.Mapping fields) rendered)
    (htype : Value.lookup fields "type" = some (.Str "text")) :
    rendered = textBlock (text fields "text") := by
  cases h with
  | Text _ => rfl
  | ToolUse hother _ => simp [htype] at hother
  | ToolResult hother _ _ => simp [htype] at hother
  | Media hother hkind =>
      rw [htype] at hother
      cases hother
      simp at hkind

variable {text} in
theorem BlockRendered.eq_toolUse {role : String} {fields : Fields} {rendered : Value}
    (h : BlockRendered text role (.Mapping fields) rendered)
    (htype : Value.lookup fields "type" = some (.Str "tool_use")) :
    rendered = .Mapping [("toolUse", .Mapping [
      ("toolUseId", text fields "id"),
      ("name", text fields "name"),
      ("input", (Value.lookup fields "input").getD (.Mapping []))])] := by
  cases h with
  | Text hother => simp [htype] at hother
  | ToolUse _ _ => rfl
  | ToolResult hother _ _ => simp [htype] at hother
  | Media hother hkind =>
      rw [htype] at hother
      cases hother
      simp at hkind

end Rendering

section Inversion

variable {python : Interpreter}

theorem isStr_iff {value : Value} {s : String} : value.isStr s = true ↔ value = .Str s := by
  cases value <;> simp [Value.isStr]

theorem getD_isStr {found : Option Value} {s : String} :
    (found.getD .None).isStr s = true ↔ found = some (.Str s) := by
  cases found with
  | none => simp [Value.isStr]
  | some value => simp [isStr_iff]

theorem hasType_mapping {kind : String} {fields : Fields} :
    hasType kind (.Mapping fields) = true ↔ Value.lookup fields "type" = some (.Str kind) :=
  getD_isStr

theorem getText_mapping (fields : Fields) (key : String) :
    getText python (.Mapping fields) key = .ok (printedText python fields key) := rfl

theorem getField_mapping (fields : Fields) (key : String) (default : Value) :
    getField (.Mapping fields) key default = .ok ((Value.lookup fields key).getD default) := rfl

theorem coerceBlocks_ok {content : Value} {blocks : List Value}
    (h : coerceBlocks content = .ok blocks) : blocks = blocksOf content := by
  cases content <;> cases h <;> rfl

theorem normalizeToolResultBlock_ok_iff {block rendered : Value} :
    normalizeToolResultBlock python block = .ok rendered ↔
      ResultBlockRendered (printedText python) block rendered := by
  constructor
  · intro h
    cases block with
    | Str s =>
        cases h
        exact .Str s
    | Mapping fields =>
        simp only [normalizeToolResultBlock, getField_mapping, getText_mapping, ok_bind,
          getD_isStr] at h
        split_ifs at h with htext hjson
        · cases h
          exact .Text htext
        · cases h
          exact .Json hjson
    | _ => cases h
  · intro h
    cases h with
    | Str s => rfl
    | Text htype =>
        simp only [normalizeToolResultBlock, getField_mapping, getText_mapping, ok_bind,
          getD_isStr, htype, if_true, pure, Except.pure]
    | Json htype =>
        simp only [normalizeToolResultBlock, getField_mapping, ok_bind, getD_isStr, htype]
        rfl

theorem normalizeToolResultContent_ok {content : Value} {inner : List Value}
    (h : normalizeToolResultContent python content = .ok inner) :
    List.Forall₂ (ResultBlockRendered (printedText python)) (blocksOf content) inner := by
  cases content with
  | None =>
      cases h
      exact .nil
  | Str s =>
      cases h
      exact .cons (.Str s) .nil
  | Sequence blocks =>
      exact (mapM_eq_ok.mp h).imp fun _ _ => normalizeToolResultBlock_ok_iff.mp
  | _ => cases h

theorem memStrs_ok {value : Value} {texts : List String}
    (h : value.memStrs texts = .ok true) : ∃ s ∈ texts, value = .Str s := by
  unfold Value.memStrs at h
  split_ifs at h with hhashable
  · obtain ⟨s, hmem, hs⟩ := List.any_eq_true.mp (Except.ok.inj h)
    exact ⟨s, hmem, isStr_iff.mp hs⟩

theorem normalizeContentBlock_ok {role : String} {block rendered : Value}
    (h : normalizeContentBlock python role block = .ok rendered) :
    BlockRendered (printedText python) role block rendered := by
  cases block with
  | Str s =>
      cases h
      exact .Str s
  | Mapping fields =>
      simp only [normalizeContentBlock, getField_mapping, getText_mapping, ok_bind, getD_isStr,
        Bool.and_eq_true, beq_iff_eq] at h
      by_cases htext : Value.lookup fields "type" = some (.Str "text")
      · rw [if_pos htext] at h
        cases h
        exact .Text htext
      rw [if_neg htext] at h
      by_cases htool : Value.lookup fields "type" = some (.Str "tool_use") ∧ role = "assistant"
      · rw [if_pos htool] at h
        cases h
        exact .ToolUse htool.1 htool.2
      rw [if_neg htool] at h
      by_cases hresult : Value.lookup fields "type" = some (.Str "tool_result") ∧ role = "user"
      · rw [if_pos hresult] at h
        obtain ⟨inner, hinner, h⟩ := bind_eq_ok.mp h
        cases h
        exact .ToolResult hresult.1 hresult.2 (normalizeToolResultContent_ok hinner)
      rw [if_neg hresult] at h
      obtain ⟨media, hmedia, h⟩ := bind_eq_ok.mp h
      cases media with
      | false => cases h
      | true =>
          obtain ⟨kind, hkind, hvalue⟩ := memStrs_ok (raising_eq_ok hmedia)
          have htype := getD_isStr.mp (isStr_iff.mpr hvalue)
          rw [hvalue] at h
          cases h
          have hrest : fields.filter (fun entry => entry.1 != "type") =
              Value.without ["type"] fields :=
            List.filter_congr fun entry _ => by by_cases h : entry.1 = "type" <;> simp [h]
          exact hrest ▸ .Media htype hkind
  | _ => cases h

theorem normalizeThinkingBlock_ok {block : Value} {result : Option Value}
    (h : normalizeThinkingBlock python block = .ok result) :
    (hasType "thinking" block = false ∧ result = none) ∨
      (hasType "thinking" block = true ∧
        ∃ rendered, result = some rendered ∧ ThinkingRendered (printedText python) block rendered) := by
  cases block with
  | Mapping fields =>
      simp only [normalizeThinkingBlock, getField_mapping, getText_mapping, ok_bind] at h
      have htype : hasType "thinking" (.Mapping fields) =
          ((Value.lookup fields "type").getD .None).isStr "thinking" := rfl
      rw [← htype] at h
      cases hthinking : hasType "thinking" (.Mapping fields) with
      | false =>
          rw [hthinking] at h
          cases h
          exact .inl ⟨rfl, rfl⟩
      | true =>
          rw [hthinking] at h
          cases h
          exact .inr ⟨rfl, _, rfl, .Thinking⟩
  | _ => cases h

theorem normalizeThinkingBlocks_ok {content : Value} {thinking : List Value}
    (h : normalizeThinkingBlocks python content = .ok thinking) :
    List.Forall₂ (ThinkingRendered (printedText python))
      ((blocksOf content).filter (hasType "thinking")) thinking := by
  simp only [normalizeThinkingBlocks, bind_eq_ok, pure_eq_ok] at h
  obtain ⟨blocks, hblocks, results, hresults, rfl⟩ := h
  rw [← coerceBlocks_ok hblocks]
  replace hresults := mapM_eq_ok.mp hresults
  clear hblocks
  induction hresults with
  | nil => exact .nil
  | @cons block result blocks results hresult _ ih =>
      rcases normalizeThinkingBlock_ok hresult with ⟨hother, rfl⟩ | ⟨hthinking, _, rfl, hrendered⟩
      · rw [List.filter_cons_of_neg (by simp [hother]), List.reduceOption_cons_of_none]
        exact ih
      · rw [List.filter_cons_of_pos hthinking, List.reduceOption_cons_of_some]
        exact .cons hrendered ih

theorem filter_blocksOf_of_not_truthy {content : Value} {kind : String}
    (h : ¬content.truthy = true) : (blocksOf content).filter (hasType kind) = [] := by
  cases content with
  | Sequence blocks =>
      simp only [Value.truthy, Bool.not_eq_true, Bool.not_eq_false', List.isEmpty_iff] at h
      rw [h]
      rfl
  | _ => rfl

theorem normalizeContentBlocks_eq (content : Value) (role : String) (thinkingBlocks : Value) :
    normalizeContentBlocks python content role thinkingBlocks =
      coerceBlocks content >>= fun blocks =>
        (if role == "assistant" && thinkingBlocks.truthy then
          normalizeThinkingBlocks python thinkingBlocks else pure []) >>= fun thinking =>
          blocks.mapM (normalizeContentBlock python role) >>= fun rest =>
            pure (thinking ++ rest) := by
  unfold normalizeContentBlocks
  congr 1
  funext blocks
  split_ifs <;> rfl

theorem normalizeContentBlocks_ok {content : Value} {role : String} {thinkingBlocks : Value}
    {rendered : List Value}
    (h : normalizeContentBlocks python content role thinkingBlocks = .ok rendered) :
    ∃ thinking rest, rendered = thinking ++ rest ∧
      List.Forall₂ (ThinkingRendered (printedText python))
        (replayedThinking role thinkingBlocks) thinking ∧
      List.Forall₂ (BlockRendered (printedText python) role) (blocksOf content) rest := by
  simp only [normalizeContentBlocks_eq, bind_eq_ok, pure_eq_ok] at h
  obtain ⟨blocks, hblocks, thinking, hthinking, rest, hrest, rfl⟩ := h
  refine ⟨thinking, rest, rfl, ?_, ?_⟩
  · unfold replayedThinking
    by_cases hassistant : (role == "assistant") = true
    · rw [if_pos hassistant]
      by_cases htruthy : thinkingBlocks.truthy = true
      · rw [hassistant, htruthy] at hthinking
        exact normalizeThinkingBlocks_ok hthinking
      · rw [hassistant, Bool.eq_false_of_not_eq_true htruthy] at hthinking
        rw [filter_blocksOf_of_not_truthy htruthy, ← pure_eq_ok.mp hthinking]
        exact .nil
    · rw [if_neg hassistant]
      rw [Bool.eq_false_of_not_eq_true hassistant] at hthinking
      rw [← pure_eq_ok.mp hthinking]
      exact .nil
  · rw [← coerceBlocks_ok hblocks]
    exact (mapM_eq_ok.mp hrest).imp fun _ _ => normalizeContentBlock_ok

theorem normalizeMessage_mapping (reasoningEnabled : Bool) (fields : Fields) :
    normalizeMessage python reasoningEnabled (.Mapping fields) =
      if (writtenText fields "role").toStr python ∈ SUPPORTED_MESSAGE_ROLES then do
        let content ← normalizeContentBlocks python ((Value.lookup fields "content").getD .None)
          ((writtenText fields "role").toStr python)
          (if reasoningEnabled then (Value.lookup fields "thinking_blocks").getD .None else .None)
        return .Mapping [("role", printedText python fields "role"), ("content", .Sequence content)]
      else
        throw (.BedrockRequestBuildError REASON_INVALID_ROLE
          ("Unsupported message role '" ++ (writtenText fields "role").toStr python ++ "'.")) := by
  simp only [normalizeMessage, getField_mapping, ok_bind, Value.isMapping, Bool.not_true,
    Bool.false_eq_true, if_false, ite_not]
  cases reasoningEnabled <;> rfl

theorem normalizeMessage_ok {reasoningEnabled : Bool} {rawMessage message : Value}
    (h : normalizeMessage python reasoningEnabled rawMessage = .ok message) :
    MessageRendered (printedText python) reasoningEnabled rawMessage message := by
  cases rawMessage with
  | Mapping fields =>
      rw [normalizeMessage_mapping] at h
      by_cases hsupported : (writtenText fields "role").toStr python ∈ SUPPORTED_MESSAGE_ROLES
      · rw [if_pos hsupported] at h
        obtain ⟨content, hcontent, h⟩ := bind_eq_ok.mp h
        obtain ⟨thinking, rest, rfl, hthinking, hrest⟩ := normalizeContentBlocks_ok hcontent
        rw [← pure_eq_ok.mp h]
        exact .Message rfl hsupported hthinking hrest
      · rw [if_neg hsupported] at h
        exact absurd h (by simp)
  | _ => cases h

end Inversion

section Legibility

-- The texts, ids and names that a block of a type has.
def textKeys : String → List String
  | "text" => ["text"]
  | "tool_use" => ["id", "name"]
  | "tool_result" => ["tool_use_id"]
  | "thinking" => ["thinking"]
  | _ => []

-- They are strings, when they are there.
def legibleField (fields : Fields) (key : String) : Bool :=
  match Value.lookup fields key with
  | none | some (.Str _) => true
  | some _ => false

def legibleBlock : Value → Bool
  | .Mapping fields =>
      match Value.lookup fields "type" with
      | some (.Str kind) => (textKeys kind).all (legibleField fields)
      | _ => true
  | _ => true

def resultBlocks : Value → List Value
  | .Mapping fields =>
      if hasType "tool_result" (.Mapping fields) then
        blocksOf ((Value.lookup fields "content").getD .None)
      else []
  | _ => []

def legibleMessage : Value → Bool
  | .Mapping fields =>
      (blocksOf ((Value.lookup fields "content").getD .None)).all (fun block =>
        legibleBlock block && (resultBlocks block).all legibleBlock) &&
      (blocksOf ((Value.lookup fields "thinking_blocks").getD .None)).all legibleBlock
  | _ => true

variable {python : Interpreter}

theorem printedText_eq {fields : Fields} {kind key : String}
    (hlegible : legibleBlock (.Mapping fields) = true)
    (htype : Value.lookup fields "type" = some (.Str kind)) (hkey : key ∈ textKeys kind) :
    printedText python fields key = writtenText fields key := by
  simp only [legibleBlock, htype] at hlegible
  have hfield := List.all_eq_true.mp hlegible key hkey
  unfold legibleField at hfield
  unfold printedText writtenText
  split at hfield
  · rename_i hnone
    rw [hnone]
    rfl
  · rename_i s hsome
    rw [hsome]
    rfl
  · cases hfield

theorem ResultBlockRendered.written {block rendered : Value} (hlegible : legibleBlock block = true)
    (h : ResultBlockRendered (printedText python) block rendered) :
    ResultBlockRendered writtenText block rendered := by
  cases h with
  | Str s => exact .Str s
  | Text htype =>
      rw [printedText_eq hlegible htype (by simp [textKeys])]
      exact .Text htype
  | Json htype => exact .Json htype

theorem BlockRendered.written {role : String} {block rendered : Value}
    (hlegible : legibleBlock block = true)
    (hinner : ∀ inner ∈ resultBlocks block, legibleBlock inner = true)
    (h : BlockRendered (printedText python) role block rendered) :
    BlockRendered writtenText role block rendered := by
  cases h with
  | Str s => exact .Str s
  | Text htype =>
      rw [printedText_eq hlegible htype (by simp [textKeys])]
      exact .Text htype
  | ToolUse htype hrole =>
      rw [printedText_eq hlegible htype (by simp [textKeys]),
        printedText_eq hlegible htype (by simp [textKeys])]
      exact .ToolUse htype hrole
  | ToolResult htype hrole hrendered =>
      rw [printedText_eq hlegible htype (by simp [textKeys])]
      simp only [resultBlocks, hasType_mapping, htype, if_true] at hinner
      have hboth := (List.forall₂_and_left _ _).mpr ⟨hinner, hrendered⟩
      exact .ToolResult htype hrole (hboth.imp fun _ _ h => h.2.written h.1)
  | Media htype hkind => exact .Media htype hkind

theorem ThinkingRendered.written {block rendered : Value} (hlegible : legibleBlock block = true)
    (hthinking : hasType "thinking" block = true)
    (h : ThinkingRendered (printedText python) block rendered) :
    ThinkingRendered writtenText block rendered := by
  cases h with
  | Thinking =>
      rw [printedText_eq hlegible (hasType_mapping.mp hthinking) (by simp [textKeys])]
      exact .Thinking

-- Python prints no value but a text as the name of a role.
def PrintsNoRole (python : Interpreter) : Prop :=
  ∀ value : Value, (∀ s, value ≠ .Str s) → python.repr value ∉ SUPPORTED_MESSAGE_ROLES

theorem PrintsNoRole.written {fields : Fields} {role : String} (h : PrintsNoRole python)
    (hrole : printedText python fields "role" = .Str role)
    (hsupported : role ∈ SUPPORTED_MESSAGE_ROLES) : writtenText fields "role" = .Str role := by
  unfold printedText at hrole
  cases hwritten : writtenText fields "role" with
  | Str s => rwa [hwritten] at hrole
  | _ =>
      rw [hwritten] at hrole
      have hprinted := Value.Str.inj hrole
      subst hprinted
      exact absurd hsupported (h _ (by simp))

theorem MessageRendered.written {reasoningEnabled : Bool} {rawMessage message : Value}
    (hroles : PrintsNoRole python) (hlegible : legibleMessage rawMessage = true)
    (h : MessageRendered (printedText python) reasoningEnabled rawMessage message) :
    MessageRendered writtenText reasoningEnabled rawMessage message := by
  cases h with
  | @Message fields role thinking content hrole hsupported hthinking hcontent =>
      simp only [legibleMessage, Bool.and_eq_true, List.all_eq_true] at hlegible
      obtain ⟨hblocks, hthoughts⟩ := hlegible
      refine .Message (hroles.written hrole hsupported) hsupported ?_ ?_
      · have hreplayed : ∀ block ∈ replayedThinking role (if reasoningEnabled then
            (Value.lookup fields "thinking_blocks").getD .None else .None),
            legibleBlock block = true ∧ hasType "thinking" block = true := by
          intro block hmem
          unfold replayedThinking at hmem
          split_ifs at hmem with hassistant henabled
          · obtain ⟨hmem, htype⟩ := List.mem_filter.mp hmem
            exact ⟨hthoughts block hmem, htype⟩
          · cases hmem
          · cases hmem
        have hboth := (List.forall₂_and_left _ _).mpr ⟨hreplayed, hthinking⟩
        exact hboth.imp fun _ _ h => h.2.written h.1.1 h.1.2
      · have hboth := (List.forall₂_and_left _ _).mpr ⟨hblocks, hcontent⟩
        exact hboth.imp fun _ _ h => h.2.written h.1.1 h.1.2

end Legibility

section Pairing

-- The id of a block of some type, on the side of the client and on that of the provider.
def blockId (kind key : String) : Value → Option Value
  | .Mapping fields => if hasType kind (.Mapping fields) then some (writtenText fields key) else none
  | _ => none

def converseId (kind : String) : Value → Option Value
  | .Mapping fields =>
      match Value.lookup fields kind with
      | some (.Mapping inner) => Value.lookup inner "toolUseId"
      | _ => none
  | _ => none

def contentOf : Value → List Value
  | .Mapping fields => blocksOf ((Value.lookup fields "content").getD .None)
  | _ => []

def toolUseIds (message : Value) : List Value :=
  (contentOf message).filterMap (blockId "tool_use" "id")

def toolResultIds (message : Value) : List Value :=
  (contentOf message).filterMap (blockId "tool_result" "tool_use_id")

def converseToolUseIds (message : Value) : List Value :=
  (contentOf message).filterMap (converseId "toolUse")

def converseToolResultIds (message : Value) : List Value :=
  (contentOf message).filterMap (converseId "toolResult")

theorem BlockRendered.ids {role : String} {block rendered : Value}
    (h : BlockRendered writtenText role block rendered) :
    blockId "tool_use" "id" block = converseId "toolUse" rendered ∧
      blockId "tool_result" "tool_use_id" block = converseId "toolResult" rendered := by
  cases h with
  | Str s => exact ⟨rfl, rfl⟩
  | Media htype hkind =>
      simp only [List.mem_cons, List.not_mem_nil, or_false] at hkind
      rcases hkind with rfl | rfl <;>
        simp [blockId, converseId, hasType_mapping, htype, Value.lookup_cons]
  | _ => simp [blockId, converseId, hasType_mapping, Value.lookup_cons, textBlock, *]

theorem ThinkingRendered.ids {text : Fields → String → Value} {block rendered : Value}
    (h : ThinkingRendered text block rendered) :
    converseId "toolUse" rendered = none ∧ converseId "toolResult" rendered = none := by
  cases h
  exact ⟨rfl, rfl⟩

theorem MessageRendered.ids {reasoningEnabled : Bool} {rawMessage message : Value}
    (h : MessageRendered writtenText reasoningEnabled rawMessage message) :
    toolUseIds rawMessage = converseToolUseIds message ∧
      toolResultIds rawMessage = converseToolResultIds message := by
  cases h with
  | @Message fields role thinking content hrole hsupported hthinking hcontent =>
      have hsplit : contentOf (.Mapping [("role", .Str role),
          ("content", .Sequence (thinking ++ content))]) = thinking ++ content := rfl
      have hnone : ∀ rendered ∈ thinking,
          converseId "toolUse" rendered = none ∧ converseId "toolResult" rendered = none :=
        forall_right hthinking fun _ _ h => h.ids
      constructor
      · rw [toolUseIds, converseToolUseIds, hsplit, List.filterMap_append,
          List.filterMap_eq_nil_iff.mpr fun rendered hmem => (hnone rendered hmem).1]
        exact filterMap_eq_of_forall₂ (hcontent.imp fun _ _ h => h.ids.1)
      · rw [toolResultIds, converseToolResultIds, hsplit, List.filterMap_append,
          List.filterMap_eq_nil_iff.mpr fun rendered hmem => (hnone rendered hmem).2]
        exact filterMap_eq_of_forall₂ (hcontent.imp fun _ _ h => h.ids.2)

end Pairing

section Preservation

variable {python : Interpreter} {request : Value} {resolvedModel : ResolvedModel}
  {built : ConverseRequest}

def LegibleRequest (request : Value) : Prop :=
  ∀ rawMessages, requestMessages request = .ok rawMessages →
    ∀ rawMessage ∈ rawMessages, legibleMessage rawMessage = true

theorem RequestParts.BuiltFrom.rendered {parts : RequestParts}
    (h : parts.BuiltFrom python request resolvedModel) :
    List.Forall₂ (MessageRendered (printedText python) parts.reasoningEnabled)
      parts.rawMessages parts.messages :=
  (mapM_eq_ok.mp h.messages).imp fun _ _ => normalizeMessage_ok

-- The conversation that the model sees is the one that the client sent.
theorem transcript_preserved (hroles : PrintsNoRole python) (hlegible : LegibleRequest request)
    (h : buildConverseRequest python request resolvedModel = .ok built) :
    ∃ rawMessages messages, requestMessages request = .ok rawMessages ∧
      built.payload.item "messages" = .ok (.Sequence messages) ∧
      List.Forall₂ (MessageRendered writtenText built.reasoningEnabled) rawMessages messages ∧
      rawMessages.map toolUseIds = messages.map converseToolUseIds ∧
      rawMessages.map toolResultIds = messages.map converseToolResultIds := by
  obtain ⟨parts, hparts, rfl⟩ := buildConverseRequest_ok_iff.mp h
  have hboth := (List.forall₂_and_left _ _).mpr
    ⟨hlegible _ hparts.iterated, hparts.rendered⟩
  have hwritten : List.Forall₂ (MessageRendered writtenText parts.reasoningEnabled)
      parts.rawMessages parts.messages := hboth.imp fun _ _ h => h.2.written hroles h.1
  refine ⟨_, _, hparts.iterated, Value.item_mapping _ _ _ parts.lookup_messages, hwritten, ?_, ?_⟩
  · exact map_eq_of_forall₂ (hwritten.imp fun _ _ h => h.ids.1)
  · exact map_eq_of_forall₂ (hwritten.imp fun _ _ h => h.ids.2)

theorem samplePython_printsNoRole : PrintsNoRole samplePython := by
  intro value hvalue
  cases value with
  | Str s => exact absurd rfl (hvalue s)
  | Boolean b => cases b <;> decide
  | _ => simp [samplePython, SUPPORTED_MESSAGE_ROLES]

theorem sampleTurns_legible : LegibleRequest (sampleTurns [sampleThinking]) := by
  intro rawMessages h
  cases h
  decide

theorem sampleTurns_preserved : ∃ rawMessages messages,
    requestMessages (sampleTurns [sampleThinking]) = .ok rawMessages ∧
      List.Forall₂ (MessageRendered writtenText true) rawMessages messages ∧
      rawMessages.map toolUseIds = messages.map converseToolUseIds ∧
      rawMessages.map toolResultIds = messages.map converseToolResultIds := by
  have h : ∃ built, buildConverseRequest samplePython (sampleTurns [sampleThinking])
      (sampleModel true) = .ok built ∧ built.reasoningEnabled = true := ⟨_, rfl, rfl⟩
  obtain ⟨built, h, henabled⟩ := h
  obtain ⟨rawMessages, messages, hraw, -, hrendered, hids⟩ :=
    transcript_preserved samplePython_printsNoRole sampleTurns_legible h
  rw [henabled] at hrendered
  exact ⟨rawMessages, messages, hraw, hrendered, hids⟩

end Preservation

end ClaudeCodeProxy
