import ClaudeCodeProxy.Proxy.BedrockConverse.ResponseParser
import ClaudeCodeProxy.Python.Dictionaries

-- What the parser makes of a response, block by block.

namespace ClaudeCodeProxy

open Python

section Blocks

namespace ParsedContent

def append (first second : ParsedContent) : ParsedContent where
  contentBlocks := first.contentBlocks ++ second.contentBlocks
  thinkingBlocks := first.thinkingBlocks ++ second.thinkingBlocks
  providerReasoning := first.providerReasoning ++ second.providerReasoning

def join (parts : List ParsedContent) : ParsedContent where
  contentBlocks := parts.flatMap contentBlocks
  thinkingBlocks := parts.flatMap thinkingBlocks
  providerReasoning := parts.flatMap providerReasoning

theorem append_join_cons (first second : ParsedContent) (rest : List ParsedContent) :
    (first.append second).append (join rest) = first.append (join (second :: rest)) := by
  simp [append, join, List.append_assoc]

theorem join_append (first second : List ParsedContent) :
    join (first ++ second) = (join first).append (join second) := by
  simp [append, join]

theorem append_empty (parsed : ParsedContent) : parsed.append (join []) = parsed := by
  simp [append, join]

theorem empty_append (parsed : ParsedContent) : ParsedContent.append {} parsed = parsed := by
  simp [append]

end ParsedContent

-- The text that the parser reads in a reasoning object, if it can.
def reasoningText (reasoning : List (String × Value)) : Option Value :=
  match (Value.lookup reasoning "reasoningText").getD (.Mapping []) with
  | .Mapping inner => some ((Value.lookup inner "text").getD (.Str ""))
  | _ => none

def thinkingBlock (text : Value) (signature : Option Value) : Value :=
  .Mapping ([("type", .Str "thinking"), ("thinking", text)] ++
    signature.toList.map fun signature => ("signature", signature))

-- `reasoning.get("signature")`, unless that is nothing
def topSignature (reasoning : List (String × Value)) : Option Value :=
  (Value.lookup reasoning "signature").filter fun signature => !signature.isNone

-- One block of a response, and what it adds.
inductive BlockParsed : Value → ParsedContent → Prop
  | Text {fields : List (String × Value)} {text : Value}
      (htext : Value.lookup fields "text" = some text) :
      BlockParsed (.Mapping fields)
        { contentBlocks := [.Mapping [("type", .Str "text"), ("text", text)]] }
  | ToolUse {fields tool : List (String × Value)} {toolUseId name : Value}
      (htext : Value.lookup fields "text" = none)
      (htool : Value.lookup fields "toolUse" = some (.Mapping tool))
      (hid : Value.lookup tool "toolUseId" = some toolUseId)
      (hname : Value.lookup tool "name" = some name) :
      BlockParsed (.Mapping fields)
        { contentBlocks := [.Mapping [("type", .Str "tool_use"), ("id", toolUseId), ("name", name),
          ("input", (Value.lookup tool "input").getD (.Mapping []))]] }
  | Reasoning {fields reasoning : List (String × Value)} {text : Value}
      (htext : Value.lookup fields "text" = none)
      (htool : Value.lookup fields "toolUse" = none)
      (hreasoning : Value.lookup fields "reasoningContent" = some (.Mapping reasoning))
      (hread : reasoningText reasoning = some text) :
      BlockParsed (.Mapping fields)
        { thinkingBlocks := [thinkingBlock text (topSignature reasoning)]
          providerReasoning := [.Mapping reasoning] }

theorem BlockParsed.parse {block : Value} {part : ParsedContent} (h : BlockParsed block part)
    (parsed : ParsedContent) : parseContentBlock parsed block = .ok (parsed.append part) := by
  cases h with
  | Text htext => simp [parseContentBlock, Value.item, htext, ParsedContent.append, ok_bind]
  | ToolUse htext htool hid hname =>
      simp [parseContentBlock, Value.item, htext, htool, hid, hname, ParsedContent.append, ok_bind]
  | @Reasoning fields reasoning text htext htool hreasoning hread =>
      unfold reasoningText at hread
      split at hread
      · rename_i inner hinner
        cases hread
        have hsignature : (topSignature reasoning).toList.map (fun signature =>
            ("signature", signature)) =
              if ((Value.lookup reasoning "signature").getD .None).isNone then []
              else [("signature", (Value.lookup reasoning "signature").getD .None)] := by
          unfold topSignature
          cases hsome : Value.lookup reasoning "signature" with
          | none => rfl
          | some signature => cases signature <;> rfl
        simp [parseContentBlock, Value.item, htext, htool, hreasoning, hinner,
          ParsedContent.append, ok_bind, thinkingBlock, hsignature]
      · cases hread

theorem parseContent_ok {blocks : List Value} {parts : List ParsedContent}
    (h : List.Forall₂ BlockParsed blocks parts) (parsed : ParsedContent) :
    blocks.foldlM parseContentBlock parsed = .ok (parsed.append (.join parts)) := by
  induction h generalizing parsed with
  | nil => simp [ParsedContent.append_empty, pure, Except.pure]
  | cons hblock _ ih =>
      rw [List.foldlM_cons, hblock.parse, ok_bind, ih, ParsedContent.append_join_cons]

end Blocks

section Responses

variable {python : Interpreter} {fields message : List (String × Value)} {content : List Value}
  {usage : Usage}

-- A response of the provider with a message, its content and its usage.
structure WellFormedResponse (python : Interpreter) (fields message : List (String × Value))
    (content : List Value) (usage : Usage) : Prop where
  output : ∃ output, Value.lookup fields "output" = some (.Mapping output) ∧
    Value.lookup output "message" = some (.Mapping message)
  content : Value.lookup message "content" = some (.Sequence content)
  stopReason : ((Value.lookup fields "stopReason").getD .None).hashable = true
  requestMetadata : ∀ metadata, Value.lookup fields "requestMetadata" = some metadata →
    metadata.isMapping = true
  usage : normalizeUsage python ((Value.lookup fields "usage").getD .None) = .ok usage

-- The stop reason of the reply to a response.
def clientStopReason (rawStopReason : Value) : Value :=
  if rawStopReason.isNone then .None
  else if SUPPORTED_STOP_REASONS.any fun reason => rawStopReason.isStr reason then rawStopReason
  else .Str "end_turn"

theorem mapStopReason_ok {rawStopReason : Value} (h : rawStopReason.hashable = true) :
    ∃ metadata, mapStopReason rawStopReason = .ok (clientStopReason rawStopReason, metadata) ∧
      Value.lookup metadata "reasoning" = none := by
  by_cases hnone : rawStopReason.isNone = true
  · exact ⟨[], by simp [mapStopReason, clientStopReason, hnone], rfl⟩
  · by_cases hsupported :
        (SUPPORTED_STOP_REASONS.any fun reason => rawStopReason.isStr reason) = true
    · refine ⟨[], ?_, rfl⟩
      simp only [mapStopReason, clientStopReason, hnone, Value.memStrs, h, hsupported, if_true,
        Bool.false_eq_true, if_false, ok_bind]
      rfl
    · refine ⟨[("raw_stop_reason", rawStopReason)], ?_, rfl⟩
      simp only [mapStopReason, clientStopReason, hnone, Value.memStrs, h, hsupported, if_true,
        Bool.false_eq_true, if_false, ok_bind]
      rfl

-- What the client gets for it.
structure ReplyTo (fields message : List (String × Value)) (parsed : ParsedContent) (usage : Usage)
    (reply : List (String × Value)) : Prop where
  role : Value.lookup reply "role" = some ((Value.lookup message "role").getD (.Str "assistant"))
  content : Value.lookup reply "content" = some (.Sequence parsed.contentBlocks)
  stopReason : Value.lookup reply "stop_reason" =
    some (clientStopReason ((Value.lookup fields "stopReason").getD .None))
  usage : Value.lookup reply "usage" = some usage.toValue
  thinkingBlocks : Value.lookup reply "thinking_blocks" =
    if parsed.thinkingBlocks = [] then none else some (.Sequence parsed.thinkingBlocks)
  reasoning : ∃ metadata,
    (Value.lookup reply "provider_metadata").getD (.Mapping []) = .Mapping metadata ∧
      Value.lookup metadata "reasoning" =
        if parsed.providerReasoning = [] then none else some (.Sequence parsed.providerReasoning)

theorem parseConverseResponse_ok (h : WellFormedResponse python fields message content usage)
    {parts : List ParsedContent} (hparts : List.Forall₂ BlockParsed content parts) (model : Value) :
    ∃ reply, parseConverseResponse python (.Mapping fields) model = .ok (.Mapping reply) ∧
      ReplyTo fields message (.join parts) usage reply := by
  obtain ⟨output, houtput, hmessage⟩ := h.output
  obtain ⟨metadata, hstop, hraw⟩ := mapStopReason_ok h.stopReason
  obtain ⟨id, hid⟩ : ∃ id, ((Value.lookup fields "requestMetadata").getD (.Mapping [])).get
      "requestId" (.Str DEFAULT_MESSAGE_ID) = .ok id := by
    cases hmetadata : Value.lookup fields "requestMetadata" with
    | none => exact ⟨_, rfl⟩
    | some found =>
        have hmapping := h.requestMetadata found hmetadata
        cases found <;> first | exact ⟨_, rfl⟩ | cases hmapping
  have hfold := parseContent_ok hparts {}
  rw [ParsedContent.empty_append] at hfold
  simp only [parseConverseResponse, Value.get_mapping, ok_bind, houtput, hmessage, h.content,
    Option.getD_some, Value.iterate, hfold, hstop, hid, h.usage]
  refine ⟨_, rfl, ?_⟩
  generalize ParsedContent.join parts = parsed
  constructor
  · rfl
  · rfl
  · rfl
  · rfl
  · by_cases hthinking : parsed.thinkingBlocks = [] <;>
      by_cases hreasoning : parsed.providerReasoning = [] <;>
        cases metadata <;> simp [Value.lookup_cons, hthinking, hreasoning]
  · by_cases hreasoning : parsed.providerReasoning = []
    · refine ⟨metadata, ?_, by rw [hraw, if_pos hreasoning]⟩
      by_cases hthinking : parsed.thinkingBlocks = [] <;>
        cases metadata <;> simp [Value.lookup_cons, hthinking, hreasoning]
    · refine ⟨metadata ++ [("reasoning", .Sequence parsed.providerReasoning)], ?_, ?_⟩
      · by_cases hthinking : parsed.thinkingBlocks = [] <;>
          simp [Value.lookup_cons, hthinking, hreasoning]
      · rw [Value.lookup_append, hraw, if_neg hreasoning]
        rfl

end Responses

end ClaudeCodeProxy
