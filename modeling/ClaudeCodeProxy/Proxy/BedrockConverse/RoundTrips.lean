import ClaudeCodeProxy.Proxy.BedrockConverse.EnabledReasoning
import ClaudeCodeProxy.Proxy.BedrockConverse.ParsedResponses

-- A turn of the assistant, sent to the provider and read back, and the other way round.

namespace ClaudeCodeProxy

open Lists Python RequestBuilder

abbrev SameBlocks (blocks others : List Value) : Prop :=
  List.Forall₂ (fun block other => block.same other = true) blocks others

section Canonical

-- The blocks of a message as the client writes them.
inductive CanonicalBlock : Value → Prop
  | Text {fields : Fields} {text : String}
      (h : Value.Holds fields [("type", .Str "text"), ("text", .Str text)]) :
      CanonicalBlock (.Mapping fields)
  | ToolUse {fields : Fields} {id name : String} {input : Value}
      (h : Value.Holds fields [("type", .Str "tool_use"), ("id", .Str id), ("name", .Str name),
        ("input", input)]) :
      CanonicalBlock (.Mapping fields)

inductive CanonicalThinking : Value → Prop
  | Unsigned {fields : Fields} {text : String}
      (h : Value.Holds fields [("type", .Str "thinking"), ("thinking", .Str text)]) :
      CanonicalThinking (.Mapping fields)
  | Signed {fields : Fields} {text signature : String} (hsigned : signature ≠ "")
      (h : Value.Holds fields [("type", .Str "thinking"), ("thinking", .Str text),
        ("signature", .Str signature)]) :
      CanonicalThinking (.Mapping fields)

structure CanonicalMessage (fields : Fields) (blocks thoughts : List Value) : Prop where
  role : Value.lookup fields "role" = some (.Str "assistant")
  content : Value.lookup fields "content" = some (.Sequence blocks)
  thinkingBlocks : (Value.lookup fields "thinking_blocks").getD (.Sequence []) = .Sequence thoughts
  blocks_canonical : ∀ block ∈ blocks, CanonicalBlock block
  thoughts_canonical : ∀ block ∈ thoughts, CanonicalThinking block

variable {python : Interpreter} {role : String}

theorem printedText_of_lookup (python : Interpreter) {fields : Fields} {key s : String}
    (h : Value.lookup fields key = some (.Str s)) : printedText python fields key = .Str s := by
  simp [printedText, writtenText, h, Value.toStr]

-- The part of a reply that a block of content is, and one that a block of reasoning is.
def contentPart (block : Value) : ParsedContent := { contentBlocks := [block] }

def reasoningPart (blocks : Value × Value) : ParsedContent :=
  { thinkingBlocks := [blocks.1], providerReasoning := [blocks.2] }

theorem join_parts (reasoning : List (Value × Value)) (content : List Value) :
    ParsedContent.join (reasoning.map reasoningPart ++ content.map contentPart) =
      { contentBlocks := content
        thinkingBlocks := reasoning.map Prod.fst
        providerReasoning := reasoning.map Prod.snd } := by
  have hcontent : ParsedContent.join (content.map contentPart) = { contentBlocks := content } := by
    simp [ParsedContent.join, contentPart, List.flatMap_map]
  have hreasoning : ParsedContent.join (reasoning.map reasoningPart) =
      { thinkingBlocks := reasoning.map Prod.fst, providerReasoning := reasoning.map Prod.snd } := by
    simp [ParsedContent.join, reasoningPart, List.flatMap_map, ← List.map_eq_flatMap]
  rw [ParsedContent.join_append, hcontent, hreasoning]
  simp [ParsedContent.append]

theorem CanonicalBlock.parsed {block rendered : Value} (hcanonical : CanonicalBlock block)
    (h : BlockRendered (printedText python) role block rendered) :
    ∃ parsed, BlockParsed rendered (contentPart parsed) ∧ block.same parsed = true := by
  cases hcanonical with
  | @Text fields text hfields =>
      have htext := printedText_of_lookup python (hfields "text")
      rw [h.eq_text (hfields "type"), htext]
      exact ⟨_, .Text rfl, hfields.same⟩
  | @ToolUse fields id name input hfields =>
      have hid := printedText_of_lookup python (hfields "id")
      have hname := printedText_of_lookup python (hfields "name")
      rw [h.eq_toolUse (hfields "type"), hid, hname, hfields "input"]
      exact ⟨_, .ToolUse rfl rfl rfl rfl, hfields.same⟩

theorem CanonicalThinking.hasType {block : Value} (h : CanonicalThinking block) :
    ClaudeCodeProxy.hasType "thinking" block = true := by
  cases h with
  | Unsigned h => exact hasType_mapping.mpr (h "type")
  | Signed hsigned h => exact hasType_mapping.mpr (h "type")

theorem CanonicalThinking.parsed {block rendered : Value} (hcanonical : CanonicalThinking block)
    (h : ThinkingRendered (printedText python) block rendered) :
    ∃ parsed, BlockParsed rendered (reasoningPart parsed) ∧ block.same parsed.1 = true := by
  cases hcanonical with
  | @Unsigned fields text hfields =>
      have htext := printedText_of_lookup python (hfields "thinking")
      cases h
      rw [htext, hfields "signature"]
      exact ⟨(_, _), .Reasoning rfl rfl rfl rfl, hfields.same⟩
  | @Signed fields text signature hsigned hfields =>
      have htext := printedText_of_lookup python (hfields "thinking")
      have htruthy : (Value.Str signature).truthy = true := by simpa [Value.truthy] using hsigned
      cases h
      rw [htext, show Value.lookup fields "signature" = some (.Str signature) from
        hfields "signature", Option.getD_some, if_pos htruthy]
      exact ⟨(_, _), .Reasoning rfl rfl rfl rfl, hfields.same⟩

-- The parser takes apart what the builder has put together.
theorem parts_of_rendered {thinking content : List Value} {reasoning : List (Value × Value)}
    {blocks : List Value}
    (hthinking : List.Forall₂ (fun rendered part => BlockParsed rendered (reasoningPart part))
      thinking reasoning)
    (hcontent : List.Forall₂ (fun rendered block => BlockParsed rendered (contentPart block))
      content blocks) :
    List.Forall₂ BlockParsed (thinking ++ content)
      (reasoning.map reasoningPart ++ blocks.map contentPart) :=
  List.rel_append (List.forall₂_map_right_iff.mpr hthinking) (List.forall₂_map_right_iff.mpr hcontent)

-- The reply has this content, and these thinking blocks if there are any.
structure Returns (reply : Fields) (blocks thoughts : List Value) : Prop where
  content : ∃ parsed, Value.lookup reply "content" = some (.Sequence parsed) ∧
    SameBlocks blocks parsed
  noThinking : thoughts = [] → Value.lookup reply "thinking_blocks" = none
  thinking : thoughts ≠ [] → ∃ parsed,
    Value.lookup reply "thinking_blocks" = some (.Sequence parsed) ∧ SameBlocks thoughts parsed

theorem MessageRendered.canonical {fields : Fields} {blocks thoughts : List Value} {message : Value}
    (h : MessageRendered (printedText python) true (.Mapping fields) message)
    (hcanonical : CanonicalMessage fields blocks thoughts) :
    ∃ (rendered : List Value) (reasoning : List (Value × Value)) (parsed : List Value),
      message = .Mapping [("role", .Str "assistant"), ("content", .Sequence rendered)] ∧
      List.Forall₂ BlockParsed rendered (reasoning.map reasoningPart ++ parsed.map contentPart) ∧
      SameBlocks thoughts (reasoning.map Prod.fst) ∧ SameBlocks blocks parsed := by
  cases h with
  | @Message _ role thinking content hrole hsupported hthinking hcontent =>
      have hassistant := printedText_of_lookup python hcanonical.role
      rw [hrole] at hassistant
      cases hassistant
      have hall : thoughts.filter (hasType "thinking") = thoughts :=
        List.filter_eq_self.mpr fun block hmem => (hcanonical.thoughts_canonical block hmem).hasType
      have hthoughts : blocksOf ((Value.lookup fields "thinking_blocks").getD .None) = thoughts := by
        have hlist := hcanonical.thinkingBlocks
        cases hfound : Value.lookup fields "thinking_blocks" with
        | none =>
            rw [hfound] at hlist
            cases hlist
            rfl
        | some found =>
            rw [hfound] at hlist
            cases hlist
            rfl
      simp only [replayedThinking, beq_self_eq_true, if_true, hthoughts, hall] at hthinking
      rw [hcanonical.content] at hcontent
      obtain ⟨reasoning, hreasoning, hsame⟩ := forall₂_choose hthinking
        fun block hmem rendered => (hcanonical.thoughts_canonical block hmem).parsed
      obtain ⟨parsed, hparsed, hblocks⟩ := forall₂_choose hcontent
        fun block hmem rendered => (hcanonical.blocks_canonical block hmem).parsed
      exact ⟨thinking ++ content, reasoning, parsed, rfl, parts_of_rendered hreasoning hparsed,
        List.forall₂_map_right_iff.mpr hsame, hblocks⟩

-- What the client wrote is what it reads.
theorem canonical_message_round_trip {request : Value} {resolvedModel : ResolvedModel}
    {built : ConverseRequest} {rawMessages blocks thoughts : List Value} {i : Nat}
    {fields : Fields} (h : buildConverseRequest python request resolvedModel = .ok built)
    (henabled : built.reasoningEnabled = true) (hraw : requestMessages request = .ok rawMessages)
    (hmessage : rawMessages[i]? = some (.Mapping fields))
    (hcanonical : CanonicalMessage fields blocks thoughts) :
    ∃ messages message wrapped, built.payload.item "messages" = .ok (.Sequence messages) ∧
      messages[i]? = some message ∧ message.item "content" = .ok (.Sequence wrapped) ∧
      ∀ response output usage model, WellFormedResponse python response output wrapped usage →
        ∃ reply, parseConverseResponse python (.Mapping response) model = .ok (.Mapping reply) ∧
          Returns reply blocks thoughts := by
  obtain ⟨parts, hparts, rfl⟩ := buildConverseRequest_ok_iff.mp h
  have hsame : rawMessages = parts.rawMessages := Except.ok.inj (hraw.symm.trans hparts.iterated)
  subst hsame
  obtain ⟨message, hindex, hrendered⟩ := forall₂_getElem? hparts.rendered hmessage
  rw [show parts.reasoningEnabled = true from henabled] at hrendered
  obtain ⟨wrapped, reasoning, parsed, rfl, hblocks, hthoughts, hcontent⟩ :=
    hrendered.canonical hcanonical
  refine ⟨parts.messages, _, wrapped, Value.item_eq_ok.mpr parts.lookup_messages, hindex, rfl, ?_⟩
  intro response output usage model hresponse
  obtain ⟨reply, hreply, hreplies⟩ := parseConverseResponse_ok hresponse hblocks model
  rw [join_parts] at hreplies
  have hthinking := hreplies.thinkingBlocks
  refine ⟨reply, hreply, ⟨parsed, hreplies.content, hcontent⟩, ?_, ?_⟩
  · rintro rfl
    have hempty := List.forall₂_nil_left_iff.mp hthoughts
    rw [hthinking, if_pos hempty]
  · intro hne
    have hnonempty : reasoning.map Prod.fst ≠ [] := by
      intro hempty
      rw [hempty] at hthoughts
      exact hne (List.forall₂_nil_right_iff.mp hthoughts)
    exact ⟨_, by rw [hthinking, if_neg hnonempty], hthoughts⟩

theorem sampleTurns_canonical : CanonicalMessage
    [("role", .Str "assistant"), ("content", .Sequence [sampleToolUse]),
      ("thinking_blocks", .Sequence [sampleThinking])] [sampleToolUse] [sampleThinking] where
  role := rfl
  content := rfl
  thinkingBlocks := rfl
  blocks_canonical := by
    intro block hmem
    rw [List.mem_singleton.mp hmem]
    exact @CanonicalBlock.ToolUse _ "call-1" "search" _ fun key => rfl
  thoughts_canonical := by
    intro block hmem
    rw [List.mem_singleton.mp hmem]
    exact @CanonicalThinking.Signed _ "Look it up." "c2ln" (by decide) fun key => rfl

-- A provider that returns the content.
def sampleEchoMessage (content : List Value) : Fields :=
  [("role", .Str "assistant"), ("content", .Sequence content)]

def sampleEcho (content : List Value) : Fields := [
  ("output", .Mapping [("message", .Mapping (sampleEchoMessage content))]),
  ("stopReason", .Str "tool_use"),
  ("usage", .Mapping [("inputTokens", .Integer 3), ("outputTokens", .Integer 5)])]

theorem sampleEcho_wellFormed (content : List Value) :
    WellFormedResponse samplePython (sampleEcho content) (sampleEchoMessage content) content
      { inputTokens := 3, outputTokens := 5 } where
  output := ⟨_, rfl, rfl⟩
  content := rfl
  stopReason := rfl
  requestMetadata := by
    intro metadata hmetadata
    cases hmetadata
  usage := rfl

theorem canonical_message_sample : ∃ built messages message wrapped reply,
    buildConverseRequest samplePython (sampleTurns [sampleThinking]) (sampleModel true) =
      .ok built ∧ built.payload.item "messages" = .ok (.Sequence messages) ∧
    messages[1]? = some message ∧ message.item "content" = .ok (.Sequence wrapped) ∧
    parseConverseResponse samplePython (.Mapping (sampleEcho wrapped)) (.Str "claude-sonnet-4") =
      .ok (.Mapping reply) ∧ Returns reply [sampleToolUse] [sampleThinking] := by
  have h : ∃ built rawMessages, buildConverseRequest samplePython (sampleTurns [sampleThinking])
      (sampleModel true) = .ok built ∧ built.reasoningEnabled = true ∧
      requestMessages (sampleTurns [sampleThinking]) = .ok rawMessages ∧
      rawMessages[1]? = some (.Mapping [("role", .Str "assistant"),
        ("content", .Sequence [sampleToolUse]), ("thinking_blocks", .Sequence [sampleThinking])]) :=
    ⟨_, _, rfl, rfl, rfl, rfl⟩
  obtain ⟨built, rawMessages, h, henabled, hraw, hmessage⟩ := h
  obtain ⟨messages, message, wrapped, hmessages, hindex, hcontent, hreturns⟩ :=
    canonical_message_round_trip h henabled hraw hmessage sampleTurns_canonical
  obtain ⟨reply, hreply, hsame⟩ := hreturns (sampleEcho wrapped) (sampleEchoMessage wrapped) _
    (.Str "claude-sonnet-4") (sampleEcho_wellFormed wrapped)
  exact ⟨built, messages, message, wrapped, reply, h, hmessages, hindex, hcontent, hreply, hsame⟩

end Canonical

section Turns

-- A block of a message of the provider. What is read of the reasoning is a text; it may be
-- signed anywhere, or be redacted.
inductive TurnBlock : Value → Prop
  | Text {fields : Fields} {text : String} (h : Value.Holds fields [("text", .Str text)]) :
      TurnBlock (.Mapping fields)
  | ToolUse {fields tool : Fields} {toolUseId name : String} {input : Value}
      (h : Value.Holds fields [("toolUse", .Mapping tool)])
      (htool : Value.Holds tool [("toolUseId", .Str toolUseId), ("name", .Str name),
        ("input", input)]) :
      TurnBlock (.Mapping fields)
  | Reasoning {fields reasoning : Fields} {text : String}
      (h : Value.Holds fields [("reasoningContent", .Mapping reasoning)])
      (hread : reasoningText reasoning = some (.Str text)) :
      TurnBlock (.Mapping fields)

-- A text, perhaps with a signature beside it, and nothing else.
structure PlainReasoning (reasoning : Fields) : Prop where
  text : ∃ inner text, Value.lookup reasoning "reasoningText" = some (.Mapping inner) ∧
    Value.Holds inner [("text", .Str text)]
  signature : ∀ signature, Value.lookup reasoning "signature" = some signature →
    signature.truthy = true
  others : ∀ key, key ≠ "reasoningText" → key ≠ "signature" → Value.lookup reasoning key = none

def PlainBlock (block : Value) : Prop :=
  ∀ fields reasoning, block = .Mapping fields →
    Value.lookup fields "reasoningContent" = some (.Mapping reasoning) → PlainReasoning reasoning

variable {python : Interpreter}

theorem same_str_iff {value : Value} {s : String} :
    value.same (.Str s) = true ↔ value = .Str s := by
  cases value <;> simp [Value.same]

theorem mapping_of_same {value : Value} {entries : Fields}
    (h : value.same (.Mapping entries) = true) : ∃ others, value = .Mapping others := by
  cases value with
  | Mapping others => exact ⟨others, rfl⟩
  | _ => simp [Value.same] at h

-- The signature that is replayed.
def replayedSignature (reasoning : Fields) : Option Value :=
  (Value.lookup reasoning "signature").filter Value.truthy

-- What is replayed of a reasoning object.
def replayedReasoning (text : Value) (reasoning : Fields) : Fields :=
  [("reasoningText", textBlock text)] ++
    (replayedSignature reasoning).toList.map fun signature => ("signature", signature)

theorem lookup_replayedReasoning (text : Value) (reasoning : Fields) (key : String) :
    Value.lookup (replayedReasoning text reasoning) key =
      if key = "reasoningText" then some (textBlock text)
      else if key = "signature" then replayedSignature reasoning else none := by
  unfold replayedReasoning
  cases replayedSignature reasoning with
  | none => simp [Value.lookup_cons]
  | some signature => simp [Value.lookup_cons]

theorem holds_of_same {inner : Fields} {key s : String}
    (h : (Value.Mapping inner).same (.Mapping [(key, .Str s)]) = true) :
    Value.Holds inner [(key, .Str s)] := by
  intro other
  have hother := Value.same_mapping_iff.mp h other
  rw [Value.lookup_cons, Value.lookup_nil] at hother ⊢
  split_ifs at hother ⊢ with hkey
  · generalize Value.lookup inner other = found at hother
    cases hother with
    | some hsame => rw [same_str_iff.mp hsame]
  · generalize Value.lookup inner other = found at hother
    cases hother
    rfl

theorem PlainReasoning.same {reasoning : Fields} {text : String} (h : PlainReasoning reasoning)
    (hread : reasoningText reasoning = some (.Str text)) :
    (Value.Mapping reasoning).same (.Mapping (replayedReasoning (.Str text) reasoning)) = true := by
  rw [Value.same_mapping_iff]
  intro key
  rw [lookup_replayedReasoning]
  by_cases htext : key = "reasoningText"
  · obtain ⟨inner, other, hinner, hholds⟩ := h.text
    have hsame : other = text := by
      simp only [reasoningText, hinner, Option.getD_some, hholds "text"] at hread
      cases hread
      rfl
    subst hsame
    rw [if_pos htext, htext, hinner]
    exact .some hholds.same
  rw [if_neg htext]
  by_cases hsignature : key = "signature"
  · rw [if_pos hsignature, hsignature]
    unfold replayedSignature
    cases hfound : Value.lookup reasoning "signature" with
    | none => exact .none
    | some signature =>
        rw [Option.filter_some, if_pos (h.signature signature hfound)]
        exact .some (Value.same_refl signature)
  · rw [if_neg hsignature, h.others key htext hsignature]
    exact .none

theorem plainReasoning_of_same {reasoning : Fields} {text : String}
    (h : (Value.Mapping reasoning).same
      (.Mapping (replayedReasoning (.Str text) reasoning)) = true) : PlainReasoning reasoning := by
  have hkeys := Value.same_mapping_iff.mp h
  simp only [lookup_replayedReasoning] at hkeys
  constructor
  · have htext := hkeys "reasoningText"
    rw [if_pos rfl] at htext
    generalize hfound : Value.lookup reasoning "reasoningText" = found at htext
    cases htext with
    | some hsame =>
        obtain ⟨inner, rfl⟩ := mapping_of_same hsame
        exact ⟨inner, text, rfl, holds_of_same hsame⟩
  · intro signature hfound
    have hsignature := hkeys "signature"
    rw [if_neg (by decide), if_pos rfl, replayedSignature, hfound, Option.filter_some] at hsignature
    by_contra hfalsy
    rw [if_neg hfalsy] at hsignature
    cases hsignature
  · intro key htext hsignature
    have hkey := hkeys key
    rw [if_neg htext, if_neg hsignature] at hkey
    generalize Value.lookup reasoning key = found at hkey
    cases hkey
    rfl

-- A block of content comes back the same.
def KeepsContent (python : Interpreter) (block parsed : Value) : Prop :=
  ∀ rendered, BlockRendered (printedText python) "assistant" parsed rendered →
    block.same rendered = true

-- A block of reasoning comes back the same if it is plain.
def KeepsReasoning (python : Interpreter) (block parsed : Value) : Prop :=
  hasType "thinking" parsed = true ∧
    ∀ rendered, ThinkingRendered (printedText python) parsed rendered →
      (block.same rendered = true ↔ PlainBlock block)

theorem lookup_thinkingBlock (text : Value) (signature : Option Value) :
    Value.lookup ([("type", .Str "thinking"), ("thinking", text)] ++
      signature.toList.map fun signature => ("signature", signature)) "signature" = signature := by
  cases signature <;> rfl

-- A signature that is nothing is dropped by the parser, an empty one by the builder.
theorem replayedSignature_eq (reasoning : Fields) :
    (replayedSignature reasoning).toList.map (fun signature => ("signature", signature)) =
      if ((topSignature reasoning).getD .None).truthy then
        [("signature", (topSignature reasoning).getD .None)] else [] := by
  unfold replayedSignature topSignature
  cases Value.lookup reasoning "signature" with
  | none => rfl
  | some signature =>
      by_cases htruthy : signature.truthy = true
      · have hnone : signature.isNone = false := by cases signature <;> first | rfl | cases htruthy
        simp [Option.filter_some, htruthy, hnone]
      · have hfalsy : ¬(((some signature).filter fun signature => !signature.isNone).getD
            .None).truthy = true := by
          rw [Option.filter_some]
          split_ifs
          · exact htruthy
          · simp [Value.truthy]
        rw [Option.filter_some, if_neg htruthy, if_neg hfalsy]
        rfl

theorem thinkingRendered_thinkingBlock {text : String} {reasoning : Fields} {rendered : Value}
    (h : ThinkingRendered (printedText python)
      (thinkingBlock (.Str text) (topSignature reasoning)) rendered) :
    rendered = .Mapping [("reasoningContent", .Mapping (replayedReasoning (.Str text) reasoning))] := by
  generalize hblock : thinkingBlock (.Str text) (topSignature reasoning) = block at h
  cases h
  cases hblock
  rw [lookup_thinkingBlock, ← replayedSignature_eq]
  rfl

theorem TurnBlock.keeps (python : Interpreter) {block : Value} (h : TurnBlock block) :
    (isReasoning block = false ∧ ∃ parsed, BlockParsed block (contentPart parsed) ∧
      KeepsContent python block parsed) ∨
    (isReasoning block = true ∧ ∃ parsed, BlockParsed block (reasoningPart parsed) ∧
      KeepsReasoning python block parsed.1) := by
  cases h with
  | @Text fields text hfields =>
      refine .inl ⟨by rw [isReasoning, hfields]; rfl, _,
        .Text (hfields "text"), ?_⟩
      intro rendered hrendered
      rw [hrendered.eq_text rfl]
      exact hfields.same
  | @ToolUse fields tool toolUseId name input hfields htool =>
      refine .inl ⟨by rw [isReasoning, hfields]; rfl, _,
        .ToolUse (hfields "text") (hfields "toolUse") (htool "toolUseId") (htool "name"), ?_⟩
      intro rendered hrendered
      rw [hrendered.eq_toolUse rfl, htool "input"]
      exact (hfields.same_singleton_iff).mpr htool.same
  | @Reasoning fields reasoning text hfields hread =>
      refine .inr ⟨by rw [isReasoning, hfields]; rfl, (_, _),
        .Reasoning (hfields "text") (hfields "toolUse") (hfields "reasoningContent") hread,
        rfl, ?_⟩
      intro rendered hrendered
      rw [thinkingRendered_thinkingBlock hrendered, hfields.same_singleton_iff]
      constructor
      · intro hsame found other hfound hother
        cases hfound
        rw [hfields "reasoningContent"] at hother
        cases hother
        exact plainReasoning_of_same hsame
      · intro hplain
        exact (hplain fields reasoning rfl (hfields "reasoningContent")).same hread

theorem turn_parts (python : Interpreter) {blocks : List Value}
    (h : ∀ block ∈ blocks, TurnBlock block) :
    ∃ (parts : List ParsedContent) (content : List Value) (reasoning : List (Value × Value)),
      List.Forall₂ BlockParsed blocks parts ∧
      ParsedContent.join parts = { contentBlocks := content
                                   thinkingBlocks := reasoning.map Prod.fst
                                   providerReasoning := reasoning.map Prod.snd } ∧
      List.Forall₂ (KeepsContent python) (blocks.filter fun block => !isReasoning block) content ∧
      List.Forall₂ (KeepsReasoning python) (blocks.filter isReasoning)
        (reasoning.map Prod.fst) := by
  induction blocks with
  | nil => exact ⟨[], [], [], .nil, rfl, .nil, .nil⟩
  | cons block blocks ih =>
      obtain ⟨parts, content, reasoning, hparts, hjoin, hcontent, hreasoning⟩ :=
        ih fun block hmem => h block (.tail _ hmem)
      rcases (h block (.head _)).keeps python with ⟨hother, parsed, hparsed, hkeeps⟩ |
        ⟨hthinking, parsed, hparsed, hkeeps⟩
      · refine ⟨contentPart parsed :: parts, parsed :: content, reasoning, .cons hparsed hparts, ?_,
          ?_, ?_⟩
        · rw [← ParsedContent.empty_append (.join _), ← ParsedContent.append_join_cons, hjoin]
          rfl
        · rw [List.filter_cons_of_pos (by simp [hother])]
          exact .cons hkeeps hcontent
        · rw [List.filter_cons_of_neg (by simp [hother])]
          exact hreasoning
      · refine ⟨reasoningPart parsed :: parts, content, parsed :: reasoning, .cons hparsed hparts,
          ?_, ?_, ?_⟩
        · rw [← ParsedContent.empty_append (.join _), ← ParsedContent.append_join_cons, hjoin]
          rfl
        · rw [List.filter_cons_of_neg (by simp [hthinking])]
          exact hcontent
        · rw [List.filter_cons_of_pos hthinking]
          exact .cons hkeeps hreasoning

-- A message of the history that hands back a reply.
structure HandsBack (fields reply : Fields) : Prop where
  role : Value.lookup fields "role" = some (.Str "assistant")
  content : Value.lookup fields "content" = Value.lookup reply "content"
  thinkingBlocks : Value.lookup fields "thinking_blocks" = Value.lookup reply "thinking_blocks"

theorem MessageRendered.handedBack {blocks content thoughts : List Value} {fields : Fields}
    {message : Value} (h : MessageRendered (printedText python) true (.Mapping fields) message)
    (hrole : Value.lookup fields "role" = some (.Str "assistant"))
    (hcontent : Value.lookup fields "content" = some (.Sequence content))
    (hthoughts : blocksOf ((Value.lookup fields "thinking_blocks").getD .None) = thoughts)
    (hkeeps : List.Forall₂ (KeepsContent python)
      (blocks.filter fun block => !isReasoning block) content)
    (hreplays : List.Forall₂ (KeepsReasoning python) (blocks.filter isReasoning) thoughts) :
    ∃ rendered, message = .Mapping [("role", .Str "assistant"), ("content", .Sequence rendered)] ∧
      (SameBlocks (blocks.filter isReasoning ++ blocks.filter fun block => !isReasoning block)
        rendered ↔ ∀ block ∈ blocks, PlainBlock block) := by
  cases h with
  | @Message _ role thinking rest hprinted hsupported hthinking hrest =>
      have hassistant := printedText_of_lookup python hrole
      rw [hprinted] at hassistant
      cases hassistant
      have hall : thoughts.filter (hasType "thinking") = thoughts :=
        List.filter_eq_self.mpr (forall_right hreplays fun _ _ h => h.1)
      simp only [replayedThinking, beq_self_eq_true, if_true, hthoughts, hall] at hthinking
      rw [hcontent] at hrest
      have hsame : SameBlocks (blocks.filter fun block => !isReasoning block) rest :=
        forall₂_through hkeeps hrest
      have hplain := forall₂_iff_forall (forall₂_through (hreplays.imp fun _ _ h => h.2) hthinking)
      refine ⟨thinking ++ rest, rfl, ?_⟩
      unfold SameBlocks
      rw [forall₂_append_iff (hreplays.length_eq.trans hthinking.length_eq), hplain]
      constructor
      · rintro ⟨hplain, -⟩ block hmem fields reasoning rfl hfound
        have hreasoning : isReasoning (.Mapping fields) = true := by rw [isReasoning, hfound]; rfl
        exact hplain _ (List.mem_filter.mpr ⟨hmem, hreasoning⟩) fields reasoning rfl hfound
      · exact fun hplain => ⟨fun block hmem => hplain block (List.mem_of_mem_filter hmem), hsame⟩

-- The provider gets the blocks of the turn again, those of reasoning first.
def ReplaysTurn (payload : Value) (i : Nat) (blocks : List Value) : Prop :=
  ∃ messages message rendered, payload.item "messages" = .ok (.Sequence messages) ∧
    messages[i]? = some message ∧ Value.item message "content" = .ok (.Sequence rendered) ∧
    SameBlocks (blocks.filter isReasoning ++ blocks.filter fun block => !isReasoning block) rendered

-- A turn of the provider that is handed back reaches it unchanged if its reasoning is plain.
theorem turn_round_trip_iff {request : Value} {resolvedModel : ResolvedModel}
    {built : ConverseRequest} {response output reply fields : Fields}
    {blocks rawMessages : List Value} {usage : Usage} {model : Value} {i : Nat}
    (hturn : ∀ block ∈ blocks, TurnBlock block)
    (hresponse : WellFormedResponse python response output blocks usage)
    (hreply : parseConverseResponse python (.Mapping response) model = .ok (.Mapping reply))
    (hback : HandsBack fields reply)
    (h : buildConverseRequest python request resolvedModel = .ok built)
    (henabled : built.reasoningEnabled = true) (hraw : requestMessages request = .ok rawMessages)
    (hmessage : rawMessages[i]? = some (.Mapping fields)) :
    ReplaysTurn built.payload i blocks ↔ ∀ block ∈ blocks, PlainBlock block := by
  obtain ⟨parts, content, reasoning, hblocks, hjoin, hkeeps, hreplays⟩ :=
    turn_parts python hturn
  obtain ⟨_, hparsed, hreplies⟩ := parseConverseResponse_ok hresponse hblocks model
  rw [hreply] at hparsed
  cases hparsed
  rw [hjoin] at hreplies
  obtain ⟨built, hbuilt, rfl⟩ := buildConverseRequest_ok_iff.mp h
  have hsame : rawMessages = built.rawMessages := Except.ok.inj (hraw.symm.trans hbuilt.iterated)
  subst hsame
  obtain ⟨message, hindex, hrendered⟩ := forall₂_getElem? hbuilt.rendered hmessage
  rw [show built.reasoningEnabled = true from henabled] at hrendered
  have hthoughts : blocksOf ((Value.lookup fields "thinking_blocks").getD .None) =
      reasoning.map Prod.fst := by
    rw [hback.thinkingBlocks, hreplies.thinkingBlocks]
    split_ifs with hempty
    · exact hempty.symm
    · rfl
  obtain ⟨rendered, rfl, hiff⟩ := hrendered.handedBack hback.role
    (hback.content.trans hreplies.content) hthoughts hkeeps hreplays
  rw [← hiff]
  constructor
  · rintro ⟨messages, message, others, hmessages, hother, hcontent, hsame⟩
    have hlist := (Value.item_eq_ok.mp hmessages).symm.trans built.lookup_messages
    cases hlist
    rw [hindex] at hother
    cases hother
    cases hcontent
    exact hsame
  · intro hsame
    exact ⟨built.messages, _, rendered, Value.item_eq_ok.mpr built.lookup_messages, hindex, rfl,
      hsame⟩

section Samples

def sampleReasoningTurn (reasoning : Fields) : List Value := [
  .Mapping [("reasoningContent", .Mapping reasoning)],
  .Mapping [("toolUse", .Mapping [("toolUseId", .Str "call-1"), ("name", .Str "search"),
    ("input", .Mapping [("query", .Str "weather")])])]]

def sampleReasoningMessage (reasoning : Fields) : Fields :=
  [("role", .Str "assistant"), ("content", .Sequence (sampleReasoningTurn reasoning))]

def sampleReasoningResponse (reasoning : Fields) : Fields := [
  ("output", .Mapping [("message", .Mapping (sampleReasoningMessage reasoning))]),
  ("stopReason", .Str "tool_use")]

def sampleHandedBack (thinkingBlock : Value) : Fields := [
  ("role", .Str "assistant"), ("content", .Sequence [sampleToolUse]),
  ("thinking_blocks", .Sequence [thinkingBlock])]

theorem sampleReasoning_turn (reasoning : Fields) (text : String)
    (hread : reasoningText reasoning = some (.Str text)) :
    ∀ block ∈ sampleReasoningTurn reasoning, TurnBlock block := by
  intro block hmem
  simp only [sampleReasoningTurn, List.mem_cons, List.not_mem_nil, or_false] at hmem
  rcases hmem with rfl | rfl
  · exact .Reasoning (fun key => rfl) hread
  · exact @TurnBlock.ToolUse _ _ "call-1" "search" _ (fun key => rfl) fun key => rfl

theorem sampleReasoning_wellFormed (reasoning : Fields) :
    WellFormedResponse samplePython (sampleReasoningResponse reasoning)
      (sampleReasoningMessage reasoning) (sampleReasoningTurn reasoning) {} where
  output := ⟨_, rfl, rfl⟩
  content := rfl
  stopReason := rfl
  requestMetadata := by
    rintro metadata ⟨⟩
  usage := rfl

def samplePlainReasoning : Fields := [
  ("reasoningText", .Mapping [("text", .Str "Look it up.")]), ("signature", .Str "c2ln")]

-- The provider signs inside of the text.
def sampleSignedReasoning : Fields := [
  ("reasoningText", .Mapping [("text", .Str "Look it up."), ("signature", .Str "c2ln")])]

theorem turn_round_trip_sample : ∃ built,
    buildConverseRequest samplePython (sampleTurns [sampleThinking]) (sampleModel true) =
      .ok built ∧ ReplaysTurn built.payload 1 (sampleReasoningTurn samplePlainReasoning) := by
  have h : ∃ built rawMessages reply, buildConverseRequest samplePython
      (sampleTurns [sampleThinking]) (sampleModel true) = .ok built ∧
      built.reasoningEnabled = true ∧
      requestMessages (sampleTurns [sampleThinking]) = .ok rawMessages ∧
      rawMessages[1]? = some (.Mapping (sampleHandedBack sampleThinking)) ∧
      parseConverseResponse samplePython
        (.Mapping (sampleReasoningResponse samplePlainReasoning)) .None = .ok (.Mapping reply) ∧
      HandsBack (sampleHandedBack sampleThinking) reply :=
    ⟨_, _, _, rfl, rfl, rfl, rfl, rfl, rfl, rfl, rfl⟩
  obtain ⟨built, rawMessages, reply, h, henabled, hraw, hmessage, hreply, hback⟩ := h
  have hiff := turn_round_trip_iff (sampleReasoning_turn _ "Look it up." rfl)
    (sampleReasoning_wellFormed samplePlainReasoning) hreply hback h henabled hraw hmessage
  refine ⟨built, h, hiff.mpr ?_⟩
  intro block hmem fields reasoning hblock hfound
  simp only [sampleReasoningTurn, List.mem_cons, List.not_mem_nil, or_false] at hmem
  rcases hmem with rfl | rfl
  · cases hblock
    cases hfound
    refine ⟨⟨_, "Look it up.", rfl, fun key => rfl⟩, ?_, ?_⟩
    · rintro signature ⟨⟩
      rfl
    · intro key htext hsignature
      simp [samplePlainReasoning, Value.lookup_cons, htext, hsignature]
  · cases hblock
    cases hfound

-- A signature inside of the text is lost on the way to the client.
theorem inner_signature_not_replayed :
    ¬∀ python request resolvedModel built response output reply fields blocks rawMessages usage
        model i,
      (∀ block ∈ blocks, TurnBlock block) →
      WellFormedResponse python response output blocks usage →
      parseConverseResponse python (.Mapping response) model = .ok (.Mapping reply) →
      HandsBack fields reply →
      buildConverseRequest python request resolvedModel = .ok built →
      built.reasoningEnabled = true → requestMessages request = .ok rawMessages →
      rawMessages[i]? = some (Value.Mapping fields) → ReplaysTurn built.payload i blocks := by
  intro hclaim
  let unsigned := Value.Mapping [("type", .Str "thinking"), ("thinking", .Str "Look it up.")]
  have h : ∃ built rawMessages reply messages message rendered,
      buildConverseRequest samplePython (sampleTurns [unsigned]) (sampleModel true) = .ok built ∧
      built.reasoningEnabled = true ∧ requestMessages (sampleTurns [unsigned]) = .ok rawMessages ∧
      rawMessages[1]? = some (.Mapping (sampleHandedBack unsigned)) ∧
      parseConverseResponse samplePython
        (.Mapping (sampleReasoningResponse sampleSignedReasoning)) .None = .ok (.Mapping reply) ∧
      HandsBack (sampleHandedBack unsigned) reply ∧
      built.payload.item "messages" = .ok (.Sequence messages) ∧ messages[1]? = some message ∧
      Value.item message "content" = .ok (.Sequence rendered) ∧
      Value.sameItems (sampleReasoningTurn sampleSignedReasoning) rendered = false :=
    ⟨_, _, _, _, _, _, rfl, rfl, rfl, rfl, rfl, ⟨rfl, rfl, rfl⟩, rfl, rfl, rfl, rfl⟩
  obtain ⟨built, rawMessages, reply, messages, message, rendered, h, henabled, hraw, hmessage,
    hreply, hback, hmessages, hindex, hcontent, hdifferent⟩ := h
  obtain ⟨_, _, _, hmessages', hindex', hcontent', hsame⟩ := hclaim _ _ _ _ _ _ _ _ _ _ _ _ 1
    (sampleReasoning_turn _ "Look it up." rfl)
    (sampleReasoning_wellFormed sampleSignedReasoning) hreply hback h henabled hraw hmessage
  rw [hmessages] at hmessages'
  cases hmessages'
  rw [hindex] at hindex'
  cases hindex'
  rw [hcontent] at hcontent'
  cases hcontent'
  have hitems : Value.sameItems (sampleReasoningTurn sampleSignedReasoning) rendered = true :=
    Value.sameItems_iff.mpr hsame
  rw [hdifferent] at hitems
  cases hitems

end Samples

end Turns

end ClaudeCodeProxy
