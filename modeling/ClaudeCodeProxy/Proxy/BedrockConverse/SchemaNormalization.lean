import ClaudeCodeProxy.Proxy.BedrockConverse.RequestBuilder
import ClaudeCodeProxy.Schema.Positions

namespace ClaudeCodeProxy

open Python Schema

namespace RequestBuilder

-- The keywords of a JSON schema that hold other schemas.
def subschemaKeywords : Vocabulary where
  single := ["items", "additionalItems", "unevaluatedItems", "contains", "additionalProperties",
    "unevaluatedProperties", "propertyNames", "not", "if", "then", "else", "contentSchema"]
  listed := ["items", "prefixItems", "anyOf", "allOf", "oneOf"]
  named := ["properties", "patternProperties", "$defs", "definitions", "dependentSchemas",
    "dependencies"]

-- Those under which `_inject_additional_properties_false` goes on.
def followedKeywords : Vocabulary where
  single := ["items"]
  listed := ["items", "anyOf", "allOf", "oneOf"]
  named := ["properties", "$defs", "definitions"]

def rewrittenKeywords : List String :=
  ["properties", "$defs", "definitions", "items", "anyOf", "allOf", "oneOf"]

-- `node.setdefault("additionalProperties", False)` adds the entry.
def opensObject (node : List (String × Value)) : Bool :=
  ((Value.lookup node "type").getD .None).isStr "object" &&
    (Value.lookup node "additionalProperties").isNone

def additionalPropertiesFalse : String × Value := ("additionalProperties", .Boolean false)

def addedEntries (node : List (String × Value)) : List (String × Value) :=
  if opensObject node then [additionalPropertiesFalse] else []

theorem injectAdditionalPropertiesFalse_mapping (node : List (String × Value)) :
    injectAdditionalPropertiesFalse (.Mapping node) =
      .Mapping (injectEntries node ++ addedEntries node) := by
  rw [injectAdditionalPropertiesFalse]
  by_cases h : opensObject node
  · rw [addedEntries, if_pos h]
    exact if_pos h
  · rw [addedEntries, if_neg h, List.append_nil]
    exact if_neg h

theorem injectItems_eq_map (items : List Value) :
    injectItems items = items.map injectAdditionalPropertiesFalse := by
  induction items with
  | nil => rfl
  | cons item items ih => rw [injectItems, List.map_cons, ih]

theorem injectEntries_eq_map (node : List (String × Value)) :
    injectEntries node = node.map fun entry => (entry.1, injectKeyword entry.1 entry.2) := by
  induction node with
  | nil => rfl
  | cons entry node ih => rw [injectEntries, List.map_cons, ih]; rfl

theorem injectValues_eq_map (schemas : List (String × Value)) :
    injectValues schemas =
      schemas.map fun entry => (entry.1, injectAdditionalPropertiesFalse entry.2) := by
  induction schemas with
  | nil => rfl
  | cons entry schemas ih => rw [injectValues, List.map_cons, ih]

theorem lookup_addedEntries (node : List (String × Value)) (key : String) :
    Value.lookup (addedEntries node) key =
      if key = "additionalProperties" ∧ opensObject node = true then some (.Boolean false)
      else none := by
  rw [addedEntries]
  by_cases h : opensObject node <;> simp [h, additionalPropertiesFalse, Value.lookup_cons]

-- A key is looked up in the rewritten node as in the node itself, then rewritten.
theorem lookup_injected (node : List (String × Value)) (key : String) :
    Value.lookup (injectEntries node ++ addedEntries node) key =
      ((Value.lookup node key).map (injectKeyword key)).or
        (if key = "additionalProperties" ∧ opensObject node = true then some (.Boolean false)
        else none) := by
  rw [Value.lookup_append, injectEntries_eq_map, Value.lookup_map, lookup_addedEntries]

theorem injectKeyword_of_not_mem {key : String}
    (h : key ∉ rewrittenKeywords)
    (value : Value) : injectKeyword key value = value := by
  simp only [rewrittenKeywords, List.mem_cons, List.not_mem_nil, or_false, not_or] at h
  simp [injectKeyword, h]

theorem lookup_injected_of_other {node : List (String × Value)} {key : String}
    (h : key ∉ rewrittenKeywords) :
    Value.lookup (injectEntries node ++ addedEntries node) key =
      (Value.lookup node key).or
        (if key = "additionalProperties" ∧ opensObject node = true then some (.Boolean false)
        else none) := by
  rw [lookup_injected]
  cases Value.lookup node key with
  | none => rfl
  | some value => rw [Option.map_some, injectKeyword_of_not_mem h]

theorem lookup_injected_of_followed {node : List (String × Value)} {key : String}
    (h : key ≠ "additionalProperties") :
    Value.lookup (injectEntries node ++ addedEntries node) key =
      (Value.lookup node key).map (injectKeyword key) := by
  rw [lookup_injected, if_neg (fun hkey => h hkey.1), Option.or_none]

-- What a followed step finds is rewritten as a schema.
theorem find_injectKeyword {step : Step} (h : followedKeywords.Has step) (value : Value) :
    step.find (injectKeyword step.keyword value) =
      (step.find value).map injectAdditionalPropertiesFalse := by
  cases step with
  | Single keyword =>
      obtain rfl : keyword = "items" := by simpa [Vocabulary.Has, followedKeywords] using h
      rfl
  | Listed keyword index =>
      have hkey : injectKeyword keyword value = injectAdditionalPropertiesFalse value := by
        rcases (by simpa [Vocabulary.Has, followedKeywords] using h :
          keyword = "items" ∨ keyword = "anyOf" ∨ keyword = "allOf" ∨ keyword = "oneOf")
          with rfl | rfl | rfl | rfl <;> rfl
      rw [Step.keyword, hkey]
      cases value with
      | Sequence schemas =>
          simp [injectAdditionalPropertiesFalse, Step.find, injectItems_eq_map]
      | Mapping schemas => rw [injectAdditionalPropertiesFalse_mapping]; rfl
      | _ => rfl
  | Named keyword name =>
      have hkey : injectKeyword keyword value = injectNamed value := by
        rcases (by simpa [Vocabulary.Has, followedKeywords] using h :
          keyword = "properties" ∨ keyword = "$defs" ∨ keyword = "definitions")
          with rfl | rfl | rfl <;> rfl
      rw [Step.keyword, hkey]
      cases value with
      | Mapping schemas =>
          rw [injectNamed, injectValues_eq_map]
          exact Value.lookup_map (fun _ => injectAdditionalPropertiesFalse) schemas name
      | _ => rfl

theorem ne_additionalProperties_of_followed {step : Step} (h : followedKeywords.Has step) :
    step.keyword ≠ "additionalProperties" := by
  intro hkey
  cases step <;> rw [Step.keyword] at hkey <;> subst hkey <;>
    simp [Vocabulary.Has, followedKeywords] at h

-- A keyword that is not followed in one way is not followed in another either.
theorem keyword_not_mem_of_left {step : Step} (h : subschemaKeywords.Has step)
    (hleft : ¬followedKeywords.Has step) :
    step.keyword ∉ rewrittenKeywords := by
  intro hkey
  simp only [rewrittenKeywords, List.mem_cons, List.not_mem_nil, or_false] at hkey
  cases step <;> rw [Step.keyword] at hkey <;>
    rcases hkey with rfl | rfl | rfl | rfl | rfl | rfl | rfl <;>
    simp [Vocabulary.Has, followedKeywords, subschemaKeywords] at h hleft

theorem injectAdditionalPropertiesFalse_follows :
    Follows injectAdditionalPropertiesFalse followedKeywords subschemaKeywords where
  walks := by
    intro node step hstep
    cases node with
    | Mapping entries =>
        rw [injectAdditionalPropertiesFalse_mapping, child, child,
          lookup_injected_of_followed (ne_additionalProperties_of_followed hstep)]
        cases Value.lookup entries step.keyword with
        | none => rfl
        | some value => exact find_injectKeyword hstep value
    | _ => rfl
  leaves := by
    intro node step hstep hleft
    cases node with
    | Mapping entries =>
        rw [injectAdditionalPropertiesFalse_mapping, child, child,
          lookup_injected_of_other (keyword_not_mem_of_left hstep hleft)]
        cases Value.lookup entries step.keyword with
        | some value => exact .inl rfl
        | none =>
            by_cases hadded : step.keyword = "additionalProperties" ∧ opensObject entries = true
            · right
              rw [if_pos hadded]
              refine ⟨rfl, .Boolean false, ?_, rfl⟩
              -- of the steps by this keyword only one is a position of a schema
              cases step with
              | Single keyword => rfl
              | Listed keyword index =>
                  obtain rfl : keyword = _ := hadded.1
                  simp [Vocabulary.Has, subschemaKeywords] at hstep
              | Named keyword name =>
                  obtain rfl : keyword = _ := hadded.1
                  simp [Vocabulary.Has, subschemaKeywords] at hstep
            · rw [if_neg hadded]
              exact .inl rfl
    | _ => exact .inl rfl

theorem normalizeSchema_mapping (entries : List (String × Value)) :
    normalizeSchema (.Mapping entries) =
      .ok (injectAdditionalPropertiesFalse (.Mapping entries)) := rfl

section Closed

-- The type `object`, alone or among others.
def isObjectType : Value → Bool
  | .Str text => text == "object"
  | .Sequence types => types.any fun name => name.isStr "object"
  | _ => false

def isObjectNode (node : List (String × Value)) : Bool :=
  isObjectType ((Value.lookup node "type").getD .None)

def isClosed (node : List (String × Value)) : Bool :=
  decide (Value.lookup node "additionalProperties" = some (.Boolean false))

-- Every object node, wherever in the schema it stands, allows no further properties.
def Closed (schema : Value) : Prop :=
  ∀ path node, subschemaKeywords.Path path → locate schema path = some (.Mapping node) →
    isObjectNode node = true → isClosed node = true

theorem isObjectNode_injected (node : List (String × Value)) :
    isObjectNode (injectEntries node ++ addedEntries node) = isObjectNode node := by
  rw [isObjectNode, isObjectNode, lookup_injected_of_other (by decide),
    if_neg (by simp), Option.or_none]

theorem isClosed_injected_iff (node : List (String × Value)) :
    isClosed (injectEntries node ++ addedEntries node) = true ↔
      isClosed node = true ∨ opensObject node = true := by
  rw [isClosed, isClosed, lookup_injected_of_other (by decide)]
  cases h : Value.lookup node "additionalProperties" with
  | some value => simp [opensObject, h]
  | none => simp

theorem closed_normalized_iff (schema : Value) :
    Closed (injectAdditionalPropertiesFalse schema) ↔
      ∀ path node, subschemaKeywords.Path path → locate schema path = some (.Mapping node) →
        isObjectNode node = true →
          isClosed node = true ∨ followedKeywords.Path path ∧ opensObject node = true := by
  constructor
  · intro h path node hpath hnode hobject
    by_cases hwalked : followedKeywords.Path path
    · have hrewritten := injectAdditionalPropertiesFalse_follows.locate_walked hwalked schema
      rw [hnode, Option.map_some, injectAdditionalPropertiesFalse_mapping] at hrewritten
      have hclosed := h path _ hpath hrewritten (by rw [isObjectNode_injected]; exact hobject)
      exact ((isClosed_injected_iff node).mp hclosed).imp_right fun hopens => ⟨hwalked, hopens⟩
    · have hkept := (injectAdditionalPropertiesFalse_follows.locate_left hpath hwalked schema
        node).mpr hnode
      exact .inl (h path node hpath hkept hobject)
  · intro h path node hpath hnode hobject
    by_cases hwalked : followedKeywords.Path path
    · rw [injectAdditionalPropertiesFalse_follows.locate_walked hwalked schema] at hnode
      obtain ⟨original, hfound, hinjected⟩ := Option.map_eq_some_iff.mp hnode
      cases original with
      | Mapping entries =>
          rw [injectAdditionalPropertiesFalse_mapping] at hinjected
          cases hinjected
          rw [isObjectNode_injected] at hobject
          exact (isClosed_injected_iff entries).mpr
            ((h path entries hpath hfound hobject).imp_right And.right)
      | _ => cases hinjected
    · have horiginal := (injectAdditionalPropertiesFalse_follows.locate_left hpath hwalked schema
        node).mp hnode
      exact (h path node hpath horiginal hobject).resolve_right fun hopens => hwalked hopens.1

-- A schema comes out closed exactly if each of its object nodes is closed already, or has the
-- type `object` alone, no `additionalProperties` and a place that is followed.
theorem normalizeSchema_closed_iff (entries : List (String × Value)) :
    ∃ normalized, normalizeSchema (.Mapping entries) = .ok normalized ∧
      (Closed normalized ↔
        ∀ path node, subschemaKeywords.Path path →
          locate (.Mapping entries) path = some (.Mapping node) → isObjectNode node = true →
            isClosed node = true ∨ followedKeywords.Path path ∧ opensObject node = true) :=
  ⟨_, normalizeSchema_mapping entries, closed_normalized_iff (.Mapping entries)⟩

-- A node that arrives open stays open.
theorem normalizeSchema_keeps_open :
    normalizeSchema
        (.Mapping [("type", .Str "object"), ("additionalProperties", .Boolean true)]) =
      .ok (.Mapping [("type", .Str "object"), ("additionalProperties", .Boolean true)]) ∧
    ¬Closed (.Mapping [("type", .Str "object"), ("additionalProperties", .Boolean true)]) := by
  refine ⟨by decide, fun h => ?_⟩
  have hclosed := h [] _ (by simp [Vocabulary.Path]) rfl (by decide)
  revert hclosed
  decide

end Closed

section Conservation

theorem injectKeyword_idem {value : Value}
    (hschema : injectAdditionalPropertiesFalse (injectAdditionalPropertiesFalse value) =
      injectAdditionalPropertiesFalse value)
    (hnamed : injectNamed (injectNamed value) = injectNamed value) (key : String) :
    injectKeyword key (injectKeyword key value) = injectKeyword key value := by
  unfold injectKeyword
  split_ifs
  · exact hnamed
  · exact hschema
  · rfl

-- No node needs a second entry.
theorem addedEntries_injected (node : List (String × Value)) :
    addedEntries (injectEntries node ++ addedEntries node) = [] := by
  have hopens : opensObject (injectEntries node ++ addedEntries node) = false := by
    rw [opensObject, lookup_injected_of_other (by decide), lookup_injected_of_other (by decide)]
    cases hopens : opensObject node with
    | true => simp
    | false =>
        simp only [opensObject] at hopens
        simpa using hopens
  rw [addedEntries, hopens]
  rfl

theorem injectEntries_addedEntries (node : List (String × Value)) :
    injectEntries (addedEntries node) = addedEntries node := by
  unfold addedEntries
  split_ifs <;> rfl

theorem injectEntries_append (first second : List (String × Value)) :
    injectEntries (first ++ second) = injectEntries first ++ injectEntries second := by
  simp only [injectEntries_eq_map, List.map_append]

theorem inject_idem (value : Value) :
    injectAdditionalPropertiesFalse (injectAdditionalPropertiesFalse value) =
        injectAdditionalPropertiesFalse value ∧
      injectNamed (injectNamed value) = injectNamed value := by
  induction value using Value.nestedInduction with
  | sequence items ih =>
      refine ⟨?_, rfl⟩
      simp only [injectAdditionalPropertiesFalse, injectItems_eq_map, List.map_map,
        Value.Sequence.injEq]
      exact List.map_congr_left fun item hm => (ih item hm).1
  | mapping entries ih =>
      constructor
      · have hentries : injectEntries (injectEntries entries) = injectEntries entries := by
          simp only [injectEntries_eq_map, List.map_map]
          refine List.map_congr_left fun entry hm => ?_
          exact congrArg (Prod.mk entry.1)
            (injectKeyword_idem (ih entry hm).1 (ih entry hm).2 entry.1)
        rw [injectAdditionalPropertiesFalse_mapping, injectAdditionalPropertiesFalse_mapping,
          addedEntries_injected, injectEntries_append, hentries, injectEntries_addedEntries,
          List.append_nil]
      · simp only [injectNamed, injectValues_eq_map, List.map_map, Value.Mapping.injEq]
        exact List.map_congr_left fun entry hm => congrArg (Prod.mk entry.1) (ih entry hm).1
  | _ => exact ⟨rfl, rfl⟩

mutual

-- The second tree without the entries `additionalProperties: false` that the first lacks.
def withoutAdded : Value → Value → Value
  | .Sequence items, .Sequence others => .Sequence (withoutAddedItems items others)
  | .Mapping entries, .Mapping others => .Mapping (withoutAddedEntries entries others)
  | _, other => other

def withoutAddedItems : List Value → List Value → List Value
  | item :: items, other :: others => withoutAdded item other :: withoutAddedItems items others
  | _, others => others

def withoutAddedEntries (entries : List (String × Value)) :
    List (String × Value) → List (String × Value)
  | [] => []
  | (key, other) :: others =>
      match Value.lookup entries key with
      | some value => (key, withoutAdded value other) :: withoutAddedEntries entries others
      | none =>
          if key = "additionalProperties" ∧ other = .Boolean false then
            withoutAddedEntries entries others
          else
            (key, other) :: withoutAddedEntries entries others

end

theorem lookup_withoutAddedEntries_of_some {entries : List (String × Value)} {key : String}
    {value : Value} (hvalue : Value.lookup entries key = some value)
    (others : List (String × Value)) :
    Value.lookup (withoutAddedEntries entries others) key =
      (Value.lookup others key).map (withoutAdded value) := by
  induction others with
  | nil => rfl
  | cons other others ih =>
      obtain ⟨first, added⟩ := other
      by_cases hkey : key = first
      · subst hkey
        simp [withoutAddedEntries, hvalue, Value.lookup_cons]
      · rw [Value.lookup_cons, if_neg hkey, ← ih, withoutAddedEntries]
        split
        · rw [Value.lookup_cons, if_neg hkey]
        · split_ifs
          · rfl
          · rw [Value.lookup_cons, if_neg hkey]

theorem lookup_withoutAddedEntries_of_none {entries others : List (String × Value)} {key : String}
    (hnone : Value.lookup entries key = none)
    (hadded : ∀ other ∈ others, other.1 = key → other = additionalPropertiesFalse) :
    Value.lookup (withoutAddedEntries entries others) key = none := by
  induction others with
  | nil => rfl
  | cons other others ih =>
      have hrest := ih fun next hm => hadded next (.tail _ hm)
      by_cases hkey : key = other.1
      · obtain rfl := hadded other (.head _) hkey.symm
        subst hkey
        rw [additionalPropertiesFalse] at hnone hrest ⊢
        simpa [withoutAddedEntries, hnone] using hrest
      · obtain ⟨first, added⟩ := other
        rw [withoutAddedEntries]
        split
        · rw [Value.lookup_cons, if_neg hkey, hrest]
        · split_ifs
          · exact hrest
          · rw [Value.lookup_cons, if_neg hkey, hrest]

-- Nothing is lost of a dictionary whose values come back, if what is new to it is deleted.
theorem withoutAdded_same {entries others : List (String × Value)}
    (hkept : ∀ key value, Value.lookup entries key = some value →
      ∃ other, Value.lookup others key = some other ∧ (withoutAdded value other).same value = true)
    (hadded : ∀ other ∈ others, Value.lookup entries other.1 = none →
      other = additionalPropertiesFalse) :
    (withoutAdded (.Mapping entries) (.Mapping others)).same (.Mapping entries) = true := by
  rw [withoutAdded, Value.same_mapping_iff]
  intro key
  cases hvalue : Value.lookup entries key with
  | none =>
      rw [lookup_withoutAddedEntries_of_none hvalue]
      · exact .none
      · intro other hm hkey
        exact hadded other hm (by rw [hkey, hvalue])
  | some value =>
      obtain ⟨other, hother, hsame⟩ := hkept key value hvalue
      rw [lookup_withoutAddedEntries_of_some hvalue, hother]
      exact .some hsame

theorem withoutAdded_rewritten (change : String → Value → Value)
    {entries extra : List (String × Value)}
    (hchange : ∀ entry ∈ entries,
      (withoutAdded entry.2 (change entry.1 entry.2)).same entry.2 = true)
    (hextra : ∀ other ∈ extra, other = additionalPropertiesFalse) :
    (withoutAdded (.Mapping entries)
      (.Mapping ((entries.map fun entry => (entry.1, change entry.1 entry.2)) ++ extra))).same
      (.Mapping entries) = true := by
  apply withoutAdded_same
  · intro key value hvalue
    refine ⟨change key value, ?_, hchange (key, value) (Value.mem_of_lookup hvalue)⟩
    rw [Value.lookup_append, Value.lookup_map, hvalue]
    rfl
  · intro other hm hnone
    rcases List.mem_append.mp hm with hm | hm
    · obtain ⟨entry, hentry, rfl⟩ := List.mem_map.mp hm
      have hsome := Value.lookup_isSome_of_mem hentry
      rw [hnone] at hsome
      cases hsome
    · exact hextra other hm

theorem withoutAddedItems_same (change : Value → Value) {items : List Value}
    (h : ∀ item ∈ items, (withoutAdded item (change item)).same item = true) :
    (withoutAdded (.Sequence items) (.Sequence (items.map change))).same
      (.Sequence items) = true := by
  rw [withoutAdded, Value.same, Value.sameItems_iff]
  induction items with
  | nil => exact .nil
  | cons item items ih =>
      exact .cons (h item (.head _)) (ih fun other hm => h other (.tail _ hm))

-- A value comes back whatever became of it: nothing, a schema's rewriting, or that of schemas
-- by name.
theorem withoutAdded_inject_same (value : Value) :
    (withoutAdded value value).same value = true ∧
      (withoutAdded value (injectAdditionalPropertiesFalse value)).same value = true ∧
      (withoutAdded value (injectNamed value)).same value = true := by
  induction value using Value.nestedInduction with
  | sequence items ih =>
      have hsame := withoutAddedItems_same id fun item hm => (ih item hm).1
      rw [List.map_id] at hsame
      refine ⟨hsame, ?_, hsame⟩
      rw [injectAdditionalPropertiesFalse, injectItems_eq_map]
      exact withoutAddedItems_same _ fun item hm => (ih item hm).2.1
  | mapping entries ih =>
      refine ⟨?_, ?_, ?_⟩
      · have hsame := withoutAdded_rewritten (fun _ => id) (fun entry hm => (ih entry hm).1)
          (List.forall_mem_nil _)
        simpa using hsame
      · rw [injectAdditionalPropertiesFalse_mapping, injectEntries_eq_map]
        apply withoutAdded_rewritten injectKeyword
        · intro entry hm
          unfold injectKeyword
          split_ifs
          · exact (ih entry hm).2.2
          · exact (ih entry hm).2.1
          · exact (ih entry hm).1
        · intro other hm
          unfold addedEntries at hm
          split_ifs at hm
          · exact List.mem_singleton.mp hm
          · cases hm
      · have hsame := withoutAdded_rewritten (fun _ => injectAdditionalPropertiesFalse)
          (fun entry hm => (ih entry hm).2.1) (List.forall_mem_nil _)
        rw [injectNamed, injectValues_eq_map]
        simpa using hsame
  | _ => exact ⟨Value.same_refl _, Value.same_refl _, Value.same_refl _⟩

-- The schemas at the positions of a schema are all there in the rewritten one, and differ
-- only in the keywords that are followed and in an added `additionalProperties`.
theorem locate_injected {schema : Value} {path : List Step} {node : List (String × Value)}
    (hpath : subschemaKeywords.Path path) (hnode : locate schema path = some (.Mapping node)) :
    ∃ kept, locate (injectAdditionalPropertiesFalse schema) path = some (.Mapping kept) ∧
      ∀ keyword,
        keyword ∉ rewrittenKeywords →
        keyword ≠ "additionalProperties" ∨ (Value.lookup node keyword).isSome = true →
          Value.lookup kept keyword = Value.lookup node keyword := by
  by_cases hwalked : followedKeywords.Path path
  · refine ⟨injectEntries node ++ addedEntries node, ?_, ?_⟩
    · rw [injectAdditionalPropertiesFalse_follows.locate_walked hwalked, hnode, Option.map_some,
        injectAdditionalPropertiesFalse_mapping]
    · intro keyword hkeyword hkept
      rw [lookup_injected_of_other hkeyword]
      cases hvalue : Value.lookup node keyword with
      | some value => rfl
      | none =>
          rw [hvalue] at hkept
          exact if_neg fun hadded => (hkept.resolve_right (by simp)) hadded.1
  · exact ⟨node, (injectAdditionalPropertiesFalse_follows.locate_left hpath hwalked schema
      node).mpr hnode, fun _ _ _ => rfl⟩

-- Normalization is done after one pass, loses nothing, and changes no value of a keyword that
-- holds no schemas.
theorem normalizeSchema_conservative (entries : List (String × Value)) :
    ∃ normalized, normalizeSchema (.Mapping entries) = .ok normalized ∧
      normalizeSchema normalized = .ok normalized ∧
      (withoutAdded (.Mapping entries) normalized).same (.Mapping entries) = true ∧
      ∀ path node, subschemaKeywords.Path path →
        locate (.Mapping entries) path = some (.Mapping node) →
          ∃ kept, locate normalized path = some (.Mapping kept) ∧
            ∀ keyword,
              keyword ∉ rewrittenKeywords →
              keyword ≠ "additionalProperties" ∨ (Value.lookup node keyword).isSome = true →
                Value.lookup kept keyword = Value.lookup node keyword := by
  refine ⟨_, normalizeSchema_mapping entries, ?_, (withoutAdded_inject_same _).2.1,
    fun path node hpath hnode => locate_injected hpath hnode⟩
  have hidem := (inject_idem (.Mapping entries)).1
  rw [injectAdditionalPropertiesFalse_mapping] at hidem ⊢
  rw [normalizeSchema_mapping, hidem]

end Conservation

end RequestBuilder

end ClaudeCodeProxy
