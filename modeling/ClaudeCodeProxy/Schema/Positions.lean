import ClaudeCodeProxy.Python.Dictionaries

-- Where the subschemas of a JSON schema stand, and rewriting that follows only some of the
-- keywords that hold them.

namespace Schema

open Python

-- The keywords under which a schema has one other schema, a list of them, or some by name.
structure Vocabulary where
  single : List String
  listed : List String
  named : List String

inductive Step
  | Single (keyword : String)
  | Listed (keyword : String) (index : Nat)
  | Named (keyword name : String)
  deriving DecidableEq

namespace Vocabulary

def Has (vocabulary : Vocabulary) : Step → Prop
  | .Single keyword => keyword ∈ vocabulary.single
  | .Listed keyword _ => keyword ∈ vocabulary.listed
  | .Named keyword _ => keyword ∈ vocabulary.named

instance (vocabulary : Vocabulary) : DecidablePred vocabulary.Has := fun step =>
  match step with
  | .Single keyword => inferInstanceAs (Decidable (keyword ∈ vocabulary.single))
  | .Listed keyword _ => inferInstanceAs (Decidable (keyword ∈ vocabulary.listed))
  | .Named keyword _ => inferInstanceAs (Decidable (keyword ∈ vocabulary.named))

def Path (vocabulary : Vocabulary) (path : List Step) : Prop := ∀ step ∈ path, vocabulary.Has step

end Vocabulary

def Step.keyword : Step → String
  | .Single keyword => keyword
  | .Listed keyword _ => keyword
  | .Named keyword _ => keyword

-- What a step finds in the value of its keyword.
def Step.find : Step → Value → Option Value
  | .Single _, value => some value
  | .Listed _ index, .Sequence schemas => schemas[index]?
  | .Named _ name, .Mapping schemas => Value.lookup schemas name
  | _, _ => none

def child : Value → Step → Option Value
  | .Mapping entries, step => (Value.lookup entries step.keyword).bind step.find
  | _, _ => none

def locate (schema : Value) : List Step → Option Value
  | [] => some schema
  | step :: path => (child schema step).bind fun found => locate found path

theorem locate_cons (schema : Value) (step : Step) (path : List Step) :
    locate schema (step :: path) = (child schema step).bind fun found => locate found path := rfl

theorem locate_cons_eq_none {schema : Value} {step : Step} {path : List Step}
    (h : child schema step = none) : locate schema (step :: path) = none := by
  rw [locate_cons, h]
  rfl

-- Nothing stands under a value that is not a dictionary but the value itself.
theorem locate_of_leaf {leaf : Value} (hleaf : leaf.isMapping = false) (path : List Step)
    {entries : List (String × Value)} : locate leaf path ≠ some (.Mapping entries) := by
  intro h
  cases path with
  | nil =>
      cases h
      cases hleaf
  | cons step path =>
      have hnone : child leaf step = none := by cases leaf <;> first | rfl | cases hleaf
      rw [locate_cons_eq_none hnone] at h
      cases h

section Rewriting

-- A rewriting follows the walked keywords, and leaves what stands under the others alone;
-- there it adds no schema that is a dictionary.
structure Follows (rewrite : Value → Value) (walked vocabulary : Vocabulary) : Prop where
  walks : ∀ node step, walked.Has step →
    child (rewrite node) step = (child node step).map rewrite
  leaves : ∀ node step, vocabulary.Has step → ¬walked.Has step →
    child (rewrite node) step = child node step ∨
      child node step = none ∧ ∃ leaf, child (rewrite node) step = some leaf ∧
        leaf.isMapping = false

variable {rewrite : Value → Value} {walked vocabulary : Vocabulary}

theorem Follows.locate_walked (h : Follows rewrite walked vocabulary) {path : List Step}
    (hpath : walked.Path path) (schema : Value) :
    locate (rewrite schema) path = (locate schema path).map rewrite := by
  induction path generalizing schema with
  | nil => rfl
  | cons step path ih =>
      rw [locate_cons, locate_cons, h.walks schema step (hpath step (.head _))]
      cases child schema step with
      | none => rfl
      | some found => exact ih (fun other hm => hpath other (.tail _ hm)) found

-- Below a step that is not followed every schema is found as it was.
theorem Follows.locate_left (h : Follows rewrite walked vocabulary) {path : List Step}
    (hpath : vocabulary.Path path) (hleft : ¬walked.Path path) (schema : Value)
    (entries : List (String × Value)) :
    locate (rewrite schema) path = some (.Mapping entries) ↔
      locate schema path = some (.Mapping entries) := by
  induction path generalizing schema with
  | nil => exact absurd (fun _ hm => by cases hm) hleft
  | cons step path ih =>
      by_cases hstep : walked.Has step
      · have hrest : ¬walked.Path path := fun hwalked =>
          hleft (List.forall_mem_cons.mpr ⟨hstep, hwalked⟩)
        rw [locate_cons, locate_cons, h.walks schema step hstep]
        cases child schema step with
        | none => rfl
        | some found => exact ih (fun other hm => hpath other (.tail _ hm)) hrest found
      · rcases h.leaves schema step (hpath step (.head _)) hstep with hsame | hadded
        · rw [locate_cons, locate_cons, hsame]
        · obtain ⟨hnone, leaf, hleaf, hmapping⟩ := hadded
          rw [locate_cons, locate_cons_eq_none hnone, hleaf]
          constructor
          · exact fun hfound => absurd hfound (locate_of_leaf hmapping path)
          · exact fun hfound => by cases hfound

end Rewriting

end Schema
