import ClaudeCodeProxy.Effects.Machine
import Mathlib.Logic.Function.Basic

-- Caches that keep a value until a deadline, and the visits that are paid to them.

namespace Store.Expiring

open Effects

variable {α κ ι : Type}

structure Kept (α : Type) where
  value : α
  deadline : Nat
deriving DecidableEq

-- What becomes of a value that has been fetched.
inductive Keeping
  | Keeps (lifetime : Nat)
  | Drops
  | Fails
deriving DecidableEq

-- A visit may give up before it looks, or before it asks. `answer` is what it is told if it asks.
structure Visit (α : Type) where
  now : Nat
  ready : Bool
  canAsk : Bool
  answer : Option α
  keeping : Keeping

structure Outcome (α : Type) where
  value : Option α
  asked : Bool
deriving DecidableEq

def lookup (cache : Option (Kept α)) (now : Nat) : Option α :=
  match cache with
  | none => none
  | some kept => if now < kept.deadline then some kept.value else none

def ask (cache : Option (Kept α)) (visit : Visit α) : Outcome α × Option (Kept α) :=
  match visit.answer with
  | none => (⟨none, true⟩, cache)
  | some value =>
      match visit.keeping with
      | .Keeps lifetime => (⟨some value, true⟩, some ⟨value, visit.now + lifetime⟩)
      | .Drops => (⟨some value, true⟩, cache)
      | .Fails => (⟨none, true⟩, cache)

section Visits

variable {cache : Option (Kept α)} {visit : Visit α}

end Visits

section Runs

variable {cache : Option (Kept α)} {visits : List (Visit α)}

end Runs

section Keys

variable [DecidableEq κ] (key : ι → κ) (visit : ι → Visit α)

end Keys

end Store.Expiring
