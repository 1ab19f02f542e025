import Mathlib.Logic.Basic

namespace Effects

-- The calls a program may make on its collaborators, and what each call answers.
structure Signature where
  Op : Type
  Reply : Op → Type

-- A call together with the reply it got.
abbrev Answer (sig : Signature) : Type := Σ op : sig.Op, sig.Reply op

-- A program returns, raises, or makes one call and goes on with the reply.
-- Every store access is a node of this tree, so the same definition can be run
-- to its end, run with failing collaborators, or stepped among other programs.
inductive Program (sig : Signature) (ε α : Type) : Type
  | Return (value : α)
  | Raise (error : ε)
  | Call (op : sig.Op) (next : sig.Reply op → Program sig ε α)

-- What a collaborator does with a call: it answers or raises, and may change the state.
abbrev Handler (sig : Signature) (ε σ : Type) : Type :=
  (op : sig.Op) → σ → Except ε (sig.Reply op) × σ

namespace Program

variable {sig : Signature} {ε α β σ : Type}

def bind : Program sig ε α → (α → Program sig ε β) → Program sig ε β
  | Return value, rest => rest value
  | Raise error, _ => Raise error
  | Call op next, rest => Call op fun reply => (next reply).bind rest

instance : Monad (Program sig ε) where
  pure := Return
  bind := bind

def perform (op : sig.Op) : Program sig ε (sig.Reply op) :=
  Call op Return

@[simp] theorem pure_eq (value : α) : (pure value : Program sig ε α) = Return value := rfl

@[simp] theorem return_bind (value : α) (rest : α → Program sig ε β) :
    (Return value >>= rest) = rest value := rfl

@[simp] theorem raise_bind (error : ε) (rest : α → Program sig ε β) :
    ((Raise error : Program sig ε α) >>= rest) = Raise error := rfl

@[simp] theorem call_bind (op : sig.Op) (next : sig.Reply op → Program sig ε α)
    (rest : α → Program sig ε β) :
    (Call op next >>= rest) = Call op fun reply => next reply >>= rest := rfl

theorem bind_assoc {γ : Type} (program : Program sig ε α) (first : α → Program sig ε β)
    (second : β → Program sig ε γ) :
    (program >>= first) >>= second = program >>= fun value => first value >>= second := by
  induction program with
  | Return value => rfl
  | Raise error => rfl
  | Call op next ih =>
      simp only [call_bind]
      congr 1
      funext reply
      exact ih reply

-- The whole program in one piece. What was written before an exception stays written.
def run (handler : Handler sig ε σ) : Program sig ε α → σ → Except ε α × σ
  | Return value, state => (.ok value, state)
  | Raise error, state => (.error error, state)
  | Call op next, state =>
      match handler op state with
      | (.ok reply, state') => (next reply).run handler state'
      | (.error error, state') => (.error error, state')

@[simp] theorem run_return (handler : Handler sig ε σ) (value : α) (state : σ) :
    (Return value : Program sig ε α).run handler state = (.ok value, state) := rfl

@[simp] theorem run_raise (handler : Handler sig ε σ) (error : ε) (state : σ) :
    (Raise error : Program sig ε α).run handler state = (.error error, state) := rfl

theorem run_call (handler : Handler sig ε σ) (op : sig.Op)
    (next : sig.Reply op → Program sig ε α) (state : σ) :
    (Call op next).run handler state =
      match handler op state with
      | (.ok reply, state') => (next reply).run handler state'
      | (.error error, state') => (.error error, state') := by
  rw [run]

theorem run_call_ok (handler : Handler sig ε σ) (op : sig.Op)
    (next : sig.Reply op → Program sig ε α) (state state' : σ) (reply : sig.Reply op)
    (h : handler op state = (.ok reply, state')) :
    (Call op next).run handler state = (next reply).run handler state' := by
  rw [run_call, h]

theorem run_call_error (handler : Handler sig ε σ) (op : sig.Op)
    (next : sig.Reply op → Program sig ε α) (state state' : σ) (error : ε)
    (h : handler op state = (.error error, state')) :
    (Call op next).run handler state = (.error error, state') := by
  rw [run_call, h]

theorem run_bind (handler : Handler sig ε σ) (program : Program sig ε α)
    (rest : α → Program sig ε β) (state : σ) :
    (program >>= rest).run handler state =
      match program.run handler state with
      | (.ok value, state') => (rest value).run handler state'
      | (.error error, state') => (.error error, state') := by
  induction program generalizing state with
  | Return value => rfl
  | Raise error => rfl
  | Call op next ih =>
      rw [call_bind, run_call, run_call]
      rcases h : handler op state with ⟨answer, state'⟩
      cases answer with
      | error error => rfl
      | ok reply => exact ih reply state'

theorem run_map (handler : Handler sig ε σ) (program : Program sig ε α) (f : α → β) (state : σ) :
    (program >>= fun value => pure (f value)).run handler state =
      ((program.run handler state).1.map f, (program.run handler state).2) := by
  rw [run_bind]
  rcases program.run handler state with ⟨answer, state'⟩
  cases answer with
  | error error => rfl
  | ok value => rfl

-- The program makes none of the calls in `bad`, and what it returns is in `good`.
def Avoids (bad : sig.Op → Prop) (good : α → Prop) : Program sig ε α → Prop
  | Return value => good value
  | Raise _ => True
  | Call op next => ¬bad op ∧ ∀ reply, (next reply).Avoids bad good

theorem Avoids.bind {bad : sig.Op → Prop} {good : α → Prop} {good' : β → Prop}
    {program : Program sig ε α} {rest : α → Program sig ε β} (h : program.Avoids bad good)
    (hrest : ∀ value, good value → (rest value).Avoids bad good') :
    (program >>= rest).Avoids bad good' := by
  induction program with
  | Return value => exact hrest value h
  | Raise error => trivial
  | Call op next ih => exact ⟨h.1, fun reply => ih reply (h.2 reply)⟩

end Program

end Effects
