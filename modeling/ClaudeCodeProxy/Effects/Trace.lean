import ClaudeCodeProxy.Effects.Program
import Mathlib.Data.List.Basic

-- Programs among collaborators of which nothing is known: the calls of a run with
-- their answers, in order.

namespace Effects

namespace Program

variable {sig : Signature} {ε α β σ : Type}

-- The log is one the program can leave behind, and the outcome the one it then has.
def Traces : Program sig ε α → List (Answer sig) → Except ε α → Prop
  | Return value, log, outcome => log = [] ∧ outcome = .ok value
  | Raise error, log, outcome => log = [] ∧ outcome = .error error
  | Call op next, log, outcome => ∃ reply rest, log = ⟨op, reply⟩ :: rest ∧
      (next reply).Traces rest outcome

-- `try: ... except Exception as error: ...`
def tryCatch : Program sig ε α → (ε → Program sig ε α) → Program sig ε α
  | Return value, _ => Return value
  | Raise error, handle => handle error
  | Call op next, handle => Call op fun reply => (next reply).tryCatch handle

-- What comes of the program, as a value.
def captured : Program sig ε α → Program sig ε (Except ε α)
  | Return value => Return (.ok value)
  | Raise error => Return (.error error)
  | Call op next => Call op fun reply => (next reply).captured

@[simp] theorem traces_return (value : α) (log : List (Answer sig)) (outcome : Except ε α) :
    (Return value : Program sig ε α).Traces log outcome ↔ log = [] ∧ outcome = .ok value := Iff.rfl

@[simp] theorem traces_raise (error : ε) (log : List (Answer sig)) (outcome : Except ε α) :
    (Raise error : Program sig ε α).Traces log outcome ↔ log = [] ∧ outcome = .error error :=
  Iff.rfl

-- A run of a sequence is a run of its first part and, unless that raises, one of the rest.
theorem traces_bind (program : Program sig ε α) (rest : α → Program sig ε β)
    (log : List (Answer sig)) (outcome : Except ε β) :
    (program >>= rest).Traces log outcome ↔
      (∃ error, program.Traces log (.error error) ∧ outcome = .error error) ∨
      ∃ before after value, log = before ++ after ∧ program.Traces before (.ok value) ∧
        (rest value).Traces after outcome := by
  induction program generalizing log with
  | Return value =>
      constructor
      · intro h
        exact .inr ⟨[], log, value, rfl, ⟨rfl, rfl⟩, h⟩
      · rintro (⟨error, ⟨-, herror⟩, -⟩ | ⟨before, after, value', rfl, ⟨rfl, hvalue⟩, hrest⟩)
        · cases herror
        · cases hvalue
          exact hrest
  | Raise error =>
      constructor
      · rintro ⟨rfl, rfl⟩
        exact .inl ⟨error, ⟨rfl, rfl⟩, rfl⟩
      · rintro (⟨error', ⟨rfl, herror⟩, rfl⟩ | ⟨before, after, value, -, ⟨-, hvalue⟩, -⟩)
        · cases herror
          exact ⟨rfl, rfl⟩
        · cases hvalue
  | Call op next ih =>
      constructor
      · rintro ⟨reply, tail, rfl, htail⟩
        rcases (ih reply tail).mp htail with ⟨error, herror, rfl⟩ |
          ⟨before, after, value, rfl, hbefore, hafter⟩
        · exact .inl ⟨error, ⟨reply, tail, rfl, herror⟩, rfl⟩
        · exact .inr ⟨⟨op, reply⟩ :: before, after, value, rfl,
            ⟨reply, before, rfl, hbefore⟩, hafter⟩
      · rintro (⟨error, ⟨reply, tail, rfl, herror⟩, rfl⟩ |
          ⟨_, after, value, rfl, ⟨reply, before, rfl, hbefore⟩, hafter⟩)
        · exact ⟨reply, tail, rfl, (ih reply tail).mpr (.inl ⟨error, herror, rfl⟩)⟩
        · exact ⟨reply, before ++ after, rfl,
            (ih reply _).mpr (.inr ⟨before, after, value, rfl, hbefore, hafter⟩)⟩

-- A run of a guarded program is one that returns, or one that raises with a run of
-- the handler after it.
theorem traces_tryCatch (program : Program sig ε α) (handle : ε → Program sig ε α)
    (log : List (Answer sig)) (outcome : Except ε α) :
    (program.tryCatch handle).Traces log outcome ↔
      (∃ value, program.Traces log (.ok value) ∧ outcome = .ok value) ∨
      ∃ before after error, log = before ++ after ∧ program.Traces before (.error error) ∧
        (handle error).Traces after outcome := by
  induction program generalizing log with
  | Return value =>
      constructor
      · rintro ⟨rfl, rfl⟩
        exact .inl ⟨value, ⟨rfl, rfl⟩, rfl⟩
      · rintro (⟨value', ⟨rfl, hvalue⟩, rfl⟩ | ⟨before, after, error, -, ⟨-, herror⟩, -⟩)
        · cases hvalue
          exact ⟨rfl, rfl⟩
        · cases herror
  | Raise error =>
      constructor
      · intro h
        exact .inr ⟨[], log, error, rfl, ⟨rfl, rfl⟩, h⟩
      · rintro (⟨value, ⟨-, hvalue⟩, -⟩ | ⟨before, after, error', rfl, ⟨rfl, herror⟩, hrest⟩)
        · cases hvalue
        · cases herror
          exact hrest
  | Call op next ih =>
      constructor
      · rintro ⟨reply, tail, rfl, htail⟩
        rcases (ih reply tail).mp htail with ⟨value, hvalue, rfl⟩ |
          ⟨before, after, error, rfl, hbefore, hafter⟩
        · exact .inl ⟨value, ⟨reply, tail, rfl, hvalue⟩, rfl⟩
        · exact .inr ⟨⟨op, reply⟩ :: before, after, error, rfl,
            ⟨reply, before, rfl, hbefore⟩, hafter⟩
      · rintro (⟨value, ⟨reply, tail, rfl, hvalue⟩, rfl⟩ |
          ⟨_, after, error, rfl, ⟨reply, before, rfl, hbefore⟩, hafter⟩)
        · exact ⟨reply, tail, rfl, (ih reply tail).mpr (.inl ⟨value, hvalue, rfl⟩)⟩
        · exact ⟨reply, before ++ after, rfl,
            (ih reply _).mpr (.inr ⟨before, after, error, rfl, hbefore, hafter⟩)⟩

theorem traces_captured (program : Program sig ε α) (log : List (Answer sig))
    (outcome : Except ε (Except ε α)) :
    program.captured.Traces log outcome ↔ ∃ result, outcome = .ok result ∧
      program.Traces log result := by
  induction program generalizing log with
  | Return value =>
      constructor
      · rintro ⟨rfl, rfl⟩
        exact ⟨.ok value, rfl, rfl, rfl⟩
      · rintro ⟨result, rfl, rfl, rfl⟩
        exact ⟨rfl, rfl⟩
  | Raise error =>
      constructor
      · rintro ⟨rfl, rfl⟩
        exact ⟨.error error, rfl, rfl, rfl⟩
      · rintro ⟨result, rfl, rfl, rfl⟩
        exact ⟨rfl, rfl⟩
  | Call op next ih =>
      constructor
      · rintro ⟨reply, tail, rfl, htail⟩
        obtain ⟨result, rfl, hresult⟩ := (ih reply tail).mp htail
        exact ⟨result, rfl, reply, tail, rfl, hresult⟩
      · rintro ⟨result, rfl, reply, tail, rfl, hresult⟩
        exact ⟨reply, tail, rfl, (ih reply tail).mpr ⟨result, rfl, hresult⟩⟩

-- A run among collaborators that answer each call in a fixed way.
def record (reply : (op : sig.Op) → sig.Reply op) : Program sig ε α →
    List (Answer sig) × Except ε α
  | Return value => ([], .ok value)
  | Raise error => ([], .error error)
  | Call op next =>
      let (log, outcome) := (next (reply op)).record reply
      (⟨op, reply op⟩ :: log, outcome)

theorem traces_record (program : Program sig ε α) (reply : (op : sig.Op) → sig.Reply op) :
    program.Traces (program.record reply).1 (program.record reply).2 := by
  induction program with
  | Return value => exact ⟨rfl, rfl⟩
  | Raise error => exact ⟨rfl, rfl⟩
  | Call op next ih => exact ⟨reply op, _, rfl, ih (reply op)⟩

theorem mem_record (program : Program sig ε α) (reply : (op : sig.Op) → sig.Reply op)
    (answer : Answer sig) (h : answer ∈ (program.record reply).1) :
    answer.2 = reply answer.1 := by
  induction program with
  | Return value => cases h
  | Raise error => cases h
  | Call op next ih =>
      rcases List.mem_cons.mp h with rfl | h
      · rfl
      · exact ih (reply op) h

section Replies

variable (replies : (op : sig.Op) → sig.Reply op → Prop)

-- Among collaborators that answer within `replies`, what the program returns is `good`, and what
-- it raises is `fine`.
def Ensures (good : α → Prop) (fine : ε → Prop) : Program sig ε α → Prop
  | Return value => good value
  | Raise error => fine error
  | Call op next => ∀ reply, replies op reply → (next reply).Ensures good fine

variable {replies} {good : α → Prop} {fine : ε → Prop}

theorem Ensures.bind {good' : β → Prop} {program : Program sig ε α} {rest : α → Program sig ε β}
    (h : program.Ensures replies good fine)
    (hrest : ∀ value, good value → (rest value).Ensures replies good' fine) :
    (program >>= rest).Ensures replies good' fine := by
  induction program with
  | Return value => exact hrest value h
  | Raise error => exact h
  | Call op next ih => exact fun reply hreply => ih reply (h reply hreply)

theorem Ensures.tryCatch {fine' : ε → Prop} {program : Program sig ε α}
    {handle : ε → Program sig ε α} (h : program.Ensures replies good fine)
    (hhandle : ∀ error, fine error → (handle error).Ensures replies good fine') :
    (program.tryCatch handle).Ensures replies good fine' := by
  induction program with
  | Return value => exact h
  | Raise error => exact hhandle error h
  | Call op next ih => exact fun reply hreply => ih reply (h reply hreply)

theorem Ensures.captured {fine' : ε → Prop} {program : Program sig ε α}
    (h : program.Ensures replies good fine) :
    program.captured.Ensures replies
      (fun result => (∀ value, result = .ok value → good value) ∧
        ∀ error, result = .error error → fine error) fine' := by
  induction program with
  | Return value =>
      refine ⟨fun other hother => ?_, fun error herror => ?_⟩
      · rw [← Except.ok.inj hother]
        exact h
      · cases herror
  | Raise error =>
      refine ⟨fun value hvalue => ?_, fun other hother => ?_⟩
      · cases hvalue
      · rw [← Except.error.inj hother]
        exact h
  | Call op next ih => exact fun reply hreply => ih reply (h reply hreply)

theorem Ensures.traces {program : Program sig ε α} {log : List (Answer sig)}
    {outcome : Except ε α} (h : program.Ensures replies good fine)
    (htraces : program.Traces log outcome)
    (hreplies : ∀ answer ∈ log, replies answer.1 answer.2) :
    (∃ value, outcome = .ok value ∧ good value) ∨ ∃ error, outcome = .error error ∧ fine error := by
  induction program generalizing log with
  | Return value => exact .inl ⟨value, htraces.2, h⟩
  | Raise error => exact .inr ⟨error, htraces.2, h⟩
  | Call op next ih =>
      obtain ⟨reply, tail, rfl, htail⟩ := htraces
      obtain ⟨hreply, htail'⟩ := List.forall_mem_cons.mp hreplies
      exact ih reply (h reply hreply) htail htail'

theorem ensures_of_traces {program : Program sig ε α}
    (h : ∀ log outcome, program.Traces log outcome →
      (∃ value, outcome = .ok value ∧ good value) ∨ ∃ error, outcome = .error error ∧ fine error) :
    program.Ensures replies good fine := by
  induction program with
  | Return value =>
      rcases h [] (.ok value) ⟨rfl, rfl⟩ with ⟨_, hvalue, hgood⟩ | ⟨_, herror, -⟩
      · cases hvalue
        exact hgood
      · cases herror
  | Raise error =>
      rcases h [] (.error error) ⟨rfl, rfl⟩ with ⟨_, hvalue, -⟩ | ⟨_, herror, hfine⟩
      · cases hvalue
      · cases herror
        exact hfine
  | Call op next ih =>
      exact fun reply _ => ih reply fun log outcome hrun => h _ outcome ⟨reply, log, rfl, hrun⟩

end Replies

end Program

end Effects
