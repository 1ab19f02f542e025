import ClaudeCodeProxy.Effects.Trace

-- Programs that let the failures of their collaborators through to the caller, and what
-- they come to otherwise.

namespace Effects

namespace Program

variable {sig : Signature} {ε α β : Type}

section Forwarding

variable (failure : (op : sig.Op) → sig.Reply op → Option ε) (own : ε → Prop)
  (allowed : sig.Op → Prop)

-- The program makes allowed calls only, and a reply that is a failure ends it. What it
-- returns is `good`, and an error that it raises without such a reply is one of its `own`.
def Forwards (good : α → Prop) : Program sig ε α → Prop
  | Return value => good value
  | Raise error => own error
  | Call op next => allowed op ∧ ∀ reply, match failure op reply with
      | some error => next reply = Raise error
      | none => (next reply).Forwards good

variable {failure own allowed}

theorem forwards_call {good : α → Prop} {op : sig.Op} {next : sig.Reply op → Program sig ε α}
    (hop : allowed op)
    (hfailure : ∀ reply error, failure op reply = some error → next reply = Raise error)
    (hnext : ∀ reply, failure op reply = none → (next reply).Forwards failure own allowed good) :
    (Call op next).Forwards failure own allowed good := by
  refine ⟨hop, fun reply => ?_⟩
  cases h : failure op reply with
  | some error => exact hfailure reply error h
  | none => exact hnext reply h

theorem Forwards.bind {good : α → Prop} {good' : β → Prop} {program : Program sig ε α}
    {rest : α → Program sig ε β} (h : program.Forwards failure own allowed good)
    (hrest : ∀ value, good value → (rest value).Forwards failure own allowed good') :
    (program >>= rest).Forwards failure own allowed good' := by
  induction program with
  | Return value => exact hrest value h
  | Raise error => exact h
  | Call op next ih =>
      rw [call_bind]
      apply forwards_call h.1
      · intro reply error hfailure
        have hnext := h.2 reply
        rw [hfailure] at hnext
        rw [hnext, raise_bind]
      · intro reply hnone
        have hnext := h.2 reply
        rw [hnone] at hnext
        exact ih reply hnext

-- A failure is the last of the log and the outcome, or there is none.
theorem Forwards.traces {good : α → Prop} {program : Program sig ε α} {log : List (Answer sig)}
    {outcome : Except ε α} (h : program.Forwards failure own allowed good)
    (htraces : program.Traces log outcome) :
    (∃ earlier answer error, log = earlier ++ [answer] ∧
      (∀ other ∈ earlier, failure other.1 other.2 = none) ∧
      failure answer.1 answer.2 = some error ∧ outcome = .error error) ∨
    (∀ answer ∈ log, failure answer.1 answer.2 = none) ∧
      ((∃ value, good value ∧ outcome = .ok value) ∨
        ∃ error, own error ∧ outcome = .error error) := by
  induction program generalizing log with
  | Return value =>
      obtain ⟨rfl, rfl⟩ := htraces
      exact .inr ⟨List.forall_mem_nil _, .inl ⟨value, h, rfl⟩⟩
  | Raise error =>
      obtain ⟨rfl, rfl⟩ := htraces
      exact .inr ⟨List.forall_mem_nil _, .inr ⟨error, h, rfl⟩⟩
  | Call op next ih =>
      obtain ⟨reply, tail, rfl, htail⟩ := htraces
      have hnext := h.2 reply
      cases hfailure : failure op reply with
      | some error =>
          rw [hfailure] at hnext
          rw [hnext] at htail
          obtain ⟨rfl, rfl⟩ := htail
          exact .inl ⟨[], ⟨op, reply⟩, error, rfl, List.forall_mem_nil _, hfailure, rfl⟩
      | none =>
          rw [hfailure] at hnext
          rcases ih reply hnext htail with ⟨earlier, answer, error, rfl, hearlier, herror, rfl⟩ |
            ⟨hnone, hresult⟩
          · exact .inl ⟨⟨op, reply⟩ :: earlier, answer, error, rfl,
              List.forall_mem_cons.mpr ⟨hfailure, hearlier⟩, herror, rfl⟩
          · exact .inr ⟨List.forall_mem_cons.mpr ⟨hfailure, hnone⟩, hresult⟩

theorem Forwards.calls {good : α → Prop} {program : Program sig ε α} {log : List (Answer sig)}
    {outcome : Except ε α} (h : program.Forwards failure own allowed good)
    (htraces : program.Traces log outcome) : ∀ answer ∈ log, allowed answer.1 := by
  induction program generalizing log with
  | Return value =>
      obtain ⟨rfl, -⟩ := htraces
      exact List.forall_mem_nil _
  | Raise error =>
      obtain ⟨rfl, -⟩ := htraces
      exact List.forall_mem_nil _
  | Call op next ih =>
      obtain ⟨reply, tail, rfl, htail⟩ := htraces
      refine List.forall_mem_cons.mpr ⟨h.1, ?_⟩
      have hnext := h.2 reply
      cases hfailure : failure op reply with
      | some error =>
          rw [hfailure] at hnext
          rw [hnext] at htail
          obtain ⟨rfl, -⟩ := htail
          exact List.forall_mem_nil _
      | none =>
          rw [hfailure] at hnext
          exact ih reply hnext htail

end Forwarding

end Program

end Effects
