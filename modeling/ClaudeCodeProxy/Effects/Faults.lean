import ClaudeCodeProxy.Effects.Program

-- Programs whose calls may fail at any place.

namespace Effects

variable {sig : Signature} {ε α β σ : Type}

-- The calls of a run are numbered from 0; a call whose number has a fault raises
-- it and changes nothing.
def Handler.faulty (faults : Nat → Option ε) (handler : Handler sig ε σ) :
    Handler sig ε (σ × Nat) := fun op state =>
  match faults state.2 with
  | some error => (.error error, (state.1, state.2 + 1))
  | none => ((handler op state.1).1, ((handler op state.1).2, state.2 + 1))

namespace Program

-- `check` holds in every state in which a run of the program may break off.
def Guarded (handler : Handler sig ε σ) (check : σ → Prop) : Program sig ε α → σ → Prop
  | Return _, _ => True
  | Raise _, state => check state
  | Call op next, state => check state ∧
      match handler op state with
      | (.ok reply, after) => (next reply).Guarded handler check after
      | (.error _, after) => check after

theorem guarded_call (handler : Handler sig ε σ) (check : σ → Prop) (op : sig.Op)
    (next : sig.Reply op → Program sig ε α) (state : σ) :
    (Call op next).Guarded handler check state ↔ check state ∧
      match handler op state with
      | (.ok reply, after) => (next reply).Guarded handler check after
      | (.error _, after) => check after := by
  rw [Guarded]

theorem Guarded.call {handler : Handler sig ε σ} {check : σ → Prop} {op : sig.Op}
    {next : sig.Reply op → Program sig ε α} {state after : σ} {reply : sig.Reply op}
    (hrun : handler op state = (.ok reply, after)) (hhere : check state)
    (hnext : (next reply).Guarded handler check after) :
    (Call op next).Guarded handler check state := by
  rw [guarded_call, hrun]
  exact ⟨hhere, hnext⟩

theorem Guarded.fallible {handler : Handler sig ε σ} {check : σ → Prop} {op : sig.Op}
    {next : sig.Reply op → Program sig ε α} {state : σ} (answer : Except ε (sig.Reply op))
    (hrun : handler op state = (answer, state)) (hhere : check state)
    (hnext : ∀ reply, answer = .ok reply → (next reply).Guarded handler check state) :
    (Call op next).Guarded handler check state := by
  rw [guarded_call, hrun]
  refine ⟨hhere, ?_⟩
  cases hanswer : answer with
  | ok reply => exact hnext reply hanswer
  | error error => exact hhere

-- Whatever calls fail, an exception leaves a state in which `check` holds.
theorem Guarded.run_faulty {handler : Handler sig ε σ} {check : σ → Prop}
    {program : Program sig ε α} {state after : σ} {number number' : Nat} {error : ε}
    {faults : Nat → Option ε} (h : program.Guarded handler check state)
    (hrun : program.run (handler.faulty faults) (state, number) = (.error error, (after, number'))) :
    check after := by
  induction program generalizing state number with
  | Return value => cases hrun
  | Raise raised =>
      cases hrun
      exact h
  | Call op next ih =>
      obtain ⟨hhere, hnext⟩ := (guarded_call handler check op next state).mp h
      cases hfault : faults number with
      | some raised =>
          have hfaulty : handler.faulty faults op (state, number) =
              (.error raised, (state, number + 1)) := by
            simp [Handler.faulty, hfault]
          rw [run_call_error _ _ _ _ _ raised hfaulty] at hrun
          cases hrun
          exact hhere
      | none =>
          rcases hh : handler op state with ⟨answer, middle⟩
          have hfaulty : handler.faulty faults op (state, number) =
              (answer, (middle, number + 1)) := by
            simp [Handler.faulty, hfault, hh]
          rw [hh] at hnext
          cases answer with
          | error raised =>
              rw [run_call_error _ _ _ _ _ raised hfaulty] at hrun
              cases hrun
              exact hnext
          | ok reply =>
              rw [run_call_ok _ _ _ _ _ reply hfaulty] at hrun
              exact ih reply hnext hrun

-- A program that makes no call that can change the state leaves it as it is.
theorem Avoids.run_faulty {handler : Handler sig ε σ} {bad : sig.Op → Prop} {good : α → Prop}
    (hreads : ∀ op state, ¬bad op → (handler op state).2 = state) {program : Program sig ε α}
    (h : program.Avoids bad good) (faults : Nat → Option ε) (state : σ) (number : Nat) :
    (program.run (handler.faulty faults) (state, number)).2.1 = state := by
  induction program generalizing number with
  | Return value => rfl
  | Raise error => rfl
  | Call op next ih =>
      have hstate := hreads op state h.1
      rw [run_call, Handler.faulty]
      cases faults number with
      | some error => rfl
      | none =>
          rcases hh : handler op state with ⟨answer, after⟩
          rw [hh] at hstate
          obtain rfl : after = state := hstate
          cases answer with
          | error error => rfl
          | ok reply => exact ih reply (h.2 reply) _

end Program

end Effects
