import ClaudeCodeProxy.Effects.Interleaving

-- A record of every moment of a run, kept beside the state without touching the run.

namespace Effects

variable {sig : Signature} {ε α σ τ η : Type}

-- The state at hand and the states before it, latest first.
structure Chronicle (σ : Type) where
  now : σ
  past : List σ

def Chronicle.moments (chronicle : Chronicle σ) : List σ := chronicle.now :: chronicle.past

def Chronicle.extend (chronicle : Chronicle σ) (next : σ) : Chronicle σ :=
  ⟨next, chronicle.moments⟩

theorem Chronicle.now_mem (chronicle : Chronicle σ) : chronicle.now ∈ chronicle.moments :=
  List.mem_cons_self

def Handler.recorded (handler : Handler sig ε σ) : Handler sig ε (Chronicle σ) :=
  fun op chronicle =>
    ((handler op chronicle.now).1, chronicle.extend (handler op chronicle.now).2)

def System.recorded (system : System sig ε α τ σ η) : System sig ε α τ (Chronicle σ) η where
  start := system.start
  handler request := (system.handler request).recorded
  environment change chronicle := chronicle.extend (system.environment change chronicle.now)

def Pool.recorded (pool : Pool sig ε α τ σ) : Pool sig ε α τ (Chronicle σ) :=
  ⟨⟨pool.shared, []⟩, pool.threads⟩

def Pool.forget (pool : Pool sig ε α τ (Chronicle σ)) : Pool sig ε α τ σ :=
  ⟨pool.shared.now, pool.threads⟩

theorem Thread.step_recorded (handler : Handler sig ε σ) (thread : Thread sig ε α τ)
    (chronicle : Chronicle σ) :
    (thread.step handler.recorded chronicle).1 = (thread.step handler chronicle.now).1 ∧
      (thread.step handler.recorded chronicle).2.now = (thread.step handler chronicle.now).2 := by
  cases hp : thread.program with
  | Return value => simp [Thread.step, hp]
  | Raise error => simp [Thread.step, hp]
  | Call op next =>
      rcases hh : handler op chronicle.now with ⟨answer, after⟩
      have hrecorded : handler.recorded op chronicle = (answer, chronicle.extend after) := by
        simp [Handler.recorded, hh]
      cases answer with
      | ok reply =>
          rw [thread.step_ok _ _ _ op next reply hp hrecorded,
            thread.step_ok _ _ _ op next reply hp hh]
          exact ⟨rfl, rfl⟩
      | error error =>
          rw [thread.step_error _ _ _ op next error hp hrecorded,
            thread.step_error _ _ _ op next error hp hh]
          exact ⟨rfl, rfl⟩

namespace System

variable (system : System sig ε α τ σ η)

theorem recorded_step (pool : Pool sig ε α τ (Chronicle σ)) (event : Event τ η) :
    (system.recorded.step pool event).forget = system.step pool.forget event := by
  cases event with
  | Spawn request => rfl
  | Environment change => rfl
  | Step index =>
      cases hi : pool.threads[index]? with
      | none => simp [step, Pool.forget, hi]
      | some thread =>
          obtain ⟨hthread, hnow⟩ :=
            thread.step_recorded (system.handler thread.request) pool.shared
          simp only [step, Pool.forget, hi, recorded, hthread, hnow]

theorem recorded_exec (start : Pool sig ε α τ σ) (events : List (Event τ η)) :
    (system.recorded.exec start.recorded events).forget = system.exec start events := by
  induction events using List.reverseRecOn with
  | nil => rfl
  | append_singleton past event ih =>
      simp only [exec, exec_append, exec_cons, exec_nil] at ih ⊢
      rw [recorded_step, ih]

-- A step adds the state it leads to, or leaves the record as it is.
theorem moments_recorded_step (pool : Pool sig ε α τ (Chronicle σ)) (event : Event τ η)
    (moment : σ) (h : moment ∈ (system.recorded.step pool event).shared.moments) :
    moment = (system.recorded.step pool event).forget.shared ∨ moment ∈ pool.shared.moments := by
  rcases List.mem_cons.mp h with rfl | hpast
  · exact Or.inl rfl
  · right
    cases event with
    | Spawn request => exact List.mem_cons_of_mem _ hpast
    | Environment change => exact hpast
    | Step index =>
        rcases system.recorded.step_cases pool index with hsame | ⟨thread, op, next, _, hp, hs⟩
        · rw [hsame] at hpast
          exact List.mem_cons_of_mem _ hpast
        · rw [hs, thread.step_shared _ _ op next hp] at hpast
          exact hpast

-- Every recorded moment is the state after some part of the run.
theorem moments_recorded_exec (start : Pool sig ε α τ σ) (events : List (Event τ η)) (moment : σ)
    (h : moment ∈ (system.recorded.exec start.recorded events).shared.moments) :
    ∃ past, past <+: events ∧ moment = (system.exec start past).shared := by
  induction events using List.reverseRecOn with
  | nil =>
      rw [List.mem_singleton.mp h]
      exact ⟨[], List.prefix_refl _, rfl⟩
  | append_singleton past event ih =>
      have hlast : system.recorded.exec start.recorded (past ++ [event]) =
          system.recorded.step (system.recorded.exec start.recorded past) event := by
        simp only [exec, exec_append, exec_cons, exec_nil]
      rw [hlast] at h
      rcases system.moments_recorded_step _ event moment h with hnow | hbefore
      · refine ⟨past ++ [event], List.prefix_refl _, ?_⟩
        rw [hnow, ← hlast, recorded_exec]
      · obtain ⟨earlier, hprefix, hmoment⟩ := ih hbefore
        exact ⟨earlier, hprefix.trans (List.prefix_append _ _), hmoment⟩

end System

end Effects
