import ClaudeCodeProxy.Effects.Ownership
import ClaudeCodeProxy.Effects.Trace
import Mathlib.Algebra.GroupWithZero.Nat

-- Threads among collaborators that always answer: what a thread has called is how a run of its
-- program begins.

namespace Effects

variable {sig : Signature} {ε α β σ τ η ι : Type}

theorem Thread.step_request (handler : Handler sig ε σ) (thread : Thread sig ε α τ) (shared : σ) :
    (thread.step handler shared).1.request = thread.request := by
  cases hp : thread.program with
  | Return value => simp only [Thread.step, hp]
  | Raise error => simp only [Thread.step, hp]
  | Call op next =>
      rcases hh : handler op shared with ⟨answer, after⟩
      cases answer with
      | ok reply => rw [thread.step_ok handler shared after op next reply hp hh]
      | error error => rw [thread.step_error handler shared after op next error hp hh]

-- A step leaves every thread in its place.
theorem System.requests_step (system : System sig ε α τ σ η) (pool : Pool sig ε α τ σ)
    (index : Nat) :
    (system.step pool (.Step index)).threads.map Thread.request =
      pool.threads.map Thread.request := by
  rcases system.step_cases pool index with hsame | ⟨actor, op, next, ha, hp, hs⟩
  · rw [hsame]
  rw [hs]
  obtain ⟨hlt, rfl⟩ := List.getElem?_eq_some_iff.mp ha
  rw [List.map_set, Thread.step_request, ← List.getElem_map Thread.request]
  exact List.set_getElem_self (by rwa [List.length_map])

-- Whatever the thread goes on to do completes a run of the program it was started with.
def Thread.Begins (system : System sig ε α τ σ η) (thread : Thread sig ε α τ) : Prop :=
  ∀ rest outcome, thread.program.Traces rest outcome →
    (system.start thread.request).Traces (thread.log.reverse ++ rest) outcome

-- Every call is answered, and none raises.
def System.Answers (system : System sig ε α τ σ η) : Prop :=
  ∀ request op shared, ∃ reply, (system.handler request op shared).1 = .ok reply

namespace Thread.Begins

variable {system : System sig ε α τ σ η} {thread : Thread sig ε α τ}

theorem spawn (request : τ) : (system.spawn request).Begins system :=
  fun _ _ h => h

theorem step (h : thread.Begins system) (hanswers : system.Answers) (shared : σ) :
    (thread.step (system.handler thread.request) shared).1.Begins system := by
  cases hp : thread.program with
  | Return value =>
      simp only [Thread.step, hp]
      exact h
  | Raise error =>
      simp only [Thread.step, hp]
      exact h
  | Call op next =>
      obtain ⟨reply, hreply⟩ := hanswers thread.request op shared
      have hh : system.handler thread.request op shared =
          (.ok reply, (system.handler thread.request op shared).2) := Prod.ext hreply rfl
      rw [thread.step_ok _ shared _ op next reply hp hh]
      intro rest outcome hrest
      have hcall : thread.program.Traces (⟨op, reply⟩ :: rest) outcome := by
        rw [hp]
        exact ⟨reply, rest, rfl, hrest⟩
      have hrun := h _ _ hcall
      rw [List.reverse_cons, List.append_assoc]
      exact hrun

-- A thread can always be run to an end.
theorem exists_run (h : thread.Begins system) (reply : (op : sig.Op) → sig.Reply op) :
    ∃ rest outcome, (system.start thread.request).Traces (thread.log.reverse ++ rest) outcome :=
  ⟨_, _, h _ _ (thread.program.traces_record reply)⟩

theorem finished {value : α} (h : thread.Begins system) (hp : thread.program = .Return value) :
    (system.start thread.request).Traces thread.log.reverse (.ok value) := by
  have hrun := h [] (.ok value) (by rw [hp]; exact ⟨rfl, rfl⟩)
  rwa [List.append_nil] at hrun

end Thread.Begins

theorem begins_exec {system : System sig ε α τ σ η} (hanswers : system.Answers)
    {start : Pool sig ε α τ σ} (hthreads : start.threads = []) (events : List (Event τ η)) :
    ∀ thread ∈ (system.exec start events).threads, thread.Begins system := by
  have hall : Admissible system.step (fun _ _ => True) start events :=
    admissible_of_forall (fun _ _ => trivial) start events
  refine exec_invariant (fun _ pool => ∀ thread ∈ pool.threads, thread.Begins system) ?_ ?_
    events hall
  · intro thread hm
    rw [hthreads] at hm
    cases hm
  intro _ pool event h _ thread hm
  cases event with
  | Spawn request =>
      rcases List.mem_append.mp hm with hm | hm
      · exact h thread hm
      · rw [List.mem_singleton.mp hm]
        exact .spawn request
  | Environment change => exact h thread hm
  | Step index =>
      rcases system.step_cases pool index with hsame | ⟨actor, op, next, ha, hp, hs⟩
      · rw [hsame] at hm
        exact h thread hm
      · rw [hs] at hm
        rcases List.mem_or_eq_of_mem_set hm with hm | rfl
        · exact h thread hm
        · exact (h actor (List.mem_of_getElem? ha)).step hanswers pool.shared

section Tallies

variable (weight : Answer sig → Nat)

-- What the calls of a thread weigh.
def Thread.total (thread : Thread sig ε α τ) : Nat := (thread.log.map weight).sum

def Pool.total (pool : Pool sig ε α τ σ) : Nat := (pool.threads.map (Thread.total weight)).sum

variable {weight}

theorem sum_set {items : List Nat} {index before : Nat} (h : items[index]? = some before)
    (after : Nat) : (items.set index after).sum + before = items.sum + after := by
  induction items generalizing index with
  | nil => cases h
  | cons head items ih =>
      cases index with
      | zero =>
          cases h
          simp only [List.set_cons_zero, List.sum_cons]
          omega
      | succ index =>
          have htail := ih h
          simp only [List.set_cons_succ, List.sum_cons]
          omega

theorem sum_toNat (p : β → Bool) (items : List β) :
    (items.map fun item => (p item).toNat).sum = items.countP p := by
  induction items with
  | nil => rfl
  | cons head items ih =>
      rw [List.map_cons, List.sum_cons, List.countP_cons, ih, Nat.add_comm]
      cases p head <;> rfl

-- A tally that every call raises by its weight, and nothing else changes, is at any time what
-- the threads' calls weigh together.
theorem exec_total {system : System sig ε α τ σ η} (tally : σ → Nat)
    (hcall : ∀ request op shared reply after,
      system.handler request op shared = (.ok reply, after) →
        tally after = tally shared + weight ⟨op, reply⟩)
    (herror : ∀ request op shared error after,
      system.handler request op shared = (.error error, after) → tally after = tally shared)
    (henvironment : ∀ change shared, tally (system.environment change shared) = tally shared)
    {start : Pool sig ε α τ σ} (hthreads : start.threads = []) (events : List (Event τ η)) :
    tally (system.exec start events).shared =
      tally start.shared + (system.exec start events).total weight := by
  have hall : Admissible system.step (fun _ _ => True) start events :=
    admissible_of_forall (fun _ _ => trivial) start events
  refine exec_invariant (fun _ pool => tally pool.shared = tally start.shared + pool.total weight)
    ?_ ?_ events hall
  · simp only [Pool.total, hthreads, List.map_nil, List.sum_nil, Nat.add_zero]
  intro _ pool event h _
  cases event with
  | Spawn request =>
      have hspawn : (system.step pool (.Spawn request)).total weight = pool.total weight := by
        show ((pool.threads ++ [_]).map (Thread.total weight)).sum = _
        rw [List.map_append, List.sum_append]
        rfl
      rw [hspawn]
      exact h
  | Environment change => exact (henvironment change pool.shared).trans h
  | Step index =>
      rcases system.step_cases pool index with hsame | ⟨actor, op, next, ha, hp, hs⟩
      · rw [hsame]
        exact h
      have hplace : (pool.threads.map (Thread.total weight))[index]? =
          some (actor.total weight) := by
        rw [List.getElem?_map, ha]
        rfl
      rw [hs]
      simp only [Pool.total, List.map_set] at h ⊢
      rcases hh : system.handler actor.request op pool.shared with ⟨answer, after⟩
      cases answer with
      | error error =>
          rw [actor.step_error _ pool.shared after op next error hp hh]
          have hsum := sum_set hplace (actor.total weight)
          have htally := herror _ _ _ _ _ hh
          simp only [Thread.total] at hsum h ⊢
          omega
      | ok reply =>
          rw [actor.step_ok _ pool.shared after op next reply hp hh]
          have hsum := sum_set hplace (weight ⟨op, reply⟩ + actor.total weight)
          have htally := hcall _ _ _ _ _ hh
          simp only [Thread.total, List.map_cons, List.sum_cons] at hsum h ⊢
          omega

end Tallies

end Effects
