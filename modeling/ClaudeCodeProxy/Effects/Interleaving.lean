import ClaudeCodeProxy.Effects.Program
import ClaudeCodeProxy.Effects.Run

namespace Effects

variable {sig : Signature} {ε α σ τ η : Type}

-- A program under way, with the answers it has received, latest first.
structure Thread (sig : Signature) (ε α τ : Type) where
  request : τ
  program : Program sig ε α
  log : List (Answer sig)

structure Pool (sig : Signature) (ε α τ σ : Type) where
  shared : σ
  threads : List (Thread sig ε α τ)

inductive Event (τ η : Type)
  | Spawn (request : τ)
  | Step (index : Nat)
  | Environment (change : η)

structure System (sig : Signature) (ε α τ σ η : Type) where
  start : τ → Program sig ε α
  handler : τ → Handler sig ε σ
  environment : η → σ → σ

def Thread.finished (thread : Thread sig ε α τ) : Prop :=
  ∀ op next, thread.program ≠ .Call op next

instance (thread : Thread sig ε α τ) : Decidable thread.finished :=
  match hp : thread.program with
  | .Return value => isTrue fun op next h => by rw [hp] at h; cases h
  | .Raise error => isTrue fun op next h => by rw [hp] at h; cases h
  | .Call op next => isFalse fun h => h op next hp

-- One call of the thread. A finished thread stays as it is.
def Thread.step (handler : Handler sig ε σ) (thread : Thread sig ε α τ) (shared : σ) :
    Thread sig ε α τ × σ :=
  match thread.program with
  | .Return _ => (thread, shared)
  | .Raise _ => (thread, shared)
  | .Call op next =>
      match handler op shared with
      | (.ok reply, shared') =>
          ({ thread with program := next reply, log := ⟨op, reply⟩ :: thread.log }, shared')
      | (.error error, shared') => ({ thread with program := .Raise error }, shared')

theorem Thread.step_ok (handler : Handler sig ε σ) (thread : Thread sig ε α τ) (shared after : σ)
    (op : sig.Op) (next : sig.Reply op → Program sig ε α) (reply : sig.Reply op)
    (hp : thread.program = .Call op next) (hh : handler op shared = (.ok reply, after)) :
    thread.step handler shared =
      (⟨thread.request, next reply, ⟨op, reply⟩ :: thread.log⟩, after) := by
  simp only [Thread.step, hp, hh]

theorem Thread.step_error (handler : Handler sig ε σ) (thread : Thread sig ε α τ)
    (shared after : σ) (op : sig.Op) (next : sig.Reply op → Program sig ε α) (error : ε)
    (hp : thread.program = .Call op next) (hh : handler op shared = (.error error, after)) :
    thread.step handler shared = (⟨thread.request, .Raise error, thread.log⟩, after) := by
  simp only [Thread.step, hp, hh]

theorem Thread.step_shared (handler : Handler sig ε σ) (thread : Thread sig ε α τ) (shared : σ)
    (op : sig.Op) (next : sig.Reply op → Program sig ε α) (hp : thread.program = .Call op next) :
    (thread.step handler shared).2 = (handler op shared).2 := by
  rcases hh : handler op shared with ⟨answer, after⟩
  cases answer with
  | ok reply => rw [thread.step_ok handler shared after op next reply hp hh]
  | error error => rw [thread.step_error handler shared after op next error hp hh]

namespace System

variable (system : System sig ε α τ σ η)

def spawn (request : τ) : Thread sig ε α τ :=
  ⟨request, system.start request, []⟩

def step (pool : Pool sig ε α τ σ) : Event τ η → Pool sig ε α τ σ
  | .Spawn request => { pool with threads := pool.threads ++ [system.spawn request] }
  | .Step index =>
      match pool.threads[index]? with
      | none => pool
      | some thread =>
          let next := thread.step (system.handler thread.request) pool.shared
          ⟨next.2, pool.threads.set index next.1⟩
  | .Environment change => { pool with shared := system.environment change pool.shared }

abbrev exec (pool : Pool sig ε α τ σ) (events : List (Event τ η)) : Pool sig ε α τ σ :=
  Effects.exec system.step pool events

-- What a step of the thread at `index` is: either nothing happens, or the thread
-- makes the call its program stands at.
theorem step_cases (pool : Pool sig ε α τ σ) (index : Nat) :
    system.step pool (.Step index) = pool ∨
    ∃ thread op next, pool.threads[index]? = some thread ∧ thread.program = .Call op next ∧
      system.step pool (.Step index) =
        ⟨(thread.step (system.handler thread.request) pool.shared).2,
          pool.threads.set index (thread.step (system.handler thread.request) pool.shared).1⟩ := by
  cases hi : pool.threads[index]? with
  | none => left; simp [step, hi]
  | some thread =>
      have hset : pool.threads.set index thread = pool.threads := by
        obtain ⟨hlt, rfl⟩ := List.getElem?_eq_some_iff.mp hi
        exact List.set_getElem_self hlt
      cases hp : thread.program with
      | Return value => left; simp [step, hi, Thread.step, hp, hset]
      | Raise error => left; simp [step, hi, Thread.step, hp, hset]
      | Call op next => exact Or.inr ⟨thread, op, next, rfl, hp, by simp only [step, hi]⟩

end System

-- What the threads of a system may count on. `inv` holds of the shared state at
-- every moment and `rely` between any two moments. `assumes` is what the run
-- promises about a call before it is made. `check` is what a thread guarantees
-- about the place its program has come to.
structure Contract (sig : Signature) (ε α τ σ : Type) where
  inv : σ → Prop
  rely : σ → σ → Prop
  assumes : τ → List (Answer sig) → sig.Op → σ → Prop
  check : τ → List (Answer sig) → Program sig ε α → σ → Prop
  refl : ∀ shared, rely shared shared
  trans : ∀ first second third, rely first second → rely second third → rely first third

namespace Contract

variable (contract : Contract sig ε α τ σ)

-- The program keeps its guarantees from `shared` on, whatever the others do
-- between its calls within `rely`.
def Safe (handler : Handler sig ε σ) (request : τ) :
    List (Answer sig) → Program sig ε α → σ → Prop
  | log, .Return value, shared =>
      ∀ now, contract.rely shared now → contract.inv now →
        contract.check request log (.Return value) now
  | log, .Raise error, shared =>
      ∀ now, contract.rely shared now → contract.inv now →
        contract.check request log (.Raise error) now
  | log, .Call op next, shared =>
      ∀ now, contract.rely shared now → contract.inv now →
        contract.check request log (.Call op next) now ∧
        (contract.assumes request log op now →
          match handler op now with
          | (.ok reply, after) => Safe handler request (⟨op, reply⟩ :: log) (next reply) after
          | (.error error, after) =>
              ∀ later, contract.rely after later → contract.inv later →
                contract.check request log (.Raise error) later)

variable {contract}

theorem Safe.mono {handler : Handler sig ε σ} {request : τ} {log : List (Answer sig)}
    {program : Program sig ε α} {shared shared' : σ}
    (h : contract.Safe handler request log program shared) (hr : contract.rely shared shared') :
    contract.Safe handler request log program shared' := by
  cases program with
  | Return value => exact fun now hn hi => h now (contract.trans _ _ _ hr hn) hi
  | Raise error => exact fun now hn hi => h now (contract.trans _ _ _ hr hn) hi
  | Call op next => exact fun now hn hi => h now (contract.trans _ _ _ hr hn) hi

theorem Safe.check {handler : Handler sig ε σ} {request : τ} {log : List (Answer sig)}
    {program : Program sig ε α} {shared : σ}
    (h : contract.Safe handler request log program shared) (hi : contract.inv shared) :
    contract.check request log program shared := by
  cases program with
  | Return value => exact h shared (contract.refl _) hi
  | Raise error => exact h shared (contract.refl _) hi
  | Call op next => exact (h shared (contract.refl _) hi).1

-- The rule for a call that always answers.
theorem Safe.call {handler : Handler sig ε σ} {request : τ} {log : List (Answer sig)}
    {op : sig.Op} {next : sig.Reply op → Program sig ε α} {shared : σ}
    (reply : σ → sig.Reply op) (after : σ → σ)
    (hrun : ∀ now, handler op now = (.ok (reply now), after now))
    (hcheck : ∀ now, contract.rely shared now → contract.inv now →
      contract.check request log (.Call op next) now)
    (hnext : ∀ now, contract.rely shared now → contract.inv now →
      contract.assumes request log op now →
      contract.Safe handler request (⟨op, reply now⟩ :: log) (next (reply now)) (after now)) :
    contract.Safe handler request log (.Call op next) shared := by
  intro now hr hi
  refine ⟨hcheck now hr hi, ?_⟩
  intro ha
  rw [hrun now]
  exact hnext now hr hi ha

-- The rule for a call that answers or raises whatever the shared state is.
theorem Safe.fallible {handler : Handler sig ε σ} {request : τ} {log : List (Answer sig)}
    {op : sig.Op} {next : sig.Reply op → Program sig ε α} {shared : σ}
    (answer : Except ε (sig.Reply op)) (after : σ → σ)
    (hrun : ∀ now, handler op now = (answer, after now))
    (hcheck : ∀ now, contract.rely shared now → contract.inv now →
      contract.check request log (.Call op next) now)
    (hok : ∀ reply, answer = .ok reply → ∀ now, contract.rely shared now → contract.inv now →
      contract.Safe handler request (⟨op, reply⟩ :: log) (next reply) (after now))
    (herror : ∀ error, answer = .error error → ∀ now, contract.rely shared now →
      contract.inv now → ∀ later, contract.rely (after now) later → contract.inv later →
      contract.check request log (.Raise error) later) :
    contract.Safe handler request log (.Call op next) shared := by
  intro now hr hi
  refine ⟨hcheck now hr hi, ?_⟩
  intro _
  rw [hrun now]
  cases hanswer : answer with
  | ok reply => exact hok reply hanswer now hr hi
  | error error => exact herror error hanswer now hr hi

-- A program that avoids every place with a guarantee to keep.
theorem Safe.of_avoids {handler : Handler sig ε σ} {request : τ} {bad : sig.Op → Prop}
    {good : α → Prop} {program : Program sig ε α} (h : program.Avoids bad good)
    (hreturn : ∀ log value now, good value → contract.check request log (.Return value) now)
    (hraise : ∀ log error now, contract.check request log (.Raise error) now)
    (hcall : ∀ log op next now, ¬bad op → contract.check request log (.Call op next) now)
    (log : List (Answer sig)) (shared : σ) : contract.Safe handler request log program shared := by
  induction program generalizing log shared with
  | Return value => exact fun now _ _ => hreturn log value now h
  | Raise error => exact fun now _ _ => hraise log error now
  | Call op next ih =>
      intro now _ _
      refine ⟨hcall log op next now h.1, ?_⟩
      intro _
      rcases handler op now with ⟨answer, after⟩
      cases answer with
      | ok reply => exact ih reply (h.2 reply) _ _
      | error error => exact fun later _ _ => hraise log error later

def ThreadSafe (contract : Contract sig ε α τ σ) (system : System sig ε α τ σ η)
    (thread : Thread sig ε α τ) (shared : σ) : Prop :=
  contract.Safe (system.handler thread.request) thread.request thread.log thread.program shared

theorem ThreadSafe.step {system : System sig ε α τ σ η} {thread : Thread sig ε α τ} {shared : σ}
    (h : contract.ThreadSafe system thread shared) (hi : contract.inv shared)
    (op : sig.Op) (next : sig.Reply op → Program sig ε α) (hp : thread.program = .Call op next)
    (ha : contract.assumes thread.request thread.log op shared) :
    contract.ThreadSafe system (thread.step (system.handler thread.request) shared).1
      (thread.step (system.handler thread.request) shared).2 := by
  unfold ThreadSafe at h
  rw [hp] at h
  have hnext := (h shared (contract.refl _) hi).2 ha
  rcases hh : system.handler thread.request op shared with ⟨answer, after⟩
  rw [hh] at hnext
  cases answer with
  | ok reply =>
      rw [thread.step_ok _ shared after op next reply hp hh]
      exact hnext
  | error error =>
      rw [thread.step_error _ shared after op next error hp hh]
      exact hnext

-- The promise of the run about an event: the calling thread's `assumes`.
def Assumed (contract : Contract sig ε α τ σ) (pool : Pool sig ε α τ σ) : Event τ η → Prop
  | .Spawn _ => True
  | .Step index => ∀ thread op next, pool.threads[index]? = some thread →
      thread.program = .Call op next →
      contract.assumes thread.request thread.log op pool.shared
  | .Environment _ => True

theorem step_safe {system : System sig ε α τ σ η} {pool : Pool sig ε α τ σ} {event : Event τ η}
    (hinv : contract.inv pool.shared)
    (hsafe : ∀ thread ∈ pool.threads, contract.ThreadSafe system thread pool.shared)
    (hspawn : ∀ request, event = .Spawn request →
      contract.ThreadSafe system (system.spawn request) pool.shared)
    (hrely : contract.rely pool.shared (system.step pool event).shared)
    (hassumed : contract.Assumed pool event) :
    ∀ thread ∈ (system.step pool event).threads,
      contract.ThreadSafe system thread (system.step pool event).shared := by
  intro thread hm
  cases event with
  | Spawn request =>
      rcases List.mem_append.mp hm with hm | hm
      · exact (hsafe thread hm).mono hrely
      · rw [List.mem_singleton.mp hm]
        exact hspawn request rfl
  | Environment change => exact (hsafe thread hm).mono hrely
  | Step index =>
      rcases system.step_cases pool index with hsame | ⟨actor, op, next, ha, hp, hs⟩
      · rw [hsame] at hm ⊢
        exact hsafe thread hm
      · have hactor : actor ∈ pool.threads := List.mem_of_getElem? ha
        rw [hs] at hm hrely ⊢
        rcases List.mem_or_eq_of_mem_set hm with hm | rfl
        · exact (hsafe thread hm).mono hrely
        · exact (hsafe actor hactor).step hinv op next hp (hassumed actor op next ha hp)

-- A pool at rest starts a run.
theorem threadSafe_of_no_threads {system : System sig ε α τ σ η} {pool : Pool sig ε α τ σ}
    (h : pool.threads = []) :
    ∀ thread ∈ pool.threads, contract.ThreadSafe system thread pool.shared := by
  intro thread hm
  rw [h] at hm
  cases hm

-- The run rule: an invariant of the pool that every admitted event preserves,
-- with the guarantees of the threads at hand, holds in every state of the run,
-- and the threads keep their guarantees there.
theorem exec_safe {system : System sig ε α τ σ η} {start : Pool sig ε α τ σ}
    {ok : Pool sig ε α τ σ → Event τ η → Prop}
    (inv : List (Event τ η) → Pool sig ε α τ σ → Prop)
    (hinv : ∀ past pool, inv past pool → contract.inv pool.shared)
    (hspawn : ∀ request pool, ok pool (.Spawn request) →
      contract.ThreadSafe system (system.spawn request) pool.shared)
    (hstart : inv [] start)
    (hthreads : ∀ thread ∈ start.threads, contract.ThreadSafe system thread start.shared)
    (hstep : ∀ past pool event, inv past pool → ok pool event →
      (∀ thread ∈ pool.threads, contract.ThreadSafe system thread pool.shared) →
      inv (past ++ [event]) (system.step pool event) ∧
        contract.rely pool.shared (system.step pool event).shared ∧ contract.Assumed pool event)
    (events : List (Event τ η)) (hok : Admissible system.step ok start events) :
    inv events (system.exec start events) ∧
      ∀ thread ∈ (system.exec start events).threads,
        contract.ThreadSafe system thread (system.exec start events).shared := by
  apply exec_invariant (fun past pool => inv past pool ∧
    ∀ thread ∈ pool.threads, contract.ThreadSafe system thread pool.shared)
    ⟨hstart, hthreads⟩ _ events hok
  rintro past pool event ⟨hi, hsafe⟩ hadmit
  obtain ⟨hnext, hrely, hassumed⟩ := hstep past pool event hi hadmit hsafe
  refine ⟨hnext, step_safe (hinv past pool hi) hsafe ?_ hrely hassumed⟩
  rintro request rfl
  exact hspawn request pool hadmit

end Contract

end Effects
