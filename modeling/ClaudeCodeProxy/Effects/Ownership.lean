import ClaudeCodeProxy.Effects.Interleaving

-- Threads that own parts of the shared state: what a thread may count on between its calls
-- depends on who it is, and every call keeps what the others count on.

namespace Effects

variable {sig : Signature} {ε α β σ τ η ι : Type}

-- `rely who` holds between two moments when only others than `who` have run in between.
-- `check` is what a thread guarantees of its log at every moment.
structure Ownership (sig : Signature) (τ σ ι : Type) where
  owner : τ → ι
  inv : σ → Prop
  rely : ι → σ → σ → Prop
  check : τ → List (Answer sig) → σ → Prop
  refl : ∀ who shared, rely who shared shared
  trans : ∀ who first second third, rely who first second → rely who second third →
    rely who first third

namespace Ownership

variable (contract : Ownership sig τ σ ι)

-- What a call of `request` does for the others.
def Guarantee (request : τ) (before after : σ) : Prop :=
  contract.inv after ∧ ∀ other, other ≠ contract.owner request → contract.rely other before after

-- The program keeps its guarantees from `shared` on, and ends within `post`.
def Safe (handler : Handler sig ε σ) (request : τ)
    (post : List (Answer sig) → Except ε α → σ → Prop) :
    List (Answer sig) → Program sig ε α → σ → Prop
  | log, .Return value, shared =>
      ∀ now, contract.rely (contract.owner request) shared now → contract.inv now →
        contract.check request log now ∧ post log (.ok value) now
  | log, .Raise error, shared =>
      ∀ now, contract.rely (contract.owner request) shared now → contract.inv now →
        contract.check request log now ∧ post log (.error error) now
  | log, .Call op next, shared =>
      ∀ now, contract.rely (contract.owner request) shared now → contract.inv now →
        contract.check request log now ∧
        contract.Guarantee request now (handler op now).2 ∧
        match handler op now with
        | (.ok reply, after) => Safe handler request post (⟨op, reply⟩ :: log) (next reply) after
        | (.error error, after) =>
            ∀ later, contract.rely (contract.owner request) after later → contract.inv later →
              contract.check request log later ∧ post log (.error error) later

variable {contract} {handler : Handler sig ε σ} {request : τ} {log : List (Answer sig)}
  {post : List (Answer sig) → Except ε α → σ → Prop} {program : Program sig ε α} {shared : σ}

theorem Safe.mono (h : contract.Safe handler request post log program shared) {shared' : σ}
    (hr : contract.rely (contract.owner request) shared shared') :
    contract.Safe handler request post log program shared' := by
  cases program with
  | Return value => exact fun now hn hi => h now (contract.trans _ _ _ _ hr hn) hi
  | Raise error => exact fun now hn hi => h now (contract.trans _ _ _ _ hr hn) hi
  | Call op next => exact fun now hn hi => h now (contract.trans _ _ _ _ hr hn) hi

theorem Safe.check (h : contract.Safe handler request post log program shared)
    (hi : contract.inv shared) : contract.check request log shared := by
  cases program with
  | Return value => exact (h shared (contract.refl _ _) hi).1
  | Raise error => exact (h shared (contract.refl _ _) hi).1
  | Call op next => exact (h shared (contract.refl _ _) hi).1

theorem Safe.post_ok {value : α} (h : contract.Safe handler request post log (.Return value) shared)
    (hi : contract.inv shared) : post log (.ok value) shared :=
  (h shared (contract.refl _ _) hi).2

theorem Safe.post_error {error : ε}
    (h : contract.Safe handler request post log (.Raise error) shared)
    (hi : contract.inv shared) : post log (.error error) shared :=
  (h shared (contract.refl _ _) hi).2

theorem guarantee_refl {now : σ} (hi : contract.inv now) : contract.Guarantee request now now :=
  ⟨hi, fun _ _ => contract.refl _ _⟩

section Rules

theorem Safe.return {value : α}
    (h : ∀ now, contract.rely (contract.owner request) shared now → contract.inv now →
      contract.check request log now ∧ post log (.ok value) now) :
    contract.Safe handler request post log (.Return value) shared := h

theorem Safe.raise {error : ε}
    (h : ∀ now, contract.rely (contract.owner request) shared now → contract.inv now →
      contract.check request log now ∧ post log (.error error) now) :
    contract.Safe handler request post log (.Raise error) shared := h

-- The rule for any call.
theorem Safe.step {op : sig.Op} {next : sig.Reply op → Program sig ε α}
    (h : ∀ now, contract.rely (contract.owner request) shared now → contract.inv now →
      contract.check request log now ∧
      contract.Guarantee request now (handler op now).2 ∧
      match handler op now with
      | (.ok reply, after) =>
          contract.Safe handler request post (⟨op, reply⟩ :: log) (next reply) after
      | (.error error, after) =>
          ∀ later, contract.rely (contract.owner request) after later → contract.inv later →
            contract.check request log later ∧ post log (.error error) later) :
    contract.Safe handler request post log (.Call op next) shared := h

-- The rule for a call that always answers.
theorem Safe.call {op : sig.Op} {next : sig.Reply op → Program sig ε α} (reply : σ → sig.Reply op)
    (after : σ → σ) (hrun : ∀ now, handler op now = (.ok (reply now), after now))
    (h : ∀ now, contract.rely (contract.owner request) shared now → contract.inv now →
      contract.check request log now ∧ contract.Guarantee request now (after now) ∧
      contract.Safe handler request post (⟨op, reply now⟩ :: log) (next (reply now)) (after now)) :
    contract.Safe handler request post log (.Call op next) shared := by
  intro now hr hi
  rw [hrun now]
  exact h now hr hi

-- A call that reads the state leaves it to the others as it was.
theorem Safe.read {op : sig.Op} {next : sig.Reply op → Program sig ε α} (reply : σ → sig.Reply op)
    (hrun : ∀ now, handler op now = (.ok (reply now), now))
    (h : ∀ now, contract.rely (contract.owner request) shared now → contract.inv now →
      contract.check request log now ∧
      contract.Safe handler request post (⟨op, reply now⟩ :: log) (next (reply now)) now) :
    contract.Safe handler request post log (.Call op next) shared :=
  .call reply id hrun fun now hr hi => ⟨(h now hr hi).1, guarantee_refl hi, (h now hr hi).2⟩

-- What a call leaves of the guarantees of its thread.
def CheckedAfter (contract : Ownership sig τ σ ι) (request : τ) (log : List (Answer sig))
    (op : sig.Op) : Except ε (sig.Reply op) × σ → Prop
  | (.ok reply, after) => contract.check request (⟨op, reply⟩ :: log) after
  | (.error _, after) => contract.check request log after

-- Where every call keeps its guarantees, so does every program.
theorem Safe.of_calls
    (hothers : ∀ log before after, contract.check request log before →
      contract.rely (contract.owner request) before after → contract.check request log after)
    (hcall : ∀ log op now, contract.inv now → contract.check request log now →
      contract.Guarantee request now (handler op now).2 ∧
        contract.CheckedAfter request log op (handler op now))
    (hcheck : contract.check request log shared) :
    contract.Safe handler request (fun _ _ _ => True) log program shared := by
  induction program generalizing log shared with
  | Return value => exact fun now hr _ => ⟨hothers _ _ _ hcheck hr, trivial⟩
  | Raise error => exact fun now hr _ => ⟨hothers _ _ _ hcheck hr, trivial⟩
  | Call op next ih =>
      intro now hr hi
      have hnow := hothers _ _ _ hcheck hr
      obtain ⟨hguarantee, hafter⟩ := hcall log op now hi hnow
      refine ⟨hnow, hguarantee, ?_⟩
      rcases hh : handler op now with ⟨answer, after⟩
      rw [hh] at hafter
      cases answer with
      | ok reply => exact ih reply hafter
      | error error => exact fun later hr _ => ⟨hothers _ _ _ hafter hr, trivial⟩

end Rules

section Runs

variable {system : System sig ε α τ σ η}
  {postOf : τ → List (Answer sig) → Except ε α → σ → Prop}

def ThreadSafe (contract : Ownership sig τ σ ι) (system : System sig ε α τ σ η)
    (postOf : τ → List (Answer sig) → Except ε α → σ → Prop) (thread : Thread sig ε α τ)
    (shared : σ) : Prop :=
  contract.Safe (system.handler thread.request) thread.request (postOf thread.request) thread.log
    thread.program shared

-- The pool's threads have owners of their own and keep their guarantees.
structure PoolSafe (contract : Ownership sig τ σ ι) (system : System sig ε α τ σ η)
    (postOf : τ → List (Answer sig) → Except ε α → σ → Prop) (pool : Pool sig ε α τ σ) : Prop where
  inv : contract.inv pool.shared
  safe : ∀ (index : Nat) (thread : Thread sig ε α τ), pool.threads[index]? = some thread →
    contract.ThreadSafe system postOf thread pool.shared
  distinct : ∀ (i j : Nat) (first second : Thread sig ε α τ), pool.threads[i]? = some first →
    pool.threads[j]? = some second → contract.owner first.request = contract.owner second.request →
    i = j

theorem Safe.threadStep {thread : Thread sig ε α τ} {shared : σ} {op : sig.Op}
    {next : sig.Reply op → Program sig ε α} (hp : thread.program = .Call op next)
    (h : contract.ThreadSafe system postOf thread shared) (hi : contract.inv shared) :
    contract.ThreadSafe system postOf (thread.step (system.handler thread.request) shared).1
        (thread.step (system.handler thread.request) shared).2 ∧
      contract.Guarantee thread.request shared
        (thread.step (system.handler thread.request) shared).2 ∧
      (thread.step (system.handler thread.request) shared).1.request = thread.request := by
  unfold ThreadSafe at h
  rw [hp] at h
  obtain ⟨-, hguarantee, hnext⟩ := h shared (contract.refl _ _) hi
  rcases hh : system.handler thread.request op shared with ⟨answer, after⟩
  rw [hh] at hnext hguarantee
  cases answer with
  | ok reply =>
      rw [thread.step_ok _ shared after op next reply hp hh]
      exact ⟨hnext, hguarantee, rfl⟩
  | error error =>
      rw [thread.step_error _ shared after op next error hp hh]
      exact ⟨hnext, hguarantee, rfl⟩

theorem getElem?_append_singleton {items : List β} {last item : β} {index : Nat}
    (h : (items ++ [last])[index]? = some item) :
    items[index]? = some item ∨ index = items.length ∧ item = last := by
  rw [List.getElem?_append] at h
  split at h
  · exact .inl h
  · rw [List.getElem?_singleton] at h
    split at h
    · cases h
      exact .inr ⟨by omega, rfl⟩
    · cases h

theorem getElem?_set_cases {items : List β} {new item : β} {index other : Nat}
    (h : (items.set index new)[other]? = some item) :
    other = index ∧ item = new ∨ other ≠ index ∧ items[other]? = some item := by
  rw [List.getElem?_set] at h
  split at h
  · next heq =>
      split at h
      · cases h
        exact .inl ⟨heq.symm, rfl⟩
      · cases h
  · next hne => exact .inr ⟨fun heq => hne heq.symm, h⟩

theorem PoolSafe.spawn {pool : Pool sig ε α τ σ} (h : contract.PoolSafe system postOf pool)
    {request : τ} (hfresh : ∀ thread ∈ pool.threads,
      contract.owner thread.request ≠ contract.owner request)
    (hsafe : contract.ThreadSafe system postOf (system.spawn request) pool.shared) :
    contract.PoolSafe system postOf (system.step pool (.Spawn request)) := by
  refine ⟨h.inv, ?_, ?_⟩
  · intro index thread ht
    rcases getElem?_append_singleton ht with ht | ⟨-, rfl⟩
    · exact h.safe index thread ht
    · exact hsafe
  · intro i j first second hi hj hsame
    rcases getElem?_append_singleton hi with hi | ⟨rfl, rfl⟩ <;>
      rcases getElem?_append_singleton hj with hj | ⟨rfl, rfl⟩
    · exact h.distinct i j first second hi hj hsame
    · exact absurd hsame (hfresh first (List.mem_of_getElem? hi))
    · exact absurd hsame.symm (hfresh second (List.mem_of_getElem? hj))
    · rfl

theorem PoolSafe.stepThread {pool : Pool sig ε α τ σ} (h : contract.PoolSafe system postOf pool)
    (index : Nat) : contract.PoolSafe system postOf (system.step pool (.Step index)) := by
  rcases system.step_cases pool index with hsame | ⟨actor, op, next, ha, hp, hs⟩
  · rw [hsame]
    exact h
  obtain ⟨hactor, ⟨hinv, hothers⟩, hrequest⟩ :=
    Safe.threadStep hp (h.safe index actor ha) h.inv
  rw [hs]
  -- Every thread has the request, and so the owner, that stood in its place before.
  have hbefore : ∀ (other : Nat) (thread : Thread sig ε α τ),
      (pool.threads.set index (actor.step (system.handler actor.request) pool.shared).1)[other]? =
        some thread →
      ∃ old, pool.threads[other]? = some old ∧ old.request = thread.request := by
    intro other thread ht
    rcases getElem?_set_cases ht with ⟨rfl, rfl⟩ | ⟨-, ht⟩
    · exact ⟨actor, ha, hrequest.symm⟩
    · exact ⟨thread, ht, rfl⟩
  refine ⟨hinv, ?_, ?_⟩
  · intro other thread ht
    rcases getElem?_set_cases ht with ⟨rfl, rfl⟩ | ⟨hne, ht⟩
    · exact hactor
    · have howner : contract.owner thread.request ≠ contract.owner actor.request :=
        fun hsame => hne (h.distinct other index thread actor ht ha hsame)
      exact (h.safe other thread ht).mono (hothers _ howner)
  · intro i j first second hi hj hsame
    obtain ⟨old, hbi, hfirst⟩ := hbefore i first hi
    obtain ⟨old', hbj, hsecond⟩ := hbefore j second hj
    exact h.distinct i j old old' hbi hbj (by rw [hfirst, hsecond, hsame])

-- The run rule. A pool at rest starts the run, and no two of its threads are one owner's.
theorem exec_poolSafe {start : Pool sig ε α τ σ} {ok : Pool sig ε α τ σ → Event τ η → Prop}
    (hstart : contract.inv start.shared) (hthreads : start.threads = [])
    (hfresh : ∀ pool request, ok pool (.Spawn request) → ∀ thread ∈ pool.threads,
      contract.owner thread.request ≠ contract.owner request)
    (hspawn : ∀ pool request, ok pool (.Spawn request) → contract.inv pool.shared →
      contract.ThreadSafe system postOf (system.spawn request) pool.shared)
    (henvironment : ∀ pool change, ok pool (.Environment change) → contract.inv pool.shared →
      contract.inv (system.environment change pool.shared) ∧
        ∀ who, contract.rely who pool.shared (system.environment change pool.shared))
    (events : List (Event τ η)) (hok : Admissible system.step ok start events) :
    contract.PoolSafe system postOf (system.exec start events) := by
  have hnone : ∀ (index : Nat) (thread : Thread sig ε α τ),
      start.threads[index]? ≠ some thread := by
    intro index thread ht
    rw [hthreads] at ht
    cases ht
  refine exec_invariant (fun _ pool => contract.PoolSafe system postOf pool)
    ⟨hstart, fun index thread ht => absurd ht (hnone index thread),
      fun i _ first _ hi => absurd hi (hnone i first)⟩ ?_ events hok
  intro _ pool event h hadmit
  cases event with
  | Spawn request =>
      exact h.spawn (hfresh pool request hadmit) (hspawn pool request hadmit h.inv)
  | Step index => exact h.stepThread index
  | Environment change =>
      obtain ⟨hinv, hrely⟩ := henvironment pool change hadmit h.inv
      exact ⟨hinv, fun index thread ht => (h.safe index thread ht).mono (hrely _), h.distinct⟩

section Threads

variable {pool : Pool sig ε α τ σ} {thread : Thread sig ε α τ}

theorem PoolSafe.threadSafe (h : contract.PoolSafe system postOf pool)
    (hm : thread ∈ pool.threads) : contract.ThreadSafe system postOf thread pool.shared := by
  obtain ⟨index, ht⟩ := List.mem_iff_getElem?.mp hm
  exact h.safe index thread ht

theorem PoolSafe.check (h : contract.PoolSafe system postOf pool) (hm : thread ∈ pool.threads) :
    contract.check thread.request thread.log pool.shared :=
  Safe.check (h.threadSafe hm) h.inv

theorem PoolSafe.post_ok (h : contract.PoolSafe system postOf pool) (hm : thread ∈ pool.threads)
    {value : α} (hp : thread.program = .Return value) :
    postOf thread.request thread.log (.ok value) pool.shared := by
  have hsafe := h.threadSafe hm
  rw [ThreadSafe, hp] at hsafe
  exact hsafe.post_ok h.inv

theorem PoolSafe.post_error (h : contract.PoolSafe system postOf pool)
    (hm : thread ∈ pool.threads) {error : ε} (hp : thread.program = .Raise error) :
    postOf thread.request thread.log (.error error) pool.shared := by
  have hsafe := h.threadSafe hm
  rw [ThreadSafe, hp] at hsafe
  exact hsafe.post_error h.inv

end Threads

end Runs

-- The rules are the way in; a goal is not to be computed down to its program's first call.
attribute [irreducible] Safe

end Ownership

end Effects
