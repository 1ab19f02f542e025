import ClaudeCodeProxy.Effects.Trace

-- Programs over a part of a signature, and programs that two handlers run alike.

namespace Effects

variable {sig sig' : Signature} {ε α β σ τ : Type}

-- The calls of `sig` as calls of a larger signature.
structure Embedding (sig sig' : Signature) where
  op : sig.Op → sig'.Op
  reply : (call : sig.Op) → sig'.Reply (op call) → sig.Reply call

namespace Program

def lift (embedding : Embedding sig sig') : Program sig ε α → Program sig' ε α
  | Return value => Return value
  | Raise error => Raise error
  | Call op next => Call (embedding.op op) fun answer =>
      (next (embedding.reply op answer)).lift embedding

end Program

-- A call of the larger signature, and what the program of the smaller one sees of it.
def Embedding.Carries (embedding : Embedding sig sig') (outer : Answer sig') (inner : Answer sig) :
    Prop :=
  ∃ op reply, outer = ⟨embedding.op op, reply⟩ ∧ inner = ⟨op, embedding.reply op reply⟩

theorem Program.traces_lift (embedding : Embedding sig sig') (program : Program sig ε α)
    (log : List (Answer sig')) (outcome : Except ε α) :
    (program.lift embedding).Traces log outcome ↔
      ∃ inner, List.Forall₂ embedding.Carries log inner ∧ program.Traces inner outcome := by
  induction program generalizing log with
  | Return value =>
      constructor
      · rintro ⟨rfl, rfl⟩
        exact ⟨[], .nil, rfl, rfl⟩
      · rintro ⟨inner, hcarries, rfl, rfl⟩
        cases hcarries
        exact ⟨rfl, rfl⟩
  | Raise error =>
      constructor
      · rintro ⟨rfl, rfl⟩
        exact ⟨[], .nil, rfl, rfl⟩
      · rintro ⟨inner, hcarries, rfl, rfl⟩
        cases hcarries
        exact ⟨rfl, rfl⟩
  | Call op next ih =>
      constructor
      · rintro ⟨reply, tail, rfl, htail⟩
        obtain ⟨inner, hcarries, hinner⟩ := (ih _ tail).mp htail
        exact ⟨_, .cons ⟨op, reply, rfl, rfl⟩ hcarries, _, inner, rfl, hinner⟩
      · rintro ⟨_, hcarries, answer, inner, rfl, hinner⟩
        cases hcarries with
        | @cons outer _ tail _ hcarried htail =>
            obtain ⟨_, reply, rfl, hsame⟩ := hcarried
            cases hsame
            exact ⟨reply, tail, rfl, (ih _ tail).mpr ⟨inner, htail, hinner⟩⟩

-- What a handler of the larger signature does with the calls of the smaller one.
def Handler.restrict (embedding : Embedding sig sig') (handler : Handler sig' ε σ) :
    Handler sig ε σ := fun op state =>
  ((handler (embedding.op op) state).1.map (embedding.reply op),
    (handler (embedding.op op) state).2)

namespace Program

theorem run_lift (embedding : Embedding sig sig') (handler : Handler sig' ε σ)
    (program : Program sig ε α) (state : σ) :
    (program.lift embedding).run handler state =
      program.run (handler.restrict embedding) state := by
  induction program generalizing state with
  | Return value => rfl
  | Raise error => rfl
  | Call op next ih =>
      rw [lift, run_call, run_call, Handler.restrict]
      rcases handler (embedding.op op) state with ⟨answer, after⟩
      cases answer with
      | error error => rfl
      | ok reply => exact ih _ after

-- Every call of a run is one that `ok` admits in its state.
def Obeys (handler : Handler sig ε σ) (ok : σ → sig.Op → Prop) : Program sig ε α → σ → Prop
  | Return _, _ => True
  | Raise _, _ => True
  | Call op next, state => ok state op ∧
      match handler op state with
      | (.ok reply, after) => (next reply).Obeys handler ok after
      | (.error _, _) => True

theorem obeys_call (handler : Handler sig ε σ) (ok : σ → sig.Op → Prop) (op : sig.Op)
    (next : sig.Reply op → Program sig ε α) (state : σ) :
    (Call op next).Obeys handler ok state ↔ ok state op ∧
      match handler op state with
      | (.ok reply, after) => (next reply).Obeys handler ok after
      | (.error _, _) => True := by
  rw [Obeys]

theorem obeys_of_forall {handler : Handler sig ε σ} {ok : σ → sig.Op → Prop}
    (hok : ∀ state op, ok state op) (program : Program sig ε α) (state : σ) :
    program.Obeys handler ok state := by
  induction program generalizing state with
  | Return value => trivial
  | Raise error => trivial
  | Call op next ih =>
      rw [obeys_call]
      rcases handler op state with ⟨answer, after⟩
      cases answer with
      | error error => exact ⟨hok state op, trivial⟩
      | ok reply => exact ⟨hok state op, ih reply after⟩

theorem Obeys.mono {handler : Handler sig ε σ} {ok weaker : σ → sig.Op → Prop}
    (himp : ∀ state op, ok state op → weaker state op) {program : Program sig ε α} {state : σ}
    (h : program.Obeys handler ok state) : program.Obeys handler weaker state := by
  induction program generalizing state with
  | Return value => trivial
  | Raise error => trivial
  | Call op next ih =>
      obtain ⟨hok, hrest⟩ := (obeys_call handler ok op next state).mp h
      rw [obeys_call]
      rcases hh : handler op state with ⟨answer, after⟩
      rw [hh] at hrest
      cases answer with
      | error error => exact ⟨himp _ _ hok, trivial⟩
      | ok reply => exact ⟨himp _ _ hok, ih reply hrest⟩

theorem Obeys.map {handler : Handler sig ε σ} {ok : σ → sig.Op → Prop}
    {program : Program sig ε α} {state : σ} (h : program.Obeys handler ok state) (f : α → β) :
    (program >>= fun value => pure (f value)).Obeys handler ok state := by
  induction program generalizing state with
  | Return value => trivial
  | Raise error => trivial
  | Call op next ih =>
      obtain ⟨hok, hrest⟩ := (obeys_call handler ok op next state).mp h
      rw [call_bind, obeys_call]
      rcases hh : handler op state with ⟨answer, after⟩
      rw [hh] at hrest
      cases answer with
      | error error => exact ⟨hok, trivial⟩
      | ok reply => exact ⟨hok, ih reply hrest⟩

theorem obeys_lift (embedding : Embedding sig sig') (handler : Handler sig' ε σ)
    (ok : σ → sig'.Op → Prop) (program : Program sig ε α) (state : σ) :
    (program.lift embedding).Obeys handler ok state ↔
      program.Obeys (handler.restrict embedding) (fun state op => ok state (embedding.op op))
        state := by
  induction program generalizing state with
  | Return value => exact Iff.rfl
  | Raise error => exact Iff.rfl
  | Call op next ih =>
      rw [lift, obeys_call, obeys_call, Handler.restrict]
      rcases handler (embedding.op op) state with ⟨answer, after⟩
      cases answer with
      | error error => exact Iff.rfl
      | ok reply => exact and_congr_right fun _ => ih _ after

-- Handlers that answer the admitted calls alike, and keep their states related, run a
-- program alike that makes no others.
theorem run_related {handler : Handler sig ε σ} {handler' : Handler sig ε τ}
    {ok : σ → sig.Op → Prop} (rel : σ → τ → Prop)
    (hcall : ∀ op state state', rel state state' → ok state op →
      (handler op state).1 = (handler' op state').1 ∧
        rel (handler op state).2 (handler' op state').2)
    (program : Program sig ε α) {state : σ} {state' : τ} (hrel : rel state state')
    (hobeys : program.Obeys handler ok state) :
    (program.run handler state).1 = (program.run handler' state').1 ∧
      rel (program.run handler state).2 (program.run handler' state').2 := by
  induction program generalizing state state' with
  | Return value => exact ⟨rfl, hrel⟩
  | Raise error => exact ⟨rfl, hrel⟩
  | Call op next ih =>
      obtain ⟨hok, hrest⟩ := (obeys_call handler ok op next state).mp hobeys
      obtain ⟨hanswer, hafter⟩ := hcall op state state' hrel hok
      rw [run_call, run_call]
      rcases hh : handler op state with ⟨answer, after⟩
      rcases hh' : handler' op state' with ⟨answer', after'⟩
      rw [hh, hh'] at hanswer hafter
      have hsame : answer = answer' := hanswer
      subst hsame
      cases answer with
      | error error => exact ⟨rfl, hafter⟩
      | ok reply =>
          rw [hh] at hrest
          exact ih reply hafter hrest

end Program

end Effects
