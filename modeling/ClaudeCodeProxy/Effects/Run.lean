import Mathlib.Data.List.Induction
import Mathlib.Data.List.Infix

namespace Effects

variable {σ η : Type}

def exec (step : σ → η → σ) (start : σ) (events : List η) : σ :=
  events.foldl step start

@[simp] theorem exec_nil (step : σ → η → σ) (start : σ) : exec step start [] = start := rfl

@[simp] theorem exec_cons (step : σ → η → σ) (start : σ) (event : η) (events : List η) :
    exec step start (event :: events) = exec step (step start event) events := rfl

@[simp] theorem exec_append (step : σ → η → σ) (start : σ) (first second : List η) :
    exec step start (first ++ second) = exec step (exec step start first) second :=
  List.foldl_append

-- Every event is admitted by the state in which it happens.
def Admissible (step : σ → η → σ) (ok : σ → η → Prop) : σ → List η → Prop
  | _, [] => True
  | state, event :: events => ok state event ∧ Admissible step ok (step state event) events

instance Admissible.decidable (step : σ → η → σ) (ok : σ → η → Prop)
    [∀ state event, Decidable (ok state event)] :
    ∀ start events, Decidable (Admissible step ok start events)
  | _, [] => isTrue trivial
  | start, event :: events =>
      have := Admissible.decidable step ok (step start event) events
      inferInstanceAs (Decidable (ok start event ∧ Admissible step ok (step start event) events))

@[simp] theorem admissible_append (step : σ → η → σ) (ok : σ → η → Prop) (start : σ)
    (first second : List η) :
    Admissible step ok start (first ++ second) ↔
      Admissible step ok start first ∧ Admissible step ok (exec step start first) second := by
  induction first generalizing start with
  | nil => simp [Admissible]
  | cons event first ih => simp [Admissible, ih, and_assoc]

theorem admissible_singleton (step : σ → η → σ) (ok : σ → η → Prop) (start : σ) (event : η) :
    Admissible step ok start [event] ↔ ok start event := by
  simp [Admissible]

theorem Admissible.mono {step : σ → η → σ} {ok weaker : σ → η → Prop}
    (himp : ∀ state event, ok state event → weaker state event) {start : σ} {events : List η}
    (h : Admissible step ok start events) : Admissible step weaker start events := by
  induction events generalizing start with
  | nil => trivial
  | cons event events ih => exact ⟨himp _ _ h.1, ih h.2⟩

theorem admissible_of_forall {step : σ → η → σ} {ok : σ → η → Prop}
    (hok : ∀ state event, ok state event) (start : σ) (events : List η) :
    Admissible step ok start events := by
  induction events generalizing start with
  | nil => trivial
  | cons event events ih => exact ⟨hok _ _, ih _⟩

-- What the run keeps holds where its events are let in.
theorem Admissible.with_invariant {step : σ → η → σ} {ok : σ → η → Prop} (inv : σ → Prop)
    {start : σ} {events : List η} (h : Admissible step ok start events) (hstart : inv start)
    (hstep : ∀ state event, inv state → ok state event → inv (step state event)) :
    Admissible step (fun state event => ok state event ∧ inv state) start events := by
  induction events generalizing start with
  | nil => trivial
  | cons event events ih => exact ⟨⟨h.1, hstart⟩, ih h.2 (hstep _ _ hstart h.1)⟩

theorem Admissible.ok_at {step : σ → η → σ} {ok : σ → η → Prop} {start : σ}
    {past events : List η} {event : η} (h : Admissible step ok start events)
    (hpast : past ++ [event] <+: events) : ok (exec step start past) event := by
  obtain ⟨rest, rfl⟩ := hpast
  rw [admissible_append, admissible_append, admissible_singleton] at h
  exact h.1.2

-- The invariant may speak of the events that led to the state.
theorem exec_invariant {step : σ → η → σ} {ok : σ → η → Prop} {start : σ}
    (inv : List η → σ → Prop) (hstart : inv [] start)
    (hstep : ∀ past state event, inv past state → ok state event →
      inv (past ++ [event]) (step state event))
    (events : List η) (hok : Admissible step ok start events) :
    inv events (exec step start events) := by
  induction events using List.reverseRecOn with
  | nil => exact hstart
  | append_singleton past event ih =>
      rw [admissible_append, admissible_singleton] at hok
      rw [exec_append, exec_cons, exec_nil]
      exact hstep past _ event (ih hok.1) hok.2

-- Where every event keeps the invariant in just the states that meet a condition, the
-- runs that keep it throughout are those that meet the condition throughout.
theorem forall_prefix_iff {step : σ → η → σ} {ok good : σ → η → Prop} {inv : σ → Prop}
    (hstep : ∀ state event, inv state → ok state event →
      (inv (step state event) ↔ good state event))
    {start : σ} {events : List η} (hstart : inv start) (hok : Admissible step ok start events) :
    (∀ past, past <+: events → inv (exec step start past)) ↔
      Admissible step good start events := by
  induction events generalizing start with
  | nil =>
      constructor
      · intro _
        trivial
      · intro _ past hpast
        rw [List.prefix_nil.mp hpast]
        exact hstart
  | cons event events ih =>
      have hevent := hstep start event hstart hok.1
      constructor
      · intro h
        have hnext : inv (step start event) := h [event] (by simp)
        refine ⟨hevent.mp hnext, (ih hnext hok.2).mp ?_⟩
        intro past hpast
        exact h (event :: past) (List.cons_prefix_cons.mpr ⟨rfl, hpast⟩)
      · rintro ⟨hgood, hrest⟩ past hpast
        have hnext : inv (step start event) := hevent.mpr hgood
        rcases List.prefix_cons_iff.mp hpast with rfl | ⟨rest, rfl, hrest'⟩
        · exact hstart
        · exact (ih hnext hok.2).mpr hrest rest hrest'

end Effects
