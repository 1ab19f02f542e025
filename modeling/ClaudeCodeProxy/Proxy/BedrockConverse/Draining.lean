import ClaudeCodeProxy.Proxy.BedrockConverse.UsageCollection

-- A stream that does not break, and a consumer that takes every frame.

namespace ClaudeCodeProxy

open Effects Python

def isSmooth : Answer runtime → Bool
  | ⟨.Ask (.NextEvent _), reply⟩ => reply.isOk
  | ⟨.Ask .EndOfEvents, reply⟩ => reply.isOk
  | ⟨.Yield _, .Close⟩ => false
  | _ => true

def Drained (log : Log) : Prop := ∀ answer ∈ log, isSmooth answer = true

theorem Drained.append (first second : Log) (h : Drained (first ++ second)) :
    Drained first ∧ Drained second := List.forall_mem_append.mp h

-- Collaborators that never fail a stream.
theorem Environment.drained {environment : Environment}
    (hnext : ∀ event, environment.ask (.NextEvent event) = .ok ())
    (hend : environment.ask .EndOfEvents = .ok ())
    (hdemand : ∀ frame, environment.demand frame = .Next) (program : Runtime α) :
    Drained (environment.run program).1 := by
  rintro ⟨op, reply⟩ hmem
  have hreply : reply = environment.reply op := program.mem_record environment.reply _ hmem
  subst hreply
  cases op with
  | Ask dependency =>
      cases dependency with
      | NextEvent event => simp only [isSmooth, Environment.reply, hnext]; rfl
      | EndOfEvents => simp only [isSmooth, Environment.reply, hend]; rfl
      | _ => rfl
  | Yield frame => simp only [isSmooth, Environment.reply, hdemand]
  | _ => rfl

-- Frames that are all taken.
def yielded (frames : List Frame) : Log := frames.map fun frame => ⟨.Yield frame, .Next⟩

theorem yieldedFrames_append (first second : Log) :
    yieldedFrames (first ++ second) = yieldedFrames first ++ yieldedFrames second :=
  List.filterMap_append

theorem yieldedFrames_yielded (frames : List Frame) : yieldedFrames (yielded frames) = frames := by
  induction frames with
  | nil => rfl
  | cons frame frames ih => exact congrArg (frame :: ·) ih

theorem fetchedEvents_yielded (frames : List Frame) : fetchedEvents (yielded frames) = [] := by
  induction frames with
  | nil => rfl
  | cons frame frames ih => exact ih

namespace ConverseStreamDecoder

-- `_flush_pending_stop` before such a consumer.
def flushed (decoder : ConverseStreamDecoder) :
    Except Exception (List Frame × ConverseStreamDecoder) := do
  match ← decoder.pendingStop with
  | none => return ([], decoder)
  | some (messageDelta, messageStop) =>
      return ([messageDelta, messageStop], { decoder with pendingStopReason := .None })

-- The frames of one event, unless the loop ends with it.
def framesOf (python : Interpreter) (decoder : ConverseStreamDecoder) (event : Value) :
    Option (List Frame × ConverseStreamDecoder) :=
  match decoder.react python event with
  | .ok (.Emit frame next) => some ([frame], next)
  | .ok (.Note next) => some ([], next)
  | .ok (.Flush next) => next.flushed.toOption
  | _ => none

-- What the loop does with the events, one after the other, and the decoder after them.
def advance (python : Interpreter) : ConverseStreamDecoder → List Value →
    Option (List Frame × ConverseStreamDecoder)
  | decoder, [] => some ([], decoder)
  | decoder, event :: events => do
      let (frames, next) ← decoder.framesOf python event
      let (rest, final) ← next.advance python events
      return (frames ++ rest, final)

end ConverseStreamDecoder

section Draining

variable {python : Interpreter} {decoder next final : ConverseStreamDecoder} {ending : Ending}

theorem FlushRun.drained {flushed : Log} {ending : Option Ending}
    (h : FlushRun decoder flushed ending final) (hdrained : Drained flushed) :
    (∃ exception, decoder.flushed = .error exception) ∨
      ∃ frames, decoder.flushed = .ok (frames, final) ∧ flushed = yielded frames ∧ ending = none := by
  cases h with
  | Raised exception hpending =>
      refine .inl ⟨exception, ?_⟩
      rw [ConverseStreamDecoder.flushed, hpending]
      rfl
  | Nothing hpending =>
      refine .inr ⟨[], ?_, rfl, rfl⟩
      rw [ConverseStreamDecoder.flushed, hpending]
      rfl
  | ClosedFirst messageDelta messageStop hpending =>
      exact absurd (hdrained _ (.head _)) Bool.false_ne_true
  | ClosedSecond messageDelta messageStop hpending =>
      exact absurd (hdrained _ (.tail _ (.head _))) Bool.false_ne_true
  | Flushed messageDelta messageStop hpending =>
      refine .inr ⟨[messageDelta, messageStop], ?_, rfl, rfl⟩
      rw [ConverseStreamDecoder.flushed, hpending]
      rfl

-- A drained run passes the events that the loop gets over, and goes on with the rest.
theorem Iteration.step {event : Value} {events : List Value} {log : Log} {frames : List Frame}
    (h : Iteration python decoder (event :: events) log ending final) (hdrained : Drained log)
    (hframes : decoder.framesOf python event = some (frames, next)) :
    ∃ tail, log = answered (.NextEvent event) (.ok ()) :: (yielded frames ++ tail) ∧
      Iteration python next events tail ending final := by
  unfold ConverseStreamDecoder.framesOf at hframes
  cases h with
  | NextRaised _ _ _ error => exact absurd (hdrained _ (.head _)) Bool.false_ne_true
  | ReactRaised _ _ _ exception hreact =>
      rw [hreact] at hframes
      cases hframes
  | Taken _ after _ _ _ frame tail _ hreact htail =>
      rw [hreact] at hframes
      cases hframes
      exact ⟨tail, rfl, htail⟩
  | Left _ after _ _ frame hreact =>
      exact absurd (hdrained _ (.tail _ (.head _))) Bool.false_ne_true
  | Noted _ after _ _ _ tail _ hreact htail =>
      rw [hreact] at hframes
      cases hframes
      exact ⟨tail, rfl, htail⟩
  | Flushed _ noted after _ _ _ flushed tail _ hreact hflush htail =>
      have hflushed := (Drained.append [_] _ hdrained).2
      simp only [hreact] at hframes
      rcases hflush.drained (hflushed.append flushed tail).1 with ⟨exception, hraised⟩ |
        ⟨closing, hclosing, rfl, -⟩
      · rw [hraised] at hframes
        cases hframes
      · rw [hclosing] at hframes
        cases hframes
        exact ⟨tail, rfl, htail⟩
  | FlushEnded _ noted _ _ _ flushed _ hreact hflush =>
      have hflushed := (Drained.append [_] _ hdrained).2
      simp only [hreact] at hframes
      rcases hflush.drained hflushed with ⟨exception, hraised⟩ | ⟨closing, -, -, hnone⟩
      · rw [hraised] at hframes
        cases hframes
      · cases hnone
  | Aborted _ _ _ frame demand hreact =>
      rw [hreact] at hframes
      cases hframes

theorem ConverseStreamDecoder.advance_cons {event : Value} {events : List Value}
    {frames : List Frame} (h : decoder.advance python (event :: events) = some (frames, final)) :
    ∃ first next rest, decoder.framesOf python event = some (first, next) ∧
      next.advance python events = some (rest, final) ∧ frames = first ++ rest := by
  simp only [ConverseStreamDecoder.advance, Option.bind_eq_bind, Option.bind_eq_some_iff,
    Option.pure_def, Option.some.injEq, Prod.mk.injEq] at h
  obtain ⟨⟨first, next⟩, hfirst, ⟨rest, _⟩, hrest, rfl, rfl⟩ := h
  exact ⟨first, next, rest, hfirst, hrest, rfl⟩

theorem ConverseStreamDecoder.advance_silent {event : Value} (events : List Value)
    (h : decoder.framesOf python event = some ([], next)) :
    decoder.advance python (event :: events) = next.advance python events := by
  simp [advance, h]

theorem ConverseStreamDecoder.advance_append {first second : List Value} {frames : List Frame} :
    decoder.advance python (first ++ second) = some (frames, final) ↔
      ∃ before next after, decoder.advance python first = some (before, next) ∧
        next.advance python second = some (after, final) ∧ frames = before ++ after := by
  induction first generalizing decoder frames with
  | nil =>
      constructor
      · intro h
        exact ⟨[], decoder, frames, rfl, h, rfl⟩
      · rintro ⟨before, next, after, hbefore, hafter, rfl⟩
        cases hbefore
        exact hafter
  | cons event first ih =>
      constructor
      · intro h
        obtain ⟨head, next, rest, hhead, hrest, rfl⟩ := advance_cons h
        obtain ⟨before, middle, after, hbefore, hafter, rfl⟩ := ih.mp hrest
        refine ⟨head ++ before, middle, after, ?_, hafter, (List.append_assoc _ _ _).symm⟩
        simp [advance, hhead, hbefore]
      · rintro ⟨before, middle, after, hbefore, hafter, rfl⟩
        obtain ⟨head, next, rest, hhead, hrest, rfl⟩ := advance_cons hbefore
        have htail := ih.mpr ⟨rest, middle, after, hrest, hafter, rfl⟩
        simp [advance, hhead, htail]

-- The calls of such a loop over some events.
def passed (python : Interpreter) : ConverseStreamDecoder → List Value → Log
  | _, [] => []
  | decoder, event :: events =>
      match decoder.framesOf python event with
      | some (frames, next) =>
          answered (.NextEvent event) (.ok ()) :: (yielded frames ++ passed python next events)
      | none => []

theorem passed_spec {events : List Value} {frames : List Frame}
    (h : decoder.advance python events = some (frames, next)) :
    fetchedEvents (passed python decoder events) = events ∧
      yieldedFrames (passed python decoder events) = frames := by
  induction events generalizing decoder frames with
  | nil =>
      cases h
      exact ⟨rfl, rfl⟩
  | cons event events ih =>
      obtain ⟨first, after, rest, hfirst, hrest, rfl⟩ := ConverseStreamDecoder.advance_cons h
      obtain ⟨hevents, hframes⟩ := ih hrest
      simp only [passed, hfirst]
      constructor
      · change event :: fetchedEvents (yielded first ++ _) = _
        rw [fetchedEvents_append, fetchedEvents_yielded, hevents]
        rfl
      · change yieldedFrames (yielded first ++ _) = _
        rw [yieldedFrames_append, yieldedFrames_yielded, hframes]

theorem Iteration.passes {before rest : List Value} {log : Log} {frames : List Frame}
    (h : Iteration python decoder (before ++ rest) log ending final) (hdrained : Drained log)
    (hadvance : decoder.advance python before = some (frames, next)) :
    ∃ tail, log = passed python decoder before ++ tail ∧
      Iteration python next rest tail ending final := by
  induction before generalizing decoder log frames with
  | nil =>
      cases hadvance
      exact ⟨log, rfl, h⟩
  | cons event before ih =>
      obtain ⟨first, after, remaining, hfirst, hremaining, rfl⟩ :=
        ConverseStreamDecoder.advance_cons hadvance
      obtain ⟨tail, rfl, htail⟩ := h.step hdrained hfirst
      have hdrained' : Drained tail :=
        ((Drained.append [_] _ hdrained).2.append (yielded first) tail).2
      obtain ⟨last, rfl, hlast⟩ := ih htail hdrained' hremaining
      refine ⟨last, ?_, hlast⟩
      simp only [passed, hfirst, List.cons_append, List.append_assoc]

-- The loop goes on with a fetch.
theorem Iteration.fetches {events : List Value} {log rest : Log} {frame : Frame} {demand : Demand}
    (h : Iteration python decoder events log ending final) :
    log ≠ ⟨.Yield frame, demand⟩ :: rest := by
  cases h <;> nofun

-- At the end of the stream the closing frames go out, if they are still to come.
theorem Iteration.ends {log : Log} {frames : List Frame}
    (h : Iteration python decoder [] log ending final) (hdrained : Drained log)
    (hflushed : decoder.flushed = .ok (frames, next)) :
    log = answered .EndOfEvents (.ok ()) :: yielded frames ∧ ending = .Exhausted ∧
      final = next := by
  cases h with
  | EndRaised _ error => exact absurd (hdrained _ (.head _)) Bool.false_ne_true
  | Ended _ _ flushed ending hflush =>
      rcases hflush.drained (Drained.append [_] _ hdrained).2 with ⟨exception, hraised⟩ |
        ⟨closing, hclosing, rfl, rfl⟩
      · rw [hflushed] at hraised
        cases hraised
      · rw [hflushed] at hclosing
        cases hclosing
        exact ⟨rfl, rfl, rfl⟩

-- Then the provider has been asked for all that it has.
theorem Iteration.fetched_all {events : List Value} {log : Log} {frames last : List Frame}
    {closed : ConverseStreamDecoder}
    (h : Iteration python decoder events log ending final) (hdrained : Drained log)
    (hadvance : decoder.advance python events = some (frames, next))
    (hflushed : next.flushed = .ok (last, closed)) : fetchedEvents log = events := by
  rw [← List.append_nil events] at h
  obtain ⟨tail, rfl, htail⟩ := h.passes hdrained hadvance
  obtain ⟨rfl, -⟩ := htail.ends (hdrained.append _ tail).2 hflushed
  rw [fetchedEvents_append, (passed_spec hadvance).1]
  change events ++ fetchedEvents (yielded last) = events
  rw [fetchedEvents_yielded, List.append_nil]

-- An exception of the provider is the last thing that the loop looks at.
theorem Iteration.aborts {event : Value} {events : List Value} {log : Log} {frame : Frame}
    (h : Iteration python decoder (event :: events) log ending final) (hdrained : Drained log)
    (hreact : decoder.react python event = .ok (.Abort frame)) :
    log = [answered (.NextEvent event) (.ok ()), ⟨.Yield frame, .Next⟩] ∧
      ending = .Exhausted ∧ final = decoder := by
  cases h with
  | NextRaised _ _ _ error => exact absurd (hdrained _ (.head _)) Bool.false_ne_true
  | Aborted _ _ _ frame' demand hreact' =>
      rw [hreact] at hreact'
      cases hreact'
      cases demand with
      | Next => exact ⟨rfl, rfl, rfl⟩
      | Close => exact absurd (hdrained _ (.tail _ (.head _))) Bool.false_ne_true
  | ReactRaised _ _ _ exception hreact' => exact absurd (hreact.symm.trans hreact') nofun
  | Taken _ _ _ _ _ frame' tail _ hreact' htail => exact absurd (hreact.symm.trans hreact') nofun
  | Left _ _ _ _ frame' hreact' => exact absurd (hreact.symm.trans hreact') nofun
  | Noted _ _ _ _ _ tail _ hreact' htail => exact absurd (hreact.symm.trans hreact') nofun
  | Flushed _ _ _ _ _ _ flushed tail _ hreact' hflush htail =>
      exact absurd (hreact.symm.trans hreact') nofun
  | FlushEnded _ _ _ _ _ flushed _ hreact' hflush =>
      exact absurd (hreact.symm.trans hreact') nofun

theorem Iteration.raises {event : Value} {events : List Value} {log : Log}
    {exception : Exception}
    (h : Iteration python decoder (event :: events) log ending final) (hdrained : Drained log)
    (hreact : decoder.react python event = .error exception) :
    ending = .Raised (.ofPython exception) := by
  cases h with
  | NextRaised _ _ _ error => exact absurd (hdrained _ (.head _)) Bool.false_ne_true
  | ReactRaised _ _ _ exception' hreact' =>
      rw [hreact] at hreact'
      cases hreact'
      rfl
  | Taken _ _ _ _ _ frame tail _ hreact' htail => exact absurd (hreact.symm.trans hreact') nofun
  | Left _ _ _ _ frame hreact' => exact absurd (hreact.symm.trans hreact') nofun
  | Noted _ _ _ _ _ tail _ hreact' htail => exact absurd (hreact.symm.trans hreact') nofun
  | Flushed _ _ _ _ _ _ flushed tail _ hreact' hflush htail =>
      exact absurd (hreact.symm.trans hreact') nofun
  | FlushEnded _ _ _ _ _ flushed _ hreact' hflush =>
      exact absurd (hreact.symm.trans hreact') nofun
  | Aborted _ _ _ frame demand hreact' => exact absurd (hreact.symm.trans hreact') nofun

end Draining

end ClaudeCodeProxy
