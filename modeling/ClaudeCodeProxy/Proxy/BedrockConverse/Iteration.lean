import ClaudeCodeProxy.Proxy.BedrockConverse.SseEvents

namespace ClaudeCodeProxy

open Effects Python

-- The frames handed to the consumer.
def yieldedFrame? : RuntimeCall → Option Frame
  | .Yield frame => some frame
  | _ => none

def yieldedFrames (log : Log) : List Frame := log.filterMap fun answer => yieldedFrame? answer.1

-- The closing frames, as far as the consumer takes them. With an ending the generator
-- stops there.
inductive FlushRun (decoder : ConverseStreamDecoder) :
    Log → Option Ending → ConverseStreamDecoder → Prop
  | Raised (exception : Exception) (hpending : decoder.pendingStop = .error exception) :
      FlushRun decoder [] (some (.Raised (.ofPython exception))) decoder
  | Nothing (hpending : decoder.pendingStop = .ok none) : FlushRun decoder [] none decoder
  | ClosedFirst (messageDelta messageStop : Frame)
      (hpending : decoder.pendingStop = .ok (some (messageDelta, messageStop))) :
      FlushRun decoder [⟨.Yield messageDelta, .Close⟩] (some .Closed) decoder
  | ClosedSecond (messageDelta messageStop : Frame)
      (hpending : decoder.pendingStop = .ok (some (messageDelta, messageStop))) :
      FlushRun decoder [⟨.Yield messageDelta, .Next⟩, ⟨.Yield messageStop, .Close⟩]
        (some .Closed) decoder
  | Flushed (messageDelta messageStop : Frame)
      (hpending : decoder.pendingStop = .ok (some (messageDelta, messageStop))) :
      FlushRun decoder [⟨.Yield messageDelta, .Next⟩, ⟨.Yield messageStop, .Next⟩]
        none { decoder with pendingStopReason := .None }

-- The ending of a generator after its last frame.
def Demand.ending : Demand → Ending
  | .Next => .Exhausted
  | .Close => .Closed

-- The loop over the events: what it fetched and yielded, how it ended, and the decoder then.
inductive Iteration (python : Interpreter) : ConverseStreamDecoder → List Value → Log → Ending →
    ConverseStreamDecoder → Prop
  | EndRaised (decoder : ConverseStreamDecoder) (error : Failure) :
      Iteration python decoder [] [answered .EndOfEvents (.error error)] (.Raised error) decoder
  | Ended (decoder final : ConverseStreamDecoder) (flushed : Log) (ending : Option Ending)
      (hflush : FlushRun decoder flushed ending final) :
      Iteration python decoder [] (answered .EndOfEvents (.ok ()) :: flushed)
        (ending.getD .Exhausted) final
  | NextRaised (decoder : ConverseStreamDecoder) (event : Value) (events : List Value)
      (error : Failure) :
      Iteration python decoder (event :: events) [answered (.NextEvent event) (.error error)]
        (.Raised error) decoder
  | ReactRaised (decoder : ConverseStreamDecoder) (event : Value) (events : List Value)
      (exception : Exception) (hreact : decoder.react python event = .error exception) :
      Iteration python decoder (event :: events) [answered (.NextEvent event) (.ok ())]
        (.Raised (.ofPython exception)) decoder
  | Taken (decoder next final : ConverseStreamDecoder) (event : Value) (events : List Value)
      (frame : Frame) (tail : Log) (ending : Ending)
      (hreact : decoder.react python event = .ok (.Emit frame next))
      (htail : Iteration python next events tail ending final) :
      Iteration python decoder (event :: events)
        (answered (.NextEvent event) (.ok ()) :: ⟨.Yield frame, .Next⟩ :: tail) ending final
  | Left (decoder next : ConverseStreamDecoder) (event : Value) (events : List Value)
      (frame : Frame) (hreact : decoder.react python event = .ok (.Emit frame next)) :
      Iteration python decoder (event :: events)
        [answered (.NextEvent event) (.ok ()), ⟨.Yield frame, .Close⟩] .Closed next
  | Noted (decoder next final : ConverseStreamDecoder) (event : Value) (events : List Value)
      (tail : Log) (ending : Ending) (hreact : decoder.react python event = .ok (.Note next))
      (htail : Iteration python next events tail ending final) :
      Iteration python decoder (event :: events)
        (answered (.NextEvent event) (.ok ()) :: tail) ending final
  | Flushed (decoder next after final : ConverseStreamDecoder) (event : Value)
      (events : List Value) (flushed tail : Log) (ending : Ending)
      (hreact : decoder.react python event = .ok (.Flush next))
      (hflush : FlushRun next flushed none after)
      (htail : Iteration python after events tail ending final) :
      Iteration python decoder (event :: events)
        (answered (.NextEvent event) (.ok ()) :: (flushed ++ tail)) ending final
  | FlushEnded (decoder next final : ConverseStreamDecoder) (event : Value) (events : List Value)
      (flushed : Log) (ending : Ending) (hreact : decoder.react python event = .ok (.Flush next))
      (hflush : FlushRun next flushed (some ending) final) :
      Iteration python decoder (event :: events)
        (answered (.NextEvent event) (.ok ()) :: flushed) ending final
  | Aborted (decoder : ConverseStreamDecoder) (event : Value) (events : List Value)
      (frame : Frame) (demand : Demand)
      (hreact : decoder.react python event = .ok (.Abort frame)) :
      Iteration python decoder (event :: events)
        [answered (.NextEvent event) (.ok ()), ⟨.Yield frame, demand⟩] demand.ending decoder

theorem traces_yieldFrames_nil_bind (rest : Demand → Runtime α) :
    (yieldFrames [] >>= rest) = rest .Next := rfl

theorem traces_yieldFrames_cons_bind (frame : Frame) (frames : List Frame)
    (rest : Demand → Runtime α) (log : Log) (outcome : Except Failure α) :
    (yieldFrames (frame :: frames) >>= rest).Traces log outcome ↔
      (∃ tail, log = ⟨.Yield frame, .Close⟩ :: tail ∧ (rest .Close).Traces tail outcome) ∨
      ∃ tail, log = ⟨.Yield frame, .Next⟩ :: tail ∧
        (yieldFrames frames >>= rest).Traces tail outcome := by
  constructor
  · rintro ⟨demand, tail, rfl, h⟩
    cases demand with
    | Next => exact .inr ⟨tail, rfl, h⟩
    | Close => exact .inl ⟨tail, rfl, h⟩
  · rintro (⟨tail, rfl, h⟩ | ⟨tail, rfl, h⟩)
    · exact ⟨.Close, tail, rfl, h⟩
    · exact ⟨.Next, tail, rfl, h⟩

-- A flush followed by the rest of the generator.
theorem flushPendingStop_bind_run {decoder : ConverseStreamDecoder}
    {rest : Option Ending × ConverseStreamDecoder → Runtime α} {log : Log}
    {outcome : Except Failure α}
    (h : (decoder.flushPendingStop >>= rest).Traces log outcome) :
    ∃ flushed tail ending final, log = flushed ++ tail ∧ FlushRun decoder flushed ending final ∧
      (rest (ending, final)).Traces tail outcome := by
  unfold ConverseStreamDecoder.flushPendingStop at h
  rcases hpending : decoder.pendingStop with exception | _ | ⟨messageDelta, messageStop⟩
  · simp only [hpending, Program.pure_eq, Program.return_bind] at h
    exact ⟨[], log, _, _, rfl, .Raised exception hpending, h⟩
  · simp only [hpending, Program.pure_eq, Program.return_bind] at h
    exact ⟨[], log, _, _, rfl, .Nothing hpending, h⟩
  · simp only [hpending, Program.bind_assoc, traces_yieldFrames_cons_bind,
      traces_yieldFrames_nil_bind, Program.pure_eq, Program.return_bind] at h
    rcases h with ⟨tail, rfl, h⟩ | ⟨_, rfl, ⟨tail, rfl, h⟩ | ⟨tail, rfl, h⟩⟩
    · exact ⟨[_], tail, _, _, rfl, .ClosedFirst messageDelta messageStop hpending, h⟩
    · exact ⟨[_, _], tail, _, _, rfl, .ClosedSecond messageDelta messageStop hpending, h⟩
    · exact ⟨[_, _], tail, _, _, rfl, .Flushed messageDelta messageStop hpending, h⟩

theorem iterSseEvents_run {python : Interpreter} {decoder : ConverseStreamDecoder}
    {events : List Value} {log : Log} {outcome : Except Failure (Ending × ConverseStreamDecoder)}
    (h : (decoder.iterSseEvents python events).Traces log outcome) :
    ∃ ending final, outcome = .ok (ending, final) ∧
      Iteration python decoder events log ending final := by
  induction events generalizing decoder log with
  | nil =>
      simp only [ConverseStreamDecoder.iterSseEvents, traces_request_bind] at h
      obtain ⟨reply, tail, rfl, h⟩ := h
      cases reply with
      | error error =>
          obtain ⟨rfl, rfl⟩ := h
          exact ⟨_, _, rfl, .EndRaised decoder error⟩
      | ok _ =>
          obtain ⟨flushed, _, ending, final, rfl, hflush, rfl, rfl⟩ := flushPendingStop_bind_run h
          rw [List.append_nil]
          exact ⟨_, _, rfl, .Ended decoder final flushed ending hflush⟩
  | cons event events ih =>
      simp only [ConverseStreamDecoder.iterSseEvents, traces_request_bind] at h
      obtain ⟨reply, tail, rfl, h⟩ := h
      cases reply with
      | error error =>
          obtain ⟨rfl, rfl⟩ := h
          exact ⟨_, _, rfl, .NextRaised decoder event events error⟩
      | ok fetched =>
          obtain ⟨⟩ := fetched
          cases hreact : decoder.react python event with
          | error exception =>
              simp only [hreact] at h
              obtain ⟨rfl, rfl⟩ := h
              exact ⟨_, _, rfl, .ReactRaised decoder event events exception hreact⟩
          | ok reaction =>
              cases reaction with
              | Emit frame next =>
                  simp only [hreact, traces_yieldFrames_cons_bind,
                    traces_yieldFrames_nil_bind] at h
                  rcases h with ⟨tail, rfl, rfl, rfl⟩ | ⟨tail, rfl, h⟩
                  · exact ⟨_, _, rfl, .Left decoder next event events frame hreact⟩
                  · obtain ⟨ending, final, rfl, htail⟩ := ih h
                    exact ⟨ending, final, rfl, .Taken decoder next final event events frame tail
                      ending hreact htail⟩
              | Note next =>
                  simp only [hreact] at h
                  obtain ⟨ending, final, rfl, htail⟩ := ih h
                  exact ⟨ending, final, rfl, .Noted decoder next final event events tail ending
                    hreact htail⟩
              | Flush next =>
                  simp only [hreact] at h
                  obtain ⟨flushed, tail, ending, after, rfl, hflush, h⟩ :=
                    flushPendingStop_bind_run h
                  cases ending with
                  | some ending =>
                      obtain ⟨rfl, rfl⟩ := h
                      rw [List.append_nil]
                      exact ⟨ending, after, rfl, .FlushEnded decoder next after event events flushed
                        ending hreact hflush⟩
                  | none =>
                      obtain ⟨ending, final, rfl, htail⟩ := ih h
                      exact ⟨ending, final, rfl, .Flushed decoder next after final event events
                        flushed tail ending hreact hflush htail⟩
              | Abort frame =>
                  simp only [hreact, traces_yieldFrames_cons_bind,
                    traces_yieldFrames_nil_bind] at h
                  rcases h with ⟨tail, rfl, rfl, rfl⟩ | ⟨tail, rfl, rfl, rfl⟩
                  · exact ⟨_, _, rfl, .Aborted decoder event events frame .Close hreact⟩
                  · exact ⟨_, _, rfl, .Aborted decoder event events frame .Next hreact⟩

end ClaudeCodeProxy
