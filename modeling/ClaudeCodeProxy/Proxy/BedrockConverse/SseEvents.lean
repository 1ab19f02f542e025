import ClaudeCodeProxy.Proxy.Runtime

namespace ClaudeCodeProxy

open Effects Python

-- How a generator comes to its end.
inductive Ending
  | Exhausted
  | Raised (error : Failure)
  | Closed
  deriving DecidableEq

-- The frames go out one by one as long as the consumer takes them.
def yieldFrames : List Frame → Runtime Demand
  | [] => return .Next
  | frame :: frames => do
      match ← request (.Yield frame) with
      | .Next => yieldFrames frames
      | .Close => return .Close

namespace ConverseStreamDecoder

-- `_flush_pending_stop`; the stop reason is dropped after the second frame is taken
def flushPendingStop (decoder : ConverseStreamDecoder) :
    Runtime (Option Ending × ConverseStreamDecoder) :=
  match decoder.pendingStop with
  | .error exception => return (some (.Raised (.ofPython exception)), decoder)
  | .ok none => return (none, decoder)
  | .ok (some (messageDelta, messageStop)) => do
      match ← yieldFrames [messageDelta, messageStop] with
      | .Next => return (none, { decoder with pendingStopReason := .None })
      | .Close => return (some .Closed, decoder)

-- The generator of the frames, with the decoder as it is when the generator ends.
def iterSseEvents (python : Interpreter) : ConverseStreamDecoder → List Value →
    Runtime (Ending × ConverseStreamDecoder)
  | decoder, [] => do
      match ← request (.Ask .EndOfEvents) with
      | .error error => return (.Raised error, decoder)
      | .ok () =>
          let (ending, decoder) ← decoder.flushPendingStop
          return (ending.getD .Exhausted, decoder)
  | decoder, event :: events => do
      match ← request (.Ask (.NextEvent event)) with
      | .error error => return (.Raised error, decoder)
      | .ok () =>
          match decoder.react python event with
          | .error exception => return (.Raised (.ofPython exception), decoder)
          | .ok (.Emit frame decoder) =>
              match ← yieldFrames [frame] with
              | .Next => iterSseEvents python decoder events
              | .Close => return (.Closed, decoder)
          | .ok (.Note decoder) => iterSseEvents python decoder events
          | .ok (.Flush decoder) =>
              let (ending, decoder) ← decoder.flushPendingStop
              match ending with
              | some ending => return (ending, decoder)
              | none => iterSseEvents python decoder events
          | .ok (.Abort frame) =>
              match ← yieldFrames [frame] with
              | .Next => return (.Exhausted, decoder)
              | .Close => return (.Closed, decoder)

end ConverseStreamDecoder

end ClaudeCodeProxy
