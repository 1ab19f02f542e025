import ClaudeCodeProxy.Models.Domain

namespace ClaudeCodeProxy

structure RateLimitDecision where
  allowed : Bool
  retryAfterSeconds : Option Int := none
  remainingRequests : Option Int := none
  deriving DecidableEq

structure InMemoryRateLimiter where
  requestsPerMinute : Int
  requestWindows : List (String × List Int)

namespace InMemoryRateLimiter

def new (requestsPerMinute : Int) : InMemoryRateLimiter where
  requestsPerMinute := max 1 requestsPerMinute
  requestWindows := []

def window (limiter : InMemoryRateLimiter) (userId : String) : List Int :=
  (limiter.requestWindows.lookup userId).getD []

def setWindow (limiter : InMemoryRateLimiter) (userId : String) (requests : List Int) :
    InMemoryRateLimiter :=
  { limiter with requestWindows :=
      (userId, requests) :: limiter.requestWindows.filter fun entry => entry.1 != userId }

-- `now.replace(second=0, microsecond=0)`
def windowStart (now : Int) : Int := now - now % minutes 1

def check (limiter : InMemoryRateLimiter) (now : Int) (userId : String) :
    RateLimitDecision × InMemoryRateLimiter :=
  let windowEnd := windowStart now + minutes 1
  let activeRequests := (limiter.window userId).filter fun timestamp =>
    decide (windowStart now ≤ timestamp)
  if limiter.requestsPerMinute ≤ activeRequests.length then
    ({ allowed := false
       retryAfterSeconds := some (max 1 (epochSeconds (windowEnd - now)))
       remainingRequests := some 0 },
      limiter.setWindow userId activeRequests)
  else
    ({ allowed := true
       remainingRequests :=
         some (max 0 (limiter.requestsPerMinute - (activeRequests ++ [now]).length)) },
      limiter.setWindow userId (activeRequests ++ [now]))

end InMemoryRateLimiter

end ClaudeCodeProxy
