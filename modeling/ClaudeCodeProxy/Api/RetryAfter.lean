import ClaudeCodeProxy.Api.ProxyRouter
import ClaudeCodeProxy.Proxy.RateCounts

-- How long a denied caller is told to wait, and how long it has to.

namespace ClaudeCodeProxy

open Effects

namespace InMemoryRateLimiter

def windowEnd (now : Int) : Int := windowStart now + minutes 1

-- The seconds that a denial at `now` asks for.
def retrySeconds (now : Int) : Int := max 1 (epochSeconds (windowEnd now - now))

-- The wait fits the clock: the rest of the minute is whole seconds, or less than one.
def WholeWait (now : Int) : Prop :=
  (windowEnd now - now) % MICROSECONDS_PER_SECOND = 0 ∨
    windowEnd now - now < MICROSECONDS_PER_SECOND

instance (now : Int) : Decidable (WholeWait now) := inferInstanceAs (Decidable (_ ∨ _))

-- The calls of a user recorded at or after the end of the minute. There are none
-- unless the clock has been set back.
def laterCalls (limiter : InMemoryRateLimiter) (now : Int) (userId : String) : List Int :=
  current (windowEnd now) (limiter.window userId)

section Clock

theorem minutes_one : minutes 1 = 60 * MICROSECONDS_PER_SECOND := rfl

theorem epochSeconds_of_nonneg (moment : Int) (h : 0 ≤ moment) :
    epochSeconds moment = moment / MICROSECONDS_PER_SECOND :=
  Int.tdiv_eq_ediv_of_nonneg h

theorem le_after_wait (now seconds : Int) (h : 0 ≤ seconds) :
    now ≤ now + seconds * MICROSECONDS_PER_SECOND := by
  have hmicro : MICROSECONDS_PER_SECOND = 1000000 := rfl
  rw [hmicro]
  omega

theorem lt_windowEnd (now : Int) : now < windowEnd now := by
  have hmicro : MICROSECONDS_PER_SECOND = 1000000 := rfl
  rw [windowEnd, windowStart, minutes_one, hmicro]
  omega

theorem windowStart_of_same_minute (now later : Int) (h : now ≤ later)
    (hend : later < windowEnd now) : windowStart later = windowStart now := by
  have hmicro : MICROSECONDS_PER_SECOND = 1000000 := rfl
  rw [windowEnd, windowStart, minutes_one, hmicro] at hend
  rw [windowStart, windowStart, minutes_one, hmicro]
  omega

theorem windowStart_windowEnd (now : Int) : windowStart (windowEnd now) = windowEnd now := by
  have hmicro : MICROSECONDS_PER_SECOND = 1000000 := rfl
  rw [windowEnd, windowStart, windowStart, minutes_one, hmicro]
  omega

theorem windowEnd_le_retry_iff (now : Int) :
    windowEnd now ≤ now + retrySeconds now * MICROSECONDS_PER_SECOND ↔ WholeWait now := by
  have hpos : 0 ≤ windowEnd now - now := by
    have hlt := lt_windowEnd now
    omega
  have hmicro : MICROSECONDS_PER_SECOND = 1000000 := rfl
  rw [retrySeconds, WholeWait, epochSeconds_of_nonneg _ hpos, hmicro]
  omega

-- A wait that fits ends in the next minute.
theorem windowStart_retry (now : Int) (h : WholeWait now) :
    windowStart (now + retrySeconds now * MICROSECONDS_PER_SECOND) = windowEnd now := by
  have hle := (windowEnd_le_retry_iff now).mpr h
  have hlt : now + retrySeconds now * MICROSECONDS_PER_SECOND < windowEnd (windowEnd now) := by
    have hpos := lt_windowEnd now
    have hwait : windowEnd now - now ≤ minutes 1 := by
      rw [windowEnd, windowStart]
      have hmod := Int.emod_nonneg now (show minutes 1 ≠ 0 by decide)
      omega
    rw [windowEnd, windowStart_windowEnd, retrySeconds, epochSeconds_of_nonneg _ (by omega)]
    rw [minutes_one] at hwait ⊢
    have hmicro : MICROSECONDS_PER_SECOND = 1000000 := rfl
    rw [hmicro] at hwait ⊢
    omega
  rw [windowStart_of_same_minute _ _ hle hlt, windowStart_windowEnd]

end Clock

theorem check_allowed_iff (limiter : InMemoryRateLimiter) (now : Int) (userId : String) :
    (limiter.check now userId).1.allowed = true ↔
      (current now (limiter.window userId)).length < limiter.requestsPerMinute := by
  by_cases h : limiter.requestsPerMinute ≤ (current now (limiter.window userId)).length
  · rw [check_of_full _ _ _ h]
    constructor
    · intro hfalse
      cases hfalse
    · intro hlt
      omega
  · rw [check_of_room _ _ _ h]
    constructor
    · intro _
      omega
    · intro _
      rfl

theorem check_denied {limiter : InMemoryRateLimiter} {now : Int} {userId : String}
    (h : (limiter.check now userId).1.allowed = false) :
    limiter.requestsPerMinute ≤ (current now (limiter.window userId)).length ∧
      (limiter.check now userId).1.retryAfterSeconds = some (retrySeconds now) ∧
      (limiter.check now userId).2 =
        limiter.setWindow userId (current now (limiter.window userId)) := by
  have hfull : limiter.requestsPerMinute ≤ (current now (limiter.window userId)).length := by
    by_contra hroom
    have hallowed := (check_allowed_iff limiter now userId).mpr (by omega)
    rw [h] at hallowed
    cases hallowed
  rw [check_of_full _ _ _ hfull]
  exact ⟨hfull, rfl, rfl⟩

-- What a call leaves of the limiter for the other users.
theorem check_frame (limiter : InMemoryRateLimiter) (now : Int) (userId other : String)
    (h : other ≠ userId) :
    (limiter.check now userId).2.window other = limiter.window other ∧
      (limiter.check now userId).2.requestsPerMinute = limiter.requestsPerMinute := by
  by_cases hfull : limiter.requestsPerMinute ≤ (current now (limiter.window userId)).length
  · rw [check_of_full _ _ _ hfull]
    exact ⟨window_setWindow_of_ne _ _ _ _ h, rfl⟩
  · rw [check_of_room _ _ _ hfull]
    exact ⟨window_setWindow_of_ne _ _ _ _ h, rfl⟩

theorem final_frame (userId : String) (between : List RateCheck)
    (h : ∀ check ∈ between, check.userId ≠ userId) (limiter : InMemoryRateLimiter) :
    (machine.final limiter between).window userId = limiter.window userId ∧
      (machine.final limiter between).requestsPerMinute = limiter.requestsPerMinute := by
  induction between generalizing limiter with
  | nil => exact ⟨rfl, rfl⟩
  | cons check between ih =>
      obtain ⟨hwindow, hlimit⟩ :=
        ih (fun other hm => h other (.tail _ hm)) (machine limiter check).2
      obtain ⟨hkept, hsame⟩ := check_frame limiter check.now check.userId userId
        (Ne.symm (h check (.head _)))
      rw [Machine.final_cons]
      exact ⟨hwindow.trans hkept, hlimit.trans hsame⟩

theorem length_current_antitone (first second : Int) (h : first ≤ second) (requests : List Int) :
    (current second requests).length ≤ (current first requests).length := by
  rw [← current_current first second h]
  exact List.length_filter_le _ _

-- After the wait every call of the user is allowed, whatever other users do meanwhile.
def RetrySuffices (limiter : InMemoryRateLimiter) (now : Int) (userId : String)
    (seconds : Int) : Prop :=
  ∀ between : List RateCheck, (∀ check ∈ between, check.userId ≠ userId) → ∀ later,
    now + seconds * MICROSECONDS_PER_SECOND ≤ later →
    ((machine.final (limiter.check now userId).2 between).check later userId).1.allowed = true

-- The calls at the end of the wait decide for all later ones.
theorem retrySuffices_iff_current {limiter : InMemoryRateLimiter} {now : Int} {userId : String}
    (h : (limiter.check now userId).1.allowed = false) {seconds : Int} (hseconds : 0 ≤ seconds) :
    RetrySuffices limiter now userId seconds ↔
      (current (now + seconds * MICROSECONDS_PER_SECOND) (limiter.window userId)).length <
        limiter.requestsPerMinute := by
  obtain ⟨-, -, hafter⟩ := check_denied h
  have hwait := le_after_wait now seconds hseconds
  have hcheck : ∀ between : List RateCheck, (∀ check ∈ between, check.userId ≠ userId) →
      ∀ later, now ≤ later →
        (((machine.final (limiter.check now userId).2 between).check later userId).1.allowed =
          true ↔ (current later (limiter.window userId)).length < limiter.requestsPerMinute) := by
    intro between hothers later hlater
    obtain ⟨hwindow, hlimit⟩ := final_frame userId between hothers (limiter.check now userId).2
    rw [check_allowed_iff, hwindow, hlimit, hafter, window_setWindow_self,
      current_current _ _ hlater]
    rfl
  constructor
  · intro hsuffices
    have hnow := hsuffices [] (by simp) _ (le_refl _)
    exact (hcheck [] (by simp) _ hwait).mp hnow
  · intro hroom between hothers later hlater
    have hmono := length_current_antitone _ _ hlater (limiter.window userId)
    exact (hcheck between hothers later (hwait.trans hlater)).mpr (by omega)

theorem retrySuffices_iff {limiter : InMemoryRateLimiter} {now : Int} {userId : String}
    (h : (limiter.check now userId).1.allowed = false) :
    RetrySuffices limiter now userId (retrySeconds now) ↔
      WholeWait now ∧ (limiter.laterCalls now userId).length < limiter.requestsPerMinute := by
  have hone : 1 ≤ retrySeconds now := le_max_left _ _
  have hpos : 0 ≤ retrySeconds now := by omega
  rw [retrySuffices_iff_current h hpos]
  by_cases hwhole : WholeWait now
  · have hsame : current (now + retrySeconds now * MICROSECONDS_PER_SECOND)
        (limiter.window userId) = limiter.laterCalls now userId := by
      rw [laterCalls, current, current, windowStart_retry now hwhole, windowStart_windowEnd]
    rw [hsame, and_iff_right hwhole]
  · -- the wait ends before the minute does, and the calls of the minute still count
    have hshort : now + retrySeconds now * MICROSECONDS_PER_SECOND < windowEnd now := by
      have hiff := windowEnd_le_retry_iff now
      by_contra hle
      exact hwhole (hiff.mp (by omega))
    have hsame : current (now + retrySeconds now * MICROSECONDS_PER_SECOND)
        (limiter.window userId) = current now (limiter.window userId) := by
      rw [current, current, windowStart_of_same_minute now _ (le_after_wait _ _ hpos) hshort]
    obtain ⟨hfull, -, -⟩ := check_denied h
    rw [hsame]
    constructor
    · intro hroom
      omega
    · rintro ⟨hwait, -⟩
      exact absurd hwait hwhole

-- The times that a window holds are readings of calls.
theorem mem_window_check {limiter : InMemoryRateLimiter} {now : Int} {userId other : String}
    {timestamp : Int} (hm : timestamp ∈ (limiter.check now userId).2.window other) :
    timestamp ∈ limiter.window other ∨ timestamp = now := by
  by_cases hother : other = userId
  · subst hother
    by_cases hfull : limiter.requestsPerMinute ≤ (current now (limiter.window other)).length
    · rw [check_of_full _ _ _ hfull, window_setWindow_self] at hm
      exact .inl (List.mem_of_mem_filter hm)
    · rw [check_of_room _ _ _ hfull, window_setWindow_self, List.mem_append,
        List.mem_singleton] at hm
      exact hm.imp List.mem_of_mem_filter id
  · rw [(check_frame limiter now userId other hother).1] at hm
    exact .inl hm

theorem mem_window_final {userId : String} {timestamp : Int} (history : List RateCheck)
    (limiter : InMemoryRateLimiter)
    (hm : timestamp ∈ (machine.final limiter history).window userId) :
    timestamp ∈ limiter.window userId ∨ ∃ check ∈ history, timestamp = check.now := by
  induction history generalizing limiter with
  | nil => exact .inl hm
  | cons check history ih =>
      rcases ih (machine limiter check).2 hm with hkept | ⟨later, hlater, hsame⟩
      · rcases mem_window_check hkept with hold | hnew
        · exact .inl hold
        · exact .inr ⟨check, .head _, hnew⟩
      · exact .inr ⟨later, .tail _ hlater, hsame⟩

-- With a clock that was not set back there is nothing after the minute.
theorem laterCalls_eq_nil (requestsPerMinute : Int) (history : List RateCheck) (now : Int)
    (userId : String) (h : ∀ check ∈ history, check.now ≤ now) :
    (machine.final (.new requestsPerMinute) history).laterCalls now userId = [] := by
  rw [laterCalls, current, windowStart_windowEnd, List.filter_eq_nil_iff]
  intro timestamp hm
  have hend := lt_windowEnd now
  rcases mem_window_final history _ hm with hempty | ⟨check, hcheck, rfl⟩
  · cases hempty
  · have hpast := h check hcheck
    simp only [decide_eq_true_eq]
    omega

theorem requestsPerMinute_final (limiter : InMemoryRateLimiter) (history : List RateCheck) :
    (machine.final limiter history).requestsPerMinute = limiter.requestsPerMinute := by
  induction history generalizing limiter with
  | nil => rfl
  | cons check history ih =>
      rw [Machine.final_cons, ih]
      by_cases hfull : limiter.requestsPerMinute ≤
          (current check.now (limiter.window check.userId)).length
      · rw [machine, check_of_full _ _ _ hfull]
        rfl
      · rw [machine, check_of_room _ _ _ hfull]
        rfl

end InMemoryRateLimiter

open InMemoryRateLimiter

-- The denial that the router sends to the client.
def rateLimitedResponse (requestId : String) (decision : RateLimitDecision) :
    Except Failure JSONResponse :=
  errorResponseForException
    (.ServiceError (rateLimitExceededError requestId none (some (retryAfterHeaders decision))))
    requestId

theorem rateLimitedResponse_ok (requestId : String) (decision : RateLimitDecision) :
    ∃ response, rateLimitedResponse requestId decision = .ok response ∧
      response.statusCode = 429 ∧ response.headers = retryAfterHeaders decision := by
  have hsame : rateLimitedResponse requestId decision = jsonResponse 429 (.Mapping [
      ("type", .Str "error"),
      ("error", .Mapping [("type", .Str ANTHROPIC_RATE_LIMIT_ERROR),
        ("message", .Str "Rate limit exceeded.")]),
      ("request_id", .Str requestId)]) (retryAfterHeaders decision) := rfl
  refine ⟨_, hsame.trans (if_pos ?_), rfl, rfl⟩
  simp [Python.Value.jsonCompliant, Python.Value.entriesCompliant]

-- The client of a denied call is told how long to wait, and the wait is enough exactly
-- if it fits the clock and no later minute is full already.
theorem retryAfter_suffices_iff (requestsPerMinute : Int) (history : List RateCheck) (now : Int)
    (userId requestId : String)
    (hdenied : ((InMemoryRateLimiter.machine.final (.new requestsPerMinute) history).check now
      userId).1.allowed = false) :
    let limiter := InMemoryRateLimiter.machine.final (.new requestsPerMinute) history
    ∃ seconds response, (limiter.check now userId).1.retryAfterSeconds = some seconds ∧
      rateLimitedResponse requestId (limiter.check now userId).1 = .ok response ∧
      response.headers = [("Retry-After", toString seconds)] ∧
      (RetrySuffices limiter now userId seconds ↔
        WholeWait now ∧ (limiter.laterCalls now userId).length < limiter.requestsPerMinute) ∧
      ((∀ check ∈ history, check.now ≤ now) →
        (RetrySuffices limiter now userId seconds ↔ WholeWait now)) := by
  intro limiter
  obtain ⟨-, hseconds, -⟩ := check_denied hdenied
  obtain ⟨response, hresponse, -, hheaders⟩ :=
    rateLimitedResponse_ok requestId (limiter.check now userId).1
  have hiff := retrySuffices_iff hdenied
  refine ⟨retrySeconds now, response, hseconds, hresponse, ?_, hiff, ?_⟩
  · rw [hheaders, retryAfterHeaders, hseconds]
    rfl
  · intro hclock
    have hlimit : 1 ≤ (InMemoryRateLimiter.machine.final (.new requestsPerMinute)
        history).requestsPerMinute := by
      rw [requestsPerMinute_final]
      exact le_max_left _ _
    rw [hiff, laterCalls_eq_nil requestsPerMinute history now userId hclock, List.length_nil]
    constructor
    · exact fun h => h.1
    · intro hwhole
      exact ⟨hwhole, by omega⟩

-- A user with one call a minute who calls twice within half a minute.
def sampleCalls : List RateCheck := [⟨0, "user-1"⟩, ⟨20 * MICROSECONDS_PER_SECOND, "user-2"⟩]

theorem retryAfter_suffices_sample :
    let limiter := InMemoryRateLimiter.machine.final (.new 1) sampleCalls
    ∃ seconds, (limiter.check (30 * MICROSECONDS_PER_SECOND) "user-1").1.retryAfterSeconds =
        some seconds ∧
      RetrySuffices limiter (30 * MICROSECONDS_PER_SECOND) "user-1" seconds := by
  obtain ⟨seconds, response, hseconds, -, -, -, hiff⟩ :=
    retryAfter_suffices_iff 1 sampleCalls (30 * MICROSECONDS_PER_SECOND) "user-1" "request-1"
      (by decide)
  exact ⟨seconds, hseconds, (hiff (by decide)).mpr (by decide)⟩

-- Half a second past a full second the wait is half a second too short.
theorem retryAfter_too_short :
    ¬∀ (requestsPerMinute : Int) (history : List RateCheck) (now : Int) (userId : String)
      (seconds : Int),
      ((InMemoryRateLimiter.machine.final (.new requestsPerMinute) history).check now
        userId).1.allowed = false →
      ((InMemoryRateLimiter.machine.final (.new requestsPerMinute) history).check now
        userId).1.retryAfterSeconds = some seconds →
      RetrySuffices (InMemoryRateLimiter.machine.final (.new requestsPerMinute) history) now
        userId seconds := by
  intro h
  have hallowed := h 1 [⟨0, "user-1"⟩] 30500000 "user-1" 29 (by decide) (by decide) [] (by simp)
    59500000 (by decide)
  revert hallowed
  decide

end ClaudeCodeProxy
