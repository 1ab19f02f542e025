import ClaudeCodeProxy.Effects.Machine
import ClaudeCodeProxy.Proxy.RateLimiter
import Mathlib.Logic.Function.Basic

namespace ClaudeCodeProxy

open Effects

-- A call of the limiter at a reading of its clock.
structure RateCheck where
  now : Int
  userId : String
  deriving DecidableEq

-- The clock minute of the call.
def RateCheck.minute (check : RateCheck) : Int := check.now / minutes 1

def InMemoryRateLimiter.machine : Machine InMemoryRateLimiter RateCheck RateLimitDecision :=
  fun limiter check => limiter.check check.now check.userId

-- The purpose of the limiter: how many calls of each user were allowed in each minute.
abbrev RateCounts : Type := String → Int → Nat

namespace RateCounts

def increment (counts : RateCounts) (check : RateCheck) : RateCounts :=
  Function.update counts check.userId
    (Function.update (counts check.userId) check.minute (counts check.userId check.minute + 1))

def machine (limit : Int) : Machine RateCounts RateCheck RateLimitDecision := fun counts check =>
  let count := counts check.userId check.minute
  if limit ≤ count then
    ({ allowed := false
       retryAfterSeconds := some
         (max 1 (epochSeconds (InMemoryRateLimiter.windowStart check.now + minutes 1 - check.now)))
       remainingRequests := some 0 }, counts)
  else
    ({ allowed := true, remainingRequests := some (limit - (count + 1)) }, counts.increment check)

theorem machine_denied {limit : Int} {counts : RateCounts} {check : RateCheck}
    (h : limit ≤ counts check.userId check.minute) :
    (machine limit counts check).1.allowed = false ∧ (machine limit counts check).2 = counts := by
  simp [machine, h]

theorem machine_allowed {limit : Int} {counts : RateCounts} {check : RateCheck}
    (h : ¬limit ≤ counts check.userId check.minute) :
    (machine limit counts check).1.allowed = true ∧
      (machine limit counts check).1.remainingRequests =
        some (limit - (counts check.userId check.minute + 1)) ∧
      (machine limit counts check).2 = counts.increment check := by
  simp [machine, h]

theorem allowed_iff (limit : Int) (counts : RateCounts) (check : RateCheck) :
    (machine limit counts check).1.allowed = true ↔
      (counts check.userId check.minute : Int) < limit := by
  by_cases h : limit ≤ counts check.userId check.minute
  · rw [(machine_denied h).1]
    constructor
    · intro hfalse
      cases hfalse
    · intro hlt
      omega
  · rw [(machine_allowed h).1]
    constructor
    · intro _
      omega
    · intro _
      rfl

@[simp] theorem increment_user (counts : RateCounts) (check : RateCheck) :
    counts.increment check check.userId =
      Function.update (counts check.userId) check.minute
        (counts check.userId check.minute + 1) := by
  simp [increment]

theorem increment_other (counts : RateCounts) (check : RateCheck) (userId : String)
    (h : userId ≠ check.userId) : counts.increment check userId = counts userId := by
  simp [increment, h]

theorem increment_apply (counts : RateCounts) (check : RateCheck) (userId : String)
    (minute : Int) :
    counts.increment check userId minute =
      if userId = check.userId ∧ minute = check.minute then counts userId minute + 1
      else counts userId minute := by
  by_cases huser : userId = check.userId
  · subst huser
    by_cases hminute : minute = check.minute
    · subst hminute
      simp
    · simp [hminute]
  · simp [huser, increment_other]

-- The calls of a user in a minute that a run has allowed.
def admitted (entries : List (RateCheck × RateLimitDecision)) (userId : String) (minute : Int) :
    Nat :=
  entries.countP fun entry =>
    entry.1.userId == userId && entry.1.minute == minute && entry.2.allowed

def zero : RateCounts := fun _ _ => 0

-- The counters count what they say they do.
theorem final_eq_admitted (limit : Int) (checks : List RateCheck) (userId : String)
    (minute : Int) :
    (machine limit).final zero checks userId minute =
      admitted ((machine limit).transcript zero checks) userId minute := by
  induction checks using List.reverseRecOn with
  | nil => rfl
  | append_singleton past check ih =>
      simp only [Machine.final_append, Machine.final_cons, Machine.final_nil,
        Machine.transcript_append, Machine.transcript_cons, Machine.transcript_nil, admitted,
        List.countP_append, List.countP_singleton]
      rw [admitted] at ih
      generalize (machine limit).final zero past = counts at ih ⊢
      by_cases hfull : limit ≤ counts check.userId check.minute
      · obtain ⟨hdenied, hsame⟩ := machine_denied hfull
        rw [hsame, ih, hdenied]
        simp
      · obtain ⟨hallowed, -, hnext⟩ := machine_allowed hfull
        rw [hnext, increment_apply, ih, hallowed]
        by_cases hhere : userId = check.userId ∧ minute = check.minute
        · obtain ⟨rfl, rfl⟩ := hhere
          simp
        · have hother : (check.userId == userId && check.minute == minute) = false := by
            rw [Bool.and_eq_false_iff, beq_eq_false_iff_ne, beq_eq_false_iff_ne]
            by_cases huser : userId = check.userId
            · exact .inr fun hminute => hhere ⟨huser, hminute.symm⟩
            · exact .inl (Ne.symm huser)
          rw [if_neg hhere, hother]
          simp

-- No minute of a user is counted beyond the limit.
theorem final_le (limit : Int) (hlimit : 0 ≤ limit) (checks : List RateCheck) (userId : String)
    (minute : Int) : (((machine limit).final zero checks userId minute : Nat) : Int) ≤ limit := by
  induction checks using List.reverseRecOn with
  | nil => exact hlimit
  | append_singleton past check ih =>
      rw [Machine.final_append, Machine.final_cons, Machine.final_nil]
      generalize (machine limit).final zero past = counts at ih ⊢
      by_cases hfull : limit ≤ counts check.userId check.minute
      · rw [(machine_denied hfull).2]
        exact ih
      · rw [(machine_allowed hfull).2.2, increment_apply]
        by_cases hhere : userId = check.userId ∧ minute = check.minute
        · obtain ⟨rfl, rfl⟩ := hhere
          rw [if_pos ⟨rfl, rfl⟩]
          omega
        · rw [if_neg hhere]
          exact ih

-- Every entry of a run against the entries before it.
theorem entry_of_transcript {limit : Int} {checks : List RateCheck}
    {past rest : List (RateCheck × RateLimitDecision)} {check : RateCheck}
    {decision : RateLimitDecision}
    (h : (machine limit).transcript zero checks = past ++ (check, decision) :: rest) :
    (decision.allowed = true ↔ (admitted past check.userId check.minute : Int) < limit) ∧
      (decision.allowed = true → decision.remainingRequests =
        some (limit - (admitted past check.userId check.minute + 1))) ∧
      (decision.allowed = false →
        (machine limit).transcript zero (past.map Prod.fst ++ rest.map Prod.fst) =
          past ++ rest) := by
  obtain ⟨-, hpast, hdecision, hrest⟩ := (machine limit).transcript_split zero h
  have hcounts := final_eq_admitted limit (past.map Prod.fst) check.userId check.minute
  rw [← hpast] at hcounts
  have hiff := allowed_iff limit ((machine limit).final zero (past.map Prod.fst)) check
  have hanswer : decision =
      (machine limit ((machine limit).final zero (past.map Prod.fst)) check).1 := hdecision
  rw [← hanswer, hcounts] at hiff
  refine ⟨hiff, ?_, ?_⟩
  · intro hallowed
    have hroom : ¬limit ≤
        (machine limit).final zero (past.map Prod.fst) check.userId check.minute := by
      rw [hcounts]
      have hlt := hiff.mp hallowed
      omega
    rw [hanswer, (machine_allowed hroom).2.1, hcounts]
  · intro hdenied
    have hfull : limit ≤
        (machine limit).final zero (past.map Prod.fst) check.userId check.minute := by
      rw [hcounts]
      by_contra hroom
      have hallowed := hiff.mpr (by omega)
      rw [hdenied] at hallowed
      cases hallowed
    rw [Machine.transcript_append, ← hpast]
    conv_rhs => rw [hrest]
    rw [(machine_denied hfull).2]

-- The calls of a user see the counters of that user only.
theorem transcript_user (limit : Int) (checks : List RateCheck) (userId : String) :
    ((machine limit).transcript zero checks).filter (fun entry => entry.1.userId == userId) =
      (machine limit).transcript zero (checks.filter fun check => check.userId == userId) := by
  apply (machine limit).transcript_filter zero (fun counts => counts userId)
    (fun check => check.userId == userId) _ _ zero rfl
  · intro counts check hother
    have hne : userId ≠ check.userId := by
      rintro rfl
      simp at hother
    by_cases hfull : limit ≤ counts check.userId check.minute
    · rw [(machine_denied hfull).2]
    · rw [(machine_allowed hfull).2.2, increment_other _ _ _ hne]
  · intro counts counts' check hown hview
    obtain rfl : check.userId = userId := by simpa using hown
    have hcount : counts check.userId check.minute = counts' check.userId check.minute := by
      rw [hview]
    refine ⟨?_, ?_⟩
    · simp only [machine, hcount]
      split
      · rfl
      · rfl
    · by_cases hfull : limit ≤ counts check.userId check.minute
      · rw [(machine_denied hfull).2, (machine_denied (hcount ▸ hfull)).2, hview]
      · rw [(machine_allowed hfull).2.2, (machine_allowed (hcount ▸ hfull)).2.2, increment_user,
          increment_user, hview]

end RateCounts

namespace InMemoryRateLimiter

@[simp] theorem window_setWindow_self (limiter : InMemoryRateLimiter) (userId : String)
    (requests : List Int) : (limiter.setWindow userId requests).window userId = requests := by
  simp [window, setWindow]

theorem window_setWindow_of_ne (limiter : InMemoryRateLimiter) (userId other : String)
    (requests : List Int) (h : other ≠ userId) :
    (limiter.setWindow userId requests).window other = limiter.window other := by
  have hbeq : (other == userId) = false := by simpa using h
  simp only [window, setWindow, List.lookup_cons, hbeq]
  congr 1
  induction limiter.requestWindows with
  | nil => rfl
  | cons entry entries ih =>
      by_cases hentry : entry.1 = userId
      · have hother : (other == entry.1) = false := by simpa [hentry] using h
        rw [List.filter_cons_of_neg (by simpa using hentry), ih, List.lookup_cons, hother]
      · rw [List.filter_cons_of_pos (by simpa using hentry), List.lookup_cons, List.lookup_cons,
          ih]

theorem windowStart_le_iff (first now : Int) (h : first ≤ now) :
    windowStart now ≤ first ↔ now / minutes 1 = first / minutes 1 := by
  have hminute : minutes 1 = 60000000 := rfl
  rw [windowStart, hminute]
  omega

theorem windowStart_mono (first now : Int) (h : first ≤ now) :
    windowStart first ≤ windowStart now := by
  have hminute : minutes 1 = 60000000 := rfl
  rw [windowStart, windowStart, hminute]
  omega

-- The times of a window that are in the minute of `now`, if none is later than `now`.
def current (now : Int) (requests : List Int) : List Int :=
  requests.filter fun timestamp => decide (windowStart now ≤ timestamp)

-- Times that were dropped in an earlier minute are not missed later.
theorem current_current (first now : Int) (h : first ≤ now) (requests : List Int) :
    current now (current first requests) = current now requests := by
  unfold current
  rw [List.filter_filter]
  apply List.filter_congr
  intro timestamp _
  have hmono := windowStart_mono first now h
  rw [← Bool.decide_and, decide_eq_decide]
  constructor
  · exact fun hboth => hboth.1
  · intro hnow
    exact ⟨hnow, Int.le_trans hmono hnow⟩

theorem check_of_full (limiter : InMemoryRateLimiter) (now : Int) (userId : String)
    (h : limiter.requestsPerMinute ≤ (current now (limiter.window userId)).length) :
    limiter.check now userId =
      ({ allowed := false
         retryAfterSeconds := some (max 1 (epochSeconds (windowStart now + minutes 1 - now)))
         remainingRequests := some 0 },
        limiter.setWindow userId (current now (limiter.window userId))) := by
  unfold current at h ⊢
  simp only [check, if_pos h]

theorem check_of_room (limiter : InMemoryRateLimiter) (now : Int) (userId : String)
    (h : ¬limiter.requestsPerMinute ≤ (current now (limiter.window userId)).length) :
    limiter.check now userId =
      ({ allowed := true
         remainingRequests := some (limiter.requestsPerMinute -
           ((current now (limiter.window userId)).length + 1)) },
        limiter.setWindow userId (current now (limiter.window userId) ++ [now])) := by
  unfold current at h ⊢
  have hremaining : max 0 (limiter.requestsPerMinute -
      (((limiter.window userId).filter fun timestamp => decide (windowStart now ≤ timestamp)) ++
        [now]).length) = limiter.requestsPerMinute -
          (((limiter.window userId).filter fun timestamp =>
            decide (windowStart now ≤ timestamp)).length + 1) := by
    rw [List.length_append, List.length_singleton]
    omega
  simp only [check, if_neg h, hremaining]

-- From now on the windows hold as many times of each minute as the counters say.
def Counts (limit : Int) (past : List RateCheck) (limiter : InMemoryRateLimiter)
    (counts : RateCounts) : Prop :=
  limiter.requestsPerMinute = limit ∧
    ∀ now, (∀ check ∈ past, check.now ≤ now) → ∀ userId,
      (current now (limiter.window userId)).length = counts userId (now / minutes 1)

theorem counts_new (requestsPerMinute : Int) :
    Counts (max 1 requestsPerMinute) [] (.new requestsPerMinute) .zero :=
  ⟨rfl, fun _ _ _ => rfl⟩

-- The pruned window of a user stands for the same counts as the window itself.
theorem Counts.prune {limit : Int} {past : List RateCheck} {limiter : InMemoryRateLimiter}
    {counts : RateCounts} (h : Counts limit past limiter counts) (check : RateCheck) :
    Counts limit (past ++ [check])
      (limiter.setWindow check.userId (current check.now (limiter.window check.userId)))
      counts := by
  refine ⟨h.1, ?_⟩
  intro now hlater userId
  have hpast : ∀ earlier ∈ past, earlier.now ≤ now := fun earlier hm =>
    hlater earlier (List.mem_append_left _ hm)
  have hnow : check.now ≤ now := hlater check (by simp)
  have hcount := h.2 now hpast userId
  by_cases huser : userId = check.userId
  · subst huser
    rw [window_setWindow_self, current_current _ _ hnow, hcount]
  · rw [window_setWindow_of_ne _ _ _ _ huser, hcount]

theorem Counts.admit {limit : Int} {past : List RateCheck} {limiter : InMemoryRateLimiter}
    {counts : RateCounts} (h : Counts limit past limiter counts) (check : RateCheck) :
    Counts limit (past ++ [check])
      (limiter.setWindow check.userId
        (current check.now (limiter.window check.userId) ++ [check.now]))
      (counts.increment check) := by
  refine ⟨h.1, ?_⟩
  intro now hlater userId
  have hpast : ∀ earlier ∈ past, earlier.now ≤ now := fun earlier hm =>
    hlater earlier (List.mem_append_left _ hm)
  have hnow : check.now ≤ now := hlater check (by simp)
  have hcount := h.2 now hpast userId
  rw [RateCounts.increment_apply]
  by_cases huser : userId = check.userId
  · subst huser
    rw [window_setWindow_self]
    have hold := current_current _ _ hnow (limiter.window check.userId)
    have hadded : current now [check.now] =
        if now / minutes 1 = check.minute then [check.now] else [] := by
      unfold current
      rw [List.filter_singleton]
      by_cases hminute : now / minutes 1 = check.minute
      · have hstart := (windowStart_le_iff check.now now hnow).mpr hminute
        simp [hstart, hminute]
      · have hstart : ¬windowStart now ≤ check.now := fun hle =>
          hminute ((windowStart_le_iff check.now now hnow).mp hle)
        simp [hstart, hminute]
    have happend : current now (current check.now (limiter.window check.userId) ++ [check.now]) =
        current now (limiter.window check.userId) ++ current now [check.now] := by
      rw [← hold]
      exact List.filter_append _ _
    rw [happend, List.length_append, hcount, hadded]
    by_cases hminute : now / minutes 1 = check.minute
    · simp [hminute]
    · simp [hminute]
  · rw [window_setWindow_of_ne _ _ _ _ huser, hcount]
    simp [huser]

-- One call: the limiter answers as the counters do, and they still count its windows.
theorem Counts.step {limit : Int} {past : List RateCheck} {limiter : InMemoryRateLimiter}
    {counts : RateCounts} (h : Counts limit past limiter counts) (check : RateCheck)
    (hlatest : ∀ earlier ∈ past, earlier.now ≤ check.now) :
    (machine limiter check).1 = (RateCounts.machine limit counts check).1 ∧
      Counts limit (past ++ [check]) (machine limiter check).2
        (RateCounts.machine limit counts check).2 := by
  have hcount : (current check.now (limiter.window check.userId)).length =
      counts check.userId check.minute := h.2 check.now hlatest check.userId
  by_cases hfull : limit ≤ counts check.userId check.minute
  · have hreached : limiter.requestsPerMinute ≤
        (current check.now (limiter.window check.userId)).length := by
      rw [h.1, hcount]
      exact hfull
    rw [machine, check_of_full limiter check.now check.userId hreached,
      (RateCounts.machine_denied hfull).2]
    refine ⟨?_, h.prune check⟩
    simp [RateCounts.machine, hfull]
  · have hroom : ¬limiter.requestsPerMinute ≤
        (current check.now (limiter.window check.userId)).length := by
      rw [h.1, hcount]
      exact hfull
    rw [machine, check_of_room limiter check.now check.userId hroom,
      (RateCounts.machine_allowed hfull).2.2]
    refine ⟨?_, h.admit check⟩
    simp [RateCounts.machine, hfull, h.1, hcount]

-- At a clock that never goes back the limiter answers as the counters.
theorem transcript_eq_counts (requestsPerMinute : Int) (checks : List RateCheck)
    (hclock : checks.Pairwise fun earlier later => earlier.now ≤ later.now) :
    machine.transcript (.new requestsPerMinute) checks =
      (RateCounts.machine (max 1 requestsPerMinute)).transcript .zero checks := by
  refine (Machine.transcript_eq_of_related machine _ (Counts (max 1 requestsPerMinute)) checks
    (counts_new requestsPerMinute) ?_).1
  intro past check hprefix limiter counts hcounts
  apply hcounts.step check
  intro earlier hm
  have hpast := hclock.sublist hprefix.sublist
  rw [List.pairwise_append] at hpast
  exact hpast.2.2 earlier hm check (by simp)

end InMemoryRateLimiter

theorem rateLimiter_counts_calls (requestsPerMinute : Int) (checks : List RateCheck)
    (hclock : checks.Pairwise fun earlier later => earlier.now ≤ later.now) :
    (∀ past check decision rest,
      InMemoryRateLimiter.machine.transcript (.new requestsPerMinute) checks =
        past ++ (check, decision) :: rest →
      (decision.allowed = true ↔
        (RateCounts.admitted past check.userId check.minute : Int) < max 1 requestsPerMinute) ∧
      (decision.allowed = true → decision.remainingRequests = some
        (max 1 requestsPerMinute - (RateCounts.admitted past check.userId check.minute + 1))) ∧
      (decision.allowed = false →
        InMemoryRateLimiter.machine.transcript (.new requestsPerMinute)
          (past.map Prod.fst ++ rest.map Prod.fst) = past ++ rest)) ∧
    ∀ userId,
      (InMemoryRateLimiter.machine.transcript (.new requestsPerMinute) checks).filter
          (fun entry => entry.1.userId == userId) =
        InMemoryRateLimiter.machine.transcript (.new requestsPerMinute)
          (checks.filter fun check => check.userId == userId) := by
  have hcounts := InMemoryRateLimiter.transcript_eq_counts requestsPerMinute checks hclock
  refine ⟨?_, ?_⟩
  · intro past check decision rest hsplit
    rw [hcounts] at hsplit
    obtain ⟨hallowed, hremaining, hskip⟩ := RateCounts.entry_of_transcript hsplit
    refine ⟨hallowed, hremaining, ?_⟩
    intro hdenied
    -- the shortened run is at a clock that never goes back, too
    have hinputs := ((RateCounts.machine _).transcript_split _ hsplit).1
    have hsublist : (past.map Prod.fst ++ rest.map Prod.fst).Sublist checks := by
      rw [hinputs]
      exact (List.sublist_cons_self _ _).append_left _
    rw [InMemoryRateLimiter.transcript_eq_counts _ _ (hclock.sublist hsublist)]
    exact hskip hdenied
  · intro userId
    rw [hcounts, InMemoryRateLimiter.transcript_eq_counts _ _
      (hclock.sublist List.filter_sublist)]
    exact RateCounts.transcript_user _ checks userId

-- Two users around a minute boundary, the second call of one of them denied.
def sampleChecks : List RateCheck :=
  [⟨minutes 1, "user-1"⟩, ⟨minutes 1 + 7, "user-1"⟩, ⟨minutes 1 + 7, "user-2"⟩,
    ⟨minutes 2, "user-1"⟩]

theorem rateLimiter_counts_sample :
    (InMemoryRateLimiter.machine.transcript (.new 0) sampleChecks).filter
        (fun entry => entry.1.userId == "user-1") =
      InMemoryRateLimiter.machine.transcript (.new 0)
        (sampleChecks.filter fun check => check.userId == "user-1") :=
  (rateLimiter_counts_calls 0 sampleChecks (by decide)).2 "user-1"

end ClaudeCodeProxy
