import ClaudeCodeProxy.Effects.History
import ClaudeCodeProxy.Services.Concurrency
import ClaudeCodeProxy.TokenService.CacheCoherence

namespace ClaudeCodeProxy

open Effects

-- The key's record under the result's id, active at that moment.
structure ActiveAt (deployment : Deployment) (moment : World) (userId : String)
    (result : TokenIssueResult) (record : VirtualKeyRecord) : Prop where
  get : moment.ledger.get result.keyId = some record
  userId : record.userId = userId
  active : record.status = .Active
  keyPrefix : record.keyPrefix = result.keyPrefix
  key : deployment.encryption.decrypt record.encryptedKeyBlob = .ok result.virtualKey ∨
    record.keyHash = deployment.hashVirtualKey result.virtualKey

-- The entry describes a record that was active at a moment from which its ttl is at
-- most one lifetime away.
def Justified (deployment : Deployment) (chronicle : Chronicle World)
    (entry : VirtualKeyCacheEntry) : Prop :=
  ∃ moment ∈ chronicle.moments,
    entry.ttl ≤ epochSeconds (moment.clock + normalizeCacheTtl deployment.cacheTtl) ∧
    ∃ record, moment.ledger.get record.id = some record ∧ record.status = .Active ∧
      entry.Describes record

-- The clock values among the answers a call has received.
def readings (log : List (Answer collaborators)) : List Int :=
  log.filterMap fun
    | ⟨.Clock, reading⟩ => some reading
    | _ => none

def RecentlyActive (deployment : Deployment) (chronicle : Chronicle World) (userId : String)
    (reading : Int) (result : TokenIssueResult) : Prop :=
  ∃ moment ∈ chronicle.moments,
    reading - normalizeCacheTtl deployment.cacheTtl < moment.clock ∧
    ∃ record, ActiveAt deployment moment userId result record

-- Between two moments nothing is forgotten and the clock does not go back.
structure Later (first second : Chronicle World) : Prop where
  moments : ∀ moment ∈ first.moments, moment ∈ second.moments
  clock : first.now.clock ≤ second.now.clock

theorem Justified.mono {deployment : Deployment} {first second : Chronicle World}
    {entry : VirtualKeyCacheEntry} (h : Justified deployment first entry)
    (hlater : ∀ moment ∈ first.moments, moment ∈ second.moments) :
    Justified deployment second entry := by
  obtain ⟨moment, hm, hrest⟩ := h
  exact ⟨moment, hlater moment hm, hrest⟩

theorem Later.extend {chronicle second : Chronicle World} {next : World}
    (h : Later (chronicle.extend next) second) :
    ∀ moment ∈ chronicle.moments, moment ∈ second.moments :=
  fun moment hm => h.moments moment (List.mem_cons_of_mem _ hm)

def stalenessContract (deployment : Deployment) :
    Contract collaborators Failure Response Job (Chronicle World) where
  inv chronicle := ∀ userId entry, chronicle.now.cache.get userId = some entry →
    Justified deployment chronicle entry
  rely := Later
  assumes _ _ _ _ := True
  check job log program chronicle :=
    match program with
    | .Call (.PutActiveKey entry) _ => Justified deployment chronicle entry
    | .Return (.Issued result) => ∃ userId requestId,
        job.request = .GetOrCreateKey userId requestId ∧
        ∀ reading ∈ readings log,
          RecentlyActive deployment chronicle userId reading result
    | _ => True
  refl _ := ⟨fun _ hm => hm, le_refl _⟩
  trans _ _ _ hfirst hsecond :=
    ⟨fun moment hm => hsecond.moments moment (hfirst.moments moment hm),
      hfirst.clock.trans hsecond.clock⟩

section Threads

variable (deployment : Deployment) (job : Job)

theorem issueNewKey_staleness (user : UserRecord) (requestId : String) (now : Int)
    (log : List (Answer collaborators)) (chronicle : Chronicle World)
    (hjob : job.request = .GetOrCreateKey user.id requestId)
    (hlog : ∀ reading ∈ readings log, reading = now)
    (hnow : now ≤ chronicle.now.clock) :
    (stalenessContract deployment).Safe (handle deployment job.draw).recorded job log
      (deployment.tokenIssueService.issueNewKey user now >>= fun result => pure (.Issued result))
      chronicle := by
  have hpos := normalizeCacheTtl_pos deployment.cacheTtl
  simp only [TokenIssueService.issueNewKey, TokenIssueService.cacheKeyRecord_bind, saveKey_bind,
    call_bind, Program.call_bind, Program.pure_eq, Program.return_bind]
  refine .call _ _ (fun _ => rfl) (fun _ _ _ => trivial) fun first hfirst _ _ => ?_
  refine .fallible _ _ (fun _ => rfl) (fun _ _ _ => trivial) ?_ (fun _ _ _ _ _ _ _ _ => trivial)
  intro blob _ second hsecond _
  refine .call _ _ (fun _ => rfl) (fun _ _ _ => trivial) fun third hthird _ _ => ?_
  refine .call _ _ (fun _ => rfl) (fun _ _ _ => trivial) fun fourth hfourth _ _ => ?_
  -- the record is active in the state that the save leads to
  let record := issuedRecord deployment job.draw user.id blob now
  let saved : World := { fourth.now with ledger := fourth.now.ledger.save record }
  have hrecord : saved.ledger.get record.id = some record :=
    Store.Table.get_save_self fourth.now.ledger record
  have hclock : now ≤ saved.clock :=
    hnow.trans (hfirst.clock.trans (hsecond.clock.trans (hthird.clock.trans hfourth.clock)))
  refine .call _ _ (fun _ => rfl) ?_ fun fifth hfifth _ _ => ?_
  · intro fifth hfifth _
    refine ⟨saved, hfifth.moments saved (Chronicle.now_mem _), ?_, record, hrecord, rfl,
      TokenIssueService.cacheEntry_describes _ record now⟩
    apply epochSeconds_mono
    change now + normalizeCacheTtl deployment.cacheTtl ≤ _
    omega
  · intro sixth hsixth _
    refine ⟨user.id, requestId, hjob, ?_⟩
    intro reading hread
    have hreading : reading = now := hlog reading hread
    have hmoment : saved ∈ sixth.moments :=
      hsixth.extend saved (hfifth.moments saved (Chronicle.now_mem _))
    refine ⟨saved, hmoment, by omega, record, hrecord, rfl, rfl, rfl, Or.inr rfl⟩

theorem getOrCreateKey_staleness (userId requestId : String) (chronicle : Chronicle World)
    (hjob : job.request = .GetOrCreateKey userId requestId) :
    (stalenessContract deployment).Safe (handle deployment job.draw).recorded job []
      (job.request.program deployment) chronicle := by
  have hpos := normalizeCacheTtl_pos deployment.cacheTtl
  rw [hjob]
  simp only [Request.program, TokenIssueService.getOrCreateKey, call_bind, Program.call_bind]
  refine .call _ _ (fun _ => rfl) (fun _ _ _ => trivial) fun start _ _ _ => ?_
  refine .call _ _ (fun _ => rfl) (fun _ _ _ => trivial) fun first hfirst hinv _ => ?_
  have hclock : start.now.clock ≤ first.now.clock := hfirst.clock
  cases hhit : first.now.cache.getActiveKey userId start.now.clock with
  | some entry =>
      simp only [Program.call_bind, Program.pure_eq, Program.return_bind]
      obtain ⟨hentry, hlive, _⟩ :=
        (VirtualKeyCache.getActiveKey_some_iff _ userId _ entry).mp hhit
      obtain ⟨moment, hmoment, httl, record, hrecord, hactive, hdescribes⟩ :=
        hinv userId entry hentry
      have huser : record.userId = userId :=
        hdescribes.userId.symm.trans (first.now.cache.key_of_get _ _ hentry)
      refine .fallible _ _ (fun _ => rfl) (fun _ _ _ => trivial) ?_
        (fun _ _ _ _ _ _ _ _ => trivial)
      intro virtualKey hdecrypt second hsecond _ third hthird _
      refine ⟨userId, requestId, hjob, ?_⟩
      intro reading hread
      have hreading : reading = start.now.clock := List.mem_singleton.mp hread
      have hlt := lt_of_epochSeconds_lt _ _ (lt_of_lt_of_le hlive httl)
      refine ⟨moment, hthird.extend moment (hsecond.extend moment hmoment), by omega, record, ?_⟩
      rw [hdescribes.encryptedKeyRef] at hdecrypt
      exact ⟨hdescribes.virtualKeyId ▸ hrecord, huser, hactive, hdescribes.keyPrefix.symm,
        Or.inl hdecrypt⟩
  | none =>
      simp only [Program.bind_assoc]
      refine requireAllowedUser_safe userId requestId _ _ _ (fun _ => rfl) (fun _ _ => trivial)
        (fun _ _ _ => trivial) fun second user hsecond huser => ?_
      obtain rfl : user.id = userId := second.now.users.key_of_get userId user huser
      simp only [Program.call_bind]
      refine .call _ _ (fun _ => rfl) (fun _ _ _ => trivial) fun third hthird _ _ => ?_
      have hclock' : start.now.clock ≤ third.now.clock :=
        hclock.trans (hsecond.clock.trans hthird.clock)
      cases hselected : third.now.ledger.getActiveKeyForUser user.id with
      | none =>
          exact issueNewKey_staleness deployment job user requestId start.now.clock _ _ hjob
            (fun reading hread => List.mem_singleton.mp hread) hclock'
      | some record =>
          obtain ⟨hm, hid, hactive⟩ := Ledger.getActiveKeyForUser_some _ _ record hselected
          have hrecord := third.now.ledger.get_of_mem record hm
          simp only [TokenIssueService.cacheKeyRecord_bind]
          refine .call _ _ (fun _ => rfl) ?_ fun fourth hfourth _ _ => ?_
          · intro fourth hfourth _
            refine ⟨third.now, hfourth.moments _ (Chronicle.now_mem _), ?_, record, hrecord,
              hactive, TokenIssueService.cacheEntry_describes _ record _⟩
            apply epochSeconds_mono
            change start.now.clock + normalizeCacheTtl deployment.cacheTtl ≤ _
            omega
          · refine .fallible _ _ (fun _ => rfl) (fun _ _ _ => trivial) ?_
              (fun _ _ _ _ _ _ _ _ => trivial)
            intro virtualKey hdecrypt fifth hfifth _ sixth hsixth _
            refine ⟨user.id, requestId, hjob, ?_⟩
            intro reading hread
            have hreading : reading = start.now.clock := List.mem_singleton.mp hread
            have hmoment : third.now ∈ sixth.moments :=
              hsixth.extend _ (hfifth.extend _ (hfourth.moments _ (Chronicle.now_mem _)))
            exact ⟨third.now, hmoment, by omega, record, hrecord, hid, hactive, rfl,
              Or.inl hdecrypt⟩

theorem program_staleness (chronicle : Chronicle World) :
    (stalenessContract deployment).Safe (handle deployment job.draw).recorded job []
      (job.request.program deployment) chronicle := by
  by_cases hissue : ∃ userId requestId, job.request = .GetOrCreateKey userId requestId
  · obtain ⟨userId, requestId, hjob⟩ := hissue
    exact getOrCreateKey_staleness deployment job userId requestId chronicle hjob
  · have havoids := program_avoids deployment job.request fun userId requestId h =>
      hissue ⟨userId, requestId, h⟩
    apply Contract.Safe.of_avoids havoids
    · intro log response now hresponse
      cases response with
      | Issued result => exact absurd rfl (hresponse result)
      | Revoked | Disabled | Rotated | Invalidated | Provisioned => trivial
    · exact fun _ _ _ => trivial
    · intro log op next now hop
      cases op with
      | PutActiveKey entry => exact absurd ⟨entry, rfl⟩ hop
      | _ => trivial

end Threads

section Runs

variable (deployment : Deployment)

abbrev RecordedPool : Type := Pool collaborators Failure Response Job (Chronicle World)

theorem Later.of_extend (chronicle : Chronicle World) (next : World)
    (hclock : chronicle.now.clock ≤ next.clock) : Later chronicle (chronicle.extend next) :=
  ⟨fun _ hm => List.mem_cons_of_mem _ hm, hclock⟩

-- No event forgets a moment or turns the clock back.
theorem step_later (pool : RecordedPool) (event : KeyEvent) :
    Later pool.shared ((keySystem deployment).recorded.step pool event).shared := by
  cases event with
  | Spawn job => exact ⟨fun _ hm => hm, le_refl _⟩
  | Environment change => exact Later.of_extend _ _ (World.change_clock _ change)
  | Step index =>
      rcases (keySystem deployment).recorded.step_cases pool index with
        hsame | ⟨thread, op, next, _, hp, hs⟩
      · rw [hsame]
        exact ⟨fun _ hm => hm, le_refl _⟩
      · rw [hs, thread.step_shared _ _ op next hp]
        exact Later.of_extend _ _
          (handle_touches deployment thread.request.draw op pool.shared.now).clock.ge

theorem step_justified (pool : RecordedPool) (event : KeyEvent)
    (hinv : (stalenessContract deployment).inv pool.shared)
    (hsafe : ∀ thread ∈ pool.threads, (stalenessContract deployment).ThreadSafe
      (keySystem deployment).recorded thread pool.shared) :
    (stalenessContract deployment).inv
      ((keySystem deployment).recorded.step pool event).shared := by
  have hlater := step_later deployment pool event
  intro userId entry hentry
  have hold : pool.shared.now.cache.get userId = some entry → Justified deployment
      ((keySystem deployment).recorded.step pool event).shared entry :=
    fun h => (hinv userId entry h).mono hlater.moments
  cases event with
  | Spawn job => exact hold hentry
  | Environment change => exact hold (World.change_cache _ change userId entry hentry)
  | Step index =>
      rcases (keySystem deployment).recorded.step_cases pool index with
        hsame | ⟨thread, op, next, hi, hp, hs⟩
      · rw [hsame] at hentry
        exact hold hentry
      · have htouches := handle_touches deployment thread.request.draw op pool.shared.now
        rw [hs, thread.step_shared _ _ op next hp] at hentry
        change (handle deployment thread.request.draw op pool.shared.now).2.cache.get userId =
          some entry at hentry
        generalize (handle deployment thread.request.draw op pool.shared.now).2 = after
          at htouches hentry
        cases htouches with
        | Kept op after hledger hcache hclock hquiet =>
            rw [hcache] at hentry
            exact hold hentry
        | Saved record => exact hold hentry
        | Dropped op owner hop => exact hold (Store.Table.of_get_erase _ _ _ _ hentry).2
        | Put put =>
            rcases Store.Table.of_get_save _ put userId entry hentry with ⟨_, rfl⟩ | ⟨_, hbefore⟩
            · have hcheck := (hsafe thread (List.mem_of_getElem? hi)).check hinv
              rw [hp] at hcheck
              exact Justified.mono hcheck hlater.moments
            · exact hold hbefore

-- A key that a call hands out was active at a moment of the run after the call's
-- clock reading less one cache lifetime, and so within the last hour.
theorem issued_key_recently_active (start : KeyPool) (events : List KeyEvent)
    (hcache : start.shared.cache = .empty) (hthreads : start.threads = [])
    (thread : KeyThread) (hthread : thread ∈ ((keySystem deployment).exec start events).threads)
    (result : TokenIssueResult) (hresult : thread.program = .Return (.Issued result))
    (reading : Int) (hreading : reading ∈ readings thread.log) :
    ∃ userId requestId past, thread.request.request = .GetOrCreateKey userId requestId ∧
      past <+: events ∧
      reading - normalizeCacheTtl deployment.cacheTtl <
        ((keySystem deployment).exec start past).shared.clock ∧
      reading - MAX_CACHE_TTL < ((keySystem deployment).exec start past).shared.clock ∧
      ∃ record, ActiveAt deployment ((keySystem deployment).exec start past).shared userId result
        record := by
  have hstart : (stalenessContract deployment).inv start.recorded.shared := by
    intro userId entry hentry
    change start.shared.cache.get userId = some entry at hentry
    rw [hcache] at hentry
    cases hentry
  have hspawn : ∀ (job : Job) (pool : RecordedPool), True →
      (stalenessContract deployment).ThreadSafe (keySystem deployment).recorded
        ((keySystem deployment).recorded.spawn job) pool.shared :=
    fun job pool _ => program_staleness deployment job pool.shared
  have hok : Admissible (keySystem deployment).recorded.step (fun _ _ => True) start.recorded
      events := admissible_of_forall (fun _ _ => trivial) _ _
  obtain ⟨hinv, hsafe⟩ := Contract.exec_safe
    (fun _ pool => (stalenessContract deployment).inv pool.shared) (fun _ _ h => h)
    hspawn hstart (Contract.threadSafe_of_no_threads hthreads) (by
      intro past pool event hinv _ hsafe
      refine ⟨step_justified deployment pool event hinv hsafe, step_later deployment pool event, ?_⟩
      cases event with
      | Spawn | Environment => trivial
      | Step index => exact fun _ _ _ _ _ => trivial) events hok
  have hforget := (keySystem deployment).recorded_exec start events
  rw [← hforget] at hthread
  have hcheck := (hsafe thread hthread).check hinv
  rw [hresult] at hcheck
  obtain ⟨userId, requestId, hjob, hrecent⟩ := hcheck
  obtain ⟨moment, hmoment, hclock, record, hactive⟩ := hrecent reading hreading
  obtain ⟨past, hprefix, rfl⟩ := (keySystem deployment).moments_recorded_exec start events moment
    hmoment
  have hle := normalizeCacheTtl_le deployment.cacheTtl
  exact ⟨userId, requestId, past, hjob, hprefix, hclock, by omega, record, hactive⟩

end Runs

-- A call reads the active key, a revoke runs from start to end, the call puts the key into the
-- cache, and a minute later another call hands it out from there.
def sampleLeftover : List KeyEvent :=
  [.Spawn ⟨.GetOrCreateKey "user-1" "request-2", sampleSecond⟩,
    .Spawn ⟨.Revoke "key-1", sampleThird⟩] ++ List.replicate 4 (.Step 0) ++
  List.replicate 5 (.Step 1) ++ List.replicate 2 (.Step 0) ++
  [.Environment (.Advance 60000000),
    .Spawn ⟨.GetOrCreateKey "user-1" "request-3", sampleSecond⟩] ++ List.replicate 4 (.Step 2)

theorem issued_key_recently_active_sample :
    let final := (keySystem sampleDeployment).exec samplePool sampleLeftover
    let result := cachedResult "user-1" "vk_first"
      (sampleDeployment.tokenIssueService.cacheEntry sampleRecord World.initial.clock)
    let reading := World.initial.clock + 60000000
    final.shared.ledger.get "key-1" = some (sampleRecord.revoked World.initial.clock) ∧
    ∃ thread ∈ final.threads, thread.program = .Return (.Issued result) ∧
      reading ∈ readings thread.log ∧
      ∃ userId requestId past, thread.request.request = .GetOrCreateKey userId requestId ∧
        past <+: sampleLeftover ∧
        reading - normalizeCacheTtl sampleDeployment.cacheTtl <
          ((keySystem sampleDeployment).exec samplePool past).shared.clock ∧
        reading - MAX_CACHE_TTL <
          ((keySystem sampleDeployment).exec samplePool past).shared.clock ∧
        ∃ record, ActiveAt sampleDeployment
          ((keySystem sampleDeployment).exec samplePool past).shared userId result record := by
  intro final result reading
  have hm : final.threads.get ⟨2, by decide⟩ ∈ final.threads := List.get_mem _ _
  have hreading : reading ∈ readings (final.threads.get ⟨2, by decide⟩).log := by decide
  exact ⟨by decide, _, hm, rfl, hreading, issued_key_recently_active sampleDeployment samplePool
    sampleLeftover rfl rfl _ hm result rfl reading hreading⟩

end ClaudeCodeProxy
