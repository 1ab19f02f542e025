import ClaudeCodeProxy.TokenService.CacheCoherence
import ClaudeCodeProxy.TokenService.CacheRaces

namespace ClaudeCodeProxy

open Effects

-- The call has found no active key of the user and has not saved a new one since.
def unserved (userId : String) : List (Answer collaborators) → Bool
  | [] => false
  | ⟨.SaveKey _, _⟩ :: _ => false
  | ⟨.GetActiveKeyForUser owner, found⟩ :: log =>
      (owner == userId && (found : Option VirtualKeyRecord).isNone) || unserved userId log
  | _ :: log => unserved userId log

-- The call is on its way from a ledger read that found nothing to its own save.
def Issuing (userId : String) (thread : KeyThread) : Prop :=
  unserved userId thread.log = true ∧ ¬thread.finished

instance (userId : String) : DecidablePred (Issuing userId) := fun thread =>
  inferInstanceAs (Decidable (unserved userId thread.log = true ∧ ¬thread.finished))

-- What the cache holds for the user describes the record that the ledger selects.
def CacheAgrees (userId : String) (world : World) : Prop :=
  ∀ entry, world.cache.get userId = some entry →
    ∃ record, world.ledger.getActiveKeyForUser userId = some record ∧ entry.Describes record

def issueContract (deployment : Deployment) (userId : String) :
    Contract collaborators Failure Response Job World where
  inv := CacheAgrees userId
  rely first second := ∀ record, first.ledger.getActiveKeyForUser userId = some record →
    second.ledger.getActiveKeyForUser userId = some record
  assumes _ _ op world := ∀ record ∈ savedRecord op,
    world.ledger.getActiveKeyForUser userId = none
  check _ log program world :=
    match program with
    | .Call (.PutActiveKey entry) _ => entry.userId = userId ∧
        ∃ record, world.ledger.getActiveKeyForUser userId = some record ∧ entry.Describes record
    | .Call (.SaveKey record) _ => record.userId = userId ∧ record.status = .Active ∧
        unserved userId log = true
    | .Return (.Issued result) => ∃ record,
        world.ledger.getActiveKeyForUser userId = some record ∧ record.id = result.keyId ∧
        deployment.encryption.decrypt record.encryptedKeyBlob = .ok result.virtualKey
    | _ => True
  refl _ _ h := h
  trans _ _ _ hfirst hsecond record h := hsecond record (hfirst record h)

section Threads

variable (deployment : Deployment) (job : Job)

theorem issueNewKey_agrees (hround : deployment.encryption.RoundTrip) (user : UserRecord)
    (now : Int) (log : List (Answer collaborators)) (world : World)
    (hlog : unserved user.id log = true) :
    (issueContract deployment user.id).Safe (handle deployment job.draw) job log
      (deployment.tokenIssueService.issueNewKey user now >>= fun result => pure (.Issued result))
      world := by
  simp only [TokenIssueService.issueNewKey, TokenIssueService.cacheKeyRecord_bind, saveKey_bind,
    call_bind, Program.call_bind, Program.pure_eq, Program.return_bind]
  refine .call _ _ (fun _ => rfl) (fun _ _ _ => trivial) fun first _ _ _ => ?_
  refine .fallible _ _ (fun _ => rfl) (fun _ _ _ => trivial) ?_ (fun _ _ _ _ _ _ _ _ => trivial)
  intro blob hencrypt second _ _
  refine .call _ _ (fun _ => rfl) (fun _ _ _ => trivial) fun third _ _ _ => ?_
  refine .call _ _ (fun _ => rfl) (fun _ _ _ => ⟨rfl, rfl, hlog⟩) fun fourth _ _ hnone => ?_
  let record := issuedRecord deployment job.draw user.id blob now
  -- the saved record is the only active one of the user
  have hselected : Ledger.getActiveKeyForUser (fourth.ledger.save record) user.id = some record :=
    fourth.ledger.getActiveKeyForUser_save_of_none record rfl (hnone record rfl)
  refine .call _ _ (fun _ => rfl) ?_ fun fifth hfifth _ _ => ?_
  · intro fifth hfifth _
    exact ⟨rfl, record, hfifth record hselected, TokenIssueService.cacheEntry_describes _ _ _⟩
  · intro sixth hsixth _
    exact ⟨record, hsixth record (hfifth record hselected), rfl, hround _ _ hencrypt⟩

theorem getOrCreateKey_agrees (hround : deployment.encryption.RoundTrip)
    (userId requestId : String) (world : World) :
    (issueContract deployment userId).Safe (handle deployment job.draw) job []
      ((Request.GetOrCreateKey userId requestId).program deployment) world := by
  simp only [Request.program, TokenIssueService.getOrCreateKey, call_bind, Program.call_bind]
  refine .call _ _ (fun _ => rfl) (fun _ _ _ => trivial) fun start _ _ _ => ?_
  refine .call _ _ (fun _ => rfl) (fun _ _ _ => trivial) fun first _ hinv _ => ?_
  cases hhit : first.cache.getActiveKey userId start.clock with
  | some entry =>
      simp only [Program.call_bind, Program.pure_eq, Program.return_bind]
      obtain ⟨hentry, _, _⟩ := (VirtualKeyCache.getActiveKey_some_iff _ userId _ entry).mp hhit
      obtain ⟨record, hselected, hdescribes⟩ := hinv entry hentry
      refine .fallible _ _ (fun _ => rfl) (fun _ _ _ => trivial) ?_
        (fun _ _ _ _ _ _ _ _ => trivial)
      intro virtualKey hdecrypt second hsecond _ third hthird _
      rw [hdescribes.encryptedKeyRef] at hdecrypt
      exact ⟨record, hthird record (hsecond record hselected), hdescribes.virtualKeyId.symm,
        hdecrypt⟩
  | none =>
      simp only [Program.bind_assoc]
      refine requireAllowedUser_safe userId requestId _ _ _ (fun _ => rfl) (fun _ _ => trivial)
        (fun _ _ _ => trivial) fun second user _ huser => ?_
      obtain rfl : user.id = userId := second.users.key_of_get userId user huser
      simp only [Program.call_bind]
      refine .call _ _ (fun _ => rfl) (fun _ _ _ => trivial) fun third _ _ _ => ?_
      cases hselected : third.ledger.getActiveKeyForUser user.id with
      | some record =>
          obtain ⟨_, hid, _⟩ := Ledger.getActiveKeyForUser_some _ _ record hselected
          simp only [TokenIssueService.cacheKeyRecord_bind]
          refine .call _ _ (fun _ => rfl) ?_ fun fourth hfourth _ _ => ?_
          · intro fourth hfourth _
            exact ⟨hid, record, hfourth record hselected,
              TokenIssueService.cacheEntry_describes _ _ _⟩
          · refine .fallible _ _ (fun _ => rfl) (fun _ _ _ => trivial) ?_
              (fun _ _ _ _ _ _ _ _ => trivial)
            intro virtualKey hdecrypt fifth hfifth _ sixth hsixth _
            exact ⟨record, hsixth record (hfifth record (hfourth record hselected)), rfl,
              hdecrypt⟩
      | none =>
          exact issueNewKey_agrees deployment job hround user start.clock _ _
            (by simp [unserved])

end Threads

section Runs

variable (deployment : Deployment) (userId : String) (start : KeyPool)

def readsLedger (userId : String) : Service Response → Bool
  | .Call (.GetActiveKeyForUser owner) _ => owner == userId
  | _ => false

def Request.issuesFor (userId : String) : Request → Prop
  | .GetOrCreateKey owner _ => owner = userId
  | _ => False

instance (userId : String) : DecidablePred (Request.issuesFor userId)
  | .GetOrCreateKey owner _ => inferInstanceAs (Decidable (owner = userId))
  | .Revoke _ | .Disable _ | .Rotate _ | .InvalidateUserCache _ | .Provision _ => isFalse id

-- Only calls of `getOrCreateKey` for the user, and none reads the ledger while
-- another is on its way from a fruitless read to its save.
def OneIssuer (pool : KeyPool) : KeyEvent → Prop
  | .Spawn job => job.request.issuesFor userId
  | .Step index => ∀ thread ∈ pool.threads[index]?, readsLedger userId thread.program = true →
      ∀ other ∈ pool.threads, ¬Issuing userId other
  | .Environment _ => True

instance (pool : KeyPool) : DecidablePred (OneIssuer userId pool)
  | .Spawn job => inferInstanceAs (Decidable (job.request.issuesFor userId))
  | .Step index => inferInstanceAs (Decidable (∀ thread ∈ pool.threads[index]?,
      readsLedger userId thread.program = true → ∀ other ∈ pool.threads, ¬Issuing userId other))
  | .Environment _ => isTrue trivial

structure IssueInv (pool : KeyPool) : Prop where
  shared : CacheAgrees userId pool.shared
  sole : ∀ (i j : Nat) (first second : KeyThread), pool.threads[i]? = some first →
    pool.threads[j]? = some second → Issuing userId first → Issuing userId second → i = j
  vacant : ∀ thread ∈ pool.threads, Issuing userId thread →
    pool.shared.ledger.getActiveKeyForUser userId = none
  ledger : pool.shared.ledger = start.shared.ledger ∨
    ∃ record, pool.shared.ledger = start.shared.ledger.save record ∧
      pool.shared.ledger.getActiveKeyForUser userId = some record

-- How a call comes to be issuing: it was before, or it has just read in vain.
theorem issuing_moved {userId : String} {thread moved : KeyThread} {world after : World}
    {op : Call} {next : op.Reply → Service Response} {draw : Draw}
    (deployment : Deployment) (hp : thread.program = .Call op next)
    (hstep : thread.step (handle deployment draw) world = (moved, after))
    (hissuing : Issuing userId moved) :
    savedRecord op = none ∧ (Issuing userId thread ∨
      op = .GetActiveKeyForUser userId ∧ world.ledger.getActiveKeyForUser userId = none) := by
  have hrunning : ¬thread.finished := fun h => h op next hp
  obtain ⟨hlog, hmoved⟩ := hissuing
  rcases hh : handle deployment draw op world with ⟨answer, result⟩
  cases answer with
  | error error =>
      rw [thread.step_error _ _ _ op next error hp hh] at hstep
      cases hstep
      exact absurd (fun _ _ h => by cases h) hmoved
  | ok reply =>
      rw [thread.step_ok _ _ _ op next reply hp hh] at hstep
      cases hstep
      cases op with
      | SaveKey record => cases hlog
      | GetActiveKeyForUser owner =>
          refine ⟨rfl, ?_⟩
          simp only [unserved, Bool.or_eq_true, Bool.and_eq_true, beq_iff_eq] at hlog
          rcases hlog with ⟨rfl, hnone⟩ | hbefore
          · cases hh
            exact Or.inr ⟨rfl, Option.isNone_iff_eq_none.mp hnone⟩
          · exact Or.inl ⟨hbefore, hrunning⟩
      | _ => exact ⟨rfl, Or.inl ⟨hlog, hrunning⟩⟩

theorem Touches.ledger {world after : World} {op : Call} (h : Touches world op after)
    (hsaved : savedRecord op = none) : after.ledger = world.ledger := by
  cases h with
  | Kept op after hledger hcache hclock hquiet => exact hledger
  | Put | Dropped => rfl
  | Saved record => cases hsaved

-- A thread of the pool after a step is the one that moved or was there before.
theorem thread_after {pool : KeyPool} {index i : Nat} {moved thread : KeyThread}
    (h : (pool.threads.set index moved)[i]? = some thread) :
    (i = index ∧ thread = moved) ∨ (i ≠ index ∧ pool.threads[i]? = some thread) := by
  by_cases hi : i = index
  · subst hi
    rw [List.getElem?_set_self'] at h
    obtain ⟨_, _, rfl⟩ := Option.map_eq_some_iff.mp h
    exact Or.inl ⟨rfl, rfl⟩
  · rw [List.getElem?_set_ne (Ne.symm hi)] at h
    exact Or.inr ⟨hi, h⟩

-- A thread that moves is the only one on its way to a save, if it is.
theorem sole_after (pool : KeyPool) (index : Nat) (moved : KeyThread)
    (hsole : ∀ (i j : Nat) (first second : KeyThread), pool.threads[i]? = some first →
      pool.threads[j]? = some second → Issuing userId first → Issuing userId second → i = j)
    (hothers : Issuing userId moved → ∀ (j : Nat) (other : KeyThread), j ≠ index →
      pool.threads[j]? = some other → ¬Issuing userId other) :
    ∀ (i j : Nat) (first second : KeyThread), (pool.threads.set index moved)[i]? = some first →
      (pool.threads.set index moved)[j]? = some second →
      Issuing userId first → Issuing userId second → i = j := by
  intro i j first second hfirst hsecond hissuing hissuing'
  rcases thread_after hfirst with ⟨rfl, rfl⟩ | ⟨hi, hfirst'⟩
  · rcases thread_after hsecond with ⟨rfl, _⟩ | ⟨hj, hsecond'⟩
    · rfl
    · exact absurd hissuing' (hothers hissuing j second hj hsecond')
  · rcases thread_after hsecond with ⟨rfl, rfl⟩ | ⟨hj, hsecond'⟩
    · exact absurd hissuing (hothers hissuing' i first hi hfirst')
    · exact hsole i j first second hfirst' hsecond' hissuing hissuing'

-- While a thread is on its way to a save, the user still has no active key.
theorem vacant_after {pool : KeyPool} {index : Nat} {thread moved : KeyThread} {world : World}
    {op : Call} {next : op.Reply → Service Response} (hinv : IssueInv userId start pool)
    (hi : pool.threads[index]? = some thread) (hp : thread.program = .Call op next)
    (hstep : thread.step (handle deployment thread.request.draw) pool.shared = (moved, world))
    (htouches : Touches pool.shared op world)
    (hsaving : ∀ record, savedRecord op = some record → Issuing userId thread) :
    ∀ other ∈ pool.threads.set index moved, Issuing userId other →
      world.ledger.getActiveKeyForUser userId = none := by
  intro other hm hissuing
  obtain ⟨j, hj⟩ := List.mem_iff_getElem?.mp hm
  rcases thread_after hj with ⟨rfl, rfl⟩ | ⟨hji, hj'⟩
  · obtain ⟨hsaved, hcase⟩ := issuing_moved deployment hp hstep hissuing
    rw [htouches.ledger hsaved]
    rcases hcase with hbefore | ⟨_, hnone⟩
    · exact hinv.vacant thread (List.mem_of_getElem? hi) hbefore
    · exact hnone
  · cases hsaved : savedRecord op with
    | none =>
        rw [htouches.ledger hsaved]
        exact hinv.vacant other (List.mem_of_getElem? hj') hissuing
    | some record =>
        exact absurd (hinv.sole j index other thread hj' hi hissuing (hsaving record hsaved)) hji

-- What one call of an issuing service does to the cache and the ledger of the user.
theorem IssueInv.touched {pool : KeyPool} {world : World} {op : Call}
    (hinv : IssueInv userId start pool) (htouches : Touches pool.shared op world)
    (hput : ∀ entry, op = .PutActiveKey entry →
      ∃ record, pool.shared.ledger.getActiveKeyForUser userId = some record ∧
        entry.Describes record)
    (hsaved : ∀ record, savedRecord op = some record → record.userId = userId ∧
      record.status = .Active ∧ pool.shared.ledger.getActiveKeyForUser userId = none) :
    CacheAgrees userId world ∧
      (world.ledger = start.shared.ledger ∨
        ∃ record, world.ledger = start.shared.ledger.save record ∧
          world.ledger.getActiveKeyForUser userId = some record) ∧
      ∀ record, pool.shared.ledger.getActiveKeyForUser userId = some record →
        world.ledger.getActiveKeyForUser userId = some record := by
  cases htouches with
  | Kept op after hledger hcache hclock hquiet =>
      refine ⟨?_, ?_, ?_⟩
      · intro entry hentry
        rw [hcache] at hentry
        rw [hledger]
        exact hinv.shared entry hentry
      · rw [hledger]
        exact hinv.ledger
      · intro record hrecord
        rw [hledger]
        exact hrecord
  | Put entry =>
      obtain ⟨record, hselected, hdescribes⟩ := hput entry rfl
      refine ⟨?_, hinv.ledger, fun _ h => h⟩
      intro found hfound
      rcases Store.Table.of_get_save _ entry userId found hfound with ⟨_, rfl⟩ | ⟨_, hold⟩
      · exact ⟨record, hselected, hdescribes⟩
      · exact hinv.shared found hold
  | Dropped op owner hop =>
      refine ⟨?_, hinv.ledger, fun _ h => h⟩
      intro found hfound
      exact hinv.shared found (Store.Table.of_get_erase _ owner userId found hfound).2
  | Saved record =>
      obtain ⟨huser, hactive, hnone⟩ := hsaved record rfl
      have hnothing : ∀ found, pool.shared.ledger.getActiveKeyForUser userId ≠ some found := by
        simp [hnone]
      have hselected : Ledger.getActiveKeyForUser (pool.shared.ledger.save record) userId =
          some record := by
        rw [← huser] at hnone ⊢
        exact pool.shared.ledger.getActiveKeyForUser_save_of_none record hactive hnone
      refine ⟨?_, ?_, ?_⟩
      · intro entry hentry
        obtain ⟨found, hfound, _⟩ := hinv.shared entry hentry
        exact absurd hfound (hnothing found)
      · -- a record that was saved before would be selected now
        rcases hinv.ledger with hsame | ⟨saved, _, hsaved⟩
        · exact Or.inr ⟨record, by rw [hsame], hselected⟩
        · exact absurd hsaved (hnothing saved)
      · exact fun found hfound => absurd hfound (hnothing found)

theorem step_issue_call (pool : KeyPool) (index : Nat) (thread moved : KeyThread) (world : World)
    (op : Call) (next : op.Reply → Service Response)
    (hinv : IssueInv userId start pool) (hok : OneIssuer userId pool (.Step index))
    (hi : pool.threads[index]? = some thread) (hp : thread.program = .Call op next)
    (hstep : thread.step (handle deployment thread.request.draw) pool.shared = (moved, world))
    (hcheck : (issueContract deployment userId).check thread.request thread.log (.Call op next)
      pool.shared) :
    IssueInv userId start ⟨world, pool.threads.set index moved⟩ ∧
      (issueContract deployment userId).rely pool.shared world ∧
      (issueContract deployment userId).assumes thread.request thread.log op pool.shared := by
  have hshared := thread.step_shared (handle deployment thread.request.draw) pool.shared op next hp
  rw [hstep] at hshared
  have htouches := handle_touches deployment thread.request.draw op pool.shared
  rw [← hshared] at htouches
  have hrunning : ¬thread.finished := fun h => h op next hp
  -- a call that saves is on its way, so the user has no active key
  have hsaving : ∀ record, savedRecord op = some record →
      Issuing userId thread ∧ record.userId = userId ∧ record.status = .Active := by
    intro record hrecord
    cases op with
    | SaveKey saved =>
        cases hrecord
        exact ⟨⟨hcheck.2.2, hrunning⟩, hcheck.1, hcheck.2.1⟩
    | _ => cases hrecord
  have hassumes : ∀ record ∈ savedRecord op,
      pool.shared.ledger.getActiveKeyForUser userId = none :=
    fun record hrecord =>
      hinv.vacant thread (List.mem_of_getElem? hi) (hsaving record hrecord).1
  have hothers : Issuing userId moved → ∀ (j : Nat) (other : KeyThread), j ≠ index →
      pool.threads[j]? = some other → ¬Issuing userId other := by
    intro hmoved j other hj hother hissuing
    rcases (issuing_moved deployment hp hstep hmoved).2 with hbefore | ⟨hread, _⟩
    · exact hj (hinv.sole j index other thread hother hi hissuing hbefore)
    · have hreads : readsLedger userId thread.program = true := by
        rw [hp]
        subst hread
        simp [readsLedger]
      exact hok thread hi hreads other (List.mem_of_getElem? hother) hissuing
  have hput : ∀ entry, op = .PutActiveKey entry →
      ∃ record, pool.shared.ledger.getActiveKeyForUser userId = some record ∧
        entry.Describes record := by
    rintro entry rfl
    exact hcheck.2
  obtain ⟨hcache, hledger, hrely⟩ := hinv.touched userId start htouches hput
    fun record hrecord => ⟨(hsaving record hrecord).2.1, (hsaving record hrecord).2.2,
      hassumes record hrecord⟩
  have hvacant := vacant_after deployment userId start hinv hi hp hstep htouches
    fun record hrecord => (hsaving record hrecord).1
  exact ⟨⟨hcache, sole_after userId pool index moved hinv.sole hothers, hvacant, hledger⟩, hrely,
    hassumes⟩

theorem step_issue (pool : KeyPool) (event : KeyEvent) (hinv : IssueInv userId start pool)
    (hok : OneIssuer userId pool event)
    (hsafe : ∀ thread ∈ pool.threads,
      (issueContract deployment userId).ThreadSafe (keySystem deployment) thread pool.shared) :
    IssueInv userId start ((keySystem deployment).step pool event) ∧
      (issueContract deployment userId).rely pool.shared
        ((keySystem deployment).step pool event).shared ∧
      (issueContract deployment userId).Assumed pool event := by
  cases event with
  | Spawn job =>
      refine ⟨⟨hinv.shared, ?_, ?_, hinv.ledger⟩, fun _ h => h, trivial⟩
      · -- a new call has no answers yet
        have hat : ∀ (i : Nat) (thread : KeyThread),
            (pool.threads ++ [(keySystem deployment).spawn job])[i]? = some thread →
            Issuing userId thread → pool.threads[i]? = some thread := by
          intro i thread h hissuing
          by_cases hlt : i < pool.threads.length
          · rwa [List.getElem?_append_left hlt] at h
          · rw [List.getElem?_append_right (Nat.le_of_not_lt hlt)] at h
            have hm := List.mem_of_getElem? h
            rw [List.mem_singleton.mp hm] at hissuing
            exact absurd hissuing.1 (by simp [System.spawn, unserved])
        intro i j first second hfirst hsecond hissuing hissuing'
        exact hinv.sole i j first second (hat i first hfirst hissuing)
          (hat j second hsecond hissuing') hissuing hissuing'
      · intro thread hm hissuing
        rcases List.mem_append.mp hm with hm | hm
        · exact hinv.vacant thread hm hissuing
        · rw [List.mem_singleton.mp hm] at hissuing
          exact absurd hissuing.1 (by simp [System.spawn, unserved])
  | Environment change =>
      have hledger : (World.change pool.shared change).ledger = pool.shared.ledger :=
        pool.shared.change_ledger change
      refine ⟨⟨?_, hinv.sole, ?_, ?_⟩, ?_, trivial⟩
      · intro entry hentry
        change ∃ record, (pool.shared.change change).ledger.getActiveKeyForUser userId = _ ∧ _
        rw [hledger]
        exact hinv.shared entry (pool.shared.change_cache change userId entry hentry)
      · change ∀ thread ∈ pool.threads, Issuing userId thread →
          (pool.shared.change change).ledger.getActiveKeyForUser userId = none
        rw [hledger]
        exact hinv.vacant
      · change (pool.shared.change change).ledger = _ ∨ ∃ record,
          (pool.shared.change change).ledger = _ ∧
          (pool.shared.change change).ledger.getActiveKeyForUser userId = some record
        rw [hledger]
        exact hinv.ledger
      · intro record hrecord
        change (pool.shared.change change).ledger.getActiveKeyForUser userId = _
        rw [hledger]
        exact hrecord
  | Step index =>
      have hcalls : ∀ (thread : KeyThread) (op : Call) (next : op.Reply → Service Response),
          pool.threads[index]? = some thread → thread.program = .Call op next →
          (issueContract deployment userId).check thread.request thread.log (.Call op next)
            pool.shared := by
        intro thread op next hi hp
        have hcheck := (hsafe thread (List.mem_of_getElem? hi)).check hinv.shared
        rwa [hp] at hcheck
      have hcall := fun thread op next hi hp => step_issue_call deployment userId start pool index
        thread _ _ op next hinv hok hi hp (Prod.mk.eta).symm (hcalls thread op next hi hp)
      have hassumed : (issueContract deployment userId).Assumed pool (.Step index : KeyEvent) :=
        fun thread op next hi hp => (hcall thread op next hi hp).2.2
      rcases (keySystem deployment).step_cases pool index with
        hsame | ⟨thread, op, next, hi, hp, hs⟩
      · rw [hsame]
        exact ⟨hinv, fun _ h => h, hassumed⟩
      · rw [hs]
        exact ⟨(hcall thread op next hi hp).1, (hcall thread op next hi hp).2.1, hassumed⟩

theorem IssueInv.initial (hcache : start.shared.cache = .empty) (hthreads : start.threads = []) :
    IssueInv userId start start := by
  refine ⟨?_, ?_, ?_, Or.inl rfl⟩
  · intro entry hentry
    rw [hcache] at hentry
    cases hentry
  · intro i j first second hfirst
    rw [hthreads] at hfirst
    cases hfirst
  · intro thread hm
    rw [hthreads] at hm
    cases hm

theorem spawn_agrees (hround : deployment.encryption.RoundTrip) (job : Job) (pool : KeyPool)
    (hok : OneIssuer userId pool (.Spawn job)) :
    (issueContract deployment userId).ThreadSafe (keySystem deployment)
      ((keySystem deployment).spawn job) pool.shared := by
  obtain ⟨request, draw⟩ := job
  cases request with
  | GetOrCreateKey owner requestId =>
      obtain rfl : owner = userId := hok
      exact getOrCreateKey_agrees deployment ⟨_, draw⟩ hround owner requestId pool.shared
  | Revoke | Disable | Rotate | InvalidateUserCache | Provision => exact absurd hok id

-- One record at most was saved since the start.
theorem IssueInv.new_row_unique {userId : String} {start pool : KeyPool}
    (hinv : IssueInv userId start pool) {first second : VirtualKeyRecord}
    (hfirst : first ∈ pool.shared.ledger.rows) (hsecond : second ∈ pool.shared.ledger.rows)
    (hnew : first ∉ start.shared.ledger.rows) (hnew' : second ∉ start.shared.ledger.rows) :
    first = second := by
  rcases hinv.ledger with hsame | ⟨record, hsaved, _⟩
  · rw [hsame] at hfirst
    exact absurd hfirst hnew
  · have honly : ∀ other ∈ pool.shared.ledger.rows, other ∉ start.shared.ledger.rows →
        other = record := by
      intro other hm hfresh
      rw [hsaved] at hm
      rcases (Store.Table.mem_save _ _ _).mp hm with rfl | ⟨hold, _⟩
      · rfl
      · exact absurd hold hfresh
    rw [honly first hfirst hnew, honly second hsecond hnew']

-- Without an overlap of that kind, the calls for a user agree on the key, and at most
-- one record is new in the ledger.
theorem concurrent_calls_agree (events : List KeyEvent)
    (hround : deployment.encryption.RoundTrip)
    (hcache : start.shared.cache = .empty) (hthreads : start.threads = [])
    (hok : Admissible (keySystem deployment).step (OneIssuer userId) start events) :
    let pool := (keySystem deployment).exec start events
    (∀ first ∈ pool.threads, ∀ second ∈ pool.threads, ∀ result result',
      first.program = .Return (.Issued result) → second.program = .Return (.Issued result') →
      result.virtualKey = result'.virtualKey ∧ result.keyId = result'.keyId) ∧
    ∀ first ∈ pool.shared.ledger.rows, ∀ second ∈ pool.shared.ledger.rows,
      first ∉ start.shared.ledger.rows → second ∉ start.shared.ledger.rows → first = second := by
  intro pool
  obtain ⟨hinv, hsafe⟩ := Contract.exec_safe (fun _ pool => IssueInv userId start pool)
    (fun _ _ h => h.shared) (spawn_agrees deployment userId hround)
    (IssueInv.initial userId start hcache hthreads) (Contract.threadSafe_of_no_threads hthreads)
    (fun _ pool event hinv hadmit hsafe =>
      step_issue deployment userId start pool event hinv hadmit hsafe) events hok
  constructor
  · intro first hfirst second hsecond result result' hresult hresult'
    have hcheck := (hsafe first hfirst).check hinv.shared
    have hcheck' := (hsafe second hsecond).check hinv.shared
    rw [hresult] at hcheck
    rw [hresult'] at hcheck'
    obtain ⟨record, hselected, hid, hdecrypt⟩ := hcheck
    obtain ⟨record', hselected', hid', hdecrypt'⟩ := hcheck'
    rw [hselected] at hselected'
    cases hselected'
    rw [hdecrypt] at hdecrypt'
    exact ⟨Except.ok.inj hdecrypt', hid.symm.trans hid'⟩
  · exact fun first hfirst second hsecond => hinv.new_row_unique hfirst hsecond

end Runs

-- The user of the samples before any key was issued.
def sampleKeyless : KeyPool where
  shared := act sampleDeployment .initial (.Invoke (sampleProvision true) sampleFirst)
  threads := []

-- The second call starts while the first is under way, and reads the ledger after
-- the first has saved.
def sampleQueue : List KeyEvent :=
  [.Spawn ⟨.GetOrCreateKey "user-1" "request-1", sampleFirst⟩,
    .Spawn ⟨.GetOrCreateKey "user-1" "request-2", sampleSecond⟩] ++
  List.replicate 3 (.Step 1) ++ List.replicate 8 (.Step 0) ++ List.replicate 4 (.Step 1) ++
  List.replicate 2 (.Step 0)

theorem concurrent_calls_agree_sample :
    let pool := (keySystem sampleDeployment).exec sampleKeyless sampleQueue
    (∀ first ∈ pool.threads, ∀ second ∈ pool.threads, ∀ result result',
      first.program = .Return (.Issued result) → second.program = .Return (.Issued result') →
      result.virtualKey = result'.virtualKey ∧ result.keyId = result'.keyId) ∧
    ∀ first ∈ pool.shared.ledger.rows, ∀ second ∈ pool.shared.ledger.rows,
      first ∉ sampleKeyless.shared.ledger.rows → second ∉ sampleKeyless.shared.ledger.rows →
        first = second :=
  concurrent_calls_agree sampleDeployment "user-1" sampleKeyless sampleQueue
    fakeEncryptionService_roundTrip rfl rfl (by decide)

-- Two calls read the ledger before either saves: each issues a key of its own.
theorem overlapping_calls_disagree :
    ¬ ∀ (deployment : Deployment) (userId : String) (start : KeyPool) (events : List KeyEvent),
      deployment.encryption.RoundTrip → start.shared.cache = .empty → start.threads = [] →
      start.shared.Eligible userId →
      (∀ job, .Spawn job ∈ events → job.request.issuesFor userId) →
      Admissible (keySystem deployment).step FreshSaves start events →
      (∀ first ∈ ((keySystem deployment).exec start events).threads,
        ∀ second ∈ ((keySystem deployment).exec start events).threads, ∀ result result',
        first.program = .Return (.Issued result) → second.program = .Return (.Issued result') →
        result.virtualKey = result'.virtualKey ∧ result.keyId = result'.keyId) ∧
      ∀ first ∈ ((keySystem deployment).exec start events).shared.ledger.rows,
        ∀ second ∈ ((keySystem deployment).exec start events).shared.ledger.rows,
        first ∉ start.shared.ledger.rows → second ∉ start.shared.ledger.rows →
        first.userId = userId → second.userId = userId →
        first.status = .Active → second.status = .Active → first = second := by
  intro h
  let events : List KeyEvent :=
    [.Spawn ⟨.GetOrCreateKey "user-1" "request-1", sampleFirst⟩,
      .Spawn ⟨.GetOrCreateKey "user-1" "request-2", sampleSecond⟩] ++
    List.replicate 4 (.Step 0) ++ List.replicate 4 (.Step 1) ++ List.replicate 5 (.Step 0) ++
    List.replicate 5 (.Step 1)
  have hjobs : ∀ job, .Spawn job ∈ events → job.request.issuesFor "user-1" := by
    intro job hm
    have hspawned : job = ⟨.GetOrCreateKey "user-1" "request-1", sampleFirst⟩ ∨
        job = ⟨.GetOrCreateKey "user-1" "request-2", sampleSecond⟩ := by
      simpa [events] using hm
    rcases hspawned with rfl | rfl
    · exact rfl
    · exact rfl
  obtain ⟨_, hnew⟩ := h sampleDeployment "user-1" sampleKeyless events
    fakeEncryptionService_roundTrip rfl rfl (by decide) hjobs (by decide)
  have hsame := hnew
    (issuedRecord sampleDeployment sampleFirst "user-1" "enc::vk_first" World.initial.clock)
    (by decide)
    (issuedRecord sampleDeployment sampleSecond "user-1" "enc::vk_second" World.initial.clock)
    (by decide) (by decide) (by decide) rfl rfl rfl rfl
  exact absurd hsame (by decide)

end ClaudeCodeProxy
