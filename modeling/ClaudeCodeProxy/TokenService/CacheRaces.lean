import ClaudeCodeProxy.Services.Concurrency

namespace ClaudeCodeProxy

open Effects Lifecycle

-- The call has written a dead copy and is about to drop the user's cache entry.
def Invalidating (userId : String) (thread : KeyThread) : Prop :=
  ∃ next, thread.program = .Call (.InvalidateTokenServiceCache userId) next

def savedRecord : Call → Option VirtualKeyRecord
  | .SaveKey record => some record
  | _ => none

-- A new active record takes an id that the ledger does not have.
def SavesFresh (world : World) (op : Call) : Prop :=
  ∀ record ∈ savedRecord op, record.status = .Active → world.ledger.get record.id = none

instance (world : World) : DecidablePred (SavesFresh world) := fun op =>
  inferInstanceAs (Decidable (∀ record ∈ savedRecord op,
    record.status = .Active → world.ledger.get record.id = none))

def raceContract : Contract collaborators Failure Response Job World where
  inv _ := True
  rely first second := Evolves first.ledger.registry second.ledger.registry
  assumes _ _ op world := SavesFresh world op
  check _ _ program world :=
    match program with
    | .Call (.PutActiveKey entry) _ => ∃ record,
        world.ledger.get entry.virtualKeyId = some record ∧ record.userId = entry.userId
    | .Call (.SaveKey record) next => record.status ≠ .Active →
        (∃ old, world.ledger.get old.id = some old ∧ old.Retires record) ∧
        ∀ reply, ∃ after, next reply = .Call (.InvalidateTokenServiceCache record.userId) after
    | _ => True
  refl _ := .refl
  trans _ _ _ hfirst hsecond := hfirst.trans hsecond

section Threads

variable (deployment : Deployment) (job : Job)

-- A record that was read is still in the ledger, for the same user.
theorem described_of_evolves {first second : World} (record : VirtualKeyRecord)
    (hrecord : first.ledger.get record.id = some record)
    (hevolves : Evolves first.ledger.registry second.ledger.registry) :
    ∃ later, second.ledger.get record.id = some later ∧ later.userId = record.userId := by
  obtain ⟨later, hlater, hcontent, _⟩ := Ledger.get_of_evolves hevolves record.id record hrecord
  exact ⟨later, hlater, congrArg KeyContent.userId hcontent⟩

theorem retires_of_evolves {first second : World} (record copy : VirtualKeyRecord)
    (hrecord : first.ledger.get record.id = some record) (hretires : record.Retires copy)
    (hevolves : Evolves first.ledger.registry second.ledger.registry) :
    ∃ old, second.ledger.get old.id = some old ∧ old.Retires copy := by
  obtain ⟨old, hold, hcontent, _⟩ := Ledger.get_of_evolves hevolves record.id record hrecord
  have hid : old.id = record.id := second.ledger.key_of_get _ _ hold
  refine ⟨old, by rw [hid, hold], hretires.id.trans hid.symm, hretires.content.trans hcontent.symm,
    hretires.dead⟩

theorem getOrCreateKey_race (userId requestId : String) (world : World) :
    raceContract.Safe (handle deployment job.draw) job []
      ((Request.GetOrCreateKey userId requestId).program deployment) world := by
  simp only [Request.program, TokenIssueService.getOrCreateKey, call_bind, Program.call_bind]
  refine .call _ _ (fun _ => rfl) (fun _ _ _ => trivial) fun start _ _ _ => ?_
  refine .call _ _ (fun _ => rfl) (fun _ _ _ => trivial) fun first _ _ _ => ?_
  cases hhit : first.cache.getActiveKey userId start.clock with
  | some entry =>
      simp only [Program.call_bind, Program.pure_eq, Program.return_bind]
      exact .fallible _ _ (fun _ => rfl) (fun _ _ _ => trivial)
        (fun _ _ _ _ _ => fun _ _ _ => trivial) (fun _ _ _ _ _ _ _ _ => trivial)
  | none =>
      simp only [Program.bind_assoc]
      refine requireAllowedUser_safe userId requestId _ _ _ (fun _ => rfl) (fun _ _ => trivial)
        (fun _ _ _ => trivial) fun second user _ _ => ?_
      simp only [Program.call_bind]
      refine .call _ _ (fun _ => rfl) (fun _ _ _ => trivial) fun third _ _ _ => ?_
      cases hselected : third.ledger.getActiveKeyForUser user.id with
      | some record =>
          obtain ⟨hm, _, _⟩ := Ledger.getActiveKeyForUser_some _ _ record hselected
          have hrecord := third.ledger.get_of_mem record hm
          simp only [TokenIssueService.cacheKeyRecord_bind]
          refine .call _ _ (fun _ => rfl) ?_ fun fourth _ _ _ => ?_
          · exact fun fourth hfourth _ => described_of_evolves record hrecord hfourth
          · exact .fallible _ _ (fun _ => rfl) (fun _ _ _ => trivial)
              (fun _ _ _ _ _ => fun _ _ _ => trivial) (fun _ _ _ _ _ _ _ _ => trivial)
      | none =>
          simp only [TokenIssueService.issueNewKey, TokenIssueService.cacheKeyRecord_bind,
            saveKey_bind, call_bind]
          refine .call _ _ (fun _ => rfl) (fun _ _ _ => trivial) fun fourth _ _ _ => ?_
          refine .fallible _ _ (fun _ => rfl) (fun _ _ _ => trivial) ?_
            (fun _ _ _ _ _ _ _ _ => trivial)
          intro blob _ fifth _ _
          refine .call _ _ (fun _ => rfl) (fun _ _ _ => trivial) fun sixth _ _ _ => ?_
          refine .call _ _ (fun _ => rfl) ?_ fun seventh _ _ _ => ?_
          · exact fun _ _ _ hdead => absurd rfl hdead
          · let record := issuedRecord deployment job.draw user.id blob start.clock
            have hrecord := Store.Table.get_save_self seventh.ledger record
            refine .call _ _ (fun _ => rfl) ?_ fun _ _ _ _ => fun _ _ _ => trivial
            exact fun eighth heighth _ => described_of_evolves record hrecord heighth

theorem requireKey_race (keyId : String) (rest : VirtualKeyRecord → Service Response)
    (log : List (Answer collaborators)) (world : World)
    (hrest : ∀ log record after, after.ledger.get record.id = some record →
      raceContract.Safe (handle deployment job.draw) job log (rest record) after) :
    raceContract.Safe (handle deployment job.draw) job log
      (VirtualKeyLifecycleService.requireKey keyId >>= rest) world := by
  simp only [VirtualKeyLifecycleService.requireKey, call_bind, Program.call_bind]
  refine .call _ _ (fun _ => rfl) (fun _ _ _ => trivial) fun first _ _ _ => ?_
  cases hget : first.ledger.get keyId with
  | none => exact fun _ _ _ => trivial
  | some record =>
      obtain rfl : record.id = keyId := first.ledger.key_of_get _ _ hget
      exact hrest _ record first hget

-- The dead copy is written, then the cache entry and the proxy's cache are dropped.
theorem retire_race (copy : VirtualKeyRecord) (rest : Unit → Service Response)
    (log : List (Answer collaborators)) (world : World)
    (hold : ∃ old, world.ledger.get old.id = some old ∧ old.Retires copy)
    (hrest : ∀ log after,
      raceContract.Safe (handle deployment job.draw) job log (rest ()) after) :
    raceContract.Safe (handle deployment job.draw) job log
      (@bind Service _ Unit Response (call (.SaveKey copy)) fun _ =>
        VirtualKeyLifecycleService.invalidate copy >>= rest) world := by
  obtain ⟨record, hrecord, hretires⟩ := hold
  simp only [VirtualKeyLifecycleService.invalidate_bind, saveKey_bind]
  refine .call _ _ (fun _ => rfl) ?_ fun first _ _ _ => ?_
  · intro now hevolves _ _
    exact ⟨retires_of_evolves record copy hrecord hretires hevolves, fun _ => ⟨_, rfl⟩⟩
  · refine .call _ _ (fun _ => rfl) (fun _ _ _ => trivial) fun second _ _ _ => ?_
    exact .call _ _ (fun _ => rfl) (fun _ _ _ => trivial) fun third _ _ _ => hrest _ _

theorem program_race (world : World) :
    raceContract.Safe (handle deployment job.draw) job [] (job.request.program deployment)
      world := by
  cases job.request with
  | GetOrCreateKey userId requestId =>
      exact getOrCreateKey_race deployment job userId requestId world
  | Revoke keyId =>
      simp only [Request.program, VirtualKeyLifecycleService.revoke, Program.bind_assoc]
      refine requireKey_race deployment job keyId _ _ _ fun log record found hrecord => ?_
      simp only [call_bind]
      refine .call _ _ (fun _ => rfl) (fun _ _ _ => trivial) fun second hsecond _ _ => ?_
      exact retire_race deployment job (record.revoked second.clock) _ _ _
        (retires_of_evolves record _ hrecord (record.retires_revoked _) hsecond)
        fun _ _ => fun _ _ _ => trivial
  | Disable keyId =>
      simp only [Request.program, VirtualKeyLifecycleService.disable, Program.bind_assoc]
      refine requireKey_race deployment job keyId _ _ _ fun log record found hrecord => ?_
      exact retire_race deployment job record.disabled _ _ _
        ⟨record, hrecord, record.retires_disabled⟩ fun _ _ => fun _ _ _ => trivial
  | Rotate keyId =>
      simp only [Request.program, VirtualKeyLifecycleService.rotate, Program.bind_assoc]
      refine requireKey_race deployment job keyId _ _ _ fun log record found hrecord => ?_
      refine retire_race deployment job record.disabled _ _ _
        ⟨record, hrecord, record.retires_disabled⟩ fun log retired => ?_
      simp only [call_bind, saveKey_bind]
      refine .call _ _ (fun _ => rfl) (fun _ _ _ => trivial) fun _ _ _ _ => ?_
      refine .call _ _ (fun _ => rfl) (fun _ _ _ => trivial) fun _ _ _ _ => ?_
      refine .call _ _ (fun _ => rfl) (fun _ _ _ => trivial) fun _ _ _ _ => ?_
      refine .fallible _ _ (fun _ => rfl) (fun _ _ _ => trivial) ?_
        (fun _ _ _ _ _ _ _ _ => trivial)
      intro blob _ _ _ _
      -- the replacement is active, so nothing is promised about it
      exact .call _ _ (fun _ => rfl) (fun _ _ _ hdead => absurd rfl hdead)
        fun _ _ _ _ => fun _ _ _ => trivial
  | InvalidateUserCache userId =>
      exact .call _ _ (fun _ => rfl) (fun _ _ _ => trivial) fun _ _ _ _ => fun _ _ _ => trivial
  | Provision request =>
      refine .call _ _ (fun _ => rfl) (fun _ _ _ => trivial) fun _ _ _ _ => ?_
      refine .call _ _ (fun _ => rfl) (fun _ _ _ => trivial) fun _ _ _ _ => ?_
      refine .call _ _ (fun _ => rfl) (fun _ _ _ => trivial) fun _ _ _ _ => ?_
      exact .call _ _ (fun _ => rfl) (fun _ _ _ => trivial) fun _ _ _ _ => fun _ _ _ => trivial

end Threads

section Runs

variable (deployment : Deployment) (start : KeyPool)

-- The entry was put by a call whose record had died in the meantime, when no call
-- was left that would drop the user's entry.
def PutWhenDead (events : List KeyEvent) (entry : VirtualKeyCacheEntry) : Prop :=
  ∃ past index rest thread next, events = past ++ .Step index :: rest ∧
    ((keySystem deployment).exec start past).threads[index]? = some thread ∧
    thread.program = .Call (.PutActiveKey entry) next ∧
    (∀ record, ((keySystem deployment).exec start past).shared.ledger.get entry.virtualKeyId =
      some record → record.status ≠ .Active) ∧
    ∀ other ∈ ((keySystem deployment).exec start past).threads, ¬Invalidating entry.userId other

theorem PutWhenDead.append {deployment : Deployment} {start : KeyPool} {events : List KeyEvent}
    {entry : VirtualKeyCacheEntry} (h : PutWhenDead deployment start events entry)
    (event : KeyEvent) : PutWhenDead deployment start (events ++ [event]) entry := by
  obtain ⟨past, index, rest, thread, next, rfl, hrest⟩ := h
  exact ⟨past, index, rest ++ [event], thread, next, by simp, hrest⟩

-- The entry's record is active, or the entry is about to be dropped, or it was put too late.
def Accounted (events : List KeyEvent) (pool : KeyPool) (entry : VirtualKeyCacheEntry) : Prop :=
  ∃ record, pool.shared.ledger.get entry.virtualKeyId = some record ∧
    record.userId = entry.userId ∧
    (record.status = .Active ∨ (∃ thread ∈ pool.threads, Invalidating entry.userId thread) ∨
      PutWhenDead deployment start events entry)

structure RaceInv (events : List KeyEvent) (pool : KeyPool) : Prop where
  here : pool = (keySystem deployment).exec start events
  entries : ∀ entry ∈ pool.shared.cache.rows, Accounted deployment start events pool entry

theorem Touches.evolves {world after : World} {op : Call} (h : Touches world op after)
    (hfresh : SavesFresh world op)
    (hdead : ∀ record, op = .SaveKey record → record.status ≠ .Active →
      ∃ old, world.ledger.get old.id = some old ∧ old.Retires record) :
    Evolves world.ledger.registry after.ledger.registry := by
  cases h with
  | Kept op after hledger hcache hclock hquiet => rw [hledger]
  | Put | Dropped => exact .refl
  | Saved record =>
      by_cases hactive : record.status = .Active
      · exact .single (world.ledger.registry_birth record hactive (hfresh record rfl hactive))
      · obtain ⟨old, hold, hretires⟩ := hdead record rfl hactive
        rw [← hretires.id] at hold
        exact .single (world.ledger.registry_retire old record hold hretires)

-- A call that is about to drop a user's entry stays where it is while others move.
theorem invalidating_set {threads : List KeyThread} {index : Nat} {actor : KeyThread}
    {userId : String} (hi : threads[index]? = some actor) (hactor : ¬Invalidating userId actor)
    (after : KeyThread) (h : ∃ thread ∈ threads, Invalidating userId thread) :
    ∃ thread ∈ threads.set index after, Invalidating userId thread := by
  obtain ⟨thread, hm, hinvalidating⟩ := h
  obtain ⟨other, hother⟩ := List.mem_iff_getElem?.mp hm
  have hne : index ≠ other := by
    rintro rfl
    rw [hi] at hother
    cases hother
    exact hactor hinvalidating
  refine ⟨thread, ?_, hinvalidating⟩
  rw [← List.getElem?_set_ne hne] at hother
  exact List.mem_of_getElem? hother

-- An entry that is accounted for stays so while its record is not touched.
theorem Accounted.keep {deployment : Deployment} {start : KeyPool} {events : List KeyEvent}
    {pool after : KeyPool} {entry : VirtualKeyCacheEntry} (event : KeyEvent)
    (h : Accounted deployment start events pool entry)
    (hget : after.shared.ledger.get entry.virtualKeyId =
      pool.shared.ledger.get entry.virtualKeyId)
    (hthreads : (∃ thread ∈ pool.threads, Invalidating entry.userId thread) →
      ∃ thread ∈ after.threads, Invalidating entry.userId thread) :
    Accounted deployment start (events ++ [event]) after entry := by
  obtain ⟨record, hrecord, huser, hcase⟩ := h
  refine ⟨record, hget.trans hrecord, huser, ?_⟩
  rcases hcase with hactive | hpending | hlate
  · exact Or.inl hactive
  · exact Or.inr (Or.inl (hthreads hpending))
  · exact Or.inr (Or.inr (hlate.append event))

-- The entry of a record that was saved inactive is dropped by the thread's next call.
theorem saved_accounted (events : List KeyEvent) (pool : KeyPool) (index : Nat)
    (thread moved : KeyThread) (record : VirtualKeyRecord) (next : Unit → Service Response)
    (hi : pool.threads[index]? = some thread)
    (hmoved : moved.program = next ())
    (hcheck : raceContract.check thread.request thread.log (.Call (.SaveKey record) next)
      pool.shared)
    (hfresh : SavesFresh pool.shared (.SaveKey record)) {entry : VirtualKeyCacheEntry}
    (haccounted : Accounted deployment start events pool entry)
    (hid : entry.virtualKeyId = record.id) :
    Accounted deployment start (events ++ [.Step index])
      ⟨{ pool.shared with ledger := pool.shared.ledger.save record },
        pool.threads.set index moved⟩ entry := by
  obtain ⟨old, hold, huser, _⟩ := haccounted
  have hdead : record.status ≠ .Active := by
    intro hactive
    rw [hid, hfresh record rfl hactive] at hold
    cases hold
  obtain ⟨⟨known, hknown, hretires⟩, hnext⟩ := hcheck hdead
  rw [hid, hretires.id, hknown] at hold
  cases hold
  have howner : record.userId = entry.userId := hretires.userId.trans huser
  refine ⟨record, ?_, howner, Or.inr (Or.inl ⟨moved, ?_, ?_⟩)⟩
  · rw [hid]
    exact Store.Table.get_save_self pool.shared.ledger record
  · exact List.mem_set (List.getElem?_eq_some_iff.mp hi).1 moved
  · obtain ⟨after, hafter⟩ := hnext ()
    refine ⟨after, ?_⟩
    rw [hmoved, ← howner, ← hafter]

-- An entry is put for a record that is active, or too late unless somebody is to drop it.
theorem put_accounted (events : List KeyEvent) (pool : KeyPool) (index : Nat)
    (thread moved : KeyThread) (entry : VirtualKeyCacheEntry) (next : Unit → Service Response)
    (hinv : RaceInv deployment start events pool) (hi : pool.threads[index]? = some thread)
    (hp : thread.program = .Call (.PutActiveKey entry) next)
    (hcheck : raceContract.check thread.request thread.log (.Call (.PutActiveKey entry) next)
      pool.shared)
    (hstay : (∃ other ∈ pool.threads, Invalidating entry.userId other) →
      ∃ other ∈ pool.threads.set index moved, Invalidating entry.userId other) :
    Accounted deployment start (events ++ [.Step index])
      ⟨{ pool.shared with cache := pool.shared.cache.save entry },
        pool.threads.set index moved⟩ entry := by
  obtain ⟨record, hrecord, huser⟩ := hcheck
  refine ⟨record, hrecord, huser, ?_⟩
  by_cases hactive : record.status = .Active
  · exact Or.inl hactive
  · by_cases hpending : ∃ other ∈ pool.threads, Invalidating entry.userId other
    · exact Or.inr (Or.inl (hstay hpending))
    · -- nobody is left to drop the entry
      refine Or.inr (Or.inr ⟨events, index, [], thread, next, rfl, ?_⟩)
      rw [← hinv.here]
      refine ⟨hi, hp, ?_, fun other hm h => hpending ⟨other, hm, h⟩⟩
      intro found hfound
      rw [hrecord] at hfound
      cases hfound
      exact hactive

theorem step_accounted (events : List KeyEvent) (pool : KeyPool) (index : Nat)
    (thread moved : KeyThread) (world : World) (op : Call) (next : op.Reply → Service Response)
    (hinv : RaceInv deployment start events pool)
    (hi : pool.threads[index]? = some thread) (hp : thread.program = .Call op next)
    (hstep : thread.step (handle deployment thread.request.draw) pool.shared = (moved, world))
    (hcheck : raceContract.check thread.request thread.log (.Call op next) pool.shared)
    (hfresh : SavesFresh pool.shared op) :
    ∀ entry ∈ world.cache.rows, Accounted deployment start (events ++ [.Step index])
      ⟨world, pool.threads.set index moved⟩ entry := by
  intro entry hentry
  have hshared := thread.step_shared (handle deployment thread.request.draw) pool.shared op next hp
  rw [hstep] at hshared
  have htouches := handle_touches deployment thread.request.draw op pool.shared
  rw [← hshared] at htouches
  have hstay : ∀ userId, op ≠ .InvalidateTokenServiceCache userId →
      (∃ other ∈ pool.threads, Invalidating userId other) →
      ∃ other ∈ pool.threads.set index moved, Invalidating userId other := by
    intro userId hop
    apply invalidating_set hi
    rintro ⟨later, hlater⟩
    rw [hp] at hlater
    cases hlater
    exact hop rfl
  cases htouches with
  | Kept op after hledger hcache hclock hquiet =>
      rw [hcache] at hentry
      exact (hinv.entries entry hentry).keep _ (by rw [hledger]) (hstay _ (hquiet _))
  | Dropped op userId hop =>
      obtain ⟨hold, hne⟩ := (Store.Table.mem_erase _ _ _).mp hentry
      refine (hinv.entries entry hold).keep _ rfl (hstay _ ?_)
      rintro rfl
      rcases hop with hop | hop
      · cases hop
      · cases hop
        exact hne rfl
  | Put put =>
      rcases (Store.Table.mem_save _ _ _).mp hentry with rfl | ⟨hold, _⟩
      · exact put_accounted deployment start events pool index thread moved entry next hinv hi hp
          hcheck (hstay _ (by simp))
      · exact (hinv.entries entry hold).keep _ rfl (hstay _ (by simp))
  | Saved record =>
      have haccounted := hinv.entries entry hentry
      by_cases hid : entry.virtualKeyId = record.id
      · have hmoved := thread.step_ok (handle deployment thread.request.draw) pool.shared _
          (.SaveKey record) next () hp rfl
        rw [hstep] at hmoved
        have hprogram : moved.program = next () := by rw [(Prod.mk.inj hmoved).1]
        exact saved_accounted deployment start events pool index thread moved record next hi
          hprogram hcheck hfresh haccounted hid
      · exact haccounted.keep _
          (Store.Table.get_save_of_ne pool.shared.ledger record _ hid) (hstay _ (by simp))

def NextSavesFresh (world : World) : Service Response → Prop
  | .Call op _ => SavesFresh world op
  | _ => True

instance (world : World) : DecidablePred (NextSavesFresh world)
  | .Call op _ => inferInstanceAs (Decidable (SavesFresh world op))
  | .Return _ | .Raise _ => isTrue trivial

-- What is asked of the id generators, at the moment a new record is saved.
def FreshSaves (pool : KeyPool) : KeyEvent → Prop
  | .Step index => ∀ thread ∈ pool.threads[index]?, NextSavesFresh pool.shared thread.program
  | _ => True

instance (pool : KeyPool) : DecidablePred (FreshSaves pool)
  | .Step index => inferInstanceAs (Decidable (∀ thread ∈ pool.threads[index]?,
      NextSavesFresh pool.shared thread.program))
  | .Spawn _ | .Environment _ => isTrue trivial

theorem step_race (events : List KeyEvent) (pool : KeyPool) (event : KeyEvent)
    (hinv : RaceInv deployment start events pool) (hfresh : FreshSaves pool event)
    (hsafe : ∀ thread ∈ pool.threads,
      raceContract.ThreadSafe (keySystem deployment) thread pool.shared) :
    RaceInv deployment start (events ++ [event]) ((keySystem deployment).step pool event) ∧
      raceContract.rely pool.shared ((keySystem deployment).step pool event).shared ∧
      raceContract.Assumed pool event := by
  have hhere : (keySystem deployment).step pool event =
      (keySystem deployment).exec start (events ++ [event]) := by
    simp only [System.exec, exec_append, exec_cons, exec_nil]
    rw [hinv.here]
  cases event with
  | Spawn job =>
      refine ⟨⟨hhere, ?_⟩, .refl, trivial⟩
      intro entry hentry
      refine (hinv.entries entry hentry).keep _ rfl ?_
      rintro ⟨thread, hm, hinvalidating⟩
      exact ⟨thread, List.mem_append_left _ hm, hinvalidating⟩
  | Environment change =>
      have hledger := pool.shared.change_ledger change
      refine ⟨⟨hhere, ?_⟩, ?_, trivial⟩
      · intro entry hentry
        have hget := Store.Table.get_of_mem _ entry hentry
        have hold := pool.shared.change_cache change entry.userId entry hget
        refine (hinv.entries entry (Store.Table.mem_of_get _ _ _ hold)).keep _ ?_ id
        rw [← hledger]
        rfl
      · change Evolves _ (pool.shared.change change).ledger.registry
        rw [hledger]
  | Step index =>
      have hassumed : raceContract.Assumed pool (.Step index : KeyEvent) := by
        intro thread op next hi hp
        have hnext := hfresh thread hi
        rw [hp] at hnext
        exact hnext
      rcases (keySystem deployment).step_cases pool index with hsame | ⟨thread, op, next, hi, hp, hs⟩
      · refine ⟨⟨hhere, ?_⟩, ?_, hassumed⟩
        · rw [hsame]
          exact fun entry hentry => (hinv.entries entry hentry).keep _ rfl id
        · rw [hsame]
          exact .refl
      · have hcheck := (hsafe thread (List.mem_of_getElem? hi)).check trivial
        rw [hp] at hcheck
        have hsaves : SavesFresh pool.shared op := hassumed thread op next hi hp
        rcases hstep : thread.step (handle deployment thread.request.draw) pool.shared with
          ⟨moved, world⟩
        have hs' : (keySystem deployment).step pool (.Step index) =
            ⟨world, pool.threads.set index moved⟩ := by
          rw [hs]
          simp only [keySystem, hstep]
        refine ⟨⟨hhere, ?_⟩, ?_, hassumed⟩
        · rw [hs']
          exact step_accounted deployment start events pool index thread moved world op next hinv
            hi hp hstep hcheck hsaves
        · rw [hs']
          have hshared := thread.step_shared (handle deployment thread.request.draw) pool.shared
            op next hp
          rw [hstep] at hshared
          have htouches := handle_touches deployment thread.request.draw op pool.shared
          rw [← hshared] at htouches
          apply htouches.evolves hsaves
          rintro record rfl hdead
          exact (hcheck hdead).1

-- When no call is in progress, a cached key is active in the ledger, unless its entry
-- was put after the record had died and after the invalidations had run.
theorem cached_key_active_unless_put_late (events : List KeyEvent)
    (hcache : start.shared.cache = .empty) (hthreads : start.threads = [])
    (hfresh : Admissible (keySystem deployment).step FreshSaves start events)
    (hquiescent : Quiescent ((keySystem deployment).exec start events)) :
    ∀ entry ∈ ((keySystem deployment).exec start events).shared.cache.rows,
      ∃ record, ((keySystem deployment).exec start events).shared.ledger.get entry.virtualKeyId =
          some record ∧
        record.userId = entry.userId ∧
        (record.status = .Active ∨ PutWhenDead deployment start events entry) := by
  have hstart : RaceInv deployment start [] start := by
    refine ⟨rfl, ?_⟩
    rw [hcache]
    intro entry hentry
    cases hentry
  have hspawn : ∀ (job : Job) (pool : KeyPool), FreshSaves pool (.Spawn job) →
      raceContract.ThreadSafe (keySystem deployment) ((keySystem deployment).spawn job)
        pool.shared :=
    fun job pool _ => program_race deployment job pool.shared
  obtain ⟨hinv, _⟩ := Contract.exec_safe (RaceInv deployment start) (fun _ _ _ => trivial) hspawn
    hstart (Contract.threadSafe_of_no_threads hthreads) (step_race deployment start) events hfresh
  intro entry hentry
  obtain ⟨record, hrecord, huser, hcase⟩ := hinv.entries entry hentry
  refine ⟨record, hrecord, huser, ?_⟩
  rcases hcase with hactive | ⟨thread, hm, next, hp⟩ | hlate
  · exact Or.inl hactive
  · exact absurd hp (hquiescent thread hm _ _)
  · exact Or.inr hlate

end Runs

-- A rotate in the middle of a call that reuses the rotated key.
def sampleRotation : List KeyEvent :=
  [.Spawn ⟨.GetOrCreateKey "user-1" "request-2", sampleThird⟩,
    .Spawn ⟨.Rotate "key-1", sampleSecond⟩] ++ List.replicate 4 (.Step 0) ++
  List.replicate 2 (.Step 1) ++ List.replicate 2 (.Step 0) ++ List.replicate 8 (.Step 1)

theorem cached_key_active_unless_put_late_sample :
    let pool := (keySystem sampleDeployment).exec samplePool sampleRotation
    ∀ entry ∈ pool.shared.cache.rows, ∃ record,
      pool.shared.ledger.get entry.virtualKeyId = some record ∧ record.userId = entry.userId ∧
        (record.status = .Active ∨
          PutWhenDead sampleDeployment samplePool sampleRotation entry) :=
  cached_key_active_unless_put_late sampleDeployment samplePool sampleRotation rfl rfl
    (by decide) (by decide)

-- A call reads the active key, a revoke runs from start to end, and the call puts the
-- key into the cache.
theorem revoked_key_cached :
    ¬ ∀ (deployment : Deployment) (start : KeyPool) (events : List KeyEvent),
      start.shared.cache = .empty → start.threads = [] →
      Admissible (keySystem deployment).step FreshSaves start events →
      Quiescent ((keySystem deployment).exec start events) →
      ∀ entry ∈ ((keySystem deployment).exec start events).shared.cache.rows,
        epochSeconds ((keySystem deployment).exec start events).shared.clock < entry.ttl →
        ∃ record, ((keySystem deployment).exec start events).shared.ledger.get
          entry.virtualKeyId = some record ∧ record.status = .Active := by
  intro h
  let events : List KeyEvent :=
    [.Spawn ⟨.GetOrCreateKey "user-1" "request-2", sampleSecond⟩,
      .Spawn ⟨.Revoke "key-1", sampleThird⟩] ++ List.replicate 4 (.Step 0) ++
    List.replicate 5 (.Step 1) ++ List.replicate 2 (.Step 0)
  obtain ⟨record, hrecord, hactive⟩ := h sampleDeployment samplePool events rfl rfl (by decide)
    (by decide) (sampleDeployment.tokenIssueService.cacheEntry sampleRecord World.initial.clock)
    (by decide) (by decide)
  have hrevoked : ((keySystem sampleDeployment).exec samplePool events).shared.ledger.get "key-1" =
      some (sampleRecord.revoked World.initial.clock) := by
    decide
  change ((keySystem sampleDeployment).exec samplePool events).shared.ledger.get "key-1" = _
    at hrecord
  rw [hrevoked] at hrecord
  cases hrecord
  exact absurd hactive (by decide)

end ClaudeCodeProxy
