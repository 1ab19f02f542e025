import ClaudeCodeProxy.TokenService.CacheCoherence
import ClaudeCodeProxy.TokenService.Handler
import ClaudeCodeProxy.Services.Samples

-- The Token Service while its cache is out of order.

namespace ClaudeCodeProxy

open Effects Python

-- What the two operations of the cache raise; a request calls each at most once.
structure CacheFaults where
  getActiveKey : Option Failure := none
  putActiveKey : Option Failure := none

def handleOutage (deployment : Deployment) (draw : Draw) (faults : CacheFaults) :
    Handler collaborators Failure World := fun op world =>
  match op, faults with
  | .GetActiveKey _ _, ⟨some error, _⟩ => (.error error, world)
  | .PutActiveKey _, ⟨_, some error⟩ => (.error error, world)
  | op, _ => handle deployment draw op world

def runDuringOutage (deployment : Deployment) (draw : Draw) (faults : CacheFaults) (world : World)
    (userId requestId : String) : Except Failure TokenIssueResult × World :=
  (deployment.tokenIssueService.getOrCreateKey userId requestId).run
    (handleOutage deployment draw faults) world

-- The handler in front of it.
def handleDuringOutage (deployment : Deployment) (draw : Draw) (faults : CacheFaults)
    (world : World) (generated : String) (event : Value) :
    Except Exception TokenServiceHandler.Response :=
  TokenServiceHandler.handleGetOrCreateKey world.userIdForUsername
    (fun userId requestId =>
      (runDuringOutage deployment draw faults world userId requestId).1)
    generated event

def World.withoutCache (world : World) : World := { world with cache := .empty }

section Runs

variable (deployment : Deployment) (draw : Draw) (world : World) (userId requestId : String)

-- What a request does behind the cache, if putting the entry raises `fault`.
def fallback (fault : Option Failure) : Except Failure TokenIssueResult × Ledger :=
  match world.users.get userId with
  | none => (.error (.ServiceError (userNotRegisteredError requestId)), world.ledger)
  | some user =>
      if !user.proxyAccessEnabled || !user.isActive then
        (.error (.ServiceError (TokenIssueService.accessDenied requestId)), world.ledger)
      else
        match world.ledger.getActiveKeyForUser userId with
        | some record =>
            match fault with
            | some error => (.error error, world.ledger)
            | none =>
                ((deployment.encryption.decrypt record.encryptedKeyBlob).map fun virtualKey =>
                  reusedResult userId virtualKey record, world.ledger)
        | none =>
            match deployment.encryption.encrypt draw.virtualKey with
            | .error error => (.error error, world.ledger)
            | .ok blob =>
                let ledger := world.ledger.save
                  (issuedRecord deployment draw userId blob world.clock)
                match fault with
                | some error => (.error error, ledger)
                | none => (.ok (issuedResult draw userId), ledger)

-- The answer of a cache entry.
def answerFrom (entry : VirtualKeyCacheEntry) : Except Failure TokenIssueResult :=
  (deployment.encryption.decrypt entry.encryptedKeyRef).map fun virtualKey =>
    cachedResult userId virtualKey entry

theorem runDuringOutage_eq (faults : CacheFaults) :
    ((runDuringOutage deployment draw faults world userId requestId).1,
      (runDuringOutage deployment draw faults world userId requestId).2.ledger) =
      match faults.getActiveKey with
      | some error => (.error error, world.ledger)
      | none =>
          match world.cache.getActiveKey userId world.clock with
          | some entry => (answerFrom deployment userId entry, world.ledger)
          | none => fallback deployment draw world userId requestId faults.putActiveKey := by
  obtain ⟨getFault, putFault⟩ := faults
  cases getFault with
  | some error => rfl
  | none =>
  simp only [runDuringOutage, TokenIssueService.getOrCreateKey, call_bind, Program.run_call,
    handleOutage, handle]
  cases hhit : world.cache.getActiveKey userId world.clock with
  | some entry =>
      simp only [Program.run_call, handleOutage, handle, answerFrom]
      cases deployment.encryption.decrypt entry.encryptedKeyRef <;> rfl
  | none =>
      simp only [TokenIssueService.requireAllowedUser_bind, Program.run_call, handleOutage, handle,
        fallback]
      cases huser : world.users.get userId with
      | none => rfl
      | some user =>
          obtain rfl : user.id = userId := world.users.key_of_get userId user huser
          by_cases hdenied : (!user.proxyAccessEnabled || !user.isActive) = true
          · simp only [if_pos hdenied, Program.run_raise]
          · simp only [if_neg hdenied, Program.run_call, handleOutage, handle]
            cases hrecord : world.ledger.getActiveKeyForUser user.id with
            | some record =>
                simp only [TokenIssueService.cacheKeyRecord_bind, Program.run_call]
                cases putFault with
                | some error => rfl
                | none =>
                    simp only [handleOutage, handle]
                    cases deployment.encryption.decrypt record.encryptedKeyBlob <;> rfl
            | none =>
                simp only [TokenIssueService.issueNewKey, TokenIssueService.cacheKeyRecord_bind,
                  saveKey_bind, call_bind, Program.run_call, handleOutage, handle]
                cases deployment.encryption.encrypt draw.virtualKey with
                | error error => rfl
                | ok blob => cases putFault <;> rfl

-- The exception in which the request ends although the cache is empty and in order.
inductive FailsAnyway : Failure → Prop
  | NotRegistered (huser : world.users.get userId = none) :
      FailsAnyway (.ServiceError (userNotRegisteredError requestId))
  | Denied (user : UserRecord) (huser : world.users.get userId = some user)
      (hdenied : ¬world.Eligible userId) :
      FailsAnyway (.ServiceError (TokenIssueService.accessDenied requestId))
  | Undecryptable (record : VirtualKeyRecord) (error : Failure)
      (heligible : world.Eligible userId)
      (hrecord : world.ledger.getActiveKeyForUser userId = some record)
      (hdecrypt : deployment.encryption.decrypt record.encryptedKeyBlob = .error error) :
      FailsAnyway error
  | Unencryptable (error : Failure) (heligible : world.Eligible userId)
      (hnone : world.ledger.getActiveKeyForUser userId = none)
      (hencrypt : deployment.encryption.encrypt draw.virtualKey = .error error) :
      FailsAnyway error

-- The entry says what the ledger would.
def EntryAgrees (entry : VirtualKeyCacheEntry) : Prop :=
  match deployment.encryption.decrypt entry.encryptedKeyRef with
  | .error error => FailsAnyway deployment draw world userId requestId error
  | .ok virtualKey => world.Eligible userId ∧
      ∃ record, world.ledger.getActiveKeyForUser userId = some record ∧
        deployment.encryption.decrypt record.encryptedKeyBlob = .ok virtualKey ∧
        record.id = entry.virtualKeyId ∧ record.keyPrefix = entry.keyPrefix

-- The entry is never put, or the request has the same exception ahead of it.
def PutHarmless (error : Failure) : Prop :=
  world.Eligible userId →
    match world.ledger.getActiveKeyForUser userId with
    | some record => deployment.encryption.decrypt record.encryptedKeyBlob = .error error
    | none => ∃ other, deployment.encryption.encrypt draw.virtualKey = .error other

def Undisturbed (faults : CacheFaults) : Prop :=
  match faults.getActiveKey with
  | some error => FailsAnyway deployment draw world userId requestId error
  | none =>
      match world.cache.getActiveKey userId world.clock with
      | some entry => EntryAgrees deployment draw world userId requestId entry
      | none => ∀ error, faults.putActiveKey = some error →
          PutHarmless deployment draw world userId error

variable {deployment draw world userId requestId}

theorem fallback_eligible (fault : Option Failure) (h : world.Eligible userId) :
    fallback deployment draw world userId requestId fault =
      match world.ledger.getActiveKeyForUser userId with
      | some record =>
          match fault with
          | some error => (.error error, world.ledger)
          | none =>
              ((deployment.encryption.decrypt record.encryptedKeyBlob).map fun virtualKey =>
                reusedResult userId virtualKey record, world.ledger)
      | none =>
          match deployment.encryption.encrypt draw.virtualKey with
          | .error error => (.error error, world.ledger)
          | .ok blob =>
              let ledger := world.ledger.save
                (issuedRecord deployment draw userId blob world.clock)
              match fault with
              | some error => (.error error, ledger)
              | none => (.ok (issuedResult draw userId), ledger) := by
  obtain ⟨user, huser, hactive, henabled⟩ := h
  simp only [fallback, huser, hactive, henabled, Bool.not_true, Bool.or_self, Bool.false_eq_true,
    ite_false]

theorem shut_of_ineligible {user : UserRecord} (huser : world.users.get userId = some user)
    (h : ¬world.Eligible userId) : (!user.proxyAccessEnabled || !user.isActive) = true := by
  rw [world.eligible_iff_of_get huser] at h
  exact not_not.mp h

theorem fallback_ineligible (h : ¬world.Eligible userId) :
    ∃ error, FailsAnyway deployment draw world userId requestId error ∧
      ∀ fault, fallback deployment draw world userId requestId fault =
        (.error error, world.ledger) := by
  cases huser : world.users.get userId with
  | none =>
      refine ⟨_, .NotRegistered huser, fun fault => ?_⟩
      simp only [fallback, huser]
  | some user =>
      refine ⟨_, .Denied user huser h, fun fault => ?_⟩
      simp only [fallback, huser, shut_of_ineligible huser h, ite_true]

theorem FailsAnyway.fallback {error : Failure}
    (h : FailsAnyway deployment draw world userId requestId error) :
    ClaudeCodeProxy.fallback deployment draw world userId requestId none =
      (.error error, world.ledger) := by
  cases h with
  | NotRegistered huser => simp only [ClaudeCodeProxy.fallback, huser]
  | Denied user huser hdenied =>
      simp only [ClaudeCodeProxy.fallback, huser, shut_of_ineligible huser hdenied, ite_true]
  | Undecryptable record error heligible hrecord hdecrypt =>
      simp only [fallback_eligible none heligible, hrecord, hdecrypt]
      rfl
  | Unencryptable error heligible hnone hencrypt =>
      simp only [fallback_eligible none heligible, hnone, hencrypt]

-- The three ends of a request behind the cache.
inductive FallbackRun (deployment : Deployment) (draw : Draw) (world : World)
    (userId requestId : String) : Except Failure TokenIssueResult × Ledger → Prop
  | Failed (error : Failure) (hfails : FailsAnyway deployment draw world userId requestId error) :
      FallbackRun deployment draw world userId requestId (.error error, world.ledger)
  | Reused (record : VirtualKeyRecord) (virtualKey : String) (heligible : world.Eligible userId)
      (hrecord : world.ledger.getActiveKeyForUser userId = some record)
      (hdecrypt : deployment.encryption.decrypt record.encryptedKeyBlob = .ok virtualKey) :
      FallbackRun deployment draw world userId requestId
        (.ok (reusedResult userId virtualKey record), world.ledger)
  | Issued (blob : String) (heligible : world.Eligible userId)
      (hnone : world.ledger.getActiveKeyForUser userId = none)
      (hencrypt : deployment.encryption.encrypt draw.virtualKey = .ok blob) :
      FallbackRun deployment draw world userId requestId
        (.ok (issuedResult draw userId),
          world.ledger.save (issuedRecord deployment draw userId blob world.clock))

theorem fallback_run :
    FallbackRun deployment draw world userId requestId
      (fallback deployment draw world userId requestId none) := by
  by_cases heligible : world.Eligible userId
  · cases hrecord : world.ledger.getActiveKeyForUser userId with
    | some record =>
        cases hdecrypt : deployment.encryption.decrypt record.encryptedKeyBlob with
        | ok virtualKey =>
            simp only [fallback_eligible none heligible, hrecord, hdecrypt]
            exact .Reused record virtualKey heligible hrecord hdecrypt
        | error error =>
            simp only [fallback_eligible none heligible, hrecord, hdecrypt]
            exact .Failed error (.Undecryptable record error heligible hrecord hdecrypt)
    | none =>
        cases hencrypt : deployment.encryption.encrypt draw.virtualKey with
        | ok blob =>
            simp only [fallback_eligible none heligible, hrecord, hencrypt]
            exact .Issued blob heligible hrecord hencrypt
        | error error =>
            simp only [fallback_eligible none heligible, hrecord, hencrypt]
            exact .Failed error (.Unencryptable error heligible hrecord hencrypt)
  · obtain ⟨error, hfails, hrun⟩ := fallback_ineligible heligible
    rw [hrun none]
    exact .Failed error hfails

-- What a caller and the ledger see of a request.
def seen (run : Except Failure TokenIssueResult × Ledger) : Except Failure KeyView × Ledger :=
  (run.1.map TokenIssueResult.view, run.2)

theorem seen_error_iff {error : Failure} :
    seen (.error error, world.ledger) =
        seen (fallback deployment draw world userId requestId none) ↔
      FailsAnyway deployment draw world userId requestId error := by
  constructor
  · intro h
    have hrun := @fallback_run deployment draw world userId requestId
    generalize fallback deployment draw world userId requestId none = run at h hrun
    cases hrun with
    | Failed other hfails =>
        cases h
        exact hfails
    | Reused record virtualKey heligible hrecord hdecrypt => cases h
    | Issued blob heligible hnone hencrypt => cases h
  · intro hfails
    rw [hfails.fallback]

theorem seen_entry_iff {entry : VirtualKeyCacheEntry}
    (hhit : world.cache.getActiveKey userId world.clock = some entry) :
    seen (answerFrom deployment userId entry, world.ledger) =
        seen (fallback deployment draw world userId requestId none) ↔
      EntryAgrees deployment draw world userId requestId entry := by
  have hactive := ((world.cache.getActiveKey_some_iff _ _ _).mp hhit).2.2
  unfold answerFrom EntryAgrees
  cases hdecrypt : deployment.encryption.decrypt entry.encryptedKeyRef with
  | error error => exact seen_error_iff
  | ok virtualKey =>
      constructor
      · intro h
        have hrun := @fallback_run deployment draw world userId requestId
        generalize fallback deployment draw world userId requestId none = run at h hrun
        cases hrun with
        | Failed error hfails => cases h
        | Reused record virtualKey' heligible hrecord hdecrypt' =>
            have hview := Except.ok.inj (congrArg Prod.fst h)
            simp only [TokenIssueResult.view, cachedResult, reusedResult, KeyView.mk.injEq] at hview
            obtain ⟨rfl, -, hid, hprefix, -⟩ := hview
            exact ⟨heligible, record, hrecord, hdecrypt', hid.symm, hprefix.symm⟩
        | Issued blob heligible hnone hencrypt =>
            have hledger : world.ledger = world.ledger.save
                (issuedRecord deployment draw userId blob world.clock) := congrArg Prod.snd h
            have hsaved := world.ledger.getActiveKeyForUser_save_of_none
              (issuedRecord deployment draw userId blob world.clock) rfl hnone
            rw [← hledger] at hsaved
            exact absurd (hsaved.symm.trans hnone) (Option.some_ne_none _)
      · rintro ⟨heligible, record, hrecord, hdecrypt', hid, hprefix⟩
        have hstatus := (world.ledger.getActiveKeyForUser_some _ _ hrecord).2.2
        simp only [fallback_eligible none heligible, hrecord, hdecrypt', seen]
        simp [Except.map, TokenIssueResult.view, cachedResult, reusedResult, hid, hprefix, hstatus,
          hactive]

theorem seen_put_iff {error : Failure} :
    seen (fallback deployment draw world userId requestId (some error)) =
        seen (fallback deployment draw world userId requestId none) ↔
      PutHarmless deployment draw world userId error := by
  by_cases heligible : world.Eligible userId
  · simp only [PutHarmless, heligible, true_imp_iff, fallback_eligible _ heligible]
    cases world.ledger.getActiveKeyForUser userId with
    | some record =>
        cases hdecrypt : deployment.encryption.decrypt record.encryptedKeyBlob with
        | ok virtualKey => simp [seen, Except.map, hdecrypt]
        | error other => simp [seen, Except.map, hdecrypt, eq_comm]
    | none =>
        cases deployment.encryption.encrypt draw.virtualKey with
        | ok blob => simp [seen, Except.map]
        | error other => simp
  · obtain ⟨other, -, hrun⟩ := @fallback_ineligible deployment draw world userId requestId heligible
    rw [hrun, hrun]
    exact ⟨fun _ hcontra => absurd hcontra heligible, fun _ => rfl⟩

theorem handleOutage_none : handleOutage deployment draw {} = handle deployment draw := by
  funext op world
  cases op <;> rfl

-- With an empty cache in order, only what is behind the cache counts.
theorem runGetOrCreateKey_withoutCache :
    ((runGetOrCreateKey deployment draw world.withoutCache userId requestId).1,
      (runGetOrCreateKey deployment draw world.withoutCache userId requestId).2.ledger) =
      fallback deployment draw world userId requestId none := by
  have hrun := runDuringOutage_eq deployment draw world.withoutCache userId requestId {}
  rw [runDuringOutage, handleOutage_none] at hrun
  exact hrun

theorem seen_outage_iff {faults : CacheFaults} :
    seen ((runDuringOutage deployment draw faults world userId requestId).1,
        (runDuringOutage deployment draw faults world userId requestId).2.ledger) =
        seen (fallback deployment draw world userId requestId none) ↔
      Undisturbed deployment draw world userId requestId faults := by
  rw [runDuringOutage_eq, Undisturbed]
  cases faults.getActiveKey with
  | some error => exact seen_error_iff
  | none =>
      cases hhit : world.cache.getActiveKey userId world.clock with
      | some entry => exact seen_entry_iff hhit
      | none =>
          cases faults.putActiveKey with
          | none => simp
          | some error => simp [seen_put_iff]

end Runs

-- The request is answered, and the ledger changed, as if the cache were empty and in order,
-- and the handler blames nothing on itself that it would not otherwise.
structure OutageInvisible (deployment : Deployment) (draw : Draw) (world : World)
    (userId requestId : String) (faults : CacheFaults) : Prop where
  outcome : (runDuringOutage deployment draw faults world userId requestId).1.map
      TokenIssueResult.view =
    (runGetOrCreateKey deployment draw world.withoutCache userId requestId).1.map
      TokenIssueResult.view
  ledger : (runDuringOutage deployment draw faults world userId requestId).2.ledger =
    (runGetOrCreateKey deployment draw world.withoutCache userId requestId).2.ledger
  handler : ∀ event generated username,
    TokenServiceHandler.resolveRequestId event generated = .ok requestId →
    extractUsernameFromEvent event = .ok username →
    world.userIdForUsername username = some userId →
    (handleDuringOutage deployment draw faults world generated event).map
        TokenServiceHandler.Response.statusCode = .ok 500 →
    (handleDuringOutage deployment draw {} world.withoutCache generated event).map
        TokenServiceHandler.Response.statusCode = .ok 500

-- The payload holds nothing of a key that its view does not.
theorem TokenServiceHandler.respond_congr {requestId : String}
    {left right : Except Failure TokenIssueResult}
    (h : left.map TokenIssueResult.view = right.map TokenIssueResult.view) :
    respond requestId left = respond requestId right := by
  cases left with
  | error error =>
      cases right with
      | error other =>
          cases h
          rfl
      | ok result => cases h
  | ok result =>
      cases right with
      | error error => cases h
      | ok other =>
          simp only [Except.map, Except.ok.injEq, TokenIssueResult.view, KeyView.mk.injEq] at h
          obtain ⟨hkey, huser, hid, hprefix, -⟩ := h
          simp only [respond, keyPayload, hkey, huser, hid, hprefix]

theorem handleDuringOutage_eq (deployment : Deployment) (draw : Draw) (faults : CacheFaults)
    (world : World) {userId requestId generated username : String} {event : Value}
    (hid : TokenServiceHandler.resolveRequestId event generated = .ok requestId)
    (hname : extractUsernameFromEvent event = .ok username)
    (hmapped : world.userIdForUsername username = some userId) :
    handleDuringOutage deployment draw faults world generated event =
      .ok (TokenServiceHandler.respond requestId
        (runDuringOutage deployment draw faults world userId requestId).1) := by
  simp only [handleDuringOutage, TokenServiceHandler.handleGetOrCreateKey,
    TokenServiceHandler.requestKey, hid, hname, bind, Except.bind, hmapped]
  rfl

-- The handler sees the outage only where its caller would.
theorem OutageInvisible.of_seen {deployment : Deployment} {draw : Draw} {world : World}
    {userId requestId : String} {faults : CacheFaults}
    (h : seen ((runDuringOutage deployment draw faults world userId requestId).1,
        (runDuringOutage deployment draw faults world userId requestId).2.ledger) =
      seen ((runGetOrCreateKey deployment draw world.withoutCache userId requestId).1,
        (runGetOrCreateKey deployment draw world.withoutCache userId requestId).2.ledger)) :
    OutageInvisible deployment draw world userId requestId faults where
  outcome := congrArg Prod.fst h
  ledger := congrArg Prod.snd h
  handler event generated username hid hname hmapped hstatus := by
    have hrespond := @TokenServiceHandler.respond_congr requestId _ _ (congrArg Prod.fst h)
    rw [handleDuringOutage_eq deployment draw faults world hid hname hmapped, hrespond] at hstatus
    rw [handleDuringOutage_eq deployment draw {} world.withoutCache hid hname hmapped,
      runDuringOutage, handleOutage_none]
    exact hstatus

theorem outage_invisible_iff (deployment : Deployment) (draw : Draw) (world : World)
    (userId requestId : String) (faults : CacheFaults) :
    OutageInvisible deployment draw world userId requestId faults ↔
      Undisturbed deployment draw world userId requestId faults := by
  rw [← seen_outage_iff]
  constructor
  · intro h
    rw [← runGetOrCreateKey_withoutCache]
    exact Prod.ext h.outcome h.ledger
  · intro h
    rw [← runGetOrCreateKey_withoutCache] at h
    exact .of_seen h

def sampleProvisioned : World := runActions sampleDeployment .initial [
  .Invoke (sampleProvision true) sampleFirst]

def sampleKeyEvent : Value := .Mapping [("requestContext", .Mapping [
  ("requestId", .Str "request-1"),
  ("identity", .Mapping [("userArn", .Str "arn:aws:sts::123456789012:assumed-role/sso/alice")])])]

-- The first key is in the ledger when the put raises, and nobody gets it.
theorem put_outage_visible :
    ¬ ∀ (deployment : Deployment) (draw : Draw) (world : World) (userId requestId : String)
        (faults : CacheFaults), OutageInvisible deployment draw world userId requestId faults := by
  intro h
  have hout := h sampleDeployment sampleFirst sampleProvisioned "user-1" "request-1"
    { putActiveKey := some (.Raised "ConnectionError") }
  have hfailed : (runDuringOutage sampleDeployment sampleFirst
      { putActiveKey := some (.Raised "ConnectionError") } sampleProvisioned "user-1"
      "request-1").1 = .error (.Raised "ConnectionError") := by rfl
  have hworks : (runGetOrCreateKey sampleDeployment sampleFirst sampleProvisioned.withoutCache
      "user-1" "request-1").1 = .ok (issuedResult sampleFirst "user-1") := by rfl
  have hsame := hout.outcome
  rw [hfailed, hworks] at hsame
  cases hsame

-- A lookup that raises makes the handler answer 500.
example : (handleDuringOutage sampleDeployment sampleFirst
    { getActiveKey := some (.Raised "ConnectionError") } sampleIssued "" sampleKeyEvent).map
      TokenServiceHandler.Response.statusCode = .ok 500 := by decide

end ClaudeCodeProxy
