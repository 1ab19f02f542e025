import ClaudeCodeProxy.Proxy.Lemmas
import ClaudeCodeProxy.Services.Freshness
import ClaudeCodeProxy.Services.Samples

namespace ClaudeCodeProxy

open Effects

-- A successful revoke, disable or rotate leaves the key it names dead.
theorem serve_dead (deployment : Deployment) (draw : Draw) (world : World) (request : Request)
    (keyId : String) (record : VirtualKeyRecord) (hnamed : request.namedKey = some keyId)
    (hget : world.ledger.get keyId = some record) (hfresh : FreshIds world (.Invoke request draw)) :
    ∃ later, (request.serve deployment draw world).2.ledger.get keyId = some later ∧
      later.content = record.content ∧ later.status ≠ .Active := by
  obtain rfl : record.id = keyId := world.ledger.key_of_get _ _ hget
  have hretired : ∀ copy, record.Retires copy →
      (world.retire copy).ledger.get record.id = some copy := by
    intro copy hretires
    rw [← hretires.id]
    exact Store.Table.get_save_self world.ledger copy
  cases request with
  | GetOrCreateKey | InvalidateUserCache | Provision => cases hnamed
  | Revoke keyId =>
      cases hnamed
      rw [serve_revoke, hget]
      have hretires := record.retires_revoked world.clock
      exact ⟨_, hretired _ hretires, hretires.content, hretires.dead⟩
  | Disable keyId =>
      cases hnamed
      rw [serve_disable, hget]
      have hretires := record.retires_disabled
      exact ⟨_, hretired _ hretires, hretires.content, hretires.dead⟩
  | Rotate keyId =>
      cases hnamed
      have hretires := record.retires_disabled
      rw [serve_rotate, hget]
      cases hencrypt : deployment.encryption.encrypt draw.virtualKey with
      | error error => exact ⟨_, hretired _ hretires, hretires.content, hretires.dead⟩
      | ok blob =>
          refine ⟨record.disabled, ?_, hretires.content, hretires.dead⟩
          have hne : record.id ≠ draw.keyId := by
            intro h
            have hnone : world.ledger.get draw.keyId = none := hfresh
            rw [← h, hget] at hnone
            cases hnone
          have hkept := Store.Table.get_save_of_ne (world.ledger.save record.disabled)
            (issuedRecord deployment draw record.userId blob world.clock) record.id hne
          exact hkept.trans (hretired _ hretires)

-- Once the record of a presented key was the argument of a revoke, disable or rotate,
-- the proxy refuses the key in every later state and the record is never active again.
-- The proxy looks a key up without the spaces around it, hence `Text.strip`.
theorem retired_key_stays_dead (deployment : Deployment) (start : World)
    (past later : List Action) (request : Request) (draw : Draw)
    (keyId virtualKey requestId : String) (record : VirtualKeyRecord)
    (hhashes : start.ledger.DistinctHashes)
    (hfresh : Admissible (act deployment) (FreshDraws deployment) start
      (past ++ .Invoke request draw :: later))
    (hget : (runActions deployment start past).ledger.get keyId = some record)
    (hkey : record.keyHash = deployment.hashVirtualKey (Text.strip virtualKey))
    (hnamed : request.namedKey = some keyId) :
    let final := runActions deployment start (past ++ .Invoke request draw :: later)
    (∃ error, authenticate deployment final (some ("Bearer " ++ virtualKey)) requestId =
        .error (.ServiceError error) ∧ error.code = .AuthenticationFailed ∧
          error.statusCode = 401) ∧
      ∃ dead, final.ledger.get keyId = some dead ∧ dead.keyHash = record.keyHash ∧
        dead.status ≠ .Active := by
  intro final
  have hids := hfresh.mono fun _ _ h => h.freshIds
  rw [admissible_append] at hids
  obtain ⟨retired, hretired, hcontent, hstatus⟩ :=
    serve_dead deployment draw _ request keyId record hnamed hget hids.2.1
  have hevolves := run_evolves deployment _ later hids.2.2
  obtain ⟨dead, hdead, hcontent', hstatus'⟩ :=
    Ledger.dead_of_evolves hevolves keyId retired hretired hstatus
  have hfinal : final = runActions deployment
      (act deployment (runActions deployment start past) (.Invoke request draw)) later := by
    simp [final, runActions]
  have hhash : dead.keyHash = record.keyHash :=
    congrArg KeyContent.keyHash (hcontent'.trans hcontent)
  rw [← hfinal] at hdead
  have hdistinct : final.ledger.DistinctHashes :=
    run_distinctHashes deployment start _ hhashes hfresh
  have hlookup : final.ledger.getKeyByHash (deployment.hashVirtualKey (Text.strip virtualKey)) =
      some dead := by
    rw [← hkey, ← hhash]
    exact final.ledger.getKeyByHash_of_mem hdistinct dead (final.ledger.mem_of_get _ _ hdead)
  obtain ⟨reason, hreject⟩ := authenticate_rejects deployment final virtualKey requestId (by
    intro found hfound
    rw [hlookup] at hfound
    cases hfound
    exact hstatus')
  exact ⟨⟨_, hreject, rfl, rfl⟩, dead, hdead, hhash, hstatus'⟩

-- A key is issued, revoked, disabled, and a new one asked for.
theorem retired_key_stays_dead_sample :
    let final := runActions sampleDeployment sampleIssued
      ([] ++ .Invoke (.Revoke "key-1") sampleFirst ::
        [.Invoke (.Disable "key-1") sampleFirst,
          .Invoke (.GetOrCreateKey "user-1" "request-2") sampleSecond])
    (∃ error, authenticate sampleDeployment final (some ("Bearer " ++ "vk_first")) "request-3" =
        .error (.ServiceError error) ∧ error.code = .AuthenticationFailed ∧
          error.statusCode = 401) ∧
      ∃ dead, final.ledger.get "key-1" = some dead ∧ dead.keyHash = sampleRecord.keyHash ∧
        dead.status ≠ .Active :=
  retired_key_stays_dead sampleDeployment sampleIssued []
    [.Invoke (.Disable "key-1") sampleFirst,
      .Invoke (.GetOrCreateKey "user-1" "request-2") sampleSecond]
    (.Revoke "key-1") sampleFirst "key-1" "vk_first" "request-3" sampleRecord
    (by decide) (by decide) (by decide) (by decide) (by decide)

-- What an action leaves under the id of a record, when it draws another id.
theorem act_get (deployment : Deployment) (world : World) (action : Action) (id : String)
    (record : VirtualKeyRecord) (hget : world.ledger.get id = some record)
    (hdraw : action.Draws fun draw => draw.keyId ≠ id) :
    ∃ after, (act deployment world action).ledger.get id = some after ∧
      (after = record ∨ ∃ request draw, action = .Invoke request draw ∧
        Retirement world.clock record request after) := by
  have hacted := act_acted deployment world action
  generalize act deployment world action = acted at hacted ⊢
  cases hacted with
  | Advanced microseconds => exact ⟨record, hget, Or.inl rfl⟩
  | Invoked request draw acted hserved =>
      have hissued : ∀ (ledger : Ledger) userId blob, id ≠ draw.keyId →
          Store.Table.get (ledger.save (issuedRecord deployment draw userId blob world.clock)) id =
            ledger.get id :=
        fun ledger userId blob hne => Store.Table.get_save_of_ne ledger
          (issuedRecord deployment draw userId blob world.clock) id hne
      have hretire : ∀ other copy, world.ledger.get other.id = some other →
          Retirement world.clock other request copy →
          ∃ after, (world.ledger.save copy).get id = some after ∧
            (after = record ∨ Retirement world.clock record request after) := by
        intro other copy hother hretired
        have hcopy : copy.id = other.id := hretired.retires.id
        by_cases hid : id = other.id
        · subst hid
          rw [hother] at hget
          cases hget
          have hself := Store.Table.get_save_self world.ledger copy
          rw [hcopy] at hself
          exact ⟨copy, hself, Or.inr hretired⟩
        · rw [← hcopy] at hid
          exact ⟨record, (Store.Table.get_save_of_ne world.ledger copy id hid).trans hget,
            Or.inl rfl⟩
      cases hserved with
      | Nothing | Filled | Dropped | Provisioned => exact ⟨record, hget, Or.inl rfl⟩
      | Issued userId requestId blob heligible hnone hencrypt =>
          exact ⟨record, (hissued _ userId blob (Ne.symm hdraw)).trans hget, Or.inl rfl⟩
      | Retired request other copy hother hretired =>
          obtain ⟨after, hafter, hcase⟩ := hretire other copy hother hretired
          exact ⟨after, hafter, hcase.imp_right fun h => ⟨request, draw, rfl, h⟩⟩
      | Replaced other blob hother hencrypt =>
          obtain ⟨after, hafter, hcase⟩ := hretire other _ hother .Rotate
          exact ⟨after, (hissued _ other.userId blob (Ne.symm hdraw)).trans hafter,
            hcase.imp_right fun h => ⟨_, draw, rfl, h⟩⟩

-- A revoked record is never active again, is still revoked as long as no disable or
-- rotate names it, and keeps its revocation time as long as no further revoke does.
theorem revoked_record_kept (deployment : Deployment) (start : World) (actions : List Action)
    (keyId : String) (record : VirtualKeyRecord)
    (hget : start.ledger.get keyId = some record) (hrevoked : record.status = .Revoked)
    (hdraws : ∀ action ∈ actions, action.Draws fun draw => draw.keyId ≠ keyId) :
    ∃ later, (runActions deployment start actions).ledger.get keyId = some later ∧
      later.status ≠ .Active ∧
      ((∀ draw, .Invoke (.Disable keyId) draw ∉ actions ∧ .Invoke (.Rotate keyId) draw ∉ actions) →
        later.status = .Revoked) ∧
      ((∀ draw, .Invoke (.Revoke keyId) draw ∉ actions) → later.revokedAt = record.revokedAt) := by
  obtain rfl : record.id = keyId := start.ledger.key_of_get _ _ hget
  induction actions using List.reverseRecOn with
  | nil => exact ⟨record, hget, by simp [hrevoked], fun _ => hrevoked, fun _ => rfl⟩
  | append_singleton past action ih =>
      have hpast : ∀ other ∈ past, other ∈ past ++ [action] := fun other hm =>
        List.mem_append_left _ hm
      obtain ⟨middle, hmiddle, hdead, hstatus, htime⟩ :=
        ih fun other hm => hdraws other (hpast other hm)
      have hdraw := hdraws action (by simp)
      obtain ⟨after, hafter, hcase⟩ :=
        act_get deployment _ action record.id middle hmiddle hdraw
      have hid : middle.id = record.id := Store.Table.key_of_get _ _ _ hmiddle
      have hstatus' : (∀ draw, .Invoke (.Disable record.id) draw ∉ past ++ [action] ∧
          .Invoke (.Rotate record.id) draw ∉ past ++ [action]) → middle.status = .Revoked :=
        fun h => hstatus fun draw =>
          ⟨fun hm => (h draw).1 (hpast _ hm), fun hm => (h draw).2 (hpast _ hm)⟩
      have htime' : (∀ draw, .Invoke (.Revoke record.id) draw ∉ past ++ [action]) →
          middle.revokedAt = record.revokedAt :=
        fun h => htime fun draw hm => h draw (hpast _ hm)
      refine ⟨after, by rw [runActions, exec_append]; exact hafter, ?_⟩
      rcases hcase with rfl | ⟨request, draw, rfl, hretired⟩
      · exact ⟨hdead, hstatus', htime'⟩
      · refine ⟨hretired.retires.dead, ?_, ?_⟩
        · -- only a revoke can have written this record
          intro hnone
          cases hretired with
          | Revoke => rfl
          | Disable => exact absurd (by simp [hid]) (hnone draw).1
          | Rotate => exact absurd (by simp [hid]) (hnone draw).2
        · intro hnone
          cases hretired with
          | Revoke => exact absurd (by simp [hid]) (hnone draw)
          | Disable | Rotate => exact htime' hnone

theorem revoked_record_kept_sample :
    let revoked := act sampleDeployment sampleIssued (.Invoke (.Revoke "key-1") sampleFirst)
    let actions : List Action := [.Advance 5, .Invoke (.Revoke "key-1") sampleFirst,
      .Invoke (.GetOrCreateKey "user-1" "request-2") sampleSecond]
    ∃ later, (runActions sampleDeployment revoked actions).ledger.get "key-1" = some later ∧
      later.status ≠ .Active ∧
      ((∀ draw, .Invoke (.Disable "key-1") draw ∉ actions ∧
        .Invoke (.Rotate "key-1") draw ∉ actions) → later.status = .Revoked) ∧
      ((∀ draw, .Invoke (.Revoke "key-1") draw ∉ actions) →
        later.revokedAt = some World.initial.clock) :=
  revoked_record_kept sampleDeployment _ _ "key-1" (sampleRecord.revoked World.initial.clock)
    (by decide) (by decide) (by decide)

-- A disable turns a revoked record into a disabled one, and a second revoke moves its
-- revocation time: neither half of the record is final.
theorem revoked_record_rewritten :
    (¬ ∀ (deployment : Deployment) (start : World) (actions : List Action) (keyId : String)
        (record : VirtualKeyRecord),
      start.ledger.get keyId = some record → record.status = .Revoked →
      (∀ action ∈ actions, action.Draws fun draw => draw.keyId ≠ keyId) →
      ∃ later, (runActions deployment start actions).ledger.get keyId = some later ∧
        later.status = .Revoked) ∧
    ¬ ∀ (deployment : Deployment) (start : World) (actions : List Action) (keyId : String)
        (record : VirtualKeyRecord),
      start.ledger.get keyId = some record → record.status = .Revoked →
      (∀ action ∈ actions, action.Draws fun draw => draw.keyId ≠ keyId) →
      ∃ later, (runActions deployment start actions).ledger.get keyId = some later ∧
        later.revokedAt = record.revokedAt := by
  let revoked := act sampleDeployment sampleIssued (.Invoke (.Revoke "key-1") sampleFirst)
  let record := sampleRecord.revoked World.initial.clock
  constructor
  · intro h
    obtain ⟨later, hlater, hstatus⟩ := h sampleDeployment revoked
      [.Invoke (.Disable "key-1") sampleFirst] "key-1" record (by decide) (by decide) (by decide)
    have hdisabled : (runActions sampleDeployment revoked
        [.Invoke (.Disable "key-1") sampleFirst]).ledger.get "key-1" = some record.disabled := by
      decide
    rw [hdisabled] at hlater
    cases hlater
    exact absurd hstatus (by decide)
  · intro h
    obtain ⟨later, hlater, htime⟩ := h sampleDeployment revoked
      [.Advance 5, .Invoke (.Revoke "key-1") sampleFirst] "key-1" record
      (by decide) (by decide) (by decide)
    have hagain : (runActions sampleDeployment revoked
        [.Advance 5, .Invoke (.Revoke "key-1") sampleFirst]).ledger.get "key-1" =
        some (record.revoked (World.initial.clock + 5)) := by
      decide
    rw [hagain] at hlater
    cases hlater
    exact absurd htime (by decide)

end ClaudeCodeProxy
