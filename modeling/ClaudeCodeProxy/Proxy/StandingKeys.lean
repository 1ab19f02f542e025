import ClaudeCodeProxy.Proxy.Acceptance
import ClaudeCodeProxy.Services.RetiredKeys
import ClaudeCodeProxy.TokenService.StoredService

-- What becomes of a key once the Token Service has handed it out.

namespace ClaudeCodeProxy

open Effects Python

section Draws

def urlSafe (virtualKey : String) : Bool := virtualKey.toList.all isUrlSafe

-- What the default generators draw: fresh keys in the characters of URL-safe base64.
structure Draw.Generated (deployment : Deployment) (world : World) (draw : Draw) : Prop where
  fresh : draw.Fresh deployment world
  wellFormed : WellFormedKey draw.virtualKey
  urlSafe : urlSafe draw.virtualKey = true

instance (deployment : Deployment) (world : World) (draw : Draw) :
    Decidable (draw.Generated deployment world) :=
  decidable_of_iff (draw.Fresh deployment world ∧ WellFormedKey draw.virtualKey ∧
    urlSafe draw.virtualKey = true)
    ⟨fun h => ⟨h.1, h.2.1, h.2.2⟩, fun h => ⟨h.fresh, h.wellFormed, h.urlSafe⟩⟩

def GeneratedDraws (deployment : Deployment) (world : World) (action : Action) : Prop :=
  action.Draws (Draw.Generated deployment world)

instance (deployment : Deployment) (world : World) :
    DecidablePred (GeneratedDraws deployment world) :=
  fun action => inferInstanceAs (Decidable (action.Draws _))

theorem GeneratedDraws.proper {deployment : Deployment} {world : World} {action : Action}
    (h : GeneratedDraws deployment world action) : ProperDraws deployment world action :=
  Action.Draws.mono (fun _ hdraw => ⟨hdraw.fresh, hdraw.wellFormed⟩) h

def Ledger.UrlSafe (deployment : Deployment) (ledger : Ledger) : Prop :=
  ∀ record ∈ ledger.rows, ∃ virtualKey, urlSafe virtualKey = true ∧
    record.Holds deployment virtualKey

variable {deployment : Deployment} {world : World} {action : Action}

theorem Ledger.UrlSafe.save {ledger : Ledger} (h : ledger.UrlSafe deployment)
    {record : VirtualKeyRecord} {virtualKey : String} (hsafe : urlSafe virtualKey = true)
    (hholds : record.Holds deployment virtualKey) :
    Ledger.UrlSafe deployment (ledger.save record) := by
  intro other hm
  rcases (Store.Table.mem_save _ _ _).mp hm with rfl | ⟨hold, _⟩
  · exact ⟨virtualKey, hsafe, hholds⟩
  · exact h other hold

theorem Ledger.UrlSafe.retire {ledger : Ledger} (h : ledger.UrlSafe deployment)
    {record copy : VirtualKeyRecord} (hget : ledger.get record.id = some record)
    (hretires : record.Retires copy) : Ledger.UrlSafe deployment (ledger.save copy) := by
  obtain ⟨virtualKey, hsafe, hholds⟩ := h record (ledger.mem_of_get _ _ hget)
  exact h.save hsafe (hretires.holds hholds)

theorem act_urlSafe (hround : deployment.encryption.RoundTrip)
    (h : world.ledger.UrlSafe deployment) (hdraws : GeneratedDraws deployment world action) :
    (act deployment world action).ledger.UrlSafe deployment := by
  have hacted := act_acted deployment world action
  generalize act deployment world action = after at hacted ⊢
  cases hacted with
  | Advanced microseconds => exact h
  | Invoked request draw after hserved =>
      have hissued : ∀ userId blob, draw.Generated deployment world →
          deployment.encryption.encrypt draw.virtualKey = .ok blob →
          (issuedRecord deployment draw userId blob world.clock).Holds deployment draw.virtualKey :=
        fun userId blob hdraw hencrypt =>
          issuedRecord_holds hround draw userId blob _ hdraw.wellFormed hencrypt
      cases hserved with
      | Nothing | Filled | Dropped | Provisioned => exact h
      | Issued userId requestId blob heligible hnone hencrypt =>
          have hdraw : draw.Generated deployment world := hdraws
          exact h.save hdraw.urlSafe (hissued userId blob hdraw hencrypt)
      | Retired request record copy hget hretired => exact h.retire hget hretired.retires
      | Replaced record blob hget hencrypt =>
          have hdraw : draw.Generated deployment world := hdraws
          exact (h.retire hget record.retires_disabled).save hdraw.urlSafe
            (hissued record.userId blob hdraw hencrypt)

-- The state in which the services agree, with keys that every component passes on as they are.
structure Dependable (deployment : Deployment) (world : World) : Prop where
  agreed : Agreed deployment world
  urlSafe : world.ledger.UrlSafe deployment

theorem Dependable.act (hround : deployment.encryption.RoundTrip) (h : Dependable deployment world)
    (hdraws : GeneratedDraws deployment world action) :
    Dependable deployment (act deployment world action) :=
  ⟨act_agreed deployment hround world action h.agreed hdraws.proper,
    act_urlSafe hround h.urlSafe hdraws⟩

theorem Dependable.start {start : World} (hcache : start.cache = .empty)
    (hhashes : start.ledger.DistinctHashes) (hkeys : start.ledger.UrlSafe deployment) :
    Dependable deployment start := by
  have hnone : ∀ userId entry, start.cache.get userId ≠ some entry := by
    intro userId entry hentry
    rw [hcache] at hentry
    cases hentry
  refine ⟨⟨?_, hhashes, ?_, ?_⟩, hkeys⟩
  · exact fun userId entry hentry => absurd hentry (hnone userId entry)
  · intro record hm
    obtain ⟨virtualKey, _, hholds⟩ := hkeys record hm
    exact ⟨virtualKey, hholds⟩
  · exact fun userId entry hentry => absurd hentry (hnone userId entry)

end Draws

section Standing

-- A lifecycle request for the key.
def Action.Names (keyId : String) : Action → Prop
  | .Invoke request _ => request.namedKey = some keyId
  | .Advance _ => False

-- The key is in the ledger as the user's, and active so long as it is `live`.
structure Standing (deployment : Deployment) (world : World) (keyId userId virtualKey : String)
    (live : Prop) : Prop where
  record : ∃ record, world.ledger.get keyId = some record ∧ record.Holds deployment virtualKey ∧
    record.userId = userId ∧ (record.status = .Active ↔ live)
  user : (world.users.get userId).isSome

-- The proxy takes the key as the user's while it is `live`, and from then on as no one's.
def TakenAs (deployment : Deployment) (world : World) (keyId userId virtualKey : String)
    (live : Prop) : Prop :=
  ∀ requestId,
    ((∃ context, authenticate deployment world (some ("Bearer " ++ virtualKey)) requestId =
      .ok context) ↔ live) ∧
    ∀ context, authenticate deployment world (some ("Bearer " ++ virtualKey)) requestId =
      .ok context → context.userRecord.id = userId ∧ context.virtualKeyId = keyId

variable {deployment : Deployment} {world : World} {action : Action}
  {keyId userId virtualKey : String} {live : Prop}

theorem Standing.of_iff {other : Prop}
    (h : Standing deployment world keyId userId virtualKey live) (hlive : live ↔ other) :
    Standing deployment world keyId userId virtualKey other :=
  propext hlive ▸ h

theorem act_user_isSome (h : (world.users.get userId).isSome) :
    ((act deployment world action).users.get userId).isSome := by
  have hacted := act_acted deployment world action
  generalize act deployment world action = after at hacted ⊢
  cases hacted with
  | Advanced microseconds => exact h
  | Invoked request draw after hserved =>
      cases hserved with
      | Provisioned request user mapping =>
          change ((world.users.save user).get userId).isSome
          rw [Store.Table.get_save]
          by_cases huser : userId = user.id
          · rw [if_pos huser]
            rfl
          · rw [if_neg huser]
            exact h
      | _ => exact h

theorem Retirement.named {now : Int} {record copy : VirtualKeyRecord} {request : Request}
    (h : Retirement now record request copy) : request.namedKey = some record.id := by
  cases h with
  | Revoke | Disable | Rotate => rfl

-- One request retires the key if it names it, and else leaves it as it was.
theorem Standing.act (h : Standing deployment world keyId userId virtualKey live)
    (hfresh : FreshIds world action) :
    Standing deployment (act deployment world action) keyId userId virtualKey
      (live ∧ ¬action.Names keyId) := by
  obtain ⟨record, hget, hholds, huser, hlive⟩ := h.record
  have hid : record.id = keyId := world.ledger.key_of_get _ _ hget
  have hdraw : action.Draws fun draw => draw.keyId ≠ keyId := by
    refine Action.Draws.mono (fun draw hnone heq => ?_) hfresh
    rw [Draw.FreshId, heq, hget] at hnone
    cases hnone
  obtain ⟨after, hafter, hcase⟩ := act_get deployment world action keyId record hget hdraw
  refine ⟨?_, act_user_isSome h.user⟩
  rcases hcase with rfl | ⟨request, draw, rfl, hretired⟩
  · refine ⟨after, hafter, hholds, huser, hlive.trans ⟨fun hl => ⟨hl, fun hnames => ?_⟩, And.left⟩⟩
    cases action with
    | Advance microseconds => exact hnames
    | Invoke request draw =>
        obtain ⟨later, hlater, -, hdead⟩ :=
          serve_dead deployment draw world request keyId after hnames hget hfresh
        have hsame : some later = some after := hlater.symm.trans hafter
        rw [Option.some.inj hsame] at hdead
        exact hdead (hlive.mpr hl)
  · have hretires := hretired.retires
    have hnames : (Action.Invoke request draw).Names keyId := hid ▸ hretired.named
    have hsame : after.userId = record.userId := congrArg KeyContent.userId hretires.content
    exact ⟨after, hafter, hretires.holds hholds, hsame.trans huser,
      fun hactive => absurd hactive hretires.dead, fun hl => absurd hnames hl.2⟩

theorem Standing.takenAs (h : Standing deployment world keyId userId virtualKey live)
    (hhashes : world.ledger.DistinctHashes) :
    TakenAs deployment world keyId userId virtualKey live := by
  intro requestId
  obtain ⟨record, hget, hholds, huser, hlive⟩ := h.record
  have hid : record.id = keyId := world.ledger.key_of_get _ _ hget
  have hlookup := world.ledger.getKeyByHash_of_mem hhashes record (world.ledger.mem_of_get _ _ hget)
  rw [hholds.keyHash] at hlookup
  by_cases hactive : record.status = .Active
  · obtain ⟨user, hknown⟩ := Option.isSome_iff_exists.mp h.user
    have haccepts := authenticate_accepts deployment world virtualKey requestId record user
      hholds.wellFormed hlookup hactive (by rw [huser, hknown])
    rw [haccepts]
    refine ⟨⟨fun _ => hlive.mp hactive, fun _ => ⟨_, rfl⟩⟩, ?_⟩
    intro context hcontext
    cases hcontext
    exact ⟨Store.Table.key_of_get _ _ _ hknown, hid⟩
  · obtain ⟨reason, hrejects⟩ := authenticate_rejects deployment world virtualKey requestId (by
      intro found hfound
      rw [hholds.wellFormed.stripped, hlookup] at hfound
      cases hfound
      exact hactive)
    rw [hrejects]
    refine ⟨⟨?_, fun hl => absurd (hlive.mpr hl) hactive⟩, ?_⟩
    · rintro ⟨context, hcontext⟩
      cases hcontext
    · intro context hcontext
      cases hcontext

end Standing

section Handing

open TokenServiceHandler

variable (deployment : Deployment) (draw : Draw) (generated : String) (event : Value)
  (world : World)

-- Either the issue service is asked for the caller's key, or the event gets an error and nothing
-- changes.
theorem handleEvent_cases :
    (∃ requestId username userId, extractUsernameFromEvent event = .ok username ∧
      world.userIdForUsername username = some userId ∧
      handleEvent deployment.tokenIssueService (handleInMemory deployment draw) generated event
        world =
          (.ok (respond requestId (runGetOrCreateKey deployment draw world userId requestId).1),
            act deployment world (.Invoke (.GetOrCreateKey userId requestId) draw))) ∨
    ∃ answer, handleEvent deployment.tokenIssueService (handleInMemory deployment draw) generated
        event world = (answer, world) ∧
      ∀ response, answer = .ok response →
        ∃ requestId error, response = respond requestId (.error error) := by
  unfold handleEvent requestKeyProgram
  cases TokenServiceHandler.resolveRequestId event generated with
  | error error =>
      refine .inr ⟨.error error, rfl, fun response h => ?_⟩
      cases h
  | ok requestId =>
      cases husername : extractUsernameFromEvent event with
      | error error =>
          refine .inr ⟨_, rfl, fun response h => ?_⟩
          cases h
          exact ⟨requestId, error, rfl⟩
      | ok username =>
          cases huser : world.userIdForUsername username with
          | none =>
              refine .inr ⟨.ok (respond requestId (.error (.ServiceError
                (userNotRegisteredError requestId (some [("username", .Str username)]))))), ?_,
                fun response h => ?_⟩
              · simp only [keyCall, Program.perform, Program.call_bind, Program.return_bind,
                  Program.run_call, handleInMemory, huser]
                rfl
              · cases h
                exact ⟨requestId, _, rfl⟩
          | some userId =>
              refine .inl ⟨requestId, username, userId, rfl, huser, ?_⟩
              simp only [keyCall, Program.perform, Program.call_bind, Program.return_bind,
                Program.run_call, handleInMemory, huser, Program.run_lift,
                handleInMemory_restrict, act, serve_getOrCreateKey]
              rfl

end Handing

end ClaudeCodeProxy
