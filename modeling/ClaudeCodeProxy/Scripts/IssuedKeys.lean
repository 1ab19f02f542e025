import ClaudeCodeProxy.Proxy.StandingKeys
import ClaudeCodeProxy.Scripts.ConcurrentHelpers

-- Helpers beside the services that they get their keys from: whose key it is that a helper prints,
-- and how long the proxy takes it.

namespace Scripts.ApiKeyHelper

open Bash Effects Python ClaudeCodeProxy

section Sites

-- A machine with its helpers, and the stores of the services.
structure Site where
  pool : Pool helper Failed Unit Invocation Host
  world : World

-- A call that gets through to the Token Service: the event that API Gateway makes of it, which
-- names its caller, what the generators draw, and how curl ends if the answer is lost.
structure Postage where
  event : Value
  generated : String
  draw : Draw
  lost : Option Failed := none

inductive Move
  | Run (event : Event Invocation Nat)
  | Post (index : Nat) (postage : Postage)
  | Serve (action : Action)

-- What API Gateway answers for a handler that has raised.
def gatewayError : Value := .Mapping [("message", .Str "Internal server error")]

variable (deployment : Deployment)

def Postage.served (postage : Postage) (world : World) :
    Except Exception TokenServiceHandler.Response × World :=
  TokenServiceHandler.handleEvent deployment.tokenIssueService
    (handleInMemory deployment postage.draw) postage.generated postage.event world

def Postage.documents (postage : Postage) (world : World) : List Value :=
  match (postage.served deployment world).1 with
  | .error _ => [gatewayError]
  | .ok response => [response.body]

def Postage.response (postage : Postage) (world : World) : Except Failed (List Value) :=
  match postage.lost with
  | some status => .error status
  | none => .ok (postage.documents deployment world)

def keyNames : List String := ["virtual_key", "token"]

-- No document has a key in it.
def keyless (documents : List Value) : Bool :=
  documents.all fun document => (Jq.alternatives keyNames document).isNone

def posting : Program helper Failed Unit → Bool
  | .Call (.Post _ _ _) _ => true
  | _ => false

-- The run that is about to call the Token Service.
def poster? (pool : Pool helper Failed Unit Invocation Host) (index : Nat) : Option Invocation :=
  match pool.threads[index]? with
  | none => none
  | some thread => if posting thread.program then some thread.request else none

-- The call fails, or is answered by something else than the Token Service.
def Invocation.turnedAway (invocation : Invocation) : Bool :=
  match invocation.response with
  | .error _ => true
  | .ok documents => keyless documents

def stepsPast (pool : Pool helper Failed Unit Invocation Host) : Event Invocation Nat → Bool
  | .Step index => (poster? pool index).all Invocation.turnedAway
  | _ => true

variable (printer : Jq.Printer)

def Site.step (site : Site) : Move → Site
  | .Run event => { site with pool := (helpers printer).step site.pool event }
  | .Post index postage => {
      pool := (helpers printer).step site.pool (.Step index)
      world := (postage.served deployment site.world).2 }
  | .Serve action => { site with world := act deployment site.world action }

-- A run has from the Token Service what the handler answers at that moment.
def Allowed (site : Site) : Move → Prop
  | .Run event => Scheduled site.pool event ∧ stepsPast site.pool event = true
  | .Post index postage => postage.draw.Generated deployment site.world ∧
      (poster? site.pool index).map Invocation.response =
        some (postage.response deployment site.world)
  | .Serve action => GeneratedDraws deployment site.world action

instance (site : Site) : DecidablePred (Allowed deployment site)
  | .Run event => inferInstanceAs (Decidable (Scheduled site.pool event ∧ _))
  | .Post index postage => inferInstanceAs (Decidable (
      postage.draw.Generated deployment site.world ∧
      (poster? site.pool index).map Invocation.response =
        some (postage.response deployment site.world)))
  | .Serve action => inferInstanceAs (Decidable (GeneratedDraws deployment site.world action))

abbrev Site.exec (site : Site) (moves : List Move) : Site :=
  Effects.exec (Site.step deployment printer) site moves

def Move.events : Move → List (Event Invocation Nat)
  | .Run event => [event]
  | .Post index _ => [.Step index]
  | .Serve _ => []

-- A lifecycle request for the key; a call of the Token Service is none.
def Move.Names (keyId : String) : Move → Prop
  | .Serve action => action.Names keyId
  | _ => False

end Sites

section Answers

variable {deployment : Deployment} {printer : Jq.Printer} {site start : Site} {moves : List Move}

theorem pool_exec (site : Site) (moves : List Move) :
    (site.exec deployment printer moves).pool =
      (helpers printer).exec site.pool (moves.flatMap Move.events) := by
  induction moves generalizing site with
  | nil => rfl
  | cons move moves ih =>
      rw [Site.exec, exec_cons, List.flatMap_cons, System.exec, exec_append]
      have hstep : (Site.step deployment printer site move).pool =
          Effects.exec (helpers printer).step site.pool move.events := by
        cases move <;> rfl
      rw [← hstep]
      exact ih _

theorem scheduled_events
    (h : Admissible (Site.step deployment printer) (Allowed deployment) site moves) :
    Admissible (helpers printer).step Scheduled site.pool (moves.flatMap Move.events) := by
  induction moves generalizing site with
  | nil => trivial
  | cons move moves ih =>
      obtain ⟨hmove, hmoves⟩ := h
      have hrest := ih hmoves
      rw [List.flatMap_cons]
      cases move with
      | Run event => exact ⟨hmove.1, hrest⟩
      | Post index postage => exact ⟨trivial, hrest⟩
      | Serve action => exact hrest

-- Only an answer of the Token Service is added to the answers.
theorem responses_handler (invocation : Invocation) (command : HelperCall) (host : Host) :
    (invocation.handler command host).2.responses = host.responses ∨
      ∃ url region timeout documents, command = .Post url region timeout ∧
        invocation.response = .ok documents ∧
        (invocation.handler command host).2.responses =
          (host.clock, documents) :: host.responses := by
  cases command with
  | Post url region timeout =>
      cases hresponse : invocation.response with
      | error status => exact .inl (by rw [Invocation.handler, hresponse]; rfl)
      | ok documents =>
          exact .inr ⟨url, region, timeout, documents, rfl, rfl,
            by rw [Invocation.handler, hresponse]; rfl⟩
  | MakeTemp directory =>
      left
      unfold Invocation.handler
      cases invocation.makeTemp <;> rfl
  | WriteJson temp document =>
      left
      unfold Invocation.handler
      cases invocation.writeJson <;> rfl
  | Move temp path =>
      left
      unfold Invocation.handler
      rcases invocation.move with status | (_ | _) <;> rfl
  | _ => exact .inl rfl

theorem responses_step (pool : Pool helper Failed Unit Invocation Host) (index : Nat) :
    ((helpers printer).step pool (.Step index)).shared.responses = pool.shared.responses ∨
      ∃ invocation documents, poster? pool index = some invocation ∧
        invocation.response = .ok documents ∧
        ((helpers printer).step pool (.Step index)).shared.responses =
          (pool.shared.clock, documents) :: pool.shared.responses := by
  rcases (helpers printer).step_cases pool index with hsame |
    ⟨thread, op, next, hthread, hprogram, hstep⟩
  · exact .inl (by rw [hsame])
  have hshared : ((helpers printer).step pool (.Step index)).shared =
      (thread.request.handler op pool.shared).2 := by
    rw [hstep]
    exact thread.step_shared _ _ op next hprogram
  rw [hshared]
  rcases responses_handler thread.request op pool.shared with hsame |
    ⟨url, region, timeout, documents, rfl, hresponse, hadded⟩
  · exact .inl hsame
  · refine .inr ⟨thread.request, documents, ?_, hresponse, hadded⟩
    simp only [poster?, hthread, hprogram]
    rfl

-- The answer is that of the Token Service to a call among the moves.
def AnsweredBy (deployment : Deployment) (printer : Jq.Printer) (start : Site) (moves : List Move)
    (answer : Nat × List Value) : Prop :=
  ∃ before index postage after, moves = before ++ .Post index postage :: after ∧
    answer.1 = (start.exec deployment printer before).pool.shared.clock ∧
    answer.2 = postage.documents deployment (start.exec deployment printer before).world

theorem AnsweredBy.append {answer : Nat × List Value}
    (h : AnsweredBy deployment printer start moves answer) (move : Move) :
    AnsweredBy deployment printer start (moves ++ [move]) answer := by
  obtain ⟨before, index, postage, after, rfl, htime, hdocuments⟩ := h
  exact ⟨before, index, postage, after ++ [move], by rw [List.append_assoc]; rfl, htime,
    hdocuments⟩

theorem responses_answered
    (h : Admissible (Site.step deployment printer) (Allowed deployment) start moves)
    (hstart : start.pool.shared.responses = []) :
    ∀ answer ∈ (start.exec deployment printer moves).pool.shared.responses,
      keyless answer.2 = true ∨ AnsweredBy deployment printer start moves answer := by
  induction moves using List.reverseRecOn with
  | nil =>
      intro answer hm
      rw [Site.exec, exec_nil, hstart] at hm
      cases hm
  | append_singleton before move ih =>
      rw [admissible_append, admissible_singleton] at h
      obtain ⟨hbefore, hallowed⟩ := h
      intro answer hm
      rw [Site.exec, exec_append, exec_cons, exec_nil] at hm
      have hold : answer ∈ (start.exec deployment printer before).pool.shared.responses →
          keyless answer.2 = true ∨
            AnsweredBy deployment printer start (before ++ [move]) answer :=
        fun hm => (ih hbefore answer hm).imp_right fun h => h.append move
      cases move with
      | Serve action => exact hold hm
      | Run event =>
          cases event with
          | Spawn invocation => exact hold hm
          | Environment seconds => exact hold hm
          | Step index =>
              rcases responses_step (start.exec deployment printer before).pool index with hsame |
                ⟨invocation, documents, hposter, hresponse, hadded⟩
              · exact hold (hsame ▸ hm)
              · have hm' : answer ∈ (_, documents) ::
                    (start.exec deployment printer before).pool.shared.responses := hadded ▸ hm
                rcases List.mem_cons.mp hm' with rfl | hm'
                · have haway : invocation.turnedAway = true := by
                    have hpast : (poster? _ index).all Invocation.turnedAway = true := hallowed.2
                    rw [hposter] at hpast
                    exact hpast
                  rw [Invocation.turnedAway, hresponse] at haway
                  exact .inl haway
                · exact hold hm'
      | Post index postage =>
          rcases responses_step (start.exec deployment printer before).pool index with hsame |
            ⟨invocation, documents, hposter, hresponse, hadded⟩
          · exact hold (hsame ▸ hm)
          · have hm' : answer ∈ (_, documents) ::
                (start.exec deployment printer before).pool.shared.responses := hadded ▸ hm
            rcases List.mem_cons.mp hm' with rfl | hm'
            · have hpost := hallowed.2
              rw [hposter, Option.map_some, hresponse] at hpost
              have hdocuments : documents = postage.documents deployment
                  (start.exec deployment printer before).world := by
                have hanswer := Option.some.inj hpost
                unfold Postage.response at hanswer
                split at hanswer
                · cases hanswer
                · exact Except.ok.inj hanswer
              exact .inr ⟨before, index, postage, [], rfl, rfl, hdocuments⟩
            · exact hold hm'

end Answers

section Keys

variable {deployment : Deployment} {printer : Jq.Printer} {site : Site} {moves : List Move}
  {postage : Postage} {world : World} {keyId userId virtualKey : String} {live : Prop}

theorem tokenOf_keyless {documents : List Value} (h : keyless documents = true) :
    tokenOf printer documents = "" := by
  have hnone : documents.filterMap (Jq.alternatives ["virtual_key", "token"]) = [] := by
    rw [List.filterMap_eq_nil_iff]
    intro document hm
    exact Option.isNone_iff_eq_none.mp (List.all_eq_true.mp h document hm)
  rw [tokenOf, readField, Jq.output, hnone]
  rfl

theorem keyless_respond (requestId : String) (error : Failure) :
    keyless [(TokenServiceHandler.respond requestId (.error error)).body] = true := by
  cases error <;> rfl

theorem tokenOf_keyPayload (result : TokenIssueResult) (requestId : String) :
    tokenOf printer [TokenServiceHandler.keyPayload result requestId] =
      captured (result.virtualKey ++ "\n") := by
  rw [tokenOf, readField,
    Jq.output_of_alternatives printer (v := .Str result.virtualKey) rfl, Jq.raw_str]

-- The shell takes such a key as it is.
theorem captured_urlSafe (h : urlSafe virtualKey = true) :
    captured (virtualKey ++ "\n") = virtualKey := by
  have hsafe : ∀ c ∈ virtualKey.toList, isUrlSafe c = true := List.all_eq_true.mp h
  have hne : ∀ c ∈ virtualKey.toList, c ≠ '\x00' ∧ c ≠ '\n' := by
    intro c hc
    have hc' := hsafe c hc
    constructor
    · rintro rfl
      cases hc'
    · rintro rfl
      cases hc'
  have hkept : (virtualKey ++ "\n").toList.filter (· ≠ '\x00') = virtualKey.toList ++ ['\n'] := by
    rw [String.toList_append, List.filter_append,
      List.filter_eq_self.mpr fun c hc => decide_eq_true (hne c hc).1]
    rfl
  have hend : virtualKey.toList.rdropWhile (· = '\n') = virtualKey.toList := by
    rw [List.rdropWhile_eq_self_iff]
    intro hnonempty hlast
    exact (hne _ (List.getLast_mem hnonempty)).2 (of_decide_eq_true hlast)
  rw [captured, hkept, List.rdropWhile_concat_pos _ _ _ (by simp), hend, String.ofList_toList]

theorem startsWithVk_ne {key : String} (h : startsWithVk key = true) : key ≠ "" := by
  rintro rfl
  cases h

-- A document with a key in it is the payload of one that the issue service has given the caller.
theorem documents_key {key : String}
    (h : tokenOf printer (postage.documents deployment world) = key)
    (hkey : startsWithVk key = true) :
    ∃ requestId username userId result, extractUsernameFromEvent postage.event = .ok username ∧
      world.userIdForUsername username = some userId ∧
      (runGetOrCreateKey deployment postage.draw world userId requestId).1 = .ok result ∧
      (postage.served deployment world).2 =
        act deployment world (.Invoke (.GetOrCreateKey userId requestId) postage.draw) ∧
      key = captured (result.virtualKey ++ "\n") := by
  have hfalse : keyless (postage.documents deployment world) ≠ true := by
    intro hnone
    rw [tokenOf_keyless hnone] at h
    exact startsWithVk_ne hkey h.symm
  rcases handleEvent_cases deployment postage.draw postage.generated postage.event world with
    ⟨requestId, username, userId, husername, huser, hserved⟩ | ⟨answer, hserved, herror⟩
  · have hdocuments : postage.documents deployment world = [(TokenServiceHandler.respond requestId
        (runGetOrCreateKey deployment postage.draw world userId requestId).1).body] := by
      rw [Postage.documents, Postage.served, hserved]
    cases hresult : (runGetOrCreateKey deployment postage.draw world userId requestId).1 with
    | error error =>
        rw [hdocuments, hresult] at hfalse
        exact absurd (keyless_respond requestId error) hfalse
    | ok result =>
        refine ⟨requestId, username, userId, result, husername, huser, hresult, ?_, ?_⟩
        · rw [Postage.served, hserved]
        · rw [hdocuments, hresult] at h
          exact h.symm.trans (tokenOf_keyPayload result requestId)
  · exfalso
    apply hfalse
    rw [Postage.documents, Postage.served, hserved]
    cases answer with
    | error error => rfl
    | ok response =>
        obtain ⟨requestId, error, rfl⟩ := herror response rfl
        exact keyless_respond requestId error

-- A move of the services is one action, or none.
theorem world_step (site : Site) (move : Move) (h : Allowed deployment site move) :
    ((site.step deployment printer move).world = site.world ∧ ∀ keyId, ¬move.Names keyId) ∨
      ∃ action, GeneratedDraws deployment site.world action ∧
        (∀ keyId, action.Names keyId ↔ move.Names keyId) ∧
        (site.step deployment printer move).world = act deployment site.world action := by
  cases move with
  | Run event => exact .inl ⟨rfl, fun _ => id⟩
  | Serve action => exact .inr ⟨action, h, fun keyId => Iff.rfl, rfl⟩
  | Post index postage =>
      rcases handleEvent_cases deployment postage.draw postage.generated postage.event site.world
        with ⟨requestId, username, userId, -, -, hserved⟩ | ⟨answer, hserved, -⟩
      · refine .inr ⟨.Invoke (.GetOrCreateKey userId requestId) postage.draw, h.1, ?_, ?_⟩
        · intro keyId
          constructor
          · intro hnames
            cases hnames
          · exact False.elim
        · exact congrArg Prod.snd hserved
      · exact .inl ⟨congrArg Prod.snd hserved, fun _ => id⟩

theorem dependable_exec (hround : deployment.encryption.RoundTrip) {start : Site}
    (hstart : Dependable deployment start.world)
    (h : Admissible (Site.step deployment printer) (Allowed deployment) start moves) :
    Dependable deployment (start.exec deployment printer moves).world := by
  refine exec_invariant (fun _ site => Dependable deployment site.world) hstart ?_ moves h
  intro past site move hsite hallowed
  rcases @world_step deployment printer site move hallowed with
    ⟨hsame, -⟩ | ⟨action, hdraws, -, hact⟩
  · rw [hsame]
    exact hsite
  · rw [hact]
    exact hsite.act hround hdraws

theorem standing_exec (h : Standing deployment site.world keyId userId virtualKey live)
    (hmoves : Admissible (Site.step deployment printer) (Allowed deployment) site moves) :
    Standing deployment (site.exec deployment printer moves).world keyId userId virtualKey
      (live ∧ ∀ move ∈ moves, ¬move.Names keyId) := by
  induction moves generalizing site live with
  | nil => exact h.of_iff (by simp)
  | cons move moves ih =>
      obtain ⟨hallowed, hrest⟩ := hmoves
      have hnext : Standing deployment (site.step deployment printer move).world keyId userId
          virtualKey (live ∧ ¬move.Names keyId) := by
        rcases @world_step deployment printer site move hallowed with
          ⟨hsame, hnames⟩ | ⟨action, hdraws, hnames, hact⟩
        · rw [hsame]
          exact h.of_iff ⟨fun hl => ⟨hl, hnames keyId⟩, And.left⟩
        · rw [hact]
          exact (h.act hdraws.proper.freshDraws.freshIds).of_iff (by rw [hnames])
      exact (ih hnext hrest).of_iff (by rw [List.forall_mem_cons, and_assoc])

-- The key of a call stands from the moment at which the call is served.
theorem standing_posted (hround : deployment.encryption.RoundTrip) {index : Nat}
    (hsite : Dependable deployment site.world)
    (hallowed : Allowed deployment site (.Post index postage)) {key : String}
    (h : tokenOf printer (postage.documents deployment site.world) = key)
    (hkey : startsWithVk key = true) :
    ∃ username userId keyId, extractUsernameFromEvent postage.event = .ok username ∧
      site.world.userIdForUsername username = some userId ∧
      Standing deployment (site.step deployment printer (.Post index postage)).world keyId userId
        key True := by
  obtain ⟨requestId, username, userId, result, husername, huser, hresult, hworld, hcaptured⟩ :=
    documents_key h hkey
  have hdraws : GeneratedDraws deployment site.world
      (.Invoke (.GetOrCreateKey userId requestId) postage.draw) := hallowed.1
  have hact : act deployment site.world (.Invoke (.GetOrCreateKey userId requestId) postage.draw) =
      (runGetOrCreateKey deployment postage.draw site.world userId requestId).2 := by
    simp only [act, serve_getOrCreateKey]
  obtain ⟨⟨record, hbacked⟩, user, huserId⟩ := getOrCreateKey_backed deployment hround postage.draw
    site.world userId requestId result hsite.agreed hdraws.proper hresult
  have hafter := hsite.act hround hdraws
  rw [hact] at hafter hworld
  obtain ⟨held, hsafe, hholds⟩ := hafter.urlSafe record hbacked.mem
  have hsame : held = result.virtualKey := by
    have hdecrypt := hholds.decrypt
    rw [hbacked.holds.decrypt] at hdecrypt
    exact (Except.ok.inj hdecrypt).symm
  have hprinted : key = result.virtualKey := by
    rw [hcaptured, captured_urlSafe (hsame ▸ hsafe)]
  refine ⟨username, userId, record.id, husername, huser, ?_⟩
  change Standing deployment (postage.served deployment site.world).2 record.id userId key True
  rw [hworld, hprinted]
  refine ⟨⟨record, ?_, hbacked.holds, hbacked.userId, iff_of_true hbacked.active trivial⟩, ?_⟩
  · exact Store.Table.get_of_mem _ record hbacked.mem
  · rw [huserId]
    rfl

-- The key was given to the caller of one of the calls, a user of the proxy, less than 900 seconds
-- before the run read the clock unless its cache file had changed between its two readings; and
-- the proxy takes it as that user's until a lifecycle request names it.
def CallersKey (deployment : Deployment) (printer : Jq.Printer) (start : Site) (moves : List Move)
    (log : List (Answer helper)) (key : String) : Prop :=
  ∃ before index postage after username userId keyId,
    moves = before ++ .Post index postage :: after ∧
    extractUsernameFromEvent postage.event = .ok username ∧
    (start.exec deployment printer before).world.userIdForUsername username = some userId ∧
    TakenAs deployment (start.exec deployment printer moves).world keyId userId key
      (∀ move ∈ after, ¬move.Names keyId) ∧
    ((log.filterMap readingOf).Pairwise (· = ·) → ∀ now ∈ log.filterMap dateOf,
      now < (start.exec deployment printer before).pool.shared.clock + 900)

theorem printed_keys_are_callers (deployment : Deployment) (printer : Jq.Printer)
    (hround : deployment.encryption.RoundTrip) (clock : Nat) (hclock : clock < clockLimit)
    (world : World) (hcache : world.cache = .empty) (hhashes : world.ledger.DistinctHashes)
    (hkeys : world.ledger.UrlSafe deployment) (moves : List Move)
    (hallowed : Admissible (Site.step deployment printer) (Allowed deployment)
      ⟨⟨cleanHost clock, []⟩, world⟩ moves) :
    let start : Site := ⟨⟨cleanHost clock, []⟩, world⟩
    ∀ thread ∈ (start.exec deployment printer moves).pool.threads,
      ∀ line ∈ thread.log.filterMap printedLine,
        ∃ key, line = key ++ "\n" ∧ CallersKey deployment printer start moves thread.log key := by
  intro start thread hthread line hline
  have hsafe := helpers_poolSafe printer clock hclock _ (scheduled_events hallowed)
  have hpool : (start.exec deployment printer moves).pool = (helpers printer).exec
      ⟨cleanHost clock, []⟩ (moves.flatMap Move.events) := pool_exec start moves
  rw [← hpool] at hsafe
  have hsound : Sound printer thread.log (start.exec deployment printer moves).pool.shared :=
    hsafe.check hthread
  obtain ⟨key, time, rfl, hhanded, hfresh⟩ := hsound line hline
  obtain ⟨documents, hanswered, htoken⟩ := hhanded.answered
  have hstart : Dependable deployment start.world := .start hcache hhashes hkeys
  have hfinal := dependable_exec hround hstart hallowed
  refine ⟨key, rfl, ?_⟩
  rcases responses_answered hallowed rfl _ hanswered with hnone |
    ⟨before, index, postage, after, rfl, htime, hdocuments⟩
  · rw [tokenOf_keyless hnone] at htoken
    exact absurd htoken.symm (startsWithVk_ne hhanded.isKey)
  obtain ⟨hbefore, hpost, hafter⟩ := (admissible_append _ _ _ _ _).mp hallowed
  have hasked : tokenOf printer (postage.documents deployment
      (start.exec deployment printer before).world) = key :=
    hdocuments ▸ htoken
  obtain ⟨username, userId, keyId, husername, huser, hstanding⟩ :=
    @standing_posted deployment printer _ _ hround _ (dependable_exec hround hstart hbefore) hpost
      _ hasked hhanded.isKey
  have hlast := (standing_exec hstanding hafter).of_iff (Iff.of_eq (true_and _))
  have hsplit : start.exec deployment printer (before ++ .Post index postage :: after) =
      (Site.step deployment printer (start.exec deployment printer before)
        (.Post index postage)).exec deployment printer after :=
    exec_append _ _ _ _
  refine ⟨before, index, postage, after, username, userId, keyId, rfl, husername, huser, ?_, ?_⟩
  · rw [← hsplit] at hlast
    exact hlast.takenAs hfinal.agreed.hashes
  · intro hreadings now hnow
    rw [← htime]
    exact hfresh hreadings now hnow

-- A user is registered and gets a key through a helper, which is revoked afterwards.
def samplePostage : Postage where
  event := .Mapping [("requestContext", .Mapping [("identity", .Mapping [
    ("userArn", .Str "arn:aws:sts::123456789012:assumed-role/Dev/alice")])])]
  generated := "request-1"
  draw := sampleFirst

def sampleRegistered : World :=
  act sampleDeployment .initial (.Invoke (sampleProvision true) sampleFirst)

def sampleErrand : Invocation := { sampleInvocation 1 "vk_first" with
  response := .ok (samplePostage.documents sampleDeployment sampleRegistered) }

def sampleMoves : List Move :=
  [.Serve (.Invoke (sampleProvision true) sampleFirst), .Run (.Spawn sampleErrand)] ++
  List.replicate 6 (.Run (.Step 0)) ++ [.Post 0 samplePostage] ++
  List.replicate 5 (.Run (.Step 0)) ++ [.Serve (.Invoke (.Revoke "key-1") sampleFirst)]

theorem printed_keys_are_callers_sample :
    let start : Site := ⟨⟨cleanHost 1774742400, []⟩, .initial⟩
    let final := start.exec sampleDeployment Jq.outlinePrinter sampleMoves
    (final.pool.threads.map fun thread => thread.log.filterMap printedLine) = [["vk_first\n"]] ∧
    ∀ thread ∈ final.pool.threads, ∀ line ∈ thread.log.filterMap printedLine,
      ∃ key, line = key ++ "\n" ∧
        CallersKey sampleDeployment Jq.outlinePrinter start sampleMoves thread.log key := by
  have hnone : World.initial.ledger.UrlSafe sampleDeployment := by
    intro record hm
    cases hm
  exact ⟨by decide, printed_keys_are_callers sampleDeployment Jq.outlinePrinter
    fakeEncryptionService_roundTrip 1774742400 (by decide) .initial rfl (by decide) hnone
    sampleMoves (by decide)⟩

end Keys

end Scripts.ApiKeyHelper
