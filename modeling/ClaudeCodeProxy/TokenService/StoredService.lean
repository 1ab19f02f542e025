import ClaudeCodeProxy.Effects.Machine
import ClaudeCodeProxy.Effects.Simulation
import ClaudeCodeProxy.Repositories.StoredLedger
import ClaudeCodeProxy.Services.Requests
import ClaudeCodeProxy.TokenService.Handler

-- The handler of the Token Service over the in-memory repositories and over storage.

namespace ClaudeCodeProxy

open Effects Python

-- The calls of the handler and of the service behind it.
inductive KeyCall
  | GetUserIdForUsername (username : String)
  | Service (op : Call)

def KeyCall.Reply : KeyCall → Type
  | .GetUserIdForUsername _ => Option String
  | .Service op => op.Reply

@[reducible] def keyCalls : Signature := ⟨KeyCall, KeyCall.Reply⟩

def keyCall (op : KeyCall) : Program keyCalls Failure op.Reply :=
  @Program.perform keyCalls Failure op

def keyServiceCalls : Embedding collaborators keyCalls := ⟨.Service, fun _ answer => answer⟩

namespace TokenServiceHandler

variable {σ : Type} (service : TokenIssueService)

-- `requestKey` call by call.
def requestKeyProgram (event : Value) (requestId : String) :
    Program keyCalls Failure TokenIssueResult :=
  match extractUsernameFromEvent event with
  | .error error => .Raise error
  | .ok username => do
      match ← keyCall (.GetUserIdForUsername username) with
      | none => .Raise (.ServiceError
          (userNotRegisteredError requestId (some [("username", .Str username)])))
      | some userId => (service.getOrCreateKey userId requestId).lift keyServiceCalls

-- One event on repositories of any kind.
def handleEvent (handler : Handler keyCalls Failure σ) (generated : String) (event : Value)
    (state : σ) : Except Exception Response × σ :=
  match resolveRequestId event generated with
  | .error error => (.error error, state)
  | .ok requestId =>
      let (answer, after) := (requestKeyProgram service event requestId).run handler state
      (.ok (respond requestId answer), after)

end TokenServiceHandler

def handleInMemory (deployment : Deployment) (draw : Draw) : Handler keyCalls Failure World
  | .GetUserIdForUsername username, world => (.ok (world.userIdForUsername username), world)
  | .Service op, world => handle deployment draw op world

theorem handleInMemory_restrict (deployment : Deployment) (draw : Draw) :
    (handleInMemory deployment draw).restrict keyServiceCalls = handle deployment draw := by
  funext op world
  simp only [Handler.restrict, handleInMemory, keyServiceCalls]
  rcases handle deployment draw op world with ⟨answer, after⟩
  cases answer with
  | ok reply => rfl
  | error error => rfl

-- Over the in-memory repositories the handler answers as `handleGetOrCreateKey`.
theorem handleEvent_inMemory (deployment : Deployment) (draw : Draw) (generated : String)
    (event : Value) (world : World) :
    (TokenServiceHandler.handleEvent deployment.tokenIssueService
        (handleInMemory deployment draw) generated event world).1 =
      TokenServiceHandler.handleGetOrCreateKey world.userIdForUsername
        (fun userId requestId =>
          (runGetOrCreateKey deployment draw world userId requestId).1) generated event := by
  unfold TokenServiceHandler.handleEvent TokenServiceHandler.handleGetOrCreateKey
    TokenServiceHandler.requestKeyProgram TokenServiceHandler.requestKey
  cases TokenServiceHandler.resolveRequestId event generated with
  | error error => rfl
  | ok requestId =>
      cases extractUsernameFromEvent event with
      | error error => rfl
      | ok username =>
          cases huser : world.userIdForUsername username with
          | none =>
              simp only [keyCall, Program.perform, Program.call_bind, Program.return_bind,
                Program.run_call, handleInMemory, huser]
              simp only [bind, Except.bind, huser]
              rfl
          | some userId =>
              simp only [keyCall, Program.perform, Program.call_bind, Program.return_bind,
                Program.run_call, handleInMemory, huser, Program.run_lift,
                handleInMemory_restrict]
              simp only [bind, Except.bind, huser]
              rfl

-- Before each of its calls the table of the cache drops the expired items that `drops`
-- names; the calls are numbered over the whole run.
structure StoredWorld where
  users : UserTable
  mappings : IdentityMappings
  virtualKeys : VirtualKeyTable
  items : CacheItems
  clock : Int
  drops : Nat → String → Bool
  calls : Nat

namespace StoredWorld

def dropExpired (stored : StoredWorld) : StoredWorld :=
  { stored with
    items := stored.items.select fun item =>
      !(decide (item.ttl ≤ epochSeconds stored.clock) && stored.drops stored.calls item.userId)
    calls := stored.calls + 1 }

variable (listing : List VirtualKeyRow → List VirtualKeyRow) (deployment : Deployment)
  (draw : Draw)

-- Neither store reads a key by its id or writes a user.
def answer : Handler collaborators Failure StoredWorld
  | .Clock, stored => (.ok stored.clock, stored)
  | .UtcNow, stored => (.ok stored.clock, stored)
  | .GenerateKey, stored => (.ok draw.virtualKey, stored)
  | .GenerateKeyId, stored => (.ok draw.keyId, stored)
  | .Uuid4, stored => (.ok draw.keyId, stored)
  | .Encrypt plaintext, stored => (deployment.encryption.encrypt plaintext, stored)
  | .Decrypt ciphertext, stored => (deployment.encryption.decrypt ciphertext, stored)
  | .GetUser userId, stored => (.ok (PostgresUserRepository.getUser stored.users userId), stored)
  | .ProvisionUser _ _, stored => (.error (.ofPython .AttributeError), stored)
  | .GetActiveKeyForUser userId, stored =>
      (PostgresVirtualKeyRepository.getActiveKeyForUser listing stored.virtualKeys userId, stored)
  | .GetKeyByHash keyHash, stored =>
      (PostgresVirtualKeyRepository.getKeyByHash stored.virtualKeys keyHash, stored)
  | .GetKey _, stored => (.error (.ofPython .AttributeError), stored)
  | .SaveKey record, stored =>
      match PostgresVirtualKeyRepository.saveKey stored.virtualKeys record with
      | .error error => (.error error, stored)
      | .ok after => (.ok (), { stored with virtualKeys := after })
  | .GetActiveKey userId now, stored =>
      (DynamoDbVirtualKeyCache.getActiveKey stored.items userId now, stored)
  | .PutActiveKey entry, stored =>
      (.ok (), { stored with items := DynamoDbVirtualKeyCache.putActiveKey stored.items entry })
  | .InvalidateUser userId, stored =>
      (.ok (), { stored with items := DynamoDbVirtualKeyCache.invalidateUser stored.items userId })
  | .InvalidateTokenServiceCache userId, stored =>
      (.ok (), { stored with items := DynamoDbVirtualKeyCache.invalidateUser stored.items userId })
  | .InvalidateProxyAuthCache _, stored => (.ok (), stored)

def handle : Handler keyCalls Failure StoredWorld
  | .GetUserIdForUsername username, stored =>
      (.ok (PostgresUserRepository.getUserIdForUsername stored.mappings username),
        stored.dropExpired)
  | .Service op, stored => answer listing deployment draw op stored.dropExpired

end StoredWorld

-- An event with the time since the one before it and what the generators answer.
structure TokenServiceEvent where
  event : Value
  generated : String
  elapsed : Nat
  draw : Draw

def inMemoryTokenService (deployment : Deployment) :
    Machine World TokenServiceEvent (Except Exception TokenServiceHandler.Response) := fun world input =>
  TokenServiceHandler.handleEvent deployment.tokenIssueService
    (handleInMemory deployment input.draw) input.generated input.event
    { world with clock := world.clock + input.elapsed }

def storedTokenService (listing : List VirtualKeyRow → List VirtualKeyRow)
    (deployment : Deployment) :
    Machine StoredWorld TokenServiceEvent (Except Exception TokenServiceHandler.Response) :=
  fun stored input =>
    TokenServiceHandler.handleEvent deployment.tokenIssueService
      (StoredWorld.handle listing deployment input.draw) input.generated input.event
      { stored with clock := stored.clock + input.elapsed }

end ClaudeCodeProxy
