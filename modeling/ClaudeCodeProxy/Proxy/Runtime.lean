import ClaudeCodeProxy.Effects.Trace
import ClaudeCodeProxy.Proxy.Auth
import ClaudeCodeProxy.Proxy.BedrockConverse.RequestBuilder
import ClaudeCodeProxy.Proxy.BedrockConverse.StreamDecoder
import ClaudeCodeProxy.Proxy.QuotaEngine
import ClaudeCodeProxy.Proxy.RateLimiter

namespace ClaudeCodeProxy

open Effects Python

-- What the router calls and what may raise. A provider stream is the list of the
-- events it has to give; each is fetched when the decoder asks for it.
inductive Dependency
  | Authenticate (authorization : Option String) (requestId : String)
  | Resolve (requestedModel : Value)
  | EvaluatePolicy (user : UserRecord) (model : Value) (policies : List PolicyRecord)
  | EvaluateQuota (budgetPolicies : List BudgetPolicyRecord) (currentUsage : Rat)
      (requestedUsage : Option Rat) (modelId : Option String)
      (tokenUsage : Option TokenUsageEstimate)
  | CheckRateLimit (userId : String)
  | BuildConverseRequest (request : Value) (resolvedModel : ResolvedModel)
  | Converse (request : ConverseRequest)
  | ConverseStream (request : ConverseRequest)
  | CountTokens (request : ConverseRequest)
  | ParseConverseResponse (response model : Value)
  | NextEvent (event : Value)
  | EndOfEvents
  | RecordUsage (event : UsageEventRecord)
  | RecordAudit (event : AuditEventRecord)

def Dependency.Result : Dependency → Type
  | .Authenticate _ _ => AuthenticatedRequestContext
  | .Resolve _ => ResolvedModel
  | .EvaluatePolicy _ _ _ => PolicyDecision
  | .EvaluateQuota _ _ _ _ _ => QuotaDecision
  | .CheckRateLimit _ => RateLimitDecision
  | .BuildConverseRequest _ _ => ConverseRequest
  | .Converse _ | .CountTokens _ | .ParseConverseResponse _ _ => Value
  | .ConverseStream _ => List Value
  | .NextEvent _ | .EndOfEvents | .RecordUsage _ | .RecordAudit _ => Unit

-- The consumer of a generator takes the next value or closes the generator.
inductive Demand
  | Next
  | Close
  deriving DecidableEq

inductive RuntimeCall
  | GenerateRequestId
  | PerfCounter
  | Clock
  | EventId
  | Ask (dependency : Dependency)
  | Yield (frame : Frame)

def RuntimeCall.Reply : RuntimeCall → Type
  | .GenerateRequestId | .EventId => String
  | .PerfCounter => Rat
  | .Clock => Int
  | .Ask dependency => Except Failure dependency.Result
  | .Yield _ => Demand

@[reducible] def runtime : Signature := ⟨RuntimeCall, RuntimeCall.Reply⟩

abbrev Runtime (α : Type) : Type := Program runtime Failure α

abbrev Log : Type := List (Answer runtime)

def request (op : RuntimeCall) : Runtime op.Reply := @Program.perform runtime Failure op

-- A call whose exception goes on to the caller.
def attempt (dependency : Dependency) : Runtime dependency.Result := do
  match ← request (.Ask dependency) with
  | .ok value => return value
  | .error error => .Raise error

def ofExcept (result : Except Failure α) : Runtime α :=
  match result with
  | .ok value => .Return value
  | .error error => .Raise error

abbrev answered (dependency : Dependency) (reply : Except Failure dependency.Result) :
    Answer runtime :=
  ⟨.Ask dependency, reply⟩

-- Collaborators that answer each call in a fixed way.
structure Environment where
  requestId : String
  perfCounter : Rat
  clock : Int
  eventId : String
  ask : (dependency : Dependency) → Except Failure dependency.Result
  demand : Frame → Demand

def Environment.reply (environment : Environment) : (op : RuntimeCall) → op.Reply
  | .GenerateRequestId => environment.requestId
  | .PerfCounter => environment.perfCounter
  | .Clock => environment.clock
  | .EventId => environment.eventId
  | .Ask dependency => environment.ask dependency
  | .Yield frame => environment.demand frame

def Environment.run (environment : Environment) (program : Runtime α) :
    Log × Except Failure α :=
  program.record environment.reply

theorem Environment.traces_run (environment : Environment) (program : Runtime α) :
    program.Traces (environment.run program).1 (environment.run program).2 :=
  program.traces_record environment.reply

theorem Environment.ask_of_mem_run (environment : Environment) (program : Runtime α)
    (dependency : Dependency) (reply : Except Failure dependency.Result)
    (h : answered dependency reply ∈ (environment.run program).1) :
    reply = environment.ask dependency :=
  program.mem_record environment.reply _ h

@[simp] theorem traces_ofExcept (result : Except Failure α) (log : Log)
    (outcome : Except Failure α) :
    (ofExcept result).Traces log outcome ↔ log = [] ∧ outcome = result := by
  cases result <;> simp [ofExcept]

theorem traces_ofExcept_bind (result : Except Failure α) (rest : α → Runtime β) (log : Log)
    (outcome : Except Failure β) :
    (ofExcept result >>= rest).Traces log outcome ↔
      (∃ error, result = .error error ∧ log = [] ∧ outcome = .error error) ∨
      ∃ value, result = .ok value ∧ (rest value).Traces log outcome := by
  cases result with
  | ok value => simp [ofExcept]
  | error error => simp [ofExcept]

theorem traces_request_bind (op : RuntimeCall) (rest : op.Reply → Runtime α) (log : Log)
    (outcome : Except Failure α) :
    (request op >>= rest).Traces log outcome ↔
      ∃ reply tail, log = ⟨op, reply⟩ :: tail ∧ (rest reply).Traces tail outcome := Iff.rfl

theorem traces_attempt (dependency : Dependency) (log : Log)
    (outcome : Except Failure dependency.Result) :
    (attempt dependency).Traces log outcome ↔ log = [answered dependency outcome] := by
  constructor
  · rintro ⟨reply, tail, rfl, htail⟩
    cases reply with
    | ok value =>
        obtain ⟨rfl, rfl⟩ := htail
        rfl
    | error error =>
        obtain ⟨rfl, rfl⟩ := htail
        rfl
  · rintro rfl
    refine ⟨outcome, [], rfl, ?_⟩
    cases outcome with
    | ok value => exact ⟨rfl, rfl⟩
    | error error => exact ⟨rfl, rfl⟩

theorem traces_attempt_bind (dependency : Dependency) (rest : dependency.Result → Runtime α)
    (log : Log) (outcome : Except Failure α) :
    (attempt dependency >>= rest).Traces log outcome ↔
      (∃ error, log = [answered dependency (.error error)] ∧ outcome = .error error) ∨
      ∃ value tail, log = answered dependency (.ok value) :: tail ∧
        (rest value).Traces tail outcome := by
  rw [Program.traces_bind]
  constructor
  · rintro (⟨error, h, rfl⟩ | ⟨before, after, value, rfl, h, hrest⟩)
    · exact .inl ⟨error, (traces_attempt _ _ _).mp h, rfl⟩
    · cases (traces_attempt _ _ _).mp h
      exact .inr ⟨value, after, rfl, hrest⟩
  · rintro (⟨error, rfl, rfl⟩ | ⟨value, tail, rfl, hrest⟩)
    · exact .inl ⟨error, (traces_attempt _ _ _).mpr rfl, rfl⟩
    · exact .inr ⟨_, tail, value, rfl, (traces_attempt _ _ _).mpr rfl, hrest⟩

-- The same for a statement of a `do` block, whose reply is a `Unit` that it drops.
theorem traces_recordUsage_bind (event : UsageEventRecord) (rest : Unit → Runtime α) (log : Log)
    (outcome : Except Failure α) :
    (@bind Runtime _ Unit α (attempt (.RecordUsage event)) rest).Traces log outcome ↔
      (∃ error, log = [answered (.RecordUsage event) (.error error)] ∧
        outcome = .error error) ∨
      ∃ tail, log = answered (.RecordUsage event) (.ok ()) :: tail ∧
        (rest ()).Traces tail outcome := by
  refine (traces_attempt_bind (.RecordUsage event) rest log outcome).trans ?_
  constructor
  · rintro (h | ⟨⟨⟩, tail, rfl, hrest⟩)
    · exact .inl h
    · exact .inr ⟨tail, rfl, hrest⟩
  · rintro (h | ⟨tail, rfl, hrest⟩)
    · exact .inl h
    · exact .inr ⟨(), tail, rfl, hrest⟩

def samplePython : Interpreter where
  repr
    | .None => "None"
    | .Boolean b => if b then "True" else "False"
    | _ => "..."
  readInt s := s.toInt?

end ClaudeCodeProxy
