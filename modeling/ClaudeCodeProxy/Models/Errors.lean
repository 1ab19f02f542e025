import ClaudeCodeProxy.Python.Value

namespace ClaudeCodeProxy

open Python

inductive ErrorCode
  | UserNotRegistered
  | AccessDenied
  | AuthenticationFailed
  | InvalidIdentity
  | InvalidRequest
  | RateLimitExceeded
  | UpstreamFailure
  | InternalError
  deriving DecidableEq

def ErrorCode.value : ErrorCode → String
  | .UserNotRegistered => "user_not_registered"
  | .AccessDenied => "access_denied"
  | .AuthenticationFailed => "authentication_failed"
  | .InvalidIdentity => "invalid_identity"
  | .InvalidRequest => "invalid_request"
  | .RateLimitExceeded => "rate_limit_exceeded"
  | .UpstreamFailure => "upstream_failure"
  | .InternalError => "internal_error"

structure ServiceError where
  code : ErrorCode
  message : String
  statusCode : Nat
  requestId : String
  details : Option (List (String × Value)) := none
  headers : Option (List (String × String)) := none
  deriving DecidableEq

-- Details that say nothing are left out.
def buildErrorEnvelope (error : ServiceError) : Value :=
  let details := match error.details with
    | none | some [] => []
    | some details => [("details", .Mapping details)]
  .Mapping [("error", .Mapping ([
    ("type", .Str error.code.value),
    ("message", .Str error.message),
    ("request_id", .Str error.requestId)] ++ details))]

-- The exceptions the services tell apart; any other is known by the name of its class.
inductive Failure
  | ServiceError (error : ServiceError)
  | HTTPException (statusCode : Nat) (detail : String)
  | IdentityResolutionError (message : String)
  | ModelResolutionError (requestedModel : Value) (reason message : String)
  | BedrockRequestBuildError (reason message : String)
  | Raised (exception : String)
  deriving DecidableEq

-- `error.__class__.__name__`
def Failure.className : Failure → String
  | .ServiceError _ => "ServiceError"
  | .HTTPException _ _ => "HTTPException"
  | .IdentityResolutionError _ => "IdentityResolutionError"
  | .ModelResolutionError _ _ _ => "ModelResolutionError"
  | .BedrockRequestBuildError _ _ => "BedrockRequestBuildError"
  | .Raised exception => exception

-- An exception of the language among those of the services.
def Failure.ofPython (exception : Exception) : Failure := .Raised exception.name

def raising (result : Except Exception α) : Except Failure α := result.mapError Failure.ofPython

@[simp] theorem raising_ok (value : α) : raising (.ok value) = .ok value := rfl

@[simp] theorem raising_error (exception : Exception) :
    raising (.error exception : Except Exception α) = .error (.ofPython exception) := rfl

theorem raising_eq_error {result : Except Exception α} {error : Failure}
    (h : raising result = .error error) :
    ∃ exception, result = .error exception ∧ error = .ofPython exception := by
  cases result with
  | ok value => cases h
  | error exception =>
      cases h
      exact ⟨exception, rfl, rfl⟩

theorem raising_eq_ok {result : Except Exception α} {value : α} (h : raising result = .ok value) :
    result = .ok value := by
  cases result with
  | ok value' =>
      cases h
      rfl
  | error exception => cases h

-- Whatever comes out, it is no service error.
def Unserviced (result : Except Failure α) : Prop := ∀ error, result ≠ .error (.ServiceError error)

section Laws

@[simp] theorem unserviced_pure (value : α) : Unserviced (pure value) := by
  rintro error ⟨⟩

@[simp] theorem unserviced_throw (error : Failure) :
    Unserviced (throw error : Except Failure α) ↔ ∀ other, error ≠ .ServiceError other := by
  simp [Unserviced, throw, throwThe, MonadExceptOf.throw]

@[simp] theorem unserviced_raising (result : Except Exception α) : Unserviced (raising result) := by
  intro error h
  obtain ⟨exception, -, hcontra⟩ := raising_eq_error h
  cases hcontra

@[simp] theorem unserviced_ite (condition : Prop) [Decidable condition]
    (first second : Except Failure α) :
    Unserviced (if condition then first else second) ↔
      (condition → Unserviced first) ∧ (¬condition → Unserviced second) := by
  by_cases h : condition <;> simp [h]

@[simp] theorem unserviced_bind (result : Except Failure α) (rest : α → Except Failure β) :
    Unserviced (result >>= rest) ↔
      Unserviced result ∧ ∀ value, result = .ok value → Unserviced (rest value) := by
  cases result with
  | ok value => simp [Unserviced, bind, Except.bind]
  | error error => simp [Unserviced, bind, Except.bind]

@[simp] theorem unserviced_map (f : α → β) (result : Except Failure α) :
    Unserviced (f <$> result) ↔ Unserviced result := by
  cases result <;> simp [Unserviced, Functor.map, Except.map]

theorem unserviced_mapM {f : α → Except Failure β} (h : ∀ value, Unserviced (f value))
    (values : List α) : Unserviced (values.mapM f) := by
  induction values with
  | nil => simp
  | cons value values ih => simp [List.mapM_cons, h value, ih]

end Laws

def userNotRegisteredError (requestId : String)
    (details : Option (List (String × Value)) := none) : ServiceError where
  code := .UserNotRegistered
  message := "The caller is not provisioned for Claude Code Proxy."
  statusCode := 403
  requestId := requestId
  details := details

def authenticationFailedError (requestId : String)
    (details : Option (List (String × Value)) := none)
    (message : String := "Authentication failed.") : ServiceError where
  code := .AuthenticationFailed
  message := message
  statusCode := 401
  requestId := requestId
  details := details

def accessDeniedError (requestId : String) (details : Option (List (String × Value)) := none)
    (message : String := "Access denied.") : ServiceError where
  code := .AccessDenied
  message := message
  statusCode := 403
  requestId := requestId
  details := details

def invalidRequestError (requestId message : String)
    (details : Option (List (String × Value)) := none) : ServiceError where
  code := .InvalidRequest
  message := message
  statusCode := 400
  requestId := requestId
  details := details

def rateLimitExceededError (requestId : String)
    (details : Option (List (String × Value)) := none)
    (headers : Option (List (String × String)) := none)
    (message : String := "Rate limit exceeded.") : ServiceError where
  code := .RateLimitExceeded
  message := message
  statusCode := 429
  requestId := requestId
  details := details
  headers := headers

def upstreamFailureError (requestId : String) (details : Option (List (String × Value)) := none)
    (message : String := "Upstream request failed.") (statusCode : Nat := 502) :
    ServiceError where
  code := .UpstreamFailure
  message := message
  statusCode := statusCode
  requestId := requestId
  details := details

def internalError (requestId : String) (details : Option (List (String × Value)) := none)
    (message : String := "Internal server error") (statusCode : Nat := 500) : ServiceError where
  code := .InternalError
  message := message
  statusCode := statusCode
  requestId := requestId
  details := details

end ClaudeCodeProxy
