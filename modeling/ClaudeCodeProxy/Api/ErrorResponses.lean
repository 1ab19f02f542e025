import ClaudeCodeProxy.Models.Errors

namespace ClaudeCodeProxy

open Python

def ANTHROPIC_AUTHENTICATION_ERROR : String := "authentication_error"
def ANTHROPIC_PERMISSION_ERROR : String := "permission_error"
def ANTHROPIC_INVALID_REQUEST_ERROR : String := "invalid_request_error"
def ANTHROPIC_RATE_LIMIT_ERROR : String := "rate_limit_error"
def ANTHROPIC_API_ERROR : String := "api_error"

structure JSONResponse where
  statusCode : Nat
  content : Value
  headers : List (String × String) := []
  deriving DecidableEq

-- The constructor renders the content at once and takes no float that JSON has not.
def jsonResponse (statusCode : Nat) (content : Value) (headers : List (String × String) := []) :
    Except Failure JSONResponse :=
  if content.jsonCompliant then .ok ⟨statusCode, content, headers⟩
  else .error (.ofPython .ValueError)

def anthropicErrorResponse (statusCode : Nat) (errorType message requestId : String)
    (headers : Option (List (String × String))) (details : Option (List (String × Value))) :
    Except Failure JSONResponse :=
  let detailsEntry := match details with
    | none | some [] => []
    | some details => [("details", .Mapping details)]
  jsonResponse statusCode (.Mapping [
    ("type", .Str "error"),
    ("error", .Mapping ([("type", .Str errorType), ("message", .Str message)] ++ detailsEntry)),
    ("request_id", .Str requestId)]) (headers.getD [])

def errorType : ErrorCode → String
  | .AuthenticationFailed => ANTHROPIC_AUTHENTICATION_ERROR
  | .AccessDenied => ANTHROPIC_PERMISSION_ERROR
  | .RateLimitExceeded => ANTHROPIC_RATE_LIMIT_ERROR
  | .InvalidRequest | .InvalidIdentity => ANTHROPIC_INVALID_REQUEST_ERROR
  | .InternalError | .UpstreamFailure => ANTHROPIC_API_ERROR
  | .UserNotRegistered => ANTHROPIC_INVALID_REQUEST_ERROR

def serviceErrorResponse (error : ServiceError) : Except Failure JSONResponse :=
  anthropicErrorResponse error.statusCode (errorType error.code) error.message error.requestId
    error.headers error.details

def normalizeException (error : Failure) (requestId : String) : ServiceError :=
  match error with
  | .ServiceError error => error
  | .BedrockRequestBuildError reason message | .ModelResolutionError _ reason message =>
      invalidRequestError requestId message (some [("reason", .Str reason)])
  | _ => upstreamFailureError requestId (some [("reason", .Str error.className)])

def errorResponseForException (error : Failure) (requestId : String) :
    Except Failure JSONResponse :=
  serviceErrorResponse (normalizeException error requestId)

-- The exceptions a client can be told of: a service error has the status of an error,
-- and its details can be written as JSON.
def Failure.Presentable : Failure → Prop
  | .ServiceError error => 400 ≤ error.statusCode ∧
      ∀ details, error.details = some details → (Value.Mapping details).jsonCompliant = true
  | _ => True

theorem serviceErrorResponse_ok (error : ServiceError)
    (hdetails : ∀ details, error.details = some details →
      (Value.Mapping details).jsonCompliant = true) :
    ∃ response, serviceErrorResponse error = .ok response ∧
      response.statusCode = error.statusCode := by
  simp only [serviceErrorResponse, anthropicErrorResponse, jsonResponse]
  split
  · exact ⟨_, if_pos (by simp [Value.jsonCompliant, Value.entriesCompliant]), rfl⟩
  · exact ⟨_, if_pos (by simp [Value.jsonCompliant, Value.entriesCompliant]), rfl⟩
  · rename_i details _ hsome
    have hcompliant := hdetails details hsome
    exact ⟨_, if_pos (by simp [Value.jsonCompliant, Value.entriesCompliant] at hcompliant ⊢
                         exact hcompliant), rfl⟩

theorem presentable_of_reason (error : ServiceError) (reason : String)
    (hstatus : 400 ≤ error.statusCode) (hdetails : error.details = some [("reason", .Str reason)]) :
    (Failure.ServiceError error).Presentable := by
  refine ⟨hstatus, ?_⟩
  intro details h
  rw [hdetails] at h
  cases h
  rfl

-- A service error speaks for itself, a refused request is a client error, and
-- anything else is blamed on the upstream.
theorem normalizeException_presentable (error : Failure) (requestId : String)
    (h : error.Presentable) :
    (Failure.ServiceError (normalizeException error requestId)).Presentable := by
  have hclient : 400 ≤ 400 := le_refl 400
  have hupstream : 400 ≤ 502 := by decide
  cases error with
  | ServiceError error => exact h
  | BedrockRequestBuildError reason message => exact presentable_of_reason _ reason hclient rfl
  | ModelResolutionError model reason message => exact presentable_of_reason _ reason hclient rfl
  | HTTPException status detail => exact presentable_of_reason _ _ hupstream rfl
  | IdentityResolutionError message => exact presentable_of_reason _ _ hupstream rfl
  | Raised exception => exact presentable_of_reason _ _ hupstream rfl

theorem errorResponseForException_status (error : Failure) (requestId : String)
    (h : error.Presentable) :
    ∃ response, errorResponseForException error requestId = .ok response ∧
      400 ≤ response.statusCode := by
  obtain ⟨hstatus, hdetails⟩ := normalizeException_presentable error requestId h
  obtain ⟨response, hresponse, hcode⟩ := serviceErrorResponse_ok _ hdetails
  exact ⟨response, hresponse, hcode ▸ hstatus⟩

theorem jsonResponse_statusCode {statusCode : Nat} {content : Value}
    {headers : List (String × String)} {response : JSONResponse}
    (h : jsonResponse statusCode content headers = .ok response) :
    response.statusCode = statusCode := by
  simp only [jsonResponse] at h
  split_ifs at h
  cases h
  rfl

theorem errorResponseForException_statusCode {error : Failure} {requestId : String}
    {response : JSONResponse} (h : errorResponseForException error requestId = .ok response) :
    response.statusCode = (normalizeException error requestId).statusCode :=
  jsonResponse_statusCode h

-- An exception that is no service error is blamed on the request or on the upstream.
theorem normalizeException_statusCode (error : Failure) (requestId : String)
    (h : ∀ other, error ≠ .ServiceError other) :
    (normalizeException error requestId).statusCode = 400 ∨
      (normalizeException error requestId).statusCode = 502 := by
  cases error with
  | ServiceError error => exact absurd rfl (h error)
  | BedrockRequestBuildError reason message => exact .inl rfl
  | ModelResolutionError model reason message => exact .inl rfl
  | HTTPException status detail => exact .inr rfl
  | IdentityResolutionError message => exact .inr rfl
  | Raised exception => exact .inr rfl

end ClaudeCodeProxy
