import ClaudeCodeProxy.Api.MessageRuns

namespace ClaudeCodeProxy

open Effects Python

variable {python : Interpreter} {http : HttpRequest}

-- The guarded part of `count_tokens`: the call that raised, or the answer of Bedrock.
inductive CountPipelineRun (http : HttpRequest) (body : Value) (requestId : String) :
    Log → Except Failure Value → Prop
  | AuthenticateRaised (error : Failure) :
      CountPipelineRun http body requestId
        [answered (.Authenticate http.authorization requestId) (.error error)] (.error error)
  | NoModel (authenticated : AuthenticatedRequestContext) (error : Failure)
      (hmodel : raising (body.item "model") = .error error) :
      CountPipelineRun http body requestId
        [answered (.Authenticate http.authorization requestId) (.ok authenticated)]
        (.error error)
  | ResolveRaised (authenticated : AuthenticatedRequestContext) (model : Value) (error : Failure)
      (hmodel : raising (body.item "model") = .ok model) :
      CountPipelineRun http body requestId
        [answered (.Authenticate http.authorization requestId) (.ok authenticated),
          answered (.Resolve model) (.error error)]
        (.error error)
  | BuildRaised (authenticated : AuthenticatedRequestContext) (model : Value)
      (resolvedModel : ResolvedModel) (error : Failure)
      (hmodel : raising (body.item "model") = .ok model) :
      CountPipelineRun http body requestId
        [answered (.Authenticate http.authorization requestId) (.ok authenticated),
          answered (.Resolve model) (.ok resolvedModel),
          answered (.BuildConverseRequest body resolvedModel) (.error error)]
        (.error error)
  | Called (authenticated : AuthenticatedRequestContext) (model : Value)
      (resolvedModel : ResolvedModel) (converseRequest : ConverseRequest)
      (reply : Except Failure Value) (hmodel : raising (body.item "model") = .ok model) :
      CountPipelineRun http body requestId
        [answered (.Authenticate http.authorization requestId) (.ok authenticated),
          answered (.Resolve model) (.ok resolvedModel),
          answered (.BuildConverseRequest body resolvedModel) (.ok converseRequest),
          answered (.CountTokens converseRequest) reply]
        reply

inductive CountRun (python : Interpreter) (http : HttpRequest) :
    Log → Except Failure MessageResponse → Prop
  | Unreadable (error : Failure) (hbody : http.json = .error error) :
      CountRun python http [] (.error error)
  | Refused (body : Value) (idLog tail : Log) (requestId : String) (error : Failure)
      (hbody : http.json = .ok body) (hid : RequestIdRun http idLog requestId)
      (hpipeline : CountPipelineRun http body requestId tail (.error error)) :
      CountRun python http (idLog ++ tail) (errorResponse error requestId)
  | Uncounted (body countResponse : Value) (idLog tail : Log) (requestId : String)
      (error : Failure) (hbody : http.json = .ok body) (hid : RequestIdRun http idLog requestId)
      (hpipeline : CountPipelineRun http body requestId tail (.ok countResponse))
      (hcount : raising (countedTokens python countResponse) = .error error) :
      CountRun python http (idLog ++ tail) (.error error)
  | Counted (body countResponse : Value) (idLog tail : Log) (requestId : String)
      (inputTokens : Int) (hbody : http.json = .ok body) (hid : RequestIdRun http idLog requestId)
      (hpipeline : CountPipelineRun http body requestId tail (.ok countResponse))
      (hcount : raising (countedTokens python countResponse) = .ok inputTokens) :
      CountRun python http (idLog ++ tail)
        ((jsonResponse 200 (.Mapping [("input_tokens", .Integer inputTokens)])).map .Json)

theorem countConverse_run {body : Value} {requestId : String} {log : Log}
    {outcome : Except Failure Value}
    (h : (countConverse http body requestId).Traces log outcome) :
    CountPipelineRun http body requestId log outcome := by
  simp only [countConverse, traces_attempt_bind, traces_ofExcept_bind] at h
  rcases h with ⟨error, rfl, rfl⟩ | ⟨authenticated, tail, rfl, h⟩
  · exact .AuthenticateRaised error
  rcases h with ⟨error, hmodel, rfl, rfl⟩ | ⟨model, hmodel, h⟩
  · exact .NoModel authenticated error hmodel
  rcases h with ⟨error, rfl, rfl⟩ | ⟨resolvedModel, tail, rfl, h⟩
  · exact .ResolveRaised authenticated model error hmodel
  replace h := (traces_attempt_bind (.BuildConverseRequest body resolvedModel) _ _ _).mp h
  rcases h with ⟨error, rfl, rfl⟩ | ⟨converseRequest, tail, rfl, h⟩
  · exact .BuildRaised authenticated model resolvedModel error hmodel
  cases (traces_attempt _ _ _).mp h
  exact .Called authenticated model resolvedModel converseRequest outcome hmodel

-- `count_tokens` after its guarded part: nothing guards what is made of Bedrock's answer.
def replyCount (python : Interpreter) (requestId : String) :
    Except Failure Value → Except Failure MessageResponse
  | .error error => errorResponse error requestId
  | .ok countResponse => do
      let inputTokens ← raising (countedTokens python countResponse)
      (jsonResponse 200 (.Mapping [("input_tokens", .Integer inputTokens)])).map .Json

theorem countTokens_split {log : Log} {outcome : Except Failure MessageResponse}
    (h : (countTokens python http).Traces log outcome) :
    (∃ error, http.json = .error error ∧ log = [] ∧ outcome = .error error) ∨
    ∃ body idLog requestId tail result, http.json = .ok body ∧
      RequestIdRun http idLog requestId ∧ log = idLog ++ tail ∧
      (countConverse http body requestId).Traces tail result ∧
      outcome = replyCount python requestId result := by
  simp only [countTokens, traces_ofExcept_bind] at h
  rcases h with ⟨error, hbody, rfl, rfl⟩ | ⟨body, hbody, h⟩
  · exact .inl ⟨error, hbody, rfl, rfl⟩
  obtain ⟨idLog, tail, requestId, rfl, hid, hrest⟩ := traces_resolveRequestId_bind h
  simp only [Program.traces_bind, Program.traces_captured] at hrest
  rcases hrest with ⟨error, ⟨result, hcontra, -⟩, -⟩ | ⟨tail, rest, answer, rfl, ⟨_, hok, hguarded⟩,
    hrest⟩
  · cases hcontra
  cases hok
  have hsplit : rest = [] ∧ outcome = replyCount python requestId answer := by
    cases answer with
    | error error => exact (traces_ofExcept _ _ _).mp hrest
    | ok countResponse =>
        simp only [replyCount]
        simp only [traces_ofExcept_bind, traces_ofExcept] at hrest
        rcases hrest with ⟨error, hcount, rfl, rfl⟩ | ⟨inputTokens, hcount, rfl, rfl⟩
        · rw [hcount]
          exact ⟨rfl, rfl⟩
        · rw [hcount]
          exact ⟨rfl, rfl⟩
  obtain ⟨rfl, houtcome⟩ := hsplit
  rw [List.append_nil]
  exact .inr ⟨body, idLog, requestId, tail, answer, hbody, hid, rfl, hguarded, houtcome⟩

theorem countTokens_run {log : Log} {outcome : Except Failure MessageResponse}
    (h : (countTokens python http).Traces log outcome) : CountRun python http log outcome := by
  rcases countTokens_split h with ⟨error, hbody, rfl, rfl⟩ |
    ⟨body, idLog, requestId, tail, result, hbody, hid, rfl, hguarded, rfl⟩
  · exact .Unreadable error hbody
  have hpipeline := countConverse_run hguarded
  cases result with
  | error error => exact .Refused body idLog tail requestId error hbody hid hpipeline
  | ok countResponse =>
      rw [replyCount]
      cases hcount : raising (countedTokens python countResponse) with
      | error error =>
          exact .Uncounted body countResponse idLog tail requestId error hbody hid hpipeline hcount
      | ok inputTokens =>
          exact .Counted body countResponse idLog tail requestId inputTokens hbody hid hpipeline
            hcount

-- However the handler ends, its calls are those of the guarded part.
theorem CountRun.split {log : Log} {outcome : Except Failure MessageResponse}
    (h : CountRun python http log outcome) :
    (∃ error, http.json = .error error ∧ log = []) ∨
    ∃ body idLog tail requestId result, http.json = .ok body ∧
      RequestIdRun http idLog requestId ∧ log = idLog ++ tail ∧
      CountPipelineRun http body requestId tail result := by
  cases h with
  | Unreadable error hbody => exact .inl ⟨error, hbody, rfl⟩
  | Refused body idLog tail requestId error hbody hid hpipeline =>
      exact .inr ⟨body, idLog, tail, requestId, _, hbody, hid, rfl, hpipeline⟩
  | Uncounted body countResponse idLog tail requestId error hbody hid hpipeline hcount =>
      exact .inr ⟨body, idLog, tail, requestId, _, hbody, hid, rfl, hpipeline⟩
  | Counted body countResponse idLog tail requestId inputTokens hbody hid hpipeline hcount =>
      exact .inr ⟨body, idLog, tail, requestId, _, hbody, hid, rfl, hpipeline⟩

end ClaudeCodeProxy
