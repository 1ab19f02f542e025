import ClaudeCodeProxy.Api.FailClosed
import ClaudeCodeProxy.Proxy.BedrockConverse.BuiltRequests

-- The limit of a policy on the tokens of an answer, and what Bedrock is asked for.

namespace ClaudeCodeProxy

open Effects Python RequestBuilder

-- `value <= limit`, for a value that is a number
def atMost (limit : Int) : Value → Bool
  | .Boolean b => decide ((if b then 1 else 0) ≤ limit)
  | .Integer n => decide (n ≤ limit)
  | .Float (.Finite x) => decide (x ≤ limit)
  | .Float .NegativeInfinity => true
  | _ => false

-- Bedrock may answer with no more tokens than the limit.
def Capped (limit : Int) (payload : Value) : Prop :=
  ∃ config maxTokens, payload.item "inferenceConfig" = .ok config ∧
    config.item "maxTokens" = .ok maxTokens ∧ atMost limit maxTokens = true

-- The client itself asks for no more.
def AsksWithin (limit : Int) (body : Value) : Prop :=
  ∃ maxTokens, body.item "max_tokens" = .ok maxTokens ∧ atMost limit maxTokens = true

section Configuration

variable {request : Value}

theorem configEntry_ok {key name : String} {convert : Value → Except Failure Value}
    {entries : List (String × Value)} (h : configEntry request key name convert = .ok entries) :
    entries = [] ∨ ∃ value, entries = [(name, value)] := by
  obtain ⟨value, -, h⟩ := bind_eq_ok.mp h
  split_ifs at h
  · exact .inl (pure_eq_ok.mp h).symm
  · obtain ⟨converted, -, h⟩ := bind_eq_ok.mp h
    exact .inr ⟨converted, (pure_eq_ok.mp h).symm⟩

theorem lookup_configEntry {key name other : String} {convert : Value → Except Failure Value}
    {entries : List (String × Value)} (h : configEntry request key name convert = .ok entries)
    (hname : other ≠ name) : Value.lookup entries other = none := by
  rcases configEntry_ok h with rfl | ⟨value, rfl⟩
  · rfl
  · rw [Value.lookup_cons, if_neg hname, Value.lookup_nil]

theorem lookup_maxTokens {fields config : List (String × Value)}
    (h : buildInferenceConfig (.Mapping fields) = .ok config) :
    Value.lookup config "maxTokens" =
      (Value.lookup fields "max_tokens").filter fun value => !value.isNone := by
  simp only [buildInferenceConfig, bind_eq_ok, pure_eq_ok] at h
  obtain ⟨maxTokens, hmax, stops, hstops, temperature, htemperature, topP, htopP, rfl⟩ := h
  simp only [Value.lookup_append, lookup_configEntry hstops (show "maxTokens" ≠ _ by decide),
    lookup_configEntry htemperature (show "maxTokens" ≠ _ by decide),
    lookup_configEntry htopP (show "maxTokens" ≠ _ by decide), Option.or_none]
  simp only [configEntry, getField, Value.get_mapping, raising_ok] at hmax
  cases hvalue : Value.lookup fields "max_tokens" with
  | none =>
      rw [hvalue] at hmax
      cases hmax
      rfl
  | some value =>
      rw [hvalue] at hmax
      cases value <;> cases hmax <;> rfl

end Configuration

theorem capped_iff {python : Interpreter} {body : Value} {resolvedModel : ResolvedModel}
    {built : ConverseRequest} {limit : Int}
    (h : buildConverseRequest python body resolvedModel = .ok built) :
    Capped limit built.payload ↔ AsksWithin limit body := by
  obtain ⟨parts, hparts, rfl⟩ := buildConverseRequest_ok_iff.mp h
  obtain ⟨fields, rfl⟩ := hparts.mapping
  have hlookup := lookup_maxTokens hparts.inferenceConfig
  have hconfig := parts.lookup_inferenceConfig
  constructor
  · rintro ⟨config, maxTokens, hitem, hmax, hmost⟩
    rw [RequestParts.converseRequest, Value.item_eq_ok, hconfig] at hitem
    split_ifs at hitem with hempty
    cases hitem
    rw [Value.item_eq_ok, hlookup] at hmax
    exact ⟨maxTokens, Value.item_eq_ok.mpr (Option.filter_eq_some_iff.mp hmax).1, hmost⟩
  · rintro ⟨maxTokens, hmax, hmost⟩
    have hsome : Value.lookup parts.inferenceConfig "maxTokens" = some maxTokens := by
      rw [hlookup, Value.item_eq_ok.mp hmax]
      cases maxTokens with
      | None => cases hmost
      | _ => rfl
    have hne : parts.inferenceConfig ≠ [] := by
      intro hempty
      rw [hempty] at hsome
      cases hsome
    rw [if_neg hne] at hconfig
    exact ⟨_, maxTokens, Value.item_eq_ok.mpr hconfig, Value.item_eq_ok.mpr hsome, hmost⟩

section Pipeline

variable {python : Interpreter} {audited : Bool} {http : HttpRequest}

-- The request goes to Bedrock.
def Sends (log : Log) (converseRequest : ConverseRequest) : Prop :=
  ∃ bedrock ∈ log, bedrock.1 = .Ask (.Converse converseRequest) ∨
    bedrock.1 = .Ask (.ConverseStream converseRequest)

theorem Sends.mem_bedrockCalls {log : Log} {converseRequest : ConverseRequest}
    (h : Sends log converseRequest) : ∃ bedrock ∈ bedrockCalls log,
      bedrock.1 = .Ask (.Converse converseRequest) ∨
        bedrock.1 = .Ask (.ConverseStream converseRequest) := by
  obtain ⟨bedrock, hmem, hcall⟩ := h
  refine ⟨bedrock, List.mem_filter.mpr ⟨hmem, ?_⟩, hcall⟩
  rcases hcall with hcall | hcall <;> rw [hcall] <;> rfl

theorem PipelineRun.model {body : Value} {requestId : String} {startedAt : Rat}
    {authenticated : AuthenticatedRequestContext} {log : Log}
    {outcome : Except Failure MessageResponse}
    (h : PipelineRun python audited body requestId startedAt authenticated log outcome) :
    log = [] ∨ ∃ model, raising (body.item "model") = .ok model := by
  cases hmodel : raising (body.item "model") with
  | ok model => exact .inr ⟨model, rfl⟩
  | error error =>
      left
      cases h <;> simp_all

-- What goes to Bedrock has been built from the body.
theorem MessageRun.sends {log : Log} {outcome : Except Failure MessageResponse}
    {converseRequest : ConverseRequest} (h : MessageRun python audited http log outcome)
    (hsends : Sends log converseRequest) :
    ∃ body resolvedModel, http.json = .ok body ∧
      answered (.BuildConverseRequest body resolvedModel) (.ok converseRequest) ∈ log := by
  obtain ⟨bedrock, hmem, hcall⟩ := hsends.mem_bedrockCalls
  rcases h.split with ⟨body, idLog, tail, requestId, startedAt, authenticated, result, hbody, hid,
    rfl, -, hpipeline⟩ | ⟨error, -, rfl⟩ | ⟨body, idLog, record, requestId, startedAt, error, -,
    hid, rfl, hstages, -⟩
  · rw [bedrockCalls_append, bedrockCalls_eq_nil hid.quiet.1] at hmem
    change bedrock ∈ bedrockCalls tail at hmem
    rcases hpipeline.model with rfl | ⟨model, hmodel⟩
    · cases hmem
    rcases hpipeline.stages hmodel http.authorization with hnone | ⟨called, hcalled, hgates⟩
    · rw [hnone] at hmem
      cases hmem
    rw [hcalled, List.mem_singleton] at hmem
    subst hmem
    obtain ⟨_, _, resolvedModel, _, _, _, _, built, -, -, -, hbuilt, hlog⟩ := hgates
    have hsame : built = converseRequest := by
      rcases hcall with hcall | hcall <;> rcases hbuilt with hbuilt | hbuilt <;>
        rw [hcall] at hbuilt <;> cases hbuilt <;> rfl
    subst hsame
    have hbuild : answered (.BuildConverseRequest body resolvedModel) (.ok built) ∈
        stages tail := by
      rw [(List.cons.inj hlog).2]
      simp
    have htail := List.mem_of_mem_filter hbuild
    exact ⟨body, resolvedModel, hbody, List.mem_append_right _ (.tail _ (.tail _ htail))⟩
  · cases hmem
  · rw [bedrockCalls_append, bedrockCalls_eq_nil hid.quiet.1] at hmem
    change bedrock ∈ bedrockCalls record at hmem
    rw [bedrockCalls_eq_nil hstages] at hmem
    cases hmem

-- An admitted request with a limit on its answer, and what is sent for it.
structure LimitedSend (log : Log) (limit : Int) (converseRequest : ConverseRequest) : Prop where
  decided : ∃ user model policies decision,
    answered (.EvaluatePolicy user model policies) (.ok decision) ∈ log ∧
      decision.allowed = true ∧ decision.effectiveMaxOutputTokens = some limit
  sends : Sends log converseRequest

-- The limit is kept by the clients that ask for no more, and by no others.
theorem token_cap_iff {log : Log} {outcome : Except Failure MessageResponse} {body : Value}
    {limit : Int} {converseRequest : ConverseRequest}
    (h : (createMessage python audited http).Traces log outcome) (hbody : http.json = .ok body)
    (hbuild : ∀ body resolvedModel, AnswersAs log (.BuildConverseRequest body resolvedModel)
      (buildConverseRequest python body resolvedModel))
    (hlimited : LimitedSend log limit converseRequest) :
    Capped limit converseRequest.payload ↔ AsksWithin limit body := by
  obtain ⟨sent, resolvedModel, hsent, hbuilt⟩ := (createMessage_run h).sends hlimited.sends
  rw [hbody] at hsent
  cases hsent
  exact capped_iff (hbuild body resolvedModel _ hbuilt).symm

end Pipeline

section Samples

-- A policy with a limit of a thousand tokens is in force.
def sampleLimited : Environment := { sampleEnvironment with
  ask
    | .EvaluatePolicy _ _ _ => .ok { allowed := true, effectiveMaxOutputTokens := some 1000 }
    | dependency => sampleEnvironment.ask dependency }

def sampleAsking (maxTokens : List (String × Value)) : HttpRequest := { sampleHttp false with
  json := .ok (.Mapping (sampleBody false ++ maxTokens)) }

def sampleAskingLog (maxTokens : List (String × Value)) : Log :=
  (sampleLimited.run (createMessage samplePython true (sampleAsking maxTokens))).1

theorem sampleLimited_built (maxTokens : List (String × Value)) (body : Value)
    (resolvedModel : ResolvedModel) :
    AnswersAs (sampleAskingLog maxTokens) (.BuildConverseRequest body resolvedModel)
      (buildConverseRequest samplePython body resolvedModel) :=
  sampleLimited.answersAs _ (.BuildConverseRequest body resolvedModel)

-- A client that asks for five hundred tokens keeps the limit.
theorem token_cap_sample : ∃ converseRequest,
    LimitedSend (sampleAskingLog [("max_tokens", .Integer 500)]) 1000 converseRequest ∧
      Capped 1000 converseRequest.payload := by
  have hpolicy : ∃ user model policies decision,
      (sampleAskingLog [("max_tokens", .Integer 500)])[4]? =
        some (answered (.EvaluatePolicy user model policies) (.ok decision)) ∧
      decision.allowed = true ∧ decision.effectiveMaxOutputTokens = some 1000 :=
    ⟨_, _, _, _, rfl, rfl, rfl⟩
  have hconverse : ∃ converseRequest reply,
      (sampleAskingLog [("max_tokens", .Integer 500)])[8]? =
        some (answered (.Converse converseRequest) reply) := ⟨_, _, rfl⟩
  obtain ⟨user, model, policies, decision, hpolicy, hdecision⟩ := hpolicy
  obtain ⟨converseRequest, reply, hconverse⟩ := hconverse
  have hlimited : LimitedSend (sampleAskingLog [("max_tokens", .Integer 500)]) 1000
      converseRequest :=
    ⟨⟨user, model, policies, decision, List.mem_of_getElem? hpolicy, hdecision⟩,
      ⟨_, List.mem_of_getElem? hconverse, .inl rfl⟩⟩
  exact ⟨converseRequest, hlimited, (token_cap_iff (sampleLimited.traces_run _) rfl
    (sampleLimited_built _) hlimited).mpr ⟨.Integer 500, rfl, by decide⟩⟩

-- One that does not ask for anything is not limited.
theorem limit_not_enforced :
    ¬∀ python audited http log outcome body limit converseRequest,
      (createMessage python audited http).Traces log outcome → http.json = .ok body →
      (∀ body resolvedModel, AnswersAs log (.BuildConverseRequest body resolvedModel)
        (buildConverseRequest python body resolvedModel)) →
      LimitedSend log limit converseRequest → Capped limit converseRequest.payload := by
  intro hclaim
  have hpolicy : ∃ user model policies decision, (sampleAskingLog [])[4]? =
      some (answered (.EvaluatePolicy user model policies) (.ok decision)) ∧
        decision.allowed = true ∧ decision.effectiveMaxOutputTokens = some 1000 :=
    ⟨_, _, _, _, rfl, rfl, rfl⟩
  have hconverse : ∃ converseRequest reply, (sampleAskingLog [])[8]? =
      some (answered (.Converse converseRequest) reply) ∧
        converseRequest.payload.item "inferenceConfig" = .error .KeyError := ⟨_, _, rfl, rfl⟩
  obtain ⟨user, model, policies, decision, hpolicy, hdecision⟩ := hpolicy
  obtain ⟨converseRequest, reply, hconverse, hmissing⟩ := hconverse
  obtain ⟨config, maxTokens, hconfig, -⟩ := hclaim samplePython true (sampleAsking [])
    (sampleAskingLog []) _ _ 1000 converseRequest (sampleLimited.traces_run _) rfl
    (sampleLimited_built _)
    ⟨⟨user, model, policies, decision, List.mem_of_getElem? hpolicy, hdecision⟩,
      ⟨_, List.mem_of_getElem? hconverse, .inl rfl⟩⟩
  rw [hmissing] at hconfig
  cases hconfig

end Samples

end ClaudeCodeProxy
