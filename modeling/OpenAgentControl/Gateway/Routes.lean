import OpenAgentControl.Application.Receipting
import OpenAgentControl.Application.Delegation
import OpenAgentControl.Application.Downstream

/-! # The routes of the gateway

`gateway/routes/mcp.py` and `authorize.py`: the transport envelopes of `execute` and `authorize`, and
what reaches the caller. Over ports that answer as they promise, an object posted to the raw MCP route
comes back as a JSON-RPC response exactly when its fields have the types of a call
(`mcpProxy_answers_iff`). -/

namespace OpenAgentControl
set_option autoImplicit false
set_option maxHeartbeats 250000

open Foundations

structure JsonResponse where
  statusCode : ℕ
  content : Json
deriving DecidableEq

/-- What a route ends with: a response, or an exception nobody handles. -/
inductive RouteOutcome
  | response (r : JsonResponse)
  | unhandled (e : Exc)
deriving DecidableEq

/-- The content of `_jsonrpc_error_response`. -/
def jsonrpcErrorContent (requestId : Json) (code : ℤ) (message : String) : Json :=
  .obj [("jsonrpc", .str "2.0"), ("id", requestId),
    ("error", .obj [("code", .int code), ("message", .str message)])]

/-- `_jsonrpc_error_response`. -/
def jsonrpcErrorResponse (statusCode : ℕ) (requestId : Json) (code : ℤ) (message : String) :
    RouteOutcome :=
  -- `JSONResponse` renders its content when it is made, so that an id without a JSON text raises here
  if requestId.renderable then
    .response { statusCode, content := jsonrpcErrorContent requestId code message }
  else .unhandled valueError

/-- What the MCP route makes of the outcome of `execute` on a body with this id. -/
def respond (requestId : Json) : Except Exc Json → RouteOutcome
  | .ok content => .response { statusCode := 200, content }
  | .error (.identity message) =>
    jsonrpcErrorResponse 401 requestId (-32001) ("Identity error: " ++ message)
  | .error (.missingSubjectToken message) =>
    jsonrpcErrorResponse 401 requestId (-32003) ("Delegation error: " ++ message)
  | .error e => .unhandled e

/-- `mcp_proxy`, from the body as `request.json()` reads it. -/
def mcpProxy (svc : GovernedExecutionService) (headers : Headers) : Option Json → RouteOutcome
  | none => jsonrpcErrorResponse 400 .null (-32700) "Parse error: body is not valid JSON"
  | some (.obj body) =>
    respond ((Dict.get? body "id").getD .null) (svc.execute headers body).result
  | some _ =>
    jsonrpcErrorResponse 400 .null (-32600) "Invalid request: body must be a JSON-RPC object"

/-- `AuthorizeResponse` of an outcome. -/
def authorizeResponse (outcome : AuthorizationOutcome) : Json :=
  .obj [("allowed", .bool outcome.allowed), ("decision", .str outcome.decision.decision.value),
    ("reason", .str outcome.decision.reason), ("shadowed", .bool outcome.shadowed),
    ("instruction", .str (if outcome.allowed then "" else stopInstruction)),
    ("receipt_id", .str outcome.receipt.sequenceId),
    ("receipt_signature", optionalString outcome.receipt.signature)]

def authorizePayload (tool : String) (arguments : Dict) : Dict :=
  [("jsonrpc", .str "2.0"), ("id", .null), ("method", .str "tools/call"),
    ("params", .obj [("name", .str tool), ("arguments", .obj arguments)])]

/-- What the authorize route makes of the outcome of `authorize`. -/
def respondAuthorize : Except Exc AuthorizationOutcome → RouteOutcome
  | .ok outcome => .response { statusCode := 200, content := authorizeResponse outcome }
  | .error (.identity message) =>
    .response
      { statusCode := 401, content := .obj [("detail", .str ("Identity error: " ++ message))] }
  | .error (.missingSubjectToken message) =>
    .response
      { statusCode := 401, content := .obj [("detail", .str ("Delegation error: " ++ message))] }
  | .error e => .unhandled e

/-- `authorize` of the routes, from a body that FastAPI has validated. -/
def authorizeRoute (svc : GovernedExecutionService) (headers : Headers) (tool : String)
    (arguments : Dict) : RouteOutcome :=
  respondAuthorize (svc.authorize headers (authorizePayload tool arguments)).result

/-! ## Bodies of a call -/

def isNullableStr : Json → Bool
  | .null => true
  | .str _ => true
  | _ => false

/-- A value that an `str | int | None` field takes. -/
def isIdValue : Json → Bool
  | .null => true
  | .str _ => true
  | .int _ => true
  | .bool _ => true
  | .float (.finite literal) =>
    let value := decimalValue literal.text
    decide (value.den = 1 ∧ -9223372036854775808 < value.num ∧ value.num < 9223372036854775808)
  | _ => false

/-- An object with the fields of a call, or a value that `or {}` replaces. -/
def isCallParams : Json → Bool
  | .obj params =>
    optionalField params "name" isNullableStr && optionalField params "arguments" isObj
  | value => !value.truthy

/-- The fields of the body have the types that a call takes. -/
def callTyped (body : Dict) : Bool :=
  optionalField body "method" isStr && optionalField body "params" isCallParams &&
    optionalField body "id" isIdValue

/-! ## Which bodies build a call -/

section Build

variable {α β : Type}

/-- No exception of a domain class. -/
def RaisesOther (x : Except Exc α) : Prop := ∀ e, x = .error e → ∃ name, e = .other name

/-- A validated field with a default: it is taken exactly when it is absent or of the type. -/
theorem returns_field_iff {validate : Json → Except Exc α} {allowed : Json → Bool} {default : Json}
    (hdefault : Returns (validate default))
    (hallowed : ∀ value, Returns (validate value) ↔ allowed value = true) (d : Dict) (key : String) :
    Returns (validate ((d.get? key).getD default)) ↔ optionalField d key allowed = true := by
  unfold optionalField
  cases d.get? key with
  | none => exact iff_of_true hdefault rfl
  | some value => exact hallowed value

theorem returns_ok (a : α) : Returns (.ok a) := ⟨a, rfl⟩

theorem not_returns_error (e : Exc) : ¬ Returns (.error e : Except Exc α) := nofun

theorem validateStr_iff (value : Json) : Returns (validateStr value) ↔ isStr value = true := by
  cases value with
  | str s => exact iff_of_true (returns_ok s) rfl
  | _ => exact iff_of_false (not_returns_error _) Bool.false_ne_true

theorem validateOptionalStr_iff (value : Json) :
    Returns (validateOptionalStr value) ↔ isNullableStr value = true := by
  cases value with
  | null => exact iff_of_true (returns_ok none) rfl
  | str s => exact iff_of_true (returns_ok (some s)) rfl
  | _ => exact iff_of_false (not_returns_error _) Bool.false_ne_true

theorem validateDict_iff (value : Json) : Returns (validateDict value) ↔ isObj value = true := by
  cases value with
  | obj fields => exact iff_of_true (returns_ok fields) rfl
  | _ => exact iff_of_false (not_returns_error _) Bool.false_ne_true

theorem validateRequestId_iff (value : Json) :
    Returns (validateRequestId value) ↔ isIdValue value = true := by
  cases value with
  | null => exact iff_of_true (returns_ok none) rfl
  | str s => exact iff_of_true (returns_ok _) rfl
  | int n => exact iff_of_true (returns_ok _) rfl
  | bool b => exact iff_of_true (returns_ok _) rfl
  | float x =>
    cases x with
    | finite literal =>
      simp only [validateRequestId, isIdValue, decide_eq_true_eq]
      split_ifs with hwhole
      · exact iff_of_true (returns_ok _) hwhole
      · exact iff_of_false (not_returns_error _) hwhole
    | inf negative => exact iff_of_false (not_returns_error _) Bool.false_ne_true
    | nan => exact iff_of_false (not_returns_error _) Bool.false_ne_true
  | arr items => exact iff_of_false (not_returns_error _) Bool.false_ne_true
  | obj fields => exact iff_of_false (not_returns_error _) Bool.false_ne_true

/-- What becomes of `params`: the fields of the object, or none. -/
theorem paramsOf_iff (body : Dict) :
    (∃ params, paramsOf body = .ok params ∧ optionalField params "name" isNullableStr = true ∧
        optionalField params "arguments" isObj = true) ↔
      optionalField body "params" isCallParams = true := by
  unfold paramsOf optionalField
  cases body.get? "params" with
  | none => exact iff_of_true ⟨[], rfl, rfl, rfl⟩ rfl
  | some value =>
    cases value with
    | obj params =>
      cases params with
      | nil => exact iff_of_true ⟨[], rfl, rfl, rfl⟩ rfl
      | cons field rest =>
        simp only [isCallParams, Bool.and_eq_true]
        constructor
        · rintro ⟨params, hparams, hname, harguments⟩
          cases hparams
          exact ⟨hname, harguments⟩
        · rintro ⟨hname, harguments⟩
          exact ⟨field :: rest, rfl, hname, harguments⟩
    | _ =>
      simp only [isCallParams]
      split_ifs with htruthy
      · refine iff_of_false ?_ (by simp [htruthy])
        rintro ⟨params, hparams, -⟩
        cases hparams
      · exact iff_of_true ⟨[], rfl, rfl, rfl⟩ (by simp [htruthy])

theorem buildCall_iff (body : Dict) (agent : AgentIdentity)
    (registration : Option RegisteredAgent) :
    Returns (buildCall body agent registration) ↔ callTyped body = true := by
  have hmethod := returns_field_iff ((validateStr_iff (.str "")).mpr rfl) validateStr_iff body "method"
  have hid := returns_field_iff ((validateRequestId_iff .null).mpr rfl) validateRequestId_iff body "id"
  have hname := fun params => returns_field_iff ((validateOptionalStr_iff .null).mpr rfl)
    validateOptionalStr_iff params "name"
  have harguments := fun params => returns_field_iff ((validateDict_iff (.obj [])).mpr rfl)
    validateDict_iff params "arguments"
  unfold buildCall callTyped
  rw [Bool.and_eq_true, Bool.and_eq_true, ← hmethod, ← hid, ← paramsOf_iff]
  simp only [returns_bind_iff, ← hname, ← harguments]
  constructor
  · rintro ⟨params, hparams, method, hm, name, hn, arguments, ha, requestId, hi, -⟩
    exact ⟨⟨⟨method, hm⟩, params, hparams, ⟨name, hn⟩, arguments, ha⟩, requestId, hi⟩
  · rintro ⟨⟨⟨method, hm⟩, params, hparams, ⟨name, hn⟩, arguments, ha⟩, requestId, hi⟩
    exact ⟨params, hparams, method, hm, name, hn, arguments, ha, requestId, hi, _, rfl⟩

theorem raisesOther_ok (a : α) : RaisesOther (.ok a) := nofun

theorem raisesOther_error (name : String) : RaisesOther (.error (.other name) : Except Exc α) := by
  intro e he
  exact ⟨name, (Except.error.inj he).symm⟩

theorem raisesOther_bind {x : Except Exc α} {f : α → Except Exc β} (hx : RaisesOther x)
    (hf : ∀ a, RaisesOther (f a)) : RaisesOther (x >>= f) := by
  cases x with
  | ok a => exact hf a
  | error e =>
    intro e' he
    exact hx e' (congrArg Except.error (Except.error.inj he))

theorem validateStr_raises (value : Json) : RaisesOther (validateStr value) := by
  cases value with
  | str s => exact raisesOther_ok s
  | _ => exact raisesOther_error _

theorem validateOptionalStr_raises (value : Json) : RaisesOther (validateOptionalStr value) := by
  cases value with
  | null => exact raisesOther_ok none
  | str s => exact raisesOther_ok (some s)
  | _ => exact raisesOther_error _

theorem validateDict_raises (value : Json) : RaisesOther (validateDict value) := by
  cases value with
  | obj fields => exact raisesOther_ok fields
  | _ => exact raisesOther_error _

theorem validateRequestId_raises (value : Json) : RaisesOther (validateRequestId value) := by
  unfold validateRequestId
  split
  case h_5 =>
    simp only
    split_ifs
    · exact raisesOther_ok _
    · exact raisesOther_error _
  case h_6 => exact raisesOther_error _
  all_goals exact raisesOther_ok _

theorem paramsOf_raises (body : Dict) : RaisesOther (paramsOf body) := by
  unfold paramsOf
  split
  · exact raisesOther_ok []
  · split_ifs
    · split
      · exact raisesOther_ok _
      · exact raisesOther_error _
    · exact raisesOther_ok []

/-- Validation raises no exception that the route knows. -/
theorem buildCall_raises (body : Dict) (agent : AgentIdentity)
    (registration : Option RegisteredAgent) : RaisesOther (buildCall body agent registration) := by
  refine raisesOther_bind (paramsOf_raises body) fun params => ?_
  refine raisesOther_bind (validateStr_raises _) fun method => ?_
  refine raisesOther_bind (validateOptionalStr_raises _) fun toolName => ?_
  refine raisesOther_bind (validateDict_raises _) fun arguments => ?_
  exact raisesOther_bind (validateRequestId_raises _) fun requestId => raisesOther_ok _

end Build

/-! ## What the caller is answered -/

/-- A JSON-RPC 2.0 response: a result or an error, not both. -/
def IsResponse : Json → Prop
  | .obj fields => Dict.get? fields "jsonrpc" = some (.str "2.0") ∧
      (Dict.get? fields "id").isSome = true ∧
      (Dict.get? fields "result").isSome ≠ (Dict.get? fields "error").isSome
  | _ => False

theorem isResponse_jsonrpcError (requestId : Option RequestId) (code : ℤ)
    (message instruction : String) :
    IsResponse (jsonrpcError requestId code message instruction) :=
  ⟨rfl, rfl, Bool.false_ne_true⟩

theorem isResponse_jsonrpcErrorContent (requestId : Json) (code : ℤ) (message : String) :
    IsResponse (jsonrpcErrorContent requestId code message) :=
  ⟨rfl, rfl, Bool.false_ne_true⟩

theorem jsonrpcErrorResponse_of_renderable {requestId : Json} (hid : requestId.renderable = true)
    (statusCode : ℕ) (code : ℤ) (message : String) :
    jsonrpcErrorResponse statusCode requestId code message =
      .response ⟨statusCode, jsonrpcErrorContent requestId code message⟩ := if_pos hid

theorem jsonrpcErrorResponse_eq {statusCode : ℕ} {requestId : Json} {code : ℤ} {message : String}
    {r : JsonResponse} (h : jsonrpcErrorResponse statusCode requestId code message = .response r) :
    requestId.renderable = true ∧ r = ⟨statusCode, jsonrpcErrorContent requestId code message⟩ := by
  unfold jsonrpcErrorResponse at h
  split_ifs at h with hid
  exact ⟨hid, (RouteOutcome.response.inj h).symm⟩

/-- An error is answered exactly when the id that it echoes has a JSON text. -/
theorem jsonrpcErrorResponse_iff {statusCode : ℕ} {requestId : Json} {code : ℤ} {message : String} :
    (∃ content, jsonrpcErrorResponse statusCode requestId code message =
      .response ⟨statusCode, content⟩) ↔ requestId.renderable = true :=
  ⟨fun ⟨_, hcontent⟩ => (jsonrpcErrorResponse_eq hcontent).1, fun hid =>
    ⟨_, jsonrpcErrorResponse_of_renderable hid statusCode code message⟩⟩

theorem isResponse_filterListing {call : ToolCallRequest} {fields kept : Dict}
    (h : IsResponse (.obj fields)) (hfilter : filterListing (.obj fields) call = .ok (.obj kept)) :
    IsResponse (.obj kept) := by
  by_cases hlist : call.method = "tools/list"
  · cases htools : toolsOf? fields with
    | none =>
      rw [filterListing_none htools] at hfilter
      cases hfilter
      exact h
    | some found =>
      obtain ⟨result, tools⟩ := found
      rw [filterListing_some hlist htools] at hfilter
      cases hproject : projectTools ((call.registration.map RegisteredAgent.toolNames).getD [])
          tools with
      | error e =>
        rw [hproject] at hfilter
        cases hfilter
      | ok tools' =>
        rw [hproject] at hfilter
        cases hfilter
        obtain ⟨hversion, hid, hone⟩ := h
        have hresult : (Dict.get? fields "result").isSome = true := by
          unfold toolsOf? at htools
          split at htools
          case h_1 hsome => rw [hsome]; rfl
          case h_2 => cases htools
        refine ⟨?_, ?_, ?_⟩
        · rw [withTools, Dict.get?_set, if_neg (by decide)]
          exact hversion
        · rw [withTools, Dict.get?_set, if_neg (by decide)]
          exact hid
        · rw [withTools, Dict.get?_set, Dict.get?_set, if_pos rfl, if_neg (by decide)]
          rw [hresult] at hone
          exact hone
  · rw [filterListing, if_pos hlist] at hfilter
    cases hfilter
    exact h

namespace GovernedExecutionService

/-- Ports that answer as `domain/ports.py` has it: a value, or the error of the domain that the port
names. A listing of the upstream gives its tools names that can be looked up. -/
structure AnswersNormally (svc : GovernedExecutionService) : Prop where
  registry : ∀ spiffeId, ∃ registration, svc.agentRegistry spiffeId = .ok registration
  verifier : ∀ verify, svc.subjectVerifier = some verify → ∀ token,
    (∃ subject, verify token = .ok subject) ∨ ∃ message, verify token = .error (.identity message)
  engine : svc.EngineAnswers
  ledger : ∀ agent call decision enforced, ∃ receipt,
    svc.ledger agent call decision enforced = .ok receipt
  exporter : ∀ receipt, svc.auditExporter receipt = .ok ()
  exchange : ∀ token audience, (∃ credential, svc.tokenExchange token audience = .ok credential) ∨
    ∃ message, svc.tokenExchange token audience = .error (.tokenExchange message)
  upstream : ∀ call credential,
    (∃ fields, svc.mcpUpstream call credential = .ok (.obj fields) ∧ IsResponse (.obj fields) ∧
      Listable call fields) ∨
    ∃ message, svc.mcpUpstream call credential = .error (.upstream message)

/-- A response, or one of the exceptions that the route turns into one. -/
def Answered (result : Except Exc Json) : Prop :=
  (∃ response, result = .ok response ∧ IsResponse response) ∨
    (∃ message, result = .error (.identity message)) ∨
    ∃ message, result = .error (.missingSubjectToken message)

variable {svc : GovernedExecutionService} {headers : Headers} {body : Dict} {agent : AgentIdentity}

theorem answered_error (requestId : Option RequestId) (code : ℤ) (message instruction : String) :
    Answered (.ok (jsonrpcError requestId code message instruction)) :=
  Or.inl ⟨_, rfl, isResponse_jsonrpcError requestId code message instruction⟩

theorem resolveSubject_refused (h : svc.AnswersNormally) {built : ToolCallRequest} {e : Exc}
    (hresolve : (svc.resolveSubject headers agent built).result = .error e) :
    ∃ message, e = .identity message := by
  by_cases hauto : svc.subjectVerifier = none ∨ subjectToken headers = ""
  · rw [resolveSubject_autonomous hauto] at hresolve
    cases hresolve
  · rw [not_or] at hauto
    obtain ⟨verify, hverifier⟩ := Option.ne_none_iff_exists'.mp hauto.1
    rw [resolveSubject_delegated hverifier hauto.2] at hresolve
    obtain ⟨subject, hverify⟩ | ⟨message, hverify⟩ := h.verifier verify hverifier
      (subjectToken headers)
    · rw [Traced.bind_of_ok hverify] at hresolve
      obtain hbind | ⟨message, hbind⟩ := bindSubject_cases agent subject svc.subjectBinding
      · rw [Traced.bind_of_ok hbind] at hresolve
        cases hresolve
      · rw [Traced.bind_of_error hbind] at hresolve
        exact ⟨message, (Except.error.inj hresolve).symm⟩
    · rw [Traced.bind_of_error hverify] at hresolve
      exact ⟨message, (Except.error.inj hresolve).symm⟩

theorem forwardCall_answered (h : svc.AnswersNormally) (call : ToolCallRequest)
    (credential : String) : Answered (svc.forwardCall call credential).result := by
  rw [forwardCall_result]
  obtain ⟨fields, hforward, hresponse, hlistable⟩ | ⟨message, hforward⟩ := h.upstream call credential
  · obtain ⟨-, kept, hfilter⟩ | ⟨hnot, -⟩ := filterListing_cases call fields
    · rw [hforward]
      simp only [bind, Except.bind, hfilter]
      exact Or.inl ⟨.obj kept, rfl, isResponse_filterListing hresponse hfilter⟩
    · exact absurd hlistable hnot
  · rw [hforward]
    exact answered_error _ _ _ _

theorem brokerCredential_normal (h : svc.AnswersNormally) :
    (∃ credential, (svc.brokerCredential agent headers).result = .ok credential) ∨
      (∃ message, (svc.brokerCredential agent headers).result = .error (.tokenExchange message)) ∨
      ∃ message, (svc.brokerCredential agent headers).result =
        .error (.missingSubjectToken message) := by
  by_cases htoken : HasToken headers agent
  · rw [brokerCredential_result htoken]
    cases tokenOf headers agent with
    | none => exact Or.inl ⟨_, rfl⟩
    | some token =>
      obtain hok | herror := h.exchange token svc.delegatedAudience
      · exact Or.inl hok
      · exact Or.inr (Or.inl herror)
  · rw [HasToken, Classical.not_imp, not_not] at htoken
    obtain ⟨sponsor, hsponsor⟩ := Option.ne_none_iff_exists'.mp htoken.1
    rw [brokerCredential_missing hsponsor htoken.2]
    exact Or.inr (Or.inr ⟨_, rfl⟩)

theorem proceed_answered (h : svc.AnswersNormally) (outcome : AuthorizationOutcome) :
    Answered (svc.proceed headers outcome).result := by
  cases hallowed : outcome.allowed with
  | false =>
    unfold proceed
    rw [hallowed]
    exact answered_error _ _ _ _
  | true =>
    rw [proceed_result hallowed]
    obtain ⟨credential, hbroker⟩ | ⟨message, hbroker⟩ | ⟨message, hbroker⟩ :=
      @brokerCredential_normal svc headers outcome.call.agent h
    · rw [hbroker]
      exact forwardCall_answered h outcome.call credential
    · rw [hbroker]
      exact answered_error _ _ _ _
    · rw [hbroker]
      exact Or.inr (Or.inr ⟨message, rfl⟩)

theorem execute_answered {registration : Option RegisteredAgent} {built : ToolCallRequest}
    (h : svc.AnswersNormally) (hidentify : svc.identityProvider headers = .ok agent)
    (hlookup : svc.agentRegistry agent.spiffeId = .ok registration)
    (hbuilt : buildCall body agent registration = .ok built) :
    Answered (svc.execute headers body).result := by
  by_cases haccepted : svc.SubjectAccepted headers agent
  · obtain ⟨run, -⟩ := authorizedRun_of_built hidentify hlookup hbuilt h.engine h.ledger h.exporter
      haccepted
    rw [execute_of_ok (by rw [run.authorizeCore_eq])]
    exact proceed_answered h run.outcome
  · cases hresolve : (svc.resolveSubject headers agent built).result with
    | ok call =>
      exact absurd ((resolved_iff built).mpr ⟨call, _, resolveSubject_ok hresolve⟩) haccepted
    | error e =>
      obtain ⟨message, rfl⟩ := resolveSubject_refused h hresolve
      have hcore := authorizeCore_of_refused hidentify hlookup hbuilt hresolve
      rw [execute_of_error (by rw [hcore])]
      exact Or.inr (Or.inl ⟨message, rfl⟩)

/-- A call that cannot be built ends the run with the exception of its validation. -/
theorem execute_unbuilt {registration : Option RegisteredAgent} {e : Exc}
    (hidentify : svc.identityProvider headers = .ok agent)
    (hlookup : svc.agentRegistry agent.spiffeId = .ok registration)
    (hbuilt : buildCall body agent registration = .error e) :
    (svc.execute headers body).result = .error e := by
  have hcore : (svc.authorizeCore headers body).result = .error e := by
    unfold authorizeCore
    rw [Traced.bind_of_ok hidentify, Traced.bind_of_ok hlookup, Traced.bind_of_error hbuilt]
  rw [execute_of_error hcore]

theorem execute_answered_iff (hidentify : svc.identityProvider headers = .ok agent)
    (h : svc.AnswersNormally) :
    Answered (svc.execute headers body).result ↔ callTyped body = true := by
  obtain ⟨registration, hlookup⟩ := h.registry agent.spiffeId
  rw [← buildCall_iff body agent registration]
  cases hbuilt : buildCall body agent registration with
  | ok built => exact iff_of_true (execute_answered h hidentify hlookup hbuilt) (returns_ok built)
  | error e =>
    refine iff_of_false ?_ (not_returns_error e)
    obtain ⟨name, rfl⟩ := buildCall_raises body agent registration e hbuilt
    rw [execute_unbuilt hidentify hlookup hbuilt]
    rintro (⟨response, habs, -⟩ | ⟨message, habs⟩ | ⟨message, habs⟩)
    · cases habs
    · cases habs
    · cases habs

theorem respond_of_answered {requestId : Json} (hid : requestId.renderable = true)
    {result : Except Exc Json} (h : Answered result) :
    ∃ r, respond requestId result = .response r ∧ IsResponse r.content := by
  obtain ⟨response, rfl, hresponse⟩ | ⟨message, rfl⟩ | ⟨message, rfl⟩ := h
  · exact ⟨_, rfl, hresponse⟩
  · exact ⟨_, jsonrpcErrorResponse_of_renderable hid _ _ _, isResponse_jsonrpcErrorContent _ _ _⟩
  · exact ⟨_, jsonrpcErrorResponse_of_renderable hid _ _ _, isResponse_jsonrpcErrorContent _ _ _⟩

/-- The id of a call can be echoed. -/
theorem renderable_of_callTyped (h : callTyped body = true) :
    ((Dict.get? body "id").getD .null).renderable = true := by
  unfold callTyped at h
  rw [Bool.and_eq_true] at h
  have hid := h.2
  unfold optionalField at hid
  cases hget : Dict.get? body "id" with
  | none => rfl
  | some value =>
    rw [hget] at hid
    cases value with
    | float x =>
      cases x with
      | finite literal => rfl
      | _ => cases hid
    | arr items => cases hid
    | obj fields => cases hid
    | _ => rfl

/-- A body posted by a caller whose identity resolves is answered with a JSON-RPC response, and no
exception but the two the route knows reaches it, exactly when its fields have the types of a call. -/
theorem mcpProxy_answers_iff (svc : GovernedExecutionService) (headers : Headers) (body : Dict)
    (agent : AgentIdentity) (hidentify : svc.identityProvider headers = .ok agent)
    (hports : svc.AnswersNormally) :
    ((∃ r, mcpProxy svc headers (some (.obj body)) = .response r ∧ IsResponse r.content) ∧
        Answered (svc.execute headers body).result) ↔
      callTyped body = true := by
  rw [mcpProxy, ← execute_answered_iff hidentify hports]
  refine and_iff_right_of_imp fun hanswered => respond_of_answered ?_ hanswered
  exact renderable_of_callTyped ((execute_answered_iff hidentify hports).mp hanswered)

/-! ## A null method -/

/-- The fixed service, with an upstream that answers in the envelope of JSON-RPC. -/
def enveloped : GovernedExecutionService :=
  { fixed fixedAgent (some fixedRecord) ⟨.allow, ""⟩ with
    mcpUpstream := fun call _ =>
      .ok (.obj [("jsonrpc", .str "2.0"), ("id", RequestId.modelDump call.requestId),
        ("result", .obj [])]) }

theorem enveloped_normal : enveloped.AnswersNormally where
  registry := fun _ => ⟨_, rfl⟩
  verifier := nofun
  engine := fun _ => Or.inl ⟨_, rfl⟩
  ledger := fun _ _ _ _ => ⟨_, rfl⟩
  exporter := fun _ => rfl
  exchange := fun _ _ => Or.inl ⟨_, rfl⟩
  upstream := by
    intro call credential
    refine Or.inl ⟨_, rfl, ⟨rfl, rfl, Ne.symm Bool.false_ne_true⟩, ?_⟩
    intro _ result tools htools
    cases htools

theorem nullMethod_answers_iff :
    ((∃ r, mcpProxy enveloped [] (some (.obj [("method", .null)])) = .response r ∧
          IsResponse r.content) ∧
        Answered (enveloped.execute [] [("method", .null)]).result) ↔
      callTyped [("method", .null)] = true :=
  mcpProxy_answers_iff enveloped [] [("method", .null)] fixedAgent rfl enveloped_normal

/-- The validation of the call escapes through the route. -/
theorem nullMethod_unhandled : enveloped.AnswersNormally ∧
    enveloped.identityProvider [] = .ok fixedAgent ∧
    mcpProxy enveloped [] (some (.obj [("method", .null)])) = .unhandled validationError ∧
    ¬ ∃ r, mcpProxy enveloped [] (some (.obj [("method", .null)])) = .response r ∧
      IsResponse r.content := by
  have hroute : mcpProxy enveloped [] (some (.obj [("method", .null)])) =
      .unhandled validationError := rfl
  refine ⟨enveloped_normal, rfl, hroute, ?_⟩
  rw [hroute]
  rintro ⟨r, habs, -⟩
  cases habs

end GovernedExecutionService

end OpenAgentControl
