import OpenAgentControl.Gateway.McpServer
import OpenAgentControl.Sdk.Decorator

/-! # The SDK over a gateway

The requests of `sdk/client.py` meet the routes of the gateway. What lies between (HTTP, the rendering of
a response) may lose a request or an answer, and passes on what it delivers. Main results: a value that
`call_tool` returns is the upstream's answer to the call as it was named, forwarded by mediation alone
(`GovernedClient.callTool_forwarded`); and a governed function runs exactly when the gateway recorded an
allowed decision about its tool and what `_bind` makes of the call, and the answer arrived
(`governed_ran_iff`). -/

namespace OpenAgentControl
set_option autoImplicit false
set_option maxHeartbeats 250000

open Foundations
open GovernedExecutionService (toolBody)

/-! ## Between the client and the routes -/

/-- What the HTTP client may get for the outcome of a route: no answer, the response, or the plain 500
for an exception that nobody handled or a response that could not be rendered. -/
inductive Delivered : RouteOutcome → PostResult → Prop
  | lost (outcome : RouteOutcome) (message : String) : Delivered outcome (.httpError message)
  | failed (outcome : RouteOutcome) (r : HttpResponse) (status : r.status = 500)
      (body : r.json = none) : Delivered outcome (.response r)
  | passed (response : JsonResponse) (r : HttpResponse) (status : r.status = response.statusCode)
      (body : r.json = some response.content) : Delivered (.response response) (.response r)

/-- The posts of the client reach the routes of this gateway, with these headers. -/
structure ServedBy (client : ClientBase) (svc : GovernedExecutionService) (headers : Headers) :
    Prop where
  rpc : ∀ method params, Delivered
    (mcpProxy svc headers (some (client.rpcRequest method params).2))
    (client.answer (client.rpcRequest method params))
  authorize : ∀ tool arguments, Delivered (authorizeRoute svc headers tool arguments)
    (client.answer (client.authorizeRequest tool arguments))

/-- An answer with a body, whatever it says. -/
def Arrived (answer : PostResult) : Prop := ∃ r body, answer = .response r ∧ r.json = some body

variable {client : ClientBase} {svc : GovernedExecutionService} {headers : Headers}

theorem Delivered.arrived {outcome : RouteOutcome} {answer : PostResult}
    (h : Delivered outcome answer) (harrived : Arrived answer) :
    ∃ response r, outcome = .response response ∧ answer = .response r ∧
      r.status = response.statusCode ∧ r.json = some response.content := by
  obtain ⟨r, body, rfl, hbody⟩ := harrived
  cases h with
  | failed _ _ status hnone =>
    rw [hnone] at hbody
    cases hbody
  | passed response _ status hcontent => exact ⟨response, r, rfl, rfl, status, hcontent⟩

/-! ## Tool calls through the gateway -/

/-- An answer of the raw route without an error is the answer of the run. -/
theorem mcpProxy_succeeds {body answer : Dict} {response : JsonResponse}
    (herror : Dict.get? answer "error" = none) (hcontent : response.content = .obj answer)
    (h : mcpProxy svc headers (some (.obj body)) = .response response) :
    (svc.execute headers body).result = .ok (.obj answer) := by
  rw [mcpProxy] at h
  cases hresult : (svc.execute headers body).result with
  | ok content =>
    rw [hresult] at h
    cases h
    exact congrArg Except.ok hcontent
  | error e =>
    rw [hresult] at h
    cases e with
    | identity message =>
      rw [(jsonrpcErrorResponse_eq h).2] at hcontent
      cases hcontent
      cases herror
    | missingSubjectToken message =>
      rw [(jsonrpcErrorResponse_eq h).2] at hcontent
      cases hcontent
      cases herror
    | _ => cases h

theorem parseRpc_ok {repr : Json → String} {r : HttpResponse} {value : Json}
    (h : parseRpc repr r = .ok value) :
    ∃ answer, r.json = some (.obj answer) ∧ Dict.get? answer "error" = none ∧
      value = (Dict.get? answer "result").getD .null := by
  obtain ⟨-, hrefuse⟩ | ⟨-, -, name, herror⟩ | ⟨answer, -, hbody, hparse⟩ :=
    @parseRpc_cases repr r
  · obtain ⟨e, he, -⟩ := refuse_eq repr r "gateway refused the agent's identity: "
    rw [hrefuse, he] at h
    cases h
  · rw [herror] at h
    cases h
  · rw [hparse] at h
    cases herror : Dict.get? answer "error" with
    | some error =>
      rw [herror] at h
      cases h
    | none =>
      rw [herror] at h
      cases h
      exact ⟨answer, hbody, herror, rfl⟩

/-- A value comes from an answer without an error that the run gave. -/
theorem ServedBy.rpc_ok (hserved : ServedBy client svc headers) {method : String} {params : Dict}
    {value : Json} (h : client.send (parseRpc client.repr) (client.rpcRequest method params) = .ok value) :
    ∃ answer, Dict.get? answer "error" = none ∧ value = (Dict.get? answer "result").getD .null ∧
      (svc.execute headers [("jsonrpc", .str "2.0"), ("id", .int 1), ("method", .str method),
        ("params", .obj params)]).result = .ok (.obj answer) := by
  have hdelivered := hserved.rpc method params
  unfold ClientBase.send at h
  cases hanswer : client.answer (client.rpcRequest method params) with
  | httpError message =>
    rw [hanswer] at h
    cases h
  | response r =>
    rw [hanswer] at h hdelivered
    obtain ⟨answer, hbody, herror, hvalue⟩ := parseRpc_ok h
    obtain ⟨response, r', houtcome, hr, -, hcontent⟩ := hdelivered.arrived ⟨r, _, rfl, hbody⟩
    cases hr
    rw [hbody] at hcontent
    exact ⟨answer, herror, hvalue,
      mcpProxy_succeeds herror (Option.some.inj hcontent).symm houtcome⟩

/-- What `call_tool` returns was answered by the upstream, to this tool and these arguments. -/
theorem GovernedClient.callTool_forwarded (hserved : ServedBy client svc headers) {tool : String}
    {arguments : Option Dict} {value : Json}
    (h : GovernedClient.callTool client tool arguments = .ok value) :
    ∃ answer, svc.ForwardedAs headers (toolBody (.int 1) tool (arguments.getD [])) tool
        (arguments.getD []) answer ∧
      Dict.get? answer "error" = none ∧ value = (Dict.get? answer "result").getD .null := by
  obtain ⟨answer, herror, hvalue, hresult⟩ := hserved.rpc_ok h
  exact ⟨answer, (GovernedExecutionService.execute_toolBody_iff herror).mp hresult, herror, hvalue⟩

/-! ## Decisions through the gateway -/

namespace GovernedExecutionService

variable {payload : Dict}

theorem AuthorizedRun.readFrom (run : svc.AuthorizedRun headers payload) :
    ReadFrom payload run.call := by
  have hbuilt := readFrom_of_buildCall run.builtOk
  rw [run.resolved.frame.1]
  exact ⟨hbuilt.method, hbuilt.toolName, hbuilt.arguments⟩

/-- An allowed run of the shared half passed every stage of the mediation. -/
theorem AuthorizedRun.mediated (run : svc.AuthorizedRun headers payload)
    (hallowed : run.outcome.allowed = true) :
    svc.Mediated headers run.trace run.trace run.call := by
  obtain ⟨⟨record, hrecord, hstatus⟩, hpolicy, hflag⟩ := run.allowed_inv hallowed
  refine ⟨run.agent, record, run.decision, run.enforced, run.receipt, hstatus, ?_,
    run.filter_isRecord, hflag, fun hstamps => hstamps _ _ _ _ _ run.recorded⟩
  unfold AuthorizedRun.trace
  rw [hrecord, hpolicy]
  apply List.Sublist.cons_cons
  apply List.Sublist.cons_cons
  exact List.sublist_append_right _ _

/-- The gateway recorded an allowed decision about this tool and these arguments, and exported its
receipt. -/
def AllowedAs (svc : GovernedExecutionService) (headers : Headers) (name : String)
    (arguments : Dict) : Prop :=
  ∃ run : svc.AuthorizedRun headers (authorizePayload name arguments),
    run.outcome.allowed = true ∧ run.call.method = "tools/call" ∧ run.call.toolName = some name ∧
    run.call.arguments = arguments ∧
    svc.Mediated headers (svc.authorize headers (authorizePayload name arguments)).trace
      (svc.authorize headers (authorizePayload name arguments)).trace run.call

theorem AuthorizedRun.allowedAs {name : String} {arguments : Dict}
    (run : svc.AuthorizedRun headers (authorizePayload name arguments))
    (hallowed : run.outcome.allowed = true) : svc.AllowedAs headers name arguments := by
  have hread : ReadFrom (toolBody .null name arguments) run.call := run.readFrom
  obtain ⟨hmethod, hname, harguments⟩ := readFrom_toolBody hread
  refine ⟨run, hallowed, hmethod, hname, harguments, ?_⟩
  rw [authorize, run.authorizeCore_eq]
  exact run.mediated hallowed

end GovernedExecutionService

/-- `AuthorizationResult` of an outcome, by way of the response. -/
def authorizationResult (outcome : AuthorizationOutcome) : AuthorizationResult where
  allowed := outcome.allowed
  decision := outcome.decision.decision
  reason := .str outcome.decision.reason
  instruction := .str (if outcome.allowed then "" else stopInstruction)
  receiptId := .str outcome.receipt.sequenceId
  shadowed := outcome.shadowed

theorem parseAuthorization_response (repr : Json → String) {outcome : AuthorizationOutcome}
    {r : HttpResponse} (hstatus : r.status = 200)
    (hbody : r.json = some (authorizeResponse outcome)) :
    parseAuthorization repr r = .ok (authorizationResult outcome) := by
  have hvalue : Decision.ofValue? outcome.decision.decision.value =
      some outcome.decision.decision := Decision.ofValue_eq_some.mpr rfl
  unfold parseAuthorization
  rw [hstatus, if_neg (by decide), if_neg (by decide), hbody]
  simp [authorizeResponse, toAuthorization, Dict.get?_cons, hvalue, authorizationResult, Json.truthy]

theorem parseAuthorization_ok {repr : Json → String} {r : HttpResponse}
    {result : AuthorizationResult} (h : parseAuthorization repr r = .ok result) :
    r.status < 400 ∧ ∃ fields, r.json = some (.obj fields) := by
  unfold parseAuthorization at h
  by_cases hrefused : r.status = 401
  · obtain ⟨e, he, -⟩ := refuse_eq repr r "gateway refused the agent's identity: "
    rw [if_pos hrefused, he] at h
    cases h
  by_cases hfailed : 400 ≤ r.status
  · obtain ⟨e, he, -⟩ := refuse_eq repr r ("gateway returned " ++ toString r.status ++ ": ")
    rw [if_neg hrefused, if_pos hfailed, he] at h
    cases h
  · rw [if_neg hrefused, if_neg hfailed] at h
    refine ⟨not_le.mp hfailed, ?_⟩
    cases hbody : r.json with
    | none =>
      rw [hbody] at h
      cases h
    | some body =>
      rw [hbody] at h
      cases body with
      | obj fields => exact ⟨fields, rfl⟩
      | _ => cases h

/-- A result that `authorize` returns is that of a run of the gateway whose answer arrived. -/
theorem ServedBy.authorize_ok_iff (hserved : ServedBy client svc headers) {tool : String}
    {arguments : Dict} {result : AuthorizationResult} :
    GovernedClient.authorize client tool (some arguments) = .ok result ↔
      Arrived (client.answer (client.authorizeRequest tool arguments)) ∧
        ∃ run : svc.AuthorizedRun headers (authorizePayload tool arguments),
          result = authorizationResult run.outcome := by
  have hdelivered := hserved.authorize tool arguments
  unfold GovernedClient.authorize ClientBase.send
  rw [Option.getD_some]
  constructor
  · intro h
    cases hanswer : client.answer (client.authorizeRequest tool arguments) with
    | httpError message =>
      rw [hanswer] at h
      cases h
    | response r =>
      rw [hanswer] at h hdelivered
      obtain ⟨hsuccess, fields, hbody⟩ := parseAuthorization_ok h
      have harrived : Arrived (.response r) := ⟨r, _, rfl, hbody⟩
      refine ⟨harrived, ?_⟩
      obtain ⟨response, r', houtcome, hr, hstatus, hcontent⟩ := hdelivered.arrived harrived
      cases hr
      rw [authorizeRoute] at houtcome
      cases hresult : (svc.authorize headers (authorizePayload tool arguments)).result with
      | error e =>
        rw [hresult] at houtcome
        cases e with
        | identity message =>
          cases houtcome
          rw [hstatus] at hsuccess
          exact absurd hsuccess (Nat.not_lt.mpr (by decide : 400 ≤ 401))
        | missingSubjectToken message =>
          cases houtcome
          rw [hstatus] at hsuccess
          exact absurd hsuccess (Nat.not_lt.mpr (by decide : 400 ≤ 401))
        | _ => cases houtcome
      | ok outcome =>
        rw [hresult] at houtcome
        cases houtcome
        obtain ⟨run, rfl, -⟩ := GovernedExecutionService.authorizeCore_ok hresult
        simp only [parseAuthorization_response client.repr hstatus hcontent] at h
        exact ⟨run, (Except.ok.inj h).symm⟩
  · rintro ⟨harrived, run, rfl⟩
    obtain ⟨response, r, houtcome, hanswer, hstatus, hcontent⟩ := hdelivered.arrived harrived
    have hresult : (svc.authorize headers (authorizePayload tool arguments)).result =
        .ok run.outcome := by
      rw [GovernedExecutionService.authorize, run.authorizeCore_eq]
    rw [authorizeRoute, hresult] at houtcome
    cases houtcome
    rw [hanswer]
    exact parseAuthorization_response client.repr hstatus hcontent

/-! ## Governed functions -/

variable {Obj R : Type}

/-- The client that a function is governed by, over the requests of the SDK. What `json.dumps` cannot
encode raises before anything is sent. -/
def ClientBase.govern (client : ClientBase) (isAsync : Bool)
    (encode : List (String × PyVal Obj) → Option Dict) : GovernClient Obj where
  isAsync
  authorize tool arguments :=
    match encode arguments with
    | none => .error (.other "TypeError")
    | some arguments =>
      if isAsync then AsyncGovernedClient.authorize client tool (some arguments)
      else GovernedClient.authorize client tool (some arguments)
  repr := client.repr

theorem ClientBase.govern_authorize (client : ClientBase) (isAsync : Bool)
    (encode : List (String × PyVal Obj) → Option Dict) (tool : String)
    (arguments : List (String × PyVal Obj)) :
    (client.govern isAsync encode).authorize tool arguments =
      match encode arguments with
      | none => .error (.other "TypeError")
      | some arguments => GovernedClient.authorize client tool (some arguments) := by
  unfold govern
  cases isAsync with
  | _ => rfl

/-- `name or func.__name__`. -/
def governedTool (name : Option String) (func : PlainFunction Obj R) : String :=
  match name with
  | some name => if name = "" then func.name else name
  | none => func.name

theorem wrapper_ran_iff {client : GovernClient Obj} {tool : String} {onDeny : OnDeny}
    {func : PlainFunction Obj R} {c : Call Obj} {received : List (String × PyVal Obj)}
    {outcome : Except WrapperExc R} :
    .ran received outcome ∈ (wrapper client tool onDeny func c).trace ↔
      func.signature.receive c = some received ∧
        outcome = (func.body received).mapError .raised ∧
        ∃ result, client.authorize tool (bindArguments func.signature c) = .ok result ∧
          result.allowed = true := by
  cases hanswer : client.authorize tool (bindArguments func.signature c) with
  | error e => simp [wrapper, hanswer, Except.mapError, Traced.mem_bind]
  | ok result =>
    cases hallowed : result.allowed with
    | false =>
      cases onDeny <;> simp [wrapper, hanswer, hallowed, Except.mapError, Traced.mem_bind]
    | true =>
      cases hreceive : func.signature.receive c with
      | none => simp [wrapper, hanswer, hallowed, hreceive, Except.mapError, Traced.mem_bind]
      | some bound =>
        have htrace : (wrapper client tool onDeny func c).trace =
            [.authorized tool (bindArguments func.signature c) (.ok result),
              .ran bound ((func.body bound).mapError .raised)] := by
          simp only [wrapper, hanswer]
          rw [Traced.bind_of_ok rfl]
          simp only [hallowed, if_true, hreceive]
          cases func.body bound with
          | _ => rfl
        rw [htrace]
        simp only [List.mem_cons, reduceCtorEq, WrapperEvent.ran.injEq, List.not_mem_nil, or_false,
          false_or, Option.some.injEq, Except.ok.injEq, exists_eq_left', hallowed, and_true]
        constructor
        · rintro ⟨rfl, rfl⟩
          exact ⟨rfl, rfl⟩
        · rintro ⟨rfl, rfl⟩
          exact ⟨rfl, rfl⟩

/-- The body of a governed function runs exactly when Python accepts the call, the gateway recorded an
allowed decision about the tool and what `_bind` makes of the call, and its answer arrived. -/
theorem governed_ran_iff (client : ClientBase) (svc : GovernedExecutionService) (headers : Headers)
    (hserved : ServedBy client svc headers) (isAsync : Bool)
    (encode : List (String × PyVal Obj) → Option Dict) (name : Option String) (onDeny : OnDeny)
    (func : PlainFunction Obj R)
    (w : Call Obj → Traced (WrapperEvent Obj R) WrapperExc (Returned R))
    (hw : governed (client.govern isAsync encode) name onDeny func = .ok w) (c : Call Obj)
    (received : List (String × PyVal Obj)) (outcome : Except WrapperExc R) :
    .ran received outcome ∈ (w c).trace ↔
      func.signature.receive c = some received ∧
        outcome = (func.body received).mapError .raised ∧
        ∃ arguments, encode (bindArguments func.signature c) = some arguments ∧
          Arrived (client.answer (client.authorizeRequest (governedTool name func) arguments)) ∧
          svc.AllowedAs headers (governedTool name func) arguments := by
  obtain rfl : w = wrapper (client.govern isAsync encode) (governedTool name func) onDeny func := by
    unfold governed at hw
    split_ifs at hw
    exact (Except.ok.inj hw).symm
  rw [wrapper_ran_iff]
  refine and_congr_right fun _ => and_congr_right fun _ => ?_
  constructor
  · rintro ⟨result, hresult, hallowed⟩
    rw [ClientBase.govern_authorize] at hresult
    cases hencode : encode (bindArguments func.signature c) with
    | none =>
      rw [hencode] at hresult
      cases hresult
    | some arguments =>
      rw [hencode] at hresult
      obtain ⟨harrived, run, rfl⟩ := hserved.authorize_ok_iff.mp hresult
      exact ⟨arguments, rfl, harrived, run.allowedAs hallowed⟩
  · rintro ⟨arguments, hencode, harrived, run, hallowed, -⟩
    refine ⟨authorizationResult run.outcome, ?_, hallowed⟩
    rw [ClientBase.govern_authorize, hencode]
    exact hserved.authorize_ok_iff.mpr ⟨harrived, run, rfl⟩

/-! ## A client next to its gateway -/

def passOn : RouteOutcome → PostResult
  | .response r => .response { status := r.statusCode, text := "", json := some r.content }
  | .unhandled _ => .response { status := 500, text := "Internal Server Error", json := none }

theorem passOn_delivered (outcome : RouteOutcome) : Delivered outcome (passOn outcome) := by
  cases outcome with
  | response r => exact .passed r _ rfl rfl
  | unhandled e => exact .failed _ _ rfl rfl

/-- A client whose posts reach the routes of the service and are answered at once. -/
def localClient (svc : GovernedExecutionService) (headers : Headers) : ClientBase where
  baseUrl := ""
  post url body :=
    if url = "/mcp/v1" then passOn (mcpProxy svc headers (some body))
    else
      match body with
      | .obj [(_, .str tool), (_, .obj arguments)] =>
        passOn (authorizeRoute svc headers tool arguments)
      | _ => .response { status := 422, text := "", json := none }
  repr _ := ""

theorem localClient_servedBy (svc : GovernedExecutionService) (headers : Headers) :
    ServedBy (localClient svc headers) svc headers where
  rpc method params := by
    have hroute : (localClient svc headers).answer
        ((localClient svc headers).rpcRequest method params) =
        passOn (mcpProxy svc headers
          (some ((localClient svc headers).rpcRequest method params).2)) := by
      simp [localClient, ClientBase.answer, ClientBase.rpcRequest]
    rw [hroute]
    exact passOn_delivered _
  authorize tool arguments := by
    have hroute : (localClient svc headers).answer
        ((localClient svc headers).authorizeRequest tool arguments) =
        passOn (authorizeRoute svc headers tool arguments) := by
      simp [localClient, ClientBase.answer, ClientBase.authorizeRequest]
    rw [hroute]
    exact passOn_delivered _

/-- A service that allows every call of an agent with an active record. -/
def openService : GovernedExecutionService :=
  GovernedExecutionService.fixed fixedAgent (some fixedRecord) ⟨.allow, ""⟩

mutual

def natJson : PyVal ℕ → Json
  | .obj n => .int n
  | .tuple items => .arr (natItems items)
  | .dict items => .obj (natFields items)

def natItems : List (PyVal ℕ) → List Json
  | [] => []
  | v :: rest => natJson v :: natItems rest

def natFields : List (String × PyVal ℕ) → Dict
  | [] => []
  | (n, v) :: rest => (n, natJson v) :: natFields rest

end

theorem raiseLimit_ran_iff :
    ∃ w, governed ((localClient openService []).govern false fun arguments =>
        some (natFields arguments)) none .raising updateAccount = .ok w ∧
      (.ran [("fields", .dict [("credit_limit", .obj 50000)])] (.ok ()) ∈ (w raiseLimit).trace ↔
        updateAccount.signature.receive raiseLimit =
            some [("fields", .dict [("credit_limit", .obj 50000)])] ∧
          .ok () = (updateAccount.body [("fields", .dict [("credit_limit", .obj 50000)])]).mapError
            WrapperExc.raised ∧
          ∃ arguments, some [("fields", .obj [("credit_limit", .int 50000)])] = some arguments ∧
            Arrived ((localClient openService []).answer
              ((localClient openService []).authorizeRequest (governedTool none updateAccount)
                arguments)) ∧
            openService.AllowedAs [] (governedTool none updateAccount) arguments) :=
  ⟨_, rfl, governed_ran_iff (localClient openService []) openService []
    (localClient_servedBy openService []) false (fun arguments => some (natFields arguments)) none
    .raising updateAccount _ rfl raiseLimit _ _⟩

end OpenAgentControl
