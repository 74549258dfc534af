import OpenAgentControl.Gateway.Routes
import OpenAgentControl.Application.Forwarding

/-! # The MCP server of the gateway

`gateway/mcp_server.py`: the handlers of `tools/list` and `tools/call`, which translate between the typed
objects of the `mcp` package and one run of `execute`. The package validates, and is a parameter. Main
results: both ways in make the same of a run (`McpServer.execute_agrees`), a result that is no error is
the upstream's answer to the call as it was named (`McpServer.callTool_mediated`), and a listing names
granted tools only (`McpServer.listTools_granted`). -/

namespace OpenAgentControl
set_option autoImplicit false
set_option maxHeartbeats 250000

open Foundations

namespace McpServer

/-! ## Responses of any type -/

/-- `key in value`. -/
def pyIn (key : String) : Json → Except Exc Bool
  | .obj fields => .ok (Dict.get? fields key).isSome
  | .arr items => .ok (decide (.str key ∈ items))
  | .str s => .ok (decide (key.toList <:+: s.toList))
  | _ => .error typeError

/-- `value[key]`. -/
def subscript (key : String) : Json → Except Exc Json
  | .obj fields => orRaise (.other "KeyError") (Dict.get? fields key)
  | _ => .error typeError

/-- The value, for a method of `dict` to be called on. -/
def asDict : Json → Except Exc Dict
  | .obj fields => .ok fields
  | _ => .error attributeError

/-- `(data or {}).get("instruction", "")`. -/
def instructionIn : Option Json → Except Exc Json
  | some (.obj fields) => .ok ((Dict.get? fields "instruction").getD (.str ""))
  | some data => if data.truthy then .error attributeError else .ok (.str "")
  | none => .ok (.str "")

theorem pyIn_subscript {response value : Json} {fault key : String}
    (hin : pyIn fault response = .ok false) (hvalue : subscript key response = .ok value) :
    ∃ fields, response = .obj fields ∧ Dict.get? fields fault = none ∧
      Dict.get? fields key = some value := by
  cases response with
  | obj fields =>
    refine ⟨fields, rfl, ?_, orRaise_eq_ok.mp hvalue⟩
    simpa [pyIn] using hin
  | _ => cases hvalue

end McpServer

/-! ## The handlers -/

/-- What a handler raises: the protocol error of the package, or any other exception. -/
inductive ServerExc (ErrorData : Type)
  | mcpError (data : ErrorData)
  | raised (e : Exc)

/-- The models of the `mcp` package, as far as the handlers build and validate them. -/
structure McpTypes (CallToolResult ListToolsResult ErrorData : Type) where
  callToolResult : Json → Except Exc CallToolResult
  listToolsResult : Json → Except Exc ListToolsResult
  errorData : (code message : Json) → Except Exc ErrorData
  /-- `CallToolResult(content=[TextContent(type="text", text=text)], isError=True)`. -/
  textError : Json → Except Exc CallToolResult
  isError : CallToolResult → Bool
  /-- The names of the tools of a listing. -/
  names : ListToolsResult → List String
  textError_isError : ∀ {text result}, textError text = .ok result → isError result = true
  /-- A listing validates from an object whose `tools` are objects with a string for a name. -/
  listed_named : ∀ {value result}, listToolsResult value = .ok result →
    ∃ fields tools, value = .obj fields ∧ Dict.get? fields "tools" = some (.arr tools) ∧
      tools.map stringName = (names result).map some

structure McpServer (CallToolResult ListToolsResult ErrorData : Type) where
  governedExecution : GovernedExecutionService
  types : McpTypes CallToolResult ListToolsResult ErrorData
  repr : Json → String

namespace McpServer

variable {CallToolResult ListToolsResult ErrorData : Type}

/-- `_payload`. -/
def payload (method requestId : String) (params : Dict) : Dict :=
  [("jsonrpc", .str "2.0"), ("id", .str requestId), ("method", .str method), ("params", .obj params)]

/-- `_error_response`. -/
def errorResponse (requestId : String) (code : ℤ) (message : String) : Json :=
  .obj [("jsonrpc", .str "2.0"), ("id", .str requestId),
    ("error", .obj [("code", .int code), ("message", .str message)])]

section Handlers

variable (server : McpServer CallToolResult ListToolsResult ErrorData)

/-- `_execute`, with the identifier that `uuid4` gave. -/
def execute (headers : Headers) (method requestId : String) (params : Dict) :
    Traced Event Exc Json := do
  match ← (server.governedExecution.execute headers (payload method requestId params)).attempt with
  | .ok response => return response
  | .error (.identity message) =>
    return errorResponse requestId (-32001) ("Identity error: " ++ message)
  | .error (.missingSubjectToken message) =>
    return errorResponse requestId (-32003) ("Delegation error: " ++ message)
  | .error e => Traced.raise e

/-- `_mcp_error`. -/
def mcpError (error : Json) : ServerExc ErrorData :=
  match asDict error >>= fun fields =>
      server.types.errorData ((Dict.get? fields "code").getD (.int (-32000)))
        ((Dict.get? fields "message").getD (.str "error")) with
  | .ok data => .mcpError data
  | .error e => .raised e

/-- What `list_tools` makes of the response. -/
def listed (response : Json) : Except (ServerExc ErrorData) ListToolsResult := do
  if ← (pyIn "error" response).mapError .raised then
    let error ← (subscript "error" response).mapError .raised
    .error (server.mcpError error)
  else (subscript "result" response >>= server.types.listToolsResult).mapError .raised

/-- The result that `call_tool` makes of a response with an error. -/
def failed (response : Json) : Except Exc CallToolResult := do
  let error ← subscript "error" response >>= asDict
  let instruction ← instructionIn (Dict.get? error "data")
  let text := (Dict.get? error "message").getD (.str "tool call failed")
  server.types.textError <|
    if instruction.truthy then
      .str (pyStr server.repr text ++ "\n\n" ++ pyStr server.repr instruction)
    else text

/-- What `call_tool` makes of the response. -/
def called (response : Json) : Except Exc CallToolResult := do
  if ← pyIn "error" response then server.failed response
  else subscript "result" response >>= server.types.callToolResult

def listTools (headers : Headers) (requestId : String) :
    Traced Event (ServerExc ErrorData) ListToolsResult :=
  let run := server.execute headers "tools/list" requestId []
  ⟨run.trace, run.result.mapError .raised >>= server.listed⟩

def callTool (headers : Headers) (name : String) (arguments : Dict) (requestId : String) :
    Traced Event Exc CallToolResult := do
  let response ← server.execute headers "tools/call" requestId
    [("name", .str name), ("arguments", .obj arguments)]
  Traced.ofExcept (server.called response)

end Handlers

end McpServer

/-! ## What a run without an error did -/

namespace GovernedExecutionService

variable {svc : GovernedExecutionService} {headers : Headers} {payload : Dict}

theorem ForwardedRun.execute_trace (f : svc.ForwardedRun headers payload) :
    (svc.execute headers payload).trace = f.trace := by
  have hcore := f.run.authorizeCore_eq
  have hbroker : svc.brokerCredential f.run.outcome.call.agent headers =
      ⟨f.brokerEvents, .ok f.credential⟩ := f.brokered.brokerCredential_eq
  rw [execute_of_ok (by rw [hcore]), proceed_broker f.allowed (by rw [hbroker]), hcore, hbroker,
    ← List.append_assoc]
  rfl

/-- An answer without an error comes from the upstream, by way of the filter. -/
theorem execute_succeeds_iff {answer : Dict} (herror : Dict.get? answer "error" = none) :
    (svc.execute headers payload).result = .ok (.obj answer) ↔
      ∃ f : svc.ForwardedRun headers payload, ∃ response,
        svc.mcpUpstream f.run.call f.credential = .ok response ∧
          filterListing response f.run.call = .ok (.obj answer) := by
  have hfault : ∀ requestId code message instruction,
      jsonrpcError requestId code message instruction ≠ .obj answer := by
    intro requestId code message instruction heq
    cases heq
    cases herror
  have hforward : ∀ call credential,
      (svc.forwardCall call credential).result = .ok (.obj answer) ↔
        ∃ response, svc.mcpUpstream call credential = .ok response ∧
          filterListing response call = .ok (.obj answer) := by
    intro call credential
    rw [forwardCall_result]
    constructor
    · intro h
      split at h
      case h_1 projected hprojected =>
        cases h
        exact bind_except_ok hprojected
      case h_2 message hmessage => exact absurd (Except.ok.inj h) (hfault _ _ _ _)
      case h_3 => cases h
    · rintro ⟨response, hresponse, hfilter⟩
      rw [hresponse]
      simp only [bind, Except.bind, hfilter]
  constructor
  · intro h
    cases hcore : (svc.authorizeCore headers payload).result with
    | error e =>
      rw [execute_of_error hcore] at h
      cases h
    | ok outcome =>
      rw [execute_of_ok hcore] at h
      obtain ⟨run, rfl, -⟩ := authorizeCore_ok hcore
      cases hallowed : run.outcome.allowed with
      | false =>
        unfold proceed at h
        rw [hallowed] at h
        exact absurd (Except.ok.inj h) (hfault _ _ _ _)
      | true =>
        replace h : (svc.proceed headers run.outcome).result = .ok (.obj answer) := h
        rw [proceed_result hallowed] at h
        cases hbroker : (svc.brokerCredential run.outcome.call.agent headers).result with
        | error e =>
          rw [hbroker] at h
          cases e with
          | tokenExchange message => exact absurd (Except.ok.inj h) (hfault _ _ _ _)
          | _ => cases h
        | ok credential =>
          rw [hbroker] at h
          exact ⟨⟨run, credential, _, hallowed, brokerCredential_ok hbroker⟩, (hforward _ _).mp h⟩
  · rintro ⟨f, hanswer⟩
    rw [f.execute_result]
    exact (hforward _ _).mpr hanswer

theorem filterListing_of_ne {call : ToolCallRequest} {response : Json}
    (h : call.method ≠ "tools/list") : filterListing response call = .ok response := if_pos h

/-- The run forwarded one call, of this tool with these arguments and by mediation alone, and the
upstream gave this answer to it. -/
def ForwardedAs (svc : GovernedExecutionService) (headers : Headers) (payload : Dict) (name : String)
    (arguments answer : Dict) : Prop :=
  ∃ call credential before,
    call.method = "tools/call" ∧ call.toolName = some name ∧ call.arguments = arguments ∧
    (svc.execute headers payload).trace = before ++ [.forward call credential (.ok (.obj answer))] ∧
    svc.Mediated headers (svc.execute headers payload).trace before call

/-- The body that each way in hands to `execute` for a tool. -/
def toolBody (requestId : Json) (name : String) (arguments : Dict) : Dict :=
  [("jsonrpc", .str "2.0"), ("id", requestId), ("method", .str "tools/call"),
    ("params", .obj [("name", .str name), ("arguments", .obj arguments)])]

theorem readFrom_toolBody {requestId : Json} {name : String} {arguments : Dict}
    {call : ToolCallRequest} (h : ReadFrom (toolBody requestId name arguments) call) :
    call.method = "tools/call" ∧ call.toolName = some name ∧ call.arguments = arguments :=
  ⟨(Json.str.inj h.method).symm, optionalString_injective h.toolName.symm,
    (Json.obj.inj h.arguments).symm⟩

/-- A tool call is answered without an error exactly when it was forwarded and the upstream gave that
answer. -/
theorem execute_toolBody_iff {requestId : Json} {name : String} {arguments answer : Dict}
    (herror : Dict.get? answer "error" = none) :
    (svc.execute headers (toolBody requestId name arguments)).result = .ok (.obj answer) ↔
      svc.ForwardedAs headers (toolBody requestId name arguments) name arguments answer := by
  rw [execute_succeeds_iff herror]
  constructor
  · rintro ⟨f, response, hresponse, hfilter⟩
    obtain ⟨hmethod, hname, harguments⟩ := readFrom_toolBody f.evaluated.1
    rw [filterListing_of_ne (by rw [hmethod]; decide)] at hfilter
    cases hfilter
    refine ⟨f.run.call, f.credential, f.run.trace ++ f.brokerEvents, hmethod, hname, harguments,
      ?_, ?_⟩
    · rw [f.execute_trace, ForwardedRun.trace, ForwardedRun.forwarded, hresponse]
    · rw [f.execute_trace]
      exact f.mediated
  · rintro ⟨call, credential, before, hmethod, -, -, htrace, -⟩
    have hmem : .forward call credential (.ok (.obj answer)) ∈
        (svc.execute headers (toolBody requestId name arguments)).trace := by
      rw [htrace]
      exact List.mem_append_right before List.mem_cons_self
    obtain ⟨f, hforwarded, -⟩ := forward_inv hmem rfl
    obtain ⟨rfl, rfl, hanswer⟩ := Event.forward.inj hforwarded
    exact ⟨f, _, hanswer.symm, filterListing_of_ne (by rw [hmethod]; decide)⟩

theorem toolsOf?_withTools (reply result : Dict) (tools : List Json) :
    toolsOf? (withTools reply result tools) = some (result.set "tools" (.arr tools), tools) := by
  rw [toolsOf?, withTools_result]
  simp only [Dict.get?_set, if_true]

/-- The tools of a filtered answer are those of the upstream's that are granted. -/
theorem tools_of_filter {call : ToolCallRequest} {response : Json} {answer result : Dict}
    {tools : List Json} (hlist : call.method = "tools/list")
    (hfilter : filterListing response call = .ok (.obj answer))
    (htools : toolsOf? answer = some (result, tools)) :
    ∃ reply found advertised, response = .obj reply ∧ toolsOf? reply = some (found, advertised) ∧
      tools = advertised.filter
        (listed ((call.registration.map RegisteredAgent.toolNames).getD [])) := by
  by_cases hobject : ∃ reply, response = .obj reply
  · obtain ⟨reply, rfl⟩ := hobject
    cases hreply : toolsOf? reply with
    | none =>
      rw [filterListing_none hreply] at hfilter
      cases hfilter
      rw [htools] at hreply
      cases hreply
    | some pair =>
      obtain ⟨found, advertised⟩ := pair
      rw [filterListing_some hlist hreply, projectTools_eq] at hfilter
      split_ifs at hfilter
      · cases hfilter
        rw [toolsOf?_withTools] at htools
        cases htools
        exact ⟨reply, found, advertised, rfl, hreply, rfl⟩
      · cases hfilter
  · obtain hsame | ⟨name, hraise⟩ :=
      @filterListing_of_not_obj call response fun fields heq => hobject ⟨fields, heq⟩
    · rw [hsame] at hfilter
      exact absurd ⟨answer, Except.ok.inj hfilter⟩ hobject
    · rw [hraise] at hfilter
      cases hfilter

theorem filterMap_listed (granted : List String) (tools : List Json) :
    (tools.filter (listed granted)).filterMap stringName =
      (tools.filterMap stringName).filter fun name => decide (name ∈ granted) := by
  induction tools with
  | nil => rfl
  | cons tool rest ih =>
    cases hname : stringName tool with
    | none =>
      have hlisted : listed granted tool = false := by
        rw [listed, hname]
      rw [List.filter_cons_of_neg (by simp [hlisted]), List.filterMap_cons_none hname, ih]
    | some name =>
      have hlisted : listed granted tool = decide (name ∈ granted) := by
        rw [listed, hname]
      rw [List.filterMap_cons_some hname, List.filter_cons, List.filter_cons, hlisted]
      split_ifs
      · rw [List.filterMap_cons_some hname, ih]
      · exact ih

/-- The run forwarded one listing, by mediation alone, and these are the names, in the upstream's order,
of those of its tools that the active record of the caller grants. -/
def ListedAs (svc : GovernedExecutionService) (headers : Headers) (payload : Dict)
    (names : List String) : Prop :=
  ∃ call credential before record reply found advertised,
    call.method = "tools/list" ∧ call.registration = some record ∧ record.status = .active ∧
    (svc.execute headers payload).trace = before ++ [.forward call credential (.ok (.obj reply))] ∧
    svc.Mediated headers (svc.execute headers payload).trace before call ∧
    toolsOf? reply = some (found, advertised) ∧
    names = (advertised.filterMap stringName).filter fun name => decide (name ∈ record.toolNames)

theorem listedAs_of_execute {answer result : Dict} {tools : List Json}
    (hmethod : payloadMethod payload = .str "tools/list")
    (herror : Dict.get? answer "error" = none)
    (hresult : (svc.execute headers payload).result = .ok (.obj answer))
    (htools : toolsOf? answer = some (result, tools)) :
    svc.ListedAs headers payload (tools.filterMap stringName) := by
  obtain ⟨f, response, hresponse, hfilter⟩ := (execute_succeeds_iff herror).mp hresult
  have hlist : f.run.call.method = "tools/list" :=
    (Json.str.inj (hmethod.symm.trans f.evaluated.1.method)).symm
  obtain ⟨⟨record, hrecord, hactive⟩, -, -⟩ := f.run.allowed_inv f.allowed
  rw [← f.run.call_registration] at hrecord
  obtain ⟨reply, found, advertised, rfl, hadvertised, rfl⟩ := tools_of_filter hlist hfilter htools
  refine ⟨f.run.call, f.credential, f.run.trace ++ f.brokerEvents, record, reply, found, advertised,
    hlist, hrecord, hactive, ?_, ?_, hadvertised, ?_⟩
  · rw [f.execute_trace, ForwardedRun.trace, ForwardedRun.forwarded, hresponse]
  · rw [f.execute_trace]
    exact f.mediated
  · rw [hrecord]
    exact filterMap_listed record.toolNames advertised

end GovernedExecutionService

/-! ## What the handlers answer -/

namespace McpServer

variable {CallToolResult ListToolsResult ErrorData : Type}
  {server : McpServer CallToolResult ListToolsResult ErrorData} {headers : Headers}

theorem execute_trace (method requestId : String) (params : Dict) :
    (server.execute headers method requestId params).trace =
      (server.governedExecution.execute headers (payload method requestId params)).trace := by
  unfold execute
  rw [Traced.bind_of_ok (Traced.attempt_result _)]
  cases (server.governedExecution.execute headers (payload method requestId params)).result with
  | ok response => exact List.append_nil _
  | error e =>
    cases e with
    | _ => exact List.append_nil _

theorem execute_result (method requestId : String) (params : Dict) :
    (server.execute headers method requestId params).result =
      match (server.governedExecution.execute headers (payload method requestId params)).result with
      | .error (.identity message) =>
        .ok (errorResponse requestId (-32001) ("Identity error: " ++ message))
      | .error (.missingSubjectToken message) =>
        .ok (errorResponse requestId (-32003) ("Delegation error: " ++ message))
      | result => result := by
  unfold execute
  rw [Traced.bind_of_ok (Traced.attempt_result _)]
  cases (server.governedExecution.execute headers (payload method requestId params)).result with
  | ok response => rfl
  | error e =>
    cases e with
    | _ => rfl

/-- The server and the raw route make the same of a run: its content, or the exception that nobody
handles. -/
theorem execute_agrees (method requestId : String) (params : Dict) :
    (∀ content, (server.execute headers method requestId params).result = .ok content ↔
      ∃ status, mcpProxy server.governedExecution headers
        (some (.obj (payload method requestId params))) = .response ⟨status, content⟩) ∧
    ∀ e, (server.execute headers method requestId params).result = .error e ↔
      mcpProxy server.governedExecution headers
        (some (.obj (payload method requestId params))) = .unhandled e := by
  rw [execute_result, mcpProxy]
  cases (server.governedExecution.execute headers (payload method requestId params)).result with
  | ok response => simp [respond]
  | error e =>
    cases e with
    | _ =>
      simp [respond, jsonrpcErrorResponse, jsonrpcErrorContent, Json.renderable, errorResponse,
        payload, Dict.get?_cons]

theorem isError_of_failed {response : Json} {result : CallToolResult}
    (h : server.failed response = .ok result) : server.types.isError result = true := by
  obtain ⟨error, -, h⟩ := bind_except_ok h
  obtain ⟨instruction, -, h⟩ := bind_except_ok h
  exact server.types.textError_isError h

/-- A result that is no error is validated from the result of an answer without one. -/
theorem called_iff {response : Json} {result : CallToolResult}
    (hresult : server.types.isError result = false) :
    server.called response = .ok result ↔
      ∃ answer value, response = .obj answer ∧ Dict.get? answer "error" = none ∧
        Dict.get? answer "result" = some value ∧ server.types.callToolResult value = .ok result := by
  constructor
  · intro h
    obtain ⟨faulty, hin, h⟩ := bind_except_ok h
    cases faulty with
    | true =>
      rw [isError_of_failed h] at hresult
      cases hresult
    | false =>
      obtain ⟨value, hvalue, hvalid⟩ := bind_except_ok h
      obtain ⟨answer, rfl, herror, hget⟩ := pyIn_subscript hin hvalue
      exact ⟨answer, value, rfl, herror, hget, hvalid⟩
  · rintro ⟨answer, value, rfl, herror, hget, hvalid⟩
    simp [called, pyIn, herror, subscript, hget, orRaise, bind, Except.bind, hvalid]

theorem execute_succeeds_iff {method requestId : String} {params answer : Dict}
    (herror : Dict.get? answer "error" = none) :
    (server.execute headers method requestId params).result = .ok (.obj answer) ↔
      (server.governedExecution.execute headers (payload method requestId params)).result =
        .ok (.obj answer) := by
  have hfault : ∀ code message, errorResponse requestId code message ≠ .obj answer := by
    intro code message heq
    cases heq
    cases herror
  rw [execute_result]
  cases (server.governedExecution.execute headers (payload method requestId params)).result with
  | ok response => exact Iff.rfl
  | error e =>
    cases e with
    | identity message => exact iff_of_false (fun h => hfault _ _ (Except.ok.inj h)) nofun
    | missingSubjectToken message => exact iff_of_false (fun h => hfault _ _ (Except.ok.inj h)) nofun
    | _ => exact Iff.rfl

/-- A tool call ends in a result that is no error exactly when the call was forwarded as it was named,
by mediation alone, and the result is the upstream's; and exactly when the raw route answers so. -/
theorem callTool_mediated (server : McpServer CallToolResult ListToolsResult ErrorData)
    (headers : Headers) (name : String) (arguments : Dict) (requestId : String)
    (result : CallToolResult) (hresult : server.types.isError result = false) :
    ((server.callTool headers name arguments requestId).result = .ok result ↔
      ∃ answer value, server.governedExecution.ForwardedAs headers
          (GovernedExecutionService.toolBody (.str requestId) name arguments) name arguments answer ∧
        Dict.get? answer "error" = none ∧ Dict.get? answer "result" = some value ∧
        server.types.callToolResult value = .ok result) ∧
    ((server.callTool headers name arguments requestId).result = .ok result ↔
      ∃ status answer value, mcpProxy server.governedExecution headers
          (some (.obj (GovernedExecutionService.toolBody (.str requestId) name arguments))) =
          .response ⟨status, .obj answer⟩ ∧
        Dict.get? answer "error" = none ∧ Dict.get? answer "result" = some value ∧
        server.types.callToolResult value = .ok result) := by
  have hcall : (server.callTool headers name arguments requestId).result = .ok result ↔
      ∃ answer value, (server.execute headers "tools/call" requestId
          [("name", .str name), ("arguments", .obj arguments)]).result = .ok (.obj answer) ∧
        Dict.get? answer "error" = none ∧ Dict.get? answer "result" = some value ∧
        server.types.callToolResult value = .ok result := by
    constructor
    · intro h
      obtain ⟨response, hresponse, hcalled, -⟩ := Traced.bind_ok h
      obtain ⟨answer, value, rfl, hrest⟩ := (called_iff hresult).mp hcalled
      exact ⟨answer, value, hresponse, hrest⟩
    · rintro ⟨answer, value, hresponse, hrest⟩
      rw [callTool, Traced.bind_of_ok hresponse]
      exact (called_iff hresult).mpr ⟨answer, value, rfl, hrest⟩
  refine ⟨hcall.trans ?_, hcall.trans ?_⟩
  · constructor
    · rintro ⟨answer, value, hresponse, herror, hrest⟩
      exact ⟨answer, value, GovernedExecutionService.execute_toolBody_iff herror |>.mp
        ((execute_succeeds_iff herror).mp hresponse), herror, hrest⟩
    · rintro ⟨answer, value, hforwarded, herror, hrest⟩
      exact ⟨answer, value, (execute_succeeds_iff herror).mpr
        ((GovernedExecutionService.execute_toolBody_iff herror).mpr hforwarded), herror, hrest⟩
  · have hagrees := (@execute_agrees _ _ _ server headers "tools/call" requestId
      [("name", .str name), ("arguments", .obj arguments)]).1
    constructor
    · rintro ⟨answer, value, hresponse, hrest⟩
      obtain ⟨status, hroute⟩ := (hagrees _).mp hresponse
      exact ⟨status, answer, value, hroute, hrest⟩
    · rintro ⟨status, answer, value, hroute, hrest⟩
      exact ⟨answer, value, (hagrees _).mpr ⟨status, hroute⟩, hrest⟩

theorem mapError_bind_ok {α β Err : Type} {x : Except Exc α} {wrap : Exc → Err}
    {f : α → Except Err β} {b : β} (h : x.mapError wrap >>= f = .ok b) :
    ∃ a, x = .ok a ∧ f a = .ok b := by
  cases x with
  | ok a => exact ⟨a, rfl, h⟩
  | error e => cases h

theorem listed_ok {response : Json} {result : ListToolsResult}
    (h : server.listed response = .ok result) :
    ∃ answer value, response = .obj answer ∧ Dict.get? answer "error" = none ∧
      Dict.get? answer "result" = some value ∧
      server.types.listToolsResult value = .ok result := by
  obtain ⟨faulty, hin, hrest⟩ := mapError_bind_ok h
  cases faulty with
  | true =>
    obtain ⟨error, -, habs⟩ := mapError_bind_ok hrest
    cases habs
  | false =>
    rw [if_neg Bool.false_ne_true] at hrest
    cases hvalidated : subscript "result" response >>= server.types.listToolsResult with
    | error e =>
      rw [hvalidated] at hrest
      cases hrest
    | ok listing =>
      rw [hvalidated] at hrest
      cases hrest
      obtain ⟨value, hvalue, hvalid⟩ := bind_except_ok hvalidated
      obtain ⟨answer, hanswer, herror, hget⟩ := pyIn_subscript hin hvalue
      exact ⟨answer, value, hanswer, herror, hget, hvalid⟩

/-- A listing names, in the upstream's order, those of its tools that an active record grants. -/
theorem listTools_granted (server : McpServer CallToolResult ListToolsResult ErrorData)
    (headers : Headers) (requestId : String) (result : ListToolsResult)
    (h : (server.listTools headers requestId).result = .ok result) :
    (server.listTools headers requestId).trace =
        (server.governedExecution.execute headers (payload "tools/list" requestId [])).trace ∧
      server.governedExecution.ListedAs headers (payload "tools/list" requestId [])
        (server.types.names result) := by
  obtain ⟨response, hresponse, hlisted⟩ := mapError_bind_ok h
  obtain ⟨answer, value, rfl, herror, hget, hvalid⟩ := listed_ok hlisted
  obtain ⟨fields, tools, rfl, htools, hnames⟩ := server.types.listed_named hvalid
  have hanswer : toolsOf? answer = some (fields, tools) := by
    rw [toolsOf?, hget]
    simp only [htools]
  have hread : tools.filterMap stringName = server.types.names result := by
    have hids := congrArg (List.filterMap id) hnames
    rw [List.filterMap_map, List.filterMap_map] at hids
    exact hids.trans List.filterMap_some
  refine ⟨execute_trace "tools/list" requestId [], ?_⟩
  rw [← hread]
  exact GovernedExecutionService.listedAs_of_execute rfl herror
    ((execute_succeeds_iff herror).mp hresponse) hanswer

/-! ## A server of its own types -/

/-- Results that keep the value they were validated from. -/
def plainTypes : McpTypes (Bool × Json) (List String) (Json × Json) where
  callToolResult value := .ok (false, value)
  listToolsResult value :=
    match value with
    | .obj fields =>
      match Dict.get? fields "tools" with
      | some (.arr tools) =>
        if tools.all fun tool => (stringName tool).isSome then .ok (tools.filterMap stringName)
        else .error validationError
      | _ => .error validationError
    | _ => .error validationError
  errorData code message := .ok (code, message)
  textError text := .ok (true, text)
  isError := Prod.fst
  names := id
  textError_isError := by
    intro text result h
    cases h
    rfl
  listed_named := by
    intro value result h
    split at h
    case h_1 fields =>
      split at h
      case h_1 tools htools =>
        split_ifs at h with hall
        cases h
        refine ⟨fields, tools, rfl, htools, ?_⟩
        rw [id_eq, List.map_filterMap, ← List.filterMap_eq_map]
        refine List.filterMap_congr fun tool htool => ?_
        obtain ⟨name, hname⟩ := Option.isSome_iff_exists.mp (List.all_eq_true.mp hall tool htool)
        rw [Function.comp_apply, hname, Option.map_some]
      case h_2 => cases h
    case h_2 => cases h

def twoTools : Dict :=
  [("result", .obj [("tools", .arr [.obj [("name", .str "drop_table")],
    .obj [("name", .str "update_record")]])])]

/-- A record that grants one tool, and an upstream that advertises two. -/
def plainServer : McpServer (Bool × Json) (List String) (Json × Json) where
  governedExecution :=
    { GovernedExecutionService.fixed fixedAgent
        (some { fixedRecord with grantedTools := [approvedGrant] }) ⟨.allow, ""⟩ with
      mcpUpstream := fun call _ =>
        .ok (.obj (if call.method = "tools/list" then twoTools else [("result", .obj [])])) }
  types := plainTypes
  repr _ := ""

theorem plainServer_called :
    ∃ answer value, plainServer.governedExecution.ForwardedAs []
        (GovernedExecutionService.toolBody (.str "1") "update_record" []) "update_record" [] answer ∧
      Dict.get? answer "error" = none ∧ Dict.get? answer "result" = some value ∧
      plainServer.types.callToolResult value = .ok (false, .obj []) :=
  (callTool_mediated plainServer [] "update_record" [] "1" (false, .obj []) rfl).1.mp rfl

theorem plainServer_listed :
    (plainServer.listTools [] "1").trace =
        (plainServer.governedExecution.execute [] (payload "tools/list" "1" [])).trace ∧
      plainServer.governedExecution.ListedAs [] (payload "tools/list" "1" []) ["update_record"] :=
  listTools_granted plainServer [] "1" ["update_record"] rfl

end McpServer

end OpenAgentControl
