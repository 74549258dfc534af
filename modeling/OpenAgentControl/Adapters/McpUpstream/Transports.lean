import OpenAgentControl.Adapters.Http

/-! # The two transports

`adapters/mcp_upstream/http.py` and `streamable_http.py`. A `forward` is a traced computation over the
requests an adapter makes of its server; the answers of the server and of the MCP SDK are parameters.
What the SDK sends of its own (the handshake, the framing) is no request of the adapter. -/

namespace OpenAgentControl
set_option autoImplicit false
set_option maxHeartbeats 250000

open Foundations

inductive UpstreamRequest
  | post (headers : Headers) (payload : Dict)
  | listTools (cursor : Option String)
  | callTool (name : String) (arguments : Dict)

/-! ## What a request asks for -/

/-- What an MCP server is asked to do, with the name and the arguments as they stand in the request. -/
inductive Operation
  | list
  | invoke (name arguments : Json)
  | other (method : String)

/-- A JSON-RPC payload as a server reads it, by its method. -/
def readOperation (payload : Dict) : Option Operation :=
  match payload.get? "method", payload.get? "params" with
  | some (.str method), some (.obj params) =>
    if method = "tools/list" then some .list
    else if method = "tools/call" then
      some (.invoke ((Dict.get? params "name").getD .null)
        ((Dict.get? params "arguments").getD .null))
    else some (.other method)
  | _, _ => none

def UpstreamRequest.operation : UpstreamRequest → Option Operation
  | post _ payload => readOperation payload
  | listTools _ => some .list
  | callTool name arguments => some (.invoke (.str name) (.obj arguments))

namespace ToolCallRequest

/-- The operation is the one the call is named for. -/
def Names (call : ToolCallRequest) : Operation → Prop
  | .list => call.method = "tools/list"
  | .invoke name arguments =>
    call.method = "tools/call" ∧ name = optionalString call.toolName ∧ arguments = .obj call.arguments
  | .other method => method = call.method

def AsksFor (call : ToolCallRequest) (request : UpstreamRequest) : Prop :=
  ∃ operation, request.operation = some operation ∧ call.Names operation

end ToolCallRequest

/-! ## The raw adapter -/

structure HttpMCPUpstream where
  post : Headers → Dict → HttpOutcome

namespace HttpMCPUpstream

def payload (request : ToolCallRequest) : Dict :=
  [("jsonrpc", .str "2.0"), ("id", RequestId.modelDump request.requestId),
    ("method", .str request.method),
    ("params", .obj [("name", optionalString request.toolName),
      ("arguments", .obj request.arguments)])]

def forward (upstream : HttpMCPUpstream) (request : ToolCallRequest) (credential : String) :
    Traced UpstreamRequest Exc Json where
  trace := [.post (bearerHeaders credential) (payload request)]
  result :=
    match upstream.post (bearerHeaders credential) (payload request) with
    | .httpError message => .error (.upstream message)
    | .raised e => .error e
    | .success none => .error jsonDecodeError
    | .success (some body) => .ok body

theorem asksFor (upstream : HttpMCPUpstream) (call : ToolCallRequest) (credential : String) :
    ∀ request ∈ (upstream.forward call credential).trace, call.AsksFor request := by
  intro request hrequest
  rw [List.mem_singleton.mp hrequest]
  by_cases hlist : call.method = "tools/list"
  · exact ⟨.list, if_pos hlist, hlist⟩
  · by_cases hcall : call.method = "tools/call"
    · exact ⟨.invoke (optionalString call.toolName) (.obj call.arguments),
        (if_neg hlist).trans (if_pos hcall), hcall, rfl, rfl⟩
    · exact ⟨.other call.method, (if_neg hlist).trans (if_neg hcall), rfl⟩

end HttpMCPUpstream

/-! ## The session adapter -/

/-- A failure as the SDK raises it. -/
inductive SdkError
  /-- A `BaseExceptionGroup`. -/
  | group (exceptions : List SdkError)
  | upstream (message : String)
  /-- Another `Exception`, by its class. -/
  | error (className message : String)
  /-- A `BaseException` that is no `Exception`. -/
  | base (className message : String)

namespace SdkError

mutual
/-- `_describe`. -/
def describe : SdkError → String
  | group exceptions => "; ".intercalate (describeAll exceptions)
  | upstream message => message
  | error className message => className ++ ": " ++ message
  | base className message => className ++ ": " ++ message

def describeAll : List SdkError → List String
  | [] => []
  | e :: rest => describe e :: describeAll rest
end

mutual
/-- A group is an `ExceptionGroup` when all of its members are exceptions. -/
def isException : SdkError → Bool
  | group exceptions => allExceptions exceptions
  | base _ _ => false
  | _ => true

def allExceptions : List SdkError → Bool
  | [] => true
  | e :: rest => isException e && allExceptions rest
end

/-- `except Exception as exc: raise UpstreamError(_describe(exc))`; the others pass. -/
def caught (e : SdkError) : Exc :=
  if e.isException then .upstream e.describe
  else
    match e with
    | base className _ => .other className
    | _ => .other "BaseExceptionGroup"

end SdkError

/-- A `CallToolResult`: its dump and its flag. -/
structure CallResult where
  payload : Dict
  isError : Bool

/-- `ClientSession`, with its results dumped. -/
structure McpSession where
  /-- `await session.initialize()`. -/
  handshake : Except SdkError Unit
  listTools : Option String → Except SdkError Dict
  callTool : String → Dict → Except SdkError CallResult

/-- `_jsonrpc_result`. -/
def jsonrpcResult (request : ToolCallRequest) (payload : Dict) : Json :=
  .obj [("jsonrpc", .str "2.0"), ("id", RequestId.modelDump request.requestId),
    ("result", .obj payload)]

/-- The text of a content block of type `text`. -/
def blockText : Json → Option String
  | .obj block =>
    if Dict.get? block "type" = some (.str "text") then
      match Dict.get? block "text" with
      | some (.str text) => some text
      | _ => some ""
    else none
  | _ => none

/-- `_error_text`. -/
def errorText (payload : Dict) : String :=
  let blocks := match payload.get? "content" with
    | some (.arr blocks) => blocks
    | _ => []
  let message := "; ".intercalate ((blocks.filterMap blockText).filter (· ≠ ""))
  if message = "" then "upstream reported an error" else message

structure StreamableHttpMCPUpstream where
  /-- The client, the streams and the session, opened with these headers. -/
  connect : Headers → Except SdkError McpSession
  /-- What leaves the `async with` whose body ended so. -/
  unwind : Except SdkError Json → Except SdkError Json

namespace StreamableHttpMCPUpstream

/-- `_dispatch`. -/
def dispatch (session : McpSession) (request : ToolCallRequest) :
    Traced UpstreamRequest SdkError Json :=
  if request.method = "tools/list" then do
    let listing ← Traced.perform (fun _ => .listTools none) (session.listTools none)
    return jsonrpcResult request listing
  else do
    let result ← Traced.perform (fun _ => .callTool (request.toolName.getD "") request.arguments)
      (session.callTool (request.toolName.getD "") request.arguments)
    if result.isError then Traced.raise (.upstream (errorText result.payload))
    else return jsonrpcResult request result.payload

/-- The session, once it has been initialized. -/
def session (upstream : StreamableHttpMCPUpstream) (credential : String) :
    Except SdkError McpSession := do
  let session ← upstream.connect (bearerHeaders credential)
  session.handshake
  return session

/-- The body of the `async with`. -/
def body (upstream : StreamableHttpMCPUpstream) (request : ToolCallRequest) (credential : String) :
    Traced UpstreamRequest SdkError Json := do
  let session ← Traced.ofExcept (upstream.session credential)
  dispatch session request

def forward (upstream : StreamableHttpMCPUpstream) (request : ToolCallRequest)
    (credential : String) : Traced UpstreamRequest Exc Json where
  trace := (upstream.body request credential).trace
  result := (upstream.unwind (upstream.body request credential).result).mapError SdkError.caught

/-- The one request a session gets: a listing for `tools/list`, a tool call for any other method. -/
def asked (request : ToolCallRequest) : UpstreamRequest :=
  if request.method = "tools/list" then .listTools none
  else .callTool (request.toolName.getD "") request.arguments

theorem dispatch_trace (session : McpSession) (request : ToolCallRequest) :
    (dispatch session request).trace = [asked request] := by
  unfold dispatch asked
  split_ifs with hlist
  · cases hlisting : session.listTools none with
    | ok listing =>
      rw [Traced.bind_of_ok (Traced.perform_result _ _)]
      rfl
    | error e =>
      rw [Traced.bind_of_error (Traced.perform_result _ _)]
      rfl
  · cases hresult : session.callTool (request.toolName.getD "") request.arguments with
    | ok result =>
      rw [Traced.bind_of_ok (Traced.perform_result _ _)]
      cases hflag : result.isError <;> rfl
    | error e =>
      rw [Traced.bind_of_error (Traced.perform_result _ _)]
      rfl

theorem forward_trace (upstream : StreamableHttpMCPUpstream) (request : ToolCallRequest)
    (credential : String) :
    (upstream.forward request credential).trace =
      match upstream.session credential with
      | .ok _ => [asked request]
      | .error _ => [] := by
  show (upstream.body request credential).trace = _
  unfold body
  cases hsession : upstream.session credential with
  | ok session =>
    rw [Traced.bind_of_ok (Traced.ofExcept_result _), Traced.ofExcept_trace, List.nil_append]
    exact dispatch_trace session request
  | error e => rfl

/-- A session is asked for what the request is named for in two cases only. -/
theorem asksFor_asked_iff (call : ToolCallRequest) :
    call.AsksFor (asked call) ↔
      call.method = "tools/list" ∨ call.method = "tools/call" ∧ call.toolName ≠ none := by
  unfold asked
  split_ifs with hlist
  · exact iff_of_true ⟨.list, rfl, hlist⟩ (Or.inl hlist)
  · constructor
    · rintro ⟨operation, hoperation, hnames⟩
      cases hoperation
      obtain ⟨hcall, hname, -⟩ := hnames
      refine Or.inr ⟨hcall, fun hnone => ?_⟩
      rw [hnone] at hname
      cases hname
    · rintro (habs | ⟨hcall, hname⟩)
      · exact absurd habs hlist
      · obtain ⟨name, hsome⟩ := Option.ne_none_iff_exists'.mp hname
        rw [hsome]
        refine ⟨.invoke (.str name) (.obj call.arguments), rfl, hcall, ?_, rfl⟩
        rw [hsome]
        rfl

end StreamableHttpMCPUpstream

/-! ## Either adapter -/

inductive UpstreamAdapter
  | http (upstream : HttpMCPUpstream)
  | streamable (upstream : StreamableHttpMCPUpstream)

namespace UpstreamAdapter

def forward : UpstreamAdapter → ToolCallRequest → String → Traced UpstreamRequest Exc Json
  | http upstream => upstream.forward
  | streamable upstream => upstream.forward

/-- The adapter as the port of the use case. -/
def port (adapter : UpstreamAdapter) : MCPUpstream :=
  fun request credential => (adapter.forward request credential).result

/-- Every request the adapter makes of its server for this call is for what the call is named for. -/
def RunsAsNamed (adapter : UpstreamAdapter) (call : ToolCallRequest) (credential : String) : Prop :=
  ∀ request ∈ (adapter.forward call credential).trace, call.AsksFor request

theorem http_runsAsNamed (upstream : HttpMCPUpstream) (call : ToolCallRequest)
    (credential : String) : (http upstream).RunsAsNamed call credential :=
  upstream.asksFor call credential

theorem streamable_runsAsNamed_iff (upstream : StreamableHttpMCPUpstream) (call : ToolCallRequest)
    (credential : String) :
    (streamable upstream).RunsAsNamed call credential ↔
      call.method = "tools/list" ∨ call.method = "tools/call" ∧ call.toolName ≠ none ∨
        ∃ e, upstream.session credential = .error e := by
  show (∀ request ∈ (upstream.forward call credential).trace, call.AsksFor request) ↔ _
  rw [upstream.forward_trace, ← or_assoc, ← StreamableHttpMCPUpstream.asksFor_asked_iff]
  cases upstream.session credential with
  | ok session => simp
  | error e => simp

theorem operation_of_list (adapter : UpstreamAdapter) {call : ToolCallRequest}
    (hlist : call.method = "tools/list") {credential : String} {request : UpstreamRequest}
    (hrequest : request ∈ (adapter.forward call credential).trace) :
    request.operation = some .list := by
  cases adapter with
  | http upstream =>
    rw [List.mem_singleton.mp hrequest]
    exact if_pos hlist
  | streamable upstream =>
    have hmem : request ∈ (upstream.forward call credential).trace := hrequest
    rw [upstream.forward_trace] at hmem
    cases hsession : upstream.session credential with
    | ok session =>
      rw [hsession] at hmem
      rw [List.mem_singleton.mp hmem, StreamableHttpMCPUpstream.asked, if_pos hlist]
      rfl
    | error e =>
      rw [hsession] at hmem
      cases hmem

end UpstreamAdapter

end OpenAgentControl
