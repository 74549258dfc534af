import OpenAgentControl.Sdk.Enforcement

/-! # Tools for an agent framework

`sdk/langchain.py`: the tools that `proxied_tools` builds from a listing of the gateway, with the models of
their arguments, and the call that each of them makes. Whether the framework accepts a tool is a
parameter. The main result says what an agent is shown, and what comes of every call of it. -/

namespace OpenAgentControl
set_option autoImplicit false
set_option maxHeartbeats 250000

open Foundations
open GovernedExecutionService (toolBody)

/-! ## Argument models -/

inductive Annotation
  | str
  | float
  | int
  | bool
  | list
  | dict
  | any
deriving DecidableEq

/-- `_JSON_TYPES`. -/
def jsonTypes : List (String × Annotation) :=
  [("string", .str), ("number", .float), ("integer", .int), ("boolean", .bool), ("array", .list),
    ("object", .dict)]

/-- A field of an argument model; one that is not required defaults to `None`. -/
structure ArgField where
  annotation : Annotation
  required : Bool
  description : Json
deriving DecidableEq

/-- `value or default`. -/
def orElse (value : Option Json) (default : Json) : Json :=
  match value with
  | some value => if value.truthy then value else default
  | none => default

/-- What a value gives one by one in a loop. -/
def iterate : Json → Except SdkExc (List Json)
  | .arr items => .ok items
  | .obj fields => .ok (fields.map fun field => .str field.1)
  | .str s => .ok (s.toList.map fun c => .str (String.singleton c))
  | _ => .error (.other "TypeError")

/-- `set(value)`. -/
def pySet (value : Json) : Except SdkExc (List Json) := do
  let items ← iterate value
  if items.all hashable then return items else .error (.other "TypeError")

def argField (required : List Json) (name : String) (spec : Json) : ArgField :=
  let fields : Dict := match spec with
    | .obj fields => fields
    | _ => []
  -- the `str` of no other value is the name of a type
  { annotation := match Dict.get? fields "type" with
      | some (.str name) => (jsonTypes.lookup name).getD .any
      | _ => .any
    required := decide (.str name ∈ required)
    description := orElse (Dict.get? fields "description") (.str "") }

/-- The fields that `_args_model` gives to `create_model`, if there are properties. -/
def argsModel (inputSchema : Dict) : Except SdkExc (Option (List (String × ArgField))) :=
  match Dict.get? inputSchema "properties" with
  | some (.obj properties) => do
    let required ← pySet (orElse (Dict.get? inputSchema "required") (.arr []))
    return some (properties.map fun property => (property.1, argField required property.1 property.2))
  | _ => .ok none

/-! ## Tools -/

/-- What `StructuredTool.from_function` is given. -/
structure ProxyTool where
  name : String
  description : Json
  argsSchema : Option (List (String × ArgField))
deriving DecidableEq

/-- The tool for one entry of a listing; an entry without a name gives none. -/
def proxyTool (accepts : ProxyTool → Except SdkExc Unit) (spec : Json) :
    Except SdkExc (Option ProxyTool) :=
  match spec with
  | .obj fields =>
    match Dict.get? fields "name" with
    | some (.str name) => do
      let inputSchema := match Dict.get? fields "inputSchema" with
        | some (.obj schema) => schema
        | _ => []
      let argsSchema ← argsModel inputSchema
      let tool : ProxyTool :=
        { name, description := orElse (Dict.get? fields "description") (.str name), argsSchema }
      accepts tool
      return some tool
    | _ => .ok none
  | _ => .error (.other "AttributeError")

/-- The loop of `proxied_tools`. -/
def proxyEach (accepts : ProxyTool → Except SdkExc Unit) : List Json → Except SdkExc (List ProxyTool)
  | [] => .ok []
  | spec :: rest => do
    let tool ← proxyTool accepts spec
    let tools ← proxyEach accepts rest
    return tool.toList ++ tools

def proxiedTools (client : ClientBase) (accepts : ProxyTool → Except SdkExc Unit) :
    Except SdkExc (List ProxyTool) := do
  let specs ← GovernedClient.listTools client
  let specs ← iterate specs
  proxyEach accepts specs

/-- The arguments without the nulls that the framework fills in. -/
def supplied (arguments : Dict) : Dict := arguments.filter fun argument => argument.2 ≠ .null

/-- The function of `_proxy_callable`. -/
def ProxyTool.call (tool : ProxyTool) (client : ClientBase) (arguments : Dict) :
    Except SdkExc String :=
  match GovernedClient.callTool client tool.name (some (supplied arguments)) with
  | .ok result => .ok (pyStr client.repr result)
  | .error (.toolCallFailed message) => .ok message
  | .error e => .error e

/-! ## What an agent is shown -/

variable {client : ClientBase} {svc : GovernedExecutionService} {headers : Headers}
  {accepts : ProxyTool → Except SdkExc Unit}

theorem bind_sdk_ok {α β : Type} {x : Except SdkExc α} {f : α → Except SdkExc β} {b : β}
    (h : x >>= f = .ok b) : ∃ a, x = .ok a ∧ f a = .ok b := by
  cases x with
  | ok a => exact ⟨a, rfl, h⟩
  | error e => cases h

theorem proxyTool_name {spec : Json} {tool : Option ProxyTool}
    (h : proxyTool accepts spec = .ok tool) :
    (∃ fields, spec = .obj fields) ∧ tool.map ProxyTool.name = stringName spec := by
  cases spec with
  | obj fields =>
    refine ⟨⟨fields, rfl⟩, ?_⟩
    unfold proxyTool at h
    cases hname : Dict.get? fields "name" with
    | none =>
      simp only [hname] at h
      cases h
      simp [stringName, toolName, hname]
    | some value =>
      simp only [hname] at h
      cases value with
      | str name =>
        obtain ⟨argsSchema, -, h⟩ := bind_sdk_ok h
        obtain ⟨⟨⟩, -, h⟩ := bind_sdk_ok h
        cases h
        simp [stringName, toolName, hname]
      | _ =>
        cases h
        simp [stringName, toolName, hname]
  | _ => cases h

theorem proxyEach_names {specs : List Json} {tools : List ProxyTool}
    (h : proxyEach accepts specs = .ok tools) :
    (∀ spec ∈ specs, ∃ fields, spec = .obj fields) ∧
      tools.map ProxyTool.name = specs.filterMap stringName := by
  induction specs generalizing tools with
  | nil =>
    cases h
    exact ⟨nofun, rfl⟩
  | cons spec rest ih =>
    obtain ⟨tool, htool, h⟩ := bind_sdk_ok h
    obtain ⟨others, hothers, h⟩ := bind_sdk_ok h
    cases h
    obtain ⟨hobject, hname⟩ := proxyTool_name htool
    obtain ⟨hrest, hnames⟩ := ih hothers
    refine ⟨List.forall_mem_cons.mpr ⟨hobject, hrest⟩, ?_⟩
    rw [List.map_append, hnames]
    cases hstring : stringName spec with
    | none =>
      rw [hstring] at hname
      rw [Option.map_eq_none_iff.mp hname, List.filterMap_cons_none hstring]
      rfl
    | some name =>
      rw [hstring] at hname
      obtain ⟨tool', rfl, rfl⟩ := Option.map_eq_some_iff.mp hname
      rw [List.filterMap_cons_some hstring]
      rfl

/-- A loop over anything but a list yields no tool. -/
theorem proxyEach_iterate {value : Json} {specs : List Json} {tools : List ProxyTool}
    (hspecs : iterate value = .ok specs) (h : proxyEach accepts specs = .ok tools) :
    tools = [] ∨ value = .arr specs := by
  obtain ⟨hobjects, hnames⟩ := proxyEach_names h
  have hnone : (∀ spec ∈ specs, ∃ s, spec = .str s) → tools = [] := by
    intro hstrings
    have hempty : specs = [] := by
      refine List.eq_nil_iff_forall_not_mem.mpr fun spec hspec => ?_
      obtain ⟨s, rfl⟩ := hstrings spec hspec
      obtain ⟨fields, habs⟩ := hobjects _ hspec
      cases habs
    rw [hempty] at hnames
    exact List.map_eq_nil_iff.mp hnames
  cases value with
  | arr items => exact Or.inr (congrArg Json.arr (Except.ok.inj hspecs))
  | obj fields =>
    cases hspecs
    refine Or.inl (hnone fun spec hspec => ?_)
    obtain ⟨field, -, rfl⟩ := List.mem_map.mp hspec
    exact ⟨field.1, rfl⟩
  | str s =>
    cases hspecs
    refine Or.inl (hnone fun spec hspec => ?_)
    obtain ⟨c, -, rfl⟩ := List.mem_map.mp hspec
    exact ⟨String.singleton c, rfl⟩
  | _ => cases hspecs

/-- The value that `list_tools` finds in a result, when it is a list. -/
theorem toolsIn_arr {result : Json} {items : List Json} (h : toolsIn result = .ok (.arr items)) :
    items = [] ∨ ∃ fields, result = .obj fields ∧ Dict.get? fields "tools" = some (.arr items) := by
  by_cases hobject : ∃ fields, result = .obj fields
  · obtain ⟨fields, rfl⟩ := hobject
    have hread : (Dict.get? fields "tools").getD (.arr []) = .arr items := Except.ok.inj h
    cases htools : Dict.get? fields "tools" with
    | none =>
      rw [htools] at hread
      exact Or.inl (Json.arr.inj hread).symm
    | some tools =>
      rw [htools, Option.getD_some] at hread
      rw [hread] at htools
      exact Or.inr ⟨fields, rfl, htools⟩
  · refine Or.inl ?_
    unfold toolsIn getOrEmpty at h
    split at h
    case h_1 fields heq => exact absurd ⟨fields, Option.some.inj heq⟩ hobject
    case h_2 =>
      split_ifs at h
      · cases h
      · exact (Json.arr.inj (Except.ok.inj h)).symm
    case h_3 => exact (Json.arr.inj (Except.ok.inj h)).symm

/-- The names of the tools that are built are those of a listing that the gateway gave. -/
theorem proxiedTools_names {tools : List ProxyTool} (hserved : ServedBy client svc headers)
    (h : proxiedTools client accepts = .ok tools) :
    tools = [] ∨ svc.ListedAs headers
      [("jsonrpc", .str "2.0"), ("id", .int 1), ("method", .str "tools/list"), ("params", .obj [])]
      (tools.map ProxyTool.name) := by
  obtain ⟨found, hfound, h⟩ := bind_sdk_ok h
  obtain ⟨specs, hspecs, htools⟩ := bind_sdk_ok h
  obtain hnone | rfl := proxyEach_iterate hspecs htools
  · exact Or.inl hnone
  obtain ⟨result, hsend, hin⟩ := bind_sdk_ok hfound
  obtain ⟨answer, herror, hresult, hexecute⟩ := hserved.rpc_ok hsend
  obtain ⟨-, hnames⟩ := proxyEach_names htools
  obtain rfl | ⟨fields, hobject, hget⟩ := toolsIn_arr hin
  · exact Or.inl (List.map_eq_nil_iff.mp hnames)
  · refine Or.inr ?_
    have hanswer : toolsOf? answer = some (fields, specs) := by
      cases hvalue : Dict.get? answer "result" with
      | none =>
        rw [hvalue, hobject] at hresult
        cases hresult
      | some value =>
        rw [hvalue, Option.getD_some, hobject] at hresult
        rw [toolsOf?, hvalue, ← hresult]
        simp only [hget]
    rw [hnames]
    exact GovernedExecutionService.listedAs_of_execute rfl herror hexecute hanswer

/-! ## What comes of a call -/

/-- The message of a failed call is that of the error in the gateway's answer. -/
theorem parseRpc_failed {repr : Json → String} {r : HttpResponse} {message : String}
    (h : parseRpc repr r = .error (.toolCallFailed message)) :
    ∃ answer error, r.json = some (.obj answer) ∧ Dict.get? answer "error" = some error ∧
      rpcError repr error = .toolCallFailed message := by
  obtain ⟨-, hrefuse⟩ | ⟨-, -, name, herror⟩ | ⟨answer, -, hbody, hparse⟩ :=
    @parseRpc_cases repr r
  · rw [hrefuse, refuse] at h
    by_cases hreadable : DetailReadable r.json
    · obtain ⟨text, htext⟩ := @detail_of_readable repr r hreadable
      rw [htext] at h
      cases h
    · rw [detail_of_unreadable hreadable] at h
      cases h
  · rw [herror] at h
    cases h
  · rw [hparse] at h
    cases herror : Dict.get? answer "error" with
    | none =>
      rw [herror] at h
      cases h
    | some error =>
      rw [herror] at h
      exact ⟨answer, error, hbody, herror, Except.error.inj h⟩

/-- A call of a proxied tool returns the upstream's answer to the arguments that are not null, or the
message of an error that the gateway answered. -/
theorem ProxyTool.call_ok {tool : ProxyTool} {arguments : Dict} {text : String}
    (hserved : ServedBy client svc headers) (h : tool.call client arguments = .ok text) :
    (∃ answer, svc.ForwardedAs headers (toolBody (.int 1) tool.name (supplied arguments)) tool.name
        (supplied arguments) answer ∧ Dict.get? answer "error" = none ∧
      text = pyStr client.repr ((Dict.get? answer "result").getD .null)) ∨
    ∃ status answer error, mcpProxy svc headers
        (some (.obj (toolBody (.int 1) tool.name (supplied arguments)))) =
        .response ⟨status, .obj answer⟩ ∧
      Dict.get? answer "error" = some error ∧ rpcError client.repr error = .toolCallFailed text := by
  unfold ProxyTool.call at h
  cases hcall : GovernedClient.callTool client tool.name (some (supplied arguments)) with
  | ok result =>
    rw [hcall] at h
    cases h
    obtain ⟨answer, hforwarded, herror, rfl⟩ := GovernedClient.callTool_forwarded hserved hcall
    exact Or.inl ⟨answer, hforwarded, herror, rfl⟩
  | error e =>
    rw [hcall] at h
    cases e with
    | toolCallFailed message =>
      cases h
      refine Or.inr ?_
      have hdelivered := hserved.rpc "tools/call"
        [("name", .str tool.name), ("arguments", .obj (supplied arguments))]
      unfold GovernedClient.callTool ClientBase.send ClientBase.callRequest at hcall
      rw [Option.getD_some] at hcall
      cases hanswer : client.answer (client.rpcRequest "tools/call"
          [("name", .str tool.name), ("arguments", .obj (supplied arguments))]) with
      | httpError message =>
        rw [hanswer] at hcall
        cases hcall
      | response r =>
        rw [hanswer] at hcall hdelivered
        obtain ⟨answer, error, hbody, herror, hmessage⟩ := parseRpc_failed hcall
        obtain ⟨response, r', houtcome, hr, -, hcontent⟩ := hdelivered.arrived ⟨r, _, rfl, hbody⟩
        cases hr
        rw [hbody] at hcontent
        refine ⟨response.statusCode, answer, error, ?_, herror, hmessage⟩
        rw [Option.some.inj hcontent]
        exact houtcome
    | _ => cases h

/-- An agent is shown tools that an active record grants, by a listing that was itself decided and
receipted. Whenever it calls one, and whatever the gateway is by then, it reads the upstream's answer to
that call, forwarded by mediation alone, or the error that the gateway answered. -/
theorem proxiedTools_governed (client : ClientBase) (svc : GovernedExecutionService)
    (headers : Headers) (hserved : ServedBy client svc headers)
    (accepts : ProxyTool → Except SdkExc Unit) (tools : List ProxyTool)
    (h : proxiedTools client accepts = .ok tools) :
    (tools = [] ∨ svc.ListedAs headers
      [("jsonrpc", .str "2.0"), ("id", .int 1), ("method", .str "tools/list"), ("params", .obj [])]
      (tools.map ProxyTool.name)) ∧
    ∀ tool ∈ tools, ∀ (client' : ClientBase) (svc' : GovernedExecutionService) (headers' : Headers),
      ServedBy client' svc' headers' → ∀ (arguments : Dict) (text : String),
      tool.call client' arguments = .ok text →
        (∃ answer, svc'.ForwardedAs headers' (toolBody (.int 1) tool.name (supplied arguments))
            tool.name (supplied arguments) answer ∧ Dict.get? answer "error" = none ∧
          text = pyStr client'.repr ((Dict.get? answer "result").getD .null)) ∨
        ∃ status answer error, mcpProxy svc' headers'
            (some (.obj (toolBody (.int 1) tool.name (supplied arguments)))) =
            .response ⟨status, .obj answer⟩ ∧
          Dict.get? answer "error" = some error ∧
          rpcError client'.repr error = .toolCallFailed text :=
  ⟨proxiedTools_names hserved h, fun _ _ _ _ _ hserved' _ _ hcall => ProxyTool.call_ok hserved' hcall⟩

/-- A tool of a record that grants one, over an upstream that advertises two. -/
theorem proxiedTools_local :
    ([⟨"update_record", .str "update_record", none⟩] = ([] : List ProxyTool) ∨
      McpServer.plainServer.governedExecution.ListedAs []
        [("jsonrpc", .str "2.0"), ("id", .int 1), ("method", .str "tools/list"),
          ("params", .obj [])] ["update_record"]) ∧
    ((∃ answer, McpServer.plainServer.governedExecution.ForwardedAs []
        (toolBody (.int 1) "update_record" []) "update_record" [] answer ∧
        Dict.get? answer "error" = none ∧
        "" = pyStr (fun _ => "") ((Dict.get? answer "result").getD .null)) ∨
      ∃ status answer error, mcpProxy McpServer.plainServer.governedExecution []
          (some (.obj (toolBody (.int 1) "update_record" []))) = .response ⟨status, .obj answer⟩ ∧
        Dict.get? answer "error" = some error ∧
        rpcError (fun _ => "") error = .toolCallFailed "") := by
  have hserved := localClient_servedBy McpServer.plainServer.governedExecution []
  obtain ⟨hlisted, hcalls⟩ := proxiedTools_governed
    (localClient McpServer.plainServer.governedExecution []) McpServer.plainServer.governedExecution []
    hserved (fun _ => .ok ()) [⟨"update_record", .str "update_record", none⟩] rfl
  exact ⟨hlisted, hcalls _ (List.mem_singleton.mpr rfl) _ _ _ hserved [("limit", .null)] "" rfl⟩

end OpenAgentControl
