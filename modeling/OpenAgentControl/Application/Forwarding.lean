import OpenAgentControl.Application.Mediation
import OpenAgentControl.Adapters.Ledger.Signing
import OpenAgentControl.Adapters.McpUpstream.Routing
import OpenAgentControl.Adapters.McpUpstream.Transports

/-! # What policy evaluated and what the upstream runs

A forwarded call is the payload's, it is the one policy was asked about and the one the receipt
hashes, and the router hands it on as it is. Whether the server is asked for the same thing depends
on the transport and on the payload alone. -/

namespace OpenAgentControl
set_option autoImplicit false
set_option maxHeartbeats 250000

open Foundations
open RoutingMCPUpstream (RouterState listingOf)

/-! ## The call and the payload -/

def payloadMethod (payload : Dict) : Json := (payload.get? "method").getD (.str "")

/-- The entry of `params`, when there is one to ask. -/
def payloadParam (payload : Dict) (key : String) (default : Json) : Json :=
  match paramsOf payload with
  | .ok params => (params.get? key).getD default
  | .error _ => default

structure ReadFrom (payload : Dict) (call : ToolCallRequest) : Prop where
  method : payloadMethod payload = .str call.method
  toolName : payloadParam payload "name" .null = optionalString call.toolName
  arguments : payloadParam payload "arguments" (.obj []) = .obj call.arguments

theorem eq_of_validateStr {value : Json} {s : String} (h : validateStr value = .ok s) :
    value = .str s := by
  cases value with
  | str t => exact congrArg Json.str (Except.ok.inj h)
  | _ => cases h

theorem eq_of_validateOptionalStr {value : Json} {s : Option String}
    (h : validateOptionalStr value = .ok s) : value = optionalString s := by
  cases value with
  | null => rw [← Except.ok.inj h, optionalString]
  | str t => rw [← Except.ok.inj h, optionalString]
  | _ => cases h

theorem eq_of_validateDict {value : Json} {fields : Dict} (h : validateDict value = .ok fields) :
    value = .obj fields := by
  cases value with
  | obj d => exact congrArg Json.obj (Except.ok.inj h)
  | _ => cases h

theorem readFrom_of_buildCall {payload : Dict} {agent : AgentIdentity}
    {registration : Option RegisteredAgent} {call : ToolCallRequest}
    (h : buildCall payload agent registration = .ok call) : ReadFrom payload call := by
  unfold buildCall at h
  obtain ⟨params, hparams, h⟩ := bind_except_ok h
  obtain ⟨method, hmethod, h⟩ := bind_except_ok h
  obtain ⟨toolName, hname, h⟩ := bind_except_ok h
  obtain ⟨arguments, harguments, h⟩ := bind_except_ok h
  obtain ⟨requestId, -, h⟩ := bind_except_ok h
  cases h
  refine ⟨eq_of_validateStr hmethod, ?_, ?_⟩
  · rw [payloadParam, hparams]
    exact eq_of_validateOptionalStr hname
  · rw [payloadParam, hparams]
    exact eq_of_validateDict harguments

/-- The payload lists, or calls a tool by a name: what a session has a method for. -/
def SessionPayload (payload : Dict) : Prop :=
  payloadMethod payload = .str "tools/list" ∨
    payloadMethod payload = .str "tools/call" ∧ payloadParam payload "name" .null ≠ .null

theorem ReadFrom.sessionPayload_iff {payload : Dict} {call : ToolCallRequest}
    (h : ReadFrom payload call) :
    SessionPayload payload ↔
      call.method = "tools/list" ∨ call.method = "tools/call" ∧ call.toolName ≠ none := by
  rw [SessionPayload, h.method, h.toolName, Json.str.injEq, Json.str.injEq]
  cases call.toolName <;> simp [optionalString]

/-- The transport can put the payload to its server as it stands: the raw one any, a session those it
has a method for. Where no session opens, nothing is put. -/
def UpstreamAdapter.CanPut (payload : Dict) (credential : String) : UpstreamAdapter → Prop
  | http _ => True
  | streamable upstream =>
    SessionPayload payload ∨ ∃ e, upstream.session credential = .error e

theorem UpstreamAdapter.runsAsNamed_iff (adapter : UpstreamAdapter) {payload : Dict}
    {call : ToolCallRequest} (h : ReadFrom payload call) (credential : String) :
    adapter.RunsAsNamed call credential ↔ adapter.CanPut payload credential := by
  cases adapter with
  | http upstream => exact iff_of_true (http_runsAsNamed upstream call credential) trivial
  | streamable upstream =>
    rw [streamable_runsAsNamed_iff, CanPut, h.sessionPayload_iff, or_assoc]

/-! ## The call and the receipt -/

theorem sortKeys_modelDump (call : ToolCallRequest) :
    sortKeys call.modelDump =
      .obj [("agent", sortKeys call.agent.modelDump),
        ("arguments", sortKeys (.obj call.arguments)), ("method", sortKeys (.str call.method)),
        ("registration",
          sortKeys ((call.registration.map RegisteredAgent.modelDump).getD .null)),
        ("request_id", sortKeys (RequestId.modelDump call.requestId)),
        ("subject", sortKeys ((call.subject.map SubjectIdentity.modelDump).getD .null)),
        ("tool_name", sortKeys (optionalString call.toolName))] := by
  rw [ToolCallRequest.modelDump, sortKeys]
  simp only [sortFields]
  congr 1
  generalize sortKeys call.agent.modelDump = agent
  generalize sortKeys (.obj call.arguments) = arguments
  generalize sortKeys (.str call.method) = method
  generalize sortKeys ((call.registration.map RegisteredAgent.modelDump).getD .null) = registration
  generalize sortKeys (RequestId.modelDump call.requestId) = requestId
  generalize sortKeys ((call.subject.map SubjectIdentity.modelDump).getD .null) = subject
  generalize sortKeys (optionalString call.toolName) = toolName
  simp [List.insertionSort, List.orderedInsert]

theorem sortKeys_optionalString (s : Option String) :
    sortKeys (optionalString s) = optionalString s := by
  cases s <;> rfl

/-- What is hashed for a receipt determines the method, the tool and the arguments. -/
theorem canonicalJson_modelDump_inj {call other : ToolCallRequest}
    (h : canonicalJson call.modelDump = canonicalJson other.modelDump) :
    call.method = other.method ∧ call.toolName = other.toolName ∧
      sortKeys (.obj call.arguments) = sortKeys (.obj other.arguments) := by
  unfold canonicalJson dumps at h
  rw [sortKeys_modelDump, sortKeys_modelDump] at h
  have hbytes := congrArg (· ++ ([] : Bytes)) h
  obtain ⟨hfields, -⟩ := utf8_obj_inj hbytes
  simp only [List.cons.injEq, Prod.mk.injEq, true_and, and_true, sortKeys_optionalString] at hfields
  obtain ⟨-, harguments, hmethod, -, -, -, hname⟩ := hfields
  exact ⟨Json.str.inj hmethod, optionalString_injective hname, harguments⟩

namespace GovernedExecutionService

variable {svc : GovernedExecutionService} {headers : Headers} {payload : Dict}

/-- The call is the payload's, policy decided it, and the receipt of that decision hashes it. -/
def Evaluated (svc : GovernedExecutionService) (payload : Dict) (trace : List Event)
    (call : ToolCallRequest) : Prop :=
  ReadFrom payload call ∧ ∃ agent decision enforced receipt,
    .evaluate call (.ok decision) ∈ trace ∧
    .record agent call decision enforced (.ok receipt) ∈ trace ∧
    ∀ key : SigningKey, key.SignsFor svc.ledger →
      receipt.payloadHash = key.sha256Hex (canonicalJson call.modelDump)

theorem ForwardedRun.evaluated (f : svc.ForwardedRun headers payload) :
    svc.Evaluated payload f.trace f.run.call := by
  have hbuilt := readFrom_of_buildCall f.run.builtOk
  have hframe := f.run.resolved.frame.1
  refine ⟨?_, ?_⟩
  · rw [hframe]
    exact ⟨hbuilt.method, hbuilt.toolName, hbuilt.arguments⟩
  · obtain ⟨-, hpolicy, -⟩ := f.run.allowed_inv f.allowed
    refine ⟨f.run.agent, f.run.decision, f.run.enforced, f.run.receipt, ?_, ?_, ?_⟩
    · simp [ForwardedRun.trace, AuthorizedRun.trace, hpolicy]
    · simp [ForwardedRun.trace, AuthorizedRun.trace]
    · intro key hkey
      obtain ⟨sequenceId, timestamp, previousHash, hreceipt⟩ := hkey _ _ _ _ _ f.run.recorded
      rw [hreceipt]
      rfl

section Router

variable {Time Id : Type} [LinearOrder Time] [Add Time] [Zero Time] [DecidableEq Id]

/-- What the router puts to an upstream for a call: the call itself, unless it is a listing, and
listings. Those outside the lock are the answer to a listing, those under it are the table's. -/
theorem routed_runsAsNamed_iff {router : RoutingMCPUpstream Time Id} {s : RouterState Time Id}
    (hs : router.system.Reachable s) {i : Id} (h : ReadFrom payload (router.request i))
    (adapters : String → UpstreamAdapter) :
    (∀ upstream time, .forwarded i upstream time ∈ s.history →
      (router.request i).method ≠ "tools/list" ∧
        ((adapters upstream).RunsAsNamed (router.request i) (router.credential i) ↔
          (adapters upstream).CanPut payload (router.credential i))) ∧
    ∀ locked results, s.phase i = .gathering locked results →
      (locked = false ↔ (router.request i).method = "tools/list") ∧
        ∀ upstream, ∀ request ∈ ((adapters upstream).forward (listingOf (router.request i))
          (router.credential i)).trace, request.operation = some .list := by
  have hconsistent := RoutingMCPUpstream.consistent_of_reachable hs
  refine ⟨?_, ?_⟩
  · intro upstream time hforwarded
    have hphase := hconsistent.phases i
    rw [hconsistent.called i upstream time hforwarded] at hphase
    exact ⟨hphase.1, (adapters upstream).runsAsNamed_iff h _⟩
  · intro locked results hgathering
    have hphase := hconsistent.phases i
    rw [hgathering] at hphase
    refine ⟨hphase.2.2, ?_⟩
    intro upstream request hrequest
    exact (adapters upstream).operation_of_list rfl hrequest

variable (Time Id) in
/-- A forwarded call is the evaluated one, and the upstream runs it as it is named exactly when its
transport can put the payload. -/
theorem forwarded_runsAsNamed_iff {call : ToolCallRequest} {credential : String}
    {answer : Except Exc Json}
    (hforward : .forward call credential answer ∈ (svc.execute headers payload).trace) :
    svc.Evaluated payload (svc.execute headers payload).trace call ∧
    (∀ other : ToolCallRequest, canonicalJson call.modelDump = canonicalJson other.modelDump →
      call.method = other.method ∧ call.toolName = other.toolName ∧
        sortKeys (.obj call.arguments) = sortKeys (.obj other.arguments)) ∧
    (∀ adapter : UpstreamAdapter, svc.mcpUpstream = adapter.port →
      (adapter.RunsAsNamed call credential ↔ adapter.CanPut payload credential)) ∧
    ∀ (router : RoutingMCPUpstream Time Id) (adapters : String → UpstreamAdapter)
      (s : RouterState Time Id) (i : Id), router.system.Reachable s → router.request i = call →
      router.credential i = credential →
      (∀ upstream time, .forwarded i upstream time ∈ s.history → call.method ≠ "tools/list" ∧
        ((adapters upstream).RunsAsNamed call credential ↔
          (adapters upstream).CanPut payload credential)) ∧
      ∀ locked results, s.phase i = .gathering locked results →
        (locked = false ↔ call.method = "tools/list") ∧
          ∀ upstream, ∀ request ∈ ((adapters upstream).forward (listingOf call)
            credential).trace, request.operation = some .list := by
  obtain ⟨f, heq, htrace⟩ := forward_inv hforward rfl
  cases heq
  have hevaluated := f.evaluated
  rw [htrace]
  refine ⟨hevaluated, fun other => canonicalJson_modelDump_inj, ?_, ?_⟩
  · intro adapter _
    exact adapter.runsAsNamed_iff hevaluated.1 f.credential
  · intro router adapters s i hs hrequest hcredential
    have hread : ReadFrom payload (router.request i) := by
      rw [hrequest]
      exact hevaluated.1
    rw [← hrequest, ← hcredential]
    exact routed_runsAsNamed_iff hs hread adapters

end Router

/-! ## A prompt that runs a tool -/

/-- A server that opens every session and runs every tool. -/
def openServer : UpstreamAdapter := .streamable {
  connect := fun _ => .ok {
    handshake := .ok ()
    listTools := fun _ => .ok [("tools", .arr [])]
    callTool := fun _ _ => .ok { payload := [("content", .arr [])], isError := false } }
  unwind := id }

/-- Observe mode, so that the refusal of the engine is softened. -/
def observing : GovernedExecutionService :=
  { fixed fixedAgent (some fixedRecord) ⟨.deny, "unknown method"⟩ with
    decisionMode := .observe
    mcpUpstream := openServer.port }

def promptPayload : Dict :=
  [("method", .str "prompts/get"), ("params", .obj [("name", .str "delete_record")])]

def promptCall : ToolCallRequest where
  method := "prompts/get"
  toolName := some "delete_record"
  agent := fixedAgent
  registration := some fixedRecord

theorem observing_forwards :
    .forward promptCall (autonomousPlaceholder fixedAgent)
      (observing.mcpUpstream promptCall (autonomousPlaceholder fixedAgent)) ∈
      (observing.execute [] promptPayload).trace :=
  List.mem_of_getElem? (i := 5) rfl

theorem observing_runsAsNamed_iff :
    observing.Evaluated promptPayload (observing.execute [] promptPayload).trace promptCall ∧
      (openServer.RunsAsNamed promptCall (autonomousPlaceholder fixedAgent) ↔
        openServer.CanPut promptPayload (autonomousPlaceholder fixedAgent)) := by
  obtain ⟨hevaluated, -, hdirect, -⟩ :=
    forwarded_runsAsNamed_iff ℕ ℕ observing_forwards
  exact ⟨hevaluated, hdirect openServer rfl⟩

/-- The refused prompt is softened, and the session runs the tool of its name. -/
theorem prompt_runs_tool :
    (∃ answer, .forward promptCall (autonomousPlaceholder fixedAgent) answer ∈
      (observing.execute [] promptPayload).trace) ∧ observing.mcpUpstream = openServer.port ∧
    promptCall.method = "prompts/get" ∧
    (openServer.forward promptCall (autonomousPlaceholder fixedAgent)).trace =
      [.callTool "delete_record" []] ∧
    ¬ openServer.RunsAsNamed promptCall (autonomousPlaceholder fixedAgent) := by
  refine ⟨⟨_, observing_forwards⟩, rfl, rfl, rfl, ?_⟩
  intro hruns
  obtain ⟨operation, hoperation, hnames⟩ := hruns (.callTool "delete_record" []) (.head [])
  cases hoperation
  exact absurd hnames.1 (by decide)

end GovernedExecutionService

end OpenAgentControl
