import OpenAgentControl.Domain.Ports
import Mathlib.Data.List.Infix

/-! # The governed-execution use case

`application/governed_execution.py`: identify, look the agent up, build the call, verify the
subject, decide, record and export the receipt, then broker a credential and forward. `authorizeCore` is the
half that `authorize` and `execute` share. A run is a traced computation over the ports of the
service. -/

namespace OpenAgentControl
set_option autoImplicit false
set_option maxHeartbeats 250000

open Foundations

def subjectTokenHeader : String := "x-subject-token"

def stopInstruction : String := "Stop execution and request user approval."

def failClosedReason : String := "Policy engine unavailable; denied (fail-closed)"

def orphanReason : String :=
  "Agent not registered in the Agent Registry (orphaned agents are refused)"

def reportInstruction : String :=
  "Do not retry automatically; report the failure to the user."

/-! ## Headers -/

/-- `str.lower` as far as ASCII results go: the ASCII capitals, and the Kelvin sign, whose lower
case is an ASCII letter too. -/
def lower (s : String) : String :=
  String.ofList (s.toList.map fun c => if c.toNat = 8490 then 'k' else c.toLower)

/-- `{k.lower(): v for k, v in headers.items()}.get(key)`: the last spelling of a name wins. -/
def getHeader (headers : Headers) (key : String) : Option String :=
  (headers.reverse.map fun kv => (lower kv.1, kv.2)).lookup key

/-- `s.partition(" ")`, without the separator. -/
def partitionSpace (s : String) : String × String :=
  (String.ofList (s.toList.takeWhile (· != ' ')),
    String.ofList ((s.toList.dropWhile (· != ' ')).drop 1))

/-- `normalized_headers.get("x-subject-token", "")`. -/
def subjectToken (headers : Headers) : String := (getHeader headers subjectTokenHeader).getD ""

def bearerToken (headers : Headers) : Option String :=
  let parts := partitionSpace ((getHeader headers "authorization").getD "")
  if lower parts.1 ≠ "bearer" ∨ parts.2 = "" then none else some parts.2

theorem bearerToken_nil : bearerToken [] = none := by
  simp [bearerToken, getHeader, partitionSpace]

/-! ## The call -/

/-- `payload.get("params") or {}`, as the object whose `get` is called next. -/
def paramsOf (payload : Dict) : Except Exc Dict :=
  match payload.get? "params" with
  | none => .ok []
  | some value =>
    if value.truthy then
      match value with
      | .obj fields => .ok fields
      | _ => .error attributeError
    else .ok []

def validateStr : Json → Except Exc String
  | .str s => .ok s
  | _ => .error validationError

def validateOptionalStr : Json → Except Exc (Option String)
  | .null => .ok none
  | .str s => .ok (some s)
  | _ => .error validationError

def validateDict : Json → Except Exc Dict
  | .obj fields => .ok fields
  | _ => .error validationError

/-- A `str | int | None` field: booleans and whole floats of 64 bits become integers. -/
def validateRequestId : Json → Except Exc (Option RequestId)
  | .null => .ok none
  | .str s => .ok (some (.str s))
  | .int n => .ok (some (.int n))
  | .bool b => .ok (some (.int (if b then 1 else 0)))
  | .float (.finite literal) =>
    let value := decimalValue literal.text
    if value.den = 1 ∧ -9223372036854775808 < value.num ∧ value.num < 9223372036854775808 then
      .ok (some (.int (intOfFloat value)))
    else .error validationError
  | _ => .error validationError

/-- `ToolCallRequest(...)` over the payload. -/
def buildCall (payload : Dict) (agent : AgentIdentity) (registration : Option RegisteredAgent) :
    Except Exc ToolCallRequest := do
  let params ← paramsOf payload
  let method ← validateStr ((payload.get? "method").getD (.str ""))
  let toolName ← validateOptionalStr ((params.get? "name").getD .null)
  let arguments ← validateDict ((params.get? "arguments").getD (.obj []))
  let requestId ← validateRequestId ((payload.get? "id").getD .null)
  return { method, toolName, arguments, agent, registration, requestId }

/-! ## Subject binding -/

def mayActMismatch (actor clientId : String) : Exc :=
  .identity ("subject token authorizes '" ++ actor ++ "' to act, but the caller is '" ++ clientId ++
    "' (RFC 8693 may_act mismatch)")

def sponsorMismatch (sponsor : String) : Exc :=
  .identity ("subject token does not belong to the sponsor this call claims ('" ++ sponsor ++
    "'). If this IdP uses pairwise subject identifiers, set OAC_SUBJECT_BINDING=may-act-only.")

/-- `if value` on an optional string. -/
def present : Option String → Option String
  | some s => if s = "" then none else some s
  | none => none

theorem present_eq_some {value : Option String} {s : String} :
    present value = some s ↔ value = some s ∧ s ≠ "" := by
  cases value with
  | none => simp [present]
  | some t =>
    by_cases ht : t = ""
    · simp [present, ht]
    · simp only [present, ht, if_false, Option.some.injEq, iff_self_and]
      exact fun hts => hts ▸ ht

def bindSubject (agent : AgentIdentity) (subject : SubjectIdentity) (mode : SubjectBinding) :
    Except Exc Unit :=
  if mode = .off then .ok ()
  else
    match subject.authorizedActor with
    | some actor =>
      match present agent.clientId with
      | some clientId => if actor ≠ clientId then .error (mayActMismatch actor clientId) else .ok ()
      | none => .ok ()
    | none =>
      if mode = .mayActOnly then .ok ()
      else
        match present agent.humanSponsor with
        | some sponsor =>
          if subject.subjectId ≠ sponsor then .error (sponsorMismatch sponsor) else .ok ()
        | none => .ok ()

namespace GovernedExecutionService

def resolveSubject (svc : GovernedExecutionService) (headers : Headers) (agent : AgentIdentity)
    (call : ToolCallRequest) : Traced Event Exc ToolCallRequest :=
  match svc.subjectVerifier with
  | none => pure call
  | some verify =>
    if subjectToken headers = "" then pure call
    else do
      let token := subjectToken headers
      let subject ← Traced.perform (.verify token) (verify token)
      Traced.ofExcept (bindSubject agent subject svc.subjectBinding)
      return { call with subject := some subject }

/-- The registry gate and the policy engine: the decision, and whether shadow mode may soften it. -/
def policyEvaluate (svc : GovernedExecutionService) (call : ToolCallRequest) :
    Traced Event Exc (PolicyDecision × Bool) :=
  match call.registration with
  | none => pure (⟨.deny, orphanReason⟩, false)
  | some registration =>
    if registration.status ≠ .active then
      pure (⟨.deny, "Agent is " ++ registration.status.value ++ " in the Agent Registry"⟩, false)
    else do
      match ← (Traced.perform (.evaluate call) (svc.policyEngine call)).attempt with
      | .ok decision => return (decision, true)
      | .error (.policyEngineUnavailable _) => return (⟨.deny, failClosedReason⟩, false)
      | .error e => Traced.raise e

def recordAndExport (svc : GovernedExecutionService) (agent : AgentIdentity)
    (call : ToolCallRequest) (decision : PolicyDecision) (shadowable : Bool) :
    Traced Event Exc AuthorizationOutcome := do
  let shadow := shadowable && svc.decisionMode == .observe && decision.decision != .allow
  let enforced := !shadow
  let receipt ← Traced.perform (.record agent call decision enforced)
    (svc.ledger agent call decision enforced)
  Traced.perform (.exportReceipt receipt) (svc.auditExporter receipt)
  return {
    allowed := decision.decision == .allow || shadow
    decision, receipt, call
    shadowed := shadow }

/-- `_authorize`. -/
def authorizeCore (svc : GovernedExecutionService) (headers : Headers) (payload : Dict) :
    Traced Event Exc AuthorizationOutcome := do
  let agent ← Traced.perform (.identify headers) (svc.identityProvider headers)
  let registration ← Traced.perform (.lookup agent.spiffeId) (svc.agentRegistry agent.spiffeId)
  let call ← Traced.ofExcept (buildCall payload agent registration)
  let call ← svc.resolveSubject headers agent call
  let (decision, shadowable) ← svc.policyEvaluate call
  svc.recordAndExport agent call decision shadowable

def authorize (svc : GovernedExecutionService) (headers : Headers) (payload : Dict) :
    Traced Event Exc AuthorizationOutcome := svc.authorizeCore headers payload

/-! ## Brokering and forwarding -/

def missingSubjectToken (sponsor : String) : Exc :=
  .missingSubjectToken ("delegated call for sponsor '" ++ sponsor ++ "' requires a '" ++
    subjectTokenHeader ++ "' header")

/-- `f"autonomous::{agent.spiffe_id}"`. -/
def autonomousPlaceholder (agent : AgentIdentity) : String := "autonomous::" ++ agent.spiffeId

def exchange (svc : GovernedExecutionService) (token : String) : Traced Event Exc String :=
  Traced.perform (.exchange token svc.delegatedAudience)
    (svc.tokenExchange token svc.delegatedAudience)

/-- `_broker_credential`. -/
def brokerCredential (svc : GovernedExecutionService) (agent : AgentIdentity) (headers : Headers) :
    Traced Event Exc String :=
  match present agent.humanSponsor with
  | some sponsor =>
    if subjectToken headers = "" then Traced.raise (missingSubjectToken sponsor)
    else svc.exchange (subjectToken headers)
  | none =>
    match bearerToken headers with
    | none => pure (autonomousPlaceholder agent)
    | some token => svc.exchange token

end GovernedExecutionService

/-! ## The listing and the error object -/

/-- The tools an agent may see. A name that Python cannot hash raises, before the set is asked. -/
def projectTools (granted : List String) : List Json → Except Exc (List Json)
  | [] => .ok []
  | tool :: rest =>
    match tool with
    | .obj fields =>
      match (Dict.get? fields "name").getD .null with
      | .str name => do
        let tools ← projectTools granted rest
        return if name ∈ granted then tool :: tools else tools
      | .arr _ => .error typeError
      | .obj _ => .error typeError
      | _ => projectTools granted rest
    | _ => projectTools granted rest

/-- `_filter_listing`. -/
def filterListing (response : Json) (call : ToolCallRequest) : Except Exc Json :=
  if call.method ≠ "tools/list" then .ok response
  else
    match response with
    | .obj fields =>
      match Dict.get? fields "result" with
      | some (.obj result) =>
        match Dict.get? result "tools" with
        | some (.arr tools) => do
          let granted := (call.registration.map RegisteredAgent.toolNames).getD []
          let tools ← projectTools granted tools
          return .obj (Dict.set fields "result" (.obj (Dict.set result "tools" (.arr tools))))
        | _ => .ok response
      | _ => .ok response
    | .arr items => if .str "result" ∈ items then .error attributeError else .ok response
    | .str s => if "result".toList <:+: s.toList then .error attributeError else .ok response
    | _ => .error typeError

/-- `_jsonrpc_error`. -/
def jsonrpcError (requestId : Option RequestId) (code : ℤ) (message instruction : String) : Json :=
  .obj [("jsonrpc", .str "2.0"), ("id", RequestId.modelDump requestId),
    ("error", .obj [("code", .int code), ("message", .str message),
      ("data", .obj [("instruction", .str instruction)])])]

namespace GovernedExecutionService

def forwardCall (svc : GovernedExecutionService) (call : ToolCallRequest) (credential : String) :
    Traced Event Exc Json := do
  let projected : Traced Event Exc Json := do
    let response ← Traced.perform (.forward call credential) (svc.mcpUpstream call credential)
    Traced.ofExcept (filterListing response call)
  match ← projected.attempt with
  | .ok response => return response
  | .error (.upstream message) =>
    return jsonrpcError call.requestId (-32002) ("Upstream execution failed: " ++ message)
      reportInstruction
  | .error e => Traced.raise e

/-- What `execute` does with the outcome of the shared half. -/
def proceed (svc : GovernedExecutionService) (headers : Headers) (outcome : AuthorizationOutcome) :
    Traced Event Exc Json :=
  let call := outcome.call
  if outcome.allowed then do
    match ← (svc.brokerCredential call.agent headers).attempt with
    | .ok credential => svc.forwardCall call credential
    | .error (.tokenExchange message) =>
      return jsonrpcError call.requestId (-32004) ("Credential brokering failed: " ++ message)
        reportInstruction
    | .error e => Traced.raise e
  else
    return jsonrpcError call.requestId (-32000) ("Policy violation: " ++ outcome.decision.reason)
      stopInstruction

def execute (svc : GovernedExecutionService) (headers : Headers) (payload : Dict) :
    Traced Event Exc Json := do
  let outcome ← svc.authorizeCore headers payload
  svc.proceed headers outcome

end GovernedExecutionService

end OpenAgentControl
