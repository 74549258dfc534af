import OpenAgentControl.Foundations.Rego
import OpenAgentControl.Adapters.Policy.Opa

/-! # The shipped policy

`resources/policies/mcp_authz.rego`, rule by rule, over an input document; the bodies of a rule are
tried in the order of the file. Then what the rules say of the document the OPA adapter builds. -/

namespace OpenAgentControl
set_option autoImplicit false
set_option maxHeartbeats 250000

open Foundations
open Foundations.Rego

namespace McpAuthz

open Foundations.Rego.Answers

/-! ## The rules -/

def granted (input tool : Value) : Answers Unit := once do
  let tools ← ref (input.path ["agent", "granted_tools"])
  let t ← each tools.elements
  let name ← ref (t.get? "name")
  test (name = tool)

def grantFor (input tool : Value) : Answers Value := complete do
  let tools ← ref (input.path ["agent", "granted_tools"])
  let t ← each tools.elements
  let name ← ref (t.get? "name")
  test (name = tool)
  return t

/-- `count(grant.required_roles) > 0` -/
def rolesRequired (grant : Value) : Answers Unit := do
  let roles ← ref (grant.get? "required_roles")
  let count ← ref roles.count?
  test (0 < count)

def requiresDelegation (grant : Value) : Answers Unit :=
  let byApproval : Answers Unit := do
    let approval ← ref (grant.get? "approval_required")
    test (approval ≠ .bool false)
  once (byApproval.followedBy (rolesRequired grant))

def hasAnyRole (required actual : Value) : Answers Unit := once do
  let role ← each required.elements
  test (role ∈ actual.elements)

def creditLimitExceeded (tool args : Value) : Answers Unit := do
  test (tool = .str "salesforce_update_account")
  let limit ← ref (args.get? "credit_limit")
  test (limit.exceeds 10000)

def undelegated (input tool : Value) : Answers Unit := do
  let grant ← grantFor input tool
  requiresDelegation grant
  let subject ← ref (input.get? "subject")
  test (subject = .null)

def roleMissing (input tool : Value) : Answers Unit := do
  let grant ← grantFor input tool
  rolesRequired grant
  let subject ← ref (input.get? "subject")
  test (subject ≠ .null)
  let required ← ref (grant.get? "required_roles")
  let actual ← ref (input.path ["subject", "roles"])
  negate (hasAnyRole required actual)

/-- The three clauses of `guardrail_violation`. -/
def guardrailViolation (input tool args : Value) : Answers Unit :=
  once ((creditLimitExceeded tool args).followedBy
    ((undelegated input tool).followedBy (roleMissing input tool)))

def allowDiscovery (input : Value) : Answers Unit := do
  let method ← ref (input.get? "method")
  test (method = .str "tools/list")

def allowCall (input : Value) : Answers Unit := do
  let method ← ref (input.get? "method")
  test (method = .str "tools/call")
  let status ← ref (input.path ["agent", "status"])
  test (status = .str "active")
  let tool ← ref (input.path ["params", "name"])
  granted input tool
  let args ← ref (input.path ["params", "arguments"])
  negate (guardrailViolation input tool args)

def allow (input : Value) : Answers Unit :=
  once ((allowDiscovery input).followedBy (allowCall input))

def reasonNotGranted (input : Value) : Answers String := do
  let method ← ref (input.get? "method")
  test (method = .str "tools/call")
  let tool ← ref (input.path ["params", "name"])
  negate (granted input tool)
  return "Capability not granted for this agent identity"

def reasonThreshold (input : Value) : Answers String := do
  let method ← ref (input.get? "method")
  test (method = .str "tools/call")
  let tool ← ref (input.path ["params", "name"])
  granted input tool
  let args ← ref (input.path ["params", "arguments"])
  guardrailViolation input tool args
  return "Tool arguments exceed authorized thresholds"

def reason (input : Value) : Answers String :=
  complete ((reasonNotGranted input).followedBy (reasonThreshold input))

/-- The rules of the package that are not functions. -/
structure Verdict where
  allow : Bool
  reason : Option String
deriving DecidableEq

/-- `data.openagent.authz`, with the default of `allow`; an error in any rule is the error of the
query. -/
def evaluate (input : Value) : Except Unit Verdict :=
  if (allow input).failed || (reason input).failed then .error ()
  else .ok ⟨!(allow input).found.isEmpty, (reason input).found.head?⟩

def Verdict.result (verdict : Verdict) : Json :=
  .obj (("allow", .bool verdict.allow) ::
    match verdict.reason with
    | some reason => [("reason", .str reason)]
    | none => [])

/-! ## The input document of a call -/

def nameDocument : Option String → Value
  | none => .null
  | some s => .str s

def stringsDocument (items : List String) : Value := .arr (items.map .str)

def grantDocument (g : ToolGrant) : Value :=
  .obj (sortByKey [("name", .str g.name),
    ("risk_tier", nameDocument (g.riskTier.map RiskTier.value)),
    ("approval_required", .bool g.approvalRequired),
    ("required_roles", stringsDocument g.requiredRoles)])

def subjectDocument : Option SubjectIdentity → Value
  | none => .null
  | some s => .obj (sortByKey [("id", .str s.subjectId), ("roles", stringsDocument s.roles),
      ("scopes", stringsDocument s.scopes)])

theorem ofJson_optionalString (value : Option String) :
    ofJson (optionalString value) = some (nameDocument value) := by
  cases value <;> rfl

theorem ofItems_str (items : List String) :
    ofItems (items.map .str) = some (items.map Value.str) := by
  induction items with
  | nil => rfl
  | cons s rest ih =>
    rw [List.map_cons, ofItems, ofJson, ih]
    rfl

theorem ofJson_stringList (items : List String) :
    ofJson (stringList items) = some (stringsDocument items) := by
  rw [stringList, ofJson, ofItems_str]
  rfl

theorem ofJson_grant (g : ToolGrant) : ofJson g.modelDump = some (grantDocument g) := by
  rw [ToolGrant.modelDump, ofJson]
  simp only [ofFields, ofJson_optionalString, ofJson_stringList, ofJson]
  rfl

theorem ofItems_grants (grants : List ToolGrant) :
    ofItems (grants.map ToolGrant.modelDump) = some (grants.map grantDocument) := by
  induction grants with
  | nil => rfl
  | cons g rest ih =>
    rw [List.map_cons, ofItems, ofJson_grant, ih]
    rfl

theorem get_grantDocument (g : ToolGrant) (key : String) : (grantDocument g).get? key =
    [("name", Value.str g.name), ("risk_tier", nameDocument (g.riskTier.map RiskTier.value)),
      ("approval_required", .bool g.approvalRequired),
      ("required_roles", stringsDocument g.requiredRoles)].lookup key :=
  lookup_sortByKey key _

@[simp] theorem grantDocument_name (g : ToolGrant) :
    (grantDocument g).get? "name" = some (.str g.name) := get_grantDocument g "name"

@[simp] theorem grantDocument_riskTier (g : ToolGrant) : (grantDocument g).get? "risk_tier" =
    some (nameDocument (g.riskTier.map RiskTier.value)) := get_grantDocument g "risk_tier"

@[simp] theorem grantDocument_approval (g : ToolGrant) :
    (grantDocument g).get? "approval_required" = some (.bool g.approvalRequired) :=
  get_grantDocument g "approval_required"

@[simp] theorem grantDocument_roles (g : ToolGrant) :
    (grantDocument g).get? "required_roles" = some (stringsDocument g.requiredRoles) :=
  get_grantDocument g "required_roles"

theorem nameDocument_inj {a b : Option String} (h : nameDocument a = nameDocument b) : a = b := by
  cases a <;> cases b <;> cases h <;> rfl

theorem stringsDocument_inj {a b : List String} (h : stringsDocument a = stringsDocument b) :
    a = b := by
  have hstr : Function.Injective Value.str := fun s t hst => Value.str.inj hst
  exact hstr.list_map (Value.arr.inj h)

theorem grantDocument_inj {g g' : ToolGrant} (h : grantDocument g = grantDocument g') : g = g' := by
  have hget (key : String) : (grantDocument g).get? key = (grantDocument g').get? key := by rw [h]
  have hname := hget "name"
  have htier := hget "risk_tier"
  have happroval := hget "approval_required"
  have hroles := hget "required_roles"
  simp only [grantDocument_name, grantDocument_riskTier, grantDocument_approval,
    grantDocument_roles, Option.some.injEq, Value.str.injEq, Value.bool.injEq]
    at hname htier happroval hroles
  have htier : g.riskTier = g'.riskTier :=
    Option.map_injective RiskTier.value_injective (nameDocument_inj htier)
  have hroles := stringsDocument_inj hroles
  cases g
  cases g'
  subst hname htier happroval hroles
  rfl

/-- What the rules read in a document. -/
structure Presents (document : Value) (request : ToolCallRequest) (args : Value) : Prop where
  method : document.get? "method" = some (.str request.method)
  status : document.path ["agent", "status"] =
    request.registration.map fun r => .str r.status.value
  grants : document.path ["agent", "granted_tools"] =
    request.registration.map fun r => .arr (r.grantedTools.map grantDocument)
  subject : document.get? "subject" = some (subjectDocument request.subject)
  name : document.path ["params", "name"] = some (nameDocument request.toolName)
  arguments : document.path ["params", "arguments"] = some args

theorem path_pair (document : Value) (a b : String) :
    document.path [a, b] = (document.get? a).bind fun x => x.get? b := by
  simp [Value.path]

theorem isSome_modelDump (r : RegisteredAgent) : (ofJson r.modelDump).isSome = true := by
  rw [RegisteredAgent.modelDump, ofJson]
  simp only [ofFields, ofJson_optionalString, ofJson, ofItems_grants]
  rfl

theorem ofJson_subjectProjection (subject : Option SubjectIdentity) :
    ofJson (subjectProjection subject) = some (subjectDocument subject) := by
  cases subject with
  | none => rfl
  | some s =>
    simp only [subjectProjection, ofJson, ofFields, ofJson_stringList]
    rfl

theorem ofJson_registration (registration : Option RegisteredAgent) :
    ∃ agent, ofJson ((registration.map RegisteredAgent.modelDump).getD .null) = some agent ∧
      agent.get? "status" = registration.map (fun r => .str r.status.value) ∧
      agent.get? "granted_tools" =
        registration.map (fun r => .arr (r.grantedTools.map grantDocument)) := by
  cases registration with
  | none => exact ⟨.null, rfl, rfl, rfl⟩
  | some r =>
    obtain ⟨agent, hagent⟩ := Option.isSome_iff_exists.mp (isSome_modelDump r)
    have hget := get_ofJson hagent
    refine ⟨agent, hagent, hget "status", ?_⟩
    rw [hget "granted_tools"]
    change (ofItems (r.grantedTools.map ToolGrant.modelDump)).map Value.arr = _
    rw [ofItems_grants]
    rfl

def callDocument (request : ToolCallRequest) (agent args : Value) : Value :=
  .obj (sortByKey [("method", .str request.method), ("spiffe_id", .str request.agent.spiffeId),
    ("agent", agent), ("subject", subjectDocument request.subject),
    ("params", .obj (sortByKey [("name", nameDocument request.toolName), ("arguments", args)]))])

theorem ofJson_inputDocument {request : ToolCallRequest} {agent : Value}
    (hagent : ofJson ((request.registration.map RegisteredAgent.modelDump).getD .null) =
      some agent) :
    ofJson (inputDocument request) =
      (ofJson (.obj request.arguments)).map (callDocument request agent) := by
  have hparams : ofFields [("name", optionalString request.toolName),
      ("arguments", .obj request.arguments)] = (ofJson (.obj request.arguments)).map fun args =>
        [("name", nameDocument request.toolName), ("arguments", args)] := by
    simp only [ofFields, ofJson_optionalString]
    cases ofJson (.obj request.arguments) <;> rfl
  rw [inputDocument, ofJson]
  simp only [ofFields, hagent, ofJson_subjectProjection]
  rw [ofJson, ofJson, ofJson, hparams]
  cases ofJson (.obj request.arguments) <;> rfl

theorem presents {document : Value} {request : ToolCallRequest}
    (h : ofJson (inputDocument request) = some document) :
    ∃ args, ofJson (.obj request.arguments) = some args ∧ Presents document request args := by
  obtain ⟨agent, hagent, hstatus, hgrants⟩ := ofJson_registration request.registration
  rw [ofJson_inputDocument hagent] at h
  obtain ⟨args, hargs, hdocument⟩ := Option.map_eq_some_iff.mp h
  refine ⟨args, hargs, ?_⟩
  rw [← hdocument]
  exact {
    method := lookup_sortByKey "method" _
    status := by
      rw [path_pair, callDocument, Value.get?, lookup_sortByKey]
      exact hstatus
    grants := by
      rw [path_pair, callDocument, Value.get?, lookup_sortByKey]
      exact hgrants
    subject := lookup_sortByKey "subject" _
    name := by
      rw [path_pair, callDocument, Value.get?, lookup_sortByKey]
      exact lookup_sortByKey "name" _
    arguments := by
      rw [path_pair, callDocument, Value.get?, lookup_sortByKey]
      exact lookup_sortByKey "arguments" _ }

end McpAuthz

end OpenAgentControl
