import OpenAgentControl.Foundations.JsonText
import OpenAgentControl.Foundations.DateTime

/-! # Domain models

The records of `domain/models.py` that governed execution, policy and the ledger read and write,
with the JSON form `model_dump(mode="json")` gives each of them. A tool grant carries the validator of
its name as a field, so that a record with a blank grant cannot be built. -/

namespace OpenAgentControl
set_option autoImplicit false
set_option maxHeartbeats 250000

open Foundations

/-- `str.isspace` of one character. -/
def pySpace (c : Char) : Bool :=
  let n := c.toNat
  (9 ≤ n && n ≤ 13) || (28 ≤ n && n ≤ 32) || n == 133 || n == 160 || n == 5760 ||
    (8192 ≤ n && n ≤ 8202) || n == 8232 || n == 8233 || n == 8239 || n == 8287 || n == 12288

/-- `not value.strip()`. -/
def blank (value : String) : Bool := value.toList.all pySpace

/-- `datetime.now(UTC)`. -/
abbrev UtcTime := { t : DateTime // t.utcoffset = some 0 }

def optionalString : Option String → Json
  | none => .null
  | some s => .str s

theorem optionalString_injective : Function.Injective optionalString := by
  intro a b h
  cases a with
  | none =>
    cases b with
    | none => rfl
    | some t => cases h
  | some s =>
    cases b with
    | none => cases h
    | some t => exact congrArg some (Json.str.inj h)

def stringList (items : List String) : Json := .arr (items.map .str)

/-! ## Identities -/

structure AgentIdentity where
  spiffeId : String
  humanSponsor : Option String := none
  clientId : Option String := none
deriving DecidableEq

def AgentIdentity.modelDump (a : AgentIdentity) : Json :=
  .obj [("spiffe_id", .str a.spiffeId), ("human_sponsor", optionalString a.humanSponsor),
    ("client_id", optionalString a.clientId)]

/-- The human a delegated call runs under, from the verified token. -/
structure SubjectIdentity where
  subjectId : String
  issuer : String
  username : Option String := none
  roles : List String := []
  scopes : List String := []
  authorizedActor : Option String := none
deriving DecidableEq

def SubjectIdentity.modelDump (s : SubjectIdentity) : Json :=
  .obj [("subject_id", .str s.subjectId), ("issuer", .str s.issuer),
    ("username", optionalString s.username), ("roles", stringList s.roles),
    ("scopes", stringList s.scopes), ("authorized_actor", optionalString s.authorizedActor)]

/-! ## Registry records -/

inductive AgentStatus
  | active
  | suspended
deriving DecidableEq

def AgentStatus.value : AgentStatus → String
  | active => "active"
  | suspended => "suspended"

/-- `AgentStatus(value)`. -/
def AgentStatus.ofValue? (s : String) : Option AgentStatus :=
  if s = "active" then some .active else if s = "suspended" then some .suspended else none

@[simp] theorem AgentStatus.ofValue_value (status : AgentStatus) :
    AgentStatus.ofValue? status.value = some status := by
  cases status <;> decide

theorem AgentStatus.value_injective : Function.Injective AgentStatus.value := by
  intro a b h
  have hread := congrArg AgentStatus.ofValue? h
  simpa using hread

inductive RiskTier
  | low
  | medium
  | high
deriving DecidableEq

def RiskTier.value : RiskTier → String
  | low => "low"
  | medium => "medium"
  | high => "high"

/-- `RiskTier(value)`. -/
def RiskTier.ofValue? (s : String) : Option RiskTier :=
  if s = "low" then some .low
  else if s = "medium" then some .medium
  else if s = "high" then some .high
  else none

@[simp] theorem RiskTier.ofValue_value (tier : RiskTier) :
    RiskTier.ofValue? tier.value = some tier := by
  cases tier <;> decide

theorem RiskTier.value_injective : Function.Injective RiskTier.value := by
  intro a b h
  have hread := congrArg RiskTier.ofValue? h
  simpa using hread

/-- One entitlement of an agent; `name_not_blank` is the validator of the name. -/
structure ToolGrant where
  name : String
  riskTier : Option RiskTier := none
  approvalRequired : Bool := false
  requiredRoles : List String := []
  name_not_blank : blank name = false
deriving DecidableEq

def ToolGrant.modelDump (g : ToolGrant) : Json :=
  .obj [("name", .str g.name),
    ("risk_tier", optionalString (g.riskTier.map RiskTier.value)),
    ("approval_required", .bool g.approvalRequired),
    ("required_roles", stringList g.requiredRoles)]

structure RegisteredAgent where
  spiffeId : String
  displayName : String
  purpose : String
  owner : String
  riskTier : RiskTier
  status : AgentStatus := .active
  grantedTools : List ToolGrant := []
  createdAt : DateTime
  updatedAt : DateTime
  statusChangedAt : Option DateTime := none
deriving DecidableEq

namespace RegisteredAgent

def toolNames (r : RegisteredAgent) : List String := r.grantedTools.map ToolGrant.name

def modelDump (r : RegisteredAgent) : Json :=
  .obj [("spiffe_id", .str r.spiffeId), ("display_name", .str r.displayName),
    ("purpose", .str r.purpose), ("owner", .str r.owner), ("risk_tier", .str r.riskTier.value),
    ("status", .str r.status.value),
    ("granted_tools", .arr (r.grantedTools.map ToolGrant.modelDump)),
    ("created_at", .str (String.ofList r.createdAt.isoformat)),
    ("updated_at", .str (String.ofList r.updatedAt.isoformat)),
    ("status_changed_at",
      optionalString (r.statusChangedAt.map fun t => String.ofList t.isoformat))]

end RegisteredAgent

/-- A partial update of a record; a field left out is left alone. -/
structure AgentPatch where
  displayName : Option String := none
  purpose : Option String := none
  owner : Option String := none
  riskTier : Option RiskTier := none
  grantedTools : Option (List ToolGrant) := none

/-- `ToolGrant.model_dump(exclude_none=True)`. -/
def ToolGrant.dumpExcludeNone (g : ToolGrant) : Json :=
  .obj ([("name", .str g.name)] ++ (g.riskTier.map fun tier => ("risk_tier", Json.str tier.value)).toList
    ++ [("approval_required", .bool g.approvalRequired),
      ("required_roles", stringList g.requiredRoles)])

/-- `patch.model_dump(exclude_none=True)`. -/
def AgentPatch.fields (patch : AgentPatch) : Dict :=
  (patch.displayName.map fun v => ("display_name", Json.str v)).toList ++
    (patch.purpose.map fun v => ("purpose", Json.str v)).toList ++
    (patch.owner.map fun v => ("owner", Json.str v)).toList ++
    (patch.riskTier.map fun tier => ("risk_tier", Json.str tier.value)).toList ++
    (patch.grantedTools.map fun grants =>
      ("granted_tools", Json.arr (grants.map ToolGrant.dumpExcludeNone))).toList

/-! ## Calls and decisions -/

/-- A JSON-RPC id, `str | int`. -/
inductive RequestId
  | str (s : String)
  | int (n : ℤ)
deriving DecidableEq

def RequestId.modelDump : Option RequestId → Json
  | none => .null
  | some (.str s) => .str s
  | some (.int n) => .int n

structure ToolCallRequest where
  method : String
  toolName : Option String := none
  arguments : Dict := []
  agent : AgentIdentity
  registration : Option RegisteredAgent := none
  subject : Option SubjectIdentity := none
  requestId : Option RequestId := none
deriving DecidableEq

def ToolCallRequest.modelDump (call : ToolCallRequest) : Json :=
  .obj [("method", .str call.method), ("tool_name", optionalString call.toolName),
    ("arguments", .obj call.arguments), ("agent", call.agent.modelDump),
    ("registration", (call.registration.map RegisteredAgent.modelDump).getD .null),
    ("subject", (call.subject.map SubjectIdentity.modelDump).getD .null),
    ("request_id", RequestId.modelDump call.requestId)]

inductive Decision
  | allow
  | deny
deriving DecidableEq

def Decision.value : Decision → String
  | allow => "ALLOW"
  | deny => "DENY"

/-- `Decision(value)`. -/
def Decision.ofValue? (s : String) : Option Decision :=
  if s = "ALLOW" then some .allow else if s = "DENY" then some .deny else none

theorem Decision.ofValue_eq_some {s : String} {d : Decision} :
    Decision.ofValue? s = some d ↔ s = d.value := by
  constructor
  · intro h
    unfold ofValue? at h
    split_ifs at h with hallow hdeny
    · cases h
      exact hallow
    · cases h
      exact hdeny
  · intro h
    cases d with
    | allow => exact if_pos h
    | deny =>
      rw [h]
      decide

structure PolicyDecision where
  decision : Decision
  reason : String := ""
deriving DecidableEq

/-! ## Receipts -/

/-- The audit record of one decision; `signature` is set once the receipt has been signed. -/
structure ExecutionReceipt where
  sequenceId : String
  timestamp : DateTime
  spiffeId : String
  decision : Decision
  reason : String := ""
  payloadHash : String
  previousHash : String
  signature : Option String := none
  enforced : Bool := true
deriving DecidableEq

structure AuthorizationOutcome where
  allowed : Bool
  decision : PolicyDecision
  receipt : ExecutionReceipt
  call : ToolCallRequest
  shadowed : Bool := false
deriving DecidableEq

structure ChainVerificationResult where
  valid : Bool
  receiptsChecked : ℕ
  firstBrokenSequenceId : Option String := none
deriving DecidableEq

/-! ## One registered agent -/

def fixedAgent : AgentIdentity := { spiffeId := "spiffe://corp/agent" }

def epoch : DateTime where
  year := 1970
  month := 1
  day := 1
  hour := 0
  minute := 0
  second := 0
  microsecond := 0
  utcoffset := some 0
  date_valid := by decide
  time_valid := by decide
  offset_valid := DateTime.utc_valid

def utcEpoch : UtcTime := ⟨epoch, rfl⟩

def fixedRecord : RegisteredAgent where
  spiffeId := "spiffe://corp/agent"
  displayName := "Agent"
  purpose := "Queries"
  owner := "owner"
  riskTier := .low
  createdAt := epoch
  updatedAt := epoch

end OpenAgentControl
