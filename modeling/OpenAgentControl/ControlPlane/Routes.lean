import OpenAgentControl.ControlPlane.Summary
import OpenAgentControl.Adapters.Authentication

/-! # The routes of the control plane

`control_plane/routes/` behind `get_operator_subject`, over the registry's tables; the receipts are only
read. Requests that are handled one after another leave the tables as the ones that were answered make
them, with one audit row for each in the name of the operator its own headers authenticate
(`control_plane_accountable`). -/

namespace OpenAgentControl
set_option autoImplicit false
set_option maxHeartbeats 250000

open Foundations

structure CreateAgentRequest where
  spiffeId : String
  displayName : String
  purpose : String
  owner : String
  riskTier : RiskTier
  grantedTools : List ToolGrant := []

/-- The endpoints, with parameters that FastAPI has validated. -/
inductive ControlEndpoint
  | listAgents (statusFilter : Option AgentStatus)
  | getAgent (spiffeId : String)
  | createAgent (body : CreateAgentRequest)
  | updateAgent (spiffeId : String) (patch : AgentPatch)
  | suspendAgent (spiffeId : String)
  | activateAgent (spiffeId : String)
  | searchReceipts (q : ReceiptSearch)
  | verifyChain
  | getReceipt (sequenceId : String)
  | fleetSummary
  | fleetActivity (hours : ℤ) (limit : ℕ)

/-- A request: the clock and the database as its route meets them. -/
structure ControlRequest where
  headers : Headers
  endpoint : ControlEndpoint
  moment : Moment
  /-- What the default factories of a new record read off the clock. -/
  registered : UtcTime × UtcTime
  queries : FleetQueries
  faults : DatabaseFaults := fun _ => none

inductive ControlBody
  | agents (agents : List RegisteredAgent)
  | agent (agent : RegisteredAgent)
  | receipts (receipts : List ExecutionReceipt)
  | receipt (receipt : ExecutionReceipt)
  | chain (result : ChainVerificationResult)
  | summary (summary : FleetSummary)
  | activity (activity : FleetActivity)

structure ControlResponse where
  statusCode : ℕ := 200
  body : ControlBody

/-- An `HTTPException`, or an exception nobody handles. -/
inductive ControlError
  | http (statusCode : ℕ) (detail : String)
  | unhandled (e : Exc)

structure ControlPlane where
  operatorAuth : Headers → Except Exc String
  registry : PostgresAgentRegistry
  /-- Of the key only the public half is used. -/
  publicKey : SigningKey

def raised {α : Type} : Except Exc α → Except ControlError α := Except.mapError .unhandled

/-! ## The routes -/

/-- The agent a registration makes. -/
def CreateAgentRequest.agent (body : CreateAgentRequest) (registered : UtcTime × UtcTime) :
    RegisteredAgent where
  spiffeId := body.spiffeId
  displayName := body.displayName
  purpose := body.purpose
  owner := body.owner
  riskTier := body.riskTier
  grantedTools := body.grantedTools
  createdAt := registered.1.val
  updatedAt := registered.2.val

def ControlRequest.call (request : ControlRequest) (operator : String) (change : RegistryRequest) :
    RegistryCall where
  operatorSubject := operator
  request := change
  moment := request.moment
  faults := request.faults

namespace ControlPlane

variable (plane : ControlPlane) (request : ControlRequest) (tables : RegistryTables)

def listAgents (statusFilter : Option AgentStatus) : Except ControlError ControlResponse := do
  let ids ← raised request.queries.agents
  let agents ← raised (plane.registry.listAgents tables ids statusFilter)
  return { body := .agents agents }

def getAgent (spiffeId : String) : Except ControlError ControlResponse := do
  let ⟨⟩ ← raised ((request.faults .select).elim (.ok ()) .error)
  let agent ← raised (plane.registry.lookup tables spiffeId)
  match agent with
  | none => .error (.http 404 ("no agent registered as '" ++ spiffeId ++ "'"))
  | some agent => return { body := .agent agent }

/-- What the answer of a registration becomes. -/
def created : Except Exc RegisteredAgent → Except ControlError ControlResponse
  | .ok agent => .ok { statusCode := 201, body := .agent agent }
  | .error e => .error (.unhandled e)

def createAgent (operator : String) (body : CreateAgentRequest) :
    Except ControlError ControlResponse × RegistryTables :=
  Prod.map created id
    (plane.registry.answer (request.call operator (.create (body.agent request.registered))) tables)

/-- What the answer of any other operation becomes. -/
def mutated : Except Exc RegisteredAgent → Except ControlError ControlResponse
  | .ok agent => .ok { body := .agent agent }
  | .error (.agentNotFound message) => .error (.http 404 message)
  | .error e => .error (.unhandled e)

def updateAgent (operator spiffeId : String) (patch : AgentPatch) :
    Except ControlError ControlResponse × RegistryTables :=
  Prod.map mutated id
    (plane.registry.answer (request.call operator (.mutate spiffeId (.update patch))) tables)

def suspendAgent (operator spiffeId : String) : Except ControlError ControlResponse × RegistryTables :=
  Prod.map mutated id
    (plane.registry.answer (request.call operator (.mutate spiffeId (.setStatus .suspended))) tables)

def activateAgent (operator spiffeId : String) :
    Except ControlError ControlResponse × RegistryTables :=
  Prod.map mutated id
    (plane.registry.answer (request.call operator (.mutate spiffeId (.setStatus .active))) tables)

def searchReceipts (q : ReceiptSearch) : Except ControlError ControlResponse := do
  let rows ← raised request.queries.recent
  let receipts ← raised (q.search rows)
  return { body := .receipts receipts }

def verifyChain : Except ControlError ControlResponse := do
  let rows ← raised request.queries.recent
  let result ← raised (plane.publicKey.verifyChain rows)
  return { body := .chain result }

def getReceipt (sequenceId : String) : Except ControlError ControlResponse := do
  let rows ← raised request.queries.recent
  let receipt ← raised (OpenAgentControl.getReceipt rows sequenceId)
  match receipt with
  | none => .error (.http 404 ("no receipt '" ++ sequenceId ++ "'"))
  | some receipt => return { body := .receipt receipt }

def fleetSummary : Except ControlError ControlResponse := do
  let summary ← raised
    (OpenAgentControl.fleetSummary plane.registry tables request.queries request.moment.now.val.instant)
  return { body := .summary summary }

def fleetActivity (hours : ℤ) (limit : ℕ) : Except ControlError ControlResponse := do
  let rows ← raised request.queries.recent
  let activity ← raised
    (OpenAgentControl.fleetActivity request.moment.now.val.instant hours limit rows)
  return { body := .activity activity }

/-- The route of an authenticated operator's request. -/
def route (operator : String) : Except ControlError ControlResponse × RegistryTables :=
  match request.endpoint with
  | .listAgents statusFilter => (plane.listAgents request tables statusFilter, tables)
  | .getAgent spiffeId => (plane.getAgent request tables spiffeId, tables)
  | .createAgent body => plane.createAgent request tables operator body
  | .updateAgent spiffeId patch => plane.updateAgent request tables operator spiffeId patch
  | .suspendAgent spiffeId => plane.suspendAgent request tables operator spiffeId
  | .activateAgent spiffeId => plane.activateAgent request tables operator spiffeId
  | .searchReceipts q => (searchReceipts request q, tables)
  | .verifyChain => (plane.verifyChain request, tables)
  | .getReceipt sequenceId => (getReceipt request sequenceId, tables)
  | .fleetSummary => (plane.fleetSummary request tables, tables)
  | .fleetActivity hours limit => (fleetActivity request hours limit, tables)

/-- Every route depends on `get_operator_subject`. -/
def answer : Machine ControlRequest ControlError ControlResponse RegistryTables := fun request tables =>
  match getOperatorSubject plane.operatorAuth request.headers with
  | .subject operator => plane.route request tables operator
  | .http statusCode detail => (.error (.http statusCode detail), tables)
  | .unhandled e => (.error (.unhandled e), tables)

/-! ## What a request does -/

/-- The change of the registry an endpoint asks for. -/
def change : Option RegistryRequest :=
  match request.endpoint with
  | .createAgent body => some (.create (body.agent request.registered))
  | .updateAgent spiffeId patch => some (.mutate spiffeId (.update patch))
  | .suspendAgent spiffeId => some (.mutate spiffeId (.setStatus .suspended))
  | .activateAgent spiffeId => some (.mutate spiffeId (.setStatus .active))
  | _ => none

/-- The operation it calls, in the name of the operator its headers authenticate. -/
def operation : Option RegistryCall :=
  match plane.operatorAuth request.headers, change request with
  | .ok operator, some changed => some (request.call operator changed)
  | _, _ => none

variable {plane request tables}

/-- A change that the registry answered is answered; one that it did not has changed nothing. -/
theorem rendered_cases {render : Except Exc RegisteredAgent → Except ControlError ControlResponse}
    (hok : ∀ agent, ∃ response, render (.ok agent) = .ok response)
    (herror : ∀ e, ∃ error, render (.error e) = .error error) (call : RegistryCall) :
    (∃ agent response, (plane.registry.answer call tables).1 = .ok agent ∧
      Prod.map render id (plane.registry.answer call tables) =
        (.ok response, (plane.registry.answer call tables).2)) ∨
    ∃ error, Prod.map render id (plane.registry.answer call tables) = (.error error, tables) := by
  cases hanswer : (plane.registry.answer call tables).1 with
  | ok agent =>
    obtain ⟨response, hresponse⟩ := hok agent
    exact Or.inl ⟨agent, response, rfl, Prod.ext (by rw [Prod.map_fst, hanswer, hresponse]) rfl⟩
  | error e =>
    obtain ⟨error, herror⟩ := herror e
    exact Or.inr ⟨error, Prod.ext (by rw [Prod.map_fst, hanswer, herror])
      (PostgresAgentRegistry.answer_error hanswer)⟩

theorem created_cases (call : RegistryCall) :
    (∃ agent response, (plane.registry.answer call tables).1 = .ok agent ∧
      Prod.map created id (plane.registry.answer call tables) =
        (.ok response, (plane.registry.answer call tables).2)) ∨
    ∃ error, Prod.map created id (plane.registry.answer call tables) = (.error error, tables) :=
  rendered_cases (fun _ => ⟨_, rfl⟩) (fun _ => ⟨_, rfl⟩) call

theorem mutated_cases (call : RegistryCall) :
    (∃ agent response, (plane.registry.answer call tables).1 = .ok agent ∧
      Prod.map mutated id (plane.registry.answer call tables) =
        (.ok response, (plane.registry.answer call tables).2)) ∨
    ∃ error, Prod.map mutated id (plane.registry.answer call tables) = (.error error, tables) :=
  rendered_cases (fun _ => ⟨_, rfl⟩) (fun e => by cases e <;> exact ⟨_, rfl⟩) call

/-- What can come of a request. It is answered by its operation, or it only reads, or it fails and
changes nothing; without an operator it fails. -/
inductive Outcome (plane : ControlPlane) (request : ControlRequest) (tables : RegistryTables) : Prop
  | changes (operator : String) (changed : RegistryRequest) (agent : RegisteredAgent)
      (response : ControlResponse) (hauth : plane.operatorAuth request.headers = .ok operator)
      (hchange : change request = some changed)
      (hcall : (plane.registry.answer (request.call operator changed) tables).1 = .ok agent)
      (hanswer : plane.answer request tables =
        (.ok response, (plane.registry.answer (request.call operator changed) tables).2))
  | reads (operator : String) (response : ControlResponse)
      (hauth : plane.operatorAuth request.headers = .ok operator) (hchange : change request = none)
      (hanswer : plane.answer request tables = (.ok response, tables))
  | fails (error : ControlError) (hanswer : plane.answer request tables = (.error error, tables))

theorem outcome_of_read {operator : String} (hauth : plane.operatorAuth request.headers = .ok operator)
    (hchange : change request = none) {x : Except ControlError ControlResponse}
    (hanswer : plane.answer request tables = (x, tables)) : Outcome plane request tables := by
  cases x with
  | ok response => exact .reads operator response hauth hchange hanswer
  | error error => exact .fails error hanswer

theorem outcome_of_change {operator : String}
    (hauth : plane.operatorAuth request.headers = .ok operator) {changed : RegistryRequest}
    (hchange : change request = some changed)
    {x : Except ControlError ControlResponse × RegistryTables}
    (hanswer : plane.answer request tables = x)
    (hcases : (∃ agent response,
        (plane.registry.answer (request.call operator changed) tables).1 = .ok agent ∧
        x = (.ok response, (plane.registry.answer (request.call operator changed) tables).2)) ∨
      ∃ error, x = (.error error, tables)) : Outcome plane request tables := by
  obtain ⟨agent, response, hcall, rfl⟩ | ⟨error, rfl⟩ := hcases
  · exact .changes operator changed agent response hauth hchange hcall hanswer
  · exact .fails error hanswer

/-- What the answer of the registry to a change becomes. -/
def rendered : RegistryRequest → Except Exc RegisteredAgent → Except ControlError ControlResponse
  | .create _ => created
  | .mutate _ _ => mutated

/-- An operator's change is what the registry makes of it. -/
theorem answer_of_change {operator : String} (hauth : plane.operatorAuth request.headers = .ok operator)
    {changed : RegistryRequest} (hchange : change request = some changed) :
    plane.answer request tables =
      Prod.map (rendered changed) id (plane.registry.answer (request.call operator changed) tables) := by
  have hroute : plane.answer request tables = plane.route request tables operator := by
    simp only [answer, getOperatorSubject, hauth]
  rw [hroute]
  unfold route
  unfold change at hchange
  cases hendpoint : request.endpoint with
  | createAgent body =>
    rw [hendpoint] at hchange
    cases hchange
    rfl
  | updateAgent spiffeId patch =>
    rw [hendpoint] at hchange
    cases hchange
    rfl
  | suspendAgent spiffeId =>
    rw [hendpoint] at hchange
    cases hchange
    rfl
  | activateAgent spiffeId =>
    rw [hendpoint] at hchange
    cases hchange
    rfl
  | _ =>
    rw [hendpoint] at hchange
    cases hchange

theorem answer_of_unauthenticated {e : Exc} (h : plane.operatorAuth request.headers = .error e)
    (tables : RegistryTables) : ∃ error, plane.answer request tables = (.error error, tables) := by
  unfold answer getOperatorSubject
  rw [h]
  cases e <;> exact ⟨_, rfl⟩

theorem outcome (plane : ControlPlane) (request : ControlRequest) (tables : RegistryTables) :
    Outcome plane request tables := by
  cases hauth : plane.operatorAuth request.headers with
  | error e =>
    obtain ⟨error, hanswer⟩ := answer_of_unauthenticated hauth tables
    exact .fails error hanswer
  | ok operator =>
    have hroute : plane.answer request tables = plane.route request tables operator := by
      simp only [answer, getOperatorSubject, hauth]
    unfold route at hroute
    cases hendpoint : request.endpoint with
    | createAgent body =>
      rw [hendpoint] at hroute
      exact outcome_of_change hauth (by rw [change, hendpoint]) hroute (created_cases _)
    | updateAgent spiffeId patch =>
      rw [hendpoint] at hroute
      exact outcome_of_change hauth (by rw [change, hendpoint]) hroute (mutated_cases _)
    | suspendAgent spiffeId =>
      rw [hendpoint] at hroute
      exact outcome_of_change hauth (by rw [change, hendpoint]) hroute (mutated_cases _)
    | activateAgent spiffeId =>
      rw [hendpoint] at hroute
      exact outcome_of_change hauth (by rw [change, hendpoint]) hroute (mutated_cases _)
    | _ =>
      rw [hendpoint] at hroute
      exact outcome_of_read hauth (by rw [change, hendpoint]) hroute

/-! ## Runs -/

/-- A row of `oac.operator_actions` that records a request: under the subject that the headers of this
request authenticate. -/
def Audits (plane : ControlPlane) (row : OperatorAction) (request : ControlRequest) : Prop :=
  ∃ operator changed, plane.operatorAuth request.headers = .ok operator ∧
    change request = some changed ∧
    RegistryCall.RecordedBy row (request.call operator changed)

/-- What an answered request makes of the records. -/
def applyRequest (plane : ControlPlane) (records : AgentRecords) (request : ControlRequest) :
    AgentRecords :=
  match plane.operation request with
  | some call => plane.registry.applyToRecords records call
  | none => records

/-- The tables after some answered requests. -/
structure Governed (plane : ControlPlane) (tables : RegistryTables) (records : AgentRecords)
    (current : RegistryTables) (done : List ControlRequest) : Prop where
  holds : plane.registry.Holds current (done.foldl plane.applyRequest records)
  audited : ∃ rows, current.operatorActions = tables.operatorActions ++ rows ∧
    List.Forall₂ plane.Audits rows (done.filter fun request => (change request).isSome)

variable {records : AgentRecords} {current : RegistryTables} {done : List ControlRequest}

theorem answer_failed {error : ControlError} (h : (plane.answer request tables).1 = .error error) :
    (plane.answer request tables).2 = tables := by
  cases outcome plane request tables with
  | changes operator changed agent response hauth hchange hcall hanswer =>
    rw [hanswer] at h
    cases h
  | reads operator response hauth hchange hanswer =>
    rw [hanswer] at h
    cases h
  | fails error' hanswer => rw [hanswer]

theorem Governed.answered (h : plane.Governed tables records current done)
    {response : ControlResponse} (hanswer : (plane.answer request current).1 = .ok response) :
    plane.Governed tables records (plane.answer request current).2 (done ++ [request]) := by
  obtain ⟨rows, hrows, haudits⟩ := h.audited
  cases outcome plane request current with
  | changes operator changed agent response' hauth hchange hcall hok =>
    obtain ⟨hholds, row, hrow, hactions⟩ := h.holds.answered hcall
    have happly : plane.applyRequest (done.foldl plane.applyRequest records) request =
        plane.registry.applyToRecords (done.foldl plane.applyRequest records)
          (request.call operator changed) := by
      rw [applyRequest, operation, hauth, hchange]
    rw [hok]
    refine ⟨?_, rows ++ [row], ?_, ?_⟩
    · rw [List.foldl_concat, happly]
      exact hholds
    · rw [hactions, hrows, List.append_assoc]
    · rw [List.filter_append, List.filter_cons_of_pos (by rw [hchange]; rfl), List.filter_nil]
      exact List.rel_append haudits (.cons ⟨operator, changed, hauth, hchange, hrow⟩ .nil)
  | reads operator response' hauth hchange hok =>
    rw [hok]
    refine ⟨?_, rows, hrows, ?_⟩
    · rw [List.foldl_concat, applyRequest, operation, hauth, hchange]
      exact h.holds
    · rw [List.filter_append, List.filter_cons_of_neg (by rw [hchange]; exact nofun), List.filter_nil,
        List.append_nil]
      exact haudits
  | fails error hfails =>
    rw [hfails] at hanswer
    cases hanswer

theorem governed_run (plane : ControlPlane) (h : plane.registry.Holds tables records)
    (requests : List ControlRequest) :
    plane.Governed tables records (plane.answer.finish tables requests)
      (plane.answer.accepted tables requests) := by
  have hstart : plane.Governed tables records tables [] := ⟨h, [], (List.append_nil _).symm, .nil⟩
  exact Machine.accepted_run (m := plane.answer) (P := plane.Governed tables records)
    (fun request current done error hdone hanswer => by rwa [answer_failed hanswer])
    (fun request current done response hdone hanswer => hdone.answered hanswer) hstart requests

theorem getAgent_of_holds {spiffeId : String} (h : plane.registry.Holds tables records)
    (hfaults : request.faults .select = none) :
    plane.getAgent request tables spiffeId =
      match records spiffeId with
      | none => .error (.http 404 ("no agent registered as '" ++ spiffeId ++ "'"))
      | some agent => .ok { body := .agent agent } := by
  simp only [getAgent, hfaults, h spiffeId, raised]
  cases records spiffeId <;> rfl

/-- Whatever is asked of the control plane, a request that fails or comes without an operator changes
nothing; the records are the fold of the changes that were answered, and what a lookup answers; and each
of them, in order, has left one row in the name of the operator who asked for it. -/
theorem control_plane_accountable (plane : ControlPlane) {tables : RegistryTables}
    {records : AgentRecords} (h : plane.registry.Holds tables records)
    (requests : List ControlRequest) :
    let done := plane.answer.accepted tables requests
    let final := plane.answer.finish tables requests
    (∀ request before error, (plane.answer request before).1 = .error error →
      (plane.answer request before).2 = before) ∧
    (∀ request before, (∀ operator, plane.operatorAuth request.headers ≠ .ok operator) →
      ∃ error, plane.answer request before = (.error error, before)) ∧
    (∃ rows, final.operatorActions = tables.operatorActions ++ rows ∧
      List.Forall₂ plane.Audits rows (done.filter fun request => (change request).isSome)) ∧
    plane.registry.Holds final (done.foldl plane.applyRequest records) ∧
    ∀ request operator spiffeId, plane.operatorAuth request.headers = .ok operator →
      request.endpoint = .getAgent spiffeId → request.faults .select = none →
      (plane.answer request final).1 =
        match done.foldl plane.applyRequest records spiffeId with
        | none => .error (.http 404 ("no agent registered as '" ++ spiffeId ++ "'"))
        | some agent => .ok { body := .agent agent } := by
  intro done final
  have hgoverned := governed_run plane h requests
  refine ⟨fun request before error => answer_failed, ?_, hgoverned.audited, hgoverned.holds, ?_⟩
  · intro request before hnobody
    cases hauth : plane.operatorAuth request.headers with
    | error e => exact answer_of_unauthenticated hauth before
    | ok operator => exact absurd hauth (hnobody operator)
  · intro request operator spiffeId hauth hendpoint hfaults
    rw [← getAgent_of_holds hgoverned.holds hfaults]
    simp only [answer, getOperatorSubject, hauth, route, hendpoint]
    rfl

/-! ## An operator with the key -/

def keyAuth : ApiKeyOperatorAuth where
  apiKey := "secret"
  api_key_set := by decide

noncomputable def keyed : ControlPlane where
  operatorAuth := keyAuth.identify
  registry := PostgresAgentRegistry.exactRegistry
  publicKey := LedgerConfig.echoKey

def asked (headers : Headers) (endpoint : ControlEndpoint) : ControlRequest where
  headers
  endpoint
  moment := ⟨PostgresAgentRegistry.firstDay, PostgresAgentRegistry.firstDay⟩
  registered := (utcEpoch, utcEpoch)
  queries := ⟨.ok [], .ok [], .ok []⟩

def registration : ControlEndpoint :=
  .createAgent {
    spiffeId := "spiffe://corp/agent"
    displayName := "Agent"
    purpose := "reports"
    owner := "alice@corp.net"
    riskTier := .low }

def bearer : Headers := [("authorization", "Bearer secret")]

/-- A registration, a suspension without the key and one with it: two rows. -/
theorem keyed_accountable : ∃ rows,
    (keyed.answer.finish PostgresAgentRegistry.emptyDirectory
      [asked bearer registration, asked [] (.suspendAgent "spiffe://corp/agent"),
        asked bearer (.suspendAgent "spiffe://corp/agent")]).operatorActions = rows ∧
    List.Forall₂ keyed.Audits rows
      [asked bearer registration, asked bearer (.suspendAgent "spiffe://corp/agent")] := by
  have hempty : keyed.registry.Holds PostgresAgentRegistry.emptyDirectory fun _ => none := fun _ => rfl
  obtain ⟨-, -, ⟨rows, hrows, haudits⟩, -⟩ := control_plane_accountable keyed hempty
    [asked bearer registration, asked [] (.suspendAgent "spiffe://corp/agent"),
      asked bearer (.suspendAgent "spiffe://corp/agent")]
  exact ⟨rows, hrows, haudits⟩

end ControlPlane

end OpenAgentControl
