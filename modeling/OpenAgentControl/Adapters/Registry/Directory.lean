import OpenAgentControl.Foundations.Machine
import OpenAgentControl.Adapters.Registry.Postgres
import OpenAgentControl.Domain.Ports
import OpenAgentControl.Domain.Validation

/-! # Registry operations, one after another

`PostgresAgentRegistry` over the tables `oac.agents` and `oac.operator_actions`. Each operation is a
transaction whose statements may fail, and which leaves the tables alone when it raises. A run of
operations keeps the tables at the fold of the operations that succeeded (`tables_refine_records`),
and says when a status last changed only as long as it is never asked for the status the agent already
has (`statusChangedAt_throughout_iff`). -/

namespace OpenAgentControl
set_option autoImplicit false
set_option maxHeartbeats 250000

open Foundations

/-! ## Rows -/

/-- The columns `create` fills. -/
def RegisteredAgent.row (agent : RegisteredAgent) : AgentRow
  | .displayName => agent.displayName
  | .purpose => agent.purpose
  | .owner => agent.owner
  | .riskTier => agent.riskTier.value
  | .status => agent.status.value
  | .grantedTools => agent.grantedTools.map ToolGrant.modelDump
  | .createdAt => agent.createdAt
  | .updatedAt => agent.updatedAt
  | .statusChangedAt => agent.statusChangedAt

/-- `oac.agents` by its primary key, and `oac.operator_actions` in the order of its rows. -/
structure RegistryTables where
  agents : String → Option AgentRow
  operatorActions : List OperatorAction

/-- The statements of the operations, each at most once in a transaction. -/
inductive RegistryStatement
  | select
  | insertAgent
  | updateAgent
  | insertAction
  | commit
deriving DecidableEq

/-- The errors of the database in one transaction. -/
abbrev DatabaseFaults := RegistryStatement → Option Exc

/-- An exception leaves no state behind. -/
abbrev Transaction := StateT RegistryTables (Except Exc)

/-- `pydantic` reads the stored grants; `timestamptz` is what a timestamp column makes of a value, which
is the value itself when it has a time zone. -/
structure PostgresAgentRegistry where
  pydantic : Pydantic
  timestamptz : DateTime → DateTime
  timestamptz_aware : ∀ t, t.utcoffset.isSome = true → timestamptz t = t

namespace PostgresAgentRegistry

variable (registry : PostgresAgentRegistry)

/-- What a column returns of what was stored in it. -/
def column : (c : AgentColumn) → c.Value → c.Value
  | .createdAt, t => registry.timestamptz t
  | .updatedAt, t => registry.timestamptz t
  | .statusChangedAt, t => Option.map registry.timestamptz t
  | .displayName, v => v
  | .purpose, v => v
  | .owner, v => v
  | .riskTier, v => v
  | .status, v => v
  | .grantedTools, v => v

/-- `_to_domain`. -/
def toDomain (spiffeId : String) (row : AgentRow) : Except Exc RegisteredAgent := do
  let riskTier ← orRaise valueError (RiskTier.ofValue? (row .riskTier))
  let status ← orRaise valueError (AgentStatus.ofValue? (row .status))
  let grantedTools ← orRaise validationError
    (registry.pydantic.toolGrants (.list ((row .grantedTools).map PyValue.ofJson)))
  return {
    spiffeId
    displayName := row .displayName
    purpose := row .purpose
    owner := row .owner
    riskTier
    status
    grantedTools
    createdAt := row .createdAt
    updatedAt := row .updatedAt
    statusChangedAt := row .statusChangedAt }

def lookup (tables : RegistryTables) (spiffeId : String) : Except Exc (Option RegisteredAgent) :=
  match tables.agents spiffeId with
  | some row => (registry.toDomain spiffeId row).map some
  | none => .ok none

/-! ## Statements -/

def execute (faults : DatabaseFaults) (statement : RegistryStatement) : Transaction Unit := fun tables =>
  match faults statement with
  | some e => .error e
  | none => .ok ((), tables)

def insertAgent (faults : DatabaseFaults) (spiffeId : String) (row : AgentRow) :
    Transaction Unit := do
  execute faults .insertAgent
  fun tables =>
    if (tables.agents spiffeId).isSome then .error integrityError
    else
      let stored : AgentRow := fun c => registry.column c (row c)
      .ok ((), { tables with agents := Function.update tables.agents spiffeId (some stored) })

/-- The flush of a row that was read: the columns whose value changed, if there are any. -/
def updateAgent (faults : DatabaseFaults) (spiffeId : String) (read : AgentRow)
    (assigned : Assigned AgentColumn.Value) : Transaction Unit :=
  if (assigned.dirty read).Writes = true then do
    execute faults .updateAgent
    fun tables =>
      let stored : Assigned AgentColumn.Value := fun c =>
        (assigned.dirty read c).map (registry.column c)
      .ok ((), { tables with
        agents := Function.update tables.agents spiffeId (some (stored.applyTo read)) })
  else pure ()

def insertAction (faults : DatabaseFaults) (action : OperatorAction) : Transaction Unit := do
  execute faults .insertAction
  fun tables => .ok ((), { tables with operatorActions := tables.operatorActions ++ [action] })

/-! ## Operations -/

def createAction (agent : RegisteredAgent) (operatorSubject : String) (timestamp : UtcTime) :
    OperatorAction where
  operatorSubject
  action := "agent.create"
  targetSpiffeId := agent.spiffeId
  detail := [("owner", .str agent.owner), ("risk_tier", .str agent.riskTier.value)]
  timestamp

def create (faults : DatabaseFaults) (agent : RegisteredAgent) (operatorSubject : String)
    (moment : Moment) : Transaction RegisteredAgent := do
  registry.insertAgent faults agent.spiffeId agent.row
  insertAction faults (createAction agent operatorSubject moment.audited)
  return agent

/-- `update` and `set_status`. -/
def mutate (faults : DatabaseFaults) (spiffeId : String) (request : OperatorRequest)
    (moment : Moment) : Transaction RegisteredAgent := do
  execute faults .select
  let tables ← get
  match tables.agents spiffeId with
  | none => fun _ => .error (.agentNotFound spiffeId)
  | some row =>
    let assigned := request.mutation.assigned moment.now
    registry.updateAgent faults spiffeId row assigned
    insertAction faults (request.auditRow spiffeId moment.audited row)
    fun tables => (registry.toDomain spiffeId (assigned.applyTo row)).map fun agent => (agent, tables)

end PostgresAgentRegistry

inductive RegistryRequest
  | create (agent : RegisteredAgent)
  | mutate (spiffeId : String) (mutation : Mutation)

/-- A call of an operation: who asks for what, the clock as the body reads it, and what the database
does to its statements. -/
structure RegistryCall where
  operatorSubject : String
  request : RegistryRequest
  moment : Moment
  faults : DatabaseFaults := fun _ => none

namespace RegistryCall

def target (call : RegistryCall) : String :=
  match call.request with
  | .create agent => agent.spiffeId
  | .mutate spiffeId _ => spiffeId

def action (call : RegistryCall) : String :=
  match call.request with
  | .create _ => "agent.create"
  | .mutate _ mutation => mutation.action

end RegistryCall

namespace PostgresAgentRegistry

variable (registry : PostgresAgentRegistry)

def body (call : RegistryCall) : Transaction RegisteredAgent :=
  match call.request with
  | .create agent => registry.create call.faults agent call.operatorSubject call.moment
  | .mutate spiffeId mutation =>
    registry.mutate call.faults spiffeId ⟨call.operatorSubject, mutation⟩ call.moment

def transaction (call : RegistryCall) : Transaction RegisteredAgent := do
  let agent ← registry.body call
  execute call.faults .commit
  return agent

/-- `async with session.begin()`: committed at the end of the body, rolled back by an exception. -/
def answer : Machine RegistryCall Exc RegisteredAgent RegistryTables := fun call tables =>
  match registry.transaction call tables with
  | .ok (agent, written) => (.ok agent, written)
  | .error e => (.error e, tables)

end PostgresAgentRegistry

/-! ## Records -/

abbrev AgentRecords := String → Option RegisteredAgent

/-- A patch replaces the facts it gives; a status change says when it was made. -/
def Mutation.applyToRecord (now : UtcTime) (agent : RegisteredAgent) : Mutation → RegisteredAgent
  | .update patch =>
    { agent with
      displayName := patch.displayName.getD agent.displayName
      purpose := patch.purpose.getD agent.purpose
      owner := patch.owner.getD agent.owner
      riskTier := patch.riskTier.getD agent.riskTier
      grantedTools := patch.grantedTools.getD agent.grantedTools
      updatedAt := now.val }
  | .setStatus status =>
    { agent with
      status
      statusChangedAt := some now.val
      updatedAt := now.val }

namespace PostgresAgentRegistry

variable (registry : PostgresAgentRegistry)

/-- The record as the timestamp columns return it. -/
def stored (agent : RegisteredAgent) : RegisteredAgent :=
  { agent with
    createdAt := registry.timestamptz agent.createdAt
    updatedAt := registry.timestamptz agent.updatedAt
    statusChangedAt := agent.statusChangedAt.map registry.timestamptz }

/-- What a successful call does to the records: one of them, its target's. -/
def applyToRecords (records : AgentRecords) (call : RegistryCall) : AgentRecords :=
  match call.request with
  | .create agent => Function.update records agent.spiffeId (some (registry.stored agent))
  | .mutate spiffeId mutation =>
    Function.update records spiffeId
      ((records spiffeId).map fun agent => mutation.applyToRecord call.moment.now agent)

/-- The agents table holds these records: each is what a lookup of it returns. -/
def Holds (tables : RegistryTables) (records : AgentRecords) : Prop :=
  ∀ spiffeId, registry.lookup tables spiffeId = .ok (records spiffeId)

end PostgresAgentRegistry

/-- A row of `oac.operator_actions` that records a call. -/
def RegistryCall.RecordedBy (row : OperatorAction) (call : RegistryCall) : Prop :=
  row.operatorSubject = call.operatorSubject ∧ row.action = call.action ∧
    row.targetSpiffeId = call.target

/-! ## What a statement does -/

theorem bind_transaction_ok {α β : Type} {x : Transaction α} {f : α → Transaction β}
    {tables tables' : RegistryTables} {b : β} (h : (x >>= f) tables = .ok (b, tables')) :
    ∃ a between, x tables = .ok (a, between) ∧ f a between = .ok (b, tables') := by
  obtain ⟨⟨a, between⟩, hx, hf⟩ := bind_except_ok h
  exact ⟨a, between, hx, hf⟩

namespace PostgresAgentRegistry

variable {registry : PostgresAgentRegistry} {faults : DatabaseFaults}
variable {tables tables' : RegistryTables} {spiffeId : String}

theorem execute_ok {statement : RegistryStatement}
    (h : execute faults statement tables = .ok ((), tables')) : tables' = tables := by
  unfold execute at h
  split at h
  · cases h
  · cases h
    rfl

theorem insertAgent_ok {row : AgentRow}
    (h : registry.insertAgent faults spiffeId row tables = .ok ((), tables')) :
    tables.agents spiffeId = none ∧
      tables' = { tables with
        agents := Function.update tables.agents spiffeId
          (some fun c => registry.column c (row c)) } := by
  obtain ⟨⟨⟩, between, hexecute, hinsert⟩ := bind_transaction_ok h
  rw [execute_ok hexecute] at hinsert
  simp only at hinsert
  split_ifs at hinsert with hpresent
  cases hinsert
  exact ⟨by simpa using hpresent, rfl⟩

theorem insertAction_ok {action : OperatorAction}
    (h : insertAction faults action tables = .ok ((), tables')) :
    tables' = { tables with operatorActions := tables.operatorActions ++ [action] } := by
  obtain ⟨⟨⟩, between, hexecute, hinsert⟩ := bind_transaction_ok h
  rw [execute_ok hexecute] at hinsert
  cases hinsert
  rfl

/-- Every timestamp a mutation assigns is a reading of the clock, which the columns return. -/
theorem column_assigned {mutation : Mutation} {now : UtcTime} {c : AgentColumn} {v : c.Value}
    (h : mutation.assigned now c = some v) : registry.column c v = v := by
  have hnow : registry.timestamptz now.val = now.val :=
    registry.timestamptz_aware now.val (by rw [now.property]; rfl)
  cases c with
  | createdAt => cases mutation <;> cases h
  | updatedAt => cases mutation <;> (cases h; exact hnow)
  | statusChangedAt =>
    cases mutation with
    | update patch => cases h
    | setStatus status =>
      cases h
      exact congrArg some hnow
  | _ => rfl

/-- What a flush stores of a mutation is what it writes. -/
theorem column_dirty (read : AgentRow) (mutation : Mutation) (now : UtcTime) :
    (fun c => ((mutation.assigned now).dirty read c).map (registry.column c)) =
      (mutation.assigned now).dirty read := by
  funext c
  cases hdirty : (mutation.assigned now).dirty read c with
  | none => rfl
  | some v =>
    have hassigned := (Option.filter_eq_some_iff.mp hdirty).1
    rw [Option.map_some, column_assigned hassigned]

/-- The flush leaves the row as the mutation asks, with or without a statement. -/
theorem updateAgent_ok {read : AgentRow} {mutation : Mutation} {now : UtcTime}
    (hread : tables.agents spiffeId = some read)
    (h : registry.updateAgent faults spiffeId read (mutation.assigned now) tables =
      .ok ((), tables')) :
    tables' = { tables with
      agents := Function.update tables.agents spiffeId
        (some ((mutation.assigned now).applyTo read)) } := by
  have hwritten : ((mutation.assigned now).dirty read).applyTo read =
      (mutation.assigned now).applyTo read :=
    Assigned.applyTo_dirty_iff.mpr fun c v _ hv => hv.symm
  rw [← hwritten]
  unfold updateAgent at h
  split_ifs at h with hwrites
  · obtain ⟨⟨⟩, between, hexecute, hupdate⟩ := bind_transaction_ok h
    rw [execute_ok hexecute] at hupdate
    cases hupdate
    rw [column_dirty]
  · cases h
    have hclean : ((mutation.assigned now).dirty read).applyTo read = read := by
      funext c
      refine Assigned.applyTo_of_none ?_
      by_contra hdirty
      exact hwrites (decide_eq_true ⟨c, Option.isSome_iff_ne_none.mpr hdirty⟩)
    rw [hclean, ← hread, Function.update_eq_self]

/-! ## What an operation does -/

theorem create_ok {agent answered : RegisteredAgent} {operatorSubject : String} {moment : Moment}
    (h : registry.create faults agent operatorSubject moment tables = .ok (answered, tables')) :
    tables.agents agent.spiffeId = none ∧ answered = agent ∧
      tables' = {
        agents := Function.update tables.agents agent.spiffeId
          (some fun c => registry.column c (agent.row c))
        operatorActions := tables.operatorActions ++
          [createAction agent operatorSubject moment.audited] } := by
  obtain ⟨⟨⟩, inserted, hinsert, hrest⟩ := bind_transaction_ok h
  obtain ⟨habsent, rfl⟩ := insertAgent_ok hinsert
  obtain ⟨⟨⟩, recorded, haction, hreturn⟩ := bind_transaction_ok hrest
  rw [insertAction_ok haction] at hreturn
  cases hreturn
  exact ⟨habsent, rfl, rfl⟩

theorem mutate_ok {request : OperatorRequest} {moment : Moment} {answered : RegisteredAgent}
    (h : registry.mutate faults spiffeId request moment tables = .ok (answered, tables')) :
    ∃ read, tables.agents spiffeId = some read ∧
      registry.toDomain spiffeId ((request.mutation.assigned moment.now).applyTo read) =
        .ok answered ∧
      tables' = {
        agents := Function.update tables.agents spiffeId
          (some ((request.mutation.assigned moment.now).applyTo read))
        operatorActions := tables.operatorActions ++
          [request.auditRow spiffeId moment.audited read] } := by
  obtain ⟨⟨⟩, selected, hselect, hrest⟩ := bind_transaction_ok h
  obtain ⟨current, between, hget, hrest⟩ := bind_transaction_ok hrest
  cases hget
  rw [execute_ok hselect] at hrest
  cases hread : tables.agents spiffeId with
  | none =>
    simp only [hread] at hrest
    cases hrest
  | some read =>
    simp only [hread] at hrest
    obtain ⟨⟨⟩, flushed, hupdate, hrest⟩ := bind_transaction_ok hrest
    rw [updateAgent_ok hread hupdate] at hrest
    obtain ⟨⟨⟩, recorded, haction, hreturn⟩ := bind_transaction_ok hrest
    rw [insertAction_ok haction] at hreturn
    cases hdomain : registry.toDomain spiffeId
        ((request.mutation.assigned moment.now).applyTo read) with
    | error e =>
      rw [hdomain] at hreturn
      cases hreturn
    | ok agent =>
      rw [hdomain] at hreturn
      cases hreturn
      exact ⟨read, rfl, hdomain, rfl⟩

theorem answer_error {call : RegistryCall} {e : Exc}
    (h : (registry.answer call tables).1 = .error e) : (registry.answer call tables).2 = tables := by
  cases htransaction : registry.transaction call tables with
  | error e' => simp only [answer, htransaction]
  | ok result => simp [answer, htransaction] at h

theorem answer_ok {call : RegistryCall} {answered : RegisteredAgent}
    (h : (registry.answer call tables).1 = .ok answered) :
    registry.body call tables = .ok (answered, (registry.answer call tables).2) := by
  cases htransaction : registry.transaction call tables with
  | error e => simp [answer, htransaction] at h
  | ok result =>
    obtain ⟨agent, written⟩ := result
    simp only [answer, htransaction, Except.ok.injEq] at h ⊢
    obtain ⟨agent', between, hbody, hrest⟩ := bind_transaction_ok htransaction
    obtain ⟨⟨⟩, committed, hcommit, hreturn⟩ := bind_transaction_ok hrest
    rw [execute_ok hcommit] at hreturn
    cases hreturn
    rw [hbody, h]

/-! ## Rows and the records they hold -/

/-- What a row says when it reads as a record. -/
structure Reads (registry : PostgresAgentRegistry) (spiffeId : String) (row : AgentRow)
    (agent : RegisteredAgent) : Prop where
  spiffeId : agent.spiffeId = spiffeId
  displayName : agent.displayName = row .displayName
  purpose : agent.purpose = row .purpose
  owner : agent.owner = row .owner
  riskTier : RiskTier.ofValue? (row .riskTier) = some agent.riskTier
  status : AgentStatus.ofValue? (row .status) = some agent.status
  grantedTools : registry.pydantic.toolGrants (.list ((row .grantedTools).map PyValue.ofJson)) =
    some agent.grantedTools
  createdAt : agent.createdAt = row .createdAt
  updatedAt : agent.updatedAt = row .updatedAt
  statusChangedAt : agent.statusChangedAt = row .statusChangedAt

theorem toDomain_eq_ok {row : AgentRow} {agent : RegisteredAgent} :
    registry.toDomain spiffeId row = .ok agent ↔ registry.Reads spiffeId row agent := by
  constructor
  · intro h
    obtain ⟨riskTier, hriskTier, h⟩ := bind_except_ok h
    obtain ⟨status, hstatus, h⟩ := bind_except_ok h
    obtain ⟨grantedTools, hgrantedTools, h⟩ := bind_except_ok h
    cases h
    exact ⟨rfl, rfl, rfl, rfl, orRaise_eq_ok.mp hriskTier, orRaise_eq_ok.mp hstatus,
      orRaise_eq_ok.mp hgrantedTools, rfl, rfl, rfl⟩
  · intro h
    unfold toDomain
    rw [h.riskTier, h.status, h.grantedTools, ← h.spiffeId, ← h.displayName, ← h.purpose, ← h.owner,
      ← h.createdAt, ← h.updatedAt, ← h.statusChangedAt]
    rfl

theorem reads_row (agent : RegisteredAgent) :
    registry.Reads agent.spiffeId (fun c => registry.column c (agent.row c))
      (registry.stored agent) where
  spiffeId := rfl
  displayName := rfl
  purpose := rfl
  owner := rfl
  riskTier := RiskTier.ofValue_value agent.riskTier
  status := AgentStatus.ofValue_value agent.status
  grantedTools := registry.pydantic.toolGrants_modelDump agent.grantedTools
  createdAt := rfl
  updatedAt := rfl
  statusChangedAt := rfl

theorem Reads.mutated {row : AgentRow} {agent : RegisteredAgent}
    (h : registry.Reads spiffeId row agent) (mutation : Mutation) (now : UtcTime) :
    registry.Reads spiffeId ((mutation.assigned now).applyTo row)
      (mutation.applyToRecord now agent) := by
  cases mutation with
  | setStatus status =>
    exact { h with
      status := AgentStatus.ofValue_value status
      updatedAt := rfl
      statusChangedAt := rfl }
  | update patch =>
    refine { h with
      displayName := congrArg patch.displayName.getD h.displayName
      purpose := congrArg patch.purpose.getD h.purpose
      owner := congrArg patch.owner.getD h.owner
      riskTier := ?_
      grantedTools := ?_
      updatedAt := rfl }
    · cases htier : patch.riskTier with
      | none =>
        simp only [Mutation.applyToRecord, Mutation.assigned, Assigned.applyTo, htier]
        exact h.riskTier
      | some tier =>
        simp only [Mutation.applyToRecord, Mutation.assigned, Assigned.applyTo, htier]
        exact RiskTier.ofValue_value tier
    · cases hgrants : patch.grantedTools with
      | none =>
        simp only [Mutation.applyToRecord, Mutation.assigned, Assigned.applyTo, hgrants]
        exact h.grantedTools
      | some grants =>
        simp only [Mutation.applyToRecord, Mutation.assigned, Assigned.applyTo, hgrants]
        exact registry.pydantic.toolGrants_dumpExcludeNone grants

theorem lookup_of_reads {row : AgentRow} {agent : RegisteredAgent}
    (hrow : tables.agents spiffeId = some row) (h : registry.Reads spiffeId row agent) :
    registry.lookup tables spiffeId = .ok (some agent) := by
  simp only [lookup, hrow, toDomain_eq_ok.mpr h, Except.map]

theorem reads_of_lookup {row : AgentRow} {record : Option RegisteredAgent}
    (hrow : tables.agents spiffeId = some row) (h : registry.lookup tables spiffeId = .ok record) :
    ∃ agent, record = some agent ∧ registry.Reads spiffeId row agent := by
  simp only [lookup, hrow] at h
  cases hdomain : registry.toDomain spiffeId row with
  | error e =>
    rw [hdomain] at h
    cases h
  | ok agent =>
    rw [hdomain] at h
    cases h
    exact ⟨agent, rfl, toDomain_eq_ok.mp hdomain⟩

/-! ## Runs -/

theorem lookup_congr (h : tables'.agents spiffeId = tables.agents spiffeId) :
    registry.lookup tables' spiffeId = registry.lookup tables spiffeId := by
  rw [lookup, lookup, h]

theorem applyToRecords_of_ne {records : AgentRecords} {call : RegistryCall}
    (h : spiffeId ≠ call.target) : registry.applyToRecords records call spiffeId = records spiffeId := by
  obtain ⟨operatorSubject, request, moment, faults⟩ := call
  cases request with
  | create agent => exact Function.update_of_ne h _ _
  | mutate target mutation => exact Function.update_of_ne h _ _

/-- An answered call leaves one row of the agents table, its target's, other than it was. -/
theorem Holds.written {records : AgentRecords} (h : registry.Holds tables records)
    {call : RegistryCall} {row : AgentRow} {agent : RegisteredAgent}
    (hagents : tables'.agents = Function.update tables.agents call.target (some row))
    (hrecord : registry.applyToRecords records call call.target = some agent)
    (hreads : registry.Reads call.target row agent) :
    registry.Holds tables' (registry.applyToRecords records call) := by
  intro spiffeId
  by_cases htarget : spiffeId = call.target
  · subst htarget
    rw [hrecord]
    exact lookup_of_reads (by rw [hagents, Function.update_self]) hreads
  · rw [applyToRecords_of_ne htarget, ← h spiffeId]
    exact lookup_congr (by rw [hagents, Function.update_of_ne htarget])

/-- What an answered call does: to the records as their fold says, and one row of its own to the
operator actions. -/
theorem Holds.answered {records : AgentRecords} (h : registry.Holds tables records)
    {call : RegistryCall} {answered : RegisteredAgent}
    (hanswer : (registry.answer call tables).1 = .ok answered) :
    registry.Holds (registry.answer call tables).2 (registry.applyToRecords records call) ∧
      ∃ row, RegistryCall.RecordedBy row call ∧
        (registry.answer call tables).2.operatorActions = tables.operatorActions ++ [row] := by
  have hbody := answer_ok hanswer
  obtain ⟨operatorSubject, request, moment, faults⟩ := call
  cases request with
  | create agent =>
    obtain ⟨-, -, htables⟩ := create_ok hbody
    rw [htables]
    refine ⟨h.written rfl (Function.update_self _ _ _) (reads_row agent), ?_⟩
    exact ⟨_, ⟨rfl, rfl, rfl⟩, rfl⟩
  | mutate spiffeId mutation =>
    obtain ⟨read, hread, -, htables⟩ := mutate_ok hbody
    obtain ⟨agent, hagent, hreads⟩ := reads_of_lookup hread (h spiffeId)
    rw [htables]
    refine ⟨h.written rfl ?_ (hreads.mutated mutation moment.now), ?_⟩
    · exact (Function.update_self _ _ _).trans (congrArg _ hagent)
    · exact ⟨_, ⟨rfl, rfl, rfl⟩, rfl⟩

/-- The tables after some successful calls: the records are the fold of the calls, and each call has
left one row. -/
structure Refined (registry : PostgresAgentRegistry) (tables : RegistryTables)
    (records : AgentRecords) (current : RegistryTables) (done : List RegistryCall) : Prop where
  holds : registry.Holds current (done.foldl registry.applyToRecords records)
  audited : ∃ rows, current.operatorActions = tables.operatorActions ++ rows ∧
    List.Forall₂ RegistryCall.RecordedBy rows done

theorem Refined.answered {records : AgentRecords} {current : RegistryTables}
    {done : List RegistryCall} (h : registry.Refined tables records current done)
    {call : RegistryCall} {answered : RegisteredAgent}
    (hanswer : (registry.answer call current).1 = .ok answered) :
    registry.Refined tables records (registry.answer call current).2 (done ++ [call]) := by
  obtain ⟨rows, hrows, hrecorded⟩ := h.audited
  obtain ⟨hnext, row, hrow, hactions⟩ := h.holds.answered hanswer
  refine ⟨by rwa [List.foldl_concat], rows ++ [row], ?_, ?_⟩
  · rw [hactions, hrows, List.append_assoc]
  · exact List.rel_append hrecorded (.cons hrow .nil)

/-- A failed call leaves both tables as they were; the tables hold the records that the successful
calls make of those at the start, and the operator actions are one row for each of them, in order. -/
theorem tables_refine_records (registry : PostgresAgentRegistry) {tables : RegistryTables}
    {records : AgentRecords} (h : registry.Holds tables records) (calls : List RegistryCall) :
    (∀ call before e, (registry.answer call before).1 = .error e →
      (registry.answer call before).2 = before) ∧
    registry.Holds (registry.answer.finish tables calls)
      ((registry.answer.accepted tables calls).foldl registry.applyToRecords records) ∧
    ∃ rows, (registry.answer.finish tables calls).operatorActions = tables.operatorActions ++ rows ∧
      List.Forall₂ RegistryCall.RecordedBy rows (registry.answer.accepted tables calls) := by
  have hstart : registry.Refined tables records tables [] :=
    ⟨h, [], (List.append_nil _).symm, .nil⟩
  have hrun := Machine.accepted_run (P := registry.Refined tables records)
    (fun call current done e hdone he => by rwa [answer_error he])
    (fun call current done answered hdone hanswer => hdone.answered hanswer) hstart calls
  exact ⟨fun call before e he => answer_error he, hrun.holds, hrun.audited⟩

end PostgresAgentRegistry

/-! ## When a status last changed -/

/-- The tables, and when the status of each agent last changed. -/
structure DirectoryHistory where
  tables : RegistryTables
  changedAt : String → Option DateTime

def RegistryTables.statusOf (tables : RegistryTables) (spiffeId : String) : Option String :=
  match tables.agents spiffeId with
  | some row => some (row .status)
  | none => none

theorem RegistryTables.statusOf_of_row {tables : RegistryTables} {spiffeId : String} {row : AgentRow}
    (h : tables.agents spiffeId = some row) : tables.statusOf spiffeId = some (row .status) := by
  simp only [statusOf, h]
  rfl

namespace PostgresAgentRegistry

variable {registry : PostgresAgentRegistry}

/-- The time of the last change after a call: the value given at creation, then the reading of the
clock in every mutation that leaves another status than it found. -/
def changedAfter (registry : PostgresAgentRegistry) (before : DirectoryHistory) (call : RegistryCall)
    (tables : RegistryTables) : String → Option DateTime :=
  match call.request with
  | .create agent =>
    Function.update before.changedAt agent.spiffeId (registry.stored agent).statusChangedAt
  | .mutate spiffeId _ =>
    if tables.statusOf spiffeId = before.tables.statusOf spiffeId then before.changedAt
    else Function.update before.changedAt spiffeId (some call.moment.now.val)

/-- Every run of successful operations, from a directory without agents. -/
def history (registry : PostgresAgentRegistry) : System DirectoryHistory RegistryCall where
  start := fun s => s.tables.agents = fun _ => none
  step := fun s call s' =>
    (∃ answered, (registry.answer call s.tables).1 = .ok answered) ∧
      s'.tables = (registry.answer call s.tables).2 ∧
      s'.changedAt = changedAfter registry s call s'.tables

/-- Each row says when the status of its agent last changed. -/
def DatesStatus (s : DirectoryHistory) : Prop :=
  ∀ spiffeId row, s.tables.agents spiffeId = some row →
    row .statusChangedAt = s.changedAt spiffeId

/-- A status change asks for another status than the agent has, or at the very moment that the row
gives already. -/
def AsksForChange (s : DirectoryHistory) (call : RegistryCall) : Prop :=
  ∀ spiffeId status row, call.request = .mutate spiffeId (.setStatus status) →
    s.tables.agents spiffeId = some row →
      status.value ≠ row .status ∨ row .statusChangedAt = some call.moment.now.val

theorem changedAfter_mutate {before : DirectoryHistory} {call : RegistryCall}
    {tables : RegistryTables} {spiffeId : String} {mutation : Mutation} {read row : AgentRow}
    (hrequest : call.request = .mutate spiffeId mutation)
    (hread : before.tables.agents spiffeId = some read) (hrow : tables.agents spiffeId = some row) :
    changedAfter registry before call tables =
      if row .status = read .status then before.changedAt
      else Function.update before.changedAt spiffeId (some call.moment.now.val) := by
  have hsame : tables.statusOf spiffeId = before.tables.statusOf spiffeId ↔
      row .status = read .status := by
    rw [RegistryTables.statusOf_of_row hread, RegistryTables.statusOf_of_row hrow]
    exact Option.some_inj
  simp only [changedAfter, hrequest]
  exact if_congr hsame rfl rfl

/-- A write to one row keeps the directory dated exactly when that row is. -/
theorem datesStatus_written_iff {s s' : DirectoryHistory} (h : DatesStatus s) {target : String}
    {row : AgentRow}
    (hagents : s'.tables.agents = Function.update s.tables.agents target (some row))
    (hchanged : ∀ spiffeId, spiffeId ≠ target → s'.changedAt spiffeId = s.changedAt spiffeId) :
    DatesStatus s' ↔ row .statusChangedAt = s'.changedAt target := by
  constructor
  · intro h'
    exact h' target row (by rw [hagents, Function.update_self])
  · intro hrow spiffeId other hother
    rw [hagents] at hother
    by_cases htarget : spiffeId = target
    · subst htarget
      rw [Function.update_self] at hother
      cases hother
      exact hrow
    · rw [Function.update_of_ne htarget] at hother
      rw [hchanged spiffeId htarget]
      exact h spiffeId other hother

theorem datesStatus_step_iff {s s' : DirectoryHistory} {call : RegistryCall} (h : DatesStatus s)
    (hstep : registry.history.step s call s') : DatesStatus s' ↔ AsksForChange s call := by
  obtain ⟨⟨answered, hanswer⟩, htables, hchanged⟩ := hstep
  have hbody := answer_ok hanswer
  rw [← htables] at hbody
  obtain ⟨operatorSubject, request, moment, faults⟩ := call
  cases request with
  | create agent =>
    obtain ⟨-, -, hwritten⟩ := create_ok hbody
    simp only [changedAfter] at hchanged
    rw [datesStatus_written_iff h (by rw [hwritten]) (by
      intro spiffeId hne
      rw [hchanged, Function.update_of_ne hne])]
    refine iff_of_true ?_ nofun
    rw [hchanged, Function.update_self]
    rfl
  | mutate spiffeId mutation =>
    obtain ⟨read, hread, -, hwritten⟩ := mutate_ok hbody
    have hagents : s'.tables.agents = Function.update s.tables.agents spiffeId
        (some ((mutation.assigned moment.now).applyTo read)) := by rw [hwritten]
    have hmoment : s'.changedAt =
        if (mutation.assigned moment.now).applyTo read .status = read .status then s.changedAt
        else Function.update s.changedAt spiffeId (some moment.now.val) :=
      hchanged.trans (changedAfter_mutate rfl hread (by rw [hagents, Function.update_self]))
    have hother : ∀ other, other ≠ spiffeId → s'.changedAt other = s.changedAt other := by
      intro other hne
      rw [hmoment]
      split_ifs
      · rfl
      · rw [Function.update_of_ne hne]
    have hdated := h spiffeId read hread
    rw [datesStatus_written_iff h hagents hother]
    cases mutation with
    | update patch =>
      have hkept := hmoment.trans (if_pos rfl)
      exact iff_of_true (hdated.trans (congrFun hkept spiffeId).symm) nofun
    | setStatus status =>
      have hasks : AsksForChange s ⟨operatorSubject, .mutate spiffeId (.setStatus status), moment,
          faults⟩ ↔ status.value ≠ read .status ∨ read .statusChangedAt = some moment.now.val := by
        constructor
        · intro hclean
          exact hclean spiffeId status read rfl hread
        · rintro hclean _ _ row ⟨⟩ hrow
          rw [hread] at hrow
          cases hrow
          exact hclean
      rw [hasks]
      by_cases hstatus : status.value = read .status
      · have hkept := hmoment.trans (if_pos hstatus)
        have hheld := hdated.trans (congrFun hkept spiffeId).symm
        constructor
        · exact fun hnow => Or.inr (hheld.trans hnow.symm)
        · exact fun hclean => (hclean.resolve_left (absurd hstatus)).symm.trans hheld
      · have hmoved := hmoment.trans (if_neg hstatus)
        have hnow := (congrFun hmoved spiffeId).trans (Function.update_self _ _ _)
        exact iff_of_true hnow.symm (Or.inl hstatus)

/-- In a run the rows say throughout when each status last changed exactly when no operation of the
run sets the status that the agent already has. -/
theorem statusChangedAt_throughout_iff (registry : PostgresAgentRegistry)
    {steps : List (DirectoryHistory × RegistryCall)} {s : DirectoryHistory}
    (hrun : registry.history.Run steps s) :
    ((∀ p ∈ steps, DatesStatus p.1) ∧ DatesStatus s) ↔ ∀ p ∈ steps, AsksForChange p.1 p.2 := by
  refine hrun.throughout_iff ?_ fun _ _ _ _ => datesStatus_step_iff
  intro s hstart spiffeId row hrow
  rw [hstart] at hrow
  cases hrow

/-! ## An agent suspended twice -/

/-- A database that returns what was stored. -/
noncomputable def exactRegistry : PostgresAgentRegistry where
  pydantic := exactPydantic
  timestamptz := fun t => t
  timestamptz_aware := fun _ _ => rfl

def emptyDirectory : RegistryTables where
  agents := fun _ => none
  operatorActions := []

def firstDay : UtcTime := RegistryConfig.later.now

def nextDay : UtcTime := ⟨{ epoch with year := 2026, day := 2, date_valid := by decide }, rfl⟩

def register : RegistryCall where
  operatorSubject := "alice@corp.net"
  request := .create fixedRecord
  moment := ⟨utcEpoch, utcEpoch⟩

def suspendAt (now : UtcTime) : RegistryCall where
  operatorSubject := "bob@corp.net"
  request := .mutate "spiffe://corp/agent" (.setStatus .suspended)
  moment := ⟨now, now⟩

/-- The record after its suspension. -/
def suspendedOn (now : UtcTime) : RegisteredAgent :=
  { fixedRecord with
    status := .suspended
    statusChangedAt := some now.val
    updatedAt := now.val }

/-- The agent is registered, suspended on the first day and suspended again on the next: its row gives
the second time, its status changed at the first. -/
theorem suspendedTwice : ∃ steps s, exactRegistry.history.Run steps s ∧
    steps.map Prod.snd = [suspendAt nextDay, suspendAt firstDay, register] ∧
    (∃ row, s.tables.agents "spiffe://corp/agent" = some row ∧
      row .statusChangedAt = some nextDay.val) ∧
    s.changedAt "spiffe://corp/agent" = some firstDay.val := by
  have h0 : exactRegistry.history.Run [] ⟨emptyDirectory, fun _ => none⟩ := .start rfl
  have h1 : exactRegistry.history.Run _ ⟨_, _⟩ :=
    .step h0 (l := register) ⟨⟨fixedRecord, rfl⟩, rfl, rfl⟩
  have h2 : exactRegistry.history.Run _ ⟨_, _⟩ :=
    .step h1 (l := suspendAt firstDay) ⟨⟨suspendedOn firstDay, rfl⟩, rfl, rfl⟩
  have h3 : exactRegistry.history.Run _ ⟨_, _⟩ :=
    .step h2 (l := suspendAt nextDay) ⟨⟨suspendedOn nextDay, rfl⟩, rfl, rfl⟩
  exact ⟨_, _, h3, rfl, ⟨_, rfl, rfl⟩, rfl⟩

theorem suspendedTwice_not_dated : ∃ steps s, exactRegistry.history.Run steps s ∧
    steps.map Prod.snd = [suspendAt nextDay, suspendAt firstDay, register] ∧
    (∃ row, s.tables.agents "spiffe://corp/agent" = some row ∧
      row .statusChangedAt = some nextDay.val) ∧
    s.changedAt "spiffe://corp/agent" = some firstDay.val ∧ ¬ DatesStatus s := by
  obtain ⟨steps, s, hrun, hcalls, ⟨row, hrow, hdate⟩, hchanged⟩ := suspendedTwice
  refine ⟨steps, s, hrun, hcalls, ⟨row, hrow, hdate⟩, hchanged, ?_⟩
  intro h
  have hdays : some nextDay.val ≠ some firstDay.val := by decide
  have hsame := h _ row hrow
  rw [hdate, hchanged] at hsame
  exact hdays hsame

theorem suspendedTwice_throughout_iff : ∃ steps s, exactRegistry.history.Run steps s ∧
    steps.map Prod.snd = [suspendAt nextDay, suspendAt firstDay, register] ∧
    (((∀ p ∈ steps, DatesStatus p.1) ∧ DatesStatus s) ↔ ∀ p ∈ steps, AsksForChange p.1 p.2) := by
  obtain ⟨steps, s, hrun, hcalls, -⟩ := suspendedTwice
  exact ⟨steps, s, hrun, hcalls, statusChangedAt_throughout_iff exactRegistry hrun⟩

/-- Of three calls the second, a registration of an agent that is registered, fails. -/
theorem register_suspend_refined :
    exactRegistry.lookup
        (exactRegistry.answer.finish emptyDirectory [register, register, suspendAt firstDay])
        "spiffe://corp/agent" = .ok (some (suspendedOn firstDay)) ∧
      ∃ rows, (exactRegistry.answer.finish emptyDirectory
          [register, register, suspendAt firstDay]).operatorActions = rows ∧
        List.Forall₂ RegistryCall.RecordedBy rows [register, suspendAt firstDay] := by
  have hempty : exactRegistry.Holds emptyDirectory fun _ => none := fun _ => rfl
  obtain ⟨-, hholds, rows, hrows, hrecorded⟩ :=
    tables_refine_records exactRegistry hempty [register, register, suspendAt firstDay]
  exact ⟨hholds "spiffe://corp/agent", rows, hrows, hrecorded⟩

end PostgresAgentRegistry

end OpenAgentControl
