import OpenAgentControl.Foundations.WriteBack
import OpenAgentControl.Domain.Models

/-! # The Postgres registry

`PostgresAgentRegistry.update` and `set_status` as sessions on one row of `oac.agents`, any number of
them at once. Both read the row without a lock, so that a flush leaves out a column whose requested
value is the one read, whatever has been committed to it since. -/

namespace OpenAgentControl
set_option autoImplicit false
set_option maxHeartbeats 250000

open Foundations

/-! ## Rows -/

/-- The columns of `oac.agents` but its key. -/
inductive AgentColumn
  | displayName
  | purpose
  | owner
  | riskTier
  | status
  | grantedTools
  | createdAt
  | updatedAt
  | statusChangedAt
deriving DecidableEq

instance AgentColumn.fintype : Fintype AgentColumn where
  elems := {displayName, purpose, owner, riskTier, status, grantedTools, createdAt, updatedAt,
    statusChangedAt}
  complete := by
    intro c
    cases c <;> decide

def AgentColumn.Value : AgentColumn → Type
  | displayName => String
  | purpose => String
  | owner => String
  | riskTier => String
  | status => String
  | grantedTools => List Json
  | createdAt => DateTime
  | updatedAt => DateTime
  | statusChangedAt => Option DateTime

instance AgentColumn.decidableEqValue : ∀ c : AgentColumn, DecidableEq c.Value
  | displayName => inferInstanceAs (DecidableEq String)
  | purpose => inferInstanceAs (DecidableEq String)
  | owner => inferInstanceAs (DecidableEq String)
  | riskTier => inferInstanceAs (DecidableEq String)
  | status => inferInstanceAs (DecidableEq String)
  | grantedTools => inferInstanceAs (DecidableEq (List Json))
  | createdAt => inferInstanceAs (DecidableEq DateTime)
  | updatedAt => inferInstanceAs (DecidableEq DateTime)
  | statusChangedAt => inferInstanceAs (DecidableEq (Option DateTime))

abbrev AgentRow := ∀ c : AgentColumn, c.Value

/-- A row of `oac.operator_actions`. -/
structure OperatorAction where
  operatorSubject : String
  action : String
  targetSpiffeId : String
  detail : Dict
  timestamp : UtcTime
deriving DecidableEq

/-! ## Mutations -/

inductive Mutation
  | update (patch : AgentPatch)
  | setStatus (status : AgentStatus)

/-- The clock as the body reads it: once for the row, once more in `_audit_row`. -/
structure Moment where
  now : UtcTime
  audited : UtcTime

namespace Mutation

def assigned : Mutation → UtcTime → Assigned AgentColumn.Value
  | update patch, now => fun
    | .displayName => patch.displayName
    | .purpose => patch.purpose
    | .owner => patch.owner
    | .riskTier => patch.riskTier.map RiskTier.value
    | .grantedTools => patch.grantedTools.map fun grants => grants.map ToolGrant.dumpExcludeNone
    | .updatedAt => some now.val
    | .status => none
    | .createdAt => none
    | .statusChangedAt => none
  | setStatus status, now => fun
    | .status => some status.value
    | .statusChangedAt => some (some now.val)
    | .updatedAt => some now.val
    | .displayName => none
    | .purpose => none
    | .owner => none
    | .riskTier => none
    | .grantedTools => none
    | .createdAt => none

def action : Mutation → String
  | update _ => "agent.update"
  | setStatus _ => "agent.set_status"

/-- The `detail` of the audit row; `previous_status` is the status the session read. -/
def detail : Mutation → AgentRow → Dict
  | update patch, _ => patch.fields
  | setStatus status, read =>
    [("from", .str (read .status)), ("to", .str status.value)]

/-- The status the agent has after the mutation. -/
def requested : Mutation → String → String
  | update _, status => status
  | setStatus status, _ => status.value

theorem applyTo_status (m : Mutation) (now : UtcTime) (row : AgentRow) :
    (m.assigned now).applyTo row .status = m.requested (row .status) := by
  cases m with
  | update patch => rfl
  | setStatus status => rfl

/-- Only a status change records what it read. -/
theorem detail_eq_iff (m : Mutation) (read row : AgentRow) :
    m.detail read = m.detail row ↔
      ∀ status, m = setStatus status → read .status = row .status := by
  cases m with
  | update patch => exact iff_of_true rfl fun status h => by cases h
  | setStatus status =>
    constructor
    · intro h status' _
      have hfrom : Dict.get? (detail (setStatus status) read) "from" =
          Dict.get? (detail (setStatus status) row) "from" := by rw [h]
      exact Json.str.inj (Option.some.inj hfrom)
    · intro h
      rw [detail, detail, h status rfl]

end Mutation

structure OperatorRequest where
  operatorSubject : String
  mutation : Mutation

def OperatorRequest.auditRow (r : OperatorRequest) (spiffeId : String) (timestamp : UtcTime)
    (read : AgentRow) : OperatorAction where
  operatorSubject := r.operatorSubject
  action := r.mutation.action
  targetSpiffeId := spiffeId
  detail := r.mutation.detail read
  timestamp

/-- The registry's agent, its row before the requests, and what each session requests. -/
structure RegistryConfig (Tx : Type) where
  spiffeId : String
  first : AgentRow
  request : Tx → OperatorRequest

namespace RegistryConfig

variable {Tx : Type} (cfg : RegistryConfig Tx)

def sessions : Sessions Tx Moment OperatorAction AgentColumn.Value where
  first := cfg.first
  assigned := fun t moment => (cfg.request t).mutation.assigned moment.now
  note := fun t moment read => (cfg.request t).auditRow cfg.spiffeId moment.audited read

abbrev State (Tx : Type) := RowState Tx Moment OperatorAction AgentColumn.Value

/-! ## Serializability -/

/-- The status after the mutations of `log`, in their order. -/
def lastRequested (status : String) (log : List (Tx × Moment)) : String :=
  log.foldl (fun status e => (cfg.request e.1).mutation.requested status) status

/-- Each `agent.set_status` row starts from the status the one before it ended with. -/
def StatusChain : String → List OperatorAction → Prop
  | _, [] => True
  | previous, row :: rest =>
    if row.action = "agent.set_status" then
      row.detail.get? "from" = some (.str previous) ∧
        match row.detail.get? "to" with
        | some (.str status) => StatusChain status rest
        | _ => False
    else StatusChain previous rest

theorem statusChain_auditRow (r : OperatorRequest) (spiffeId : String) (timestamp : UtcTime)
    (read : AgentRow) (rest : List OperatorAction) :
    StatusChain (read .status) (r.auditRow spiffeId timestamp read :: rest) ↔
      StatusChain (r.mutation.requested (read .status)) rest := by
  obtain ⟨operatorSubject, mutation⟩ := r
  cases mutation with
  | update patch => exact Iff.rfl
  | setStatus status => exact and_iff_right rfl

/-- The committed mutations took effect one after another, in the order of their commits. -/
structure Serializable (s : State Tx) : Prop where
  row : s.row = cfg.sessions.replay cfg.first s.log
  actions : s.notes = cfg.sessions.notesFrom cfg.first s.log
  status : s.row .status = cfg.lastRequested (cfg.first .status) s.log
  audited : StatusChain (cfg.first .status) s.notes

theorem replay_status (row : AgentRow) (log : List (Tx × Moment)) :
    cfg.sessions.replay row log .status = cfg.lastRequested (row .status) log := by
  induction log generalizing row with
  | nil => rfl
  | cons e log ih =>
    rw [Sessions.replay_cons, ih]
    exact congrArg (cfg.lastRequested · log)
      (Mutation.applyTo_status (cfg.request e.1).mutation e.2.now row)

theorem statusChain_notesFrom (row : AgentRow) (log : List (Tx × Moment)) :
    StatusChain (row .status) (cfg.sessions.notesFrom row log) := by
  induction log generalizing row with
  | nil => trivial
  | cons e log ih =>
    rw [Sessions.notesFrom]
    refine (statusChain_auditRow (cfg.request e.1) cfg.spiffeId e.2.audited row _).mpr ?_
    have hrest := ih ((cfg.sessions.assigned e.1 e.2).applyTo row)
    have hstatus := Mutation.applyTo_status (cfg.request e.1).mutation e.2.now row
    exact hstatus ▸ hrest

theorem serializable_iff (s : State Tx) : cfg.Serializable s ↔ cfg.sessions.Serial s := by
  constructor
  · intro h
    exact ⟨h.row, h.actions⟩
  · intro h
    refine ⟨h.row, h.notes, ?_, ?_⟩
    · rw [h.row]
      exact cfg.replay_status cfg.first s.log
    · rw [h.notes]
      exact cfg.statusChain_notesFrom cfg.first s.log

/-- A commit on what is still the committed row where it matters: every column the session leaves
out of its `UPDATE`, because it asks for the value it read, still has that value, and a status change
read the status that is still committed. -/
def UpToDate (s : State Tx) : SessionStep Tx Moment → Prop
  | .commit t => ∀ read moment, s.phase t = .flushed read moment →
      (∀ c v, (cfg.request t).mutation.assigned moment.now c = some v → v = read c →
        s.row c = v) ∧
      ∀ status, (cfg.request t).mutation = .setStatus status → read .status = s.row .status
  | _ => True

theorem upToDate_iff (s : State Tx) (l : SessionStep Tx Moment) :
    cfg.UpToDate s l ↔ cfg.sessions.Clean s l := by
  cases l with
  | commit t =>
    refine forall_congr' fun read => forall_congr' fun moment => imp_congr_right fun _ => ?_
    refine and_congr_right fun _ => ?_
    rw [← Mutation.detail_eq_iff]
    constructor
    · intro h
      simp only [sessions, OperatorRequest.auditRow, h]
    · intro h
      exact congrArg OperatorAction.detail h
  | load t => exact Iff.rfl
  | flush t moment => exact Iff.rfl
  | rollback t => exact Iff.rfl

variable [DecidableEq Tx]

/-- In a run every state is serializable exactly when every commit of the run is up to date. -/
theorem serializable_throughout_iff {steps : List (State Tx × SessionStep Tx Moment)} {s : State Tx}
    (h : cfg.sessions.system.Run steps s) :
    ((∀ p ∈ steps, cfg.Serializable p.1) ∧ cfg.Serializable s) ↔
      ∀ p ∈ steps, cfg.UpToDate p.1 p.2 := by
  simp only [serializable_iff, upToDate_iff]
  exact Sessions.serial_throughout_iff h

/-! ## Two operators at the kill switch -/

inductive Operator
  | alice
  | bob
deriving DecidableEq

def suspendedRow : AgentRow
  | .displayName => "Agent"
  | .purpose => "Queries"
  | .owner => "owner"
  | .riskTier => "low"
  | .status => "suspended"
  | .grantedTools => []
  | .createdAt => epoch
  | .updatedAt => epoch
  | .statusChangedAt => none

/-- Alice activates an agent that Bob suspends. -/
def killSwitch : RegistryConfig Operator where
  spiffeId := "spiffe://corp/agent"
  first := suspendedRow
  request
    | .alice => { operatorSubject := "alice@corp.net", mutation := .setStatus .active }
    | .bob => { operatorSubject := "bob@corp.net", mutation := .setStatus .suspended }

/-- A moment after the row was last written. -/
def later : Moment where
  now := ⟨{ epoch with year := 2026, date_valid := by decide }, rfl⟩
  audited := ⟨{ epoch with year := 2026, date_valid := by decide }, rfl⟩

/-- Both read the suspended row, Alice commits, then Bob does: his `UPDATE` leaves the status out. -/
theorem race : ∃ steps s, killSwitch.sessions.system.Run steps s ∧
    s.log = [(.alice, later), (.bob, later)] ∧ s.row .status = "active" ∧
    s.notes.map OperatorAction.detail =
      [[("from", .str "suspended"), ("to", .str "active")],
        [("from", .str "suspended"), ("to", .str "suspended")]] := by
  have h0 : killSwitch.sessions.system.Run [] _ := .start rfl
  have h1 : killSwitch.sessions.system.Run _ _ :=
    .step h0 (show killSwitch.sessions.next _ (.load .alice) = some _ from rfl)
  have h2 : killSwitch.sessions.system.Run _ _ :=
    .step h1 (show killSwitch.sessions.next _ (.load .bob) = some _ from rfl)
  have h3 : killSwitch.sessions.system.Run _ _ :=
    .step h2 (show killSwitch.sessions.next _ (.flush .alice later) = some _ from rfl)
  have h4 : killSwitch.sessions.system.Run _ _ :=
    .step h3 (show killSwitch.sessions.next _ (.commit .alice) = some _ from rfl)
  have h5 : killSwitch.sessions.system.Run _ _ :=
    .step h4 (show killSwitch.sessions.next _ (.flush .bob later) = some _ from rfl)
  have h6 : killSwitch.sessions.system.Run _ _ :=
    .step h5 (show killSwitch.sessions.next _ (.commit .bob) = some _ from rfl)
  exact ⟨_, _, h6, rfl, rfl, rfl⟩

/-- The run of `race` leaves the agent active after the suspension that committed last, and its
second audit row starts from a status the first one had already ended. -/
theorem race_not_serializable : ∃ steps s, killSwitch.sessions.system.Run steps s ∧
    killSwitch.lastRequested (suspendedRow .status) s.log = "suspended" ∧
    s.row .status = "active" ∧
    s.notes.map OperatorAction.detail =
      [[("from", .str "suspended"), ("to", .str "active")],
        [("from", .str "suspended"), ("to", .str "suspended")]] ∧
    ¬ killSwitch.Serializable s := by
  obtain ⟨steps, s, hrun, hlog, hstatus, hdetail⟩ := race
  have hlast : killSwitch.lastRequested (suspendedRow .status) s.log = "suspended" := by
    rw [hlog]
    rfl
  refine ⟨steps, s, hrun, hlast, hstatus, hdetail, ?_⟩
  intro h
  have hdiffer : "active" ≠ "suspended" := by decide
  have hsame := h.status
  rw [hstatus] at hsame
  exact hdiffer (hsame.trans hlast)

theorem race_throughout_iff : ∃ steps s, killSwitch.sessions.system.Run steps s ∧
    s.row .status = "active" ∧
    (((∀ p ∈ steps, killSwitch.Serializable p.1) ∧ killSwitch.Serializable s) ↔
      ∀ p ∈ steps, killSwitch.UpToDate p.1 p.2) := by
  obtain ⟨steps, s, hrun, -, hstatus, -⟩ := race
  exact ⟨steps, s, hrun, hstatus, killSwitch.serializable_throughout_iff hrun⟩

end RegistryConfig

end OpenAgentControl
