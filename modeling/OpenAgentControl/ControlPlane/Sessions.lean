import OpenAgentControl.ControlPlane.Routes

/-! # Requests that overlap

Any number of operators' requests at once, over the one registry. A change reads its row without a lock,
flushes the columns it changed, and holds the lock of the row from there to its commit; a registration
holds that of its key. It may fail at any point before the commit, and then has changed nothing.
- `leads_alone`: a request that nothing comes between does what its route does.
- `audited_of_reachable`: each answered change has left one row, in the name of its operator.
- `column_kept`: what an answered request assigned to a column is there, or better, as long as nobody
  who committed since it read the row has assigned worse; with the status, `suspended_until_activated`. -/

namespace OpenAgentControl
set_option autoImplicit false
set_option maxHeartbeats 250000

open Foundations

/-- How far a request has come; a change counts as answered from its commit on. -/
inductive RequestPhase
  | waiting
  | loaded (read : AgentRow)
  | flushed (read : AgentRow)
  | inserted
  | answered (response : ControlResponse)
  | failed (error : ControlError)

namespace RequestPhase

/-- The row a session has read. -/
def read : RequestPhase → Option AgentRow
  | loaded row => some row
  | flushed row => some row
  | _ => none

def isOver : RequestPhase → Bool
  | answered _ => true
  | failed _ => true
  | _ => false

/-- How a request ends that its route answers so. -/
def outcome : Except ControlError ControlResponse → RequestPhase
  | .ok response => answered response
  | .error error => failed error

end RequestPhase

structure PlaneState (Req : Type) where
  tables : RegistryTables
  /-- Who holds the lock of a row, or of the key of a row that is being inserted. -/
  lock : String → Option Req
  phase : Req → RequestPhase

namespace PlaneState

variable {Req : Type} [DecidableEq Req]

/-- The locks when a transaction is over. -/
def released (s : PlaneState Req) (t : Req) : String → Option Req :=
  fun spiffeId => if s.lock spiffeId = some t then none else s.lock spiffeId

/-- The end of a request, which leaves these tables. -/
def ended (s : PlaneState Req) (t : Req) (tables : RegistryTables) (p : RequestPhase) :
    PlaneState Req where
  tables
  lock := s.released t
  phase := Function.update s.phase t p

theorem released_of_ne {s : PlaneState Req} {t u : Req} {spiffeId : String} (hne : u ≠ t)
    (h : s.lock spiffeId = some u) : s.released t spiffeId = some u := by
  rw [released, if_neg]
  · exact h
  · rw [h]
    exact fun hsame => hne (Option.some.inj hsame)

end PlaneState

/-- Requests, and the tables before them, all of whose rows can be read. -/
structure Operators (Req : Type) where
  plane : ControlPlane
  request : Req → ControlRequest
  tables : RegistryTables
  records : AgentRecords
  holds : plane.registry.Holds tables records

namespace Operators

variable {Req : Type} (ops : Operators Req)

/-- The request asks for this change, in the name of the operator that its headers authenticate. -/
structure Asks (t : Req) (operator : String) (changed : RegistryRequest) : Prop where
  auth : ops.plane.operatorAuth (ops.request t).headers = .ok operator
  change : ControlPlane.change (ops.request t) = some changed

def initial : PlaneState Req where
  tables := ops.tables
  lock := fun _ => none
  phase := fun _ => .waiting

/-- What a mutation assigns when the request runs. -/
def assigned (t : Req) (mutation : Mutation) : Assigned AgentColumn.Value :=
  mutation.assigned (ops.request t).moment.now

/-- The columns a flush writes, as the table returns them. -/
def written (t : Req) (mutation : Mutation) (read : AgentRow) : Assigned AgentColumn.Value :=
  fun c => ((ops.assigned t mutation).dirty read c).map (ops.plane.registry.column c)

/-- The tables when a mutation commits to this row, of which the session has read that one. -/
def committed (t : Req) (operator spiffeId : String) (mutation : Mutation) (read row : AgentRow)
    (tables : RegistryTables) : RegistryTables where
  agents := Function.update tables.agents spiffeId (some ((ops.written t mutation read).applyTo row))
  operatorActions := tables.operatorActions ++ [OperatorRequest.auditRow ⟨operator, mutation⟩ spiffeId
    (ops.request t).moment.audited read]

/-- The tables when a registration commits. -/
def created (t : Req) (operator : String) (agent : RegisteredAgent) (tables : RegistryTables) :
    RegistryTables where
  agents := Function.update tables.agents agent.spiffeId
    (some fun c => ops.plane.registry.column c (agent.row c))
  operatorActions := tables.operatorActions ++ [PostgresAgentRegistry.createAction agent operator
    (ops.request t).moment.audited]

variable [DecidableEq Req]

/-- A step of a request. -/
inductive Step : PlaneState Req → Req → PlaneState Req → Prop
  -- `update` and `set_status` select the row, and take no lock
  | load {s : PlaneState Req} {t : Req} {operator spiffeId : String} {mutation : Mutation}
      {row : AgentRow} (hasks : ops.Asks t operator (.mutate spiffeId mutation))
      (hphase : s.phase t = .waiting) (hrow : s.tables.agents spiffeId = some row) :
      Step s t { s with phase := Function.update s.phase t (.loaded row) }
  -- the UPDATE waits for the lock; where nothing is dirty there is none
  | flush {s : PlaneState Req} {t : Req} {operator spiffeId : String} {mutation : Mutation}
      {read : AgentRow} (hasks : ops.Asks t operator (.mutate spiffeId mutation))
      (hphase : s.phase t = .loaded read)
      (hwrites : ((ops.assigned t mutation).dirty read).Writes = true) (hlock : s.lock spiffeId = none) :
      Step s t { s with
        lock := Function.update s.lock spiffeId (some t)
        phase := Function.update s.phase t (.flushed read) }
  | skip {s : PlaneState Req} {t : Req} {operator spiffeId : String} {mutation : Mutation}
      {read : AgentRow} (hasks : ops.Asks t operator (.mutate spiffeId mutation))
      (hphase : s.phase t = .loaded read)
      (hwrites : ((ops.assigned t mutation).dirty read).Writes = false) :
      Step s t { s with phase := Function.update s.phase t (.flushed read) }
  -- `_to_domain` reads the session's own row, the UPDATE goes to the one in the table
  | commit {s : PlaneState Req} {t : Req} {operator spiffeId : String} {mutation : Mutation}
      {read row : AgentRow} {agent : RegisteredAgent}
      (hasks : ops.Asks t operator (.mutate spiffeId mutation)) (hphase : s.phase t = .flushed read)
      (hdomain : ops.plane.registry.toDomain spiffeId ((ops.assigned t mutation).applyTo read) =
        .ok agent)
      (hrow : s.tables.agents spiffeId = some row) :
      Step s t (s.ended t (ops.committed t operator spiffeId mutation read row s.tables)
        (.answered { body := .agent agent }))
  -- a key that another session is inserting waits, one that is there raises
  | insert {s : PlaneState Req} {t : Req} {operator : String} {agent : RegisteredAgent}
      (hasks : ops.Asks t operator (.create agent)) (hphase : s.phase t = .waiting)
      (habsent : s.tables.agents agent.spiffeId = none) (hlock : s.lock agent.spiffeId = none) :
      Step s t { s with
        lock := Function.update s.lock agent.spiffeId (some t)
        phase := Function.update s.phase t .inserted }
  | create {s : PlaneState Req} {t : Req} {operator : String} {agent : RegisteredAgent}
      (hasks : ops.Asks t operator (.create agent)) (hphase : s.phase t = .inserted) :
      Step s t (s.ended t (ops.created t operator agent s.tables)
        (.answered { statusCode := 201, body := .agent agent }))
  | read {s : PlaneState Req} {t : Req} {response : ControlResponse}
      (hchange : ControlPlane.change (ops.request t) = none) (hphase : s.phase t = .waiting)
      (hanswer : (ops.plane.answer (ops.request t) s.tables).1 = .ok response) :
      Step s t { s with phase := Function.update s.phase t (.answered response) }
  -- a refusal, an exception or a lost connection, before the commit
  | fail {s : PlaneState Req} {t : Req} (error : ControlError) (hphase : (s.phase t).isOver = false) :
      Step s t (s.ended t s.tables (.failed error))

/-- Every interleaving. -/
def system : System (PlaneState Req) Req where
  start := fun s => s = ops.initial
  step := ops.Step

variable {ops} {s s' : PlaneState Req} {t u : Req} {operator operator' : String}
variable {changed changed' : RegistryRequest}

omit [DecidableEq Req] in
theorem Asks.unique (h : ops.Asks t operator changed) (h' : ops.Asks t operator' changed') :
    operator = operator' ∧ changed = changed' :=
  ⟨Except.ok.inj (h.auth.symm.trans h'.auth), Option.some.inj (h.change.symm.trans h'.change)⟩

omit [DecidableEq Req] in
theorem written_eq (t : Req) (mutation : Mutation) (read : AgentRow) :
    ops.written t mutation read = (ops.assigned t mutation).dirty read :=
  PostgresAgentRegistry.column_dirty read mutation _

/-! ## What a step does -/

theorem phase_of_step (h : ops.Step s t s') (hne : u ≠ t) : s'.phase u = s.phase u := by
  cases h <;> exact Function.update_of_ne hne _ _

/-- A request that is over takes no more steps. -/
theorem open_of_step (h : ops.Step s t s') : (s.phase t).isOver = false := by
  cases h with
  | fail _ hphase => exact hphase
  | load _ hphase _ => rw [hphase]; rfl
  | flush _ hphase _ _ => rw [hphase]; rfl
  | skip _ hphase _ => rw [hphase]; rfl
  | commit _ hphase _ _ => rw [hphase]; rfl
  | insert _ hphase _ _ => rw [hphase]; rfl
  | create _ hphase => rw [hphase]; rfl
  | read _ hphase _ => rw [hphase]; rfl

/-- A request that is answered stays so. -/
theorem answered_of_step (h : ops.Step s t s') {response : ControlResponse}
    (hphase : s.phase u = .answered response) : s'.phase u = .answered response := by
  have hne : u ≠ t := by
    rintro rfl
    have hopen := open_of_step h
    rw [hphase] at hopen
    cases hopen
  rw [phase_of_step h hne, hphase]

theorem answered_of_leads (h : ops.system.Leads s s') {response : ControlResponse}
    (hphase : s.phase u = .answered response) : s'.phase u = .answered response := by
  have hkeep : ∀ s t s', ops.system.step s t s' → s.phase u = .answered response →
      s'.phase u = .answered response := fun _ _ _ hstep => answered_of_step hstep
  exact h.keeps hkeep hphase

/-- A row stays, is written by the request that commits, or is inserted. -/
theorem row_of_step (h : ops.Step s t s') (spiffeId : String) :
    s'.tables.agents spiffeId = s.tables.agents spiffeId ∨
    (∃ operator mutation read row response, ops.Asks t operator (.mutate spiffeId mutation) ∧
      s.phase t = .flushed read ∧ s'.phase t = .answered response ∧
      s.tables.agents spiffeId = some row ∧
      s'.tables.agents spiffeId = some (((ops.assigned t mutation).dirty read).applyTo row)) ∨
    ∃ operator agent, ops.Asks t operator (.create agent) ∧ agent.spiffeId = spiffeId ∧
      s.phase t = .inserted ∧
      s'.tables.agents spiffeId = some fun c => ops.plane.registry.column c (agent.row c) := by
  cases h with
  | @commit operator target mutation read row agent hasks hphase hdomain hrow =>
    by_cases htarget : spiffeId = target
    · subst htarget
      refine Or.inr (Or.inl ⟨operator, mutation, read, row, _, hasks, hphase,
        Function.update_self _ _ _, hrow, ?_⟩)
      rw [← written_eq]
      exact Function.update_self _ _ _
    · exact Or.inl (Function.update_of_ne htarget _ _)
  | @create operator agent hasks hphase =>
    by_cases htarget : spiffeId = agent.spiffeId
    · subst htarget
      exact Or.inr (Or.inr ⟨operator, agent, hasks, rfl, hphase, Function.update_self _ _ _⟩)
    · exact Or.inl (Function.update_of_ne htarget _ _)
  | _ => exact Or.inl rfl

/-- What a session holds to have read, it held before, or it reads it now. -/
theorem read_of_step (h : ops.Step s t s') {read : AgentRow} (hread : (s'.phase u).read = some read) :
    (s.phase u).read = some read ∨
      u = t ∧ s'.tables = s.tables ∧ ∃ operator spiffeId mutation,
        ops.Asks t operator (.mutate spiffeId mutation) ∧ s.tables.agents spiffeId = some read := by
  by_cases hu : u = t
  · subst hu
    cases h with
    | @load operator spiffeId mutation row hasks hphase hrow =>
      rw [show (s.phase u).read = none by rw [hphase]; rfl]
      simp only [Function.update_self, RequestPhase.read, Option.some.injEq] at hread
      exact Or.inr ⟨rfl, rfl, operator, spiffeId, mutation, hasks, hread ▸ hrow⟩
    | flush hasks hphase hwrites hlock =>
      simp only [Function.update_self] at hread
      exact Or.inl (by rw [hphase]; exact hread)
    | skip hasks hphase hwrites =>
      simp only [Function.update_self] at hread
      exact Or.inl (by rw [hphase]; exact hread)
    | _ => simp [PlaneState.ended, RequestPhase.read] at hread
  · rw [phase_of_step h hu] at hread
    exact Or.inl hread

/-- Nobody takes a lock from another request. -/
theorem lock_of_step (h : ops.Step s t s') {spiffeId : String} (hne : u ≠ t)
    (hlock : s.lock spiffeId = some u) : s'.lock spiffeId = some u := by
  cases h with
  | @flush operator target mutation read hasks hphase hwrites hfree =>
    have htarget : spiffeId ≠ target := by
      rintro rfl
      rw [hfree] at hlock
      cases hlock
    exact (Function.update_of_ne htarget _ _).trans hlock
  | @insert operator agent hasks hphase habsent hfree =>
    have htarget : spiffeId ≠ agent.spiffeId := by
      rintro rfl
      rw [hfree] at hlock
      cases hlock
    exact (Function.update_of_ne htarget _ _).trans hlock
  | commit _ _ _ _ => exact PlaneState.released_of_ne hne hlock
  | create _ _ => exact PlaneState.released_of_ne hne hlock
  | fail _ _ => exact PlaneState.released_of_ne hne hlock
  | _ => exact hlock

/-! ## What holds throughout -/

variable (ops) in
/-- Every row can be read; the row that a session has read is there; and a key that is being inserted is
not in the table yet. -/
structure Consistent (s : PlaneState Req) : Prop where
  decodes : ∀ spiffeId row, s.tables.agents spiffeId = some row →
    ∃ agent, ops.plane.registry.Reads spiffeId row agent
  present : ∀ t operator spiffeId mutation read, ops.Asks t operator (.mutate spiffeId mutation) →
    (s.phase t).read = some read → ∃ row, s.tables.agents spiffeId = some row
  inserting : ∀ t, s.phase t = .inserted → ∃ operator agent, ops.Asks t operator (.create agent) ∧
    s.lock agent.spiffeId = some t ∧ s.tables.agents agent.spiffeId = none

omit [DecidableEq Req] in
theorem Consistent.absent (hs : ops.Consistent s) {agent : RegisteredAgent}
    (hasks : ops.Asks t operator (.create agent)) (hphase : s.phase t = .inserted) :
    s.lock agent.spiffeId = some t ∧ s.tables.agents agent.spiffeId = none := by
  obtain ⟨operator', agent', hasks', hlock, habsent⟩ := hs.inserting t hphase
  obtain rfl := RegistryRequest.create.inj (hasks.unique hasks').2
  exact ⟨hlock, habsent⟩

/-- A row that is there stays, or the request that commits writes to it. -/
theorem Consistent.row_of_step (hs : ops.Consistent s) (h : ops.Step s t s') {spiffeId : String}
    {row : AgentRow} (hrow : s.tables.agents spiffeId = some row) :
    ∃ row', s'.tables.agents spiffeId = some row' ∧
      (row' = row ∨ ∃ operator mutation read response,
        ops.Asks t operator (.mutate spiffeId mutation) ∧ s.phase t = .flushed read ∧
        s'.phase t = .answered response ∧
        row' = ((ops.assigned t mutation).dirty read).applyTo row) := by
  obtain hsame | ⟨operator, mutation, read, row', response, hasks, hphase, hphase', hheld, hwritten⟩ |
    ⟨operator, agent, hasks, rfl, hphase, -⟩ := Operators.row_of_step h spiffeId
  · exact ⟨row, hsame.trans hrow, Or.inl rfl⟩
  · obtain rfl := Option.some.inj (hheld.symm.trans hrow)
    exact ⟨_, hwritten, Or.inr ⟨operator, mutation, read, response, hasks, hphase, hphase', rfl⟩⟩
  · rw [(hs.absent hasks hphase).2] at hrow
    cases hrow

end Operators

namespace PostgresAgentRegistry

variable {registry : PostgresAgentRegistry} {spiffeId : String} {row : AgentRow}
variable {agent : RegisteredAgent}

/-- A row to which some of the columns of a mutation were written can still be read. -/
theorem Reads.flushed (h : registry.Reads spiffeId row agent) (mutation : Mutation) (now : UtcTime)
    (read : AgentRow) :
    ∃ agent', registry.Reads spiffeId (((mutation.assigned now).dirty read).applyTo row) agent' := by
  have hmutated := h.mutated mutation now
  have hdecodes : ∀ (c : AgentColumn) (P : c.Value → Prop), P (row c) →
      P ((mutation.assigned now).applyTo row c) →
      P (((mutation.assigned now).dirty read).applyTo row c) := by
    intro c P hrow happlied
    refine Assigned.applyTo_dirty_keeps (fun v hv => ?_) hrow
    rwa [Assigned.applyTo_of_some hv] at happlied
  obtain ⟨riskTier, hriskTier⟩ := hdecodes .riskTier (fun v => ∃ tier, RiskTier.ofValue? v = some tier)
    ⟨_, h.riskTier⟩ ⟨_, hmutated.riskTier⟩
  obtain ⟨status, hstatus⟩ := hdecodes .status (fun v => ∃ status, AgentStatus.ofValue? v = some status)
    ⟨_, h.status⟩ ⟨_, hmutated.status⟩
  obtain ⟨grantedTools, hgrantedTools⟩ := hdecodes .grantedTools
    (fun v => ∃ grants, registry.pydantic.toolGrants (.list (v.map PyValue.ofJson)) = some grants)
    ⟨_, h.grantedTools⟩ ⟨_, hmutated.grantedTools⟩
  exact ⟨⟨spiffeId, _, _, _, riskTier, status, grantedTools, _, _, _⟩,
    ⟨rfl, rfl, rfl, rfl, hriskTier, hstatus, hgrantedTools, rfl, rfl, rfl⟩⟩

end PostgresAgentRegistry

namespace Operators

variable {Req : Type} [DecidableEq Req] {ops : Operators Req} {s s' : PlaneState Req} {t u : Req}
variable {operator : String}

omit [DecidableEq Req] in
theorem Consistent.initial (ops : Operators Req) : ops.Consistent ops.initial where
  decodes spiffeId row hrow := by
    obtain ⟨agent, -, hreads⟩ := PostgresAgentRegistry.reads_of_lookup hrow (ops.holds spiffeId)
    exact ⟨agent, hreads⟩
  present t operator spiffeId mutation read hasks hread := by cases hread
  inserting t hphase := by cases hphase

theorem Consistent.step (hs : ops.Consistent s) (h : ops.Step s t s') : ops.Consistent s' where
  decodes spiffeId row hrow := by
    obtain hsame | ⟨operator, mutation, read, row', response, -, -, -, hheld, hwritten⟩ |
      ⟨operator, agent, -, rfl, -, hinserted⟩ := Operators.row_of_step h spiffeId
    · exact hs.decodes spiffeId row (hsame.symm.trans hrow)
    · obtain ⟨agent, hreads⟩ := hs.decodes spiffeId row' hheld
      rw [← Option.some.inj (hwritten.symm.trans hrow)]
      exact hreads.flushed mutation _ read
    · rw [← Option.some.inj (hinserted.symm.trans hrow)]
      exact ⟨_, PostgresAgentRegistry.reads_row agent⟩
  present u operator spiffeId mutation read hasks hread := by
    have hpresent : ∃ row, s.tables.agents spiffeId = some row := by
      obtain hbefore | ⟨rfl, -, operator', target, mutation', hasks', hrow⟩ := read_of_step h hread
      · exact hs.present u operator spiffeId mutation read hasks hbefore
      · obtain ⟨rfl, -⟩ := RegistryRequest.mutate.inj (hasks.unique hasks').2
        exact ⟨read, hrow⟩
    obtain ⟨row, hrow⟩ := hpresent
    obtain ⟨row', hrow', -⟩ := hs.row_of_step h hrow
    exact ⟨row', hrow'⟩
  inserting u hphase := by
    by_cases hu : u = t
    · subst hu
      cases h with
      | @insert operator agent hasks hbefore habsent hlock =>
        exact ⟨operator, agent, hasks, Function.update_self _ _ _, habsent⟩
      | _ => simp [PlaneState.ended] at hphase
    · rw [phase_of_step h hu] at hphase
      obtain ⟨operator, agent, hasks, hlock, habsent⟩ := hs.inserting u hphase
      refine ⟨operator, agent, hasks, lock_of_step h hu hlock, ?_⟩
      obtain hsame | ⟨operator', mutation, read, row, response, -, -, -, hheld, -⟩ |
        ⟨operator', agent', hasks', hkey, hinserting, -⟩ := Operators.row_of_step h agent.spiffeId
      · exact hsame.trans habsent
      · rw [habsent] at hheld
        cases hheld
      · -- the key is locked by whoever inserts it
        obtain ⟨hlock', -⟩ := hs.absent hasks' hinserting
        rw [hkey, hlock] at hlock'
        exact absurd (Option.some.inj hlock') hu

theorem consistent_of_reachable (h : ops.system.Reachable s) : ops.Consistent s := by
  refine h.invariant ?_ fun s t s' _ hs hstep => hs.step hstep
  rintro s rfl
  exact .initial ops

/-! ## A request alone -/

theorem released_of_own {lock : String → Option Req} {tables : RegistryTables}
    {phase : Req → RequestPhase} (h : ∀ spiffeId, lock spiffeId = none ∨ lock spiffeId = some t) :
    PlaneState.released ⟨tables, lock, phase⟩ t = fun _ => none := by
  funext spiffeId
  obtain hnone | hown := h spiffeId
  · simp [PlaneState.released, hnone]
  · simp [PlaneState.released, hown]

variable {tables : RegistryTables} {phase : Req → RequestPhase}

/-- A session that has read its row goes through to its commit when nobody holds a lock. -/
theorem leads_committed {spiffeId : String} {mutation : Mutation} {read row : AgentRow}
    {agent : RegisteredAgent} (hasks : ops.Asks t operator (.mutate spiffeId mutation))
    (hphase : phase t = .loaded read)
    (hdomain : ops.plane.registry.toDomain spiffeId ((ops.assigned t mutation).applyTo read) =
      .ok agent)
    (hrow : tables.agents spiffeId = some row) :
    ops.system.Leads ⟨tables, fun _ => none, phase⟩
      ⟨ops.committed t operator spiffeId mutation read row tables, fun _ => none,
        Function.update phase t (.answered { body := .agent agent })⟩ := by
  have hcommits : ∀ lock : String → Option Req,
      (∀ spiffeId, lock spiffeId = none ∨ lock spiffeId = some t) →
      ops.Step ⟨tables, lock, Function.update phase t (.flushed read)⟩ t
        ⟨ops.committed t operator spiffeId mutation read row tables, fun _ => none,
          Function.update phase t (.answered { body := .agent agent })⟩ := by
    intro lock hlock
    have hstep : ops.Step ⟨tables, lock, Function.update phase t (.flushed read)⟩ t _ :=
      .commit hasks (Function.update_self _ _ _) hdomain hrow
    rw [PlaneState.ended, released_of_own hlock, Function.update_idem] at hstep
    exact hstep
  cases hwrites : ((ops.assigned t mutation).dirty read).Writes with
  | false =>
    have hskipped : ops.system.step ⟨tables, fun _ => none, phase⟩ t _ :=
      Step.skip hasks hphase hwrites
    exact (System.Leads.refl.step hskipped).step (hcommits _ fun _ => Or.inl rfl)
  | true =>
    have hflushed : ops.system.step ⟨tables, fun _ => none, phase⟩ t _ :=
      Step.flush hasks hphase hwrites rfl
    refine (System.Leads.refl.step hflushed).step (hcommits _ fun other => ?_)
    by_cases hother : other = spiffeId
    · exact Or.inr (hother ▸ Function.update_self _ _ _)
    · exact Or.inl (Function.update_of_ne hother _ _)

theorem leads_created {agent : RegisteredAgent} (hasks : ops.Asks t operator (.create agent))
    (hphase : phase t = .waiting) (habsent : tables.agents agent.spiffeId = none) :
    ops.system.Leads ⟨tables, fun _ => none, phase⟩
      ⟨ops.created t operator agent tables, fun _ => none,
        Function.update phase t (.answered { statusCode := 201, body := .agent agent })⟩ := by
  have hinserted : ops.system.step ⟨tables, fun _ => none, phase⟩ t _ :=
    Step.insert hasks hphase habsent rfl
  have hcreated : ops.Step ⟨tables, Function.update (fun _ => none) agent.spiffeId (some t),
      Function.update phase t .inserted⟩ t _ := .create hasks (Function.update_self _ _ _)
  have hlock : ∀ other, Function.update (fun _ => none) agent.spiffeId (some t) other = none ∨
      Function.update (fun _ => none) agent.spiffeId (some t) other = some t := by
    intro other
    by_cases hother : other = agent.spiffeId
    · exact Or.inr (hother ▸ Function.update_self _ _ _)
    · exact Or.inl (Function.update_of_ne hother _ _)
  rw [PlaneState.ended, released_of_own hlock, Function.update_idem] at hcreated
  exact (System.Leads.refl.step hinserted).step hcreated

theorem leads_failed (error : ControlError) (hphase : phase t = .waiting) :
    ops.system.Leads ⟨tables, fun _ => none, phase⟩
      ⟨tables, fun _ => none, Function.update phase t (.failed error)⟩ := by
  have hopen : (phase t).isOver = false := by
    rw [hphase]
    rfl
  have hfailed : ops.Step ⟨tables, fun _ => none, phase⟩ t _ := .fail error hopen
  rw [PlaneState.ended, released_of_own fun _ => Or.inl rfl] at hfailed
  exact System.Leads.refl.step hfailed

/-- Where no lock is held, a request that nothing comes between does to the tables what its route does,
and ends with what its route answers. -/
theorem leads_alone (hphase : phase t = .waiting) :
    ops.system.Leads ⟨tables, fun _ => none, phase⟩
      ⟨(ops.plane.answer (ops.request t) tables).2, fun _ => none,
        Function.update phase t (.outcome (ops.plane.answer (ops.request t) tables).1)⟩ := by
  cases ControlPlane.outcome ops.plane (ops.request t) tables with
  | fails error hanswer =>
    rw [hanswer]
    exact leads_failed error hphase
  | reads operator response hauth hchange hanswer =>
    have hread : ops.system.step ⟨tables, fun _ => none, phase⟩ t _ :=
      Step.read hchange hphase (by rw [hanswer])
    rw [hanswer]
    exact System.Leads.refl.step hread
  | changes operator changed agent response hauth hchange hcall hanswer =>
    have hasks : ops.Asks t operator changed := ⟨hauth, hchange⟩
    have hbody := PostgresAgentRegistry.answer_ok hcall
    rw [ControlPlane.answer_of_change hauth hchange, Prod.map_fst, Prod.map_snd, hcall, id]
    cases changed with
    | create new =>
      obtain ⟨habsent, rfl, htables⟩ := PostgresAgentRegistry.create_ok hbody
      rw [htables]
      exact leads_created hasks hphase habsent
    | mutate spiffeId mutation =>
      obtain ⟨read, hrow, hdomain, htables⟩ := PostgresAgentRegistry.mutate_ok hbody
      have hloaded : ops.system.step ⟨tables, fun _ => none, phase⟩ t _ :=
        Step.load hasks hphase hrow
      have hread : Function.update phase t (.loaded read) t = .loaded read :=
        Function.update_self _ _ _
      have hcommitted := leads_committed hasks hread hdomain hrow
      rw [Function.update_idem, committed, written_eq, Assigned.applyTo_dirty_iff.mpr
        fun c v _ hv => hv.symm] at hcommitted
      rw [htables]
      exact (System.Leads.refl.step hloaded).trans hcommitted

/-- A change is only answered in the name of an operator. -/
theorem asks_of_answered (h : ops.system.Reachable s) {response : ControlResponse}
    (hanswered : s.phase t = .answered response) {changed : RegistryRequest}
    (hchange : ControlPlane.change (ops.request t) = some changed) :
    ∃ operator, ops.Asks t operator changed := by
  induction h with
  | start h =>
    cases h
    cases hanswered
  | @step s s' u hs hstep ih =>
    by_cases hu : t = u
    · subst hu
      cases hstep with
      | commit hasks _ _ _ => exact ⟨_, hasks.auth, hchange⟩
      | create hasks _ => exact ⟨_, hasks.auth, hchange⟩
      | read hnone _ _ => cases hchange.symm.trans hnone
      | _ => simp [PlaneState.ended] at hanswered
    · rw [phase_of_step hstep hu] at hanswered
      exact ih hanswered

/-! ## Who did what -/

variable (ops) in
/-- The changes that were answered, in the order of their commits, and what they have left. -/
structure Audited (s : PlaneState Req) (log : List Req) : Prop where
  once : log.Nodup
  answered : ∀ t, t ∈ log ↔ (ControlPlane.change (ops.request t)).isSome = true ∧
    ∃ response, s.phase t = .answered response
  rows : ∃ rows, s.tables.operatorActions = ops.tables.operatorActions ++ rows ∧
    List.Forall₂ ops.plane.Audits rows (log.map ops.request)

theorem Audited.kept {log : List Req} (h : ops.Audited s log) (hstep : ops.Step s t s')
    (hactions : s'.tables.operatorActions = s.tables.operatorActions)
    (hown : (ControlPlane.change (ops.request t)).isSome = true →
      ∀ response, s'.phase t ≠ .answered response) : ops.Audited s' log where
  once := h.once
  answered u := by
    rw [h.answered u]
    refine and_congr_right fun hchange => ?_
    by_cases hu : u = t
    · subst hu
      have hopen := open_of_step hstep
      constructor
      · rintro ⟨response, hphase⟩
        rw [hphase] at hopen
        cases hopen
      · rintro ⟨response, hphase⟩
        exact absurd hphase (hown hchange response)
    · rw [phase_of_step hstep hu]
  rows := by
    rw [hactions]
    exact h.rows

theorem Audited.snoc {log : List Req} (h : ops.Audited s log) (hstep : ops.Step s t s')
    {changed : RegistryRequest} (hasks : ops.Asks t operator changed) {response : ControlResponse}
    (hphase : s'.phase t = .answered response) {row : OperatorAction}
    (hactions : s'.tables.operatorActions = s.tables.operatorActions ++ [row])
    (hrow : RegistryCall.RecordedBy row ((ops.request t).call operator changed)) :
    ops.Audited s' (log ++ [t]) where
  once := by
    refine List.nodup_append.mpr ⟨h.once, List.nodup_singleton _, fun u hu t' ht' hsame => ?_⟩
    rw [hsame, List.mem_singleton.mp ht'] at hu
    obtain ⟨-, earlier, hearlier⟩ := (h.answered t).mp hu
    have hopen := open_of_step hstep
    rw [hearlier] at hopen
    cases hopen
  answered u := by
    by_cases hu : u = t
    · subst hu
      refine iff_of_true (List.mem_append_right _ (List.mem_singleton_self _)) ⟨?_, response, hphase⟩
      rw [hasks.change]
      rfl
    · rw [List.mem_append, List.mem_singleton, or_iff_left hu, h.answered u, phase_of_step hstep hu]
  rows := by
    obtain ⟨rows, hrows, haudits⟩ := h.rows
    refine ⟨rows ++ [row], by rw [hactions, hrows, List.append_assoc], ?_⟩
    rw [List.map_append, List.map_singleton]
    exact List.rel_append haudits (.cons ⟨operator, changed, hasks.auth, hasks.change, hrow⟩ .nil)

/-- However the requests overlap, each change that was answered has left one row, in the name of the
operator that its own headers authenticate; and there is no other row. -/
theorem audited_of_reachable (h : ops.system.Reachable s) : ∃ log, ops.Audited s log := by
  induction h with
  | start h =>
    cases h
    refine ⟨[], List.nodup_nil, fun t => ?_, [], (List.append_nil _).symm, .nil⟩
    simp [initial]
  | @step s s' t hs hstep ih =>
    obtain ⟨log, hlog⟩ := ih
    have hstep' := hstep
    cases hstep with
    | commit hasks hphase hdomain hrow =>
      exact ⟨log ++ [t], hlog.snoc hstep' hasks (Function.update_self _ _ _) rfl ⟨rfl, rfl, rfl⟩⟩
    | create hasks hphase =>
      exact ⟨log ++ [t], hlog.snoc hstep' hasks (Function.update_self _ _ _) rfl ⟨rfl, rfl, rfl⟩⟩
    | read hchange hphase hanswer =>
      refine ⟨log, hlog.kept hstep' rfl fun hsome => ?_⟩
      rw [hchange] at hsome
      cases hsome
    | _ => exact ⟨log, hlog.kept hstep' rfl fun _ response => by simp [PlaneState.ended]⟩

/-! ## One column -/

/-- What holds of a column while a request assigns to it a value that `Q` holds of: the row is at least as
good as the one that was read, and then it is good. -/
structure Tracks (t : Req) (spiffeId : String) (c : AgentColumn) (Q : c.Value → Prop)
    (s : PlaneState Req) : Prop where
  read : ∀ read, (s.phase t).read = some read →
    ∃ row, s.tables.agents spiffeId = some row ∧ (Q (read c) → Q (row c))
  answered : ∀ response, s.phase t = .answered response →
    ∃ row, s.tables.agents spiffeId = some row ∧ Q (row c)

variable {spiffeId : String} {mutation : Mutation} {c : AgentColumn} {Q : c.Value → Prop}
variable {v : c.Value}

/-- What a step writes to the row keeps what everything it assigns to the column keeps. -/
theorem Consistent.kept (hs : ops.Consistent s) (h : ops.Step s u s')
    (hother : ∀ response operator mutation w, s'.phase u = .answered response →
      ops.Asks u operator (.mutate spiffeId mutation) → ops.assigned u mutation c = some w → Q w)
    {row : AgentRow} (hrow : s.tables.agents spiffeId = some row) :
    ∃ row', s'.tables.agents spiffeId = some row' ∧ (Q (row c) → Q (row' c)) := by
  obtain ⟨row', hrow', rfl | ⟨operator, mutation, read, response, hasks, -, hphase, rfl⟩⟩ :=
    hs.row_of_step h hrow
  · exact ⟨row', hrow', id⟩
  · exact ⟨_, hrow', Assigned.applyTo_dirty_keeps fun w hw =>
      hother response operator mutation w hphase hasks hw⟩

theorem Tracks.step (h : Tracks t spiffeId c Q s) (hs : ops.Consistent s) (hstep : ops.Step s u s')
    (hasks : ops.Asks t operator (.mutate spiffeId mutation))
    (hv : ops.assigned t mutation c = some v)
    (hother : ∀ response operator mutation w, s'.phase u = .answered response →
      ops.Asks u operator (.mutate spiffeId mutation) → ops.assigned u mutation c = some w → Q w) :
    Tracks t spiffeId c Q s' where
  read read hread := by
    obtain hbefore | ⟨rfl, htables, operator', target, mutation', hasks', hrow⟩ :=
      read_of_step hstep hread
    · obtain ⟨row, hrow, himp⟩ := h.read read hbefore
      obtain ⟨row', hrow', hkept⟩ := hs.kept (Q := Q) hstep hother hrow
      exact ⟨row', hrow', hkept ∘ himp⟩
    · obtain ⟨rfl, -⟩ := RegistryRequest.mutate.inj (hasks.unique hasks').2
      exact ⟨read, htables ▸ hrow, id⟩
  answered response hphase := by
    by_cases hbefore : ∃ earlier, s.phase t = .answered earlier
    · obtain ⟨earlier, hearlier⟩ := hbefore
      obtain ⟨row, hrow, hQ⟩ := h.answered earlier hearlier
      obtain ⟨row', hrow', hkept⟩ := hs.kept (Q := Q) hstep hother hrow
      exact ⟨row', hrow', hkept hQ⟩
    · have hown : t = u := by
        by_contra hne
        exact hbefore ⟨response, (phase_of_step hstep hne).symm.trans hphase⟩
      subst hown
      have hQ : Q v := hother response operator mutation v hphase hasks hv
      cases hstep with
      | @commit operator' target mutation' read row agent hasks' hflushed hdomain hrow =>
        obtain ⟨rfl, rfl⟩ := RegistryRequest.mutate.inj (hasks.unique hasks').2
        obtain ⟨row', hrow', himp⟩ := h.read read (by rw [hflushed]; rfl)
        obtain rfl := Option.some.inj (hrow.symm.trans hrow')
        refine ⟨_, Function.update_self _ _ _, ?_⟩
        rw [written_eq]
        exact Assigned.applyTo_dirty_of_assigned hv hQ himp
      | create hasks' _ => cases (hasks.unique hasks').2
      | read hchange _ _ => cases hasks.change.symm.trans hchange
      | _ => simp [PlaneState.ended] at hphase

/-- Whoever was answered since has not assigned anything to the column that `Q` does not hold of. -/
def NoneWorse (ops : Operators Req) (spiffeId : String) (c : AgentColumn) (Q : c.Value → Prop)
    (s s' : PlaneState Req) : Prop :=
  ∀ u response, s'.phase u = .answered response → (∀ earlier, s.phase u ≠ .answered earlier) →
    ∀ operator mutation w, ops.Asks u operator (.mutate spiffeId mutation) →
      ops.assigned u mutation c = some w → Q w

theorem NoneWorse.before (h : ops.NoneWorse spiffeId c Q s s') {between : PlaneState Req}
    (hstep : ops.Step between u s') : ops.NoneWorse spiffeId c Q s between :=
  fun _ response hphase => h _ response (answered_of_step hstep hphase)

/-- What an answered request assigned to a column of the row is there, or something as good. -/
theorem column_kept (h : ops.system.Reachable s) (hleads : ops.system.Leads s s')
    (hasks : ops.Asks t operator (.mutate spiffeId mutation))
    (hv : ops.assigned t mutation c = some v) (hwaiting : s.phase t = .waiting)
    (hnone : ops.NoneWorse spiffeId c Q s s') {response : ControlResponse}
    (hanswered : s'.phase t = .answered response) :
    ∃ row, s'.tables.agents spiffeId = some row ∧ Q (row c) := by
  have htracks : Tracks t spiffeId c Q s' := by
    clear hanswered
    induction hleads with
    | refl =>
      refine ⟨fun read hread => ?_, fun earlier hphase => ?_⟩
      · rw [hwaiting] at hread
        cases hread
      · rw [hwaiting] at hphase
        cases hphase
    | @step between after u hbetween hstep ih =>
      have hconsistent := consistent_of_reachable (hbetween.reachable h)
      refine (ih (hnone.before hstep)).step hconsistent hstep hasks hv ?_
      refine fun response' operator' mutation' w hphase hasks' hw =>
        hnone u response' hphase (fun earlier hearlier => ?_) operator' mutation' w hasks' hw
      have hopen := open_of_step hstep
      rw [answered_of_leads hbetween hearlier] at hopen
      cases hopen
  exact htracks.answered response hanswered

/-- So it is in the record that a lookup reads. -/
theorem record_kept (h : ops.system.Reachable s) (hleads : ops.system.Leads s s')
    (hchange : ControlPlane.change (ops.request t) = some (.mutate spiffeId mutation))
    (hv : ops.assigned t mutation c = some v) (hwaiting : s.phase t = .waiting)
    (hnone : ops.NoneWorse spiffeId c Q s s') {response : ControlResponse}
    (hanswered : s'.phase t = .answered response) :
    ∃ row agent, Q (row c) ∧ ops.plane.registry.Reads spiffeId row agent ∧
      ops.plane.registry.lookup s'.tables spiffeId = .ok (some agent) := by
  have hreached := hleads.reachable h
  obtain ⟨operator, hasks⟩ := asks_of_answered hreached hanswered hchange
  obtain ⟨row, hrow, hQ⟩ := column_kept h hleads hasks hv hwaiting hnone hanswered
  obtain ⟨agent, hreads⟩ := (consistent_of_reachable hreached).decodes spiffeId row hrow
  exact ⟨row, agent, hQ, hreads, PostgresAgentRegistry.lookup_of_reads hrow hreads⟩

end Operators

/-! ## The kill switch -/

/-- The registry holds a suspended record of the agent. -/
def PostgresAgentRegistry.Suspends (registry : PostgresAgentRegistry) (tables : RegistryTables)
    (spiffeId : String) : Prop :=
  ∃ agent, registry.lookup tables spiffeId = .ok (some agent) ∧ agent.status = .suspended

namespace ControlPlane

variable {request : ControlRequest} {spiffeId : String}

theorem change_suspends (h : request.endpoint = .suspendAgent spiffeId) :
    change request = some (.mutate spiffeId (.setStatus .suspended)) := by
  rw [change, h]

/-- A request that sets another status is an activation. -/
theorem activates_of_change {status : AgentStatus}
    (h : change request = some (.mutate spiffeId (.setStatus status))) (hne : status ≠ .suspended) :
    request.endpoint = .activateAgent spiffeId := by
  unfold change at h
  cases hendpoint : request.endpoint with
  | suspendAgent target =>
    rw [hendpoint] at h
    cases h
    exact absurd rfl hne
  | activateAgent target =>
    rw [hendpoint] at h
    cases h
    rfl
  | _ =>
    rw [hendpoint] at h
    cases h

end ControlPlane

namespace Operators

variable {Req : Type} [DecidableEq Req] {ops : Operators Req} {s s' : PlaneState Req} {t : Req}
variable {spiffeId : String}

/-- A status that was set stays as long as nobody who is answered sets another. -/
theorem status_kept (h : ops.system.Reachable s) (hleads : ops.system.Leads s s') {status : AgentStatus}
    (hchange : ControlPlane.change (ops.request t) = some (.mutate spiffeId (.setStatus status)))
    (hwaiting : s.phase t = .waiting) {response : ControlResponse}
    (hanswered : s'.phase t = .answered response)
    (hnone : ∀ u later other,
      ControlPlane.change (ops.request u) = some (.mutate spiffeId (.setStatus other)) →
      other ≠ status → s'.phase u = .answered later → ∃ earlier, s.phase u = .answered earlier) :
    ∃ agent, ops.plane.registry.lookup s'.tables spiffeId = .ok (some agent) ∧
      agent.status = status := by
  have hnoneWorse : ops.NoneWorse spiffeId .status (· = status.value) s s' := by
    intro u later hlater hnot operator' mutation w hasks' hw
    cases mutation with
    | update patch => cases hw
    | setStatus other =>
      cases hw
      by_contra hne
      obtain ⟨earlier, hearlier⟩ := hnone u later other hasks'.change (fun hsame => hne (by rw [hsame]))
        hlater
      exact hnot earlier hearlier
  obtain ⟨row, agent, hstatus, hreads, hlookup⟩ :=
    record_kept h hleads hchange (c := .status) rfl hwaiting hnoneWorse hanswered
  refine ⟨agent, hlookup, AgentStatus.value_injective ?_⟩
  exact (AgentStatus.value_of_ofValue hreads.status).symm.trans hstatus

/-- However the requests overlap: once a suspension was answered, the agent is suspended, as long as no
activation is answered that had not been when the suspension began. -/
theorem suspended_until_activated (h : ops.system.Reachable s) (hleads : ops.system.Leads s s')
    (hendpoint : (ops.request t).endpoint = .suspendAgent spiffeId) (hwaiting : s.phase t = .waiting)
    {response : ControlResponse} (hanswered : s'.phase t = .answered response)
    (hnone : ∀ u later, (ops.request u).endpoint = .activateAgent spiffeId →
      s'.phase u = .answered later → ∃ earlier, s.phase u = .answered earlier) :
    ops.plane.registry.Suspends s'.tables spiffeId :=
  status_kept h hleads (ControlPlane.change_suspends hendpoint) hwaiting hanswered
    fun u later _ hchange hne => hnone u later (ControlPlane.activates_of_change hchange hne)

/-! ## Two requests at once -/

/-- Both read the row before either commits. -/
theorem leads_overlapping {ops : Operators Bool} {operator operator' spiffeId : String}
    {mutation mutation' : Mutation} {row : AgentRow} {agent agent' : RegisteredAgent}
    (hasks : ops.Asks false operator (.mutate spiffeId mutation))
    (hasks' : ops.Asks true operator' (.mutate spiffeId mutation'))
    (hrow : ops.tables.agents spiffeId = some row)
    (hdomain : ops.plane.registry.toDomain spiffeId ((ops.assigned false mutation).applyTo row) =
      .ok agent)
    (hdomain' : ops.plane.registry.toDomain spiffeId ((ops.assigned true mutation').applyTo row) =
      .ok agent') :
    ∃ s, ops.system.Leads ops.initial s ∧
      s.tables = ops.committed true operator' spiffeId mutation' row
        ((ops.written false mutation row).applyTo row)
        (ops.committed false operator spiffeId mutation row row ops.tables) ∧
      ∀ t, ∃ response, s.phase t = .answered response := by
  have hfirst : ops.system.step ops.initial false _ := Step.load hasks rfl hrow
  let one : Bool → RequestPhase := Function.update (fun _ => .waiting) false (.loaded row)
  let both : Bool → RequestPhase := Function.update one true (.loaded row)
  have hsecond : ops.system.step ⟨ops.tables, fun _ => none, one⟩ true ⟨_, _, both⟩ :=
    Step.load hasks' rfl hrow
  have hread : both false = .loaded row := rfl
  have hcommit := leads_committed hasks hread hdomain hrow
  have hread' : Function.update both false (.answered { body := .agent agent }) true =
      .loaded row := rfl
  have hrow' : (ops.committed false operator spiffeId mutation row row ops.tables).agents spiffeId =
      some ((ops.written false mutation row).applyTo row) := Function.update_self _ _ _
  have hcommit' := leads_committed hasks' hread' hdomain' hrow'
  refine ⟨_, (((System.Leads.refl.step hfirst).step hsecond).trans hcommit).trans hcommit', rfl, ?_⟩
  intro t
  cases t with
  | false => exact ⟨{ body := .agent agent }, rfl⟩
  | true => exact ⟨{ body := .agent agent' }, rfl⟩

end Operators

section Overlapping

open PostgresAgentRegistry ControlPlane

/-- Two requests to a control plane with a key, of an agent that is registered. -/
noncomputable def overlapping (record : RegisteredAgent) (first second : ControlRequest) :
    Operators Bool where
  plane := keyed
  request := fun later => if later then second else first
  tables := (exactRegistry.answer { register with request := .create record } emptyDirectory).2
  records := exactRegistry.applyToRecords (fun _ => none) { register with request := .create record }
  holds := by
    have hempty : exactRegistry.Holds emptyDirectory fun _ => none := fun _ => rfl
    have hanswer : (exactRegistry.answer { register with request := .create record }
      emptyDirectory).1 = .ok record := rfl
    exact (hempty.answered hanswer).1

variable {record agent agent' final : RegisteredAgent} {first second : ControlRequest}
variable {mutation mutation' : Mutation} {row : AgentRow}

/-- The registry when both have read the row before either commits, and the second commits last. -/
theorem overlapped (hspiffeId : record.spiffeId = "spiffe://corp/agent")
    (hasks : (overlapping record first second).Asks false "api-key"
      (.mutate "spiffe://corp/agent" mutation))
    (hasks' : (overlapping record first second).Asks true "api-key"
      (.mutate "spiffe://corp/agent" mutation'))
    (hrow : (overlapping record first second).tables.agents "spiffe://corp/agent" = some row)
    (hdomain : exactRegistry.toDomain "spiffe://corp/agent"
      (((overlapping record first second).assigned false mutation).applyTo row) = .ok agent)
    (hdomain' : exactRegistry.toDomain "spiffe://corp/agent"
      (((overlapping record first second).assigned true mutation').applyTo row) = .ok agent')
    (hfinal : exactRegistry.toDomain "spiffe://corp/agent"
      (((overlapping record first second).written true mutation' row).applyTo
        (((overlapping record first second).written false mutation row).applyTo row)) = .ok final) :
    ∃ s, (overlapping record first second).system.Leads (overlapping record first second).initial s ∧
      (∀ t, ∃ response, s.phase t = .answered response) ∧
      ∀ spiffeId, exactRegistry.lookup s.tables spiffeId =
        .ok (if spiffeId = "spiffe://corp/agent" then some final else none) := by
  obtain ⟨s, hleads, htables, hanswered⟩ :=
    Operators.leads_overlapping hasks hasks' hrow hdomain hdomain'
  refine ⟨s, hleads, hanswered, fun spiffeId => ?_⟩
  have hagents : s.tables.agents = Function.update (Function.update
      (overlapping record first second).tables.agents "spiffe://corp/agent" (some _))
      "spiffe://corp/agent" (some _) := congrArg RegistryTables.agents htables
  rw [lookup, hagents]
  by_cases hagent : spiffeId = "spiffe://corp/agent"
  · subst hagent
    rw [Function.update_self, if_pos rfl]
    exact congrArg (Except.map some) hfinal
  · have habsent : (overlapping record first second).tables.agents spiffeId = none :=
      Function.update_of_ne (hspiffeId ▸ hagent) _ _
    rw [Function.update_of_ne hagent, Function.update_of_ne hagent, habsent, if_neg hagent]

def suspension : ControlRequest := asked bearer (.suspendAgent "spiffe://corp/agent")

def handover : ControlRequest :=
  asked bearer (.updateAgent "spiffe://corp/agent" { owner := some "bob@corp.net" })

theorem handover_asks (later : Bool) (record : RegisteredAgent) (first second : ControlRequest)
    (h : (overlapping record first second).request later = handover) :
    (overlapping record first second).Asks later "api-key"
      (.mutate "spiffe://corp/agent" (.update { owner := some "bob@corp.net" })) := by
  constructor <;> rw [h] <;> rfl

/-- What the suspension and the handover leave of the record. -/
def suspendedByBoth : RegisteredAgent := { suspendedOn firstDay with owner := "bob@corp.net" }

theorem suspension_overlapped : ∃ s,
    (overlapping fixedRecord suspension handover).system.Leads
      (overlapping fixedRecord suspension handover).initial s ∧
    (∀ t, ∃ response, s.phase t = .answered response) ∧
    ∀ spiffeId, exactRegistry.lookup s.tables spiffeId =
      .ok (if spiffeId = "spiffe://corp/agent" then some suspendedByBoth else none) := by
  have hasks : (overlapping fixedRecord suspension handover).Asks false "api-key"
      (.mutate "spiffe://corp/agent" (.setStatus .suspended)) := ⟨rfl, rfl⟩
  exact overlapped rfl hasks (handover_asks true _ _ _ rfl) rfl rfl rfl rfl

/-- The update had read the agent while it was active, and commits last. -/
theorem overlapping_suspended : ∃ s,
    (overlapping fixedRecord suspension handover).system.Reachable s ∧
    (∀ t, ∃ response, s.phase t = .answered response) ∧
    exactRegistry.Suspends s.tables "spiffe://corp/agent" := by
  obtain ⟨s, hleads, hanswered, -⟩ := suspension_overlapped
  obtain ⟨response, hsuspended⟩ := hanswered false
  have hstart : (overlapping fixedRecord suspension handover).system.Reachable
      (overlapping fixedRecord suspension handover).initial := .start rfl
  have hnone : ∀ u later, ((overlapping fixedRecord suspension handover).request u).endpoint =
      .activateAgent "spiffe://corp/agent" → s.phase u = .answered later → ∃ earlier,
        (overlapping fixedRecord suspension handover).initial.phase u = .answered earlier := by
    rintro (_ | _) later hactivates - <;> cases hactivates
  exact ⟨s, hleads.reachable hstart, hanswered,
    Operators.suspended_until_activated hstart hleads rfl rfl hsuspended hnone⟩

theorem overlapping_audited : ∃ s log,
    (∀ t, ∃ response, s.phase t = .answered response) ∧
    (overlapping fixedRecord suspension handover).Audited s log := by
  obtain ⟨s, hleads, hanswered, -⟩ := suspension_overlapped
  obtain ⟨log, hlog⟩ := Operators.audited_of_reachable (hleads.reachable (.start rfl))
  exact ⟨s, log, hanswered, hlog⟩

end Overlapping

end OpenAgentControl
