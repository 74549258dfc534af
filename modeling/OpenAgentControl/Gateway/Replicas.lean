import OpenAgentControl.Foundations.Interleaving
import OpenAgentControl.Adapters.Ledger.Lookup
import OpenAgentControl.Gateway.Routes

/-! # Replicas of the gateway

Any number of requests at once, on any number of replicas, over the one ledger they share. A request
calls its ports one after the other, and its record is a transaction that interleaves with those of
the others; a replica that stops leaves its request where it is. Each request runs as it would alone
(`requests_run_alone`), and nothing is brokered or forwarded without a committed receipt of exactly
that call (`effects_accounted`). -/

namespace OpenAgentControl
set_option autoImplicit false
set_option maxHeartbeats 250000

open Foundations

inductive RequestKind
  | execute
  | authorize

/-- A request, and what the ports of its replica answer to it. The ledger among them is not used. -/
structure GatewayRequest where
  kind : RequestKind
  svc : GovernedExecutionService
  headers : Headers
  payload : Dict

/-- The service as it runs when the ledger answers this. -/
def GovernedExecutionService.withLedger (svc : GovernedExecutionService)
    (answer : Except Exc ExecutionReceipt) : GovernedExecutionService :=
  { svc with ledger := fun _ _ _ _ => answer }

namespace GatewayRequest

variable (r : GatewayRequest)

/-- What the request comes to before the ledger. -/
def decided : Traced Event Exc (AgentIdentity × ToolCallRequest × PolicyDecision × Bool) :=
  r.svc.decideCall r.headers r.payload

/-- What the request asks the ledger to record, if it gets there. -/
def recordCall : Option RecordCall :=
  match r.decided.result with
  | .ok (agent, call, decision, shadowable) =>
    some ⟨agent, call, decision, !r.svc.shadows decision shadowable⟩
  | .error _ => none

/-- What it does when the ledger has answered. -/
def resume (agent : AgentIdentity) (call : ToolCallRequest) (decision : PolicyDecision)
    (shadowable : Bool) (answer : Except Exc ExecutionReceipt) : List Event :=
  let recorded := (r.svc.withLedger answer).recordAndExport agent call decision shadowable
  match r.kind with
  | .execute => (recorded >>= (r.svc.withLedger answer).proceed r.headers).trace
  | .authorize => recorded.trace

/-- The request step by step: up to the decision, the call of `record`, and what follows its answer. -/
def program : Program Event RecordCall (Except Exc ExecutionReceipt) :=
  match r.decided.result with
  | .ok (agent, call, decision, shadowable) =>
    .once r.decided.trace ⟨agent, call, decision, !r.svc.shadows decision shadowable⟩
      (r.resume agent call decision shadowable)
  | .error _ => .performs r.decided.trace .done

/-- The whole of the request when it is alone, for each answer of the ledger. -/
def script (answer : Except Exc ExecutionReceipt) : List Event :=
  match r.kind with
  | .execute => ((r.svc.withLedger answer).execute r.headers r.payload).trace
  | .authorize => ((r.svc.withLedger answer).authorize r.headers r.payload).trace

end GatewayRequest

/-- What the caller of `record` may be answered: the receipt that was committed, or an exception, which
may come after the commit as well. -/
def Phase.Answers : Phase → Except Exc ExecutionReceipt → Prop
  | .committed b, .ok receipt => receipt = b.toReceipt
  | .committed _, .error _ => True
  | .rolledBack, .error _ => True
  | _, _ => False

theorem Phase.answers_ok {p : Phase} {receipt : ExecutionReceipt} (h : p.Answers (.ok receipt)) :
    ∃ b, p = .committed b ∧ receipt = b.toReceipt := by
  cases p with
  | committed b => exact ⟨b, rfl, h⟩
  | _ => exact absurd h id

/-- What stands for the call of a request that never comes to record anything. -/
def noCall : RecordCall where
  agent := { spiffeId := "" }
  request := { method := "", agent := { spiffeId := "" } }
  decision := ⟨.deny, ""⟩
  enforced := true

/-- Requests over one ledger. -/
structure Deployment (Req : Type) where
  key : SigningKey
  backend : Backend
  request : Req → GatewayRequest

/-- What the ledger is asked to record for a request. -/
def Deployment.recorded {Req : Type} (d : Deployment Req) (t : Req) : RecordCall :=
  (d.request t).recordCall.getD noCall

namespace LedgerConfig

variable {Tx : Type} [DecidableEq Tx] {cfg : LedgerConfig Tx} {s s' : LedgerState Tx}

/-- A step changes the phase of its own transaction, and of one that is not over. -/
theorem phase_of_step {l : LedgerStep Tx} (hstep : cfg.next s l = some s') :
    (∀ t, l.tx ≠ t → s'.phase t = s.phase t) ∧
      (∀ b, s.phase l.tx ≠ .committed b) ∧ s.phase l.tx ≠ .rolledBack := by
  obtain ⟨t, rfl, hphase, -, rfl⟩ | ⟨t, sequenceId, timestamp, id, previousHash, rfl, hphase, -, rfl⟩ |
    ⟨t, entry, id, rfl, hphase, rfl⟩ | ⟨t, lock, rfl, hnot, hopen, rfl⟩ := next_cases hstep
  · refine ⟨fun t' ht => Function.update_of_ne (Ne.symm ht) _ _, ?_⟩
    simp [LedgerStep.tx, hphase]
  · refine ⟨fun t' ht => Function.update_of_ne (Ne.symm ht) _ _, ?_⟩
    simp [LedgerStep.tx, hphase]
  · refine ⟨fun t' ht => Function.update_of_ne (Ne.symm ht) _ _, ?_⟩
    simp [LedgerStep.tx, hphase]
  · refine ⟨fun t' ht => Function.update_of_ne (Ne.symm ht) _ _, hnot, fun hover => ?_⟩
    simp only [LedgerStep.tx] at hover
    rw [hover] at hopen
    simp [Phase.isOpen] at hopen

theorem answers_settled {l : LedgerStep Tx} (hstep : cfg.next s l = some s') {t : Tx}
    {answer : Except Exc ExecutionReceipt} (h : (s.phase t).Answers answer) :
    (s'.phase t).Answers answer := by
  obtain ⟨hothers, hcommitted, hrolled⟩ := phase_of_step hstep
  by_cases ht : l.tx = t
  · subst ht
    cases hphase : s.phase l.tx with
    | committed b => exact absurd hphase (hcommitted b)
    | rolledBack => exact absurd hphase hrolled
    | _ =>
      rw [hphase] at h
      cases answer with
      | _ => exact absurd h id
  · rwa [hothers t ht]

/-- A step depends on what its own transaction records only. -/
theorem next_congr {cfg' : LedgerConfig Tx} {l : LedgerStep Tx} (hkey : cfg.key = cfg'.key)
    (hbackend : cfg.backend = cfg'.backend) (hcall : cfg.call l.tx = cfg'.call l.tx) :
    cfg.next s l = cfg'.next s l := by
  cases l with
  | write t sequenceId timestamp id =>
    simp only [LedgerStep.tx] at hcall
    simp only [next, hkey, hcall]
  | commit t => simp only [next, hkey, hbackend]
  | _ => rfl

end LedgerConfig

namespace GovernedExecutionService

variable {svc : GovernedExecutionService} {answer : Except Exc ExecutionReceipt} {headers : Headers}
  {payload : Dict}

/-- The ledger has no part in what comes before it. -/
theorem decideCall_withLedger :
    (svc.withLedger answer).decideCall headers payload = svc.decideCall headers payload := rfl

theorem decideCall_begins :
    (svc.decideCall headers payload).trace <+:
      ((svc.withLedger answer).authorizeCore headers payload).trace := by
  rw [authorizeCore_eq_bind, decideCall_withLedger]
  cases hdecide : (svc.decideCall headers payload).result with
  | ok d =>
    rw [Traced.bind_of_ok hdecide]
    exact List.prefix_append _ _
  | error e =>
    rw [Traced.bind_of_error hdecide]

/-- What was decided on: the call of the payload, with the record that the lookup answered. -/
theorem decideCall_inv {agent : AgentIdentity} {call : ToolCallRequest} {decision : PolicyDecision}
    {shadowable : Bool}
    (h : (svc.decideCall headers payload).result = .ok (agent, call, decision, shadowable)) :
    svc.identityProvider headers = .ok agent ∧
      ∃ registration built events, svc.agentRegistry agent.spiffeId = .ok registration ∧
        buildCall payload agent registration = .ok built ∧
        call = { built with subject := call.subject } ∧ Decided svc call decision shadowable events := by
  unfold decideCall at h
  obtain ⟨agent', hidentify, h, -⟩ := Traced.bind_ok h
  obtain ⟨registration, hlookup, h, -⟩ := Traced.bind_ok h
  obtain ⟨built, hbuilt, h, -⟩ := Traced.bind_ok h
  obtain ⟨call', hresolve, h, -⟩ := Traced.bind_ok h
  obtain ⟨⟨decision', shadowable'⟩, hdecide, h, -⟩ := Traced.bind_ok h
  cases h
  exact ⟨hidentify, registration, built, _, hlookup, hbuilt, (resolveSubject_ok hresolve).frame.1,
    policyEvaluate_ok hdecide⟩

theorem AuthorizedRun.decideCall_result (run : svc.AuthorizedRun headers payload) :
    (svc.decideCall headers payload).result =
      .ok (run.agent, run.call, run.decision, run.shadowable) := by
  rw [decideCall_of_resolved run.identified run.looked run.builtOk run.resolved,
    run.decided.policyEvaluate_eq]
  rfl

/-- Behind anything brokered or forwarded stands an allowed run, which proceeds to it. -/
theorem proceeds_of_effect {ev : Event} (h : ev ∈ (svc.execute headers payload).trace)
    (heffect : ev.isExchange = true ∨ ev.isForward = true) :
    ∃ run : svc.AuthorizedRun headers payload, run.outcome.allowed = true ∧
      ev ∈ (svc.proceed headers run.outcome).trace := by
  have hcoreless : ev ∉ (svc.authorizeCore headers payload).trace := by
    intro hmem
    obtain ⟨hexchange, hforward⟩ := authorizeCore_events ev hmem
    rw [hexchange, hforward] at heffect
    simp at heffect
  cases hcore : (svc.authorizeCore headers payload).result with
  | error e =>
    rw [execute_of_error hcore] at h
    exact absurd h hcoreless
  | ok outcome =>
    obtain ⟨run, rfl, -⟩ := authorizeCore_ok hcore
    have hproceed : ev ∈ (svc.proceed headers run.outcome).trace := by
      rw [execute_of_ok hcore] at h
      exact (List.mem_append.mp h).resolve_left hcoreless
    refine ⟨run, ?_, hproceed⟩
    by_contra hdenied
    rw [proceed_denied (Bool.eq_false_iff.mpr hdenied)] at hproceed
    cases hproceed

/-- What an allowed outcome proceeds to: events of the brokering, and the one forward of its call with
the credential that was brokered. -/
theorem proceed_inv {outcome : AuthorizationOutcome} (hallowed : outcome.allowed = true) {ev : Event}
    (h : ev ∈ (svc.proceed headers outcome).trace) :
    ev ∈ (svc.brokerCredential outcome.call.agent headers).trace ∨
      ∃ credential, (svc.brokerCredential outcome.call.agent headers).result = .ok credential ∧
        ev = .forward outcome.call credential (svc.mcpUpstream outcome.call credential) := by
  cases hbroker : (svc.brokerCredential outcome.call.agent headers).result with
  | error e =>
    rw [proceed_refused hallowed hbroker] at h
    exact Or.inl h
  | ok credential =>
    rw [proceed_broker hallowed hbroker] at h
    obtain hbrokered | hforward := List.mem_append.mp h
    · exact Or.inl hbrokered
    · exact Or.inr ⟨credential, rfl, List.mem_singleton.mp hforward⟩

/-- What is forwarded is the call of the run. -/
theorem effect_inv {ev : Event} (h : ev ∈ (svc.execute headers payload).trace)
    (heffect : ev.isExchange = true ∨ ev.isForward = true) :
    ∃ run : svc.AuthorizedRun headers payload, run.outcome.allowed = true ∧
      ∀ call credential answer, ev = .forward call credential answer → call = run.call := by
  obtain ⟨run, hallowed, hproceed⟩ := proceeds_of_effect h heffect
  refine ⟨run, hallowed, ?_⟩
  rintro call credential answer rfl
  obtain hbrokered | ⟨credential', -, hforward⟩ := proceed_inv hallowed hproceed
  · cases brokerCredential_events _ hbrokered
  · exact (Event.forward.inj hforward).1

theorem exports_unrecorded {agent : AgentIdentity} {call : ToolCallRequest}
    {decision : PolicyDecision} {shadowable : Bool} {e : Exc}
    (h : svc.ledger agent call decision (!svc.shadows decision shadowable) = .error e) :
    (svc.recordAndExport agent call decision shadowable).trace.filter Event.isExport = [] := by
  rw [recordAndExport_eq, h]
  rfl

theorem exports_recorded {agent : AgentIdentity} {call : ToolCallRequest}
    {decision : PolicyDecision} {shadowable : Bool} {receipt : ExecutionReceipt}
    (h : svc.ledger agent call decision (!svc.shadows decision shadowable) = .ok receipt) :
    (svc.recordAndExport agent call decision shadowable).trace.filter Event.isExport =
      [.exportReceipt receipt (svc.auditExporter receipt)] := by
  rw [recordAndExport_eq, h, Traced.bind_of_ok (Traced.perform_result _ _)]
  cases svc.auditExporter receipt with
  | error e => rfl
  | ok u => rfl

theorem execute_exports :
    (svc.execute headers payload).trace.filter Event.isExport =
      (svc.authorizeCore headers payload).trace.filter Event.isExport := by
  cases hcore : (svc.authorizeCore headers payload).result with
  | error e => rw [execute_of_error hcore]
  | ok outcome =>
    have hnone : (svc.proceed headers outcome).trace.filter Event.isExport = [] := by
      rw [List.filter_eq_nil_iff]
      intro ev hev
      have hkind := proceed_events ev hev
      cases ev with
      | exportReceipt receipt result => simp [Event.isExchange, Event.isForward] at hkind
      | _ => exact Bool.false_ne_true
    rw [execute_of_ok hcore, List.filter_append, hnone, List.append_nil]

theorem authorizeCore_exports :
    ((svc.withLedger answer).authorizeCore headers payload).trace.filter Event.isExport = [] ∨
      ∃ receipt, answer = .ok receipt ∧
        ((svc.withLedger answer).authorizeCore headers payload).trace.filter Event.isExport =
          [.exportReceipt receipt (svc.auditExporter receipt)] := by
  have hbefore : ((svc.withLedger answer).decideCall headers payload).trace.filter
      Event.isExport = [] := by
    rw [List.filter_eq_nil_iff]
    intro ev hev
    rw [(decideCall_events ev hev).2]
    exact Bool.false_ne_true
  rw [authorizeCore_eq_bind]
  cases hdecide : ((svc.withLedger answer).decideCall headers payload).result with
  | error e => exact Or.inl (by rw [Traced.bind_of_error hdecide, hbefore])
  | ok decided =>
    rw [Traced.bind_of_ok hdecide, List.filter_append, hbefore, List.nil_append]
    cases answer with
    | error e => exact Or.inl (exports_unrecorded rfl)
    | ok receipt => exact Or.inr ⟨receipt, rfl, exports_recorded rfl⟩

end GovernedExecutionService

/-- What a request exports is the receipt the ledger answered, once. -/
theorem GatewayRequest.script_exports (r : GatewayRequest) (answer : Except Exc ExecutionReceipt) :
    (r.script answer).filter Event.isExport = [] ∨ ∃ receipt, answer = .ok receipt ∧
      (r.script answer).filter Event.isExport =
        [.exportReceipt receipt (r.svc.auditExporter receipt)] := by
  unfold script
  cases r.kind with
  | execute =>
    simp only [GovernedExecutionService.execute_exports]
    exact GovernedExecutionService.authorizeCore_exports
  | authorize => exact GovernedExecutionService.authorizeCore_exports

namespace GatewayRequest

variable {r : GatewayRequest} {agent : AgentIdentity} {call : ToolCallRequest}
  {decision : PolicyDecision} {shadowable : Bool}

/-- The request alone is its way to the decision, the call of `record`, and what follows the answer. -/
theorem script_of_decided (h : r.decided.result = .ok (agent, call, decision, shadowable))
    (answer : Except Exc ExecutionReceipt) :
    r.script answer = r.decided.trace ++ r.resume agent call decision shadowable answer := by
  change (r.svc.decideCall r.headers r.payload).result = _ at h
  have hsame : (r.svc.withLedger answer).decideCall r.headers r.payload =
      r.svc.decideCall r.headers r.payload := GovernedExecutionService.decideCall_withLedger
  rw [← hsame] at h
  unfold script resume
  cases r.kind with
  | execute =>
    show (GovernedExecutionService.execute _ _ _).trace = _
    rw [GovernedExecutionService.execute, GovernedExecutionService.authorizeCore_eq_bind,
      Traced.bind_bind, Traced.bind_of_ok h]
    rfl
  | authorize =>
    show (GovernedExecutionService.authorize _ _ _).trace = _
    rw [GovernedExecutionService.authorize, GovernedExecutionService.authorizeCore_eq_bind,
      Traced.bind_of_ok h]
    rfl

theorem program_of_decided (h : r.decided.result = .ok (agent, call, decision, shadowable)) :
    r.program = .once r.decided.trace ⟨agent, call, decision, !r.svc.shadows decision shadowable⟩
      (r.resume agent call decision shadowable) := by
  simp only [program, h]

theorem recordCall_of_decided (h : r.decided.result = .ok (agent, call, decision, shadowable)) :
    r.recordCall = some ⟨agent, call, decision, !r.svc.shadows decision shadowable⟩ := by
  simp only [recordCall, h]

variable {answered : Except Exc ExecutionReceipt → Prop} {done : List Event}
  {left : Program Event RecordCall (Except Exc ExecutionReceipt)}

/-- What a request has done of its program is a beginning of its way to the decision, or of the whole
request as it is alone. -/
theorem runs_inv (h : r.program.Runs answered done left) :
    done <+: r.decided.trace ∨ ∃ answer, answered answer ∧ done <+: r.script answer := by
  unfold program at h
  cases hdecided : r.decided.result with
  | error e =>
    simp only [hdecided] at h
    obtain ⟨rest, htrace, -⟩ := h.of_performs
    exact Or.inl ⟨rest, htrace.symm⟩
  | ok decided =>
    obtain ⟨agent, call, decision, shadowable⟩ := decided
    simp only [hdecided] at h
    obtain ⟨rest, htrace, -⟩ | ⟨answer, rest, hanswer, hscript, -⟩ := h.of_once
    · exact Or.inl ⟨rest, htrace.symm⟩
    · exact Or.inr ⟨answer, hanswer, rest, by rw [script_of_decided hdecided, hscript]⟩

/-- A request asks the ledger when it has come to its decision, and to record that decision. -/
theorem asked_inv {query : RecordCall}
    {k : Except Exc ExecutionReceipt → Program Event RecordCall (Except Exc ExecutionReceipt)}
    (h : r.program.Runs answered done (.ask query k)) :
    done = r.decided.trace ∧ r.recordCall = some query ∧
      ∃ agent call decision shadowable,
        r.decided.result = .ok (agent, call, decision, shadowable) ∧
        query = ⟨agent, call, decision, !r.svc.shadows decision shadowable⟩ := by
  unfold program at h
  cases hdecided : r.decided.result with
  | error e =>
    simp only [hdecided] at h
    obtain ⟨rest, -, hleft⟩ := h.of_performs
    cases rest with
    | nil => cases hleft
    | cons e rest => cases hleft
  | ok decided =>
    obtain ⟨agent, call, decision, shadowable⟩ := decided
    simp only [hdecided] at h
    obtain ⟨hdone, hquery⟩ := h.of_once_ask
    exact ⟨hdone, hquery ▸ recordCall_of_decided hdecided, agent, call, decision, shadowable, rfl,
      hquery⟩

end GatewayRequest

/-- What was done of a sequence, if it reaches beyond the first part, begins with all of it. -/
theorem begins_of_late {α : Type} {done first rest : List α} {a : α} (h : done <+: first ++ rest)
    (hmem : a ∈ done) (hlate : a ∉ first) : first <+: done := by
  obtain hshort | hlong := List.prefix_or_prefix_of_prefix h (List.prefix_append first rest)
  · exact absurd (hshort.subset hmem) hlate
  · exact hlong

namespace Deployment

variable {Req : Type} (d : Deployment Req)

def ledger : LedgerConfig Req where
  key := d.key
  backend := d.backend
  call := d.recorded

variable [DecidableEq Req]

/-- The ledger records for a request what the request asks it to record. -/
def parties : Parties Req Event RecordCall (Except Exc ExecutionReceipt) (LedgerState Req)
    (LedgerStep Req) where
  program := fun t => (d.request t).program
  start := fun s => ∃ firstId, s = LedgerConfig.initial firstId
  serve := fun call s l s' =>
    LedgerConfig.next { key := d.key, backend := d.backend, call := fun _ => call } s l = some s'
  asker := LedgerStep.tx
  answers := fun s t answer => (s.phase t).Answers answer
  unanswered := by
    rintro s t answer ⟨firstId, rfl⟩
    exact id
  settled := fun call s l s' t answer hstep h => LedgerConfig.answers_settled hstep h
  answered_by := by
    intro call s l s' t answer hstep h
    by_cases ht : l.tx = t
    · exact Or.inr ht
    · rw [(LedgerConfig.phase_of_step hstep).1 t ht] at h
      exact Or.inl h

/-- The ledger, what is left of each request, and the calls the ports got. -/
abbrev State (Req : Type) :=
  JointState Req Event RecordCall (Except Exc ExecutionReceipt) (LedgerState Req)

/-- Every interleaving of the requests. -/
abbrev system : System (State Req)
    (JointStep Req Event (Except Exc ExecutionReceipt) (LedgerStep Req)) :=
  d.parties.system

variable {d} {s s' : State Req}

/-- The ledger goes through runs of its own. -/
theorem store_reachable (h : d.system.Reachable s) : d.ledger.system.Reachable s.store := by
  have hstart : ∀ store, d.parties.start store → d.ledger.system.start store := fun _ => id
  refine Parties.store_reachable hstart ?_ h
  intro answered l done call k store store' hruns hserve
  have hasked : (d.request l.tx).recordCall = some call := (GatewayRequest.asked_inv hruns).2.1
  have hcall : d.ledger.call l.tx = call := by
    show (d.request l.tx).recordCall.getD noCall = call
    rw [hasked, Option.getD_some]
  have hsame : d.ledger.next store l =
      LedgerConfig.next ⟨d.key, d.backend, fun _ => call⟩ store l :=
    LedgerConfig.next_congr rfl rfl hcall
  exact hsame.trans hserve

/-- What a request does beyond its decision, it does as the answer of the ledger prescribes. -/
theorem answered_of_mem (h : d.system.Reachable s) {t : Req} {ev : Event} (hmem : (t, ev) ∈ s.log)
    (hlate : ev ∉ (d.request t).decided.trace) :
    ∃ answer, (s.store.phase t).Answers answer ∧ s.view t <+: (d.request t).script answer ∧
      ev ∈ (d.request t).script answer := by
  have hview : ev ∈ s.view t := Parties.mem_view.mpr hmem
  obtain hearly | ⟨answer, hanswer, hscript⟩ :=
    GatewayRequest.runs_inv (Parties.runs_of_reachable h t)
  · exact absurd (hearly.subset hview) hlate
  · exact ⟨answer, hanswer, hscript, hscript.subset hview⟩

/-- A receipt is only committed for a request that has gone all the way to its decision, and it is one of
that decision. -/
theorem signed_of_committed (h : d.system.Reachable s) {t : Req} {b : SignedReceipt}
    (hphase : s.store.phase t = .committed b) :
    (d.request t).decided.trace <+: s.view t ∧
      ∃ agent call decision shadowable,
        (d.request t).decided.result = .ok (agent, call, decision, shadowable) ∧
        ∃ sequenceId timestamp previousHash, b = d.key.signed
          ⟨agent, call, decision, !(d.request t).svc.shadows decision shadowable⟩ sequenceId
          timestamp previousHash := by
  have hanswer : d.parties.answers s.store t (.ok b.toReceipt) := by
    show (s.store.phase t).Answers _
    rw [hphase]
    rfl
  obtain ⟨done, query, k, hruns, hdone⟩ := Parties.asked_of_answered h hanswer
  obtain ⟨rfl, hcall, agent, call, decision, shadowable, hdecided, rfl⟩ :=
    GatewayRequest.asked_inv hruns
  obtain ⟨log, hlog, -⟩ := LedgerConfig.history_of_reachable (store_reachable h)
  obtain ⟨id, hmem⟩ := (hlog.committed t b).mp hphase
  obtain ⟨sequenceId, timestamp, previousHash, hentry⟩ := hlog.recorded _ hmem
  refine ⟨hdone, agent, call, decision, shadowable, hdecided, sequenceId, timestamp, previousHash, ?_⟩
  rw [show b = _ from hentry]
  show d.key.signed (d.recorded t) _ _ _ = _
  rw [recorded, hcall, Option.getD_some]

/-- A request, seen alone, does what it would do alone against a ledger with the answer it got, and
nothing more; and the ledger goes through runs of its own. -/
theorem requests_run_alone (h : d.system.Reachable s) :
    d.ledger.system.Reachable s.store ∧
    ∀ t, (s.view t <+: (d.request t).decided.trace ∨
        ∃ answer, (s.store.phase t).Answers answer ∧ s.view t <+: (d.request t).script answer) ∧
      ∀ b, s.store.phase t = .committed b → (d.request t).decided.trace <+: s.view t ∧
        ∃ agent call decision shadowable,
          (d.request t).decided.result = .ok (agent, call, decision, shadowable) ∧
          ∃ sequenceId timestamp previousHash, b = d.key.signed
            ⟨agent, call, decision, !(d.request t).svc.shadows decision shadowable⟩ sequenceId
            timestamp previousHash :=
  ⟨store_reachable h, fun t =>
    ⟨GatewayRequest.runs_inv (Parties.runs_of_reachable h t),
      fun _ hphase => signed_of_committed h hphase⟩⟩

/-- What a committed receipt says of the effect it accounts for: the decision lets it happen, and a
forwarded call is the one whose payload was hashed. -/
structure Permits (d : Deployment Req) (t : Req) (ev : Event) (b : SignedReceipt) : Prop where
  decision : b.receipt.decision = .allow ∧ b.receipt.enforced = true ∨
    (d.request t).svc.decisionMode = .observe ∧ b.receipt.decision = .deny ∧
      b.receipt.enforced = false
  forwarded : ∀ call credential answer, ev = .forward call credential answer →
    b.receipt.spiffeId = call.agent.spiffeId ∧
      b.receipt.payloadHash = d.key.sha256Hex (canonicalJson call.modelDump)

/-- What brokers or forwards is an execution against the answer that the ledger gave the request. -/
theorem executed_of_effect (h : d.system.Reachable s) {t : Req} {ev : Event} (hmem : (t, ev) ∈ s.log)
    (heffect : ev.isExchange = true ∨ ev.isForward = true) :
    ∃ answer, (s.store.phase t).Answers answer ∧
      ev ∉ (((d.request t).svc.withLedger answer).authorizeCore
        (d.request t).headers (d.request t).payload).trace ∧
      s.view t <+: (((d.request t).svc.withLedger answer).execute
        (d.request t).headers (d.request t).payload).trace ∧
      ev ∈ (((d.request t).svc.withLedger answer).execute
        (d.request t).headers (d.request t).payload).trace := by
  have hlate : ∀ answer, ev ∉ (((d.request t).svc.withLedger answer).authorizeCore
      (d.request t).headers (d.request t).payload).trace := by
    intro answer hcore
    obtain ⟨hexchange, hforward⟩ := GovernedExecutionService.authorizeCore_events ev hcore
    rw [hexchange, hforward] at heffect
    simp at heffect
  have hundecided : ev ∉ (d.request t).decided.trace := fun hearly =>
    hlate (.error valueError) (GovernedExecutionService.decideCall_begins.subset hearly)
  obtain ⟨answer, hanswer, hview, hscript⟩ := answered_of_mem h hmem hundecided
  unfold GatewayRequest.script at hview hscript
  cases hkind : (d.request t).kind with
  | authorize =>
    rw [hkind] at hscript
    exact absurd hscript (hlate answer)
  | execute =>
    rw [hkind] at hview hscript
    exact ⟨answer, hanswer, hlate answer, hview, hscript⟩

/-- A request that brokered or forwarded has run through an allowed decision before, against the answer
the ledger gave it. -/
theorem effect_run (h : d.system.Reachable s) {t : Req} {ev : Event} (hmem : (t, ev) ∈ s.log)
    (heffect : ev.isExchange = true ∨ ev.isForward = true) :
    ∃ answer, (s.store.phase t).Answers answer ∧
      ∃ run : ((d.request t).svc.withLedger answer).AuthorizedRun (d.request t).headers
        (d.request t).payload,
        run.outcome.allowed = true ∧ run.trace <+: s.view t ∧
          ∀ call credential forwarded, ev = .forward call credential forwarded → call = run.call := by
  obtain ⟨answer, hanswer, hlate, hview, hexecuted⟩ := executed_of_effect h hmem heffect
  obtain ⟨run, hallowed, hcall⟩ := GovernedExecutionService.effect_inv hexecuted heffect
  refine ⟨answer, hanswer, run, hallowed, ?_, hcall⟩
  have hcore := run.authorizeCore_eq
  rw [GovernedExecutionService.execute_of_ok (by rw [hcore]), hcore] at hview
  rw [hcore] at hlate
  exact begins_of_late hview (Parties.mem_view.mpr hmem) hlate

/-- What a run against its answer got recorded is what it decided. -/
theorem signed_of_run (h : d.system.Reachable s) {t : Req} {answer : Except Exc ExecutionReceipt}
    (run : ((d.request t).svc.withLedger answer).AuthorizedRun (d.request t).headers
      (d.request t).payload) {b : SignedReceipt} (hphase : s.store.phase t = .committed b) :
    ∃ sequenceId timestamp previousHash, b = d.key.signed
      ⟨run.agent, run.call, run.decision, run.enforced⟩ sequenceId timestamp previousHash := by
  obtain ⟨-, agent, call, decision, shadowable, hdecided, hsigned⟩ := signed_of_committed h hphase
  have hsame := run.decideCall_result
  rw [GovernedExecutionService.decideCall_withLedger] at hsame
  obtain ⟨rfl, rfl, rfl, rfl⟩ : agent = run.agent ∧ call = run.call ∧ decision = run.decision ∧
      shadowable = run.shadowable := by
    have heq := Except.ok.inj (hdecided.symm.trans hsame)
    simpa using heq
  exact hsigned

theorem permitted_of_effect (h : d.system.Reachable s) {t : Req} {ev : Event}
    (hmem : (t, ev) ∈ s.log) (heffect : ev.isExchange = true ∨ ev.isForward = true) :
    ∃ b, s.store.phase t = .committed b ∧ d.Permits t ev b := by
  obtain ⟨answer, hanswer, run, hallowed, -, hcall⟩ := effect_run h hmem heffect
  have hanswered : answer = .ok run.receipt := run.recorded
  obtain ⟨b, hphase, -⟩ := Phase.answers_ok (hanswered ▸ hanswer)
  obtain ⟨sequenceId, timestamp, previousHash, rfl⟩ := signed_of_run h run hphase
  refine ⟨_, hphase, (run.allowed_inv hallowed).2.2, ?_⟩
  intro call credential forwarded hforward
  rw [hcall call credential forwarded hforward, run.call_agent]
  exact ⟨rfl, rfl⟩

/-- However the requests interleave, and whatever fails on the way: the ledger is one intact chain, and
everything that was brokered or forwarded so far is accounted for by a receipt in it, one for each
request, that was there before. -/
theorem effects_accounted (hcorrect : d.key.Correct) (h : d.system.Reachable s) :
    ∃ log, LedgerConfig.Intact d.ledger s.store log ∧
      ∀ t ev, (t, ev) ∈ s.log → ev.isExchange = true ∨ ev.isForward = true →
        ∃ e ∈ log, e.tx = t ∧ d.Permits t ev e.entry := by
  obtain ⟨log, hhistory, hlinked⟩ := LedgerConfig.history_of_reachable (store_reachable h)
  have hlog := hhistory.intact hlinked hcorrect
  refine ⟨log, hlog, fun t ev hmem heffect => ?_⟩
  obtain ⟨b, hphase, hpermits⟩ := permitted_of_effect h hmem heffect
  obtain ⟨id, hentry⟩ := (hlog.committed t b).mp hphase
  exact ⟨_, hentry, rfl, hpermits⟩

/-- A request that has come to the ledger is recorded when the ledger is free. -/
theorem reachable_recorded {store : LedgerState Req}
    {left : Req → Program Event RecordCall (Except Exc ExecutionReceipt)} {log : List (Req × Event)}
    (h : d.system.Reachable ⟨store, left, log⟩) {t : Req} {call : RecordCall}
    {k : Except Exc ExecutionReceipt → Program Event RecordCall (Except Exc ExecutionReceipt)}
    (hleft : left t = .ask call k) (hphase : store.phase t = .waiting) (hlock : store.lock = none)
    {sequenceId : String} (hfresh : sequenceId ∉ store.receipts.map ReceiptRow.sequenceId) :
    d.system.Reachable
      ⟨d.ledger.appended store t sequenceId LedgerConfig.oneTime, left, log⟩ := by
  let serving : LedgerConfig Req := ⟨d.key, d.backend, fun _ => call⟩
  have htakes : ∀ s l s', LedgerStep.tx l = t → serving.next s l = some s' →
      (d.parties.serving t call).step s l s' := fun _ _ _ htx hnext => ⟨htx, hnext⟩
  have hleads := LedgerConfig.leads_appended htakes hphase hlock hfresh LedgerConfig.oneTime
  have hruns : (d.request t).program.Runs _ _ (left t) := Parties.runs_of_reachable h t
  rw [hleft] at hruns
  have hcall : d.ledger.call t = call := by
    show (d.request t).recordCall.getD noCall = call
    rw [(GatewayRequest.asked_inv hruns).2.1, Option.getD_some]
  have hsame : serving.appended store t sequenceId LedgerConfig.oneTime =
      d.ledger.appended store t sequenceId LedgerConfig.oneTime := by
    simp only [LedgerConfig.appended, hcall]
    rfl
  rw [← hsame]
  exact Parties.reachable_served h hleft hleads

/-! ## Two requests at once -/

def pairReceipt (d : Deployment Bool) : Bool → SignedReceipt
  | false => d.key.signed (d.recorded false) "receipt-1" LedgerConfig.oneTime genesisHash
  | true => d.key.signed (d.recorded true) "receipt-2" LedgerConfig.oneTime
      (d.key.chain.link
        (d.key.signed (d.recorded false) "receipt-1" LedgerConfig.oneTime genesisHash))

def pairStore (d : Deployment Bool) : LedgerState Bool :=
  d.ledger.appended
    (d.ledger.appended (LedgerConfig.initial 1) false "receipt-1" LedgerConfig.oneTime) true
    "receipt-2" LedgerConfig.oneTime

theorem pairStore_phase (d : Deployment Bool) (t : Bool) :
    d.pairStore.phase t = .committed (d.pairReceipt t) := by
  cases t <;> rfl

/-- Two requests that come to decisions: both decide, then both are recorded, and the one that is
recorded last is the first to go on. -/
theorem pair_reachable (d : Deployment Bool)
    (hdecided : ∀ t, ∃ result, (d.request t).decided.result = .ok result) :
    ∃ s : State Bool, d.system.Reachable s ∧ s.store = d.pairStore ∧
      ∀ t, s.view t = (d.request t).script (.ok (d.pairReceipt t).toReceipt) := by
  obtain ⟨⟨agent, call, decision, shadowable⟩, hfirst⟩ := hdecided false
  obtain ⟨⟨agent', call', decision', shadowable'⟩, hsecond⟩ := hdecided true
  have hstart : d.system.Reachable ⟨LedgerConfig.initial 1, d.parties.program, []⟩ :=
    .start ⟨⟨1, rfl⟩, rfl, rfl⟩
  have hopened := Parties.reachable_performed hstart (p := false)
    (GatewayRequest.program_of_decided hfirst)
  have hopened' := Parties.reachable_performed hopened (p := true)
    ((Function.update_of_ne (by decide) _ _).trans (GatewayRequest.program_of_decided hsecond))
  have hfree : "receipt-1" ∉ [] := List.not_mem_nil
  have hfresh : "receipt-2" ∉ ["receipt-1"] := by decide
  have hrecorded := reachable_recorded hopened' (t := false)
    ((Function.update_of_ne (by decide) _ _).trans (Function.update_self _ _ _)) rfl rfl hfree
  have hrecorded' := reachable_recorded hrecorded (t := true) (Function.update_self _ _ _) rfl rfl
    hfresh
  have htold' := Parties.reachable_resumed hrecorded' (p := true) (Function.update_self _ _ _)
    (a := .ok (d.pairReceipt true).toReceipt) rfl
  have hdone' := Parties.reachable_performed htold' (p := true) (Function.update_self _ _ _)
  have htold := Parties.reachable_resumed hdone' (p := false)
    ((Function.update_of_ne (by decide) _ _).trans ((Function.update_of_ne (by decide) _ _).trans
      ((Function.update_of_ne (by decide) _ _).trans (Function.update_self _ _ _))))
    (a := .ok (d.pairReceipt false).toReceipt) rfl
  have hdone := Parties.reachable_performed htold (p := false) (Function.update_self _ _ _)
  refine ⟨_, hdone, rfl, fun t => ?_⟩
  cases t with
  | false =>
    rw [GatewayRequest.script_of_decided hfirst]
    simp [JointState.view, List.filter_map, Function.comp_def]
  | true =>
    rw [GatewayRequest.script_of_decided hsecond]
    simp [JointState.view, List.filter_map, Function.comp_def]

/-- The fixed agent asks to call a tool of its own, or whether it may. -/
def oneRequest (kind : RequestKind) : GatewayRequest where
  kind
  svc := GovernedExecutionService.fixed fixedAgent (some fixedRecord) ⟨.allow, ""⟩
  headers := []
  payload := authorizePayload "read_query" []

/-- One call and one question. -/
def both : Deployment Bool where
  key := LedgerConfig.echoKey
  backend := .postgres
  request := fun asks => oneRequest (if asks then .authorize else .execute)

theorem both_reachable : ∃ s : State Bool, both.system.Reachable s ∧ s.store = both.pairStore ∧
    ∀ t, s.view t = (both.request t).script (.ok (both.pairReceipt t).toReceipt) := by
  refine pair_reachable both fun t => ?_
  cases t with
  | false => exact ⟨_, rfl⟩
  | true => exact ⟨_, rfl⟩

theorem both_forwards : ∃ ev, ev ∈ (both.request false).script (.ok (both.pairReceipt false).toReceipt) ∧
    ev.isForward = true :=
  ⟨_, List.mem_of_getLast? rfl, rfl⟩

theorem both_run_alone : ∃ s, both.system.Reachable s ∧
    (∃ ev, (false, ev) ∈ s.log ∧ ev.isForward = true) ∧
    both.ledger.system.Reachable s.store ∧
    ∀ t, ∃ agent call decision shadowable,
      (both.request t).decided.result = .ok (agent, call, decision, shadowable) := by
  obtain ⟨s, hreached, hstore, hviews⟩ := both_reachable
  obtain ⟨ev, hmem, hforward⟩ := both_forwards
  obtain ⟨hledger, halone⟩ := requests_run_alone hreached
  refine ⟨s, hreached, ⟨ev, Parties.mem_view.mp (hviews false ▸ hmem), hforward⟩, hledger, ?_⟩
  intro t
  have hphase := pairStore_phase both t
  rw [← hstore] at hphase
  obtain ⟨-, agent, call, decision, shadowable, hdecided, -⟩ := (halone t).2 _ hphase
  exact ⟨agent, call, decision, shadowable, hdecided⟩

theorem both_accounted : ∃ s, both.system.Reachable s ∧ s.store.receipts.length = 2 ∧
    ∃ ev log, (false, ev) ∈ s.log ∧ ev.isForward = true ∧
      LedgerConfig.Intact both.ledger s.store log ∧
      ∃ e ∈ log, e.tx = false ∧ both.Permits false ev e.entry := by
  obtain ⟨s, hreached, hstore, hviews⟩ := both_reachable
  obtain ⟨ev, hmem, hforward⟩ := both_forwards
  have hlogged : (false, ev) ∈ s.log := Parties.mem_view.mp (hviews false ▸ hmem)
  obtain ⟨log, hlog, haccounted⟩ := effects_accounted LedgerConfig.echoKey_correct hreached
  exact ⟨s, hreached, by rw [hstore]; rfl, ev, log, hlogged, hforward, hlog,
    haccounted false ev hlogged (Or.inr hforward)⟩

end Deployment

end OpenAgentControl
