import OpenAgentControl.Application.Runs
import OpenAgentControl.Adapters.Ledger.PostgresQuery

/-! # Shadow mode

Two services whose ports answer alike, one that enforces and one that observes. Their runs agree up
to the ledger; after it they differ in what is enforced, and only where the policy engine itself
refused an active agent. -/

namespace OpenAgentControl
set_option autoImplicit false
set_option maxHeartbeats 250000

open Foundations

namespace GovernedExecutionService

variable {svc strict lenient : GovernedExecutionService} {headers : Headers} {payload : Dict}
  {agent : AgentIdentity} {call : ToolCallRequest} {decision : PolicyDecision} {shadowable : Bool}

/-! ## Ports that answer alike -/

/-- The ports of two services answer alike. Both ledgers sign with one key at one head, or fail
alike; ids and timestamps are their own. -/
structure AnswerAlike (key : SigningKey) (head : String) (strict lenient : GovernedExecutionService) :
    Prop where
  identity : strict.identityProvider = lenient.identityProvider
  registry : strict.agentRegistry = lenient.agentRegistry
  engine : strict.policyEngine = lenient.policyEngine
  verifier : strict.subjectVerifier = lenient.subjectVerifier
  binding : strict.subjectBinding = lenient.subjectBinding
  ledger : ∀ agent call decision enforced enforced',
    (∃ e, strict.ledger agent call decision enforced = .error e ∧
      lenient.ledger agent call decision enforced' = .error e) ∨
    ∃ sequenceId timestamp sequenceId' timestamp',
      strict.ledger agent call decision enforced =
        .ok (key.signed ⟨agent, call, decision, enforced⟩ sequenceId timestamp head).toReceipt ∧
      lenient.ledger agent call decision enforced' =
        .ok (key.signed ⟨agent, call, decision, enforced'⟩ sequenceId' timestamp' head).toReceipt
  exporter : ∀ agent call decision enforced enforced' receipt receipt',
    strict.ledger agent call decision enforced = .ok receipt →
      lenient.ledger agent call decision enforced' = .ok receipt' →
        strict.auditExporter receipt = lenient.auditExporter receipt'

theorem AnswerAlike.decideCall_eq {key : SigningKey} {head : String}
    (h : AnswerAlike key head strict lenient) (headers : Headers) (payload : Dict) :
    strict.decideCall headers payload = lenient.decideCall headers payload := by
  have hresolve : ∀ agent call, strict.resolveSubject headers agent call =
      lenient.resolveSubject headers agent call := by
    intro agent call
    unfold resolveSubject
    rw [h.verifier, h.binding]
  have hevaluate : ∀ call, strict.policyEvaluate call = lenient.policyEvaluate call := by
    intro call
    unfold policyEvaluate
    rw [h.engine]
  unfold decideCall
  simp only [h.identity, h.registry, hresolve, hevaluate]

/-! ## The two outcomes -/

/-- The policy engine itself refused a call of an active agent. -/
def EngineDenied (svc : GovernedExecutionService) (call : ToolCallRequest) : Prop :=
  ∃ record decision, call.registration = some record ∧ record.status = .active ∧
    svc.policyEngine call = .ok decision ∧ decision.decision = .deny

theorem Decided.engineDenied_iff {events : List Event}
    (h : Decided svc call decision shadowable events) :
    svc.EngineDenied call ↔ shadowable = true ∧ decision.decision = .deny := by
  constructor
  · rintro ⟨record, decision', hrecord, hstatus, hengine, hdeny⟩
    cases h with
    | orphan h => cases hrecord.symm.trans h
    | inactive record' h hinactive =>
      cases hrecord.symm.trans h
      exact absurd hstatus hinactive
    | outage record' message h hactive hout => cases hengine.symm.trans hout
    | engine record' decision h hactive hanswer =>
      cases hengine.symm.trans hanswer
      exact ⟨rfl, hdeny⟩
  · rintro ⟨hshadowable, hdeny⟩
    cases h with
    | orphan h => cases hshadowable
    | inactive record' h hinactive => cases hshadowable
    | outage record' message h hactive hout => cases hshadowable
    | engine record' decision h hactive hanswer => exact ⟨record', _, h, hactive, hanswer, hdeny⟩

theorem decideCall_ok
    (h : (svc.decideCall headers payload).result = .ok (agent, call, decision, shadowable)) :
    ∃ events, Decided svc call decision shadowable events := by
  unfold decideCall at h
  obtain ⟨agent, -, h, -⟩ := Traced.bind_ok h
  obtain ⟨registration, -, h, -⟩ := Traced.bind_ok h
  obtain ⟨built, -, h, -⟩ := Traced.bind_ok h
  obtain ⟨call, -, h, -⟩ := Traced.bind_ok h
  obtain ⟨d, hdecide, h, -⟩ := Traced.bind_ok h
  cases h
  exact ⟨_, policyEvaluate_ok hdecide⟩

/-- What two outcomes of the same request share, and where they differ. -/
structure SameButEnforcement (denied : Prop) (strict lenient : AuthorizationOutcome) : Prop where
  decision : lenient.decision = strict.decision
  call : lenient.call = strict.call
  receipt_decision : lenient.receipt.decision = strict.receipt.decision
  receipt_reason : lenient.receipt.reason = strict.receipt.reason
  payloadHash : lenient.receipt.payloadHash = strict.receipt.payloadHash
  previousHash : lenient.receipt.previousHash = strict.receipt.previousHash
  /-- They differ exactly where the engine refused, and then as follows. -/
  differ : (strict.allowed, strict.shadowed, strict.receipt.enforced) ≠
    (lenient.allowed, lenient.shadowed, lenient.receipt.enforced) ↔ denied
  refused : denied →
    (strict.allowed, strict.shadowed, strict.receipt.enforced) = (false, false, true) ∧
      (lenient.allowed, lenient.shadowed, lenient.receipt.enforced) = (true, true, false)
  /-- The evidence of the observing run: what enforcing would have blocked and it did not. -/
  evidence : lenient.receipt.decision = .deny ∧ lenient.receipt.enforced = false ↔
    strict.allowed = false ∧ lenient.allowed = true

/-- The events of a returning run: what stands before the ledger, one receipt, its export. -/
def RecordsOnce (before : List Event) (agent : AgentIdentity) (outcome : AuthorizationOutcome)
    (trace : List Event) : Prop :=
  (∀ ev ∈ before, ev.isRecord = false) ∧
    trace = before ++ [.record agent outcome.call outcome.decision outcome.receipt.enforced
      (.ok outcome.receipt), .exportReceipt outcome.receipt (.ok ())]

/-- Both runs raise the same after as many records, or both return outcomes that differ in
enforcement at most, after the same calls up to the ledger and one receipt. -/
structure EnforcementOnly (strict lenient : GovernedExecutionService) (headers : Headers)
    (payload : Dict) : Prop where
  raised : ∀ e, (strict.authorize headers payload).result = .error e ↔
    (lenient.authorize headers payload).result = .error e
  records : ((strict.authorize headers payload).trace.filter Event.isRecord).length =
    ((lenient.authorize headers payload).trace.filter Event.isRecord).length
  returned : ∀ outcome outcome', (strict.authorize headers payload).result = .ok outcome →
    (lenient.authorize headers payload).result = .ok outcome' →
      (∃ before agent, RecordsOnce before agent outcome (strict.authorize headers payload).trace ∧
        RecordsOnce before agent outcome' (lenient.authorize headers payload).trace) ∧
      SameButEnforcement (strict.EngineDenied outcome.call) outcome outcome'

/-! ## After the decision -/

/-- The outcome of a decision whose receipt was recorded and exported. -/
def outcomeOf (svc : GovernedExecutionService) (call : ToolCallRequest) (decision : PolicyDecision)
    (shadowable : Bool) (receipt : ExecutionReceipt) : AuthorizationOutcome where
  allowed := decision.decision == .allow || svc.shadows decision shadowable
  decision := decision
  receipt := receipt
  call := call
  shadowed := svc.shadows decision shadowable

theorem recordAndExport_unrecorded {e : Exc}
    (h : svc.ledger agent call decision (!svc.shadows decision shadowable) = .error e) :
    (svc.recordAndExport agent call decision shadowable).result = .error e := by
  rw [recordAndExport_eq, h]
  rfl

theorem recordAndExport_unexported {receipt : ExecutionReceipt} {e : Exc}
    (h : svc.ledger agent call decision (!svc.shadows decision shadowable) = .ok receipt)
    (hexport : svc.auditExporter receipt = .error e) :
    (svc.recordAndExport agent call decision shadowable).result = .error e := by
  rw [recordAndExport_eq, h, Traced.bind_of_ok (Traced.perform_result _ _), hexport]
  rfl

theorem recordAndExport_recorded {receipt : ExecutionReceipt}
    (h : svc.ledger agent call decision (!svc.shadows decision shadowable) = .ok receipt)
    (hexport : svc.auditExporter receipt = .ok ()) :
    svc.recordAndExport agent call decision shadowable =
      ⟨[.record agent call decision (!svc.shadows decision shadowable) (.ok receipt),
        .exportReceipt receipt (.ok ())], .ok (svc.outcomeOf call decision shadowable receipt)⟩ := by
  rw [recordAndExport_eq, h, Traced.bind_of_ok (Traced.perform_result _ _), hexport]
  rfl

theorem shadows_enforce (h : svc.decisionMode = .enforce) :
    svc.shadows decision shadowable = false := by
  simp [shadows, h]

theorem shadows_observe (h : svc.decisionMode = .observe) :
    svc.shadows decision shadowable = (shadowable && decision.decision == .deny) := by
  unfold shadows
  rw [h]
  cases decision.decision <;> simp

theorem sameButEnforcement {denied : Prop} {receipt receipt' : ExecutionReceipt}
    (henforce : strict.decisionMode = .enforce) (hobserve : lenient.decisionMode = .observe)
    (hdenied : denied ↔ shadowable = true ∧ decision.decision = .deny)
    (hdecision : receipt.decision = decision.decision)
    (hreceipt : receipt'.decision = receipt.decision ∧ receipt'.reason = receipt.reason ∧
      receipt'.payloadHash = receipt.payloadHash ∧ receipt'.previousHash = receipt.previousHash)
    (hflag : receipt.enforced = !strict.shadows decision shadowable)
    (hflag' : receipt'.enforced = !lenient.shadows decision shadowable) :
    SameButEnforcement denied (strict.outcomeOf call decision shadowable receipt)
      (lenient.outcomeOf call decision shadowable receipt') := by
  obtain ⟨hsame, hreason, hpayload, hprevious⟩ := hreceipt
  rw [shadows_enforce henforce] at hflag
  rw [shadows_observe hobserve] at hflag'
  refine ⟨rfl, rfl, hsame, hreason, hpayload, hprevious, ?_, ?_, ?_⟩ <;>
    simp only [outcomeOf, shadows_enforce henforce, shadows_observe hobserve, hflag, hflag', hsame,
      hdecision, hdenied] <;>
    cases shadowable <;> cases decision.decision <;> decide

/-- After one decision services that answer alike raise the same, or both record and export a receipt
of the same head. -/
theorem AnswerAlike.recordAndExport_cases {key : SigningKey} {head : String}
    (h : AnswerAlike key head strict lenient) (agent : AgentIdentity) (call : ToolCallRequest)
    (decision : PolicyDecision) (shadowable : Bool) :
    (∃ e, (strict.recordAndExport agent call decision shadowable).result = .error e ∧
        (lenient.recordAndExport agent call decision shadowable).result = .error e) ∨
      ∃ sequenceId timestamp sequenceId' timestamp',
        let receipt := (key.signed ⟨agent, call, decision, !strict.shadows decision shadowable⟩
          sequenceId timestamp head).toReceipt
        let receipt' := (key.signed ⟨agent, call, decision, !lenient.shadows decision shadowable⟩
          sequenceId' timestamp' head).toReceipt
        strict.recordAndExport agent call decision shadowable =
            ⟨[.record agent call decision receipt.enforced (.ok receipt),
              .exportReceipt receipt (.ok ())],
              .ok (strict.outcomeOf call decision shadowable receipt)⟩ ∧
          lenient.recordAndExport agent call decision shadowable =
            ⟨[.record agent call decision receipt'.enforced (.ok receipt'),
              .exportReceipt receipt' (.ok ())],
              .ok (lenient.outcomeOf call decision shadowable receipt')⟩ := by
  obtain ⟨e, hfail, hfail'⟩ | ⟨sequenceId, timestamp, sequenceId', timestamp', hrecord, hrecord'⟩ :=
    h.ledger agent call decision (!strict.shadows decision shadowable)
      (!lenient.shadows decision shadowable)
  · exact Or.inl ⟨e, recordAndExport_unrecorded hfail, recordAndExport_unrecorded hfail'⟩
  have hexporter := h.exporter _ _ _ _ _ _ _ hrecord hrecord'
  cases hexport : strict.auditExporter (key.signed ⟨agent, call, decision,
      !strict.shadows decision shadowable⟩ sequenceId timestamp head).toReceipt with
  | error e =>
    rw [hexport] at hexporter
    exact Or.inl ⟨e, recordAndExport_unexported hrecord hexport,
      recordAndExport_unexported hrecord' hexporter.symm⟩
  | ok u =>
    rw [hexport] at hexporter
    exact Or.inr ⟨sequenceId, timestamp, sequenceId', timestamp',
      recordAndExport_recorded hrecord hexport, recordAndExport_recorded hrecord' hexporter.symm⟩

/-- Observing instead of enforcing changes nothing up to the ledger, and after it only enforcement,
for the calls the engine refused. -/
theorem shadow_changes_enforcement_only (key : SigningKey) (head : String)
    (strict lenient : GovernedExecutionService) (halike : AnswerAlike key head strict lenient)
    (henforce : strict.decisionMode = .enforce) (hobserve : lenient.decisionMode = .observe)
    (headers : Headers) (payload : Dict) : EnforcementOnly strict lenient headers payload := by
  have hsame := halike.decideCall_eq headers payload
  have hstrict : strict.authorize headers payload = strict.decideCall headers payload >>= fun d =>
      strict.recordAndExport d.1 d.2.1 d.2.2.1 d.2.2.2 := authorizeCore_eq_bind
  have hlenient : lenient.authorize headers payload = strict.decideCall headers payload >>= fun d =>
      lenient.recordAndExport d.1 d.2.1 d.2.2.1 d.2.2.2 := hsame ▸ authorizeCore_eq_bind
  have hbefore : ∀ ev ∈ (strict.decideCall headers payload).trace, ev.isRecord = false :=
    fun ev hev => (decideCall_events ev hev).1
  cases hdecide : (strict.decideCall headers payload).result with
  | error e =>
    rw [Traced.bind_of_error hdecide] at hstrict hlenient
    refine ⟨fun e' => ?_, ?_, fun outcome outcome' h => ?_⟩
    · rw [hstrict, hlenient]
    · rw [hstrict, hlenient]
    · rw [hstrict] at h
      cases h
  | ok d =>
    obtain ⟨agent, call, decision, shadowable⟩ := d
    rw [Traced.bind_of_ok hdecide] at hstrict hlenient
    obtain ⟨events, hdecided⟩ := decideCall_ok hdecide
    have hrecords : ((strict.authorize headers payload).trace.filter Event.isRecord).length =
        ((lenient.authorize headers payload).trace.filter Event.isRecord).length := by
      rw [hstrict, hlenient, List.filter_append, List.filter_append, recordAndExport_filter,
        recordAndExport_filter, List.length_append, List.length_append]
      rfl
    obtain ⟨e, hfail, hfail'⟩ | ⟨sequenceId, timestamp, sequenceId', timestamp', hrun, hrun'⟩ :=
      halike.recordAndExport_cases agent call decision shadowable
    · refine ⟨fun e' => ?_, hrecords, fun outcome outcome' h => ?_⟩
      · rw [hstrict, hlenient, hfail, hfail']
      · rw [hstrict, hfail] at h
        cases h
    · rw [hrun] at hstrict
      rw [hrun'] at hlenient
      refine ⟨fun e' => ?_, hrecords, fun outcome outcome' h h' => ?_⟩
      · rw [hstrict, hlenient]
        exact iff_of_false nofun nofun
      rw [hstrict] at h
      rw [hlenient] at h'
      cases h
      cases h'
      refine ⟨⟨(strict.decideCall headers payload).trace, agent, ⟨hbefore, ?_⟩, hbefore, ?_⟩, ?_⟩
      · rw [hstrict]
        rfl
      · rw [hlenient]
        rfl
      · have hdenied : strict.EngineDenied call ↔ shadowable = true ∧ decision.decision = .deny :=
          hdecided.engineDenied_iff
        exact sameButEnforcement henforce hobserve hdenied rfl ⟨rfl, rfl, rfl, rfl⟩ rfl rfl

/-- A service whose engine refuses and whose ledger signs at the start of a chain. -/
def refusing (mode : DecisionMode) : GovernedExecutionService :=
  { fixed fixedAgent (some fixedRecord) ⟨.deny, "refused"⟩ with
    decisionMode := mode
    ledger := fun agent call decision enforced =>
      .ok (LedgerConfig.echoKey.signed ⟨agent, call, decision, enforced⟩ "receipt-1" utcEpoch
        genesisHash).toReceipt }

theorem refusing_answerAlike :
    AnswerAlike LedgerConfig.echoKey genesisHash (refusing .enforce) (refusing .observe) where
  identity := rfl
  registry := rfl
  engine := rfl
  verifier := rfl
  binding := rfl
  ledger := fun _ _ _ _ _ => Or.inr ⟨"receipt-1", utcEpoch, "receipt-1", utcEpoch, rfl, rfl⟩
  exporter := fun _ _ _ _ _ _ _ _ _ => rfl

theorem refusing_enforcementOnly :
    EnforcementOnly (refusing .enforce) (refusing .observe) [] [("method", .str "tools/call")] :=
  shadow_changes_enforcement_only LedgerConfig.echoKey genesisHash (refusing .enforce)
    (refusing .observe) refusing_answerAlike rfl rfl [] [("method", .str "tools/call")]

/-- The same, before callers that it cannot identify. -/
def unidentified (mode : DecisionMode) : GovernedExecutionService :=
  { refusing mode with
    identityProvider := fun _ => .error (.identity "missing required 'x-spiffe-id' header") }

/-- A caller that is not identified leaves no receipt in either mode. -/
theorem unidentified_unrecorded :
    ¬ ((((unidentified .enforce).authorize [] [("method", .str "tools/list")]).trace.filter
          Event.isRecord).length = 1 ∧
        (((unidentified .observe).authorize [] [("method", .str "tools/list")]).trace.filter
          Event.isRecord).length = 1) := by
  decide

end GovernedExecutionService

end OpenAgentControl
