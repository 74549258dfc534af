import OpenAgentControl.Application.GovernedExecution

/-! # What a run of the gateway did

One inversion for each stage, and the runs of the shared half assembled from them: an
`AuthorizedRun` is everything a run that returned an outcome called and was answered, in order.
`authorizeCore_ok` and `AuthorizedRun.authorizeCore_eq` say that these are exactly the runs that
return; `forward_inv` takes apart a run that reached the upstream. -/

namespace OpenAgentControl
set_option autoImplicit false
set_option maxHeartbeats 250000

open Foundations

theorem buildCall_ok {payload : Dict} {agent : AgentIdentity}
    {registration : Option RegisteredAgent} {call : ToolCallRequest}
    (h : buildCall payload agent registration = .ok call) :
    call.agent = agent ∧ call.registration = registration ∧ call.subject = none := by
  unfold buildCall at h
  obtain ⟨params, -, h⟩ := bind_except_ok h
  obtain ⟨method, -, h⟩ := bind_except_ok h
  obtain ⟨toolName, -, h⟩ := bind_except_ok h
  obtain ⟨arguments, -, h⟩ := bind_except_ok h
  obtain ⟨requestId, -, h⟩ := bind_except_ok h
  cases h
  exact ⟨rfl, rfl, rfl⟩

namespace GovernedExecutionService

variable {svc : GovernedExecutionService} {headers : Headers} {payload : Dict}
  {agent : AgentIdentity} {built call : ToolCallRequest}

/-! ## The subject -/

/-- The ways the subject of a call is settled, with the events each one leaves. -/
inductive Resolved (svc : GovernedExecutionService) (headers : Headers) (agent : AgentIdentity)
    (built : ToolCallRequest) : ToolCallRequest → List Event → Prop
  | autonomous (h : svc.subjectVerifier = none ∨ subjectToken headers = "") :
      Resolved svc headers agent built built []
  | delegated (verify : SubjectVerifier) (subject : SubjectIdentity)
      (hverifier : svc.subjectVerifier = some verify) (htoken : subjectToken headers ≠ "")
      (hverify : verify (subjectToken headers) = .ok subject)
      (hbind : bindSubject agent subject svc.subjectBinding = .ok ()) :
      Resolved svc headers agent built { built with subject := some subject }
        [.verify (subjectToken headers) (.ok subject)]

theorem resolveSubject_autonomous
    (h : svc.subjectVerifier = none ∨ subjectToken headers = "") :
    svc.resolveSubject headers agent built = pure built := by
  unfold resolveSubject
  cases hv : svc.subjectVerifier with
  | none => rfl
  | some verify =>
    obtain hnone | htoken := h
    · rw [hv] at hnone
      cases hnone
    · exact if_pos htoken

theorem resolveSubject_delegated {verify : SubjectVerifier}
    (hverifier : svc.subjectVerifier = some verify) (htoken : subjectToken headers ≠ "") :
    svc.resolveSubject headers agent built = (do
      let subject ← Traced.perform (.verify (subjectToken headers)) (verify (subjectToken headers))
      Traced.ofExcept (bindSubject agent subject svc.subjectBinding)
      return { built with subject := some subject }) := by
  unfold resolveSubject
  rw [hverifier]
  exact if_neg htoken

theorem resolveSubject_ok (h : (svc.resolveSubject headers agent built).result = .ok call) :
    Resolved svc headers agent built call (svc.resolveSubject headers agent built).trace := by
  by_cases hauto : svc.subjectVerifier = none ∨ subjectToken headers = ""
  · rw [resolveSubject_autonomous hauto] at h ⊢
    cases h
    exact .autonomous hauto
  · rw [not_or] at hauto
    obtain ⟨verify, hverifier⟩ := Option.ne_none_iff_exists'.mp hauto.1
    rw [resolveSubject_delegated hverifier hauto.2] at h ⊢
    obtain ⟨subject, hverify, h, htrace⟩ := Traced.bind_ok h
    obtain ⟨⟨⟩, hbind, h, htrace'⟩ := Traced.bind_ok h
    cases h
    rw [htrace, htrace']
    simp only [Traced.perform_trace, Traced.perform_result, Traced.ofExcept_trace] at hverify ⊢
    rw [hverify]
    exact .delegated verify subject hverifier hauto.2 hverify hbind

theorem Resolved.resolveSubject_eq {events : List Event}
    (h : Resolved svc headers agent built call events) :
    svc.resolveSubject headers agent built = ⟨events, .ok call⟩ := by
  cases h with
  | autonomous h => exact resolveSubject_autonomous h
  | delegated verify subject hverifier htoken hverify hbind =>
    rw [resolveSubject_delegated hverifier htoken, Traced.bind_of_ok hverify]
    simp only [Traced.perform_trace, hverify]
    rw [Traced.bind_of_ok hbind]
    rfl

theorem Resolved.frame {agent : AgentIdentity} {built call : ToolCallRequest}
    {events : List Event} (h : Resolved svc headers agent built call events) :
    call = { built with subject := call.subject } ∧
      ∀ ev ∈ events, ∃ token answer, ev = .verify token answer := by
  cases h with
  | autonomous h => exact ⟨rfl, fun ev hev => absurd hev List.not_mem_nil⟩
  | delegated verify subject hverifier htoken hverify hbind =>
    exact ⟨rfl, fun ev hev => ⟨_, _, List.mem_singleton.mp hev⟩⟩

theorem resolveSubject_events :
    ∀ ev ∈ (svc.resolveSubject headers agent built).trace, ∃ token answer,
      ev = .verify token answer := by
  intro ev hev
  by_cases hauto : svc.subjectVerifier = none ∨ subjectToken headers = ""
  · rw [resolveSubject_autonomous hauto] at hev
    cases hev
  · rw [not_or] at hauto
    obtain ⟨verify, hverifier⟩ := Option.ne_none_iff_exists'.mp hauto.1
    rw [resolveSubject_delegated hverifier hauto.2, Traced.mem_bind] at hev
    obtain hev | ⟨subject, -, hev⟩ := hev
    · exact ⟨_, _, List.mem_singleton.mp hev⟩
    · obtain hev | ⟨u, -, hev⟩ := Traced.mem_bind.mp hev
      · cases hev
      · cases hev

/-! ## The decision -/

/-- Where a decision comes from, whether it can be softened, and the events it leaves. -/
inductive Decided (svc : GovernedExecutionService) (call : ToolCallRequest) :
    PolicyDecision → Bool → List Event → Prop
  | orphan (h : call.registration = none) :
      Decided svc call ⟨.deny, orphanReason⟩ false []
  | inactive (record : RegisteredAgent) (h : call.registration = some record)
      (hstatus : record.status ≠ .active) :
      Decided svc call ⟨.deny, "Agent is " ++ record.status.value ++ " in the Agent Registry"⟩
        false []
  | outage (record : RegisteredAgent) (message : String) (h : call.registration = some record)
      (hstatus : record.status = .active)
      (hengine : svc.policyEngine call = .error (.policyEngineUnavailable message)) :
      Decided svc call ⟨.deny, failClosedReason⟩ false
        [.evaluate call (.error (.policyEngineUnavailable message))]
  | engine (record : RegisteredAgent) (decision : PolicyDecision)
      (h : call.registration = some record) (hstatus : record.status = .active)
      (hengine : svc.policyEngine call = .ok decision) :
      Decided svc call decision true [.evaluate call (.ok decision)]

theorem policyEvaluate_active {record : RegisteredAgent} (h : call.registration = some record)
    (hstatus : record.status = .active) :
    svc.policyEvaluate call =
      match svc.policyEngine call with
      | .ok decision => ⟨[.evaluate call (.ok decision)], .ok (decision, true)⟩
      | .error (.policyEngineUnavailable message) =>
        ⟨[.evaluate call (.error (.policyEngineUnavailable message))],
          .ok (⟨.deny, failClosedReason⟩, false)⟩
      | .error e => ⟨[.evaluate call (.error e)], .error e⟩ := by
  unfold policyEvaluate
  rw [h]
  simp only [hstatus, ne_eq, not_true_eq_false, if_false]
  rw [Traced.bind_of_ok (Traced.attempt_result _)]
  cases svc.policyEngine call with
  | ok decision => rfl
  | error e =>
    cases e with
    | policyEngineUnavailable message => rfl
    | _ => rfl

theorem policyEvaluate_ok {decision : PolicyDecision} {shadowable : Bool}
    (h : (svc.policyEvaluate call).result = .ok (decision, shadowable)) :
    Decided svc call decision shadowable (svc.policyEvaluate call).trace := by
  cases hreg : call.registration with
  | none =>
    have heq : svc.policyEvaluate call = pure (⟨.deny, orphanReason⟩, false) := by
      unfold policyEvaluate
      rw [hreg]
    rw [heq] at h ⊢
    cases h
    exact .orphan hreg
  | some record =>
    by_cases hstatus : record.status = .active
    · rw [policyEvaluate_active hreg hstatus] at h ⊢
      cases hengine : svc.policyEngine call with
      | ok d =>
        rw [hengine] at h
        cases h
        exact .engine record _ hreg hstatus hengine
      | error e =>
        rw [hengine] at h
        cases e with
        | policyEngineUnavailable message =>
          cases h
          exact .outage record message hreg hstatus hengine
        | _ => cases h
    · have heq : svc.policyEvaluate call =
          pure (⟨.deny, "Agent is " ++ record.status.value ++ " in the Agent Registry"⟩,
            false) := by
        unfold policyEvaluate
        rw [hreg]
        exact if_pos hstatus
      rw [heq] at h ⊢
      cases h
      exact .inactive record hreg hstatus

theorem Decided.policyEvaluate_eq {decision : PolicyDecision} {shadowable : Bool}
    {events : List Event} (h : Decided svc call decision shadowable events) :
    svc.policyEvaluate call = ⟨events, .ok (decision, shadowable)⟩ := by
  cases h with
  | orphan h =>
    unfold policyEvaluate
    rw [h]
    rfl
  | inactive record h hstatus =>
    unfold policyEvaluate
    rw [h]
    exact if_pos hstatus
  | outage record message h hstatus hengine => rw [policyEvaluate_active h hstatus, hengine]
  | engine record decision h hstatus hengine => rw [policyEvaluate_active h hstatus, hengine]

theorem policyEvaluate_error {e : Exc} (h : (svc.policyEvaluate call).result = .error e) :
    .evaluate call (svc.policyEngine call) ∈ (svc.policyEvaluate call).trace := by
  cases hreg : call.registration with
  | none =>
    rw [(Decided.orphan hreg).policyEvaluate_eq] at h
    cases h
  | some record =>
    by_cases hstatus : record.status = .active
    · rw [policyEvaluate_active hreg hstatus]
      cases svc.policyEngine call with
      | ok decision => exact List.mem_singleton_self _
      | error e =>
        cases e with
        | _ => exact List.mem_singleton_self _
    · rw [(Decided.inactive record hreg hstatus).policyEvaluate_eq] at h
      cases h

theorem policyEvaluate_events :
    ∀ ev ∈ (svc.policyEvaluate call).trace, ev = .evaluate call (svc.policyEngine call) := by
  intro ev hev
  cases hreg : call.registration with
  | none =>
    unfold policyEvaluate at hev
    rw [hreg] at hev
    cases hev
  | some record =>
    by_cases hstatus : record.status = .active
    · rw [policyEvaluate_active hreg hstatus] at hev
      cases hengine : svc.policyEngine call with
      | ok d =>
        rw [hengine] at hev
        exact List.mem_singleton.mp hev
      | error e =>
        rw [hengine] at hev
        cases e with
        | _ => exact List.mem_singleton.mp hev
    · unfold policyEvaluate at hev
      rw [hreg] at hev
      simp [hstatus] at hev

theorem policyEvaluate_asked {ev : Event} (h : ev ∈ (svc.policyEvaluate call).trace) :
    ∃ record, call.registration = some record ∧ record.status = .active := by
  cases hreg : call.registration with
  | none =>
    rw [(Decided.orphan hreg).policyEvaluate_eq] at h
    cases h
  | some record =>
    by_cases hstatus : record.status = .active
    · exact ⟨record, rfl, hstatus⟩
    · rw [(Decided.inactive record hreg hstatus).policyEvaluate_eq] at h
      cases h

theorem Decided.events_eq {call : ToolCallRequest} {decision : PolicyDecision} {shadowable : Bool}
    {events : List Event} (h : Decided svc call decision shadowable events) :
    ∀ ev ∈ events, ev = .evaluate call (svc.policyEngine call) := by
  have htrace : (svc.policyEvaluate call).trace = events := by rw [h.policyEvaluate_eq]
  exact htrace ▸ policyEvaluate_events

/-! ## The shared half -/

/-- Shadow mode: a deny of the engine itself that observe mode does not enforce. -/
def shadows (svc : GovernedExecutionService) (decision : PolicyDecision) (shadowable : Bool) :
    Bool :=
  shadowable && svc.decisionMode == .observe && decision.decision != .allow

theorem recordAndExport_eq {decision : PolicyDecision} {shadowable : Bool} :
    svc.recordAndExport agent call decision shadowable = (do
      let receipt ← Traced.perform (.record agent call decision (!svc.shadows decision shadowable))
        (svc.ledger agent call decision (!svc.shadows decision shadowable))
      Traced.perform (.exportReceipt receipt) (svc.auditExporter receipt)
      return {
        allowed := decision.decision == .allow || svc.shadows decision shadowable
        decision, receipt, call
        shadowed := svc.shadows decision shadowable }) := rfl

theorem gate_trace_ne_nil :
    (svc.policyEvaluate call >>= fun d => svc.recordAndExport agent call d.1 d.2).trace ≠ [] := by
  cases h : (svc.policyEvaluate call).result with
  | error e =>
    exact List.ne_nil_of_mem (Traced.mem_bind.mpr (Or.inl (policyEvaluate_error h)))
  | ok d =>
    have hrecord : .record agent call d.1 (!svc.shadows d.1 d.2)
          (svc.ledger agent call d.1 (!svc.shadows d.1 d.2)) ∈
        (svc.recordAndExport agent call d.1 d.2).trace := by
      rw [recordAndExport_eq]
      exact Traced.mem_bind.mpr (Or.inl (List.mem_singleton_self _))
    exact List.ne_nil_of_mem (Traced.mem_bind.mpr (Or.inr ⟨d, h, hrecord⟩))

/-- A run of the shared half that returned: what each stage was answered. -/
structure AuthorizedRun (svc : GovernedExecutionService) (headers : Headers) (payload : Dict) where
  agent : AgentIdentity
  registration : Option RegisteredAgent
  built : ToolCallRequest
  call : ToolCallRequest
  subjectEvents : List Event
  decision : PolicyDecision
  shadowable : Bool
  policyEvents : List Event
  receipt : ExecutionReceipt
  identified : svc.identityProvider headers = .ok agent
  looked : svc.agentRegistry agent.spiffeId = .ok registration
  builtOk : buildCall payload agent registration = .ok built
  resolved : Resolved svc headers agent built call subjectEvents
  decided : Decided svc call decision shadowable policyEvents
  recorded : svc.ledger agent call decision (!svc.shadows decision shadowable) = .ok receipt
  exported : svc.auditExporter receipt = .ok ()

namespace AuthorizedRun

variable (run : svc.AuthorizedRun headers payload)

def enforced : Bool := !svc.shadows run.decision run.shadowable

def outcome : AuthorizationOutcome where
  allowed := run.decision.decision == .allow || svc.shadows run.decision run.shadowable
  decision := run.decision
  receipt := run.receipt
  call := run.call
  shadowed := svc.shadows run.decision run.shadowable

def trace : List Event :=
  .identify headers (.ok run.agent) ::
    .lookup run.agent.spiffeId (.ok run.registration) ::
      (run.subjectEvents ++ (run.policyEvents ++
        [.record run.agent run.call run.decision run.enforced (.ok run.receipt),
          .exportReceipt run.receipt (.ok ())]))

theorem authorizeCore_eq : svc.authorizeCore headers payload = ⟨run.trace, .ok run.outcome⟩ := by
  unfold authorizeCore
  rw [Traced.bind_of_ok run.identified, Traced.bind_of_ok run.looked,
    Traced.bind_of_ok run.builtOk, run.resolved.resolveSubject_eq, Traced.bind_of_ok rfl,
    run.decided.policyEvaluate_eq, Traced.bind_of_ok rfl]
  simp only [recordAndExport_eq]
  rw [Traced.bind_of_ok run.recorded, Traced.bind_of_ok run.exported]
  simp [trace, outcome, enforced, Traced.perform, run.identified, run.looked, run.recorded,
    run.exported]

theorem call_agent : run.call.agent = run.agent := by
  rw [run.resolved.frame.1]
  exact (buildCall_ok run.builtOk).1

theorem call_registration : run.call.registration = run.registration := by
  rw [run.resolved.frame.1]
  exact (buildCall_ok run.builtOk).2.1

/-- Only the engine's own answer lets a call through: an allow, or a deny in observe mode. -/
theorem allowed_inv (h : run.outcome.allowed = true) :
    (∃ record, run.registration = some record ∧ record.status = .active) ∧
      run.policyEvents = [.evaluate run.call (.ok run.decision)] ∧
      (run.decision.decision = .allow ∧ run.enforced = true ∨
        svc.decisionMode = .observe ∧ run.decision.decision = .deny ∧ run.enforced = false) := by
  have hreg := run.call_registration
  have hallow : run.decision.decision = .allow ∨
      svc.shadows run.decision run.shadowable = true := by
    simpa [outcome] using h
  have hflag : run.shadowable = true →
      run.decision.decision = .allow ∧ run.enforced = true ∨
        svc.decisionMode = .observe ∧ run.decision.decision = .deny ∧ run.enforced = false := by
    intro hshadowable
    cases hd : run.decision.decision with
    | allow => exact Or.inl ⟨rfl, by simp [enforced, shadows, hd]⟩
    | deny =>
      obtain habs | hshadow := hallow
      · rw [hd] at habs
        cases habs
      · have hobserve : svc.decisionMode = .observe := by
          simp [shadows, hshadowable, hd] at hshadow
          exact hshadow
        exact Or.inr ⟨hobserve, rfl, by simp [enforced, hshadow]⟩
  have hcases := run.decided
  generalize hdec : run.decision = decision at hcases hallow hflag ⊢
  generalize hsh : run.shadowable = shadowable at hcases hallow hflag
  generalize run.policyEvents = events at hcases ⊢
  cases hcases with
  | orphan h => simp [shadows] at hallow
  | inactive record h hstatus => simp [shadows] at hallow
  | outage record message h hstatus hengine => simp [shadows] at hallow
  | engine record decision h hstatus hengine =>
    exact ⟨⟨record, by rw [← hreg, h], hstatus⟩, rfl, hflag rfl⟩

/-- The events of a run of a kind that the subject and policy stages do not leave. -/
theorem filter_trace {kind : Event → Bool}
    (hverify : ∀ token answer, kind (.verify token answer) = false)
    (hevaluate : ∀ call answer, kind (.evaluate call answer) = false) :
    run.trace.filter kind =
      [.identify headers (.ok run.agent), .lookup run.agent.spiffeId (.ok run.registration),
        .record run.agent run.call run.decision run.enforced (.ok run.receipt),
        .exportReceipt run.receipt (.ok ())].filter kind := by
  have hsubject : run.subjectEvents.filter kind = [] := by
    rw [List.filter_eq_nil_iff]
    intro ev hev
    obtain ⟨token, answer, rfl⟩ := run.resolved.frame.2 ev hev
    rw [hverify]
    exact Bool.false_ne_true
  have hpolicy : run.policyEvents.filter kind = [] := by
    rw [List.filter_eq_nil_iff]
    intro ev hev
    rw [run.decided.events_eq ev hev, hevaluate]
    exact Bool.false_ne_true
  simp [trace, List.filter_cons, List.filter_append, hsubject, hpolicy]

theorem filter_isRecord : run.trace.filter Event.isRecord =
    [.record run.agent run.call run.decision run.enforced (.ok run.receipt)] := by
  rw [run.filter_trace (fun _ _ => rfl) (fun _ _ => rfl)]
  rfl

theorem filter_isExport : run.trace.filter Event.isExport =
    [.exportReceipt run.receipt (.ok ())] := by
  rw [run.filter_trace (fun _ _ => rfl) (fun _ _ => rfl)]
  rfl

end AuthorizedRun

theorem authorizeCore_ok {outcome : AuthorizationOutcome}
    (h : (svc.authorizeCore headers payload).result = .ok outcome) :
    ∃ run : svc.AuthorizedRun headers payload, outcome = run.outcome ∧
      (svc.authorizeCore headers payload).trace = run.trace := by
  have horig := h
  unfold authorizeCore at h
  obtain ⟨agent, hidentify, h, -⟩ := Traced.bind_ok h
  obtain ⟨registration, hlookup, h, -⟩ := Traced.bind_ok h
  obtain ⟨built, hbuilt, h, -⟩ := Traced.bind_ok h
  obtain ⟨call, hresolve, h, -⟩ := Traced.bind_ok h
  obtain ⟨⟨decision, shadowable⟩, hdecide, h, -⟩ := Traced.bind_ok h
  simp only [recordAndExport_eq] at h
  obtain ⟨receipt, hrecord, h, -⟩ := Traced.bind_ok h
  obtain ⟨⟨⟩, hexport, h, -⟩ := Traced.bind_ok h
  obtain ⟨run⟩ : Nonempty (svc.AuthorizedRun headers payload) := ⟨{
    agent, registration, built, call, decision, shadowable, receipt
    subjectEvents := _
    policyEvents := _
    identified := hidentify
    looked := hlookup
    builtOk := hbuilt
    resolved := resolveSubject_ok hresolve
    decided := policyEvaluate_ok hdecide
    recorded := hrecord
    exported := hexport }⟩
  refine ⟨run, ?_, ?_⟩
  · rw [run.authorizeCore_eq] at horig
    exact (Except.ok.inj horig).symm
  · rw [run.authorizeCore_eq]

/-- The calls of the shared half, whether it returned or raised: none of them brokers a credential
or forwards. -/
theorem authorizeCore_events :
    ∀ ev ∈ (svc.authorizeCore headers payload).trace,
      ev.isExchange = false ∧ ev.isForward = false := by
  intro ev hev
  unfold authorizeCore at hev
  obtain hev | ⟨agent, -, hev⟩ := Traced.mem_bind.mp hev
  · rw [List.mem_singleton.mp hev]
    exact ⟨rfl, rfl⟩
  obtain hev | ⟨registration, -, hev⟩ := Traced.mem_bind.mp hev
  · rw [List.mem_singleton.mp hev]
    exact ⟨rfl, rfl⟩
  obtain hev | ⟨built, -, hev⟩ := Traced.mem_bind.mp hev
  · cases hev
  obtain hev | ⟨call, -, hev⟩ := Traced.mem_bind.mp hev
  · obtain ⟨token, answer, rfl⟩ := resolveSubject_events ev hev
    exact ⟨rfl, rfl⟩
  obtain hev | ⟨⟨decision, shadowable⟩, -, hev⟩ := Traced.mem_bind.mp hev
  · rw [policyEvaluate_events ev hev]
    exact ⟨rfl, rfl⟩
  obtain hev | ⟨receipt, -, hev⟩ := Traced.mem_bind.mp hev
  · rw [List.mem_singleton.mp hev]
    exact ⟨rfl, rfl⟩
  obtain hev | ⟨⟨⟩, -, hev⟩ := Traced.mem_bind.mp hev
  · rw [List.mem_singleton.mp hev]
    exact ⟨rfl, rfl⟩
  · cases hev

/-! ## Up to the decision -/

/-- The shared half before the ledger: who calls, what was decided on which call, and whether shadow
mode may soften it. -/
def decideCall (svc : GovernedExecutionService) (headers : Headers) (payload : Dict) :
    Traced Event Exc (AgentIdentity × ToolCallRequest × PolicyDecision × Bool) := do
  let agent ← Traced.perform (.identify headers) (svc.identityProvider headers)
  let registration ← Traced.perform (.lookup agent.spiffeId) (svc.agentRegistry agent.spiffeId)
  let call ← Traced.ofExcept (buildCall payload agent registration)
  let call ← svc.resolveSubject headers agent call
  let (decision, shadowable) ← svc.policyEvaluate call
  return (agent, call, decision, shadowable)

theorem authorizeCore_eq_bind :
    svc.authorizeCore headers payload = svc.decideCall headers payload >>= fun d =>
      svc.recordAndExport d.1 d.2.1 d.2.2.1 d.2.2.2 := by
  simp only [authorizeCore, decideCall, bind_assoc, pure_bind]

theorem decideCall_of_resolved {registration : Option RegisteredAgent} {events : List Event}
    (hidentify : svc.identityProvider headers = .ok agent)
    (hlookup : svc.agentRegistry agent.spiffeId = .ok registration)
    (hbuilt : buildCall payload agent registration = .ok built)
    (hresolved : Resolved svc headers agent built call events) :
    svc.decideCall headers payload =
      ⟨.identify headers (.ok agent) :: .lookup agent.spiffeId (.ok registration) ::
          (events ++ (svc.policyEvaluate call).trace),
        (svc.policyEvaluate call).result.map fun d => (agent, call, d.1, d.2)⟩ := by
  unfold decideCall
  rw [Traced.bind_of_ok hidentify, Traced.bind_of_ok hlookup, Traced.bind_of_ok hbuilt,
    hresolved.resolveSubject_eq, Traced.bind_of_ok rfl]
  cases hdecide : (svc.policyEvaluate call).result with
  | ok d =>
    rw [Traced.bind_of_ok hdecide]
    simp [Traced.perform, hidentify, hlookup, Except.map]
  | error e =>
    rw [Traced.bind_of_error hdecide]
    simp [Traced.perform, hidentify, hlookup, Except.map]

theorem decideCall_events :
    ∀ ev ∈ (svc.decideCall headers payload).trace,
      ev.isRecord = false ∧ ev.isExport = false := by
  intro ev hev
  unfold decideCall at hev
  obtain hev | ⟨agent, -, hev⟩ := Traced.mem_bind.mp hev
  · rw [List.mem_singleton.mp hev]
    exact ⟨rfl, rfl⟩
  obtain hev | ⟨registration, -, hev⟩ := Traced.mem_bind.mp hev
  · rw [List.mem_singleton.mp hev]
    exact ⟨rfl, rfl⟩
  obtain hev | ⟨built, -, hev⟩ := Traced.mem_bind.mp hev
  · cases hev
  obtain hev | ⟨call, -, hev⟩ := Traced.mem_bind.mp hev
  · obtain ⟨token, answer, rfl⟩ := resolveSubject_events ev hev
    exact ⟨rfl, rfl⟩
  obtain hev | ⟨⟨decision, shadowable⟩, -, hev⟩ := Traced.mem_bind.mp hev
  · rw [policyEvaluate_events ev hev]
    exact ⟨rfl, rfl⟩
  · cases hev

theorem recordAndExport_filter {decision : PolicyDecision} {shadowable : Bool} :
    (svc.recordAndExport agent call decision shadowable).trace.filter Event.isRecord =
      [.record agent call decision (!svc.shadows decision shadowable)
        (svc.ledger agent call decision (!svc.shadows decision shadowable))] := by
  rw [recordAndExport_eq]
  cases svc.ledger agent call decision (!svc.shadows decision shadowable) with
  | error e => rfl
  | ok receipt =>
    rw [Traced.bind_of_ok (Traced.perform_result _ _)]
    cases svc.auditExporter receipt with
    | error e => rfl
    | ok u => rfl

/-- A run records exactly when it reaches a decision, and then once. -/
theorem authorizeCore_filter_isRecord :
    (svc.authorizeCore headers payload).trace.filter Event.isRecord =
      match (svc.decideCall headers payload).result with
      | .ok (agent, call, decision, shadowable) =>
        [.record agent call decision (!svc.shadows decision shadowable)
          (svc.ledger agent call decision (!svc.shadows decision shadowable))]
      | .error _ => [] := by
  have hbefore : (svc.decideCall headers payload).trace.filter Event.isRecord = [] := by
    rw [List.filter_eq_nil_iff]
    intro ev hev
    rw [(decideCall_events ev hev).1]
    exact Bool.false_ne_true
  rw [authorizeCore_eq_bind]
  cases hdecide : (svc.decideCall headers payload).result with
  | error e => rw [Traced.bind_of_error hdecide, hbefore]
  | ok d =>
    rw [Traced.bind_of_ok hdecide, List.filter_append, hbefore, List.nil_append,
      recordAndExport_filter]

theorem evaluate_inv {answer : Except Exc PolicyDecision}
    (h : .evaluate call answer ∈ (svc.authorizeCore headers payload).trace) :
    ∃ agent registration built events, svc.identityProvider headers = .ok agent ∧
      svc.agentRegistry agent.spiffeId = .ok registration ∧
      buildCall payload agent registration = .ok built ∧
      Resolved svc headers agent built call events ∧
      .evaluate call answer ∈ (svc.policyEvaluate call).trace := by
  unfold authorizeCore at h
  obtain hev | ⟨agent, hidentify, h⟩ := Traced.mem_bind.mp h
  · cases List.mem_singleton.mp hev
  obtain hev | ⟨registration, hlookup, h⟩ := Traced.mem_bind.mp h
  · cases List.mem_singleton.mp hev
  obtain hev | ⟨built, hbuilt, h⟩ := Traced.mem_bind.mp h
  · cases hev
  obtain hev | ⟨resolved, hresolve, h⟩ := Traced.mem_bind.mp h
  · obtain ⟨token, answer, heq⟩ := resolveSubject_events _ hev
    cases heq
  obtain hev | ⟨⟨decision, shadowable⟩, -, h⟩ := Traced.mem_bind.mp h
  · have hasked := hev
    cases policyEvaluate_events _ hev
    exact ⟨agent, registration, built, _, hidentify, hlookup, hbuilt, resolveSubject_ok hresolve,
      hasked⟩
  obtain hev | ⟨receipt, -, h⟩ := Traced.mem_bind.mp h
  · cases List.mem_singleton.mp hev
  obtain hev | ⟨⟨⟩, -, hev⟩ := Traced.mem_bind.mp h
  · cases List.mem_singleton.mp hev
  · cases hev

/-! ## Brokering and forwarding -/

/-- The credential of a call, with the events brokering it leaves. -/
inductive Brokered (svc : GovernedExecutionService) (agent : AgentIdentity) (headers : Headers) :
    String → List Event → Prop
  | sponsored (sponsor credential : String) (hsponsor : present agent.humanSponsor = some sponsor)
      (htoken : subjectToken headers ≠ "")
      (hexchange : svc.tokenExchange (subjectToken headers) svc.delegatedAudience = .ok credential) :
      Brokered svc agent headers credential
        [.exchange (subjectToken headers) svc.delegatedAudience (.ok credential)]
  | bearer (token credential : String) (hsponsor : present agent.humanSponsor = none)
      (hbearer : bearerToken headers = some token)
      (hexchange : svc.tokenExchange token svc.delegatedAudience = .ok credential) :
      Brokered svc agent headers credential
        [.exchange token svc.delegatedAudience (.ok credential)]
  | placeholder (hsponsor : present agent.humanSponsor = none)
      (hbearer : bearerToken headers = none) :
      Brokered svc agent headers (autonomousPlaceholder agent) []

theorem Brokered.events_exchange {agent : AgentIdentity} {credential : String}
    {events : List Event} (h : Brokered svc agent headers credential events) :
    ∀ ev ∈ events, ev.isExchange = true := by
  intro ev hev
  cases h with
  | sponsored sponsor credential hsponsor htoken hexchange =>
    rw [List.mem_singleton.mp hev]
    rfl
  | bearer token credential hsponsor hbearer hexchange =>
    rw [List.mem_singleton.mp hev]
    rfl
  | placeholder hsponsor hbearer => cases hev

theorem exchange_ok {token credential : String} (h : (svc.exchange token).result = .ok credential) :
    svc.tokenExchange token svc.delegatedAudience = .ok credential ∧
      (svc.exchange token).trace = [.exchange token svc.delegatedAudience (.ok credential)] := by
  have hexchange : svc.tokenExchange token svc.delegatedAudience = .ok credential := h
  refine ⟨hexchange, ?_⟩
  rw [exchange, Traced.perform_trace, hexchange]

theorem brokerCredential_ok {credential : String}
    (h : (svc.brokerCredential agent headers).result = .ok credential) :
    Brokered svc agent headers credential (svc.brokerCredential agent headers).trace := by
  unfold brokerCredential at h ⊢
  cases hsponsor : present agent.humanSponsor with
  | some sponsor =>
    simp only [hsponsor] at h ⊢
    split_ifs at h ⊢ with htoken
    · cases h
    · obtain ⟨hexchange, htrace⟩ := exchange_ok h
      rw [htrace]
      exact .sponsored sponsor credential hsponsor htoken hexchange
  | none =>
    simp only [hsponsor] at h ⊢
    cases hbearer : bearerToken headers with
    | none =>
      simp only [hbearer] at h ⊢
      cases h
      exact .placeholder hsponsor hbearer
    | some token =>
      simp only [hbearer] at h ⊢
      obtain ⟨hexchange, htrace⟩ := exchange_ok h
      rw [htrace]
      exact .bearer token credential hsponsor hbearer hexchange

/-- A sponsored agent without a subject token is refused before anything is exchanged. -/
theorem brokerCredential_missing {sponsor : String}
    (hsponsor : present agent.humanSponsor = some sponsor) (htoken : subjectToken headers = "") :
    svc.brokerCredential agent headers = Traced.raise (missingSubjectToken sponsor) := by
  unfold brokerCredential
  simp only [hsponsor, htoken, if_true]

theorem brokerCredential_events :
    ∀ ev ∈ (svc.brokerCredential agent headers).trace, ev.isExchange = true := by
  intro ev hev
  unfold brokerCredential at hev
  cases hsponsor : present agent.humanSponsor with
  | some sponsor =>
    simp only [hsponsor] at hev
    split_ifs at hev with htoken
    · cases hev
    · rw [List.mem_singleton.mp hev]
      rfl
  | none =>
    simp only [hsponsor] at hev
    cases hbearer : bearerToken headers with
    | none =>
      rw [hbearer] at hev
      cases hev
    | some token =>
      rw [hbearer] at hev
      rw [List.mem_singleton.mp hev]
      rfl

theorem Brokered.brokerCredential_eq {credential : String} {events : List Event}
    (h : Brokered svc agent headers credential events) :
    svc.brokerCredential agent headers = ⟨events, .ok credential⟩ := by
  unfold brokerCredential
  cases h with
  | sponsored sponsor credential hsponsor htoken hexchange =>
    simp only [hsponsor, htoken, if_false]
    rw [exchange, Traced.perform, hexchange]
  | bearer token credential hsponsor hbearer hexchange =>
    simp only [hsponsor, hbearer]
    rw [exchange, Traced.perform, hexchange]
  | placeholder hsponsor hbearer =>
    simp only [hsponsor, hbearer]
    rfl

theorem forwardCall_trace {credential : String} :
    (svc.forwardCall call credential).trace =
      [.forward call credential (svc.mcpUpstream call credential)] := by
  unfold forwardCall
  simp only
  rw [Traced.bind_of_ok (Traced.attempt_result _)]
  cases hforward : svc.mcpUpstream call credential with
  | ok response =>
    rw [Traced.bind_of_ok (Traced.perform_result _ _)]
    simp only [Traced.attempt_trace, Traced.perform_trace, Traced.ofExcept_trace,
      Traced.ofExcept_result, List.append_nil]
    cases filterListing response call with
    | ok projected => rfl
    | error e =>
      cases e with
      | _ => rfl
  | error e =>
    rw [Traced.bind_of_error (Traced.perform_result _ _)]
    simp only [Traced.attempt_trace, Traced.perform_trace]
    cases e with
    | _ => rfl

theorem proceed_denied {outcome : AuthorizationOutcome} (h : outcome.allowed = false) :
    (svc.proceed headers outcome).trace = [] := by
  unfold proceed
  rw [h]
  rfl

theorem proceed_of_credential {outcome : AuthorizationOutcome} {credential : String}
    (h : outcome.allowed = true)
    (hbroker : (svc.brokerCredential outcome.call.agent headers).result = .ok credential) :
    svc.proceed headers outcome =
      ⟨(svc.brokerCredential outcome.call.agent headers).trace ++
        (svc.forwardCall outcome.call credential).trace,
        (svc.forwardCall outcome.call credential).result⟩ := by
  unfold proceed
  simp only [h, if_true]
  rw [Traced.bind_of_ok (Traced.attempt_result _), hbroker]
  rfl

theorem proceed_broker {outcome : AuthorizationOutcome} {credential : String}
    (h : outcome.allowed = true)
    (hbroker : (svc.brokerCredential outcome.call.agent headers).result = .ok credential) :
    (svc.proceed headers outcome).trace =
      (svc.brokerCredential outcome.call.agent headers).trace ++
        [.forward outcome.call credential (svc.mcpUpstream outcome.call credential)] := by
  rw [proceed_of_credential h hbroker, forwardCall_trace]

theorem proceed_refused {outcome : AuthorizationOutcome} {e : Exc} (h : outcome.allowed = true)
    (hbroker : (svc.brokerCredential outcome.call.agent headers).result = .error e) :
    (svc.proceed headers outcome).trace =
      (svc.brokerCredential outcome.call.agent headers).trace := by
  unfold proceed
  simp only [h, if_true]
  rw [Traced.bind_of_ok (Traced.attempt_result _), hbroker]
  cases e with
  | _ => exact List.append_nil _

/-- After the shared half, a run only brokers and forwards. -/
theorem proceed_events {outcome : AuthorizationOutcome} :
    ∀ ev ∈ (svc.proceed headers outcome).trace, ev.isExchange = true ∨ ev.isForward = true := by
  intro ev hev
  cases hallowed : outcome.allowed with
  | false =>
    rw [proceed_denied hallowed] at hev
    cases hev
  | true =>
    cases hbroker : (svc.brokerCredential outcome.call.agent headers).result with
    | error e =>
      rw [proceed_refused hallowed hbroker] at hev
      exact Or.inl (brokerCredential_events ev hev)
    | ok credential =>
      rw [proceed_broker hallowed hbroker] at hev
      obtain hev | hev := List.mem_append.mp hev
      · exact Or.inl (brokerCredential_events ev hev)
      · rw [List.mem_singleton.mp hev]
        exact Or.inr rfl

theorem execute_of_ok {outcome : AuthorizationOutcome}
    (h : (svc.authorizeCore headers payload).result = .ok outcome) :
    svc.execute headers payload =
      ⟨(svc.authorizeCore headers payload).trace ++ (svc.proceed headers outcome).trace,
        (svc.proceed headers outcome).result⟩ := by
  unfold execute
  rw [Traced.bind_of_ok h]

theorem execute_of_error {e : Exc} (h : (svc.authorizeCore headers payload).result = .error e) :
    svc.execute headers payload = ⟨(svc.authorizeCore headers payload).trace, .error e⟩ := by
  unfold execute
  rw [Traced.bind_of_error h]

/-- A run that reached the upstream: an allowed run of the shared half, the brokering, and one
forward of the call policy was asked about. -/
structure ForwardedRun (svc : GovernedExecutionService) (headers : Headers) (payload : Dict) where
  run : svc.AuthorizedRun headers payload
  credential : String
  brokerEvents : List Event
  allowed : run.outcome.allowed = true
  brokered : Brokered svc run.call.agent headers credential brokerEvents

namespace ForwardedRun

variable (f : svc.ForwardedRun headers payload)

def forwarded : Event :=
  .forward f.run.call f.credential (svc.mcpUpstream f.run.call f.credential)

def trace : List Event := f.run.trace ++ f.brokerEvents ++ [f.forwarded]

theorem forwards_last : ∀ ev ∈ f.run.trace ++ f.brokerEvents, ev.isForward = false := by
  intro ev hev
  obtain hev | hev := List.mem_append.mp hev
  · have htrace : (svc.authorizeCore headers payload).trace = f.run.trace := by
      rw [f.run.authorizeCore_eq]
    exact (authorizeCore_events ev (htrace ▸ hev)).2
  · have hexchange := f.brokered.events_exchange ev hev
    cases ev with
    | exchange token audience answer => rfl
    | _ => cases hexchange

theorem execute_result :
    (svc.execute headers payload).result =
      (svc.forwardCall f.run.call f.credential).result := by
  have hcore := f.run.authorizeCore_eq
  have hbroker : (svc.brokerCredential f.run.outcome.call.agent headers).result =
      .ok f.credential := by
    show (svc.brokerCredential f.run.call.agent headers).result = _
    rw [f.brokered.brokerCredential_eq]
  rw [execute_of_ok (by rw [hcore]), proceed_of_credential f.allowed hbroker]
  rfl

end ForwardedRun

theorem forward_inv {ev : Event} (h : ev ∈ (svc.execute headers payload).trace)
    (hkind : ev.isForward = true) :
    ∃ f : svc.ForwardedRun headers payload, ev = f.forwarded ∧
      (svc.execute headers payload).trace = f.trace := by
  cases hcore : (svc.authorizeCore headers payload).result with
  | error e =>
    rw [execute_of_error hcore] at h
    rw [(authorizeCore_events _ h).2] at hkind
    cases hkind
  | ok outcome =>
    rw [execute_of_ok hcore] at h ⊢
    obtain ⟨run, rfl, htrace⟩ := authorizeCore_ok hcore
    obtain h | h := List.mem_append.mp h
    · rw [(authorizeCore_events _ h).2] at hkind
      cases hkind
    cases hallowed : run.outcome.allowed with
    | false =>
      rw [proceed_denied hallowed] at h
      cases h
    | true =>
      cases hbroker : (svc.brokerCredential run.outcome.call.agent headers).result with
      | error e =>
        rw [proceed_refused hallowed hbroker] at h
        have hexchange := brokerCredential_events _ h
        cases ev with
        | forward call credential answer => cases hexchange
        | _ => cases hkind
      | ok credential =>
        rw [proceed_broker hallowed hbroker] at h ⊢
        obtain h | h := List.mem_append.mp h
        · have hexchange := brokerCredential_events _ h
          cases ev with
          | forward call credential answer => cases hexchange
          | _ => cases hkind
        · refine ⟨⟨run, credential, _, hallowed, brokerCredential_ok hbroker⟩,
            List.mem_singleton.mp h, ?_⟩
          rw [htrace, ← List.append_assoc]
          rfl

/-! ## Fixed answers -/

def fixedReceipt : ExecutionReceipt where
  sequenceId := "1"
  timestamp := epoch
  spiffeId := "spiffe://corp/agent"
  decision := .allow
  payloadHash := ""
  previousHash := ""

/-- A service whose ports always answer the same. -/
def fixed (agent : AgentIdentity) (registration : Option RegisteredAgent)
    (decision : PolicyDecision) : GovernedExecutionService where
  identityProvider := fun _ => .ok agent
  agentRegistry := fun _ => .ok registration
  policyEngine := fun _ => .ok decision
  ledger := fun agent _ decision enforced =>
    .ok { fixedReceipt with
      spiffeId := agent.spiffeId
      decision := decision.decision
      reason := decision.reason
      enforced }
  auditExporter := fun _ => .ok ()
  tokenExchange := fun token _ => .ok ("exchanged:" ++ token)
  mcpUpstream := fun _ _ => .ok (.obj [("result", .obj [])])
  delegatedAudience := "upstream"

end GovernedExecutionService

end OpenAgentControl
