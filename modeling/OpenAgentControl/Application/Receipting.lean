import OpenAgentControl.Application.Runs

/-! # Receipts of attempts

Every attempt whose subject token is absent, unchecked or accepted leaves exactly one receipt,
recorded and exported, on both entry points. A subject token that does not verify, or that is not
bound to the caller, raises before the gate and leaves none. -/

namespace OpenAgentControl
set_option autoImplicit false
set_option maxHeartbeats 250000

open Foundations

/-! ## Well-formed payloads -/

/-- The values a field of a request may hold; `none` is an absent field. -/
def optionalField (d : Dict) (key : String) (allowed : Json → Bool) : Bool :=
  match d.get? key with
  | none => true
  | some value => allowed value

def isStr : Json → Bool
  | .str _ => true
  | _ => false

def isObj : Json → Bool
  | .obj _ => true
  | _ => false

def isRequestId : Json → Bool
  | .null => true
  | .str _ => true
  | .int _ => true
  | _ => false

def wellFormedParams : Json → Bool
  | .obj params => optionalField params "name" isStr && optionalField params "arguments" isObj
  | _ => false

structure WellFormed (payload : Dict) : Prop where
  method : payload.get? "method" = some (.str "tools/list") ∨
    payload.get? "method" = some (.str "tools/call")
  params : optionalField payload "params" wellFormedParams = true
  id : optionalField payload "id" isRequestId = true

theorem validateOptionalStr_ok {params : Dict} (h : optionalField params "name" isStr = true) :
    ∃ name, validateOptionalStr ((params.get? "name").getD .null) = .ok name := by
  unfold optionalField at h
  cases hname : params.get? "name" with
  | none => exact ⟨none, rfl⟩
  | some value =>
    rw [hname] at h
    cases value with
    | str s => exact ⟨some s, rfl⟩
    | _ => cases h

theorem validateDict_ok {params : Dict} (h : optionalField params "arguments" isObj = true) :
    ∃ arguments, validateDict ((params.get? "arguments").getD (.obj [])) = .ok arguments := by
  unfold optionalField at h
  cases harguments : params.get? "arguments" with
  | none => exact ⟨[], rfl⟩
  | some value =>
    rw [harguments] at h
    cases value with
    | obj fields => exact ⟨fields, rfl⟩
    | _ => cases h

theorem validateRequestId_ok {payload : Dict} (h : optionalField payload "id" isRequestId = true) :
    ∃ requestId, validateRequestId ((payload.get? "id").getD .null) = .ok requestId := by
  unfold optionalField at h
  cases hid : payload.get? "id" with
  | none => exact ⟨none, rfl⟩
  | some value =>
    rw [hid] at h
    cases value with
    | null => exact ⟨none, rfl⟩
    | str s => exact ⟨some (.str s), rfl⟩
    | int n => exact ⟨some (.int n), rfl⟩
    | _ => cases h

theorem paramsOf_ok {payload : Dict} (h : optionalField payload "params" wellFormedParams = true) :
    ∃ params, paramsOf payload = .ok params ∧ optionalField params "name" isStr = true ∧
      optionalField params "arguments" isObj = true := by
  unfold optionalField at h
  unfold paramsOf
  cases hparams : payload.get? "params" with
  | none => exact ⟨[], rfl, rfl, rfl⟩
  | some value =>
    rw [hparams] at h
    cases value with
    | obj params =>
      cases params with
      | nil => exact ⟨[], rfl, rfl, rfl⟩
      | cons field rest =>
        obtain ⟨hname, harguments⟩ := Bool.and_eq_true_iff.mp h
        exact ⟨field :: rest, rfl, hname, harguments⟩
    | _ => cases h

theorem WellFormed.buildCall {payload : Dict} (h : WellFormed payload) (agent : AgentIdentity)
    (registration : Option RegisteredAgent) :
    ∃ call, buildCall payload agent registration = .ok call := by
  obtain ⟨params, hparams, hname, harguments⟩ := paramsOf_ok h.params
  obtain ⟨name, hname⟩ := validateOptionalStr_ok hname
  obtain ⟨arguments, harguments⟩ := validateDict_ok harguments
  obtain ⟨requestId, hid⟩ := validateRequestId_ok h.id
  have hmethod : ∃ method, validateStr ((payload.get? "method").getD (.str "")) = .ok method := by
    obtain hm | hm := h.method
    · exact ⟨_, by rw [hm]; rfl⟩
    · exact ⟨_, by rw [hm]; rfl⟩
  obtain ⟨method, hmethod⟩ := hmethod
  refine ⟨⟨method, name, arguments, agent, registration, none, requestId⟩, ?_⟩
  unfold OpenAgentControl.buildCall
  rw [hparams, hmethod, hid]
  simp only [bind, Except.bind, hname, harguments]
  rfl

namespace GovernedExecutionService

variable {svc : GovernedExecutionService} {headers : Headers} {payload : Dict}
  {agent : AgentIdentity} {registration : Option RegisteredAgent}

/-- The subject token, if the gateway looks at one, verifies and is bound to the caller. -/
def SubjectAccepted (svc : GovernedExecutionService) (headers : Headers) (agent : AgentIdentity) :
    Prop :=
  match svc.subjectVerifier with
  | none => True
  | some verify =>
    subjectToken headers = "" ∨ ∃ subject, verify (subjectToken headers) = .ok subject ∧
      bindSubject agent subject svc.subjectBinding = .ok ()

/-- An attempt that the gate or the subject check must refuse. -/
def MustRefuse (svc : GovernedExecutionService) (headers : Headers) (agent : AgentIdentity)
    (registration : Option RegisteredAgent) : Prop :=
  (∀ record, registration = some record → record.status ≠ .active) ∨
    ¬ svc.SubjectAccepted headers agent

/-- Exactly one receipt, recorded and exported; of an attempt that must be refused, an enforced
deny. -/
def Receipted (svc : GovernedExecutionService) (headers : Headers) (agent : AgentIdentity)
    (registration : Option RegisteredAgent) (trace : List Event) : Prop :=
  ∃ call decision enforced receipt,
    trace.filter Event.isRecord = [.record agent call decision enforced (.ok receipt)] ∧
    trace.filter Event.isExport = [.exportReceipt receipt (.ok ())] ∧
    (svc.MustRefuse headers agent registration → decision.decision = .deny ∧ enforced = true)

theorem resolved_iff (built : ToolCallRequest) :
    svc.SubjectAccepted headers agent ↔
      ∃ call events, Resolved svc headers agent built call events := by
  unfold SubjectAccepted
  cases hverifier : svc.subjectVerifier with
  | none => exact ⟨fun _ => ⟨_, _, .autonomous (Or.inl hverifier)⟩, fun _ => trivial⟩
  | some verify =>
    constructor
    · rintro (htoken | ⟨subject, hverify, hbind⟩)
      · exact ⟨_, _, .autonomous (Or.inr htoken)⟩
      · by_cases htoken : subjectToken headers = ""
        · exact ⟨_, _, .autonomous (Or.inr htoken)⟩
        · exact ⟨_, _, .delegated verify subject hverifier htoken hverify hbind⟩
    · rintro ⟨call, events, h⟩
      cases h with
      | autonomous h =>
        obtain h | h := h
        · rw [hverifier] at h
          cases h
        · exact Or.inl h
      | delegated verify' subject hverifier' htoken hverify hbind =>
        rw [hverifier] at hverifier'
        cases hverifier'
        exact Or.inr ⟨subject, hverify, hbind⟩

theorem Decided.of_inactive {call : ToolCallRequest} {decision : PolicyDecision}
    {shadowable : Bool} {events : List Event} (h : Decided svc call decision shadowable events)
    (hreg : ∀ record, call.registration = some record → record.status ≠ .active) :
    decision.decision = .deny ∧ shadowable = false := by
  cases h with
  | orphan h => exact ⟨rfl, rfl⟩
  | inactive record h hstatus => exact ⟨rfl, rfl⟩
  | outage record message h hstatus hengine => exact absurd hstatus (hreg record h)
  | engine record decision h hstatus hengine => exact absurd hstatus (hreg record h)

def EngineAnswers (svc : GovernedExecutionService) : Prop :=
  ∀ call, (∃ decision, svc.policyEngine call = .ok decision) ∨
    ∃ message, svc.policyEngine call = .error (.policyEngineUnavailable message)

theorem decided_of_engineAnswers (h : svc.EngineAnswers) (call : ToolCallRequest) :
    ∃ decision shadowable events, Decided svc call decision shadowable events := by
  cases hreg : call.registration with
  | none => exact ⟨_, _, _, .orphan hreg⟩
  | some record =>
    by_cases hstatus : record.status = .active
    · obtain ⟨decision, hengine⟩ | ⟨message, hengine⟩ := h call
      · exact ⟨_, _, _, .engine record decision hreg hstatus hengine⟩
      · exact ⟨_, _, _, .outage record message hreg hstatus hengine⟩
    · exact ⟨_, _, _, .inactive record hreg hstatus⟩

theorem authorizedRun_of_built {built : ToolCallRequest}
    (hidentify : svc.identityProvider headers = .ok agent)
    (hlookup : svc.agentRegistry agent.spiffeId = .ok registration)
    (hbuilt : buildCall payload agent registration = .ok built) (hengine : svc.EngineAnswers)
    (hledger : ∀ agent call decision enforced, ∃ receipt,
      svc.ledger agent call decision enforced = .ok receipt)
    (hexporter : ∀ receipt, svc.auditExporter receipt = .ok ())
    (haccepted : svc.SubjectAccepted headers agent) :
    ∃ run : svc.AuthorizedRun headers payload,
      run.agent = agent ∧ run.registration = registration := by
  obtain ⟨call, subjectEvents, hresolved⟩ := (resolved_iff built).mp haccepted
  obtain ⟨decision, shadowable, policyEvents, hdecided⟩ := decided_of_engineAnswers hengine call
  obtain ⟨receipt, hreceipt⟩ := hledger agent call decision (!svc.shadows decision shadowable)
  exact ⟨{
    agent, registration, built, call, subjectEvents, decision, shadowable, policyEvents, receipt
    identified := hidentify
    looked := hlookup
    builtOk := hbuilt
    resolved := hresolved
    decided := hdecided
    recorded := hreceipt
    exported := hexporter receipt }, rfl, rfl⟩

theorem authorizedRun_of_accepted (hidentify : svc.identityProvider headers = .ok agent)
    (hlookup : svc.agentRegistry agent.spiffeId = .ok registration) (hpayload : WellFormed payload)
    (hengine : svc.EngineAnswers)
    (hledger : ∀ agent call decision enforced, ∃ receipt,
      svc.ledger agent call decision enforced = .ok receipt)
    (hexporter : ∀ receipt, svc.auditExporter receipt = .ok ())
    (haccepted : svc.SubjectAccepted headers agent) :
    ∃ run : svc.AuthorizedRun headers payload,
      run.agent = agent ∧ run.registration = registration := by
  obtain ⟨built, hbuilt⟩ := hpayload.buildCall agent registration
  exact authorizedRun_of_built hidentify hlookup hbuilt hengine hledger hexporter haccepted

theorem authorizeCore_of_refused {built : ToolCallRequest} {e : Exc}
    (hidentify : svc.identityProvider headers = .ok agent)
    (hlookup : svc.agentRegistry agent.spiffeId = .ok registration)
    (hbuilt : buildCall payload agent registration = .ok built)
    (hresolve : (svc.resolveSubject headers agent built).result = .error e) :
    svc.authorizeCore headers payload =
      ⟨.identify headers (.ok agent) :: .lookup agent.spiffeId (.ok registration) ::
        (svc.resolveSubject headers agent built).trace, .error e⟩ := by
  unfold authorizeCore
  rw [Traced.bind_of_ok hidentify, Traced.bind_of_ok hlookup, Traced.bind_of_ok hbuilt,
    Traced.bind_of_error hresolve]
  simp [Traced.perform, hidentify, hlookup]

/-- A refused subject raises before the gate: the run ends without a receipt. -/
theorem unrecorded_of_refused (hidentify : svc.identityProvider headers = .ok agent)
    (hlookup : svc.agentRegistry agent.spiffeId = .ok registration) (hpayload : WellFormed payload)
    (hrefused : ¬ svc.SubjectAccepted headers agent) :
    ∃ e, (svc.authorizeCore headers payload).result = .error e ∧
      (svc.authorizeCore headers payload).trace.filter Event.isRecord = [] := by
  obtain ⟨built, hbuilt⟩ := hpayload.buildCall agent registration
  cases hresolve : (svc.resolveSubject headers agent built).result with
  | ok call =>
    exact absurd ((resolved_iff built).mpr ⟨call, _, resolveSubject_ok hresolve⟩) hrefused
  | error e =>
    have hcore := authorizeCore_of_refused hidentify hlookup hbuilt hresolve
    refine ⟨e, by rw [hcore], ?_⟩
    rw [hcore, List.filter_eq_nil_iff]
    intro ev hev hrecord
    obtain rfl | hev := List.mem_cons.mp hev
    · cases hrecord
    obtain rfl | hev := List.mem_cons.mp hev
    · cases hrecord
    · obtain ⟨token, answer, rfl⟩ := resolveSubject_events ev hev
      cases hrecord

theorem MustRefuse.enforced_deny (run : svc.AuthorizedRun headers payload)
    (haccepted : svc.SubjectAccepted headers run.agent)
    (h : svc.MustRefuse headers run.agent run.registration) :
    run.decision.decision = .deny ∧ run.enforced = true := by
  obtain hinactive | hrefused := h
  · rw [← run.call_registration] at hinactive
    obtain ⟨hdeny, hshadowable⟩ := run.decided.of_inactive hinactive
    exact ⟨hdeny, by simp [AuthorizedRun.enforced, shadows, hshadowable]⟩
  · exact absurd haccepted hrefused

theorem not_receipt_of_brokering {ev : Event} (h : ev.isExchange = true ∨ ev.isForward = true) :
    ev.isRecord = false ∧ ev.isExport = false := by
  cases ev with
  | exchange token audience answer => exact ⟨rfl, rfl⟩
  | forward call credential answer => exact ⟨rfl, rfl⟩
  | _ => simp [Event.isExchange, Event.isForward] at h

/-- A run of the shared half that returned is receipted, whatever brokering and forwarding add. -/
theorem AuthorizedRun.receipted (run : svc.AuthorizedRun headers payload)
    (haccepted : svc.SubjectAccepted headers run.agent) {rest : List Event}
    (hrest : ∀ ev ∈ rest, ev.isExchange = true ∨ ev.isForward = true) :
    svc.Receipted headers run.agent run.registration (run.trace ++ rest) := by
  have hrecord : rest.filter Event.isRecord = [] := by
    rw [List.filter_eq_nil_iff]
    intro ev hev
    rw [(not_receipt_of_brokering (hrest ev hev)).1]
    exact Bool.false_ne_true
  have hexport : rest.filter Event.isExport = [] := by
    rw [List.filter_eq_nil_iff]
    intro ev hev
    rw [(not_receipt_of_brokering (hrest ev hev)).2]
    exact Bool.false_ne_true
  refine ⟨run.call, run.decision, run.enforced, run.receipt, ?_, ?_, fun hmust => ?_⟩
  · rw [List.filter_append, run.filter_isRecord, hrecord, List.append_nil]
  · rw [List.filter_append, run.filter_isExport, hexport, List.append_nil]
  · exact hmust.enforced_deny run haccepted

/-- Both entry points leave the one receipt of an attempt exactly when its subject is accepted. -/
theorem receipted_iff_subjectAccepted (hidentify : svc.identityProvider headers = .ok agent)
    (hlookup : svc.agentRegistry agent.spiffeId = .ok registration) (hpayload : WellFormed payload)
    (hengine : svc.EngineAnswers)
    (hledger : ∀ agent call decision enforced, ∃ receipt,
      svc.ledger agent call decision enforced = .ok receipt)
    (hexporter : ∀ receipt, svc.auditExporter receipt = .ok ()) :
    (svc.Receipted headers agent registration (svc.authorize headers payload).trace ↔
      svc.SubjectAccepted headers agent) ∧
    (svc.Receipted headers agent registration (svc.execute headers payload).trace ↔
      svc.SubjectAccepted headers agent) := by
  by_cases haccepted : svc.SubjectAccepted headers agent
  · obtain ⟨run, rfl, rfl⟩ := authorizedRun_of_accepted hidentify hlookup hpayload hengine hledger
      hexporter haccepted
    have hcore := run.authorizeCore_eq
    have hauthorize : (svc.authorize headers payload).trace = run.trace ++ [] := by
      rw [authorize, hcore, List.append_nil]
    have hexecute : (svc.execute headers payload).trace =
        run.trace ++ (svc.proceed headers run.outcome).trace := by
      rw [execute_of_ok (by rw [hcore]), hcore]
    rw [hauthorize, hexecute]
    have hnothing : ∀ ev ∈ ([] : List Event), ev.isExchange = true ∨ ev.isForward = true :=
      fun ev hev => absurd hev List.not_mem_nil
    exact ⟨iff_of_true (run.receipted haccepted hnothing) haccepted,
      iff_of_true (run.receipted haccepted proceed_events) haccepted⟩
  · obtain ⟨e, hcore, hnone⟩ := unrecorded_of_refused hidentify hlookup hpayload haccepted
    have hunreceipted : ¬ svc.Receipted headers agent registration
        (svc.authorizeCore headers payload).trace := by
      rintro ⟨call, decision, enforced, receipt, hrecord, -⟩
      rw [hnone] at hrecord
      cases hrecord
    refine ⟨iff_of_false hunreceipted haccepted, iff_of_false ?_ haccepted⟩
    rw [execute_of_error hcore]
    exact hunreceipted

def aliceAgent : AgentIdentity := { fixedAgent with humanSponsor := some "idp#alice" }

/-- The agent is not registered, and the verifier knows the token of its sponsor. -/
def sponsorSubject : GovernedExecutionService :=
  { fixed aliceAgent none ⟨.deny, ""⟩ with
    subjectVerifier := some fun token =>
      if token = "alice-token" then .ok { subjectId := "idp#alice", issuer := "idp" }
      else .error (.identity "invalid subject token") }

theorem sponsorSubject_receipted :
    sponsorSubject.Receipted [("X-Subject-Token", "alice-token")] aliceAgent none
        (sponsorSubject.authorize [("X-Subject-Token", "alice-token")]
          [("method", .str "tools/list")]).trace ∧
    sponsorSubject.Receipted [("X-Subject-Token", "alice-token")] aliceAgent none
        (sponsorSubject.execute [("X-Subject-Token", "alice-token")]
          [("method", .str "tools/list")]).trace := by
  have hidentify : sponsorSubject.identityProvider [("X-Subject-Token", "alice-token")] =
      .ok aliceAgent := rfl
  have hlookup : sponsorSubject.agentRegistry aliceAgent.spiffeId = .ok none := rfl
  have hpayload : WellFormed [("method", .str "tools/list")] := ⟨Or.inl rfl, rfl, rfl⟩
  have haccepted : sponsorSubject.SubjectAccepted [("X-Subject-Token", "alice-token")]
      aliceAgent := Or.inr ⟨{ subjectId := "idp#alice", issuer := "idp" }, rfl, rfl⟩
  obtain ⟨hauthorize, hexecute⟩ := receipted_iff_subjectAccepted hidentify hlookup hpayload
    (fun _ => Or.inl ⟨_, rfl⟩) (fun _ _ _ _ => ⟨_, rfl⟩) (fun _ => rfl)
  exact ⟨hauthorize.mpr haccepted, hexecute.mpr haccepted⟩

/-- An unregistered agent, and a verifier that refuses its subject token. -/
def forgedSubject : GovernedExecutionService :=
  { fixed fixedAgent none ⟨.deny, ""⟩ with
    subjectVerifier := some fun _ => .error (.identity "invalid subject token") }

theorem forgedSubject_unreceipted :
    WellFormed [("method", .str "tools/list")] ∧
    ¬ forgedSubject.Receipted [("X-Subject-Token", "forged")] fixedAgent none
      (forgedSubject.authorize [("X-Subject-Token", "forged")]
        [("method", .str "tools/list")]).trace ∧
    ¬ forgedSubject.Receipted [("X-Subject-Token", "forged")] fixedAgent none
      (forgedSubject.execute [("X-Subject-Token", "forged")]
        [("method", .str "tools/list")]).trace := by
  refine ⟨⟨Or.inl rfl, rfl, rfl⟩, ?_, ?_⟩
  · rintro ⟨call, decision, enforced, receipt, hrecord, -⟩
    have hnone : (forgedSubject.authorize [("X-Subject-Token", "forged")]
        [("method", .str "tools/list")]).trace.filter Event.isRecord = [] := rfl
    rw [hnone] at hrecord
    cases hrecord
  · rintro ⟨call, decision, enforced, receipt, hrecord, -⟩
    have hnone : (forgedSubject.execute [("X-Subject-Token", "forged")]
        [("method", .str "tools/list")]).trace.filter Event.isRecord = [] := rfl
    rw [hnone] at hrecord
    cases hrecord

end GovernedExecutionService

end OpenAgentControl
