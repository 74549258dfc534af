import OpenAgentControl.Application.Runs
import OpenAgentControl.Adapters.Identity

/-! # Delegated calls

Two promises about a call that runs on behalf of a human. Strict binding: the subject policy is told
about belongs to this caller. Agreement: a sponsored identity without its sponsor's token is refused
on both entry points. Each is settled by the exact condition under which the code keeps it. -/

namespace OpenAgentControl
set_option autoImplicit false
set_option maxHeartbeats 250000

open Foundations

/-- The subject authorized this agent, or is the sponsor the agent claims. -/
def Bound (agent : AgentIdentity) (subject : SubjectIdentity) : Prop :=
  (∃ actor, subject.authorizedActor = some actor ∧ agent.clientId = some actor) ∨
    (subject.authorizedActor = none ∧
      (present agent.humanSponsor = none ∨ agent.humanSponsor = some subject.subjectId))

theorem bindSubject_cases (agent : AgentIdentity) (subject : SubjectIdentity)
    (mode : SubjectBinding) : bindSubject agent subject mode = .ok () ∨
      ∃ message, bindSubject agent subject mode = .error (.identity message) := by
  unfold bindSubject
  by_cases hoff : mode = .off
  · exact Or.inl (if_pos hoff)
  rw [if_neg hoff]
  cases subject.authorizedActor with
  | some actor =>
    cases present agent.clientId with
    | none => exact Or.inl rfl
    | some clientId =>
      by_cases hactor : actor = clientId
      · exact Or.inl (if_neg (not_not.mpr hactor))
      · exact Or.inr ⟨_, if_pos hactor⟩
  | none =>
    by_cases hmay : mode = .mayActOnly
    · exact Or.inl (if_pos hmay)
    · simp only [hmay, if_false]
      cases present agent.humanSponsor with
      | none => exact Or.inl rfl
      | some sponsor =>
        by_cases hsponsor : subject.subjectId = sponsor
        · exact Or.inl (if_neg (not_not.mpr hsponsor))
        · exact Or.inr ⟨_, if_pos hsponsor⟩

theorem bindSubject_actor {agent : AgentIdentity} {subject : SubjectIdentity} {actor : String}
    (hactor : subject.authorizedActor = some actor) :
    bindSubject agent subject .strict = .ok () ↔
      present agent.clientId = none ∨ present agent.clientId = some actor := by
  unfold bindSubject
  rw [if_neg (by decide), hactor]
  cases present agent.clientId with
  | none => simp
  | some clientId =>
    by_cases heq : actor = clientId
    · simp [heq]
    · simp [heq, mayActMismatch]
      exact fun h => heq h.symm

theorem bindSubject_sponsor {agent : AgentIdentity} {subject : SubjectIdentity}
    (hactor : subject.authorizedActor = none) :
    bindSubject agent subject .strict = .ok () ↔
      present agent.humanSponsor = none ∨ agent.humanSponsor = some subject.subjectId := by
  unfold bindSubject
  rw [if_neg (by decide), hactor]
  simp only [if_neg (show SubjectBinding.strict ≠ .mayActOnly by decide)]
  cases hsponsor : present agent.humanSponsor with
  | none => simp
  | some sponsor =>
    rw [(present_eq_some.mp hsponsor).1]
    by_cases heq : subject.subjectId = sponsor
    · simp [heq]
    · simp [heq, sponsorMismatch]
      exact fun h => heq h.symm

/-- The strict check accepts what is bound, and nothing else when there is no actor to compare or a
client id to compare it with. -/
theorem bindSubject_strict {agent : AgentIdentity} {subject : SubjectIdentity}
    (hclient : agent.clientId ≠ some "") :
    bindSubject agent subject .strict = .ok () ↔
      Bound agent subject ∨ (subject.authorizedActor ≠ none ∧ agent.clientId = none) := by
  cases hactor : subject.authorizedActor with
  | none =>
    rw [bindSubject_sponsor hactor]
    simp [Bound, hactor]
  | some actor =>
    rw [bindSubject_actor hactor]
    cases hid : agent.clientId with
    | none => simp [present]
    | some clientId =>
      have hne : clientId ≠ "" := fun h => hclient (by rw [hid, h])
      simp [Bound, hactor, hid, present, hne]

namespace GovernedExecutionService

variable {svc : GovernedExecutionService} {headers : Headers} {payload : Dict}

/-! ## Strict binding -/

/-- A request that gets as far as a verified subject token. -/
structure Delegates (svc : GovernedExecutionService) (verify : SubjectVerifier) (headers : Headers)
    (payload : Dict) (agent : AgentIdentity) (registration : Option RegisteredAgent)
    (subject : SubjectIdentity) : Prop where
  identified : svc.identityProvider headers = .ok agent
  looked : svc.agentRegistry agent.spiffeId = .ok registration
  built : ∃ call, buildCall payload agent registration = .ok call
  token : subjectToken headers ≠ ""
  verified : verify (subjectToken headers) = .ok subject

/-- Policy only ever sees subjects bound to the caller, and a token that is not bound is refused
right after its verification, on both entry points. -/
structure StrictlyBound (svc : GovernedExecutionService) (verify : SubjectVerifier)
    (headers : Headers) (payload : Dict) : Prop where
  evaluated : ∀ call subject answer,
    (.evaluate call answer ∈ (svc.authorize headers payload).trace ∨
      .evaluate call answer ∈ (svc.execute headers payload).trace) →
    call.subject = some subject → Bound call.agent subject
  refused : ∀ agent registration subject,
    svc.Delegates verify headers payload agent registration subject → ¬ Bound agent subject →
      ∃ message,
        svc.authorize headers payload =
          ⟨[.identify headers (.ok agent), .lookup agent.spiffeId (.ok registration),
            .verify (subjectToken headers) (.ok subject)], .error (.identity message)⟩ ∧
        svc.execute headers payload =
          ⟨[.identify headers (.ok agent), .lookup agent.spiffeId (.ok registration),
            .verify (subjectToken headers) (.ok subject)], .error (.identity message)⟩

theorem evaluate_mem_core {call : ToolCallRequest} {answer : Except Exc PolicyDecision}
    (h : .evaluate call answer ∈ (svc.execute headers payload).trace) :
    .evaluate call answer ∈ (svc.authorizeCore headers payload).trace := by
  cases hcore : (svc.authorizeCore headers payload).result with
  | error e =>
    rw [execute_of_error hcore] at h
    exact h
  | ok outcome =>
    rw [execute_of_ok hcore] at h
    obtain h | h := List.mem_append.mp h
    · exact h
    · obtain hkind | hkind := proceed_events _ h
      · cases hkind
      · cases hkind

theorem Delegates.authorizeCore_refused {verify : SubjectVerifier} {agent : AgentIdentity}
    {registration : Option RegisteredAgent} {subject : SubjectIdentity} {e : Exc}
    (h : svc.Delegates verify headers payload agent registration subject)
    (hverifier : svc.subjectVerifier = some verify)
    (hbind : bindSubject agent subject svc.subjectBinding = .error e) :
    svc.authorizeCore headers payload =
      ⟨[.identify headers (.ok agent), .lookup agent.spiffeId (.ok registration),
        .verify (subjectToken headers) (.ok subject)], .error e⟩ := by
  obtain ⟨call, hbuilt⟩ := h.built
  have hresolve : svc.resolveSubject headers agent call =
      ⟨[.verify (subjectToken headers) (.ok subject)], .error e⟩ := by
    rw [resolveSubject_delegated hverifier h.token, Traced.bind_of_ok h.verified,
      Traced.bind_of_error hbind, Traced.perform_trace, h.verified]
    rfl
  unfold authorizeCore
  rw [Traced.bind_of_ok h.identified, Traced.bind_of_ok h.looked, Traced.bind_of_ok hbuilt,
    hresolve, Traced.bind_of_error rfl]
  simp only [Traced.perform_trace, h.identified, h.looked]
  rfl

/-- Every verified subject of the request is one the strict check can settle. -/
def Checkable (adapter : IdentityAdapter) (svc : GovernedExecutionService)
    (verify : SubjectVerifier) (headers : Headers) (payload : Dict) : Prop :=
  adapter.isOidc = true ∨ ∀ agent registration subject,
    svc.Delegates verify headers payload agent registration subject →
      subject.authorizedActor = none

theorem evaluate_subject_inv {verify : SubjectVerifier} {call : ToolCallRequest}
    {answer : Except Exc PolicyDecision} {subject : SubjectIdentity}
    (hverifier : svc.subjectVerifier = some verify)
    (h : .evaluate call answer ∈ (svc.authorizeCore headers payload).trace)
    (hsubject : call.subject = some subject) :
    ∃ registration, svc.Delegates verify headers payload call.agent registration subject ∧
      bindSubject call.agent subject svc.subjectBinding = .ok () := by
  obtain ⟨agent, registration, built, events, hidentify, hlookup, hbuilt, hresolved, -⟩ :=
    evaluate_inv h
  obtain ⟨hagent, -, hnone⟩ := buildCall_ok hbuilt
  cases hresolved with
  | autonomous hauto =>
    rw [hnone] at hsubject
    cases hsubject
  | delegated verify' subject' hverifier' htoken hverify hbind =>
    rw [hverifier] at hverifier'
    cases hverifier'
    cases hsubject
    subst hagent
    exact ⟨registration, ⟨hidentify, hlookup, ⟨built, hbuilt⟩, htoken, hverify⟩, hbind⟩

theorem Delegates.not_refused {verify : SubjectVerifier} {agent : AgentIdentity}
    {registration : Option RegisteredAgent} {subject : SubjectIdentity} {e : Exc}
    (h : svc.Delegates verify headers payload agent registration subject)
    (hverifier : svc.subjectVerifier = some verify)
    (hbind : bindSubject agent subject svc.subjectBinding = .ok ()) :
    svc.authorizeCore headers payload ≠
      ⟨[.identify headers (.ok agent), .lookup agent.spiffeId (.ok registration),
        .verify (subjectToken headers) (.ok subject)], .error e⟩ := by
  intro hcore
  obtain ⟨built, hbuilt⟩ := h.built
  have hresolved : Resolved svc headers agent built { built with subject := some subject }
      [.verify (subjectToken headers) (.ok subject)] :=
    .delegated verify subject hverifier h.token h.verified hbind
  unfold authorizeCore at hcore
  rw [Traced.bind_of_ok h.identified, Traced.bind_of_ok h.looked, Traced.bind_of_ok hbuilt,
    hresolved.resolveSubject_eq, Traced.bind_of_ok rfl] at hcore
  have hgate := congrArg Traced.trace hcore
  simp only [Traced.perform_trace, Traced.ofExcept_trace, h.identified, h.looked,
    List.cons_append, List.nil_append, List.cons.injEq, true_and] at hgate
  exact gate_trace_ne_nil hgate

theorem execute_of_refused {trace : List Event} {e : Exc}
    (h : svc.authorizeCore headers payload = ⟨trace, .error e⟩) :
    svc.execute headers payload = ⟨trace, .error e⟩ := by
  rw [execute_of_error (by rw [h]), h]

theorem Delegates.bind_iff_bound {adapter : IdentityAdapter} {verify : SubjectVerifier}
    {agent : AgentIdentity} {registration : Option RegisteredAgent} {subject : SubjectIdentity}
    (h : svc.Delegates verify headers payload agent registration subject)
    (hadapter : svc.identityProvider = adapter.identify) (hstrict : svc.subjectBinding = .strict)
    (hcheckable : Checkable adapter svc verify headers payload) :
    bindSubject agent subject svc.subjectBinding = .ok () ↔ Bound agent subject := by
  have hidentify := h.identified
  rw [hadapter] at hidentify
  rw [hstrict, bindSubject_strict (IdentityAdapter.clientId_ne_blank hidentify),
    or_iff_left_iff_imp]
  rintro ⟨hactor, hnone⟩
  obtain hoidc | habsent := hcheckable
  · rw [(IdentityAdapter.clientId_eq_none hidentify).mp hnone] at hoidc
    cases hoidc
  · exact absurd (habsent _ _ _ h) hactor

/-- Outside OIDC a token that names an actor is accepted from a caller it is not bound to. -/
theorem Delegates.accepts_unbound {adapter : IdentityAdapter} {verify : SubjectVerifier}
    {agent : AgentIdentity} {registration : Option RegisteredAgent} {subject : SubjectIdentity}
    (h : svc.Delegates verify headers payload agent registration subject)
    (hadapter : svc.identityProvider = adapter.identify) (hstrict : svc.subjectBinding = .strict)
    (hoidc : adapter.isOidc = false) (hactor : subject.authorizedActor ≠ none) :
    bindSubject agent subject svc.subjectBinding = .ok () ∧ ¬ Bound agent subject := by
  have hidentify := h.identified
  rw [hadapter] at hidentify
  have hnone := (IdentityAdapter.clientId_eq_none hidentify).mpr hoidc
  constructor
  · rw [hstrict, bindSubject_strict (IdentityAdapter.clientId_ne_blank hidentify)]
    exact Or.inr ⟨hactor, hnone⟩
  · rintro (⟨actor, -, hid⟩ | ⟨habsent, -⟩)
    · rw [hnone] at hid
      cases hid
    · exact hactor habsent

/-- Strict binding holds exactly where every verified subject can be checked: under the OIDC
adapter, or while no token names an actor. -/
theorem strictlyBound_iff (adapter : IdentityAdapter) (svc : GovernedExecutionService)
    (verify : SubjectVerifier) (headers : Headers) (payload : Dict)
    (hadapter : svc.identityProvider = adapter.identify)
    (hverifier : svc.subjectVerifier = some verify) (hstrict : svc.subjectBinding = .strict) :
    svc.StrictlyBound verify headers payload ↔ Checkable adapter svc verify headers payload := by
  constructor
  · intro hbound
    cases hoidc : adapter.isOidc with
    | true => exact Or.inl hoidc
    | false =>
      refine Or.inr fun agent registration subject hdelegates => ?_
      by_contra hactor
      obtain ⟨hbind, hunbound⟩ := hdelegates.accepts_unbound hadapter hstrict hoidc hactor
      obtain ⟨message, hrefused, -⟩ :=
        hbound.refused agent registration subject hdelegates hunbound
      exact hdelegates.not_refused hverifier hbind hrefused
  · intro hcheckable
    constructor
    · intro call subject answer hmem hsubject
      have hcore : .evaluate call answer ∈ (svc.authorizeCore headers payload).trace :=
        hmem.elim id evaluate_mem_core
      obtain ⟨registration, hdelegates, hbind⟩ := evaluate_subject_inv hverifier hcore hsubject
      exact (hdelegates.bind_iff_bound hadapter hstrict hcheckable).mp hbind
    · intro agent registration subject hdelegates hunbound
      obtain hbind | ⟨message, hbind⟩ := bindSubject_cases agent subject svc.subjectBinding
      · exact absurd ((hdelegates.bind_iff_bound hadapter hstrict hcheckable).mp hbind) hunbound
      · have hcore := hdelegates.authorizeCore_refused hverifier hbind
        exact ⟨message, hcore, execute_of_refused hcore⟩

/-- A service behind the header adapter, whose verifier accepts every token as this subject's. -/
def behindHeaders (subject : SubjectIdentity) : GovernedExecutionService :=
  { fixed fixedAgent (some fixedRecord) ⟨.allow, ""⟩ with
    identityProvider := IdentityAdapter.header.identify
    subjectVerifier := some fun _ => .ok subject }

theorem strictlyBound_behindHeaders :
    (behindHeaders { subjectId := "idp#alice", issuer := "idp" }).StrictlyBound
        (fun _ => .ok { subjectId := "idp#alice", issuer := "idp" })
        [("X-Spiffe-ID", "spiffe://corp/agent"), ("X-Subject-Token", "token")]
        [("method", .str "tools/list")] ↔
      Checkable .header (behindHeaders { subjectId := "idp#alice", issuer := "idp" })
        (fun _ => .ok { subjectId := "idp#alice", issuer := "idp" })
        [("X-Spiffe-ID", "spiffe://corp/agent"), ("X-Subject-Token", "token")]
        [("method", .str "tools/list")] :=
  strictlyBound_iff .header _ _ _ _ rfl rfl rfl

def otherActor : SubjectIdentity :=
  { subjectId := "idp#alice", issuer := "idp", authorizedActor := some "other-client" }

theorem otherActor_unbound :
    ¬ (behindHeaders otherActor).StrictlyBound (fun _ => .ok otherActor)
      [("X-Spiffe-ID", "spiffe://corp/agent"), ("X-Subject-Token", "token")]
      [("method", .str "tools/list")] := by
  intro h
  have hmem : Event.evaluate
      { method := "tools/list", agent := fixedAgent, registration := some fixedRecord,
        subject := some otherActor } (.ok ⟨.allow, ""⟩) ∈
      ((behindHeaders otherActor).authorize
        [("X-Spiffe-ID", "spiffe://corp/agent"), ("X-Subject-Token", "token")]
        [("method", .str "tools/list")]).trace := by decide
  obtain ⟨actor, -, hid⟩ | ⟨hactor, -⟩ := h.evaluated _ otherActor _ (Or.inl hmem) rfl
  · cases hid
  · cases hactor

/-! ## Agreement of the two entry points -/

/-- A sponsored identity whose request carries no subject token. -/
def LacksSubjectToken (svc : GovernedExecutionService) (headers : Headers) : Prop :=
  ∃ agent sponsor, svc.identityProvider headers = .ok agent ∧
    present agent.humanSponsor = some sponsor ∧ subjectToken headers = ""

/-- What `execute` refuses for want of the sponsor's token, `authorize` does not allow. -/
def RefusalsAgree (svc : GovernedExecutionService) (headers : Headers) (payload : Dict) : Prop :=
  svc.LacksSubjectToken headers →
    (∃ message, (svc.execute headers payload).result = .error (.missingSubjectToken message)) →
      ∀ outcome, (svc.authorize headers payload).result = .ok outcome → outcome.allowed = false

/-- The request is one that the registry, the policy and the ledger let through. -/
def LetThrough (svc : GovernedExecutionService) (headers : Headers) (payload : Dict) : Prop :=
  ∃ agent record call decision receipt,
    svc.identityProvider headers = .ok agent ∧
    svc.agentRegistry agent.spiffeId = .ok (some record) ∧ record.status = .active ∧
    buildCall payload agent (some record) = .ok call ∧
    svc.policyEngine call = .ok decision ∧
    (decision.decision = .allow ∨ svc.decisionMode = .observe) ∧
    svc.ledger agent call decision (decision.decision == .allow) = .ok receipt ∧
    svc.auditExporter receipt = .ok ()

theorem letThrough_of_allowed (run : svc.AuthorizedRun headers payload)
    (htoken : subjectToken headers = "") (hallowed : run.outcome.allowed = true) :
    svc.LetThrough headers payload := by
  obtain ⟨⟨record, hrecord, hstatus⟩, hpolicy, hflag⟩ := run.allowed_inv hallowed
  have hbuilt : run.built = run.call := by
    have hresolved := run.resolved
    generalize run.call = call at hresolved ⊢
    generalize run.subjectEvents = events at hresolved
    cases hresolved with
    | autonomous hauto => rfl
    | delegated verify subject hverifier hne hverify hbind => exact absurd htoken hne
  have hengine : svc.policyEngine run.call = .ok run.decision := by
    have hevent := run.decided.events_eq (.evaluate run.call (.ok run.decision))
      (by rw [hpolicy]; exact List.mem_singleton_self _)
    injection hevent with _ hanswer
    exact hanswer.symm
  have hflagged : run.enforced = (run.decision.decision == .allow) := by
    obtain ⟨hallow, henforced⟩ | ⟨-, hdeny, henforced⟩ := hflag
    · rw [hallow, henforced]
      rfl
    · rw [hdeny, henforced]
      rfl
  refine ⟨run.agent, record, run.call, run.decision, run.receipt, run.identified, ?_, hstatus, ?_,
    hengine, hflag.imp And.left And.left, ?_, run.exported⟩
  · rw [run.looked, hrecord]
  · rw [← hrecord, run.builtOk, hbuilt]
  · rw [← hflagged]
    exact run.recorded

theorem authorizedRun_of_letThrough (h : svc.LetThrough headers payload)
    (htoken : subjectToken headers = "") :
    ∃ run : svc.AuthorizedRun headers payload, run.outcome.allowed = true := by
  obtain ⟨agent, record, call, decision, receipt, hidentify, hlookup, hstatus, hbuilt, hengine,
    hallow, hrecord, hexport⟩ := h
  have hshadow : svc.shadows decision true = (decision.decision != .allow) := by
    cases hd : decision.decision with
    | allow => simp [shadows, hd]
    | deny =>
      obtain habs | hobserve := hallow
      · rw [hd] at habs
        cases habs
      · simp [shadows, hd, hobserve]
  refine ⟨{
    agent, call, decision, receipt
    registration := some record
    built := call
    subjectEvents := []
    shadowable := true
    policyEvents := [.evaluate call (.ok decision)]
    identified := hidentify
    looked := hlookup
    builtOk := hbuilt
    resolved := .autonomous (Or.inr htoken)
    decided := .engine record decision (buildCall_ok hbuilt).2.1 hstatus hengine
    recorded := by
      rw [hshadow, show (!(decision.decision != .allow)) = (decision.decision == .allow) from
        Bool.not_not _]
      exact hrecord
    exported := hexport }, ?_⟩
  simp only [AuthorizedRun.outcome, hshadow]
  cases decision.decision with
  | allow => rfl
  | deny => rfl

/-- The entry points agree exactly when no sponsored request without its token is let through. -/
theorem refusalsAgree_iff (svc : GovernedExecutionService) (headers : Headers) (payload : Dict) :
    svc.RefusalsAgree headers payload ↔
      ¬ (svc.LacksSubjectToken headers ∧ svc.LetThrough headers payload) := by
  constructor
  · rintro hagree ⟨hlacks, hthrough⟩
    obtain ⟨agent, sponsor, hidentify, hsponsor, htoken⟩ := hlacks
    obtain ⟨run, hallowed⟩ := authorizedRun_of_letThrough hthrough htoken
    have hcore := run.authorizeCore_eq
    have hagent : run.outcome.call.agent = agent := by
      have hrun := run.identified
      rw [hidentify] at hrun
      rw [show run.outcome.call = run.call from rfl, run.call_agent]
      exact (Except.ok.inj hrun).symm
    have hmissing : (svc.execute headers payload).result = .error (missingSubjectToken sponsor) := by
      rw [execute_of_ok (by rw [hcore])]
      simp only [proceed, hallowed, if_true, hagent, brokerCredential_missing hsponsor htoken]
      rfl
    have hrefused := hagree ⟨agent, sponsor, hidentify, hsponsor, htoken⟩ ⟨_, hmissing⟩ run.outcome
      (by rw [authorize, hcore])
    rw [hallowed] at hrefused
    cases hrefused
  · intro hnot hlacks _ outcome houtcome
    by_contra hallowed
    obtain ⟨run, rfl, -⟩ := authorizeCore_ok houtcome
    obtain ⟨-, -, -, -, htoken⟩ := id hlacks
    exact hnot ⟨hlacks, letThrough_of_allowed run htoken (by simpa using hallowed)⟩

/-- An agent with a sponsor, and a policy that allows the call. -/
def sponsoredAgent : GovernedExecutionService :=
  fixed { fixedAgent with humanSponsor := some "idp#alice" } (some fixedRecord) ⟨.allow, ""⟩

theorem sponsoredAgent_disagrees :
    ¬ sponsoredAgent.RefusalsAgree [] [("method", .str "tools/list")] := by
  intro h
  have hallowed := h ⟨_, "idp#alice", rfl, rfl, rfl⟩ ⟨_, rfl⟩ _ rfl
  cases hallowed

end GovernedExecutionService

end OpenAgentControl
