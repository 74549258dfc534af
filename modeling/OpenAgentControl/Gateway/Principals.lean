import OpenAgentControl.Adapters.Authentication
import OpenAgentControl.Application.Delegation
import OpenAgentControl.Gateway.Replicas

/-! # In whose name a call is made

Where the identity comes from a bearer token, whatever the replicas do is done for the agent that the
token of the request proves. Its receipt bears that agent's SPIFFE id; the credential of a forward was
exchanged for this very token, or for the subject token of the sponsor; and the user that the policy is
told of is the one that the subject token proves (`principals_proved`). -/

namespace OpenAgentControl
set_option autoImplicit false
set_option maxHeartbeats 250000

open Foundations

/-! ## Tokens that pass -/

namespace PyJwt

variable {Key : Type} (jwt : PyJwt Key)

/-- The token names an algorithm that is allowed and works with the key, and its signature and claims
pass. -/
structure Accepts (options : DecodeOptions) (key : Key) (token : String) (claims : Dict) : Prop where
  algorithm : ∃ header alg, jwt.header token = .ok header ∧ header.alg = some alg ∧
    alg ∈ options.algorithms ∧ jwt.fits alg key = true
  checked : jwt.check options key token = .ok claims

/-- The key is the one that the JWKS lists for the token's key id. -/
def AcceptsListed (audience issuer token : String) (claims : Dict) : Prop :=
  ∃ header key, jwt.header token = .ok header ∧ jwt.signingKey header.kid = some key ∧
    jwt.Accepts
      { algorithms := ["RS256"], audience, issuer := some issuer, required := ["iss", "aud", "exp"] }
      key token claims

variable {jwt} {token : String} {claims : Dict}

theorem decode_ok_iff {options : DecodeOptions} {key : Key} :
    jwt.decode options key token = .ok claims ↔ jwt.Accepts options key token claims := by
  unfold decode
  constructor
  · intro h
    cases hheader : jwt.header token with
    | error message => simp [hheader] at h
    | ok header =>
      cases halg : header.alg with
      | none => simp [hheader, halg] at h
      | some alg =>
        simp only [hheader, halg] at h
        split_ifs at h with hallowed hfits
        refine ⟨⟨header, alg, hheader, halg, hallowed, hfits⟩, ?_⟩
        cases hcheck : jwt.check options key token with
        | error message => simp [hcheck] at h
        | ok claims' => simpa [hcheck] using h
  · rintro ⟨⟨header, alg, hheader, halg, hallowed, hfits⟩, hchecked⟩
    simp [hheader, halg, hallowed, hfits, hchecked]

theorem verify_ok_iff {audience issuer : String} :
    jwt.verify audience issuer token = .ok claims ↔
      jwt.AcceptsListed audience issuer token claims := by
  unfold verify getSigningKeyFromJwt AcceptsListed
  simp only [← decode_ok_iff]
  cases hheader : jwt.header token with
  | error message => simp
  | ok header => cases hkey : jwt.signingKey header.kid <;> simp [hkey]

end PyJwt

/-! ## What a token proves -/

/-- The modes of `_identity_provider` that read a bearer token. -/
inductive TokenMode (Key : Type)
  | jwtSvid (publicKey : Key) (audience : String)
  | oidcJwks (audience issuer : String)

namespace TokenMode

variable {Key : Type} (jwt : PyJwt Key) (repr : Json → String)

def provider : TokenMode Key → IdentityProvider
  | jwtSvid publicKey audience => (jwtSvidProvider jwt repr publicKey audience).identify
  | oidcJwks audience issuer => (oidcProvider jwt repr audience issuer).identify

/-- The token proves the agent. Of a sponsor, an SVID says nothing: it stands in a header. -/
inductive Proves : TokenMode Key → String → AgentIdentity → Prop
  | svid {publicKey : Key} {audience token : String} {claims : Dict} {sub : Json}
      (sponsor : Option String)
      (haccepts : jwt.Accepts (PyJwt.svidOptions audience) publicKey token claims)
      (hsub : claims.get? "sub" = some sub)
      (hspiffe : "spiffe://".toList <+: (pyStr repr sub).toList) :
      Proves (.jwtSvid publicKey audience) token
        { spiffeId := pyStr repr sub, humanSponsor := sponsor }
  | oidc {audience issuer token clientId : String} {claims : Dict}
      (haccepts : jwt.AcceptsListed audience issuer token claims)
      (hclient : clientIdOf repr claims = some clientId) (hnamed : clientId ≠ "") :
      Proves (.oidcJwks audience issuer) token
        { spiffeId := "oidc://" ++ issuer ++ "/" ++ clientId
          humanSponsor := if hasHumanSponsor claims clientId then
              some (issuer ++ "#" ++ pyStr repr ((claims.get? "sub").getD .null))
            else none
          clientId := some clientId }

variable {jwt repr} {mode : TokenMode Key} {headers : Headers} {agent : AgentIdentity}

theorem proves_of_provider (h : mode.provider jwt repr headers = .ok agent) :
    ∃ token, bearerToken headers = some token ∧ mode.Proves jwt repr token agent := by
  cases mode with
  | jwtSvid publicKey audience =>
    obtain ⟨token, hbearer, h⟩ := bind_except_ok h
    obtain ⟨claims, hclaims, h⟩ := bind_except_ok h
    refine ⟨token, requireBearer_ok hbearer, ?_⟩
    have haccepts := PyJwt.decode_ok_iff.mp (decodeOrRefuse_ok hclaims)
    cases hsub : claims.get? "sub" with
    | none => simp [hsub] at h
    | some sub =>
      simp only [hsub] at h
      split_ifs at h with hspiffe
      cases h
      exact .svid _ haccepts hsub (List.isPrefixOf_iff_prefix.mp hspiffe)
  | oidcJwks audience issuer =>
    obtain ⟨token, hbearer, h⟩ := bind_except_ok h
    obtain ⟨claims, hclaims, h⟩ := bind_except_ok h
    refine ⟨token, requireBearer_ok hbearer, ?_⟩
    have haccepts := PyJwt.verify_ok_iff.mp (decodeOrRefuse_ok hclaims)
    cases hclient : present (clientIdOf (oidcProvider jwt repr audience issuer).repr claims) with
    | none => simp [hclient] at h
    | some clientId =>
      obtain ⟨hsome, hnamed⟩ := present_eq_some.mp hclient
      simp only [hclient] at h
      cases h
      exact .oidc haccepts hsome hnamed

end TokenMode

/-! ## What a request presents -/

/-- What is handed to the token endpoint for an agent that this token proves. -/
def presentedToken (headers : Headers) (token : String) (agent : AgentIdentity) : String :=
  if (present agent.humanSponsor).isSome then subjectToken headers else token

namespace GovernedExecutionService

variable {svc : GovernedExecutionService} {headers : Headers} {agent : AgentIdentity} {token : String}

/-- Behind a bearer token the placeholder is out of reach. -/
theorem brokerCredential_of_bearer (hbearer : bearerToken headers = some token) :
    (∃ e, svc.brokerCredential agent headers = Traced.raise e) ∨
      ((present agent.humanSponsor).isSome = true → subjectToken headers ≠ "") ∧
        svc.brokerCredential agent headers =
          svc.exchange (presentedToken headers token agent) := by
  unfold brokerCredential presentedToken
  cases hsponsor : present agent.humanSponsor with
  | none => exact Or.inr ⟨nofun, by simp [hbearer]⟩
  | some sponsor =>
    by_cases htoken : subjectToken headers = ""
    · exact Or.inl ⟨missingSubjectToken sponsor, by simp [htoken]⟩
    · exact Or.inr ⟨fun _ => htoken, by simp [htoken]⟩

end GovernedExecutionService

/-! ## A gateway that reads tokens -/

/-- The settings of the identity provider and of the subject verifier, and the keys behind each. -/
structure TokenSettings (Key : Type) where
  mode : TokenMode Key
  callers : PyJwt Key
  verifiesSubjects : Bool
  users : PyJwt Key
  subjectAudience : String
  subjectIssuer : String
  subjectRoleClaim : String
  repr : Json → String

namespace TokenSettings

variable {Key : Type} (settings : TokenSettings Key)

/-- `_identity_provider` and `_subject_verifier` made these ports of the service. -/
structure Wires (svc : GovernedExecutionService) : Prop where
  identity : svc.identityProvider = settings.mode.provider settings.callers settings.repr
  subject : svc.subjectVerifier =
    if settings.verifiesSubjects then
      some (oidcSubjectVerifier settings.users settings.repr settings.subjectAudience
        settings.subjectIssuer settings.subjectRoleClaim).verify
    else none

def ProvesAgent (token : String) (agent : AgentIdentity) : Prop :=
  settings.mode.Proves settings.callers settings.repr token agent

/-- The subject token proves the user, with the roles that its claim lists. -/
def ProvesSubject (token : String) (subject : SubjectIdentity) : Prop :=
  ∃ claims, settings.users.AcceptsListed settings.subjectAudience settings.subjectIssuer token
      claims ∧ hasSubject claims = true ∧
    subject.subjectId = settings.subjectIssuer ++ "#" ++
      pyStr settings.repr ((claims.get? "sub").getD .null) ∧
    subject.roles = claimStrings settings.repr
      (resolveDottedClaim claims settings.subjectRoleClaim)

/-- The call is the agent's, and if it names a user, the one that the subject token proves and that the
agent may act for. -/
structure Of (r : GatewayRequest) (agent : AgentIdentity) (call : ToolCallRequest) : Prop where
  caller : call.agent = agent
  user : ∀ subject, call.subject = some subject →
    settings.ProvesSubject (subjectToken r.headers) subject ∧
      bindSubject agent subject r.svc.subjectBinding = .ok ()

/-- What a request brokers or forwards is in the name of the agent and of the user behind it. -/
structure InNameOf (r : GatewayRequest) (token : String) (agent : AgentIdentity) (ev : Event) :
    Prop where
  sponsored : (present agent.humanSponsor).isSome = true → subjectToken r.headers ≠ ""
  exchanged : ∀ asked audience answer, ev = .exchange asked audience answer →
    asked = presentedToken r.headers token agent ∧ audience = r.svc.delegatedAudience
  forwarded : ∀ call credential answer, ev = .forward call credential answer →
    settings.Of r agent call ∧
      r.svc.tokenExchange (presentedToken r.headers token agent) r.svc.delegatedAudience =
        .ok credential

variable {settings} {svc : GovernedExecutionService} {headers : Headers} {agent : AgentIdentity}

theorem Wires.provesAgent (h : settings.Wires svc)
    (hidentify : svc.identityProvider headers = .ok agent) :
    ∃ token, bearerToken headers = some token ∧ settings.ProvesAgent token agent := by
  rw [h.identity] at hidentify
  exact TokenMode.proves_of_provider hidentify

theorem Wires.provesSubject (h : settings.Wires svc) {built call : ToolCallRequest}
    {events : List Event}
    (hresolved : GovernedExecutionService.Resolved svc headers agent built call events)
    (hbuilt : built.subject = none) {subject : SubjectIdentity}
    (hsubject : call.subject = some subject) :
    settings.ProvesSubject (subjectToken headers) subject ∧
      bindSubject agent subject svc.subjectBinding = .ok () := by
  cases hresolved with
  | autonomous =>
    rw [hbuilt] at hsubject
    cases hsubject
  | delegated verify verified hverifier htoken hverify hbind =>
    cases hsubject
    refine ⟨?_, hbind⟩
    rw [h.subject] at hverifier
    split_ifs at hverifier
    cases hverifier
    unfold OidcSubjectVerifier.verify at hverify
    rw [if_neg htoken] at hverify
    obtain ⟨claims, hclaims, hverify⟩ := bind_except_ok hverify
    by_cases hsub : ((claims.get? "sub").getD .null).truthy = true
    · simp only [hsub, if_true] at hverify
      cases hverify
      exact ⟨claims, PyJwt.verify_ok_iff.mp (decodeOrRefuse_ok hclaims), hsub, rfl, rfl⟩
    · simp [hsub] at hverify

end TokenSettings

namespace Deployment

variable {Req : Type} [DecidableEq Req] {d : Deployment Req}
variable {s : State Req}
variable {Key : Type} {settings : TokenSettings Key}

/-- What the policy is asked about was put together from the agent and the user of the request. -/
theorem evaluated_of_mem (h : d.system.Reachable s) {t : Req} {call : ToolCallRequest}
    {answer : Except Exc PolicyDecision} (hmem : (t, .evaluate call answer) ∈ s.log) :
    ∃ recorded, .evaluate call answer ∈ (((d.request t).svc.withLedger recorded).authorizeCore
      (d.request t).headers (d.request t).payload).trace := by
  have hview : .evaluate call answer ∈ s.view t := Parties.mem_view.mpr hmem
  obtain hearly | ⟨recorded, -, hscript⟩ :=
    GatewayRequest.runs_inv (Parties.runs_of_reachable h t)
  · exact ⟨.error valueError,
      GovernedExecutionService.decideCall_begins.subset (hearly.subset hview)⟩
  · have hmem' := hscript.subset hview
    unfold GatewayRequest.script at hmem'
    cases hkind : (d.request t).kind with
    | authorize =>
      rw [hkind] at hmem'
      exact ⟨recorded, hmem'⟩
    | execute =>
      rw [hkind] at hmem'
      exact ⟨recorded, GovernedExecutionService.evaluate_mem_core hmem'⟩

/-- Under any interleaving of replicas that read tokens: each receipt bears the SPIFFE id that the
token of its request proves, and whatever was brokered or forwarded was so in the name of that agent,
with a credential for its token or for its sponsor's, never with a placeholder; and of every call that
the policy is asked about, agent and user are those that the tokens prove. -/
theorem principals_proved (h : d.system.Reachable s) (hwires : ∀ t, settings.Wires (d.request t).svc) :
    (∀ t b, s.store.phase t = .committed b →
      ∃ token agent, bearerToken (d.request t).headers = some token ∧
        settings.ProvesAgent token agent ∧ b.receipt.spiffeId = agent.spiffeId) ∧
    (∀ t ev, (t, ev) ∈ s.log → ev.isExchange = true ∨ ev.isForward = true →
      ∃ token agent, bearerToken (d.request t).headers = some token ∧
        settings.ProvesAgent token agent ∧ settings.InNameOf (d.request t) token agent ev) ∧
    ∀ t call answer, (t, .evaluate call answer) ∈ s.log →
      ∃ token agent, bearerToken (d.request t).headers = some token ∧
        settings.ProvesAgent token agent ∧ settings.Of (d.request t) agent call := by
  have hwired : ∀ t recorded, settings.Wires ((d.request t).svc.withLedger recorded) :=
    fun t _ => ⟨(hwires t).identity, (hwires t).subject⟩
  refine ⟨?_, ?_, ?_⟩
  · intro t b hphase
    obtain ⟨-, agent, call, decision, shadowable, hdecided, -, -, -, rfl⟩ :=
      signed_of_committed h hphase
    obtain ⟨hidentify, -⟩ := GovernedExecutionService.decideCall_inv hdecided
    obtain ⟨token, hbearer, hproves⟩ := (hwires t).provesAgent hidentify
    exact ⟨token, agent, hbearer, hproves, rfl⟩
  · intro t ev hmem heffect
    obtain ⟨recorded, -, -, -, hexecuted⟩ := executed_of_effect h hmem heffect
    obtain ⟨run, hallowed, hproceed⟩ :=
      GovernedExecutionService.proceeds_of_effect hexecuted heffect
    obtain ⟨token, hbearer, hproves⟩ := (hwires t).provesAgent run.identified
    have hagent : run.outcome.call.agent = run.agent := run.call_agent
    refine ⟨token, run.agent, hbearer, hproves, ?_⟩
    have hinv := GovernedExecutionService.proceed_inv hallowed hproceed
    rw [hagent] at hinv
    have hbroker := @GovernedExecutionService.brokerCredential_of_bearer
      ((d.request t).svc.withLedger recorded) (d.request t).headers run.agent token hbearer
    obtain ⟨e, hraise⟩ | ⟨hsponsored, hexchange⟩ := hbroker
    · rw [hraise] at hinv
      obtain hnone | ⟨credential, hcredential, -⟩ := hinv
      · cases hnone
      · cases hcredential
    · rw [hexchange] at hinv
      refine ⟨hsponsored, ?_, ?_⟩
      · rintro asked audience answer rfl
        obtain hasked | ⟨credential, -, hforward⟩ := hinv
        · cases List.mem_singleton.mp hasked
          exact ⟨rfl, rfl⟩
        · cases hforward
      · rintro call credential answer rfl
        obtain hasked | ⟨credential', hcredential, hforward⟩ := hinv
        · cases List.mem_singleton.mp hasked
        · cases hforward
          exact ⟨⟨hagent, fun subject hsubject => (hwired t recorded).provesSubject run.resolved
            (buildCall_ok run.builtOk).2.2 hsubject⟩, hcredential⟩
  · intro t call answer hmem
    obtain ⟨recorded, hcore⟩ := evaluated_of_mem h hmem
    obtain ⟨agent, registration, built, events, hidentify, -, hbuilt, hresolved, -⟩ :=
      GovernedExecutionService.evaluate_inv hcore
    obtain ⟨token, hbearer, hproves⟩ := (hwires t).provesAgent hidentify
    obtain ⟨hagent, -, hsubjectless⟩ := buildCall_ok hbuilt
    refine ⟨token, agent, hbearer, hproves, ?_, fun subject hsubject => ?_⟩
    · rw [hresolved.frame.1]
      exact hagent
    · exact (hwired t recorded).provesSubject hresolved hsubjectless hsubject

end Deployment

/-! ## An SVID and a user -/

section Svid

/-- A trust domain in which every token is one and the same. -/
def oneToken (claims : Dict) : PyJwt Unit where
  header := fun _ => .ok { alg := some "RS256", kid := none }
  fits := fun _ _ => true
  check := fun options _ _ =>
    if options.required.all fun claim => (claims.get? claim).isSome then .ok claims
    else .error "Token is missing a claim"
  check_required := by
    intro options key token claims' h claim hclaim
    split_ifs at h with hall
    cases h
    exact Option.isSome_iff_exists.mp (List.all_eq_true.mp hall claim hclaim)
  signingKey := fun _ => some ()

def svidSettings : TokenSettings Unit where
  mode := .jwtSvid () "openagent-control"
  callers := oneToken [
    ("sub", .str fixedAgent.spiffeId),
    ("exp", .int 4102444800),
    ("aud", .str "openagent-control")]
  verifiesSubjects := true
  users := oneToken [
    ("iss", .str "idp"),
    ("sub", .str "alice"),
    ("exp", .int 4102444800),
    ("aud", .str "openagent-control"),
    ("roles", .arr [.str "analyst"])]
  subjectAudience := "openagent-control"
  subjectIssuer := "idp"
  subjectRoleClaim := "roles"
  repr := fun _ => ""

def svidRequest (kind : RequestKind) : GatewayRequest where
  kind
  svc := { GovernedExecutionService.fixed fixedAgent (some fixedRecord) ⟨.allow, ""⟩ with
    identityProvider := svidSettings.mode.provider svidSettings.callers svidSettings.repr
    subjectVerifier := some (oidcSubjectVerifier svidSettings.users svidSettings.repr
      svidSettings.subjectAudience svidSettings.subjectIssuer svidSettings.subjectRoleClaim).verify }
  headers := [("authorization", "Bearer agent-token"), ("x-subject-token", "alice-token")]
  payload := authorizePayload "read_query" []

def svidCall : ToolCallRequest where
  method := "tools/call"
  toolName := some "read_query"
  agent := fixedAgent
  registration := some fixedRecord
  subject := some { subjectId := "idp#alice", issuer := "idp", roles := ["analyst"] }

theorem svidRequest_decided (kind : RequestKind) :
    (svidRequest kind).decided.result = .ok (fixedAgent, svidCall, ⟨.allow, ""⟩, true) := by
  cases kind <;> decide +kernel

/-- A call for a user, and a question of the same agent whether it may make that call. -/
def svidPair : Deployment Bool where
  key := LedgerConfig.echoKey
  backend := .postgres
  request := fun asks => svidRequest (if asks then .authorize else .execute)

theorem svidPair_forwards :
    Event.forward svidCall "exchanged:agent-token" (.ok (.obj [("result", .obj [])])) ∈
      (svidPair.request false).script (.ok (svidPair.pairReceipt false).toReceipt) := by
  decide +kernel

theorem svidPair_asks :
    Event.evaluate svidCall (.ok ⟨.allow, ""⟩) ∈
      (svidPair.request true).script (.ok (svidPair.pairReceipt true).toReceipt) := by
  decide +kernel

theorem svidPair_wires (t : Bool) : svidSettings.Wires (svidPair.request t).svc where
  identity := rfl
  subject := rfl

theorem svidPair_proved : ∃ s, svidPair.system.Reachable s ∧
    (∃ ev token agent, (false, ev) ∈ s.log ∧ ev.isForward = true ∧
      bearerToken (svidPair.request false).headers = some token ∧
      svidSettings.ProvesAgent token agent ∧
      svidSettings.InNameOf (svidPair.request false) token agent ev) ∧
    svidSettings.ProvesSubject "alice-token"
      { subjectId := "idp#alice", issuer := "idp", roles := ["analyst"] } := by
  have hdecided : ∀ t, ∃ result, (svidPair.request t).decided.result = .ok result :=
    fun t => ⟨_, svidRequest_decided _⟩
  obtain ⟨s, hreached, -, hviews⟩ := Deployment.pair_reachable svidPair hdecided
  have hforward := Parties.mem_view.mp (hviews false ▸ svidPair_forwards)
  have hasked := Parties.mem_view.mp (hviews true ▸ svidPair_asks)
  obtain ⟨-, heffects, hcalls⟩ := Deployment.principals_proved hreached svidPair_wires
  obtain ⟨token, agent, hbearer, hproves, hname⟩ := heffects false _ hforward (Or.inr rfl)
  obtain ⟨-, proven, -, -, hof⟩ := hcalls true _ _ hasked
  exact ⟨s, hreached, ⟨_, token, agent, hforward, rfl, hbearer, hproves, hname⟩,
    (hof.user _ rfl).1⟩

end Svid

end OpenAgentControl
