import OpenAgentControl.Application.Runs
import OpenAgentControl.Adapters.Identity

/-! # Provenance of the forwarded credential

Which principal a decision was about is settled by the presence of a subject token; which token is
exchanged is settled later, by the sponsor of the agent. The module says what a forwarded run
exchanged, and exactly when that is the token of the principal policy saw. -/

namespace OpenAgentControl
set_option autoImplicit false
set_option maxHeartbeats 250000

open Foundations

/-- The token of the principal a call was decided for: the verified subject's, the sponsor's, or the
agent's own; `none` when the request carries no bearer token. -/
def principalToken (headers : Headers) (call : ToolCallRequest) : Option String :=
  if call.subject.isSome then some (subjectToken headers)
  else if (present call.agent.humanSponsor).isSome then some (subjectToken headers)
  else bearerToken headers

namespace GovernedExecutionService

variable {svc : GovernedExecutionService} {headers : Headers} {payload : Dict}

/-- The credential is the exchange of the principal's token, and the only one of the run; without a
token it is the placeholder, and nothing is exchanged. -/
def CredentialOfPrincipal (svc : GovernedExecutionService) (headers : Headers)
    (call : ToolCallRequest) (credential : String) (trace : List Event) : Prop :=
  match principalToken headers call with
  | some token =>
    trace.filter Event.isExchange = [.exchange token svc.delegatedAudience (.ok credential)]
  | none => trace.filter Event.isExchange = [] ∧ credential = autonomousPlaceholder call.agent

/-- Every forward of a run carries the credential of the principal policy saw. -/
def ProvenanceKept (svc : GovernedExecutionService) (headers : Headers) (trace : List Event) :
    Prop :=
  ∀ call credential answer, .forward call credential answer ∈ trace →
    svc.CredentialOfPrincipal headers call credential trace

def brokeredToken (headers : Headers) (agent : AgentIdentity) : Option String :=
  if (present agent.humanSponsor).isSome then some (subjectToken headers) else bearerToken headers

theorem Brokered.filter_isExchange {agent : AgentIdentity} {credential : String}
    {events : List Event} (h : Brokered svc agent headers credential events) :
    events.filter Event.isExchange =
        (brokeredToken headers agent).toList.map
          (fun token => .exchange token svc.delegatedAudience (.ok credential)) ∧
      (brokeredToken headers agent = none → credential = autonomousPlaceholder agent) := by
  cases h with
  | sponsored sponsor credential hsponsor htoken hexchange =>
    simp [brokeredToken, hsponsor, Event.isExchange]
  | bearer token credential hsponsor hbearer hexchange =>
    simp [brokeredToken, hsponsor, hbearer, Event.isExchange]
  | placeholder hsponsor hbearer => simp [brokeredToken, hsponsor, hbearer]

theorem ForwardedRun.filter_isExchange (f : svc.ForwardedRun headers payload) :
    f.trace.filter Event.isExchange =
      (brokeredToken headers f.run.call.agent).toList.map
        (fun token => .exchange token svc.delegatedAudience (.ok f.credential)) := by
  have hrun : f.run.trace.filter Event.isExchange = [] := by
    rw [f.run.filter_trace (fun _ _ => rfl) (fun _ _ => rfl)]
    rfl
  rw [trace, List.filter_append, List.filter_append, hrun, f.brokered.filter_isExchange.1]
  exact List.append_nil _

theorem ForwardedRun.credentialOfPrincipal_iff (f : svc.ForwardedRun headers payload) :
    svc.CredentialOfPrincipal headers f.run.call f.credential f.trace ↔
      principalToken headers f.run.call = brokeredToken headers f.run.call.agent := by
  have hexchange := f.filter_isExchange
  have hplaceholder := f.brokered.filter_isExchange.2
  unfold CredentialOfPrincipal
  rw [hexchange]
  cases hp : principalToken headers f.run.call with
  | none =>
    cases hb : brokeredToken headers f.run.call.agent with
    | none => simp [hplaceholder hb]
    | some token => simp
  | some token =>
    cases hb : brokeredToken headers f.run.call.agent with
    | none => simp
    | some token' => simp [eq_comm]

theorem principalToken_eq_brokeredToken {call : ToolCallRequest} :
    principalToken headers call = brokeredToken headers call.agent ↔
      call.subject = none ∨ (present call.agent.humanSponsor).isSome = true ∨
        bearerToken headers = some (subjectToken headers) := by
  unfold principalToken brokeredToken
  cases hsubject : call.subject with
  | none => simp
  | some subject =>
    cases hsponsor : present call.agent.humanSponsor with
    | some sponsor => simp
    | none => simp [eq_comm]

/-- The subject of a call that ran the whole shared half: present exactly when a verifier is
configured and the request carries a token. -/
theorem AuthorizedRun.subject_eq_none (run : svc.AuthorizedRun headers payload) :
    run.call.subject = none ↔ svc.subjectVerifier = none ∨ subjectToken headers = "" := by
  have hresolved := run.resolved
  have hnone := (buildCall_ok run.builtOk).2.2
  generalize run.call = call at hresolved ⊢
  generalize run.subjectEvents = events at hresolved
  cases hresolved with
  | autonomous hauto => exact iff_of_true hnone hauto
  | delegated verify subject hverifier htoken hverify hbind =>
    refine iff_of_false (fun h => by cases h) ?_
    rintro (h | h)
    · rw [hverifier] at h
      cases h
    · exact htoken h

/-- Where the token policy's principal came with is the token that brokering exchanges. -/
def TokensAgree (svc : GovernedExecutionService) (headers : Headers) (agent : AgentIdentity) :
    Prop :=
  svc.subjectVerifier = none ∨ subjectToken headers = "" ∨
    (present agent.humanSponsor).isSome = true ∨ bearerToken headers = some (subjectToken headers)

/-- No forwarded credential is a token of the request: it was exchanged in the run, or it is the
placeholder of a request without a bearer token. -/
def Exchanged (svc : GovernedExecutionService) (headers : Headers) (agent : AgentIdentity)
    (credential : String) (trace : List Event) : Prop :=
  (∃ token, .exchange token svc.delegatedAudience (.ok credential) ∈ trace) ∨
    (credential = autonomousPlaceholder agent ∧ bearerToken headers = none)

theorem ForwardedRun.exchanged (f : svc.ForwardedRun headers payload) :
    svc.Exchanged headers f.run.call.agent f.credential f.trace := by
  have hbroker := f.brokered
  have htrace : f.trace = f.run.trace ++ f.brokerEvents ++ [f.forwarded] := rfl
  rw [htrace]
  generalize f.credential = credential at hbroker ⊢
  generalize f.brokerEvents = events at hbroker ⊢
  cases hbroker with
  | sponsored sponsor credential hsponsor htoken hexchange =>
    exact Or.inl ⟨subjectToken headers, by simp⟩
  | bearer token credential hsponsor hbearer hexchange => exact Or.inl ⟨token, by simp⟩
  | placeholder hsponsor hbearer => exact Or.inr ⟨rfl, hbearer⟩

/-- A forwarded credential is that of the principal policy saw exactly where the tokens agree.
Whatever they do, it was exchanged, and under the adapters that read a bearer token it is never the
placeholder. -/
theorem credentialOfPrincipal_iff_tokensAgree (svc : GovernedExecutionService) (headers : Headers)
    (payload : Dict) (call : ToolCallRequest) (credential : String) (answer : Except Exc Json)
    (h : .forward call credential answer ∈ (svc.execute headers payload).trace) :
    (svc.CredentialOfPrincipal headers call credential (svc.execute headers payload).trace ↔
      svc.TokensAgree headers call.agent) ∧
    svc.Exchanged headers call.agent credential (svc.execute headers payload).trace ∧
    (∀ adapter : IdentityAdapter, svc.identityProvider = adapter.identify →
      adapter.readsBearer = true →
        ∃ token, .exchange token svc.delegatedAudience (.ok credential) ∈
          (svc.execute headers payload).trace) := by
  obtain ⟨f, hforwarded, htrace⟩ := forward_inv h rfl
  cases hforwarded
  rw [htrace]
  refine ⟨?_, f.exchanged, ?_⟩
  · rw [f.credentialOfPrincipal_iff, principalToken_eq_brokeredToken, f.run.subject_eq_none,
      TokensAgree, or_assoc]
  · intro adapter hadapter hreads
    have hidentify := f.run.identified
    rw [hadapter] at hidentify
    obtain ⟨token, hbearer⟩ := IdentityAdapter.bearer_of_identify hidentify hreads
    obtain hexchanged | ⟨-, hnone⟩ := f.exchanged
    · exact hexchanged
    · rw [hbearer] at hnone
      cases hnone

/-- An agent without a sponsor, and a verifier that accepts the user's token. -/
def servingUsers : GovernedExecutionService :=
  { fixed fixedAgent (some fixedRecord) ⟨.allow, ""⟩ with
    subjectVerifier := some fun _ => .ok { subjectId := "idp#alice", issuer := "idp" } }

def servingHeaders : Headers :=
  [("Authorization", "Bearer agent-token"), ("X-Subject-Token", "user-token")]

theorem servingUsers_provenance :
    ¬ servingUsers.ProvenanceKept servingHeaders
      (servingUsers.execute servingHeaders [("method", .str "tools/list")]).trace := by
  intro h
  have hcredential : (servingUsers.execute servingHeaders
      [("method", .str "tools/list")]).trace.filter Event.isExchange =
        [.exchange "user-token" "upstream" (.ok "exchanged:agent-token")] :=
    h { method := "tools/list", agent := fixedAgent, registration := some fixedRecord,
        subject := some { subjectId := "idp#alice", issuer := "idp" } }
      "exchanged:agent-token" (.ok (.obj [("result", .obj [])])) (by decide)
  exact absurd hcredential (by decide)

theorem fixed_credentialOfPrincipal :
    ((fixed fixedAgent (some fixedRecord) ⟨.allow, ""⟩).CredentialOfPrincipal servingHeaders
        { method := "tools/list", agent := fixedAgent, registration := some fixedRecord }
        "exchanged:agent-token"
        ((fixed fixedAgent (some fixedRecord) ⟨.allow, ""⟩).execute servingHeaders
          [("method", .str "tools/list")]).trace ↔
      (fixed fixedAgent (some fixedRecord) ⟨.allow, ""⟩).TokensAgree servingHeaders fixedAgent) ∧
    (fixed fixedAgent (some fixedRecord) ⟨.allow, ""⟩).Exchanged servingHeaders fixedAgent
      "exchanged:agent-token"
      ((fixed fixedAgent (some fixedRecord) ⟨.allow, ""⟩).execute servingHeaders
        [("method", .str "tools/list")]).trace :=
  have h := credentialOfPrincipal_iff_tokensAgree
    (fixed fixedAgent (some fixedRecord) ⟨.allow, ""⟩) servingHeaders [("method", .str "tools/list")]
    { method := "tools/list", agent := fixedAgent, registration := some fixedRecord }
    "exchanged:agent-token" (.ok (.obj [("result", .obj [])])) (by decide)
  ⟨h.1, h.2.1⟩

end GovernedExecutionService

end OpenAgentControl
