import OpenAgentControl.Adapters.McpUpstream.Transports
import OpenAgentControl.Adapters.TokenExchange
import OpenAgentControl.Application.Listing

/-! # Failures after an allowed decision

An `execute` over one of the token exchanges and the raw upstream adapter, from the decision on: which
answers of the two servers come back to the caller as a reply or as an error that tells it to stop,
and which escape as an exception. -/

namespace OpenAgentControl
set_option autoImplicit false
set_option maxHeartbeats 250000

open Foundations

/-! ## Answers of the upstream -/

/-- A listing whose tools all have a name that can be looked up in a set. -/
def Listable (call : ToolCallRequest) (fields : Dict) : Prop :=
  call.method = "tools/list" → ∀ result tools, toolsOf? fields = some (result, tools) →
    tools.all hashableTool = true

/-- The answer is a failure the adapter reports, or an object that the filter of the listing takes. -/
def UpstreamReadable (call : ToolCallRequest) : HttpOutcome → Prop
  | .httpError _ => True
  | .raised e => ∃ message, e = .upstream message
  | .success body => ∃ fields, body = some (.obj fields) ∧ Listable call fields

theorem filterListing_cases (call : ToolCallRequest) (fields : Dict) :
    (Listable call fields ∧ ∃ kept, filterListing (.obj fields) call = .ok (.obj kept)) ∨
    (¬ Listable call fields ∧ filterListing (.obj fields) call = .error typeError) := by
  by_cases hlist : call.method = "tools/list"
  · cases htools : toolsOf? fields with
    | none =>
      refine Or.inl ⟨?_, fields, filterListing_none htools⟩
      intro _ result tools hsome
      rw [htools] at hsome
      cases hsome
    | some found =>
      obtain ⟨result, tools⟩ := found
      rw [filterListing_some hlist htools, projectTools_eq]
      by_cases hall : tools.all hashableTool = true
      · rw [if_pos hall]
        refine Or.inl ⟨?_, _, rfl⟩
        intro _ result' tools' hsome
        rw [htools] at hsome
        cases hsome
        exact hall
      · rw [if_neg hall]
        exact Or.inr ⟨fun h => hall (h hlist result tools htools), rfl⟩
  · exact Or.inl ⟨fun h => absurd h hlist, fields, if_pos hlist⟩

/-- A body that is no object passes the filter as it is, or breaks it. -/
theorem filterListing_of_not_obj {call : ToolCallRequest} {body : Json}
    (h : ∀ fields, body ≠ .obj fields) :
    filterListing body call = .ok body ∨ ∃ name, filterListing body call = .error (.other name) := by
  unfold filterListing
  split_ifs with hlist
  · exact Or.inl rfl
  cases body with
  | obj fields => exact absurd rfl (h fields)
  | arr items =>
    simp only
    split_ifs
    · exact Or.inr ⟨_, rfl⟩
    · exact Or.inl rfl
  | str s =>
    simp only
    split_ifs
    · exact Or.inr ⟨_, rfl⟩
    · exact Or.inl rfl
  | _ => exact Or.inr ⟨_, rfl⟩

namespace GovernedExecutionService

variable (svc : GovernedExecutionService) (exchanger : TokenExchanger) (upstream : HttpMCPUpstream)
  (headers : Headers)

/-- The service with these adapters behind its ports. -/
def withAdapters : GovernedExecutionService :=
  { svc with
    tokenExchange := exchanger.exchange
    mcpUpstream := fun call credential => (upstream.forward call credential).result }

/-- The token that a call exchanges, if it exchanges one. -/
def tokenOf (agent : AgentIdentity) : Option String :=
  match present agent.humanSponsor with
  | some _ => some (subjectToken headers)
  | none => bearerToken headers

/-- A call for a sponsor comes with a subject token. -/
def HasToken (agent : AgentIdentity) : Prop :=
  present agent.humanSponsor ≠ none → subjectToken headers ≠ ""

/-- What the upstream answers to the call with the credential. -/
def upstreamAnswer (call : ToolCallRequest) (credential : String) : HttpOutcome :=
  upstream.post (bearerHeaders credential) (HttpMCPUpstream.payload call)

/-- The run returns an object: what the upstream replied, as far as the caller may see it, or an error
that tells it to stop. -/
def RepliesOrStops (call : ToolCallRequest) (result : Except Exc Json) : Prop :=
  ∃ response, result = .ok (.obj response) ∧
    ((∃ credential fields, upstreamAnswer upstream call credential = .success (some (.obj fields)) ∧
        filterListing (.obj fields) call = .ok (.obj response)) ∨
      ∃ code message, .obj response =
        jsonrpcError call.requestId code message reportInstruction)

/-- The condition: each server that is asked answers with a failure its adapter reports, or with an
object; and the tools of a listing have names that can be looked up. -/
def DownstreamReadable (call : ToolCallRequest) : Prop :=
  match tokenOf headers call.agent with
  | none =>
    UpstreamReadable call (upstreamAnswer upstream call (autonomousPlaceholder call.agent))
  | some token =>
    match accessTokenIn exchanger.server.repr (exchanger.answer token svc.delegatedAudience) with
    | none => TokenReadable (exchanger.answer token svc.delegatedAudience)
    | some credential => UpstreamReadable call (upstreamAnswer upstream call credential)

variable {svc exchanger upstream headers} {call : ToolCallRequest} {credential : String}

theorem forwardCall_result :
    (svc.forwardCall call credential).result =
      match svc.mcpUpstream call credential >>= fun response => filterListing response call with
      | .ok response => .ok response
      | .error (.upstream message) =>
        .ok (jsonrpcError call.requestId (-32002) ("Upstream execution failed: " ++ message)
          reportInstruction)
      | .error e => .error e := by
  unfold forwardCall
  simp only
  rw [Traced.bind_of_ok (Traced.attempt_result _)]
  cases hforward : svc.mcpUpstream call credential with
  | ok response =>
    rw [Traced.bind_of_ok (Traced.perform_result _ _)]
    simp only [Traced.ofExcept_result, bind, Except.bind]
    cases filterListing response call with
    | ok projected => rfl
    | error e =>
      cases e with
      | _ => rfl
  | error e =>
    rw [Traced.bind_of_error (Traced.perform_result _ _)]
    cases e with
    | _ => rfl

theorem not_replies_of_error {e : Exc} : ¬ RepliesOrStops upstream call (.error e) := by
  rintro ⟨response, h, -⟩
  cases h

theorem replies_of_report (code : ℤ) (message : String) :
    RepliesOrStops upstream call
      (.ok (jsonrpcError call.requestId code message reportInstruction)) :=
  ⟨_, rfl, Or.inr ⟨code, message, rfl⟩⟩

/-- What the upstream adapter makes of an answer. -/
def forwarded : HttpOutcome → Except Exc Json
  | .httpError message => .error (.upstream message)
  | .raised e => .error e
  | .success none => .error jsonDecodeError
  | .success (some body) => .ok body

theorem forward_replies_iff :
    RepliesOrStops upstream call
        ((svc.withAdapters exchanger upstream).forwardCall call credential).result ↔
      UpstreamReadable call (upstreamAnswer upstream call credential) := by
  rw [forwardCall_result]
  have hupstream : (svc.withAdapters exchanger upstream).mcpUpstream call credential =
      forwarded (upstreamAnswer upstream call credential) := rfl
  rw [hupstream]
  cases hanswer : upstreamAnswer upstream call credential with
  | httpError message => exact iff_of_true (replies_of_report _ _) trivial
  | raised e =>
    cases e with
    | upstream message => exact iff_of_true (replies_of_report _ _) ⟨message, rfl⟩
    | _ => exact iff_of_false not_replies_of_error nofun
  | success body =>
    cases body with
    | none => exact iff_of_false not_replies_of_error nofun
    | some body =>
      by_cases hobject : ∃ fields, body = .obj fields
      · obtain ⟨fields, rfl⟩ := hobject
        have hreadable : UpstreamReadable call (.success (some (.obj fields))) ↔
            Listable call fields := by
          constructor
          · rintro ⟨fields', heq, hlistable⟩
            cases heq
            exact hlistable
          · exact fun h => ⟨fields, rfl, h⟩
        rw [hreadable]
        simp only [forwarded, bind, Except.bind]
        obtain ⟨hlistable, kept, hfilter⟩ | ⟨hlistable, hfilter⟩ := filterListing_cases call fields
        · rw [hfilter]
          exact iff_of_true ⟨kept, rfl, Or.inl ⟨credential, fields, hanswer, hfilter⟩⟩ hlistable
        · rw [hfilter]
          exact iff_of_false not_replies_of_error hlistable
      · have hnot : ∀ fields, body ≠ .obj fields := fun fields heq => hobject ⟨fields, heq⟩
        refine iff_of_false ?_ ?_
        · simp only [forwarded, bind, Except.bind]
          obtain hfilter | ⟨name, hfilter⟩ := @filterListing_of_not_obj call body hnot
          · rw [hfilter]
            rintro ⟨response, heq, -⟩
            exact hnot response (Except.ok.inj heq)
          · rw [hfilter]
            exact not_replies_of_error
        · rintro ⟨fields, heq, -⟩
          exact hnot fields (Option.some.inj heq)

/-! ## Brokering -/

theorem brokerCredential_result {agent : AgentIdentity} (htoken : HasToken headers agent) :
    (svc.brokerCredential agent headers).result =
      match tokenOf headers agent with
      | none => .ok (autonomousPlaceholder agent)
      | some token => svc.tokenExchange token svc.delegatedAudience := by
  unfold brokerCredential tokenOf
  cases hsponsor : present agent.humanSponsor with
  | none =>
    simp only
    cases bearerToken headers with
    | none => rfl
    | some token => rfl
  | some sponsor =>
    have hnonempty : subjectToken headers ≠ "" := by
      refine htoken ?_
      rw [hsponsor]
      exact Option.some_ne_none sponsor
    simp only [if_neg hnonempty]
    rfl

theorem proceed_result {outcome : AuthorizationOutcome} (h : outcome.allowed = true) :
    (svc.proceed headers outcome).result =
      match (svc.brokerCredential outcome.call.agent headers).result with
      | .ok credential => (svc.forwardCall outcome.call credential).result
      | .error (.tokenExchange message) =>
        .ok (jsonrpcError outcome.call.requestId (-32004)
          ("Credential brokering failed: " ++ message) reportInstruction)
      | .error e => .error e := by
  unfold proceed
  simp only [h, if_true]
  rw [Traced.bind_of_ok (Traced.attempt_result _)]
  cases (svc.brokerCredential outcome.call.agent headers).result with
  | ok credential => rfl
  | error e =>
    cases e with
    | _ => rfl

/-- After an allowed decision for a call that has its token, a run replies or stops its caller exactly
when the answers of the two servers are readable. -/
theorem execute_replies_iff (svc : GovernedExecutionService) (exchanger : TokenExchanger)
    (upstream : HttpMCPUpstream) (headers : Headers) (payload : Dict) (outcome : AuthorizationOutcome)
    (hrun : ((svc.withAdapters exchanger upstream).authorizeCore headers payload).result =
      .ok outcome)
    (hallowed : outcome.allowed = true) (htoken : HasToken headers outcome.call.agent) :
    RepliesOrStops upstream outcome.call
        ((svc.withAdapters exchanger upstream).execute headers payload).result ↔
      svc.DownstreamReadable exchanger upstream headers outcome.call := by
  rw [execute_of_ok hrun]
  simp only
  rw [proceed_result hallowed, brokerCredential_result htoken]
  unfold DownstreamReadable
  cases tokenOf headers outcome.call.agent with
  | none => exact forward_replies_iff
  | some token =>
    obtain ⟨missing, hexchange⟩ := exchanger.exchange_eq
    have hport : (svc.withAdapters exchanger upstream).tokenExchange token
        (svc.withAdapters exchanger upstream).delegatedAudience =
        readAccessToken exchanger.server.repr missing
          (exchanger.answer token svc.delegatedAudience) := hexchange token svc.delegatedAudience
    simp only [hport]
    cases hcredential : accessTokenIn exchanger.server.repr
        (exchanger.answer token svc.delegatedAudience) with
    | some credential =>
      rw [readAccessToken_ok_iff.mpr hcredential]
      exact forward_replies_iff
    | none =>
      simp only
      rw [← @readAccessToken_error_iff exchanger.server.repr missing _ hcredential]
      cases hread : readAccessToken exchanger.server.repr missing
          (exchanger.answer token svc.delegatedAudience) with
      | ok credential =>
        rw [readAccessToken_ok_iff.mp hread] at hcredential
        cases hcredential
      | error e =>
        cases e with
        | tokenExchange message => exact iff_of_true (replies_of_report _ _) ⟨message, rfl⟩
        | _ => exact iff_of_false not_replies_of_error nofun

/-! ## A login page -/

/-- An authorization server behind a proxy that answers every request with a page. -/
def pageServer : TokenServer where
  clientId := "gateway"
  clientSecret := "secret"
  post _ _ := .success none
  repr _ := ""

def emptyUpstream : HttpMCPUpstream where
  post _ _ := .success (some (.obj [("result", .obj [])]))

def allowingService : GovernedExecutionService :=
  fixed fixedAgent (some fixedRecord) ⟨.allow, ""⟩

def agentHeaders : Headers := [("Authorization", "Bearer agent-token")]

def queryPayload : Dict :=
  [("method", .str "tools/call"), ("params", .obj [("name", .str "read_query")])]

theorem pageServer_run : ∃ outcome,
    ((allowingService.withAdapters (.rfc8693 pageServer) emptyUpstream).authorizeCore agentHeaders
      queryPayload).result = .ok outcome ∧
    outcome.allowed = true ∧ HasToken agentHeaders outcome.call.agent ∧
    ((allowingService.withAdapters (.rfc8693 pageServer) emptyUpstream).execute agentHeaders
      queryPayload).result = .error jsonDecodeError := by
  refine ⟨_, rfl, rfl, ?_, rfl⟩
  intro hsponsor
  exact absurd rfl hsponsor

theorem pageServer_replies_iff : ∃ outcome : AuthorizationOutcome, outcome.allowed = true ∧
    (RepliesOrStops emptyUpstream outcome.call
        ((allowingService.withAdapters (.rfc8693 pageServer) emptyUpstream).execute agentHeaders
          queryPayload).result ↔
      allowingService.DownstreamReadable (.rfc8693 pageServer) emptyUpstream agentHeaders
        outcome.call) := by
  obtain ⟨outcome, hrun, hallowed, htoken, -⟩ := pageServer_run
  exact ⟨outcome, hallowed, execute_replies_iff allowingService (.rfc8693 pageServer) emptyUpstream agentHeaders
    queryPayload outcome hrun hallowed htoken⟩

theorem pageServer_escapes : ∃ outcome,
    ((allowingService.withAdapters (.rfc8693 pageServer) emptyUpstream).authorizeCore agentHeaders
      queryPayload).result = .ok outcome ∧
    outcome.allowed = true ∧ HasToken agentHeaders outcome.call.agent ∧
    ¬ RepliesOrStops emptyUpstream outcome.call
      ((allowingService.withAdapters (.rfc8693 pageServer) emptyUpstream).execute agentHeaders
        queryPayload).result := by
  obtain ⟨outcome, hrun, hallowed, htoken, hresult⟩ := pageServer_run
  refine ⟨outcome, hrun, hallowed, htoken, ?_⟩
  rw [hresult]
  exact not_replies_of_error

end GovernedExecutionService

end OpenAgentControl
