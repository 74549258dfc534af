import OpenAgentControl.Adapters.TokenExchange.Caching
import OpenAgentControl.Application.Provenance
import OpenAgentControl.Gateway.Replicas

/-! # Whose credential a call is forwarded with

The replicas exchange tokens through one cache, whose keys can confuse two calls of `exchange` with
different audiences. All calls of a deployment have one audience, and then none is confused: whatever
the interleaving, a request is forwarded with what the token endpoint answered to its own token
(`credential_own`). -/

namespace OpenAgentControl
set_option autoImplicit false
set_option maxHeartbeats 250000

open Foundations

namespace CachingTokenExchange

/-- Of two calls that the key confuses, one has the longer audience. -/
theorem not_ambiguous_of_one_audience {calls : Set (String × String)} {audience : String}
    (h : ∀ p ∈ calls, p.2 = audience) : ¬ Ambiguous calls := by
  rintro ⟨s, m, a, hfirst, hsecond⟩
  have hsame : m ++ ":" ++ a = a := (h _ hfirst).trans (h _ hsecond).symm
  have hlength := congrArg (fun text => text.toList.length) hsame
  simp only [String.toList_append, List.length_append] at hlength
  have hone : ":".toList.length = 1 := by simp
  omega

/-- A call returns what the inner exchange answered to a call for the same. -/
theorem answered_own {Id : Type} [DecidableEq Id] {x : CachingTokenExchange}
    {request : Id → String × String} (hsha : x.CollisionFreeOn (Set.range request))
    (hcalls : ¬ Ambiguous (Set.range request)) {steps : ExpiringCache.Steps ℚ Id String String Exc}
    {c : CallState ℚ Id String String Exc} (hrun : (x.cache request).system.Run steps c) {i : Id}
    {credential : String} (hresult : (c.phase i).result = some credential) :
    ∃ j, request j = request i ∧ ExpiringCache.Answered steps j credential := by
  obtain hanswered | ⟨⟨j, hanswered, hkey⟩, -⟩ :=
    (ExpiringCache.produced hrun).2 i credential (CallPhase.held_of_result hresult)
  · exact ⟨i, rfl, hanswered⟩
  · obtain ⟨htoken, haudience⟩ := eq_of_cacheKey_eq hsha hcalls ⟨j, rfl⟩ ⟨i, rfl⟩ hkey
    exact ⟨j, Prod.ext htoken haudience, hanswered⟩

end CachingTokenExchange

namespace GovernedExecutionService

theorem Brokered.exchanges {svc : GovernedExecutionService} {agent : AgentIdentity} {headers : Headers}
    {credential : String} {events : List Event} (h : Brokered svc agent headers credential events) :
    match brokeredToken headers agent with
    | some token => svc.tokenExchange token svc.delegatedAudience = .ok credential
    | none => credential = autonomousPlaceholder agent := by
  cases h with
  | sponsored sponsor credential hsponsor htoken hexchange =>
    simp only [brokeredToken, hsponsor, Option.isSome_some, if_true]
    exact hexchange
  | bearer token credential hsponsor hbearer hexchange =>
    simp only [brokeredToken, hsponsor, hbearer, Option.isSome_none, Bool.false_eq_true, if_false]
    exact hexchange
  | placeholder hsponsor hbearer => simp [brokeredToken, hsponsor, hbearer]

end GovernedExecutionService

namespace Deployment

variable {Req : Type} [DecidableEq Req] {d : Deployment Req}
variable {s : State Req}

theorem forwarded_run (h : d.system.Reachable s) {t : Req} {call : ToolCallRequest}
    {credential : String} {answer : Except Exc Json}
    (hmem : (t, .forward call credential answer) ∈ s.log) :
    ∃ recorded, ∃ f : ((d.request t).svc.withLedger recorded).ForwardedRun (d.request t).headers
      (d.request t).payload, f.run.call = call ∧ f.credential = credential := by
  obtain ⟨recorded, -, -, -, hexecuted⟩ := executed_of_effect h hmem (Or.inr rfl)
  obtain ⟨f, hforwarded, -⟩ := GovernedExecutionService.forward_inv hexecuted rfl
  cases hforwarded
  exact ⟨recorded, f, rfl, rfl⟩

/-- The exchanges of the requests are calls of one cache: each request asks for its own, and is given
what its call returned. -/
structure BrokersThrough (d : Deployment Req) (ask : Req → String × String)
    (c : CallState ℚ Req String String Exc) : Prop where
  asks : ∀ t agent token, (d.request t).svc.identityProvider (d.request t).headers = .ok agent →
    GovernedExecutionService.brokeredToken (d.request t).headers agent = some token →
      ask t = (token, (d.request t).svc.delegatedAudience)
  returns : ∀ t credential, (d.request t).svc.tokenExchange (ask t).1 (ask t).2 = .ok credential →
    (c.phase t).result = some credential

/-- Under any interleaving of the replicas and of the calls of the cache, and whatever is evicted from
it: a call is forwarded with what the token endpoint answered for the very token of its request, which
is the sponsor's or the agent's own, and the audience of the deployment; or it has no token. -/
theorem credential_own (h : d.system.Reachable s) {x : CachingTokenExchange}
    {ask : Req → String × String} (hsha : x.CollisionFreeOn (Set.range ask)) {audience : String}
    (haudience : ∀ t, (ask t).2 = audience) {steps : ExpiringCache.Steps ℚ Req String String Exc}
    {c : CallState ℚ Req String String Exc} (hrun : (x.cache ask).system.Run steps c)
    (hbrokers : d.BrokersThrough ask c) {t : Req} {call : ToolCallRequest} {credential : String}
    {answer : Except Exc Json} (hmem : (t, .forward call credential answer) ∈ s.log) :
    match GovernedExecutionService.brokeredToken (d.request t).headers call.agent with
    | some token => ∃ u, ask u = (token, audience) ∧ ExpiringCache.Answered steps u credential
    | none => credential = GovernedExecutionService.autonomousPlaceholder call.agent := by
  have hcalls : ¬ CachingTokenExchange.Ambiguous (Set.range ask) :=
    CachingTokenExchange.not_ambiguous_of_one_audience (Set.forall_mem_range.mpr haudience)
  obtain ⟨recorded, f, rfl, rfl⟩ := forwarded_run h hmem
  have hidentify : (d.request t).svc.identityProvider (d.request t).headers = .ok f.run.call.agent :=
    f.run.call_agent ▸ f.run.identified
  have hexchanges := f.brokered.exchanges
  cases htoken : GovernedExecutionService.brokeredToken (d.request t).headers f.run.call.agent with
  | none =>
    rw [htoken] at hexchanges
    exact hexchanges
  | some token =>
    rw [htoken] at hexchanges
    have hask := hbrokers.asks t _ token hidentify htoken
    have hresult := hbrokers.returns t f.credential (by rw [hask]; exact hexchanges)
    obtain ⟨u, hsame, hanswered⟩ := CachingTokenExchange.answered_own hsha hcalls hrun hresult
    exact ⟨u, hsame.trans (Prod.ext (by rw [hask]) (haudience t)), hanswered⟩

end Deployment

/-! ## Two agents of one sponsor -/

section Sponsored

open CachingTokenExchange

def sponsoredBy (spiffeId : String) : AgentIdentity where
  spiffeId
  humanSponsor := some "idp#alice"

def sponsored (second : Bool) : AgentIdentity :=
  sponsoredBy (if second then "spiffe://corp/other-agent" else "spiffe://corp/agent")

/-- Two agents call a tool, each with the token of the sponsor they share. -/
def sponsoredPair : Deployment Bool where
  key := LedgerConfig.echoKey
  backend := .postgres
  request := fun second => {
    kind := .execute
    svc := GovernedExecutionService.fixed (sponsored second) (some fixedRecord) ⟨.allow, ""⟩
    headers := [("x-subject-token", "alice-token")]
    payload := authorizePayload "read_query" [] }

def sponsoredAsks (_ : Bool) : String × String := ("alice-token", "upstream")

def sponsoredCall (second : Bool) : ToolCallRequest where
  method := "tools/call"
  toolName := some "read_query"
  agent := sponsored second
  registration := some fixedRecord

theorem sponsoredPair_token (second : Bool) : GovernedExecutionService.brokeredToken
    (sponsoredPair.request second).headers (sponsored second) = some "alice-token" := by
  cases second <;> decide

theorem sponsoredPair_forwards (second : Bool) :
    Event.forward (sponsoredCall second) "exchanged:alice-token" (.ok (.obj [("result", .obj [])])) ∈
      (sponsoredPair.request second).script (.ok (sponsoredPair.pairReceipt second).toReceipt) := by
  cases second <;> decide +kernel

/-- The cache is filled by the first call, and serves the second. -/
theorem shared_exchange (token : String) :
    ∃ steps c, (opaqueTokens.cache sponsoredAsks).system.Run steps c ∧
      (∀ u v, ExpiringCache.Answered steps u v → u = false) ∧
      (∀ second, (c.phase second).result = some token) := by
  have httl : (opaqueTokens.cache sponsoredAsks).ttl token 0 = .ok 30 := rfl
  obtain ⟨steps, c, hrun, hanswers, -, hreturned, hserved⟩ :=
    ExpiringCache.reuse (i := false) (j := true) (by decide) rfl httl (by norm_num) (le_refl 0)
      (by norm_num)
  refine ⟨steps, c, hrun, fun u v hanswered => (hanswers u v hanswered).1, fun second => ?_⟩
  cases second with
  | false => rw [hreturned]; rfl
  | true => rw [hserved]; rfl

theorem sponsoredPair_brokers {c : CallState ℚ Bool String String Exc}
    (hresult : ∀ second, (c.phase second).result = some "exchanged:alice-token") :
    sponsoredPair.BrokersThrough sponsoredAsks c where
  asks t agent token hidentify htoken := by
    cases hidentify
    cases (sponsoredPair_token t).symm.trans htoken
    rfl
  returns t credential hexchange := by
    cases hexchange
    exact hresult t

/-- The second agent is served from the cache what the first one was answered for the same token. -/
theorem sponsoredPair_own : ∃ steps : ExpiringCache.Steps ℚ Bool String String Exc,
    sponsoredAsks false = ("alice-token", "upstream") ∧
      ExpiringCache.Answered steps false "exchanged:alice-token" ∧
      ¬ ExpiringCache.Answered steps true "exchanged:alice-token" := by
  have hdecided : ∀ t, ∃ result, (sponsoredPair.request t).decided.result = .ok result := by
    intro t
    cases t with
    | false => exact ⟨_, rfl⟩
    | true => exact ⟨_, rfl⟩
  obtain ⟨s, hreached, -, hviews⟩ := Deployment.pair_reachable sponsoredPair hdecided
  obtain ⟨steps, c, hrun, hfirst, hresult⟩ := shared_exchange "exchanged:alice-token"
  have hsha : opaqueTokens.CollisionFreeOn (Set.range sponsoredAsks) :=
    opaqueTokens_collisionFree _
  have hmem := hviews true ▸ sponsoredPair_forwards true
  have hown := Deployment.credential_own hreached hsha (fun _ => rfl) hrun
    (sponsoredPair_brokers hresult) (Parties.mem_view.mp hmem)
  rw [show (sponsoredCall true).agent = sponsored true from rfl, sponsoredPair_token] at hown
  obtain ⟨u, hask, hanswered⟩ := hown
  obtain rfl := hfirst _ _ hanswered
  exact ⟨steps, hask, hanswered, fun habs => absurd (hfirst _ _ habs) (by decide)⟩

end Sponsored

end OpenAgentControl
