import OpenAgentControl.Adapters.Policy.Ruling
import OpenAgentControl.Gateway.KillSwitch

/-! # The authority of a call, from the control plane to the gateway

With the shipped policy, what a gateway allows is entitled by a record that the control plane held not
long before the request looked it up (`authority_recent`), so that a tool taken from the grants of an
agent is refused once the TTL of the cache and the delay of its stores are over (`withdrawn_refused`). -/

namespace OpenAgentControl
set_option autoImplicit false
set_option maxHeartbeats 250000

open Foundations

/-! ## What the policy lets the service decide -/

namespace GovernedExecutionService

variable {svc : GovernedExecutionService} {engine : OPAPolicyEngine} {call : ToolCallRequest}

/-- An allow is one of the policy engine, for a listing or an entitled call. -/
theorem Decided.entitled (hserves : engine.ServesPolicy) (hengine : svc.policyEngine = engine.evaluate)
    {decision : PolicyDecision} {shadowable : Bool} {events : List Event}
    (h : Decided svc call decision shadowable events) (hallow : decision.decision = .allow) :
    (∃ record, call.registration = some record ∧ record.status = .active) ∧
      (call.method = "tools/list" ∨ call.Entitled) := by
  cases h with
  | orphan h => cases hallow
  | inactive record h hstatus => cases hallow
  | outage record message h hstatus herror => cases hallow
  | engine record decision h hstatus hevaluate =>
    rw [hengine] at hevaluate
    obtain ⟨-, hruling⟩ := (OPAPolicyEngine.evaluate_ok_iff hserves).mp hevaluate
    exact ⟨⟨record, h, hstatus⟩, ToolCallRequest.entitled_of_ruling hruling hallow⟩

end GovernedExecutionService

/-! ## Authority in time -/

/-- At a moment between the two, the control plane held an active record of the agent, and under it the
call is a listing or entitled. -/
def Operators.History.Backs {Op : Type} [DecidableEq Op] {ops : Operators Op} {Time : Type}
    [LinearOrder Time] (history : ops.History Time) (low high : Time) (call : ToolCallRequest) : Prop :=
  ∃ moment record, low ≤ moment ∧ moment ≤ high ∧
    history.held moment call.agent.spiffeId = some record ∧
    record.status = .active ∧ call.registration = some record ∧
    (call.method = "tools/list" ∨ call.Entitled)

namespace Deployment

variable {Req : Type} [DecidableEq Req] {d : Deployment Req}
variable {s : State Req} {engine : OPAPolicyEngine}

/-- What an allow was decided on. -/
theorem entitled_of_decided (hserves : engine.ServesPolicy) {r : GatewayRequest}
    (hengine : r.svc.policyEngine = engine.evaluate) {agent agent' : AgentIdentity}
    {answer : Option RegisteredAgent} (hidentify : r.svc.identityProvider r.headers = .ok agent)
    (hlookup : r.svc.agentRegistry agent.spiffeId = .ok answer) {call : ToolCallRequest}
    {decision : PolicyDecision} {shadowable : Bool}
    (hdecided : r.decided.result = .ok (agent', call, decision, shadowable))
    (hallow : decision.decision = .allow) :
    agent' = agent ∧ call.agent = agent ∧ ∃ record, answer = some record ∧ record.status = .active ∧
      call.registration = some record ∧ (call.method = "tools/list" ∨ call.Entitled) := by
  obtain ⟨hidentify', registration, built, events, hlookup', hbuilt, hcall, hdecision⟩ :=
    GovernedExecutionService.decideCall_inv hdecided
  obtain rfl : agent = agent' := Except.ok.inj (hidentify.symm.trans hidentify')
  obtain rfl : answer = registration := Except.ok.inj (hlookup.symm.trans hlookup')
  have hagent : call.agent = agent := by
    rw [hcall]
    exact (buildCall_ok hbuilt).1
  have hregistration : call.registration = answer := by
    rw [hcall]
    exact (buildCall_ok hbuilt).2.1
  obtain ⟨⟨record, hrecord, hactive⟩, hcase⟩ := hdecision.entitled hserves hengine hallow
  exact ⟨rfl, hagent, record, hregistration.symm.trans hrecord, hactive, hrecord, hcase⟩

/-- What was decided for a request that brokers or forwards. -/
theorem decided_of_effect (h : d.system.Reachable s) {t : Req} {ev : Event} (hmem : (t, ev) ∈ s.log)
    (heffect : ev.isExchange = true ∨ ev.isForward = true) :
    ∃ agent call decision shadowable,
      (d.request t).decided.result = .ok (agent, call, decision, shadowable) ∧
      (decision.decision = .allow ∨ (d.request t).svc.decisionMode = .observe) ∧
      ∀ forwarding credential forwarded, ev = .forward forwarding credential forwarded →
        forwarding = call := by
  obtain ⟨answer, -, run, hallowed, -, hcall⟩ := effect_run h hmem heffect
  have hdecided := run.decideCall_result
  rw [GovernedExecutionService.decideCall_withLedger] at hdecided
  refine ⟨_, _, _, _, hdecided, ?_, hcall⟩
  obtain ⟨hallow, -⟩ | ⟨hobserve, -⟩ := (run.allowed_inv hallowed).2.2
  · exact Or.inl hallow
  · exact Or.inr hobserve

section Cached

variable {Time : Type} [AddCommGroup Time] [LinearOrder Time] [IsOrderedAddMonoid Time]
variable {Op : Type} [DecidableEq Op] {ops : Operators Op} {history : ops.History Time}
variable {caching : CachingAgentRegistry Time Req} {c : CachingAgentRegistry.State Time Req}
variable {steps : List (CachingAgentRegistry.State Time Req × CacheStep Time Req)}

/-- Where no store comes later than `delay`, every call that is allowed, and in enforce mode every call
that is forwarded, is entitled by a record that the control plane held no earlier than the TTL and the
delay before the lookup of the request began. -/
theorem authority_recent (h : d.system.Reachable s) (hcodec : caching.RoundTrips)
    (hinner : caching.inner = history.held)
    (hrun : caching.cache.system.Run steps c) {delay : Time}
    (hpunctual : ∀ p ∈ steps, ReadThrough.Punctual delay p.1 p.2) (hserves : engine.ServesPolicy)
    {t : Req} (hengine : (d.request t).svc.policyEngine = engine.evaluate) {agent : AgentIdentity}
    (hidentify : (d.request t).svc.identityProvider (d.request t).headers = .ok agent)
    (hsubject : caching.spiffeId t = agent.spiffeId) {began : Time}
    {answer : Option RegisteredAgent} (hlooked : c.phase t = .returned began answer)
    (hlookup : (d.request t).svc.agentRegistry agent.spiffeId = .ok answer) :
    (∀ b, s.store.phase t = .committed b → b.receipt.decision = .allow →
      ∃ call, b.receipt.spiffeId = call.agent.spiffeId ∧
        b.receipt.payloadHash = d.key.sha256Hex (canonicalJson call.modelDump) ∧
        history.Backs (began - (caching.ttlSeconds + delay)) c.now call) ∧
    ((d.request t).svc.decisionMode = .enforce → ∀ call credential forwarded,
      (t, .forward call credential forwarded) ∈ s.log →
        history.Backs (began - (caching.ttlSeconds + delay)) c.now call) := by
  obtain ⟨moment, hlow, hhigh, hheld⟩ := held_recently hcodec hinner hrun hpunctual hsubject hlooked
  have hbacks : ∀ agent' call decision shadowable,
      (d.request t).decided.result = .ok (agent', call, decision, shadowable) →
        decision.decision = .allow → agent' = call.agent ∧
          history.Backs (began - (caching.ttlSeconds + delay)) c.now call := by
    intro agent' call decision shadowable hdecided hallow
    obtain ⟨rfl, hagent, record, rfl, hactive, hregistration, hcase⟩ :=
      entitled_of_decided hserves hengine hidentify hlookup hdecided hallow
    refine ⟨hagent.symm, moment, record, hlow, hhigh, ?_, hactive, hregistration, hcase⟩
    rw [hagent]
    exact hheld
  constructor
  · intro b hphase hallow
    obtain ⟨-, agent', call, decision, shadowable, hdecided, sequenceId, timestamp, previousHash, rfl⟩ :=
      signed_of_committed h hphase
    obtain ⟨rfl, hbacked⟩ := hbacks agent' call decision shadowable hdecided hallow
    exact ⟨call, rfl, rfl, hbacked⟩
  · intro henforce call credential forwarded hmem
    obtain ⟨agent', call', decision, shadowable, hdecided, hallow, hcall⟩ :=
      decided_of_effect h hmem (Or.inr rfl)
    rw [hcall call credential forwarded rfl]
    refine (hbacks agent' call' decision shadowable hdecided (hallow.resolve_right ?_)).2
    rw [henforce]
    decide

end Cached

end Deployment

/-! ## A grant that is withdrawn -/

namespace ControlRequest

/-- It states the grants of the agent, and the tool is among them. -/
def Grants (request : ControlRequest) (spiffeId tool : String) : Prop :=
  ∃ patch grants, request.endpoint = .updateAgent spiffeId patch ∧
    patch.grantedTools = some grants ∧ ∃ g ∈ grants, g.name = tool

/-- It states the grants of the agent, and the tool is not among them. -/
def Withdraws (request : ControlRequest) (spiffeId tool : String) : Prop :=
  ∃ patch grants, request.endpoint = .updateAgent spiffeId patch ∧
    patch.grantedTools = some grants ∧ ∀ g ∈ grants, g.name ≠ tool

end ControlRequest

/-- None of the grants of the record names the tool. -/
def RegisteredAgent.Lacks (agent : RegisteredAgent) (tool : String) : Prop :=
  ∀ g ∈ agent.grantedTools, g.name ≠ tool

theorem ControlPlane.updates_of_change {request : ControlRequest} {spiffeId : String}
    {patch : AgentPatch} (h : change request = some (.mutate spiffeId (.update patch))) :
    request.endpoint = .updateAgent spiffeId patch := by
  unfold change at h
  cases hendpoint : request.endpoint with
  | updateAgent target patch' =>
    rw [hendpoint] at h
    cases h
    rfl
  | _ =>
    rw [hendpoint] at h
    cases h

namespace Operators

variable {Op : Type} [DecidableEq Op] {ops : Operators Op} {s s' : PlaneState Op} {t : Op}
variable {spiffeId tool : String}

/-- The tool stays out of the grants as long as nobody who is answered grants it. -/
theorem lacks_kept (h : ops.system.Reachable s) (hleads : ops.system.Leads s s')
    (hrequest : (ops.request t).Withdraws spiffeId tool) (hwaiting : s.phase t = .waiting)
    {response : ControlResponse} (hanswered : s'.phase t = .answered response)
    (hnone : ∀ u later, (ops.request u).Grants spiffeId tool → s'.phase u = .answered later →
      ∃ earlier, s.phase u = .answered earlier) :
    ∃ agent, ops.plane.registry.lookup s'.tables spiffeId = .ok (some agent) ∧ agent.Lacks tool := by
  obtain ⟨patch, grants, hendpoint, hgrants, hlacks⟩ := hrequest
  have hchange : ControlPlane.change (ops.request t) = some (.mutate spiffeId (.update patch)) := by
    rw [ControlPlane.change, hendpoint]
  -- what the column holds is good when no reading of it names the tool
  let Lacking : AgentColumn.grantedTools.Value → Prop := fun column =>
    ∀ grants, ops.plane.registry.pydantic.toolGrants (.list (column.map PyValue.ofJson)) = some grants →
      ∀ g ∈ grants, g.name ≠ tool
  have hnoneWorse : ops.NoneWorse spiffeId .grantedTools Lacking s s' := by
    intro u later hlater hnot operator' mutation w hasks' hw
    cases mutation with
    | setStatus status => cases hw
    | update patch' =>
      obtain ⟨grants', hgrants', rfl⟩ := Option.map_eq_some_iff.mp hw
      intro read hread g hg hname
      rw [ops.plane.registry.pydantic.toolGrants_dumpExcludeNone] at hread
      cases hread
      obtain ⟨earlier, hearlier⟩ := hnone u later
        ⟨patch', grants', ControlPlane.updates_of_change hasks'.change, hgrants', g, hg, hname⟩ hlater
      exact hnot earlier hearlier
  have hassigned : ops.assigned t (.update patch) .grantedTools =
      some (grants.map ToolGrant.dumpExcludeNone) := congrArg (Option.map _) hgrants
  obtain ⟨row, agent, hlacking, hreads, hlookup⟩ :=
    record_kept h hleads hchange hassigned hwaiting hnoneWorse hanswered
  exact ⟨agent, hlookup, hlacking _ hreads.grantedTools⟩

namespace History

variable {Time : Type} [LinearOrder Time] {history : ops.History Time}

variable (history) in
/-- The tool was taken from the grants of the agent, and has not been granted since. -/
def Withdrawn (spiffeId tool : String) (withdrawn now : Time) : Prop :=
  history.Stands (·.Withdraws spiffeId tool) (·.Grants spiffeId tool) withdrawn now

theorem Withdrawn.held {withdrawn now moment : Time}
    (h : history.Withdrawn spiffeId tool withdrawn now) (hwithdrawn : withdrawn ≤ moment)
    (hnow : moment ≤ now) :
    ∃ agent, history.held moment spiffeId = some agent ∧ agent.Lacks tool := by
  obtain ⟨s, t, response, hreached, hleads, hrequest, hwaiting, hanswered, hnone⟩ :=
    h.at_moment hwithdrawn hnow
  obtain ⟨agent, hlookup, hlacks⟩ := lacks_kept hreached hleads hrequest hwaiting hanswered hnone
  exact ⟨agent, held_of_lookup hlookup, hlacks⟩

end History

end Operators

/-- The payload of a call of the tool. -/
structure CallsTool (payload : Dict) (tool : String) : Prop where
  method : payload.get? "method" = some (.str "tools/call")
  name : ∀ params, paramsOf payload = .ok params → params.get? "name" = some (.str tool)

theorem CallsTool.built {payload : Dict} {tool : String} (h : CallsTool payload tool)
    {agent : AgentIdentity} {registration : Option RegisteredAgent} {call : ToolCallRequest}
    (hbuilt : buildCall payload agent registration = .ok call) :
    call.method = "tools/call" ∧ call.toolName = some tool := by
  unfold buildCall at hbuilt
  obtain ⟨params, hparams, hbuilt⟩ := bind_except_ok hbuilt
  obtain ⟨method, hmethod, hbuilt⟩ := bind_except_ok hbuilt
  obtain ⟨toolName, htoolName, hbuilt⟩ := bind_except_ok hbuilt
  obtain ⟨arguments, -, hbuilt⟩ := bind_except_ok hbuilt
  obtain ⟨requestId, -, hbuilt⟩ := bind_except_ok hbuilt
  cases hbuilt
  rw [h.method] at hmethod
  rw [h.name params hparams] at htoolName
  cases hmethod
  cases htoolName
  exact ⟨rfl, rfl⟩

namespace Deployment

variable {Req : Type} [DecidableEq Req] {d : Deployment Req}
variable {s : State Req} {engine : OPAPolicyEngine} {tool : String}

/-- A call of a tool that the record does not grant is not allowed. -/
theorem denied_of_lacks (hserves : engine.ServesPolicy) {r : GatewayRequest}
    (hengine : r.svc.policyEngine = engine.evaluate) {agent agent' : AgentIdentity}
    {record : RegisteredAgent} (hidentify : r.svc.identityProvider r.headers = .ok agent)
    (hlookup : r.svc.agentRegistry agent.spiffeId = .ok (some record)) (hlacks : record.Lacks tool)
    (hcalls : CallsTool r.payload tool) {call : ToolCallRequest} {decision : PolicyDecision}
    {shadowable : Bool} (hdecided : r.decided.result = .ok (agent', call, decision, shadowable)) :
    decision.decision = .deny := by
  cases hallow : decision.decision with
  | deny => rfl
  | allow =>
    obtain ⟨-, -, held, hheld, -, hregistration, hcase⟩ :=
      entitled_of_decided hserves hengine hidentify hlookup hdecided hallow
    cases hheld
    obtain ⟨-, registration, built, -, -, hbuilt, hcall, -⟩ :=
      GovernedExecutionService.decideCall_inv hdecided
    obtain ⟨hmethod, hname⟩ := hcalls.built hbuilt
    obtain hlist | hentitled := hcase
    · rw [hcall] at hlist
      exact absurd (hmethod.symm.trans hlist) (by decide)
    · refine absurd ?_ hentitled.granted
      rw [ToolCallRequest.matchingGrants, hregistration, List.filter_eq_nil_iff]
      intro g hg hnamed
      have hsame : some g.name = call.toolName := of_decide_eq_true hnamed
      rw [hcall] at hsame
      exact hlacks g hg (Option.some.inj (hsame.trans hname))

variable {Time : Type} [AddCommGroup Time] [LinearOrder Time] [IsOrderedAddMonoid Time]
variable {Op : Type} [DecidableEq Op] {ops : Operators Op} {history : ops.History Time}
variable {caching : CachingAgentRegistry Time Req} {c : CachingAgentRegistry.State Time Req}
variable {steps : List (CachingAgentRegistry.State Time Req × CacheStep Time Req)}

/-- Once an operator has taken a tool from the grants of an agent, whatever overlaps with that request,
and as long as nobody is answered for granting it who had not been when it began: a call of the tool
whose lookup began later than the TTL and the delay of the cache's stores allow is denied, and in enforce
mode nothing is brokered or forwarded for it. -/
theorem withdrawn_refused (h : d.system.Reachable s) (hcodec : caching.RoundTrips)
    (hinner : caching.inner = history.held)
    (hrun : caching.cache.system.Run steps c) {delay : Time}
    (hpunctual : ∀ p ∈ steps, ReadThrough.Punctual delay p.1 p.2) (hserves : engine.ServesPolicy)
    {t : Req} (hengine : (d.request t).svc.policyEngine = engine.evaluate) {agent : AgentIdentity}
    (hcalls : CallsTool (d.request t).payload tool) {withdrawn : Time}
    (hwithdrawn : history.Withdrawn agent.spiffeId tool withdrawn c.now)
    (hidentify : (d.request t).svc.identityProvider (d.request t).headers = .ok agent)
    (hsubject : caching.spiffeId t = agent.spiffeId) {began : Time}
    {answer : Option RegisteredAgent} (hlooked : c.phase t = .returned began answer)
    (hlookup : (d.request t).svc.agentRegistry agent.spiffeId = .ok answer)
    (hlate : withdrawn + (caching.ttlSeconds + delay) ≤ began) :
    (∀ b, s.store.phase t = .committed b → b.receipt.decision = .deny) ∧
    ((d.request t).svc.decisionMode = .enforce →
      (∀ ev, (t, ev) ∈ s.log → ev.isExchange = false ∧ ev.isForward = false) ∧
      ∀ b, s.store.phase t = .committed b → b.receipt.enforced = true) := by
  obtain ⟨moment, hlow, hhigh, hheld⟩ := held_recently hcodec hinner hrun hpunctual hsubject hlooked
  obtain ⟨record, hrecord, hlacks⟩ :=
    hwithdrawn.held (le_trans (le_sub_iff_add_le.mpr hlate) hlow) hhigh
  rw [← hheld, hrecord] at hlookup
  refine ⟨fun b hphase => ?_, fun henforce => ⟨fun ev hmem => ?_, fun b hphase => ?_⟩⟩
  · obtain ⟨-, agent', call, decision, shadowable, hdecided, sequenceId, timestamp, previousHash, rfl⟩ :=
      signed_of_committed h hphase
    exact denied_of_lacks hserves hengine hidentify hlookup hlacks hcalls hdecided
  · by_contra heffect
    rw [not_and_or, Bool.not_eq_false, Bool.not_eq_false] at heffect
    obtain ⟨agent', call, decision, shadowable, hdecided, hallow, -⟩ := decided_of_effect h hmem heffect
    have hdeny := denied_of_lacks hserves hengine hidentify hlookup hlacks hcalls hdecided
    rw [hdeny, henforce] at hallow
    simp at hallow
  · obtain ⟨-, agent', call, decision, shadowable, hdecided, sequenceId, timestamp, previousHash, rfl⟩ :=
      signed_of_committed h hphase
    have hshadows : (d.request t).svc.shadows decision shadowable = false := by
      simp [GovernedExecutionService.shadows, henforce]
    exact congrArg not hshadows

end Deployment

/-! ## An agent with one grant -/

section Granted

open PostgresAgentRegistry ControlPlane

def grantedRecord : RegisteredAgent := { fixedRecord with grantedTools := [plainGrant] }

/-- The operator takes every grant of the agent. -/
def withdrawal : ControlRequest :=
  asked bearer (.updateAgent "spiffe://corp/agent" { grantedTools := some [] })

/-- What the withdrawal and the handover leave of the record. -/
def withdrawnByBoth : RegisteredAgent :=
  { fixedRecord with owner := "bob@corp.net", updatedAt := firstDay.val }

theorem withdrawal_overlapped : ∃ s,
    (overlapping grantedRecord withdrawal handover).system.Leads
      (overlapping grantedRecord withdrawal handover).initial s ∧
    (∀ t, ∃ response, s.phase t = .answered response) ∧
    ∀ spiffeId, exactRegistry.lookup s.tables spiffeId =
      .ok (if spiffeId = "spiffe://corp/agent" then some withdrawnByBoth else none) := by
  have hasks : (overlapping grantedRecord withdrawal handover).Asks false "api-key"
      (.mutate "spiffe://corp/agent" (.update { grantedTools := some [] })) := ⟨rfl, rfl⟩
  exact overlapped rfl hasks (handover_asks true _ _ _ rfl) rfl rfl rfl rfl

theorem jump_withdrawn {s : PlaneState Bool}
    (hleads : (overlapping grantedRecord withdrawal handover).system.Leads
      (overlapping grantedRecord withdrawal handover).initial s)
    (hanswered : ∀ t, ∃ response, s.phase t = .answered response) {jumped : ℤ} (hjumped : 0 < jumped)
    (now : ℤ) :
    (Operators.History.jump hleads jumped).Withdrawn "spiffe://corp/agent" "update_record" jumped
      now := by
  obtain ⟨response, hwithdrawn⟩ := hanswered false
  refine ⟨false, 0, response, hjumped.le, ⟨_, [], rfl, rfl, nofun⟩, ?_, ?_, ?_⟩
  · exact congrArg (fun p : PlaneState Bool => p.phase false) (if_neg hjumped.not_ge)
  · exact (congrArg (fun p : PlaneState Bool => p.phase false) (if_pos le_rfl)).trans hwithdrawn
  · rintro (_ | _) later ⟨patch, grants, hendpoint, hgrants, g, hg, -⟩ - <;>
      cases hendpoint <;> cases hgrants
    cases hg

/-- The agent calls the tool, under the record that a lookup answered it. -/
def grantedRequest (record : RegisteredAgent) : GatewayRequest where
  kind := .execute
  svc := { GovernedExecutionService.fixed fixedAgent (some record) ⟨.allow, ""⟩ with
    policyEngine := shippedPolicy.evaluate }
  headers := []
  payload := authorizePayload "update_record" []

theorem grantedRequest_calls (record : RegisteredAgent) :
    CallsTool (grantedRequest record).payload "update_record" where
  method := rfl
  name params hparams := by
    cases hparams
    rfl

def grantedCall (record : RegisteredAgent) : ToolCallRequest where
  method := "tools/call"
  toolName := some "update_record"
  agent := fixedAgent
  registration := some record

/-- What the request comes to under the record, with the shipped policy. -/
def Comes (record : RegisteredAgent) (decision : PolicyDecision) : Prop :=
  (grantedRequest record).decided.result = .ok (fixedAgent, grantedCall record, decision, true)

theorem grantedRecord_comes : Comes grantedRecord ⟨.allow, ""⟩ := rfl

theorem withdrawnByBoth_comes : Comes withdrawnByBoth ⟨.deny, notGrantedReason⟩ := rfl

/-- The agent calls the tool and asks whether it may, under one record. -/
def grantedPair (record : RegisteredAgent) : Deployment Bool where
  key := LedgerConfig.echoKey
  backend := .postgres
  request := fun asks => { grantedRequest record with kind := if asks then .authorize else .execute }

theorem grantedPair_reachable {record : RegisteredAgent} {decision : PolicyDecision}
    (h : Comes record decision) : ∃ s : Deployment.State Bool,
    (grantedPair record).system.Reachable s ∧
    s.store.phase false = .committed ((grantedPair record).pairReceipt false) ∧
    ((grantedPair record).pairReceipt false).receipt.decision = decision.decision := by
  obtain ⟨s, hreached, hstore, -⟩ :=
    Deployment.pair_reachable (grantedPair record) fun _ => ⟨_, h⟩
  refine ⟨s, hreached, hstore ▸ Deployment.pairStore_phase _ _, ?_⟩
  have hrecorded : (grantedPair record).recorded false = ⟨fixedAgent, grantedCall record, decision,
      !(grantedRequest record).svc.shadows decision true⟩ :=
    congrArg (Option.getD · _) (GatewayRequest.recordCall_of_decided h)
  rw [Deployment.pairReceipt, hrecorded]
  rfl

theorem grantedRecord_aware : grantedRecord.Aware := ⟨rfl, rfl, fun t ht => by cases ht⟩

theorem withdrawnByBoth_aware : withdrawnByBoth.Aware := ⟨rfl, rfl, fun t ht => by cases ht⟩

/-- The grant is withdrawn at a hundred; what was allowed at fifty has a record behind it. -/
theorem grantedPair_backed : ∃ s b call, ∃ history : (overlapping grantedRecord withdrawal
      handover).History ℤ,
    (grantedPair grantedRecord).system.Reachable s ∧ s.store.phase false = .committed b ∧
    b.receipt.decision = .allow ∧ b.receipt.spiffeId = call.agent.spiffeId ∧
    history.Backs 20 50 call ∧ history.Withdrawn "spiffe://corp/agent" "update_record" 100 100 := by
  obtain ⟨s, hreached, hphase, hallow⟩ := grantedPair_reachable grantedRecord_comes
  obtain ⟨plane, hleads, hanswered, hfinal⟩ := withdrawal_overlapped
  obtain ⟨hcodec, steps, c, hrun, hpunctual, hnow, hlooked⟩ :=
    jump_lookup rfl rfl hleads hfinal grantedRecord_aware withdrawnByBoth_aware 100 50
  obtain ⟨hbacked, -⟩ := Deployment.authority_recent hreached hcodec rfl hrun hpunctual
    shippedPolicy_serves rfl rfl rfl hlooked rfl
  obtain ⟨call, hagent, -, hbacks⟩ := hbacked _ hphase hallow
  rw [hnow] at hbacks
  exact ⟨s, _, call, .jump hleads 100, hreached, hphase, hallow, hagent, hbacks,
    jump_withdrawn hleads hanswered (by decide) 100⟩

/-- The grant is withdrawn at ten; a call at fifty is denied. -/
theorem withdrawnPair_refused : ∃ s b,
    (grantedPair withdrawnByBoth).system.Reachable s ∧ s.store.phase false = .committed b ∧
    b.receipt.decision = .deny ∧ b.receipt.enforced = true ∧
    ∀ ev, (false, ev) ∈ s.log → ev.isExchange = false ∧ ev.isForward = false := by
  obtain ⟨s, hreached, hphase, -⟩ := grantedPair_reachable withdrawnByBoth_comes
  obtain ⟨plane, hleads, hanswered, hfinal⟩ := withdrawal_overlapped
  obtain ⟨hcodec, steps, c, hrun, hpunctual, hnow, hlooked⟩ :=
    jump_lookup rfl rfl hleads hfinal grantedRecord_aware withdrawnByBoth_aware 10 50
  have hwithdrawn : (Operators.History.jump hleads 10).Withdrawn fixedAgent.spiffeId "update_record" 10
      c.now := hnow ▸ jump_withdrawn hleads hanswered (by decide) 50
  have hlate : (10 : ℤ) + ((cachedHistory (.jump hleads 10)).ttlSeconds + 0) ≤ 50 :=
    show (10 : ℤ) + (30 + 0) ≤ 50 by decide
  obtain ⟨hdenied, henforced⟩ := Deployment.withdrawn_refused hreached hcodec rfl hrun hpunctual
    shippedPolicy_serves rfl (grantedRequest_calls withdrawnByBoth) hwithdrawn rfl rfl hlooked rfl hlate
  obtain ⟨hnothing, hrecorded⟩ := henforced rfl
  exact ⟨s, _, hreached, hphase, hdenied _ hphase, hrecorded _ hphase, hnothing⟩

end Granted

end OpenAgentControl
