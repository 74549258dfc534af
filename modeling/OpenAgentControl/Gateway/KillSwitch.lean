import OpenAgentControl.ControlPlane.Sessions
import OpenAgentControl.Adapters.Registry.Storage
import OpenAgentControl.Foundations.LateStores
import OpenAgentControl.Gateway.Replicas

/-! # The kill switch, from the control plane to the gateway

An operator suspends an agent through the API, while other operators' requests overlap with that one; the
gateways see it through the cache. Where no lookup takes longer than `delay` to store what it read, a
request whose lookup began more than the TTL and this delay after the suspension brokers and forwards
nothing, and its receipt is an enforced deny (`kill_switch`). -/

namespace OpenAgentControl
set_option autoImplicit false
set_option maxHeartbeats 250000

open Foundations

/-! ## The control plane in time -/

/-- Where the requests to the control plane are at each moment. -/
structure Operators.History {Op : Type} [DecidableEq Op] (ops : Operators Op) (Time : Type)
    [LinearOrder Time] where
  state : Time → PlaneState Op
  reachable : ∀ moment, ops.system.Reachable (state moment)
  leads : ∀ {earlier later}, earlier ≤ later → ops.system.Leads (state earlier) (state later)

namespace Operators.History

variable {Op : Type} [DecidableEq Op] {ops : Operators Op} {Time : Type} [LinearOrder Time]
variable (history : ops.History Time)

/-- What a lookup finds at a moment. -/
def held (moment : Time) (spiffeId : String) : Option RegisteredAgent :=
  match ops.plane.registry.lookup (history.state moment).tables spiffeId with
  | .ok record => record
  | .error _ => none

/-- A request that does this had been answered by then, and none that undoes it has been by now that had
not been when the request began. -/
def Stands (does undoes : ControlRequest → Prop) (done now : Time) : Prop :=
  ∃ t began response, began ≤ done ∧ does (ops.request t) ∧
    (history.state began).phase t = .waiting ∧ (history.state done).phase t = .answered response ∧
    ∀ u later, undoes (ops.request u) → (history.state now).phase u = .answered later →
      ∃ earlier, (history.state began).phase u = .answered earlier

/-- The agent was suspended, and has not been activated since. -/
def Revokes (spiffeId : String) (suspended now : Time) : Prop :=
  history.Stands (·.endpoint = .suspendAgent spiffeId) (·.endpoint = .activateAgent spiffeId) suspended
    now

variable {history}

theorem held_of_lookup {moment : Time} {spiffeId : String} {record : Option RegisteredAgent}
    (h : ops.plane.registry.lookup (history.state moment).tables spiffeId = .ok record) :
    history.held moment spiffeId = record := by
  rw [held, h]

/-- What stands now has stood since it was done. -/
theorem Stands.at_moment {does undoes : ControlRequest → Prop} {done now moment : Time}
    (h : history.Stands does undoes done now) (hdone : done ≤ moment) (hnow : moment ≤ now) :
    ∃ s t response, ops.system.Reachable s ∧ ops.system.Leads s (history.state moment) ∧
      does (ops.request t) ∧ s.phase t = .waiting ∧
      (history.state moment).phase t = .answered response ∧
      ∀ u later, undoes (ops.request u) → (history.state moment).phase u = .answered later →
        ∃ earlier, s.phase u = .answered earlier := by
  obtain ⟨t, began, response, hbegan, hdoes, hwaiting, hanswered, hnone⟩ := h
  refine ⟨history.state began, t, response, history.reachable began,
    history.leads (hbegan.trans hdone), hdoes, hwaiting, ?_, fun u later hundoes hlater => ?_⟩
  · exact answered_of_leads (history.leads hdone) hanswered
  · exact hnone u later hundoes (answered_of_leads (history.leads hnow) hlater)

theorem Revokes.held {spiffeId : String} {suspended now moment : Time}
    (h : history.Revokes spiffeId suspended now) (hsuspended : suspended ≤ moment)
    (hnow : moment ≤ now) :
    ∃ agent, history.held moment spiffeId = some agent ∧ agent.status = .suspended := by
  obtain ⟨s, t, response, hreached, hleads, hendpoint, hwaiting, hanswered, hnone⟩ :=
    h.at_moment hsuspended hnow
  obtain ⟨agent, hlookup, hstatus⟩ := status_kept hreached hleads
    (ControlPlane.change_suspends hendpoint) hwaiting hanswered
    fun u later _ hchange hne => hnone u later (ControlPlane.activates_of_change hchange hne)
  exact ⟨agent, held_of_lookup hlookup, hstatus⟩

end Operators.History

/-! ## A request of a suspended agent -/

namespace Deployment

variable {Req : Type} [DecidableEq Req] {d : Deployment Req}
variable {s : State Req}

/-- What the gateway does for an agent whose record is not active, whatever the mode. -/
theorem refused_of_inactive (h : d.system.Reachable s) {t : Req} {agent : AgentIdentity}
    {record : RegisteredAgent}
    (hidentify : (d.request t).svc.identityProvider (d.request t).headers = .ok agent)
    (hlookup : (d.request t).svc.agentRegistry agent.spiffeId = .ok (some record))
    (hinactive : record.status ≠ .active) :
    (∀ ev, (t, ev) ∈ s.log → ev.isExchange = false ∧ ev.isForward = false) ∧
      ∀ b, s.store.phase t = .committed b → b.receipt.decision = .deny ∧ b.receipt.enforced = true := by
  constructor
  · intro ev hmem
    by_contra heffect
    rw [not_and_or, Bool.not_eq_false, Bool.not_eq_false] at heffect
    obtain ⟨answer, -, run, hallowed, -⟩ := effect_run h hmem heffect
    obtain ⟨⟨active, hrecord, hactive⟩, -⟩ := run.allowed_inv hallowed
    have hagent : agent = run.agent := Except.ok.inj (hidentify.symm.trans run.identified)
    subst hagent
    have hsame := Except.ok.inj (hlookup.symm.trans run.looked)
    rw [hrecord] at hsame
    rw [Option.some.inj hsame] at hinactive
    exact hinactive hactive
  · intro b hphase
    obtain ⟨-, agent', call, decision, shadowable, hdecided, sequenceId, timestamp, previousHash, rfl⟩ :=
      signed_of_committed h hphase
    obtain ⟨hidentify', registration, built, events, hlookup', hbuilt, hcall, hdecision⟩ :=
      GovernedExecutionService.decideCall_inv hdecided
    have hagent : agent = agent' := Except.ok.inj (hidentify.symm.trans hidentify')
    subst hagent
    have hsame := Except.ok.inj (hlookup.symm.trans hlookup')
    obtain ⟨hdeny, rfl⟩ := hdecision.of_inactive fun held hheld => by
      rw [hcall] at hheld
      rw [(buildCall_ok hbuilt).2.1, ← hsame] at hheld
      rwa [← Option.some.inj hheld]
    exact ⟨hdeny, rfl⟩

variable {Time : Type} [AddCommGroup Time] [LinearOrder Time] [IsOrderedAddMonoid Time]
variable {Op : Type} [DecidableEq Op] {ops : Operators Op} {history : ops.History Time}
variable {caching : CachingAgentRegistry Time Req} {c : CachingAgentRegistry.State Time Req}
variable {steps : List (CachingAgentRegistry.State Time Req × CacheStep Time Req)}

/-- Where no store comes later than `delay`, a lookup answers what the control plane held no earlier
than the TTL and the delay before it began. -/
theorem held_recently (hcodec : caching.RoundTrips)
    (hinner : caching.inner = history.held)
    (hrun : caching.cache.system.Run steps c) {delay : Time}
    (hpunctual : ∀ p ∈ steps, ReadThrough.Punctual delay p.1 p.2) {spiffeId : String} {t : Req}
    (hsubject : caching.spiffeId t = spiffeId) {began : Time} {answer : Option RegisteredAgent}
    (hlooked : c.phase t = .returned began answer) :
    ∃ moment, began - (caching.ttlSeconds + delay) ≤ moment ∧ moment ≤ c.now ∧
      history.held moment spiffeId = answer := by
  have hrecent := ReadThrough.recent_of_punctual CachingAgentRegistry.key_injective
    (caching.load_dump hcodec) hrun hpunctual
  obtain ⟨moment, hlow, hhigh, hheld⟩ := hrecent t began answer hlooked
  refine ⟨moment, hlow, hhigh, ?_⟩
  rw [← hinner, ← hsubject]
  exact hheld

/-- Whatever else operators ask meanwhile, however their requests, the replicas, the ledger and the
lookups through the cache interleave, and whether the gateways enforce or observe: once the suspension of
an agent was answered, and as long as no activation is that had not been when it began, a request whose
lookup began later than the TTL and the delay of the cache's stores allow brokers and forwards nothing,
and leaves no receipt but an enforced deny. -/
theorem kill_switch (h : d.system.Reachable s) (hcodec : caching.RoundTrips)
    (hinner : caching.inner = history.held)
    (hrun : caching.cache.system.Run steps c) {delay : Time}
    (hpunctual : ∀ p ∈ steps, ReadThrough.Punctual delay p.1 p.2) {agent : AgentIdentity}
    {suspended : Time} (hrevokes : history.Revokes agent.spiffeId suspended c.now) {t : Req}
    (hidentify : (d.request t).svc.identityProvider (d.request t).headers = .ok agent)
    (hsubject : caching.spiffeId t = agent.spiffeId) {began : Time}
    {answer : Option RegisteredAgent} (hlooked : c.phase t = .returned began answer)
    (hlookup : (d.request t).svc.agentRegistry agent.spiffeId = .ok answer)
    (hlate : suspended + (caching.ttlSeconds + delay) ≤ began) :
    (∀ ev, (t, ev) ∈ s.log → ev.isExchange = false ∧ ev.isForward = false) ∧
      ∀ b, s.store.phase t = .committed b →
        b.receipt.decision = .deny ∧ b.receipt.enforced = true := by
  obtain ⟨moment, hlow, hhigh, hheld⟩ := held_recently hcodec hinner hrun hpunctual hsubject hlooked
  obtain ⟨record, hrecord, hstatus⟩ :=
    hrevokes.held (le_trans (le_sub_iff_add_le.mpr hlate) hlow) hhigh
  rw [← hheld, hrecord] at hlookup
  exact refused_of_inactive h hidentify hlookup (by rw [hstatus]; decide)

end Deployment

/-! ## A suspended agent asks -/

section Suspended

open PostgresAgentRegistry ControlPlane

/-- A history in which what happens happens at one moment. -/
def Operators.History.jump {Op : Type} [DecidableEq Op] {ops : Operators Op} {s : PlaneState Op}
    (h : ops.system.Leads ops.initial s) (jumped : ℤ) : ops.History ℤ where
  state moment := if jumped ≤ moment then s else ops.initial
  reachable moment := by
    split
    · exact h.reachable (.start rfl)
    · exact .start rfl
  leads {earlier later} hle := by
    by_cases hearlier : jumped ≤ earlier
    · rw [if_pos hearlier, if_pos (hearlier.trans hle)]
      exact .refl
    · rw [if_neg hearlier]
      split
      · exact h
      · exact .refl

/-- The registry behind a cache of thirty seconds, and lookups of the agent. -/
noncomputable def cachedHistory {ops : Operators Bool} (history : ops.History ℤ) :
    CachingAgentRegistry ℤ Bool :=
  CachingAgentRegistry.inFrontOf exactJson exactRegistry.pydantic (utcEpoch, utcEpoch) history.held 30
    fun _ => "spiffe://corp/agent"

/-- A lookup finds nothing in the cache and stores what it reads, all at one moment. -/
theorem lookup_at (caching : CachingAgentRegistry ℤ Bool) (httl : 0 < caching.ttlSeconds) (moment : ℤ) :
    ∃ steps c, caching.cache.system.Run steps c ∧
      (∀ p ∈ steps, ReadThrough.Punctual 0 p.1 p.2) ∧ c.now = moment ∧
      c.phase false = .returned moment (caching.inner moment (caching.spiffeId false)) := by
  have h0 : caching.cache.system.Run [] _ := .start ⟨moment, rfl⟩
  have h1 : caching.cache.system.Run _ _ :=
    .step h0 (show caching.cache.next _ (.start false) = some _ from rfl)
  have h2 : caching.cache.system.Run _ _ :=
    .step h1 (show caching.cache.next _ (.get false) = some _ from rfl)
  have h3 : caching.cache.system.Run _ _ :=
    .step h2 (show caching.cache.next _ (.fetch false) = some _ from rfl)
  have h4 : caching.cache.system.Run _ _ :=
    .step h3 (show caching.cache.next _ (.store false) = some _ from if_pos httl)
  refine ⟨_, _, h4, ?_, rfl, rfl⟩
  rw [List.forall_mem_cons, List.forall_mem_cons, List.forall_mem_cons, List.forall_mem_cons]
  refine ⟨fun began v hphase => ?_, trivial, trivial, trivial, by simp⟩
  obtain ⟨rfl, -⟩ := LookupPhase.fetched.inj hphase
  exact (add_zero _).ge

section Jump

variable {record final : RegisteredAgent} {first second : ControlRequest} {s : PlaneState Bool}

/-- What is held before two overlapping requests of the agent, and after them. -/
theorem jump_held (hspiffeId : record.spiffeId = "spiffe://corp/agent")
    (hrecord : exactRegistry.lookup (overlapping record first second).tables "spiffe://corp/agent" =
      .ok (some record))
    (hleads : (overlapping record first second).system.Leads (overlapping record first second).initial s)
    (hfinal : ∀ spiffeId, exactRegistry.lookup s.tables spiffeId =
      .ok (if spiffeId = "spiffe://corp/agent" then some final else none)) (jumped moment : ℤ)
    (spiffeId : String) :
    (Operators.History.jump hleads jumped).held moment spiffeId =
      if spiffeId = "spiffe://corp/agent" then some (if jumped ≤ moment then final else record)
      else none := by
  refine Operators.History.held_of_lookup ?_
  show exactRegistry.lookup (if jumped ≤ moment then s else _).tables spiffeId = _
  by_cases hmoment : jumped ≤ moment
  · rw [if_pos hmoment, if_pos hmoment, hfinal]
  · rw [if_neg hmoment, if_neg hmoment]
    by_cases hagent : spiffeId = "spiffe://corp/agent"
    · rw [if_pos hagent, hagent]
      exact hrecord
    · rw [if_neg hagent]
      exact (lookup_congr (Function.update_of_ne (hspiffeId ▸ hagent) _ _)).trans rfl

/-- One lookup through the cache before or after the two requests. -/
theorem jump_lookup (hspiffeId : record.spiffeId = "spiffe://corp/agent")
    (hrecord : exactRegistry.lookup (overlapping record first second).tables "spiffe://corp/agent" =
      .ok (some record))
    (hleads : (overlapping record first second).system.Leads (overlapping record first second).initial s)
    (hfinal : ∀ spiffeId, exactRegistry.lookup s.tables spiffeId =
      .ok (if spiffeId = "spiffe://corp/agent" then some final else none))
    (haware : record.Aware) (haware' : final.Aware) (jumped moment : ℤ) :
    (cachedHistory (.jump hleads jumped)).RoundTrips ∧
      ∃ steps c, (cachedHistory (.jump hleads jumped)).cache.system.Run steps c ∧
        (∀ p ∈ steps, ReadThrough.Punctual 0 p.1 p.2) ∧ c.now = moment ∧
        c.phase false = .returned moment (some (if jumped ≤ moment then final else record)) := by
  have hheld := jump_held hspiffeId hrecord hleads hfinal jumped
  constructor
  · refine CachingAgentRegistry.inFrontOf_roundTrips _ _ _ _ _ fun moment spiffeId agent hagent => ?_
    rw [hheld] at hagent
    split_ifs at hagent <;> cases hagent
    · exact haware'
    · exact haware
  · have httl : 0 < (cachedHistory (.jump hleads jumped)).ttlSeconds := show (0 : ℤ) < 30 by decide
    obtain ⟨steps, c, hrun, hpunctual, hnow, hlooked⟩ := lookup_at _ httl moment
    refine ⟨steps, c, hrun, hpunctual, hnow, hlooked.trans (congrArg _ ?_)⟩
    exact hheld moment "spiffe://corp/agent"

end Jump

/-- The suspended agent calls a tool and asks whether it may, at gateways that only observe. -/
noncomputable def suspendedPair : Deployment Bool where
  key := LedgerConfig.echoKey
  backend := .postgres
  request := fun asks => {
    kind := if asks then .authorize else .execute
    svc := { GovernedExecutionService.fixed fixedAgent (some suspendedByBoth) ⟨.allow, ""⟩ with
      decisionMode := .observe }
    headers := []
    payload := authorizePayload "read_query" [] }

/-- The suspension and the handover overlap at ten. -/
theorem suspendedPair_refused : ∃ s b, suspendedPair.system.Reachable s ∧
    s.store.phase false = .committed b ∧ b.receipt.decision = .deny ∧ b.receipt.enforced = true ∧
    ∀ ev, (false, ev) ∈ s.log → ev.isExchange = false ∧ ev.isForward = false := by
  have hdecided : ∀ t, ∃ result, (suspendedPair.request t).decided.result = .ok result := by
    intro t
    cases t with
    | false => exact ⟨_, rfl⟩
    | true => exact ⟨_, rfl⟩
  obtain ⟨s, hreached, hstore, -⟩ := Deployment.pair_reachable suspendedPair hdecided
  have hphase := Deployment.pairStore_phase suspendedPair false
  rw [← hstore] at hphase
  obtain ⟨plane, hleads, hanswered, hfinal⟩ := suspension_overlapped
  have haware : suspendedByBoth.Aware := ⟨rfl, rfl, fun t ht => by cases ht; rfl⟩
  obtain ⟨hcodec, steps, c, hrun, hpunctual, hnow, hlooked⟩ :=
    jump_lookup rfl rfl hleads hfinal fixedRecord_aware haware 10 50
  obtain ⟨response, hsuspended⟩ := hanswered false
  have hrevokes : (Operators.History.jump hleads 10).Revokes fixedAgent.spiffeId 10 c.now := by
    refine ⟨false, 0, response, by decide, rfl, rfl, hsuspended, ?_⟩
    rintro (_ | _) later hactivates - <;> cases hactivates
  have hlate : (10 : ℤ) + ((cachedHistory (.jump hleads 10)).ttlSeconds + 0) ≤ 50 :=
    show (10 : ℤ) + (30 + 0) ≤ 50 by decide
  obtain ⟨hnothing, hreceipt⟩ := Deployment.kill_switch hreached hcodec rfl hrun hpunctual hrevokes rfl
    rfl hlooked rfl hlate
  exact ⟨s, _, hreached, hphase, (hreceipt _ hphase).1, (hreceipt _ hphase).2, hnothing⟩

end Suspended

end OpenAgentControl
