import OpenAgentControl.Application.Runs

/-! # Complete mediation

Nothing reaches the upstream but by one path: an identified agent with an active record, a decision
of the policy engine about exactly the forwarded call, one receipt of that decision, exported. The
mode decides only what happens to a deny of the engine itself. -/

namespace OpenAgentControl
set_option autoImplicit false
set_option maxHeartbeats 250000

open Foundations

def Forwards (trace : List Event) : Prop := ∃ ev ∈ trace, ev.isForward = true

namespace GovernedExecutionService

variable {svc : GovernedExecutionService} {headers : Headers} {payload : Dict}

/-- What must have happened, in this order, before a call is forwarded, and what the whole trace
holds of receipts. -/
def Mediated (svc : GovernedExecutionService) (headers : Headers) (trace before : List Event)
    (call : ToolCallRequest) : Prop :=
  ∃ agent record decision enforced receipt,
    record.status = .active ∧
    [.identify headers (.ok agent), .lookup agent.spiffeId (.ok (some record)),
      .evaluate call (.ok decision), .record agent call decision enforced (.ok receipt),
      .exportReceipt receipt (.ok ())].Sublist before ∧
    trace.filter Event.isRecord = [.record agent call decision enforced (.ok receipt)] ∧
    (decision.decision = .allow ∧ enforced = true ∨
      svc.decisionMode = .observe ∧ decision.decision = .deny ∧ enforced = false) ∧
    (StampsReceipts svc.ledger →
      receipt.enforced = enforced ∧ receipt.decision = decision.decision)

structure CompleteMediation (svc : GovernedExecutionService) (headers : Headers)
    (trace : List Event) : Prop where
  at_most_once : (trace.filter Event.isForward).length ≤ 1
  mediated : ∀ before call credential answer after,
    trace = before ++ .forward call credential answer :: after →
      svc.Mediated headers trace before call
  orphan : ∀ spiffeId, .lookup spiffeId (.ok none) ∈ trace → ¬ Forwards trace
  inactive : ∀ spiffeId record, .lookup spiffeId (.ok (some record)) ∈ trace →
    record.status ≠ .active → ¬ Forwards trace
  outage : ∀ call e, .evaluate call (.error e) ∈ trace → ¬ Forwards trace
  enforced_deny : ∀ agent call decision receipt,
    .record agent call decision true (.ok receipt) ∈ trace → decision.decision = .deny →
      ¬ Forwards trace
  stamped_deny : StampsReceipts svc.ledger → ∀ agent call decision enforced receipt,
    .record agent call decision enforced (.ok receipt) ∈ trace → receipt.decision = .deny →
      receipt.enforced = true → ¬ Forwards trace

/-! ## Runs that reach the upstream -/

namespace ForwardedRun

variable (f : svc.ForwardedRun headers payload)

theorem mediated : svc.Mediated headers f.trace (f.run.trace ++ f.brokerEvents) f.run.call := by
  obtain ⟨⟨record, hrecord, hstatus⟩, hpolicy, hflag⟩ := f.run.allowed_inv f.allowed
  refine ⟨f.run.agent, record, f.run.decision, f.run.enforced, f.run.receipt, hstatus, ?_, ?_,
    hflag, ?_⟩
  · apply List.Sublist.trans _ (List.sublist_append_left _ _)
    unfold AuthorizedRun.trace
    rw [hrecord, hpolicy]
    apply List.Sublist.cons_cons
    apply List.Sublist.cons_cons
    exact List.sublist_append_right _ _
  · have hbroker : f.brokerEvents.filter Event.isRecord = [] := by
      rw [List.filter_eq_nil_iff]
      intro ev hev hrec
      have hexchange := f.brokered.events_exchange ev hev
      cases ev with
      | record agent call decision enforced answer => cases hexchange
      | _ => cases hrec
    rw [trace, List.filter_append, List.filter_append, f.run.filter_isRecord, hbroker]
    rfl
  · exact fun hstamps => hstamps _ _ _ _ _ f.run.recorded

/-- The events of a forwarded run, by the stage that left them. -/
theorem mem_trace {ev : Event} (h : ev ∈ f.trace) :
    ev ∈ [.identify headers (.ok f.run.agent),
      .lookup f.run.agent.spiffeId (.ok f.run.registration),
      .evaluate f.run.call (.ok f.run.decision),
      .record f.run.agent f.run.call f.run.decision f.run.enforced (.ok f.run.receipt),
      .exportReceipt f.run.receipt (.ok ()), f.forwarded] ∨
    (∃ token answer, ev = .verify token answer) ∨ ev.isExchange = true := by
  obtain ⟨-, hpolicy, -⟩ := f.run.allowed_inv f.allowed
  rw [trace, AuthorizedRun.trace, hpolicy] at h
  simp only [List.cons_append, List.append_assoc, List.nil_append, List.mem_cons,
    List.mem_append, List.not_mem_nil, or_false] at h ⊢
  obtain h | h | h | h | h | h | h | h := h
  · tauto
  · tauto
  · exact Or.inr (Or.inl (f.run.resolved.frame.2 ev h))
  · tauto
  · tauto
  · tauto
  · exact Or.inr (Or.inr (f.brokered.events_exchange ev h))
  · tauto

theorem lookup_active {spiffeId : String} {answer : Except Exc (Option RegisteredAgent)}
    (h : .lookup spiffeId answer ∈ f.trace) :
    ∃ record, answer = .ok (some record) ∧ record.status = .active := by
  obtain ⟨⟨record, hrecord, hstatus⟩, -, -⟩ := f.run.allowed_inv f.allowed
  refine ⟨record, ?_, hstatus⟩
  rw [← hrecord]
  obtain hmem | ⟨token, answer', heq⟩ | hkind := f.mem_trace h
  · have heq : spiffeId = f.run.agent.spiffeId ∧ answer = .ok f.run.registration := by
      simpa [forwarded] using hmem
    exact heq.2
  · cases heq
  · cases hkind

theorem evaluate_ok {call : ToolCallRequest} {answer : Except Exc PolicyDecision}
    (h : .evaluate call answer ∈ f.trace) : answer = .ok f.run.decision := by
  obtain hmem | ⟨token, answer', heq⟩ | hkind := f.mem_trace h
  · have heq : call = f.run.call ∧ answer = .ok f.run.decision := by
      simpa [forwarded] using hmem
    exact heq.2
  · cases heq
  · cases hkind

theorem record_eq {agent : AgentIdentity} {call : ToolCallRequest} {decision : PolicyDecision}
    {enforced : Bool} {answer : Except Exc ExecutionReceipt}
    (h : .record agent call decision enforced answer ∈ f.trace) :
    decision = f.run.decision ∧ enforced = f.run.enforced ∧ answer = .ok f.run.receipt := by
  obtain hmem | ⟨token, answer', heq⟩ | hkind := f.mem_trace h
  · have heq : agent = f.run.agent ∧ call = f.run.call ∧ decision = f.run.decision ∧
        enforced = f.run.enforced ∧ answer = .ok f.run.receipt := by
      simpa [forwarded] using hmem
    exact heq.2.2
  · cases heq
  · cases hkind

theorem not_enforced_deny (hdeny : f.run.decision.decision = .deny) : f.run.enforced = false := by
  obtain ⟨-, -, ⟨hallow, -⟩ | ⟨-, -, henforced⟩⟩ := f.run.allowed_inv f.allowed
  · rw [hallow] at hdeny
    cases hdeny
  · exact henforced

theorem completeMediation : svc.CompleteMediation headers f.trace where
  at_most_once := by
    have hbefore : (f.run.trace ++ f.brokerEvents).filter Event.isForward = [] := by
      rw [List.filter_eq_nil_iff]
      intro ev hev
      rw [f.forwards_last ev hev]
      exact Bool.false_ne_true
    rw [trace, List.filter_append, hbefore, List.nil_append]
    exact List.length_filter_le _ _
  mediated := by
    intro before call credential answer after htrace
    obtain ⟨rfl, hev, -⟩ := split_at_last f.forwards_last rfl htrace
    cases hev
    exact f.mediated
  orphan := by
    intro spiffeId hlookup
    obtain ⟨record, habs, -⟩ := f.lookup_active hlookup
    cases habs
  inactive := by
    intro spiffeId record hlookup hstatus
    obtain ⟨record', heq, hactive⟩ := f.lookup_active hlookup
    cases heq
    exact absurd hactive hstatus
  outage := by
    intro call e hevaluate
    cases f.evaluate_ok hevaluate
  enforced_deny := by
    intro agent call decision receipt hrecord hdeny
    obtain ⟨rfl, henforced, -⟩ := f.record_eq hrecord
    rw [f.not_enforced_deny hdeny] at henforced
    cases henforced
  stamped_deny := by
    intro hstamps agent call decision enforced receipt hrecord hdeny henforced
    obtain ⟨rfl, rfl, hreceipt⟩ := f.record_eq hrecord
    cases hreceipt
    obtain ⟨hflag, hdecision⟩ := hstamps _ _ _ _ _ f.run.recorded
    rw [hdecision] at hdeny
    rw [henforced, show (!svc.shadows f.run.decision f.run.shadowable) = f.run.enforced from rfl,
      f.not_enforced_deny hdeny] at hflag
    cases hflag

end ForwardedRun

theorem completeMediation_of_not_forwards {trace : List Event} (h : ¬ Forwards trace) :
    svc.CompleteMediation headers trace where
  at_most_once := by
    have hnil : trace.filter Event.isForward = [] := by
      rw [List.filter_eq_nil_iff]
      exact fun ev hev hkind => h ⟨ev, hev, hkind⟩
    rw [hnil]
    exact Nat.zero_le 1
  mediated := by
    intro before call credential answer after htrace
    exact absurd ⟨.forward call credential answer, by simp [htrace], rfl⟩ h
  orphan := fun _ _ => h
  inactive := fun _ _ _ _ => h
  outage := fun _ _ _ => h
  enforced_deny := fun _ _ _ _ _ _ => h
  stamped_deny := fun _ _ _ _ _ _ _ _ _ => h

/-- Complete mediation of every run, for every configuration and every answer of the ports. -/
theorem execute_completeMediation (svc : GovernedExecutionService) (headers : Headers)
    (payload : Dict) : svc.CompleteMediation headers (svc.execute headers payload).trace := by
  by_cases hforwards : Forwards (svc.execute headers payload).trace
  · obtain ⟨ev, hev, hkind⟩ := hforwards
    obtain ⟨f, rfl, htrace⟩ := forward_inv hev hkind
    rw [htrace]
    exact f.completeMediation
  · exact completeMediation_of_not_forwards hforwards

/-- The flag read off the receipt the ledger returned, whatever the ledger is. -/
def ForwardedAsReceipted (svc : GovernedExecutionService) (trace : List Event) : Prop :=
  ∀ before call credential answer after,
    trace = before ++ .forward call credential answer :: after →
      ∃ agent decision enforced receipt,
        .record agent call decision enforced (.ok receipt) ∈ before ∧
        (decision.decision = .allow ∧ receipt.enforced = true ∨
          svc.decisionMode = .observe ∧ decision.decision = .deny ∧ receipt.enforced = false)

/-- A ledger may return a receipt that does not carry the flag it was asked to write. -/
def careless : GovernedExecutionService :=
  { fixed fixedAgent (some fixedRecord) ⟨.allow, ""⟩ with
    ledger := fun _ _ _ _ => .ok { fixedReceipt with enforced := false } }

def receiptEnforced : Event → Bool
  | .record _ _ _ _ (.ok receipt) => receipt.enforced
  | _ => false

theorem careless_not_forwardedAsReceipted :
    ¬ careless.ForwardedAsReceipted
      (careless.execute [] [("method", .str "tools/list")]).trace := by
  intro h
  obtain ⟨agent, decision, enforced, receipt, hmem, hflag⟩ := h
    ((careless.execute [] [("method", .str "tools/list")]).trace.take 5) _ _ _ [] rfl
  have hreceipts : ∀ ev ∈ (careless.execute [] [("method", .str "tools/list")]).trace.take 5,
      receiptEnforced ev = false := by decide
  have hreceipt : receipt.enforced = false := hreceipts _ hmem
  rw [hreceipt] at hflag
  obtain ⟨-, habs⟩ | ⟨habs, -⟩ := hflag
  · cases habs
  · cases habs

end GovernedExecutionService

end OpenAgentControl
