import OpenAgentControl.Adapters.AuditExport
import OpenAgentControl.Gateway.Replicas

/-! # What the replicas leave behind

The audit stream of all replicas together, and the receipts their callers are told about. The stream
shows no receipt that the table does not hold and none twice, and nothing is brokered or forwarded
before its receipt is on it (`audit_stream_sound`). -/

namespace OpenAgentControl
set_option autoImplicit false
set_option maxHeartbeats 250000

open Foundations

theorem filter_eq_of_begins {α : Type} {kind : α → Bool} {done all : List α} {a : α}
    (h : done <+: all) (hall : all.filter kind = [a]) {b : α} (hmem : b ∈ done)
    (hkind : kind b = true) : done.filter kind = [b] := by
  have hsub : (done.filter kind).Sublist [a] := hall ▸ h.sublist.filter kind
  have hb : b ∈ done.filter kind := List.mem_filter.mpr ⟨hmem, hkind⟩
  obtain hnil | hone := List.sublist_singleton.mp hsub
  · rw [hnil] at hb
    cases hb
  · rw [hone] at hb ⊢
    rw [List.mem_singleton.mp hb]

namespace Deployment

variable {Req : Type}

/-- The receipts on the audit stream, in the order in which they were exported. -/
def exported (s : State Req) : List ExecutionReceipt :=
  s.log.filterMap fun e =>
    match e.2 with
    | .exportReceipt receipt _ => some receipt
    | _ => none

theorem mem_exported {s : State Req} {receipt : ExecutionReceipt} :
    receipt ∈ exported s ↔ ∃ t answer, (t, .exportReceipt receipt answer) ∈ s.log := by
  unfold exported
  rw [List.mem_filterMap]
  constructor
  · rintro ⟨⟨t, ev⟩, hmem, hev⟩
    cases ev with
    | exportReceipt found answer =>
      cases hev
      exact ⟨t, answer, hmem⟩
    | _ => cases hev
  · rintro ⟨t, answer, hmem⟩
    exact ⟨_, hmem, rfl⟩

variable [DecidableEq Req] {d : Deployment Req} {s s' : State Req}

/-- What is exported is the receipt of a committed transaction of the same request, once. -/
theorem export_inv (h : d.system.Reachable s) {t : Req} {receipt : ExecutionReceipt}
    {answer : Except Exc Unit} (hmem : (t, .exportReceipt receipt answer) ∈ s.log) :
    (∃ b, s.store.phase t = .committed b ∧ receipt = b.toReceipt) ∧
      (s.view t).filter Event.isExport = [.exportReceipt receipt answer] := by
  have hlate : Event.exportReceipt receipt answer ∉ (d.request t).decided.trace := by
    intro hearly
    have hkind := (GovernedExecutionService.decideCall_events _ hearly).2
    cases hkind
  obtain ⟨told, htold, hview, hscript⟩ := answered_of_mem h hmem hlate
  have hshown : Event.exportReceipt receipt answer ∈
      ((d.request t).script told).filter Event.isExport := List.mem_filter.mpr ⟨hscript, rfl⟩
  obtain hnone | ⟨shown, rfl, hone⟩ := (d.request t).script_exports told
  · rw [hnone] at hshown
    cases hshown
  have hfound := filter_eq_of_begins hview hone (Parties.mem_view.mpr hmem) rfl
  refine ⟨?_, hfound⟩
  rw [hone] at hshown
  obtain ⟨rfl, -⟩ := Event.exportReceipt.inj (List.mem_singleton.mp hshown)
  exact Phase.answers_ok htold

/-- No two exports on the stream are of receipts with one id. -/
theorem exported_ids_nodup (h : d.system.Reachable s) :
    ((exported s).map ExecutionReceipt.sequenceId).Nodup := by
  induction h with
  | start h =>
    rw [exported, h.2.2]
    exact List.nodup_nil
  | @step s s' l hs h ih =>
    have hs' : d.system.Reachable s' := .step hs h
    obtain hlog | ⟨t, ev, hlog, hview⟩ := Parties.logged_of_step h
    · rw [exported, hlog]
      exact ih
    · cases ev with
      | exportReceipt receipt answer =>
        have happended : exported s' = exported s ++ [receipt] := by
          rw [exported, hlog, List.filterMap_append]
          rfl
        rw [happended, List.map_append, List.map_singleton, List.nodup_append]
        refine ⟨ih, List.nodup_singleton _, ?_⟩
        intro id hid other hother
        rw [List.mem_singleton.mp hother]
        rintro rfl
        obtain ⟨found, hfound, hsame⟩ := List.mem_map.mp hid
        obtain ⟨t', answer', hmem⟩ := mem_exported.mp hfound
        have hmem' : (t', .exportReceipt found answer') ∈ s'.log := by
          rw [hlog]
          exact List.mem_append_left _ hmem
        have hlast : (t, .exportReceipt receipt answer) ∈ s'.log := by
          rw [hlog]
          exact List.mem_append_right _ (List.mem_singleton_self _)
        obtain ⟨⟨b', hphase', rfl⟩, -⟩ := export_inv hs' hmem'
        obtain ⟨⟨b, hphase, rfl⟩, hone⟩ := export_inv hs' hlast
        obtain rfl := LedgerConfig.committed_unique (store_reachable hs') hphase' hphase hsame
        have hearlier : Event.exportReceipt b'.toReceipt answer' ∈
            (s.view t').filter Event.isExport :=
          List.mem_filter.mpr ⟨Parties.mem_view.mpr hmem, rfl⟩
        rw [hview, List.filter_append] at hone
        rw [List.append_left_eq_self.mp hone] at hearlier
        cases hearlier
      | _ =>
        have hsame : exported s' = exported s := by
          rw [exported, hlog, List.filterMap_append]
          exact List.append_nil _
        rw [hsame]
        exact ih

/-- The audit stream of all replicas: its lines are distinct, each of them is of a receipt that the table
answers under its id, and whatever was brokered or forwarded has its receipt on it. -/
theorem audit_stream_sound (h : d.system.Reachable s) :
    ((exported s).map StdoutAuditExporter.exportLine).Nodup ∧
      (∀ receipt ∈ exported s,
        getReceipt s.store.receipts receipt.sequenceId = .ok (some receipt)) ∧
      ∀ t ev, (t, ev) ∈ s.log → ev.isExchange = true ∨ ev.isForward = true →
        ∃ b, s.store.phase t = .committed b ∧ d.Permits t ev b ∧
          (t, .exportReceipt b.toReceipt (.ok ())) ∈ s.log := by
  refine ⟨?_, ?_, ?_⟩
  · exact (exported_ids_nodup h).of_map.map StdoutAuditExporter.exportLine_injective
  · intro receipt hreceipt
    obtain ⟨t, answer, hmem⟩ := mem_exported.mp hreceipt
    obtain ⟨⟨b, hphase, rfl⟩, -⟩ := export_inv h hmem
    exact LedgerConfig.getReceipt_committed (store_reachable h) hphase
  · intro t ev hmem heffect
    obtain ⟨b, hphase, hpermits⟩ := permitted_of_effect h hmem heffect
    refine ⟨b, hphase, hpermits, ?_⟩
    obtain ⟨answer, hanswer, run, -, hran, -⟩ := effect_run h hmem heffect
    have hanswered : answer = .ok run.receipt := run.recorded
    obtain ⟨b', hphase', hreceipt⟩ := Phase.answers_ok (hanswered ▸ hanswer)
    obtain rfl := Phase.committed.inj (hphase.symm.trans hphase')
    rw [← hreceipt]
    apply Parties.mem_view.mp
    apply hran.subset
    simp [GovernedExecutionService.AuthorizedRun.trace]

/-! ## What a caller is told -/

/-- The response of the authorize route, as the receipt alone determines it. -/
def responseOf (receipt : ExecutionReceipt) : Json :=
  let allowed := receipt.decision == .allow || !receipt.enforced
  .obj [("allowed", .bool allowed), ("decision", .str receipt.decision.value),
    ("reason", .str receipt.reason), ("shadowed", .bool (!receipt.enforced)),
    ("instruction", .str (if allowed then "" else stopInstruction)),
    ("receipt_id", .str receipt.sequenceId), ("receipt_signature", optionalString receipt.signature)]

theorem authorizeResponse_eq {outcome : AuthorizationOutcome}
    (hdecision : outcome.receipt.decision = outcome.decision.decision)
    (hreason : outcome.receipt.reason = outcome.decision.reason)
    (henforced : outcome.receipt.enforced = !outcome.shadowed)
    (hallowed : outcome.allowed = (outcome.decision.decision == .allow || outcome.shadowed)) :
    authorizeResponse outcome = responseOf outcome.receipt := by
  simp only [authorizeResponse, responseOf, hdecision, hreason, henforced, hallowed, Bool.not_not]

/-- The receipt is of this tool with these arguments. -/
def IsReceiptOf (key : SigningKey) (tool : String) (arguments : Dict) (receipt : ExecutionReceipt) :
    Prop :=
  ∃ call : ToolCallRequest, call.method = "tools/call" ∧ call.toolName = some tool ∧
    call.arguments = arguments ∧ receipt.spiffeId = call.agent.spiffeId ∧
    receipt.payloadHash = key.sha256Hex (canonicalJson call.modelDump)

theorem built_of_authorizePayload {payload : Dict} {tool : String} {arguments : Dict}
    {agent : AgentIdentity} {registration : Option RegisteredAgent} {built : ToolCallRequest}
    (hpayload : payload = authorizePayload tool arguments)
    (h : buildCall payload agent registration = .ok built) :
    built = { method := "tools/call", toolName := some tool, arguments, agent, registration } := by
  subst hpayload
  exact (Except.ok.inj h).symm

theorem respondAuthorize_ok {result : Except Exc AuthorizationOutcome} {r : JsonResponse}
    (h : respondAuthorize result = .response r) (hstatus : r.statusCode = 200) :
    ∃ outcome, result = .ok outcome ∧ r.content = authorizeResponse outcome := by
  cases result with
  | ok outcome =>
    cases h
    exact ⟨outcome, rfl, rfl⟩
  | error e =>
    cases e with
    | identity message =>
      cases h
      cases hstatus
    | missingSubjectToken message =>
      cases h
      cases hstatus
    | _ => cases h

/-- What the authorize route tells its caller is what the ledger shows under the receipt id it names,
now and at any later moment, and that receipt is of the tool and the arguments that were asked about. -/
theorem authorized_receipt_found (h : d.system.Reachable s) {t : Req} {tool : String}
    {arguments : Dict} (hpayload : (d.request t).payload = authorizePayload tool arguments)
    {answer : Except Exc ExecutionReceipt} (hanswer : (s.store.phase t).Answers answer)
    {r : JsonResponse} (hresponse : authorizeRoute ((d.request t).svc.withLedger answer)
      (d.request t).headers tool arguments = .response r) (hstatus : r.statusCode = 200) :
    ∃ receipt, r.content = responseOf receipt ∧ IsReceiptOf d.key tool arguments receipt ∧
      ∀ s', d.system.Leads s s' →
        getReceipt s'.store.receipts receipt.sequenceId = .ok (some receipt) := by
  rw [authorizeRoute, ← hpayload] at hresponse
  obtain ⟨outcome, hok, hcontent⟩ := respondAuthorize_ok hresponse hstatus
  obtain ⟨run, rfl, -⟩ := GovernedExecutionService.authorizeCore_ok hok
  have hanswered : answer = .ok run.receipt := run.recorded
  obtain ⟨b, hphase, hreceipt⟩ := Phase.answers_ok (hanswered ▸ hanswer)
  obtain ⟨sequenceId, timestamp, previousHash, rfl⟩ := signed_of_run h run hphase
  refine ⟨run.receipt, ?_, ?_, ?_⟩
  · rw [hcontent]
    refine authorizeResponse_eq ?_ ?_ ?_ rfl
    · exact congrArg ExecutionReceipt.decision hreceipt
    · exact congrArg ExecutionReceipt.reason hreceipt
    · exact congrArg ExecutionReceipt.enforced hreceipt
  · have hbuilt := built_of_authorizePayload hpayload run.builtOk
    have hcall := run.resolved.frame.1
    rw [hbuilt] at hcall
    rw [IsReceiptOf, hreceipt]
    refine ⟨run.call, ?_, ?_, ?_, ?_, rfl⟩
    · rw [hcall]
    · rw [hcall]
    · rw [hcall]
    · rw [run.call_agent]
      rfl
  · intro s' hleads
    have hlater : (s'.store.phase t).Answers (.ok run.receipt) :=
      Parties.answers_of_leads hleads (hanswered ▸ hanswer)
    obtain ⟨b', hphase', hreceipt'⟩ := Phase.answers_ok hlater
    rw [hreceipt']
    exact LedgerConfig.getReceipt_committed (store_reachable (hleads.reachable h)) hphase'

theorem both_exported : ∃ s, both.system.Reachable s ∧ s.store.receipts.length = 2 ∧
    (both.pairReceipt false).toReceipt ∈ exported s ∧
    (both.pairReceipt true).toReceipt ∈ exported s ∧
    ((exported s).map StdoutAuditExporter.exportLine).Nodup := by
  obtain ⟨s, hreached, hstore, hviews⟩ := both_reachable
  have hexports : ∀ t, (both.pairReceipt t).toReceipt ∈ exported s := by
    intro t
    refine mem_exported.mpr ⟨t, .ok (), Parties.mem_view.mp ?_⟩
    rw [hviews]
    cases t with
    | false => exact List.mem_of_mem_dropLast (List.mem_of_getLast? rfl)
    | true => exact List.mem_of_getLast? rfl
  exact ⟨s, hreached, by rw [hstore]; rfl, hexports false, hexports true,
    (audit_stream_sound hreached).1⟩

theorem both_receipts_found : ∃ s receipt, both.system.Reachable s ∧ s.store.receipts.length = 2 ∧
    IsReceiptOf LedgerConfig.echoKey "read_query" [] receipt ∧
    getReceipt s.store.receipts receipt.sequenceId = .ok (some receipt) := by
  obtain ⟨s, hreached, hstore, -⟩ := both_reachable
  have hanswers : (s.store.phase true).Answers (.ok (both.pairReceipt true).toReceipt) := by
    rw [hstore, pairStore_phase]
    rfl
  have hpayload : (both.request true).payload = authorizePayload "read_query" [] := rfl
  obtain ⟨receipt, -, hof, hfound⟩ :=
    authorized_receipt_found hreached hpayload hanswers (r := ⟨200, _⟩) rfl rfl
  exact ⟨s, receipt, hreached, by rw [hstore]; rfl, hof, hfound _ .refl⟩

end Deployment

end OpenAgentControl
