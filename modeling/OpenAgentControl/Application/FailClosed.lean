import OpenAgentControl.Application.Runs
import OpenAgentControl.Adapters.Policy.Opa

/-! # What the gateway makes of the policy engine's answer

Every answer of the OPA server is a decision, an outage, or an exception the gateway does not catch.
The module says which answers are read as what, and what a run that asked the engine records. -/

namespace OpenAgentControl
set_option autoImplicit false
set_option maxHeartbeats 250000

open Foundations

/-! ## Answers -/

/-- `response.json().get("result", {})`, when it is a `dict`. -/
def resultOf : Option Json → Option Dict
  | some (.obj body) =>
    match (Dict.get? body "result").getD (.obj []) with
    | .obj result => some result
    | _ => none
  | _ => none

/-- A result whose `allow` is true or falsy, and whose `reason` is a string, if they are there. -/
structure ReadableResult (result : Dict) : Prop where
  allow : ∀ value, result.get? "allow" = some value → value.truthy = true → value = .bool true
  reason : ∀ value, result.get? "reason" = some value → ∃ text, value = .str text

namespace HttpAnswer

def Readable (answer : HttpAnswer) : Prop :=
  ∀ body, answer.successful = some body →
    ∃ result, resultOf body = some result ∧ ReadableResult result

/-- A successful response whose body is an object with `result.allow` true. -/
def SaysAllow (answer : HttpAnswer) : Prop :=
  ∃ body result, answer.successful = some (some (.obj body)) ∧
    Dict.get? body "result" = some (.obj result) ∧ Dict.get? result "allow" = some (.bool true)

end HttpAnswer

namespace OPAPolicyEngine

variable {engine : OPAPolicyEngine} {request : ToolCallRequest} {answer : HttpAnswer}

/-- The decision read off a result object. -/
def decisionOf (result : Dict) : Decision :=
  if ((result.get? "allow").getD (.bool false)).truthy then .allow else .deny

theorem readDecision_of_readable {body result : Dict}
    (hresult : resultOf (some (.obj body)) = some result)
    (hreason : ∀ value, result.get? "reason" = some value → ∃ text, value = .str text) :
    ∃ reason, readDecision body = .ok ⟨decisionOf result, reason⟩ := by
  unfold resultOf at hresult
  simp only at hresult
  split at hresult
  case h_1 result' hget =>
    cases hresult
    unfold readDecision
    simp only [hget]
    cases hvalue : Dict.get? result "reason" with
    | none => exact ⟨_, rfl⟩
    | some value =>
      obtain ⟨text, rfl⟩ := hreason value hvalue
      exact ⟨text, rfl⟩
  case h_2 => cases hresult

theorem readDecision_ok {body : Dict} {decision : PolicyDecision}
    (h : readDecision body = .ok decision) :
    ∃ result, resultOf (some (.obj body)) = some result ∧
      decision.decision = decisionOf result ∧
      ∀ value, result.get? "reason" = some value → ∃ text, value = .str text := by
  unfold readDecision at h
  split at h
  case h_1 result hget =>
    refine ⟨result, ?_, ?_⟩
    · unfold resultOf
      simp only [hget]
    · simp only at h
      split at h
      case h_1 reason hreason =>
        cases h
        refine ⟨rfl, fun value hvalue => ?_⟩
        rw [hvalue] at hreason
        exact ⟨reason, hreason⟩
      case h_2 => cases h
  case h_2 => cases h

theorem readDecision_error {body : Dict} {e : Exc} (h : readDecision body = .error e)
    (message : String) : e ≠ .policyEngineUnavailable message := by
  unfold readDecision at h
  split at h
  case h_1 result hget =>
    simp only at h
    split at h
    case h_1 => cases h
    case h_2 =>
      cases h
      nofun
  case h_2 =>
    cases h
    nofun

theorem evaluate_of_unsuccessful (hpost : engine.post (opaInput request) = answer.outcome)
    (h : answer.successful = none) :
    ∃ message, engine.evaluate request = .error (.policyEngineUnavailable message) := by
  rw [evaluate, hpost]
  cases answer with
  | transportError message => exact ⟨message, rfl⟩
  | response status statusError body =>
    unfold HttpAnswer.successful at h
    unfold HttpAnswer.outcome
    simp only at h ⊢
    split_ifs at h with hstatus
    rw [if_neg hstatus]
    exact ⟨statusError, rfl⟩

theorem evaluate_of_successful (hpost : engine.post (opaInput request) = answer.outcome)
    {body : Option Json} (h : answer.successful = some body) :
    engine.evaluate request = match body with
      | none => .error (.other "JSONDecodeError")
      | some (.obj fields) => readDecision fields
      | some _ => .error attributeError := by
  have houtcome : answer.outcome = .success body := by
    cases answer with
    | transportError message => cases h
    | response status statusError body =>
      unfold HttpAnswer.successful at h
      unfold HttpAnswer.outcome
      simp only at h ⊢
      split_ifs at h with hstatus
      cases h
      exact if_pos hstatus
  rw [evaluate, hpost, houtcome]
  cases body with
  | none => rfl
  | some value => cases value <;> rfl

/-! ## Failing closed -/

/-- An allow only where the server said so, and no exception but the outage. -/
structure FailsClosed (engine : OPAPolicyEngine) (request : ToolCallRequest) (answer : HttpAnswer) :
    Prop where
  allow_only : ∀ decision, engine.evaluate request = .ok decision → decision.decision = .allow →
    answer.SaysAllow
  outage_only : ∀ e, engine.evaluate request = .error e →
    ∃ message, e = .policyEngineUnavailable message

theorem decisionOf_eq_allow {result : Dict} (h : ReadableResult result) :
    decisionOf result = .allow ↔ result.get? "allow" = some (.bool true) := by
  unfold decisionOf
  cases hvalue : result.get? "allow" with
  | none => exact iff_of_false (by decide) nofun
  | some value =>
    rw [Option.getD_some, Option.some.injEq]
    cases htruthy : value.truthy with
    | true => exact iff_of_true rfl (h.allow value hvalue htruthy)
    | false =>
      refine iff_of_false (by simp) fun heq => ?_
      rw [heq] at htruthy
      cases htruthy

theorem saysAllow_of_resultOf {body : Option Json} (hbody : answer.successful = some body)
    {result : Dict} (hresult : resultOf body = some result)
    (hallow : result.get? "allow" = some (.bool true)) : answer.SaysAllow := by
  unfold resultOf at hresult
  split at hresult
  case h_1 fields =>
    split at hresult
    case h_1 result' hget =>
      cases hresult
      cases hfields : Dict.get? fields "result" with
      | none =>
        rw [hfields] at hget
        cases hget
        cases hallow
      | some value =>
        rw [hfields] at hget
        cases hget
        exact ⟨fields, result, hbody, hfields, hallow⟩
    case h_2 => cases hresult
  case h_2 => cases hresult

theorem resultOf_of_saysAllow {body : Option Json} (hbody : answer.successful = some body)
    {result : Dict} (hresult : resultOf body = some result) (h : answer.SaysAllow) :
    result.get? "allow" = some (.bool true) := by
  obtain ⟨fields, result', hsuccess, hget, hallow⟩ := h
  cases hbody.symm.trans hsuccess
  unfold resultOf at hresult
  simp only [hget, Option.getD_some, Option.some.injEq] at hresult
  rw [← hresult]
  exact hallow

/-- A readable answer is a decision, and an allow only if it says so; or it is an outage. -/
theorem evaluate_of_readable (hpost : engine.post (opaInput request) = answer.outcome)
    (h : answer.Readable) :
    (∃ message, engine.evaluate request = .error (.policyEngineUnavailable message)) ∨
      ∃ decision, engine.evaluate request = .ok decision ∧
        (decision.decision = .allow → answer.SaysAllow) := by
  cases hsuccess : answer.successful with
  | none => exact Or.inl (evaluate_of_unsuccessful hpost hsuccess)
  | some body =>
    obtain ⟨result, hresult, hreadable⟩ := h body hsuccess
    have heval := evaluate_of_successful hpost hsuccess
    cases body with
    | none => cases hresult
    | some value =>
      cases value with
      | obj fields =>
        obtain ⟨reason, hread⟩ := readDecision_of_readable hresult hreadable.reason
        refine Or.inr ⟨_, heval.trans hread, fun hallow => ?_⟩
        exact saysAllow_of_resultOf hsuccess hresult ((decisionOf_eq_allow hreadable).mp hallow)
      | _ => cases hresult

/-- An answer that is not readable is an allow the server did not say, or an exception that is no
outage. -/
theorem evaluate_of_unreadable (hpost : engine.post (opaInput request) = answer.outcome)
    (h : ¬ answer.Readable) :
    (∃ e, engine.evaluate request = .error e ∧ ∀ message, e ≠ .policyEngineUnavailable message) ∨
      ∃ decision, engine.evaluate request = .ok decision ∧ decision.decision = .allow ∧
        ¬ answer.SaysAllow := by
  simp only [HttpAnswer.Readable, not_forall] at h
  obtain ⟨body, hsuccess, h⟩ := h
  have heval := evaluate_of_successful hpost hsuccess
  cases body with
  | none => exact Or.inl ⟨_, heval, nofun⟩
  | some value =>
    cases value with
    | obj fields =>
      cases hread : readDecision fields with
      | error e => exact Or.inl ⟨e, heval.trans hread, readDecision_error hread⟩
      | ok decision =>
        obtain ⟨result, hresult, hdecision, hreason⟩ := readDecision_ok hread
        have hallow : ∃ value, result.get? "allow" = some value ∧ value.truthy = true ∧
            value ≠ .bool true := by
          by_contra hnone
          refine h ⟨result, hresult, fun value hvalue htruthy => ?_, hreason⟩
          by_contra hne
          exact hnone ⟨value, hvalue, htruthy, hne⟩
        obtain ⟨value, hvalue, htruthy, hne⟩ := hallow
        refine Or.inr ⟨decision, heval.trans hread, ?_, fun hgrant => ?_⟩
        · rw [hdecision, decisionOf, hvalue, Option.getD_some, htruthy, if_pos rfl]
        · have habs := resultOf_of_saysAllow hsuccess hresult hgrant
          rw [hvalue] at habs
          exact hne (Option.some.inj habs)
    | _ => exact Or.inl ⟨_, heval, nofun⟩

theorem failsClosed_iff (hpost : engine.post (opaInput request) = answer.outcome) :
    FailsClosed engine request answer ↔ answer.Readable := by
  constructor
  · intro hclosed
    by_contra hunreadable
    obtain ⟨e, heval, hother⟩ | ⟨decision, heval, hallow, hnot⟩ :=
      evaluate_of_unreadable hpost hunreadable
    · obtain ⟨message, rfl⟩ := hclosed.outage_only e heval
      exact hother message rfl
    · exact hnot (hclosed.allow_only decision heval hallow)
  · intro hreadable
    obtain ⟨message, heval⟩ | ⟨decision, heval, hgrant⟩ := evaluate_of_readable hpost hreadable
    · refine ⟨fun d hd => ?_, fun e he => ?_⟩
      · cases heval.symm.trans hd
      · cases heval.symm.trans he
        exact ⟨message, rfl⟩
    · refine ⟨fun d hd => ?_, fun e he => ?_⟩
      · cases heval.symm.trans hd
        exact hgrant
      · cases heval.symm.trans he

end OPAPolicyEngine

namespace GovernedExecutionService

variable {svc : GovernedExecutionService} {headers : Headers} {payload : Dict}
  {call : ToolCallRequest} {answer : HttpAnswer}

/-- One receipt of the run, and a deny unless the server allowed the call. -/
def ReceiptedFailClosed (svc : GovernedExecutionService) (headers : Headers) (payload : Dict)
    (call : ToolCallRequest) (answer : HttpAnswer) : Prop :=
  ∃ agent decision enforced receipt,
    (svc.authorizeCore headers payload).trace.filter Event.isRecord =
        [.record agent call decision enforced receipt] ∧
      (decision.decision = .deny ∨ answer.SaysAllow)

/-- A run that asked the engine about a call: its decision is what the engine answered. -/
theorem decideCall_of_evaluate {policyAnswer : Except Exc PolicyDecision}
    (h : .evaluate call policyAnswer ∈ (svc.authorizeCore headers payload).trace) :
    ∃ agent, (svc.decideCall headers payload).result =
      match svc.policyEngine call with
      | .ok decision => .ok (agent, call, decision, true)
      | .error (.policyEngineUnavailable _) => .ok (agent, call, ⟨.deny, failClosedReason⟩, false)
      | .error e => .error e := by
  obtain ⟨agent, registration, built, events, hidentify, hlookup, hbuilt, hresolved, hasked⟩ :=
    evaluate_inv h
  obtain ⟨record, hrecord, hstatus⟩ := policyEvaluate_asked hasked
  refine ⟨agent, ?_⟩
  rw [decideCall_of_resolved hidentify hlookup hbuilt hresolved, policyEvaluate_active hrecord hstatus]
  cases svc.policyEngine call with
  | ok decision => rfl
  | error e =>
    cases e with
    | policyEngineUnavailable message => rfl
    | _ => rfl

/-- The engine fails closed, and a run that asks it is receipted and denied unless the server said to
allow, exactly when the answer is readable: no successful response; or an object whose result, if
there, is an object with a reason, if any, that is a string and an allow, if any, that is true or
falsy. -/
theorem opa_failsClosed_iff (engine : OPAPolicyEngine) (call : ToolCallRequest)
    (answer : HttpAnswer) (hpost : engine.post (opaInput call) = answer.outcome) :
    (OPAPolicyEngine.FailsClosed engine call answer ↔ answer.Readable) ∧
    ∀ (svc : GovernedExecutionService) (headers : Headers) (payload : Dict)
      (policyAnswer : Except Exc PolicyDecision), svc.policyEngine = engine.evaluate →
      .evaluate call policyAnswer ∈ (svc.authorizeCore headers payload).trace →
        (svc.ReceiptedFailClosed headers payload call answer ↔ answer.Readable) := by
  refine ⟨OPAPolicyEngine.failsClosed_iff hpost, ?_⟩
  intro svc headers payload policyAnswer hengine hasked
  obtain ⟨agent, hdecide⟩ := decideCall_of_evaluate hasked
  have hrecords := @authorizeCore_filter_isRecord svc headers payload
  rw [hengine] at hdecide
  unfold ReceiptedFailClosed
  by_cases hreadable : answer.Readable
  · refine iff_of_true ?_ hreadable
    obtain ⟨message, heval⟩ | ⟨decision, heval, hgrant⟩ :=
      OPAPolicyEngine.evaluate_of_readable hpost hreadable
    · simp only [heval] at hdecide
      simp only [hdecide] at hrecords
      exact ⟨_, _, _, _, hrecords, Or.inl rfl⟩
    · simp only [heval] at hdecide
      simp only [hdecide] at hrecords
      refine ⟨_, _, _, _, hrecords, ?_⟩
      cases hd : decision.decision with
      | allow => exact Or.inr (hgrant hd)
      | deny => exact Or.inl rfl
  · refine iff_of_false ?_ hreadable
    rintro ⟨agent', decision', enforced, receipt, hfilter, hclosed⟩
    rw [hfilter] at hrecords
    obtain ⟨e, heval, hother⟩ | ⟨decision, heval, hallow, hnot⟩ :=
      OPAPolicyEngine.evaluate_of_unreadable hpost hreadable
    · have herror : (svc.decideCall headers payload).result = .error e := by
        rw [hdecide, heval]
        cases e with
        | policyEngineUnavailable message => exact absurd rfl (hother message)
        | _ => rfl
      simp only [herror] at hrecords
      cases hrecords
    · simp only [heval] at hdecide
      simp only [hdecide, List.cons.injEq, Event.record.injEq] at hrecords
      obtain ⟨⟨-, -, rfl, -⟩, -⟩ := hrecords
      obtain hdeny | hgrant := hclosed
      · rw [hallow] at hdeny
        cases hdeny
      · exact hnot hgrant

/-- A server that answers every request alike. -/
def answering (answer : HttpAnswer) : OPAPolicyEngine where
  post _ := answer.outcome

/-- A policy whose `allow` is the string "no". -/
def stringAllow : HttpAnswer :=
  .response 200 "" (some (.obj [("result", .obj [("allow", .str "no")])]))

def asking : GovernedExecutionService :=
  { fixed fixedAgent (some fixedRecord) ⟨.deny, ""⟩ with
    policyEngine := (answering stringAllow).evaluate }

def askedCall : ToolCallRequest where
  method := "tools/call"
  agent := fixedAgent
  registration := some fixedRecord

theorem not_saysAllow_stringAllow : ¬ stringAllow.SaysAllow := by
  rintro ⟨body, result, hsuccess, hresult, hallow⟩
  cases hsuccess
  cases hresult
  cases hallow

/-- The decision a receipt was recorded for. -/
def recordedDecision : Event → Decision
  | .record _ _ decision _ _ => decision.decision
  | _ => .deny

theorem stringAllow_failsOpen :
    ¬ OPAPolicyEngine.FailsClosed (answering stringAllow) askedCall stringAllow ∧
    ¬ asking.ReceiptedFailClosed [] [("method", .str "tools/call")] askedCall stringAllow := by
  constructor
  · intro h
    exact not_saysAllow_stringAllow (h.allow_only ⟨.allow, ""⟩ (by decide) rfl)
  · rintro ⟨agent, decision, enforced, receipt, hfilter, hclosed⟩
    have hallowed : ((asking.authorizeCore [] [("method", .str "tools/call")]).trace.filter
        Event.isRecord).map recordedDecision = [.allow] := by decide
    rw [hfilter] at hallowed
    obtain hdeny | hgrant := hclosed
    · have hallow : decision.decision = .allow := (List.cons.inj hallowed).1
      rw [hdeny] at hallow
      cases hallow
    · exact not_saysAllow_stringAllow hgrant

theorem stringAllow_failsClosed_iff :
    (OPAPolicyEngine.FailsClosed (answering stringAllow) askedCall stringAllow ↔
      stringAllow.Readable) ∧
    (asking.ReceiptedFailClosed [] [("method", .str "tools/call")] askedCall stringAllow ↔
      stringAllow.Readable) :=
  have h := opa_failsClosed_iff (answering stringAllow) askedCall stringAllow rfl
  ⟨h.1, h.2 asking [] [("method", .str "tools/call")] (.ok ⟨.allow, ""⟩) rfl (by decide)⟩

end GovernedExecutionService

end OpenAgentControl
