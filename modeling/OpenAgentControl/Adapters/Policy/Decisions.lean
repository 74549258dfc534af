import OpenAgentControl.Adapters.Policy.McpAuthz

/-! # What the shipped policy decides

The terms of a grant in the words of the registry, and the rules of the policy read in them. A
guardrail fires for a call exactly when a threshold is exceeded or a term of a matching grant is
not met; it cannot be evaluated at all when two matching grants differ. -/

namespace OpenAgentControl
set_option autoImplicit false
set_option maxHeartbeats 250000

open Foundations
open Foundations.Rego

/-! ## Entitlement -/

structure TermsMet (subject : Option SubjectIdentity) (g : ToolGrant) : Prop where
  delegated : g.approvalRequired = true ∨ g.requiredRoles ≠ [] → subject.isSome = true
  role : g.requiredRoles ≠ [] → ∃ s, subject = some s ∧ ∃ role ∈ g.requiredRoles, role ∈ s.roles

/-- The grants of the record that carry the name of the called tool. -/
def ToolCallRequest.matchingGrants (request : ToolCallRequest) : List ToolGrant :=
  ((request.registration.map RegisteredAgent.grantedTools).getD []).filter fun g =>
    some g.name = request.toolName

/-- The record states one set of terms for the tool, however often. -/
def ToolCallRequest.TermsAgree (request : ToolCallRequest) : Prop :=
  ∀ g ∈ request.matchingGrants, ∀ g' ∈ request.matchingGrants, g = g'

/-- The `credit_limit` of an account update is absent, or not greater than 10000. -/
def ToolCallRequest.WithinThreshold (request : ToolCallRequest) : Prop :=
  request.toolName = some "salesforce_update_account" →
    ∀ limit, (request.arguments.get? "credit_limit").bind ofJson = some limit →
      limit.exceeds 10000 = false

/-- What an allowed call rests on. -/
structure ToolCallRequest.Entitled (request : ToolCallRequest) : Prop where
  method : request.method = "tools/call"
  active : ∃ r, request.registration = some r ∧ r.status = .active
  granted : request.matchingGrants ≠ []
  terms : ∀ g ∈ request.matchingGrants, TermsMet request.subject g
  threshold : request.WithinThreshold

def plainGrant : ToolGrant := { name := "update_record", name_not_blank := rfl }

def approvedGrant : ToolGrant := { plainGrant with approvalRequired := true }

/-- A verified human calls a tool that the record grants in these ways. -/
def updateCall (grants : List ToolGrant) : ToolCallRequest where
  method := "tools/call"
  toolName := some "update_record"
  agent := fixedAgent
  registration := some { fixedRecord with grantedTools := grants }
  subject := some { subjectId := "idp#dana", issuer := "idp" }

namespace McpAuthz

open Foundations.Rego.Answers

variable {document args : Value} {request : ToolCallRequest}

/-! ## The search for a grant -/

theorem name_matches (g : ToolGrant) (toolName : Option String) :
    decide (Value.str g.name = nameDocument toolName) = decide (some g.name = toolName) := by
  cases toolName with
  | none => rfl
  | some s => simp [nameDocument]

theorem granted_eq (hp : Presents document request args) :
    granted document (nameDocument request.toolName) =
      test (decide (request.matchingGrants ≠ [])) := by
  unfold granted ToolCallRequest.matchingGrants
  rw [hp.grants]
  cases request.registration with
  | none => rfl
  | some r =>
    have hsearch : once (each (r.grantedTools.map grantDocument) >>= fun t => do
        let name ← ref (t.get? "name")
        test (name = nameDocument request.toolName)) =
          test (r.grantedTools.any fun g => some g.name = request.toolName) :=
      once_each fun g _ => by rw [grantDocument_name, ref_some, bind_one, name_matches]
    refine (congrArg once (bind_one _ _)).trans (hsearch.trans (congrArg test ?_))
    rw [Bool.eq_iff_iff]
    simp

theorem grantFor_eq (hp : Presents document request args) :
    grantFor document (nameDocument request.toolName) =
      complete ⟨request.matchingGrants.map grantDocument, false⟩ := by
  unfold grantFor ToolCallRequest.matchingGrants
  rw [hp.grants]
  cases request.registration with
  | none => rfl
  | some r =>
    refine congrArg complete ((bind_one _ _).trans (each_bind fun g _ => ?_))
    rw [grantDocument_name, ref_some, bind_one, name_matches]
    cases decide (some g.name = request.toolName) <;> rfl

/-! ## The terms of one grant -/

theorem rolesRequired_grant (g : ToolGrant) :
    rolesRequired (grantDocument g) = test (decide (g.requiredRoles ≠ [])) := by
  have hcount : (stringsDocument g.requiredRoles).count? = some g.requiredRoles.length := by
    rw [stringsDocument, Value.count?, List.length_map]
  rw [rolesRequired, grantDocument_roles, ref_some, bind_one, hcount, ref_some, bind_one]
  exact congrArg test (decide_eq_decide.mpr List.length_pos_iff)

theorem requiresDelegation_grant (g : ToolGrant) : requiresDelegation (grantDocument g) =
    test (g.approvalRequired || decide (g.requiredRoles ≠ [])) := by
  have happroval : decide (Value.bool g.approvalRequired ≠ .bool false) = g.approvalRequired := by
    cases g.approvalRequired <;> rfl
  rw [requiresDelegation, grantDocument_approval, ref_some, rolesRequired_grant, bind_one,
    happroval, once_test_followedBy]

theorem hasAnyRole_eq (required actual : List String) :
    hasAnyRole (stringsDocument required) (stringsDocument actual) =
      test (required.any fun role => decide (role ∈ actual)) := by
  refine once_each fun role _ => congrArg test (decide_eq_decide.mpr ?_)
  simp [stringsDocument, Value.elements]

/-! ## The guardrails -/

theorem creditLimitExceeded_eq_undefined (hargs : ofJson (.obj request.arguments) = some args) :
    creditLimitExceeded (nameDocument request.toolName) args = undefined ↔
      request.WithinThreshold := by
  have htool : decide (nameDocument request.toolName = .str "salesforce_update_account") = true ↔
      request.toolName = some "salesforce_update_account" := by
    cases request.toolName <;> simp [nameDocument]
  rw [creditLimitExceeded, test_bind_eq_undefined, htool, get_ofJson hargs]
  refine forall_congr' fun _ => ?_
  unfold Dict.get?
  cases (request.arguments.lookup "credit_limit").bind ofJson with
  | none => exact iff_of_true rfl nofun
  | some limit =>
    rw [ref_some, bind_one, test_eq_undefined]
    exact ⟨fun h _ heq => Option.some.inj heq ▸ h, fun h => h limit rfl⟩

theorem grantFor_bind_eq_undefined (hp : Presents document request args)
    {f : Value → Answers Unit} :
    (grantFor document (nameDocument request.toolName) >>= f) = undefined ↔
      request.TermsAgree ∧ ∀ g ∈ request.matchingGrants, f (grantDocument g) = undefined := by
  rw [grantFor_eq hp, complete_bind_eq_undefined]
  simp only [List.forall_mem_map, true_and]
  refine and_congr_left' ⟨fun h g hg g' hg' => grantDocument_inj (h g hg g' hg'), ?_⟩
  intro h g hg g' hg'
  rw [h g hg g' hg']

theorem undelegated_eq_undefined (hp : Presents document request args) :
    undelegated document (nameDocument request.toolName) = undefined ↔
      request.TermsAgree ∧ ∀ g ∈ request.matchingGrants,
        g.approvalRequired = true ∨ g.requiredRoles ≠ [] → request.subject.isSome = true := by
  rw [undelegated, grantFor_bind_eq_undefined hp]
  refine and_congr_right' (forall₂_congr fun g _ => ?_)
  rw [requiresDelegation_grant, test_bind_eq_undefined, hp.subject, ref_some, bind_one,
    test_eq_undefined, Bool.or_eq_true, decide_eq_true_eq]
  refine imp_congr_right fun _ => ?_
  cases request.subject <;> simp [subjectDocument]

theorem roleMissing_eq_undefined (hp : Presents document request args) :
    roleMissing document (nameDocument request.toolName) = undefined ↔
      request.TermsAgree ∧ ∀ g ∈ request.matchingGrants, g.requiredRoles ≠ [] →
        ∀ s, request.subject = some s → ∃ role ∈ g.requiredRoles, role ∈ s.roles := by
  rw [roleMissing, grantFor_bind_eq_undefined hp]
  refine and_congr_right' (forall₂_congr fun g _ => ?_)
  rw [rolesRequired_grant, test_bind_eq_undefined, decide_eq_true_eq, path_pair, hp.subject,
    ref_some, bind_one, Option.bind_some, grantDocument_roles, ref_some]
  refine imp_congr_right fun _ => ?_
  cases request.subject with
  | none => exact iff_of_true rfl nofun
  | some s =>
    have hroles : (subjectDocument (some s)).get? "roles" = some (stringsDocument s.roles) :=
      lookup_sortByKey "roles" _
    rw [hroles, ref_some, bind_one, bind_one, hasAnyRole_eq, negate_test, test_bind_eq_undefined,
      test_eq_undefined]
    simp [subjectDocument]

/-- No guardrail fires, and none is in error, exactly when the threshold is kept, the matching
grants agree and their terms are met. -/
theorem guardrailViolation_eq_undefined (hp : Presents document request args)
    (hargs : ofJson (.obj request.arguments) = some args) :
    guardrailViolation document (nameDocument request.toolName) args = undefined ↔
      request.WithinThreshold ∧ request.TermsAgree ∧
        ∀ g ∈ request.matchingGrants, TermsMet request.subject g := by
  rw [guardrailViolation, once_eq_undefined, followedBy_eq_undefined, followedBy_eq_undefined,
    creditLimitExceeded_eq_undefined hargs, undelegated_eq_undefined hp,
    roleMissing_eq_undefined hp]
  refine and_congr_right' ?_
  constructor
  · rintro ⟨⟨hagree, hdelegated⟩, -, hrole⟩
    refine ⟨hagree, fun g hg => ⟨hdelegated g hg, fun hroles => ?_⟩⟩
    obtain ⟨s, hs⟩ := Option.isSome_iff_exists.mp (hdelegated g hg (Or.inr hroles))
    exact ⟨s, hs, hrole g hg hroles s hs⟩
  · rintro ⟨hagree, hterms⟩
    refine ⟨⟨hagree, fun g hg => (hterms g hg).delegated⟩, hagree, fun g hg hroles s hs => ?_⟩
    obtain ⟨s', hs', hrole⟩ := (hterms g hg).role hroles
    cases hs.symm.trans hs'
    exact hrole

/-! ## Decisions -/

theorem evaluate_ok {verdict : Verdict} (h : evaluate document = .ok verdict) :
    (allow document).failed = false ∧
      verdict = ⟨!(allow document).found.isEmpty, (reason document).found.head?⟩ := by
  unfold evaluate at h
  split_ifs at h with hfailed
  cases h
  rw [Bool.or_eq_true, not_or] at hfailed
  exact ⟨Bool.eq_false_of_not_eq_true hfailed.1, rfl⟩

theorem mem_allowDiscovery (hp : Presents document request args) {u : Unit}
    (h : u ∈ (allowDiscovery document).found) : request.method = "tools/list" := by
  obtain ⟨method, hmethod, htest⟩ := mem_bind h
  rw [hp.method, mem_ref] at hmethod
  cases hmethod
  exact Value.str.inj (of_decide_eq_true (mem_test.mp htest))

theorem mem_allowCall (hp : Presents document request args)
    (hargs : ofJson (.obj request.arguments) = some args) {u : Unit}
    (h : u ∈ (allowCall document).found) : request.Entitled := by
  obtain ⟨method, hmethod, h⟩ := mem_bind h
  obtain ⟨⟨⟩, hcall, h⟩ := mem_bind h
  obtain ⟨status, hstatus, h⟩ := mem_bind h
  obtain ⟨⟨⟩, hactive, h⟩ := mem_bind h
  obtain ⟨tool, htool, h⟩ := mem_bind h
  obtain ⟨⟨⟩, hgranted, h⟩ := mem_bind h
  obtain ⟨args', hargs', hviolation⟩ := mem_bind h
  rw [hp.method, mem_ref, Option.some.injEq] at hmethod
  rw [hp.status, mem_ref, Option.map_eq_some_iff] at hstatus
  rw [hp.name, mem_ref, Option.some.injEq] at htool
  rw [hp.arguments, mem_ref, Option.some.injEq] at hargs'
  subst htool hargs'
  rw [granted_eq hp, mem_test, decide_eq_true_eq] at hgranted
  rw [mem_negate, guardrailViolation_eq_undefined hp hargs] at hviolation
  obtain ⟨hthreshold, -, hterms⟩ := hviolation
  obtain ⟨r, hr, hvalue⟩ := hstatus
  have hmethod : request.method = "tools/call" := by
    rw [← hmethod] at hcall
    exact Value.str.inj (of_decide_eq_true (mem_test.mp hcall))
  have hstatus : r.status = .active := by
    rw [← hvalue, mem_test, decide_eq_true_eq, Value.str.injEq] at hactive
    revert hactive
    cases r.status <;> decide
  exact ⟨hmethod, ⟨r, hr, hstatus⟩, hgranted, hterms, hthreshold⟩

/-- A verdict that allows rests on discovery or on an entitled call. -/
theorem discovery_or_entitled {verdict : Verdict}
    (hdocument : ofJson (inputDocument request) = some document)
    (heval : evaluate document = .ok verdict) (hallow : verdict.allow = true) :
    request.method = "tools/list" ∨ request.Entitled := by
  obtain ⟨args, hargs, hp⟩ := presents hdocument
  obtain ⟨-, hverdict⟩ := evaluate_ok heval
  have hfound : (allow document).found ≠ [] := by
    intro hnil
    rw [hverdict, hnil] at hallow
    cases hallow
  obtain ⟨u, hu⟩ := List.exists_mem_of_ne_nil _ hfound
  rcases mem_followedBy (mem_once.mp hu) with hdiscovery | hcall
  · exact Or.inl (mem_allowDiscovery hp hdiscovery)
  · exact Or.inr (mem_allowCall hp hargs hcall)

/-- Soundness: what the policy allows is discovery or an entitled call. -/
theorem allow_sound {verdict : Verdict} (hdocument : ofJson (inputDocument request) = some document)
    (heval : evaluate document = .ok verdict) (hallow : verdict.allow = true) :
    request.method = "tools/list" ∨ request.Entitled :=
  discovery_or_entitled hdocument heval hallow

theorem allow_sound_updateCall : ∃ document,
    ofJson (inputDocument (updateCall [approvedGrant])) = some document ∧
      evaluate document = .ok ⟨true, none⟩ ∧
      ((updateCall [approvedGrant]).method = "tools/list" ∨
        (updateCall [approvedGrant]).Entitled) := by
  have hverdict : (ofJson (inputDocument (updateCall [approvedGrant]))).map evaluate =
      some (.ok ⟨true, none⟩) := by decide
  obtain ⟨document, hdocument, heval⟩ := Option.map_eq_some_iff.mp hverdict
  exact ⟨document, hdocument, heval, allow_sound hdocument heval rfl⟩

/-! ## Entitled calls -/

theorem allowDiscovery_of_call (hp : Presents document request args)
    (hmethod : request.method = "tools/call") : allowDiscovery document = undefined := by
  rw [allowDiscovery, hp.method, ref_some, bind_one, test_eq_undefined, hmethod]
  rfl

theorem allowCall_of_entitled (hp : Presents document request args) (h : request.Entitled) :
    allowCall document =
      negate (guardrailViolation document (nameDocument request.toolName) args) := by
  obtain ⟨r, hr, hactive⟩ := h.active
  rw [allowCall, hp.method, hp.status, hp.name, hp.arguments, hr, h.method, Option.map_some,
    hactive, ref_some, ref_some, ref_some, ref_some, bind_one, bind_one, bind_one, bind_one, granted_eq hp,
    decide_eq_true h.granted]
  -- what is left of the tests holds
  exact (bind_one () _).trans ((bind_one () _).trans (bind_one () _))

theorem reasonNotGranted_of_entitled (hp : Presents document request args)
    (h : request.Entitled) : reasonNotGranted document = undefined := by
  rw [reasonNotGranted, hp.method, hp.name, h.method, ref_some, ref_some, bind_one, bind_one,
    granted_eq hp, decide_eq_true h.granted]
  rfl

theorem reasonThreshold_of_entitled (hp : Presents document request args) (h : request.Entitled)
    (hnone : guardrailViolation document (nameDocument request.toolName) args = undefined) :
    reasonThreshold document = undefined := by
  rw [reasonThreshold, hp.method, hp.name, hp.arguments, h.method, ref_some, ref_some, ref_some,
    bind_one, bind_one, bind_one, granted_eq hp, decide_eq_true h.granted, hnone]
  rfl

theorem evaluate_of_agree (hp : Presents document request args)
    (hargs : ofJson (.obj request.arguments) = some args) (h : request.Entitled)
    (hagree : request.TermsAgree) : evaluate document = .ok ⟨true, none⟩ := by
  have hnone : guardrailViolation document (nameDocument request.toolName) args = undefined :=
    (guardrailViolation_eq_undefined hp hargs).mpr ⟨h.threshold, hagree, h.terms⟩
  have hallow : allow document = one () := by
    rw [allow, allowDiscovery_of_call hp h.method, allowCall_of_entitled hp h, hnone]
    rfl
  have hreason : reason document = undefined := by
    rw [reason, reasonNotGranted_of_entitled hp h, reasonThreshold_of_entitled hp h hnone]
    rfl
  rw [evaluate, hallow, hreason]
  rfl

/-- Matching grants that differ: `grant_for` is in conflict, and the query is an error. -/
theorem evaluate_of_conflict (hp : Presents document request args)
    (hargs : ofJson (.obj request.arguments) = some args) (h : request.Entitled)
    (hconflict : ¬ request.TermsAgree) : evaluate document = .error () := by
  simp only [ToolCallRequest.TermsAgree, not_forall] at hconflict
  obtain ⟨g, hg, g', hg', hne⟩ := hconflict
  have hgrant : grantFor document (nameDocument request.toolName) = failure := by
    rw [grantFor_eq hp]
    exact complete_conflict (List.mem_map_of_mem hg) (List.mem_map_of_mem hg')
      fun hsame => hne (grantDocument_inj hsame)
  have hviolation : guardrailViolation document (nameDocument request.toolName) args = failure := by
    rw [guardrailViolation, (creditLimitExceeded_eq_undefined hargs).mpr h.threshold,
      undefined_followedBy, undelegated, hgrant, bind_failure, failure_followedBy]
    rfl
  have hallow : allow document = failure := by
    rw [allow, allowDiscovery_of_call hp h.method, allowCall_of_entitled hp h, hviolation]
    rfl
  rw [evaluate, hallow]
  rfl

end McpAuthz

/-! ## Through the adapter -/

/-- The OPA server with the shipped policy: the result of the query, or a status that
`raise_for_status` refuses when the text has no document or the evaluation is an error. -/
structure OPAPolicyEngine.ServesPolicy (engine : OPAPolicyEngine) : Prop where
  decided : ∀ input document verdict, ofJson input = some document →
    McpAuthz.evaluate document = .ok verdict → ∃ body : Dict,
      engine.post (.obj [("input", input)]) = .success (some (.obj body)) ∧
        body.get? "result" = some verdict.result
  evaluationError : ∀ input document, ofJson input = some document →
    McpAuthz.evaluate document = .error () →
      ∃ message, engine.post (.obj [("input", input)]) = .httpError message
  malformed : ∀ input, ofJson input = none →
    ∃ message, engine.post (.obj [("input", input)]) = .httpError message

/-- The policy has a verdict on the call, and it is to allow it. -/
def ToolCallRequest.PolicyAllows (request : ToolCallRequest) : Prop :=
  ∃ document verdict, ofJson (inputDocument request) = some document ∧
    McpAuthz.evaluate document = .ok verdict ∧ verdict.allow = true

namespace OPAPolicyEngine

variable {engine : OPAPolicyEngine} {request : ToolCallRequest}

theorem evaluate_unavailable {message : String}
    (h : engine.post (opaInput request) = .httpError message) :
    engine.evaluate request = .error (.policyEngineUnavailable message) := by
  rw [evaluate, h]

theorem evaluate_allowed (hserves : engine.ServesPolicy) {document : Value}
    (hdocument : ofJson (inputDocument request) = some document)
    (heval : McpAuthz.evaluate document = .ok ⟨true, none⟩) :
    engine.evaluate request = .ok ⟨.allow, ""⟩ := by
  obtain ⟨body, hpost, hresult⟩ := hserves.decided _ _ _ hdocument heval
  rw [evaluate, opaInput, hpost]
  simp only [readDecision, hresult]
  rfl

theorem policyAllows_of_evaluate (hserves : engine.ServesPolicy) {decision : PolicyDecision}
    (h : engine.evaluate request = .ok decision) (hallow : decision.decision = .allow) :
    request.PolicyAllows := by
  cases hdocument : ofJson (inputDocument request) with
  | none =>
    obtain ⟨message, hpost⟩ := hserves.malformed _ hdocument
    rw [evaluate_unavailable hpost] at h
    cases h
  | some document =>
    cases heval : McpAuthz.evaluate document with
    | error e =>
      obtain ⟨message, hpost⟩ := hserves.evaluationError _ _ hdocument heval
      rw [evaluate_unavailable hpost] at h
      cases h
    | ok verdict =>
      obtain ⟨body, hpost, hresult⟩ := hserves.decided _ _ _ hdocument heval
      refine ⟨document, verdict, hdocument, heval, ?_⟩
      rw [evaluate, opaInput, hpost] at h
      cases hverdict : verdict.allow with
      | true => rfl
      | false =>
        obtain ⟨allow, reason⟩ := verdict
        cases hverdict
        cases reason with
        | none =>
          simp only [readDecision, hresult] at h
          cases h
          cases hallow
        | some reason =>
          simp only [readDecision, hresult] at h
          cases h
          cases hallow

end OPAPolicyEngine

/-- Matching grants that agree, and arguments with a JSON text: an entitled call is allowed. -/
theorem ToolCallRequest.Entitled.allowed {engine : OPAPolicyEngine} {request : ToolCallRequest}
    (h : request.Entitled) (hserves : engine.ServesPolicy) (hagree : request.TermsAgree)
    (htext : encodable (.obj request.arguments) = true) :
    request.PolicyAllows ∧ engine.evaluate request = .ok ⟨.allow, ""⟩ := by
  obtain ⟨agent, hagent, -⟩ := McpAuthz.ofJson_registration request.registration
  have hinput := McpAuthz.ofJson_inputDocument hagent
  rw [← isSome_ofJson] at htext
  obtain ⟨args, hargs⟩ := Option.isSome_iff_exists.mp htext
  rw [hargs] at hinput
  obtain ⟨args', hargs', hp⟩ := McpAuthz.presents hinput
  cases hargs.symm.trans hargs'
  have heval := McpAuthz.evaluate_of_agree hp hargs h hagree
  exact ⟨⟨_, _, hinput, heval, rfl⟩, OPAPolicyEngine.evaluate_allowed hserves hinput heval⟩

/-- Otherwise it is refused as an outage. -/
theorem ToolCallRequest.Entitled.refused {engine : OPAPolicyEngine} {request : ToolCallRequest}
    (h : request.Entitled) (hserves : engine.ServesPolicy)
    (hnot : ¬ (request.TermsAgree ∧ encodable (.obj request.arguments) = true)) :
    ¬ request.PolicyAllows ∧
      ∃ message, engine.evaluate request = .error (.policyEngineUnavailable message) := by
  obtain ⟨agent, hagent, -⟩ := McpAuthz.ofJson_registration request.registration
  have hinput := McpAuthz.ofJson_inputDocument hagent
  rw [← isSome_ofJson] at hnot
  cases hargs : ofJson (.obj request.arguments) with
  | none =>
    rw [hargs] at hinput
    obtain ⟨message, hpost⟩ := hserves.malformed _ hinput
    refine ⟨?_, message, OPAPolicyEngine.evaluate_unavailable hpost⟩
    rintro ⟨document, -, hdocument, -⟩
    cases hinput.symm.trans hdocument
  | some args =>
    rw [hargs] at hinput hnot
    obtain ⟨args', hargs', hp⟩ := McpAuthz.presents hinput
    cases hargs.symm.trans hargs'
    have heval := McpAuthz.evaluate_of_conflict hp hargs h fun hagree => hnot ⟨hagree, rfl⟩
    obtain ⟨message, hpost⟩ := hserves.evaluationError _ _ hinput heval
    refine ⟨?_, message, OPAPolicyEngine.evaluate_unavailable hpost⟩
    rintro ⟨document, verdict, hdocument, hverdict, -⟩
    cases hinput.symm.trans hdocument
    cases heval.symm.trans hverdict

/-- An entitled call is allowed exactly when the matching grants agree and its arguments have a JSON
text. Otherwise it is refused as an outage of the policy engine. -/
theorem entitled_allowed_iff (engine : OPAPolicyEngine) (hserves : engine.ServesPolicy)
    (request : ToolCallRequest) (h : request.Entitled) :
    (request.PolicyAllows ↔
      request.TermsAgree ∧ encodable (.obj request.arguments) = true) ∧
    (engine.evaluate request = .ok ⟨.allow, ""⟩ ↔
      request.TermsAgree ∧ encodable (.obj request.arguments) = true) ∧
    (¬ (request.TermsAgree ∧ encodable (.obj request.arguments) = true) →
      ∃ message, engine.evaluate request = .error (.policyEngineUnavailable message)) := by
  by_cases hcond : request.TermsAgree ∧ encodable (.obj request.arguments) = true
  · obtain ⟨hpolicy, hallowed⟩ := h.allowed hserves hcond.1 hcond.2
    exact ⟨iff_of_true hpolicy hcond, iff_of_true hallowed hcond, fun hnot => absurd hcond hnot⟩
  · obtain ⟨hpolicy, message, hrefused⟩ := h.refused hserves hcond
    have hallowed : engine.evaluate request ≠ .ok ⟨.allow, ""⟩ :=
      fun hok => nomatch hrefused.symm.trans hok
    exact ⟨iff_of_false hpolicy hcond, iff_of_false hallowed hcond, fun _ => ⟨message, hrefused⟩⟩

def shippedPolicy : OPAPolicyEngine where
  post body :=
    match body with
    | .obj [("input", input)] =>
      match (ofJson input).map McpAuthz.evaluate with
      | some (.ok verdict) => .success (some (.obj [("result", verdict.result)]))
      | some (.error ()) => .httpError "500 Internal Server Error"
      | none => .httpError "400 Bad Request"
    | _ => .httpError "400 Bad Request"

theorem shippedPolicy_serves : shippedPolicy.ServesPolicy where
  decided input document verdict hdocument heval := by
    refine ⟨[("result", verdict.result)], ?_, rfl⟩
    simp only [shippedPolicy, hdocument, Option.map_some, heval]
  evaluationError input document hdocument heval :=
    ⟨"500 Internal Server Error", by simp only [shippedPolicy, hdocument, Option.map_some, heval]⟩
  malformed input hnone := ⟨"400 Bad Request", by simp only [shippedPolicy, hnone, Option.map_none]⟩

theorem updateCall_entitled {grants : List ToolGrant} (hne : grants ≠ [])
    (hgrants : ∀ g ∈ grants, g.name = "update_record" ∧ g.requiredRoles = []) :
    (updateCall grants).Entitled := by
  have hmatching : (updateCall grants).matchingGrants = grants :=
    List.filter_eq_self.mpr fun g hg => by simp [updateCall, (hgrants g hg).1]
  refine ⟨rfl, ⟨_, rfl, rfl⟩, ?_, ?_, fun htool => ?_⟩
  · rwa [hmatching]
  · rw [hmatching]
    exact fun g hg => ⟨fun _ => rfl, fun hroles => absurd (hgrants g hg).2 hroles⟩
  · have hname : "update_record" = "salesforce_update_account" := Option.some.inj htool
    exact absurd hname (by decide)

theorem updateCall_allowed_iff :
    ((updateCall [approvedGrant]).PolicyAllows ↔
      (updateCall [approvedGrant]).TermsAgree ∧
        encodable (.obj (updateCall [approvedGrant]).arguments) = true) ∧
    (shippedPolicy.evaluate (updateCall [approvedGrant]) = .ok ⟨.allow, ""⟩ ↔
      (updateCall [approvedGrant]).TermsAgree ∧
        encodable (.obj (updateCall [approvedGrant]).arguments) = true) ∧
    (¬ ((updateCall [approvedGrant]).TermsAgree ∧
        encodable (.obj (updateCall [approvedGrant]).arguments) = true) →
      ∃ message, shippedPolicy.evaluate (updateCall [approvedGrant]) =
        .error (.policyEngineUnavailable message)) :=
  entitled_allowed_iff shippedPolicy shippedPolicy_serves (updateCall [approvedGrant])
    (updateCall_entitled (by decide) (by decide))

/-- A tool granted twice, once plainly and once with approval: the human who satisfies both grants
is refused because the policy engine seems to be down. -/
theorem twiceGranted_unavailable : (updateCall [plainGrant, approvedGrant]).Entitled ∧
    ¬ (updateCall [plainGrant, approvedGrant]).PolicyAllows ∧
      shippedPolicy.evaluate (updateCall [plainGrant, approvedGrant]) =
        .error (.policyEngineUnavailable "500 Internal Server Error") := by
  refine ⟨updateCall_entitled (by decide) (by decide), ?_, by decide⟩
  rintro ⟨document, verdict, hdocument, hverdict, -⟩
  have hconflict : (ofJson (inputDocument (updateCall [plainGrant, approvedGrant]))).map
      McpAuthz.evaluate = some (.error ()) := by decide
  rw [hdocument, Option.map_some, hverdict] at hconflict
  cases hconflict

end OpenAgentControl
