import OpenAgentControl.Adapters.Policy.Decisions

/-! # The decision table of the shipped policy

What the policy decides on every request, as one table over the registry's own words: the rules of
the file, the search for grants, the conflicts between them and the defaults of the adapter are
accounted for in it. From the table: a record that grants more never loses a call to a denial. -/

namespace OpenAgentControl
set_option autoImplicit false
set_option maxHeartbeats 250000

open Foundations
open Foundations.Rego

/-! ## The table -/

instance (subject : Option SubjectIdentity) (g : ToolGrant) : Decidable (TermsMet subject g) :=
  decidable_of_iff
    ((g.approvalRequired = true ∨ g.requiredRoles ≠ [] → subject.isSome = true) ∧
      (g.requiredRoles ≠ [] → ∃ s ∈ subject.toList, ∃ role ∈ g.requiredRoles, role ∈ s.roles))
    ⟨fun h => ⟨h.1, fun hroles => by simpa using h.2 hroles⟩,
      fun h => ⟨h.delegated, fun hroles => by simpa using h.role hroles⟩⟩

instance (request : ToolCallRequest) : Decidable request.TermsAgree :=
  inferInstanceAs (Decidable (∀ g ∈ request.matchingGrants, ∀ g' ∈ request.matchingGrants, g = g'))

instance (request : ToolCallRequest) : Decidable request.WithinThreshold :=
  decidable_of_iff (request.toolName = some "salesforce_update_account" →
    ((request.arguments.get? "credit_limit").bind ofJson).all fun limit => !limit.exceeds 10000)
    (by simp [ToolCallRequest.WithinThreshold, Option.all_eq_true])

/-- The registration is there, and active. -/
def ToolCallRequest.isActive (request : ToolCallRequest) : Bool :=
  request.registration.any fun r => r.status = .active

def notGrantedReason : String := "Capability not granted for this agent identity"

def thresholdReason : String := "Tool arguments exceed authorized thresholds"

/-- What the adapter says of a denial for which the policy gives no reason. -/
def noReason : String := "Denied by policy"

/-- The decision on a request whose arguments have a JSON text; none where the query is in error. -/
def ToolCallRequest.ruling (request : ToolCallRequest) : Option PolicyDecision :=
  if request.method = "tools/list" then some ⟨.allow, ""⟩
  else if request.method ≠ "tools/call" then some ⟨.deny, noReason⟩
  else if request.matchingGrants = [] then some ⟨.deny, notGrantedReason⟩
  else if ¬ request.WithinThreshold then some ⟨.deny, thresholdReason⟩
  else if ¬ request.TermsAgree then none
  else if ∃ g ∈ request.matchingGrants, ¬ TermsMet request.subject g then
    some ⟨.deny, thresholdReason⟩
  else if request.isActive then some ⟨.allow, ""⟩
  else some ⟨.deny, noReason⟩

example : (updateCall [plainGrant]).ruling = some ⟨.allow, ""⟩ := by decide

/-- The decision the adapter reads off a verdict. -/
def McpAuthz.Verdict.decision (verdict : McpAuthz.Verdict) : PolicyDecision :=
  if verdict.allow then ⟨.allow, verdict.reason.getD ""⟩
  else ⟨.deny, verdict.reason.getD noReason⟩

namespace McpAuthz

open Foundations.Rego.Answers

variable {document args : Value} {request : ToolCallRequest}

/-! ## The guardrails -/

theorem failed_creditLimitExceeded (tool args : Value) :
    (creditLimitExceeded tool args).failed = false :=
  failed_bind (failed_test _) fun _ _ => failed_bind rfl fun _ _ => failed_test _

theorem failed_rolesRequired (grant : Value) : (rolesRequired grant).failed = false :=
  failed_bind rfl fun _ _ => failed_bind rfl fun _ _ => failed_test _

theorem failed_requiresDelegation (grant : Value) : (requiresDelegation grant).failed = false :=
  failed_once (failed_followedBy (failed_bind rfl fun _ _ => failed_test _)
    (failed_rolesRequired grant))

theorem failed_hasAnyRole (required actual : Value) :
    (hasAnyRole required actual).failed = false :=
  failed_once (failed_bind rfl fun _ _ => failed_test _)

theorem failed_undelegated {tool : Value} (hgrant : (grantFor document tool).failed = false) :
    (undelegated document tool).failed = false :=
  failed_bind hgrant fun grant _ => failed_bind (failed_requiresDelegation grant) fun _ _ =>
    failed_bind rfl fun _ _ => failed_test _

theorem failed_roleMissing {tool : Value} (hgrant : (grantFor document tool).failed = false) :
    (roleMissing document tool).failed = false :=
  failed_bind hgrant fun grant _ => failed_bind (failed_rolesRequired grant) fun _ _ =>
    failed_bind rfl fun _ _ => failed_bind (failed_test _) fun _ _ =>
      failed_bind rfl fun _ _ => failed_bind rfl fun _ _ => failed_negate (failed_hasAnyRole _ _)

/-! ## The guardrails of a call -/

theorem guardrailViolation_of_exceeded (hargs : ofJson (.obj request.arguments) = some args)
    (h : ¬ request.WithinThreshold) :
    guardrailViolation document (nameDocument request.toolName) args = one () := by
  have hne : creditLimitExceeded (nameDocument request.toolName) args ≠ undefined :=
    fun hnone => h ((creditLimitExceeded_eq_undefined hargs).mp hnone)
  have hfailed : (creditLimitExceeded (nameDocument request.toolName) args).failed = false :=
    failed_creditLimitExceeded _ _
  exact once_eq_one (found_followedBy (found_ne_nil hfailed hne))

/-- Matching grants that differ: the first of the rules that look them up is in error. -/
theorem guardrailViolation_of_conflict (hp : Presents document request args)
    (hargs : ofJson (.obj request.arguments) = some args) (hwithin : request.WithinThreshold)
    (h : ¬ request.TermsAgree) :
    guardrailViolation document (nameDocument request.toolName) args = failure := by
  simp only [ToolCallRequest.TermsAgree, not_forall] at h
  obtain ⟨g, hg, g', hg', hne⟩ := h
  have hgrant : grantFor document (nameDocument request.toolName) = failure := by
    rw [grantFor_eq hp]
    exact complete_conflict (List.mem_map_of_mem hg) (List.mem_map_of_mem hg')
      fun hsame => hne (grantDocument_inj hsame)
  have hundelegated : undelegated document (nameDocument request.toolName) = Answers.failure := by
    rw [undelegated, hgrant, bind_failure]
  rw [guardrailViolation, (creditLimitExceeded_eq_undefined hargs).mpr hwithin,
    undefined_followedBy, hundelegated, failure_followedBy]
  rfl

theorem guardrailViolation_of_unmet (hp : Presents document request args)
    (hargs : ofJson (.obj request.arguments) = some args) (hagree : request.TermsAgree)
    (h : ∃ g ∈ request.matchingGrants, ¬ TermsMet request.subject g) :
    guardrailViolation document (nameDocument request.toolName) args = one () := by
  have hgrant : (grantFor document (nameDocument request.toolName)).failed = false := by
    rw [grantFor_eq hp, complete_defined]
    refine ⟨rfl, List.forall_mem_map.mpr fun g hg => List.forall_mem_map.mpr fun g' hg' => ?_⟩
    rw [hagree g hg g' hg']
  have hne : guardrailViolation document (nameDocument request.toolName) args ≠ undefined := by
    intro hnone
    obtain ⟨g, hg, hunmet⟩ := h
    exact hunmet (((guardrailViolation_eq_undefined hp hargs).mp hnone).2.2 g hg)
  rw [guardrailViolation, Ne, once_eq_undefined] at hne
  refine once_eq_one (found_ne_nil (failed_followedBy (failed_creditLimitExceeded _ _) ?_) hne)
  exact failed_followedBy (failed_undelegated hgrant) (failed_roleMissing hgrant)

/-! ## The rules of a call -/

theorem reason_of_other (hp : Presents document request args)
    (hmethod : request.method ≠ "tools/call") : reason document = undefined := by
  have htest : (decide (Value.str request.method = .str "tools/call")) = false := by simp [hmethod]
  rw [reason, reasonNotGranted, reasonThreshold, hp.method, ref_some, bind_one, bind_one, htest]
  rfl

theorem evaluate_of_discovery (hp : Presents document request args)
    (hmethod : request.method = "tools/list") : evaluate document = .ok ⟨true, none⟩ := by
  have hallow : allow document = one () := by
    rw [allow, allowDiscovery, hp.method, hmethod, ref_some, bind_one]
    exact once_eq_one (found_followedBy (List.cons_ne_nil () []))
  have hreason : reason document = undefined :=
    reason_of_other hp (by rw [hmethod]; decide)
  rw [evaluate, hallow, hreason]
  rfl

theorem evaluate_of_other (hp : Presents document request args)
    (hlist : request.method ≠ "tools/list") (hcall : request.method ≠ "tools/call") :
    evaluate document = .ok ⟨false, none⟩ := by
  have hallow : allow document = undefined := by
    have hlist : decide (Value.str request.method = .str "tools/list") = false := by simp [hlist]
    have hcall : decide (Value.str request.method = .str "tools/call") = false := by simp [hcall]
    rw [allow, allowDiscovery, allowCall, hp.method, ref_some, bind_one, bind_one, hlist, hcall]
    rfl
  rw [evaluate, hallow, reason_of_other hp hcall]
  rfl

theorem allow_of_call (hp : Presents document request args)
    (hmethod : request.method = "tools/call") : allow document =
      once (test request.isActive >>= fun _ => test (decide (request.matchingGrants ≠ [])) >>=
        fun _ => negate (guardrailViolation document (nameDocument request.toolName) args)) := by
  have hstatus (r : RegisteredAgent) : decide (Value.str r.status.value = .str "active") =
      decide (r.status = .active) := by
    cases r.status <;> decide
  rw [allow, allowDiscovery_of_call hp hmethod, undefined_followedBy, allowCall, hp.method,
    hp.status, hp.name, hp.arguments, hmethod, ref_some, ref_some, ref_some, bind_one, bind_one,
    bind_one, granted_eq hp, ToolCallRequest.isActive]
  cases request.registration with
  | none => rfl
  | some r =>
    rw [Option.map_some, ref_some, bind_one, hstatus]
    exact congrArg once (bind_one () _)

theorem reason_of_ungranted (hp : Presents document request args)
    (hmethod : request.method = "tools/call") (hnone : request.matchingGrants = []) :
    reason document = one notGrantedReason := by
  rw [reason, reasonNotGranted, reasonThreshold, hp.method, hp.name, hmethod, ref_some, ref_some,
    bind_one, bind_one, bind_one, bind_one, granted_eq hp, hnone]
  rfl

theorem reason_of_granted (hp : Presents document request args)
    (hmethod : request.method = "tools/call") (hsome : request.matchingGrants ≠ []) :
    reason document =
      complete (guardrailViolation document (nameDocument request.toolName) args >>=
        fun _ => one thresholdReason) := by
  rw [reason, reasonNotGranted, reasonThreshold, hp.method, hp.name, hp.arguments, hmethod,
    ref_some, ref_some, ref_some, bind_one, bind_one, bind_one, bind_one, bind_one,
    granted_eq hp, decide_eq_true hsome, decide_eq_true rfl]
  simp only [test_true, bind_one]
  rfl

/-- A granted call is decided by the guardrails and the status. -/
theorem evaluate_of_granted (hp : Presents document request args)
    (hmethod : request.method = "tools/call") (hsome : request.matchingGrants ≠ []) :
    (guardrailViolation document (nameDocument request.toolName) args = undefined →
      evaluate document = .ok ⟨request.isActive, none⟩) ∧
    (guardrailViolation document (nameDocument request.toolName) args = one () →
      evaluate document = .ok ⟨false, some thresholdReason⟩) ∧
    (guardrailViolation document (nameDocument request.toolName) args = failure →
      evaluate document = .error ()) := by
  have hallow := allow_of_call hp hmethod
  have hreason := reason_of_granted hp hmethod hsome
  rw [decide_eq_true hsome] at hallow
  refine ⟨fun hviolation => ?_, fun hviolation => ?_, fun hviolation => ?_⟩ <;>
    rw [evaluate, hallow, hreason, hviolation] <;> cases request.isActive <;> rfl

/-- What the rules decide is what the table says, and they are in error where it has no entry. -/
theorem evaluate_ruling (hp : Presents document request args)
    (hargs : ofJson (.obj request.arguments) = some args) :
    (evaluate document).toOption.map Verdict.decision = request.ruling := by
  unfold ToolCallRequest.ruling
  by_cases hlist : request.method = "tools/list"
  · rw [if_pos hlist, evaluate_of_discovery hp hlist]
    rfl
  by_cases hcall : request.method = "tools/call"
  case neg =>
    rw [if_neg hlist, if_pos hcall, evaluate_of_other hp hlist hcall]
    rfl
  rw [if_neg hlist, if_neg (not_not.mpr hcall)]
  by_cases hnone : request.matchingGrants = []
  · rw [if_pos hnone, evaluate, allow_of_call hp hcall, reason_of_ungranted hp hcall hnone, hnone]
    cases request.isActive <;> rfl
  obtain ⟨hkept, hviolated, herror⟩ := evaluate_of_granted hp hcall hnone
  rw [if_neg hnone]
  by_cases hwithin : request.WithinThreshold
  case neg =>
    rw [if_pos hwithin, hviolated (guardrailViolation_of_exceeded hargs hwithin)]
    rfl
  rw [if_neg (not_not.mpr hwithin)]
  by_cases hagree : request.TermsAgree
  case neg =>
    rw [if_pos hagree, herror (guardrailViolation_of_conflict hp hargs hwithin hagree)]
    rfl
  rw [if_neg (not_not.mpr hagree)]
  by_cases hunmet : ∃ g ∈ request.matchingGrants, ¬ TermsMet request.subject g
  · rw [if_pos hunmet, hviolated (guardrailViolation_of_unmet hp hargs hagree hunmet)]
    rfl
  have hmet : ∀ g ∈ request.matchingGrants, TermsMet request.subject g := by simpa using hunmet
  rw [if_neg hunmet, hkept ((guardrailViolation_eq_undefined hp hargs).mpr ⟨hwithin, hagree, hmet⟩)]
  cases request.isActive <;> rfl

end McpAuthz

/-! ## Through the adapter -/

namespace OPAPolicyEngine

variable {engine : OPAPolicyEngine} {request : ToolCallRequest}

theorem readDecision_result {body : Dict} {verdict : McpAuthz.Verdict}
    (h : body.get? "result" = some verdict.result) :
    readDecision body = .ok verdict.decision := by
  obtain ⟨allow, reason⟩ := verdict
  cases allow <;> cases reason <;> simp only [readDecision, h] <;> rfl

/-- With the shipped policy behind it, the engine answers the entry of the table, or is
unavailable. -/
theorem evaluate_shipped (hserves : engine.ServesPolicy) (request : ToolCallRequest) :
    if encodable (.obj request.arguments) then
      match request.ruling with
      | some decision => engine.evaluate request = .ok decision
      | none => ∃ message, engine.evaluate request = .error (.policyEngineUnavailable message)
    else ∃ message, engine.evaluate request = .error (.policyEngineUnavailable message) := by
  obtain ⟨agent, hagent, -⟩ := McpAuthz.ofJson_registration request.registration
  have hinput := McpAuthz.ofJson_inputDocument hagent
  rw [← isSome_ofJson]
  cases hargs : ofJson (.obj request.arguments) with
  | none =>
    rw [hargs] at hinput
    obtain ⟨message, hpost⟩ := hserves.malformed _ hinput
    exact ⟨message, evaluate_unavailable hpost⟩
  | some args =>
    rw [hargs] at hinput
    obtain ⟨args', hargs', hp⟩ := McpAuthz.presents hinput
    cases hargs.symm.trans hargs'
    rw [← McpAuthz.evaluate_ruling hp hargs]
    cases heval : McpAuthz.evaluate (McpAuthz.callDocument request agent args) with
    | error e =>
      obtain ⟨message, hpost⟩ := hserves.evaluationError _ _ hinput heval
      exact ⟨message, evaluate_unavailable hpost⟩
    | ok verdict =>
      obtain ⟨body, hpost, hresult⟩ := hserves.decided _ _ _ hinput heval
      change engine.evaluate request = .ok verdict.decision
      rw [evaluate, opaInput, hpost]
      exact readDecision_result hresult

theorem evaluate_ok_iff (hserves : engine.ServesPolicy) {decision : PolicyDecision} :
    engine.evaluate request = .ok decision ↔
      encodable (.obj request.arguments) = true ∧ request.ruling = some decision := by
  have hshipped := evaluate_shipped hserves request
  cases htext : encodable (.obj request.arguments) <;> cases hruling : request.ruling <;>
    simp only [htext, hruling] at hshipped <;> grind

theorem evaluate_unavailable_iff (hserves : engine.ServesPolicy) :
    (∃ message, engine.evaluate request = .error (.policyEngineUnavailable message)) ↔
      encodable (.obj request.arguments) = false ∨ request.ruling = none := by
  have hshipped := evaluate_shipped hserves request
  cases htext : encodable (.obj request.arguments) <;> cases hruling : request.ruling <;>
    simp only [htext, hruling] at hshipped <;> grind

end OPAPolicyEngine

/-- The table is the whole policy: the engine answers a decision exactly when the arguments have a
JSON text and the table has that entry for the request, and is unavailable exactly otherwise. -/
theorem policy_ruling (engine : OPAPolicyEngine) (hserves : engine.ServesPolicy)
    (request : ToolCallRequest) :
    (∀ decision, engine.evaluate request = .ok decision ↔
      encodable (.obj request.arguments) = true ∧ request.ruling = some decision) ∧
    ((∃ message, engine.evaluate request = .error (.policyEngineUnavailable message)) ↔
      encodable (.obj request.arguments) = false ∨ request.ruling = none) :=
  ⟨fun _ => OPAPolicyEngine.evaluate_ok_iff hserves, OPAPolicyEngine.evaluate_unavailable_iff hserves⟩

theorem updateCall_ruling :
    (∀ decision, shippedPolicy.evaluate (updateCall [plainGrant]) = .ok decision ↔
      encodable (.obj (updateCall [plainGrant]).arguments) = true ∧
        (updateCall [plainGrant]).ruling = some decision) ∧
    ((∃ message, shippedPolicy.evaluate (updateCall [plainGrant]) =
      .error (.policyEngineUnavailable message)) ↔
        encodable (.obj (updateCall [plainGrant]).arguments) = false ∨
          (updateCall [plainGrant]).ruling = none) :=
  policy_ruling shippedPolicy shippedPolicy_serves (updateCall [plainGrant])

/-! ## Records that grant more -/

/-- The same call under a record that grants no less for the tool and is active if the other is, on
behalf of a human with no fewer roles. -/
structure ToolCallRequest.WidenedTo (request wider : ToolCallRequest) : Prop where
  method : wider.method = request.method
  toolName : wider.toolName = request.toolName
  arguments : wider.arguments = request.arguments
  grants : request.matchingGrants ⊆ wider.matchingGrants
  active : request.isActive = true → wider.isActive = true
  roles : ∀ s, request.subject = some s → ∃ s', wider.subject = some s' ∧ s.roles ⊆ s'.roles

theorem TermsMet.mono {subject subject' : Option SubjectIdentity} {g : ToolGrant}
    (h : TermsMet subject g)
    (hroles : ∀ s, subject = some s → ∃ s', subject' = some s' ∧ s.roles ⊆ s'.roles) :
    TermsMet subject' g where
  delegated hneeds := by
    obtain ⟨s, hs⟩ := Option.isSome_iff_exists.mp (h.delegated hneeds)
    obtain ⟨s', hs', -⟩ := hroles s hs
    exact Option.isSome_iff_exists.mpr ⟨s', hs'⟩
  role hneeds := by
    obtain ⟨s, hs, role, hrole, hmem⟩ := h.role hneeds
    obtain ⟨s', hs', hsub⟩ := hroles s hs
    exact ⟨s', hs', role, hrole, hsub hmem⟩

namespace ToolCallRequest

variable {request wider : ToolCallRequest}

theorem isActive_iff : request.isActive = true ↔
    ∃ r, request.registration = some r ∧ r.status = .active := by
  simp [isActive, Option.any_eq_true]

theorem ruling_of_discovery (h : request.method = "tools/list") :
    request.ruling = some ⟨.allow, ""⟩ := if_pos h

theorem ruling_of_granted (hmethod : request.method = "tools/call")
    (hgranted : request.matchingGrants ≠ []) (hwithin : request.WithinThreshold) :
    request.ruling =
      if ¬ request.TermsAgree then none
      else if ∃ g ∈ request.matchingGrants, ¬ TermsMet request.subject g then
        some ⟨.deny, thresholdReason⟩
      else if request.isActive then some ⟨.allow, ""⟩
      else some ⟨.deny, noReason⟩ := by
  have hlist : request.method ≠ "tools/list" := by
    rw [hmethod]
    decide
  rw [ruling, if_neg hlist, if_neg (not_not.mpr hmethod), if_neg hgranted,
    if_neg (not_not.mpr hwithin)]

theorem Entitled.ruling (h : request.Entitled) :
    request.ruling = if request.TermsAgree then some ⟨.allow, ""⟩ else none := by
  rw [ruling_of_granted h.method h.granted h.threshold]
  by_cases hagree : request.TermsAgree
  · rw [if_neg (not_not.mpr hagree), if_pos hagree, if_neg, if_pos (isActive_iff.mpr h.active)]
    simpa using h.terms
  · rw [if_pos hagree, if_neg hagree]

theorem entitled_of_ruling {decision : PolicyDecision} (h : request.ruling = some decision)
    (hallow : decision.decision = .allow) :
    request.method = "tools/list" ∨ request.Entitled := by
  by_cases hlist : request.method = "tools/list"
  · exact Or.inl hlist
  refine Or.inr ?_
  rw [ToolCallRequest.ruling, if_neg hlist] at h
  split_ifs at h with hcall hgranted hwithin hagree hunmet hactive
  all_goals (cases h; try cases hallow)
  exact ⟨not_not.mp hcall, isActive_iff.mp hactive, hgranted, by simpa using hunmet, hwithin⟩

theorem WidenedTo.granted (hw : request.WidenedTo wider) (h : request.matchingGrants ≠ []) :
    wider.matchingGrants ≠ [] :=
  fun hnil => h (List.subset_nil.mp (hnil ▸ hw.grants))

theorem WidenedTo.withinThreshold (hw : request.WidenedTo wider) (h : request.WithinThreshold) :
    wider.WithinThreshold := by
  rw [WithinThreshold, hw.toolName, hw.arguments]
  exact h

theorem WidenedTo.entitled (hw : request.WidenedTo wider) (h : request.Entitled)
    (hagree : wider.TermsAgree) : wider.Entitled where
  method := hw.method.trans h.method
  active := isActive_iff.mp (hw.active (isActive_iff.mpr h.active))
  granted := hw.granted h.granted
  threshold := hw.withinThreshold h.threshold
  terms g hg := by
    -- the grants of the wider record agree with one that was there already
    obtain ⟨g', hg'⟩ := List.exists_mem_of_ne_nil _ h.granted
    rw [hagree g hg g' (hw.grants hg')]
    exact (h.terms g' hg').mono hw.roles

theorem WidenedTo.ruling (hw : request.WidenedTo wider) {decision : PolicyDecision}
    (h : request.ruling = some decision) (hallow : decision.decision = .allow) :
    wider.ruling =
      if request.method = "tools/list" ∨ wider.TermsAgree then some ⟨.allow, ""⟩ else none := by
  by_cases hlist : request.method = "tools/list"
  · rw [ruling_of_discovery (hw.method.trans hlist), if_pos (Or.inl hlist)]
  have hentitled := (entitled_of_ruling h hallow).resolve_left hlist
  by_cases hagree : wider.TermsAgree
  · rw [(hw.entitled hentitled hagree).ruling, if_pos hagree, if_pos (Or.inr hagree)]
  · rw [ruling_of_granted (hw.method.trans hentitled.method) (hw.granted hentitled.granted)
      (hw.withinThreshold hentitled.threshold), if_pos hagree, if_neg (not_or.mpr ⟨hlist, hagree⟩)]

end ToolCallRequest

/-- Granting more never turns an allowed call into a denied one: under a wider record the call is
allowed still, or the policy engine is unavailable, and this exactly when the wider record states
terms for the tool that differ. -/
theorem allowed_of_widened (engine : OPAPolicyEngine) (hserves : engine.ServesPolicy)
    {request wider : ToolCallRequest} {decision : PolicyDecision}
    (hallowed : engine.evaluate request = .ok decision) (hallow : decision.decision = .allow)
    (hw : request.WidenedTo wider) :
    (engine.evaluate wider = .ok ⟨.allow, ""⟩ ↔
      request.method = "tools/list" ∨ wider.TermsAgree) ∧
    ((∃ message, engine.evaluate wider = .error (.policyEngineUnavailable message)) ↔
      request.method ≠ "tools/list" ∧ ¬ wider.TermsAgree) := by
  obtain ⟨htext, hruling⟩ := (OPAPolicyEngine.evaluate_ok_iff hserves).mp hallowed
  rw [← hw.arguments] at htext
  rw [OPAPolicyEngine.evaluate_ok_iff hserves, OPAPolicyEngine.evaluate_unavailable_iff hserves,
    htext, hw.ruling hruling hallow]
  by_cases hkept : request.method = "tools/list" ∨ wider.TermsAgree
  · simp [hkept, ← not_or]
  · simp [hkept, ← not_or]

/-- A grant with approval gained, on behalf of the same human. -/
theorem updateCall_widened :
    (updateCall [plainGrant]).WidenedTo (updateCall [plainGrant, approvedGrant]) where
  method := rfl
  toolName := rfl
  arguments := rfl
  grants := by decide
  active _ := rfl
  roles s hs := ⟨s, hs, List.Subset.refl _⟩

theorem updateCall_allowed_of_widened :
    (shippedPolicy.evaluate (updateCall [plainGrant, approvedGrant]) = .ok ⟨.allow, ""⟩ ↔
      (updateCall [plainGrant]).method = "tools/list" ∨
        (updateCall [plainGrant, approvedGrant]).TermsAgree) ∧
    ((∃ message, shippedPolicy.evaluate (updateCall [plainGrant, approvedGrant]) =
      .error (.policyEngineUnavailable message)) ↔
        (updateCall [plainGrant]).method ≠ "tools/list" ∧
          ¬ (updateCall [plainGrant, approvedGrant]).TermsAgree) := by
  have hallowed : shippedPolicy.evaluate (updateCall [plainGrant]) = .ok ⟨.allow, ""⟩ := by decide
  exact allowed_of_widened shippedPolicy shippedPolicy_serves hallowed rfl updateCall_widened

end OpenAgentControl
