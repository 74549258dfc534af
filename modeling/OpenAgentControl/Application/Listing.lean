import OpenAgentControl.Application.Runs
import OpenAgentControl.Adapters.Policy.Decisions

/-! # The listing and the decision

`_filter_listing` keeps a tool by the name of a grant; the policy decides a call by the terms of that
grant too. The module says what the listing of a run is, and exactly when it is the tools that the
same caller would be allowed to call. -/

namespace OpenAgentControl
set_option autoImplicit false
set_option maxHeartbeats 250000

open Foundations
open Foundations.Rego

/-! ## What the filter keeps -/

/-- `tool.get("name")`. -/
def toolName (tool : Dict) : Json := (tool.get? "name").getD .null

/-- A value Python can look up in a set. -/
def hashable : Json → Bool
  | .arr _ => false
  | .obj _ => false
  | _ => true

def hashableTool : Json → Bool
  | .obj tool => hashable (toolName tool)
  | _ => true

/-- The name of a tool object, when it is a string. -/
def stringName : Json → Option String
  | .obj tool =>
    match toolName tool with
    | .str name => some name
    | _ => none
  | _ => none

/-- A tool object whose name is granted. -/
def listed (granted : List String) (tool : Json) : Bool :=
  match stringName tool with
  | some name => decide (name ∈ granted)
  | none => false

theorem projectTools_cons (granted : List String) (tool : Json) (rest : List Json) :
    projectTools granted (tool :: rest) =
      if hashableTool tool then
        (projectTools granted rest).map fun tools =>
          if listed granted tool then tool :: tools else tools
      else .error typeError := by
  have hskip : (projectTools granted rest).map (fun tools => tools) =
      projectTools granted rest := by
    cases projectTools granted rest <;> rfl
  cases tool with
  | obj fields =>
    obtain ⟨name, hname⟩ : ∃ name, toolName fields = name := ⟨_, rfl⟩
    have hget : (Dict.get? fields "name").getD .null = name := hname
    simp only [projectTools, hashableTool, listed, stringName, hname, hget]
    cases name with
    | str name =>
      simp only [hashable, if_true, decide_eq_true_eq]
      cases projectTools granted rest <;> rfl
    | arr items => simp only [hashable, Bool.false_eq_true, if_false]
    | obj items => simp only [hashable, Bool.false_eq_true, if_false]
    | _ => simp only [hashable, if_true, Bool.false_eq_true, if_false, hskip]
  | _ =>
    simp only [projectTools, hashableTool, listed, stringName, if_true, Bool.false_eq_true, if_false,
      hskip]

theorem projectTools_eq (granted : List String) (tools : List Json) :
    projectTools granted tools =
      if tools.all hashableTool then .ok (tools.filter (listed granted)) else .error typeError := by
  induction tools with
  | nil => rfl
  | cons tool rest ih =>
    rw [projectTools_cons, ih, List.all_cons, List.filter_cons]
    cases hashableTool tool with
    | false => rfl
    | true => cases rest.all hashableTool <;> rfl

theorem filter_eq_filter_iff {α : Type} {p q : α → Bool} {l : List α} :
    l.filter p = l.filter q ↔ ∀ x ∈ l, p x = q x := by
  refine ⟨fun h x hx => ?_, fun h => List.filter_congr h⟩
  have hmem : x ∈ l.filter p ↔ x ∈ l.filter q := by rw [h]
  rwa [List.mem_filter, List.mem_filter, and_congr_right_iff, imp_iff_right hx,
    ← Bool.eq_iff_iff] at hmem

/-- The array a reply holds at `result.tools`, if it is one. -/
def toolsOf? (reply : Dict) : Option (Dict × List Json) :=
  match reply.get? "result" with
  | some (.obj result) =>
    match Dict.get? result "tools" with
    | some (.arr tools) => some (result, tools)
    | _ => none
  | _ => none

/-- `{**response, "result": {**result, "tools": tools}}`. -/
def withTools (reply result : Dict) (tools : List Json) : Dict :=
  reply.set "result" (.obj (result.set "tools" (.arr tools)))

theorem withTools_result (reply result : Dict) (tools : List Json) :
    (withTools reply result tools).get? "result" = some (.obj (result.set "tools" (.arr tools))) := by
  rw [withTools, Dict.get?_set, if_pos rfl]

theorem withTools_inj {reply result : Dict} {tools tools' : List Json} :
    withTools reply result tools = withTools reply result tools' ↔ tools = tools' := by
  refine ⟨fun h => ?_, fun h => by rw [h]⟩
  have hresult := congrArg (fun d => Dict.get? d "result") h
  simp only [withTools_result, Option.some.injEq, Json.obj.injEq] at hresult
  have htools := congrArg (fun d => Dict.get? d "tools") hresult
  simpa [Dict.get?_set] using htools

theorem filterListing_none {reply : Dict} {call : ToolCallRequest} (h : toolsOf? reply = none) :
    filterListing (.obj reply) call = .ok (.obj reply) := by
  unfold filterListing
  split_ifs with hlist
  · rfl
  unfold toolsOf? at h
  simp only
  cases hresult : Dict.get? reply "result" with
  | none => rfl
  | some value =>
    cases value with
    | obj result =>
      simp only
      rw [hresult] at h
      simp only at h
      cases htools : Dict.get? result "tools" with
      | none => rfl
      | some tools =>
        rw [htools] at h
        cases tools with
        | arr items => cases h
        | _ => rfl
    | _ => rfl

theorem filterListing_some {reply result : Dict} {tools : List Json} {call : ToolCallRequest}
    (hlist : call.method = "tools/list") (h : toolsOf? reply = some (result, tools)) :
    filterListing (.obj reply) call =
      (projectTools ((call.registration.map RegisteredAgent.toolNames).getD []) tools).map
        fun kept => .obj (withTools reply result kept) := by
  unfold toolsOf? at h
  split at h
  case h_1 result' hresult =>
    split at h
    case h_1 tools' htools =>
      cases h
      unfold filterListing
      rw [if_neg (not_not.mpr hlist)]
      simp only [hresult, htools]
      cases projectTools ((call.registration.map RegisteredAgent.toolNames).getD []) tools <;> rfl
    case h_2 => cases h
  case h_2 => cases h

/-! ## What the caller may call -/

/-- A `tools/call` without arguments by the caller of another request. -/
def ToolCallRequest.onTool (call : ToolCallRequest) (name : Option String) : ToolCallRequest :=
  { call with method := "tools/call", toolName := name, arguments := [] }

namespace GovernedExecutionService

variable {svc : GovernedExecutionService} {headers : Headers} {payload : Dict}
  {call : ToolCallRequest}

/-- The effective answer of the gateway on a call. -/
def allows (svc : GovernedExecutionService) (call : ToolCallRequest) : Bool :=
  match (svc.policyEvaluate call).result with
  | .ok (decision, shadowable) => decision.decision == .allow || svc.shadows decision shadowable
  | .error _ => false

/-- An entry of the catalogue that the caller may call; a name that is no string names no call. -/
def callable (svc : GovernedExecutionService) (call : ToolCallRequest) : Json → Bool
  | .obj tool =>
    match validateOptionalStr (toolName tool) with
    | .ok name => svc.allows (call.onTool name)
    | .error _ => false
  | _ => false

/-- The reply with its tools narrowed to the callable ones, and nothing else changed. -/
def callableListing (svc : GovernedExecutionService) (call : ToolCallRequest) (reply : Dict) :
    Dict :=
  match toolsOf? reply with
  | some (result, tools) => withTools reply result (tools.filter (svc.callable call))
  | none => reply

/-- The record states one set of terms for a tool, and the subject of the call meets it. A tool that
the record does not grant has no terms. -/
def TermsHold (call : ToolCallRequest) (name : String) : Prop :=
  (call.onTool (some name)).TermsAgree ∧
    ∀ g ∈ (call.onTool (some name)).matchingGrants, TermsMet call.subject g

/-- What the filter relies on: names it can look up, and terms that hold for every tool. -/
structure Projectable (call : ToolCallRequest) (tools : List Json) : Prop where
  hashable : tools.all hashableTool = true
  terms : ∀ tool ∈ tools, ∀ name, stringName tool = some name → TermsHold call name

theorem allows_enforced (henforce : svc.decisionMode = .enforce) {record : RegisteredAgent}
    (hrecord : call.registration = some record) (hstatus : record.status = .active) :
    svc.allows call = true ↔
      ∃ decision, svc.policyEngine call = .ok decision ∧ decision.decision = .allow := by
  unfold allows
  rw [policyEvaluate_active hrecord hstatus]
  cases svc.policyEngine call with
  | ok decision => simp [shadows, henforce]
  | error e =>
    cases e with
    | policyEngineUnavailable message => simp [shadows]
    | _ => simp

/-- Under the shipped policy a call without arguments is allowed exactly when the tool is granted,
on one set of terms, and the subject meets them. -/
theorem allows_onTool {engine : OPAPolicyEngine} (hserves : engine.ServesPolicy)
    (hengine : svc.policyEngine = engine.evaluate) (henforce : svc.decisionMode = .enforce)
    {record : RegisteredAgent} (hrecord : call.registration = some record)
    (hstatus : record.status = .active) (name : Option String) :
    svc.allows (call.onTool name) = true ↔
      (call.onTool name).matchingGrants ≠ [] ∧ (call.onTool name).TermsAgree ∧
        ∀ g ∈ (call.onTool name).matchingGrants, TermsMet call.subject g := by
  rw [allows_enforced henforce (show (call.onTool name).registration = some record from hrecord)
    hstatus, hengine]
  have htext : encodable (.obj (call.onTool name).arguments) = true := rfl
  constructor
  · rintro ⟨decision, hdecided, hallow⟩
    obtain ⟨document, verdict, hdocument, heval, hverdict⟩ :=
      OPAPolicyEngine.policyAllows_of_evaluate hserves hdecided hallow
    obtain hlist | hentitled := McpAuthz.discovery_or_entitled hdocument heval hverdict
    · exact absurd hlist (by simp [ToolCallRequest.onTool])
    refine ⟨hentitled.granted, ?_, hentitled.terms⟩
    by_contra hagree
    exact (hentitled.refused hserves fun h => hagree h.1).1
      ⟨document, verdict, hdocument, heval, hverdict⟩
  · rintro ⟨hgranted, hagree, hterms⟩
    have hentitled : (call.onTool name).Entitled := {
      method := rfl
      active := ⟨record, hrecord, hstatus⟩
      granted := hgranted
      terms := hterms
      threshold := fun _ _ hlimit => nomatch hlimit }
    exact ⟨_, (hentitled.allowed hserves hagree htext).2, rfl⟩

theorem mem_toolNames {record : RegisteredAgent} (hrecord : call.registration = some record)
    (name : String) :
    name ∈ (call.registration.map RegisteredAgent.toolNames).getD [] ↔
      (call.onTool (some name)).matchingGrants ≠ [] := by
  unfold ToolCallRequest.matchingGrants ToolCallRequest.onTool
  simp only [hrecord, Option.map_some, Option.getD_some, RegisteredAgent.toolNames, List.mem_map,
    ne_eq, List.filter_eq_nil_iff, not_forall, Option.some.injEq, decide_eq_true_eq, not_not,
    exists_prop]

theorem callable_of_name {tool : Json} {name : String} (h : stringName tool = some name) :
    svc.callable call tool = svc.allows (call.onTool (some name)) := by
  cases tool with
  | obj fields =>
    obtain ⟨value, hvalue⟩ : ∃ value, toolName fields = value := ⟨_, rfl⟩
    simp only [stringName, hvalue] at h
    cases value with
    | str s =>
      cases h
      simp only [callable, hvalue, validateOptionalStr]
    | _ => cases h
  | _ => cases h

theorem callable_of_none (hnone : svc.allows (call.onTool none) = false) {tool : Json}
    (h : stringName tool = none) : svc.callable call tool = false := by
  cases tool with
  | obj fields =>
    obtain ⟨value, hvalue⟩ : ∃ value, toolName fields = value := ⟨_, rfl⟩
    simp only [stringName, hvalue] at h
    cases value with
    | null => simp only [callable, hvalue, validateOptionalStr, hnone]
    | str s => cases h
    | _ => simp only [callable, hvalue, validateOptionalStr]
  | _ => rfl

/-- An entry is listed and callable alike exactly when the terms of its grant hold. -/
theorem listed_eq_callable_iff {engine : OPAPolicyEngine} (hserves : engine.ServesPolicy)
    (hengine : svc.policyEngine = engine.evaluate) (henforce : svc.decisionMode = .enforce)
    {record : RegisteredAgent} (hrecord : call.registration = some record)
    (hstatus : record.status = .active) (tool : Json) :
    listed ((call.registration.map RegisteredAgent.toolNames).getD []) tool =
        svc.callable call tool ↔
      ∀ name, stringName tool = some name → TermsHold call name := by
  have hallows := allows_onTool hserves hengine henforce hrecord hstatus
  cases hname : stringName tool with
  | some name =>
    have hterms : (∀ n, some name = some n → TermsHold call n) ↔ TermsHold call name :=
      ⟨fun h => h name rfl, fun h n hn => Option.some.inj hn ▸ h⟩
    rw [callable_of_name hname, listed, hname, Bool.eq_iff_iff, decide_eq_true_eq,
      mem_toolNames hrecord, hallows, hterms]
    refine ⟨fun h => ?_, fun h => ⟨fun hgranted => ⟨hgranted, h⟩, And.left⟩⟩
    by_cases hgranted : (call.onTool (some name)).matchingGrants = []
    · unfold TermsHold ToolCallRequest.TermsAgree
      rw [hgranted]
      exact ⟨nofun, nofun⟩
    · exact (h.mp hgranted).2
  | none =>
    have hnone : svc.allows (call.onTool none) = false := by
      rw [Bool.eq_false_iff]
      intro habs
      refine ((hallows none).mp habs).1 (List.filter_eq_nil_iff.mpr fun g _ => ?_)
      simp [ToolCallRequest.onTool]
    rw [callable_of_none hnone hname, listed, hname]
    exact iff_of_true rfl nofun

/-! ## The listing of a run -/

theorem forwardCall_filtered {credential : String} {reply : Json}
    (h : svc.mcpUpstream call credential = .ok reply)
    (herror : ∀ message, filterListing reply call ≠ .error (.upstream message)) :
    (svc.forwardCall call credential).result = filterListing reply call := by
  unfold forwardCall
  simp only
  rw [Traced.bind_of_ok (Traced.attempt_result _), h, Traced.bind_of_ok (Traced.perform_result _ _)]
  simp only [Traced.ofExcept_result]
  cases hfilter : filterListing reply call with
  | ok projected => rfl
  | error e =>
    cases e with
    | upstream message => exact absurd hfilter (herror message)
    | _ => rfl

/-- The listing of a run is the tools its caller may call exactly when every name in the catalogue
can be looked up and the terms of every listed grant hold. -/
theorem listing_agrees_iff (svc : GovernedExecutionService) (engine : OPAPolicyEngine)
    (hserves : engine.ServesPolicy) (hengine : svc.policyEngine = engine.evaluate)
    (henforce : svc.decisionMode = .enforce) (headers : Headers) (payload : Dict)
    (call : ToolCallRequest) (credential : String) (reply : Dict)
    (h : .forward call credential (.ok (.obj reply)) ∈ (svc.execute headers payload).trace)
    (hlist : call.method = "tools/list") :
    (svc.execute headers payload).result = .ok (.obj (svc.callableListing call reply)) ↔
      ∀ result tools, toolsOf? reply = some (result, tools) → Projectable call tools := by
  obtain ⟨f, hforwarded, -⟩ := forward_inv h rfl
  rw [f.execute_result]
  obtain ⟨⟨record, hrecord, hstatus⟩, -, -⟩ := f.run.allowed_inv f.allowed
  rw [← f.run.call_registration] at hrecord
  obtain ⟨hcall, hcredential, hanswer⟩ := Event.forward.inj hforwarded
  rw [← hcall] at hrecord hanswer ⊢
  rw [← hcredential] at hanswer ⊢
  have hkept := listed_eq_callable_iff hserves hengine henforce hrecord hstatus
  cases htools : toolsOf? reply with
  | none =>
    have hfilter : filterListing (.obj reply) call = .ok (.obj reply) := filterListing_none htools
    rw [forwardCall_filtered hanswer.symm (by rw [hfilter]; nofun), hfilter, callableListing, htools]
    exact iff_of_true rfl nofun
  | some found =>
    obtain ⟨result, tools⟩ := found
    have hfilter := filterListing_some hlist htools
    rw [projectTools_eq] at hfilter
    have hprojectable : (∀ r ts, some (result, tools) = some (r, ts) → Projectable call ts) ↔
        Projectable call tools :=
      ⟨fun h => h result tools rfl, fun h r ts heq => by cases heq; exact h⟩
    rw [hprojectable, callableListing, htools]
    cases hall : tools.all hashableTool with
    | false =>
      rw [hall, if_neg Bool.false_ne_true] at hfilter
      rw [forwardCall_filtered hanswer.symm (by rw [hfilter]; nofun), hfilter]
      exact iff_of_false nofun fun hp => Bool.false_ne_true (hall.symm.trans hp.hashable)
    | true =>
      rw [hall, if_pos rfl] at hfilter
      rw [forwardCall_filtered hanswer.symm (by rw [hfilter]; nofun), hfilter, Except.map,
        Except.ok.injEq, Json.obj.injEq, withTools_inj, filter_eq_filter_iff]
      constructor
      · exact fun heq => ⟨hall, fun tool htool => (hkept tool).mp (heq tool htool)⟩
      · exact fun hp tool htool => (hkept tool).mpr (hp.terms tool htool)

/-- A record that grants one tool to verified humans only, and an upstream that advertises it. -/
def approvedListing : GovernedExecutionService :=
  { fixed fixedAgent (some { fixedRecord with grantedTools := [approvedGrant] }) ⟨.allow, ""⟩ with
    policyEngine := shippedPolicy.evaluate
    mcpUpstream := fun _ _ => .ok (.obj [("result", .obj [("tools",
      .arr [.obj [("name", .str "update_record")]])])]) }

def autonomousListing : ToolCallRequest where
  method := "tools/list"
  agent := fixedAgent
  registration := some { fixedRecord with grantedTools := [approvedGrant] }

def advertised : Dict :=
  [("result", .obj [("tools", .arr [.obj [("name", .str "update_record")]])])]

/-- An autonomous agent discovers a tool that policy denies it. -/
theorem approvedListing_misleads :
    (approvedListing.execute [] [("method", .str "tools/list")]).result ≠
      .ok (.obj (approvedListing.callableListing autonomousListing advertised)) := by
  decide

theorem approvedListing_agrees_iff :
    (approvedListing.execute [] [("method", .str "tools/list")]).result =
        .ok (.obj (approvedListing.callableListing autonomousListing advertised)) ↔
      ∀ result tools, toolsOf? advertised = some (result, tools) →
        Projectable autonomousListing tools :=
  listing_agrees_iff approvedListing shippedPolicy shippedPolicy_serves rfl rfl []
    [("method", .str "tools/list")] autonomousListing "autonomous::spiffe://corp/agent" advertised
    (by decide) rfl

end GovernedExecutionService

end OpenAgentControl
