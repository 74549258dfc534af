import OpenAgentControl.Adapters.McpUpstream.Paging

/-! # A fan-out over upstreams that answer anything

The port promises an object, but `HttpMCPUpstream` hands on whatever JSON its server sent. Here
`_refresh` runs over any values and exceptions; where every value is an object it is `refreshResult`
(`refresh_of_objects`). The main result says for which answers a listing is the merge of the
well-formed ones and an outage is an error. -/

namespace OpenAgentControl
set_option autoImplicit false
set_option maxHeartbeats 250000

open Foundations

namespace RoutingMCPUpstream

/-- How the `forward` of an upstream ends, whatever it returns. -/
abbrev RawAnswer := Except Exc Json

/-- `_tools_of`, of any value: only an object has the `get` it calls first. -/
def toolsOfAny : Json → Except Exc (List Dict)
  | .obj response => .ok (toolsOf response)
  | _ => .error attributeError

/-- One turn of the loop of `_refresh`. -/
def Merge.addAny (text : Exc → String) (m : Merge) (result : String × RawAnswer) : Except Exc Merge :=
  match result.2 with
  | .error e => .ok { m with failures := m.failures ++ [result.1 ++ ": " ++ text e] }
  | .ok response => do
    let tools ← toolsOfAny response
    return tools.foldl (Merge.addTool result.1) m

/-! ## What an answer is -/

/-- An exception, or an object. -/
def RawAnswer.readable : RawAnswer → Bool
  | .ok (.obj _) => true
  | .ok _ => false
  | .error _ => true

def RawAnswer.failed : RawAnswer → Bool
  | .ok _ => false
  | .error _ => true

/-- The array of a well-formed listing: an object whose result is an object with an array of tools. -/
def RawAnswer.listing : RawAnswer → Option (List Json)
  | .ok (.obj response) =>
    match Dict.get? response "result" with
    | some (.obj result) =>
      match Dict.get? result "tools" with
      | some (.arr tools) => some tools
      | _ => none
    | _ => none
  | _ => none

/-- The tool objects of a well-formed listing; every other answer has none. -/
def RawAnswer.listed (a : RawAnswer) : List Dict :=
  (a.listing.getD []).filterMap fun tool =>
    match tool with
    | .obj fields => some fields
    | _ => none

/-- The answer as the port promises it; a value that is no object is not read. -/
def RawAnswer.promised : RawAnswer → Answer
  | .ok (.obj response) => .ok response
  | .ok _ => .error attributeError
  | .error e => .error e

theorem tools_promised (a : RawAnswer) : Answer.tools a.promised = a.listed := by
  cases a with
  | error e => rfl
  | ok response =>
    cases response with
    | obj fields =>
      show toolsOf fields = RawAnswer.listed (.ok (.obj fields))
      cases hresult : Dict.get? fields "result" with
      | none => simp [toolsOf, RawAnswer.listed, RawAnswer.listing, hresult]
      | some result =>
        cases result with
        | obj result =>
          cases htools : Dict.get? result "tools" with
          | none => simp [toolsOf, RawAnswer.listed, RawAnswer.listing, hresult, htools]
          | some tools =>
            cases tools with
            | arr items =>
              have hlisting : RawAnswer.listing (.ok (.obj fields)) = some items := by
                simp [RawAnswer.listing, hresult, htools]
              rw [toolsOf, hresult, RawAnswer.listed, hlisting, Option.getD_some]
              dsimp only
              split
              case h_1 found hfound =>
                obtain rfl := Json.arr.inj (Option.some.inj (hfound.symm.trans htools))
                rfl
              case h_2 hnone => exact absurd htools (hnone items)
            | _ => simp [toolsOf, RawAnswer.listed, RawAnswer.listing, hresult, htools]
        | _ => simp [toolsOf, RawAnswer.listed, RawAnswer.listing, hresult]
    | _ => rfl

theorem failed_promised {a : RawAnswer} (h : a.readable = true) :
    Answer.failed a.promised = a.failed := by
  cases a with
  | error e => rfl
  | ok response =>
    cases response with
    | obj fields => rfl
    | _ => cases h

/-! ## The loop -/

theorem addAny_of_readable (text : Exc → String) (m : Merge) {upstream : String} {a : RawAnswer}
    (h : a.readable = true) :
    m.addAny text (upstream, a) = .ok (m.addResult text (upstream, a.promised)) := by
  cases a with
  | error e => rfl
  | ok response =>
    cases response with
    | obj fields => rfl
    | _ => cases h

/-- An answer that is no object ends the loop, however it was reached. -/
theorem addAny_of_unreadable (text : Exc → String) (m : Merge) {upstream : String} {a : RawAnswer}
    (h : a.readable = false) : m.addAny text (upstream, a) = .error attributeError := by
  cases a with
  | error e => cases h
  | ok response =>
    cases response with
    | obj fields => cases h
    | _ => rfl

theorem foldlM_addAny_of_readable (text : Exc → String) {results : List (String × RawAnswer)}
    (h : ∀ result ∈ results, RawAnswer.readable result.2 = true) (m : Merge) :
    results.foldlM (Merge.addAny text) m =
      .ok ((results.map fun result => (result.1, RawAnswer.promised result.2)).foldl
        (Merge.addResult text) m) := by
  induction results generalizing m with
  | nil => rfl
  | cons result rest ih =>
    obtain ⟨hresult, hrest⟩ := List.forall_mem_cons.mp h
    rw [List.foldlM_cons, addAny_of_readable text m hresult, List.map_cons, List.foldl_cons]
    exact ih hrest _

theorem foldlM_addAny_of_unreadable (text : Exc → String) {results : List (String × RawAnswer)}
    (h : ∃ result ∈ results, RawAnswer.readable result.2 = false) (m : Merge) :
    results.foldlM (Merge.addAny text) m = .error attributeError := by
  induction results generalizing m with
  | nil =>
    obtain ⟨result, hmem, -⟩ := h
    cases hmem
  | cons result rest ih =>
    rw [List.foldlM_cons]
    cases hresult : RawAnswer.readable result.2 with
    | false =>
      rw [addAny_of_unreadable text m hresult]
      rfl
    | true =>
      have hrest : ∃ r ∈ rest, RawAnswer.readable r.2 = false := by
        obtain ⟨r, hmem, hr⟩ := h
        obtain rfl | hmem := List.mem_cons.mp hmem
        · rw [hresult] at hr
          cases hr
        · exact ⟨r, hmem, hr⟩
      rw [addAny_of_readable text m hresult]
      exact ih hrest _

/-! ## The fan-out -/

variable {Time Id : Type} (router : RoutingMCPUpstream Time Id)

/-- The results of a fan-out over every upstream, in configured order. -/
def results (answer : String → RawAnswer) : List (String × RawAnswer) :=
  router.upstreams.map fun upstream => (upstream, answer upstream)

/-- `_refresh`, from the gathered results to what it returns. -/
def refresh (answer : String → RawAnswer) : Except Exc (List Dict × List (String × String)) := do
  let m ← (router.results answer).foldlM (Merge.addAny router.text) {}
  if m.failures ≠ [] ∧ m.failures.length = router.upstreams.length then
    .error (.upstream ("every configured upstream failed — " ++ "; ".intercalate m.failures))
  else return (m.merged, m.routes)

/-- `_list`. -/
def list (request : ToolCallRequest) (answer : String → RawAnswer) : Except Exc Json := do
  let (tools, _) ← router.refresh answer
  return listReply request tools

/-- The first-wins merge of the tools of the well-formed listings. -/
def firstWins (answer : String → RawAnswer) : List Dict :=
  (keepFirst Offer.name [] ((router.results answer).flatMap fun result =>
    (RawAnswer.listed result.2).map fun tool => (result.1, tool))).map Prod.snd

/-- A listing is the merge of the well-formed ones as soon as there is one, and an error of the
upstreams when there is none. -/
def Isolated (request : ToolCallRequest) (answer : String → RawAnswer) : Prop :=
  if ∃ upstream ∈ router.upstreams, (answer upstream).listing.isSome = true then
    router.list request answer = .ok (listReply request (router.firstWins answer))
  else ∃ message, router.list request answer = .error (.upstream message)

/-- The condition: every value that came back is an object, and one of them is a listing unless every
upstream raised. -/
structure Classifiable (answer : String → RawAnswer) : Prop where
  objects : ∀ upstream ∈ router.upstreams, (answer upstream).readable = true
  listing : (∃ upstream ∈ router.upstreams, (answer upstream).listing.isSome = true) ∨
    ∀ upstream ∈ router.upstreams, (answer upstream).failed = true

variable {router} {answer : String → RawAnswer}

def promisedAnswers (router : RoutingMCPUpstream Time Id) (answer : String → RawAnswer) :
    List Answer :=
  router.upstreams.map fun upstream => (answer upstream).promised

theorem named_promised :
    router.named (promisedAnswers router answer) =
      (router.results answer).map fun result => (result.1, RawAnswer.promised result.2) := by
  unfold named promisedAnswers results
  rw [List.map_map, ← List.map_prod_left_eq_zip]
  rfl

theorem refresh_of_objects (h : ∀ upstream ∈ router.upstreams, (answer upstream).readable = true) :
    router.refresh answer = router.refreshResult (promisedAnswers router answer) := by
  have hresults : ∀ result ∈ router.results answer, RawAnswer.readable result.2 = true := by
    intro result hresult
    obtain ⟨upstream, hupstream, rfl⟩ := List.mem_map.mp hresult
    exact h upstream hupstream
  unfold refresh refreshResult Merge.ofResults
  rw [foldlM_addAny_of_readable router.text hresults, named_promised]
  rfl

theorem refresh_of_unreadable
    (h : ∃ upstream ∈ router.upstreams, (answer upstream).readable = false) :
    router.refresh answer = .error attributeError := by
  obtain ⟨upstream, hupstream, hanswer⟩ := h
  have hresult : (upstream, answer upstream) ∈ router.results answer :=
    List.mem_map.mpr ⟨upstream, hupstream, rfl⟩
  unfold refresh
  rw [foldlM_addAny_of_unreadable router.text ⟨_, hresult, hanswer⟩]
  rfl

theorem offers_promised :
    offers (router.named (promisedAnswers router answer)) =
      (router.results answer).flatMap fun result =>
        (RawAnswer.listed result.2).map fun tool => (result.1, tool) := by
  rw [named_promised, offers, List.flatMap_map]
  simp only [tools_promised]

theorem list_of_ok (request : ToolCallRequest)
    (hobjects : ∀ upstream ∈ router.upstreams, (answer upstream).readable = true)
    {upstream : String} (hupstream : upstream ∈ router.upstreams)
    (hanswered : (answer upstream).failed = false) :
    router.list request answer = .ok (listReply request (router.firstWins answer)) := by
  have hlength : (promisedAnswers router answer).length = router.upstreams.length :=
    List.length_map _
  have hsome : ¬ ∀ a ∈ promisedAnswers router answer, Answer.failed a = true := by
    intro hall
    have hfailed := hall _ (List.mem_map_of_mem hupstream)
    rw [failed_promised (hobjects upstream hupstream), hanswered] at hfailed
    cases hfailed
  rw [← router.refreshResult_error_iff hlength] at hsome
  unfold list
  rw [refresh_of_objects hobjects]
  unfold refreshResult at hsome ⊢
  simp only at hsome ⊢
  split_ifs at hsome ⊢ with hguard
  · exact absurd ⟨_, rfl⟩ hsome
  · rw [ofResults_merged, winners, offers_promised]
    rfl

variable (router) in
/-- The fan-out isolates its upstreams and reports an outage exactly when its answers can be
classified. -/
theorem isolated_iff (request : ToolCallRequest) (answer : String → RawAnswer) :
    router.Isolated request answer ↔ router.Classifiable answer := by
  by_cases hobjects : ∀ upstream ∈ router.upstreams, (answer upstream).readable = true
  · by_cases hlisting : ∃ upstream ∈ router.upstreams, (answer upstream).listing.isSome = true
    · have hok : router.list request answer = .ok (listReply request (router.firstWins answer)) := by
        obtain ⟨upstream, hupstream, hsome⟩ := hlisting
        refine list_of_ok request hobjects hupstream ?_
        cases hanswer : answer upstream with
        | ok response => rfl
        | error e =>
          rw [hanswer] at hsome
          cases hsome
      rw [Isolated, if_pos hlisting]
      exact iff_of_true hok ⟨hobjects, Or.inl hlisting⟩
    · rw [Isolated, if_neg hlisting]
      have hlength : (promisedAnswers router answer).length = router.upstreams.length :=
        List.length_map _
      have herror := router.refreshResult_error_iff hlength
      have hall : (∀ a ∈ promisedAnswers router answer, Answer.failed a = true) ↔
          ∀ upstream ∈ router.upstreams, (answer upstream).failed = true := by
        rw [promisedAnswers, List.forall_mem_map]
        refine forall₂_congr fun upstream hupstream => ?_
        rw [failed_promised (hobjects upstream hupstream)]
      have hlist : (∃ message, router.list request answer = .error (.upstream message)) ↔
          ∃ message, router.refreshResult (promisedAnswers router answer) =
            .error (.upstream message) := by
        unfold list
        rw [refresh_of_objects hobjects]
        cases router.refreshResult (promisedAnswers router answer) with
        | ok result => exact iff_of_false nofun nofun
        | error e => simp [bind, Except.bind]
      rw [hlist, herror, hall]
      exact ⟨fun h => ⟨hobjects, Or.inr h⟩, fun h => h.listing.resolve_left hlisting⟩
  · have hunreadable : ∃ upstream ∈ router.upstreams, (answer upstream).readable = false := by
      by_contra hnone
      refine hobjects fun upstream hupstream => ?_
      by_contra hanswer
      exact hnone ⟨upstream, hupstream, Bool.eq_false_iff.mpr hanswer⟩
    have hraised : router.list request answer = .error attributeError := by
      unfold list
      rw [refresh_of_unreadable hunreadable]
      rfl
    refine iff_of_false ?_ fun h => hobjects h.objects
    unfold Isolated
    rw [hraised]
    split_ifs
    · exact nofun
    · rintro ⟨message, hmessage⟩
      cases hmessage

/-- One upstream lists, the other sends an empty array: the listing is lost with it. -/
def arrayAnswer : String → RawAnswer
  | "finance" => .ok (.arr [])
  | _ => .ok (.obj (listingReply ["read_query"]))

theorem arrayAnswer_not_isolated :
    ¬ fleet.Isolated { method := "tools/list", agent := fixedAgent } arrayAnswer := by
  have hraised : fleet.list { method := "tools/list", agent := fixedAgent } arrayAnswer =
      .error attributeError := rfl
  have hlisting : ∃ upstream ∈ fleet.upstreams, (arrayAnswer upstream).listing.isSome = true :=
    ⟨"crm", List.mem_cons_of_mem _ List.mem_cons_self, rfl⟩
  rw [Isolated, if_pos hlisting, hraised]
  exact nofun

end RoutingMCPUpstream

end OpenAgentControl
