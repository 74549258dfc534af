import OpenAgentControl.Application.Listing
import OpenAgentControl.Application.Forwarding
import OpenAgentControl.Adapters.McpUpstream.Paging

/-! # A client that pages through the gateway

`execute` reads no cursor off the payload, so every page a client asks for is the first. The filter
keeps the cursor of the reply, the router drops it. The module says exactly when a client that
follows its cursors is done, with each granted tool once. -/

namespace OpenAgentControl
set_option autoImplicit false
set_option maxHeartbeats 250000

open Foundations
open RoutingMCPUpstream (RouterState)

/-! ## The filter on a page -/

theorem stringName_obj (tool : Dict) : stringName (.obj tool) = RoutingMCPUpstream.toolName tool := by
  simp only [stringName, toolName, RoutingMCPUpstream.toolName]
  cases hname : Dict.get? tool "name" with
  | none => rfl
  | some value => cases value <;> rfl

theorem hashableTool_of_named {tool : Dict}
    (h : (RoutingMCPUpstream.toolName tool).isSome = true) : hashableTool (.obj tool) = true := by
  rw [← stringName_obj] at h
  obtain ⟨value, hvalue⟩ : ∃ value, toolName tool = value := ⟨_, rfl⟩
  simp only [hashableTool, stringName, hvalue] at h ⊢
  cases value with
  | str name => rfl
  | _ => cases h

/-- The page with the granted tools only; its cursor stays. -/
def grantedPage (granted : List String) (page : ToolPage) : ToolPage where
  items := page.items.filter fun tool => listed granted (.obj tool)
  next := page.next

theorem names_filter (granted : List String) (tools : List Dict) :
    names (tools.filter fun tool => listed granted (.obj tool)) =
      (names tools).filter (· ∈ granted) := by
  induction tools with
  | nil => rfl
  | cons tool rest ih =>
    unfold names at ih ⊢
    cases hname : RoutingMCPUpstream.toolName tool with
    | none =>
      have hlisted : listed granted (.obj tool) = false := by rw [listed, stringName_obj, hname]
      rw [List.filter_cons_of_neg (by simp [hlisted]), List.filterMap_cons_none hname, ih]
    | some name =>
      have hlisted : listed granted (.obj tool) = decide (name ∈ granted) := by
        rw [listed, stringName_obj, hname]
      rw [List.filterMap_cons_some hname]
      by_cases hgranted : name ∈ granted
      · rw [List.filter_cons_of_pos (by simp [hlisted, hgranted]), List.filterMap_cons_some hname,
          List.filter_cons_of_pos (by simp [hgranted]), ih]
      · rw [List.filter_cons_of_neg (by simp [hlisted, hgranted]),
          List.filter_cons_of_neg (by simp [hgranted]), ih]

theorem filterListing_page {reply : Dict} {page : ToolPage} {call : ToolCallRequest}
    (hlist : call.method = "tools/list") (hpage : readPage reply = some page)
    (hnamed : ∀ tool ∈ page.items, (RoutingMCPUpstream.toolName tool).isSome = true) :
    ∃ reply', filterListing (.obj reply) call = .ok (.obj reply') ∧
      readPage reply' =
        some (grantedPage ((call.registration.map RegisteredAgent.toolNames).getD []) page) := by
  obtain ⟨result, hresult, hread⟩ := readPage_eq_some.mp hpage
  obtain ⟨htools, hnext⟩ := readResult_eq_some.mp hread
  have htoolsOf : toolsOf? reply = some (result, page.items.map Json.obj) := by
    simp only [toolsOf?, hresult, htools]
  have hhashable : (page.items.map Json.obj).all hashableTool = true := by
    rw [List.all_map, List.all_eq_true]
    exact fun tool htool => hashableTool_of_named (hnamed tool htool)
  rw [filterListing_some hlist htoolsOf, projectTools_eq, if_pos hhashable, List.filter_map]
  refine ⟨_, rfl, readPage_eq_some.mpr ⟨_, withTools_result _ _ _, ?_⟩⟩
  rw [readResult_eq_some]
  refine ⟨?_, ?_⟩
  · rw [Dict.get?_set, if_pos rfl]
    rfl
  · have hcursor : Dict.get? (Dict.set result "tools" (.arr ((page.items.filter
        (listed ((call.registration.map RegisteredAgent.toolNames).getD []) ∘ Json.obj)).map
          Json.obj))) "nextCursor" = Dict.get? result "nextCursor" := by
      rw [Dict.get?_set, if_neg (by decide)]
    rw [nextCursor, hcursor]
    exact hnext

/-! ## The client -/

/-- A client, with what it meets at each of its requests: the gateway, its headers and its id. -/
structure PagingClient where
  service : ℕ → GovernedExecutionService
  headers : ℕ → Headers
  requestId : ℕ → RequestId

/-- A `tools/list` payload, with a cursor after the first page. -/
def listPayload (id : RequestId) (cursor : Option String) : Dict :=
  [("jsonrpc", .str "2.0"), ("id", RequestId.modelDump (some id)), ("method", .str "tools/list")] ++
    (cursor.map fun c => ("params", Json.obj [("cursor", .str c)])).toList

theorem buildCall_listPayload (id : RequestId) (cursor : Option String) (agent : AgentIdentity)
    (registration : Option RegisteredAgent) :
    buildCall (listPayload id cursor) agent registration =
      .ok { method := "tools/list", agent, registration, requestId := some id } := by
  cases cursor <;> cases id <;> rfl

namespace GovernedExecutionService

variable {svc : GovernedExecutionService} {headers : Headers} {payload : Dict}

/-- Whatever page is asked for, the run is that of the first. -/
theorem execute_listPayload (id : RequestId) (cursor : Option String) :
    svc.execute headers (listPayload id cursor) = svc.execute headers (listPayload id none) := by
  unfold execute authorizeCore
  simp only [buildCall_listPayload]

theorem readPage_jsonrpcError {requestId : Option RequestId} {code : ℤ}
    {message instruction : String} {reply : Dict}
    (h : jsonrpcError requestId code message instruction = .obj reply) : readPage reply = none := by
  cases h
  rfl

theorem forwards_of_page {reply : Dict} {page : ToolPage}
    (h : (svc.execute headers payload).result = .ok (.obj reply))
    (hpage : readPage reply = some page) : Forwards (svc.execute headers payload).trace := by
  cases hcore : (svc.authorizeCore headers payload).result with
  | error e =>
    rw [execute_of_error hcore] at h
    cases h
  | ok outcome =>
    rw [execute_of_ok hcore] at h ⊢
    cases hallowed : outcome.allowed with
    | false =>
      simp only [proceed, hallowed, Bool.false_eq_true, if_false] at h
      rw [readPage_jsonrpcError (Except.ok.inj h)] at hpage
      cases hpage
    | true =>
      cases hbroker : (svc.brokerCredential outcome.call.agent headers).result with
      | ok credential =>
        rw [proceed_broker hallowed hbroker]
        exact ⟨_, List.mem_append_right _ (List.mem_append_right _ (List.mem_singleton_self _)), rfl⟩
      | error e =>
        simp only [proceed, hallowed, if_true] at h
        rw [Traced.bind_of_ok (Traced.attempt_result _), hbroker] at h
        cases e with
        | tokenExchange message =>
          rw [readPage_jsonrpcError (Except.ok.inj h)] at hpage
          cases hpage
        | _ => cases h

end GovernedExecutionService

namespace PagingClient

variable (client : PagingClient)

def run (n : ℕ) (cursor : Option String) : Traced Event Exc Json :=
  (client.service n).execute (client.headers n) (listPayload (client.requestId n) cursor)

/-- The page the client reads off the reply to request `n`. -/
def ask (n : ℕ) (cursor : Option String) : Option ToolPage :=
  match (client.run n cursor).result with
  | .ok (.obj reply) => readPage reply
  | _ => none

/-- The gateway lets the listing of request `n` through to the upstream. -/
def Admitted (n : ℕ) : Prop := Forwards (client.run n none).trace

/-- The record the registry holds of the client's agent, at every request. -/
def RegisteredAs (record : RegisteredAgent) : Prop :=
  ∀ n agent, (client.service n).identityProvider (client.headers n) = .ok agent →
    (client.service n).agentRegistry agent.spiffeId = .ok (some record)

/-- The client is done after finitely many calls, with each granted tool of the catalogue once. -/
def Transparent (record : RegisteredAgent) (catalogue : List Dict) : Prop :=
  ∃ received, Completes client.ask received ∧ ∀ name ∈ record.toolNames, name ∈ names catalogue →
    (names received).count name = 1

variable {client}

theorem admitted_of_ask {n : ℕ} {cursor : Option String} {page : ToolPage}
    (h : client.ask n cursor = some page) : client.Admitted n := by
  have hrun : client.run n cursor = client.run n none :=
    GovernedExecutionService.execute_listPayload (client.requestId n) cursor
  unfold ask at h
  rw [hrun] at h
  split at h
  case h_1 reply hresult => exact GovernedExecutionService.forwards_of_page hresult h
  case h_2 => cases h

theorem Admitted.forwardedRun {n : ℕ} (h : client.Admitted n) :
    ∃ f : (client.service n).ForwardedRun (client.headers n) (listPayload (client.requestId n) none),
      f.forwarded ∈ (client.run n none).trace ∧ f.run.call.method = "tools/list" := by
  obtain ⟨ev, hev, hkind⟩ := h
  obtain ⟨f, rfl, -⟩ := GovernedExecutionService.forward_inv hev hkind
  exact ⟨f, hev, (Json.str.inj f.evaluated.1.method).symm⟩

/-- The page of a forwarded listing is the page of the answer, filtered, whatever page was asked. -/
theorem ask_of_forwardedRun {record : RegisteredAgent} (hregistered : client.RegisteredAs record)
    {n : ℕ}
    (f : (client.service n).ForwardedRun (client.headers n) (listPayload (client.requestId n) none))
    (hlist : f.run.call.method = "tools/list") {reply : Dict} {page : ToolPage}
    (hanswer : (client.service n).mcpUpstream f.run.call f.credential = .ok (.obj reply))
    (hpage : readPage reply = some page)
    (hnamed : ∀ tool ∈ page.items, (RoutingMCPUpstream.toolName tool).isSome = true)
    (cursor : Option String) :
    client.ask n cursor = some (grantedPage record.toolNames page) := by
  have hrun : client.run n cursor = client.run n none :=
    GovernedExecutionService.execute_listPayload (client.requestId n) cursor
  have hrecord : f.run.call.registration = some record := by
    have hlooked := hregistered n f.run.agent f.run.identified
    rw [f.run.looked] at hlooked
    rw [f.run.call_registration]
    exact Except.ok.inj hlooked
  obtain ⟨reply', hfilter, hpage'⟩ := filterListing_page hlist hpage hnamed
  have hresult : (client.run n none).result = .ok (.obj reply') := by
    rw [← hfilter]
    refine f.execute_result.trans
      (GovernedExecutionService.forwardCall_filtered hanswer ?_)
    rw [hfilter]
    nofun
  rw [hrecord] at hpage'
  unfold ask
  rw [hrun, hresult]
  exact hpage'

theorem count_grantedPage {granted : List String} {name : String} (h : name ∈ granted)
    (page : ToolPage) :
    (names (grantedPage granted page).items).count name = (names page.items).count name := by
  rw [grantedPage, names_filter, List.count_filter (by simpa using h)]

/-! ## One adapter -/

theorem transparent_iff_single {record : RegisteredAgent}
    (hregistered : client.RegisteredAs record) {adapter : UpstreamAdapter}
    {catalogue : PagedCatalogue} (hserves : adapter.Serves catalogue)
    (hport : ∀ n, (client.service n).mcpUpstream = adapter.port) :
    client.Transparent record catalogue.tools ↔
      client.Admitted 0 ∧ catalogue.pages.length = 1 := by
  have hnamed : ∀ tool ∈ catalogue.first.items, (RoutingMCPUpstream.toolName tool).isSome = true :=
    fun tool htool => catalogue.named tool (catalogue.mem_tools_of_first htool)
  have hask : ∀ n cursor, client.Admitted n →
      client.ask n cursor = some (grantedPage record.toolNames catalogue.first) := by
    intro n cursor hadmitted
    obtain ⟨f, -, hlist⟩ := hadmitted.forwardedRun
    obtain ⟨reply, hreply, hpage⟩ := hserves.port hlist f.credential
    rw [← hport n] at hreply
    exact ask_of_forwardedRun hregistered f hlist hreply hpage hnamed cursor
  constructor
  · rintro ⟨received, hcompletes, -⟩
    obtain ⟨page, hfirst⟩ := hcompletes.first
    refine ⟨admitted_of_ask hfirst, catalogue.single_iff.mp ?_⟩
    by_contra hnext
    refine not_completes_of_next ?_ received hcompletes
    intro n cursor page' hpage'
    rw [hask n cursor (admitted_of_ask hpage')] at hpage'
    cases hpage'
    exact hnext
  · rintro ⟨hadmitted, hsingle⟩
    refine ⟨_, completes_of_last (hask 0 none hadmitted) (catalogue.single_iff.mpr hsingle), ?_⟩
    intro name hgranted hname
    rw [count_grantedPage hgranted, ← catalogue.tools_of_single hsingle]
    exact List.count_eq_one_of_mem catalogue.distinct hname

/-! ## The router -/

section Router

variable {Time Id : Type} [LinearOrder Time] [Add Time] [Zero Time] [DecidableEq Id]
  {router : RoutingMCPUpstream Time Id} {adapters : String → UpstreamAdapter}
  {catalogues : String → PagedCatalogue}

/-- Every call the client's requests forward is a task of the router, and gets what it returned. -/
def RoutedBy (client : PagingClient) (router : RoutingMCPUpstream Time Id)
    (adapters : String → UpstreamAdapter) : Prop :=
  ∀ n cursor call credential answer, .forward call credential answer ∈ (client.run n cursor).trace →
    ∃ s i, (router.served adapters).Reachable s ∧ router.request i = call ∧
      router.credential i = credential ∧ router.Returned adapters s i answer

theorem transparent_iff_first {record : RegisteredAgent}
    (hregistered : client.RegisteredAs record)
    (hserves : ∀ u ∈ router.upstreams, (adapters u).Serves (catalogues u))
    (hrouted : client.RoutedBy router adapters) :
    client.Transparent record (router.wholeCatalogue catalogues) ↔
      client.Admitted 0 ∧ ∀ name ∈ record.toolNames,
        name ∈ names (router.wholeCatalogue catalogues) →
          name ∈ names (router.firstPages catalogues) := by
  have hask : client.Admitted 0 → ∃ tools,
      client.ask 0 none = some (grantedPage record.toolNames { items := tools, next := none }) ∧
      (names tools).Nodup ∧
      ∀ name, name ∈ names tools ↔ name ∈ names (router.firstPages catalogues) := by
    intro hadmitted
    obtain ⟨f, hforwarded, hlist⟩ := hadmitted.forwardedRun
    obtain ⟨s, i, hs, hrequest, -, hreturned⟩ := hrouted 0 none _ _ _ hforwarded
    rw [← hrequest] at hlist
    obtain ⟨reply, tools, hreply, hpage, hnamed, hdistinct, hnames⟩ :=
      RoutingMCPUpstream.page_of_returned hserves hs hlist hreturned
    rw [hrequest] at hlist
    exact ⟨tools, ask_of_forwardedRun hregistered f hlist hreply hpage hnamed none, hdistinct, hnames⟩
  constructor
  · rintro ⟨received, hcompletes, honce⟩
    obtain ⟨page, hfirst⟩ := hcompletes.first
    have hadmitted := admitted_of_ask hfirst
    obtain ⟨tools, htools, -, hnames⟩ := hask hadmitted
    refine ⟨hadmitted, ?_⟩
    intro name hgranted hname
    have hcount := honce name hgranted hname
    rw [hcompletes.eq_of_last htools rfl, count_grantedPage hgranted] at hcount
    exact (hnames name).mp (List.count_pos_iff.mp (Nat.lt_of_lt_of_eq Nat.one_pos hcount.symm))
  · rintro ⟨hadmitted, hcovered⟩
    obtain ⟨tools, htools, hdistinct, hnames⟩ := hask hadmitted
    refine ⟨_, completes_of_last htools rfl, ?_⟩
    intro name hgranted hname
    rw [count_grantedPage hgranted]
    exact List.count_eq_one_of_mem hdistinct ((hnames name).mpr (hcovered name hgranted hname))

variable (Time Id) in
/-- Paging through the gateway is transparent exactly where there is nothing to page: alone, for a
catalogue of one page; behind the router, for tools that are on a first page, listed or called. -/
theorem transparent_iff (record : RegisteredAgent) :
    (∀ (client : PagingClient) (adapter : UpstreamAdapter) (catalogue : PagedCatalogue),
      client.RegisteredAs record → adapter.Serves catalogue →
      (∀ n, (client.service n).mcpUpstream = adapter.port) →
      (client.Transparent record catalogue.tools ↔
        client.Admitted 0 ∧ catalogue.pages.length = 1)) ∧
    ∀ (router : RoutingMCPUpstream Time Id) (adapters : String → UpstreamAdapter)
      (catalogues : String → PagedCatalogue),
      (∀ u ∈ router.upstreams, (adapters u).Serves (catalogues u)) →
      (∀ client : PagingClient, client.RegisteredAs record → client.RoutedBy router adapters →
        (client.Transparent record (router.wholeCatalogue catalogues) ↔
          client.Admitted 0 ∧ ∀ name ∈ record.toolNames,
            name ∈ names (router.wholeCatalogue catalogues) →
              name ∈ names (router.firstPages catalogues))) ∧
      ∀ i, (router.request i).method ≠ "tools/list" →
        (router.Finds adapters i ↔
          RoutingMCPUpstream.calledTool (router.request i) ∈
            names (router.firstPages catalogues)) := by
  refine ⟨?_, ?_⟩
  · intro client adapter catalogue hregistered hserves hport
    exact transparent_iff_single hregistered hserves hport
  · intro router adapters catalogues hserves
    refine ⟨?_, ?_⟩
    · intro client hregistered hrouted
      exact transparent_iff_first hregistered hserves hrouted
    · intro i hcall
      exact RoutingMCPUpstream.finds_iff hserves hcall

end Router

/-! ## A catalogue of two pages -/

def namedTool (name : String) : Dict := [("name", .str name)]

def twoPages : PagedCatalogue where
  serve
    | none => some { items := [namedTool "read_query"], next := some "1" }
    | some "1" => some { items := [namedTool "update_record"], next := none }
    | some _ => none
  pages := [{ items := [namedTool "read_query"], next := some "1" },
    { items := [namedTool "update_record"], next := none }]
  paged := .more rfl rfl (.last rfl rfl)
  named := by decide
  distinct := by decide

def pageReply (page : ToolPage) : Dict :=
  [("result", .obj ([("tools", .arr (page.items.map Json.obj))] ++
    (page.next.map fun cursor => ("nextCursor", Json.str cursor)).toList))]

theorem readPage_pageReply (page : ToolPage) : readPage (pageReply page) = some page := by
  refine readPage_eq_some.mpr ⟨_, rfl, readResult_eq_some.mpr ⟨rfl, ?_⟩⟩
  obtain ⟨items, next⟩ := page
  cases next <;> rfl

/-- A JSON-RPC server that pages; it answers a cursor it does not know with no JSON at all. -/
def pagingServer (catalogue : PagedCatalogue) : UpstreamAdapter := .http {
  post := fun _ payload =>
    .success ((catalogue.serve (payloadCursor payload)).map fun page => .obj (pageReply page)) }

theorem pagingServer_serves (catalogue : PagedCatalogue) :
    (pagingServer catalogue).Serves catalogue := by
  intro headers payload page _ hpage
  refine ⟨pageReply page, ?_, readPage_pageReply page⟩
  simp only [hpage, Option.map_some]

/-- A record that grants the tools of both pages. -/
def bothGranted : RegisteredAgent :=
  { fixedRecord with
    grantedTools := [{ name := "read_query", name_not_blank := by decide },
      { name := "update_record", name_not_blank := by decide }] }

/-- A client of a gateway that allows everything, over this upstream. -/
def clientOf (upstream : MCPUpstream) : PagingClient where
  service := fun _ => { GovernedExecutionService.fixed fixedAgent (some bothGranted) ⟨.allow, ""⟩ with
    mcpUpstream := upstream }
  headers := fun _ => []
  requestId := fun n => .int n

theorem clientOf_registeredAs (upstream : MCPUpstream) :
    (clientOf upstream).RegisteredAs bothGranted := by
  intro n agent _
  rfl

/-- The client asks for the second page for ever. -/
theorem twoPages_not_transparent :
    (clientOf (pagingServer twoPages).port).Admitted 0 ∧
      ¬ (clientOf (pagingServer twoPages).port).Transparent bothGranted twoPages.tools := by
  have hforwards : ((clientOf (pagingServer twoPages).port).run 0 none).trace.any Event.isForward :=
    rfl
  refine ⟨List.any_eq_true.mp hforwards, ?_⟩
  intro htransparent
  have hsingle := (transparent_iff_single (clientOf_registeredAs _) (pagingServer_serves twoPages)
    fun _ => rfl).mp htransparent
  exact absurd hsingle.2 (by decide)

/-- The listings of the client, and a call of a tool of the second page. -/
def pagedFleet : RoutingMCPUpstream ℕ (Option ℕ) where
  upstreams := ["crm"]
  cacheTtl := 300
  request
    | some n =>
      { method := "tools/list", agent := fixedAgent, registration := some bothGranted,
        requestId := some (.int n) }
    | none => { method := "tools/call", toolName := some "update_record", agent := fixedAgent }
  credential := fun _ => GovernedExecutionService.autonomousPlaceholder fixedAgent
  text := fun _ => ""
  distinct := by decide
  nonempty := by decide

/-- What the router returns to every listing over the server of two pages. -/
def firstListed : MCPUpstream :=
  fun call _ => .ok (RoutingMCPUpstream.listReply call [namedTool "read_query"])

/-- One listing of the client, from the start to its end. -/
theorem pagedFleet_lists (n : ℕ) :
    ∃ s, (pagedFleet.served fun _ => pagingServer twoPages).Reachable s ∧
      s.phase (some n) = .listed [namedTool "read_query"] := by
  let reply : RoutingMCPUpstream.Answer :=
    .ok (pageReply { items := [namedTool "read_query"], next := some "1" })
  have henter : (pagedFleet.served fun _ => pagingServer twoPages).step
      (RoutingMCPUpstream.initial 0) (.enter (some n)) _ :=
    ⟨trivial, RoutingMCPUpstream.next_enter_listing rfl rfl⟩
  obtain ⟨s, hs, hphase⟩ : ∃ s, (pagedFleet.served fun _ => pagingServer twoPages).Reachable s ∧
      s.phase (some n) = .gathering false [none] :=
    ⟨_, .step (.start ⟨0, rfl⟩) henter, RoutingMCPUpstream.turn_phase _ _ _⟩
  have hanswer : (pagedFleet.served fun _ => pagingServer twoPages).step s
      (.answer (some n) 0 reply) _ :=
    ⟨⟨"crm", rfl, rfl⟩, RoutingMCPUpstream.next_answer hphase rfl reply⟩
  obtain ⟨s', hs', hphase'⟩ : ∃ s', (pagedFleet.served fun _ => pagingServer twoPages).Reachable s' ∧
      s'.phase (some n) = .gathering false ([reply].map some) :=
    ⟨_, .step hs hanswer, RoutingMCPUpstream.turn_phase _ _ _⟩
  have hfinish : (pagedFleet.served fun _ => pagingServer twoPages).step s' (.finish (some n)) _ :=
    ⟨trivial, RoutingMCPUpstream.next_finish hphase'⟩
  exact ⟨_, .step hs' hfinish, RoutingMCPUpstream.turn_phase _ _ _⟩

theorem clientOf_routedBy :
    (clientOf firstListed).RoutedBy pagedFleet fun _ => pagingServer twoPages := by
  intro n cursor call credential answer hforward
  have hrun : (clientOf firstListed).run n cursor = (clientOf firstListed).run n none :=
    GovernedExecutionService.execute_listPayload _ cursor
  rw [hrun] at hforward
  obtain ⟨f, hforwarded, -⟩ := GovernedExecutionService.forward_inv hforward rfl
  cases hforwarded
  have hcall : f.run.call = pagedFleet.request (some n) := by
    have hauthorized : (((clientOf firstListed).service n).authorizeCore
        ((clientOf firstListed).headers n)
        (listPayload ((clientOf firstListed).requestId n) none)).result.map AuthorizationOutcome.call =
          .ok (pagedFleet.request (some n)) := rfl
    rw [f.run.authorizeCore_eq] at hauthorized
    exact Except.ok.inj hauthorized
  have hcredential : f.credential = pagedFleet.credential (some n) := by
    have hplaceholder : ((clientOf firstListed).service n).Brokered f.run.call.agent
        ((clientOf firstListed).headers n) (pagedFleet.credential (some n)) [] := by
      rw [hcall]
      exact .placeholder rfl bearerToken_nil
    have hresult := congrArg Traced.result hplaceholder.brokerCredential_eq
    rw [f.brokered.brokerCredential_eq] at hresult
    exact Except.ok.inj hresult
  obtain ⟨s, hs, hphase⟩ := pagedFleet_lists n
  refine ⟨s, some n, hs, hcall.symm, hcredential.symm, ?_⟩
  unfold RoutingMCPUpstream.Returned
  rw [hphase, hcall]
  rfl

theorem twoPages_transparent_iff :
    ((clientOf (pagingServer twoPages).port).Transparent bothGranted twoPages.tools ↔
      (clientOf (pagingServer twoPages).port).Admitted 0 ∧ twoPages.pages.length = 1) ∧
    ((clientOf firstListed).Transparent bothGranted (pagedFleet.wholeCatalogue fun _ => twoPages) ↔
      (clientOf firstListed).Admitted 0 ∧ ∀ name ∈ bothGranted.toolNames,
        name ∈ names (pagedFleet.wholeCatalogue fun _ => twoPages) →
          name ∈ names (pagedFleet.firstPages fun _ => twoPages)) ∧
    (pagedFleet.Finds (fun _ => pagingServer twoPages) none ↔
      "update_record" ∈ names (pagedFleet.firstPages fun _ => twoPages)) := by
  obtain ⟨hsingle, hrouter⟩ := transparent_iff ℕ (Option ℕ) bothGranted
  obtain ⟨hlisted, hfinds⟩ := hrouter pagedFleet (fun _ => pagingServer twoPages) (fun _ => twoPages)
    fun _ _ => pagingServer_serves twoPages
  refine ⟨?_, ?_, ?_⟩
  · exact hsingle _ _ _ (clientOf_registeredAs _) (pagingServer_serves twoPages) fun _ => rfl
  · exact hlisted _ (clientOf_registeredAs _) clientOf_routedBy
  · exact hfinds none (by decide)

end PagingClient

end OpenAgentControl
