import OpenAgentControl.Foundations.Paging
import OpenAgentControl.Adapters.McpUpstream.Routing
import OpenAgentControl.Adapters.McpUpstream.Transports

/-! # Catalogues in pages, behind the adapters and behind the router

A server that lists its tools in pages, as the cursors of MCP split them. Neither adapter puts a
cursor, so it gets the first page; the router merges first pages. The module says which tools a router
over such servers finds, in every run in which each server answers with its page. -/

namespace OpenAgentControl
set_option autoImplicit false
set_option maxHeartbeats 250000

open Foundations

/-! ## Reading a page -/

abbrev ToolPage := Page String Dict

/-- The names of the tools, in order. -/
def names (tools : List Dict) : List String := tools.filterMap RoutingMCPUpstream.toolName

def objects : List Json → Option (List Dict)
  | [] => some []
  | .obj tool :: rest => (objects rest).map (tool :: ·)
  | _ :: _ => none

theorem objects_eq_some {tools : List Json} {items : List Dict} :
    objects tools = some items ↔ tools = items.map Json.obj := by
  induction tools generalizing items with
  | nil => cases items <;> simp [objects]
  | cons tool rest ih =>
    cases tool with
    | obj fields =>
      rw [objects, Option.map_eq_some_iff]
      constructor
      · rintro ⟨items', hrest, rfl⟩
        rw [ih.mp hrest, List.map_cons]
      · intro h
        cases items with
        | nil => cases h
        | cons item items' =>
          obtain ⟨hhead, htail⟩ := List.cons.inj h
          cases hhead
          exact ⟨items', ih.mpr htail, rfl⟩
    | _ => cases items <;> simp [objects]

/-- The cursor of a result: absent or null on the last page. -/
def nextCursor (result : Dict) : Option (Option String) :=
  match result.get? "nextCursor" with
  | none => some none
  | some .null => some none
  | some (.str cursor) => some (some cursor)
  | some _ => none

/-- A `ListToolsResult` as a client reads it. -/
def readResult (result : Dict) : Option ToolPage :=
  match result.get? "tools" with
  | some (.arr tools) => do
    let items ← objects tools
    let next ← nextCursor result
    return { items, next }
  | _ => none

def readPage (reply : Dict) : Option ToolPage :=
  match reply.get? "result" with
  | some (.obj result) => readResult result
  | _ => none

theorem readResult_eq_some {result : Dict} {page : ToolPage} :
    readResult result = some page ↔
      Dict.get? result "tools" = some (.arr (page.items.map Json.obj)) ∧
        nextCursor result = some page.next := by
  obtain ⟨items, next⟩ := page
  unfold readResult
  constructor
  · intro h
    split at h
    case h_2 => cases h
    case h_1 tools htools =>
      obtain ⟨items', hitems, h⟩ := Option.bind_eq_some_iff.mp h
      obtain ⟨next', hnext, h⟩ := Option.bind_eq_some_iff.mp h
      cases h
      rw [htools, objects_eq_some.mp hitems]
      exact ⟨rfl, hnext⟩
  · rintro ⟨htools, hnext⟩
    have hitems : objects (items.map Json.obj) = some items := objects_eq_some.mpr rfl
    simp only [htools, hitems, hnext]
    rfl

theorem readPage_eq_some {reply : Dict} {page : ToolPage} :
    readPage reply = some page ↔
      ∃ result, Dict.get? reply "result" = some (.obj result) ∧ readResult result = some page := by
  unfold readPage
  constructor
  · intro h
    split at h
    case h_1 result hresult => exact ⟨result, hresult, h⟩
    case h_2 => cases h
  · rintro ⟨result, hresult, hpage⟩
    rw [hresult]
    exact hpage

/-! ## A server that pages -/

/-- The tools of a server, split into pages. A tool is known by its name. -/
structure PagedCatalogue where
  serve : Option String → Option ToolPage
  pages : List ToolPage
  /-- What a client that follows the cursors is served. -/
  paged : Paged (fun _ => serve) 0 none pages
  named : ∀ tool ∈ pages.flatMap Page.items, (RoutingMCPUpstream.toolName tool).isSome = true
  distinct : (names (pages.flatMap Page.items)).Nodup

namespace PagedCatalogue

variable (catalogue : PagedCatalogue)

def tools : List Dict := catalogue.pages.flatMap Page.items

theorem pages_ne_nil : catalogue.pages ≠ [] := by
  obtain ⟨page, rest, hpages, -⟩ := catalogue.paged.first
  rw [hpages]
  exact List.cons_ne_nil page rest

def first : ToolPage := catalogue.pages.head catalogue.pages_ne_nil

theorem serve_first : catalogue.serve none = some catalogue.first := by
  obtain ⟨page, rest, hpages, hserve, -⟩ := catalogue.paged.first
  simp only [first, hpages, List.head_cons]
  exact hserve

theorem single_iff : catalogue.first.next = none ↔ catalogue.pages.length = 1 := by
  obtain ⟨page, rest, hpages, -, hlast⟩ := catalogue.paged.first
  simp only [first, hpages, List.head_cons, hlast, List.length_cons, Nat.add_eq_right,
    List.length_eq_zero_iff]

theorem mem_tools_of_first {tool : Dict} (h : tool ∈ catalogue.first.items) :
    tool ∈ catalogue.tools :=
  List.mem_flatMap.mpr ⟨catalogue.first, List.head_mem catalogue.pages_ne_nil, h⟩

theorem tools_of_single (h : catalogue.pages.length = 1) :
    catalogue.tools = catalogue.first.items := by
  obtain ⟨page, hpages⟩ := List.length_eq_one_iff.mp h
  simp only [tools, first, hpages, List.flatMap_singleton, List.head_cons]

end PagedCatalogue

/-- The cursor a JSON-RPC payload asks for. -/
def payloadCursor (payload : Dict) : Option String :=
  match payload.get? "params" with
  | some (.obj params) =>
    match Dict.get? params "cursor" with
    | some (.str cursor) => some cursor
    | _ => none
  | _ => none

/-- The server behind the adapter is up and answers a listing with the page its cursor asks for. -/
def UpstreamAdapter.Serves (catalogue : PagedCatalogue) : UpstreamAdapter → Prop
  | http upstream => ∀ headers payload page, readOperation payload = some .list →
      catalogue.serve (payloadCursor payload) = some page →
      ∃ reply, upstream.post headers payload = .success (some (.obj reply)) ∧
        readPage reply = some page
  | streamable upstream => (∀ response, upstream.unwind (.ok response) = .ok response) ∧
      ∀ credential, ∃ session, upstream.session credential = .ok session ∧
        ∀ cursor page, catalogue.serve cursor = some page →
          ∃ result, session.listTools cursor = .ok result ∧ readResult result = some page

/-- An adapter puts no cursor: whatever page a listing is for, it is the first one. -/
theorem UpstreamAdapter.Serves.port {catalogue : PagedCatalogue} {adapter : UpstreamAdapter}
    (h : adapter.Serves catalogue) {call : ToolCallRequest} (hlist : call.method = "tools/list")
    (credential : String) :
    ∃ reply, adapter.port call credential = .ok (.obj reply) ∧
      readPage reply = some catalogue.first := by
  cases adapter with
  | http upstream =>
    have hoperation : readOperation (HttpMCPUpstream.payload call) = some .list := if_pos hlist
    have hcursor : payloadCursor (HttpMCPUpstream.payload call) = none := rfl
    obtain ⟨reply, hpost, hpage⟩ := h (bearerHeaders credential) (HttpMCPUpstream.payload call)
      catalogue.first hoperation (hcursor ▸ catalogue.serve_first)
    refine ⟨reply, ?_, hpage⟩
    simp only [UpstreamAdapter.port, UpstreamAdapter.forward, HttpMCPUpstream.forward, hpost]
  | streamable upstream =>
    obtain ⟨hunwind, hopens⟩ := h
    obtain ⟨session, hsession, hlists⟩ := hopens credential
    obtain ⟨result, hresult, hpage⟩ := hlists none catalogue.first catalogue.serve_first
    have hbody : (upstream.body call credential).result = .ok (jsonrpcResult call result) := by
      unfold StreamableHttpMCPUpstream.body
      rw [hsession, Traced.bind_of_ok (Traced.ofExcept_result _)]
      unfold StreamableHttpMCPUpstream.dispatch
      rw [if_pos hlist, hresult, Traced.bind_of_ok (Traced.perform_result _ _)]
      rfl
    refine ⟨[("jsonrpc", .str "2.0"), ("id", RequestId.modelDump call.requestId),
      ("result", .obj result)], ?_, readPage_eq_some.mpr ⟨result, rfl, hpage⟩⟩
    show (upstream.unwind (upstream.body call credential).result).mapError SdkError.caught = _
    rw [hbody, hunwind]
    rfl

/-! ## The router over servers that page -/

namespace RoutingMCPUpstream

/-- The answer of an upstream that lists its first page. -/
def ListsFirst (catalogue : PagedCatalogue) (a : Answer) : Prop :=
  ∃ reply, a = .ok reply ∧ readPage reply = some catalogue.first

theorem ListsFirst.tools {catalogue : PagedCatalogue} {a : Answer} (h : ListsFirst catalogue a) :
    Answer.tools a = catalogue.first.items := by
  obtain ⟨reply, rfl, hpage⟩ := h
  obtain ⟨result, hresult, hread⟩ := readPage_eq_some.mp hpage
  obtain ⟨htools, -⟩ := readResult_eq_some.mp hread
  simp only [Answer.tools, toolsOf, hresult, htools, List.filterMap_map]
  exact List.filterMap_some

variable {Time Id : Type} (router : RoutingMCPUpstream Time Id)
  (catalogues : String → PagedCatalogue)

/-- Every tool of every upstream. -/
def wholeCatalogue : List Dict := router.upstreams.flatMap fun u => (catalogues u).tools

def firstPages : List Dict := router.upstreams.flatMap fun u => (catalogues u).first.items

/-- Each upstream answered, with its first page. -/
def AllFirst (answers : List Answer) : Prop :=
  List.Forall₂ (fun u a => ListsFirst (catalogues u) a) router.upstreams answers

variable {router catalogues}

theorem AllFirst.not_failed {answers : List Answer} (h : router.AllFirst catalogues answers) :
    ¬ ∀ a ∈ answers, Answer.failed a = true := by
  intro hfailed
  unfold AllFirst at h
  cases hupstreams : router.upstreams with
  | nil => exact router.nonempty hupstreams
  | cons u rest =>
    rw [hupstreams] at h
    cases h with
    | cons hfirst hrest =>
      obtain ⟨reply, rfl, -⟩ := hfirst
      exact Bool.false_ne_true (hfailed _ List.mem_cons_self)

theorem AllFirst.refreshResult {answers : List Answer} (h : router.AllFirst catalogues answers) :
    ∃ merged routes, router.refreshResult answers = .ok (merged, routes) := by
  cases hresult : router.refreshResult answers with
  | ok result => exact ⟨result.1, result.2, rfl⟩
  | error e =>
    have hmessage : ∃ message, router.refreshResult answers = .error (.upstream message) := by
      simp only [RoutingMCPUpstream.refreshResult] at hresult ⊢
      split_ifs at hresult ⊢ with hguard
      exact ⟨_, rfl⟩
    exact absurd ((router.refreshResult_error_iff h.length_eq.symm).mp hmessage) h.not_failed

theorem mem_names_iff_find {tools : List Dict} {name : String} :
    name ∈ names tools ↔ (tools.find? (hasKey toolName name)).isSome = true := by
  rw [names, List.mem_filterMap, List.find?_isSome]
  simp only [hasKey, decide_eq_true_eq]

theorem offers_map_snd (results : List (String × Answer)) :
    (offers results).map Prod.snd = results.flatMap fun result => Answer.tools result.2 := by
  rw [offers, List.map_flatMap]
  congr 1
  funext result
  rw [List.map_map]
  exact List.map_id _

theorem AllFirst.offers {answers : List Answer} (h : router.AllFirst catalogues answers) :
    (RoutingMCPUpstream.offers (router.named answers)).map Prod.snd =
      router.firstPages catalogues := by
  rw [offers_map_snd, named, firstPages]
  unfold AllFirst at h
  generalize router.upstreams = upstreams at h ⊢
  induction h with
  | nil => rfl
  | cons hfirst hrest ih =>
    rw [List.zip_cons_cons, List.flatMap_cons, List.flatMap_cons, ih, hfirst.tools]

/-- What a refresh of first pages merges are, by name, the tools of the first pages, and so are the
tools it routes. -/
theorem AllFirst.mem_names {answers : List Answer} (h : router.AllFirst catalogues answers)
    {merged : List Dict} {routes : List (String × String)}
    (hresult : router.refreshResult answers = .ok (merged, routes)) (name : String) :
    name ∈ names merged ↔ name ∈ names (router.firstPages catalogues) := by
  have hlisted := (router.refreshResult_ok hresult).listed name
  rw [mem_names_iff_find, hlisted, ← find_offers, ← h.offers, mem_names_iff_find, List.find?_map,
    Option.isSome_map, Option.isSome_map]
  rfl

/-! ### Runs in which every upstream answers -/

theorem forall₂_set {α β : Type} {R : α → β → Prop} {xs : List α} {ys : List β}
    (h : List.Forall₂ R xs ys) {k : ℕ} {x : α} (hk : xs[k]? = some x) {y : β} (hy : R x y) :
    List.Forall₂ R xs (ys.set k y) := by
  induction h generalizing k with
  | nil => cases hk
  | cons hhead htail ih =>
    cases k with
    | zero =>
      cases hk
      exact .cons hy htail
    | succ k => exact .cons hhead (ih hk)

variable (router) in
/-- Every answer is what the adapter of its upstream returns, and no caller goes away. -/
def AnswersAs (adapters : String → UpstreamAdapter) : RouterStep Time Id → Prop
  | .answer i k a => ∃ u, router.upstreams[k]? = some u ∧
      (adapters u).port (listingOf (router.request i)) (router.credential i) = a.map Json.obj
  | .cancel _ => False
  | _ => True

variable (router catalogues) in
/-- What a phase of `i` holds of the first pages. -/
def PhaseServed (i : Id) : RoutePhase → Prop
  | .gathering _ results => List.Forall₂
      (fun u result => ∀ a, result = some a → ListsFirst (catalogues u) a) router.upstreams results
  | .raised _ => (router.request i).method ≠ "tools/list" ∧
      calledTool (router.request i) ∉ names (router.firstPages catalogues)
  | _ => True

variable (router catalogues) in
structure Serving (s : RouterState Time Id) : Prop where
  phases : ∀ i, router.PhaseServed catalogues i (s.phase i)
  refreshes : ∀ r, .refreshed r ∈ s.history → router.AllFirst catalogues r.results

theorem phaseServed_pending (i : Id) (locked : Bool) :
    router.PhaseServed catalogues i (.gathering locked router.pending) := by
  simp only [PhaseServed, pending, List.forall₂_map_right_iff, List.forall₂_same]
  intro u _ a habs
  cases habs

theorem PhaseServed.allFirst {i : Id} {locked : Bool} {answers : List Answer}
    (h : router.PhaseServed catalogues i (.gathering locked (answers.map some))) :
    router.AllFirst catalogues answers := by
  simp only [PhaseServed, List.forall₂_map_right_iff] at h
  exact h.imp fun u a ha => ha a rfl

/-- A lookup in the table of a refresh of first pages fails only for a tool of a later page. -/
theorem AllFirst.lookup_none_iff {answers : List Answer} (h : router.AllFirst catalogues answers)
    {merged : List Dict} {routes : List (String × String)}
    (hresult : router.refreshResult answers = .ok (merged, routes)) (name : String) :
    routes.lookup name = none ↔ name ∉ names (router.firstPages catalogues) := by
  rw [← h.mem_names hresult, ← Option.not_isSome_iff_eq_none,
    (router.refreshResult_ok hresult).domain name]
  rfl

variable {adapters : String → UpstreamAdapter}

theorem listsFirst_of_port (hserves : ∀ u ∈ router.upstreams, (adapters u).Serves (catalogues u))
    {u : String} (hu : u ∈ router.upstreams) {i : Id} {a : Answer}
    (hport : (adapters u).port (listingOf (router.request i)) (router.credential i) =
      a.map Json.obj) : ListsFirst (catalogues u) a := by
  have hlist : (listingOf (router.request i)).method = "tools/list" := rfl
  obtain ⟨reply, hreply, hpage⟩ := (hserves u hu).port hlist (router.credential i)
  rw [hreply] at hport
  cases a with
  | ok response =>
    cases hport
    exact ⟨reply, rfl, hpage⟩
  | error e => cases hport

variable {s : RouterState Time Id}

theorem Serving.install [Add Time] (h : router.Serving catalogues s) (i : Id) {answers : List Answer}
    (hanswers : router.AllFirst catalogues answers) (merged : List Dict)
    (routes : List (String × String)) :
    router.Serving catalogues (router.install s i answers merged routes) where
  phases := h.phases
  refreshes := by
    intro r hr
    obtain heq | hr := List.mem_cons.mp hr
    · cases heq
      exact hanswers
    · exact h.refreshes r hr

section Served

variable [DecidableEq Id]

theorem Serving.turn (h : router.Serving catalogues s) {i : Id} {p : RoutePhase}
    (hp : router.PhaseServed catalogues i p) :
    router.Serving catalogues (RoutingMCPUpstream.turn s i p) where
  phases := by
    intro j
    by_cases hj : j = i
    · subst hj
      rw [turn_phase]
      exact hp
    · rw [turn_phase_of_ne s hj]
      exact h.phases j
  refreshes := h.refreshes

theorem Serving.call (h : router.Serving catalogues s) (i : Id) (upstream : String) :
    router.Serving catalogues (RoutingMCPUpstream.call s i upstream) where
  phases := (h.turn (p := .forwarded upstream) trivial).phases
  refreshes := by
    intro r hr
    obtain habs | hr := List.mem_cons.mp hr
    · cases habs
    · exact h.refreshes r hr

variable [Add Time]

theorem Serving.complete (h : router.Serving catalogues s) {i : Id} {locked : Bool}
    {answers : List Answer} (hanswers : router.AllFirst catalogues answers)
    (hkind : locked = true → (router.request i).method ≠ "tools/list") :
    router.Serving catalogues (router.complete s i locked answers) := by
  obtain ⟨merged, routes, hresult⟩ := hanswers.refreshResult
  have hinstalled := h.install i hanswers merged routes
  simp only [RoutingMCPUpstream.complete, hresult]
  cases locked with
  | false => exact hinstalled.turn trivial
  | true =>
    simp only [if_true]
    cases hroute : routes.lookup (calledTool (router.request i)) with
    | some upstream =>
      have hcalled := hinstalled.call i upstream
      exact ⟨hcalled.phases, hcalled.refreshes⟩
    | none =>
      have hturned := hinstalled.turn (i := i)
        (p := .raised (unknownTool router.upstreams (calledTool (router.request i))))
        ⟨hkind rfl, (hanswers.lookup_none_iff hresult _).mp hroute⟩
      exact ⟨hturned.phases, hturned.refreshes⟩

variable [LinearOrder Time]

theorem Serving.next
    (hserves : ∀ u ∈ router.upstreams, (adapters u).Serves (catalogues u))
    (hconsistent : router.Consistent s) (h : router.Serving catalogues s) {l : RouterStep Time Id}
    (hallowed : router.AnswersAs adapters l) {s' : RouterState Time Id}
    (hstep : router.next s l = some s') : router.Serving catalogues s' := by
  cases move_of_next hstep with
  | tick hle => exact ⟨h.phases, h.refreshes⟩
  | @list i hphase hlist => exact h.turn (phaseServed_pending i false)
  | @cached i upstream hphase hcall hroute => exact h.call i upstream
  | queue hphase hcall => exact h.turn trivial
  | @recheck i upstream hphase hroute => exact h.call i upstream
  | @refresh i hphase hlock =>
    have hturned := h.turn (phaseServed_pending i true)
    exact ⟨hturned.phases, hturned.refreshes⟩
  | @answer i k a locked results hphase =>
    obtain ⟨u, hu, hport⟩ := hallowed
    have hgathering : router.PhaseServed catalogues i (.gathering locked results) :=
      hphase ▸ h.phases i
    have hfirst := listsFirst_of_port hserves (List.mem_of_getElem? hu) hport
    refine h.turn (forall₂_set hgathering hu ?_)
    intro b hb
    cases hb
    exact hfirst
  | @finish i locked answers hphase =>
    have hgathering : router.PhaseServed catalogues i (.gathering locked (answers.map some)) :=
      hphase ▸ h.phases i
    obtain ⟨-, -, hkind⟩ : router.PhaseOk s i (.gathering locked (answers.map some)) :=
      hphase ▸ hconsistent.phases i
    refine h.complete hgathering.allFirst ?_
    intro hlocked hlist
    exact Bool.false_ne_true ((hkind.mpr hlist).symm.trans hlocked)
  | leave hphase => exact hallowed.elim
  | abandon hphase => exact hallowed.elim

variable (router) in
def served [Zero Time] (adapters : String → UpstreamAdapter) :
    System (RouterState Time Id) (RouterStep Time Id) :=
  router.system.restrict (router.AnswersAs adapters)

theorem serving_of_reachable [Zero Time]
    (hserves : ∀ u ∈ router.upstreams, (adapters u).Serves (catalogues u))
    (h : (router.served adapters).Reachable s) : router.Serving catalogues s := by
  refine h.invariant ?_ ?_
  · rintro s ⟨time, rfl⟩
    exact ⟨fun _ => trivial, fun r hr => absurd hr List.not_mem_nil⟩
  · intro s l s' hs hserving hstep
    exact hserving.next hserves (consistent_of_reachable hs.of_restrict) hstep.1 hstep.2

/-! ### What the router lists and finds -/

/-- The listing of a task, when every upstream answers: each name once, those of the first pages. -/
theorem listed_of_served [Zero Time]
    (hserves : ∀ u ∈ router.upstreams, (adapters u).Serves (catalogues u))
    (h : (router.served adapters).Reachable s) {i : Id} {tools : List Dict}
    (hphase : s.phase i = .listed tools) :
    (∀ tool ∈ tools, (toolName tool).isSome = true) ∧ (names tools).Nodup ∧
      ∀ name, name ∈ names tools ↔ name ∈ names (router.firstPages catalogues) := by
  have hconsistent := consistent_of_reachable h.of_restrict
  have hlisted := hconsistent.phases i
  rw [hphase] at hlisted
  obtain ⟨-, r, hr, -, rfl⟩ := hlisted
  have hresult := (hconsistent.explained.refreshed hr).2
  have hmerged := router.refreshResult_ok hresult
  have hfirst := (serving_of_reachable hserves h).refreshes r hr
  exact ⟨hmerged.named, hmerged.distinct, hfirst.mem_names hresult⟩

theorem exists_answered [Zero Time]
    (hserves : ∀ u ∈ router.upstreams, (adapters u).Serves (catalogues u)) {i : Id}
    (hcall : (router.request i).method ≠ "tools/list") (n : ℕ) (hn : n ≤ router.upstreams.length) :
    ∃ (s : RouterState Time Id) (answers : List Answer),
      (router.served adapters).Reachable s ∧ answers.length = n ∧
      s.phase i = .gathering true
        (answers.map some ++ (router.upstreams.drop n).map fun _ => none) := by
  induction n with
  | zero =>
    have hmiss : cachedRoute (initial (0 : Time) : RouterState Time Id)
        (calledTool (router.request i)) = none := by
      simp only [cachedRoute, initial, lt_irrefl, if_false]
    have hstart : (router.served adapters).Reachable (initial (0 : Time)) := .start ⟨0, rfl⟩
    have henter : (router.served adapters).step _ (.enter i) _ :=
      ⟨trivial, next_enter_miss rfl hcall hmiss⟩
    have hacquire : (router.served adapters).step (turn (initial 0) i .waiting) (.acquire i) _ :=
      ⟨trivial, next_acquire_miss (turn_phase _ i .waiting) rfl hmiss⟩
    exact ⟨_, [], (hstart.step henter).step hacquire, rfl, turn_phase _ i _⟩
  | succ n ih =>
    obtain ⟨s, answers, hs, hlength, hphase⟩ := ih (Nat.le_of_succ_le hn)
    have hget : router.upstreams[n]? = some router.upstreams[n] := List.getElem?_eq_getElem hn
    have hdrop : router.upstreams.drop n = router.upstreams[n] :: router.upstreams.drop (n + 1) :=
      List.drop_eq_getElem_cons hn
    have hlen : (answers.map some).length = n := (List.length_map some).trans hlength
    obtain ⟨reply, hreply, -⟩ := (hserves _ (List.getElem_mem hn)).port
      (rfl : (listingOf (router.request i)).method = "tools/list") (router.credential i)
    rw [hdrop, List.map_cons] at hphase
    have hpending : (answers.map some ++ none :: (router.upstreams.drop (n + 1)).map
        fun _ => (none : Option Answer))[n]? = some none := by
      rw [List.getElem?_append_right (le_of_eq hlen), hlen, Nat.sub_self]
      rfl
    have hanswer : (router.served adapters).step s (.answer i n (.ok reply)) _ :=
      ⟨⟨_, hget, hreply⟩, next_answer hphase hpending (.ok reply)⟩
    refine ⟨_, answers ++ [.ok reply], hs.step hanswer, by simp [hlength], ?_⟩
    rw [turn_phase, List.set_append_right _ _ (le_of_eq hlen), hlen, Nat.sub_self, List.set_cons_zero,
      List.map_append, List.append_assoc]
    rfl

/-- The reply of `_list`. -/
def listReply (request : ToolCallRequest) (tools : List Dict) : Json :=
  jsonrpcResult request [("tools", .arr (tools.map Json.obj))]

variable (router) in
/-- What `forward` returns to a task that has ended. -/
def Returned (adapters : String → UpstreamAdapter) (s : RouterState Time Id) (i : Id)
    (answer : Except Exc Json) : Prop :=
  match s.phase i with
  | .listed tools => answer = .ok (listReply (router.request i) tools)
  | .forwarded upstream =>
    answer = (adapters upstream).port (router.request i) (router.credential i)
  | .raised e => answer = .error e
  | _ => False

theorem page_of_returned [Zero Time]
    (hserves : ∀ u ∈ router.upstreams, (adapters u).Serves (catalogues u))
    (h : (router.served adapters).Reachable s) {i : Id}
    (hlist : (router.request i).method = "tools/list") {answer : Except Exc Json}
    (hreturned : router.Returned adapters s i answer) :
    ∃ reply tools, answer = .ok (.obj reply) ∧
      readPage reply = some { items := tools, next := none } ∧
      (∀ tool ∈ tools, (toolName tool).isSome = true) ∧ (names tools).Nodup ∧
      ∀ name, name ∈ names tools ↔ name ∈ names (router.firstPages catalogues) := by
  unfold Returned at hreturned
  cases hphase : s.phase i with
  | listed tools =>
    rw [hphase] at hreturned
    refine ⟨_, tools, hreturned, ?_, listed_of_served hserves h hphase⟩
    exact readPage_eq_some.mpr ⟨_, rfl, readResult_eq_some.mpr ⟨rfl, rfl⟩⟩
  | forwarded upstream =>
    have hforwarded := (consistent_of_reachable h.of_restrict).phases i
    rw [hphase] at hforwarded
    exact absurd hlist hforwarded.1
  | raised e =>
    have hraised := (serving_of_reachable hserves h).phases i
    rw [hphase] at hraised
    exact absurd hlist hraised.1
  | _ =>
    rw [hphase] at hreturned
    exact hreturned.elim

variable (router) in
/-- No run in which every upstream answers ends the call otherwise than at an upstream. -/
def Finds [Zero Time] (adapters : String → UpstreamAdapter) (i : Id) : Prop :=
  ∀ s, (router.served adapters).Reachable s → ∀ e, s.phase i ≠ .raised e

/-- A call finds its tool exactly when the tool is on a first page. -/
theorem finds_iff [Zero Time]
    (hserves : ∀ u ∈ router.upstreams, (adapters u).Serves (catalogues u)) {i : Id}
    (hcall : (router.request i).method ≠ "tools/list") :
    router.Finds adapters i ↔
      calledTool (router.request i) ∈ names (router.firstPages catalogues) := by
  constructor
  · intro hfinds
    by_contra hmissing
    obtain ⟨s, answers, hs, hlength, hphase⟩ :=
      exists_answered hserves hcall router.upstreams.length (le_refl _)
    rw [List.drop_length, List.map_nil, List.append_nil] at hphase
    have hgathering : router.PhaseServed catalogues i (.gathering true (answers.map some)) :=
      hphase ▸ (serving_of_reachable hserves hs).phases i
    have hanswers := hgathering.allFirst
    obtain ⟨merged, routes, hresult⟩ := hanswers.refreshResult
    have hroute := (hanswers.lookup_none_iff hresult _).mpr hmissing
    have hfinish : (router.served adapters).step s (.finish i) _ :=
      ⟨trivial, next_finish hphase⟩
    refine hfinds _ (hs.step hfinish) (unknownTool router.upstreams (calledTool (router.request i))) ?_
    simp only [RoutingMCPUpstream.complete, hresult, hroute, if_true]
    exact turn_phase _ i _
  · intro hlisted s hs e hphase
    have hraised := (serving_of_reachable hserves hs).phases i
    rw [hphase] at hraised
    exact hraised.2 hlisted

end Served

end RoutingMCPUpstream

end OpenAgentControl
