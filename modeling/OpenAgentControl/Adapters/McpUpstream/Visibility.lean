import OpenAgentControl.Adapters.McpUpstream.Routing

/-! # What each caller is shown

The routing system when every upstream answers, and shows each credential a catalogue of its own. One
table serves all callers, whoever's credential the fan-out that built it was made with. -/

namespace OpenAgentControl
set_option autoImplicit false
set_option maxHeartbeats 250000

open Foundations

namespace RoutingMCPUpstream

variable {Time Id : Type} (router : RoutingMCPUpstream Time Id)

/-- What an upstream answers to a `tools/list` made with a credential. -/
abbrev Catalogue := String → String → Dict

variable (catalogue : Catalogue)

/-- The answers of a fan-out made with the credential. -/
def answersTo (credential : String) : List Answer :=
  router.upstreams.map fun upstream => .ok (catalogue upstream credential)

/-- The first upstream in configured order that advertises the tool to the credential, with its first
object of that name. -/
def shownTo (credential tool : String) : Option Offer :=
  advertised (router.named (router.answersTo catalogue credential)) tool

/-- The upstream of `shownTo`. -/
def homeOf (credential tool : String) : Option String :=
  (router.shownTo catalogue credential tool).map Prod.fst

/-- Every upstream answers with what it shows the caller's credential. -/
def Answers : RouterStep Time Id → Prop
  | .answer i k a => (router.answersTo catalogue (router.credential i))[k]? = some a
  | _ => True

theorem refreshResult_answersTo (credential : String) :
    ∃ merged routes,
      router.refreshResult (router.answersTo catalogue credential) = .ok (merged, routes) := by
  have hlength : (router.answersTo catalogue credential).length = router.upstreams.length :=
    List.length_map _
  have hnone : (Merge.ofResults router.text
      (router.named (router.answersTo catalogue credential))).failures = [] := by
    rw [ofResults_failures, List.filterMap_eq_nil_iff]
    intro result hresult
    have hmem : result.2 ∈ router.answersTo catalogue credential := (List.of_mem_zip hresult).2
    obtain ⟨upstream, -, heq⟩ := List.mem_map.mp hmem
    obtain ⟨name, answer⟩ := result
    simp only at heq
    rw [← heq]
    rfl
  refine ⟨_, _, if_neg ?_⟩
  rintro ⟨hne, -⟩
  exact hne hnone

/-- What the phase of a task shows of the answers to its own credential. -/
def OwnPhase (i : Id) : RoutePhase → Prop
  | .gathering _ results => ∀ (k : ℕ) a, results[k]? = some (some a) →
    (router.answersTo catalogue (router.credential i))[k]? = some a
  | .raised e =>
    e = cancelled ∨
      router.shownTo catalogue (router.credential i) (calledTool (router.request i)) = none
  | _ => True

/-- Each fan-out gathers, and each refresh has merged, what its own caller is shown. -/
structure OwnAnswers (s : RouterState Time Id) : Prop where
  phases : ∀ i, router.OwnPhase catalogue i (s.phase i)
  refreshed : ∀ r, .refreshed r ∈ s.history →
    r.results = router.answersTo catalogue (router.credential r.task)

variable {router} {catalogue}

theorem OwnPhase.answers_eq {i : Id} {locked : Bool} {answers : List Answer}
    (h : router.OwnPhase catalogue i (.gathering locked (answers.map some)))
    (hlength : answers.length = router.upstreams.length) :
    answers = router.answersTo catalogue (router.credential i) := by
  apply List.ext_getElem?
  intro k
  by_cases hk : k < answers.length
  · have hown := h k answers[k] (by rw [List.getElem?_map, List.getElem?_eq_getElem hk]; rfl)
    rw [hown, List.getElem?_eq_getElem hk]
  · have hshown : (router.answersTo catalogue (router.credential i)).length = answers.length := by
      rw [answersTo, List.length_map, hlength]
    rw [List.getElem?_eq_none (not_lt.mp hk),
      List.getElem?_eq_none (le_of_eq_of_le hshown (not_lt.mp hk))]

theorem named_answersTo (credential : String) :
    router.named (router.answersTo catalogue credential) =
      router.upstreams.map fun upstream => (upstream, .ok (catalogue upstream credential)) := by
  have hzip : (router.upstreams.map id).zip
      (router.upstreams.map fun upstream => (.ok (catalogue upstream credential) : Answer)) =
        router.upstreams.map fun upstream => (upstream, .ok (catalogue upstream credential)) :=
    List.zip_map'
  rw [List.map_id] at hzip
  exact hzip

/-- The tool of `shownTo` is its upstream's own first object of that name. -/
theorem find_of_shownTo {credential tool upstream : String} {object : Dict}
    (h : router.shownTo catalogue credential tool = some (upstream, object)) :
    (toolsOf (catalogue upstream credential)).find? (hasKey toolName tool) = some object := by
  rw [shownTo, advertised_eq_some] at h
  obtain ⟨before, answer, after, hnamed, hfound, -⟩ := h
  have hmem : (upstream, answer) ∈ router.named (router.answersTo catalogue credential) := by
    rw [hnamed]
    exact List.mem_append_right before List.mem_cons_self
  rw [named_answersTo] at hmem
  obtain ⟨upstream', -, heq⟩ := List.mem_map.mp hmem
  cases heq
  exact hfound

variable {s s' : RouterState Time Id}

theorem OwnAnswers.release (h : router.OwnAnswers catalogue s) (locked : Bool) :
    router.OwnAnswers catalogue (RoutingMCPUpstream.release s locked) :=
  ⟨h.phases, h.refreshed⟩

variable [DecidableEq Id]

theorem OwnAnswers.turn (h : router.OwnAnswers catalogue s) {i : Id} {p : RoutePhase}
    (hp : router.OwnPhase catalogue i p) :
    router.OwnAnswers catalogue (RoutingMCPUpstream.turn s i p) where
  phases := by
    intro j
    by_cases hj : j = i
    · subst hj
      simp only [turn_phase]
      exact hp
    · simp only [turn_phase_of_ne s hj]
      exact h.phases j
  refreshed := h.refreshed

theorem OwnAnswers.call (h : router.OwnAnswers catalogue s) (i : Id) (upstream : String) :
    router.OwnAnswers catalogue (RoutingMCPUpstream.call s i upstream) where
  phases := (h.turn (i := i) (p := .forwarded upstream) trivial).phases
  refreshed := by
    intro r hr
    obtain heq | hr := List.mem_cons.mp hr
    · cases heq
    · exact h.refreshed r hr

variable [Add Time]

theorem OwnAnswers.complete (h : router.OwnAnswers catalogue s) {i : Id} {locked : Bool}
    {answers : List Answer} (hphase : s.phase i = .gathering locked (answers.map some))
    (hlength : answers.length = router.upstreams.length) :
    router.OwnAnswers catalogue (router.complete s i locked answers) := by
  have hown : router.OwnPhase catalogue i (.gathering locked (answers.map some)) :=
    hphase ▸ h.phases i
  have hanswers := hown.answers_eq hlength
  obtain ⟨merged, routes, hresult⟩ :=
    router.refreshResult_answersTo catalogue (router.credential i)
  rw [← hanswers] at hresult
  have hinstalled : router.OwnAnswers catalogue (router.install s i answers merged routes) := by
    refine ⟨h.phases, ?_⟩
    intro r hr
    obtain heq | hr := List.mem_cons.mp hr
    · cases heq
      exact hanswers
    · exact h.refreshed r hr
  simp only [RoutingMCPUpstream.complete, hresult]
  cases locked with
  | false => exact hinstalled.turn trivial
  | true =>
    simp only [if_true]
    cases hroute : routes.lookup (calledTool (router.request i)) with
    | some upstream => exact (hinstalled.call i upstream).release true
    | none =>
      have hmerged := router.refreshResult_ok hresult
      rw [hmerged.routed, Option.map_eq_none_iff, hanswers] at hroute
      have hraised : router.OwnPhase catalogue i (.raised (unknownTool router.upstreams
          (calledTool (router.request i)))) := Or.inr hroute
      exact (hinstalled.turn hraised).release true

variable [LinearOrder Time]

theorem OwnAnswers.next (h : router.OwnAnswers catalogue s) (hs : router.Consistent s)
    {l : RouterStep Time Id} (hanswers : router.Answers catalogue l)
    (hstep : router.next s l = some s') : router.OwnAnswers catalogue s' := by
  have hpending : ∀ i locked, router.OwnPhase catalogue i (.gathering locked router.pending) := by
    intro i locked k a hk
    rw [pending, List.getElem?_map, Option.map_eq_some_iff] at hk
    obtain ⟨upstream, -, heq⟩ := hk
    cases heq
  cases move_of_next hstep with
  | tick hle => exact ⟨h.phases, h.refreshed⟩
  | @list i hphase hlist => exact h.turn (hpending i false)
  | @cached i upstream hphase hcall hroute => exact h.call i upstream
  | queue hphase hcall => exact h.turn trivial
  | @recheck i upstream hphase hroute => exact h.call i upstream
  | @refresh i hphase hlock =>
    have hturned := h.turn (hpending i true)
    exact ⟨hturned.phases, hturned.refreshed⟩
  | @answer i k a locked results hphase =>
    have hown : router.OwnPhase catalogue i (.gathering locked results) := hphase ▸ h.phases i
    refine h.turn ?_
    intro j b hj
    by_cases hjk : j = k
    · subst hjk
      have hget : (results.set j (some a))[j]? = some (some a) := by
        have hlt : j < results.length := by
          by_contra hge
          rw [List.getElem?_eq_none (by rw [List.length_set]; omega)] at hj
          cases hj
        rw [List.getElem?_set_self hlt]
      rw [hget] at hj
      cases hj
      exact hanswers
    · rw [List.getElem?_set_ne (Ne.symm hjk)] at hj
      exact hown j b hj
  | @finish i locked answers hphase =>
    have hlength := hs.phases i
    rw [hphase] at hlength
    exact h.complete hphase (by rw [← hlength.1, List.length_map])
  | leave hphase => exact h.turn (Or.inl rfl)
  | @abandon i locked results hphase =>
    exact (h.turn (p := .raised cancelled) (Or.inl rfl)).release locked

variable [Zero Time]

variable (router catalogue) in
/-- The system with these upstreams. -/
def shownBy : System (RouterState Time Id) (RouterStep Time Id) :=
  router.system.restrict (router.Answers catalogue)

theorem ownAnswers_of_reachable (h : (router.shownBy catalogue).Reachable s) :
    router.OwnAnswers catalogue s := by
  refine h.invariant ?_ ?_
  · rintro s ⟨time, rfl⟩
    exact ⟨fun _ => trivial, fun r hr => absurd hr List.not_mem_nil⟩
  · rintro s l s' hreach hs ⟨hanswers, hstep⟩
    exact hs.next (consistent_of_reachable hreach.of_restrict) hanswers hstep

/-! ## The view of one caller -/

variable (router catalogue) in
/-- Whatever the others did, the call of `i` went to the first upstream that advertises its tool to
its own credential, or was refused because none does, and it ran the tool its own listing shows. -/
structure OwnView (s : RouterState Time Id) (i : Id) : Prop where
  forwarded : ∀ upstream time, .forwarded i upstream time ∈ s.history →
    router.homeOf catalogue (router.credential i) (calledTool (router.request i)) = some upstream
  refused : ∀ e, s.phase i = .raised e → e = cancelled ∨
    router.homeOf catalogue (router.credential i) (calledTool (router.request i)) = none
  shown : ∀ k tools upstream time, router.credential k = router.credential i →
    s.phase k = .listed tools → .forwarded i upstream time ∈ s.history →
      tools.find? (hasKey toolName (calledTool (router.request i))) =
        (toolsOf (catalogue upstream (router.credential i))).find?
          (hasKey toolName (calledTool (router.request i)))

variable (router catalogue) in
/-- Every credential that is shown the tool is shown it first by the same upstream as that of `i`. -/
def Agree (i : Id) : Prop :=
  ∀ j, router.homeOf catalogue (router.credential j) (calledTool (router.request i)) = none ∨
    router.homeOf catalogue (router.credential j) (calledTool (router.request i)) =
      router.homeOf catalogue (router.credential i) (calledTool (router.request i))

/-- A recorded call went to the home of its tool for the caller of the last refresh. -/
theorem home_of_forwarded (h : (router.shownBy catalogue).Reachable s) {i : Id} {upstream : String}
    {time : Time} (hmem : .forwarded i upstream time ∈ s.history) :
    ∃ j completed, router.homeOf catalogue (router.credential j) (calledTool (router.request i)) =
        some upstream ∧ completed ≤ time ∧
      (j = i ∨ time < completed + router.cacheTtl) := by
  obtain ⟨later, earlier, hhistory⟩ := List.append_of_mem hmem
  have hconsistent := consistent_of_reachable h.of_restrict
  obtain ⟨r, tool, hlast, hadvertised, hcompleted, hage⟩ := hconsistent.forwarded hhistory
  have hr : .refreshed r ∈ s.history := by
    rw [hhistory]
    exact List.mem_append_right later (List.mem_cons_of_mem _ (mem_of_lastRefresh hlast))
  rw [(ownAnswers_of_reachable h).refreshed r hr] at hadvertised
  refine ⟨r.task, r.completed, ?_, hcompleted, hage.imp_left And.left⟩
  rw [homeOf, shownTo, hadvertised, Option.map_some]

/-- Where the table never serves a call, or all agree, every caller has its own view. -/
theorem ownView_of_agree (h : (router.shownBy catalogue).Reachable s) {i : Id}
    (hagree : (∀ time : Time, ¬ time < time + router.cacheTtl) ∨ router.Agree catalogue i) :
    router.OwnView catalogue s i := by
  have hforwarded : ∀ upstream time, .forwarded i upstream time ∈ s.history →
      router.homeOf catalogue (router.credential i) (calledTool (router.request i)) =
        some upstream := by
    intro upstream time hmem
    obtain ⟨j, completed, hhome, hcompleted, hage⟩ := home_of_forwarded h hmem
    obtain rfl | hlive := hage
    · exact hhome
    · obtain hnever | hall := hagree
      · exact absurd (lt_of_le_of_lt hcompleted hlive) (hnever completed)
      · obtain hnone | hsame := hall j
        · rw [hnone] at hhome
          cases hhome
        · rw [← hsame, hhome]
  refine ⟨hforwarded, ?_, ?_⟩
  · intro e hphase
    have hraised := (ownAnswers_of_reachable h).phases i
    rw [hphase] at hraised
    obtain hcancelled | hnone := hraised
    · exact Or.inl hcancelled
    · exact Or.inr (Option.map_eq_none_iff.mpr hnone)
  · intro k tools upstream time hcredential hphase hmem
    obtain ⟨⟨up, object⟩, hshown, rfl⟩ := Option.map_eq_some_iff.mp (hforwarded upstream time hmem)
    have hlisted := (consistent_of_reachable h.of_restrict).phases k
    rw [hphase] at hlisted
    obtain ⟨-, r, hr, rfl, rfl⟩ := hlisted
    obtain ⟨-, hresult⟩ := (consistent_of_reachable h.of_restrict).explained.refreshed hr
    have hmerged := router.refreshResult_ok hresult
    rw [hmerged.listed, (ownAnswers_of_reachable h).refreshed r hr, hcredential,
      find_of_shownTo hshown]
    exact congrArg (Option.map Prod.snd) hshown

/-! ## A call routed by the table of another -/

theorem reachable_next (h : (router.shownBy catalogue).Reachable s) (l : RouterStep Time Id)
    (hanswers : router.Answers catalogue l) (hnext : router.next s l = some s') :
    (router.shownBy catalogue).Reachable s' :=
  .step h ⟨hanswers, hnext⟩

variable (router catalogue) in
/-- Any task can be the first to fan out: a listing at once, a call under the lock. -/
theorem fanOut_reachable (time : Time) (j : Id) : ∃ locked, ∃ s : RouterState Time Id,
    s.now = time ∧ (∀ i, s.phase i = .idle) ∧
      (router.shownBy catalogue).Reachable
        (RoutingMCPUpstream.turn s j (.gathering locked router.pending)) := by
  have hstart : (router.shownBy catalogue).Reachable (initial time) := .start ⟨time, rfl⟩
  by_cases hlist : (router.request j).method = "tools/list"
  · refine ⟨false, initial time, rfl, fun _ => rfl, ?_⟩
    exact reachable_next hstart (.enter j) trivial (next_enter_listing rfl hlist)
  · have hroute : cachedRoute (initial time : RouterState Time Id)
        (calledTool (router.request j)) = none := by
      unfold cachedRoute
      split_ifs <;> rfl
    have hwaiting : (router.shownBy catalogue).Reachable
        (RoutingMCPUpstream.turn (initial time) j .waiting) :=
      reachable_next hstart (.enter j) trivial (next_enter_miss rfl hlist hroute)
    have hgathering := reachable_next hwaiting (.acquire j) trivial
      (next_acquire_miss (turn_phase _ j _) rfl hroute)
    rw [turn_turn] at hgathering
    exact ⟨true, { initial time with lock := some j }, rfl, fun _ => rfl, hgathering⟩

theorem gathered_reachable {j : Id} {locked : Bool} (todo : List String) :
    ∀ done, router.upstreams = done ++ todo →
      (router.shownBy catalogue).Reachable (RoutingMCPUpstream.turn s j (.gathering locked
        ((done.map fun upstream => some (.ok (catalogue upstream (router.credential j)))) ++
          todo.map fun _ => none))) →
      (router.shownBy catalogue).Reachable (RoutingMCPUpstream.turn s j (.gathering locked
        ((router.answersTo catalogue (router.credential j)).map some))) := by
  induction todo with
  | nil =>
    intro done hsplit h
    rw [List.append_nil] at hsplit
    rw [List.map_nil, List.append_nil, ← hsplit] at h
    rw [answersTo, List.map_map]
    exact h
  | cons upstream rest ih =>
    intro done hsplit h
    let reply : Answer := .ok (catalogue upstream (router.credential j))
    refine ih (done ++ [upstream]) (by rw [hsplit, List.append_assoc, List.singleton_append]) ?_
    have hanswer : (router.answersTo catalogue (router.credential j))[done.length]? =
        some reply := by
      rw [answersTo, List.getElem?_map, hsplit, List.getElem?_append_right (le_refl _), Nat.sub_self]
      rfl
    have hpending : ((done.map fun upstream => some (.ok (catalogue upstream (router.credential j)))) ++
        none :: rest.map fun _ => (none : Option Answer))[done.length]? = some none := by
      rw [List.getElem?_append_right (by rw [List.length_map]), List.length_map, Nat.sub_self]
      rfl
    have hnext := reachable_next h (.answer j done.length reply) hanswer
      (next_answer (turn_phase s j _) hpending reply)
    rw [turn_turn, List.set_append_right _ _ (by rw [List.length_map]), List.length_map,
      Nat.sub_self] at hnext
    rw [List.map_append, List.append_assoc]
    exact hnext

/-- Where the table can serve a call, a caller whose tool is shown elsewhere to some other credential
can be sent there. -/
theorem strayed_of_disagree {i j : Id} (hcall : (router.request i).method ≠ "tools/list")
    {time : Time} (hlive : time < time + router.cacheTtl) {upstream : String}
    (hhome : router.homeOf catalogue (router.credential j) (calledTool (router.request i)) =
      some upstream) (hij : i ≠ j) :
    ∃ s, (router.shownBy catalogue).Reachable s ∧ .forwarded i upstream time ∈ s.history := by
  obtain ⟨locked, s, hnow, hidle, hfanOut⟩ := fanOut_reachable router catalogue time j
  have hgathered := gathered_reachable router.upstreams [] rfl hfanOut
  obtain ⟨merged, routes, hresult⟩ :=
    router.refreshResult_answersTo catalogue (router.credential j)
  have hcompleted := reachable_next hgathered (.finish j) trivial (next_finish (turn_phase s j _))
  obtain ⟨hroutes, hexpire, htime, hothers⟩ := complete_of_ok (RoutingMCPUpstream.turn s j
    (.gathering locked ((router.answersTo catalogue (router.credential j)).map some))) j locked hresult
  rw [← hnow] at hlive ⊢
  have hphase := (hothers i hij).trans ((turn_phase_of_ne s hij _).trans (hidle i))
  have hroute := router.refreshResult_ok hresult |>.routed (calledTool (router.request i))
  have hcached : cachedRoute (router.complete (RoutingMCPUpstream.turn s j (.gathering locked
      ((router.answersTo catalogue (router.credential j)).map some))) j locked
      (router.answersTo catalogue (router.credential j))) (calledTool (router.request i)) =
        some upstream := by
    rw [cachedRoute, htime, hexpire, hroutes, hroute]
    exact (if_pos hlive).trans hhome
  refine ⟨_, reachable_next hcompleted (.enter i) trivial (next_enter_cached hphase hcall hcached), ?_⟩
  rw [RoutingMCPUpstream.call, htime]
  exact List.mem_cons_self

/-- Every history leaves the caller its own view exactly when the table never serves a call, or every
credential that is shown the tool is shown it first by the caller's own upstream. -/
theorem ownView_iff_agree {i : Id} (hcall : (router.request i).method ≠ "tools/list") :
    (∀ s, (router.shownBy catalogue).Reachable s → router.OwnView catalogue s i) ↔
      (∀ time : Time, ¬ time < time + router.cacheTtl) ∨ router.Agree catalogue i := by
  constructor
  · intro h
    by_contra hdisagree
    obtain ⟨hserves, hdiffer⟩ := not_or.mp hdisagree
    obtain ⟨time, hlive⟩ := not_forall_not.mp hserves
    obtain ⟨j, hj⟩ := not_forall.mp hdiffer
    obtain ⟨hshown, hother⟩ := not_or.mp hj
    obtain ⟨upstream, hhome⟩ := Option.ne_none_iff_exists'.mp hshown
    have hij : i ≠ j := by
      rintro rfl
      exact hother rfl
    obtain ⟨s, hreach, hmem⟩ := strayed_of_disagree hcall hlive hhome hij
    exact hother (hhome.trans ((h s hreach).forwarded upstream time hmem).symm)
  · intro h s hreach
    exact ownView_of_agree hreach h

/-! ## Two callers of one fleet -/

/-- `read_query` is on both upstreams; the first shows it to the caller's credential only. -/
def fleetCatalogue : Catalogue := fun upstream credential =>
  if upstream = "crm" ∨ credential = "token-b" then listingReply ["read_query"] else listingReply []

/-- The caller is shown `read_query` by `finance` and has it run by `crm`. -/
theorem fleet_strays : ∃ s, (fleet.shownBy fleetCatalogue).Reachable s ∧
    .forwarded .caller "crm" 0 ∈ s.history ∧
    fleet.homeOf fleetCatalogue "token-b" "read_query" = some "finance" ∧
    ¬ fleet.OwnView fleetCatalogue s .caller := by
  obtain ⟨steps, s, hrun, hhead, -, hlabels⟩ := fleet_run
  have hreach : (fleet.shownBy fleetCatalogue).Reachable s := by
    refine (hrun.restrict ?_).reachable
    rw [hlabels]
    simp only [List.forall_mem_cons]
    exact ⟨trivial, trivial, rfl, rfl, trivial, nofun⟩
  have hmem : .forwarded .caller "crm" 0 ∈ s.history := List.mem_of_mem_head? hhead
  have hhome : fleet.homeOf fleetCatalogue "token-b" "read_query" = some "finance" := by decide
  refine ⟨s, hreach, hmem, hhome, ?_⟩
  intro h
  have hcrm := h.forwarded "crm" 0 hmem
  exact absurd (hhome.symm.trans hcrm) (by decide)

theorem fleet_ownView_iff :
    (∀ s, (fleet.shownBy fleetCatalogue).Reachable s → fleet.OwnView fleetCatalogue s .caller) ↔
      (∀ time : ℕ, ¬ time < time + 300) ∨ fleet.Agree fleetCatalogue .caller :=
  ownView_iff_agree (by decide)

end RoutingMCPUpstream

end OpenAgentControl
