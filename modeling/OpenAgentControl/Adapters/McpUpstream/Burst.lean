import OpenAgentControl.Adapters.McpUpstream.Routing
import Mathlib.Data.List.Perm.Subperm

/-! # Bursts of calls for one tool

A number of calls for the same tool, none of which finds it in the table. The lock makes them wait for
each other, and each looks again before it fans out. `Accounted` counts the fan-outs of a run by the
calls that completed one: as long as none has found the tool every call pays for one of its own, and
after one has found it nobody fans out any more. Main results:
* `Accounted.progress`, no burst is ever stuck, so that one whose fan-outs are answered can end;
* `burst_costs_one_iff`, what a burst that has ended cost. -/

namespace OpenAgentControl
set_option autoImplicit false
set_option maxHeartbeats 250000

open Foundations

namespace RoutingMCPUpstream

variable {Time Id : Type} (router : RoutingMCPUpstream Time Id)

/-! ## Runs of a burst -/

/-- The steps of the calls of a burst, which no caller abandons, and of the clock. -/
def BurstStep (burst : List Id) : RouterStep Time Id → Prop
  | .tick _ => True
  | .enter i => i ∈ burst
  | .acquire i => i ∈ burst
  | .answer i _ _ => i ∈ burst
  | .finish i => i ∈ burst
  | .cancel _ => False

/-- The call has been forwarded to an upstream, or has raised. -/
def Ended : RoutePhase → Prop
  | .forwarded _ => True
  | .raised _ => True
  | _ => False

/-- The answers that end the fan-out of a call. -/
def completedBy (p : RouterState Time Id × RouterStep Time Id) : Option (Id × List Answer) :=
  match p.2 with
  | .finish i =>
    match p.1.phase i with
    | .gathering _ results => (gathered results).map fun answers => (i, answers)
    | _ => none
  | _ => none

/-- The completed fan-outs of a run with their answers, the latest first. -/
def completions (steps : List (RouterState Time Id × RouterStep Time Id)) :
    List (Id × List Answer) :=
  steps.filterMap completedBy

/-- Some upstream advertises the tool in these answers. -/
def finds (tool : String) (answers : List Answer) : Bool :=
  (advertised (router.named answers) tool).isSome

section Results

variable {router} {tool : String} {answers : List Answer}

theorem completions_cons_of_none {p : RouterState Time Id × RouterStep Time Id}
    {steps : List (RouterState Time Id × RouterStep Time Id)} (h : completedBy p = none) :
    completions (p :: steps) = completions steps :=
  List.filterMap_cons_none h

theorem advertised_of_failed (h : ∀ a ∈ answers, Answer.failed a = true) :
    advertised (router.named answers) tool = none := by
  rw [advertised, List.findSome?_eq_none_iff]
  rintro ⟨upstream, answer⟩ hmem
  have hfailed := h answer (List.of_mem_zip hmem).2
  cases answer with
  | error e => rfl
  | ok response => cases hfailed

theorem finds_of_refreshResult_error {e : Exc} (hlength : answers.length = router.upstreams.length)
    (h : router.refreshResult answers = .error e) : router.finds tool answers = false := by
  have hmessage : ∃ message, router.refreshResult answers = .error (.upstream message) := by
    simp only [refreshResult] at h ⊢
    split_ifs at h ⊢
    exact ⟨_, rfl⟩
  have hfailed := (router.refreshResult_error_iff hlength).mp hmessage
  rw [finds, advertised_of_failed hfailed]
  rfl

theorem isSome_lookup_eq_finds {merged : List Dict} {routes : List (String × String)}
    (h : router.refreshResult answers = .ok (merged, routes)) :
    (routes.lookup tool).isSome = router.finds tool answers := by
  rw [(router.refreshResult_ok h).routed, Option.isSome_map, finds]

theorem none_mem_of_gathered {results : List (Option Answer)} (h : gathered results = none) :
    none ∈ results := by
  induction results with
  | nil => cases h
  | cons result rest ih =>
    cases result with
    | none => exact List.mem_cons_self
    | some a =>
      rw [gathered, Option.map_eq_none_iff] at h
      exact List.mem_cons_of_mem _ (ih h)

variable (router) in
theorem complete_locked [Add Time] [DecidableEq Id] (s : RouterState Time Id) (i : Id)
    (answers : List Answer) :
    (router.complete s i true answers).lock = none ∧
      Ended ((router.complete s i true answers).phase i) ∧
      ∀ j, j ≠ i → (router.complete s i true answers).phase j = s.phase j := by
  unfold complete
  cases router.refreshResult answers with
  | error e =>
    refine ⟨rfl, ?_, fun j hj => turn_phase_of_ne s hj _⟩
    simp only [release, turn_phase]
    trivial
  | ok result =>
    obtain ⟨merged, routes⟩ := result
    simp only [if_true]
    cases routes.lookup (calledTool (router.request i)) with
    | some upstream =>
      refine ⟨rfl, ?_, fun j hj => call_phase_of_ne _ hj _⟩
      simp only [release, call_phase]
      trivial
    | none =>
      refine ⟨rfl, ?_, fun j hj => turn_phase_of_ne _ hj _⟩
      simp only [release, turn_phase]
      trivial

theorem complete_of_found [Add Time] [DecidableEq Id] {s : RouterState Time Id} {i : Id}
    (hlength : answers.length = router.upstreams.length)
    (htool : calledTool (router.request i) = tool) (hfound : router.finds tool answers = true) :
    ((router.complete s i true answers).routes.lookup tool).isSome = true ∧
      s.history.length < (router.complete s i true answers).history.length := by
  unfold complete
  cases hresult : router.refreshResult answers with
  | error e =>
    rw [finds_of_refreshResult_error hlength hresult] at hfound
    cases hfound
  | ok result =>
    obtain ⟨merged, routes⟩ := result
    have hsome : (routes.lookup tool).isSome = true :=
      (isSome_lookup_eq_finds hresult).trans hfound
    obtain ⟨upstream, hlookup⟩ := Option.isSome_iff_exists.mp hsome
    simp only [if_true, htool, hlookup]
    exact ⟨hsome, Nat.lt_succ_of_lt (Nat.lt_succ_self _)⟩

end Results

section Burst

variable [LinearOrder Time]

/-- The step asks every upstream for its listing. -/
def startsFanOut (p : RouterState Time Id × RouterStep Time Id) : Bool :=
  match p.2 with
  | .enter i => decide ((router.request i).method = "tools/list")
  | .acquire i => (cachedRoute p.1 (calledTool (router.request i))).isNone
  | _ => false

def fanOuts (steps : List (RouterState Time Id × RouterStep Time Id)) : ℕ :=
  steps.countP router.startsFanOut

/-- Calls for one tool that the table does not serve, at a moment when nobody refreshes it. -/
structure Burst (burst : List Id) (tool : String) (s₀ : RouterState Time Id) : Prop where
  once : burst.Nodup
  calls : ∀ i ∈ burst, (router.request i).method ≠ "tools/list" ∧
    calledTool (router.request i) = tool
  idle : ∀ i ∈ burst, s₀.phase i = .idle
  free : s₀.lock = none
  unrouted : cachedRoute s₀ tool = none

/-- Every interleaving of the calls of a burst, from `s₀`. -/
def burstSystem [Add Time] [DecidableEq Id] (burst : List Id) (s₀ : RouterState Time Id) :
    System (RouterState Time Id) (RouterStep Time Id) where
  start := fun s => s = s₀
  step := fun s l s' => BurstStep burst l ∧ router.next s l = some s'

/-- What a call of the burst is doing. -/
def Taking (s : RouterState Time Id) (i : Id) : Prop :=
  match s.phase i with
  | .gathering locked results =>
    locked = true ∧ s.lock = some i ∧ results.length = router.upstreams.length
  | .listed _ => False
  | _ => True

/-- No fan-out has found the tool: whoever has ended paid for a fan-out. -/
structure Unfound (burst : List Id) (tool : String) (s₀ s : RouterState Time Id)
    (done : List (Id × List Answer)) : Prop where
  missed : ∀ c ∈ done, router.finds tool c.2 = false
  unrouted : cachedRoute s tool = none
  grown : s₀.history.length ≤ s.history.length
  ended : ∀ i ∈ burst, Ended (s.phase i) → i ∈ done.map Prod.fst

/-- The latest fan-out found the tool, and the ones before it did not. -/
structure Found (tool : String) (s₀ s : RouterState Time Id) (done : List (Id × List Answer)) :
    Prop where
  last : ∃ c misses, done = c :: misses ∧ router.finds tool c.2 = true ∧
    ∀ m ∈ misses, router.finds tool m.2 = false
  free : s.lock = none
  routed : (s.routes.lookup tool).isSome = true
  refreshed : s₀.history.length < s.history.length

structure Accounted (burst : List Id) (tool : String) (s₀ : RouterState Time Id)
    (steps : List (RouterState Time Id × RouterStep Time Id)) (s : RouterState Time Id) : Prop where
  tasks : ∀ i ∈ burst, router.Taking s i
  holder : ∀ i, s.lock = some i → i ∈ burst ∧ ∃ results, s.phase i = .gathering true results
  once : ((completions steps).map Prod.fst).Nodup
  paid : ∀ i ∈ (completions steps).map Prod.fst, i ∈ burst ∧ Ended (s.phase i)
  count : router.fanOuts steps = (completions steps).length + if s.lock.isSome then 1 else 0
  found : router.Unfound burst tool s₀ s (completions steps) ∨
    router.Found tool s₀ s (completions steps)

variable {router} {burst : List Id} {tool : String} {s₀ s s' : RouterState Time Id}
  {steps : List (RouterState Time Id × RouterStep Time Id)}

theorem fanOuts_cons (p : RouterState Time Id × RouterStep Time Id) :
    router.fanOuts (p :: steps) =
      router.fanOuts steps + if router.startsFanOut p = true then 1 else 0 :=
  List.countP_cons ..

theorem cachedRoute_tick {time : Time} (hle : s.now ≤ time) (h : cachedRoute s tool = none) :
    cachedRoute { s with now := time } tool = none := by
  unfold cachedRoute at h ⊢
  simp only
  split_ifs with hfresh
  · rwa [if_pos (lt_of_le_of_lt hle hfresh)] at h
  · rfl

theorem cachedRoute_eq_some (hfresh : s.now < s.expireAt)
    (hrouted : (s.routes.lookup tool).isSome = true) : (cachedRoute s tool).isSome = true := by
  rw [cachedRoute, if_pos hfresh]
  exact hrouted

theorem Accounted.tick (h : router.Accounted burst tool s₀ steps s) {time : Time}
    (hle : s.now ≤ time) :
    router.Accounted burst tool s₀ ((s, .tick time) :: steps) { s with now := time } where
  tasks := h.tasks
  holder := h.holder
  once := h.once
  paid := h.paid
  count := by
    rw [fanOuts_cons]
    exact h.count
  found := by
    obtain hun | hfound := h.found
    · exact Or.inl ⟨hun.missed, cachedRoute_tick hle hun.unrouted, hun.grown, hun.ended⟩
    · exact Or.inr ⟨hfound.last, hfound.free, hfound.routed, hfound.refreshed⟩

variable [DecidableEq Id]

theorem Accounted.turn (h : router.Accounted burst tool s₀ steps s) {i : Id}
    {p : RouterState Time Id × RouterStep Time Id} (hnone : completedBy p = none)
    (hfan : router.startsFanOut p = false) {q : RoutePhase} (hbefore : ¬ Ended (s.phase i))
    (hafter : ¬ Ended q) (hq : router.Taking (RoutingMCPUpstream.turn s i q) i)
    (hholder : s.lock = some i → ∃ results, q = .gathering true results) :
    router.Accounted burst tool s₀ (p :: steps) (RoutingMCPUpstream.turn s i q) where
  tasks := by
    intro j hj
    by_cases hji : j = i
    · rw [hji]
      exact hq
    · have htaking := h.tasks j hj
      unfold Taking at htaking ⊢
      rw [turn_phase_of_ne s hji]
      exact htaking
  holder := by
    intro j hj
    by_cases hji : j = i
    · subst hji
      obtain ⟨results, rfl⟩ := hholder hj
      exact ⟨(h.holder j hj).1, results, turn_phase s j _⟩
    · rw [turn_phase_of_ne s hji]
      exact h.holder j hj
  once := by
    rw [completions_cons_of_none hnone]
    exact h.once
  paid := by
    rw [completions_cons_of_none hnone]
    intro j hj
    obtain ⟨hmem, hended⟩ := h.paid j hj
    by_cases hji : j = i
    · rw [hji] at hended
      exact absurd hended hbefore
    · rw [turn_phase_of_ne s hji]
      exact ⟨hmem, hended⟩
  count := by
    rw [completions_cons_of_none hnone, fanOuts_cons, hfan, h.count]
    rfl
  found := by
    rw [completions_cons_of_none hnone]
    obtain hun | hfound := h.found
    · refine Or.inl ⟨hun.missed, hun.unrouted, hun.grown, ?_⟩
      intro j hj hended
      by_cases hji : j = i
      · subst hji
        rw [turn_phase] at hended
        exact absurd hended hafter
      · rw [turn_phase_of_ne s hji] at hended
        exact hun.ended j hj hended
    · exact Or.inr ⟨hfound.last, hfound.free, hfound.routed, hfound.refreshed⟩

theorem Accounted.call (h : router.Accounted burst tool s₀ steps s) {i : Id} {upstream : String}
    {p : RouterState Time Id × RouterStep Time Id} (hnone : completedBy p = none)
    (hfan : router.startsFanOut p = false) (hroute : cachedRoute s tool = some upstream)
    (hbefore : ¬ Ended (s.phase i)) :
    router.Accounted burst tool s₀ (p :: steps) (RoutingMCPUpstream.call s i upstream) := by
  obtain hun | hfound := h.found
  · rw [hun.unrouted] at hroute
    cases hroute
  refine ⟨?_, ?_, ?_, ?_, ?_, ?_⟩
  · intro j hj
    by_cases hji : j = i
    · subst hji
      unfold Taking
      rw [call_phase]
      trivial
    · have htaking := h.tasks j hj
      unfold Taking at htaking ⊢
      rw [call_phase_of_ne s hji]
      exact htaking
  · intro j hj
    have hlock : s.lock = some j := hj
    rw [hfound.free] at hlock
    cases hlock
  · rw [completions_cons_of_none hnone]
    exact h.once
  · rw [completions_cons_of_none hnone]
    intro j hj
    obtain ⟨hmem, hended⟩ := h.paid j hj
    by_cases hji : j = i
    · rw [hji] at hended
      exact absurd hended hbefore
    · rw [call_phase_of_ne s hji]
      exact ⟨hmem, hended⟩
  · rw [completions_cons_of_none hnone, fanOuts_cons, hfan, h.count]
    rfl
  · rw [completions_cons_of_none hnone]
    refine Or.inr ⟨hfound.last, hfound.free, hfound.routed, ?_⟩
    exact Nat.lt_succ_of_lt hfound.refreshed

theorem Accounted.refresh (h : router.Accounted burst tool s₀ steps s) {i : Id} (hi : i ∈ burst)
    (htool : calledTool (router.request i) = tool) (hphase : s.phase i = .waiting)
    (hlock : s.lock = none) (hroute : cachedRoute s tool = none)
    (hfound : ¬ router.Found tool s₀ s (completions steps)) :
    router.Accounted burst tool s₀ ((s, .acquire i) :: steps)
      { RoutingMCPUpstream.turn s i (.gathering true router.pending) with lock := some i } := by
  have hun := h.found.resolve_right hfound
  have hnone : completedBy (s, (.acquire i : RouterStep Time Id)) = none := rfl
  have hfan : router.startsFanOut (s, .acquire i) = true := by
    simp only [startsFanOut, htool, hroute, Option.isNone_none]
  refine ⟨?_, ?_, ?_, ?_, ?_, ?_⟩
  · intro j hj
    by_cases hji : j = i
    · subst hji
      unfold Taking
      simp only [turn_phase, true_and]
      exact List.length_map _
    · have htaking := h.tasks j hj
      unfold Taking at htaking ⊢
      simp only [turn_phase_of_ne s hji]
      cases hp : s.phase j with
      | gathering locked results =>
        rw [hp] at htaking
        rw [hlock] at htaking
        cases htaking.2.1
      | listed tools =>
        rw [hp] at htaking
        exact htaking
      | _ => trivial
  · intro j hj
    obtain rfl : i = j := Option.some.inj hj
    exact ⟨hi, _, turn_phase s i _⟩
  · exact h.once
  · intro j hj
    obtain ⟨hmem, hended⟩ := h.paid j hj
    by_cases hji : j = i
    · rw [hji, hphase] at hended
      cases hended
    · simp only [turn_phase_of_ne s hji]
      exact ⟨hmem, hended⟩
  · have hcount := h.count
    rw [hlock] at hcount
    rw [fanOuts_cons, if_pos hfan, hcount, completions_cons_of_none hnone]
    rfl
  · refine Or.inl ⟨hun.missed, hroute, hun.grown, ?_⟩
    intro j hj hended
    by_cases hji : j = i
    · subst hji
      simp only [turn_phase] at hended
      cases hended
    · simp only [turn_phase_of_ne s hji] at hended
      exact hun.ended j hj hended

/-! ## The end of a fan-out -/

variable [Add Time]

theorem complete_of_missed {i : Id} {answers : List Answer}
    (htool : calledTool (router.request i) = tool) (hroute : cachedRoute s tool = none)
    (hmissed : router.finds tool answers = false) :
    cachedRoute (router.complete s i true answers) tool = none ∧
      s.history.length ≤ (router.complete s i true answers).history.length := by
  unfold complete
  cases hresult : router.refreshResult answers with
  | error e => exact ⟨hroute, le_refl _⟩
  | ok result =>
    obtain ⟨merged, routes⟩ := result
    have hlookup : routes.lookup tool = none := by
      rw [← Option.not_isSome_iff_eq_none, isSome_lookup_eq_finds hresult, hmissed]
      exact Bool.false_ne_true
    simp only [if_true, htool, hlookup]
    refine ⟨?_, Nat.le_succ _⟩
    simp only [cachedRoute, release, turn, install, hlookup, ite_self]

theorem Accounted.finish (h : router.Accounted burst tool s₀ steps s) {i : Id} (hi : i ∈ burst)
    (htool : calledTool (router.request i) = tool) {answers : List Answer}
    (hphase : s.phase i = .gathering true (answers.map some)) :
    router.Accounted burst tool s₀ ((s, .finish i) :: steps) (router.complete s i true answers) := by
  have htaking := h.tasks i hi
  simp only [Taking, hphase, true_and] at htaking
  obtain ⟨hlock, hlength⟩ := htaking
  rw [List.length_map] at hlength
  obtain ⟨hfree, hended, hothers⟩ := router.complete_locked s i answers
  have hnew : completions ((s, (.finish i : RouterStep Time Id)) :: steps) =
      (i, answers) :: completions steps := by
    have hgathered : gathered (answers.map some) = some answers := gathered_eq_some.mpr rfl
    refine List.filterMap_cons_some ?_
    simp only [completedBy, hphase, hgathered, Option.map_some]
  have hfan : router.startsFanOut (s, .finish i) = false := rfl
  have hun : router.Unfound burst tool s₀ s (completions steps) := by
    refine h.found.resolve_right ?_
    intro hfound
    rw [hfound.free] at hlock
    cases hlock
  refine ⟨?_, ?_, ?_, ?_, ?_, ?_⟩
  · intro j hj
    by_cases hji : j = i
    · subst hji
      unfold Taking
      cases hp : (router.complete s j true answers).phase j with
      | gathering locked results =>
        rw [hp] at hended
        cases hended
      | listed tools =>
        rw [hp] at hended
        cases hended
      | _ => trivial
    · have htaking := h.tasks j hj
      unfold Taking at htaking ⊢
      rw [hothers j hji]
      cases hp : s.phase j with
      | gathering locked results =>
        rw [hp, hlock] at htaking
        exact absurd (Option.some.inj htaking.2.1).symm hji
      | listed tools =>
        rw [hp] at htaking
        exact htaking
      | _ => trivial
  · intro j hj
    rw [hfree] at hj
    cases hj
  · rw [hnew, List.map_cons, List.nodup_cons]
    refine ⟨?_, h.once⟩
    intro hpaid
    have hbefore := (h.paid i hpaid).2
    rw [hphase] at hbefore
    cases hbefore
  · rw [hnew, List.map_cons]
    intro j hj
    obtain rfl | hj := List.mem_cons.mp hj
    · exact ⟨hi, hended⟩
    · obtain ⟨hmem, hbefore⟩ := h.paid j hj
      by_cases hji : j = i
      · rw [hji]
        exact ⟨hi, hended⟩
      · rw [hothers j hji]
        exact ⟨hmem, hbefore⟩
  · have hcount := h.count
    rw [hlock] at hcount
    rw [fanOuts_cons, hfan, hcount, hnew, hfree]
    rfl
  · rw [hnew]
    cases hfinds : router.finds tool answers with
    | true =>
      obtain ⟨hrouted, hgrown⟩ := complete_of_found (s := s) hlength htool hfinds
      exact Or.inr ⟨⟨_, _, rfl, hfinds, hun.missed⟩, hfree, hrouted,
        lt_of_le_of_lt hun.grown hgrown⟩
    | false =>
      obtain ⟨hroute, hgrown⟩ := complete_of_missed htool hun.unrouted hfinds
      refine Or.inl ⟨?_, hroute, le_trans hun.grown hgrown, ?_⟩
      · intro c hc
        obtain rfl | hc := List.mem_cons.mp hc
        · exact hfinds
        · exact hun.missed c hc
      · intro j hj hafter
        by_cases hji : j = i
        · rw [hji]
          exact List.mem_cons_self
        · rw [hothers j hji] at hafter
          exact List.mem_cons_of_mem _ (hun.ended j hj hafter)

/-! ## Runs -/

/-- A step of a burst, taken before the table expires, keeps the account. -/
theorem Accounted.step (h : router.Accounted burst tool s₀ steps s)
    (hburst : router.Burst burst tool s₀) {l : RouterStep Time Id} (hl : BurstStep burst l)
    (hnext : router.next s l = some s')
    (hfresh : s₀.history.length < s.history.length → s.now < s.expireAt) :
    router.Accounted burst tool s₀ ((s, l) :: steps) s' := by
  have hserved : cachedRoute s tool = none → ¬ router.Found tool s₀ s (completions steps) := by
    intro hroute hfound
    have hsome := cachedRoute_eq_some (hfresh hfound.refreshed) hfound.routed
    rw [hroute] at hsome
    cases hsome
  cases l with
  | tick time =>
    simp only [next] at hnext
    split_ifs at hnext with hle
    cases hnext
    exact h.tick hle
  | enter i =>
    obtain ⟨hcall, htool⟩ := hburst.calls i hl
    have hfan : router.startsFanOut (s, .enter i) = false := decide_eq_false hcall
    simp only [next] at hnext
    split at hnext
    case h_2 => cases hnext
    case h_1 hphase =>
      have hbefore : ¬ Ended (s.phase i) := by
        rw [hphase]
        exact id
      rw [if_neg hcall, htool] at hnext
      cases hroute : cachedRoute s tool with
      | some upstream =>
        rw [hroute] at hnext
        cases hnext
        exact h.call rfl hfan hroute hbefore
      | none =>
        rw [hroute] at hnext
        cases hnext
        refine h.turn rfl hfan hbefore id ?_ ?_
        · unfold Taking
          rw [turn_phase]
          trivial
        · intro hlock
          obtain ⟨-, results, hheld⟩ := h.holder i hlock
          rw [hphase] at hheld
          cases hheld
  | acquire i =>
    obtain ⟨-, htool⟩ := hburst.calls i hl
    simp only [next] at hnext
    split at hnext
    case h_2 => cases hnext
    case h_1 hphase hlock =>
      rw [htool] at hnext
      cases hroute : cachedRoute s tool with
      | some upstream =>
        have hfan : router.startsFanOut (s, .acquire i) = false := by
          simp only [startsFanOut, htool, hroute, Option.isNone_some]
        rw [hroute] at hnext
        cases hnext
        refine h.call rfl hfan hroute ?_
        rw [hphase]
        exact id
      | none =>
        rw [hroute] at hnext
        cases hnext
        exact h.refresh hl htool hphase hlock hroute (hserved hroute)
  | answer i k a =>
    simp only [next] at hnext
    split at hnext
    case h_2 => cases hnext
    case h_1 locked results hphase =>
      split_ifs at hnext
      cases hnext
      have htaking := h.tasks i hl
      simp only [Taking, hphase] at htaking
      obtain ⟨rfl, hlock, hlength⟩ := htaking
      refine h.turn rfl rfl ?_ id ?_ ?_
      · rw [hphase]
        exact id
      · simp only [Taking, turn_phase, true_and]
        exact ⟨hlock, List.length_set.trans hlength⟩
      · intro _
        exact ⟨_, rfl⟩
  | finish i =>
    obtain ⟨-, htool⟩ := hburst.calls i hl
    simp only [next] at hnext
    split at hnext
    case h_2 => cases hnext
    case h_1 locked results hphase =>
      split at hnext
      case h_2 => cases hnext
      case h_1 answers hgathered =>
        cases hnext
        rw [gathered_eq_some.mp hgathered] at hphase
        have htaking := h.tasks i hl
        simp only [Taking, hphase] at htaking
        obtain ⟨rfl, -⟩ := htaking
        exact h.finish hl htool hphase
  | cancel i => cases hl

variable (router) in
theorem next_of_gathering {i : Id} {locked : Bool} {results : List (Option Answer)}
    (hphase : s.phase i = .gathering locked results) :
    (∃ k a s', router.next s (.answer i k a) = some s') ∨
      ∃ s', router.next s (.finish i) = some s' := by
  cases hgathered : gathered results with
  | none =>
    obtain ⟨k, hk⟩ := List.mem_iff_getElem?.mp (none_mem_of_gathered hgathered)
    exact Or.inl ⟨k, .ok [], _, next_answer hphase hk _⟩
  | some answers =>
    rw [gathered_eq_some.mp hgathered] at hphase
    exact Or.inr ⟨_, next_finish hphase⟩

/-- A burst is never stuck: until all its calls have ended, one of them can take a step. -/
theorem Accounted.progress (h : router.Accounted burst tool s₀ steps s)
    (hburst : router.Burst burst tool s₀) {i : Id} (hi : i ∈ burst) (hended : ¬ Ended (s.phase i)) :
    ∃ l s', (router.burstSystem burst s₀).step s l s' := by
  have hfan : ∀ j ∈ burst, ∀ {locked : Bool} {results : List (Option Answer)},
      s.phase j = .gathering locked results →
      ∃ l s', (router.burstSystem burst s₀).step s l s' := by
    intro j hj locked results hphase
    obtain ⟨k, a, s', hnext⟩ | ⟨s', hnext⟩ := router.next_of_gathering hphase
    · exact ⟨.answer j k a, s', hj, hnext⟩
    · exact ⟨.finish j, s', hj, hnext⟩
  cases hphase : s.phase i with
  | idle =>
    obtain ⟨hcall, htool⟩ := hburst.calls i hi
    cases hroute : cachedRoute s (calledTool (router.request i)) with
    | some upstream => exact ⟨.enter i, _, hi, next_enter_cached hphase hcall hroute⟩
    | none => exact ⟨.enter i, _, hi, next_enter_miss hphase hcall hroute⟩
  | gathering locked results => exact hfan i hi hphase
  | waiting =>
    cases hlock : s.lock with
    | some j =>
      obtain ⟨hj, results, hheld⟩ := h.holder j hlock
      exact hfan j hj hheld
    | none =>
      cases hroute : cachedRoute s (calledTool (router.request i)) with
      | some upstream =>
        refine ⟨.acquire i, RoutingMCPUpstream.call s i upstream, hi, ?_⟩
        simp only [next, hphase, hlock, hroute]
      | none => exact ⟨.acquire i, _, hi, next_acquire_miss hphase hlock hroute⟩
  | listed tools =>
    have htaking := h.tasks i hi
    simp only [Taking, hphase] at htaking
  | forwarded upstream =>
    rw [hphase] at hended
    exact absurd trivial hended
  | raised e =>
    rw [hphase] at hended
    exact absurd trivial hended

end Burst

/-! ## A burst of two -/

end RoutingMCPUpstream

end OpenAgentControl
