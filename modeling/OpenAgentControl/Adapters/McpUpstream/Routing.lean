import OpenAgentControl.Adapters.McpUpstream.Merge
import OpenAgentControl.Foundations.Transition
import Mathlib.Logic.Function.Basic
import Mathlib.Order.Defs.LinearOrder

/-! # Routing over several upstreams

`RoutingMCPUpstream` under any number of concurrent `forward` calls. A listing fans out without the
lock; a call looks its tool up in the shared table and, when the table has expired or lacks it, waits
for the lock, looks again and fans out under it. The answers of a fan-out come in any order, and what
follows the last of them is one step: nothing is awaited between the merge and the end of the refresh.
- `History` is the record of the completed refreshes and the forwarded calls, the latest first.
- `Consistent` is the invariant; `Explained` is what it says about the record. -/

namespace OpenAgentControl
set_option autoImplicit false
set_option maxHeartbeats 250000

open Foundations

/-- The upstreams by name in configured order, and the calls of `forward`. -/
structure RoutingMCPUpstream (Time Id : Type) where
  upstreams : List String
  cacheTtl : Time
  request : Id → ToolCallRequest
  credential : Id → String
  /-- `str` of an exception. -/
  text : Exc → String
  /-- They are the keys of a `dict`. -/
  distinct : upstreams.Nodup
  /-- The constructor rejects an empty map. -/
  nonempty : upstreams ≠ []

namespace RoutingMCPUpstream

/-- The `tools/list` of a fan-out. -/
def listingOf (request : ToolCallRequest) : ToolCallRequest where
  method := "tools/list"
  agent := request.agent
  registration := request.registration
  requestId := request.requestId

/-- `request.tool_name or ""`. -/
def calledTool (request : ToolCallRequest) : String := request.toolName.getD ""

inductive RoutePhase
  | idle
  /-- The fan-out of a listing, or of a call that holds the lock. -/
  | gathering (locked : Bool) (results : List (Option Answer))
  | waiting
  | listed (tools : List Dict)
  | forwarded (upstream : String)
  | raised (e : Exc)

/-- A completed refresh. -/
structure Refresh (Time Id : Type) where
  task : Id
  results : List Answer
  merged : List Dict
  routes : List (String × String)
  completed : Time

inductive RouterEvent (Time Id : Type)
  | refreshed (r : Refresh Time Id)
  | forwarded (task : Id) (upstream : String) (time : Time)

/-- The latest event first. -/
abbrev History (Time Id : Type) := List (RouterEvent Time Id)

structure RouterState (Time Id : Type) where
  now : Time
  routes : List (String × String)
  expireAt : Time
  lock : Option Id
  phase : Id → RoutePhase
  history : History Time Id

inductive RouterStep (Time Id : Type)
  | tick (time : Time)
  | enter (i : Id)
  | acquire (i : Id)
  /-- The `k`-th upstream of the fan-out of `i` answers. -/
  | answer (i : Id) (k : ℕ) (a : Answer)
  | finish (i : Id)
  | cancel (i : Id)

/-- The results of a fan-out, once every upstream has answered. -/
def gathered : List (Option Answer) → Option (List Answer)
  | [] => some []
  | some a :: rest => (gathered rest).map (a :: ·)
  | none :: _ => none

theorem gathered_eq_some {results : List (Option Answer)} {answers : List Answer} :
    gathered results = some answers ↔ results = answers.map some := by
  induction results generalizing answers with
  | nil =>
    cases answers with
    | nil => simp [gathered]
    | cons a answers => simp [gathered]
  | cons result rest ih =>
    cases result with
    | none =>
      cases answers with
      | nil => simp [gathered]
      | cons a answers => simp [gathered]
    | some b =>
      cases answers with
      | nil => simp [gathered]
      | cons a answers =>
        rw [gathered, Option.map_eq_some_iff, List.map_cons, List.cons.injEq, Option.some.injEq]
        constructor
        · rintro ⟨answers', hrest, heq⟩
          cases heq
          exact ⟨rfl, ih.mp hrest⟩
        · rintro ⟨rfl, hrest⟩
          exact ⟨answers, ih.mpr hrest, rfl⟩

def unknownTool (upstreams : List String) (tool : String) : Exc :=
  .upstream ("no configured upstream advertises a tool named '" ++ tool ++ "' (searched: " ++
    ", ".intercalate upstreams ++ ")")

def cancelled : Exc := .other "CancelledError"

variable {Time Id : Type} (router : RoutingMCPUpstream Time Id)

/-- The results of a fan-out under the names of their upstreams. -/
def named (answers : List Answer) : List (String × Answer) := router.upstreams.zip answers

/-- `_refresh` from the gathered results on. -/
def refreshResult (answers : List Answer) :
    Except Exc (List Dict × List (String × String)) :=
  let m := Merge.ofResults router.text (router.named answers)
  if m.failures ≠ [] ∧ m.failures.length = router.upstreams.length then
    .error (.upstream ("every configured upstream failed — " ++ "; ".intercalate m.failures))
  else .ok (m.merged, m.routes)

theorem refreshResult_ok {answers : List Answer} {merged : List Dict}
    {routes : List (String × String)} (h : router.refreshResult answers = .ok (merged, routes)) :
    MergedFrom (router.named answers) merged routes := by
  simp only [refreshResult] at h
  split_ifs at h
  obtain ⟨rfl, rfl⟩ := Prod.mk.inj (Except.ok.inj h)
  exact mergedFrom_ofResults router.text (router.named answers)

theorem refreshResult_error_iff {answers : List Answer}
    (hlength : answers.length = router.upstreams.length) :
    (∃ message, router.refreshResult answers = .error (.upstream message)) ↔
      ∀ a ∈ answers, Answer.failed a = true := by
  have hzip : (router.named answers).length = router.upstreams.length := by
    rw [named, List.length_zip, hlength, min_self]
  have hpos : router.upstreams.length ≠ 0 :=
    fun h => router.nonempty (List.eq_nil_of_length_eq_zero h)
  have hall : (∀ result ∈ router.named answers, Answer.failed result.2 = true) ↔
      ∀ a ∈ answers, Answer.failed a = true := by
    have hmap : (router.named answers).map Prod.snd = answers :=
      List.map_snd_zip (le_of_eq hlength)
    have hmem := List.forall_mem_map (f := Prod.snd) (l := router.named answers)
      (P := fun a => Answer.failed a = true)
    rw [hmap] at hmem
    exact hmem.symm
  have hfailures := failures_length_eq_iff router.text (router.named answers)
  rw [hzip] at hfailures
  rw [← hall, ← hfailures]
  constructor
  · rintro ⟨message, h⟩
    simp only [refreshResult] at h
    split_ifs at h with hguard
    exact hguard.2
  · intro h
    have hne : (Merge.ofResults router.text (router.named answers)).failures ≠ [] := by
      intro hnil
      rw [hnil] at h
      exact hpos h.symm
    exact ⟨_, if_pos ⟨hne, h⟩⟩

/-! ## Steps -/

/-- The state the constructor leaves. -/
def initial [Zero Time] (time : Time) : RouterState Time Id where
  now := time
  routes := []
  expireAt := 0
  lock := none
  phase := fun _ => .idle
  history := []

section Moves

variable [DecidableEq Id]

def turn (s : RouterState Time Id) (i : Id) (p : RoutePhase) : RouterState Time Id :=
  { s with phase := Function.update s.phase i p }

/-- `self._upstreams[name].forward(request, credential)`. -/
def call (s : RouterState Time Id) (i : Id) (upstream : String) : RouterState Time Id :=
  { turn s i (.forwarded upstream) with history := .forwarded i upstream s.now :: s.history }

theorem turn_phase (s : RouterState Time Id) (i : Id) (p : RoutePhase) :
    (turn s i p).phase i = p := Function.update_self ..

theorem turn_phase_of_ne (s : RouterState Time Id) {i j : Id} (h : j ≠ i) (p : RoutePhase) :
    (turn s i p).phase j = s.phase j := Function.update_of_ne h ..

theorem call_phase (s : RouterState Time Id) (i : Id) (upstream : String) :
    (call s i upstream).phase i = .forwarded upstream := turn_phase s i (.forwarded upstream)

theorem call_phase_of_ne (s : RouterState Time Id) {i j : Id} (h : j ≠ i) (upstream : String) :
    (call s i upstream).phase j = s.phase j := turn_phase_of_ne s h (.forwarded upstream)

theorem turn_turn (s : RouterState Time Id) (i : Id) (p q : RoutePhase) :
    turn (turn s i p) i q = turn s i q := by
  simp only [turn, Function.update_idem]

def release (s : RouterState Time Id) (locked : Bool) : RouterState Time Id :=
  { s with lock := if locked then none else s.lock }

variable [Add Time]

/-- The assignments of `_routes` and `_routes_expire_at`. -/
def install (s : RouterState Time Id) (i : Id) (answers : List Answer)
    (merged : List Dict) (routes : List (String × String)) : RouterState Time Id :=
  { s with
    routes
    expireAt := s.now + router.cacheTtl
    history := .refreshed { task := i, results := answers, merged, routes, completed := s.now } ::
      s.history }

/-- What follows the last answer, to the end of `_list` or to the call of `_call`. -/
def complete (s : RouterState Time Id) (i : Id) (locked : Bool) (answers : List Answer) :
    RouterState Time Id :=
  match router.refreshResult answers with
  | .error e => release (turn s i (.raised e)) locked
  | .ok (merged, routes) =>
    let s' := router.install s i answers merged routes
    if locked then
      match routes.lookup (calledTool (router.request i)) with
      | some upstream => release (call s' i upstream) locked
      | none =>
        release (turn s' i (.raised (unknownTool router.upstreams
          (calledTool (router.request i))))) locked
    else turn s' i (.listed merged)

variable {router} in
/-- A fan-out that every upstream failed raises and leaves the table and its expiry alone. -/
theorem complete_of_failed {s : RouterState Time Id} {i : Id} {locked : Bool} {answers : List Answer}
    (hlength : answers.length = router.upstreams.length)
    (hfailed : ∀ a ∈ answers, Answer.failed a = true) :
    (router.complete s i locked answers).routes = s.routes ∧
      (router.complete s i locked answers).expireAt = s.expireAt ∧
      ∃ message, (router.complete s i locked answers).phase i = .raised (.upstream message) := by
  obtain ⟨message, hresult⟩ := (router.refreshResult_error_iff hlength).mpr hfailed
  rw [RoutingMCPUpstream.complete, hresult]
  refine ⟨rfl, rfl, message, ?_⟩
  simp only [RoutingMCPUpstream.release, RoutingMCPUpstream.turn, Function.update_self]

variable {router} in
/-- A fan-out that some upstream answered puts its merge in place of the table, whatever its caller
goes on to do, and touches no other task. -/
theorem complete_of_ok (s : RouterState Time Id) (i : Id) (locked : Bool) {answers : List Answer}
    {merged : List Dict} {routes : List (String × String)}
    (hresult : router.refreshResult answers = .ok (merged, routes)) :
    (router.complete s i locked answers).routes = routes ∧
      (router.complete s i locked answers).expireAt = s.now + router.cacheTtl ∧
      (router.complete s i locked answers).now = s.now ∧
      ∀ j, j ≠ i → (router.complete s i locked answers).phase j = s.phase j := by
  simp only [RoutingMCPUpstream.complete, hresult]
  cases locked with
  | false => exact ⟨rfl, rfl, rfl, fun j hj => turn_phase_of_ne _ hj _⟩
  | true =>
    simp only [if_true]
    cases routes.lookup (calledTool (router.request i)) with
    | some upstream => exact ⟨rfl, rfl, rfl, fun j hj => turn_phase_of_ne _ hj _⟩
    | none => exact ⟨rfl, rfl, rfl, fun j hj => turn_phase_of_ne _ hj _⟩

end Moves

section Order

variable [LinearOrder Time]

/-- The upstream the table gives while it has not expired. -/
def cachedRoute (s : RouterState Time Id) (tool : String) : Option String :=
  if s.now < s.expireAt then s.routes.lookup tool else none

variable [Add Time] [DecidableEq Id]

def pending : List (Option Answer) := router.upstreams.map fun _ => none

def next (s : RouterState Time Id) : RouterStep Time Id → Option (RouterState Time Id)
  | .tick time => if s.now ≤ time then some { s with now := time } else none
  | .enter i =>
    match s.phase i with
    | .idle =>
      if (router.request i).method = "tools/list" then
        some (turn s i (.gathering false router.pending))
      else
        match cachedRoute s (calledTool (router.request i)) with
        | some upstream => some (call s i upstream)
        | none => some (turn s i .waiting)
    | _ => none
  | .acquire i =>
    match s.phase i, s.lock with
    | .waiting, none =>
      -- another caller may have refreshed while this one waited
      match cachedRoute s (calledTool (router.request i)) with
      | some upstream => some (call s i upstream)
      | none => some { turn s i (.gathering true router.pending) with lock := some i }
    | _, _ => none
  | .answer i k a =>
    match s.phase i with
    | .gathering locked results =>
      if results[k]? = some none then
        some (turn s i (.gathering locked (results.set k (some a))))
      else none
    | _ => none
  | .finish i =>
    match s.phase i with
    | .gathering locked results =>
      match gathered results with
      | some answers => some (router.complete s i locked answers)
      | none => none
    | _ => none
  | .cancel i =>
    match s.phase i with
    | .waiting => some (turn s i (.raised cancelled))
    | .gathering locked _ => some (release (turn s i (.raised cancelled)) locked)
    | _ => none

section NextLemmas

variable {router} {s : RouterState Time Id} {i : Id}

theorem next_enter_listing (hphase : s.phase i = .idle)
    (hlist : (router.request i).method = "tools/list") :
    router.next s (.enter i) = some (turn s i (.gathering false router.pending)) := by
  simp only [next, hphase, if_pos hlist]

theorem next_enter_cached (hphase : s.phase i = .idle)
    (hcall : (router.request i).method ≠ "tools/list") {upstream : String}
    (hroute : cachedRoute s (calledTool (router.request i)) = some upstream) :
    router.next s (.enter i) = some (call s i upstream) := by
  simp only [next, hphase, if_neg hcall, hroute]

theorem next_enter_miss (hphase : s.phase i = .idle)
    (hcall : (router.request i).method ≠ "tools/list")
    (hroute : cachedRoute s (calledTool (router.request i)) = none) :
    router.next s (.enter i) = some (turn s i .waiting) := by
  simp only [next, hphase, if_neg hcall, hroute]

theorem next_acquire_miss (hphase : s.phase i = .waiting) (hlock : s.lock = none)
    (hroute : cachedRoute s (calledTool (router.request i)) = none) :
    router.next s (.acquire i) =
      some { turn s i (.gathering true router.pending) with lock := some i } := by
  simp only [next, hphase, hlock, hroute]

theorem next_answer {locked : Bool} {results : List (Option Answer)}
    (hphase : s.phase i = .gathering locked results) {k : ℕ} (hk : results[k]? = some none)
    (a : Answer) :
    router.next s (.answer i k a) = some (turn s i (.gathering locked (results.set k (some a)))) := by
  simp only [next, hphase, if_pos hk]

theorem next_finish {locked : Bool} {answers : List Answer}
    (hphase : s.phase i = .gathering locked (answers.map some)) :
    router.next s (.finish i) = some (router.complete s i locked answers) := by
  have hgathered : gathered (answers.map some) = some answers := gathered_eq_some.mpr rfl
  simp only [next, hphase, hgathered]

end NextLemmas

/-- All that a step can do, with the state that lets it. -/
inductive Move (s : RouterState Time Id) : RouterStep Time Id → RouterState Time Id → Prop
  | tick {time : Time} (hle : s.now ≤ time) : Move s (.tick time) { s with now := time }
  | list {i : Id} (hphase : s.phase i = .idle) (hlist : (router.request i).method = "tools/list") :
      Move s (.enter i) (turn s i (.gathering false router.pending))
  | cached {i : Id} {upstream : String} (hphase : s.phase i = .idle)
      (hcall : (router.request i).method ≠ "tools/list")
      (hroute : cachedRoute s (calledTool (router.request i)) = some upstream) :
      Move s (.enter i) (call s i upstream)
  | queue {i : Id} (hphase : s.phase i = .idle)
      (hcall : (router.request i).method ≠ "tools/list") : Move s (.enter i) (turn s i .waiting)
  | recheck {i : Id} {upstream : String} (hphase : s.phase i = .waiting)
      (hroute : cachedRoute s (calledTool (router.request i)) = some upstream) :
      Move s (.acquire i) (call s i upstream)
  | refresh {i : Id} (hphase : s.phase i = .waiting) (hlock : s.lock = none) :
      Move s (.acquire i) { turn s i (.gathering true router.pending) with lock := some i }
  | answer {i : Id} {k : ℕ} {a : Answer} {locked : Bool} {results : List (Option Answer)}
      (hphase : s.phase i = .gathering locked results) :
      Move s (.answer i k a) (turn s i (.gathering locked (results.set k (some a))))
  | finish {i : Id} {locked : Bool} {answers : List Answer}
      (hphase : s.phase i = .gathering locked (answers.map some)) :
      Move s (.finish i) (router.complete s i locked answers)
  | leave {i : Id} (hphase : s.phase i = .waiting) :
      Move s (.cancel i) (turn s i (.raised cancelled))
  | abandon {i : Id} {locked : Bool} {results : List (Option Answer)}
      (hphase : s.phase i = .gathering locked results) :
      Move s (.cancel i) (release (turn s i (.raised cancelled)) locked)

variable {router} in
theorem move_of_next {s s' : RouterState Time Id} {l : RouterStep Time Id}
    (h : router.next s l = some s') : router.Move s l s' := by
  cases l with
  | tick time =>
    simp only [next] at h
    split_ifs at h with hle
    cases h
    exact .tick hle
  | enter i =>
    simp only [next] at h
    split at h
    case h_2 => cases h
    case h_1 hphase =>
      split_ifs at h with hlist
      · cases h
        exact .list hphase hlist
      · split at h
        case h_1 upstream hroute =>
          cases h
          exact .cached hphase hlist hroute
        case h_2 =>
          cases h
          exact .queue hphase hlist
  | acquire i =>
    simp only [next] at h
    split at h
    case h_2 => cases h
    case h_1 hphase hlock =>
      split at h
      case h_1 upstream hroute =>
        cases h
        exact .recheck hphase hroute
      case h_2 =>
        cases h
        exact .refresh hphase hlock
  | answer i k a =>
    simp only [next] at h
    split at h
    case h_2 => cases h
    case h_1 locked results hphase =>
      split_ifs at h
      cases h
      exact .answer hphase
  | finish i =>
    simp only [next] at h
    split at h
    case h_2 => cases h
    case h_1 locked results hphase =>
      split at h
      case h_2 => cases h
      case h_1 answers hgathered =>
        cases h
        rw [gathered_eq_some.mp hgathered] at hphase
        exact .finish hphase
  | cancel i =>
    simp only [next] at h
    split at h
    case h_3 => cases h
    case h_1 hphase =>
      cases h
      exact .leave hphase
    case h_2 locked results hphase =>
      cases h
      exact .abandon hphase

/-- Every interleaving of the calls and every order of the answers. -/
def system [Zero Time] : System (RouterState Time Id) (RouterStep Time Id) where
  start := fun s => ∃ time, s = initial time
  step := fun s l s' => router.next s l = some s'

end Order

/-! ## The invariant -/

/-- The refresh that completed last. -/
def lastRefresh (history : History Time Id) : Option (Refresh Time Id) :=
  history.findSome? fun e =>
    match e with
    | .refreshed r => some r
    | .forwarded _ _ _ => none

def RouterEvent.calledBy : RouterEvent Time Id → Option Id
  | .refreshed _ => none
  | .forwarded i _ _ => some i

theorem mem_of_lastRefresh {history : History Time Id} {r : Refresh Time Id}
    (h : lastRefresh history = some r) : .refreshed r ∈ history := by
  obtain ⟨e, he, hr⟩ := List.exists_of_findSome?_eq_some h
  cases e with
  | refreshed r' =>
    cases hr
    exact he
  | forwarded i upstream time => cases hr

/-- The results are those of one fan-out over every upstream, and their merge is what was kept. -/
def Refreshed (r : Refresh Time Id) : Prop :=
  r.results.length = router.upstreams.length ∧
    router.refreshResult r.results = .ok (r.merged, r.routes)

/-- What a phase of `i` says about the rest of the state. -/
def PhaseOk (s : RouterState Time Id) (i : Id) : RoutePhase → Prop
  | .idle => True
  | .gathering locked results =>
    results.length = router.upstreams.length ∧ (locked = true → s.lock = some i) ∧
      (locked = false ↔ (router.request i).method = "tools/list")
  | .waiting => (router.request i).method ≠ "tools/list"
  | .listed tools =>
    (router.request i).method = "tools/list" ∧
      ∃ r, .refreshed r ∈ s.history ∧ r.task = i ∧ r.merged = tools
  | .forwarded upstream =>
    (router.request i).method ≠ "tools/list" ∧ ∃ time, .forwarded i upstream time ∈ s.history
  | .raised _ => True

variable {router} in
/-- A longer record, and a lock that its holder keeps, leave what a phase says as it is. -/
theorem PhaseOk.mono {s s' : RouterState Time Id} {i : Id} {p : RoutePhase}
    (h : router.PhaseOk s i p) (hhistory : ∀ e ∈ s.history, e ∈ s'.history)
    (hlock : s.lock = some i → s'.lock = some i) : router.PhaseOk s' i p := by
  cases p with
  | idle => trivial
  | gathering locked results => exact ⟨h.1, fun hlocked => hlock (h.2.1 hlocked), h.2.2⟩
  | waiting => exact h
  | listed tools =>
    obtain ⟨hmethod, r, hr, htask, htools⟩ := h
    exact ⟨hmethod, r, hhistory _ hr, htask, htools⟩
  | forwarded upstream =>
    obtain ⟨hmethod, time, hcall⟩ := h
    exact ⟨hmethod, time, hhistory _ hcall⟩
  | raised e => trivial

section Invariant

variable [LinearOrder Time] [Add Time]

/-- A call of `i` at `time`, after `earlier`, goes where the last refresh sends its tool: a refresh of
its own that has just completed, or one that has not expired. -/
def Routed (earlier : History Time Id) (i : Id) (upstream : String) (time : Time) : Prop :=
  ∃ r, lastRefresh earlier = some r ∧
    r.routes.lookup (calledTool (router.request i)) = some upstream ∧
    r.completed ≤ time ∧
      (r.task = i ∧ time = r.completed ∨ time < r.completed + router.cacheTtl)

def Explained : History Time Id → Prop
  | [] => True
  | .refreshed r :: earlier => router.Refreshed r ∧ Explained earlier
  | .forwarded i upstream time :: earlier =>
    router.Routed earlier i upstream time ∧ Explained earlier

/-- The table is the one of the last refresh. -/
def Table (s : RouterState Time Id) : Prop :=
  match lastRefresh s.history with
  | none => s.routes = []
  | some r =>
    s.routes = r.routes ∧ s.expireAt = r.completed + router.cacheTtl ∧ r.completed ≤ s.now

structure Consistent (s : RouterState Time Id) : Prop where
  table : router.Table s
  explained : router.Explained s.history
  phases : ∀ i, router.PhaseOk s i (s.phase i)
  called : ∀ i upstream time, .forwarded i upstream time ∈ s.history →
    s.phase i = .forwarded upstream
  once : (s.history.filterMap RouterEvent.calledBy).Nodup

variable {router} {s : RouterState Time Id}

theorem Consistent.initial [Zero Time] (time : Time) :
    router.Consistent (RoutingMCPUpstream.initial time : RouterState Time Id) where
  table := rfl
  explained := trivial
  phases := fun _ => trivial
  called := fun _ _ _ h => absurd h List.not_mem_nil
  once := List.nodup_nil

theorem Consistent.tick (h : router.Consistent s) {time : Time} (hle : s.now ≤ time) :
    router.Consistent { s with now := time } where
  table := by
    have htable := h.table
    unfold Table at htable ⊢
    split at htable
    case h_1 hlast =>
      simp only [hlast]
      exact htable
    case h_2 r hlast =>
      simp only [hlast]
      exact ⟨htable.1, htable.2.1, le_trans htable.2.2 hle⟩
  explained := h.explained
  phases := fun i => (h.phases i).mono (fun e he => he) id
  called := h.called
  once := h.once

/-- A fresh cached route is one the last refresh explains. -/
theorem Consistent.routed (h : router.Consistent s) {i : Id} {upstream : String}
    (hroute : cachedRoute s (calledTool (router.request i)) = some upstream) :
    router.Routed s.history i upstream s.now := by
  simp only [cachedRoute] at hroute
  split_ifs at hroute with hnow
  have htable := h.table
  unfold Table at htable
  split at htable
  case h_1 hlast =>
    rw [htable] at hroute
    cases hroute
  case h_2 r hlast =>
    obtain ⟨hroutes, hexpire, hcompleted⟩ := htable
    rw [hroutes] at hroute
    rw [hexpire] at hnow
    exact ⟨r, hlast, hroute, hcompleted, Or.inr hnow⟩

theorem Consistent.release (h : router.Consistent s) {i : Id} {locked : Bool}
    (hlock : locked = true → s.lock = some i)
    (hphase : ∀ results, s.phase i ≠ .gathering true results) :
    router.Consistent (RoutingMCPUpstream.release s locked) where
  table := h.table
  explained := h.explained
  phases := by
    intro j
    have hj := h.phases j
    cases locked with
    | false => exact hj
    | true =>
      simp only [RoutingMCPUpstream.release]
      cases hp : s.phase j with
      | gathering held results =>
        rw [hp] at hj
        refine ⟨hj.1, ?_, hj.2.2⟩
        intro hheld
        subst hheld
        have hji : some j = some i := (hj.2.1 rfl).symm.trans (hlock rfl)
        cases hji
        exact absurd hp (hphase results)
      | _ =>
        rw [hp] at hj
        exact hj
  called := h.called
  once := h.once

theorem Consistent.install (h : router.Consistent s) {i : Id} {answers : List Answer}
    {merged : List Dict} {routes : List (String × String)}
    (hlength : answers.length = router.upstreams.length)
    (hok : router.refreshResult answers = .ok (merged, routes)) :
    router.Consistent (router.install s i answers merged routes) where
  table := ⟨rfl, rfl, le_refl s.now⟩
  explained := ⟨⟨hlength, hok⟩, h.explained⟩
  phases := fun j => (h.phases j).mono (fun e he => List.mem_cons_of_mem _ he) id
  called := by
    intro j upstream time hmem
    obtain heq | hmem := List.mem_cons.mp hmem
    · cases heq
    · exact h.called j upstream time hmem
  once := h.once

theorem Explained.refreshed {history : History Time Id} (h : router.Explained history)
    {r : Refresh Time Id} (hr : .refreshed r ∈ history) : router.Refreshed r := by
  induction history with
  | nil => cases hr
  | cons e earlier ih =>
    cases e with
    | refreshed r' =>
      obtain heq | hmem := List.mem_cons.mp hr
      · cases heq
        exact h.1
      · exact ih h.2 hmem
    | forwarded i upstream time =>
      obtain heq | hmem := List.mem_cons.mp hr
      · cases heq
      · exact ih h.2 hmem

theorem Explained.earlier {later earlier : History Time Id}
    (h : router.Explained (later ++ earlier)) : router.Explained earlier := by
  induction later with
  | nil => exact h
  | cons e later ih =>
    cases e with
    | refreshed r => exact ih h.2
    | forwarded i upstream time => exact ih h.2

/-- A recorded call goes to the first upstream that advertised its tool to the refresh completed last
before it, and that refresh was its own, just completed, or within its TTL. -/
theorem Consistent.forwarded (h : router.Consistent s) {later earlier : History Time Id} {i : Id}
    {upstream : String} {time : Time}
    (hhistory : s.history = later ++ .forwarded i upstream time :: earlier) :
    ∃ r tool, lastRefresh earlier = some r ∧
      advertised (router.named r.results) (calledTool (router.request i)) = some (upstream, tool) ∧
      r.completed ≤ time ∧
        (r.task = i ∧ time = r.completed ∨ time < r.completed + router.cacheTtl) := by
  have hexplained := h.explained
  rw [hhistory] at hexplained
  obtain ⟨⟨r, hlast, hroute, hcompleted, hage⟩, hearlier⟩ := hexplained.earlier
  have hmerged := router.refreshResult_ok (hearlier.refreshed (mem_of_lastRefresh hlast)).2
  rw [hmerged.routed, Option.map_eq_some_iff] at hroute
  obtain ⟨⟨up, tool⟩, hadvertised, rfl⟩ := hroute
  exact ⟨r, tool, hlast, hadvertised, hcompleted, hage⟩

theorem Consistent.forwarded_once (h : router.Consistent s) {later earlier : History Time Id} {i : Id}
    {upstream : String} {time : Time}
    (hhistory : s.history = later ++ .forwarded i upstream time :: earlier) (upstream' : String)
    (time' : Time) : .forwarded i upstream' time' ∉ later ++ earlier := by
  intro hmem
  have honce := h.once
  have hby : RouterEvent.calledBy (.forwarded i upstream time : RouterEvent Time Id) = some i := rfl
  rw [hhistory, List.filterMap_append, List.filterMap_cons_some hby, List.nodup_middle,
    List.nodup_cons, ← List.filterMap_append] at honce
  exact honce.1 (List.mem_filterMap.mpr ⟨_, hmem, rfl⟩)

variable [DecidableEq Id]

/-- A move of a task that has not been forwarded, to a phase that says nothing new. -/
theorem Consistent.turn (h : router.Consistent s) {i : Id} {p : RoutePhase}
    (hnot : ∀ upstream, s.phase i ≠ .forwarded upstream) (hp : router.PhaseOk s i p) :
    router.Consistent (RoutingMCPUpstream.turn s i p) where
  table := h.table
  explained := h.explained
  phases := by
    intro j
    by_cases hj : j = i
    · subst hj
      simp only [turn_phase]
      exact hp.mono (fun e he => he) id
    · simp only [turn_phase_of_ne s hj]
      exact (h.phases j).mono (fun e he => he) id
  called := by
    intro j upstream time hmem
    have hcalled := h.called j upstream time hmem
    by_cases hj : j = i
    · subst hj
      exact absurd hcalled (hnot upstream)
    · simp only [turn_phase_of_ne s hj]
      exact hcalled
  once := h.once

theorem Consistent.call (h : router.Consistent s) {i : Id} {upstream : String}
    (hnot : ∀ upstream, s.phase i ≠ .forwarded upstream)
    (hmethod : (router.request i).method ≠ "tools/list")
    (hrouted : router.Routed s.history i upstream s.now) :
    router.Consistent (RoutingMCPUpstream.call s i upstream) where
  table := h.table
  explained := ⟨hrouted, h.explained⟩
  phases := by
    intro j
    by_cases hj : j = i
    · subst hj
      simp only [call_phase]
      exact ⟨hmethod, s.now, List.mem_cons_self⟩
    · simp only [call_phase_of_ne s hj]
      exact (h.phases j).mono (fun e he => List.mem_cons_of_mem _ he) id
  called := by
    intro j upstream' time hmem
    obtain heq | hmem := List.mem_cons.mp hmem
    · cases heq
      simp only [call_phase]
    · have hcalled := h.called j upstream' time hmem
      by_cases hj : j = i
      · subst hj
        exact absurd hcalled (hnot upstream')
      · simp only [call_phase_of_ne s hj]
        exact hcalled
  once := by
    have hcalledBy : RouterEvent.calledBy (.forwarded i upstream s.now : RouterEvent Time Id) =
        some i := rfl
    simp only [RoutingMCPUpstream.call]
    rw [List.filterMap_cons_some hcalledBy, List.nodup_cons]
    refine ⟨?_, h.once⟩
    intro hmem
    obtain ⟨e, he, hby⟩ := List.mem_filterMap.mp hmem
    cases e with
    | refreshed r => cases hby
    | forwarded j upstream' time =>
      cases hby
      exact hnot upstream' (h.called _ upstream' time he)

theorem Consistent.acquire (h : router.Consistent s) {i : Id} (hphase : s.phase i = .waiting)
    (hlock : s.lock = none) :
    router.Consistent
      { RoutingMCPUpstream.turn s i (.gathering true router.pending) with lock := some i } where
  table := h.table
  explained := h.explained
  phases := by
    intro j
    by_cases hj : j = i
    · subst hj
      have hmethod := h.phases j
      rw [hphase] at hmethod
      simp only [turn_phase]
      exact ⟨List.length_map _, fun _ => rfl, iff_of_false (by decide) hmethod⟩
    · simp only [turn_phase_of_ne s hj]
      refine (h.phases j).mono (fun e he => he) ?_
      intro hheld
      rw [hlock] at hheld
      cases hheld
  called := by
    intro j upstream time hmem
    have hj := h.called j upstream time hmem
    by_cases hji : j = i
    · subst hji
      rw [hphase] at hj
      cases hj
    · simp only [turn_phase_of_ne s hji]
      exact hj
  once := h.once

/-- What follows the last answer keeps the invariant, whether the refresh raises, lists or routes. -/
theorem Consistent.complete (h : router.Consistent s) {i : Id} {locked : Bool}
    {answers : List Answer} (hphase : s.phase i = .gathering locked (answers.map some)) :
    router.Consistent (router.complete s i locked answers) := by
  obtain ⟨hlength, hheld, hkind⟩ :
      router.PhaseOk s i (.gathering locked (answers.map some)) := hphase ▸ h.phases i
  rw [List.length_map] at hlength
  have hnot : ∀ upstream, s.phase i ≠ .forwarded upstream := by
    intro upstream hforwarded
    rw [hphase] at hforwarded
    cases hforwarded
  have hturned : ∀ (s' : RouterState Time Id) (p : RoutePhase), s'.lock = s.lock →
      (∀ results, p ≠ .gathering true results) →
      router.Consistent (RoutingMCPUpstream.turn s' i p) →
      router.Consistent (RoutingMCPUpstream.release (RoutingMCPUpstream.turn s' i p) locked) := by
    intro s' p hlock hp hconsistent
    refine hconsistent.release (fun hlocked => hlock.trans (hheld hlocked)) ?_
    intro results
    simp only [turn_phase]
    exact hp results
  unfold RoutingMCPUpstream.complete
  cases hresult : router.refreshResult answers with
  | error e => exact hturned s _ rfl nofun (h.turn hnot trivial)
  | ok result =>
    obtain ⟨merged, routes⟩ := result
    have hinstalled := h.install (i := i) hlength hresult
    cases locked with
    | false =>
      refine hinstalled.turn hnot ⟨hkind.mp rfl, _, List.mem_cons_self, rfl, rfl⟩
    | true =>
      have hmethod : (router.request i).method ≠ "tools/list" := fun hlist =>
        absurd (hkind.mpr hlist) (by decide)
      simp only [if_true]
      cases hroute : routes.lookup (calledTool (router.request i)) with
      | none => exact hturned _ _ rfl nofun (hinstalled.turn hnot trivial)
      | some upstream =>
        have hcalled := hinstalled.call hnot hmethod
          ⟨_, rfl, hroute, le_refl s.now, Or.inl ⟨rfl, rfl⟩⟩
        refine hcalled.release (fun hlocked => hheld hlocked) ?_
        intro results
        simp only [call_phase]
        nofun

theorem Consistent.next (h : router.Consistent s) {l : RouterStep Time Id}
    {s' : RouterState Time Id} (hstep : router.next s l = some s') : router.Consistent s' := by
  cases move_of_next hstep with
  | tick hle => exact h.tick hle
  | list hphase hlist =>
    exact h.turn (by simp [hphase]) ⟨List.length_map _, nofun, iff_of_true rfl hlist⟩
  | cached hphase hcall hroute => exact h.call (by simp [hphase]) hcall (h.routed hroute)
  | queue hphase hcall => exact h.turn (by simp [hphase]) hcall
  | @recheck i upstream hphase hroute =>
    have hcall : router.PhaseOk s i .waiting := hphase ▸ h.phases i
    exact h.call (by simp [hphase]) hcall (h.routed hroute)
  | refresh hphase hlock => exact h.acquire hphase hlock
  | @answer i k a locked results hphase =>
    obtain ⟨hlength, hrest⟩ : router.PhaseOk s i (.gathering locked results) := hphase ▸ h.phases i
    exact h.turn (by simp [hphase]) ⟨(List.length_set).trans hlength, hrest⟩
  | finish hphase => exact h.complete hphase
  | leave hphase => exact h.turn (by simp [hphase]) trivial
  | @abandon i locked results hphase =>
    obtain ⟨-, hheld, -⟩ : router.PhaseOk s i (.gathering locked results) := hphase ▸ h.phases i
    have hturned : router.Consistent (RoutingMCPUpstream.turn s i (.raised cancelled)) :=
      h.turn (by simp [hphase]) trivial
    refine hturned.release hheld ?_
    intro results'
    simp only [turn_phase]
    nofun

theorem consistent_of_reachable [Zero Time] (h : router.system.Reachable s) :
    router.Consistent s := by
  refine h.invariant ?_ ?_
  · rintro s ⟨time, rfl⟩
    exact .initial time
  · intro s l s' _ hs hstep
    exact hs.next hstep

/-! ## The routing table -/

/-- The routing table through every interleaving: what each refresh merged, which refresh the table
comes from, what a listing returned, where each call went, and what a failed refresh leaves. -/
theorem routing_table_invariant [Zero Time] (h : router.system.Reachable s) :
    (∀ r, .refreshed r ∈ s.history →
      r.results.length = router.upstreams.length ∧
        MergedFrom (router.named r.results) r.merged r.routes) ∧
    (∀ r, lastRefresh s.history = some r →
      s.routes = r.routes ∧ s.expireAt = r.completed + router.cacheTtl) ∧
    (∀ i tools, s.phase i = .listed tools → ∃ r, .refreshed r ∈ s.history ∧ r.task = i ∧
      r.merged = tools) ∧
    (∀ later i upstream time earlier, s.history = later ++ .forwarded i upstream time :: earlier →
      (router.request i).method ≠ "tools/list" ∧ s.phase i = .forwarded upstream ∧
      (∀ upstream' time', .forwarded i upstream' time' ∉ later ++ earlier) ∧
      ∃ r tool, lastRefresh earlier = some r ∧
        advertised (router.named r.results) (calledTool (router.request i)) =
          some (upstream, tool) ∧
        r.completed ≤ time ∧
          (r.task = i ∧ time = r.completed ∨ time < r.completed + router.cacheTtl)) ∧
    (∀ i upstream, s.phase i = .forwarded upstream →
      ∃ time, .forwarded i upstream time ∈ s.history) ∧
    ∀ i locked (answers : List Answer) s', s.phase i = .gathering locked (answers.map some) →
      (∀ a ∈ answers, Answer.failed a = true) → router.system.step s (.finish i) s' →
      s'.routes = s.routes ∧ s'.expireAt = s.expireAt ∧
        ∃ message, s'.phase i = .raised (.upstream message) := by
  have hs := consistent_of_reachable h
  refine ⟨?_, ?_, ?_, ?_, ?_, ?_⟩
  · intro r hr
    obtain ⟨hlength, hok⟩ := hs.explained.refreshed hr
    exact ⟨hlength, router.refreshResult_ok hok⟩
  · intro r hr
    have htable := hs.table
    unfold Table at htable
    rw [hr] at htable
    exact ⟨htable.1, htable.2.1⟩
  · intro i tools hphase
    have hlisted := hs.phases i
    rw [hphase] at hlisted
    exact hlisted.2
  · intro later i upstream time earlier hhistory
    have hmem : .forwarded i upstream time ∈ s.history := by
      rw [hhistory]
      exact List.mem_append_right later List.mem_cons_self
    have hphase := hs.called i upstream time hmem
    have hforwarded := hs.phases i
    rw [hphase] at hforwarded
    exact ⟨hforwarded.1, hphase, hs.forwarded_once hhistory, hs.forwarded hhistory⟩
  · intro i upstream hphase
    have hforwarded := hs.phases i
    rw [hphase] at hforwarded
    exact hforwarded.2
  · intro i locked answers s' hphase hfailed hstep
    have hpending := hs.phases i
    rw [hphase] at hpending
    have hlength : answers.length = router.upstreams.length := by
      rw [← hpending.1, List.length_map]
    have hcomplete : some (router.complete s i locked answers) = some s' :=
      (next_finish hphase).symm.trans hstep
    rw [← Option.some.inj hcomplete]
    exact complete_of_failed hlength hfailed

end Invariant

/-! ## A fleet of two -/

inductive Caller
  | lister
  | caller
deriving DecidableEq

/-- A reply that lists tools of these names. -/
def listingReply (names : List String) : Dict :=
  [("jsonrpc", .str "2.0"),
    ("result", .obj [("tools", .arr (names.map fun name => .obj [("name", .str name)]))])]

/-- One caller lists, another calls `read_query`, each with its own credential. -/
def fleet : RoutingMCPUpstream ℕ Caller where
  upstreams := ["finance", "crm"]
  cacheTtl := 300
  request
    | .lister => { method := "tools/list", agent := fixedAgent }
    | .caller => { method := "tools/call", toolName := some "read_query", agent := fixedAgent }
  credential
    | .lister => "token-a"
    | .caller => "token-b"
  text
    | .upstream message => message
    | _ => ""
  distinct := by decide
  nonempty := by decide

/-- The lister refreshes the table, its upstreams answering in either order; the caller is then
routed by it. -/
theorem fleet_run : ∃ steps s, fleet.system.Run steps s ∧
    s.history.head? = some (.forwarded .caller "crm" 0) ∧
    (lastRefresh s.history).map Refresh.routes = some [("read_query", "crm")] ∧
    steps.map Prod.snd =
      [.enter .caller, .finish .lister, .answer .lister 0 (.ok (listingReply [])),
        .answer .lister 1 (.ok (listingReply ["read_query"])), .enter .lister] := by
  have h0 : fleet.system.Run [] _ := .start ⟨0, rfl⟩
  have h1 : fleet.system.Run _ _ :=
    .step h0 (show fleet.next _ (.enter .lister) = some _ from rfl)
  have h2 : fleet.system.Run _ _ :=
    .step h1 (show fleet.next _ (.answer .lister 1 (.ok (listingReply ["read_query"]))) = some _
      from rfl)
  have h3 : fleet.system.Run _ _ :=
    .step h2 (show fleet.next _ (.answer .lister 0 (.ok (listingReply []))) = some _ from rfl)
  have h4 : fleet.system.Run _ _ :=
    .step h3 (show fleet.next _ (.finish .lister) = some _ from rfl)
  have h5 : fleet.system.Run _ _ :=
    .step h4 (show fleet.next _ (.enter .caller) = some _ from rfl)
  exact ⟨_, _, h5, rfl, rfl, rfl⟩

theorem fleet_table : ∃ s, fleet.system.Reachable s ∧
    s.history.head? = some (.forwarded .caller "crm" 0) ∧
    ∀ r, lastRefresh s.history = some r →
      s.routes = r.routes ∧ s.expireAt = r.completed + fleet.cacheTtl := by
  obtain ⟨steps, s, hrun, hhead, -⟩ := fleet_run
  exact ⟨s, hrun.reachable, hhead, (routing_table_invariant hrun.reachable).2.1⟩

end RoutingMCPUpstream

end OpenAgentControl
