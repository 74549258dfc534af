import OpenAgentControl.Adapters.McpUpstream.Routing

/-! # Unknown tools and unreachable upstreams

What a call is told when nothing it could reach advertises its tool. The report that the tool is
unknown is only ever made by the fan-out of the call itself, under the lock; the main result says for
which answers of that fan-out the report tells an unknown tool from an outage. -/

namespace OpenAgentControl
set_option autoImplicit false
set_option maxHeartbeats 250000

open Foundations

namespace RoutingMCPUpstream

variable {Time Id : Type} (router : RoutingMCPUpstream Time Id)

/-- The report of `_call` that no upstream advertises the tool of `i`. -/
def unknown (i : Id) : Exc := unknownTool router.upstreams (calledTool (router.request i))

/-- The fan-out of the call `i` has all its answers, and none of them advertises the tool. -/
structure Decides (s : RouterState Time Id) (i : Id) (answers : List Answer) : Prop where
  gathered : s.phase i = .gathering true (answers.map some)
  missing : advertised (router.named answers) (calledTool (router.request i)) = none

/-- An error that names each failed upstream with what it raised. -/
def Blames (answers : List Answer) (e : Exc) : Prop :=
  ∃ message, e = .upstream message ∧
    ∀ failure ∈ (router.named answers).filterMap (failureText router.text),
      failure.toList <:+: message.toList

/-- The call is told that its tool is unknown only if every upstream answered, and when some failed
and others answered, its error names those that failed. -/
structure Distinguished (i : Id) (answers : List Answer) (e : Exc) : Prop where
  unknown : e = router.unknown i → ∀ a ∈ answers, Answer.failed a = false
  outage : (∃ a ∈ answers, Answer.failed a = true) → (∃ a ∈ answers, Answer.failed a = false) →
    router.Blames answers e

/-- Every upstream answered, or every upstream failed. -/
def OneSided (answers : List Answer) : Prop :=
  (∀ a ∈ answers, Answer.failed a = false) ∨ ∀ a ∈ answers, Answer.failed a = true

theorem outage_ne_unknown (upstreams : List String) (tool failures : String) :
    (.upstream ("every configured upstream failed — " ++ failures) : Exc) ≠
      unknownTool upstreams tool := by
  intro h
  have hchars := congrArg String.toList (Exc.upstream.inj h)
  simp only [String.toList_append] at hchars
  have hhead := congrArg List.head? hchars
  rw [List.append_assoc, List.append_assoc, List.append_assoc] at hhead
  exact absurd (Option.some.inj hhead) (by decide)

section Steps

variable [Add Time] [DecidableEq Id] {router} {s s' : RouterState Time Id} {i : Id}
  {answers : List Answer}

theorem complete_of_decides (hlength : answers.length = router.upstreams.length)
    (h : router.Decides s i answers) :
    ((∀ a ∈ answers, Answer.failed a = true) ∧ ∃ failures,
      (router.complete s i true answers).phase i =
        .raised (.upstream ("every configured upstream failed — " ++ failures))) ∨
    ((∃ a ∈ answers, Answer.failed a = false) ∧
      (router.complete s i true answers).phase i = .raised (router.unknown i)) := by
  cases hresult : router.refreshResult answers with
  | error e =>
    refine Or.inl ⟨?_, ?_⟩
    · refine (router.refreshResult_error_iff hlength).mp ?_
      simp only [refreshResult] at hresult ⊢
      split_ifs at hresult ⊢ with hguard
      exact ⟨_, rfl⟩
    · have hmessage : ∃ failures,
          e = .upstream ("every configured upstream failed — " ++ failures) := by
        simp only [refreshResult] at hresult
        split_ifs at hresult
        exact ⟨_, (Except.error.inj hresult).symm⟩
      obtain ⟨failures, rfl⟩ := hmessage
      refine ⟨failures, ?_⟩
      rw [complete, hresult]
      exact turn_phase s i _
  | ok result =>
    obtain ⟨merged, routes⟩ := result
    have hlookup : routes.lookup (calledTool (router.request i)) = none := by
      rw [(router.refreshResult_ok hresult).routed, h.missing]
      rfl
    refine Or.inr ⟨?_, ?_⟩
    · by_contra hall
      have hfailed : ∀ a ∈ answers, Answer.failed a = true := by
        intro a ha
        by_contra ha'
        exact hall ⟨a, ha, Bool.eq_false_iff.mpr ha'⟩
      obtain ⟨message, herror⟩ := (router.refreshResult_error_iff hlength).mpr hfailed
      rw [hresult] at herror
      cases herror
    · rw [complete, hresult]
      simp only [if_true, hlookup]
      exact turn_phase _ i _

/-- What a deciding fan-out reports tells an unknown tool from an outage exactly when no upstream
failed in it, or all did. -/
theorem distinguished_of_decides (hlength : answers.length = router.upstreams.length)
    (h : router.Decides s i answers) :
    (∃ e, (router.complete s i true answers).phase i = .raised e ∧
      router.Distinguished i answers e) ↔ OneSided answers := by
  obtain ⟨hfailed, failures, hphase⟩ | ⟨⟨a, ha, hanswered⟩, hphase⟩ :=
    complete_of_decides hlength h
  · refine iff_of_true ⟨_, hphase, ?_, ?_⟩ (Or.inr hfailed)
    · intro hunknown
      exact absurd hunknown (outage_ne_unknown _ _ _)
    · rintro - ⟨a, ha, hanswered⟩
      rw [hfailed a ha] at hanswered
      cases hanswered
  · have hall : (∃ e, (router.complete s i true answers).phase i = .raised e ∧
        router.Distinguished i answers e) ↔ ∀ b ∈ answers, Answer.failed b = false := by
      constructor
      · rintro ⟨e, he, hdistinguished⟩
        rw [hphase] at he
        cases he
        exact hdistinguished.unknown rfl
      · intro hanswers
        refine ⟨_, hphase, fun _ => hanswers, ?_⟩
        rintro ⟨b, hb, hfailed⟩ -
        rw [hanswers b hb] at hfailed
        cases hfailed
    rw [hall]
    constructor
    · exact Or.inl
    · rintro (hanswers | hfailed)
      · exact hanswers
      · rw [hfailed a ha] at hanswered
        cases hanswered

variable [LinearOrder Time]

/-- Only the end of a deciding fan-out tells a call that its tool is unknown. -/
theorem decides_of_unknown (hs : router.Consistent s) {l : RouterStep Time Id}
    (hstep : router.next s l = some s') (hbefore : s.phase i ≠ .raised (router.unknown i))
    (hafter : s'.phase i = .raised (router.unknown i)) :
    l = .finish i ∧ ∃ answers, router.Decides s i answers := by
  have hother : ∀ {j : Id} {p : RoutePhase}, (∀ e, p ≠ .raised e) →
      (turn s j p).phase i ≠ .raised (router.unknown i) := by
    intro j p hp hraised
    by_cases hij : i = j
    · subst hij
      rw [turn_phase] at hraised
      exact hp _ hraised
    · rw [turn_phase_of_ne s hij] at hraised
      exact hbefore hraised
  have hcancelled : ∀ j : Id, (turn s j (.raised cancelled)).phase i ≠
      .raised (router.unknown i) := by
    intro j hraised
    by_cases hij : i = j
    · subst hij
      rw [turn_phase] at hraised
      cases hraised
    · rw [turn_phase_of_ne s hij] at hraised
      exact hbefore hraised
  cases move_of_next hstep with
  | tick hle => exact absurd hafter hbefore
  | list hphase hlist => exact absurd hafter (hother nofun)
  | cached hphase hcall hroute => exact absurd hafter (hother nofun)
  | queue hphase hcall => exact absurd hafter (hother nofun)
  | recheck hphase hroute => exact absurd hafter (hother nofun)
  | refresh hphase hlock => exact absurd hafter (hother nofun)
  | answer hphase => exact absurd hafter (hother nofun)
  | leave hphase => exact absurd hafter (hcancelled _)
  | abandon hphase => exact absurd hafter (hcancelled _)
  | @finish j locked answers hphase =>
    have hlength : answers.length = router.upstreams.length := by
      have hphases : router.PhaseOk s j (.gathering locked (answers.map some)) :=
        hphase ▸ hs.phases j
      rw [← hphases.1, List.length_map]
    by_cases hij : i = j
    · subst hij
      refine ⟨rfl, answers, ?_⟩
      unfold complete at hafter
      cases hresult : router.refreshResult answers with
      | error e =>
        rw [hresult] at hafter
        have he : e = router.unknown i :=
          RoutePhase.raised.inj ((turn_phase s i (.raised e)).symm.trans hafter)
        simp only [refreshResult] at hresult
        split_ifs at hresult
        exact absurd ((Except.error.inj hresult).trans he) (outage_ne_unknown _ _ _)
      | ok result =>
        obtain ⟨merged, routes⟩ := result
        rw [hresult] at hafter
        cases locked with
        | false =>
          have hlisted := (turn_phase (router.install s i answers merged routes) i
            (.listed merged)).symm.trans hafter
          cases hlisted
        | true =>
          refine ⟨hphase, ?_⟩
          have hrouted := (router.refreshResult_ok hresult).routed
            (calledTool (router.request i))
          cases hlookup : routes.lookup (calledTool (router.request i)) with
          | none =>
            rw [hlookup] at hrouted
            exact Option.map_eq_none_iff.mp hrouted.symm
          | some upstream =>
            simp only [if_true, hlookup] at hafter
            have hcalled := (call_phase (router.install s i answers merged routes) i
              upstream).symm.trans hafter
            cases hcalled
    · have hsame : (router.complete s j locked answers).phase i = s.phase i := by
        cases hresult : router.refreshResult answers with
        | error e =>
          rw [complete, hresult]
          exact turn_phase_of_ne s hij _
        | ok result =>
          obtain ⟨merged, routes⟩ := result
          exact (router.complete_of_ok s j locked hresult).2.2.2 i hij
      rw [hsame] at hafter
      exact absurd hafter hbefore

end Steps

/-- Whatever state the fleet and the table are in: a call is told that its tool is unknown by a
fan-out of its own that advertised it nowhere, and what such a fan-out reports tells an unknown tool
from an outage exactly when its upstreams all answered or all failed. -/
theorem unknown_distinguished_iff [LinearOrder Time] [Add Time] [Zero Time] [DecidableEq Id]
    (s s' : RouterState Time Id) (l : RouterStep Time Id) (i : Id)
    (hs : router.system.Reachable s) (hstep : router.system.step s l s') :
    (s.phase i ≠ .raised (router.unknown i) → s'.phase i = .raised (router.unknown i) →
      l = .finish i ∧ ∃ answers, router.Decides s i answers) ∧
    ∀ answers, l = .finish i → router.Decides s i answers →
      ((∃ e, s'.phase i = .raised e ∧ router.Distinguished i answers e) ↔ OneSided answers) := by
  have hconsistent := consistent_of_reachable hs
  refine ⟨decides_of_unknown hconsistent hstep, ?_⟩
  rintro answers rfl hdecides
  have hlength : answers.length = router.upstreams.length := by
    have hphase : router.PhaseOk s i (.gathering true (answers.map some)) :=
      hdecides.gathered ▸ hconsistent.phases i
    rw [← hphase.1, List.length_map]
  have hcomplete : some (router.complete s i true answers) = some s' :=
    (next_finish hdecides.gathered).symm.trans hstep
  rw [← Option.some.inj hcomplete]
  exact distinguished_of_decides hlength hdecides

/-! ## One upstream down -/

def halfDown : List Answer := [.ok (listingReply []), .error (.upstream "crm is down")]

theorem fleet_halfDown : ∃ s s', fleet.system.Reachable s ∧
    fleet.system.step s (.finish .caller) s' ∧ fleet.Decides s .caller halfDown ∧
    s'.phase .caller = .raised (fleet.unknown .caller) := by
  have h0 : fleet.system.Reachable _ := .start ⟨1, rfl⟩
  have h1 : fleet.system.Reachable _ :=
    .step h0 (show fleet.next _ (.enter .caller) = some _ from rfl)
  have h2 : fleet.system.Reachable _ :=
    .step h1 (show fleet.next _ (.acquire .caller) = some _ from rfl)
  have h3 : fleet.system.Reachable _ :=
    .step h2 (show fleet.next _ (.answer .caller 0 (.ok (listingReply []))) = some _ from rfl)
  have h4 : fleet.system.Reachable _ :=
    .step h3 (show fleet.next _ (.answer .caller 1 (.error (.upstream "crm is down"))) = some _
      from rfl)
  exact ⟨_, _, h4, show fleet.next _ (.finish .caller) = some _ from rfl, ⟨rfl, rfl⟩, rfl⟩

theorem fleet_distinguished_iff : ∃ s s' : RouterState ℕ Caller, fleet.Decides s .caller halfDown ∧
    ((∃ e, s'.phase .caller = .raised e ∧ fleet.Distinguished .caller halfDown e) ↔
      OneSided halfDown) := by
  obtain ⟨s, s', hs, hstep, hdecides, -⟩ := fleet_halfDown
  exact ⟨s, s', hdecides,
    (fleet.unknown_distinguished_iff s s' (.finish .caller) .caller hs hstep).2 halfDown rfl
      hdecides⟩

/-- The tool may live on the upstream that is down, and the call is told that it is unknown. -/
theorem halfDown_reported_unknown : ∃ s s', fleet.system.Reachable s ∧
    fleet.system.step s (.finish .caller) s' ∧ fleet.Decides s .caller halfDown ∧
    ¬ ∃ e, s'.phase .caller = .raised e ∧ fleet.Distinguished .caller halfDown e := by
  obtain ⟨s, s', hs, hstep, hdecides, hphase⟩ := fleet_halfDown
  refine ⟨s, s', hs, hstep, hdecides, ?_⟩
  rintro ⟨e, he, hdistinguished⟩
  rw [hphase] at he
  cases he
  have hanswered := hdistinguished.unknown rfl (.error (.upstream "crm is down"))
    (List.mem_cons_of_mem _ List.mem_cons_self)
  cases hanswered

end RoutingMCPUpstream

end OpenAgentControl
