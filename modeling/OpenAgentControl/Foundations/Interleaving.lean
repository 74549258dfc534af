import OpenAgentControl.Foundations.Transition
import Mathlib.Data.List.Infix
import Mathlib.Data.List.Induction

/-! # Parties in front of a shared store

Any number of parties that run at once in front of one store. A party runs a program, step by step: what
is left of it is its state. Where the program asks, the store takes steps for the party, with the query,
until it can answer; then the program goes on as the answer prescribes. The main results, about every
interleaving, are
* `runs_of_reachable`, what a party has done is a run of its program, on answers the store gave it;
* `asked_of_answered`, an answer is given only to a party that has come to its query;
* `store_reachable`, the store goes through runs of its own;
* `Refines.reachable`, a store that can answer whatever another one does lets the parties do whatever
  they do in front of that one. -/

namespace Foundations
set_option autoImplicit false
set_option maxHeartbeats 250000

/-! ## Programs -/

/-- A program that does things and asks for others. -/
inductive Program (Event Query Answer : Type)
  | done
  | perform (e : Event) (rest : Program Event Query Answer)
  | ask (query : Query) (resume : Answer → Program Event Query Answer)

namespace Program

variable {Event Query Answer : Type}

/-- One thing after the other. -/
def performs : List Event → Program Event Query Answer → Program Event Query Answer
  | [], rest => rest
  | e :: events, rest => .perform e (performs events rest)

/-- A program that asks once, after its opening. -/
def once (opening : List Event) (query : Query) (resume : Answer → List Event) :
    Program Event Query Answer :=
  performs opening (.ask query fun a => performs (resume a) .done)

/-- The program has done this, on such answers, and this is left of it. -/
inductive Runs (answered : Answer → Prop) (p : Program Event Query Answer) :
    List Event → Program Event Query Answer → Prop
  | start : Runs answered p [] p
  | perform {done : List Event} {e : Event} {rest : Program Event Query Answer}
      (h : Runs answered p done (.perform e rest)) : Runs answered p (done ++ [e]) rest
  | resume {done : List Event} {query : Query} {k : Answer → Program Event Query Answer} {a : Answer}
      (h : Runs answered p done (.ask query k)) (ha : answered a) : Runs answered p done (k a)

variable {answered answered' : Answer → Prop} {p left : Program Event Query Answer}
variable {opening done : List Event} {query : Query} {resume : Answer → List Event}

theorem Runs.mono (himp : ∀ a, answered a → answered' a) (h : Runs answered p done left) :
    Runs answered' p done left := by
  induction h with
  | start => exact .start
  | perform _ ih => exact .perform ih
  | resume _ ha ih => exact .resume ih (himp _ ha)

/-- What a program without a query has done is a beginning of it. -/
theorem Runs.of_performs (h : Runs answered (performs opening .done) done left) :
    ∃ rest, opening = done ++ rest ∧ left = performs rest .done := by
  induction h with
  | start => exact ⟨opening, rfl, rfl⟩
  | perform _ ih =>
    obtain ⟨rest, hopening, hleft⟩ := ih
    cases rest with
    | nil => cases hleft
    | cons e rest =>
      cases hleft
      exact ⟨rest, by rw [hopening, List.append_assoc]; rfl, rfl⟩
  | resume _ _ ih =>
    obtain ⟨rest, -, hleft⟩ := ih
    cases rest with
    | nil => cases hleft
    | cons e rest => cases hleft

/-- What a program that asks once has done is a beginning of its opening, or its opening and a beginning
of what an answer prescribed. -/
theorem Runs.of_once (h : Runs answered (once opening query resume) done left) :
    (∃ rest, opening = done ++ rest ∧ left = once rest query resume) ∨
      ∃ a rest, answered a ∧ opening ++ resume a = done ++ rest ∧ left = performs rest .done := by
  induction h with
  | start => exact Or.inl ⟨opening, rfl, rfl⟩
  | perform _ ih =>
    obtain ⟨rest, hopening, hleft⟩ | ⟨a, rest, ha, hall, hleft⟩ := ih
    · cases rest with
      | nil => cases hleft
      | cons e rest =>
        cases hleft
        exact Or.inl ⟨rest, by rw [hopening, List.append_assoc]; rfl, rfl⟩
    · cases rest with
      | nil => cases hleft
      | cons e rest =>
        cases hleft
        exact Or.inr ⟨a, rest, ha, by rw [hall, List.append_assoc]; rfl, rfl⟩
  | @resume done query' k a _ ha ih =>
    obtain ⟨rest, hopening, hleft⟩ | ⟨a', rest, -, -, hleft⟩ := ih
    · cases rest with
      | nil =>
        cases hleft
        rw [List.append_nil] at hopening
        exact Or.inr ⟨a, resume a, ha, by rw [hopening], rfl⟩
      | cons e rest => cases hleft
    · cases rest with
      | nil => cases hleft
      | cons e rest => cases hleft

theorem Runs.of_once_ask {query' : Query} {k : Answer → Program Event Query Answer}
    (h : Runs answered (once opening query resume) done (.ask query' k)) :
    done = opening ∧ query' = query := by
  obtain ⟨rest, hopening, hleft⟩ | ⟨a, rest, -, -, hleft⟩ := h.of_once
  · cases rest with
    | nil =>
      cases hleft
      exact ⟨by rw [hopening, List.append_nil], rfl⟩
    | cons e rest => cases hleft
  · cases rest with
    | nil => cases hleft
    | cons e rest => cases hleft

end Program

/-! ## The interleaving -/

/-- `serve q s l s'`: a step that the store takes for the party of `l`, which has asked `q`.
`answers s p a`: in this state the store has settled that `p` may be answered `a`. -/
structure Parties (Party Event Query Answer State Label : Type) where
  program : Party → Program Event Query Answer
  start : State → Prop
  serve : Query → State → Label → State → Prop
  asker : Label → Party
  answers : State → Party → Answer → Prop
  unanswered : ∀ s p a, start s → ¬ answers s p a
  settled : ∀ q s l s' p a, serve q s l s' → answers s p a → answers s' p a
  answered_by : ∀ q s l s' p a, serve q s l s' → answers s' p a → answers s p a ∨ asker l = p

/-- The store, what is left of each program, and what was done so far, by whom. -/
structure JointState (Party Event Query Answer State : Type) where
  store : State
  left : Party → Program Event Query Answer
  log : List (Party × Event)

inductive JointStep (Party Event Answer Label : Type)
  | store (l : Label)
  | perform (p : Party) (e : Event)
  | resume (p : Party) (a : Answer)

variable {Party Event Query Answer State Label : Type}

/-- What one party has done, in order. -/
def JointState.view [DecidableEq Party] (s : JointState Party Event Query Answer State) (p : Party) :
    List Event :=
  (s.log.filter fun e => decide (e.1 = p)).map Prod.snd

namespace Parties

variable [DecidableEq Party] (ps : Parties Party Event Query Answer State Label)

/-- A party takes the next step of its program, or the store one for a party that waits for its answer. -/
inductive Step : JointState Party Event Query Answer State → JointStep Party Event Answer Label →
    JointState Party Event Query Answer State → Prop
  | store {s : JointState Party Event Query Answer State} {l : Label} {query : Query}
      {k : Answer → Program Event Query Answer} {store : State}
      (hleft : s.left (ps.asker l) = .ask query k) (hserve : ps.serve query s.store l store) :
      Step s (.store l) ⟨store, s.left, s.log⟩
  | perform {s : JointState Party Event Query Answer State} {p : Party} {e : Event}
      {rest : Program Event Query Answer} (hleft : s.left p = .perform e rest) :
      Step s (.perform p e) ⟨s.store, Function.update s.left p rest, s.log ++ [(p, e)]⟩
  | resume {s : JointState Party Event Query Answer State} {p : Party} {query : Query}
      {k : Answer → Program Event Query Answer} {a : Answer} (hleft : s.left p = .ask query k)
      (ha : ps.answers s.store p a) :
      Step s (.resume p a) ⟨s.store, Function.update s.left p (k a), s.log⟩

/-- Every interleaving. -/
def system : System (JointState Party Event Query Answer State) (JointStep Party Event Answer Label) where
  start := fun s => ps.start s.store ∧ s.left = ps.program ∧ s.log = []
  step := ps.Step

variable {ps} {s s' : JointState Party Event Query Answer State} {p : Party}

theorem view_performed {q : Party} {e : Event} {store : State}
    {left : Party → Program Event Query Answer} :
    JointState.view ⟨store, left, s.log ++ [(q, e)]⟩ p =
      if q = p then s.view p ++ [e] else s.view p := by
  unfold JointState.view
  rw [List.filter_append, List.map_append, List.filter_singleton]
  by_cases hq : q = p
  · simp [hq]
  · simp [hq]

theorem mem_view {e : Event} : e ∈ s.view p ↔ (p, e) ∈ s.log := by
  unfold JointState.view
  simp

/-- A step logs one event at most. -/
theorem logged_of_step {l : JointStep Party Event Answer Label} (h : ps.Step s l s') :
    s'.log = s.log ∨ ∃ p e, s'.log = s.log ++ [(p, e)] ∧ s'.view p = s.view p ++ [e] := by
  cases h with
  | store _ _ => exact Or.inl rfl
  | perform _ => exact Or.inr ⟨_, _, rfl, view_performed.trans (if_pos rfl)⟩
  | resume _ _ => exact Or.inl rfl

/-- An answer stands. -/
theorem answers_of_step {l : JointStep Party Event Answer Label} (h : ps.Step s l s') {a : Answer}
    (ha : ps.answers s.store p a) : ps.answers s'.store p a := by
  cases h with
  | store _ hserve => exact ps.settled _ _ _ _ _ _ hserve ha
  | perform _ => exact ha
  | resume _ _ => exact ha

theorem answers_of_leads {a : Answer} (h : ps.system.Leads s s') (ha : ps.answers s.store p a) :
    ps.answers s'.store p a := by
  have hkeep : ∀ s l s', ps.system.step s l s' → ps.answers s.store p a →
      ps.answers s'.store p a := fun _ _ _ hstep => answers_of_step hstep
  exact h.keeps hkeep ha

/-- In any interleaving a party, seen alone, runs its own program on answers that it was given. -/
theorem runs_of_reachable (h : ps.system.Reachable s) (p : Party) :
    (ps.program p).Runs (ps.answers s.store p) (s.view p) (s.left p) := by
  induction h with
  | start h =>
    obtain ⟨-, hleft, hlog⟩ := h
    rw [JointState.view, hleft, hlog]
    exact .start
  | @step s s' l _ h ih =>
    have hlater := ih.mono fun a => answers_of_step (p := p) h
    cases h with
    | store _ _ => exact hlater
    | @perform q e rest hleft =>
      rw [view_performed]
      show (ps.program p).Runs (ps.answers s.store p) _ (Function.update s.left q rest p)
      by_cases hq : q = p
      · subst hq
        rw [hleft] at hlater
        rw [if_pos rfl, Function.update_self]
        exact .perform hlater
      · rw [if_neg hq, Function.update_of_ne (Ne.symm hq)]
        exact hlater
    | @resume q query k a hleft ha =>
      show (ps.program p).Runs (ps.answers s.store p) (s.view p) (Function.update s.left q (k a) p)
      by_cases hq : q = p
      · subst hq
        rw [hleft] at hlater
        rw [Function.update_self]
        exact .resume hlater ha
      · rw [Function.update_of_ne (Ne.symm hq)]
        exact hlater

/-- A party that has been answered has come to a query, no later in its program than it is now. -/
theorem asked_of_answered (h : ps.system.Reachable s) {a : Answer} (ha : ps.answers s.store p a) :
    ∃ done query k, (ps.program p).Runs (ps.answers s.store p) done (.ask query k) ∧
      done <+: s.view p := by
  induction h with
  | start h => exact absurd ha (ps.unanswered _ p a h.1)
  | @step s s' l hs h ih =>
    have hkept : ps.answers s.store p a → ∃ done query k,
        (ps.program p).Runs (ps.answers s'.store p) done (.ask query k) ∧ done <+: s.view p := by
      intro hbefore
      obtain ⟨done, query, k, hruns, hdone⟩ := ih hbefore
      exact ⟨done, query, k, hruns.mono fun a => answers_of_step (p := p) h, hdone⟩
    cases h with
    | @store l query k store hleft hserve =>
      obtain hbefore | rfl := ps.answered_by _ _ _ _ _ _ hserve ha
      · exact hkept hbefore
      · have hruns := runs_of_reachable hs (ps.asker l)
        rw [hleft] at hruns
        exact ⟨_, query, k, hruns.mono fun a => ps.settled _ _ _ _ _ a hserve, List.prefix_rfl⟩
    | @perform q e rest hleft =>
      obtain ⟨done, query, k, hruns, hdone⟩ := hkept ha
      refine ⟨done, query, k, hruns, ?_⟩
      rw [view_performed]
      split_ifs
      · exact hdone.trans (List.prefix_append _ _)
      · exact hdone
    | resume _ _ => exact hkept ha

/-- The store takes the steps of a system that takes the ones the parties' queries ask for. -/
theorem store_reachable {sys : System State Label} (hstart : ∀ s, ps.start s → sys.start s)
    (hserve : ∀ answered l done query k s s',
      (ps.program (ps.asker l)).Runs answered done (.ask query k) → ps.serve query s l s' →
        sys.step s l s') (h : ps.system.Reachable s) : sys.Reachable s.store := by
  induction h with
  | start h => exact .start (hstart _ h.1)
  | @step s s' l hs h ih =>
    cases h with
    | @store l query k store hleft hstep =>
      have hruns := runs_of_reachable hs (ps.asker l)
      rw [hleft] at hruns
      exact .step ih (hserve _ _ _ _ _ _ _ hruns hstep)
    | perform _ => exact ih
    | resume _ _ => exact ih

/-! ## Going on from a state -/

variable {store store' : State} {left : Party → Program Event Query Answer} {log : List (Party × Event)}

/-- A party may go on by itself as far as its program asks nothing. -/
theorem reachable_performed (h : ps.system.Reachable ⟨store, left, log⟩) {events : List Event}
    {rest : Program Event Query Answer} (hleft : left p = .performs events rest) :
    ps.system.Reachable
      ⟨store, Function.update left p rest, log ++ events.map fun e => (p, e)⟩ := by
  induction events generalizing left log with
  | nil =>
    rw [List.map_nil, List.append_nil, ← show left p = rest from hleft, Function.update_eq_self]
    exact h
  | cons e events ih =>
    have hrest := ih (h.step (Step.perform hleft)) (Function.update_self _ _ _)
    rw [Function.update_idem, List.append_assoc] at hrest
    exact hrest

theorem reachable_resumed (h : ps.system.Reachable ⟨store, left, log⟩) {query : Query}
    {k : Answer → Program Event Query Answer} (hleft : left p = .ask query k) {a : Answer}
    (ha : ps.answers store p a) :
    ps.system.Reachable ⟨store, Function.update left p (k a), log⟩ :=
  h.step (Step.resume hleft ha)

/-- The steps of the store for a query. -/
def serving (ps : Parties Party Event Query Answer State Label) (p : Party) (query : Query) :
    System State Label where
  start := ps.start
  step := fun s l s' => ps.asker l = p ∧ ps.serve query s l s'

theorem reachable_served (h : ps.system.Reachable ⟨store, left, log⟩) {query : Query}
    {k : Answer → Program Event Query Answer} (hleft : left p = .ask query k)
    (hleads : (ps.serving p query).Leads store store') :
    ps.system.Reachable ⟨store', left, log⟩ := by
  induction hleads with
  | refl => exact h
  | @step store' store'' l _ hstep ih =>
    obtain ⟨rfl, hserve⟩ := hstep
    exact ih.step (Step.store hleft hserve)

/-! ## Refinement -/

/-- The same parties in front of another store, which can answer whatever the first one does: each step
of the first store is some steps of the other, taken for the same query. -/
structure Refines {Abs AbsLabel : Type} (ps : Parties Party Event Query Answer State Label)
    (spec : Parties Party Event Query Answer Abs AbsLabel) (related : State → Abs → Prop) : Prop where
  program : ps.program = spec.program
  start : ∀ s, ps.start s → ∃ a, spec.start a ∧ related s a
  step : ∀ query s l s' a, related s a → ps.serve query s l s' →
    ∃ a', (spec.serving (ps.asker l) query).Leads a a' ∧ related s' a'
  answers : ∀ s a p answer, related s a → ps.answers s p answer → spec.answers a p answer

/-- What the parties do in front of the first store, they can do in front of the other. -/
theorem Refines.reachable {Abs AbsLabel : Type} {spec : Parties Party Event Query Answer Abs AbsLabel}
    {related : State → Abs → Prop} (h : Refines ps spec related) (hs : ps.system.Reachable s) :
    ∃ a, spec.system.Reachable ⟨a, s.left, s.log⟩ ∧ related s.store a := by
  induction hs with
  | start hstart =>
    obtain ⟨hstart, hleft, hlog⟩ := hstart
    obtain ⟨a, ha, hrelated⟩ := h.start _ hstart
    exact ⟨a, .start ⟨ha, hleft.trans h.program, hlog⟩, hrelated⟩
  | @step s s' l _ hstep ih =>
    obtain ⟨a, ha, hrelated⟩ := ih
    cases hstep with
    | store hleft hserve =>
      obtain ⟨a', hleads, hrelated'⟩ := h.step _ _ _ _ _ hrelated hserve
      exact ⟨a', reachable_served ha hleft hleads, hrelated'⟩
    | perform hleft => exact ⟨a, ha.step (Step.perform hleft), hrelated⟩
    | resume hleft hanswer =>
      exact ⟨a, reachable_resumed ha hleft (h.answers _ _ _ _ hrelated hanswer), hrelated⟩

end Parties

end Foundations
