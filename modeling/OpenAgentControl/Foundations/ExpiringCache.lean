import OpenAgentControl.Foundations.Transition
import Mathlib.Algebra.Order.Group.Defs

/-! # Caches whose entries say how long they live

Calls that share a cache by their keys. A call that finds no live entry asks for a value, reads the
clock, computes from both how long the value may be kept, which can raise, and stores it if that is
longer than nothing. Entries also vanish at any time.
- `produced`: what a call holds was answered to it, or to a call with its key.
- `dated`: what a call is served was stored when its lifetime had just been computed, and is not older.
- `raises`, `reuse`: a run in which a call raises, and one in which a call is served what another
  one with its key stored. -/

namespace Foundations
set_option autoImplicit false
set_option maxHeartbeats 250000

structure TimedEntry (Time Val : Type) where
  value : Val
  stored : Time
  expires : Time

inductive CallPhase (Time Val Err : Type)
  | idle
  | started
  | missed
  | answered (v : Val)
  | timed (v : Val) (ttl readAt : Time)
  | returned (v : Val)
  | served (v : Val) (stored time : Time)
  | raised (e : Err)
  | failed

/-- The value a call has in its hands. -/
def CallPhase.held {Time Val Err : Type} : CallPhase Time Val Err → Option Val
  | .answered v => some v
  | .timed v _ _ => some v
  | .returned v => some v
  | .served v _ _ => some v
  | _ => none

/-- What a call that is over gave back. -/
def CallPhase.result {Time Val Err : Type} : CallPhase Time Val Err → Option Val
  | .returned v => some v
  | .served v _ _ => some v
  | _ => none

theorem CallPhase.held_of_result {Time Val Err : Type} {p : CallPhase Time Val Err} {v : Val}
    (h : p.result = some v) : p.held = some v := by
  cases p <;> first | exact h | cases h

structure CallState (Time Id Key Val Err : Type) where
  now : Time
  cells : Key → Option (TimedEntry Time Val)
  phase : Id → CallPhase Time Val Err

inductive CallStep (Time Id Key Val : Type)
  | tick (time : Time)
  | evict (k : Key)
  | start (i : Id)
  | get (i : Id)
  | answer (i : Id) (v : Val)
  | readClock (i : Id)
  | store (i : Id)
  | fail (i : Id)

structure ExpiringCache (Time Id Key Val Err : Type) where
  key : Id → Key
  /-- How long a value may be kept, from the reading of the clock. -/
  ttl : Val → Time → Except Err Time

namespace ExpiringCache

variable {Time Id Key Val Err : Type} (c : ExpiringCache Time Id Key Val Err)

abbrev Steps (Time Id Key Val Err : Type) :=
  List (CallState Time Id Key Val Err × CallStep Time Id Key Val)

def initial (time : Time) : CallState Time Id Key Val Err where
  now := time
  cells := fun _ => none
  phase := fun _ => .idle

/-- A call was answered with a value. -/
def Answered (steps : Steps Time Id Key Val Err) (i : Id) (v : Val) : Prop :=
  ∃ p ∈ steps, p.2 = .answer i v

@[simp] theorem answered_cons_iff {steps : Steps Time Id Key Val Err} {i : Id} {v : Val}
    {p : CallState Time Id Key Val Err × CallStep Time Id Key Val} :
    Answered (p :: steps) i v ↔ p.2 = .answer i v ∨ Answered steps i v := by
  simp [Answered]

theorem Answered.cons {steps : Steps Time Id Key Val Err} {i : Id} {v : Val}
    (h : Answered steps i v) (p : CallState Time Id Key Val Err × CallStep Time Id Key Val) :
    Answered (p :: steps) i v := answered_cons_iff.mpr (Or.inr h)

variable [DecidableEq Id]

def advance (s : CallState Time Id Key Val Err) (i : Id) (p : CallPhase Time Val Err) :
    CallState Time Id Key Val Err :=
  { s with phase := Function.update s.phase i p }

variable [AddCommGroup Time] [LinearOrder Time] [DecidableEq Key]

def live (s : CallState Time Id Key Val Err) (k : Key) : Option (TimedEntry Time Val) :=
  (s.cells k).filter fun e => decide (s.now < e.expires)

def next (s : CallState Time Id Key Val Err) :
    CallStep Time Id Key Val → Option (CallState Time Id Key Val Err)
  | .tick time => if s.now ≤ time then some { s with now := time } else none
  | .evict k => some { s with cells := Function.update s.cells k none }
  | .start i =>
    match s.phase i with
    | .idle => some (advance s i .started)
    | _ => none
  | .get i =>
    match s.phase i with
    | .started =>
      match live s (c.key i) with
      | some e => some (advance s i (.served e.value e.stored s.now))
      | none => some (advance s i .missed)
    | _ => none
  | .answer i v =>
    match s.phase i with
    | .missed => some (advance s i (.answered v))
    | _ => none
  | .readClock i =>
    match s.phase i with
    | .answered v =>
      match c.ttl v s.now with
      | .ok ttl => some (advance s i (if 0 < ttl then .timed v ttl s.now else .returned v))
      | .error e => some (advance s i (.raised e))
    | _ => none
  | .store i =>
    match s.phase i with
    | .timed v ttl _ =>
      some { advance s i (.returned v) with
        cells := Function.update s.cells (c.key i)
          (some { value := v, stored := s.now, expires := s.now + ttl }) }
    | _ => none
  | .fail i =>
    match s.phase i with
    | .started => some (advance s i .failed)
    | .missed => some (advance s i .failed)
    | .timed _ _ _ => some (advance s i .failed)
    | _ => none

/-- Every interleaving of the calls and every duration of their steps. -/
def system : System (CallState Time Id Key Val Err) (CallStep Time Id Key Val) where
  start := fun s => ∃ time, s = initial time
  step := fun s l s' => c.next s l = some s'

variable {c}

variable (c) in
/-- The phases a step can move a call to, with everything it checks. -/
inductive Moves (s : CallState Time Id Key Val Err) (l : CallStep Time Id Key Val) (i : Id) :
    CallPhase Time Val Err → Prop
  | started : Moves s l i .started
  | missed : Moves s l i .missed
  | failed : Moves s l i .failed
  | served {e : TimedEntry Time Val} (hlive : live s (c.key i) = some e) :
      Moves s l i (.served e.value e.stored s.now)
  | answered {v : Val} (hl : l = .answer i v) : Moves s l i (.answered v)
  | timed {v : Val} {ttl : Time} (hphase : s.phase i = .answered v)
      (httl : c.ttl v s.now = .ok ttl) (hpositive : 0 < ttl) : Moves s l i (.timed v ttl s.now)
  | returned {v : Val} (hheld : (s.phase i).held = some v) : Moves s l i (.returned v)
  | raised {v : Val} {e : Err} (hphase : s.phase i = .answered v)
      (herror : c.ttl v s.now = .error e) : Moves s l i (.raised e)

omit [DecidableEq Key] in
theorem moves_advance {s : CallState Time Id Key Val Err} {l : CallStep Time Id Key Val} {i : Id}
    {p : CallPhase Time Val Err} (hp : c.Moves s l i p) (j : Id) :
    (advance s i p).phase j = s.phase j ∨ c.Moves s l j ((advance s i p).phase j) := by
  by_cases h : j = i
  · subst h
    simp only [advance, Function.update_self]
    exact Or.inr hp
  · exact Or.inl (Function.update_of_ne h _ _)

/-- A call stays where it is or is moved. -/
theorem next_phase {s s' : CallState Time Id Key Val Err} {l : CallStep Time Id Key Val}
    (h : c.next s l = some s') (j : Id) :
    s'.phase j = s.phase j ∨ c.Moves s l j (s'.phase j) := by
  cases l with
  | tick time =>
    simp only [next] at h
    split_ifs at h
    cases h
    exact Or.inl rfl
  | evict k =>
    simp only [next, Option.some.injEq] at h
    subst h
    exact Or.inl rfl
  | start i =>
    simp only [next] at h
    split at h
    case h_2 => cases h
    case h_1 =>
      cases h
      exact moves_advance .started j
  | get i =>
    simp only [next] at h
    split at h
    case h_2 => cases h
    case h_1 =>
      split at h
      case h_1 e hlive =>
        cases h
        exact moves_advance (.served hlive) j
      case h_2 =>
        cases h
        exact moves_advance .missed j
  | answer i v =>
    simp only [next] at h
    split at h
    case h_2 => cases h
    case h_1 =>
      cases h
      exact moves_advance (.answered rfl) j
  | readClock i =>
    simp only [next] at h
    split at h
    case h_2 => cases h
    case h_1 v hphase =>
      split at h
      case h_1 ttl httl =>
        cases h
        split_ifs with hpositive
        · exact moves_advance (.timed hphase httl hpositive) j
        · exact moves_advance (.returned (by rw [hphase]; rfl)) j
      case h_2 e herror =>
        cases h
        exact moves_advance (.raised hphase herror) j
  | store i =>
    simp only [next] at h
    split at h
    case h_2 => cases h
    case h_1 v ttl readAt hphase =>
      cases h
      exact moves_advance (.returned (by rw [hphase]; rfl)) j
  | fail i =>
    simp only [next] at h
    split at h
    case h_4 => cases h
    all_goals
      cases h
      exact moves_advance .failed j

/-- An entry stays, vanishes, or is stored by a call that had computed its lifetime. -/
theorem next_cells {s s' : CallState Time Id Key Val Err} {l : CallStep Time Id Key Val}
    (h : c.next s l = some s') {k : Key} {e : TimedEntry Time Val} (he : s'.cells k = some e) :
    s.cells k = some e ∨ ∃ i v ttl readAt, l = .store i ∧ s.phase i = .timed v ttl readAt ∧
      c.key i = k ∧ e = { value := v, stored := s.now, expires := s.now + ttl } := by
  cases l with
  | evict k' =>
    simp only [next, Option.some.injEq] at h
    subst h
    obtain ⟨-, habs⟩ | ⟨-, hcell⟩ := update_eq_iff.mp he
    · cases habs
    · exact Or.inl hcell
  | store i =>
    simp only [next] at h
    split at h
    case h_2 => cases h
    case h_1 v ttl readAt hphase =>
      cases h
      obtain ⟨rfl, hentry⟩ | ⟨-, hcell⟩ := update_eq_iff.mp he
      · exact Or.inr ⟨i, v, ttl, readAt, rfl, hphase, rfl, (Option.some.inj hentry).symm⟩
      · exact Or.inl hcell
  | _ =>
    have hcells : s'.cells = s.cells := by
      simp only [next] at h
      repeat' split at h
      all_goals cases h
      all_goals rfl
    exact Or.inl (hcells ▸ he)

theorem next_get_of_live {s : CallState Time Id Key Val Err} {i : Id} (hphase : s.phase i = .started)
    {e : TimedEntry Time Val} (hlive : live s (c.key i) = some e) :
    c.next s (.get i) = some (advance s i (.served e.value e.stored s.now)) := by
  simp only [next, hphase, hlive]

/-! ## Where a value comes from -/

variable (c) in
/-- At some time the value gets a lifetime. -/
def Storable (v : Val) : Prop := ∃ readAt ttl, c.ttl v readAt = .ok ttl ∧ 0 < ttl

theorem timed_ttl {s : CallState Time Id Key Val Err} (hs : c.system.Reachable s) {i : Id} {v : Val}
    {ttl readAt : Time} (h : s.phase i = .timed v ttl readAt) : c.ttl v readAt = .ok ttl ∧ 0 < ttl := by
  induction hs with
  | start hstart =>
    obtain ⟨time, rfl⟩ := hstart
    cases h
  | step _ hstep ih =>
    obtain hsame | hmoves := next_phase hstep i
    · exact ih (hsame ▸ h)
    · rw [h] at hmoves
      cases hmoves with
      | timed hphase httl hpositive => exact ⟨httl, hpositive⟩

variable (c) in
/-- A value that a call with this key was answered and could store. -/
def Kept (steps : Steps Time Id Key Val Err) (k : Key) (v : Val) : Prop :=
  (∃ j, Answered steps j v ∧ c.key j = k) ∧ c.Storable v

variable (c) in
/-- A value that the call was answered, or that a call with its key stored. -/
def Produced (steps : Steps Time Id Key Val Err) (i : Id) (v : Val) : Prop :=
  Answered steps i v ∨ c.Kept steps (c.key i) v

omit [DecidableEq Id] [DecidableEq Key] in
theorem Kept.cons {steps : Steps Time Id Key Val Err} {k : Key} {v : Val} (h : c.Kept steps k v)
    (p : CallState Time Id Key Val Err × CallStep Time Id Key Val) : c.Kept (p :: steps) k v := by
  obtain ⟨⟨j, hj, hkey⟩, hstorable⟩ := h
  exact ⟨⟨j, hj.cons p, hkey⟩, hstorable⟩

omit [DecidableEq Id] [DecidableEq Key] in
theorem Produced.cons {steps : Steps Time Id Key Val Err} {i : Id} {v : Val}
    (h : c.Produced steps i v) (p : CallState Time Id Key Val Err × CallStep Time Id Key Val) :
    c.Produced (p :: steps) i v := h.imp (·.cons p) (·.cons p)

omit [DecidableEq Id] [DecidableEq Key] in
theorem Produced.exists_answered {steps : Steps Time Id Key Val Err} {i : Id} {v : Val}
    (h : c.Produced steps i v) : ∃ j, Answered steps j v := by
  obtain hanswered | ⟨⟨j, hj, -⟩, -⟩ := h
  · exact ⟨i, hanswered⟩
  · exact ⟨j, hj⟩

/-- Entries were kept for their key, and calls hold what was produced for them. -/
theorem produced {steps : Steps Time Id Key Val Err} {s : CallState Time Id Key Val Err}
    (hrun : c.system.Run steps s) :
    (∀ k e, s.cells k = some e → c.Kept steps k e.value) ∧
      ∀ i v, (s.phase i).held = some v → c.Produced steps i v := by
  induction hrun with
  | start hstart =>
    obtain ⟨time, rfl⟩ := hstart
    constructor
    · intro k e h
      cases h
    · intro i v h
      cases h
  | @step steps s s' l hrun hstep ih =>
    obtain ⟨hcells, hheld⟩ := ih
    constructor
    · intro k e he
      obtain hcell | ⟨i, v, ttl, readAt, rfl, hphase, rfl, rfl⟩ := next_cells hstep he
      · exact (hcells k e hcell).cons _
      · have hstorable := timed_ttl hrun.reachable hphase
        obtain hanswered | hkept := hheld i v (by rw [hphase]; rfl)
        · exact ⟨⟨i, hanswered.cons _, rfl⟩, readAt, ttl, hstorable⟩
        · exact hkept.cons _
    · intro i v hv
      obtain hsame | hmoves := next_phase hstep i
      · rw [hsame] at hv
        exact (hheld i v hv).cons _
      · generalize s'.phase i = p at hv hmoves
        cases hmoves with
        | served hlive =>
          cases hv
          obtain ⟨hcell, -⟩ := Option.filter_eq_some_iff.mp hlive
          exact Or.inr ((hcells _ _ hcell).cons _)
        | answered hl =>
          cases hv
          exact Or.inl (answered_cons_iff.mpr (Or.inl hl))
        | timed hphase =>
          cases hv
          exact (hheld i v (by rw [hphase]; rfl)).cons _
        | returned hbefore =>
          cases hv
          exact (hheld i v hbefore).cons _
        | _ => cases hv

/-- A call that raised was answered with a value whose lifetime raises this at some time. -/
theorem raised_produced {steps : Steps Time Id Key Val Err} {s : CallState Time Id Key Val Err}
    (hrun : c.system.Run steps s) {i : Id} {e : Err} (h : s.phase i = .raised e) :
    ∃ v readAt, c.ttl v readAt = .error e ∧ c.Produced steps i v := by
  induction hrun with
  | start hstart =>
    obtain ⟨time, rfl⟩ := hstart
    cases h
  | @step steps s s' l hrun hstep ih =>
    obtain hsame | hmoves := next_phase hstep i
    · obtain ⟨v, readAt, herror, hv⟩ := ih (hsame ▸ h)
      exact ⟨v, readAt, herror, hv.cons _⟩
    · rw [h] at hmoves
      cases hmoves with
      | @raised v _ hphase herror =>
        have hv : c.Produced steps i v := (produced hrun).2 i v (by rw [hphase]; rfl)
        exact ⟨v, s.now, herror, hv.cons _⟩

/-! ## How old a value is -/

variable (c) in
/-- A value stored less than `delay` after its lifetime was computed, until that lifetime is over. -/
def Dated (delay : Time) (v : Val) (stored expires : Time) : Prop :=
  ∃ readAt ttl, c.ttl v readAt = .ok ttl ∧ 0 < ttl ∧ stored < readAt + delay ∧
    expires = stored + ttl

variable (c) in
structure Timely (delay : Time) (s : CallState Time Id Key Val Err) : Prop where
  cells : ∀ k e, s.cells k = some e → c.Dated delay e.value e.stored e.expires
  served : ∀ i v stored time, s.phase i = .served v stored time →
    ∃ expires, c.Dated delay v stored expires ∧ time < expires

/-- Every store of the run comes less than `delay` after its call read the clock. -/
def Prompt (delay : Time) (steps : Steps Time Id Key Val Err) : Prop :=
  ∀ p ∈ steps, ∀ i v ttl readAt, p.2 = .store i → p.1.phase i = .timed v ttl readAt →
    p.1.now < readAt + delay

/-- In a prompt run every entry, and what a call is served, is within a lifetime that was computed
less than `delay` before the value was stored. -/
theorem dated {delay : Time} {steps : Steps Time Id Key Val Err}
    {s : CallState Time Id Key Val Err} (hrun : c.system.Run steps s) (hprompt : Prompt delay steps) :
    c.Timely delay s := by
  induction hrun with
  | start hstart =>
    obtain ⟨time, rfl⟩ := hstart
    constructor
    · intro k e h
      cases h
    · intro i v stored time h
      cases h
  | step hrun hstep ih =>
    obtain ⟨hstore, hbefore⟩ := List.forall_mem_cons.mp hprompt
    have h := ih hbefore
    constructor
    · intro k e he
      obtain hcell | ⟨i, v, ttl, readAt, rfl, hphase, rfl, rfl⟩ := next_cells hstep he
      · exact h.cells k e hcell
      · obtain ⟨httl, hpositive⟩ := timed_ttl hrun.reachable hphase
        exact ⟨readAt, ttl, httl, hpositive, hstore i v ttl readAt rfl hphase, rfl⟩
    · intro i v stored time hserved
      obtain hsame | hmoves := next_phase hstep i
      · exact h.served i v stored time (hsame ▸ hserved)
      · rw [hserved] at hmoves
        cases hmoves with
        | served hlive =>
          obtain ⟨hcell, hnow⟩ := Option.filter_eq_some_iff.mp hlive
          exact ⟨_, h.cells _ _ hcell, of_decide_eq_true hnow⟩

/-! ## Runs of one call and of two -/

omit [AddCommGroup Time] [LinearOrder Time] [DecidableEq Key] in
theorem advance_advance (s : CallState Time Id Key Val Err) (i : Id) (p q : CallPhase Time Val Err) :
    advance (advance s i p) i q = advance s i q := by
  simp [advance]

/-- The steps of a call up to the answer it gets. -/
def asked (i : Id) (v : Val) (time : Time) : Steps Time Id Key Val Err :=
  [(advance (initial time) i .missed, .answer i v), (advance (initial time) i .started, .get i),
    (initial time, .start i)]

theorem asked_run (i : Id) (v : Val) (time : Time) :
    c.system.Run (asked i v time) (advance (initial time) i (.answered v)) := by
  have h0 : c.system.Run [] (initial time) := .start ⟨time, rfl⟩
  have h1 : c.next (initial time) (.start i) = some (advance (initial time) i .started) := rfl
  have h2 : c.next (advance (initial time) i .started) (.get i) =
      some (advance (initial time) i .missed) := by
    rw [← advance_advance (initial time) i .started .missed]
    simp [next, advance, live, initial]
  have h3 : c.next (advance (initial time) i .missed) (.answer i v) =
      some (advance (initial time) i (.answered v)) := by
    rw [← advance_advance (initial time) i .missed (.answered v)]
    simp [next, advance]
  exact ((h0.step h1).step h2).step h3

omit [AddCommGroup Time] [LinearOrder Time] [DecidableEq Key] in
theorem answered_asked {i k : Id} {v w : Val} {time : Time}
    (h : Answered (asked i v time : Steps Time Id Key Val Err) k w) : k = i ∧ w = v := by
  simp only [asked, answered_cons_iff, CallStep.answer.injEq, reduceCtorEq, false_or] at h
  obtain ⟨rfl, rfl⟩ | ⟨p, hp, -⟩ := h
  · exact ⟨rfl, rfl⟩
  · cases hp

/-- A value whose lifetime raises makes the call that got it raise. -/
theorem raises {i : Id} {v : Val} {time : Time} {e : Err} (h : c.ttl v time = .error e) :
    ∃ (steps : Steps Time Id Key Val Err) (s : CallState Time Id Key Val Err),
      c.system.Run steps s ∧ (∀ k w, Answered steps k w → k = i ∧ w = v) ∧
        (∀ delay, Prompt delay steps) ∧ s.phase i = .raised e := by
  have hread : c.next (advance (initial time) i (.answered v)) (.readClock i) =
      some (advance (initial time) i (.raised e)) := by
    rw [← advance_advance (initial time) i (.answered v) (.raised e)]
    simp [next, advance, initial, h]
  refine ⟨_, _, (asked_run i v time).step hread, ?_, ?_, Function.update_self _ _ _⟩
  · intro k w h
    simp only [answered_cons_iff, reduceCtorEq, false_or] at h
    exact answered_asked h
  · intro delay
    simp [Prompt, asked]

variable (c) in
/-- One call has stored what it got, and that is all there is in the cache. -/
def filled (i : Id) (v : Val) (stored ttl now : Time) : CallState Time Id Key Val Err where
  now
  cells := Function.update (fun _ => none) (c.key i)
    (some { value := v, stored, expires := stored + ttl })
  phase := Function.update (fun _ => .idle) i (.returned v)

variable [IsOrderedAddMonoid Time]

/-- A call is served, at any time within its lifetime, the value another one with its key stored. -/
theorem reuse {i j : Id} (hij : j ≠ i) (hkey : c.key j = c.key i) {v : Val} {stored ttl t : Time}
    (httl : c.ttl v stored = .ok ttl) (hpositive : 0 < ttl) (ht : 0 ≤ t) (hlive : t < ttl) :
    ∃ (steps : Steps Time Id Key Val Err) (s : CallState Time Id Key Val Err),
      c.system.Run steps s ∧ (∀ k w, Answered steps k w → k = i ∧ w = v) ∧
        (∀ delay, 0 < delay → Prompt delay steps) ∧
        s.phase i = .returned v ∧ s.phase j = .served v stored (stored + t) := by
  have htimed : c.next (advance (initial stored) i (.answered v)) (.readClock i) =
      some (advance (initial stored) i (.timed v ttl stored)) := by
    rw [← advance_advance (initial stored) i (.answered v) (.timed v ttl stored)]
    simp [next, advance, initial, httl, hpositive]
  have hfilled : c.next (advance (initial stored) i (.timed v ttl stored)) (.store i) =
      some (c.filled i v stored ttl stored) := by
    simp [next, advance, initial, filled]
  have hlater : c.next (c.filled i v stored ttl stored) (.tick (stored + t)) =
      some (c.filled i v stored ttl (stored + t)) :=
    if_pos (le_add_of_nonneg_right ht)
  have hstarted : c.next (c.filled i v stored ttl (stored + t)) (.start j) =
      some (advance (c.filled i v stored ttl (stored + t)) j .started) := by
    simp [next, filled, Function.update_of_ne hij]
  have hentry : live (advance (c.filled i v stored ttl (stored + t)) j .started) (c.key j) =
      some { value := v, stored, expires := stored + ttl } := by
    refine Option.filter_eq_some_iff.mpr ⟨?_, decide_eq_true (add_lt_add_right hlive stored)⟩
    rw [hkey]
    exact Function.update_self (c.key i) _ (fun _ => none)
  have hserved := next_get_of_live (Function.update_self j _ _) hentry
  rw [advance_advance] at hserved
  have hrun := ((((asked_run i v stored).step htimed).step hfilled).step hlater).step hstarted
  have hreturned : (c.filled i v stored ttl (stored + t)).phase i = .returned v := by
    simp [filled]
  refine ⟨_, _, hrun.step hserved, ?_, ?_, (Function.update_of_ne hij.symm _ _).trans hreturned,
    Function.update_self _ _ _⟩
  · intro k w h
    simp only [answered_cons_iff, reduceCtorEq, false_or] at h
    exact answered_asked h
  · intro delay hdelay p hp k w ttl' readAt hstep hphase
    simp only [asked, List.mem_cons, List.not_mem_nil, or_false] at hp
    obtain rfl | rfl | rfl | rfl | rfl | rfl | rfl | rfl := hp
    all_goals cases hstep
    simp only [advance, Function.update_self] at hphase
    cases hphase
    exact lt_add_of_pos_right stored hdelay

end ExpiringCache

end Foundations
