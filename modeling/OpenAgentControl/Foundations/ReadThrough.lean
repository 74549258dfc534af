import OpenAgentControl.Foundations.Transition
import Mathlib.Algebra.Order.Group.Defs
import Mathlib.Algebra.Order.Sub.Basic
import Mathlib.Logic.Function.Basic

/-! # Read-through caches with an expiry

A cache in front of a source whose values change in time, and any number of lookups at once: a
lookup reads its cell, on a miss asks the source, stores the answer to expire `ttl` later and returns
it. Each of these happens at a moment of its own, at any distance from the one before.
- `Recent`: what a lookup returned was the source's value no earlier than `ttl` before it began.
- `Fresh`: a store of the value the source holds at that moment.
- `recent_of_fresh`: in a run whose stores are all fresh, every state is recent.
- `hit_returns_filled`: in every run a hit returns what the lookup whose store filled the cell
  returned. -/

namespace Foundations
set_option autoImplicit false
set_option maxHeartbeats 250000

structure CacheEntry (Time Text : Type) where
  text : Text
  expires : Time

/-- Where a lookup stands; `began` is the moment it started. -/
inductive LookupPhase (Time Val : Type)
  | idle
  | started (began : Time)
  | missed (began : Time)
  | fetched (began : Time) (value : Val)
  | returned (began : Time) (value : Val)
  | raised

structure CacheState (Time Id Slot Val Text : Type) where
  now : Time
  cells : Slot → Option (CacheEntry Time Text)
  phase : Id → LookupPhase Time Val

inductive CacheStep (Time Id : Type)
  | tick (time : Time)
  | start (i : Id)
  | get (i : Id)
  | fetch (i : Id)
  | store (i : Id)
  | fail (i : Id)

structure ReadThrough (Time Id Subject Slot Val Text : Type) where
  ttl : Time
  /-- What the source answers about a subject at a moment. -/
  source : Time → Subject → Val
  subject : Id → Subject
  slot : Subject → Slot
  encode : Val → Text
  /-- Reading an entry back; it may raise. -/
  decode : Text → Option Val

namespace ReadThrough

variable {Time Id Subject Slot Val Text : Type}
variable (c : ReadThrough Time Id Subject Slot Val Text)

def initial (time : Time) : CacheState Time Id Slot Val Text where
  now := time
  cells := fun _ => none
  phase := fun _ => .idle

/-- The last store of a run into a cell is that of `j`. -/
def LastStore (steps : List (CacheState Time Id Slot Val Text × CacheStep Time Id)) (slot : Slot)
    (j : Id) : Prop :=
  ∃ later filled earlier, steps = later ++ (filled, .store j) :: earlier ∧
    c.slot (c.subject j) = slot ∧
    ∀ p ∈ later, ∀ k, p.2 = .store k → c.slot (c.subject k) ≠ slot

variable {c} in
theorem LastStore.cons {steps : List (CacheState Time Id Slot Val Text × CacheStep Time Id)}
    {slot : Slot} {j : Id} (h : c.LastStore steps slot j)
    {p : CacheState Time Id Slot Val Text × CacheStep Time Id}
    (hp : ∀ k, p.2 = .store k → c.slot (c.subject k) ≠ slot) : c.LastStore (p :: steps) slot j := by
  obtain ⟨later, filled, earlier, rfl, hslot, hlater⟩ := h
  exact ⟨p :: later, filled, earlier, rfl, hslot, List.forall_mem_cons.mpr ⟨hp, hlater⟩⟩

variable [AddCommGroup Time] [LinearOrder Time]

/-- The entry the cache still serves. -/
def live (s : CacheState Time Id Slot Val Text) (slot : Slot) : Option (CacheEntry Time Text) :=
  (s.cells slot).filter fun e => decide (s.now < e.expires)

/-! ## Recency -/

/-- Every lookup returned a value the source held about its subject no earlier than `ttl` before the
lookup began. -/
def Recent (s : CacheState Time Id Slot Val Text) : Prop :=
  ∀ i began v, s.phase i = .returned began v →
    ∃ τ, began - c.ttl ≤ τ ∧ τ ≤ s.now ∧ c.source τ (c.subject i) = v

/-- A store of what the source holds at that moment. Every other step is fresh. -/
def Fresh (s : CacheState Time Id Slot Val Text) : CacheStep Time Id → Prop
  | .store i => ∀ began v, s.phase i = .fetched began v → c.source s.now (c.subject i) = v
  | _ => True

/-- What is known of a lookup at each of its phases. -/
def Tracked (now : Time) (subject : Subject) : LookupPhase Time Val → Prop
  | .idle => True
  | .started began => began ≤ now
  | .missed began => began ≤ now
  | .fetched began v => began ≤ now ∧ ∃ τ, began ≤ τ ∧ τ ≤ now ∧ c.source τ subject = v
  | .returned began v => ∃ τ, began - c.ttl ≤ τ ∧ τ ≤ now ∧ c.source τ subject = v
  | .raised => True

/-- A cell holds what the source said about its subject when the entry was stored. -/
structure Current (s : CacheState Time Id Slot Val Text) : Prop where
  cells : ∀ a e, s.cells (c.slot a) = some e →
    ∃ τ, τ ≤ s.now ∧ e.expires = τ + c.ttl ∧ e.text = c.encode (c.source τ a)
  phases : ∀ i, c.Tracked s.now (c.subject i) (s.phase i)

variable {c}

theorem Tracked.mono {now time : Time} {subject : Subject} {p : LookupPhase Time Val}
    (h : c.Tracked now subject p) (hle : now ≤ time) : c.Tracked time subject p := by
  cases p with
  | idle => trivial
  | started began => exact le_trans h hle
  | missed began => exact le_trans h hle
  | fetched began v =>
    obtain ⟨hbegan, τ, hlow, hhigh, hv⟩ := h
    exact ⟨le_trans hbegan hle, τ, hlow, le_trans hhigh hle, hv⟩
  | returned began v =>
    obtain ⟨τ, hlow, hhigh, hv⟩ := h
    exact ⟨τ, hlow, le_trans hhigh hle, hv⟩
  | raised => trivial

theorem Current.initial (time : Time) : c.Current (ReadThrough.initial time) where
  cells := fun a e h => by cases h
  phases := fun i => trivial

variable {s s' : CacheState Time Id Slot Val Text}

theorem Current.tick (h : c.Current s) {time : Time} (hle : s.now ≤ time) :
    c.Current { s with now := time } where
  cells := by
    intro a e he
    obtain ⟨τ, hτ, hexpires, htext⟩ := h.cells a e he
    exact ⟨τ, le_trans hτ hle, hexpires, htext⟩
  phases := fun i => (h.phases i).mono hle

/-- What a hit decodes to was held by the source within `ttl` of the lookup's beginning. -/
theorem Current.hit [IsOrderedAddMonoid Time] (h : c.Current s)
    (hcodec : ∀ τ a, c.decode (c.encode (c.source τ a)) = some (c.source τ a)) {i : Id}
    {began : Time} (hphase : s.phase i = .started began) {e : CacheEntry Time Text}
    (hlive : live s (c.slot (c.subject i)) = some e) {v : Val} (hv : c.decode e.text = some v) :
    c.Tracked s.now (c.subject i) (.returned began v) := by
  obtain ⟨hcell, hnow⟩ := Option.filter_eq_some_iff.mp hlive
  obtain ⟨τ, hτ, hexpires, htext⟩ := h.cells (c.subject i) e hcell
  rw [htext, hcodec] at hv
  have hbegan : began ≤ s.now := by
    have htracked := h.phases i
    rw [hphase] at htracked
    exact htracked
  have hbefore : began < τ + c.ttl := by
    rw [← hexpires]
    exact lt_of_le_of_lt hbegan (of_decide_eq_true hnow)
  exact ⟨τ, sub_le_iff_le_add.mpr (le_of_lt hbefore), hτ, Option.some.inj hv⟩

/-! ## Steps -/

variable [DecidableEq Id]

def advance (s : CacheState Time Id Slot Val Text) (i : Id) (p : LookupPhase Time Val) :
    CacheState Time Id Slot Val Text :=
  { s with phase := Function.update s.phase i p }

theorem Current.advance (h : c.Current s) {i : Id} {p : LookupPhase Time Val}
    (hp : c.Tracked s.now (c.subject i) p) : c.Current (ReadThrough.advance s i p) where
  cells := h.cells
  phases := by
    intro j
    by_cases hij : j = i
    · subst hij
      simp only [ReadThrough.advance, Function.update_self]
      exact hp
    · simp only [ReadThrough.advance, Function.update_of_ne hij]
      exact h.phases j

variable [DecidableEq Slot]

/-- A fresh store: the cell it fills is current, and cells of other subjects are not touched. -/
theorem Current.store (h : c.Current s) (hslot : Function.Injective c.slot) {i : Id}
    (p : LookupPhase Time Val) (hp : c.Tracked s.now (c.subject i) p) :
    c.Current { ReadThrough.advance s i p with
      cells := Function.update s.cells (c.slot (c.subject i))
        (some { text := c.encode (c.source s.now (c.subject i)), expires := s.now + c.ttl }) } where
  cells := by
    intro a e he
    by_cases ha : a = c.subject i
    · subst ha
      simp only [Function.update_self] at he
      cases he
      exact ⟨s.now, le_refl _, rfl, rfl⟩
    · simp only [Function.update_of_ne (hslot.ne ha)] at he
      exact h.cells a e he
  phases := (h.advance hp).phases

variable (c) in
def next (s : CacheState Time Id Slot Val Text) :
    CacheStep Time Id → Option (CacheState Time Id Slot Val Text)
  | .tick time => if s.now ≤ time then some { s with now := time } else none
  | .start i =>
    match s.phase i with
    | .idle => some (advance s i (.started s.now))
    | _ => none
  | .get i =>
    match s.phase i with
    | .started began =>
      match live s (c.slot (c.subject i)) with
      | none => some (advance s i (.missed began))
      | some e =>
        match c.decode e.text with
        | some v => some (advance s i (.returned began v))
        | none => some (advance s i .raised)
    | _ => none
  | .fetch i =>
    match s.phase i with
    | .missed began => some (advance s i (.fetched began (c.source s.now (c.subject i))))
    | _ => none
  | .store i =>
    match s.phase i with
    | .fetched began v =>
      -- an expiry that is not positive is an error of the store
      if 0 < c.ttl then
        some { advance s i (.returned began v) with
          cells := Function.update s.cells (c.slot (c.subject i))
            (some { text := c.encode v, expires := s.now + c.ttl }) }
      else some (advance s i .raised)
    | _ => none
  | .fail i =>
    match s.phase i with
    | .started _ => some (advance s i .raised)
    | .missed _ => some (advance s i .raised)
    | .fetched _ _ => some (advance s i .raised)
    | _ => none

variable (c) in
/-- Every interleaving and every duration of the lookups' steps. -/
def system : System (CacheState Time Id Slot Val Text) (CacheStep Time Id) where
  start := fun s => ∃ time, s = initial time
  step := fun s l s' => c.next s l = some s'

theorem next_get_of_live {i : Id} {began : Time} (hphase : s.phase i = .started began)
    {e : CacheEntry Time Text} (hlive : live s (c.slot (c.subject i)) = some e) {v : Val}
    (hv : c.decode e.text = some v) :
    c.next s (.get i) = some (advance s i (.returned began v)) := by
  simp only [next, hphase, hlive, hv]

/-! ## Which lookup filled a cell -/

/-- What a step can do: let time pass, move one lookup on, or fill the cell of one. A lookup that has
returned stays where it is, and what one fetches is what the source holds. -/
theorem next_cases {l : CacheStep Time Id} (h : c.next s l = some s') :
    (∃ time, l = .tick time ∧ s.now ≤ time ∧ s' = { s with now := time }) ∨
    (∃ i p, s' = advance s i p ∧ (∀ began v, s.phase i ≠ .returned began v) ∧
      (∀ began v, p = .fetched began v → c.source s.now (c.subject i) = v) ∧
      ∀ j, l = .store j → ¬ 0 < c.ttl) ∨
    (∃ i began v, l = .store i ∧ 0 < c.ttl ∧ s.phase i = .fetched began v ∧
      s' = { advance s i (.returned began v) with
        cells := Function.update s.cells (c.slot (c.subject i))
          (some { text := c.encode v, expires := s.now + c.ttl }) }) := by
  cases l with
  | tick time =>
    simp only [next] at h
    split_ifs at h with hle
    cases h
    exact Or.inl ⟨time, rfl, hle, rfl⟩
  | start i =>
    refine Or.inr (Or.inl ?_)
    simp only [next] at h
    split at h
    case h_1 hphase =>
      cases h
      exact ⟨i, _, rfl, by simp [hphase], nofun, nofun⟩
    case h_2 => cases h
  | get i =>
    refine Or.inr (Or.inl ?_)
    simp only [next] at h
    split at h
    case h_2 => cases h
    case h_1 began hphase =>
      have hmoved : ∀ began' v, s.phase i ≠ .returned began' v := by simp [hphase]
      split at h
      case h_1 =>
        cases h
        exact ⟨i, _, rfl, hmoved, nofun, nofun⟩
      case h_2 =>
        split at h
        case h_1 =>
          cases h
          exact ⟨i, _, rfl, hmoved, nofun, nofun⟩
        case h_2 =>
          cases h
          exact ⟨i, _, rfl, hmoved, nofun, nofun⟩
  | fetch i =>
    refine Or.inr (Or.inl ?_)
    simp only [next] at h
    split at h
    case h_1 began hphase =>
      cases h
      refine ⟨i, _, rfl, by simp [hphase], ?_, nofun⟩
      rintro began' v ⟨⟩
      rfl
    case h_2 => cases h
  | store i =>
    simp only [next] at h
    split at h
    case h_2 => cases h
    case h_1 began v hphase =>
      split_ifs at h with httl
      · cases h
        exact Or.inr (Or.inr ⟨i, began, v, rfl, httl, hphase, rfl⟩)
      · cases h
        exact Or.inr (Or.inl ⟨i, _, rfl, by simp [hphase], nofun, fun _ _ => httl⟩)
  | fail i =>
    refine Or.inr (Or.inl ?_)
    simp only [next] at h
    split at h
    case h_4 => cases h
    all_goals
      next hphase =>
        cases h
        exact ⟨i, _, rfl, by simp [hphase], nofun, nofun⟩

variable (c) in
/-- What a lookup holds between its fetch and its store is something the source held. -/
def Held (s : CacheState Time Id Slot Val Text) : Prop :=
  ∀ i began v, s.phase i = .fetched began v → ∃ τ, c.source τ (c.subject i) = v

theorem held (hs : c.system.Reachable s) : c.Held s := by
  refine hs.invariant ?_ ?_
  · rintro s ⟨time, rfl⟩ i began v habs
    cases habs
  · intro s l s' _ hheld hstep i began v hphase
    obtain ⟨time, -, -, rfl⟩ | ⟨j, p, rfl, -, hp, -⟩ | ⟨j, began', v', -, -, -, rfl⟩ :=
      next_cases hstep
    · exact hheld i began v hphase
    · obtain ⟨rfl, rfl⟩ | ⟨-, hphase⟩ := update_eq_iff.mp hphase
      · exact ⟨s.now, hp began v rfl⟩
      · exact hheld i began v hphase
    · obtain ⟨-, habs⟩ | ⟨-, hphase⟩ := update_eq_iff.mp hphase
      · cases habs
      · exact hheld i began v hphase

/-- The entry of a cell is the text of what the lookup of the last store into it returned. -/
theorem cell_filled {steps : List (CacheState Time Id Slot Val Text × CacheStep Time Id)}
    (hrun : c.system.Run steps s) {slot : Slot} {e : CacheEntry Time Text}
    (hcell : s.cells slot = some e) :
    0 < c.ttl ∧ ∃ j began v, c.LastStore steps slot j ∧ s.phase j = .returned began v ∧
      e.text = c.encode v ∧ ∃ τ, c.source τ (c.subject j) = v := by
  induction hrun with
  | start hstart =>
    obtain ⟨time, rfl⟩ := hstart
    cases hcell
  | step hrun hstep ih =>
    obtain ⟨time, rfl, -, rfl⟩ | ⟨i, p, rfl, hmoved, -, hstore⟩ |
      ⟨i, began, v, rfl, httl, hphase, rfl⟩ := next_cases hstep
    · obtain ⟨httl, j, began, v, hlast, hreturned, hrest⟩ := ih hcell
      exact ⟨httl, j, began, v, hlast.cons nofun, hreturned, hrest⟩
    · obtain ⟨httl, j, began, v, hlast, hreturned, hrest⟩ := ih hcell
      have hother : j ≠ i := by
        rintro rfl
        exact hmoved began v hreturned
      refine ⟨httl, j, began, v, ?_, ?_, hrest⟩
      · exact hlast.cons fun k hk => absurd httl (hstore k hk)
      · exact (Function.update_of_ne hother _ _).trans hreturned
    · by_cases hslot : slot = c.slot (c.subject i)
      · subst hslot
        simp only [Function.update_self] at hcell
        cases hcell
        refine ⟨httl, i, began, v, ?_, Function.update_self _ _ _, rfl, ?_⟩
        · exact ⟨[], _, _, rfl, rfl, by simp⟩
        · exact held hrun.reachable i began v hphase
      · simp only [Function.update_of_ne hslot] at hcell
        obtain ⟨-, j, began', v', hlast, hreturned, hrest⟩ := ih hcell
        have hother : j ≠ i := by
          rintro rfl
          rw [hphase] at hreturned
          cases hreturned
        refine ⟨httl, j, began', v', hlast.cons ?_, ?_, hrest⟩
        · rintro k ⟨⟩
          exact Ne.symm hslot
        · exact (Function.update_of_ne hother _ _).trans hreturned

/-- A lookup that finds its cell alive returns what the lookup of the last store into the cell
returned, which asked about the same subject. -/
theorem hit_returns_filled (hslot : Function.Injective c.slot)
    (hcodec : ∀ τ a, c.decode (c.encode (c.source τ a)) = some (c.source τ a))
    {steps : List (CacheState Time Id Slot Val Text × CacheStep Time Id)}
    (hrun : c.system.Run steps s) {i : Id} {began : Time} (hphase : s.phase i = .started began)
    {e : CacheEntry Time Text} (hlive : live s (c.slot (c.subject i)) = some e) :
    ∃ j filled v, c.LastStore steps (c.slot (c.subject i)) j ∧ c.subject j = c.subject i ∧
      s.phase j = .returned filled v ∧
      c.next s (.get i) = some (advance s i (.returned began v)) := by
  obtain ⟨hcell, -⟩ := Option.filter_eq_some_iff.mp hlive
  obtain ⟨-, j, filled, v, hlast, hreturned, htext, τ, hheld⟩ := cell_filled hrun hcell
  have hsubject : c.subject j = c.subject i := by
    obtain ⟨-, -, -, -, hsame, -⟩ := hlast
    exact hslot hsame
  refine ⟨j, filled, v, hlast, hsubject, hreturned, next_get_of_live hphase hlive ?_⟩
  rw [htext, ← hheld, hcodec]

/-! ## Fresh runs -/

variable [IsOrderedAddMonoid Time]

theorem Current.next (h : c.Current s) (hslot : Function.Injective c.slot)
    (hcodec : ∀ τ a, c.decode (c.encode (c.source τ a)) = some (c.source τ a))
    {l : CacheStep Time Id} (hfresh : c.Fresh s l) (hstep : c.next s l = some s') :
    c.Current s' := by
  cases l with
  | tick time =>
    simp only [ReadThrough.next] at hstep
    split_ifs at hstep with hle
    cases hstep
    exact h.tick hle
  | start i =>
    simp only [ReadThrough.next] at hstep
    split at hstep
    case h_1 =>
      cases hstep
      exact h.advance (le_refl s.now)
    case h_2 => cases hstep
  | get i =>
    simp only [ReadThrough.next] at hstep
    split at hstep
    case h_2 => cases hstep
    case h_1 began hphase =>
      have hbegan := h.phases i
      rw [hphase] at hbegan
      split at hstep
      case h_1 =>
        cases hstep
        exact h.advance hbegan
      case h_2 e hlive =>
        split at hstep
        case h_1 v hv =>
          cases hstep
          exact h.advance (h.hit hcodec hphase hlive hv)
        case h_2 =>
          cases hstep
          exact h.advance trivial
  | fetch i =>
    simp only [ReadThrough.next] at hstep
    split at hstep
    case h_2 => cases hstep
    case h_1 began hphase =>
      have hbegan : c.Tracked s.now (c.subject i) (.missed began) := hphase ▸ h.phases i
      cases hstep
      exact h.advance ⟨hbegan, s.now, hbegan, le_refl _, rfl⟩
  | store i =>
    simp only [ReadThrough.next] at hstep
    split at hstep
    case h_2 => cases hstep
    case h_1 began v hphase =>
      split_ifs at hstep with httl
      · cases hstep
        have hheld := hfresh began v hphase
        obtain ⟨hbegan, -⟩ : c.Tracked s.now (c.subject i) (.fetched began v) :=
          hphase ▸ h.phases i
        have hrecent : began - c.ttl ≤ s.now := le_trans (sub_le_self began httl.le) hbegan
        rw [← hheld]
        exact h.store hslot _ ⟨s.now, hrecent, le_refl _, rfl⟩
      · cases hstep
        exact h.advance trivial
  | fail i =>
    simp only [ReadThrough.next] at hstep
    split at hstep
    case h_4 => cases hstep
    all_goals
      cases hstep
      exact h.advance trivial

/-- Every state of a run whose stores are all fresh is recent. -/
theorem recent_of_fresh (hslot : Function.Injective c.slot)
    (hcodec : ∀ τ a, c.decode (c.encode (c.source τ a)) = some (c.source τ a))
    {steps : List (CacheState Time Id Slot Val Text × CacheStep Time Id)}
    (hrun : c.system.Run steps s) (hfresh : ∀ p ∈ steps, c.Fresh p.1 p.2) : c.Recent s := by
  have hcurrent : c.Current s := by
    induction hrun with
    | start hstart =>
      obtain ⟨time, rfl⟩ := hstart
      exact .initial time
    | step _ hstep ih =>
      rw [List.forall_mem_cons] at hfresh
      exact (ih hfresh.2).next hslot hcodec hfresh.1 hstep
  intro i began v hphase
  have htracked := hcurrent.phases i
  rw [hphase] at htracked
  exact htracked

end ReadThrough

end Foundations
