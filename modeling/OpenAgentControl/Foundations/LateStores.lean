import OpenAgentControl.Foundations.ReadThrough

/-! # Stores that come late

A lookup may store what it fetched after the source has moved on. If no store comes more than `delay`
after its lookup began, the cache is as recent as one whose entries live `delay` longer and whose stores
are all fresh (`recent_of_punctual`). -/

namespace Foundations
set_option autoImplicit false
set_option maxHeartbeats 250000

namespace ReadThrough

variable {Time Id Subject Slot Val Text : Type} [AddCommGroup Time] [LinearOrder Time]
variable (c : ReadThrough Time Id Subject Slot Val Text)

def slow (delay : Time) : ReadThrough Time Id Subject Slot Val Text :=
  { c with ttl := c.ttl + delay }

/-- A store no later than `delay` after its lookup began. Every other step is punctual. -/
def Punctual (delay : Time) (s : CacheState Time Id Slot Val Text) : CacheStep Time Id → Prop
  | .store i => ∀ began v, s.phase i = .fetched began v → s.now ≤ began + delay
  | _ => True

/-- Where a lookup can go by a step that fills no cell. -/
inductive Moves (s : CacheState Time Id Slot Val Text) (i : Id) : LookupPhase Time Val → Prop
  | start (h : s.phase i = .idle) : Moves s i (.started s.now)
  | miss {began : Time} (h : s.phase i = .started began) : Moves s i (.missed began)
  | hit {began : Time} {e : CacheEntry Time Text} {v : Val} (h : s.phase i = .started began)
      (hlive : live s (c.slot (c.subject i)) = some e) (hv : c.decode e.text = some v) :
      Moves s i (.returned began v)
  | fetch {began : Time} (h : s.phase i = .missed began) :
      Moves s i (.fetched began (c.source s.now (c.subject i)))
  | raise : Moves s i .raised

variable {c} {s s' : CacheState Time Id Slot Val Text} {delay : Time}

theorem next_moves [DecidableEq Id] [DecidableEq Slot] {l : CacheStep Time Id}
    (h : c.next s l = some s') :
    (∃ time, s.now ≤ time ∧ s' = { s with now := time }) ∨
    (∃ i p, c.Moves s i p ∧ s' = advance s i p) ∨
    (∃ i began v, l = .store i ∧ 0 < c.ttl ∧ s.phase i = .fetched began v ∧
      s' = { advance s i (.returned began v) with
        cells := Function.update s.cells (c.slot (c.subject i))
          (some { text := c.encode v, expires := s.now + c.ttl }) }) := by
  cases l with
  | tick time =>
    simp only [next] at h
    split_ifs at h with hle
    cases h
    exact Or.inl ⟨time, hle, rfl⟩
  | start i =>
    simp only [next] at h
    split at h
    case h_2 => cases h
    case h_1 hphase =>
      cases h
      exact Or.inr (Or.inl ⟨i, _, .start hphase, rfl⟩)
  | get i =>
    refine Or.inr (Or.inl ?_)
    simp only [next] at h
    split at h
    case h_2 => cases h
    case h_1 began hphase =>
      split at h
      case h_1 =>
        cases h
        exact ⟨i, _, .miss hphase, rfl⟩
      case h_2 e hlive =>
        split at h
        case h_1 v hv =>
          cases h
          exact ⟨i, _, .hit hphase hlive hv, rfl⟩
        case h_2 =>
          cases h
          exact ⟨i, _, .raise, rfl⟩
  | fetch i =>
    simp only [next] at h
    split at h
    case h_2 => cases h
    case h_1 began hphase =>
      cases h
      exact Or.inr (Or.inl ⟨i, _, .fetch hphase, rfl⟩)
  | store i =>
    simp only [next] at h
    split at h
    case h_2 => cases h
    case h_1 began v hphase =>
      split_ifs at h with httl
      · cases h
        exact Or.inr (Or.inr ⟨i, began, v, rfl, httl, hphase, rfl⟩)
      · cases h
        exact Or.inr (Or.inl ⟨i, _, .raise, rfl⟩)
  | fail i =>
    simp only [next] at h
    split at h
    case h_4 => cases h
    all_goals
      cases h
      exact Or.inr (Or.inl ⟨i, _, .raise, rfl⟩)

variable (c delay) in
/-- A cell holds what the source said about its subject, not too long before the entry expires. -/
structure Aged (s : CacheState Time Id Slot Val Text) : Prop where
  cells : ∀ a e, s.cells (c.slot a) = some e →
    ∃ τ, τ ≤ s.now ∧ e.expires ≤ τ + (c.slow delay).ttl ∧ e.text = c.encode (c.source τ a)
  phases : ∀ i, (c.slow delay).Tracked s.now (c.subject i) (s.phase i)

theorem Aged.initial (time : Time) : c.Aged delay (ReadThrough.initial time) where
  cells := fun a e h => by cases h
  phases := fun i => trivial

theorem Aged.tick (h : c.Aged delay s) {time : Time} (hle : s.now ≤ time) :
    c.Aged delay { s with now := time } where
  cells := by
    intro a e he
    obtain ⟨τ, hτ, hexpires, htext⟩ := h.cells a e he
    exact ⟨τ, le_trans hτ hle, hexpires, htext⟩
  phases := fun i => (h.phases i).mono hle

theorem Aged.phase_update [DecidableEq Id] (h : c.Aged delay s) {i : Id} {p : LookupPhase Time Val}
    (hp : (c.slow delay).Tracked s.now (c.subject i) p) (j : Id) :
    (c.slow delay).Tracked s.now (c.subject j) (Function.update s.phase i p j) := by
  by_cases hij : j = i
  · subst hij
    rwa [Function.update_self]
  · rw [Function.update_of_ne hij]
    exact h.phases j

variable [IsOrderedAddMonoid Time]

theorem Aged.tracked (h : c.Aged delay s)
    (hcodec : ∀ τ a, c.decode (c.encode (c.source τ a)) = some (c.source τ a)) {i : Id}
    {p : LookupPhase Time Val} (hmoves : c.Moves s i p) :
    (c.slow delay).Tracked s.now (c.subject i) p := by
  have hphase := h.phases i
  cases hmoves with
  | start hidle => exact le_refl s.now
  | miss hstarted =>
    rw [hstarted] at hphase
    exact hphase
  | @hit began e v hstarted hlive hv =>
    rw [hstarted] at hphase
    obtain ⟨hcell, hnow⟩ := Option.filter_eq_some_iff.mp hlive
    obtain ⟨τ, hτ, hexpires, htext⟩ := h.cells (c.subject i) e hcell
    rw [htext, hcodec] at hv
    have hbefore : began < τ + (c.slow delay).ttl :=
      lt_of_le_of_lt hphase (lt_of_lt_of_le (of_decide_eq_true hnow) hexpires)
    exact ⟨τ, sub_le_iff_le_add.mpr hbefore.le, hτ, Option.some.inj hv⟩
  | @fetch began hmissed =>
    rw [hmissed] at hphase
    exact ⟨hphase, s.now, hphase, le_refl _, rfl⟩
  | raise => trivial

variable [DecidableEq Id] [DecidableEq Slot]

/-- What a punctual store leaves in its cell was held by the source since its lookup began. -/
theorem Aged.store (h : c.Aged delay s) (hslot : Function.Injective c.slot) {i : Id} {began : Time}
    {v : Val} (httl : 0 < c.ttl) (hphase : s.phase i = .fetched began v)
    (hpunctual : s.now ≤ began + delay) :
    c.Aged delay { advance s i (.returned began v) with
      cells := Function.update s.cells (c.slot (c.subject i))
        (some { text := c.encode v, expires := s.now + c.ttl }) } := by
  obtain ⟨hbegan, τ, hlow, hhigh, hheld⟩ :
      (c.slow delay).Tracked s.now (c.subject i) (.fetched began v) := hphase ▸ h.phases i
  have hage : 0 ≤ (c.slow delay).ttl :=
    add_nonneg httl.le ((le_add_iff_nonneg_right began).mp (le_trans hbegan hpunctual))
  constructor
  · intro a e he
    by_cases ha : a = c.subject i
    · subst ha
      simp only [Function.update_self] at he
      cases he
      refine ⟨τ, hhigh, ?_, congrArg c.encode hheld.symm⟩
      calc s.now + c.ttl ≤ (began + delay) + c.ttl := add_le_add_left hpunctual _
        _ ≤ (τ + delay) + c.ttl := add_le_add_left (add_le_add_left hlow _) _
        _ = τ + (c.ttl + delay) := by rw [add_assoc, add_comm delay]
    · simp only [Function.update_of_ne (hslot.ne ha)] at he
      exact h.cells a e he
  · refine h.phase_update ⟨τ, ?_, hhigh, hheld⟩
    exact le_trans (sub_le_self began hage) hlow

theorem Aged.next (h : c.Aged delay s) (hslot : Function.Injective c.slot)
    (hcodec : ∀ τ a, c.decode (c.encode (c.source τ a)) = some (c.source τ a))
    {l : CacheStep Time Id} (hpunctual : Punctual delay s l) (hstep : c.next s l = some s') :
    c.Aged delay s' := by
  obtain ⟨time, hle, rfl⟩ | ⟨i, p, hmoves, rfl⟩ | ⟨i, began, v, rfl, httl, hphase, rfl⟩ :=
    next_moves hstep
  · exact h.tick hle
  · exact ⟨h.cells, h.phase_update (h.tracked hcodec hmoves)⟩
  · exact h.store hslot httl hphase (hpunctual began v hphase)

/-- Every answer of a run whose stores are all punctual was the source's no earlier than `ttl + delay`
before its lookup began. -/
theorem recent_of_punctual (hslot : Function.Injective c.slot)
    (hcodec : ∀ τ a, c.decode (c.encode (c.source τ a)) = some (c.source τ a))
    {steps : List (CacheState Time Id Slot Val Text × CacheStep Time Id)}
    (hrun : c.system.Run steps s) (hpunctual : ∀ p ∈ steps, Punctual delay p.1 p.2) :
    (c.slow delay).Recent s := by
  have haged : c.Aged delay s := by
    induction hrun with
    | start hstart =>
      obtain ⟨time, rfl⟩ := hstart
      exact .initial time
    | step _ hstep ih =>
      rw [List.forall_mem_cons] at hpunctual
      exact (ih hpunctual.2).next hslot hcodec hpunctual.1 hstep
  intro i began v hphase
  have htracked := haged.phases i
  rw [hphase] at htracked
  exact htracked

end ReadThrough

end Foundations
