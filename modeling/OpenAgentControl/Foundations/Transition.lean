import Mathlib.Logic.Function.Basic
import Mathlib.Order.Defs.PartialOrder

/-! # Labelled transition systems

States reached from the initial ones, the invariant rule, and simulations that let a step of the
concrete system be answered by a step of the abstract one or by none. -/

namespace Foundations
set_option autoImplicit false
set_option maxHeartbeats 250000

theorem update_eq_iff {Index Value : Type} [DecidableEq Index] {f : Index → Value} {i j : Index}
    {a b : Value} :
    Function.update f i a j = b ↔ j = i ∧ a = b ∨ j ≠ i ∧ f j = b := by
  by_cases h : j = i
  · subst h
    simp
  · simp [h]

structure System (State Label : Type) where
  start : State → Prop
  step : State → Label → State → Prop

namespace System

variable {State Label : Type}

inductive Reachable (sys : System State Label) : State → Prop
  | start {s : State} (h : sys.start s) : Reachable sys s
  | step {s s' : State} {l : Label} (hs : Reachable sys s) (h : sys.step s l s') : Reachable sys s'

/-- What holds at the start and is kept by every step from a reached state holds throughout. -/
theorem Reachable.invariant {sys : System State Label} {Inv : State → Prop}
    (hstart : ∀ s, sys.start s → Inv s)
    (hstep : ∀ s l s', sys.Reachable s → Inv s → sys.step s l s' → Inv s')
    {s : State} (hs : sys.Reachable s) : Inv s := by
  induction hs with
  | start h => exact hstart _ h
  | step hs h ih => exact hstep _ _ _ hs ih h

/-- Some steps lead from the one state to the other. -/
inductive Leads (sys : System State Label) (s : State) : State → Prop
  | refl : Leads sys s s
  | step {s' s'' : State} {l : Label} (hs : Leads sys s s') (h : sys.step s' l s'') : Leads sys s s''

theorem Leads.reachable {sys : System State Label} {s s' : State} (h : sys.Leads s s')
    (hs : sys.Reachable s) : sys.Reachable s' := by
  induction h with
  | refl => exact hs
  | step _ h ih => exact .step ih h

theorem Leads.trans {sys : System State Label} {s s' s'' : State} (h : sys.Leads s s')
    (h' : sys.Leads s' s'') : sys.Leads s s'' := by
  induction h' with
  | refl => exact h
  | step _ hstep ih => exact .step ih hstep

/-- What every step keeps still holds later. -/
theorem Leads.keeps {sys : System State Label} {Kept : State → Prop}
    (hstep : ∀ s l s', sys.step s l s' → Kept s → Kept s') {s s' : State} (h : sys.Leads s s')
    (hs : Kept s) : Kept s' := by
  induction h with
  | refl => exact hs
  | step _ h ih => exact hstep _ _ _ h ih

/-- A run as its steps, the latest first, each with the state it was taken in. -/
inductive Run (sys : System State Label) : List (State × Label) → State → Prop
  | start {s : State} (h : sys.start s) : Run sys [] s
  | step {steps : List (State × Label)} {s s' : State} {l : Label} (hrun : Run sys steps s)
      (h : sys.step s l s') : Run sys ((s, l) :: steps) s'

theorem Run.reachable {sys : System State Label} {steps : List (State × Label)} {s : State}
    (h : sys.Run steps s) : sys.Reachable s := by
  induction h with
  | start h => exact .start h
  | step _ h ih => exact .step ih h

theorem Run.reachable_of_mem {sys : System State Label} {steps : List (State × Label)} {s : State}
    (h : sys.Run steps s) : ∀ p ∈ steps, sys.Reachable p.1 := by
  induction h with
  | start h => simp
  | step hrun h ih => exact List.forall_mem_cons.mpr ⟨hrun.reachable, ih⟩

/-- What no step lowers is nowhere in a run higher than at its end. -/
theorem Run.le_of_mem {Height : Type} [Preorder Height] {sys : System State Label}
    {steps : List (State × Label)} {s : State} (h : sys.Run steps s) (height : State → Height)
    (hstep : ∀ s l s', sys.step s l s' → height s ≤ height s') :
    ∀ p ∈ steps, height p.1 ≤ height s := by
  induction h with
  | start h => simp
  | step hrun h ih =>
    have hle := hstep _ _ _ h
    exact List.forall_mem_cons.mpr ⟨hle, fun p hp => le_trans (ih p hp) hle⟩

/-- Where a step from a reached good state ends in a good one exactly when it is clean, the runs that
stay good are those whose steps are all clean. -/
theorem Run.throughout_iff {sys : System State Label} {Good : State → Prop}
    {Clean : State → Label → Prop} (hstart : ∀ s, sys.start s → Good s)
    (hstep : ∀ s l s', sys.Reachable s → Good s → sys.step s l s' → (Good s' ↔ Clean s l))
    {steps : List (State × Label)} {s : State} (h : sys.Run steps s) :
    ((∀ p ∈ steps, Good p.1) ∧ Good s) ↔ ∀ p ∈ steps, Clean p.1 p.2 := by
  induction h with
  | start h => simp [hstart _ h]
  | step hrun h ih =>
    rw [List.forall_mem_cons, List.forall_mem_cons, ← ih]
    constructor
    · rintro ⟨⟨hgood, hbefore⟩, hgood'⟩
      exact ⟨(hstep _ _ _ hrun.reachable hgood h).mp hgood', hbefore, hgood⟩
    · rintro ⟨hclean, hbefore, hgood⟩
      exact ⟨⟨hgood, hbefore⟩, (hstep _ _ _ hrun.reachable hgood h).mpr hclean⟩

/-- The system whose steps all have an allowed label. -/
def restrict (sys : System State Label) (allowed : Label → Prop) : System State Label where
  start := sys.start
  step := fun s l s' => allowed l ∧ sys.step s l s'

theorem Reachable.of_restrict {sys : System State Label} {allowed : Label → Prop} {s : State}
    (h : (sys.restrict allowed).Reachable s) : sys.Reachable s := by
  induction h with
  | start h => exact .start h
  | step _ h ih => exact .step ih h.2

theorem Run.restrict {sys : System State Label} {allowed : Label → Prop}
    {steps : List (State × Label)} {s : State} (h : sys.Run steps s)
    (hallowed : ∀ l ∈ steps.map Prod.snd, allowed l) : (sys.restrict allowed).Run steps s := by
  induction h with
  | start h => exact .start h
  | step _ h ih =>
    rw [List.map_cons, List.forall_mem_cons] at hallowed
    exact .step (ih hallowed.2) ⟨hallowed.1, h⟩

/-- The abstract system answers every step of the concrete one with a step of its own, or rests. -/
structure Simulates {Abs AbsLabel : Type} (sys : System State Label) (spec : System Abs AbsLabel)
    (related : State → Abs → Prop) : Prop where
  start : ∀ s, sys.start s → ∃ a, spec.start a ∧ related s a
  step : ∀ s l s' a, related s a → sys.step s l s' →
    related s' a ∨ ∃ m a', spec.step a m a' ∧ related s' a'

theorem Simulates.reachable {Abs AbsLabel : Type} {sys : System State Label}
    {spec : System Abs AbsLabel} {related : State → Abs → Prop}
    (h : Simulates sys spec related) {s : State} (hs : sys.Reachable s) :
    ∃ a, spec.Reachable a ∧ related s a := by
  induction hs with
  | start hstart =>
    obtain ⟨a, ha, hrel⟩ := h.start _ hstart
    exact ⟨a, .start ha, hrel⟩
  | step hs hstep ih =>
    obtain ⟨a, ha, hrel⟩ := ih
    obtain hrest | ⟨m, a', hmove, hrel'⟩ := h.step _ _ _ a hrel hstep
    · exact ⟨a, ha, hrest⟩
    · exact ⟨a', .step ha hmove, hrel'⟩

end System

end Foundations
