import OpenAgentControl.Foundations.Transition
import Mathlib.Algebra.Ring.Nat
import Mathlib.Tactic.Common

/-! # A copy that is revalidated by a stamp

A source goes through numbered versions, each with a stamp of its own. A reader keeps the value it last
read with the stamp it had looked at before reading, looks at the stamp on every query, and reads again
only when the stamp differs. Versions may replace one another between its look and its read.
- `Tracked`: the value is of the stamped version or of a later one.
- `answers_current`: a query is answered from a version no older than the one it began at. -/

namespace Foundations
set_option autoImplicit false
set_option maxHeartbeats 250000

structure Revalidated (Content Stamp Clock Val Query Ans : Type) where
  content : ℕ → Content
  stamp : ℕ → Stamp
  stamp_injective : Function.Injective stamp
  /-- What a content reads as at some time; it may not. -/
  parse : Clock → Content → Option Val
  answer : Val → Query → Ans

/-- Where a query stands; `began` is the version there was when it started. -/
inductive QueryPhase (Stamp Query Ans : Type)
  | idle
  | started (began : ℕ) (query : Query)
  | looked (began : ℕ) (query : Query) (stamp : Stamp)
  | returned (began : ℕ) (query : Query) (answer : Ans)
  | raised (began : ℕ) (query : Query)

structure ReaderState (Stamp Val Query Ans : Type) where
  latest : ℕ
  held : Option Val
  stamp : Option Stamp
  phase : QueryPhase Stamp Query Ans

inductive ReaderStep (Clock Query : Type)
  | replace
  | start (query : Query)
  | look
  | read (clock : Clock)
  | reuse

namespace Revalidated

variable {Content Stamp Clock Val Query Ans : Type}
variable (r : Revalidated Content Stamp Clock Val Query Ans)

/-! ## Versions -/

/-- A value read from a version between two. -/
def ReadBetween (low high : ℕ) (v : Val) : Prop :=
  ∃ n clock, low ≤ n ∧ n ≤ high ∧ r.parse clock (r.content n) = some v

variable {r} in
theorem ReadBetween.mono {low high low' high' : ℕ} {v : Val} (h : r.ReadBetween low high v)
    (hlow : low' ≤ low) (hhigh : high ≤ high') : r.ReadBetween low' high' v := by
  obtain ⟨n, clock, hn, hn', hparse⟩ := h
  exact ⟨n, clock, by omega, by omega, hparse⟩

/-- What is known of a query at each of its phases. -/
def PhaseTracked (latest : ℕ) : QueryPhase Stamp Query Ans → Prop
  | .idle => True
  | .started began _ => began ≤ latest
  | .looked began _ stamp => ∃ t, began ≤ t ∧ t ≤ latest ∧ stamp = r.stamp t
  | .returned began query a => ∃ v, r.ReadBetween began latest v ∧ a = r.answer v query
  | .raised began _ => ∃ n clock, began ≤ n ∧ n ≤ latest ∧ r.parse clock (r.content n) = none

/-- The value held is of the version whose stamp is held, or of a later one. -/
structure Tracked (s : ReaderState Stamp Val Query Ans) : Prop where
  held : ∀ v, s.held = some v → ∃ t, s.stamp = some (r.stamp t) ∧ r.ReadBetween t s.latest v
  phase : r.PhaseTracked s.latest s.phase

variable {r} in
theorem PhaseTracked.mono {latest latest' : ℕ} {p : QueryPhase Stamp Query Ans}
    (h : r.PhaseTracked latest p) (hle : latest ≤ latest') : r.PhaseTracked latest' p := by
  cases p with
  | idle => trivial
  | started began query => exact le_trans h hle
  | looked began query stamp =>
    obtain ⟨t, hbegan, ht, hstamp⟩ := h
    exact ⟨t, hbegan, le_trans ht hle, hstamp⟩
  | returned began query a =>
    obtain ⟨v, hread, ha⟩ := h
    exact ⟨v, hread.mono (le_refl began) hle, ha⟩
  | raised began query =>
    obtain ⟨n, clock, hbegan, hn, hparse⟩ := h
    exact ⟨n, clock, hbegan, le_trans hn hle, hparse⟩

/-! ## Steps -/

def initial (latest : ℕ) : ReaderState Stamp Val Query Ans where
  latest
  held := none
  stamp := none
  phase := .idle

variable [DecidableEq Stamp]

/-- Whether the reader has to read again. -/
def stale (s : ReaderState Stamp Val Query Ans) (stamp : Stamp) : Bool :=
  s.held.isNone || decide (some stamp ≠ s.stamp)

def next (s : ReaderState Stamp Val Query Ans) :
    ReaderStep Clock Query → Option (ReaderState Stamp Val Query Ans)
  | .replace => some { s with latest := s.latest + 1 }
  | .start query =>
    match s.phase with
    | .started _ _ => none
    | .looked _ _ _ => none
    | _ => some { s with phase := .started s.latest query }
  | .look =>
    match s.phase with
    | .started began query => some { s with phase := .looked began query (r.stamp s.latest) }
    | _ => none
  | .read clock =>
    match s.phase with
    | .looked began query stamp =>
      if stale s stamp then
        match r.parse clock (r.content s.latest) with
        | some v =>
          some { s with
            held := some v
            stamp := some stamp
            phase := .returned began query (r.answer v query) }
        | none => some { s with phase := .raised began query }
      else none
    | _ => none
  | .reuse =>
    match s.phase, s.held with
    | .looked began query stamp, some v =>
      if stale s stamp then none
      else some { s with phase := .returned began query (r.answer v query) }
    | _, _ => none

/-- Every interleaving of the queries of one reader, one after another, and the replacements. -/
def system : System (ReaderState Stamp Val Query Ans) (ReaderStep Clock Query) where
  start := fun s => ∃ latest, s = initial latest
  step := fun s l s' => r.next s l = some s'

theorem next_cases {r : Revalidated Content Stamp Clock Val Query Ans}
    {s s' : ReaderState Stamp Val Query Ans} {l : ReaderStep Clock Query} (h : r.next s l = some s') :
    (l = .replace ∧ s' = { s with latest := s.latest + 1 }) ∨
    (∃ query, l = .start query ∧ s' = { s with phase := .started s.latest query }) ∨
    (∃ began query, l = .look ∧ s.phase = .started began query ∧
      s' = { s with phase := .looked began query (r.stamp s.latest) }) ∨
    (∃ clock began query stamp v, l = .read clock ∧ s.phase = .looked began query stamp ∧
      stale s stamp = true ∧ r.parse clock (r.content s.latest) = some v ∧
      s' = { s with
        held := some v
        stamp := some stamp
        phase := .returned began query (r.answer v query) }) ∨
    (∃ clock began query stamp, l = .read clock ∧ s.phase = .looked began query stamp ∧
      stale s stamp = true ∧ r.parse clock (r.content s.latest) = none ∧
      s' = { s with phase := .raised began query }) ∨
    (∃ began query stamp v, l = .reuse ∧ s.phase = .looked began query stamp ∧ s.held = some v ∧
      stale s stamp = false ∧ s' = { s with phase := .returned began query (r.answer v query) }) := by
  cases l with
  | replace =>
    simp only [next, Option.some.injEq] at h
    exact Or.inl ⟨rfl, h.symm⟩
  | start query =>
    simp only [next] at h
    split at h
    case h_1 => cases h
    case h_2 => cases h
    case h_3 =>
      simp only [Option.some.injEq] at h
      exact Or.inr (Or.inl ⟨query, rfl, h.symm⟩)
  | look =>
    simp only [next] at h
    split at h
    case h_2 => cases h
    case h_1 began query hphase =>
      simp only [Option.some.injEq] at h
      exact Or.inr (Or.inr (Or.inl ⟨began, query, rfl, hphase, h.symm⟩))
  | read clock =>
    simp only [next] at h
    split at h
    case h_2 => cases h
    case h_1 began query stamp hphase =>
      split_ifs at h with hstale
      split at h
      case h_1 v hparse =>
        simp only [Option.some.injEq] at h
        exact Or.inr (Or.inr (Or.inr (Or.inl
          ⟨clock, began, query, stamp, v, rfl, hphase, hstale, hparse, h.symm⟩)))
      case h_2 hparse =>
        simp only [Option.some.injEq] at h
        exact Or.inr (Or.inr (Or.inr (Or.inr (Or.inl
          ⟨clock, began, query, stamp, rfl, hphase, hstale, hparse, h.symm⟩))))
  | reuse =>
    simp only [next] at h
    split at h
    case h_2 => cases h
    case h_1 began query stamp v hphase hheld =>
      split_ifs at h with hstale
      simp only [Option.some.injEq] at h
      exact Or.inr (Or.inr (Or.inr (Or.inr (Or.inr
        ⟨began, query, stamp, v, rfl, hphase, hheld, Bool.eq_false_iff.mpr hstale, h.symm⟩))))

/-! ## The invariant -/

variable {r}

theorem stale_eq_false {s : ReaderState Stamp Val Query Ans} {stamp : Stamp} :
    stale s stamp = false ↔ s.held.isSome = true ∧ s.stamp = some stamp := by
  unfold stale
  cases s.held with
  | none => simp
  | some v =>
    simp only [Option.isNone_some, Bool.false_or, decide_eq_false_iff_not, not_not,
      Option.isSome_some, true_and]
    exact eq_comm

theorem tracked_step {s s' : ReaderState Stamp Val Query Ans} {l : ReaderStep Clock Query}
    (h : r.Tracked s) (hstep : r.next s l = some s') : r.Tracked s' := by
  have hphase := h.phase
  obtain ⟨rfl, rfl⟩ | ⟨query, rfl, rfl⟩ | ⟨began, query, rfl, hp, rfl⟩ |
    ⟨clock, began, query, stamp, v, rfl, hp, -, hparse, rfl⟩ |
    ⟨clock, began, query, stamp, rfl, hp, -, hparse, rfl⟩ |
    ⟨began, query, stamp, v, rfl, hp, hheld, hfresh, rfl⟩ := next_cases hstep
  · constructor
    · intro v hv
      obtain ⟨t, hstamp, hread⟩ := h.held v hv
      exact ⟨t, hstamp, hread.mono (le_refl t) (Nat.le_succ _)⟩
    · exact hphase.mono (Nat.le_succ _)
  · exact ⟨h.held, le_refl s.latest⟩
  · rw [hp] at hphase
    exact ⟨h.held, s.latest, hphase, le_refl s.latest, rfl⟩
  · rw [hp] at hphase
    obtain ⟨t, hbegan, ht, rfl⟩ := hphase
    have hread : r.ReadBetween t s.latest v := ⟨s.latest, clock, ht, le_refl s.latest, hparse⟩
    constructor
    · rintro _ ⟨⟩
      exact ⟨t, rfl, hread⟩
    · exact ⟨v, hread.mono hbegan (le_refl s.latest), rfl⟩
  · rw [hp] at hphase
    obtain ⟨t, hbegan, ht, -⟩ := hphase
    exact ⟨h.held, s.latest, clock, le_trans hbegan ht, le_refl s.latest, hparse⟩
  · rw [hp] at hphase
    obtain ⟨t, hbegan, ht, rfl⟩ := hphase
    obtain ⟨t', hstamp, hread⟩ := h.held v hheld
    -- the same stamp is the same version, and the value is of no earlier one
    obtain ⟨-, hsame⟩ := stale_eq_false.mp hfresh
    rw [hstamp] at hsame
    have hversion : t' = t := r.stamp_injective (Option.some.inj hsame)
    exact ⟨h.held, v, hread.mono (by omega) (le_refl s.latest), rfl⟩

theorem tracked {s : ReaderState Stamp Val Query Ans} (hs : r.system.Reachable s) : r.Tracked s := by
  refine hs.invariant ?_ ?_
  · rintro s ⟨latest, rfl⟩
    exact ⟨nofun, trivial⟩
  · exact fun _ _ _ _ h hstep => tracked_step h hstep

/-- A query that returned was answered from a version no older than the one it began at, and one that
raised had read such a version, which does not parse. -/
theorem answers_current {s : ReaderState Stamp Val Query Ans} (hs : r.system.Reachable s) :
    (∀ began query a, s.phase = .returned began query a →
      ∃ v, r.ReadBetween began s.latest v ∧ a = r.answer v query) ∧
    ∀ began query, s.phase = .raised began query →
      ∃ n clock, began ≤ n ∧ n ≤ s.latest ∧ r.parse clock (r.content n) = none := by
  have hphase := (tracked hs).phase
  constructor
  · intro began query a hp
    rwa [hp] at hphase
  · intro began query hp
    rwa [hp] at hphase

/-! ## When the source is read -/

/-- The stamp looked at before the last read of a run that parsed. -/
def lastLoaded (r : Revalidated Content Stamp Clock Val Query Ans) :
    List (ReaderState Stamp Val Query Ans × ReaderStep Clock Query) → Option Stamp
  | [] => none
  | (s, .read clock) :: earlier =>
    match s.phase, r.parse clock (r.content s.latest) with
    | .looked _ _ stamp, some _ => some stamp
    | _, _ => lastLoaded r earlier
  | _ :: earlier => lastLoaded r earlier

/-- The reader remembers exactly that stamp, and holds a value once there is one. -/
theorem stamp_eq_lastLoaded {steps : List (ReaderState Stamp Val Query Ans × ReaderStep Clock Query)}
    {s : ReaderState Stamp Val Query Ans} (hrun : r.system.Run steps s) :
    s.stamp = lastLoaded r steps ∧ (s.held.isSome = true ↔ s.stamp.isSome = true) := by
  induction hrun with
  | start hstart =>
    obtain ⟨latest, rfl⟩ := hstart
    exact ⟨rfl, Iff.rfl⟩
  | step hrun hstep ih =>
    obtain ⟨rfl, rfl⟩ | ⟨query, rfl, rfl⟩ | ⟨began, query, rfl, -, rfl⟩ |
      ⟨clock, began, query, stamp, v, rfl, hp, -, hparse, rfl⟩ |
      ⟨clock, began, query, stamp, rfl, hp, -, hparse, rfl⟩ |
      ⟨began, query, stamp, v, rfl, -, -, -, rfl⟩ := next_cases hstep
    · exact ih
    · exact ih
    · exact ih
    · simp [lastLoaded, hp, hparse]
    · simpa [lastLoaded, hp, hparse] using ih
    · exact ih

/-- A run reads the source only when the stamp looked at is not that of the last read that parsed. -/
theorem read_only_if_changed
    {steps : List (ReaderState Stamp Val Query Ans × ReaderStep Clock Query)}
    {s s' : ReaderState Stamp Val Query Ans} (hrun : r.system.Run steps s) {clock : Clock}
    (hstep : r.system.step s (.read clock) s') :
    ∃ began query stamp, s.phase = .looked began query stamp ∧
      lastLoaded r steps ≠ some stamp := by
  obtain ⟨hstamp, hheld⟩ := stamp_eq_lastLoaded hrun
  have hmust : ∀ stamp, stale s stamp = true → lastLoaded r steps ≠ some stamp := by
    intro stamp hstale hloaded
    rw [← hstamp] at hloaded
    have hfresh : stale s stamp = false :=
      stale_eq_false.mpr ⟨hheld.mpr (by rw [hloaded]; rfl), hloaded⟩
    rw [hfresh] at hstale
    cases hstale
  obtain ⟨habs, -⟩ | ⟨query, habs, -⟩ | ⟨began, query, habs, -⟩ |
    ⟨clock', began, query, stamp, v, -, hp, hstale, -⟩ |
    ⟨clock', began, query, stamp, -, hp, hstale, -⟩ | ⟨began, query, stamp, v, habs, -⟩ :=
    next_cases hstep
  · cases habs
  · cases habs
  · cases habs
  · exact ⟨began, query, stamp, hp, hmust stamp hstale⟩
  · exact ⟨began, query, stamp, hp, hmust stamp hstale⟩
  · cases habs

end Revalidated

end Foundations
