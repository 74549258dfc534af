import OpenAgentControl.Foundations.Transition
import Mathlib.Data.Fintype.Basic
import Mathlib.Logic.Function.Basic

/-! # Concurrent sessions that write back what they changed

One row of typed columns under READ COMMITTED. A session reads the row without a lock, assigns some
columns, and its flush writes those whose value differs from the value it read; the row lock it takes
there, when there is anything to write, is held to the end of the transaction. The note it leaves
about the change is computed from the row it read.
- `Assigned.dirty` is what a flush writes, `Assigned.applyTo` the row after it.
- `applyTo_dirty_of_assigned` and `applyTo_dirty_keeps` say what a flush does to one column.
- `replay` and `notesFrom` are the sessions one after another.
- `serial_commit_iff` says which commits a serial history survives. -/

namespace Foundations
set_option autoImplicit false
set_option maxHeartbeats 250000

/-! ## Assigned columns -/

section Columns

variable {Column : Type} {Value : Column → Type}

/-- The columns a session assigned, with their values. -/
abbrev Assigned (Value : Column → Type) := ∀ c, Option (Value c)

namespace Assigned

def applyTo (w : Assigned Value) (row : ∀ c, Value c) : ∀ c, Value c := fun c => (w c).getD (row c)

theorem applyTo_of_some {w : Assigned Value} {row : ∀ c, Value c} {c : Column} {v : Value c}
    (h : w c = some v) : w.applyTo row c = v := by
  rw [applyTo, h, Option.getD_some]

theorem applyTo_of_none {w : Assigned Value} {row : ∀ c, Value c} {c : Column} (h : w c = none) :
    w.applyTo row c = row c := by
  rw [applyTo, h, Option.getD_none]

variable [∀ c, DecidableEq (Value c)]

/-- The columns a flush writes: those assigned a value other than the one read. -/
def dirty (w : Assigned Value) (read : ∀ c, Value c) : Assigned Value :=
  fun c => (w c).filter fun v => decide (v ≠ read c)

theorem dirty_of_ne {w : Assigned Value} {read : ∀ c, Value c} {c : Column} {v : Value c}
    (h : w c = some v) (hne : v ≠ read c) : w.dirty read c = some v := by
  rw [dirty, h, Option.filter_some, if_pos (decide_eq_true hne)]

theorem dirty_of_eq {w : Assigned Value} {read : ∀ c, Value c} {c : Column} {v : Value c}
    (h : w c = some v) (heq : v = read c) : w.dirty read c = none := by
  rw [dirty, h, Option.filter_some, if_neg (by simpa using heq)]

theorem dirty_of_none {w : Assigned Value} {read : ∀ c, Value c} {c : Column} (h : w c = none) :
    w.dirty read c = none := by
  rw [dirty, h, Option.filter_none]

/-- A flush leaves the row as the assignments ask exactly when every column it skips, because its
value is the one read, holds that value in the row it writes to. -/
theorem applyTo_dirty_iff {w : Assigned Value} {read row : ∀ c, Value c} :
    (w.dirty read).applyTo row = w.applyTo row ↔ ∀ c v, w c = some v → v = read c → row c = v := by
  constructor
  · intro h c v hv hread
    have hcolumn := congrFun h c
    rw [applyTo_of_none (dirty_of_eq hv hread), applyTo_of_some hv] at hcolumn
    exact hcolumn
  · intro h
    funext c
    cases hv : w c with
    | none => rw [applyTo_of_none (dirty_of_none hv), applyTo_of_none hv]
    | some v =>
      by_cases hread : v = read c
      · rw [applyTo_of_none (dirty_of_eq hv hread), applyTo_of_some hv, h c v hv hread]
      · rw [applyTo_of_some (dirty_of_ne hv hread), applyTo_of_some hv]

/-- The column a session assigned, in a row that is no worse there than the one it read. -/
theorem applyTo_dirty_of_assigned {w : Assigned Value} {read row : ∀ c, Value c} {c : Column}
    {P : Value c → Prop} {v : Value c} (hv : w c = some v) (hP : P v) (hrow : P (read c) → P (row c)) :
    P ((w.dirty read).applyTo row c) := by
  by_cases hread : v = read c
  · rw [applyTo_of_none (dirty_of_eq hv hread)]
    exact hrow (hread ▸ hP)
  · rw [applyTo_of_some (dirty_of_ne hv hread)]
    exact hP

/-- A column of which everything assigned to it is as good as what is there. -/
theorem applyTo_dirty_keeps {w : Assigned Value} {read row : ∀ c, Value c} {c : Column}
    {P : Value c → Prop} (hassigned : ∀ v, w c = some v → P v) (hrow : P (row c)) :
    P ((w.dirty read).applyTo row c) := by
  cases hv : w c with
  | none =>
    rw [applyTo_of_none (dirty_of_none hv)]
    exact hrow
  | some v => exact applyTo_dirty_of_assigned hv (hassigned v hv) fun _ => hrow

end Assigned

/-- Some column is written, so that the flush takes the row lock. -/
def Assigned.Writes [Fintype Column] (w : Assigned Value) : Bool := decide (∃ c, (w c).isSome = true)

end Columns

/-! ## Sessions -/

/-- What each session assigns and notes; a session's moment is the time its body runs at. -/
structure Sessions {Column : Type} (Tx Moment Note : Type) (Value : Column → Type) where
  /-- The row the sessions start from. -/
  first : ∀ c, Value c
  assigned : Tx → Moment → Assigned Value
  note : Tx → Moment → (∀ c, Value c) → Note

inductive SessionPhase (Row Moment : Type)
  | waiting
  | loaded (read : Row)
  | flushed (read : Row) (moment : Moment)
  | committed
  | rolledBack

structure RowState {Column : Type} (Tx Moment Note : Type) (Value : Column → Type) where
  row : ∀ c, Value c
  notes : List Note
  /-- The sessions that committed, in the order of their commits. -/
  log : List (Tx × Moment)
  lock : Option Tx
  phase : Tx → SessionPhase (∀ c, Value c) Moment

inductive SessionStep (Tx Moment : Type)
  | load (t : Tx)
  | flush (t : Tx) (moment : Moment)
  | commit (t : Tx)
  | rollback (t : Tx)

namespace Sessions

variable {Column Tx Moment Note : Type} {Value : Column → Type}
variable (ss : Sessions Tx Moment Note Value)

def initial : RowState Tx Moment Note Value where
  row := ss.first
  notes := []
  log := []
  lock := none
  phase := fun _ => .waiting

/-- The row after the sessions of `log`, one after another. -/
def replay (row : ∀ c, Value c) (log : List (Tx × Moment)) : ∀ c, Value c :=
  log.foldl (fun row e => (ss.assigned e.1 e.2).applyTo row) row

/-- The notes of the sessions of `log`, each run alone on the row the one before it left. -/
def notesFrom : (∀ c, Value c) → List (Tx × Moment) → List Note
  | _, [] => []
  | row, e :: rest => ss.note e.1 e.2 row :: notesFrom ((ss.assigned e.1 e.2).applyTo row) rest

@[simp] theorem replay_nil (row : ∀ c, Value c) : ss.replay row [] = row := rfl

@[simp] theorem replay_cons (row : ∀ c, Value c) (e : Tx × Moment) (log : List (Tx × Moment)) :
    ss.replay row (e :: log) = ss.replay ((ss.assigned e.1 e.2).applyTo row) log := rfl

theorem replay_snoc (row : ∀ c, Value c) (log : List (Tx × Moment)) (e : Tx × Moment) :
    ss.replay row (log ++ [e]) = (ss.assigned e.1 e.2).applyTo (ss.replay row log) :=
  List.foldl_concat _ _ _ _

theorem notesFrom_snoc (row : ∀ c, Value c) (log : List (Tx × Moment)) (e : Tx × Moment) :
    ss.notesFrom row (log ++ [e]) =
      ss.notesFrom row log ++ [ss.note e.1 e.2 (ss.replay row log)] := by
  induction log generalizing row with
  | nil => rfl
  | cons e' log ih =>
    rw [List.cons_append, notesFrom, ih, notesFrom, replay_cons, List.cons_append]

/-- The row and the notes are those of the committed sessions run one after another. -/
structure Serial (s : RowState Tx Moment Note Value) : Prop where
  row : s.row = ss.replay ss.first s.log
  notes : s.notes = ss.notesFrom ss.first s.log

theorem Serial.initial : ss.Serial ss.initial where
  row := rfl
  notes := rfl

/-- A commit that is not stale: each column the session skipped still holds the value it read, and
its note is the one the committed row gives. Every other step is clean. -/
def Clean (s : RowState Tx Moment Note Value) : SessionStep Tx Moment → Prop
  | .commit t => ∀ read moment, s.phase t = .flushed read moment →
      (∀ c v, ss.assigned t moment c = some v → v = read c → s.row c = v) ∧
        ss.note t moment read = ss.note t moment s.row
  | _ => True

variable [∀ c, DecidableEq (Value c)] [DecidableEq Tx]

/-- After a commit the row and the notes are still those of a serial history exactly when the commit
was clean. -/
theorem serial_commit_iff {s : RowState Tx Moment Note Value} (hs : ss.Serial s) {t : Tx}
    {read : ∀ c, Value c} {moment : Moment} :
    ss.Serial {
        row := ((ss.assigned t moment).dirty read).applyTo s.row
        notes := s.notes ++ [ss.note t moment read]
        log := s.log ++ [(t, moment)]
        lock := if s.lock = some t then none else s.lock
        phase := Function.update s.phase t .committed } ↔
      (∀ c v, ss.assigned t moment c = some v → v = read c → s.row c = v) ∧
        ss.note t moment read = ss.note t moment s.row := by
  have hrow : ss.replay ss.first (s.log ++ [(t, moment)]) = (ss.assigned t moment).applyTo s.row := by
    rw [ss.replay_snoc, ← hs.row]
  have hnotes : ss.notesFrom ss.first (s.log ++ [(t, moment)]) =
      s.notes ++ [ss.note t moment s.row] := by
    rw [ss.notesFrom_snoc, ← hs.row, ← hs.notes]
  rw [← Assigned.applyTo_dirty_iff]
  constructor
  · intro h
    have hsame := h.notes
    rw [hnotes] at hsame
    exact ⟨h.row.trans hrow, List.singleton_inj.mp (List.append_cancel_left hsame)⟩
  · rintro ⟨hwritten, hnote⟩
    exact ⟨hwritten.trans hrow.symm, by rw [hnotes, hnote]⟩

variable [Fintype Column]

def next (s : RowState Tx Moment Note Value) : SessionStep Tx Moment →
    Option (RowState Tx Moment Note Value)
  | .load t =>
    match s.phase t with
    | .waiting => some { s with phase := Function.update s.phase t (.loaded s.row) }
    | _ => none
  | .flush t moment =>
    match s.phase t with
    | .loaded read =>
      if ((ss.assigned t moment).dirty read).Writes = true then
        match s.lock with
        | none =>
          some { s with
            lock := some t
            phase := Function.update s.phase t (.flushed read moment) }
        | some _ => none
      else some { s with phase := Function.update s.phase t (.flushed read moment) }
    | _ => none
  | .commit t =>
    match s.phase t with
    | .flushed read moment =>
      some {
        row := ((ss.assigned t moment).dirty read).applyTo s.row
        notes := s.notes ++ [ss.note t moment read]
        log := s.log ++ [(t, moment)]
        lock := if s.lock = some t then none else s.lock
        phase := Function.update s.phase t .committed }
    | _ => none
  | .rollback t =>
    match s.phase t with
    | .committed => none
    | .rolledBack => none
    | _ =>
      some { s with
        lock := if s.lock = some t then none else s.lock
        phase := Function.update s.phase t .rolledBack }

/-- Every interleaving of the sessions. -/
def system : System (RowState Tx Moment Note Value) (SessionStep Tx Moment) where
  start := fun s => s = ss.initial
  step := fun s l s' => ss.next s l = some s'

variable {ss} {s s' : RowState Tx Moment Note Value}

theorem next_cases {l : SessionStep Tx Moment} (h : ss.next s l = some s') :
    (∃ t, l = .load t ∧ s.phase t = .waiting ∧
      s' = { s with phase := Function.update s.phase t (.loaded s.row) }) ∨
    (∃ t moment read lock, l = .flush t moment ∧ s.phase t = .loaded read ∧
      (((ss.assigned t moment).dirty read).Writes = true ∧ s.lock = none ∧ lock = some t ∨
        ((ss.assigned t moment).dirty read).Writes = false ∧ lock = s.lock) ∧
      s' = { s with lock, phase := Function.update s.phase t (.flushed read moment) }) ∨
    (∃ t moment read, l = .commit t ∧ s.phase t = .flushed read moment ∧
      s' = {
        row := ((ss.assigned t moment).dirty read).applyTo s.row
        notes := s.notes ++ [ss.note t moment read]
        log := s.log ++ [(t, moment)]
        lock := if s.lock = some t then none else s.lock
        phase := Function.update s.phase t .committed }) ∨
    (∃ t, l = .rollback t ∧ s' = { s with
        lock := if s.lock = some t then none else s.lock
        phase := Function.update s.phase t .rolledBack }) := by
  cases l with
  | load t =>
    simp only [next] at h
    split at h
    case h_1 hphase =>
      cases h
      exact Or.inl ⟨t, rfl, hphase, rfl⟩
    case h_2 => cases h
  | flush t moment =>
    refine Or.inr (Or.inl ?_)
    simp only [next] at h
    split at h
    case h_1 read hphase =>
      split_ifs at h with hwrites
      · split at h
        case h_1 hlock =>
          cases h
          exact ⟨t, moment, read, some t, rfl, hphase, Or.inl ⟨hwrites, hlock, rfl⟩, rfl⟩
        case h_2 => cases h
      · cases h
        have hquiet := Bool.eq_false_iff.mpr hwrites
        exact ⟨t, moment, read, s.lock, rfl, hphase, Or.inr ⟨hquiet, rfl⟩, rfl⟩
    case h_2 => cases h
  | commit t =>
    simp only [next] at h
    split at h
    case h_1 read moment hphase =>
      cases h
      exact Or.inr (Or.inr (Or.inl ⟨t, moment, read, rfl, hphase, rfl⟩))
    case h_2 => cases h
  | rollback t =>
    simp only [next] at h
    split at h
    case h_1 => cases h
    case h_2 => cases h
    case h_3 =>
      cases h
      exact Or.inr (Or.inr (Or.inr ⟨t, rfl, rfl⟩))

/-! ## Serial histories -/

theorem serial_step_iff {l : SessionStep Tx Moment} (hs : ss.Serial s)
    (hstep : ss.system.step s l s') : ss.Serial s' ↔ ss.Clean s l := by
  obtain ⟨u, rfl, -, rfl⟩ | ⟨u, moment, read, lock, rfl, -, -, rfl⟩ |
    ⟨u, moment, read, rfl, hu, rfl⟩ | ⟨u, rfl, rfl⟩ := next_cases hstep
  · exact iff_of_true ⟨hs.row, hs.notes⟩ trivial
  · exact iff_of_true ⟨hs.row, hs.notes⟩ trivial
  · rw [serial_commit_iff ss hs]
    constructor
    · intro h read' moment' hphase
      rw [hu] at hphase
      cases hphase
      exact h
    · intro h
      exact h read moment hu
  · exact iff_of_true ⟨hs.row, hs.notes⟩ trivial

/-- The runs that stay serial are those whose commits are all clean. -/
theorem serial_throughout_iff {steps : List (RowState Tx Moment Note Value × SessionStep Tx Moment)}
    (h : ss.system.Run steps s) :
    ((∀ p ∈ steps, ss.Serial p.1) ∧ ss.Serial s) ↔ ∀ p ∈ steps, ss.Clean p.1 p.2 := by
  refine h.throughout_iff ?_ fun _ _ _ _ => serial_step_iff
  rintro s rfl
  exact .initial ss

end Sessions

end Foundations
