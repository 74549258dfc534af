import Mathlib.Algebra.Ring.Nat
import Mathlib.Data.List.Basic
import Mathlib.Tactic.Common

/-! # Dates and times, and the ISO 8601 text they serialise to

A `datetime` is its fields and, when it is aware, its offset from UTC in minutes. The JSON form
leaves the fraction out when the microseconds are zero, and writes `Z` for the zero offset; it
loses nothing (`isoformat_inj`). -/

namespace Foundations
set_option autoImplicit false
set_option maxHeartbeats 250000

def isLeap (year : ℕ) : Prop := year % 4 = 0 ∧ (year % 100 ≠ 0 ∨ year % 400 = 0)

instance (year : ℕ) : Decidable (isLeap year) := inferInstanceAs (Decidable (_ ∧ _))

def daysInMonth (year month : ℕ) : ℕ :=
  if month = 2 then if isLeap year then 29 else 28
  else if month = 4 ∨ month = 6 ∨ month = 9 ∨ month = 11 then 30
  else 31

theorem daysInMonth_le (year month : ℕ) : daysInMonth year month ≤ 31 := by
  unfold daysInMonth
  split_ifs <;> omega

/-- A `datetime`; `utcoffset` is `none` when it is naive. -/
structure DateTime where
  year : ℕ
  month : ℕ
  day : ℕ
  hour : ℕ
  minute : ℕ
  second : ℕ
  microsecond : ℕ
  utcoffset : Option ℤ
  date_valid : 1 ≤ year ∧ year < 10000 ∧ 1 ≤ month ∧ month ≤ 12 ∧ 1 ≤ day ∧
    day ≤ daysInMonth year month
  time_valid : hour < 24 ∧ minute < 60 ∧ second < 60 ∧ microsecond < 1000000
  offset_valid : ∀ o ∈ utcoffset, -1440 < o ∧ o < 1440
deriving DecidableEq

/-- `n` in `width` decimal digits. -/
def padded : ℕ → ℕ → List Char
  | 0, _ => []
  | width + 1, n => padded width (n / 10) ++ [Nat.digitChar (n % 10)]

def fractionText (microsecond : ℕ) : List Char :=
  if microsecond = 0 then [] else '.' :: padded 6 microsecond

def offsetSign (o : ℤ) : Char := if o < 0 then '-' else '+'

def offsetText : Option ℤ → List Char
  | none => []
  | some o =>
    if o = 0 then ['Z']
    else offsetSign o :: (padded 2 (o.natAbs / 60) ++ ':' :: padded 2 (o.natAbs % 60))

namespace DateTime

def isoformat (t : DateTime) : List Char :=
  padded 4 t.year ++ '-' :: (padded 2 t.month ++ '-' :: (padded 2 t.day ++ 'T' ::
    (padded 2 t.hour ++ ':' :: (padded 2 t.minute ++ ':' :: (padded 2 t.second ++
      (fractionText t.microsecond ++ offsetText t.utcoffset))))))

theorem utc_valid : ∀ o ∈ (some 0 : Option ℤ), -1440 < o ∧ o < 1440 := by
  intro o ho
  cases ho
  decide

/-- `t.replace(tzinfo=UTC)`. -/
def replaceUtc (t : DateTime) : DateTime :=
  { t with
    utcoffset := some 0
    offset_valid := utc_valid }

/-- `t if t.tzinfo else t.replace(tzinfo=UTC)`. -/
def asUtc (t : DateTime) : DateTime := if t.utcoffset.isSome then t else t.replaceUtc

end DateTime

/-! ## The text determines the value -/

theorem length_padded (width n : ℕ) : (padded width n).length = width := by
  induction width generalizing n with
  | zero => rfl
  | succ width ih => rw [padded, List.length_append, ih, List.length_singleton]

theorem digitChar_inj :
    ∀ m < 10, ∀ n < 10, Nat.digitChar m = Nat.digitChar n → m = n := by
  decide

theorem padded_inj {width m n : ℕ} (hm : m < 10 ^ width) (hn : n < 10 ^ width)
    (h : padded width m = padded width n) : m = n := by
  induction width generalizing m n with
  | zero =>
    rw [pow_zero] at hm hn
    omega
  | succ width ih =>
    obtain ⟨hhigh, hlast⟩ := List.append_inj' h rfl
    have hdigit : m % 10 = n % 10 :=
      digitChar_inj _ (Nat.mod_lt _ (by decide)) _ (Nat.mod_lt _ (by decide))
        (List.cons.inj hlast).1
    have hrest : m / 10 = n / 10 := by
      apply ih
      · rw [Nat.div_lt_iff_lt_mul (by decide), ← pow_succ]
        exact hm
      · rw [Nat.div_lt_iff_lt_mul (by decide), ← pow_succ]
        exact hn
      · exact hhigh
    omega

/-- Fields of one width are told apart, and so is what follows them. -/
theorem padded_append_inj {width m n : ℕ} {r s : List Char} (hm : m < 10 ^ width)
    (hn : n < 10 ^ width) (h : padded width m ++ r = padded width n ++ s) : m = n ∧ r = s := by
  obtain ⟨hfield, hrest⟩ := List.append_inj h (by rw [length_padded, length_padded])
  exact ⟨padded_inj hm hn hfield, hrest⟩

theorem offsetSign_ne (o : ℤ) : offsetSign o ≠ 'Z' ∧ offsetSign o ≠ '.' := by
  unfold offsetSign
  split_ifs
  · decide
  · decide

theorem offsetText_head {o : Option ℤ} {c : Char} {rest : List Char}
    (h : offsetText o = c :: rest) : c ≠ '.' := by
  cases o with
  | none => cases h
  | some o =>
    simp only [offsetText] at h
    split_ifs at h
    · rw [← (List.cons.inj h).1]
      decide
    · rw [← (List.cons.inj h).1]
      exact (offsetSign_ne o).2

theorem offsetText_some (o : ℤ) : offsetText (some o) ≠ [] := by
  simp only [offsetText]
  split_ifs
  · exact List.cons_ne_nil _ _
  · exact List.cons_ne_nil _ _

theorem fraction_offset_inj {a b : ℕ} {o p : Option ℤ} (ha : a < 1000000) (hb : b < 1000000)
    (h : fractionText a ++ offsetText o = fractionText b ++ offsetText p) :
    a = b ∧ offsetText o = offsetText p := by
  unfold fractionText at h
  split_ifs at h with ha0 hb0 hb0
  · exact ⟨by omega, h⟩
  · exact absurd rfl (offsetText_head h)
  · exact absurd rfl (offsetText_head h.symm)
  · exact padded_append_inj ha hb (List.cons.inj h).2

theorem offsetText_some_inj {x y : ℤ} (hx : -1440 < x ∧ x < 1440) (hy : -1440 < y ∧ y < 1440)
    (h : offsetText (some x) = offsetText (some y)) : x = y := by
  simp only [offsetText] at h
  split_ifs at h with hx0 hy0 hy0
  · rw [hx0, hy0]
  · exact absurd (List.cons.inj h).1.symm (offsetSign_ne y).1
  · exact absurd (List.cons.inj h).1 (offsetSign_ne x).1
  · obtain ⟨hsign, hdigits⟩ := List.cons.inj h
    obtain ⟨hhours, hrest⟩ := padded_append_inj (by omega) (by omega) hdigits
    have hminutes := padded_inj (by omega) (by omega) (List.cons.inj hrest).2
    unfold offsetSign at hsign
    split_ifs at hsign with hxn hyn hyn
    · omega
    · exact absurd hsign (by decide)
    · exact absurd hsign (by decide)
    · omega

theorem offsetText_inj {o p : Option ℤ} (ho : ∀ x ∈ o, -1440 < x ∧ x < 1440)
    (hp : ∀ x ∈ p, -1440 < x ∧ x < 1440) (h : offsetText o = offsetText p) : o = p := by
  cases o with
  | none =>
    cases p with
    | none => rfl
    | some y => exact absurd h.symm (offsetText_some y)
  | some x =>
    cases p with
    | none => exact absurd h (offsetText_some x)
    | some y => rw [offsetText_some_inj (ho x rfl) (hp y rfl) h]

namespace DateTime

theorem isoformat_inj {a b : DateTime} (h : a.isoformat = b.isoformat) : a = b := by
  have aday := a.date_valid
  have bday := b.date_valid
  have alast := daysInMonth_le a.year a.month
  have blast := daysInMonth_le b.year b.month
  have at' := a.time_valid
  have bt := b.time_valid
  obtain ⟨hyear, h⟩ := padded_append_inj (by omega) (by omega) h
  obtain ⟨hmonth, h⟩ := padded_append_inj (by omega) (by omega) (List.cons.inj h).2
  obtain ⟨hday, h⟩ := padded_append_inj (by omega) (by omega) (List.cons.inj h).2
  obtain ⟨hhour, h⟩ := padded_append_inj (by omega) (by omega) (List.cons.inj h).2
  obtain ⟨hminute, h⟩ := padded_append_inj (by omega) (by omega) (List.cons.inj h).2
  obtain ⟨hsecond, h⟩ := padded_append_inj (by omega) (by omega) (List.cons.inj h).2
  obtain ⟨hmicro, h⟩ := fraction_offset_inj at'.2.2.2 bt.2.2.2 h
  have hoffset := offsetText_inj a.offset_valid b.offset_valid h
  cases a
  cases b
  simp only [DateTime.mk.injEq]
  exact ⟨hyear, hmonth, hday, hhour, hminute, hsecond, hmicro, hoffset⟩

theorem asUtc_of_aware {t : DateTime} (h : t.utcoffset.isSome = true) : t.asUtc = t :=
  if_pos h

/-! ## Instants -/

/-- The days of a year before one of its months, when February has 28. -/
def daysBefore (month : ℕ) : ℕ :=
  [0, 31, 59, 90, 120, 151, 181, 212, 243, 273, 304, 334].getD (month - 1) 0

def leapDay (year month : ℕ) : ℕ :=
  if 2 < month ∧ isLeap year then 1 else 0

/-- `t.toordinal()`: the first of January of the year 1 is day 1. -/
def toordinal (t : DateTime) : ℤ :=
  let past : ℤ := t.year - 1
  past * 365 + past / 4 - past / 100 + past / 400 + daysBefore t.month + leapDay t.year t.month +
    t.day

/-- The microseconds since the day before the first; a naive time is read as one in UTC. -/
def instant (t : DateTime) : ℤ :=
  (((t.toordinal * 24 + t.hour) * 60 + t.minute - t.utcoffset.getD 0) * 60 + t.second) * 1000000 +
    t.microsecond

/-- The instants that a `datetime` in UTC can have. -/
def Representable (instant : ℤ) : Prop :=
  86400000000 ≤ instant ∧ instant < 3652060 * 86400000000

instance (instant : ℤ) : Decidable (Representable instant) := inferInstanceAs (Decidable (_ ∧ _))

end DateTime

end Foundations
