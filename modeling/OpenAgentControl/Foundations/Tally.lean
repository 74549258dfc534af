import OpenAgentControl.Foundations.FirstWins
import Mathlib.Algebra.BigOperators.Group.List.Basic
import Mathlib.Algebra.Ring.Nat
import Mathlib.Data.List.Dedup
import Mathlib.Data.List.Induction
import Mathlib.Data.List.Sort
import Mathlib.Tactic.Common

/-! # Counting what occurs in a list

A tally pairs every element with how often it occurs, in the order of their first occurrences. Its
`mostCommon n` keeps the `n` largest counts, of equal ones the earlier.
- `exact_tally`: a tally is exact.
- `exact_mostCommon_iff`: its most common part is exact when there are at most `n` elements. -/

namespace Foundations
set_option autoImplicit false
set_option maxHeartbeats 250000

variable {α : Type} [DecidableEq α]

def countOne (a : α) : List (α × ℕ) → List (α × ℕ)
  | [] => [(a, 1)]
  | (b, n) :: counts => if b = a then (b, n + 1) :: counts else (b, n) :: countOne a counts

def tally (xs : List α) : List (α × ℕ) := xs.foldl (fun counts a => countOne a counts) []

def mostCommon (n : ℕ) (counts : List (α × ℕ)) : List (α × ℕ) :=
  (counts.insertionSort fun p q => q.2 ≤ p.2).take n

/-- Every element with its count, and nothing else. -/
structure ExactCounts (counts : List (α × ℕ)) (xs : List α) : Prop where
  counted : ∀ a ∈ xs, counts.lookup a = some (xs.count a)
  only : ∀ a, a ∉ xs → counts.lookup a = none
  total : (counts.map Prod.snd).sum = xs.length

/-! ## Tallies -/

theorem tally_append (xs : List α) (a : α) : tally (xs ++ [a]) = countOne a (tally xs) := by
  simp [tally]

theorem lookup_countOne (a b : α) (counts : List (α × ℕ)) :
    (countOne a counts).lookup b =
      if b = a then some ((counts.lookup a).getD 0 + 1) else counts.lookup b := by
  induction counts with
  | nil => simp [countOne, lookup_cons_if]
  | cons p counts ih =>
    obtain ⟨c, n⟩ := p
    by_cases hc : c = a
    · subst hc
      rw [countOne, if_pos rfl, lookup_cons_if, lookup_cons_if c, lookup_cons_if b]
      by_cases h : b = c
      · simp [h]
      · simp [h]
    · simp only [countOne, if_neg hc, lookup_cons_if, ih, if_neg (Ne.symm hc)]
      by_cases h : b = c
      · simp [h, hc]
      · simp [h]

theorem keys_countOne (a : α) (counts : List (α × ℕ)) :
    (countOne a counts).map Prod.fst =
      if a ∈ counts.map Prod.fst then counts.map Prod.fst else counts.map Prod.fst ++ [a] := by
  induction counts with
  | nil => simp [countOne]
  | cons p counts ih =>
    obtain ⟨c, n⟩ := p
    by_cases hc : c = a
    · simp [countOne, hc]
    · rw [countOne, if_neg hc, List.map_cons, List.map_cons, ih]
      by_cases ha : a ∈ counts.map Prod.fst
      · simp [ha]
      · simp [ha, Ne.symm hc]

theorem sum_countOne (a : α) (counts : List (α × ℕ)) :
    ((countOne a counts).map Prod.snd).sum = (counts.map Prod.snd).sum + 1 := by
  induction counts with
  | nil => simp [countOne]
  | cons p counts ih =>
    obtain ⟨c, n⟩ := p
    by_cases hc : c = a
    · simp only [countOne, if_pos hc, List.map_cons, List.sum_cons]
      omega
    · simp only [countOne, if_neg hc, List.map_cons, List.sum_cons, ih]
      omega

theorem nodup_keys_tally (xs : List α) : ((tally xs).map Prod.fst).Nodup := by
  induction xs using List.reverseRecOn with
  | nil => simp [tally]
  | append_singleton xs a ih =>
    rw [tally_append, keys_countOne]
    split_ifs with h
    · exact ih
    · refine List.nodup_append.mpr ⟨ih, by simp, ?_⟩
      rintro b hb c hc rfl
      rw [List.mem_singleton.mp hc] at hb
      exact h hb

theorem exact_tally (xs : List α) : ExactCounts (tally xs) xs := by
  induction xs using List.reverseRecOn with
  | nil => exact ⟨by simp, by simp [tally], by simp [tally]⟩
  | append_singleton xs a ih =>
    have hcount : ((tally xs).lookup a).getD 0 = xs.count a := by
      by_cases ha : a ∈ xs
      · rw [ih.counted a ha, Option.getD_some]
      · rw [ih.only a ha, Option.getD_none, List.count_eq_zero.mpr ha]
    constructor
    · intro b hb
      rw [tally_append, lookup_countOne, hcount, List.count_append]
      by_cases h : b = a
      · subst h
        simp
      · have hxs : b ∈ xs := by simpa [h] using hb
        simp [h, ih.counted b hxs, Ne.symm h]
    · intro b hb
      have hb' : b ∉ xs ∧ b ≠ a := by simpa using hb
      rw [tally_append, lookup_countOne, if_neg hb'.2, ih.only b hb'.1]
    · rw [tally_append, sum_countOne, ih.total, List.length_append, List.length_singleton]

/-! ## The most common part -/

theorem perm_keys {counts : List (α × ℕ)} {xs : List α} (h : ExactCounts counts xs)
    (hkeys : (counts.map Prod.fst).Nodup) : (counts.map Prod.fst).Perm xs.dedup := by
  refine (List.perm_ext_iff_of_nodup hkeys xs.nodup_dedup).mpr fun a => ?_
  rw [List.mem_dedup]
  constructor
  · intro ha
    by_contra habs
    have hnone := h.only a habs
    rw [List.lookup_eq_none_iff] at hnone
    obtain ⟨p, hp, rfl⟩ := List.mem_map.mp ha
    simpa using hnone p hp
  · intro ha
    have hsome := h.counted a ha
    obtain ⟨before, after, hcounts, -⟩ := List.lookup_eq_some_iff.mp hsome
    simp [hcounts]

theorem length_eq_of_exact {counts : List (α × ℕ)} {xs : List α} (h : ExactCounts counts xs)
    (hkeys : (counts.map Prod.fst).Nodup) : counts.length = xs.dedup.length := by
  rw [← (perm_keys h hkeys).length_eq, List.length_map]

theorem ExactCounts.perm {counts counts' : List (α × ℕ)} {xs : List α} (h : ExactCounts counts xs)
    (hkeys : (counts.map Prod.fst).Nodup) (hperm : counts.Perm counts') : ExactCounts counts' xs where
  counted := fun a ha => (lookup_perm hperm hkeys a).symm.trans (h.counted a ha)
  only := fun a ha => (lookup_perm hperm hkeys a).symm.trans (h.only a ha)
  total := (hperm.map Prod.snd).sum_eq.symm.trans h.total

omit [DecidableEq α] in
theorem sorted_perm (counts : List (α × ℕ)) :
    counts.Perm (counts.insertionSort fun p q => q.2 ≤ p.2) :=
  (List.perm_insertionSort _ counts).symm

/-- The cut loses nothing exactly when no more elements occur than it keeps. -/
theorem exact_mostCommon_iff {n : ℕ} {xs : List α} :
    ExactCounts (mostCommon n (tally xs)) xs ↔ xs.dedup.length ≤ n := by
  have hkeys := nodup_keys_tally xs
  have hperm := sorted_perm (tally xs)
  have hlength : ((tally xs).insertionSort fun p q => q.2 ≤ p.2).length = xs.dedup.length :=
    hperm.length_eq.symm.trans (length_eq_of_exact (exact_tally xs) hkeys)
  constructor
  · intro h
    have hkept : ((mostCommon n (tally xs)).map Prod.fst).Nodup := by
      have hsorted := (hperm.map Prod.fst).nodup_iff.mp hkeys
      exact hsorted.sublist ((List.take_sublist n _).map Prod.fst)
    rw [← length_eq_of_exact h hkept]
    exact List.length_take_le n _
  · intro h
    have hall : mostCommon n (tally xs) = (tally xs).insertionSort fun p q => q.2 ≤ p.2 :=
      List.take_of_length_le (by omega)
    rw [hall]
    exact (exact_tally xs).perm hkeys hperm

theorem exactCounts_congr {counts : List (α × ℕ)} {xs ys : List α} (h : xs.Perm ys)
    (hx : ExactCounts counts xs) : ExactCounts counts ys where
  counted := fun a ha => h.count_eq a ▸ hx.counted a (h.mem_iff.mpr ha)
  only := fun a ha => hx.only a fun habs => ha (h.mem_iff.mp habs)
  total := hx.total.trans h.length_eq

theorem exact_mostCommon_perm_iff {n : ℕ} {xs ys : List α} (h : xs.Perm ys) :
    ExactCounts (mostCommon n (tally xs)) ys ↔ ys.dedup.length ≤ n := by
  rw [← h.dedup.length_eq, ← exact_mostCommon_iff]
  exact ⟨exactCounts_congr h.symm, exactCounts_congr h⟩

theorem length_dedup_le {xs ys : List α} (h : xs ⊆ ys) : xs.dedup.length ≤ ys.dedup.length := by
  have hsubset : xs.dedup ⊆ ys.dedup := by
    intro a ha
    exact List.mem_dedup.mpr (h (List.mem_dedup.mp ha))
  exact (List.subperm_of_subset xs.nodup_dedup hsubset).length_le

theorem ExactCounts.getD_lookup {counts : List (α × ℕ)} {xs : List α} (h : ExactCounts counts xs)
    (a : α) : (counts.lookup a).getD 0 = xs.count a := by
  by_cases ha : a ∈ xs
  · rw [h.counted a ha, Option.getD_some]
  · rw [h.only a ha, List.count_eq_zero.mpr ha, Option.getD_none]

/-- A tally of the first `n` is one of all exactly when there are no more than these. -/
theorem exact_tally_take_iff {n : ℕ} {xs ys : List α} (h : xs.Perm ys) :
    ExactCounts (tally (xs.take n)) ys ↔ ys.length ≤ n := by
  constructor
  · intro hexact
    have htotal := hexact.total
    rw [(exact_tally (xs.take n)).total, List.length_take, h.length_eq] at htotal
    omega
  · intro hlength
    rw [List.take_of_length_le (h.length_eq.trans_le hlength)]
    exact exactCounts_congr h (exact_tally xs)

end Foundations
