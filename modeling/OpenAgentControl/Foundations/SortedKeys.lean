import OpenAgentControl.Foundations.FirstWins
import Mathlib.Data.List.Sort

/-! # Items sorted by their keys

Sorting the items of a finite map by key changes what no key finds (`lookup_insertionSort`). With
distinct keys the sorted list is a normal form: two lists have the same one exactly when every key
finds the same in both (`insertionSort_eq_iff`). -/

namespace Foundations
set_option autoImplicit false
set_option maxHeartbeats 250000

variable {κ V : Type} [LinearOrder κ]

section Sorted

variable [DecidableRel fun a b : κ × V => a.1 ≤ b.1]

/-- Distinct keys stand in strictly increasing order. -/
theorem insertionSort_increasing {items : List (κ × V)} (h : (items.map Prod.fst).Nodup) :
    (items.insertionSort fun a b => a.1 ≤ b.1).Pairwise fun a b => a.1 < b.1 := by
  have htotal : Std.Total fun a b : κ × V => a.1 ≤ b.1 := ⟨fun a b => le_total a.1 b.1⟩
  have htrans : IsTrans (κ × V) fun a b => a.1 ≤ b.1 := ⟨fun _ _ _ => le_trans⟩
  have hperm := List.perm_insertionSort (fun a b : κ × V => a.1 ≤ b.1) items
  have hdistinct := List.pairwise_map.mp ((hperm.map Prod.fst).nodup_iff.mpr h)
  have hsorted := List.pairwise_insertionSort (fun a b : κ × V => a.1 ≤ b.1) items
  exact hsorted.imp₂ (fun a b hle hne => lt_of_le_of_ne hle hne) hdistinct

end Sorted

variable [BEq κ] [LawfulBEq κ]

theorem eq_of_lookup_eq {xs ys : List (κ × V)} (hx : xs.Pairwise fun a b => a.1 < b.1)
    (hy : ys.Pairwise fun a b => a.1 < b.1) (h : ∀ k, xs.lookup k = ys.lookup k) : xs = ys := by
  have hxs : (xs.map Prod.fst).Nodup := List.pairwise_map.mpr (hx.imp fun hlt => hlt.ne)
  have hys : (ys.map Prod.fst).Nodup := List.pairwise_map.mpr (hy.imp fun hlt => hlt.ne)
  have hirrefl : Std.Irrefl fun a b : κ × V => a.1 < b.1 := ⟨fun a => lt_irrefl a.1⟩
  have hantisymm : Std.Antisymm fun a b : κ × V => a.1 < b.1 :=
    ⟨fun a b hab hba => absurd hab hba.asymm⟩
  refine hx.eq_of_mem_iff hy fun ⟨k, v⟩ => ?_
  rw [← lookup_eq_some_iff_mem hxs, ← lookup_eq_some_iff_mem hys, h]

variable [DecidableRel fun a b : κ × V => a.1 ≤ b.1]

theorem lookup_orderedInsert (k : κ) (a : κ × V) (items : List (κ × V)) :
    (items.orderedInsert (fun a b => a.1 ≤ b.1) a).lookup k =
      if k = a.1 then some a.2 else items.lookup k := by
  induction items with
  | nil => exact lookup_cons_if k a.1 a.2 []
  | cons b rest ih =>
    rw [List.orderedInsert]
    by_cases hle : a.1 ≤ b.1
    · rw [if_pos hle, lookup_cons_if]
    · rw [if_neg hle, lookup_cons_if, ih, lookup_cons_if k b.1 b.2 rest]
      by_cases hkb : k = b.1
      · have hka : k ≠ a.1 := fun hka => hle (hka.symm.trans hkb).le
        rw [if_pos hkb, if_neg hka, if_pos hkb]
      · rw [if_neg hkb, if_neg hkb]

theorem lookup_insertionSort (k : κ) (items : List (κ × V)) :
    (items.insertionSort fun a b => a.1 ≤ b.1).lookup k = items.lookup k := by
  induction items with
  | nil => rfl
  | cons a rest ih => rw [List.insertionSort_cons, lookup_orderedInsert, ih, ← lookup_cons_if]

theorem insertionSort_eq_iff {xs ys : List (κ × V)} (hx : (xs.map Prod.fst).Nodup)
    (hy : (ys.map Prod.fst).Nodup) :
    (xs.insertionSort fun a b => a.1 ≤ b.1) = (ys.insertionSort fun a b => a.1 ≤ b.1) ↔
      ∀ k, xs.lookup k = ys.lookup k := by
  constructor
  · intro h k
    rw [← lookup_insertionSort k xs, h, lookup_insertionSort]
  · intro h
    refine eq_of_lookup_eq (insertionSort_increasing hx) (insertionSort_increasing hy) fun k => ?_
    rw [lookup_insertionSort, lookup_insertionSort, h]

end Foundations
