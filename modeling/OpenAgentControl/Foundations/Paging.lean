import Mathlib.Data.List.Basic

/-! # Catalogues in pages

A catalogue served in pages: each reply carries items and the cursor of the next page, the last one
none. A client follows the cursors it is given and stops at a reply without one. Its requests are
numbered, since the same request may be answered differently later, and any of them may fail.
- `Paged` says that the replies from a request on are these pages.
- `collect_eq_some_iff` says that what the client ends with is what it was served. -/

namespace Foundations
set_option autoImplicit false
set_option maxHeartbeats 250000

variable {κ α : Type}

structure Page (κ α : Type) where
  items : List α
  next : Option κ

/-- What the client has when it is done, from request `n` on, within so many requests. -/
def collect (ask : ℕ → Option κ → Option (Page κ α)) : ℕ → ℕ → Option κ → Option (List α)
  | 0, _, _ => none
  | fuel + 1, n, cursor =>
    match ask n cursor with
    | none => none
    | some page =>
      match page.next with
      | none => some page.items
      | some c => (collect ask fuel (n + 1) (some c)).map (page.items ++ ·)

/-- The client is done after finitely many requests, with these items. -/
def Completes (ask : ℕ → Option κ → Option (Page κ α)) (items : List α) : Prop :=
  ∃ fuel, collect ask fuel 0 none = some items

inductive Paged (ask : ℕ → Option κ → Option (Page κ α)) :
    ℕ → Option κ → List (Page κ α) → Prop
  | last {n : ℕ} {cursor : Option κ} {page : Page κ α} (hask : ask n cursor = some page)
      (hnext : page.next = none) : Paged ask n cursor [page]
  | more {n : ℕ} {cursor : Option κ} {page : Page κ α} {c : κ} {rest : List (Page κ α)}
      (hask : ask n cursor = some page) (hnext : page.next = some c)
      (hrest : Paged ask (n + 1) (some c) rest) : Paged ask n cursor (page :: rest)

variable {ask : ℕ → Option κ → Option (Page κ α)}

/-- The first page is the first reply, and it is the only one when it has no cursor. -/
theorem Paged.first {n : ℕ} {cursor : Option κ} {pages : List (Page κ α)}
    (h : Paged ask n cursor pages) :
    ∃ page rest, pages = page :: rest ∧ ask n cursor = some page ∧
      (page.next = none ↔ rest = []) := by
  cases h with
  | last hask hnext => exact ⟨_, [], rfl, hask, iff_of_true hnext rfl⟩
  | more hask hnext hrest =>
    refine ⟨_, _, rfl, hask, iff_of_false (by simp [hnext]) ?_⟩
    cases hrest with
    | last hask' hnext' => exact List.cons_ne_nil _ _
    | more hask' hnext' hrest' => exact List.cons_ne_nil _ _

theorem collect_eq_some_iff {fuel n : ℕ} {cursor : Option κ} {items : List α} :
    collect ask fuel n cursor = some items ↔
      ∃ pages, Paged ask n cursor pages ∧ pages.length ≤ fuel ∧ items = pages.flatMap Page.items := by
  induction fuel generalizing n cursor items with
  | zero =>
    refine iff_of_false (by simp [collect]) ?_
    rintro ⟨pages, hpaged, hlength, -⟩
    obtain ⟨page, rest, rfl, -⟩ := hpaged.first
    exact absurd hlength (Nat.not_succ_le_zero _)
  | succ fuel ih =>
    constructor
    · intro h
      rw [collect] at h
      cases hask : ask n cursor with
      | none =>
        rw [hask] at h
        cases h
      | some page =>
        rw [hask] at h
        simp only at h
        cases hnext : page.next with
        | none =>
          rw [hnext] at h
          refine ⟨[page], .last hask hnext, Nat.succ_le_succ (Nat.zero_le fuel), ?_⟩
          rw [List.flatMap_singleton]
          exact (Option.some.inj h).symm
        | some c =>
          rw [hnext] at h
          obtain ⟨others, hothers, rfl⟩ := Option.map_eq_some_iff.mp h
          obtain ⟨rest, hrest, hlength, rfl⟩ := ih.mp hothers
          exact ⟨page :: rest, .more hask hnext hrest, Nat.succ_le_succ hlength,
            List.flatMap_cons.symm⟩
    · rintro ⟨pages, hpaged, hlength, rfl⟩
      cases hpaged with
      | last hask hnext => simp only [collect, hask, hnext, List.flatMap_singleton]
      | more hask hnext hrest =>
        have hothers := ih.mpr ⟨_, hrest, Nat.le_of_succ_le_succ hlength, rfl⟩
        simp only [collect, hask, hnext, hothers, Option.map_some, List.flatMap_cons]

theorem completes_iff {items : List α} :
    Completes ask items ↔ ∃ pages, Paged ask 0 none pages ∧ items = pages.flatMap Page.items := by
  constructor
  · rintro ⟨fuel, h⟩
    obtain ⟨pages, hpaged, -, hitems⟩ := collect_eq_some_iff.mp h
    exact ⟨pages, hpaged, hitems⟩
  · rintro ⟨pages, hpaged, hitems⟩
    exact ⟨pages.length, collect_eq_some_iff.mpr ⟨pages, hpaged, Nat.le_refl _, hitems⟩⟩

/-- A client whose first reply has no cursor is done with it. -/
theorem completes_of_last {page : Page κ α} (hask : ask 0 none = some page)
    (hnext : page.next = none) : Completes ask page.items :=
  completes_iff.mpr ⟨[page], .last hask hnext, (List.flatMap_singleton Page.items page).symm⟩

theorem Paged.ends {n : ℕ} {cursor : Option κ} {pages : List (Page κ α)}
    (h : Paged ask n cursor pages) :
    ∃ m c page, ask m c = some page ∧ page.next = none := by
  induction h with
  | last hask hnext => exact ⟨_, _, _, hask, hnext⟩
  | more hask hnext hrest ih => exact ih

/-- A client that is always given a cursor goes on for ever. -/
theorem not_completes_of_next (h : ∀ n cursor page, ask n cursor = some page → page.next ≠ none)
    (items : List α) : ¬ Completes ask items := by
  intro hcompletes
  obtain ⟨pages, hpaged, -⟩ := completes_iff.mp hcompletes
  obtain ⟨n, cursor, page, hask, hnext⟩ := hpaged.ends
  exact h n cursor page hask hnext

theorem Completes.first {items : List α} (h : Completes ask items) :
    ∃ page, ask 0 none = some page := by
  obtain ⟨pages, hpaged, -⟩ := completes_iff.mp h
  obtain ⟨page, rest, -, hask, -⟩ := hpaged.first
  exact ⟨page, hask⟩

/-- A client whose first reply has no cursor has nothing but that reply. -/
theorem Completes.eq_of_last {items : List α} (h : Completes ask items) {page : Page κ α}
    (hask : ask 0 none = some page) (hnext : page.next = none) : items = page.items := by
  obtain ⟨pages, hpaged, rfl⟩ := completes_iff.mp h
  obtain ⟨page', rest, rfl, hask', hlast⟩ := hpaged.first
  rw [hask] at hask'
  cases hask'
  rw [hlast.mp hnext, List.flatMap_singleton]

end Foundations
