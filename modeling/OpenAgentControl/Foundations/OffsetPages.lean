import Mathlib.Data.List.Basic

/-! # Pages cut at an offset

A list that is read a page at a time, the newest entry first, while entries are still being added in
front. What is added pushes the rest back, never forward; so a reader that goes on to a page that is
not full has seen every entry that was there when it began (`mem_pages_of_short`). In a list that stays
as it is the pages are its segments (`flatten_pages_still`). -/

namespace Foundations
set_option autoImplicit false
set_option maxHeartbeats 250000

variable {α : Type}

/-- Page `n`, for pages of `limit` entries. -/
def page (limit n : ℕ) (xs : List α) : List α := (xs.drop (n * limit)).take limit

/-- The pages from `n` on, each of the list as it is by then. -/
def pages (limit : ℕ) : ℕ → List (List α) → List (List α)
  | _, [] => []
  | n, view :: views => page limit n view :: pages limit (n + 1) views

/-- Entries are only ever added, and in front. -/
def Pushes (views : List (List α)) : Prop := views.IsChain fun view view' => view <:+ view'

variable {limit n : ℕ} {view : List α} {views : List (List α)} {x : α}

/-- An entry that no page up to `n` has shown is behind them, and is on page `n` or behind it too. -/
theorem mem_page_or_behind (x : α) (back : List α) {front : List α}
    (hbehind : n * limit ≤ front.length) :
    x ∈ page limit n (front ++ x :: back) ∨ (n + 1) * limit ≤ front.length := by
  by_cases hlast : (n + 1) * limit ≤ front.length
  · exact Or.inr hlast
  · refine Or.inl ?_
    rw [Nat.add_mul, Nat.one_mul, Nat.not_le] at hlast
    rw [page, List.drop_append_of_le_length hbehind, List.take_append, List.mem_append]
    refine Or.inr ?_
    have hroom : 0 < limit - (front.drop (n * limit)).length := by
      rw [List.length_drop]
      omega
    obtain ⟨room, hroom⟩ := Nat.exists_eq_succ_of_ne_zero (Nat.ne_of_gt hroom)
    rw [hroom, List.take_succ_cons]
    exact List.mem_cons_self

theorem length_page_of_behind (h : (n + 1) * limit ≤ view.length) :
    (page limit n view).length = limit := by
  rw [Nat.add_mul, Nat.one_mul] at h
  rw [page, List.length_take, List.length_drop]
  omega

/-- By induction on the views: an entry not yet shown is behind the pages read so far, in every later
view; behind the last page nothing is left when that page is not full. -/
theorem mem_pages_of_behind {front back : List α} (hpushes : Pushes (view :: views))
    (hview : view = front ++ x :: back) (hbehind : n * limit ≤ front.length)
    (hshort : ∀ last ∈ (pages limit n (view :: views)).getLast?, last.length < limit) :
    ∃ shown ∈ pages limit n (view :: views), x ∈ shown := by
  induction views generalizing n view front with
  | nil =>
    obtain hmem | hbehind' := mem_page_or_behind x back hbehind
    · exact ⟨_, List.mem_cons_self, hview ▸ hmem⟩
    · have hfull : (page limit n view).length = limit := by
        apply length_page_of_behind
        rw [hview, List.length_append]
        omega
      exact absurd (hshort _ rfl) (Nat.not_lt.mpr (Nat.le_of_eq hfull.symm))
  | cons view' views ih =>
    obtain hmem | hbehind' := mem_page_or_behind x back hbehind
    · exact ⟨_, List.mem_cons_self, hview ▸ hmem⟩
    · obtain ⟨⟨added, hadded⟩, hrest⟩ := List.isChain_cons_cons.mp hpushes
      have hview' : view' = (added ++ front) ++ x :: back := by
        rw [← hadded, hview, List.append_assoc]
      have hlater : (n + 1) * limit ≤ (added ++ front).length := by
        rw [List.length_append]
        omega
      have hshort' : ∀ last ∈ (pages limit (n + 1) (view' :: views)).getLast?, last.length < limit :=
        fun last hlast => hshort last (by rw [pages, pages, List.getLast?_cons_cons]; exact hlast)
      obtain ⟨shown, hshown, hx⟩ := ih hrest hview' hlater hshort'
      exact ⟨shown, List.mem_cons_of_mem _ hshown, hx⟩

theorem mem_pages_of_short (hpushes : Pushes (view :: views)) (hx : x ∈ view)
    (hshort : ∀ last ∈ (pages limit 0 (view :: views)).getLast?, last.length < limit) :
    ∃ shown ∈ pages limit 0 (view :: views), x ∈ shown := by
  obtain ⟨front, back, hview⟩ := List.append_of_mem hx
  exact mem_pages_of_behind hpushes hview (by rw [Nat.zero_mul]; exact Nat.zero_le _) hshort

theorem flatten_pages_still (hstill : ∀ view' ∈ views, view' = view) :
    (pages limit n views).flatten = (view.drop (n * limit)).take (views.length * limit) := by
  induction views generalizing n with
  | nil => simp [pages]
  | cons view' views ih =>
    obtain ⟨rfl, hrest⟩ := List.forall_mem_cons.mp hstill
    rw [pages, List.flatten_cons, ih hrest, page, List.length_cons, Nat.add_mul, Nat.add_mul, Nat.one_mul,
      Nat.add_comm (views.length * limit), List.take_add, List.drop_drop]

end Foundations
