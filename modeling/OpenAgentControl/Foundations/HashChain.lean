import OpenAgentControl.Foundations.Transition
import Mathlib.Data.List.Nodup
import Mathlib.Data.List.Induction

/-! # Hash chains

Blocks that name the hash of the block before them. Nothing is assumed about the hash itself; where
a result needs it, the links of the blocks at hand are distinct and none of them is the starting
hash. The main results are

* `headFrom_inj`, a head commits to the whole chain that leads to it;
* `Linked.previous_nodup`, no two blocks of a chain name the same hash;
* `Linked.isPrefix_of_subset`, a chain made of the blocks of another one is its initial segment;
* `linked_of_reachable`, every state of the append-only log is a chain.
-/

namespace Foundations
set_option autoImplicit false
set_option maxHeartbeats 250000

/-- How blocks are chained: the hash a block names, and the hash the next one must name. -/
structure Chaining (Block Hash : Type) where
  previous : Block → Hash
  link : Block → Hash

namespace Chaining

variable {Block Hash : Type} (c : Chaining Block Hash)

/-- The hash the next block must name. -/
def headFrom : Hash → List Block → Hash
  | genesis, [] => genesis
  | _, b :: bs => headFrom (c.link b) bs

/-- Every block names the hash that stands before it. -/
def Linked : Hash → List Block → Prop
  | _, [] => True
  | genesis, b :: bs => c.previous b = genesis ∧ Linked (c.link b) bs

/-- The hash of the blocks at hand separates them from each other and from the start. -/
structure Separates (genesis : Hash) (blocks : List Block) : Prop where
  link_inj : ∀ a ∈ blocks, ∀ b ∈ blocks, c.link a = c.link b → a = b
  link_ne_genesis : ∀ a ∈ blocks, c.link a ≠ genesis

variable {c} {genesis : Hash}

@[simp] theorem headFrom_append (xs ys : List Block) :
    c.headFrom genesis (xs ++ ys) = c.headFrom (c.headFrom genesis xs) ys := by
  induction xs generalizing genesis with
  | nil => rfl
  | cons x xs ih => exact ih

theorem headFrom_snoc (xs : List Block) (b : Block) :
    c.headFrom genesis (xs ++ [b]) = c.link b := by
  rw [headFrom_append]
  rfl

theorem linked_append (xs ys : List Block) :
    c.Linked genesis (xs ++ ys) ↔ c.Linked genesis xs ∧ c.Linked (c.headFrom genesis xs) ys := by
  induction xs generalizing genesis with
  | nil => simp [Linked, headFrom]
  | cons x xs ih => simp [Linked, headFrom, ih, and_assoc]

theorem headFrom_eq_getLast (xs : List Block) :
    c.headFrom genesis xs = (xs.getLast?.map c.link).getD genesis := by
  cases xs using List.reverseRecOn with
  | nil => rfl
  | append_singleton xs a =>
    rw [headFrom_snoc, List.getLast?_append]
    rfl

theorem Linked.previous_succ {xs : List Block} (h : c.Linked genesis xs) {i : ℕ} {a b : Block}
    (ha : xs[i]? = some a) (hb : xs[i + 1]? = some b) : c.previous b = c.link a := by
  induction xs generalizing genesis i with
  | nil => cases ha
  | cons x xs ih =>
    cases i with
    | zero =>
      cases ha
      cases xs with
      | nil => cases hb
      | cons y ys =>
        cases hb
        exact h.2.1
    | succ i => exact ih h.2 ha hb

theorem Linked.previous_first {xs : List Block} (h : c.Linked genesis xs) {b : Block}
    (hb : xs[0]? = some b) : c.previous b = genesis := by
  cases xs with
  | nil => cases hb
  | cons x xs =>
    cases hb
    exact h.1

theorem Linked.snoc {xs : List Block} {b : Block} (h : c.Linked genesis xs)
    (hb : c.previous b = c.headFrom genesis xs) : c.Linked genesis (xs ++ [b]) :=
  (linked_append xs [b]).mpr ⟨h, hb, trivial⟩

theorem Linked.take {xs : List Block} (h : c.Linked genesis xs) (k : ℕ) :
    c.Linked genesis (xs.take k) := by
  rw [← List.take_append_drop k xs, linked_append] at h
  exact h.1

theorem Linked.previous_eq {pre post : List Block} {b : Block}
    (h : c.Linked genesis (pre ++ b :: post)) : c.previous b = c.headFrom genesis pre :=
  ((linked_append pre (b :: post)).mp h).2.1

theorem Separates.mono {xs ys : List Block} (h : c.Separates genesis ys) (hsub : xs ⊆ ys) :
    c.Separates genesis xs :=
  ⟨fun a ha b hb => h.link_inj a (hsub ha) b (hsub hb), fun a ha => h.link_ne_genesis a (hsub ha)⟩

/-- A head commits to the whole chain that leads to it. -/
theorem headFrom_inj {blocks : List Block} (hsep : c.Separates genesis blocks)
    {xs ys : List Block} (hxs : c.Linked genesis xs) (hys : c.Linked genesis ys)
    (hx : xs ⊆ blocks) (hy : ys ⊆ blocks)
    (h : c.headFrom genesis xs = c.headFrom genesis ys) : xs = ys := by
  induction xs using List.reverseRecOn generalizing ys with
  | nil =>
    cases ys using List.reverseRecOn with
    | nil => rfl
    | append_singleton ys b =>
      rw [headFrom_snoc] at h
      exact absurd h.symm (hsep.link_ne_genesis b (hy (by simp)))
  | append_singleton xs a ih =>
    cases ys using List.reverseRecOn with
    | nil =>
      rw [headFrom_snoc] at h
      exact absurd h (hsep.link_ne_genesis a (hx (by simp)))
    | append_singleton ys b =>
      rw [headFrom_snoc, headFrom_snoc] at h
      have hab : a = b := hsep.link_inj a (hx (by simp)) b (hy (by simp)) h
      subst hab
      -- the shared last block names both heads before it
      have hheads : c.headFrom genesis xs = c.headFrom genesis ys := by
        rw [← hxs.previous_eq, hys.previous_eq]
      have hrest := ih ((linked_append xs [a]).mp hxs).1 ((linked_append ys [a]).mp hys).1
        (fun x hmem => hx (by simp [hmem])) (fun y hmem => hy (by simp [hmem])) hheads
      rw [hrest]

/-- No two blocks of a chain name the same hash: none is linked twice. -/
theorem Linked.previous_nodup {xs : List Block} (hsep : c.Separates genesis xs)
    (h : c.Linked genesis xs) : (xs.map c.previous).Nodup := by
  induction xs using List.reverseRecOn with
  | nil => exact List.nodup_nil
  | append_singleton xs a ih =>
    have hsub : xs ⊆ xs ++ [a] := List.subset_append_left xs [a]
    have hxs := ((linked_append xs [a]).mp h).1
    have hfresh : ∀ x ∈ xs, c.previous x ≠ c.previous a := by
      intro x hmem heq
      obtain ⟨pre, post, rfl⟩ := List.append_of_mem hmem
      have hpre := ((linked_append pre (x :: post)).mp hxs).1
      have hheads : c.headFrom genesis pre = c.headFrom genesis (pre ++ x :: post) := by
        rw [← hxs.previous_eq, heq, h.previous_eq]
      have hlen := congrArg List.length (headFrom_inj hsep hpre hxs
        (fun y hy => hsub (List.mem_append_left _ hy)) hsub hheads)
      simp at hlen
    rw [List.map_append, List.map_singleton, List.nodup_append]
    refine ⟨ih (hsep.mono hsub) hxs, List.nodup_singleton _, ?_⟩
    intro p hp q hq
    obtain ⟨x, hx, rfl⟩ := List.mem_map.mp hp
    rw [List.mem_singleton.mp hq]
    exact hfresh x hx

/-- A chain made of the blocks of another one is its initial segment. -/
theorem Linked.isPrefix_of_subset {history xs : List Block}
    (hsep : c.Separates genesis history) (hhist : c.Linked genesis history)
    (hxs : c.Linked genesis xs) (hsub : xs ⊆ history) : xs <+: history := by
  induction xs using List.reverseRecOn with
  | nil => exact List.nil_prefix
  | append_singleton xs a ih =>
    have hpre := ((linked_append xs [a]).mp hxs).1
    have hmem : a ∈ history := hsub (by simp)
    obtain ⟨front, back, rfl⟩ := List.append_of_mem hmem
    have hfront := ((linked_append front (a :: back)).mp hhist).1
    have hheads : c.headFrom genesis xs = c.headFrom genesis front := by
      rw [← hxs.previous_eq, hhist.previous_eq]
    have hsame : xs = front := headFrom_inj hsep hpre hfront
      (fun x hx => hsub (List.mem_append_left _ hx)) (List.subset_append_left _ _) hheads
    exact ⟨back, by rw [hsame, List.append_assoc, List.singleton_append]⟩

/-! ## The log a chain is for -/

variable (c) (genesis)

/-- An append-only log: the only step appends a block that names the head. -/
def log : System (List Block) Block where
  start := fun xs => xs = []
  step := fun xs b ys => c.previous b = c.headFrom genesis xs ∧ ys = xs ++ [b]

variable {c} {genesis}

theorem linked_of_reachable {xs : List Block} (h : (c.log genesis).Reachable xs) :
    c.Linked genesis xs := by
  refine System.Reachable.invariant ?_ ?_ h
  · rintro xs rfl
    trivial
  · rintro xs b ys - hxs ⟨hb, rfl⟩
    exact hxs.snoc hb

end Chaining

end Foundations
