import Mathlib.Data.List.Basic
import Mathlib.Data.List.Nodup
import Mathlib.Tactic.Tauto

/-! # The first item of each key

`keepFirst` walks a list and keeps, for each key, the first item that has it; items without a key are
left out. Its keys are distinct, they are the keys of the list, and looking a key up among the items
kept finds what looking it up in the list finds. -/

namespace Foundations
set_option autoImplicit false
set_option maxHeartbeats 250000

section Lookup

variable {κ V : Type} [BEq κ] [LawfulBEq κ] [DecidableEq κ]

/-- Looking a key up finds the first item that has it. -/
theorem lookup_cons_if (k k' : κ) (v : V) (rest : List (κ × V)) :
    ((k', v) :: rest).lookup k = if k = k' then some v else rest.lookup k := by
  rw [List.lookup_cons]
  by_cases h : k = k'
  · rw [if_pos h, beq_iff_eq.mpr h]
  · rw [if_neg h, beq_eq_false_iff_ne.mpr h]

/-- With distinct keys, what a key finds is the one item that has it. -/
theorem lookup_eq_some_iff_mem {items : List (κ × V)} (hkeys : (items.map Prod.fst).Nodup) {k : κ}
    {v : V} : items.lookup k = some v ↔ (k, v) ∈ items := by
  induction items with
  | nil => simp
  | cons item items ih =>
    obtain ⟨k', v'⟩ := item
    obtain ⟨hnew, hkeys⟩ := List.nodup_cons.mp hkeys
    rw [lookup_cons_if, List.mem_cons]
    by_cases h : k = k'
    · subst h
      have hnot : (k, v) ∉ items := fun habs => hnew (List.mem_map.mpr ⟨_, habs, rfl⟩)
      simp [hnot, eq_comm]
    · simp [h, ih hkeys]

theorem lookup_perm {items others : List (κ × V)} (h : items.Perm others)
    (hkeys : (items.map Prod.fst).Nodup) (k : κ) : items.lookup k = others.lookup k := by
  have hkeys' : (others.map Prod.fst).Nodup := (h.map Prod.fst).nodup_iff.mp hkeys
  refine Option.ext fun v => ?_
  rw [lookup_eq_some_iff_mem hkeys, lookup_eq_some_iff_mem hkeys', h.mem_iff]

end Lookup

variable {α κ : Type} [DecidableEq κ] (key : α → Option κ)

/-- The items of the list whose key is neither in `seen` nor the key of an earlier item. -/
def keepFirst : List κ → List α → List α
  | _, [] => []
  | seen, x :: rest =>
    match key x with
    | some k => if k ∈ seen then keepFirst seen rest else x :: keepFirst (k :: seen) rest
    | none => keepFirst seen rest

/-- The item has the key `k`. -/
def hasKey (k : κ) (x : α) : Bool := decide (key x = some k)

variable {key}

theorem hasKey_of_eq {k : κ} {x : α} (h : key x = some k) : hasKey key k x = true :=
  decide_eq_true h

theorem hasKey_of_ne {k : κ} {x : α} (h : key x ≠ some k) : ¬ hasKey key k x = true :=
  fun hkey => h (of_decide_eq_true hkey)

namespace keepFirst

theorem cons_of_none {seen : List κ} {x : α} (h : key x = none) (rest : List α) :
    keepFirst key seen (x :: rest) = keepFirst key seen rest := by
  rw [keepFirst, h]

theorem cons_of_seen {seen : List κ} {x : α} {k : κ} (h : key x = some k) (hseen : k ∈ seen)
    (rest : List α) : keepFirst key seen (x :: rest) = keepFirst key seen rest := by
  rw [keepFirst, h]
  exact if_pos hseen

theorem cons_of_new {seen : List κ} {x : α} {k : κ} (h : key x = some k) (hnew : k ∉ seen)
    (rest : List α) : keepFirst key seen (x :: rest) = x :: keepFirst key (k :: seen) rest := by
  rw [keepFirst, h]
  exact if_neg hnew

theorem congr_seen {seen seen' : List κ} (h : ∀ k, k ∈ seen ↔ k ∈ seen') (items : List α) :
    keepFirst key seen items = keepFirst key seen' items := by
  induction items generalizing seen seen' with
  | nil => rfl
  | cons x rest ih =>
    cases hkey : key x with
    | none => rw [cons_of_none hkey, cons_of_none hkey, ih h]
    | some k =>
      by_cases hk : k ∈ seen
      · rw [cons_of_seen hkey hk, cons_of_seen hkey ((h k).mp hk), ih h]
      · have hcons : ∀ j, j ∈ k :: seen ↔ j ∈ k :: seen' := fun j => by
          rw [List.mem_cons, List.mem_cons, h]
        rw [cons_of_new hkey hk, cons_of_new hkey (fun hk' => hk ((h k).mpr hk')), ih hcons]

theorem append (seen : List κ) (xs ys : List α) :
    keepFirst key seen (xs ++ ys) =
      keepFirst key seen xs ++
        keepFirst key (seen ++ (keepFirst key seen xs).filterMap key) ys := by
  induction xs generalizing seen with
  | nil => simp [keepFirst]
  | cons x rest ih =>
    rw [List.cons_append]
    cases hkey : key x with
    | none => rw [cons_of_none hkey, cons_of_none hkey, ih]
    | some k =>
      by_cases hk : k ∈ seen
      · rw [cons_of_seen hkey hk, cons_of_seen hkey hk, ih]
      · rw [cons_of_new hkey hk, cons_of_new hkey hk, ih, List.cons_append,
          List.filterMap_cons_some hkey]
        congr 2
        refine congr_seen ?_ ys
        intro j
        simp only [List.mem_cons, List.mem_append]
        tauto

theorem mem_keys {seen : List κ} {items : List α} {k : κ} :
    k ∈ (keepFirst key seen items).filterMap key ↔ k ∈ items.filterMap key ∧ k ∉ seen := by
  induction items generalizing seen with
  | nil => simp [keepFirst]
  | cons x rest ih =>
    cases hkey : key x with
    | none => rw [cons_of_none hkey, List.filterMap_cons_none hkey, ih]
    | some j =>
      rw [List.filterMap_cons_some hkey, List.mem_cons]
      by_cases hj : j ∈ seen
      · rw [cons_of_seen hkey hj, ih]
        constructor
        · rintro ⟨hmem, hk⟩
          exact ⟨Or.inr hmem, hk⟩
        · rintro ⟨rfl | hmem, hk⟩
          · exact absurd hj hk
          · exact ⟨hmem, hk⟩
      · rw [cons_of_new hkey hj, List.filterMap_cons_some hkey, List.mem_cons, ih, List.mem_cons]
        by_cases hkj : k = j
        · subst hkj
          exact iff_of_true (Or.inl rfl) ⟨Or.inl rfl, hj⟩
        · simp only [hkj, false_or]

theorem keys_nodup (seen : List κ) (items : List α) :
    ((keepFirst key seen items).filterMap key).Nodup := by
  induction items generalizing seen with
  | nil => exact List.nodup_nil
  | cons x rest ih =>
    cases hkey : key x with
    | none =>
      rw [cons_of_none hkey]
      exact ih seen
    | some k =>
      by_cases hk : k ∈ seen
      · rw [cons_of_seen hkey hk]
        exact ih seen
      · rw [cons_of_new hkey hk, List.filterMap_cons_some hkey, List.nodup_cons]
        refine ⟨?_, ih (k :: seen)⟩
        rw [mem_keys]
        exact fun h => h.2 List.mem_cons_self

theorem isSome_key {seen : List κ} {items : List α} {x : α} (h : x ∈ keepFirst key seen items) :
    (key x).isSome = true := by
  induction items generalizing seen with
  | nil => cases h
  | cons y rest ih =>
    cases hkey : key y with
    | none =>
      rw [cons_of_none hkey] at h
      exact ih h
    | some k =>
      by_cases hk : k ∈ seen
      · rw [cons_of_seen hkey hk] at h
        exact ih h
      · rw [cons_of_new hkey hk] at h
        obtain rfl | h := List.mem_cons.mp h
        · rw [hkey]
          rfl
        · exact ih h

/-- Looking up a key finds the first item of the list that has it. -/
theorem find_key {seen : List κ} {items : List α} {k : κ} (hk : k ∉ seen) :
    (keepFirst key seen items).find? (hasKey key k) = items.find? (hasKey key k) := by
  induction items generalizing seen with
  | nil => rfl
  | cons x rest ih =>
    cases hkey : key x with
    | none =>
      have hother : ¬ hasKey key k x = true := hasKey_of_ne (by rw [hkey]; nofun)
      rw [cons_of_none hkey, ih hk, List.find?_cons_of_neg hother]
    | some j =>
      by_cases hkj : j = k
      · subst hkj
        have hfound : hasKey key j x = true := hasKey_of_eq hkey
        rw [cons_of_new hkey hk, List.find?_cons_of_pos hfound, List.find?_cons_of_pos hfound]
      · have hother : ¬ hasKey key k x = true :=
          hasKey_of_ne fun h => hkj (Option.some.inj (hkey.symm.trans h))
        by_cases hj : j ∈ seen
        · rw [cons_of_seen hkey hj, ih hk, List.find?_cons_of_neg hother]
        · have hnew : k ∉ j :: seen := by simp [hk, Ne.symm hkj]
          rw [cons_of_new hkey hj, List.find?_cons_of_neg hother, List.find?_cons_of_neg hother,
            ih hnew]

end keepFirst

end Foundations
