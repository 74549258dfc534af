import OpenAgentControl.Foundations.Json
import OpenAgentControl.Foundations.SortedKeys
import Mathlib.Data.String.Basic

/-! # Rego evaluation

Documents, and the answers an expression has: a sequence of solutions, which an evaluation error may
cut short. An undefined reference is the empty sequence. A rule body is a chain of `bind`s; a rule
whose value is constant stops at its first solution (`once`), a function whose value varies is in
conflict when a later output differs from the first one (`complete`), and negation succeeds when
there is no solution at all. -/

namespace Foundations
set_option autoImplicit false
set_option maxHeartbeats 250000

namespace Rego

/-! ## Documents -/

/-- A document: numbers by value, the fields of objects in the order of their keys. -/
inductive Value
  | null
  | bool (b : Bool)
  | num (q : ℚ)
  | str (s : String)
  | arr (items : List Value)
  | obj (fields : List (String × Value))

namespace Value

mutual
def same : Value → Value → Bool
  | null, null => true
  | bool a, bool b => a == b
  | num a, num b => decide (a = b)
  | str a, str b => decide (a = b)
  | arr xs, arr ys => sameItems xs ys
  | obj xs, obj ys => sameFields xs ys
  | _, _ => false

def sameItems : List Value → List Value → Bool
  | [], [] => true
  | x :: xs, y :: ys => same x y && sameItems xs ys
  | _, _ => false

def sameFields : List (String × Value) → List (String × Value) → Bool
  | [], [] => true
  | (k, x) :: xs, (l, y) :: ys => decide (k = l) && same x y && sameFields xs ys
  | _, _ => false
end

mutual
theorem same_iff : ∀ a b : Value, same a b = true ↔ a = b
  | null, b => by cases b <;> simp [same]
  | bool a, b => by cases b <;> simp [same]
  | num a, b => by cases b <;> simp [same]
  | str a, b => by cases b <;> simp [same]
  | arr xs, b => by
    cases b with
    | arr ys => simp [same, sameItems_iff xs ys]
    | _ => simp [same]
  | obj xs, b => by
    cases b with
    | obj ys => simp [same, sameFields_iff xs ys]
    | _ => simp [same]

theorem sameItems_iff : ∀ xs ys : List Value, sameItems xs ys = true ↔ xs = ys
  | [], ys => by cases ys <;> simp [sameItems]
  | x :: xs, [] => by simp [sameItems]
  | x :: xs, y :: ys => by simp [sameItems, same_iff x y, sameItems_iff xs ys]

theorem sameFields_iff : ∀ xs ys : List (String × Value), sameFields xs ys = true ↔ xs = ys
  | [], ys => by cases ys <;> simp [sameFields]
  | x :: xs, [] => by simp [sameFields]
  | (k, x) :: xs, (l, y) :: ys => by
    simp [sameFields, same_iff x y, sameFields_iff xs ys, and_assoc]
end

instance : DecidableEq Value := fun a b => decidable_of_iff _ (same_iff a b)

/-- `x.key`: undefined unless `x` is an object with that key. -/
def get? : Value → String → Option Value
  | obj fields, key => fields.lookup key
  | _, _ => none

/-- `x.key₁.key₂..` -/
def path (x : Value) : List String → Option Value
  | [] => some x
  | key :: keys => (x.get? key).bind fun y => y.path keys

/-- What `some x in v` ranges over. -/
def elements : Value → List Value
  | arr items => items
  | obj fields => fields.map Prod.snd
  | _ => []

/-- `count(v)`: undefined on scalars. -/
def count? : Value → Option ℕ
  | arr items => some items.length
  | obj fields => some fields.length
  | str s => some s.length
  | _ => none

/-- `v > n` in the order of all documents: null, booleans, numbers, strings, arrays, objects. -/
def exceeds : Value → ℚ → Bool
  | null, _ => false
  | bool _, _ => false
  | num q, n => decide (n < q)
  | _, _ => true

end Value

/-! ## From JSON text -/

def sortByKey (fields : List (String × Value)) : List (String × Value) :=
  fields.insertionSort fun a b => a.1 ≤ b.1

mutual
/-- The document a JSON text denotes; not-a-number and the infinities have no JSON text. -/
def ofJson : Json → Option Value
  | .null => some .null
  | .bool b => some (.bool b)
  | .int n => some (.num n)
  | .float (.finite literal) => some (.num (decimalValue literal.text))
  | .float _ => none
  | .str s => some (.str s)
  | .arr items => (ofItems items).map .arr
  | .obj fields => (ofFields fields).map fun fields => .obj (sortByKey fields)

def ofItems : List Json → Option (List Value)
  | [] => some []
  | x :: xs =>
    match ofJson x, ofItems xs with
    | some v, some vs => some (v :: vs)
    | _, _ => none

def ofFields : List (String × Json) → Option (List (String × Value))
  | [] => some []
  | (k, x) :: xs =>
    match ofJson x, ofFields xs with
    | some v, some vs => some ((k, v) :: vs)
    | _, _ => none
end

mutual
/-- No part of the value is a not-a-number or an infinity. -/
def encodable : Json → Bool
  | .float (.finite _) => true
  | .float _ => false
  | .arr items => encodableItems items
  | .obj fields => encodableFields fields
  | _ => true

def encodableItems : List Json → Bool
  | [] => true
  | x :: xs => encodable x && encodableItems xs

def encodableFields : List (String × Json) → Bool
  | [] => true
  | (_, x) :: xs => encodable x && encodableFields xs
end

mutual
theorem isSome_ofJson : ∀ a : Json, (ofJson a).isSome = encodable a
  | .null | .bool _ | .int _ | .str _ => rfl
  | .float (.finite _) | .float (.inf _) | .float .nan => rfl
  | .arr items => by rw [ofJson, Option.isSome_map, isSome_ofItems items, encodable]
  | .obj fields => by rw [ofJson, Option.isSome_map, isSome_ofFields fields, encodable]

theorem isSome_ofItems : ∀ xs : List Json, (ofItems xs).isSome = encodableItems xs
  | [] => rfl
  | x :: xs => by
    rw [ofItems, encodableItems, ← isSome_ofJson x, ← isSome_ofItems xs]
    cases ofJson x <;> cases ofItems xs <;> rfl

theorem isSome_ofFields : ∀ xs : List (String × Json), (ofFields xs).isSome = encodableFields xs
  | [] => rfl
  | (k, x) :: xs => by
    rw [ofFields, encodableFields, ← isSome_ofJson x, ← isSome_ofFields xs]
    cases ofJson x <;> cases ofFields xs <;> rfl
end

@[simp] theorem lookup_sortByKey (k : String) (fields : List (String × Value)) :
    (sortByKey fields).lookup k = fields.lookup k := lookup_insertionSort k fields

theorem lookup_ofFields {fields : List (String × Json)} {values : List (String × Value)}
    (h : ofFields fields = some values) (k : String) :
    values.lookup k = (fields.lookup k).bind ofJson := by
  induction fields generalizing values with
  | nil =>
    cases h
    rfl
  | cons field rest ih =>
    obtain ⟨l, x⟩ := field
    rw [ofFields] at h
    split at h
    case h_1 v vs hx hrest =>
      cases h
      rw [lookup_cons_if, lookup_cons_if, ih hrest]
      by_cases hk : k = l
      · rw [if_pos hk, if_pos hk]
        exact hx.symm
      · rw [if_neg hk, if_neg hk]
    case h_2 => cases h

theorem get_ofJson {fields : List (String × Json)} {document : Value}
    (h : ofJson (.obj fields) = some document) (key : String) :
    document.get? key = (fields.lookup key).bind ofJson := by
  rw [ofJson] at h
  obtain ⟨values, hvalues, hdocument⟩ := Option.map_eq_some_iff.mp h
  rw [← hdocument]
  exact (lookup_sortByKey key values).trans (lookup_ofFields hvalues key)

/-! ## Answers -/

/-- The solutions found, in order, and whether an evaluation error ended the search. -/
structure Answers (α : Type) where
  found : List α
  failed : Bool
deriving DecidableEq

namespace Answers

variable {α β : Type}

/-- No solution and no error. -/
def undefined : Answers α := ⟨[], false⟩

def failure : Answers α := ⟨[], true⟩

def one (a : α) : Answers α := ⟨[a], false⟩

/-- What is searched after `x`, unless `x` ended in an error. -/
def followedBy (x y : Answers α) : Answers α :=
  if x.failed then x else ⟨x.found ++ y.found, y.failed⟩

def bindFound (f : α → Answers β) : List α → Bool → Answers β
  | [], failed => ⟨[], failed⟩
  | a :: rest, failed => (f a).followedBy (bindFound f rest failed)

def bind (x : Answers α) (f : α → Answers β) : Answers β := bindFound f x.found x.failed

instance : Monad Answers where
  pure := one
  bind := bind

/-- A comparison, or an expression that must not be false. -/
def test (b : Bool) : Answers Unit := if b then one () else undefined

def ref (value : Option α) : Answers α := ⟨value.toList, false⟩

/-- `some x in ..` -/
def each (items : List α) : Answers α := ⟨items, false⟩

/-- A rule or function whose value is constant: the search ends with its first solution. -/
def once (x : Answers Unit) : Answers Unit :=
  match x.found with
  | [] => x
  | _ :: _ => one ()

/-- A rule or function whose value varies: all of its outputs are looked at, also when the caller
needs only one of them, and two that differ are an error. -/
def complete [DecidableEq α] (x : Answers α) : Answers α :=
  if x.failed then failure
  else
    match x.found with
    | [] => undefined
    | a :: rest => if ∀ b ∈ rest, b = a then one a else failure

/-- `not ..`: succeeds when there is no solution; an error found instead is passed on. -/
def negate (x : Answers Unit) : Answers Unit :=
  match x.found with
  | [] => if x.failed then failure else one ()
  | _ :: _ => undefined

/-! ### Rules for bodies -/

theorem followedBy_nil (x : Answers α) : x.followedBy undefined = x := by
  obtain ⟨found, failed⟩ := x
  cases failed with
  | true => rfl
  | false => exact congrArg (Answers.mk · false) (List.append_nil found)

@[simp] theorem bind_one (a : α) (f : α → Answers β) : (one a >>= f) = f a := followedBy_nil (f a)

@[simp] theorem bind_undefined (f : α → Answers β) : (undefined >>= f) = undefined := rfl

@[simp] theorem bind_failure (f : α → Answers β) : (failure >>= f) = failure := rfl

@[simp] theorem ref_none : ref (none : Option α) = undefined := rfl

@[simp] theorem ref_some (a : α) : ref (some a) = one a := rfl

@[simp] theorem test_true : test true = one () := rfl

@[simp] theorem test_false : test false = undefined := rfl

@[simp] theorem undefined_followedBy (x : Answers α) : undefined.followedBy x = x := rfl

@[simp] theorem failure_followedBy (x : Answers α) : failure.followedBy x = failure := rfl

/-- A loop whose body keeps the items that pass. -/
theorem each_bind {γ : Type} {items : List γ} {encode : γ → α} {passes : γ → Bool} {out : γ → β}
    {f : α → Answers β}
    (hf : ∀ g ∈ items, f (encode g) = if passes g then one (out g) else undefined) :
    (each (items.map encode) >>= f) = ⟨(items.filter passes).map out, false⟩ := by
  change bindFound f (items.map encode) false = _
  induction items with
  | nil => rfl
  | cons g rest ih =>
    obtain ⟨hg, hrest⟩ := List.forall_mem_cons.mp hf
    rw [List.map_cons, bindFound, hg, ih hrest]
    by_cases hp : passes g = true
    · rw [if_pos hp, List.filter_cons_of_pos hp]
      rfl
    · rw [if_neg hp, List.filter_cons_of_neg hp]
      rfl

theorem once_each {γ : Type} {items : List γ} {encode : γ → α} {passes : γ → Bool}
    {f : α → Answers Unit} (hf : ∀ g ∈ items, f (encode g) = test (passes g)) :
    once (each (items.map encode) >>= f) = test (items.any passes) := by
  have hloop : (each (items.map encode) >>= f) = ⟨(items.filter passes).map fun _ => (), false⟩ :=
    each_bind hf
  rw [hloop]
  cases hkept : items.filter passes with
  | nil =>
    have hnone : items.any passes = false := by
      rw [List.any_eq_false]
      exact List.filter_eq_nil_iff.mp hkept
    rw [hnone]
    rfl
  | cons g rest =>
    have hg : g ∈ items.filter passes := hkept ▸ List.mem_cons_self
    have hsome : items.any passes = true := List.any_eq_true.mpr ⟨g, List.mem_filter.mp hg⟩
    rw [hsome]
    rfl

theorem negate_test (b : Bool) : negate (test b) = test (!b) := by
  cases b <;> rfl

theorem once_test_followedBy (a b : Bool) :
    once ((test a).followedBy (test b)) = test (a || b) := by
  cases a <;> cases b <;> rfl

/-! ### Solutions -/

theorem mem_followedBy {x y : Answers α} {a : α} (h : a ∈ (x.followedBy y).found) :
    a ∈ x.found ∨ a ∈ y.found := by
  unfold followedBy at h
  split_ifs at h
  · exact Or.inl h
  · exact List.mem_append.mp h

/-- A solution of a body goes through one solution of its first expression. -/
theorem mem_bind {x : Answers α} {f : α → Answers β} {b : β} (h : b ∈ (x >>= f).found) :
    ∃ a ∈ x.found, b ∈ (f a).found := by
  obtain ⟨found, failed⟩ := x
  change b ∈ (bindFound f found failed).found at h
  induction found with
  | nil => cases h
  | cons a rest ih =>
    rcases mem_followedBy h with hfirst | hrest
    · exact ⟨a, List.mem_cons_self, hfirst⟩
    · obtain ⟨c, hc, hb⟩ := ih hrest
      exact ⟨c, List.mem_cons_of_mem a hc, hb⟩

@[simp] theorem mem_test {b : Bool} {u : Unit} : u ∈ (test b).found ↔ b = true := by
  cases b with
  | true => exact iff_of_true (List.mem_singleton.mpr rfl) rfl
  | false => exact iff_of_false List.not_mem_nil Bool.false_ne_true

@[simp] theorem mem_ref {value : Option α} {a : α} : a ∈ (ref value).found ↔ value = some a :=
  Option.mem_toList

theorem mem_once {x : Answers Unit} {u : Unit} : u ∈ (once x).found ↔ u ∈ x.found := by
  unfold once
  cases hx : x.found with
  | nil => rw [hx]
  | cons v rest => exact iff_of_true List.mem_cons_self List.mem_cons_self

theorem mem_negate {x : Answers Unit} {u : Unit} : u ∈ (negate x).found ↔ x = undefined := by
  obtain ⟨found, failed⟩ := x
  cases found with
  | nil =>
    cases failed with
    | true => exact iff_of_false List.not_mem_nil (by decide)
    | false => exact iff_of_true List.mem_cons_self rfl
  | cons v rest => exact iff_of_false List.not_mem_nil nofun

/-! ### No solution and no error -/

theorem followedBy_eq_undefined {x y : Answers α} :
    x.followedBy y = undefined ↔ x = undefined ∧ y = undefined := by
  obtain ⟨found, failed⟩ := x
  obtain ⟨found', failed'⟩ := y
  cases failed with
  | true => simp [followedBy, undefined]
  | false => simp [followedBy, undefined, and_assoc]

theorem bind_eq_undefined {x : Answers α} {f : α → Answers β} :
    (x >>= f) = undefined ↔ x.failed = false ∧ ∀ a ∈ x.found, f a = undefined := by
  obtain ⟨found, failed⟩ := x
  change bindFound f found failed = undefined ↔ failed = false ∧ ∀ a ∈ found, f a = undefined
  induction found with
  | nil => simp [bindFound, undefined]
  | cons a rest ih =>
    rw [bindFound, followedBy_eq_undefined, ih, List.forall_mem_cons]
    exact and_left_comm

theorem test_bind_eq_undefined {b : Bool} {f : Unit → Answers α} :
    (test b >>= f) = undefined ↔ (b = true → f () = undefined) := by
  cases b with
  | true => simp
  | false => simp

theorem test_eq_undefined {b : Bool} : test b = undefined ↔ b = false := by
  cases b with
  | true => exact iff_of_false (by decide) (by decide)
  | false => exact iff_of_true rfl rfl

theorem once_eq_undefined {x : Answers Unit} : once x = undefined ↔ x = undefined := by
  obtain ⟨found, failed⟩ := x
  cases found with
  | nil => exact Iff.rfl
  | cons v rest => exact iff_of_false nofun nofun

/-! ### Bodies without an error -/

theorem failed_test (b : Bool) : (test b).failed = false := by
  cases b <;> rfl

theorem failed_followedBy {x y : Answers α} (hx : x.failed = false) (hy : y.failed = false) :
    (x.followedBy y).failed = false := by
  simp [followedBy, hx, hy]

theorem failed_bind {x : Answers α} {f : α → Answers β} (hx : x.failed = false)
    (hf : ∀ a ∈ x.found, (f a).failed = false) : (x >>= f).failed = false := by
  obtain ⟨found, failed⟩ := x
  cases hx
  change (bindFound f found false).failed = false
  induction found with
  | nil => rfl
  | cons a rest ih =>
    obtain ⟨ha, hrest⟩ := List.forall_mem_cons.mp hf
    exact failed_followedBy ha (ih hrest)

theorem failed_once {x : Answers Unit} (hx : x.failed = false) : (once x).failed = false := by
  unfold once
  split
  · exact hx
  · rfl

theorem failed_negate {x : Answers Unit} (hx : x.failed = false) : (negate x).failed = false := by
  unfold negate
  split
  · simp [hx, one]
  · rfl

theorem found_ne_nil {x : Answers α} (hx : x.failed = false) (hne : x ≠ undefined) :
    x.found ≠ [] := by
  obtain ⟨found, failed⟩ := x
  cases hx
  intro hnil
  cases hnil
  exact hne rfl

theorem found_followedBy {x y : Answers α} (h : x.found ≠ []) : (x.followedBy y).found ≠ [] := by
  unfold followedBy
  split_ifs
  · exact h
  · exact List.append_ne_nil_of_left_ne_nil h y.found

/-- A rule whose value is constant is decided by the first solution, whatever comes after it. -/
theorem once_eq_one {x : Answers Unit} (h : x.found ≠ []) : once x = one () := by
  unfold once
  split
  case h_1 hnil => exact absurd hnil h
  case h_2 => rfl

/-! ### Conflicts -/

section Conflicts

variable [DecidableEq α]

theorem complete_defined {x : Answers α} :
    (complete x).failed = false ↔ x.failed = false ∧ ∀ a ∈ x.found, ∀ b ∈ x.found, a = b := by
  obtain ⟨found, failed⟩ := x
  cases failed with
  | true => exact iff_of_false nofun nofun
  | false =>
    cases found with
    | nil => exact iff_of_true rfl ⟨rfl, nofun⟩
    | cons a rest =>
      have hall : (∀ b ∈ a :: rest, ∀ c ∈ a :: rest, b = c) ↔ ∀ b ∈ rest, b = a := by
        refine ⟨fun h b hb => h b (List.mem_cons_of_mem a hb) a List.mem_cons_self, ?_⟩
        intro h b hb c hc
        have hsame : ∀ d ∈ a :: rest, d = a := List.forall_mem_cons.mpr ⟨rfl, h⟩
        exact (hsame b hb).trans (hsame c hc).symm
      rw [hall]
      change (if ∀ b ∈ rest, b = a then one a else failure).failed = false ↔ _
      by_cases hrest : ∀ b ∈ rest, b = a
      · rw [if_pos hrest]
        exact iff_of_true rfl ⟨rfl, hrest⟩
      · rw [if_neg hrest]
        exact iff_of_false nofun fun h => hrest h.2

theorem mem_complete {x : Answers α} (h : (complete x).failed = false) {a : α} :
    a ∈ (complete x).found ↔ a ∈ x.found := by
  obtain ⟨hfailed, hsame⟩ := complete_defined.mp h
  obtain ⟨found, failed⟩ := x
  cases hfailed
  cases found with
  | nil => exact Iff.rfl
  | cons b rest =>
    have hrest : ∀ c ∈ rest, c = b := fun c hc =>
      hsame c (List.mem_cons_of_mem b hc) b List.mem_cons_self
    have hvalue : complete ⟨b :: rest, false⟩ = one b := if_pos hrest
    rw [hvalue]
    constructor
    · intro ha
      exact List.mem_cons.mpr (Or.inl (List.mem_singleton.mp ha))
    · intro ha
      exact List.mem_singleton.mpr (hsame a ha b List.mem_cons_self)

/-- A body that starts with a function call meets no error and has no solution. -/
theorem complete_bind_eq_undefined {x : Answers α} {f : α → Answers β} :
    (complete x >>= f) = undefined ↔
      x.failed = false ∧ (∀ a ∈ x.found, ∀ b ∈ x.found, a = b) ∧
        ∀ a ∈ x.found, f a = undefined := by
  rw [bind_eq_undefined, ← and_assoc, ← complete_defined]
  refine and_congr_right fun hdefined => forall_congr' fun a => ?_
  rw [mem_complete hdefined]

theorem complete_conflict {x : Answers α} {a b : α} (ha : a ∈ x.found) (hb : b ∈ x.found)
    (hne : a ≠ b) : complete x = failure := by
  have hfailed : (complete x).failed = true := by
    by_contra hok
    exact hne ((complete_defined.mp (Bool.eq_false_of_not_eq_true hok)).2 a ha b hb)
  unfold complete at hfailed ⊢
  split_ifs with hx
  · rfl
  · rw [if_neg hx] at hfailed
    split at hfailed
    case h_1 => cases hfailed
    case h_2 c rest hfound =>
      split_ifs at hfailed ⊢
      · cases hfailed
      · rfl

end Conflicts

end Answers

end Rego

end Foundations
