import Mathlib.Data.List.Basic

/-! # Computations that leave a trace

A computation calls out, each call is an event with its answer, and it ends with a value or an
exception. `bind` runs the second part only when the first one returned. The module gives the
inversion rules the runs of a program are taken apart with, and `Follows`, the order in which
chosen events stand in a trace. -/

namespace Foundations
set_option autoImplicit false
set_option maxHeartbeats 250000

instance exceptDecidableEq {Err α : Type} [DecidableEq Err] [DecidableEq α] :
    DecidableEq (Except Err α)
  | .ok a, .ok b => decidable_of_iff (a = b) ⟨congrArg Except.ok, Except.ok.inj⟩
  | .error e, .error e' => decidable_of_iff (e = e') ⟨congrArg Except.error, Except.error.inj⟩
  | .ok _, .error _ => isFalse nofun
  | .error _, .ok _ => isFalse nofun

/-- The calls a computation made, in order, and how it ended. -/
structure Traced (Event Err α : Type) where
  trace : List Event
  result : Except Err α
deriving DecidableEq

namespace Traced

variable {Event Err α β : Type}

def bind (x : Traced Event Err α) (f : α → Traced Event Err β) : Traced Event Err β :=
  match x.result with
  | .ok a => ⟨x.trace ++ (f a).trace, (f a).result⟩
  | .error e => ⟨x.trace, .error e⟩

instance : Monad (Traced Event Err) where
  pure a := ⟨[], .ok a⟩
  bind := bind

def perform (event : Except Err α → Event) (answer : Except Err α) : Traced Event Err α :=
  ⟨[event answer], answer⟩

def ofExcept (result : Except Err α) : Traced Event Err α := ⟨[], result⟩

def raise (e : Err) : Traced Event Err α := ⟨[], .error e⟩

/-- A `try` block: the outcome as a value, for the handler to look at. -/
def attempt (x : Traced Event Err α) : Traced Event Err (Except Err α) := ⟨x.trace, .ok x.result⟩

@[simp] theorem pure_trace (a : α) : (pure a : Traced Event Err α).trace = [] := rfl

@[simp] theorem pure_result (a : α) : (pure a : Traced Event Err α).result = .ok a := rfl

@[simp] theorem perform_trace (event : Except Err α → Event) (answer : Except Err α) :
    (perform event answer).trace = [event answer] := rfl

@[simp] theorem perform_result (event : Except Err α → Event) (answer : Except Err α) :
    (perform event answer).result = answer := rfl

@[simp] theorem ofExcept_trace (r : Except Err α) :
    (ofExcept r : Traced Event Err α).trace = [] := rfl

@[simp] theorem ofExcept_result (r : Except Err α) :
    (ofExcept r : Traced Event Err α).result = r := rfl

@[simp] theorem raise_trace (e : Err) : (raise e : Traced Event Err α).trace = [] := rfl

@[simp] theorem raise_result (e : Err) : (raise e : Traced Event Err α).result = .error e := rfl

@[simp] theorem attempt_trace (x : Traced Event Err α) : x.attempt.trace = x.trace := rfl

@[simp] theorem attempt_result (x : Traced Event Err α) : x.attempt.result = .ok x.result := rfl

theorem bind_of_ok {x : Traced Event Err α} {f : α → Traced Event Err β} {a : α}
    (h : x.result = .ok a) : x >>= f = ⟨x.trace ++ (f a).trace, (f a).result⟩ := by
  show bind x f = _
  rw [bind, h]

theorem bind_of_error {x : Traced Event Err α} {f : α → Traced Event Err β} {e : Err}
    (h : x.result = .error e) : x >>= f = ⟨x.trace, .error e⟩ := by
  show bind x f = _
  rw [bind, h]

theorem map_id (x : Traced Event Err α) : id <$> x = x := by
  obtain ⟨trace, result⟩ := x
  cases result with
  | ok a => exact congrArg (Traced.mk · (.ok a)) (List.append_nil trace)
  | error e => rfl

theorem bind_bind {γ : Type} (x : Traced Event Err α) (f : α → Traced Event Err β)
    (g : β → Traced Event Err γ) : x >>= f >>= g = x >>= fun a => f a >>= g := by
  cases hx : x.result with
  | error e => rw [bind_of_error hx, bind_of_error hx, bind_of_error rfl]
  | ok a =>
    rw [bind_of_ok hx, bind_of_ok hx]
    cases hf : (f a).result with
    | error e => rw [bind_of_error hf, bind_of_error rfl]
    | ok b => rw [bind_of_ok hf, bind_of_ok rfl, List.append_assoc]

instance : LawfulMonad (Traced Event Err) :=
  LawfulMonad.mk' _ map_id (fun _ _ => rfl) bind_bind

theorem bind_ok {x : Traced Event Err α} {f : α → Traced Event Err β} {b : β}
    (h : (x >>= f).result = .ok b) :
    ∃ a, x.result = .ok a ∧ (f a).result = .ok b ∧ (x >>= f).trace = x.trace ++ (f a).trace := by
  cases hx : x.result with
  | ok a =>
    rw [bind_of_ok hx] at h ⊢
    exact ⟨a, rfl, h, rfl⟩
  | error e =>
    rw [bind_of_error hx] at h
    cases h

/-- An event of a sequence: of the first part, or of the second after the first returned. -/
theorem mem_bind {x : Traced Event Err α} {f : α → Traced Event Err β} {ev : Event} :
    ev ∈ (x >>= f).trace ↔ ev ∈ x.trace ∨ ∃ a, x.result = .ok a ∧ ev ∈ (f a).trace := by
  cases hx : x.result with
  | ok a =>
    rw [bind_of_ok hx]
    simp
  | error e =>
    rw [bind_of_error hx]
    simp

end Traced

/-- The only event of its kind in a trace that ends with it: what stands before it is the rest. -/
theorem split_at_last {Event : Type} {kind : Event → Bool} {before pre post : List Event}
    {last ev : Event} (hbefore : ∀ x ∈ before, kind x = false) (hkind : kind ev = true)
    (h : before ++ [last] = pre ++ ev :: post) : pre = before ∧ ev = last ∧ post = [] := by
  induction before generalizing pre with
  | nil =>
    cases pre with
    | nil =>
      cases h
      exact ⟨rfl, rfl, rfl⟩
    | cons x pre =>
      have hnil := (List.cons.inj h).2
      cases pre with
      | nil => cases hnil
      | cons y pre => cases hnil
  | cons b before ih =>
    cases pre with
    | nil =>
      have hb := hbefore b List.mem_cons_self
      rw [(List.cons.inj h).1, hkind] at hb
      cases hb
    | cons x pre =>
      obtain ⟨hbx, hrest⟩ := List.cons.inj h
      obtain ⟨hpre, hev, hpost⟩ := ih (fun y hy => hbefore y (List.mem_cons_of_mem _ hy)) hrest
      exact ⟨by rw [hbx, hpre], hev, hpost⟩

end Foundations
