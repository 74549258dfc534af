import OpenAgentControl.Foundations.FirstWins
import Mathlib.Data.List.Sort
import Mathlib.Data.Rat.Defs
import Mathlib.Algebra.Field.Rat
import Mathlib.Data.Rat.Floor

/-! # JSON values as a Python process holds them

The values `json.loads` yields: integers of any size, floats, strings of Unicode scalar values,
lists and dictionaries in insertion order. A finite float is carried by the text its `repr` prints,
which determines it (the shortest decimal that reads back as that double); its numeric value is
read off that text. -/

namespace Foundations
set_option autoImplicit false
set_option maxHeartbeats 250000

/-! ## Floats -/

/-- A decimal literal with a fraction or an exponent, the only shapes a finite `repr` has. -/
def floatShape (text : List Char) : Bool :=
  text.all (fun c => c.isDigit || c == '-' || c == '+' || c == '.' || c == 'e') &&
    (text.contains '.' || text.contains 'e')

/-- The `repr` of a finite float. -/
structure FloatText where
  text : List Char
  shape : floatShape text = true
deriving DecidableEq, Repr

/-- The number a decimal literal denotes: sign, whole part, fraction, power of ten. -/
def decimalValue (text : List Char) : ℚ :=
  let magnitude := text.dropWhile (· == '-')
  let mantissa := magnitude.takeWhile (· != 'e')
  let power := (magnitude.dropWhile (· != 'e')).drop 1
  let whole := mantissa.takeWhile (· != '.')
  let fraction := (mantissa.dropWhile (· != '.')).drop 1
  let shift : ℤ := match power with
    | '-' :: digits => -(Nat.ofDigitChars 10 digits 0 : ℤ)
    | '+' :: digits => (Nat.ofDigitChars 10 digits 0 : ℤ)
    | digits => (Nat.ofDigitChars 10 digits 0 : ℤ)
  let unsigned : ℚ := (Nat.ofDigitChars 10 (whole ++ fraction) 0 : ℚ) *
    (10 : ℚ) ^ (shift - (fraction.length : ℤ))
  if text.head? = some '-' then -unsigned else unsigned

/-- Truncation towards zero. -/
def pyTrunc (x : ℚ) : ℤ := if 0 ≤ x then ⌊x⌋ else ⌈x⌉

def roundHalfEven (x : ℚ) : ℤ :=
  if x - ⌊x⌋ < 1 / 2 then ⌊x⌋
  else if 1 / 2 < x - ⌊x⌋ then ⌊x⌋ + 1
  else if ⌊x⌋ % 2 = 0 then ⌊x⌋ else ⌊x⌋ + 1

/-- `int` of the double whose `repr` denotes `x`: from 2^53 on it is the integer of 53 significant
bits next to `x`, and below truncation makes the same of both. -/
def intOfFloat (x : ℚ) : ℤ :=
  if |x| < 2 ^ 53 then pyTrunc x
  else
    let e := Nat.log2 (pyTrunc x).natAbs - 52
    roundHalfEven (x / 2 ^ e) * 2 ^ e

inductive PyFloat
  | finite (literal : FloatText)
  | inf (negative : Bool)
  | nan
deriving DecidableEq, Repr

/-! ## Values -/

/-- A decoded JSON value; `obj` lists the items of a `dict` in insertion order. -/
inductive Json
  | null
  | bool (b : Bool)
  | int (n : ℤ)
  | float (x : PyFloat)
  | str (s : String)
  | arr (items : List Json)
  | obj (fields : List (String × Json))
deriving Repr

/-- A `dict` with string keys. -/
abbrev Dict := List (String × Json)

/-- `d.get(key)`. -/
def Dict.get? (d : Dict) (key : String) : Option Json := d.lookup key

/-- `{**d, key: value}`: an existing key keeps its place. -/
def Dict.set : Dict → String → Json → Dict
  | [], key, value => [(key, value)]
  | (k, v) :: rest, key, value =>
    if k = key then (k, value) :: rest else (k, v) :: Dict.set rest key value

theorem Dict.get?_cons (k k' : String) (v : Json) (d : Dict) :
    Dict.get? ((k', v) :: d) k = if k = k' then some v else d.get? k := lookup_cons_if k k' v d

theorem Dict.get?_set (d : Dict) (key : String) (value : Json) (k : String) :
    Dict.get? (Dict.set d key value) k = if k = key then some value else d.get? k := by
  induction d with
  | nil => exact Dict.get?_cons k key value []
  | cons field rest ih =>
    obtain ⟨k', v⟩ := field
    by_cases hkey : k' = key
    · subst hkey
      rw [Dict.set, if_pos rfl, Dict.get?_cons, Dict.get?_cons]
      by_cases h : k = k'
      · rw [if_pos h, if_pos h]
      · simp only [if_neg h]
    · rw [Dict.set, if_neg hkey, Dict.get?_cons, Dict.get?_cons, ih]
      by_cases h : k = k'
      · rw [if_pos h, if_pos h, h, if_neg hkey]
      · rw [if_neg h, if_neg h]

namespace Json

mutual
def same : Json → Json → Bool
  | null, null => true
  | bool a, bool b => a == b
  | int a, int b => decide (a = b)
  | float a, float b => decide (a = b)
  | str a, str b => decide (a = b)
  | arr xs, arr ys => sameItems xs ys
  | obj xs, obj ys => sameFields xs ys
  | _, _ => false

def sameItems : List Json → List Json → Bool
  | [], [] => true
  | x :: xs, y :: ys => same x y && sameItems xs ys
  | _, _ => false

def sameFields : List (String × Json) → List (String × Json) → Bool
  | [], [] => true
  | (k, x) :: xs, (l, y) :: ys => decide (k = l) && same x y && sameFields xs ys
  | _, _ => false
end

mutual
theorem same_iff : ∀ a b : Json, same a b = true ↔ a = b
  | null, b => by cases b <;> simp [same]
  | bool a, b => by cases b <;> simp [same]
  | int a, b => by cases b <;> simp [same]
  | float a, b => by cases b <;> simp [same]
  | str a, b => by cases b <;> simp [same]
  | arr xs, b => by
    cases b with
    | arr ys => simp [same, sameItems_iff xs ys]
    | _ => simp [same]
  | obj xs, b => by
    cases b with
    | obj ys => simp [same, sameFields_iff xs ys]
    | _ => simp [same]

theorem sameItems_iff : ∀ xs ys : List Json, sameItems xs ys = true ↔ xs = ys
  | [], ys => by cases ys <;> simp [sameItems]
  | x :: xs, [] => by simp [sameItems]
  | x :: xs, y :: ys => by simp [sameItems, same_iff x y, sameItems_iff xs ys]

theorem sameFields_iff : ∀ xs ys : List (String × Json), sameFields xs ys = true ↔ xs = ys
  | [], ys => by cases ys <;> simp [sameFields]
  | x :: xs, [] => by simp [sameFields]
  | (k, x) :: xs, (l, y) :: ys => by
    simp [sameFields, same_iff x y, sameFields_iff xs ys, and_assoc]
end

instance : DecidableEq Json := fun a b => decidable_of_iff _ (same_iff a b)

mutual

/-- `json.dumps` writes it with `allow_nan=False`. -/
def renderable : Json → Bool
  | float (.finite _) => true
  | float _ => false
  | arr items => renderableItems items
  | obj fields => renderableFields fields
  | _ => true

def renderableItems : List Json → Bool
  | [] => true
  | x :: rest => renderable x && renderableItems rest

def renderableFields : List (String × Json) → Bool
  | [] => true
  | (_, x) :: rest => renderable x && renderableFields rest

end

/-- Python truthiness. -/
def truthy : Json → Bool
  | null => false
  | bool b => b
  | int n => decide (n ≠ 0)
  | float (.finite literal) => decide (decimalValue literal.text ≠ 0)
  | float _ => true
  | str s => decide (s ≠ "")
  | arr items => !items.isEmpty
  | obj fields => !fields.isEmpty

end Json

end Foundations
