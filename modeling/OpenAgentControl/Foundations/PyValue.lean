import OpenAgentControl.Foundations.Json
import OpenAgentControl.Foundations.DateTime

/-! # The values a document loads as

What `yaml.safe_load` yields, with the values of a JSON document among them (`ofJson`). A value that
has a length is one a loop can walk, and as many items come out (`length_iter`). -/

namespace Foundations
set_option autoImplicit false
set_option maxHeartbeats 250000

/-- A Python value; `null` is `None`, and a `dict` lists its items in insertion order. -/
inductive PyValue
  | null
  | bool (b : Bool)
  | int (n : ℤ)
  | float (x : PyFloat)
  | str (s : String)
  | bytes (bs : List UInt8)
  | datetime (t : DateTime)
  | date (year month day : ℕ)
  | list (items : List PyValue)
  | tuple (items : List PyValue)
  | set (items : List PyValue)
  | dict (items : List (PyValue × PyValue))

namespace PyValue

/-- Python truthiness. -/
def truthy : PyValue → Bool
  | null => false
  | bool b => b
  | int n => decide (n ≠ 0)
  | float x => (Json.float x).truthy
  | str s => decide (s ≠ "")
  | bytes bs => !bs.isEmpty
  | datetime _ => true
  | date _ _ _ => true
  | list items => !items.isEmpty
  | tuple items => !items.isEmpty
  | set items => !items.isEmpty
  | dict items => !items.isEmpty

/-- `len(value)`; none is a `TypeError`. -/
def len : PyValue → Option ℕ
  | str s => some s.length
  | bytes bs => some bs.length
  | list items => some items.length
  | tuple items => some items.length
  | set items => some items.length
  | dict items => some items.length
  | _ => none

/-- What `for item in value` walks; none is a `TypeError`. -/
def iter : PyValue → Option (List PyValue)
  | str s => some (s.toList.map fun c => str (String.singleton c))
  | bytes bs => some (bs.map fun b => int b.toNat)
  | list items => some items
  | tuple items => some items
  | set items => some items
  | dict items => some (items.map Prod.fst)
  | _ => none

theorem length_iter (value : PyValue) : value.iter.map List.length = value.len := by
  cases value <;> simp [iter, len, String.length_toList]

/-! ## Dictionaries -/

def isKey (key : String) : PyValue → Bool
  | str s => decide (s = key)
  | _ => false

/-- `d.get(key)` of a `dict` with keys of any type. -/
def get? (items : List (PyValue × PyValue)) (key : String) : Option PyValue :=
  (items.find? fun item => isKey key item.1).map Prod.snd

@[simp] theorem get?_nil (key : String) : get? [] key = none := rfl

@[simp] theorem get?_cons_str (k key : String) (value : PyValue)
    (items : List (PyValue × PyValue)) :
    get? ((str k, value) :: items) key = if k = key then some value else get? items key := by
  by_cases h : k = key
  · simp [get?, isKey, h]
  · simp [get?, isKey, h]

/-! ## JSON documents -/

mutual
def ofJson : Json → PyValue
  | .null => null
  | .bool b => bool b
  | .int n => int n
  | .float x => float x
  | .str s => str s
  | .arr items => list (ofItems items)
  | .obj fields => dict (ofFields fields)

def ofItems : List Json → List PyValue
  | [] => []
  | item :: items => ofJson item :: ofItems items

def ofFields : Dict → List (PyValue × PyValue)
  | [] => []
  | (key, value) :: fields => (str key, ofJson value) :: ofFields fields
end

theorem ofItems_eq_map (items : List Json) : ofItems items = items.map ofJson := by
  induction items with
  | nil => rfl
  | cons item items ih => rw [ofItems, ih, List.map_cons]

end PyValue

end Foundations
