import OpenAgentControl.Foundations.JsonText
import OpenAgentControl.Foundations.SortedKeys
import Mathlib.Data.String.Basic

/-! # What a JSON text says

`Json.data` is a value without the order in which the items of its objects stand. Sorting the keys is
a normal form for it (`sortKeys_eq_iff`), so that the text with sorted keys is the same for two values
exactly when they are the same data (`dumps_eq_iff`). -/

namespace Foundations
set_option autoImplicit false
set_option maxHeartbeats 250000

/-- JSON data: an object is what each key holds. -/
inductive JsonData
  | null
  | bool (b : Bool)
  | int (n : ℤ)
  | float (x : PyFloat)
  | str (s : String)
  | arr (items : List JsonData)
  | obj (fields : String → Option JsonData)

namespace Json

mutual
def data : Json → JsonData
  | null => .null
  | bool b => .bool b
  | int n => .int n
  | float x => .float x
  | str s => .str s
  | arr items => .arr (dataItems items)
  | obj fields => .obj (dataFields fields)

def dataItems : List Json → List JsonData
  | [] => []
  | x :: xs => data x :: dataItems xs

def dataFields : List (String × Json) → String → Option JsonData
  | [], _ => none
  | (k, v) :: rest, key => if key = k then some (data v) else dataFields rest key
end

mutual
/-- A value with a text in JSON: every number is finite, and no object has a key twice. -/
def wellFormed : Json → Bool
  | float (.finite _) => true
  | float _ => false
  | arr items => wellFormedItems items
  | obj fields => decide (fields.map Prod.fst).Nodup && wellFormedFields fields
  | _ => true

def wellFormedItems : List Json → Bool
  | [] => true
  | x :: xs => wellFormed x && wellFormedItems xs

def wellFormedFields : List (String × Json) → Bool
  | [] => true
  | (_, v) :: rest => wellFormed v && wellFormedFields rest
end

theorem wellFormed_obj {fields : List (String × Json)} :
    (obj fields).wellFormed = true ↔
      (fields.map Prod.fst).Nodup ∧ wellFormedFields fields = true := by
  rw [wellFormed, Bool.and_eq_true, decide_eq_true_iff]

theorem wellFormedFields_iff {fields : List (String × Json)} :
    wellFormedFields fields = true ↔ ∀ field ∈ fields, field.2.wellFormed = true := by
  induction fields with
  | nil => simp [wellFormedFields]
  | cons field rest ih => rw [wellFormedFields, Bool.and_eq_true, ih, List.forall_mem_cons]

theorem wellFormed_of_lookup {fields : List (String × Json)} {key : String} {v : Json}
    (h : wellFormedFields fields = true) (hv : fields.lookup key = some v) :
    v.wellFormed = true := by
  obtain ⟨before, after, hfields, -⟩ := List.lookup_eq_some_iff.mp hv
  exact wellFormedFields_iff.mp h (key, v) (by simp [hfields])

/-! ## The items of an object -/

theorem dataItems_eq_map (items : List Json) : dataItems items = items.map data := by
  induction items with
  | nil => rfl
  | cons x xs ih => rw [dataItems, ih, List.map_cons]

theorem dataFields_eq_lookup (fields : List (String × Json)) (key : String) :
    dataFields fields key = (fields.lookup key).map data := by
  induction fields with
  | nil => rfl
  | cons field rest ih =>
    obtain ⟨k, v⟩ := field
    rw [dataFields, lookup_cons_if, ih, apply_ite (Option.map data), Option.map_some]

theorem lookup_sortFields (fields : List (String × Json)) (key : String) :
    (sortFields fields).lookup key = (fields.lookup key).map sortKeys := by
  induction fields with
  | nil => rfl
  | cons field rest ih =>
    obtain ⟨k, v⟩ := field
    rw [sortFields, lookup_cons_if, lookup_cons_if, ih, apply_ite (Option.map sortKeys),
      Option.map_some]

theorem keys_sortFields (fields : List (String × Json)) :
    (sortFields fields).map Prod.fst = fields.map Prod.fst := by
  induction fields with
  | nil => rfl
  | cons field rest ih => rw [sortFields, List.map_cons, List.map_cons, ih]

theorem data_obj_eq_iff {fields others : List (String × Json)} :
    (obj fields).data = (obj others).data ↔ ∀ key, dataFields fields key = dataFields others key := by
  rw [data, data, JsonData.obj.injEq, funext_iff]

/-- What one key holds in two objects of the same data, and the rest of both. -/
theorem data_obj_cons_iff {key : String} {v w : Json} {fields others : List (String × Json)}
    (hfields : key ∉ fields.map Prod.fst) (hothers : key ∉ others.map Prod.fst) :
    (obj ((key, v) :: fields)).data = (obj ((key, w) :: others)).data ↔
      v.data = w.data ∧ (obj fields).data = (obj others).data := by
  have habsent : ∀ items : List (String × Json), key ∉ items.map Prod.fst →
      dataFields items key = none := by
    intro items hitems
    rw [dataFields_eq_lookup, List.lookup_eq_none_iff.mpr, Option.map_none]
    intro item hitem
    exact bne_iff_ne.mpr fun heq => hitems (List.mem_map.mpr ⟨item, hitem, heq.symm⟩)
  rw [data_obj_eq_iff, data_obj_eq_iff]
  constructor
  · intro h
    constructor
    · have hkey := h key
      rw [dataFields, dataFields, if_pos rfl, if_pos rfl] at hkey
      exact Option.some.inj hkey
    · intro k
      by_cases hk : k = key
      · rw [hk, habsent _ hfields, habsent _ hothers]
      · have hrest := h k
        rwa [dataFields, dataFields, if_neg hk, if_neg hk] at hrest
  · rintro ⟨hv, hrest⟩ k
    rw [dataFields, dataFields, hv, hrest]

/-! ## Sorted keys are a normal form -/

theorem map_eq_map_iff {α β γ : Type} {f : α → β} {g : α → γ} {x y : Option α}
    (h : ∀ a ∈ x, ∀ b ∈ y, f a = f b ↔ g a = g b) : x.map f = y.map f ↔ x.map g = y.map g := by
  cases x with
  | none => cases y <;> simp
  | some a =>
    cases y with
    | none => simp
    | some b => simpa using h a rfl b rfl

/-- The normal forms of objects, when those of what their keys hold are known. -/
theorem sortKeys_obj_eq_iff {fields others : List (String × Json)}
    (hfields : (fields.map Prod.fst).Nodup) (hothers : (others.map Prod.fst).Nodup)
    (h : ∀ key, ∀ v ∈ fields.lookup key, ∀ w ∈ others.lookup key,
      sortKeys v = sortKeys w ↔ v.data = w.data) :
    sortKeys (obj fields) = sortKeys (obj others) ↔ (obj fields).data = (obj others).data := by
  rw [← keys_sortFields] at hfields hothers
  rw [data_obj_eq_iff, sortKeys, sortKeys, obj.injEq, insertionSort_eq_iff hfields hothers]
  refine forall_congr' fun key => ?_
  rw [lookup_sortFields, lookup_sortFields, dataFields_eq_lookup, dataFields_eq_lookup]
  exact map_eq_map_iff (h key)

mutual
theorem sortKeys_eq_iff : ∀ a b : Json, a.wellFormed = true → b.wellFormed = true →
    (sortKeys a = sortKeys b ↔ a.data = b.data)
  | obj fields, b, ha, hb => by
    cases b with
    | obj others =>
      obtain ⟨hfields, hvalues⟩ := wellFormed_obj.mp ha
      obtain ⟨hothers, hvalues'⟩ := wellFormed_obj.mp hb
      refine sortKeys_obj_eq_iff hfields hothers fun key v hv w hw => ?_
      exact sortFields_eq_iff fields hvalues key v hv w (wellFormed_of_lookup hvalues' hw)
    | _ => simp [sortKeys, data]
  | arr items, b, ha, hb => by
    cases b with
    | arr others =>
      rw [sortKeys, sortKeys, data, data, arr.injEq, JsonData.arr.injEq]
      exact sortItems_eq_iff items others ha hb
    | _ => simp [sortKeys, data]
  | null, b, _, _ => by cases b <;> simp [sortKeys, data]
  | bool _, b, _, _ => by cases b <;> simp [sortKeys, data]
  | int _, b, _, _ => by cases b <;> simp [sortKeys, data]
  | float _, b, _, _ => by cases b <;> simp [sortKeys, data]
  | str _, b, _, _ => by cases b <;> simp [sortKeys, data]

theorem sortItems_eq_iff : ∀ items others : List Json, wellFormedItems items = true →
    wellFormedItems others = true →
    (sortItems items = sortItems others ↔ dataItems items = dataItems others)
  | [], others, _, _ => by cases others <;> simp [sortItems, dataItems]
  | x :: xs, [], _, _ => by simp [sortItems, dataItems]
  | x :: xs, y :: ys, hx, hy => by
    obtain ⟨hx, hxs⟩ := Bool.and_eq_true_iff.mp hx
    obtain ⟨hy, hys⟩ := Bool.and_eq_true_iff.mp hy
    rw [sortItems, sortItems, dataItems, dataItems, List.cons.injEq, List.cons.injEq,
      sortKeys_eq_iff x y hx hy, sortItems_eq_iff xs ys hxs hys]

theorem sortFields_eq_iff : ∀ fields : List (String × Json), wellFormedFields fields = true →
    ∀ key, ∀ v ∈ fields.lookup key, ∀ w : Json, w.wellFormed = true →
      (sortKeys v = sortKeys w ↔ v.data = w.data)
  | [], _, key, v, hv, w, _ => by cases hv
  | (k, x) :: rest, h, key, v, hv, w, hw => by
    obtain ⟨hx, hrest⟩ := Bool.and_eq_true_iff.mp h
    rw [lookup_cons_if] at hv
    by_cases hk : key = k
    · rw [if_pos hk] at hv
      cases hv
      exact sortKeys_eq_iff x w hx hw
    · rw [if_neg hk] at hv
      exact sortFields_eq_iff rest hrest key v hv w hw
end

/-! ## The text -/

theorem ends_nil : Ends [] := fun c hc => by cases hc

theorem dumps_eq_iff {a b : Json} (ha : a.wellFormed = true) (hb : b.wellFormed = true) :
    dumps a = dumps b ↔ a.data = b.data := by
  rw [← sortKeys_eq_iff a b ha hb]
  constructor
  · intro h
    rw [dumps, dumps, ← List.append_nil (text _), ← List.append_nil (text (sortKeys b))] at h
    exact (text_inj _ _ _ _ ends_nil ends_nil h).1
  · intro h
    rw [dumps, dumps, h]

/-- The bytes printed for a value with sorted keys commit to its data. -/
theorem utf8_dumps_eq_iff {a b : Json} (ha : a.wellFormed = true) (hb : b.wellFormed = true) :
    utf8 (dumps a) = utf8 (dumps b) ↔ a.data = b.data := by
  rw [← dumps_eq_iff ha hb]
  constructor
  · intro h
    have hread (v : Json) : (utf8 (dumps v)).map byteChar = dumps v :=
      map_byteChar_utf8 (text_ascii _)
    rw [← hread a, h, hread b]
  · intro h
    rw [h]

end Json

/-! ## Objects of other classes -/

/-- What `json.dumps` can be given: JSON whose leaves may be objects of other classes, for which it
calls `default`. -/
inductive Dumpable (Obj : Type)
  | null
  | bool (b : Bool)
  | int (n : ℤ)
  | float (x : PyFloat)
  | str (s : String)
  | list (items : List (Dumpable Obj))
  | dict (fields : List (String × Dumpable Obj))
  | object (o : Obj)

namespace Dumpable

variable {Obj : Type} (default : Obj → String)

mutual
/-- The value that is printed, when `default` makes a string of every other object. -/
def resolve : Dumpable Obj → Json
  | null => .null
  | bool b => .bool b
  | int n => .int n
  | float x => .float x
  | str s => .str s
  | list items => .arr (resolveItems items)
  | dict fields => .obj (resolveFields fields)
  | object o => .str (default o)

def resolveItems : List (Dumpable Obj) → List Json
  | [] => []
  | x :: xs => resolve x :: resolveItems xs

def resolveFields : List (String × Dumpable Obj) → List (String × Json)
  | [] => []
  | (k, v) :: rest => (k, resolve v) :: resolveFields rest
end

mutual
def ofJson : Json → Dumpable Obj
  | .null => null
  | .bool b => bool b
  | .int n => int n
  | .float x => float x
  | .str s => str s
  | .arr items => list (ofItems items)
  | .obj fields => dict (ofFields fields)

def ofItems : List Json → List (Dumpable Obj)
  | [] => []
  | x :: xs => ofJson x :: ofItems xs

def ofFields : List (String × Json) → List (String × Dumpable Obj)
  | [] => []
  | (k, v) :: rest => (k, ofJson v) :: ofFields rest
end

mutual
/-- `default` is never asked about JSON. -/
theorem resolve_ofJson : ∀ a : Json, resolve default (ofJson a) = a
  | .null | .bool _ | .int _ | .float _ | .str _ => rfl
  | .arr items => by rw [ofJson, resolve, resolve_ofItems items]
  | .obj fields => by rw [ofJson, resolve, resolve_ofFields fields]

theorem resolve_ofItems : ∀ items : List Json, resolveItems default (ofItems items) = items
  | [] => rfl
  | x :: xs => by rw [ofItems, resolveItems, resolve_ofJson x, resolve_ofItems xs]

theorem resolve_ofFields : ∀ fields : List (String × Json),
    resolveFields default (ofFields fields) = fields
  | [] => rfl
  | (k, v) :: rest => by rw [ofFields, resolveFields, resolve_ofJson v, resolve_ofFields rest]
end

end Dumpable

end Foundations
