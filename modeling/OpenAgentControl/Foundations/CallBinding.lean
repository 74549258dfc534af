import OpenAgentControl.Foundations.FirstWins
import Mathlib.Data.List.Nodup
import Mathlib.Order.Defs.LinearOrder

/-! # Binding a call to a signature

Parameters of the five kinds of a Python function, and the two ways a call meets them.
- `receive` is the call itself: positional arguments fill slots in order, keywords fill the slots they
  name one after the other, what is left over goes to the variadic parameters, and defaults come last.
- `bind` is `inspect.Signature.bind`: the arguments given explicitly, by parameter.
`bind_eq_receive` says where the two agree: the defaults applied to the bound arguments give what the body
receives, except that `bind` refuses a keyword that has the name of a positional-only parameter left to its
default. -/

namespace Foundations
set_option autoImplicit false
set_option maxHeartbeats 250000

/-- Objects, and the tuples and dictionaries of them that variadic parameters collect. A dictionary is
its items in the order of their keys, so that equal dictionaries are equal here. -/
inductive PyVal (Obj : Type)
  | obj (o : Obj)
  | tuple (items : List (PyVal Obj))
  | dict (items : List (String × PyVal Obj))

inductive ParamKind
  | posOnly
  | posOrKw
  | varPos
  | kwOnly
  | varKw
deriving DecidableEq

namespace ParamKind

/-- A keyword can name the parameter. -/
def nameable : ParamKind → Bool
  | posOrKw => true
  | kwOnly => true
  | _ => false

def positional : ParamKind → Bool
  | posOnly => true
  | posOrKw => true
  | _ => false

def variadic : ParamKind → Bool
  | varPos => true
  | varKw => true
  | _ => false

/-- The grammar lets a parameter of the one kind stand before one of the other. -/
def before : ParamKind → ParamKind → Bool
  | posOnly, _ => true
  | posOrKw, k => k != posOnly
  | varPos, k => k == kwOnly || k == varKw
  | kwOnly, k => k == kwOnly || k == varKw
  | varKw, _ => false

end ParamKind

structure Param (Obj : Type) where
  name : String
  kind : ParamKind
  default : Option (PyVal Obj) := none

structure Signature (Obj : Type) where
  params : List (Param Obj)
  distinct : (params.map Param.name).Nodup
  ordered : params.Pairwise fun p q => p.kind.before q.kind = true

structure Call (Obj : Type) where
  args : List (PyVal Obj)
  kwargs : List (String × PyVal Obj)
  sorted : kwargs.Pairwise fun a b => a.1 < b.1

variable {Obj : Type}

/-- Each parameter with the positional arguments left when its turn comes. -/
def stations : List (Param Obj) → List (PyVal Obj) → List (Param Obj × List (PyVal Obj))
  | [], _ => []
  | p :: rest, args =>
    (p, args) :: stations rest
      (match p.kind with
        | .posOnly => args.tail
        | .posOrKw => args.tail
        | .varPos => []
        | _ => args)

namespace Signature

variable (sig : Signature Obj) (c : Call Obj)

def stations (sig : Signature Obj) (c : Call Obj) : List (Param Obj × List (PyVal Obj)) :=
  Foundations.stations sig.params c.args

/-- Some parameter can be filled by a keyword of this name. -/
def names (n : String) : Bool := sig.params.any fun p => p.kind.nameable && p.name == n

/-- The keywords that fill no parameter. -/
def extras : List (String × PyVal Obj) := c.kwargs.filter fun kv => !sig.names kv.1

def accepts (kind : ParamKind) : Bool := sig.params.any fun p => p.kind == kind

/-- More positional arguments than positional parameters, and nobody to collect them. -/
def tooMany : Bool :=
  !sig.accepts .varPos && decide ((sig.params.filter fun p => p.kind.positional).length < c.args.length)

/-! ## The call -/

abbrev Slot (Obj : Type) := Param Obj × Option (PyVal Obj)

/-- What the positional arguments put into the slot of a parameter. -/
def placed (s : Param Obj × List (PyVal Obj)) : Slot Obj :=
  (s.1, match s.1.kind with
    | .posOnly => s.2.head?
    | .posOrKw => s.2.head?
    | .varPos => some (.tuple s.2)
    | _ => none)

/-- The slot a keyword names. -/
def named (n : String) (slot : Slot Obj) : Bool := slot.1.kind.nameable && slot.1.name == n

/-- A keyword goes into the slot it names, unless that is filled, or to the extra ones. -/
def place (state : List (Slot Obj) × List (String × PyVal Obj)) (kv : String × PyVal Obj) :
    Option (List (Slot Obj) × List (String × PyVal Obj)) :=
  if state.1.any (named kv.1) then
    if state.1.any fun slot => named kv.1 slot && slot.2.isSome then none
    else some (state.1.map fun slot => if named kv.1 slot then (slot.1, some kv.2) else slot, state.2)
  else some (state.1, state.2 ++ [kv])

/-- What the body gets for a slot. -/
def settle (extras : List (String × PyVal Obj)) (slot : Slot Obj) : Option (String × PyVal Obj) :=
  (match slot.1.kind with
    | .varKw => some (PyVal.dict extras)
    | _ => slot.2 <|> slot.1.default).map fun v => (slot.1.name, v)

/-- The values the body receives, by parameter; `none` where the call is a `TypeError`. -/
def receive : Option (List (String × PyVal Obj)) := do
  if sig.tooMany c then none
  else
    let (slots, extras) ← c.kwargs.foldlM place ((sig.stations c).map placed, [])
    if !sig.accepts .varKw && !extras.isEmpty then none
    else slots.mapM (settle extras)

/-! ## `inspect.Signature.bind` -/

/-- The value given for a parameter. -/
def given (s : Param Obj × List (PyVal Obj)) : Option (PyVal Obj) :=
  match s.1.kind with
  | .posOnly => s.2.head?
  | .posOrKw => s.2.head? <|> c.kwargs.lookup s.1.name
  | .varPos => if s.2.isEmpty then none else some (.tuple s.2)
  | .kwOnly => c.kwargs.lookup s.1.name
  | .varKw => if (sig.extras c).isEmpty then none else some (.dict (sig.extras c))

/-- A parameter given twice, or a required one not at all. -/
def misfit (s : Param Obj × List (PyVal Obj)) : Bool :=
  s.1.kind == .posOrKw && !s.2.isEmpty && (c.kwargs.lookup s.1.name).isSome ||
    !s.1.kind.variadic && (sig.given c s).isNone && s.1.default.isNone

/-- What no call may have: too many positional arguments, a keyword that nobody takes, a misfit. -/
def unfit : Bool :=
  sig.tooMany c || !sig.accepts .varKw && !(sig.extras c).isEmpty ||
    (sig.stations c).any (sig.misfit c)

/-- A keyword has the name of a positional-only parameter that no positional argument reaches. -/
def namesPosOnly : Bool :=
  (sig.stations c).any fun s =>
    s.1.kind == .posOnly && s.2.isEmpty && (c.kwargs.lookup s.1.name).isSome

/-- `signature.bind(*args, **kwargs).arguments`; `none` where it raises a `TypeError`. -/
def bind : Option (List (String × PyVal Obj)) :=
  -- `bind` walks on from the arguments to the parameters that are left, and raises at a positional-only
  -- one whose name is among the keywords, though the call itself leaves those to `**kwargs`
  if sig.unfit c || sig.namesPosOnly c then none
  else some ((sig.stations c).filterMap fun s => (sig.given c s).map fun v => (s.1.name, v))

def defaultOf (p : Param Obj) : Option (PyVal Obj) :=
  match p.kind with
  | .varPos => some (.tuple [])
  | .varKw => some (.dict [])
  | _ => p.default

/-- `bound.apply_defaults()`. -/
def applyDefaults (bound : List (String × PyVal Obj)) : List (String × PyVal Obj) :=
  sig.params.filterMap fun p =>
    (bound.lookup p.name <|> defaultOf p).map fun v => (p.name, v)

end Signature

/-! ## Lists with distinct keys -/

section Keys

variable {α V : Type}

theorem lookup_filterMap_of_nodup {key : α → String} {value : α → Option V} {xs : List α}
    (hnodup : (xs.map key).Nodup) {a : α} (ha : a ∈ xs) :
    (xs.filterMap fun x => (value x).map fun v => (key x, v)).lookup (key a) = value a := by
  induction xs with
  | nil => cases ha
  | cons x rest ih =>
    rw [List.map_cons, List.nodup_cons] at hnodup
    have hrest : ∀ k, k ∉ rest.map key →
        (rest.filterMap fun x => (value x).map fun v => (key x, v)).lookup k = none := by
      intro k hk
      rw [List.lookup_eq_none_iff]
      rintro ⟨k', v⟩ hmem
      obtain ⟨y, hy, hv⟩ := List.mem_filterMap.mp hmem
      obtain ⟨w, -, heq⟩ := Option.map_eq_some_iff.mp hv
      cases heq
      rw [bne_iff_ne]
      intro heq
      exact hk (heq ▸ List.mem_map_of_mem hy)
    obtain rfl | hmem := List.mem_cons.mp ha
    · cases hvalue : value a with
      | none =>
        rw [List.filterMap_cons_none (by rw [hvalue]; rfl)]
        exact hrest _ hnodup.1
      | some v =>
        rw [List.filterMap_cons_some (b := (key a, v)) (by rw [hvalue]; rfl), lookup_cons_if,
          if_pos rfl]
    · have hne : key a ≠ key x := fun heq => hnodup.1 (heq ▸ List.mem_map_of_mem hmem)
      cases hvalue : value x with
      | none =>
        rw [List.filterMap_cons_none (by rw [hvalue]; rfl)]
        exact ih hnodup.2 hmem
      | some v =>
        rw [List.filterMap_cons_some (b := (key x, v)) (by rw [hvalue]; rfl), lookup_cons_if,
          if_neg hne]
        exact ih hnodup.2 hmem

theorem lookup_filter_ne {k n : String} (xs : List (String × V)) :
    (xs.filter fun kv => kv.1 != k).lookup n = if n = k then none else xs.lookup n := by
  induction xs with
  | nil => split_ifs <;> rfl
  | cons kv rest ih =>
    obtain ⟨m, v⟩ := kv
    by_cases hm : m = k
    · rw [List.filter_cons_of_neg (by simp [hm]), ih, lookup_cons_if]
      by_cases hn : n = k
      · rw [if_pos hn, if_pos hn]
      · rw [if_neg hn, if_neg hn, if_neg (hm ▸ hn)]
    · rw [List.filter_cons_of_pos (by simp [hm]), lookup_cons_if, lookup_cons_if, ih]
      by_cases hn : n = m
      · rw [if_pos hn, if_neg (hn ▸ hm), if_pos hn]
      · rw [if_neg hn, if_neg hn]

theorem any_congr_of_mem {xs : List α} {f g : α → Bool} (h : ∀ x ∈ xs, f x = g x) :
    xs.any f = xs.any g := by
  rw [Bool.eq_iff_iff, List.any_eq_true, List.any_eq_true]
  refine exists_congr fun x => and_congr_right fun hx => ?_
  rw [h x hx]

theorem any_or_any (xs : List α) (f g : α → Bool) :
    (xs.any f || xs.any g) = xs.any fun x => f x || g x := by
  induction xs with
  | nil => rfl
  | cons x rest ih =>
    rw [List.any_cons, List.any_cons, List.any_cons, ← ih]
    cases f x <;> cases g x <;> simp

theorem mapM_option_eq {β : Type} (f : α → Option β) (xs : List α) :
    xs.mapM f = if xs.any (fun x => (f x).isNone) then none else some (xs.filterMap f) := by
  induction xs with
  | nil => rfl
  | cons x rest ih =>
    rw [List.mapM_cons, ih, List.any_cons]
    cases hx : f x with
    | none => rfl
    | some b =>
      rw [List.filterMap_cons_some hx]
      split_ifs with h₁ h₂ h₃
      · rfl
      · exact absurd h₁ h₂
      · exact absurd h₃ h₁
      · rfl

end Keys

theorem Call.nodup_keys (c : Call Obj) : (c.kwargs.map Prod.fst).Nodup := by
  have hsorted : (c.kwargs.map Prod.fst).Pairwise (· < ·) := List.pairwise_map.mpr c.sorted
  refine hsorted.imp fun {a b} hlt heq => ?_
  rw [heq] at hlt
  exact String.lt_irrefl b hlt

namespace Signature

variable {sig : Signature Obj} {c : Call Obj}

theorem stations_fst (params : List (Param Obj)) (args : List (PyVal Obj)) :
    (Foundations.stations params args).map Prod.fst = params := by
  induction params generalizing args with
  | nil => rfl
  | cons p rest ih =>
    rw [Foundations.stations, List.map_cons, ih]

/-- The keyword for a slot, if one can name it. -/
def keywordOf (kwargs : List (String × PyVal Obj)) (slot : Slot Obj) : Option (PyVal Obj) :=
  if slot.1.kind.nameable then kwargs.lookup slot.1.name else none

theorem keywordOf_cons (n : String) (v : PyVal Obj) (rest : List (String × PyVal Obj))
    (slot : Slot Obj) :
    keywordOf ((n, v) :: rest) slot = if named n slot then some v else keywordOf rest slot := by
  unfold keywordOf named
  cases slot.1.kind.nameable with
  | false => simp
  | true =>
    rw [if_pos rfl, if_pos rfl, Bool.true_and, List.lookup_cons]
    cases slot.1.name == n <;> rfl

theorem keywordOf_eq_none {n : String} {kwargs : List (String × PyVal Obj)} {slot : Slot Obj}
    (hn : n ∉ kwargs.map Prod.fst) (hnamed : named n slot = true) : keywordOf kwargs slot = none := by
  unfold named at hnamed
  rw [Bool.and_eq_true, beq_iff_eq] at hnamed
  unfold keywordOf
  rw [if_pos hnamed.1, hnamed.2, List.lookup_eq_none_iff]
  intro kv hkv
  rw [bne_iff_ne]
  intro heq
  exact hn (heq ▸ List.mem_map_of_mem hkv)

/-- Keywords placed one after the other: each slot that can be named gets the keyword of its name,
unless it is filled already. -/
theorem foldlM_place {kwargs : List (String × PyVal Obj)} (hnodup : (kwargs.map Prod.fst).Nodup)
    (slots : List (Slot Obj)) (extras : List (String × PyVal Obj)) :
    kwargs.foldlM place (slots, extras) =
      if slots.any fun slot => slot.2.isSome && (keywordOf kwargs slot).isSome then none
      else some (slots.map fun slot => (slot.1, slot.2 <|> keywordOf kwargs slot),
        extras ++ kwargs.filter fun kv => !slots.any (named kv.1)) := by
  induction kwargs generalizing slots extras with
  | nil =>
    have hnone : ∀ slot : Slot Obj, keywordOf [] slot = none := by
      intro slot
      unfold keywordOf
      split_ifs <;> rfl
    have hsame : (slots.map fun slot => (slot.1, slot.2 <|> keywordOf [] slot)) = slots := by
      refine (List.map_congr_left fun slot _ => ?_).trans (List.map_id slots)
      rw [hnone, Option.orElse_eq_orElse, Option.orElse_eq_or, Option.or_none]
      rfl
    rw [hsame]
    simp [hnone]
  | cons kv rest ih =>
    obtain ⟨n, v⟩ := kv
    rw [List.map_cons, List.nodup_cons] at hnodup
    rw [List.foldlM_cons, place]
    by_cases hnamed : slots.any (named n) = true
    · rw [if_pos hnamed]
      by_cases hfilled : (slots.any fun slot => named n slot && slot.2.isSome) = true
      · rw [if_pos hfilled, if_pos]
        · rfl
        · obtain ⟨slot, hslot, hboth⟩ := List.any_eq_true.mp hfilled
          rw [Bool.and_eq_true] at hboth
          refine List.any_eq_true.mpr ⟨slot, hslot, ?_⟩
          rw [keywordOf_cons, if_pos hboth.1, hboth.2]
          rfl
      · rw [if_neg hfilled]
        have hempty : ∀ slot ∈ slots, named n slot = true → slot.2 = none := by
          intro slot hslot hname
          by_contra hsome
          refine hfilled (List.any_eq_true.mpr ⟨slot, hslot, ?_⟩)
          rw [hname, Bool.true_and, Option.isSome_iff_ne_none]
          exact hsome
        show rest.foldlM place (_, extras) = _
        rw [ih hnodup.2, List.any_map, List.map_map]
        have hclash : (slots.any ((fun slot : Slot Obj =>
              slot.2.isSome && (keywordOf rest slot).isSome) ∘
              fun slot => if named n slot then (slot.1, some v) else slot)) =
            slots.any fun slot => slot.2.isSome && (keywordOf ((n, v) :: rest) slot).isSome := by
          refine any_congr_of_mem fun slot hslot => ?_
          rw [Function.comp_apply, keywordOf_cons]
          by_cases hname : named n slot = true
          · have hlater := keywordOf_eq_none hnodup.1 hname
            rw [if_pos hname, if_pos hname, hempty slot hslot hname]
            have hset : keywordOf rest (slot.1, some v) = none := hlater
            rw [hset]
            rfl
          · rw [if_neg hname, if_neg hname]
        have hslots : (slots.map ((fun slot : Slot Obj => (slot.1, slot.2 <|> keywordOf rest slot)) ∘
              fun slot => if named n slot then (slot.1, some v) else slot)) =
            slots.map fun slot => (slot.1, slot.2 <|> keywordOf ((n, v) :: rest) slot) := by
          refine List.map_congr_left fun slot hslot => ?_
          rw [Function.comp_apply, keywordOf_cons]
          by_cases hname : named n slot = true
          · rw [if_pos hname, if_pos hname, hempty slot hslot hname]
            rfl
          · rw [if_neg hname, if_neg hname]
        have hextras : (rest.filter fun kv => !(slots.map fun slot =>
              if named n slot then (slot.1, some v) else slot).any (named kv.1)) =
            ((n, v) :: rest).filter fun kv => !slots.any (named kv.1) := by
          rw [List.filter_cons_of_neg (by simp [hnamed])]
          refine List.filter_congr fun kv _ => ?_
          rw [List.any_map]
          congr 1
          refine any_congr_of_mem fun slot _ => ?_
          rw [Function.comp_apply]
          split_ifs <;> rfl
        rw [hclash, hslots, hextras]
    · rw [if_neg hnamed]
      show rest.foldlM place (slots, extras ++ [(n, v)]) = _
      have hother : ∀ slot ∈ slots, keywordOf ((n, v) :: rest) slot = keywordOf rest slot := by
        intro slot hslot
        have hname : ¬ named n slot = true := fun h => hnamed (List.any_eq_true.mpr ⟨slot, hslot, h⟩)
        rw [keywordOf_cons, if_neg hname]
      have hclash : (slots.any fun slot => slot.2.isSome && (keywordOf rest slot).isSome) =
          slots.any fun slot => slot.2.isSome && (keywordOf ((n, v) :: rest) slot).isSome :=
        any_congr_of_mem fun slot hslot => by rw [hother slot hslot]
      have hslots : (slots.map fun slot => (slot.1, slot.2 <|> keywordOf rest slot)) =
          slots.map fun slot => (slot.1, slot.2 <|> keywordOf ((n, v) :: rest) slot) :=
        List.map_congr_left fun slot hslot => by rw [hother slot hslot]
      rw [ih hnodup.2, hclash, hslots, List.filter_cons_of_pos (by simp [hnamed]),
        List.append_assoc, List.singleton_append]

/-! ## The two agree -/

theorem any_named_placed (n : String) :
    ((sig.stations c).map placed).any (named n) = sig.names n := by
  have hmap : ((sig.stations c).map placed).map Prod.fst = sig.params := by
    rw [List.map_map]
    exact stations_fst sig.params c.args
  unfold names
  rw [← hmap]
  simp only [List.any_map]
  rfl

/-- The slot of a parameter after all arguments have been placed. -/
def filled (c : Call Obj) (s : Param Obj × List (PyVal Obj)) : Slot Obj :=
  (s.1, (placed s).2 <|> keywordOf c.kwargs (placed s))

theorem settle_filled (s : Param Obj × List (PyVal Obj)) :
    settle (sig.extras c) (filled c s) =
      (sig.given c s <|> defaultOf s.1).map fun v => (s.1.name, v) := by
  obtain ⟨⟨name, kind, default⟩, args⟩ := s
  unfold settle filled given defaultOf placed keywordOf
  cases kind with
  | posOnly => cases args <;> rfl
  | posOrKw => cases args <;> rfl
  | varPos => cases args <;> rfl
  | kwOnly => rfl
  | varKw => cases sig.extras c <;> rfl

theorem misfit_eq (s : Param Obj × List (PyVal Obj)) :
    sig.misfit c s = ((placed s).2.isSome && (keywordOf c.kwargs (placed s)).isSome ||
      (settle (sig.extras c) (filled c s)).isNone) := by
  rw [settle_filled]
  obtain ⟨⟨name, kind, default⟩, args⟩ := s
  unfold misfit given defaultOf placed keywordOf
  cases kind with
  | posOnly => cases args <;> cases default <;> rfl
  | posOrKw => cases args <;> cases default <;> cases c.kwargs.lookup name <;> rfl
  | varPos => cases args <;> rfl
  | kwOnly => cases default <;> cases c.kwargs.lookup name <;> rfl
  | varKw => cases sig.extras c <;> rfl

theorem nodup_stations : ((sig.stations c).map fun s => s.1.name).Nodup := by
  have hdistinct := sig.distinct
  rw [← stations_fst sig.params c.args, List.map_map] at hdistinct
  exact hdistinct

theorem applyDefaults_given :
    sig.applyDefaults ((sig.stations c).filterMap fun s =>
        (sig.given c s).map fun v => (s.1.name, v)) =
      (sig.stations c).filterMap fun s =>
        (sig.given c s <|> defaultOf s.1).map fun v => (s.1.name, v) := by
  have hfst : (sig.stations c).map Prod.fst = sig.params := stations_fst sig.params c.args
  unfold applyDefaults
  rw [← hfst, List.filterMap_map]
  refine List.filterMap_congr fun s hs => ?_
  rw [Function.comp_apply, lookup_filterMap_of_nodup nodup_stations hs]

/-- The call in terms of the parameters: each gets what is given for it, or its default. -/
theorem receive_eq : sig.receive c = if sig.unfit c then none
    else some ((sig.stations c).filterMap fun s =>
      (sig.given c s <|> defaultOf s.1).map fun v => (s.1.name, v)) := by
  have hextras : (c.kwargs.filter fun kv => !((sig.stations c).map placed).any (named kv.1)) =
      sig.extras c := List.filter_congr fun kv _ => by rw [any_named_placed]
  have hslots : (((sig.stations c).map placed).map fun slot =>
      (slot.1, slot.2 <|> keywordOf c.kwargs slot)) = (sig.stations c).map (filled c) := by
    rw [List.map_map]
    rfl
  have hmisfit : (sig.stations c).any (sig.misfit c) =
      (((sig.stations c).map placed).any (fun slot =>
          slot.2.isSome && (keywordOf c.kwargs slot).isSome) ||
        ((sig.stations c).map (filled c)).any fun slot =>
          (settle (sig.extras c) slot).isNone) := by
    rw [List.any_map, List.any_map, any_or_any]
    exact any_congr_of_mem fun s _ => misfit_eq s
  have hframe : ((sig.stations c).map (filled c)).filterMap (settle (sig.extras c)) =
      (sig.stations c).filterMap fun s =>
        (sig.given c s <|> defaultOf s.1).map fun v => (s.1.name, v) := by
    rw [List.filterMap_map]
    exact List.filterMap_congr fun s _ => settle_filled s
  unfold receive unfit
  rw [foldlM_place c.nodup_keys, hextras, hslots, List.nil_append, hmisfit]
  cases sig.tooMany c with
  | true => rfl
  | false =>
    cases hclash : ((sig.stations c).map placed).any fun slot =>
        slot.2.isSome && (keywordOf c.kwargs slot).isSome with
    | true => simp
    | false =>
      cases hsurplus : !sig.accepts .varKw && !(sig.extras c).isEmpty with
      | true =>
        simp only [Bool.false_eq_true, if_false, Option.bind_eq_bind, Option.bind_some, hsurplus,
          if_true, Bool.false_or, Bool.true_or]
      | false =>
        simp only [Bool.false_eq_true, if_false, Option.bind_eq_bind, Option.bind_some, hsurplus,
          Bool.or_self, Bool.false_or, mapM_option_eq, hframe]

/-- Where no keyword has the name of a positional-only parameter left to its default, a call is accepted
exactly when it can be bound, and the body receives the bound arguments with the defaults applied. -/
theorem bind_eq_receive : (sig.bind c).map sig.applyDefaults =
    if sig.namesPosOnly c then none else sig.receive c := by
  rw [receive_eq, bind]
  cases sig.namesPosOnly c with
  | true => rw [Bool.or_true, if_pos rfl, if_pos rfl, Option.map_none]
  | false =>
    rw [Bool.or_false, if_neg Bool.false_ne_true]
    cases sig.unfit c with
    | true => rfl
    | false => exact congrArg some applyDefaults_given

/-! ## What the body receives -/

variable {received : List (String × PyVal Obj)} {n : String} {v : PyVal Obj}

theorem received_eq (h : sig.receive c = some received) :
    received = (sig.stations c).filterMap fun s =>
      (sig.given c s <|> defaultOf s.1).map fun v => (s.1.name, v) := by
  rw [receive_eq] at h
  split_ifs at h
  exact (Option.some.inj h).symm

theorem mem_received_iff (h : sig.receive c = some received) :
    (n, v) ∈ received ↔ ∃ s ∈ sig.stations c, s.1.name = n ∧
      (sig.given c s <|> defaultOf s.1) = some v := by
  rw [received_eq h, List.mem_filterMap]
  refine exists_congr fun s => and_congr_right fun _ => ?_
  rw [Option.map_eq_some_iff]
  constructor
  · rintro ⟨w, hw, heq⟩
    cases heq
    exact ⟨rfl, hw⟩
  · rintro ⟨rfl, hv⟩
    exact ⟨v, hv, rfl⟩

/-- What a parameter of an accepted call gets, under its name. -/
theorem lookup_received (h : sig.receive c = some received) {s : Param Obj × List (PyVal Obj)}
    (hs : s ∈ sig.stations c) :
    received.lookup s.1.name = (sig.given c s <|> defaultOf s.1) := by
  rw [received_eq h]
  exact lookup_filterMap_of_nodup nodup_stations hs

theorem lookup_received_iff (h : sig.receive c = some received) :
    received.lookup n = some v ↔ (n, v) ∈ received := by
  constructor
  · intro hlookup
    obtain ⟨before, after, heq, -⟩ := List.lookup_eq_some_iff.mp hlookup
    rw [heq]
    exact List.mem_append_right before List.mem_cons_self
  · intro hmem
    obtain ⟨s, hs, rfl, hvalue⟩ := (mem_received_iff h).mp hmem
    rw [lookup_received h hs, hvalue]

/-- In an accepted call every parameter gets a value. -/
theorem value_of_receive (h : sig.receive c = some received) {s : Param Obj × List (PyVal Obj)}
    (hs : s ∈ sig.stations c) : ∃ v, (sig.given c s <|> defaultOf s.1) = some v := by
  rw [receive_eq] at h
  split_ifs at h with hunfit
  rw [unfit, Bool.or_eq_true, not_or, Bool.not_eq_true (List.any _ _), List.any_eq_false] at hunfit
  have hfit := hunfit.2 s hs
  rw [misfit_eq, settle_filled, Bool.or_eq_true, not_or, Option.isNone_iff_eq_none] at hfit
  exact Option.ne_none_iff_exists'.mp fun hnone => hfit.2 (by rw [hnone]; rfl)

theorem not_nameable_of_mem_extras (h : (n, v) ∈ sig.extras c)
    {s : Param Obj × List (PyVal Obj)} (hs : s ∈ sig.stations c) (hname : s.1.name = n) :
    s.1.kind.nameable = false := by
  have hnone : sig.names n = false := by simpa using (List.mem_filter.mp h).2
  have hfst : (sig.stations c).map Prod.fst = sig.params := stations_fst sig.params c.args
  have hparam : s.1 ∈ sig.params := hfst ▸ List.mem_map_of_mem hs
  by_contra hnameable
  rw [Bool.not_eq_false] at hnameable
  have htrue : sig.names n = true :=
    List.any_eq_true.mpr ⟨s.1, hparam, by rw [hnameable, hname, beq_self_eq_true]; rfl⟩
  rw [hnone] at htrue
  cases htrue

theorem ne_dict_of_mem {items : List (String × PyVal Obj)} (h : (n, v) ∈ items) :
    v ≠ .dict items := by
  intro heq
  have hsize := List.sizeOf_lt_of_mem h
  have hdict := congrArg sizeOf heq
  simp only [Prod.mk.sizeOf_spec, PyVal.dict.sizeOf_spec] at hsize hdict
  omega

/-- The value of a parameter that no keyword can name. -/
def unnamed (s : Param Obj × List (PyVal Obj)) : Option (PyVal Obj) :=
  match s.1.kind with
  | .posOnly => s.2.head? <|> s.1.default
  | .varPos => some (.tuple s.2)
  | _ => none

/-- An extra keyword is also received under its name exactly when a parameter that it cannot name has
its name and its value. -/
theorem extra_received_iff (h : sig.receive c = some received) (hextra : (n, v) ∈ sig.extras c) :
    (n, v) ∈ received ↔ ∃ s ∈ sig.stations c, s.1.name = n ∧ unnamed s = some v := by
  rw [mem_received_iff h]
  refine exists_congr fun s => and_congr_right fun hs => and_congr_right fun hname => ?_
  have hnot := not_nameable_of_mem_extras hextra hs hname
  obtain ⟨⟨name, kind, default⟩, args⟩ := s
  unfold given defaultOf unnamed
  cases kind with
  | posOnly => exact Iff.rfl
  | posOrKw => cases hnot
  | varPos => cases args <;> exact Iff.rfl
  | kwOnly => cases hnot
  | varKw =>
    have hne : sig.extras c ≠ [] := List.ne_nil_of_mem hextra
    refine iff_of_false ?_ nofun
    simp only [List.isEmpty_iff, if_neg hne]
    intro heq
    exact ne_dict_of_mem hextra (Option.some.inj heq).symm

end Signature

end Foundations
