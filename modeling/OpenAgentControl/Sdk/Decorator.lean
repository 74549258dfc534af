import OpenAgentControl.Foundations.CallBinding
import OpenAgentControl.Foundations.SortedKeys
import OpenAgentControl.Foundations.Traced
import OpenAgentControl.Sdk.Client
import Mathlib.Data.String.Basic

/-! # The `@governed` decorator

`sdk/decorator.py`: a call is bound to the signature of the function, the bound arguments are sent for
a decision, and the function runs if it is allowed. Where `inspect` refuses the call, its keywords are
sent as they are. The main result compares what was sent with what the body received. -/

namespace OpenAgentControl
set_option autoImplicit false
set_option maxHeartbeats 250000

open Foundations

inductive OnDeny
  | raising
  | returning
deriving DecidableEq

/-- What a call of the decorated function raises. -/
inductive WrapperExc
  | authorize (e : SdkExc)
  | toolCallDenied (result : AuthorizationResult) (tool : String)
  | typeError
  | raised (className : String)

inductive Returned (R : Type)
  | value (r : R)
  | text (message : String)

/-- A plain function: its body gets a value for each parameter. -/
structure PlainFunction (Obj R : Type) where
  name : String
  coroutine : Bool
  signature : Signature Obj
  body : List (String × PyVal Obj) → Except String R

/-- The client a function is governed by. -/
structure GovernClient (Obj : Type) where
  isAsync : Bool
  authorize : String → List (String × PyVal Obj) → Except SdkExc AuthorizationResult
  repr : Json → String

inductive WrapperEvent (Obj R : Type)
  | authorized (tool : String) (arguments : List (String × PyVal Obj))
      (answer : Except WrapperExc AuthorizationResult)
  | ran (received : List (String × PyVal Obj)) (outcome : Except WrapperExc R)

variable {Obj R : Type}

/-- `denial_text`. -/
def denialText (repr : Json → String) (result : AuthorizationResult) (tool : String) : String :=
  let message := "BLOCKED: '" ++ tool ++ "' denied by policy — " ++ pyStr repr result.reason
  if result.instruction.truthy then message ++ "\n\n" ++ pyStr repr result.instruction else message

/-- `_bind`. -/
def bindArguments (signature : Signature Obj) (c : Call Obj) : List (String × PyVal Obj) :=
  match signature.bind c with
  | none => c.kwargs
  | some bound => (signature.applyDefaults bound).filter fun kv => kv.1 != "self"

/-- The wrapper around a function, the same for a plain one and for a coroutine. -/
def wrapper (client : GovernClient Obj) (tool : String) (onDeny : OnDeny) (func : PlainFunction Obj R)
    (c : Call Obj) : Traced (WrapperEvent Obj R) WrapperExc (Returned R) := do
  let arguments := bindArguments func.signature c
  let result ← .perform (.authorized tool arguments)
    ((client.authorize tool arguments).mapError .authorize)
  if result.allowed then
    match func.signature.receive c with
    | none => .raise .typeError
    | some received =>
      let value ← .perform (.ran received) ((func.body received).mapError .raised)
      return .value value
  else
    match onDeny with
    | .returning => return .text (denialText client.repr result tool)
    | .raising => .raise (.toolCallDenied result tool)

/-- `governed`: a coroutine needs an asynchronous client, any other function a blocking one. -/
def governed (client : GovernClient Obj) (name : Option String) (onDeny : OnDeny)
    (func : PlainFunction Obj R) :
    Except WrapperExc (Call Obj → Traced (WrapperEvent Obj R) WrapperExc (Returned R)) :=
  if func.coroutine = client.isAsync then
    .ok (wrapper client (match name with
      | some name => if name = "" then func.name else name
      | none => func.name) onDeny func)
  else .error .typeError

/-! ## What was sent, and what was received -/

/-- The arguments sent for a decision. -/
def asked (trace : List (WrapperEvent Obj R)) : List (List (String × PyVal Obj)) :=
  trace.filterMap fun e =>
    match e with
    | .authorized _ arguments _ => some arguments
    | .ran _ _ => none

/-- Every value that the body received, and every extra keyword, was sent under its name. -/
def Seen (signature : Signature Obj) (c : Call Obj) (received : List (String × PyVal Obj))
    (trace : List (WrapperEvent Obj R)) : Prop :=
  ∃ arguments ∈ asked trace,
    (∀ n v, (n, v) ∈ received → n ≠ "self" → arguments.lookup n = some v) ∧
      ∀ n v, (n, v) ∈ signature.extras c → arguments.lookup n = some v

/-- The two calls ask about the same arguments. -/
def AskAlike (trace trace' : List (WrapperEvent Obj R)) : Prop :=
  List.Forall₂ (fun arguments arguments' => ∀ n, arguments.lookup n = arguments'.lookup n)
    (asked trace) (asked trace')

/-- A keyword that fills no parameter repeats the name and the value of one that no keyword can name,
other than `self`. -/
def PlainKeywords (signature : Signature Obj) (c : Call Obj) : Prop :=
  ∀ n v, (n, v) ∈ signature.extras c →
    n ≠ "self" ∧ ∃ s ∈ signature.stations c, s.1.name = n ∧ Signature.unnamed s = some v

/-- Every parameter other than `self` has a keyword of its name, with its value. -/
def KeywordsTell (signature : Signature Obj) (c : Call Obj) : Prop :=
  ∀ s ∈ signature.stations c, s.1.name ≠ "self" →
    c.kwargs.lookup s.1.name = (signature.given c s <|> Signature.defaultOf s.1)

/-- And there is no other keyword. -/
def KeywordsTellOnly (signature : Signature Obj) (c : Call Obj) : Prop :=
  KeywordsTell signature c ∧ ∀ n v, (n, v) ∈ c.kwargs →
    n ≠ "self" ∧ ∃ s ∈ signature.stations c, s.1.name = n

/-- The condition on a call whose body runs. -/
def Tells (signature : Signature Obj) (c : Call Obj) : Prop :=
  if signature.namesPosOnly c then KeywordsTell signature c else PlainKeywords signature c

/-- The condition on two calls that give a body the same values. -/
def TellAlike (signature : Signature Obj) (c c' : Call Obj) : Prop :=
  match signature.namesPosOnly c, signature.namesPosOnly c' with
  | false, false => True
  | true, true => c.kwargs = c'.kwargs
  | true, false => KeywordsTellOnly signature c
  | false, true => KeywordsTellOnly signature c'

variable {signature : Signature Obj} {c c' : Call Obj} {received : List (String × PyVal Obj)}

/-- Of a call that the function accepts, the keywords are sent where `inspect` refuses it, and else the
values that the body receives, but for `self`. -/
theorem bindArguments_of_receive (h : signature.receive c = some received) :
    bindArguments signature c =
      if signature.namesPosOnly c then c.kwargs else received.filter fun kv => kv.1 != "self" := by
  have hagree := @Signature.bind_eq_receive Obj signature c
  rw [h] at hagree
  rw [bindArguments]
  cases hnames : signature.namesPosOnly c with
  | true =>
    rw [hnames, if_pos rfl, Option.map_eq_none_iff] at hagree
    rw [hagree, if_pos rfl]
  | false =>
    rw [hnames, if_neg Bool.false_ne_true] at hagree
    obtain ⟨bound, hbound, rfl⟩ := Option.map_eq_some_iff.mp hagree
    rw [hbound, if_neg Bool.false_ne_true]

theorem lookup_bindArguments (h : signature.receive c = some received)
    (hnames : signature.namesPosOnly c = false) (n : String) :
    (bindArguments signature c).lookup n = if n = "self" then none else received.lookup n := by
  rw [bindArguments_of_receive h, hnames, if_neg Bool.false_ne_true, lookup_filter_ne]

theorem lookup_kwargs {n : String} {v : PyVal Obj} :
    c.kwargs.lookup n = some v ↔ (n, v) ∈ c.kwargs := lookup_eq_some_iff_mem c.nodup_keys

/-- Keywords alone say what a bound call says exactly when they are the values of all parameters. -/
theorem kwargs_tell_iff (h : signature.receive c = some received) :
    (∀ n, c.kwargs.lookup n = if n = "self" then none else received.lookup n) ↔
      KeywordsTellOnly signature c := by
  constructor
  · intro hsame
    refine ⟨fun s hs hself => ?_, fun n v hmem => ?_⟩
    · rw [hsame, if_neg hself, Signature.lookup_received h hs]
    · have hlookup := hsame n
      rw [lookup_kwargs.mpr hmem] at hlookup
      split_ifs at hlookup with hself
      obtain ⟨s, hs, hname, -⟩ :=
        (Signature.mem_received_iff h).mp ((Signature.lookup_received_iff h).mp hlookup.symm)
      exact ⟨hself, s, hs, hname⟩
  · rintro ⟨htell, honly⟩ n
    have hnone : (n = "self" ∨ ∀ s ∈ signature.stations c, s.1.name ≠ n) →
        c.kwargs.lookup n = none := by
      intro hother
      by_contra hsome
      obtain ⟨v, hv⟩ := Option.ne_none_iff_exists'.mp hsome
      obtain ⟨hself, s, hs, hname⟩ := honly n v (lookup_kwargs.mp hv)
      exact hother.elim hself fun hnobody => hnobody s hs hname
    split_ifs with hself
    · exact hnone (Or.inl hself)
    · by_cases hnamed : ∃ s ∈ signature.stations c, s.1.name = n
      · obtain ⟨s, hs, rfl⟩ := hnamed
        rw [htell s hs hself, Signature.lookup_received h hs]
      · have hnobody : ∀ s ∈ signature.stations c, s.1.name ≠ n := fun s hs hname =>
          hnamed ⟨s, hs, hname⟩
        rw [hnone (Or.inr hnobody)]
        by_contra hsome
        obtain ⟨v, hv⟩ := Option.ne_none_iff_exists'.mp (Ne.symm hsome)
        obtain ⟨s, hs, hname, -⟩ :=
          (Signature.mem_received_iff h).mp ((Signature.lookup_received_iff h).mp hv)
        exact hnobody s hs hname

/-- Two calls that give a body the same values send the same arguments exactly when they tell alike. -/
theorem bindArguments_same_iff (h : signature.receive c = some received)
    (h' : signature.receive c' = some received) :
    (∀ n, (bindArguments signature c).lookup n = (bindArguments signature c').lookup n) ↔
      TellAlike signature c c' := by
  unfold TellAlike
  cases hnames : signature.namesPosOnly c with
  | false =>
    cases hnames' : signature.namesPosOnly c' with
    | false =>
      refine iff_of_true (fun n => ?_) trivial
      rw [lookup_bindArguments h hnames, lookup_bindArguments h' hnames']
    | true =>
      rw [← kwargs_tell_iff h', bindArguments_of_receive h', hnames', if_pos rfl]
      refine forall_congr' fun n => ?_
      rw [lookup_bindArguments h hnames, eq_comm]
  | true =>
    rw [bindArguments_of_receive h, hnames, if_pos rfl]
    cases hnames' : signature.namesPosOnly c' with
    | false =>
      rw [← kwargs_tell_iff h]
      refine forall_congr' fun n => ?_
      rw [lookup_bindArguments h' hnames']
    | true =>
      rw [bindArguments_of_receive h', hnames', if_pos rfl]
      exact ⟨eq_of_lookup_eq c.sorted c'.sorted, fun hsame n => by rw [hsame]⟩

variable {client : GovernClient Obj} {tool : String} {onDeny : OnDeny} {func : PlainFunction Obj R}

theorem wrapper_trace :
    ∃ answer, (wrapper client tool onDeny func c).trace =
        [.authorized tool (bindArguments func.signature c) answer] ∨
      ∃ received outcome, func.signature.receive c = some received ∧
        (wrapper client tool onDeny func c).trace =
          [.authorized tool (bindArguments func.signature c) answer, .ran received outcome] := by
  cases hanswer : client.authorize tool (bindArguments func.signature c) with
  | error e =>
    simp only [wrapper, hanswer]
    exact ⟨_, Or.inl rfl⟩
  | ok result =>
    simp only [wrapper, hanswer]
    refine ⟨.ok result, ?_⟩
    rw [Traced.bind_of_ok rfl]
    cases result.allowed with
    | false => cases onDeny <;> exact Or.inl rfl
    | true =>
      cases hreceive : func.signature.receive c with
      | none =>
        refine Or.inl ?_
        simp [Except.mapError]
      | some received =>
        refine Or.inr ⟨received, (func.body received).mapError .raised, rfl, ?_⟩
        simp only [if_true]
        cases func.body received with
        | ok value => rfl
        | error className => rfl

/-- Of a call that `inspect` binds, everything is seen exactly when its extra keywords are plain. -/
theorem seen_iff_plain (h : signature.receive c = some received)
    (hnames : signature.namesPosOnly c = false) {trace : List (WrapperEvent Obj R)}
    (htrace : asked trace = [bindArguments signature c]) :
    Seen signature c received trace ↔ PlainKeywords signature c := by
  have hlookup : ∀ {n v}, (bindArguments signature c).lookup n = some v ↔
      n ≠ "self" ∧ (n, v) ∈ received := by
    intro n v
    rw [lookup_bindArguments h hnames, ← Signature.lookup_received_iff h]
    split_ifs with hself
    · exact iff_of_false nofun fun hboth => hboth.1 hself
    · exact ⟨fun hlookup => ⟨hself, hlookup⟩, And.right⟩
  unfold Seen PlainKeywords
  rw [htrace]
  simp only [List.mem_singleton, exists_eq_left, hlookup]
  constructor
  · rintro ⟨-, hextras⟩ n v hextra
    obtain ⟨hself, hmem⟩ := hextras n v hextra
    exact ⟨hself, (Signature.extra_received_iff h hextra).mp hmem⟩
  · intro hplain
    refine ⟨fun n v hmem hself => ⟨hself, hmem⟩, fun n v hextra => ?_⟩
    obtain ⟨hself, hrepeats⟩ := hplain n v hextra
    exact ⟨hself, (Signature.extra_received_iff h hextra).mpr hrepeats⟩

/-- Of a call that `inspect` refuses, the keywords have to tell every value. -/
theorem seen_iff_tell (h : signature.receive c = some received)
    (hnames : signature.namesPosOnly c = true) {trace : List (WrapperEvent Obj R)}
    (htrace : asked trace = [bindArguments signature c]) :
    Seen signature c received trace ↔ KeywordsTell signature c := by
  unfold Seen KeywordsTell
  rw [htrace, bindArguments_of_receive h, hnames, if_pos rfl]
  simp only [List.mem_singleton, exists_eq_left]
  constructor
  · rintro ⟨hvalues, -⟩ s hs hself
    obtain ⟨v, hv⟩ := Signature.value_of_receive h hs
    rw [hv]
    exact hvalues s.1.name v ((Signature.mem_received_iff h).mpr ⟨s, hs, rfl, hv⟩) hself
  · intro htell
    refine ⟨fun n v hmem hself => ?_, fun n v hextra => ?_⟩
    · obtain ⟨s, hs, rfl, hv⟩ := (Signature.mem_received_iff h).mp hmem
      rw [htell s hs hself, hv]
    · exact lookup_kwargs.mpr (List.mem_of_mem_filter hextra)

theorem seen_iff (h : signature.receive c = some received) {trace : List (WrapperEvent Obj R)}
    (htrace : asked trace = [bindArguments signature c]) :
    Seen signature c received trace ↔ Tells signature c := by
  unfold Tells
  cases hnames : signature.namesPosOnly c with
  | true =>
    rw [if_pos rfl]
    exact seen_iff_tell h hnames htrace
  | false =>
    rw [if_neg Bool.false_ne_true]
    exact seen_iff_plain h hnames htrace

/-- What a governed function shows the policy: two calls that give the body the same values ask about the
same arguments exactly when they tell alike, and a call whose body runs shows every value exactly when
it tells them. -/
theorem governed_seen_iff (client : GovernClient Obj) (name : Option String) (onDeny : OnDeny)
    (func : PlainFunction Obj R)
    (w : Call Obj → Traced (WrapperEvent Obj R) WrapperExc (Returned R))
    (hw : governed client name onDeny func = .ok w) :
    (∀ c c' received, func.signature.receive c = some received →
      func.signature.receive c' = some received →
      (AskAlike (w c).trace (w c').trace ↔ TellAlike func.signature c c')) ∧
    ∀ c received outcome, .ran received outcome ∈ (w c).trace →
      (Seen func.signature c received (w c).trace ↔ Tells func.signature c) := by
  obtain ⟨tool, rfl⟩ : ∃ tool, w = wrapper client tool onDeny func := by
    unfold governed at hw
    split_ifs at hw
    exact ⟨_, (Except.ok.inj hw).symm⟩
  have hasked : ∀ c, asked (wrapper client tool onDeny func c).trace =
      [bindArguments func.signature c] := by
    intro c
    obtain ⟨answer, htrace | ⟨received, outcome, -, htrace⟩⟩ :=
      @wrapper_trace Obj R c client tool onDeny func
    · rw [htrace]
      rfl
    · rw [htrace]
      rfl
  refine ⟨?_, ?_⟩
  · intro c c' received h h'
    rw [AskAlike, hasked, hasked, List.forall₂_cons, ← bindArguments_same_iff h h']
    exact and_iff_left .nil
  · intro c received outcome hran
    have hreceive : func.signature.receive c = some received := by
      obtain ⟨answer, htrace | ⟨received', outcome', hreceive, htrace⟩⟩ :=
        @wrapper_trace Obj R c client tool onDeny func
      · rw [htrace] at hran
        simp at hran
      · rw [htrace] at hran
        simp only [List.mem_cons, reduceCtorEq, WrapperEvent.ran.injEq, List.not_mem_nil, or_false,
          false_or] at hran
        rw [hran.1]
        exact hreceive
    exact seen_iff hreceive (hasked c)

/-! ## A threshold hidden by a keyword -/

/-- A function that takes whatever keywords it is given. -/
def updateAccount : PlainFunction ℕ Unit where
  name := "update_account"
  coroutine := false
  signature := {
    params := [{ name := "fields", kind := .varKw }]
    distinct := by decide
    ordered := by decide }
  body _ := .ok ()

def allowingClient : GovernClient ℕ where
  isAsync := false
  authorize _ _ := .ok {
    allowed := true
    decision := .allow
    reason := .str ""
    instruction := .str ""
    receiptId := .str "receipt-1"
    shadowed := false }
  repr _ := ""

/-- `update_account(credit_limit=50000)`. -/
def raiseLimit : Call ℕ where
  args := []
  kwargs := [("credit_limit", .obj 50000)]
  sorted := by decide

theorem raiseLimit_trace : ∃ w, governed allowingClient none .raising updateAccount = .ok w ∧
    ∃ answer, (w raiseLimit).trace =
      [.authorized "update_account" [("fields", .dict [("credit_limit", .obj 50000)])] answer,
        .ran [("fields", .dict [("credit_limit", .obj 50000)])] (.ok ())] :=
  ⟨_, rfl, _, rfl⟩

/-- `def capped(limit=1, /, **options)`. -/
def capped : PlainFunction ℕ Unit where
  name := "capped"
  coroutine := false
  signature := {
    params := [{ name := "limit", kind := .posOnly, default := some (.obj 1) },
      { name := "options", kind := .varKw }]
    distinct := by decide
    ordered := by decide }
  body _ := .ok ()

/-- `capped(limit=5)`: the option is called like the parameter that is left to its default. -/
def capKeyword : Call ℕ where
  args := []
  kwargs := [("limit", .obj 5)]
  sorted := by decide

/-- `capped(1, limit=5)`. -/
def capBoth : Call ℕ where
  args := [.obj 1]
  kwargs := [("limit", .obj 5)]
  sorted := by decide

/-- A keyword that is collected, and two calls with one effect of which `inspect` refuses the first. -/
theorem raiseLimit_seen_iff :
    (∃ w, governed allowingClient none .raising updateAccount = .ok w ∧
      (Seen updateAccount.signature raiseLimit
          [("fields", .dict [("credit_limit", .obj 50000)])] (w raiseLimit).trace ↔
        Tells updateAccount.signature raiseLimit)) ∧
    ∃ w, governed allowingClient none .raising capped = .ok w ∧
      capped.signature.receive capKeyword = capped.signature.receive capBoth ∧
      (AskAlike (w capKeyword).trace (w capBoth).trace ↔
        KeywordsTellOnly capped.signature capKeyword) := by
  obtain ⟨w, hw, answer, htrace⟩ := raiseLimit_trace
  refine ⟨⟨w, hw, (governed_seen_iff allowingClient none .raising updateAccount w hw).2 raiseLimit _
    (.ok ()) ?_⟩, ?_⟩
  · rw [htrace]
    exact List.mem_cons_of_mem _ List.mem_cons_self
  · exact ⟨_, rfl, rfl, (governed_seen_iff allowingClient none .raising capped _ rfl).1 capKeyword
      capBoth _ rfl rfl⟩

/-- The body runs with a credit limit that was sent under no key of its own. -/
theorem raiseLimit_unseen : ∃ w, governed allowingClient none .raising updateAccount = .ok w ∧
    ∃ received outcome, .ran received outcome ∈ (w raiseLimit).trace ∧
      ¬ Seen updateAccount.signature raiseLimit received (w raiseLimit).trace := by
  obtain ⟨w, hw, answer, htrace⟩ := raiseLimit_trace
  refine ⟨w, hw, [("fields", .dict [("credit_limit", .obj 50000)])], .ok (), ?_, ?_⟩
  · rw [htrace]
    exact List.mem_cons_of_mem _ List.mem_cons_self
  · rw [htrace]
    rintro ⟨arguments, hmem, -, hextras⟩
    obtain rfl := List.mem_singleton.mp hmem
    have hlookup := hextras "credit_limit" (.obj 50000) List.mem_cons_self
    cases hlookup

end OpenAgentControl
