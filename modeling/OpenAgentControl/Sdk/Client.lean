import OpenAgentControl.Adapters.Identity

/-! # The clients of the SDK

`sdk/client.py`: the requests of `GovernedClient` and `AsyncGovernedClient`, and the two parsers and the
error detail they share. `Reports` says what a caller may be told; the main result says of every
method for which answers of the gateway it is told that. -/

namespace OpenAgentControl
set_option autoImplicit false
set_option maxHeartbeats 250000

open Foundations

/-! ## Answers -/

/-- What a method of the SDK raises. -/
inductive SdkExc
  | gatewayError (message : String)
  | toolCallFailed (message : String)
  | other (className : String)
deriving DecidableEq

structure HttpResponse where
  status : ℕ
  text : String
  /-- `response.json()`, which raises a `ValueError` on a body that is not JSON. -/
  json : Option Json

/-- What a `post` of the HTTP client comes to: an `httpx.HTTPError`, or a response. -/
inductive PostResult
  | httpError (message : String)
  | response (r : HttpResponse)

structure AuthorizationResult where
  allowed : Bool
  decision : Decision
  reason : Json
  instruction : Json
  receiptId : Json
  shadowed : Bool
deriving DecidableEq

/-- `value[:200]`. -/
def clip (value : String) : String := String.ofList (value.toList.take 200)

/-- `value.strip()`. -/
def pyStrip (value : String) : String :=
  String.ofList (((value.toList.dropWhile pySpace).reverse.dropWhile pySpace).reverse)

/-- `(value or {}).get(key)`. -/
def getOrEmpty (value : Option Json) (key : String) : Except SdkExc (Option Json) :=
  match value with
  | some (.obj fields) => .ok (Dict.get? fields key)
  | some v => if v.truthy then .error (.other "AttributeError") else .ok none
  | none => .ok none

/-- `_detail`. -/
def detail (repr : Json → String) (response : HttpResponse) : Except SdkExc String :=
  match response.json with
  | none => .ok (clip response.text)
  | some (.obj fields) => do
    let own := (Dict.get? fields "detail").getD .null
    let found ← if own.truthy then pure own
      else (getOrEmpty (Dict.get? fields "error") "message").map fun message => message.getD .null
    if found.truthy then return pyStr repr found
    else return clip (pyStr repr (.obj fields))
  | some body => .ok (clip (pyStr repr body))

def refuse {α : Type} (repr : Json → String) (reason : String) (response : HttpResponse) :
    Except SdkExc α := do
  let text ← detail repr response
  .error (.gatewayError (reason ++ text))

/-- `AuthorizationResult(..)` of a body that is a `dict`. -/
def toAuthorization (fields : Dict) : Except SdkExc AuthorizationResult :=
  match Dict.get? fields "allowed", Dict.get? fields "decision" with
  | some allowed, some (.str value) =>
    match Decision.ofValue? value with
    | some decision =>
      match Dict.get? fields "receipt_id" with
      | some receiptId =>
        .ok {
          allowed := allowed.truthy
          decision
          reason := (Dict.get? fields "reason").getD (.str "")
          instruction := (Dict.get? fields "instruction").getD (.str "")
          receiptId
          shadowed := ((Dict.get? fields "shadowed").getD (.bool false)).truthy }
      | none => .error (.other "KeyError")
    | none => .error (.other "ValueError")
  | some _, some _ => .error (.other "ValueError")
  | _, _ => .error (.other "KeyError")

/-- `_parse_authorization`. -/
def parseAuthorization (repr : Json → String) (response : HttpResponse) :
    Except SdkExc AuthorizationResult :=
  if response.status = 401 then refuse repr "gateway refused the agent's identity: " response
  else if 400 ≤ response.status then
    refuse repr ("gateway returned " ++ toString response.status ++ ": ") response
  else
    match response.json with
    | none => .error (.other "JSONDecodeError")
    | some (.obj fields) => toAuthorization fields
    | some _ => .error (.other "TypeError")

/-- What `_parse_rpc` raises for the `error` of a body. -/
def rpcError (repr : Json → String) (error : Json) : SdkExc :=
  match error with
  | .obj fields =>
    match getOrEmpty (Dict.get? fields "data") "instruction" with
    | .error e => e
    | .ok instruction =>
      let message := (Dict.get? fields "message").getD (.str "tool call failed")
      .toolCallFailed (pyStrip (pyStr repr message ++ "\n\n" ++
        pyStr repr (instruction.getD (.str ""))))
  | _ => .other "AttributeError"

/-- `_parse_rpc`. -/
def parseRpc (repr : Json → String) (response : HttpResponse) : Except SdkExc Json :=
  if response.status = 401 then refuse repr "gateway refused the agent's identity: " response
  else
    match response.json with
    | none => .error (.other "JSONDecodeError")
    | some (.obj fields) =>
      match Dict.get? fields "error" with
      | some error => .error (rpcError repr error)
      | none => .ok ((Dict.get? fields "result").getD .null)
    -- `"error" in body` and `body.get` of what is no `dict`
    | some (.arr items) =>
      .error (.other (if .str "error" ∈ items then "TypeError" else "AttributeError"))
    | some (.str s) =>
      .error (.other (if "error".toList <:+: s.toList then "TypeError" else "AttributeError"))
    | some _ => .error (.other "TypeError")

/-- `(result or {}).get("tools", [])`. -/
def toolsIn (result : Json) : Except SdkExc Json :=
  (getOrEmpty (some result) "tools").map fun tools => tools.getD (.arr [])

/-! ## Clients -/

structure ClientBase where
  baseUrl : String
  post : String → Json → PostResult
  repr : Json → String

namespace ClientBase

variable (client : ClientBase)

def authorizeRequest (tool : String) (arguments : Dict) : String × Json :=
  (client.baseUrl ++ "/api/v1/authorize",
    .obj [("tool", .str tool), ("arguments", .obj arguments)])

def rpcRequest (method : String) (params : Dict) : String × Json :=
  (client.baseUrl ++ "/mcp/v1",
    .obj [("jsonrpc", .str "2.0"), ("id", .int 1), ("method", .str method), ("params", .obj params)])

def answer (request : String × Json) : PostResult := client.post request.1 request.2

/-- A `post` and the parse of its response, in the `try` that turns an `httpx.HTTPError` into a
`GatewayError`. -/
def send {α : Type} (parse : HttpResponse → Except SdkExc α) (request : String × Json) :
    Except SdkExc α :=
  match client.answer request with
  | .httpError message =>
    .error (.gatewayError ("could not reach the gateway at " ++ request.1 ++ ": " ++ message))
  | .response r => parse r

/-- The request of `call_tool`. -/
def callRequest (tool : String) (arguments : Option Dict) : String × Json :=
  client.rpcRequest "tools/call" [("name", .str tool), ("arguments", .obj (arguments.getD []))]

end ClientBase

namespace GovernedClient

variable (client : ClientBase)

def authorize (tool : String) (arguments : Option Dict) : Except SdkExc AuthorizationResult :=
  client.send (parseAuthorization client.repr) (client.authorizeRequest tool (arguments.getD []))

def callTool (tool : String) (arguments : Option Dict) : Except SdkExc Json :=
  client.send (parseRpc client.repr) (client.callRequest tool arguments)

def listTools : Except SdkExc Json := do
  let result ← client.send (parseRpc client.repr) (client.rpcRequest "tools/list" [])
  toolsIn result

end GovernedClient

namespace AsyncGovernedClient

variable (client : ClientBase)

def authorize (tool : String) (arguments : Option Dict) : Except SdkExc AuthorizationResult :=
  client.send (parseAuthorization client.repr) (client.authorizeRequest tool (arguments.getD []))

def callTool (tool : String) (arguments : Option Dict) : Except SdkExc Json :=
  client.send (parseRpc client.repr) (client.callRequest tool arguments)

def listTools : Except SdkExc Json := do
  let result ← client.send (parseRpc client.repr) (client.rpcRequest "tools/list" [])
  toolsIn result

end AsyncGovernedClient

/-! ## What a caller may be told -/

/-- `GatewayError` and `ToolCallFailed`. -/
def SdkExc.Declared : SdkExc → Prop
  | .other _ => False
  | _ => True

/-- A value only for an answer that is a success, and otherwise one of the two errors. -/
def Reports {α : Type} (success : α → Prop) : Except SdkExc α → Prop
  | .ok a => success a
  | .error e => e.Declared

def Successful (status : ℕ) : Prop := 200 ≤ status ∧ status < 300

/-- A 2xx answer whose body is an object with this result and without an error. What else makes an
object a JSON-RPC one is left open. -/
structure RpcSuccess (envelope : Dict → Prop) (response : HttpResponse) (fields : Dict)
    (result : Json) : Prop where
  status : Successful response.status
  body : response.json = some (.obj fields)
  envelope : envelope fields
  noError : Dict.get? fields "error" = none
  result : Dict.get? fields "result" = some result

/-- The value of the key, where it is present, is of the kind. -/
def OfKind (kind : Json → Prop) (value : Option Json) : Prop := ∀ v, value = some v → kind v

def IsString (value : Json) : Prop := ∃ s, value = .str s

def IsBool (value : Json) : Prop := ∃ b, value = .bool b

/-- The fields of `AuthorizeResponse`; those with a default may be missing. -/
structure AuthorizeShape (fields : Dict) : Prop where
  allowed : ∃ b, Dict.get? fields "allowed" = some (.bool b)
  decision : ∃ s, Dict.get? fields "decision" = some (.str s)
  reason : OfKind IsString (Dict.get? fields "reason")
  shadowed : OfKind IsBool (Dict.get? fields "shadowed")
  instruction : OfKind IsString (Dict.get? fields "instruction")
  receiptId : ∃ s, Dict.get? fields "receipt_id" = some (.str s)
  receiptSignature : OfKind (fun v => v = .null ∨ IsString v) (Dict.get? fields "receipt_signature")

structure AuthorizeSuccess (response : HttpResponse) (fields : Dict)
    (result : AuthorizationResult) : Prop where
  status : Successful response.status
  body : response.json = some (.obj fields)
  shape : AuthorizeShape fields
  allowed : result.allowed = true → Dict.get? fields "allowed" = some (.bool true)

/-- The answer that was received is a success with the given value. -/
def Answered {α : Type} (success : HttpResponse → Dict → α → Prop) (answer : PostResult) (a : α) :
    Prop :=
  ∃ r fields, answer = .response r ∧ success r fields a

/-! ## The conditions -/

/-- `(value or {})` is a `dict`. -/
def EmptyOrObject (value : Option Json) : Prop :=
  ∀ v, value = some v → v.truthy = true → ∃ fields, v = .obj fields

/-- The detail of the body can be read: it has one of its own, or its error is no other value than an
object. -/
def DetailReadable : Option Json → Prop
  | some (.obj fields) =>
    ((Dict.get? fields "detail").getD .null).truthy = true ∨
      EmptyOrObject (Dict.get? fields "error")
  | _ => True

/-- An error is an object, and its data is no other value than an object. -/
def ErrorReadable (error : Json) : Prop :=
  ∃ fields, error = .obj fields ∧ EmptyOrObject (Dict.get? fields "data")

/-- Outside a 401 the body is an object: one with a readable error, or a success. -/
def RpcAnswerable (good : Dict → Json → Prop) : PostResult → Prop
  | .httpError _ => True
  | .response r =>
    if r.status = 401 then DetailReadable r.json
    else ∃ fields, r.json = some (.obj fields) ∧
      match Dict.get? fields "error" with
      | some error => ErrorReadable error
      | none => Successful r.status ∧ ∃ result, Dict.get? fields "result" = some result ∧
          good fields result

/-- From 400 on the detail can be read; below, the answer is a 2xx one of the right shape that decides
`ALLOW` or `DENY`. -/
def AuthorizeAnswerable : PostResult → Prop
  | .httpError _ => True
  | .response r =>
    if 400 ≤ r.status then DetailReadable r.json
    else Successful r.status ∧ ∃ fields, r.json = some (.obj fields) ∧ AuthorizeShape fields ∧
      ∃ decision : Decision, Dict.get? fields "decision" = some (.str decision.value)

/-! ## The parsers -/

variable {repr : Json → String} {response : HttpResponse}

theorem getOrEmpty_of_readable {value : Option Json} (h : EmptyOrObject value) (key : String) :
    ∃ v, getOrEmpty value key = .ok v := by
  cases value with
  | none => exact ⟨_, rfl⟩
  | some v =>
    by_cases htruthy : v.truthy = true
    · obtain ⟨fields, rfl⟩ := h v rfl htruthy
      exact ⟨_, rfl⟩
    · unfold getOrEmpty
      split
      · exact ⟨_, rfl⟩
      · rename_i v' _ heq
        rw [← Option.some.inj heq, if_neg htruthy]
        exact ⟨_, rfl⟩
      · exact ⟨_, rfl⟩

theorem getOrEmpty_of_unreadable {value : Option Json} (h : ¬ EmptyOrObject value) (key : String) :
    getOrEmpty value key = .error (.other "AttributeError") := by
  unfold EmptyOrObject at h
  push Not at h
  obtain ⟨v, rfl, htruthy, hnot⟩ := h
  unfold getOrEmpty
  split
  case h_1 fields heq => exact absurd (Option.some.inj heq) (hnot fields)
  case h_2 v' _ heq => rw [← Option.some.inj heq, if_pos htruthy]
  case h_3 heq => cases heq

theorem detail_of_readable (h : DetailReadable response.json) :
    ∃ text, detail repr response = .ok text := by
  unfold detail
  unfold DetailReadable at h
  split at h
  case h_1 fields hjson =>
    simp only [hjson]
    by_cases hown : ((Dict.get? fields "detail").getD .null).truthy = true
    · simp only [if_pos hown, bind, Except.bind, pure, Except.pure]
      exact ⟨_, rfl⟩
    · obtain ⟨message, hmessage⟩ := getOrEmpty_of_readable (h.resolve_left hown) "message"
      simp only [if_neg hown, hmessage, Except.map, bind, Except.bind, pure, Except.pure]
      split_ifs
      · exact ⟨_, rfl⟩
      · exact ⟨_, rfl⟩
  case h_2 hother =>
    split
    case h_1 => exact ⟨_, rfl⟩
    case h_2 fields hjson => exact absurd hjson (hother fields)
    case h_3 => exact ⟨_, rfl⟩

theorem detail_of_unreadable (h : ¬ DetailReadable response.json) :
    detail repr response = .error (.other "AttributeError") := by
  unfold detail
  unfold DetailReadable at h
  split at h
  case h_1 fields hjson =>
    obtain ⟨hown, herror⟩ := not_or.mp h
    simp only [hjson, if_neg hown, getOrEmpty_of_unreadable herror, Except.map, bind, Except.bind]
  case h_2 => exact absurd trivial h

theorem refuse_eq (repr : Json → String) (response : HttpResponse) (reason : String) :
    ∃ e : SdkExc, (∀ α : Type, (refuse repr reason response : Except SdkExc α) = .error e) ∧
      (e.Declared ↔ DetailReadable response.json) := by
  unfold refuse
  by_cases h : DetailReadable response.json
  · obtain ⟨text, htext⟩ := @detail_of_readable repr response h
    rw [htext]
    exact ⟨_, fun _ => rfl, iff_of_true trivial h⟩
  · rw [detail_of_unreadable h]
    exact ⟨_, fun _ => rfl, iff_of_false id h⟩

theorem rpcError_declared_iff {error : Json} : (rpcError repr error).Declared ↔ ErrorReadable error := by
  cases error with
  | obj fields =>
    have hreadable : ErrorReadable (.obj fields) ↔ EmptyOrObject (Dict.get? fields "data") := by
      constructor
      · rintro ⟨fields', heq, hdata⟩
        cases heq
        exact hdata
      · exact fun hdata => ⟨fields, rfl, hdata⟩
    rw [hreadable, rpcError]
    by_cases hdata : EmptyOrObject (Dict.get? fields "data")
    · obtain ⟨instruction, hinstruction⟩ := getOrEmpty_of_readable hdata "instruction"
      rw [hinstruction]
      exact iff_of_true trivial hdata
    · rw [getOrEmpty_of_unreadable hdata]
      exact iff_of_false id hdata
  | _ =>
    refine iff_of_false id ?_
    rintro ⟨fields, heq, -⟩
    cases heq

theorem parseRpc_cases :
    (response.status = 401 ∧
      parseRpc repr response =
        refuse repr "gateway refused the agent's identity: " response) ∨
    (response.status ≠ 401 ∧ (∀ fields, response.json ≠ some (.obj fields)) ∧
      ∃ name, parseRpc repr response = .error (.other name)) ∨
    ∃ fields, response.status ≠ 401 ∧ response.json = some (.obj fields) ∧
      parseRpc repr response =
        match Dict.get? fields "error" with
        | some error => .error (rpcError repr error)
        | none => .ok ((Dict.get? fields "result").getD .null) := by
  unfold parseRpc
  by_cases hstatus : response.status = 401
  · exact Or.inl ⟨hstatus, if_pos hstatus⟩
  · rw [if_neg hstatus]
    refine Or.inr ?_
    cases hjson : response.json with
    | none => exact Or.inl ⟨hstatus, nofun, _, rfl⟩
    | some body =>
      cases body with
      | obj fields => exact Or.inr ⟨fields, hstatus, rfl, rfl⟩
      | _ => exact Or.inl ⟨hstatus, nofun, _, rfl⟩

/-! ## The methods -/

variable (client : ClientBase) (envelope : Dict → Prop)

/-- A request over JSON-RPC of which `use` reads the result. -/
theorem send_rpc_reports_iff {use : Json → Except SdkExc Json} {reads : Json → Json → Prop}
    {good : Json → Prop} (huse : ∀ result, Reports (reads result) (use result) ↔ good result)
    (hraises : ∀ result e, use result = .error e → ¬ e.Declared) (request : String × Json) :
    Reports (Answered (fun r fields v => ∃ result, RpcSuccess envelope r fields result ∧
        reads result v) (client.answer request))
      (client.send (parseRpc client.repr) request >>= use) ↔
      RpcAnswerable (fun fields result => envelope fields ∧ good result)
        (client.answer request) := by
  unfold ClientBase.send
  cases client.answer request with
  | httpError message => exact iff_of_true trivial trivial
  | response r =>
    obtain ⟨hstatus, hparse⟩ | ⟨hstatus, hbody, name, hparse⟩ | ⟨fields, hstatus, hbody, hparse⟩ :=
      @parseRpc_cases client.repr r
    · obtain ⟨e, he, hdeclared⟩ :=
        refuse_eq client.repr r "gateway refused the agent's identity: "
      simp only [hparse, he, bind, Except.bind, RpcAnswerable, if_pos hstatus]
      exact hdeclared
    · simp only [hparse, bind, Except.bind, RpcAnswerable, if_neg hstatus]
      refine iff_of_false id ?_
      rintro ⟨fields, hfields, -⟩
      exact hbody fields hfields
    · simp only [hparse, RpcAnswerable, if_neg hstatus, hbody, Option.some.injEq, Json.obj.injEq,
        exists_eq_left']
      cases herror : Dict.get? fields "error" with
      | some error => exact rpcError_declared_iff
      | none =>
        show Reports _ (use _) ↔ _
        cases hresult : Dict.get? fields "result" with
        | none =>
          refine iff_of_false ?_ nofun
          show ¬ Reports _ (use .null)
          cases huses : use .null with
          | error e => exact hraises _ _ huses
          | ok v =>
            rintro ⟨r', fields', hr, result, hsuccess, -⟩
            cases hr
            obtain rfl : fields = fields' :=
              Json.obj.inj (Option.some.inj (hbody.symm.trans hsuccess.body))
            have hnone := hresult.symm.trans hsuccess.result
            cases hnone
        | some result =>
          rw [Option.getD_some]
          have hgood := huse result
          cases huses : use result with
          | error e =>
            rw [huses] at hgood
            refine iff_of_false (hraises _ _ huses) ?_
            rintro ⟨-, result', heq, -, hresult'⟩
            cases heq
            exact hraises _ _ huses (hgood.mpr hresult')
          | ok v =>
            rw [huses] at hgood
            constructor
            · rintro ⟨r', fields', hr, result', hsuccess, hreads⟩
              cases hr
              obtain rfl : fields = fields' :=
                Json.obj.inj (Option.some.inj (hbody.symm.trans hsuccess.body))
              obtain rfl : result = result' :=
                Option.some.inj (hresult.symm.trans hsuccess.result)
              exact ⟨hsuccess.status, result, rfl, hsuccess.envelope, hgood.mp hreads⟩
            · rintro ⟨hstatus', result', heq, henvelope, hresult'⟩
              cases heq
              exact ⟨r, fields, rfl, result, ⟨hstatus', hbody, henvelope, herror, hresult⟩,
                hgood.mpr hresult'⟩

/-- A body that is a `dict` gives a decision exactly when it has the three required fields. -/
theorem toAuthorization_cases (fields : Dict) :
    (∃ name, toAuthorization fields = .error (.other name)) ∨
    ∃ result allowed, toAuthorization fields = .ok result ∧
      Dict.get? fields "allowed" = some allowed ∧ result.allowed = allowed.truthy ∧
      Dict.get? fields "decision" = some (.str result.decision.value) := by
  unfold toAuthorization
  cases hallowed : Dict.get? fields "allowed" with
  | none => exact Or.inl ⟨_, rfl⟩
  | some allowed =>
    cases hdecision : Dict.get? fields "decision" with
    | none => exact Or.inl ⟨_, rfl⟩
    | some value =>
      cases value with
      | str value =>
        cases hvalue : Decision.ofValue? value with
        | none =>
          simp only [hvalue]
          exact Or.inl ⟨_, rfl⟩
        | some decision =>
          obtain rfl := Decision.ofValue_eq_some.mp hvalue
          cases hreceipt : Dict.get? fields "receipt_id" with
          | none =>
            simp only [hvalue]
            exact Or.inl ⟨_, rfl⟩
          | some receiptId =>
            simp only [hvalue]
            exact Or.inr ⟨_, allowed, rfl, rfl, rfl, rfl⟩
      | _ => exact Or.inl ⟨_, rfl⟩

theorem toAuthorization_of_shape {fields : Dict} (hshape : AuthorizeShape fields) {d : Decision}
    (hdecision : Dict.get? fields "decision" = some (.str d.value)) :
    ∃ result, toAuthorization fields = .ok result := by
  obtain ⟨allowed, hallowed⟩ := hshape.allowed
  obtain ⟨receiptId, hreceipt⟩ := hshape.receiptId
  have hvalue : Decision.ofValue? d.value = some d := Decision.ofValue_eq_some.mpr rfl
  unfold toAuthorization
  simp only [hallowed, hdecision, hvalue, hreceipt]
  exact ⟨_, rfl⟩

theorem parseAuthorization_reports_iff {r : HttpResponse} :
    Reports (Answered AuthorizeSuccess (.response r)) (parseAuthorization repr r) ↔
      AuthorizeAnswerable (.response r) := by
  unfold parseAuthorization
  simp only [AuthorizeAnswerable]
  by_cases hrefused : r.status = 401
  · obtain ⟨e, he, hdeclared⟩ := refuse_eq repr r "gateway refused the agent's identity: "
    rw [if_pos hrefused, he, if_pos (by omega)]
    exact hdeclared
  · rw [if_neg hrefused]
    by_cases hfailed : 400 ≤ r.status
    · obtain ⟨e, he, hdeclared⟩ :=
        refuse_eq repr r ("gateway returned " ++ toString r.status ++ ": ")
      rw [if_pos hfailed, he, if_pos hfailed]
      exact hdeclared
    · rw [if_neg hfailed, if_neg hfailed]
      cases hjson : r.json with
      | none => exact iff_of_false id (by rintro ⟨-, fields, hfields, -⟩; cases hfields)
      | some body =>
        cases body with
        | obj fields =>
          simp only [Option.some.injEq, Json.obj.injEq, exists_eq_left']
          obtain ⟨name, herror⟩ | ⟨result, allowed, hok, hallowed, htruthy, hdecision⟩ :=
            toAuthorization_cases fields
          · rw [herror]
            refine iff_of_false id ?_
            rintro ⟨-, hshape, d, hdecision⟩
            obtain ⟨result, hok⟩ := toAuthorization_of_shape hshape hdecision
            rw [herror] at hok
            cases hok
          · rw [hok]
            constructor
            · rintro ⟨r', fields', hr, hsuccess⟩
              cases hr
              obtain rfl : fields = fields' :=
                Json.obj.inj (Option.some.inj (hjson.symm.trans hsuccess.body))
              exact ⟨hsuccess.status, hsuccess.shape, _, hdecision⟩
            · rintro ⟨hstatus, hshape, -⟩
              refine ⟨r, fields, rfl, hstatus, hjson, hshape, ?_⟩
              intro hresult
              obtain ⟨b, hb⟩ := hshape.allowed
              rw [hb] at hallowed
              cases hallowed
              rw [hresult] at htruthy
              rw [hb, htruthy]
              rfl
        | _ =>
          refine iff_of_false id ?_
          rintro ⟨-, fields, hfields, -⟩
          cases hfields

/-- What `list_tools` returns: the tools of a result that is an object. -/
def ListSuccess (response : HttpResponse) (fields : Dict) (tools : Json) : Prop :=
  ∃ result, RpcSuccess envelope response fields result ∧
    ∃ items, result = .obj items ∧ tools = (Dict.get? items "tools").getD (.arr [])

theorem toolsIn_error {result : Json} {e : SdkExc} (h : toolsIn result = .error e) :
    ¬ e.Declared := by
  unfold toolsIn at h
  by_cases hresult : EmptyOrObject (some result)
  · obtain ⟨tools, htools⟩ := getOrEmpty_of_readable hresult "tools"
    rw [htools] at h
    cases h
  · rw [getOrEmpty_of_unreadable hresult] at h
    cases h
    exact id

theorem toolsIn_reports_iff (result : Json) :
    Reports (fun tools => ∃ items, result = .obj items ∧
      tools = (Dict.get? items "tools").getD (.arr [])) (toolsIn result) ↔
      ∃ items, result = .obj items := by
  by_cases hobject : ∃ items, result = .obj items
  · refine iff_of_true ?_ hobject
    obtain ⟨items, rfl⟩ := hobject
    exact ⟨items, rfl, rfl⟩
  · refine iff_of_false ?_ hobject
    cases htools : toolsIn result with
    | ok tools =>
      rintro ⟨items, heq, -⟩
      exact hobject ⟨items, heq⟩
    | error e => exact toolsIn_error htools

/-- What the clients tell a caller: every method of either reports the answer of the gateway exactly
when that answer is one it can read. -/
theorem client_reports_iff (tool : String) (arguments : Option Dict) :
    (Reports (Answered AuthorizeSuccess
        (client.answer (client.authorizeRequest tool (arguments.getD []))))
      (GovernedClient.authorize client tool arguments) ↔
      AuthorizeAnswerable (client.answer (client.authorizeRequest tool (arguments.getD [])))) ∧
    (Reports (Answered (RpcSuccess envelope) (client.answer (client.callRequest tool arguments)))
      (GovernedClient.callTool client tool arguments) ↔
      RpcAnswerable (fun fields _ => envelope fields)
        (client.answer (client.callRequest tool arguments))) ∧
    (Reports (Answered (ListSuccess envelope) (client.answer (client.rpcRequest "tools/list" [])))
      (GovernedClient.listTools client) ↔
      RpcAnswerable (fun fields result => envelope fields ∧ ∃ items, result = .obj items)
        (client.answer (client.rpcRequest "tools/list" []))) ∧
    AsyncGovernedClient.authorize client tool arguments =
      GovernedClient.authorize client tool arguments ∧
    AsyncGovernedClient.callTool client tool arguments =
      GovernedClient.callTool client tool arguments ∧
    AsyncGovernedClient.listTools client = GovernedClient.listTools client := by
  refine ⟨?_, ?_, ?_, rfl, rfl, rfl⟩
  · unfold GovernedClient.authorize ClientBase.send
    cases client.answer (client.authorizeRequest tool (arguments.getD [])) with
    | httpError message => exact iff_of_true trivial trivial
    | response r => exact parseAuthorization_reports_iff
  · have hsend := @send_rpc_reports_iff client envelope .ok (fun result v => result = v)
      (fun _ => True) (fun result => iff_of_true rfl trivial) nofun (client.callRequest tool arguments)
    have hcall : client.send (parseRpc client.repr) (client.callRequest tool arguments) >>= .ok =
        GovernedClient.callTool client tool arguments := bind_pure _
    simp only [hcall, exists_eq_right, and_true] at hsend
    exact hsend
  · exact send_rpc_reports_iff client envelope toolsIn_reports_iff
      (fun result e he => toolsIn_error he) (client.rpcRequest "tools/list" [])

/-! ## A failure that reads as a success -/

/-- A gateway whose database is down. -/
def failingGateway : ClientBase where
  baseUrl := "http://gateway.test"
  post _ _ := .response {
    status := 500
    text := "\x7b\"detail\": \"database is down\"\x7d"
    json := some (.obj [("detail", .str "database is down")]) }
  repr _ := ""

theorem failingGateway_call_succeeds :
    GovernedClient.callTool failingGateway "read_query" none = .ok .null ∧
      ¬ Reports (Answered (RpcSuccess fun _ => True)
        (failingGateway.answer (failingGateway.callRequest "read_query" none)))
        (GovernedClient.callTool failingGateway "read_query" none) := by
  have hcall : GovernedClient.callTool failingGateway "read_query" none = .ok .null := rfl
  refine ⟨hcall, ?_⟩
  rw [hcall]
  rintro ⟨r, fields, hr, hsuccess⟩
  cases hr
  exact absurd hsuccess.status.2 (by decide)

end OpenAgentControl
