import OpenAgentControl.Foundations.JsonData
import OpenAgentControl.Adapters.Ledger.Ed25519Chain
import OpenAgentControl.Adapters.Ledger.Tampering

/-! # What a payload hash commits to

A receipt holds a hash of the request it was recorded for, and not the request. Either ledger gives two
requests the same hash exactly when they are the same JSON data in every field
(`payloadHash_commits`): nothing of a request is lost in the bytes that are hashed, and the order in
which its objects hold their items does not enter them. -/

namespace OpenAgentControl
set_option autoImplicit false
set_option maxHeartbeats 250000

open Foundations

/-! ## The data of a dump -/

theorem optionalString_data_injective : Function.Injective fun s => (optionalString s).data := by
  intro a b h
  cases a <;> cases b <;> simp_all [optionalString, Json.data]

/-- A list of values that differ as data. -/
theorem list_data_injective {α : Type} {dump : α → Json}
    (hdump : Function.Injective fun a => (dump a).data) :
    Function.Injective fun items : List α => (Json.arr (items.map dump)).data := by
  intro xs ys h
  simp only [Json.data, Json.dataItems_eq_map, List.map_map, JsonData.arr.injEq] at h
  exact hdump.list_map h

theorem stringList_data_injective : Function.Injective fun items => (stringList items).data :=
  list_data_injective fun _ _ h => JsonData.str.inj h

/-- A field that may be null. -/
theorem optional_data_injective {α : Type} {dump : α → Json}
    (hdump : Function.Injective fun a => (dump a).data) (hnull : ∀ a, (dump a).data ≠ .null) :
    Function.Injective fun value : Option α => ((value.map dump).getD .null).data := by
  intro x y h
  cases x with
  | none =>
    cases y with
    | none => rfl
    | some b => exact absurd h.symm (hnull b)
  | some a =>
    cases y with
    | none => exact absurd h (hnull a)
    | some b => rw [hdump h]

theorem agentIdentity_data_injective :
    Function.Injective fun a : AgentIdentity => a.modelDump.data := by
  intro a b h
  simp (disch := simp) only [AgentIdentity.modelDump, Json.data_obj_cons_iff] at h
  obtain ⟨hspiffe, hsponsor, hclient, -⟩ := h
  have hspiffe := JsonData.str.inj hspiffe
  have hsponsor := optionalString_data_injective hsponsor
  have hclient := optionalString_data_injective hclient
  cases a
  cases b
  simp only [AgentIdentity.mk.injEq]
  exact ⟨hspiffe, hsponsor, hclient⟩

theorem subjectIdentity_data_injective :
    Function.Injective fun s : SubjectIdentity => s.modelDump.data := by
  intro a b h
  simp (disch := simp) only [SubjectIdentity.modelDump, Json.data_obj_cons_iff] at h
  obtain ⟨hsubject, hissuer, husername, hroles, hscopes, hactor, -⟩ := h
  have hsubject := JsonData.str.inj hsubject
  have hissuer := JsonData.str.inj hissuer
  have husername := optionalString_data_injective husername
  have hroles := stringList_data_injective hroles
  have hscopes := stringList_data_injective hscopes
  have hactor := optionalString_data_injective hactor
  cases a
  cases b
  simp only [SubjectIdentity.mk.injEq]
  exact ⟨hsubject, hissuer, husername, hroles, hscopes, hactor⟩

theorem toolGrant_data_injective : Function.Injective fun g : ToolGrant => g.modelDump.data := by
  intro a b h
  simp (disch := simp) only [ToolGrant.modelDump, Json.data_obj_cons_iff] at h
  obtain ⟨hname, htier, happroval, hroles, -⟩ := h
  have hname := JsonData.str.inj hname
  have htier := Option.map_injective RiskTier.value_injective (optionalString_data_injective htier)
  have happroval := JsonData.bool.inj happroval
  have hroles := stringList_data_injective hroles
  cases a
  cases b
  simp only [ToolGrant.mk.injEq]
  exact ⟨hname, htier, happroval, hroles⟩

theorem isoformat_injective : Function.Injective fun t : DateTime => String.ofList t.isoformat :=
  fun _ _ h => DateTime.isoformat_inj (String.ofList_injective h)

theorem registeredAgent_data_injective :
    Function.Injective fun r : RegisteredAgent => r.modelDump.data := by
  intro a b h
  simp (disch := simp) only [RegisteredAgent.modelDump, Json.data_obj_cons_iff] at h
  obtain ⟨hspiffe, hname, hpurpose, howner, htier, hstatus, hgrants, hcreated, hupdated, hchanged,
    -⟩ := h
  have hspiffe := JsonData.str.inj hspiffe
  have hname := JsonData.str.inj hname
  have hpurpose := JsonData.str.inj hpurpose
  have howner := JsonData.str.inj howner
  have htier := RiskTier.value_injective (JsonData.str.inj htier)
  have hstatus := AgentStatus.value_injective (JsonData.str.inj hstatus)
  have hgrants := list_data_injective toolGrant_data_injective hgrants
  have hcreated := isoformat_injective (JsonData.str.inj hcreated)
  have hupdated := isoformat_injective (JsonData.str.inj hupdated)
  have hchanged :=
    Option.map_injective isoformat_injective (optionalString_data_injective hchanged)
  cases a
  cases b
  simp only [RegisteredAgent.mk.injEq]
  exact ⟨hspiffe, hname, hpurpose, howner, htier, hstatus, hgrants, hcreated, hupdated, hchanged⟩

theorem requestId_data_injective :
    Function.Injective fun value => (RequestId.modelDump value).data := by
  intro a b h
  cases a with
  | none =>
    cases b with
    | none => rfl
    | some b => cases b <;> simp [RequestId.modelDump, Json.data] at h
  | some a =>
    cases b with
    | none => cases a <;> simp [RequestId.modelDump, Json.data] at h
    | some b =>
      cases a <;> cases b <;> simp [RequestId.modelDump, Json.data] at h
      all_goals rw [h]

/-! ## Every dump is JSON -/

theorem optionalString_wellFormed (s : Option String) : (optionalString s).wellFormed = true := by
  cases s <;> rfl

theorem list_wellFormed {α : Type} {dump : α → Json} (hdump : ∀ a, (dump a).wellFormed = true)
    (items : List α) : (Json.arr (items.map dump)).wellFormed = true := by
  induction items with
  | nil => rfl
  | cons a rest ih =>
    rw [List.map_cons, Json.wellFormed, Json.wellFormedItems, hdump a, Bool.true_and]
    exact ih

theorem stringList_wellFormed (items : List String) : (stringList items).wellFormed = true :=
  list_wellFormed (fun _ => rfl) items

theorem toolGrant_wellFormed (g : ToolGrant) : g.modelDump.wellFormed = true := by
  simp [ToolGrant.modelDump, Json.wellFormed, Json.wellFormedFields, optionalString_wellFormed,
    stringList_wellFormed]

theorem registeredAgent_wellFormed (r : RegisteredAgent) : r.modelDump.wellFormed = true := by
  have hgrants := list_wellFormed toolGrant_wellFormed r.grantedTools
  rw [RegisteredAgent.modelDump, Json.wellFormed_obj]
  refine ⟨by simp, ?_⟩
  simp only [Json.wellFormedFields, hgrants, optionalString_wellFormed, Bool.and_true]
  rfl

theorem subjectIdentity_wellFormed (s : SubjectIdentity) : s.modelDump.wellFormed = true := by
  simp [SubjectIdentity.modelDump, Json.wellFormed, Json.wellFormedFields, optionalString_wellFormed,
    stringList_wellFormed]

theorem agentIdentity_wellFormed (a : AgentIdentity) : a.modelDump.wellFormed = true := by
  simp [AgentIdentity.modelDump, Json.wellFormed, Json.wellFormedFields, optionalString_wellFormed]

theorem optional_wellFormed {α : Type} {dump : α → Json} (hdump : ∀ a, (dump a).wellFormed = true)
    (value : Option α) : ((value.map dump).getD .null).wellFormed = true := by
  cases value with
  | none => rfl
  | some a => exact hdump a

theorem requestId_wellFormed (value : Option RequestId) :
    (RequestId.modelDump value).wellFormed = true := by
  cases value with
  | none => rfl
  | some id => cases id <;> rfl

theorem ToolCallRequest.wellFormed_modelDump {call : ToolCallRequest}
    (h : (Json.obj call.arguments).wellFormed = true) : call.modelDump.wellFormed = true := by
  have hregistration := optional_wellFormed registeredAgent_wellFormed call.registration
  have hsubject := optional_wellFormed subjectIdentity_wellFormed call.subject
  rw [modelDump, Json.wellFormed_obj]
  refine ⟨by simp, ?_⟩
  simp only [Json.wellFormedFields, optionalString_wellFormed, h, agentIdentity_wellFormed,
    hregistration, hsubject, requestId_wellFormed, Bool.and_true]
  rfl

/-! ## The data of a request -/

/-- The same request as JSON data: the objects in the arguments may hold their items in another
order. -/
structure ToolCallRequest.SameData (a b : ToolCallRequest) : Prop where
  method : a.method = b.method
  toolName : a.toolName = b.toolName
  arguments : (Json.obj a.arguments).data = (Json.obj b.arguments).data
  agent : a.agent = b.agent
  registration : a.registration = b.registration
  subject : a.subject = b.subject
  requestId : a.requestId = b.requestId

theorem ToolCallRequest.sameData_iff {a b : ToolCallRequest} :
    a.SameData b ↔ a.modelDump.data = b.modelDump.data := by
  constructor
  · rintro ⟨hmethod, htool, harguments, hagent, hregistration, hsubject, hid⟩
    simp (disch := simp) only [modelDump, Json.data_obj_cons_iff, hmethod, htool, harguments, hagent,
      hregistration, hsubject, hid, and_self]
  · intro h
    simp (disch := simp) only [modelDump, Json.data_obj_cons_iff] at h
    obtain ⟨hmethod, htool, harguments, hagent, hregistration, hsubject, hid, -⟩ := h
    refine ⟨JsonData.str.inj hmethod, optionalString_data_injective htool, harguments,
      agentIdentity_data_injective hagent, ?_, ?_, requestId_data_injective hid⟩
    · exact optional_data_injective registeredAgent_data_injective
        (fun r => by simp [RegisteredAgent.modelDump, Json.data]) hregistration
    · exact optional_data_injective subjectIdentity_data_injective
        (fun s => by simp [SubjectIdentity.modelDump, Json.data]) hsubject

/-! ## What the ledgers hash -/

/-- `canonical_json(data)`, where `str` is asked about the objects in the data that are not JSON. -/
def canonicalJsonWith {Obj : Type} (str : Obj → String) (data : Dumpable Obj) : Bytes :=
  utf8 (dumps (data.resolve str))

/-- `receipt` is what `record` of one of the ledgers returns for a call, in whatever state the ledger
is and whatever key it signs with. -/
inductive Recorded (sha256Hex : Bytes → String) (c : LedgerCall) (receipt : ExecutionReceipt) : Prop
  | ed25519Chain (key : SigningKey) (previousHash : String) (hsha : key.sha256Hex = sha256Hex)
      (h : (Ed25519ChainLedger.record key c previousHash).1 = .ok receipt)
  | postgres (key : SigningKey) (backend : Backend) (refusal : ReceiptRow → Option Exc)
      (tables : LedgerTables) (hsha : key.sha256Hex = sha256Hex)
      (h : (PostgresLedger.record key backend refusal c tables).1 = .ok receipt)

section Payload

variable {sha256Hex : Bytes → String} {c c' : LedgerCall} {receipt receipt' : ExecutionReceipt}

theorem LedgerCall.signed_payloadHash {key : SigningKey} {previousHash : String} {b : SignedReceipt}
    (h : c.signed key previousHash = .ok b) :
    b.toReceipt.payloadHash = key.sha256Hex (canonicalJson c.call.request.modelDump) := by
  rw [SignedReceipt.toReceipt, c.signed_receipt h]
  rfl

theorem canonicalJson_modelDump_eq_iff {a b : ToolCallRequest}
    (ha : (Json.obj a.arguments).wellFormed = true)
    (hb : (Json.obj b.arguments).wellFormed = true) :
    canonicalJson a.modelDump = canonicalJson b.modelDump ↔ a.SameData b := by
  rw [ToolCallRequest.sameData_iff]
  exact Json.utf8_dumps_eq_iff (ToolCallRequest.wellFormed_modelDump ha)
    (ToolCallRequest.wellFormed_modelDump hb)

theorem Recorded.payloadHash_eq (h : Recorded sha256Hex c receipt) :
    receipt.payloadHash = sha256Hex (canonicalJson c.call.request.modelDump) := by
  cases h with
  | ed25519Chain key previousHash hsha h =>
    obtain ⟨b, hsigned, rfl⟩ := Ed25519ChainLedger.record_answered h
    rw [c.signed_payloadHash hsigned, hsha]
  | postgres key backend refusal tables hsha h =>
    obtain ⟨b, hsigned, rfl⟩ := PostgresLedger.record_answered h
    rw [c.signed_payloadHash hsigned, hsha]

/-- Two receipts, of either ledger, hold the same payload hash exactly when their requests are the same
JSON data in every field. What `default=str` would make of an object that is not JSON never enters the
hash. -/
theorem payloadHash_commits (hjson : (Json.obj c.call.request.arguments).wellFormed = true)
    (hjson' : (Json.obj c'.call.request.arguments).wellFormed = true)
    (hsha : CollisionFree sha256Hex
      [canonicalJson c.call.request.modelDump, canonicalJson c'.call.request.modelDump])
    (h : Recorded sha256Hex c receipt) (h' : Recorded sha256Hex c' receipt') :
    (receipt.payloadHash = receipt'.payloadHash ↔ c.call.request.SameData c'.call.request) ∧
      ∀ (Obj : Type) (str : Obj → String), receipt.payloadHash =
        sha256Hex (canonicalJsonWith str (.ofJson c.call.request.modelDump)) := by
  constructor
  · rw [h.payloadHash_eq, h'.payloadHash_eq, ← canonicalJson_modelDump_eq_iff hjson hjson']
    constructor
    · exact hsha _ List.mem_cons_self _ (List.mem_cons_of_mem _ List.mem_cons_self)
    · intro hbytes
      rw [hbytes]
  · intro Obj str
    rw [h.payloadHash_eq, canonicalJsonWith, Dumpable.resolve_ofJson]
    rfl

end Payload

/-! ## Two orders of the same arguments -/

/-- A call of the fixed agent; its signer answers with what it is asked to sign. -/
def queryCall (arguments : Dict) : LedgerCall where
  call :=
    { agent := fixedAgent
      request :=
        { method := "tools/call"
          toolName := some "read_query"
          arguments
          agent := fixedAgent
          registration := some fixedRecord }
      decision := { decision := .allow }
      enforced := true }
  sequenceId := "receipt"
  timestamp := utcEpoch
  sign := .ok

def tableFirst : Dict :=
  [("table", .str "orders"), ("where", .obj [("id", .int 7), ("open", .bool true)])]

def whereFirst : Dict :=
  [("where", .obj [("open", .bool true), ("id", .int 7)]), ("table", .str "orders")]

theorem queryCall_sameHash : ∃ receipt receipt',
    (Ed25519ChainLedger.record LedgerConfig.echoKey (queryCall tableFirst) genesisHash).1 =
      .ok receipt ∧
    (PostgresLedger.record LedgerConfig.echoKey .postgres (fun _ => none) (queryCall whereFirst)
      (.initial 1)).1 = .ok receipt' ∧
    receipt.payloadHash = receipt'.payloadHash := by
  refine ⟨_, _, rfl, rfl, ?_⟩
  have hjson : (Json.obj tableFirst).wellFormed = true := by decide
  have hjson' : (Json.obj whereFirst).wellFormed = true := by decide
  have hdata : (Json.obj tableFirst).data = (Json.obj whereFirst).data :=
    (Json.dumps_eq_iff hjson hjson').mp (by decide)
  have hsha : CollisionFree bytesHex
      [canonicalJson (queryCall tableFirst).call.request.modelDump,
        canonicalJson (queryCall whereFirst).call.request.modelDump] :=
    fun _ _ _ _ h => bytesHex_injective h
  have hmemory : Recorded bytesHex (queryCall tableFirst) _ :=
    .ed25519Chain LedgerConfig.echoKey genesisHash rfl rfl
  have hpostgres : Recorded bytesHex (queryCall whereFirst) _ :=
    .postgres LedgerConfig.echoKey .postgres (fun _ => none) (.initial 1) rfl rfl
  exact (payloadHash_commits hjson hjson' hsha hmemory hpostgres).1.mpr
    ⟨rfl, rfl, hdata, rfl, rfl, rfl, rfl⟩

end OpenAgentControl
