import OpenAgentControl.Foundations.PyValue
import OpenAgentControl.Domain.Models
import Mathlib.Logic.Function.Basic

/-! # Validation of registry records

`ToolGrant` and `RegisteredAgent` as pydantic reads them from a document, with the coercions of
pydantic as a parameter. Every form a record is stored in reads back as the record: the full dump
(`validate_modelDump`), the dump without nulls (`validate_dumpExcludeNone`) and plain tool names
among grant objects (`toolGrants_normalized`). -/

namespace OpenAgentControl
set_option autoImplicit false
set_option maxHeartbeats 250000

open Foundations

/-- What pydantic makes of a value for a field of each type; none is a validation error. -/
structure Pydantic where
  str : PyValue → Option String
  bool : PyValue → Option Bool
  list : PyValue → Option (List PyValue)
  datetime : PyValue → Option DateTime
  /-- The text that the members of an enumeration of strings are compared with. -/
  enumText : PyValue → Option String
  str_str : ∀ s, str (.str s) = some s
  bool_bool : ∀ b, bool (.bool b) = some b
  list_list : ∀ items, list (.list items) = some items
  enumText_str : ∀ s, enumText (.str s) = some s
  datetime_isoformat : ∀ t : DateTime, t.utcoffset.isSome = true →
    datetime (.str (String.ofList t.isoformat)) = some t

attribute [simp] Pydantic.str_str Pydantic.bool_bool Pydantic.list_list Pydantic.enumText_str

/-! ## Fields -/

section Fields

variable {α : Type}

/-- A field of a model: its default, none when it is required, and what validates a value. -/
def field (items : List (PyValue × PyValue)) (key : String) (absent : Option α)
    (validate : PyValue → Option α) : Option α :=
  match PyValue.get? items key with
  | none => absent
  | some value => validate value

/-- A field that may be `None`. -/
def nullable (validate : PyValue → Option α) : PyValue → Option (Option α)
  | .null => some none
  | value => (validate value).map some

theorem nullable_of_ne_null {validate : PyValue → Option α} {value : PyValue}
    (h : value ≠ .null) : nullable validate value = (validate value).map some := by
  cases value <;> simp_all [nullable]

end Fields

/-- `{"name": entry} if isinstance(entry, str) else entry`. -/
def normalizeEntry : PyValue → PyValue
  | .str s => .dict [(.str "name", .str s)]
  | entry => entry

def normalizeToolGrants : PyValue → PyValue
  | .list items => .list (items.map normalizeEntry)
  | value => value

namespace Pydantic

variable (pydantic : Pydantic)

def strings (value : PyValue) : Option (List String) :=
  (pydantic.list value).bind fun items => items.mapM pydantic.str

def riskTier (value : PyValue) : Option RiskTier :=
  (pydantic.enumText value).bind RiskTier.ofValue?

def agentStatus (value : PyValue) : Option AgentStatus :=
  (pydantic.enumText value).bind AgentStatus.ofValue?

/-- `ToolGrant.model_validate`. -/
def toolGrant : PyValue → Option ToolGrant
  | .dict items => do
    let name ← field items "name" none pydantic.str
    let riskTier ← field items "risk_tier" (some none) (nullable pydantic.riskTier)
    let approvalRequired ← field items "approval_required" (some false) pydantic.bool
    let requiredRoles ← field items "required_roles" (some []) pydantic.strings
    if h : blank name = false then
      some { name, riskTier, approvalRequired, requiredRoles, name_not_blank := h }
    else none
  | _ => none

/-- The field `granted_tools`, with the validator that runs before it. -/
def toolGrants (value : PyValue) : Option (List ToolGrant) :=
  (pydantic.list (normalizeToolGrants value)).bind fun items => items.mapM pydantic.toolGrant

/-- `RegisteredAgent.model_validate`; `now` is what the two default factories read off the clock. -/
def registeredAgent (now : UtcTime × UtcTime) : PyValue → Option RegisteredAgent
  | .dict items => do
    let spiffeId ← field items "spiffe_id" none pydantic.str
    let displayName ← field items "display_name" none pydantic.str
    let purpose ← field items "purpose" none pydantic.str
    let owner ← field items "owner" none pydantic.str
    let riskTier ← field items "risk_tier" none pydantic.riskTier
    let status ← field items "status" (some .active) pydantic.agentStatus
    let grantedTools ← field items "granted_tools" (some []) pydantic.toolGrants
    let createdAt ← field items "created_at" (some now.1.val) pydantic.datetime
    let updatedAt ← field items "updated_at" (some now.2.val) pydantic.datetime
    let statusChangedAt ←
      field items "status_changed_at" (some none) (nullable pydantic.datetime)
    return {
      spiffeId, displayName, purpose, owner, riskTier, status, grantedTools, createdAt, updatedAt,
      statusChangedAt }
  | _ => none

end Pydantic

/-! ## Reading dumps back -/

/-- A decoder that reads every encoding back reads a list of them back. -/
theorem mapM_encoded {α β : Type} {encode : α → β} {decode : β → Option α}
    (h : ∀ a, decode (encode a) = some a) (xs : List α) : (xs.map encode).mapM decode = some xs := by
  have hid : decode ∘ encode = some := by
    funext a
    exact h a
  rw [List.mapM_map, hid]
  exact (List.mapM_pure (m := Option) (f := id)).trans (by rw [List.map_id]; rfl)

namespace Pydantic

variable (pydantic : Pydantic)

@[simp] theorem strings_stringList (items : List String) :
    pydantic.strings (.ofJson (stringList items)) = some items := by
  have hread := mapM_encoded pydantic.str_str items
  rw [stringList, PyValue.ofJson, strings, pydantic.list_list, PyValue.ofItems_eq_map, List.map_map]
  exact hread

@[simp] theorem riskTier_value (tier : RiskTier) :
    pydantic.riskTier (.str tier.value) = some tier := by
  rw [riskTier, pydantic.enumText_str, Option.bind_some, RiskTier.ofValue_value]

@[simp] theorem agentStatus_value (status : AgentStatus) :
    pydantic.agentStatus (.str status.value) = some status := by
  rw [agentStatus, pydantic.enumText_str, Option.bind_some, AgentStatus.ofValue_value]

theorem nullable_optionalString {α : Type} {validate : PyValue → Option α} {encode : α → String}
    (value : Option α) (h : ∀ a ∈ value, validate (.str (encode a)) = some a) :
    nullable validate (.ofJson (optionalString (value.map encode))) = some value := by
  cases value with
  | none => rfl
  | some a =>
    rw [Option.map_some, optionalString, PyValue.ofJson, nullable_of_ne_null (by simp), h a rfl,
      Option.map_some]

theorem toolGrant_modelDump (g : ToolGrant) : pydantic.toolGrant (.ofJson g.modelDump) = some g := by
  have htier := nullable_optionalString g.riskTier fun tier _ => pydantic.riskTier_value tier
  simp [ToolGrant.modelDump, PyValue.ofJson, PyValue.ofFields, toolGrant, field, htier,
    g.name_not_blank]

/-- A dump that leaves out the null fields reads back too. -/
theorem toolGrant_dumpExcludeNone (g : ToolGrant) :
    pydantic.toolGrant (.ofJson g.dumpExcludeNone) = some g := by
  obtain ⟨name, tier, approvalRequired, requiredRoles, name_not_blank⟩ := g
  cases tier with
  | none =>
    simp [ToolGrant.dumpExcludeNone, PyValue.ofJson, PyValue.ofFields, toolGrant, field,
      name_not_blank]
  | some tier =>
    simp [ToolGrant.dumpExcludeNone, PyValue.ofJson, PyValue.ofFields, toolGrant, field, nullable,
      name_not_blank]

/-! ## Grant lists -/

theorem toolGrants_list (items : List PyValue) :
    pydantic.toolGrants (.list items) =
      items.mapM fun entry => pydantic.toolGrant (normalizeEntry entry) := by
  rw [toolGrants, normalizeToolGrants, pydantic.list_list, Option.bind_some, List.mapM_map]
  rfl

/-- A list of encoded grants, none of them a plain string, reads back as the grants. -/
theorem toolGrants_encoded {encode : ToolGrant → Json}
    (hobject : ∀ g, normalizeEntry (.ofJson (encode g)) = .ofJson (encode g))
    (hread : ∀ g, pydantic.toolGrant (.ofJson (encode g)) = some g) (grants : List ToolGrant) :
    pydantic.toolGrants (.list ((grants.map encode).map PyValue.ofJson)) = some grants := by
  rw [toolGrants_list, List.map_map]
  refine mapM_encoded ?_ grants
  intro g
  rw [Function.comp_apply, hobject, hread]

theorem toolGrants_modelDump (grants : List ToolGrant) :
    pydantic.toolGrants (.list ((grants.map ToolGrant.modelDump).map PyValue.ofJson)) = some grants :=
  pydantic.toolGrants_encoded (fun _ => rfl) pydantic.toolGrant_modelDump grants

theorem toolGrants_dumpExcludeNone (grants : List ToolGrant) :
    pydantic.toolGrants (.list ((grants.map ToolGrant.dumpExcludeNone).map PyValue.ofJson)) =
      some grants :=
  pydantic.toolGrants_encoded (fun _ => rfl) pydantic.toolGrant_dumpExcludeNone grants

end Pydantic

/-- A plain tool name as the object that says the same. -/
def normalizedGrant : Json → Json
  | .str s => .obj [("name", .str s)]
  | entry => entry

theorem normalizeEntry_normalizedGrant (entry : Json) :
    normalizeEntry (.ofJson (normalizedGrant entry)) = normalizeEntry (.ofJson entry) := by
  cases entry <;> rfl

namespace Pydantic

variable (pydantic : Pydantic)

/-- Plain names and objects, in any mixture, read as the objects alone do. -/
theorem toolGrants_normalized (entries : List Json) :
    pydantic.toolGrants (.list ((entries.map normalizedGrant).map PyValue.ofJson)) =
      pydantic.toolGrants (.list (entries.map PyValue.ofJson)) := by
  simp only [toolGrants_list, List.mapM_map, Function.comp_def, normalizeEntry_normalizedGrant]

end Pydantic

/-! ## Records -/

namespace RegisteredAgent

/-- Every timestamp of the record has a time zone. -/
structure Aware (r : RegisteredAgent) : Prop where
  created : r.createdAt.utcoffset.isSome = true
  updated : r.updatedAt.utcoffset.isSome = true
  statusChanged : ∀ t ∈ r.statusChangedAt, t.utcoffset.isSome = true

end RegisteredAgent

/-- The full dump of a record with time zones reads back as the record. -/
theorem Pydantic.registeredAgent_modelDump (pydantic : Pydantic) (now : UtcTime × UtcTime)
    {r : RegisteredAgent} (h : r.Aware) :
    pydantic.registeredAgent now (.ofJson r.modelDump) = some r := by
  have hgrants := pydantic.toolGrants_modelDump r.grantedTools
  rw [List.map_map] at hgrants
  have hchanged := nullable_optionalString r.statusChangedAt fun t ht =>
    pydantic.datetime_isoformat t (h.statusChanged t ht)
  simp [RegisteredAgent.modelDump, PyValue.ofJson, PyValue.ofFields, registeredAgent, field,
    PyValue.ofItems_eq_map, hgrants, hchanged, pydantic.datetime_isoformat _ h.created,
    pydantic.datetime_isoformat _ h.updated]

/-! ## Values of the right type -/

theorem isoText_injective :
    Function.Injective fun t : DateTime => String.ofList t.isoformat := by
  intro a b h
  exact DateTime.isoformat_inj (String.ofList_injective h)

/-- Pydantic on values that have the type of their field, or are the text of a timestamp. -/
noncomputable def exactPydantic : Pydantic where
  str
    | .str s => some s
    | _ => none
  bool
    | .bool b => some b
    | _ => none
  list
    | .list items => some items
    | _ => none
  datetime
    | .datetime t => some t
    | .str s => Function.partialInv (fun t : DateTime => String.ofList t.isoformat) s
    | _ => none
  enumText
    | .str s => some s
    | _ => none
  str_str := fun _ => rfl
  bool_bool := fun _ => rfl
  list_list := fun _ => rfl
  enumText_str := fun _ => rfl
  datetime_isoformat := fun t _ => Function.partialInv_left isoText_injective t

end OpenAgentControl
