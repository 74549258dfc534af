import OpenAgentControl.Adapters.Registry.Caching
import OpenAgentControl.Adapters.Registry.Directory

/-! # The forms a record is stored in

`create` stores every grant in full, `update` without its null fields, older rows hold plain tool
names, and the cache holds JSON text. One decoder reads them all: what was stored is what a lookup
returns, and what a hit returns is what the lookup that filled the cache did. -/

namespace OpenAgentControl
set_option autoImplicit false
set_option maxHeartbeats 250000

open Foundations

/-! ## Rows -/

namespace PostgresAgentRegistry

variable {registry : PostgresAgentRegistry} {tables : RegistryTables} {call : RegistryCall}
variable {answered : RegisteredAgent}

theorem stored_of_aware {agent : RegisteredAgent} (h : agent.Aware) :
    registry.stored agent = agent := by
  obtain ⟨spiffeId, displayName, purpose, owner, riskTier, status, grantedTools, createdAt, updatedAt,
    statusChangedAt⟩ := agent
  have hchanged : statusChangedAt.map registry.timestamptz = statusChangedAt := by
    cases statusChangedAt with
    | none => rfl
    | some t => exact congrArg some (registry.timestamptz_aware t (h.statusChanged t rfl))
  simp only [stored, hchanged, registry.timestamptz_aware createdAt h.created,
    registry.timestamptz_aware updatedAt h.updated]

theorem lookup_created {agent : RegisteredAgent} (hrequest : call.request = .create agent)
    (haware : agent.Aware) (h : (registry.answer call tables).1 = .ok answered) :
    registry.lookup (registry.answer call tables).2 agent.spiffeId = .ok (some agent) := by
  have hbody := answer_ok h
  simp only [body, hrequest] at hbody
  obtain ⟨-, -, htables⟩ := create_ok hbody
  have hreads : registry.Reads agent.spiffeId _ _ := reads_row agent
  rw [stored_of_aware haware] at hreads
  rw [htables]
  exact lookup_of_reads (Function.update_self _ _ _) hreads

/-- The grants of a patch are those a lookup returns. -/
theorem lookup_updated {spiffeId : String} {patch : AgentPatch} {grants : List ToolGrant}
    (hrequest : call.request = .mutate spiffeId (.update patch))
    (hgrants : patch.grantedTools = some grants)
    (h : (registry.answer call tables).1 = .ok answered) :
    ∃ agent, registry.lookup (registry.answer call tables).2 spiffeId = .ok (some agent) ∧
      agent.grantedTools = grants := by
  have hbody := answer_ok h
  simp only [body, hrequest] at hbody
  obtain ⟨read, -, hdomain, htables⟩ := mutate_ok hbody
  have hreads := toDomain_eq_ok.mp hdomain
  have hwritten : (((Mutation.update patch).assigned call.moment.now).applyTo read .grantedTools :
      List Json) = grants.map ToolGrant.dumpExcludeNone :=
    Assigned.applyTo_of_some (congrArg (Option.map _) hgrants)
  have hread := hreads.grantedTools
  rw [hwritten, registry.pydantic.toolGrants_dumpExcludeNone] at hread
  refine ⟨answered, ?_, (Option.some.inj hread).symm⟩
  rw [htables]
  exact lookup_of_reads (Function.update_self _ _ _) hreads

end PostgresAgentRegistry

/-- The row with other grants. -/
def AgentRow.withGrants (row : AgentRow) (grants : List Json) : AgentRow
  | .grantedTools => grants
  | .displayName => row .displayName
  | .purpose => row .purpose
  | .owner => row .owner
  | .riskTier => row .riskTier
  | .status => row .status
  | .createdAt => row .createdAt
  | .updatedAt => row .updatedAt
  | .statusChangedAt => row .statusChangedAt

namespace PostgresAgentRegistry

variable {registry : PostgresAgentRegistry}

/-- Plain names among the grants of a row read as the objects that say the same. -/
theorem toDomain_normalized (spiffeId : String) (row : AgentRow) :
    registry.toDomain spiffeId (row.withGrants ((row .grantedTools).map normalizedGrant)) =
      registry.toDomain spiffeId row := by
  have hgrants := registry.pydantic.toolGrants_normalized (row .grantedTools)
  simp only [toDomain, AgentRow.withGrants, hgrants]

/-- So do the grants in full. -/
theorem toDomain_dumped {spiffeId : String} {row : AgentRow} {agent : RegisteredAgent}
    (h : registry.toDomain spiffeId row = .ok agent) :
    registry.toDomain spiffeId (row.withGrants (agent.grantedTools.map ToolGrant.modelDump)) =
      .ok agent := by
  have hreads := toDomain_eq_ok.mp h
  exact toDomain_eq_ok.mpr { hreads with
    grantedTools := registry.pydantic.toolGrants_modelDump agent.grantedTools }

end PostgresAgentRegistry

/-! ## JSON text -/

/-- JSON as pydantic writes and reads it; the dump of a record reads back. -/
structure JsonCodec where
  print : Json → String
  parse : String → Option Json
  parse_print : ∀ agent : RegisteredAgent, parse (print agent.modelDump) = some agent.modelDump
  print_ne_empty : ∀ agent : RegisteredAgent, print agent.modelDump ≠ ""

namespace CachingAgentRegistry

/-- The cache in front of a registry, with the codec and the validation of the records. -/
def inFrontOf {Time Id : Type} (json : JsonCodec) (pydantic : Pydantic) (now : UtcTime × UtcTime)
    (inner : Time → String → Option RegisteredAgent) (ttlSeconds : Time) (spiffeId : Id → String) :
    CachingAgentRegistry Time Id where
  inner
  ttlSeconds
  spiffeId
  modelDumpJson := fun agent => json.print agent.modelDump
  modelValidateJson := fun text =>
    (json.parse text).bind fun value => pydantic.registeredAgent now (.ofJson value)

theorem inFrontOf_roundTrips {Time Id : Type} (json : JsonCodec) (pydantic : Pydantic)
    (now : UtcTime × UtcTime) {inner : Time → String → Option RegisteredAgent} (ttlSeconds : Time)
    (spiffeId : Id → String)
    (haware : ∀ time id agent, inner time id = some agent → agent.Aware) :
    (inFrontOf json pydantic now inner ttlSeconds spiffeId).RoundTrips := by
  intro time id agent hagent
  refine ⟨json.print_ne_empty agent, ?_⟩
  simp only [inFrontOf]
  rw [json.parse_print, Option.bind_some]
  exact pydantic.registeredAgent_modelDump now (haware time id agent hagent)

end CachingAgentRegistry

/-- Every storage form returns the record that was stored in it. -/
theorem storage_forms_agree (registry : PostgresAgentRegistry) (json : JsonCodec) :
    (∀ call tables answered agent, call.request = .create agent → agent.Aware →
      (registry.answer call tables).1 = .ok answered →
      registry.lookup (registry.answer call tables).2 agent.spiffeId = .ok (some agent)) ∧
    (∀ call tables answered spiffeId patch grants,
      call.request = .mutate spiffeId (.update patch) → patch.grantedTools = some grants →
      (registry.answer call tables).1 = .ok answered →
      ∃ agent, registry.lookup (registry.answer call tables).2 spiffeId = .ok (some agent) ∧
        agent.grantedTools = grants) ∧
    (∀ spiffeId (row : AgentRow),
      registry.toDomain spiffeId (row.withGrants ((row .grantedTools).map normalizedGrant)) =
        registry.toDomain spiffeId row ∧
      ∀ agent, registry.toDomain spiffeId row = .ok agent →
        registry.toDomain spiffeId (row.withGrants (agent.grantedTools.map ToolGrant.modelDump)) =
          .ok agent) ∧
    ∀ (Time Id : Type) [AddCommGroup Time] [LinearOrder Time] [IsOrderedAddMonoid Time]
      [DecidableEq Id] (now : UtcTime × UtcTime) (inner : Time → String → Option RegisteredAgent)
      (ttlSeconds : Time) (spiffeId : Id → String),
      (∀ time id agent, inner time id = some agent → agent.Aware) →
      let caching := CachingAgentRegistry.inFrontOf json registry.pydantic now inner ttlSeconds spiffeId
      ∀ steps s i began e, caching.cache.system.Run steps s → s.phase i = .started began →
        ReadThrough.live s (CachingAgentRegistry.key (spiffeId i)) = some e →
        ∃ j filled answer, caching.cache.LastStore steps (CachingAgentRegistry.key (spiffeId i)) j ∧
          spiffeId j = spiffeId i ∧ s.phase j = .returned filled answer ∧
          caching.cache.next s (.get i) =
            some (ReadThrough.advance s i (.returned began answer)) := by
  refine ⟨?_, ?_, ?_, ?_⟩
  · intro call tables answered agent hrequest haware h
    exact PostgresAgentRegistry.lookup_created hrequest haware h
  · intro call tables answered spiffeId patch grants hrequest hgrants h
    exact PostgresAgentRegistry.lookup_updated hrequest hgrants h
  · intro spiffeId row
    exact ⟨PostgresAgentRegistry.toDomain_normalized spiffeId row, fun agent h =>
      PostgresAgentRegistry.toDomain_dumped h⟩
  · intro Time Id _ _ _ _ now inner ttlSeconds spiffeId haware caching steps s i began e hrun hphase
      hlive
    have hcodec := caching.load_dump
      (CachingAgentRegistry.inFrontOf_roundTrips json registry.pydantic now ttlSeconds spiffeId haware)
    exact ReadThrough.hit_returns_filled CachingAgentRegistry.key_injective hcodec hrun hphase hlive

/-! ## A record through each form -/

theorem jsonText_injective : Function.Injective fun value : Json => String.ofList (text value) := by
  intro a b h
  have htext : text a ++ [] = text b ++ [] := by
    rw [List.append_nil, List.append_nil]
    exact String.ofList_injective h
  exact (text_inj a b [] [] (by simp [Ends]) (by simp [Ends]) htext).1

/-- The text that a JSON value determines. -/
noncomputable def exactJson : JsonCodec where
  print := fun value => String.ofList (text value)
  parse := Function.partialInv fun value : Json => String.ofList (text value)
  parse_print := fun agent => Function.partialInv_left jsonText_injective agent.modelDump
  print_ne_empty := by
    intro agent h
    have hchars := congrArg String.toList h
    rw [String.toList_ofList] at hchars
    cases hchars

namespace PostgresAgentRegistry

theorem updateRecord_not_blank : blank "update_record" = false := by decide

def approvedGrant : ToolGrant where
  name := "update_record"
  approvalRequired := true
  requiredRoles := ["finance-approver"]
  name_not_blank := updateRecord_not_blank

def grantApproved : RegistryCall where
  operatorSubject := "alice@corp.net"
  request := .mutate "spiffe://corp/agent" (.update { grantedTools := some [approvedGrant] })
  moment := ⟨firstDay, firstDay⟩

/-- One answer of the registry, behind a cache of thirty seconds. -/
noncomputable def cachedAnswer (answer : Option RegisteredAgent) :
    CachingAgentRegistry ℤ CachingAgentRegistry.TwoLookups :=
  CachingAgentRegistry.inFrontOf exactJson exactRegistry.pydantic (utcEpoch, utcEpoch)
    (fun _ _ => answer) 30 fun _ => "spiffe://corp/agent"

/-- The first lookup stores the answer, and the second begins. -/
theorem cachedAnswer_stored (answer : Option RegisteredAgent) : ∃ steps s,
    (cachedAnswer answer).cache.system.Run steps s ∧ s.phase .first = .returned 0 answer ∧
    s.phase .second = .started 5 ∧
    ReadThrough.live s (CachingAgentRegistry.key "spiffe://corp/agent") =
      some { text := (cachedAnswer answer).dump answer, expires := 30 } := by
  have h0 : (cachedAnswer answer).cache.system.Run [] _ := .start ⟨(0 : ℤ), rfl⟩
  have h1 : (cachedAnswer answer).cache.system.Run _ _ :=
    .step h0 (show (cachedAnswer answer).cache.next _ (.start .first) = some _ from rfl)
  have h2 : (cachedAnswer answer).cache.system.Run _ _ :=
    .step h1 (show (cachedAnswer answer).cache.next _ (.get .first) = some _ from rfl)
  have h3 : (cachedAnswer answer).cache.system.Run _ _ :=
    .step h2 (show (cachedAnswer answer).cache.next _ (.fetch .first) = some _ from rfl)
  have h4 : (cachedAnswer answer).cache.system.Run _ _ :=
    .step h3 (show (cachedAnswer answer).cache.next _ (.store .first) = some _ from rfl)
  have h5 : (cachedAnswer answer).cache.system.Run _ _ :=
    .step h4 (show (cachedAnswer answer).cache.next _ (.tick 5) = some _ from rfl)
  have h6 : (cachedAnswer answer).cache.system.Run _ _ :=
    .step h5 (show (cachedAnswer answer).cache.next _ (.start .second) = some _ from rfl)
  exact ⟨_, _, h6, rfl, rfl, rfl⟩

theorem fixedRecord_aware : fixedRecord.Aware where
  created := rfl
  updated := rfl
  statusChanged := nofun

def approvedRecord : RegisteredAgent := { fixedRecord with grantedTools := [approvedGrant] }

/-- A record that was created, grants that were patched in, and what the cache holds of a record and of
an agent that is absent. -/
theorem approvedRecord_forms_agree :
    exactRegistry.lookup (exactRegistry.answer register emptyDirectory).2 "spiffe://corp/agent" =
        .ok (some fixedRecord) ∧
      (∃ agent, exactRegistry.lookup (exactRegistry.answer grantApproved
          (exactRegistry.answer register emptyDirectory).2).2 "spiffe://corp/agent" =
            .ok (some agent) ∧ agent.grantedTools = [approvedGrant]) ∧
      ∀ answer, answer = none ∨ answer = some approvedRecord → ∃ steps s,
        (cachedAnswer answer).cache.system.Run steps s ∧
        (cachedAnswer answer).cache.next s (.get .second) =
          some (ReadThrough.advance s .second (.returned 5 answer)) := by
  obtain ⟨hcreated, hupdated, -, hcached⟩ := storage_forms_agree exactRegistry exactJson
  refine ⟨?_, ?_, fun answer hanswer => ?_⟩
  · exact hcreated register emptyDirectory fixedRecord fixedRecord rfl fixedRecord_aware rfl
  · exact hupdated grantApproved _ _ "spiffe://corp/agent" _ [approvedGrant] rfl rfl
      (show _ = Except.ok { fixedRecord with
        grantedTools := [approvedGrant]
        updatedAt := firstDay.val } from rfl)
  · have haware : ∀ (time : ℤ) (id : String) (agent : RegisteredAgent), answer = some agent →
        agent.Aware := by
      rintro time id agent rfl
      obtain habs | hagent := hanswer
      · cases habs
      · cases hagent
        exact ⟨rfl, rfl, nofun⟩
    obtain ⟨steps, s, hrun, hfirst, hsecond, hlive⟩ := cachedAnswer_stored answer
    obtain ⟨j, filled, answer', -, -, hreturned, hhit⟩ := hcached ℤ CachingAgentRegistry.TwoLookups
      (utcEpoch, utcEpoch) (fun _ _ => answer) 30 (fun _ => "spiffe://corp/agent") haware steps s
      .second 5 _ hrun hsecond hlive
    cases j with
    | first =>
      cases hfirst.symm.trans hreturned
      exact ⟨steps, s, hrun, hhit⟩
    | second => cases hsecond.symm.trans hreturned

end PostgresAgentRegistry

end OpenAgentControl
