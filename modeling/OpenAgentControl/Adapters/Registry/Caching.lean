import OpenAgentControl.Foundations.ReadThrough
import OpenAgentControl.Domain.Models
import Mathlib.Algebra.Order.Group.Int

/-! # The Redis cache of registry lookups

`CachingAgentRegistry.lookup` on any number of gateway processes that share one Redis, in front of a
registry whose records change. A lookup stores the record it read, whenever it gets to it: nothing
says that the registry still holds that record when it is stored. -/

namespace OpenAgentControl
set_option autoImplicit false
set_option maxHeartbeats 250000

open Foundations

/-- The registry behind the cache as it changes in time, and the lookups in front of it. -/
structure CachingAgentRegistry (Time Id : Type) where
  inner : Time → String → Option RegisteredAgent
  ttlSeconds : Time
  /-- The agent each lookup asks about. -/
  spiffeId : Id → String
  modelDumpJson : RegisteredAgent → String
  /-- `RegisteredAgent.model_validate_json`; it may raise. -/
  modelValidateJson : String → Option RegisteredAgent

namespace CachingAgentRegistry

def key (spiffeId : String) : String := "oac:registry:" ++ spiffeId

theorem key_injective : Function.Injective key := by
  intro a b h
  have hchars : "oac:registry:".toList ++ a.toList = "oac:registry:".toList ++ b.toList := by
    rw [← String.toList_append, ← String.toList_append]
    exact congrArg String.toList h
  exact String.toList_inj.mp (List.append_cancel_left hchars)

variable {Time Id : Type} (registry : CachingAgentRegistry Time Id)

/-- `agent.model_dump_json() if agent else ""`. -/
def dump : Option RegisteredAgent → String
  | some agent => registry.modelDumpJson agent
  | none => ""

/-- `RegisteredAgent.model_validate_json(cached) if cached else None`. -/
def load (cached : String) : Option (Option RegisteredAgent) :=
  if cached = "" then some none else (registry.modelValidateJson cached).map some

/-- The records of the inner registry read back from their JSON text, which is not empty. -/
def RoundTrips : Prop :=
  ∀ time spiffeId agent, registry.inner time spiffeId = some agent →
    registry.modelDumpJson agent ≠ "" ∧
      registry.modelValidateJson (registry.modelDumpJson agent) = some agent

def cache : ReadThrough Time Id String String (Option RegisteredAgent) String where
  ttl := registry.ttlSeconds
  source := registry.inner
  subject := registry.spiffeId
  slot := key
  encode := registry.dump
  decode := registry.load

theorem load_dump (h : registry.RoundTrips) (time : Time) (spiffeId : String) :
    registry.load (registry.dump (registry.inner time spiffeId)) =
      some (registry.inner time spiffeId) := by
  cases hagent : registry.inner time spiffeId with
  | none => exact if_pos rfl
  | some agent =>
    obtain ⟨hne, hvalid⟩ := h time spiffeId agent hagent
    rw [dump, load, if_neg hne, hvalid, Option.map_some]

/-- From `time` on the registry holds a suspended record of the agent. -/
def SuspendedFrom [LE Time] (spiffeId : String) (time : Time) : Prop :=
  ∀ τ, time ≤ τ → ∃ agent, registry.inner τ spiffeId = some agent ∧ agent.status = .suspended

abbrev State (Time Id : Type) := CacheState Time Id String (Option RegisteredAgent) String

variable [AddCommGroup Time] [LinearOrder Time] [IsOrderedAddMonoid Time]

/-- A recent answer to a lookup that began more than a TTL after the suspension is not `ACTIVE`. -/
theorem not_active_of_recent {s : State Time Id} (hrecent : registry.cache.Recent s) {i : Id}
    {began time : Time} {agent : RegisteredAgent}
    (hphase : s.phase i = .returned began (some agent))
    (hsuspended : registry.SuspendedFrom (registry.spiffeId i) time)
    (hbegan : time + registry.ttlSeconds < began) : agent.status ≠ .active := by
  obtain ⟨τ, hlow, -, hheld⟩ := hrecent i began (some agent) hphase
  have hafter : time ≤ τ := le_trans (le_of_lt (lt_sub_iff_add_lt.mpr hbegan)) hlow
  obtain ⟨agent', hagent', hstatus⟩ := hsuspended τ hafter
  have hsame : some agent' = some agent := hagent'.symm.trans hheld
  rw [← Option.some.inj hsame, hstatus]
  decide

variable [DecidableEq Id]

/-- In every run whose cache sets all store what the registry holds at that moment, a lookup returns
a record the registry held no earlier than one TTL before the lookup began, and none that began more
than one TTL after a suspension returns an active record. -/
theorem revocation_within_ttl (hcodec : registry.RoundTrips)
    {steps : List (State Time Id × CacheStep Time Id)} {s : State Time Id}
    (hrun : registry.cache.system.Run steps s)
    (hfresh : ∀ p ∈ steps, registry.cache.Fresh p.1 p.2) :
    (∀ i began answer, s.phase i = .returned began answer →
      ∃ τ, began - registry.ttlSeconds ≤ τ ∧ τ ≤ s.now ∧
        registry.inner τ (registry.spiffeId i) = answer) ∧
    ∀ i began agent time, s.phase i = .returned began (some agent) →
      registry.SuspendedFrom (registry.spiffeId i) time →
      time + registry.ttlSeconds < began → agent.status ≠ .active := by
  have hrecent : registry.cache.Recent s :=
    ReadThrough.recent_of_fresh key_injective (registry.load_dump hcodec) hrun hfresh
  refine ⟨hrecent, ?_⟩
  intro i began agent time hphase hsuspended hbegan
  exact registry.not_active_of_recent hrecent hphase hsuspended hbegan

/-! ## Two lookups around a suspension -/

inductive TwoLookups
  | first
  | second
deriving DecidableEq

/-- The JSON text of `fixedRecord`, with the status in its place. -/
def recordText (status : String) : String :=
  "\x7b" ++ ("\"spiffe_id\":\"spiffe://corp/agent\",\"display_name\":\"Agent\"," ++
    "\"purpose\":\"Queries\",\"owner\":\"owner\",\"risk_tier\":\"low\",\"status\":\"" ++
    status ++ ("\",\"granted_tools\":[],\"created_at\":\"1970-01-01T00:00:00Z\"," ++
    "\"updated_at\":\"1970-01-01T00:00:00Z\",\"status_changed_at\":null\x7d"))

theorem recordText_inj {a b : String} : recordText a = recordText b ↔ a = b := by
  rw [recordText, recordText, String.append_right_inj, String.append_left_inj,
    String.append_right_inj]

theorem recordText_ne_empty (status : String) : recordText status ≠ "" := by
  intro h
  have hchars := congrArg String.toList h
  rw [recordText, String.toList_append] at hchars
  cases hchars

attribute [irreducible] recordText

def suspendedRecord : RegisteredAgent := { fixedRecord with status := .suspended }

/-- The record a text of `recordText` reads back as. -/
def validateText (text : String) : Option RegisteredAgent :=
  if text = recordText "active" then some fixedRecord
  else if text = recordText "suspended" then some suspendedRecord
  else none

theorem validateText_active : validateText (recordText "active") = some fixedRecord := by
  rw [validateText, if_pos rfl]

theorem validateText_suspended :
    validateText (recordText "suspended") = some suspendedRecord := by
  have hother : recordText "suspended" ≠ recordText "active" := by
    rw [Ne, recordText_inj]
    decide
  rw [validateText, if_neg hother, if_pos rfl]

/-- The agent is suspended at second 10; entries live for 30 seconds. -/
def suspendedAtTen : CachingAgentRegistry ℤ TwoLookups where
  inner := fun time _ => if time < 10 then some fixedRecord else some suspendedRecord
  ttlSeconds := 30
  spiffeId := fun _ => "spiffe://corp/agent"
  modelDumpJson := fun agent => recordText agent.status.value
  modelValidateJson := validateText

theorem suspendedAtTen_roundTrips : suspendedAtTen.RoundTrips := by
  intro time spiffeId agent hagent
  refine ⟨recordText_ne_empty agent.status.value, ?_⟩
  simp only [suspendedAtTen] at hagent ⊢
  split_ifs at hagent
  · cases hagent
    rw [show fixedRecord.status.value = "active" from rfl]
    exact validateText_active
  · cases hagent
    rw [show suspendedRecord.status.value = "suspended" from rfl]
    exact validateText_suspended

theorem suspendedAtTen_suspended :
    suspendedAtTen.SuspendedFrom "spiffe://corp/agent" (10 : ℤ) := by
  intro τ hτ
  exact ⟨suspendedRecord, if_neg (not_lt.mpr hτ), rfl⟩

theorem suspendedAtTen_hit {s : State ℤ TwoLookups} {began expires : ℤ}
    (hphase : s.phase .second = .started began)
    (hcell : s.cells (key "spiffe://corp/agent") =
      some { text := suspendedAtTen.dump (some fixedRecord), expires })
    (hlive : s.now < expires) :
    suspendedAtTen.cache.next s (.get .second) =
      some (ReadThrough.advance s .second (.returned began (some fixedRecord))) := by
  have hinner : suspendedAtTen.inner 0 "spiffe://corp/agent" = some fixedRecord := rfl
  have hload := suspendedAtTen.load_dump suspendedAtTen_roundTrips 0 "spiffe://corp/agent"
  rw [hinner] at hload
  have hentry : ReadThrough.live s (suspendedAtTen.cache.slot
      (suspendedAtTen.cache.subject .second)) =
        some { text := suspendedAtTen.dump (some fixedRecord), expires } :=
    Option.filter_eq_some_iff.mpr ⟨hcell, decide_eq_true hlive⟩
  exact ReadThrough.next_get_of_live hphase hentry hload

/-- The first lookup stores what it read at once; the second is served from the cache. -/
theorem storedAtOnce : ∃ steps s, suspendedAtTen.cache.system.Run steps s ∧
    s.phase .second = .returned 20 (some fixedRecord) ∧
    ∀ p ∈ steps, suspendedAtTen.cache.Fresh p.1 p.2 := by
  have h0 : suspendedAtTen.cache.system.Run [] _ := .start ⟨(0 : ℤ), rfl⟩
  have h1 : suspendedAtTen.cache.system.Run _ _ :=
    .step h0 (show suspendedAtTen.cache.next _ (.start .first) = some _ from rfl)
  have h2 : suspendedAtTen.cache.system.Run _ _ :=
    .step h1 (show suspendedAtTen.cache.next _ (.get .first) = some _ from rfl)
  have h3 : suspendedAtTen.cache.system.Run _ _ :=
    .step h2 (show suspendedAtTen.cache.next _ (.fetch .first) = some _ from rfl)
  have h4 : suspendedAtTen.cache.system.Run _ _ :=
    .step h3 (show suspendedAtTen.cache.next _ (.store .first) = some _ from rfl)
  have h5 : suspendedAtTen.cache.system.Run _ _ :=
    .step h4 (show suspendedAtTen.cache.next _ (.tick 20) = some _ from rfl)
  have h6 : suspendedAtTen.cache.system.Run _ _ :=
    .step h5 (show suspendedAtTen.cache.next _ (.start .second) = some _ from rfl)
  have h7 : suspendedAtTen.cache.system.Run _ _ :=
    .step h6 (suspendedAtTen_hit rfl rfl (by decide))
  refine ⟨_, _, h7, rfl, ?_⟩
  have hstore : ∀ began v, (LookupPhase.fetched (0 : ℤ) (some fixedRecord) = .fetched began v) →
      suspendedAtTen.inner 0 "spiffe://corp/agent" = v := by
    rintro began v ⟨⟩
    rfl
  simp only [List.forall_mem_cons]
  exact ⟨trivial, trivial, trivial, hstore, trivial, trivial, trivial, nofun⟩

/-- The first lookup reads the active record at second 0 and stores it at second 39; a lookup that
begins at second 60, fifty seconds after the suspension, is served from that entry. -/
theorem storedLate : ∃ steps s, suspendedAtTen.cache.system.Run steps s ∧
    s.phase .second = .returned 60 (some fixedRecord) := by
  have h0 : suspendedAtTen.cache.system.Run [] _ := .start ⟨(0 : ℤ), rfl⟩
  have h1 : suspendedAtTen.cache.system.Run _ _ :=
    .step h0 (show suspendedAtTen.cache.next _ (.start .first) = some _ from rfl)
  have h2 : suspendedAtTen.cache.system.Run _ _ :=
    .step h1 (show suspendedAtTen.cache.next _ (.get .first) = some _ from rfl)
  have h3 : suspendedAtTen.cache.system.Run _ _ :=
    .step h2 (show suspendedAtTen.cache.next _ (.fetch .first) = some _ from rfl)
  have h4 : suspendedAtTen.cache.system.Run _ _ :=
    .step h3 (show suspendedAtTen.cache.next _ (.tick 39) = some _ from rfl)
  have h5 : suspendedAtTen.cache.system.Run _ _ :=
    .step h4 (show suspendedAtTen.cache.next _ (.store .first) = some _ from rfl)
  have h6 : suspendedAtTen.cache.system.Run _ _ :=
    .step h5 (show suspendedAtTen.cache.next _ (.tick 60) = some _ from rfl)
  have h7 : suspendedAtTen.cache.system.Run _ _ :=
    .step h6 (show suspendedAtTen.cache.next _ (.start .second) = some _ from rfl)
  have h8 : suspendedAtTen.cache.system.Run _ _ :=
    .step h7 (suspendedAtTen_hit rfl rfl (by decide))
  exact ⟨_, _, h8, rfl⟩

/-- The TTL does not bound the revocation latency. -/
theorem lateStore_revives : suspendedAtTen.RoundTrips ∧
    suspendedAtTen.SuspendedFrom "spiffe://corp/agent" (10 : ℤ) ∧
    ∃ steps s, suspendedAtTen.cache.system.Run steps s ∧
      ∃ began agent, s.phase .second = .returned began (some agent) ∧
        10 + suspendedAtTen.ttlSeconds < began ∧ agent.status = .active := by
  obtain ⟨steps, s, hrun, hphase⟩ := storedLate
  exact ⟨suspendedAtTen_roundTrips, suspendedAtTen_suspended, steps, s, hrun, 60, fixedRecord, hphase,
    by decide, rfl⟩

theorem storedAtOnce_within_ttl : ∃ steps s, suspendedAtTen.cache.system.Run steps s ∧
    (∀ i began answer, s.phase i = .returned began answer →
      ∃ τ, began - 30 ≤ τ ∧ τ ≤ s.now ∧ suspendedAtTen.inner τ "spiffe://corp/agent" = answer) ∧
    ∀ i began agent time, s.phase i = .returned began (some agent) →
      suspendedAtTen.SuspendedFrom "spiffe://corp/agent" time →
      time + 30 < began → agent.status ≠ .active := by
  obtain ⟨steps, s, hrun, -, hfresh⟩ := storedAtOnce
  exact ⟨steps, s, hrun,
    suspendedAtTen.revocation_within_ttl suspendedAtTen_roundTrips hrun hfresh⟩

end CachingAgentRegistry

end OpenAgentControl
