import OpenAgentControl.Adapters.Registry.File

/-! # The registry check

`diagnostics.check_registry`, which `doctor` and `/readyz` run, reads the registry file by itself: it
counts the agents and validates none. The module says for which contents its answer is that of the
registry that runs. -/

namespace OpenAgentControl
set_option autoImplicit false
set_option maxHeartbeats 250000

open Foundations

structure Settings where
  databaseUrl : String := ""
  registryPath : String := ""

structure Check where
  name : String
  ok : Bool
  detail : String
deriving DecidableEq

namespace FileAgentRegistry

variable (registry : FileAgentRegistry)

/-- `check_registry` on the resolved path and what the file holds. -/
def checkRegistry (settings : Settings) (path text : String) : Except Exc Check := do
  if settings.databaseUrl ≠ "" then
    return ⟨"registry", true, "backed by Postgres (see the database check)"⟩
  let entry ← registry.agentsEntry text
  let agents := entry.getD .null
  let agents := if agents.truthy then agents else .list []
  let count ← orRaise typeError agents.len
  let suffix :=
    if settings.registryPath = "" then " — bundled empty starter, every agent will be denied" else ""
  return ⟨"registry", true, path ++ ": " ++ toString count ++ " agent(s)" ++ suffix⟩

/-- `lookup` of a registry that has to read the file. -/
def lookup (clock : LoadClock) (text spiffeId : String) : Except Exc (Option RegisteredAgent) := do
  let agents ← registry.load clock text
  return agents spiffeId

/-- An entry validates, whatever the clock reads. -/
def ValidEntry (entry : PyValue) : Prop :=
  ∀ now, (registry.pydantic.registeredAgent now entry).isSome = true

/-- What the document says under `agents` is nothing, or something that a loop can walk and whose
items are all valid entries, or something truthy that has no length. -/
def Servable (text : String) : Prop :=
  ∀ items agents, registry.safeLoad text = some (.dict items) →
    PyValue.get? items "agents" = some agents →
      (agents.len = none → agents.truthy = true) ∧
      ∀ entries, agents.iter = some entries → ∀ entry ∈ entries, registry.ValidEntry entry

/-! ## What each reader accepts -/

theorem mapM_isSome_iff {α β : Type} {f : α → Option β} {xs : List α} :
    (xs.mapM f).isSome = true ↔ ∀ x ∈ xs, (f x).isSome = true := by
  induction xs with
  | nil => simp
  | cons x xs ih =>
    rw [List.mapM_cons, List.forall_mem_cons, ← ih]
    cases f x with
    | none => simp
    | some b => cases xs.mapM f <;> simp

theorem validateEntries_iff {entries : List PyValue} :
    (∀ clock, ∃ agents, registry.validateEntries clock entries = .ok agents) ↔
      ∀ entry ∈ entries, registry.ValidEntry entry := by
  simp only [validateEntries, orRaise_eq_ok, ← Option.isSome_iff_exists, mapM_isSome_iff]
  constructor
  · intro h entry hentry now
    obtain ⟨i, hi⟩ := List.mem_iff_getElem?.mp hentry
    exact h (fun _ => now) (entry, i) (List.mem_zipIdx_iff_getElem?.mpr hi)
  · intro h clock indexed hindexed
    exact h indexed.1 (List.fst_mem_of_mem_zipIdx hindexed) _

variable {registry}

theorem agentsEntry_eq_some {text : String} {agents : PyValue} :
    registry.agentsEntry text = .ok (some agents) ↔
      ∃ items, registry.safeLoad text = some (.dict items) ∧
        PyValue.get? items "agents" = some agents := by
  unfold agentsEntry
  cases hloaded : registry.safeLoad text with
  | none => simp [orRaise, bind, Except.bind]
  | some loaded =>
    cases loaded with
    | dict items =>
      cases items with
      | nil => simp [orRaise, bind, Except.bind, PyValue.truthy, pure, Except.pure]
      | cons item items =>
        simp [orRaise, bind, Except.bind, PyValue.truthy, pure, Except.pure]
    | _ =>
      refine iff_of_false ?_ (by simp)
      simp only [orRaise, bind, Except.bind]
      split_ifs <;> simp [pure, Except.pure]

theorem checkRegistry_returns_iff {settings : Settings} (hfile : settings.databaseUrl = "")
    {path text : String} {entry : Option PyValue} (hentry : registry.agentsEntry text = .ok entry) :
    Returns (registry.checkRegistry settings path text) ↔
      ((entry.getD .null).truthy = true → (entry.getD .null).len.isSome = true) := by
  have hcount : Returns (registry.checkRegistry settings path text) ↔
      (if (entry.getD .null).truthy then entry.getD .null else .list []).len.isSome = true := by
    rw [← returns_orRaise]
    unfold checkRegistry
    rw [if_neg (not_not.mpr hfile), hentry]
    change Returns (orRaise typeError _ >>= _) ↔ Returns (orRaise typeError _)
    exact returns_bind_iff.trans (exists_congr fun count => and_iff_left ⟨_, rfl⟩)
  rw [hcount]
  by_cases htruthy : (entry.getD .null).truthy = true
  · rw [if_pos htruthy]
    exact ⟨fun h _ => h, fun h => h htruthy⟩
  · rw [if_neg htruthy]
    exact iff_of_true rfl fun h => absurd h htruthy

theorem load_returns_iff {text : String} {entry : Option PyValue}
    (hentry : registry.agentsEntry text = .ok entry) :
    (∀ clock, Returns (registry.load clock text)) ↔
      ∃ entries, (entry.getD (.list [])).iter = some entries ∧
        ∀ item ∈ entries, registry.ValidEntry item := by
  have hload : ∀ clock, Returns (registry.load clock text) ↔
      ∃ entries, (entry.getD (.list [])).iter = some entries ∧
        ∃ agents, registry.validateEntries clock entries = .ok agents := by
    intro clock
    unfold load
    rw [hentry]
    change Returns (orRaise typeError _ >>= _) ↔ _
    refine returns_bind_iff.trans (exists_congr fun entries => ?_)
    rw [orRaise_eq_ok]
    exact and_congr_right fun _ =>
      returns_bind_iff.trans (exists_congr fun agents => and_iff_left ⟨_, rfl⟩)
  simp only [hload]
  constructor
  · intro h
    obtain ⟨entries, hentries, -⟩ := h fun _ => (utcEpoch, utcEpoch)
    refine ⟨entries, hentries, registry.validateEntries_iff.mp fun clock => ?_⟩
    obtain ⟨entries', hentries', hvalid⟩ := h clock
    rw [hentries] at hentries'
    cases hentries'
    exact hvalid
  · rintro ⟨entries, hentries, hvalid⟩ clock
    exact ⟨entries, hentries, registry.validateEntries_iff.mpr hvalid clock⟩

/-- Where the check counts the items, the loop walks them; where it counts none of something falsy, the
loop may not. -/
theorem walked_iff {agents : PyValue} {valid : List PyValue → Prop} :
    ((agents.truthy = true → agents.len.isSome = true) →
      ∃ entries, agents.iter = some entries ∧ valid entries) ↔
      (agents.len = none → agents.truthy = true) ∧
        ∀ entries, agents.iter = some entries → valid entries := by
  have hlength := agents.length_iter
  cases hiter : agents.iter with
  | none =>
    rw [hiter, Option.map_none] at hlength
    rw [← hlength]
    simp
  | some entries =>
    rw [hiter, Option.map_some] at hlength
    rw [← hlength]
    simp

theorem checkRegistry_ok {settings : Settings} {path text : String} {check : Check}
    (h : registry.checkRegistry settings path text = .ok check) : check.ok = true := by
  unfold checkRegistry at h
  by_cases hfile : settings.databaseUrl ≠ ""
  · rw [if_pos hfile] at h
    cases h
    rfl
  · rw [if_neg hfile] at h
    obtain ⟨entry, -, h⟩ := bind_except_ok h
    obtain ⟨count, -, h⟩ := bind_except_ok h
    cases h
    rfl

/-- Whenever the check of the registry file is ok every lookup returns, exactly when what the file says
under `agents` is nothing, or a list of valid entries or an empty collection, or a value on which the
check itself fails. -/
theorem doctor_agrees_iff (registry : FileAgentRegistry) (settings : Settings) (path text : String) :
    (settings.databaseUrl = "" →
      ∀ check, registry.checkRegistry settings path text = .ok check → check.ok = true →
        ∀ clock spiffeId, ∃ answer, registry.lookup clock text spiffeId = .ok answer) ↔
      (settings.databaseUrl = "" → registry.Servable text) := by
  refine imp_congr_right fun hfile => ?_
  have hlookup : (∀ check, registry.checkRegistry settings path text = .ok check →
      check.ok = true → ∀ clock spiffeId,
        ∃ answer, registry.lookup clock text spiffeId = .ok answer) ↔
      (Returns (registry.checkRegistry settings path text) →
        ∀ clock, Returns (registry.load clock text)) := by
    constructor
    · rintro h ⟨check, hcheck⟩ clock
      obtain ⟨answer, hanswer⟩ := h check hcheck (checkRegistry_ok hcheck) clock ""
      obtain ⟨agents, hagents, -⟩ := bind_except_ok hanswer
      exact ⟨agents, hagents⟩
    · intro h check hcheck _ clock spiffeId
      obtain ⟨agents, hagents⟩ := h ⟨check, hcheck⟩ clock
      exact ⟨agents spiffeId, by rw [lookup, hagents]; rfl⟩
  rw [hlookup]
  have hservable : registry.Servable text ↔
      ∀ agents, registry.agentsEntry text = .ok (some agents) →
        (agents.len = none → agents.truthy = true) ∧
          ∀ entries, agents.iter = some entries → ∀ item ∈ entries, registry.ValidEntry item := by
    simp only [agentsEntry_eq_some]
    exact ⟨fun h agents ⟨items, hload, hget⟩ => h items agents hload hget,
      fun h items agents hload hget => h agents ⟨items, hload, hget⟩⟩
  rw [hservable]
  cases hentry : registry.agentsEntry text with
  | error e =>
    refine iff_of_true ?_ nofun
    rintro ⟨check, hcheck⟩
    unfold checkRegistry at hcheck
    rw [if_neg (not_not.mpr hfile), hentry] at hcheck
    cases hcheck
  | ok entry =>
    rw [checkRegistry_returns_iff hfile hentry, load_returns_iff hentry]
    cases entry with
    | none => exact iff_of_true (fun _ => ⟨[], rfl, nofun⟩) nofun
    | some agents =>
      refine walked_iff.trans ?_
      exact ⟨fun h agents' hsome => by cases hsome; exact h, fun h => h agents rfl⟩

/-! ## An empty key -/

/-- A registry whose file is the line `agents:`, which loads as a mapping to `None`. -/
noncomputable def emptyKey : FileAgentRegistry where
  pydantic := exactPydantic
  safeLoad := fun text =>
    if text = "agents:" then some (.dict [(.str "agents", .null)]) else none

theorem emptyKey_disagrees :
    emptyKey.checkRegistry { registryPath := "agents.yaml" } "agents.yaml" "agents:" =
        .ok ⟨"registry", true, "agents.yaml: 0 agent(s)"⟩ ∧
      ∀ clock spiffeId, emptyKey.lookup clock "agents:" spiffeId = .error typeError := by
  refine ⟨?_, fun _ _ => rfl⟩
  decide

end FileAgentRegistry

end OpenAgentControl
