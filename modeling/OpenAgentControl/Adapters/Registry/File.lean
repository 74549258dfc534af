import OpenAgentControl.Foundations.Revalidation
import OpenAgentControl.Domain.Ports
import OpenAgentControl.Domain.Validation

/-! # The file registry

`FileAgentRegistry` over a file that is replaced while it is read. A lookup looks at the modification
time first and reads afterwards, so that the records it keeps are never older than the time it keeps
with them. -/

namespace OpenAgentControl
set_option autoImplicit false
set_option maxHeartbeats 250000

open Foundations

def yamlError : Exc := .other "YAMLError"

section ToOption

variable {ε α : Type} {x : Except ε α}

theorem toOption_eq_some {a : α} : x.toOption = some a ↔ x = .ok a := by
  cases x <;> simp [Except.toOption]

theorem toOption_eq_none : x.toOption = none ↔ ∃ e, x = .error e := by
  cases x <;> simp [Except.toOption]

end ToOption

/-- `{agent.spiffe_id: agent for agent in agents}`. -/
def agentsById (agents : List RegisteredAgent) : String → Option RegisteredAgent :=
  agents.foldl (fun table agent => Function.update table agent.spiffeId (some agent)) fun _ => none

structure FileAgentRegistry where
  pydantic : Pydantic
  /-- `yaml.safe_load` of the text of the file. -/
  safeLoad : String → Option PyValue

namespace FileAgentRegistry

variable (registry : FileAgentRegistry)

/-- `(yaml.safe_load(text) or {}).get("agents")`: only a mapping has a `get`. -/
def agentsEntry (text : String) : Except Exc (Option PyValue) := do
  let loaded ← orRaise yamlError (registry.safeLoad text)
  match if loaded.truthy then loaded else .dict [] with
  | .dict items => return PyValue.get? items "agents"
  | _ => .error attributeError

/-- What the clock reads while the entry of each index is validated. -/
abbrev LoadClock := ℕ → UtcTime × UtcTime

def validateEntries (clock : LoadClock) (entries : List PyValue) :
    Except Exc (List RegisteredAgent) :=
  orRaise validationError
    (entries.zipIdx.mapM fun entry => registry.pydantic.registeredAgent (clock entry.2) entry.1)

/-- The body of `_load` when the file is read. -/
def load (clock : LoadClock) (text : String) : Except Exc (String → Option RegisteredAgent) := do
  let agents ← registry.agentsEntry text
  let entries ← orRaise typeError ((agents.getD (.list [])).iter)
  let validated ← registry.validateEntries clock entries
  return agentsById validated

end FileAgentRegistry

/-- The versions of the file, each with the modification time that `stat` gives. -/
structure RegistryFile where
  content : ℕ → String
  mtime : ℕ → ℚ
  mtime_injective : Function.Injective mtime

namespace FileAgentRegistry

variable (registry : FileAgentRegistry) (file : RegistryFile)

def revalidated : Revalidated String ℚ LoadClock (String → Option RegisteredAgent) String
    (Option RegisteredAgent) where
  content := file.content
  stamp := file.mtime
  stamp_injective := file.mtime_injective
  parse := fun clock text => (registry.load clock text).toOption
  answer := fun agents spiffeId => agents spiffeId

/-- A lookup is answered from a version of the file no older than the one it began at, or raises
because such a version does not load; the file is read only when its modification time differs from
the one remembered at the last load. -/
theorem lookup_current {steps : List (ReaderState ℚ (String → Option RegisteredAgent) String
      (Option RegisteredAgent) × ReaderStep LoadClock String)}
    {s : ReaderState ℚ (String → Option RegisteredAgent) String (Option RegisteredAgent)}
    (hrun : (registry.revalidated file).system.Run steps s) :
    (∀ began spiffeId answer, s.phase = .returned began spiffeId answer →
      ∃ n clock agents, began ≤ n ∧ n ≤ s.latest ∧
        registry.load clock (file.content n) = .ok agents ∧ answer = agents spiffeId) ∧
    (∀ began spiffeId, s.phase = .raised began spiffeId →
      ∃ n clock e, began ≤ n ∧ n ≤ s.latest ∧
        registry.load clock (file.content n) = .error e) ∧
    ∀ clock s', (registry.revalidated file).system.step s (.read clock) s' →
      ∃ began spiffeId mtime, s.phase = .looked began spiffeId mtime ∧
        Revalidated.lastLoaded (registry.revalidated file) steps ≠ some mtime := by
  obtain ⟨hreturned, hraised⟩ := Revalidated.answers_current hrun.reachable
  refine ⟨?_, ?_, fun clock s' hstep => Revalidated.read_only_if_changed hrun hstep⟩
  · intro began spiffeId answer hphase
    obtain ⟨agents, ⟨n, clock, hbegan, hn, hload⟩, hanswer⟩ := hreturned began spiffeId answer hphase
    exact ⟨n, clock, agents, hbegan, hn, toOption_eq_some.mp hload, hanswer⟩
  · intro began spiffeId hphase
    obtain ⟨n, clock, hbegan, hn, hload⟩ := hraised began spiffeId hphase
    obtain ⟨e, he⟩ := toOption_eq_none.mp hload
    exact ⟨n, clock, e, hbegan, hn, he⟩

/-! ## A file that is broken and repaired -/

/-- The first version lists no agents, the second does not parse, the third is empty. -/
noncomputable def repairedRegistry : FileAgentRegistry where
  pydantic := exactPydantic
  safeLoad := fun text =>
    if text = "agents: []" then some (.dict [(.str "agents", .list [])])
    else if text = "" then some .null
    else none

def repairedFile : RegistryFile where
  content
    | 0 => "agents: []"
    | 1 => "agents: ["
    | _ => ""
  mtime := fun n => n
  mtime_injective := Nat.cast_injective

/-- A lookup between the second version and the third reads the second and raises; the one after it
reads the third. -/
theorem repaired_lookups : ∃ steps s,
    (repairedRegistry.revalidated repairedFile).system.Run steps s ∧
      s.phase = .returned 2 "spiffe://corp/agent" none ∧ s.latest = 2 := by
  let clock : LoadClock := fun _ => (utcEpoch, utcEpoch)
  have h0 : (repairedRegistry.revalidated repairedFile).system.Run [] _ := .start ⟨0, rfl⟩
  have h1 : (repairedRegistry.revalidated repairedFile).system.Run _ _ :=
    .step h0 (show Revalidated.next _ _ (.start "spiffe://corp/agent") = some _ from rfl)
  have h2 : (repairedRegistry.revalidated repairedFile).system.Run _ _ :=
    .step h1 (show Revalidated.next _ _ .look = some _ from rfl)
  have h3 : (repairedRegistry.revalidated repairedFile).system.Run _ _ :=
    .step h2 (show Revalidated.next _ _ .replace = some _ from rfl)
  have h4 : (repairedRegistry.revalidated repairedFile).system.Run _ _ :=
    .step h3 (show Revalidated.next _ _ (.read clock) = some _ from rfl)
  have h5 : (repairedRegistry.revalidated repairedFile).system.Run _ _ :=
    .step h4 (show Revalidated.next _ _ .replace = some _ from rfl)
  have h6 : (repairedRegistry.revalidated repairedFile).system.Run _ _ :=
    .step h5 (show Revalidated.next _ _ (.start "spiffe://corp/agent") = some _ from rfl)
  have h7 : (repairedRegistry.revalidated repairedFile).system.Run _ _ :=
    .step h6 (show Revalidated.next _ _ .look = some _ from rfl)
  have h8 : (repairedRegistry.revalidated repairedFile).system.Run _ _ :=
    .step h7 (show Revalidated.next _ _ (.read clock) = some _ from rfl)
  exact ⟨_, _, h8, rfl, rfl⟩

theorem repaired_lookup_current : ∃ steps s,
    (repairedRegistry.revalidated repairedFile).system.Run steps s ∧
      s.phase = .returned 2 "spiffe://corp/agent" none ∧
      ∃ n clock agents, 2 ≤ n ∧ n ≤ 2 ∧
        repairedRegistry.load clock (repairedFile.content n) = .ok agents ∧
        none = agents "spiffe://corp/agent" := by
  obtain ⟨steps, s, hrun, hphase, hlatest⟩ := repaired_lookups
  obtain ⟨n, clock, agents, hbegan, hn, hload, hanswer⟩ :=
    (lookup_current repairedRegistry repairedFile hrun).1 2 "spiffe://corp/agent" none hphase
  exact ⟨steps, s, hrun, hphase, n, clock, agents, hbegan, hlatest ▸ hn, hload, hanswer⟩

end FileAgentRegistry

end OpenAgentControl
