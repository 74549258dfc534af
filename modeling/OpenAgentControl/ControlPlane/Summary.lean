import OpenAgentControl.ControlPlane.Fleet
import OpenAgentControl.Adapters.Ledger.Pages
import OpenAgentControl.Adapters.Registry.Directory
import Mathlib.Data.Set.Card

/-! # The fleet summary

`PostgresAgentRegistry.list_agents`, and `fleet_summary` over it and the receipts. The summary reads the
tables in three sessions, so the replicas may record between its two searches. The agents are counted
exactly; the receipts of the last day are, as long as there are no more than a thousand. -/

namespace OpenAgentControl
set_option autoImplicit false
set_option maxHeartbeats 250000

open Foundations

/-! ## Listing the agents -/

theorem AgentStatus.value_of_ofValue {s : String} {status : AgentStatus}
    (h : AgentStatus.ofValue? s = some status) : s = status.value := by
  unfold ofValue? at h
  split_ifs at h with hactive hsuspended
  · cases h
    exact hactive
  · cases h
    exact hsuspended

namespace RegistryTables

/-- The rows, in the order the database returns them. -/
def rows (tables : RegistryTables) (ids : List String) : List (String × AgentRow) :=
  ids.filterMap fun spiffeId => (tables.agents spiffeId).map fun row => (spiffeId, row)

/-- The database returns every row, and none twice. -/
structure Selects (tables : RegistryTables) (ids : List String) : Prop where
  nodup : ids.Nodup
  every : ∀ spiffeId, spiffeId ∈ ids ↔ tables.agents spiffeId ≠ none

end RegistryTables

namespace PostgresAgentRegistry

variable (registry : PostgresAgentRegistry)

/-- The `where` clause of `list_agents`. -/
def selected (status : Option AgentStatus) (row : AgentRow) : Bool :=
  status.all fun status => decide ((row .status : String) = status.value)

def listAgents (tables : RegistryTables) (ids : List String) (status : Option AgentStatus) :
    Except Exc (List RegisteredAgent) :=
  ((tables.rows ids).filter fun p => selected status p.2).mapM fun p => registry.toDomain p.1 p.2

variable {registry} {tables : RegistryTables} {records : AgentRecords} {spiffeId : String}

theorem Holds.row (h : registry.Holds tables records) {row : AgentRow}
    (hrow : tables.agents spiffeId = some row) :
    ∃ agent, records spiffeId = some agent ∧ registry.toDomain spiffeId row = .ok agent ∧
      row .status = agent.status.value := by
  obtain ⟨agent, hagent, hreads⟩ := reads_of_lookup hrow (h spiffeId)
  exact ⟨agent, hagent, toDomain_eq_ok.mpr hreads, AgentStatus.value_of_ofValue hreads.status⟩

theorem Holds.none_iff (h : registry.Holds tables records) :
    records spiffeId = none ↔ tables.agents spiffeId = none := by
  cases hrow : tables.agents spiffeId with
  | none =>
    have hlookup := h spiffeId
    simp only [lookup, hrow] at hlookup
    exact iff_of_true (Except.ok.inj hlookup).symm rfl
  | some row =>
    obtain ⟨agent, hagent, -⟩ := h.row hrow
    rw [hagent]
    exact iff_of_false (Option.some_ne_none _) (Option.some_ne_none _)

/-- A listing is the records of the agents that have the status. -/
theorem Holds.listAgents (h : registry.Holds tables records) (ids : List String)
    (status : Option AgentStatus) :
    registry.listAgents tables ids status =
      .ok ((ids.filterMap records).filter fun agent =>
        status.all fun status => decide (agent.status = status)) := by
  induction ids with
  | nil => rfl
  | cons spiffeId ids ih =>
    unfold PostgresAgentRegistry.listAgents RegistryTables.rows at ih ⊢
    cases hrow : tables.agents spiffeId with
    | none =>
      rw [List.filterMap_cons_none (by rw [hrow]; rfl), List.filterMap_cons_none (h.none_iff.mpr hrow)]
      exact ih
    | some row =>
      obtain ⟨agent, hagent, hdomain, hstatus⟩ := h.row hrow
      have hselected : selected status row = status.all fun status => decide (agent.status = status) := by
        cases status with
        | none => rfl
        | some status =>
          exact decide_eq_decide.mpr (hstatus ▸ AgentStatus.value_injective.eq_iff)
      rw [List.filterMap_cons_some (by rw [hrow]; rfl), List.filterMap_cons_some hagent,
        List.filter_cons, List.filter_cons, hselected]
      split_ifs
      · rw [List.mapM_cons, ih, hdomain]
        rfl
      · exact ih

end PostgresAgentRegistry

/-! ## The summary -/

/-- The `dict`s are their items in insertion order. -/
structure FleetSummary where
  agentsByStatus : List (String × ℕ)
  receiptsLast24hByDecision : List (String × ℕ)
  lastReceiptTimestamp : Option DateTime := none
deriving DecidableEq

/-- What the queries find: the order of the agents' rows, and the receipts at the first search and at the
second, or the error of the query. -/
structure FleetQueries where
  agents : Except Exc (List String)
  recent : Except Exc (List ReceiptRow)
  latest : Except Exc (List ReceiptRow)

def fleetSummary (registry : PostgresAgentRegistry) (tables : RegistryTables) (queries : FleetQueries)
    (now : ℤ) : Except Exc FleetSummary := do
  let ids ← queries.agents
  let agents ← registry.listAgents tables ids none
  let since := hoursBefore now 24
  if ¬ DateTime.Representable since then .error overflowError
  let recentRows ← queries.recent
  let recentReceipts ← (windowSearch since 1000).search recentRows
  let latestRows ← queries.latest
  let latest ← { limit := 1 : ReceiptSearch }.search latestRows
  return {
    agentsByStatus := tally (agents.map fun agent => agent.status.value)
    receiptsLast24hByDecision := tally (recentReceipts.map fun receipt => receipt.decision.value)
    lastReceiptTimestamp := latest.head?.map ExecutionReceipt.timestamp }

/-! ## What the summary says -/

section Counts

variable {registry : PostgresAgentRegistry} {tables : RegistryTables} {records : AgentRecords}

/-- The agents with a status, counted from their records in whatever order. -/
theorem count_status {ids : List String} (h : ids.Nodup)
    (hevery : ∀ spiffeId, spiffeId ∈ ids ↔ records spiffeId ≠ none) (status : AgentStatus) :
    ((ids.filterMap records).map fun agent => agent.status.value).count status.value =
      Set.ncard {spiffeId | ∃ agent, records spiffeId = some agent ∧ agent.status = status} := by
  let having : String → Bool := fun spiffeId =>
    ((records spiffeId).map fun agent => agent.status.value == status.value).getD false
  have hhaving : {spiffeId | ∃ agent, records spiffeId = some agent ∧ agent.status = status} =
      ((ids.filter having).toFinset : Set String) := by
    ext spiffeId
    rw [Set.mem_ofPred_eq, List.coe_toFinset, Set.mem_ofPred_eq, List.mem_filter, hevery]
    cases hrecord : records spiffeId with
    | none => simp
    | some agent => simp [having, hrecord, AgentStatus.value_injective.eq_iff]
  rw [hhaving, Set.ncard_coe_finset, List.toFinset_card_of_nodup (h.filter _), List.count_eq_countP,
    List.countP_map, List.countP_filterMap, List.countP_eq_length_filter]
  rfl

end Counts

variable {Tx : Type} [DecidableEq Tx] {cfg : LedgerConfig Tx} {s s' : LedgerState Tx}

theorem fleetSummary_eq {registry : PostgresAgentRegistry} {tables : RegistryTables}
    {records : AgentRecords} (hholds : registry.Holds tables records) (ids : List String) {now : ℤ}
    (hsince : DateTime.Representable (hoursBefore now 24)) (hs : cfg.system.Reachable s)
    (hs' : cfg.system.Reachable s') :
    fleetSummary registry tables ⟨.ok ids, .ok s.receipts, .ok s'.receipts⟩ now = .ok {
      agentsByStatus := tally ((ids.filterMap records).map fun agent => agent.status.value)
      receiptsLast24hByDecision :=
        tally (((LedgerConfig.wanted (windowSearch (hoursBefore now 24) 1000) s).take 1000).map
          fun receipt => receipt.decision.value)
      lastReceiptTimestamp :=
        ((LedgerConfig.wanted { limit := 1 } s').take 1).head?.map ExecutionReceipt.timestamp } := by
  obtain ⟨log, hhistory, -⟩ := LedgerConfig.history_of_reachable hs
  obtain ⟨log', hhistory', -⟩ := LedgerConfig.history_of_reachable hs'
  have hlisted : registry.listAgents tables ids none = .ok (ids.filterMap records) := by
    rw [hholds.listAgents]
    exact congrArg Except.ok (List.filter_eq_self.mpr fun agent _ => rfl)
  have hrecent := hhistory.search_eq (q := windowSearch (hoursBefore now 24) 1000)
  have hlatest := hhistory'.search_eq (q := { limit := 1 })
  simp only [fleetSummary, hlisted, hsince, hrecent, hlatest, not_true_eq_false, if_false, bind,
    Except.bind]
  rfl

/-- The committed receipts of the last 24 hours. -/
def lastDay (now : ℤ) (s : LedgerState Tx) : List ExecutionReceipt :=
  ((LedgerConfig.history s).map SignedReceipt.toReceipt).filter fun r =>
    decide (hoursBefore now 24 ≤ r.timestamp.instant)

omit [DecidableEq Tx] in
theorem lastDay_perm (now : ℤ) (s : LedgerState Tx) :
    (LedgerConfig.wanted (windowSearch (hoursBefore now 24) 1000) s).Perm (lastDay now s) := by
  have hwants : (windowSearch (hoursBefore now 24) 1000).wants =
      fun r => decide (hoursBefore now 24 ≤ r.timestamp.instant) := by
    funext r
    simp [ReceiptSearch.wants, windowSearch]
  rw [LedgerConfig.wanted, hwants]
  exact List.reverse_perm _

omit [DecidableEq Tx] in
theorem head_wanted (s : LedgerState Tx) :
    ((LedgerConfig.wanted { limit := 1 } s).take 1).head? =
      (LedgerConfig.history s).getLast?.map SignedReceipt.toReceipt := by
  have hwants : ({ limit := 1 } : ReceiptSearch).wants = fun _ => true := rfl
  rw [List.head?_take, if_neg one_ne_zero, LedgerConfig.wanted, hwants, List.filter_true,
    List.head?_reverse, List.getLast?_map]

/-- The summary counts every agent once under its status. Its receipts are those of the last day unless
there are more than a thousand, and then it counts a thousand of them; and where it counts any it also
says when the last receipt was recorded. -/
theorem fleetSummary_exact {registry : PostgresAgentRegistry} {tables : RegistryTables}
    {records : AgentRecords} (hholds : registry.Holds tables records) {ids : List String}
    (hselects : tables.Selects ids) {now : ℤ} (hsince : DateTime.Representable (hoursBefore now 24))
    (hs : cfg.system.Reachable s) (hleads : cfg.system.Leads s s') :
    ∃ summary, fleetSummary registry tables ⟨.ok ids, .ok s.receipts, .ok s'.receipts⟩ now =
        .ok summary ∧
      (∀ status : AgentStatus, (summary.agentsByStatus.lookup status.value).getD 0 =
        Set.ncard {spiffeId | ∃ agent, records spiffeId = some agent ∧ agent.status = status}) ∧
      (ExactCounts summary.receiptsLast24hByDecision
          ((lastDay now s).map fun receipt => receipt.decision.value) ↔
        (lastDay now s).length ≤ 1000) ∧
      (summary.receiptsLast24hByDecision.map Prod.snd).sum = min 1000 (lastDay now s).length ∧
      summary.lastReceiptTimestamp =
        (LedgerConfig.history s').getLast?.map (fun b => b.receipt.timestamp) ∧
      (summary.receiptsLast24hByDecision ≠ [] → summary.lastReceiptTimestamp ≠ none) := by
  have hperm := lastDay_perm now s
  refine ⟨_, fleetSummary_eq hholds ids hsince hs (hleads.reachable hs), ?_, ?_, ?_, ?_, ?_⟩
  · intro status
    rw [(exact_tally _).getD_lookup]
    refine count_status hselects.nodup (fun spiffeId => ?_) status
    rw [hselects.every, ne_eq, ne_eq, hholds.none_iff]
  · rw [List.map_take, exact_tally_take_iff (hperm.map _), List.length_map]
  · rw [(exact_tally _).total, List.length_map, List.length_take, hperm.length_eq]
  · rw [head_wanted, Option.map_map]
    rfl
  · intro hcounted hnone
    rw [head_wanted, Option.map_eq_none_iff, Option.map_eq_none_iff, List.getLast?_eq_none_iff] at hnone
    have hbegins : LedgerConfig.history s <+: LedgerConfig.history s' :=
      (LedgerConfig.receipts_begin hleads).filterMap readRow
    rw [hnone, List.prefix_nil] at hbegins
    refine hcounted ?_
    rw [LedgerConfig.wanted, hbegins]
    rfl

/-! ## Two agents and two receipts -/

section TwoAgents

open PostgresAgentRegistry

def otherRecord : RegisteredAgent := { fixedRecord with spiffeId := "spiffe://corp/other-agent" }

noncomputable def firstRegistered : RegistryTables := (exactRegistry.answer register emptyDirectory).2

noncomputable def bothRegistered : RegistryTables :=
  (exactRegistry.answer { register with request := .create otherRecord } firstRegistered).2

/-- Two agents are registered, and the first one is suspended. -/
noncomputable def oneSuspended : RegistryTables :=
  (exactRegistry.answer (suspendAt firstDay) bothRegistered).2

theorem oneSuspended_holds : ∃ records, exactRegistry.Holds oneSuspended records := by
  have hempty : exactRegistry.Holds emptyDirectory fun _ => none := fun _ => rfl
  have hfirst : (exactRegistry.answer register emptyDirectory).1 = .ok fixedRecord := rfl
  have hsecond : (exactRegistry.answer { register with request := .create otherRecord }
      firstRegistered).1 = .ok otherRecord := rfl
  have hsuspended : (exactRegistry.answer (suspendAt firstDay) bothRegistered).1 =
      .ok (suspendedOn firstDay) := rfl
  exact ⟨_, (((hempty.answered hfirst).1.answered hsecond).1.answered hsuspended).1⟩

theorem oneSuspended_selects :
    oneSuspended.Selects ["spiffe://corp/other-agent", "spiffe://corp/agent"] where
  nodup := by decide
  every := by
    intro spiffeId
    rw [List.mem_pair]
    by_cases hagent : spiffeId = "spiffe://corp/agent"
    · subst hagent
      exact iff_of_true (Or.inr rfl) nofun
    · by_cases hother : spiffeId = "spiffe://corp/other-agent"
      · subst hother
        exact iff_of_true (Or.inl rfl) nofun
      · refine iff_of_false (by simp [hagent, hother]) (not_not.mpr ?_)
        exact (Function.update_of_ne hagent _ _).trans ((Function.update_of_ne hother _ _).trans
          (Function.update_of_ne hagent _ _))

/-- The second receipt is recorded between the two searches. -/
theorem oneSuspended_summary : ∃ summary,
    fleetSummary exactRegistry oneSuspended
        ⟨.ok ["spiffe://corp/other-agent", "spiffe://corp/agent"],
          .ok (LedgerConfig.afterFirst LedgerConfig.echoKey).receipts,
          .ok (LedgerConfig.afterSecond LedgerConfig.echoKey).receipts⟩ epoch.instant = .ok summary ∧
      (summary.receiptsLast24hByDecision.map Prod.snd).sum =
        min 1000 (lastDay epoch.instant (LedgerConfig.afterFirst LedgerConfig.echoKey)).length ∧
      summary.lastReceiptTimestamp =
        (LedgerConfig.history (LedgerConfig.afterSecond LedgerConfig.echoKey)).getLast?.map
          fun b => b.receipt.timestamp := by
  obtain ⟨records, hholds⟩ := oneSuspended_holds
  obtain ⟨summary, hsummary, -, -, htotal, hlast, -⟩ := fleetSummary_exact hholds
    oneSuspended_selects (show DateTime.Representable (hoursBefore epoch.instant 24) by decide)
    (LedgerConfig.afterFirst_reachable LedgerConfig.echoKey)
    (LedgerConfig.second_leads LedgerConfig.echoKey)
  exact ⟨summary, hsummary, htotal, hlast⟩

end TwoAgents

end OpenAgentControl
