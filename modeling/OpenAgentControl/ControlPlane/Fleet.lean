import OpenAgentControl.Adapters.Ledger.Search
import OpenAgentControl.Foundations.Tally

/-! # Fleet activity

`fleet_activity` counts the receipts of a window by agent and by the reason of a denial. Two caps stand
between the table and the answer: the limit of the scan, which `truncated` reports, and the twenty
largest groups of each count, which nothing reports. -/

namespace OpenAgentControl
set_option autoImplicit false
set_option maxHeartbeats 250000

open Foundations

/-- The `dict`s are their items in insertion order. -/
structure FleetActivity where
  windowHours : ℤ
  totalCalls : ℕ
  callsByAgent : List (String × ℕ)
  denialsByAgent : List (String × ℕ)
  denialsByReason : List (String × ℕ)
  shadowedDenials : ℕ := 0
  truncated : Bool := false
deriving DecidableEq

/-- `now - timedelta(hours=hours)`. -/
def hoursBefore (now hours : ℤ) : ℤ := now - hours * 3600000000

/-- What `fleet_activity` makes of the receipts it gets. -/
def activityOf (hours : ℤ) (limit : ℕ) (receipts : List ExecutionReceipt) : FleetActivity :=
  let denials := receipts.filter fun r => decide (r.decision = .deny)
  { windowHours := hours
    totalCalls := receipts.length
    callsByAgent := mostCommon 20 (tally (receipts.map ExecutionReceipt.spiffeId))
    denialsByAgent := mostCommon 20 (tally (denials.map ExecutionReceipt.spiffeId))
    denialsByReason := mostCommon 20 (tally (denials.map ExecutionReceipt.reason))
    shadowedDenials := (denials.filter fun r => !r.enforced).length
    truncated := decide (limit ≤ receipts.length) }

def fleetActivity (now hours : ℤ) (limit : ℕ) (table : List ReceiptRow) :
    Except Exc FleetActivity := do
  let since := hoursBefore now hours
  if ¬ DateTime.Representable since then .error overflowError
  let receipts ← { since := some since, limit : ReceiptSearch }.search table
  return activityOf hours limit receipts

/-! ## The window -/

/-- The receipts of the window that begins at an instant. -/
def window (since : ℤ) (table : List ReceiptRow) : List ReceiptRow :=
  table.filter fun row => decide (since ≤ row.timestamp.asUtc.instant)

def denied (rows : List ReceiptRow) : List ReceiptRow :=
  rows.filter fun row => decide (row.decision = Decision.deny.value)

def agentsOf (rows : List ReceiptRow) : List String := rows.map ReceiptRow.spiffeId

def reasonsOf (rows : List ReceiptRow) : List String := rows.map ReceiptRow.reason

/-- Every count is the one of the rows, and no group of them is missing. -/
structure ExactActivity (rows : List ReceiptRow) (activity : FleetActivity) : Prop where
  totalCalls : activity.totalCalls = rows.length
  callsByAgent : ExactCounts activity.callsByAgent (agentsOf rows)
  denialsByAgent : ExactCounts activity.denialsByAgent (agentsOf (denied rows))
  denialsByReason : ExactCounts activity.denialsByReason (reasonsOf (denied rows))
  shadowedDenials : activity.shadowedDenials =
    ((denied rows).filter fun row => !row.enforced).length

/-- An answer that is not labelled as truncated is exact. -/
def ExactUnlessTruncated (now hours : ℤ) (limit : ℕ) (table : List ReceiptRow) : Prop :=
  ∀ activity, fleetActivity now hours limit table = .ok activity → activity.truncated = false →
    ExactActivity (window (hoursBefore now hours) table) activity

def Groups (xs : List String) : ℕ := xs.dedup.length

/-- No count of the rows has more than twenty groups. -/
def FewGroups (rows : List ReceiptRow) : Prop :=
  Groups (agentsOf rows) ≤ 20 ∧ Groups (reasonsOf (denied rows)) ≤ 20

/-! ## When the answer is exact -/

variable {now hours : ℤ} {limit : ℕ} {table rows : List ReceiptRow}
  {receipts : List ExecutionReceipt}

def Decodes (rows : List ReceiptRow) (receipts : List ExecutionReceipt) : Prop :=
  List.Forall₂ (fun row r => toDomain row = .ok r) rows receipts

theorem returns_toDomain_iff {row : ReceiptRow} :
    Returns (toDomain row) ↔ Decision.ofValue? row.decision ≠ none := by
  unfold toDomain
  cases Decision.ofValue? row.decision with
  | none => simp [Returns]
  | some decision => simp [Returns]

theorem decision_of_toDomain {row : ReceiptRow} {r : ExecutionReceipt} (h : toDomain row = .ok r) :
    decide (r.decision = .deny) = decide (row.decision = Decision.deny.value) := by
  obtain ⟨-, -, -, hdecision, -⟩ := toDomain_fields h
  rw [hdecision]
  cases r.decision <;> decide

theorem Decodes.agents (h : Decodes rows receipts) :
    receipts.map ExecutionReceipt.spiffeId = agentsOf rows := by
  have hmap := map_filter_of_forall₂ h (p := fun _ => true) (q := fun _ => true)
    (g := ReceiptRow.spiffeId) (k := ExecutionReceipt.spiffeId) (fun _ _ _ => rfl) ?_
  · simpa [agentsOf] using hmap
  · intro row r hr
    exact (toDomain_fields hr).2.2.1.symm

theorem Decodes.denied_map (h : Decodes rows receipts) {γ : Type} {g : ReceiptRow → γ}
    {k : ExecutionReceipt → γ} (hg : ∀ row r, toDomain row = .ok r → k r = g row) :
    (receipts.filter fun r => decide (r.decision = .deny)).map k = (denied rows).map g :=
  map_filter_of_forall₂ h (fun _ _ => decision_of_toDomain) hg

theorem Decodes.shadowed (h : Decodes rows receipts) :
    ((receipts.filter fun r => decide (r.decision = .deny)).filter fun r => !r.enforced).length =
      ((denied rows).filter fun row => !row.enforced).length := by
  have hflags := h.denied_map (g := ReceiptRow.enforced) (k := ExecutionReceipt.enforced)
    fun row r hr => (toDomain_fields hr).2.2.2.2.2.2.2.symm
  have hcount := congrArg (List.countP fun b => !b) hflags
  rw [List.countP_map, List.countP_map] at hcount
  rw [← List.countP_eq_length_filter, ← List.countP_eq_length_filter]
  exact hcount

/-- When every row of the window was read, the answer is exact exactly if its groups are few. -/
theorem exact_activityOf_iff {since : ℤ} (hrows : rows.Perm (window since table))
    (h : Decodes rows receipts) :
    ExactActivity (window since table) (activityOf hours limit receipts) ↔
      FewGroups (window since table) := by
  have hdenied : (denied rows).Perm (denied (window since table)) := hrows.filter _
  have hagents := exact_mostCommon_perm_iff (n := 20) (hrows.map ReceiptRow.spiffeId)
  have hdeniedAgents := exact_mostCommon_perm_iff (n := 20) (hdenied.map ReceiptRow.spiffeId)
  have hreasons := exact_mostCommon_perm_iff (n := 20) (hdenied.map ReceiptRow.reason)
  have hdeniedAgents' := h.denied_map (g := ReceiptRow.spiffeId) (k := ExecutionReceipt.spiffeId)
    fun row r hr => (toDomain_fields hr).2.2.1.symm
  have hreasons' := h.denied_map (g := ReceiptRow.reason) (k := ExecutionReceipt.reason)
    fun row r hr => (toDomain_fields hr).2.2.2.2.1.symm
  constructor
  · intro hexact
    have hcalls := hexact.callsByAgent
    have hdenials := hexact.denialsByReason
    simp only [activityOf, h.agents] at hcalls
    simp only [activityOf, hreasons'] at hdenials
    exact ⟨hagents.mp hcalls, hreasons.mp hdenials⟩
  · rintro ⟨hfew, hfewReasons⟩
    have hfewDenied : Groups (agentsOf (denied (window since table))) ≤ 20 := by
      refine le_trans (length_dedup_le ?_) hfew
      exact List.map_subset _ (List.filter_sublist.subset)
    constructor
    · exact h.length_eq.symm.trans hrows.length_eq
    · simp only [activityOf, h.agents]
      exact hagents.mpr hfew
    · simp only [activityOf, hdeniedAgents']
      exact hdeniedAgents.mpr hfewDenied
    · simp only [activityOf, hreasons']
      exact hreasons.mpr hfewReasons
    · simp only [activityOf, h.shadowed]
      exact (hdenied.filter _).length_eq

def windowSearch (since : ℤ) (limit : ℕ) : ReceiptSearch := { since := some since, limit }

theorem filter_windowSearch (since : ℤ) (limit : ℕ) (table : List ReceiptRow) :
    table.filter (windowSearch since limit).admits = window since table := by
  have hadmits : (windowSearch since limit).admits =
      fun row => decide (since ≤ row.timestamp.asUtc.instant) := by
    funext row
    simp [ReceiptSearch.admits, windowSearch]
  rw [hadmits, window]

theorem fleetActivity_eq_ok_iff {activity : FleetActivity} :
    fleetActivity now hours limit table = .ok activity ↔
      DateTime.Representable (hoursBefore now hours) ∧
        ∃ receipts, (windowSearch (hoursBefore now hours) limit).search table = .ok receipts ∧
          activity = activityOf hours limit receipts := by
  unfold fleetActivity
  by_cases hsince : DateTime.Representable (hoursBefore now hours)
  · simp only [hsince, not_true_eq_false, if_false, true_and]
    constructor
    · intro h
      obtain ⟨receipts, hsearch, h⟩ := bind_except_ok h
      exact ⟨receipts, hsearch, (Except.ok.inj h).symm⟩
    · rintro ⟨receipts, hsearch, rfl⟩
      change ((windowSearch (hoursBefore now hours) limit).search table >>= _) = _
      rw [hsearch]
      rfl
  · simp only [hsince, not_false_eq_true, if_true, false_and, iff_false]
    intro h
    cases h

/-- Below the limit the search reads every row of the window. -/
theorem search_of_untruncated {since : ℤ} (h : (windowSearch since limit).search table = .ok receipts)
    (hshort : receipts.length < limit) : (window since table).length < limit ∧
      ∃ rows, rows.Perm (window since table) ∧ Decodes rows receipts := by
  have hlength := ReceiptSearch.length_search rfl h
  rw [filter_windowSearch] at hlength
  have hwindow : (window since table).length < limit := by
    have hlimit : (windowSearch since limit).limit = limit := rfl
    omega
  refine ⟨hwindow, (windowSearch since limit).admitted table, ?_, ?_⟩
  · rw [← filter_windowSearch since limit table]
    exact ReceiptSearch.admitted_perm _ table
  · rw [ReceiptSearch.search_of_short rfl] at h
    · exact mapM_eq_ok_iff.mp h
    · rw [filter_windowSearch]
      exact hwindow.le

/-- A group is missing from an answer that does not say so. -/
theorem not_exact_of_manyGroups (hsince : DateTime.Representable (hoursBefore now hours))
    (hlimit : (window (hoursBefore now hours) table).length < limit)
    (hdecode : ∀ row ∈ window (hoursBefore now hours) table,
      Decision.ofValue? row.decision ≠ none)
    (hmany : ¬ FewGroups (window (hoursBefore now hours) table)) :
    ¬ ExactUnlessTruncated now hours limit table := by
  intro hexact
  have hshort : (table.filter (windowSearch (hoursBefore now hours) limit).admits).length ≤
      (windowSearch (hoursBefore now hours) limit).limit := by
    rw [filter_windowSearch]
    exact hlimit.le
  have hperm := (windowSearch (hoursBefore now hours) limit).admitted_perm table
  rw [filter_windowSearch] at hperm
  obtain ⟨receipts, hreceipts⟩ := returns_mapM_iff.mpr fun row hrow =>
    returns_toDomain_iff.mpr (hdecode row (hperm.mem_iff.mp hrow))
  have hdecodes := mapM_eq_ok_iff.mp hreceipts
  have hlength : receipts.length < limit := by
    rw [← hdecodes.length_eq, hperm.length_eq]
    exact hlimit
  rw [← ReceiptSearch.search_of_short rfl hshort] at hreceipts
  have hanswer := fleetActivity_eq_ok_iff.mpr ⟨hsince, receipts, hreceipts, rfl⟩
  have huntruncated : (activityOf hours limit receipts).truncated = false :=
    decide_eq_false (not_le.mpr hlength)
  exact hmany ((exact_activityOf_iff hperm hdecodes).mp (hexact _ hanswer huntruncated))

/-- An answer that does not say it is truncated is exact, for a table, a window and a limit, exactly
when there is no such answer or no group is cut off. -/
theorem exactUnlessTruncated_iff :
    ExactUnlessTruncated now hours limit table ↔
      ¬ DateTime.Representable (hoursBefore now hours) ∨
      limit ≤ (window (hoursBefore now hours) table).length ∨
      (∃ row ∈ window (hoursBefore now hours) table, Decision.ofValue? row.decision = none) ∨
      FewGroups (window (hoursBefore now hours) table) := by
  constructor
  · intro hexact
    by_contra hnone
    simp only [not_or, not_not, not_le, not_exists, not_and] at hnone
    obtain ⟨hsince, hlimit, hdecode, hmany⟩ := hnone
    exact not_exact_of_manyGroups hsince hlimit hdecode hmany hexact
  · intro h activity hanswer huntruncated
    obtain ⟨hsince, receipts, hsearch, rfl⟩ := fleetActivity_eq_ok_iff.mp hanswer
    have hshort : receipts.length < limit := not_le.mp (of_decide_eq_false huntruncated)
    obtain ⟨hlimit, rows, hperm, hdecodes⟩ := search_of_untruncated hsearch hshort
    obtain habs | habs | ⟨row, hrow, habs⟩ | hfew := h
    · exact absurd hsince habs
    · omega
    · have hall := returns_mapM_iff.mp ⟨receipts, mapM_eq_ok_iff.mpr hdecodes⟩
      exact absurd habs (returns_toDomain_iff.mp (hall row (hperm.mem_iff.mpr hrow)))
    · exact (exact_activityOf_iff hperm hdecodes).mpr hfew

/-! ## A fleet of twenty-one agents -/

def agentNumber (i : ℕ) : String := "spiffe://corp/agent" ++ String.ofList (List.replicate i 'i')

theorem agentNumber_injective : Function.Injective agentNumber := by
  intro i j h
  have hchars := String.ofList_injective ((String.append_right_inj _).mp h)
  simpa using congrArg List.length hchars

/-- One allowed call of an agent. -/
def callOf (i : ℕ) : ReceiptRow where
  id := i
  sequenceId := "receipt"
  timestamp := epoch
  spiffeId := agentNumber i
  decision := "ALLOW"
  reason := "granted"
  payloadHash := ""
  previousHash := ""
  signature := ""
  enforced := true

def oneCallEach (agents : ℕ) : List ReceiptRow := (List.range agents).map callOf

theorem window_oneCallEach (agents : ℕ) :
    window (hoursBefore epoch.instant 24) (oneCallEach agents) = oneCallEach agents := by
  refine List.filter_eq_self.mpr fun row hrow => ?_
  obtain ⟨i, -, rfl⟩ := List.mem_map.mp hrow
  have hepoch : hoursBefore epoch.instant 24 ≤ epoch.asUtc.instant := by decide
  exact decide_eq_true hepoch

theorem groups_oneCallEach (agents : ℕ) : Groups (agentsOf (oneCallEach agents)) = agents := by
  have hagents : agentsOf (oneCallEach agents) = (List.range agents).map agentNumber := by
    simp [agentsOf, oneCallEach, callOf, Function.comp_def]
  have hnodup : ((List.range agents).map agentNumber).Nodup :=
    List.nodup_range.map agentNumber_injective
  rw [Groups, hagents, hnodup.dedup, List.length_map, List.length_range]

/-- Twenty-one agents made one call each in the last day: the answer says that nothing was cut off, and
one of them is missing. -/
theorem oneAgent_missing : ¬ ExactUnlessTruncated epoch.instant 24 2000 (oneCallEach 21) := by
  refine not_exact_of_manyGroups (by decide) ?_ ?_ ?_
  · rw [window_oneCallEach]
    simp [oneCallEach]
  · intro row hrow
    rw [window_oneCallEach] at hrow
    obtain ⟨i, -, rfl⟩ := List.mem_map.mp hrow
    change Decision.ofValue? "ALLOW" ≠ none
    decide
  · rw [window_oneCallEach]
    rintro ⟨hfew, -⟩
    rw [groups_oneCallEach] at hfew
    omega

end OpenAgentControl
