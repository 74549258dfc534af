import OpenAgentControl.Adapters.Ledger.Search
import OpenAgentControl.Adapters.Ledger.Lookup
import OpenAgentControl.Foundations.OffsetPages
import Mathlib.Data.List.Chain

/-! # Reading the ledger page by page

`PostgresReceiptQuery.search` with an offset that goes on by the limit, while the replicas record. The
rows come newest first and the table only grows at its end, so what is recorded between two pages pushes
the rest back: a reader may be shown a receipt twice but misses none (`paged_search`). -/

namespace OpenAgentControl
set_option autoImplicit false
set_option maxHeartbeats 250000

open Foundations

namespace ReceiptSearch

variable (q : ReceiptSearch)

/-- The `where` clauses, of a receipt. -/
def wants (r : ExecutionReceipt) : Bool :=
  q.spiffeId.all (fun spiffeId => decide (r.spiffeId = spiffeId)) &&
  q.decision.all (fun decision => decide (r.decision = decision)) &&
  q.enforced.all (fun enforced => decide (r.enforced = enforced)) &&
  q.since.all (fun time => decide (time ≤ r.timestamp.instant)) &&
  q.until.all (fun time => decide (r.timestamp.instant ≤ time))

def atPage (n : ℕ) : ReceiptSearch := { q with offset := n * q.limit }

/-- The searches for the pages from `n` on, each of the table as it is by then. -/
def searchPages : ℕ → List (List ReceiptRow) → List (Except Exc (List ExecutionReceipt))
  | _, [] => []
  | n, table :: tables => (q.atPage n).search table :: searchPages (n + 1) tables

variable {q} {table : List ReceiptRow}

theorem admits_of_toDomain {row : ReceiptRow} {r : ExecutionReceipt} (h : toDomain row = .ok r) :
    q.admits row = q.wants r := by
  obtain ⟨-, htimestamp, hspiffeId, hdecision, -, -, -, henforced⟩ := toDomain_fields h
  have hvalue : ∀ decision : Decision,
      decide (row.decision = decision.value) = decide (r.decision = decision) := by
    intro decision
    rw [hdecision]
    cases r.decision <;> cases decision <;> decide
  simp only [admits, wants, htimestamp, hspiffeId, hvalue, henforced]

theorem admitted_of_increasing (h : table.Pairwise fun a b => a.id < b.id) :
    q.admitted table = (table.filter q.admits).reverse := by
  have hnewest : (table.filter q.admits).reverse.Pairwise fun a b => b.id ≤ a.id :=
    List.pairwise_reverse.mpr ((h.filter q.admits).imp Nat.le_of_lt)
  have hids : (table.map ReceiptRow.id).Nodup := by
    rw [List.nodup_iff_pairwise_ne, List.pairwise_map]
    exact h.imp Nat.ne_of_lt
  refine List.Perm.eq_of_pairwise ?_ (List.pairwise_insertionSort _ _) hnewest
    ((q.admitted_perm table).trans (List.reverse_perm _).symm)
  intro a b ha hb hab hba
  have ha' := List.mem_of_mem_filter ((q.admitted_perm table).mem_iff.mp ha)
  have hb' := List.mem_of_mem_filter (List.mem_reverse.mp hb)
  exact List.inj_on_of_nodup_map hids ha' hb' (Nat.le_antisymm hba hab)

end ReceiptSearch

namespace LedgerConfig

variable {Tx : Type} {cfg : LedgerConfig Tx} {s s' : LedgerState Tx} {log : List (LogEntry Tx)}
variable {q : ReceiptSearch}

/-- The receipts of a search without a limit, newest first. -/
def wanted (q : ReceiptSearch) (s : LedgerState Tx) : List ExecutionReceipt :=
  (((history s).map SignedReceipt.toReceipt).filter q.wants).reverse

theorem History.wanted_eq (h : History cfg s log) :
    wanted q s = ((log.map fun e => e.entry.toReceipt).filter q.wants).reverse := by
  rw [wanted, h.history_eq, List.map_map]
  rfl

/-- A search of the recorded rows fails at none of them. -/
theorem History.search_eq (h : History cfg s log) :
    q.search s.receipts = .ok (((wanted q s).drop q.offset).take q.limit) := by
  have hreads : ∀ e ∈ log, toDomain (e.entry.row cfg.backend e.id) = .ok e.entry.toReceipt :=
    fun e he => toDomain_row (h.utc e he) cfg.backend e.id
  have hkept : log.filter (q.admits ∘ fun e => e.entry.row cfg.backend e.id) =
      log.filter (q.wants ∘ fun e => e.entry.toReceipt) :=
    List.filter_congr fun e he => ReceiptSearch.admits_of_toDomain (hreads e he)
  have hincreasing : s.receipts.Pairwise fun a b => a.id < b.id := by
    rw [h.receipts, List.pairwise_map]
    exact h.increasing
  rw [ReceiptSearch.search, ReceiptSearch.admitted_of_increasing hincreasing, h.wanted_eq, h.receipts,
    List.filter_map, List.filter_map, hkept, ← List.map_reverse, ← List.map_reverse, ← List.map_drop,
    ← List.map_drop, ← List.map_take, ← List.map_take, mapM_eq_ok_iff, List.forall₂_map_left_iff,
    List.forall₂_map_right_iff, List.forall₂_same]
  intro e he
  have hmem := List.mem_reverse.mp (List.mem_of_mem_drop (List.mem_of_mem_take he))
  exact hreads e (List.mem_of_mem_filter hmem)

theorem History.mem_wanted_iff (h : History cfg s log) {r : ExecutionReceipt} :
    r ∈ wanted q s ↔ q.wants r = true ∧ ∃ t b, s.phase t = .committed b ∧ r = b.toReceipt := by
  rw [h.wanted_eq, List.mem_reverse, List.mem_filter, List.mem_map, and_comm]
  refine and_congr_right fun _ => ?_
  constructor
  · rintro ⟨⟨t, b, id⟩, hmem, rfl⟩
    exact ⟨t, b, (h.committed t b).mpr ⟨id, hmem⟩, rfl⟩
  · rintro ⟨t, b, hphase, rfl⟩
    obtain ⟨id, hmem⟩ := (h.committed t b).mp hphase
    exact ⟨_, hmem, rfl⟩

variable [DecidableEq Tx]

/-! ## A table that grows -/

theorem receipts_begin (h : cfg.system.Leads s s') : s.receipts <+: s'.receipts := by
  have hstep : ∀ before l after, cfg.system.step before l after →
      s.receipts <+: before.receipts → s.receipts <+: after.receipts := by
    intro before l after hstep hbegins
    obtain ⟨t, -, -, -, rfl⟩ | ⟨t, sequenceId, timestamp, id, previousHash, -, -, -, rfl⟩ |
      ⟨t, entry, id, -, -, rfl⟩ | ⟨t, lock, -, -, -, rfl⟩ := next_cases hstep
    · exact hbegins
    · exact hbegins
    · exact hbegins.trans (List.prefix_append _ _)
    · exact hbegins
  exact h.keeps hstep List.prefix_rfl

theorem wanted_pushed (h : cfg.system.Leads s s') : wanted q s <:+ wanted q s' :=
  List.reverse_suffix.mpr ((((receipts_begin h).filterMap _).map _).filter _)

theorem wanted_pushes {states : List (LedgerState Tx)} (h : states.IsChain cfg.system.Leads) :
    Pushes (states.map (wanted q)) := by
  rw [Pushes, List.isChain_map]
  exact h.imp fun _ _ => wanted_pushed

theorem reachable_of_chain {states : List (LedgerState Tx)} (hs : cfg.system.Reachable s)
    (h : (s :: states).IsChain cfg.system.Leads) : ∀ s' ∈ s :: states, cfg.system.Reachable s' := by
  induction states generalizing s with
  | nil => exact List.forall_mem_singleton.mpr hs
  | cons s' states ih =>
    obtain ⟨hleads, hrest⟩ := List.isChain_cons_cons.mp h
    exact List.forall_mem_cons.mpr ⟨hs, ih (hleads.reachable hs) hrest⟩

theorem searchPages_eq {n : ℕ} {states : List (LedgerState Tx)}
    (h : ∀ s ∈ states, cfg.system.Reachable s) :
    q.searchPages n (states.map LedgerState.receipts) =
      (pages q.limit n (states.map (wanted q))).map .ok := by
  induction states generalizing n with
  | nil => rfl
  | cons s states ih =>
    obtain ⟨hs, hrest⟩ := List.forall_mem_cons.mp h
    obtain ⟨log, hhistory, -⟩ := history_of_reachable hs
    rw [List.map_cons, List.map_cons, ReceiptSearch.searchPages, pages, List.map_cons, ih hrest,
      hhistory.search_eq]
    rfl

theorem pages_wanted {n : ℕ} {states : List (LedgerState Tx)}
    (h : ∀ s ∈ states, cfg.system.Reachable s) :
    List.Forall₂ (fun s shown => ∀ r ∈ shown,
        q.wants r = true ∧ ∃ t b, s.phase t = .committed b ∧ r = b.toReceipt)
      states (pages q.limit n (states.map (wanted q))) := by
  induction states generalizing n with
  | nil => exact .nil
  | cons s states ih =>
    obtain ⟨hs, hrest⟩ := List.forall_mem_cons.mp h
    obtain ⟨log, hhistory, -⟩ := history_of_reachable hs
    refine .cons (fun r hr => hhistory.mem_wanted_iff.mp ?_) (ih hrest)
    exact List.mem_of_mem_drop (List.mem_of_mem_take hr)

/-- A receipt that was committed and wanted before the first page was read is on some page, if the
reader goes on to one that is not full. -/
theorem paged_search {later : List (LedgerState Tx)} (hs : cfg.system.Reachable s)
    (hlater : (s :: later).IsChain cfg.system.Leads) :
    ∃ shown, q.searchPages 0 ((s :: later).map LedgerState.receipts) = shown.map .ok ∧
      List.Forall₂ (fun s' page => ∀ r ∈ page,
          q.wants r = true ∧ ∃ t b, s'.phase t = .committed b ∧ r = b.toReceipt)
        (s :: later) shown ∧
      ((∀ last ∈ shown.getLast?, last.length < q.limit) →
        ∀ t b, s.phase t = .committed b → q.wants b.toReceipt = true →
          ∃ page ∈ shown, b.toReceipt ∈ page) ∧
      ((∀ s' ∈ later, s'.receipts = s.receipts) →
        shown.flatten = (wanted q s).take ((s :: later).length * q.limit)) := by
  have hreachable := reachable_of_chain hs hlater
  refine ⟨pages q.limit 0 ((s :: later).map (wanted q)), searchPages_eq hreachable,
    pages_wanted hreachable, ?_, ?_⟩
  · intro hshort t b hphase hwants
    obtain ⟨log, hhistory, -⟩ := history_of_reachable hs
    have hmem : b.toReceipt ∈ wanted q s := hhistory.mem_wanted_iff.mpr ⟨hwants, t, b, hphase, rfl⟩
    exact mem_pages_of_short (wanted_pushes hlater) hmem hshort
  · intro hstill
    have hsame : ∀ view ∈ (s :: later).map (wanted q), view = wanted q s := by
      rw [List.forall_mem_map, List.forall_mem_cons]
      refine ⟨rfl, fun s' hs' => ?_⟩
      rw [wanted, wanted, history, history, hstill s' hs']
    rw [flatten_pages_still hsame, List.length_map, Nat.zero_mul, List.drop_zero]

omit [DecidableEq Tx] in
theorem length_wanted_le (q : ReceiptSearch) (s : LedgerState Tx) :
    (wanted q s).length ≤ s.receipts.length := by
  rw [wanted, List.length_reverse]
  refine (List.length_filter_le _ _).trans ?_
  rw [List.length_map]
  exact List.length_filterMap_le _ _

/-- One receipt a page; another one is recorded between the first page and the second. -/
theorem two_paged : ∃ shown : List (List ExecutionReceipt),
    ReceiptSearch.searchPages { limit := 1 } 0 [(afterFirst echoKey).receipts,
      (afterSecond echoKey).receipts, (afterSecond echoKey).receipts] = shown.map .ok ∧
    ∃ page ∈ shown, (oneEntry echoKey).toReceipt ∈ page := by
  have hgrows : [afterFirst echoKey, afterSecond echoKey, afterSecond echoKey].IsChain
      (two echoKey).system.Leads :=
    .cons_cons (second_leads echoKey) (.cons_cons .refl (.singleton _))
  have hfirst := afterFirst_reachable echoKey
  obtain ⟨shown, hshown, -, hcomplete, -⟩ := paged_search (q := { limit := 1 }) hfirst hgrows
  refine ⟨shown, hshown, hcomplete (fun last hlast => ?_) false _ rfl rfl⟩
  have hpages := searchPages_eq (q := { limit := 1 }) (n := 0) (reachable_of_chain hfirst hgrows)
  have hsame := (List.map_injective_iff.mpr fun _ _ => Except.ok.inj) (hshown.symm.trans hpages)
  rw [hsame] at hlast
  obtain rfl : page 1 2 (wanted { limit := 1 } (afterSecond echoKey)) = last :=
    Option.some.inj hlast
  have hlength : (wanted { limit := 1 } (afterSecond echoKey)).length ≤ 2 * 1 :=
    length_wanted_le _ _
  rw [page, List.drop_eq_nil_of_le hlength]
  exact one_pos

end LedgerConfig

end OpenAgentControl
