import OpenAgentControl.Adapters.Ledger.PostgresQuery

/-! # Receipts by their sequence id

`PostgresReceiptQuery.get`. The column is unique, and the id is drawn while the transaction holds the
row lock; so a receipt that was committed once is what its sequence id is answered with from then on
(`getReceipt_committed`). -/

namespace OpenAgentControl
set_option autoImplicit false
set_option maxHeartbeats 250000

open Foundations

/-- `PostgresReceiptQuery.get`: `scalar_one_or_none` of the rows with this id. -/
def getReceipt (table : List ReceiptRow) (sequenceId : String) :
    Except Exc (Option ExecutionReceipt) :=
  match table.filter fun row => decide (row.sequenceId = sequenceId) with
  | [] => .ok none
  | [row] => (toDomain row).map some
  | _ => .error (.other "MultipleResultsFound")

theorem toDomain_row {b : SignedReceipt} (h : b.receipt.timestamp.utcoffset = some 0)
    (backend : Backend) (id : ℕ) : toDomain (b.row backend id) = .ok b.toReceipt := by
  obtain ⟨receipt, hdomain, hreceipt, -⟩ := readRow_eq_some.mp (readRow_row h backend id)
  have hsignature := toDomain_signature hdomain
  rw [hdomain, SignedReceipt.toReceipt, hreceipt]
  congr 1
  rw [show bytesHex b.signature = (b.row backend id).signature from rfl, ← hsignature]

namespace LedgerConfig

variable {Tx : Type} {cfg : LedgerConfig Tx} {s s' : LedgerState Tx}

/-- No two rows share a sequence id, and an open transaction holds one that is not taken. -/
structure UniqueIds (s : LedgerState Tx) : Prop where
  nodup : (s.receipts.map ReceiptRow.sequenceId).Nodup
  fresh : ∀ t b id, s.phase t = .flushed b id →
    b.receipt.sequenceId ∉ s.receipts.map ReceiptRow.sequenceId

/-- A step that adds no row and leaves no new receipt open. -/
theorem UniqueIds.mono (h : UniqueIds s) (hreceipts : s'.receipts = s.receipts)
    (hphase : ∀ t b id, s'.phase t = .flushed b id → s.phase t = .flushed b id) : UniqueIds s' where
  nodup := by rw [hreceipts]; exact h.nodup
  fresh := by
    intro t b id hflushed
    rw [hreceipts]
    exact h.fresh t b id (hphase t b id hflushed)

variable [DecidableEq Tx]

theorem write_fresh {t : Tx} {sequenceId : String} {timestamp : UtcTime} {id : ℕ}
    (h : cfg.next s (.write t sequenceId timestamp id) = some s') :
    sequenceId ∉ s.receipts.map ReceiptRow.sequenceId := by
  simp only [next] at h
  split at h
  case h_1 previousHash hphase =>
    split_ifs at h with hguard
    exact hguard.2
  case h_2 => cases h

theorem uniqueIds_of_reachable (h : cfg.system.Reachable s) : UniqueIds s := by
  refine h.invariant ?_ ?_
  · rintro s ⟨firstId, rfl⟩
    exact ⟨List.nodup_nil, fun t b id hflushed => by cases hflushed⟩
  · intro s l s' hs hunique hstep
    obtain ⟨log, hhistory, -⟩ := history_of_reachable hs
    have hlog := (history_iff cfg).mp hhistory
    obtain ⟨t, rfl, -, -, rfl⟩ | ⟨t, sequenceId, timestamp, id, previousHash, rfl, hphase, -, rfl⟩ |
      ⟨t, entry, id, rfl, hphase, rfl⟩ | ⟨t, lock, rfl, -, -, rfl⟩ := next_cases hstep
    · refine hunique.mono rfl fun t' b id hflushed => ?_
      obtain ⟨-, ⟨⟩⟩ | ⟨-, hold⟩ := update_eq_iff.mp hflushed
      exact hold
    · refine ⟨hunique.nodup, fun t' b id' hflushed => ?_⟩
      obtain ⟨-, heq⟩ | ⟨-, hold⟩ := update_eq_iff.mp hflushed
      · obtain ⟨rfl, -⟩ := Phase.flushed.inj heq
        have hfresh := write_fresh hstep
        exact hfresh
      · exact hunique.fresh t' b id' hold
    · have hfresh := hunique.fresh t entry id hphase
      refine ⟨?_, fun t' b id' hflushed => ?_⟩
      · rw [List.map_append, List.map_singleton]
        exact List.nodup_append.mpr ⟨hunique.nodup, List.nodup_singleton _, fun a ha b hb hab =>
          hfresh (by rwa [hab, List.mem_singleton.mp hb] at ha)⟩
      · -- the committing transaction held the lock, so no other one is open
        obtain ⟨-, ⟨⟩⟩ | ⟨hne, hold⟩ := update_eq_iff.mp hflushed
        exact absurd (hlog.holder_unique (by rw [hphase]; rfl) (by rw [hold]; rfl)) hne
    · refine hunique.mono rfl fun t' b id hflushed => ?_
      obtain ⟨-, ⟨⟩⟩ | ⟨-, hold⟩ := update_eq_iff.mp hflushed
      exact hold

/-- A sequence id is that of one transaction. -/
theorem committed_unique (h : cfg.system.Reachable s) {t t' : Tx} {b b' : SignedReceipt}
    (hphase : s.phase t = .committed b) (hphase' : s.phase t' = .committed b')
    (hids : b.receipt.sequenceId = b'.receipt.sequenceId) : t = t' := by
  obtain ⟨log, hhistory, -⟩ := history_of_reachable h
  obtain ⟨id, hmem⟩ := (hhistory.committed t b).mp hphase
  obtain ⟨id', hmem'⟩ := (hhistory.committed t' b').mp hphase'
  have hnodup := (uniqueIds_of_reachable h).nodup
  rw [hhistory.receipts, List.map_map] at hnodup
  exact congrArg LogEntry.tx (List.inj_on_of_nodup_map hnodup hmem hmem' hids)

/-- Whatever else was recorded since, a committed receipt is what its sequence id leads to. -/
theorem getReceipt_committed (h : cfg.system.Reachable s) {t : Tx} {b : SignedReceipt}
    (hphase : s.phase t = .committed b) :
    getReceipt s.receipts b.receipt.sequenceId = .ok (some b.toReceipt) := by
  obtain ⟨log, hhistory, -⟩ := history_of_reachable h
  obtain ⟨id, hmem⟩ := (hhistory.committed t b).mp hphase
  have hrow : b.row cfg.backend id ∈ s.receipts := by
    rw [hhistory.receipts]
    exact List.mem_map.mpr ⟨_, hmem, rfl⟩
  have hfound : (s.receipts.filter fun row => decide (row.sequenceId = b.receipt.sequenceId)) =
      [b.row cfg.backend id] := by
    have hids := (uniqueIds_of_reachable h).nodup
    have hsame : ∀ row ∈ s.receipts, (decide (row.sequenceId = b.receipt.sequenceId)) =
        (row == b.row cfg.backend id) := by
      intro row hmem'
      rw [beq_eq_decide, decide_eq_decide]
      exact ⟨fun heq => List.inj_on_of_nodup_map hids hmem' hrow heq, fun heq => heq ▸ rfl⟩
    rw [List.filter_congr hsame, List.filter_beq, List.count_eq_one_of_mem hids.of_map hrow]
    rfl
  rw [getReceipt, hfound]
  simp only [toDomain_row (hhistory.utc _ hmem)]
  rfl

end LedgerConfig

end OpenAgentControl
