import OpenAgentControl.Adapters.Ledger.Migration

/-! # Receipts across a downgrade

Migration 0002 can be undone: its downgrade drops the `enforced` column, and its upgrade fills a new one
with true. The system here is the ledger under every revision that has its tables, with the replicas'
transactions between the migrations. Whatever the run, the chain verifies exactly when no receipt of a
softened denial went through a downgrade (`downgraded_verifies_iff`). -/

namespace OpenAgentControl
set_option autoImplicit false
set_option maxHeartbeats 250000

open Foundations

/-- Migration 0002, undone. -/
def ReceiptRow.downgrade (row : ReceiptRow) : ReceiptRow0001 where
  id := row.id
  sequenceId := row.sequenceId
  timestamp := row.timestamp
  spiffeId := row.spiffeId
  decision := row.decision
  reason := row.reason
  payloadHash := row.payloadHash
  previousHash := row.previousHash
  signature := row.signature

theorem ReceiptRow.downgrade_upgrade (row : ReceiptRow) :
    row.downgrade.upgrade = { row with enforced := true } := rfl

/-- The migrations above the initial schema. -/
inductive Migration
  | receiptEnforcedFlag
  | operatorActionsAudit
deriving DecidableEq

/-- The ledger under each revision that has its tables. Under 0001 the receipts are rows without the
flag, and `ledger` holds none. -/
inductive SchemaState (Tx : Type)
  | rev0001 (rows : List ReceiptRow0001) (ledger : LedgerState Tx)
  | rev0002 (ledger : LedgerState Tx)
  | rev0003 (ledger : LedgerState Tx)

namespace SchemaState

variable {Tx : Type}

def ledger : SchemaState Tx → LedgerState Tx
  | rev0001 _ ledger => ledger
  | rev0002 ledger => ledger
  | rev0003 ledger => ledger

/-- The ledger where its receipts have the flag. -/
def flagged : SchemaState Tx → Option (LedgerState Tx)
  | rev0001 _ _ => none
  | rev0002 ledger => some ledger
  | rev0003 ledger => some ledger

end SchemaState

inductive SchemaStep (Tx : Type)
  | record (l : LedgerStep Tx)
  | upgrade (m : Migration)
  | downgrade (m : Migration)

/-- The step that drops the flags. -/
def SchemaStep.drops {Tx : Type} : SchemaStep Tx → Bool
  | .downgrade .receiptEnforcedFlag => true
  | _ => false

/-- The step that sends the INSERT. -/
def LedgerStep.inserts {Tx : Type} : LedgerStep Tx → Bool
  | .write _ _ _ _ => true
  | _ => false

def Phase.isFlushed : Phase → Bool
  | flushed _ _ => true
  | _ => false

/-- A transaction has sent its INSERT and is still open: it keeps `ALTER TABLE` waiting. -/
def LedgerState.inserting {Tx : Type} (s : LedgerState Tx) : Bool :=
  s.lock.any fun t => (s.phase t).isFlushed

namespace LedgerConfig

variable {Tx : Type} [DecidableEq Tx] (cfg : LedgerConfig Tx)

/-- A transaction of the current code, or one migration. The downgrade of 0001 drops the tables. -/
def schemaNext : SchemaState Tx → SchemaStep Tx → Option (SchemaState Tx)
  | .rev0001 rows ledger, .record l =>
    -- the INSERT names a column that is not there
    if l.inserts then none else (cfg.next ledger l).map (.rev0001 rows)
  | .rev0002 ledger, .record l => (cfg.next ledger l).map .rev0002
  | .rev0003 ledger, .record l => (cfg.next ledger l).map .rev0003
  | .rev0001 rows ledger, .upgrade .receiptEnforcedFlag =>
    some (.rev0002 { ledger with receipts := rows.map ReceiptRow0001.upgrade })
  | .rev0002 ledger, .upgrade .operatorActionsAudit => some (.rev0003 ledger)
  | .rev0003 ledger, .downgrade .operatorActionsAudit => some (.rev0002 ledger)
  | .rev0002 ledger, .downgrade .receiptEnforcedFlag =>
    if ledger.inserting then none
    else some (.rev0001 (ledger.receipts.map ReceiptRow.downgrade) { ledger with receipts := [] })
  | _, _ => none

/-- From the fresh tables of 0001 on. -/
def schemaSystem : System (SchemaState Tx) (SchemaStep Tx) where
  start := fun x => ∃ firstId, x = .rev0001 [] (initial firstId)
  step := fun x l x' => cfg.schemaNext x l = some x'

/-! ## The ledger without migrations behind it -/

/-- The rows when the first `k` of them went through a downgrade. -/
def passed (k : ℕ) (rows : List ReceiptRow) : List ReceiptRow :=
  (rows.take k).map (fun row => row.downgrade.upgrade) ++ rows.drop k

theorem passed_append {k : ℕ} {rows added : List ReceiptRow} (hk : k ≤ rows.length) :
    passed k (rows ++ added) = passed k rows ++ added := by
  simp [passed, List.take_append_of_le_length hk, List.drop_append_of_le_length hk]

theorem map_passed {Value : Type} {f : ReceiptRow → Value}
    (hf : ∀ row, f row.downgrade.upgrade = f row) (k : ℕ) (rows : List ReceiptRow) :
    (passed k rows).map f = rows.map f := by
  have hmap : ((rows.take k).map fun row => row.downgrade.upgrade).map f = (rows.take k).map f := by
    simp [Function.comp_def, hf]
  rw [passed, List.map_append, hmap, ← List.map_append, List.take_append_drop]

theorem passed_eq_self {k : ℕ} {rows : List ReceiptRow}
    (h : ∀ row ∈ rows.take k, row.enforced = true) : passed k rows = rows := by
  have hmap : (rows.take k).map (fun row => row.downgrade.upgrade) = (rows.take k).map id := by
    refine List.map_congr_left fun row hrow => ?_
    rw [row.downgrade_upgrade, ← h row hrow, id]
  rw [passed, hmap, List.map_id, List.take_append_drop]

variable {cfg} {g g' : LedgerState Tx}

/-- The transactions only read the sequence ids of the rows, and only when they insert. -/
theorem next_receipts {rows : List ReceiptRow} {l : LedgerStep Tx}
    (hids : l.inserts = true →
      rows.map ReceiptRow.sequenceId = g.receipts.map ReceiptRow.sequenceId) :
    cfg.next { g with receipts := rows } l =
      (cfg.next g l).map fun g' =>
        { g' with receipts := rows ++ g'.receipts.drop g.receipts.length } := by
  cases l with
  | acquire t =>
    cases hphase : g.phase t <;> cases hlock : g.lock <;> simp [next, hphase, hlock]
  | write t sequenceId timestamp id =>
    cases hphase : g.phase t with
    | locked previousHash =>
      simp only [next, hphase, hids rfl]
      split_ifs <;> simp
    | _ => simp [next, hphase]
  | commit t => cases hphase : g.phase t <;> simp [next, hphase]
  | rollback t => cases hphase : g.phase t <;> simp [next, hphase]

theorem receipts_extended {l : LedgerStep Tx} (hstep : cfg.next g l = some g') :
    ∃ added, g'.receipts = g.receipts ++ added := by
  obtain ⟨t, -, -, -, rfl⟩ | ⟨t, sequenceId, timestamp, id, previousHash, -, -, -, rfl⟩ |
    ⟨t, entry, id, -, -, rfl⟩ | ⟨t, lock, -, -, -, rfl⟩ := next_cases hstep
  · exact ⟨[], (List.append_nil _).symm⟩
  · exact ⟨[], (List.append_nil _).symm⟩
  · exact ⟨_, rfl⟩
  · exact ⟨[], (List.append_nil _).symm⟩

/-- The tables are those of a ledger that knows no migrations, but for the flags of its first rows. -/
inductive Stands (g : LedgerState Tx) (k : ℕ) : SchemaState Tx → Prop
  | rev0001 (hk : k = g.receipts.length) (hnot : ∀ t, (g.phase t).isFlushed = false) :
      Stands g k (.rev0001 (g.receipts.map ReceiptRow.downgrade) { g with receipts := [] })
  | rev0002 (hk : k ≤ g.receipts.length) :
      Stands g k (.rev0002 { g with receipts := passed k g.receipts })
  | rev0003 (hk : k ≤ g.receipts.length) :
      Stands g k (.rev0003 { g with receipts := passed k g.receipts })

omit [DecidableEq Tx] in
theorem Stands.le {k : ℕ} {x : SchemaState Tx} (h : Stands g k x) : k ≤ g.receipts.length := by
  cases h with
  | rev0001 hk hnot => exact hk.le
  | rev0002 hk => exact hk
  | rev0003 hk => exact hk

omit [DecidableEq Tx] in
theorem Stands.phase {k : ℕ} {x : SchemaState Tx} (h : Stands g k x) : x.ledger.phase = g.phase := by
  cases h with
  | rev0001 hk hnot => rfl
  | rev0002 hk => rfl
  | rev0003 hk => rfl

theorem next_passed {k : ℕ} (hk : k ≤ g.receipts.length) {l : LedgerStep Tx} {s : LedgerState Tx}
    (h : cfg.next { g with receipts := passed k g.receipts } l = some s) :
    ∃ g', cfg.next g l = some g' ∧ k ≤ g'.receipts.length ∧
      s = { g' with receipts := passed k g'.receipts } := by
  rw [next_receipts fun _ => map_passed (fun _ => rfl) k g.receipts, Option.map_eq_some_iff] at h
  obtain ⟨g', hnext, rfl⟩ := h
  obtain ⟨added, hadded⟩ := receipts_extended hnext
  refine ⟨g', hnext, ?_, ?_⟩
  · rw [hadded, List.length_append]
    omega
  · rw [hadded, passed_append hk, List.drop_left]

/-- Under 0001 a transaction can begin and give up, and nothing is added. -/
theorem next_bare {l : LedgerStep Tx} {s : LedgerState Tx} (hnot : ∀ t, (g.phase t).isFlushed = false)
    (hinserts : l.inserts = false) (h : cfg.next { g with receipts := [] } l = some s) :
    ∃ g', cfg.next g l = some g' ∧ g'.receipts = g.receipts ∧
      (∀ t, (g'.phase t).isFlushed = false) ∧ s = { g' with receipts := [] } := by
  rw [next_receipts (fun habs => absurd (hinserts.symm.trans habs) Bool.false_ne_true),
    Option.map_eq_some_iff] at h
  obtain ⟨g', hnext, rfl⟩ := h
  obtain ⟨t, -, -, -, rfl⟩ | ⟨t, sequenceId, timestamp, id, previousHash, rfl, -, -, rfl⟩ |
    ⟨t, entry, id, -, hphase, rfl⟩ | ⟨t, lock, -, -, -, rfl⟩ := next_cases hnext
  · refine ⟨_, hnext, rfl, fun t' => ?_, by simp⟩
    by_cases ht : t' = t
    · simp [ht, Phase.isFlushed]
    · simp [ht, hnot]
  · cases hinserts
  · have habs := hnot t
    rw [hphase] at habs
    cases habs
  · refine ⟨_, hnext, rfl, fun t' => ?_, by simp⟩
    by_cases ht : t' = t
    · simp [ht, Phase.isFlushed]
    · simp [ht, hnot]

theorem Stands.step {k : ℕ} {x x' : SchemaState Tx} {l : SchemaStep Tx}
    (hg : cfg.system.Reachable g) (h : Stands g k x) (hstep : cfg.schemaNext x l = some x') :
    ∃ g', cfg.system.Reachable g' ∧ (∃ added, g'.receipts = g.receipts ++ added) ∧
      Stands g' (if l.drops then g.receipts.length else k) x' := by
  cases h with
  | rev0001 hk hnot =>
    cases l with
    | record l =>
      simp only [schemaNext] at hstep
      split_ifs at hstep with hinserts
      obtain ⟨s, hnext, rfl⟩ := Option.map_eq_some_iff.mp hstep
      obtain ⟨g', hg', hsame, hnot', rfl⟩ :=
        next_bare hnot (Bool.eq_false_iff.mpr hinserts) hnext
      refine ⟨g', .step hg hg', ⟨[], by simp [hsame]⟩, ?_⟩
      rw [← hsame]
      exact .rev0001 (by rw [hsame]; exact hk) hnot'
    | upgrade m =>
      cases m with
      | receiptEnforcedFlag =>
        cases hstep
        subst hk
        have hrows : passed g.receipts.length g.receipts =
            (g.receipts.map ReceiptRow.downgrade).map ReceiptRow0001.upgrade := by
          simp [passed, Function.comp_def]
        refine ⟨g, hg, ⟨[], by simp⟩, ?_⟩
        rw [← hrows]
        exact .rev0002 le_rfl
      | operatorActionsAudit => cases hstep
    | downgrade m => cases hstep
  | rev0002 hk =>
    cases l with
    | record l =>
      obtain ⟨s, hnext, rfl⟩ := Option.map_eq_some_iff.mp hstep
      obtain ⟨g', hg', hk', rfl⟩ := next_passed hk hnext
      exact ⟨g', .step hg hg', receipts_extended hg', .rev0002 hk'⟩
    | upgrade m =>
      cases m with
      | receiptEnforcedFlag => cases hstep
      | operatorActionsAudit =>
        cases hstep
        exact ⟨g, hg, ⟨[], by simp⟩, .rev0003 hk⟩
    | downgrade m =>
      cases m with
      | operatorActionsAudit => cases hstep
      | receiptEnforcedFlag =>
        simp only [schemaNext] at hstep
        split_ifs at hstep with hinserting
        cases hstep
        obtain ⟨log, hlog, -⟩ := history_of_reachable hg
        refine ⟨g, hg, ⟨[], by simp⟩, ?_⟩
        rw [map_passed fun _ => rfl]
        refine .rev0001 rfl fun t => ?_
        -- an open INSERT would hold the row lock
        cases hphase : g.phase t with
        | flushed b id =>
          have hlock := (hlog.flushed t b id hphase).1
          exact absurd (by simp [LedgerState.inserting, hlock, hphase, Phase.isFlushed]) hinserting
        | _ => rfl
  | rev0003 hk =>
    cases l with
    | record l =>
      obtain ⟨s, hnext, rfl⟩ := Option.map_eq_some_iff.mp hstep
      obtain ⟨g', hg', hk', rfl⟩ := next_passed hk hnext
      exact ⟨g', .step hg hg', receipts_extended hg', .rev0003 hk'⟩
    | upgrade m => cases hstep
    | downgrade m =>
      cases m with
      | operatorActionsAudit =>
        cases hstep
        exact ⟨g, hg, ⟨[], by simp⟩, .rev0002 hk⟩
      | receiptEnforcedFlag => cases hstep

/-! ## Whole runs -/

/-- No receipt of a softened denial was there when the flags were dropped. -/
def DropsEnforced (steps : List (SchemaState Tx × SchemaStep Tx)) : Prop :=
  ∀ p ∈ steps, p.2.drops = true →
    ∀ t b, p.1.ledger.phase t = .committed b → b.receipt.enforced = true

omit [DecidableEq Tx] in
theorem History.enforced_iff {log : List (LogEntry Tx)} (h : History cfg g log) :
    (∀ t b, g.phase t = .committed b → b.receipt.enforced = true) ↔
      ∀ row ∈ g.receipts, row.enforced = true := by
  rw [h.receipts, List.forall_mem_map]
  constructor
  · intro hcommitted e he
    exact hcommitted e.tx e.entry ((h.committed e.tx e.entry).mpr ⟨e.id, he⟩)
  · intro hrows t b hphase
    obtain ⟨id, hmem⟩ := (h.committed t b).mp hphase
    exact hrows _ hmem

theorem stands_of_run {steps : List (SchemaState Tx × SchemaStep Tx)} {x : SchemaState Tx}
    (hrun : cfg.schemaSystem.Run steps x) :
    ∃ g k, cfg.system.Reachable g ∧ Stands g k x ∧
      ((∀ row ∈ g.receipts.take k, row.enforced = true) ↔ DropsEnforced steps) := by
  induction hrun with
  | start h =>
    obtain ⟨firstId, rfl⟩ := h
    refine ⟨initial firstId, 0, .start ⟨firstId, rfl⟩, .rev0001 rfl fun _ => rfl, ?_⟩
    simp [DropsEnforced]
  | @step steps x x' l hrun hstep ih =>
    obtain ⟨g, k, hg, hstands, hkept⟩ := ih
    obtain ⟨g', hg', ⟨added, hadded⟩, hstands'⟩ := hstands.step hg hstep
    refine ⟨g', _, hg', hstands', ?_⟩
    rw [DropsEnforced, List.forall_mem_cons, ← DropsEnforced, ← hkept, hadded]
    cases hdrops : l.drops with
    | false =>
      simp [List.take_append_of_le_length hstands.le]
    | true =>
      obtain ⟨log, hlog, -⟩ := history_of_reachable hg
      have hnow := hlog.enforced_iff
      rw [← hstands.phase] at hnow
      simp only [if_true, List.take_left, forall_const, hnow]
      exact ⟨fun h => ⟨h, fun row hrow => h row (List.mem_of_mem_take hrow)⟩, And.left⟩

end LedgerConfig

/-! ## What the verifier reads -/

/-- The receipt that a row shows after the downgrade of a signed one. -/
def SignedReceipt.flagged (b : SignedReceipt) : SignedReceipt :=
  ⟨{ b.receipt with enforced := true }, b.signature, b.unsigned⟩

theorem SigningKey.Shows.vouches {key : SigningKey} {expected : String} {rows : List ReceiptRow}
    {blocks : List SignedReceipt} (h : key.Shows expected rows blocks) :
    ∀ row ∈ rows, ∃ b, readRow row = some b ∧ key.Vouches b := by
  induction rows generalizing expected blocks with
  | nil => simp
  | cons row rest ih =>
    cases blocks with
    | nil => cases h.read
    | cons b blocks =>
      obtain ⟨⟨hread, -, hvouches⟩, hrest⟩ := SigningKey.shows_cons.mp h
      exact List.forall_mem_cons.mpr ⟨⟨b, hread, hvouches⟩, ih hrest⟩

/-- The signature of a receipt vouches for the row it has after a downgrade only if that changed
nothing. -/
theorem SigningKey.enforced_of_vouched {key : SigningKey}
    (hbinds : ∀ data data', key.verify (key.sign data) data' = true → data = data')
    {call : RecordCall} {sequenceId previousHash : String} {timestamp : UtcTime}
    (h : key.Vouches (key.signed call sequenceId timestamp previousHash).flagged) :
    (key.signed call sequenceId timestamp previousHash).receipt.enforced = true := by
  have hbytes := hbinds _ _ h
  have hsame := (ExecutionReceipt.unsignedBytes_append_inj (congrArg (· ++ []) hbytes)).1
  exact congrArg ExecutionReceipt.enforced hsame

namespace LedgerConfig

variable {Tx : Type} [DecidableEq Tx] {cfg : LedgerConfig Tx}

/-- Whatever is recorded and however the schema goes up and down in between: the chain verifies exactly
when every receipt that was there at a downgrade to 0001 was an enforced one. -/
theorem downgraded_verifies_iff (hcorrect : cfg.key.Correct)
    (hbinds : ∀ data data', cfg.key.verify (cfg.key.sign data) data' = true → data = data')
    {steps : List (SchemaState Tx × SchemaStep Tx)} {x : SchemaState Tx}
    (hrun : cfg.schemaSystem.Run steps x) {s : LedgerState Tx} (hflagged : x.flagged = some s) :
    cfg.key.verifyChain s.receipts =
        .ok { valid := true, receiptsChecked := s.receipts.length } ↔ DropsEnforced steps := by
  obtain ⟨g, k, hg, hstands, hkept⟩ := stands_of_run hrun
  have hreceipts : s.receipts = passed k g.receipts := by
    cases hstands with
    | rev0001 hk hnot => cases hflagged
    | rev0002 hk =>
      cases hflagged
      rfl
    | rev0003 hk =>
      cases hflagged
      rfl
  obtain ⟨log, hlog, hlinked⟩ := history_of_reachable hg
  rw [← hkept, hreceipts]
  constructor
  · intro hvalid row hrow
    obtain ⟨-, blocks, hshows⟩ := (SigningKey.verifyChain_valid_iff rfl).mp hvalid
    have hmem : row.downgrade.upgrade ∈ selectById (passed k g.receipts) := by
      rw [selectById, List.mem_insertionSort]
      exact List.mem_append_left _ (List.mem_map_of_mem hrow)
    obtain ⟨b, hread, hvouches⟩ := hshows.vouches _ hmem
    have hwritten := List.mem_of_mem_take hrow
    rw [hlog.receipts] at hwritten
    obtain ⟨e, he, rfl⟩ := List.mem_map.mp hwritten
    have hflag : readRow (e.entry.row cfg.backend e.id).downgrade.upgrade = some e.entry.flagged :=
      readRow_row (b := e.entry.flagged) (hlog.utc e he) cfg.backend e.id
    cases hread.symm.trans hflag
    obtain ⟨sequenceId, timestamp, previousHash, hentry⟩ := hlog.recorded e he
    rw [hentry] at hvouches
    have henforced := SigningKey.enforced_of_vouched hbinds hvouches
    rw [← hentry] at henforced
    exact henforced
  · intro henforced
    rw [passed_eq_self henforced]
    exact hlog.verifyChain hlinked hcorrect

/-! ## One softened denial -/

/-- One replica in observe mode, which records a denial that it lets through. -/
def observed : LedgerConfig Unit where
  key := echoKey
  backend := .postgres
  call := fun _ => { oneCall with decision := ⟨.deny, "Tool not granted"⟩, enforced := false }

theorem observed_broken : ∃ steps x s, observed.schemaSystem.Run steps x ∧ x.flagged = some s ∧
    s.receipts.length = 1 ∧
    (echoKey.verifyChain s.receipts = .ok { valid := true, receiptsChecked := s.receipts.length } ↔
      DropsEnforced steps) ∧ ¬ DropsEnforced steps := by
  have h0 : observed.schemaSystem.Run [] _ := .start ⟨1, rfl⟩
  have h1 : observed.schemaSystem.Run _ _ :=
    .step h0 (show observed.schemaNext _ (.upgrade .receiptEnforcedFlag) = some _ from rfl)
  have h2 : observed.schemaSystem.Run _ _ :=
    .step h1 (show observed.schemaNext _ (.record (.acquire ())) = some _ from rfl)
  have h3 : observed.schemaSystem.Run _ _ :=
    .step h2 (show observed.schemaNext _ (.record (.write () "receipt-1" oneTime 1)) = some _ from rfl)
  have h4 : observed.schemaSystem.Run _ _ :=
    .step h3 (show observed.schemaNext _ (.record (.commit ())) = some _ from rfl)
  have h5 : observed.schemaSystem.Run _ _ :=
    .step h4 (show observed.schemaNext _ (.downgrade .receiptEnforcedFlag) = some _ from rfl)
  have h6 : observed.schemaSystem.Run _ _ :=
    .step h5 (show observed.schemaNext _ (.upgrade .receiptEnforcedFlag) = some _ from rfl)
  refine ⟨_, _, _, h6, rfl, rfl,
    downgraded_verifies_iff echoKey_correct (fun _ _ h => of_decide_eq_true h) h6 rfl, ?_⟩
  intro hdrops
  have hkept := hdrops _ (List.mem_cons_of_mem _ List.mem_cons_self) rfl () _ rfl
  cases hkept

end LedgerConfig

end OpenAgentControl
