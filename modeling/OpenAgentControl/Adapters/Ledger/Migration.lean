import OpenAgentControl.Adapters.Ledger.PostgresQuery

/-! # Receipts across the enforced-flag migration

Revision 0001 of the schema has no `enforced` column, and its receipts were signed without one.
Migration 0002 adds the column, filled with true, and the verifier rebuilds the signed bytes of every
row with it. The system here starts from a migrated table and goes on recording. -/

namespace OpenAgentControl
set_option autoImplicit false
set_option maxHeartbeats 250000

open Foundations

/-! ## Revision 0001 -/

/-- A row of `execution_receipts` under revision 0001. -/
structure ReceiptRow0001 where
  id : ℕ
  sequenceId : String
  timestamp : DateTime
  spiffeId : String
  decision : String
  reason : String
  payloadHash : String
  previousHash : String
  signature : String
deriving DecidableEq

/-- Migration 0002: the server default of the new column fills it. -/
def ReceiptRow0001.upgrade (row : ReceiptRow0001) : ReceiptRow where
  id := row.id
  sequenceId := row.sequenceId
  timestamp := row.timestamp
  spiffeId := row.spiffeId
  decision := row.decision
  reason := row.reason
  payloadHash := row.payloadHash
  previousHash := row.previousHash
  signature := row.signature
  enforced := true

/-- What was signed under revision 0001. -/
structure Receipt0001 where
  sequenceId : String
  timestamp : UtcTime
  spiffeId : String
  decision : Decision
  reason : String
  payloadHash : String
  previousHash : String

namespace Receipt0001

def unsignedDump (r : Receipt0001) : Json :=
  .obj [("sequence_id", .str r.sequenceId),
    ("timestamp", .str (String.ofList r.timestamp.val.isoformat)),
    ("spiffe_id", .str r.spiffeId), ("decision", .str r.decision.value), ("reason", .str r.reason),
    ("payload_hash", .str r.payloadHash), ("previous_hash", .str r.previousHash)]

def unsignedBytes (r : Receipt0001) : Bytes := canonicalJson r.unsignedDump

def row (r : Receipt0001) (key : SigningKey) (backend : Backend) (id : ℕ) : ReceiptRow0001 where
  id
  sequenceId := r.sequenceId
  timestamp := backend.load r.timestamp.val
  spiffeId := r.spiffeId
  decision := r.decision.value
  reason := r.reason
  payloadHash := r.payloadHash
  previousHash := r.previousHash
  signature := bytesHex (key.sign r.unsignedBytes)

theorem sortKeys_unsignedDump (r : Receipt0001) :
    sortKeys r.unsignedDump =
      .obj [("decision", .str r.decision.value), ("payload_hash", .str r.payloadHash),
        ("previous_hash", .str r.previousHash), ("reason", .str r.reason),
        ("sequence_id", .str r.sequenceId), ("spiffe_id", .str r.spiffeId),
        ("timestamp", .str (String.ofList r.timestamp.val.isoformat))] := by
  simp [unsignedDump, sortKeys, sortFields, List.insertionSort, List.orderedInsert]

/-- No receipt of the current model has the bytes of a receipt without the flag. -/
theorem unsignedBytes_ne (r : Receipt0001) (receipt : ExecutionReceipt) :
    r.unsignedBytes ≠ receipt.unsignedBytes := by
  intro h
  unfold unsignedBytes ExecutionReceipt.unsignedBytes canonicalJson dumps at h
  rw [sortKeys_unsignedDump, ExecutionReceipt.sortKeys_unsignedDump] at h
  have happended : ∀ a b : Bytes, a = b → a ++ [] = b ++ [] := fun a b hab => by rw [hab]
  obtain ⟨hfields, -⟩ := utf8_obj_inj (happended _ _ h)
  exact absurd (congrArg List.length hfields) (by simp)

end Receipt0001

/-- How the ledger chained receipts under revision 0001. -/
def SigningKey.chain0001 (key : SigningKey) : Chaining Receipt0001 String where
  previous := Receipt0001.previousHash
  link := fun r => key.sha256Hex (r.unsignedBytes ++ key.sign r.unsignedBytes)

/-- What was committed under revision 0001: receipts with their ids, linked from the genesis hash. -/
structure Chain0001 (key : SigningKey) where
  entries : List (ℕ × Receipt0001)
  increasing : entries.Pairwise fun e f => e.1 < f.1
  linked : key.chain0001.Linked genesisHash (entries.map Prod.snd)

/-! ## Recording after the migration -/

namespace LedgerConfig

variable {Tx : Type}

/-- The migrated database, before the current code records anything. -/
def migrated (cfg : LedgerConfig Tx) (old : Chain0001 cfg.key) (firstId : ℕ) : LedgerState Tx where
  receipts := old.entries.map fun e => (e.2.row cfg.key cfg.backend e.1).upgrade
  chainHead := cfg.key.chain0001.headFrom genesisHash (old.entries.map Prod.snd)
  nextId := firstId
  lock := none
  phase := fun _ => .waiting

variable [DecidableEq Tx]

/-- The replicas record on top of a migrated table. -/
def migratedSystem (cfg : LedgerConfig Tx) (old : Chain0001 cfg.key) :
    System (LedgerState Tx) (LedgerStep Tx) where
  start := fun s => ∃ firstId, (∀ e ∈ old.entries, e.1 < firstId) ∧ s = cfg.migrated old firstId
  step := fun s l s' => cfg.next s l = some s'

variable {cfg : LedgerConfig Tx} {old : Chain0001 cfg.key} {s s' : LedgerState Tx}

/-- A table that starts with the old rows and goes on with later ids. -/
structure Extends (base : List ReceiptRow) (s : LedgerState Tx) : Prop where
  table : ∃ added, s.receipts = base ++ added ∧ ∀ a ∈ base, ∀ b ∈ added, a.id < b.id
  drawn : ∀ a ∈ base, a.id < s.nextId
  flushed : ∀ t b id, s.phase t = .flushed b id → ∀ a ∈ base, a.id < id

theorem Extends.update {base : List ReceiptRow} (h : Extends base s) {t : Tx} {p : Phase}
    {lock : Option Tx} (hp : ∀ b id, p ≠ .flushed b id) :
    Extends base { s with lock, phase := Function.update s.phase t p } where
  table := h.table
  drawn := h.drawn
  flushed := by
    intro t' b id hflushed
    obtain ⟨-, heq⟩ | ⟨-, hflushed⟩ := update_eq_iff.mp hflushed
    · exact absurd heq (hp b id)
    · exact h.flushed t' b id hflushed

/-- Old rows keep their place, whatever is recorded after them. -/
theorem Extends.step {base : List ReceiptRow} (h : Extends base s) {l : LedgerStep Tx}
    (hstep : cfg.next s l = some s') : Extends base s' := by
  obtain ⟨t, -, -, -, rfl⟩ | ⟨t, sequenceId, timestamp, id, previousHash, -, -, hid, rfl⟩ |
    ⟨t, entry, id, -, hphase, rfl⟩ | ⟨t, lock, -, -, -, rfl⟩ := next_cases hstep
  · exact h.update (by simp)
  · refine ⟨h.table, ?_, ?_⟩
    · intro a ha
      exact lt_trans (lt_of_lt_of_le (h.drawn a ha) hid) (Nat.lt_succ_self id)
    · intro t' b id' hflushed
      obtain ⟨-, heq⟩ | ⟨-, hflushed⟩ := update_eq_iff.mp hflushed
      · obtain ⟨-, rfl⟩ := Phase.flushed.inj heq
        exact fun a ha => lt_of_lt_of_le (h.drawn a ha) hid
      · exact h.flushed t' b id' hflushed
  · obtain ⟨added, hreceipts, hlater⟩ := h.table
    refine ⟨⟨added ++ [entry.row cfg.backend id], ?_, ?_⟩, h.drawn, ?_⟩
    · rw [hreceipts, List.append_assoc]
    · intro a ha b hb
      obtain hb | hb := List.mem_append.mp hb
      · exact hlater a ha b hb
      · rw [List.mem_singleton.mp hb]
        exact h.flushed t entry id hphase a ha
    · intro t' b id' hflushed
      obtain ⟨-, heq⟩ | ⟨-, hflushed⟩ := update_eq_iff.mp hflushed
      · cases heq
      · exact h.flushed t' b id' hflushed
  · exact h.update (by simp)

theorem extends_of_reachable (hs : (cfg.migratedSystem old).Reachable s) :
    Extends (old.entries.map fun e => (e.2.row cfg.key cfg.backend e.1).upgrade) s := by
  refine System.Reachable.invariant ?_ ?_ hs
  · rintro s ⟨firstId, hfirst, rfl⟩
    refine ⟨⟨[], (List.append_nil _).symm, ?_⟩, ?_, ?_⟩
    · intro a _ b hb
      cases hb
    · intro a ha
      obtain ⟨e, he, rfl⟩ := List.mem_map.mp ha
      exact hfirst e he
    · intro t b id hflushed
      cases hflushed
  · intro s l s' _ hext hstep
    exact hext.step hstep

theorem reachable_of_nil (hnil : old.entries = []) (hs : (cfg.migratedSystem old).Reachable s) :
    cfg.system.Reachable s := by
  refine System.Reachable.invariant ?_ ?_ hs
  · rintro s ⟨firstId, -, rfl⟩
    refine .start ⟨firstId, ?_⟩
    rw [migrated, hnil]
    rfl
  · intro s l s' _ hreach hstep
    exact .step hreach hstep

/-! ## Verifying the migrated table -/

theorem selectById_cons {first : ReceiptRow} {others : List ReceiptRow}
    (h : ∀ b ∈ others, first.id < b.id) :
    selectById (first :: others) = first :: selectById others := by
  unfold selectById
  rw [List.insertionSort_cons]
  cases hsorted : others.insertionSort fun a b => a.id ≤ b.id with
  | nil => rfl
  | cons next rest =>
    have hmem : next ∈ others := by
      rw [← List.mem_insertionSort (fun a b : ReceiptRow => a.id ≤ b.id), hsorted]
      exact List.mem_cons_self
    exact List.orderedInsert_cons_of_le _ _ (Nat.le_of_lt (h next hmem))

/-- The signature of an old receipt does not vouch for what its row shows now. -/
theorem upgraded_not_vouched {key : SigningKey}
    (hbinds : ∀ data data', key.verify (key.sign data) data' = true → data = data')
    {r : Receipt0001} {backend : Backend} {id : ℕ} {b : SignedReceipt}
    (hread : readRow (r.row key backend id).upgrade = some b) : ¬ key.Vouches b := by
  intro hvouches
  obtain ⟨receipt, -, -, hsignature⟩ := readRow_eq_some.mp hread
  have hsigned : b.signature = key.sign r.unsignedBytes := by
    have hhex := bytesFromHex_bytesHex (key.sign r.unsignedBytes)
    rw [show (r.row key backend id).upgrade.signature = bytesHex (key.sign r.unsignedBytes) from rfl,
      hhex] at hsignature
    exact (Option.some.inj hsignature).symm
  rw [SigningKey.Vouches, hsigned] at hvouches
  exact r.unsignedBytes_ne b.receipt (hbinds _ _ hvouches)

/-- A migrated ledger verifies, whatever is recorded after the migration, exactly when nothing was
recorded before it. -/
theorem migrated_verifies_iff (cfg : LedgerConfig Tx) (hcorrect : cfg.key.Correct)
    (hbinds : ∀ data data', cfg.key.verify (cfg.key.sign data) data' = true → data = data')
    (old : Chain0001 cfg.key) (s : LedgerState Tx) (hs : (cfg.migratedSystem old).Reachable s) :
    cfg.key.verifyChain s.receipts =
        .ok { valid := true, receiptsChecked := s.receipts.length } ↔ old.entries = [] := by
  constructor
  · intro hvalid
    by_contra hne
    obtain ⟨⟨id, first⟩, rest, hentries⟩ := List.exists_cons_of_ne_nil hne
    obtain ⟨added, htable, hlater⟩ := (extends_of_reachable hs).table
    rw [hentries, List.map_cons, List.cons_append] at htable
    have hfirst : ∀ b ∈ rest.map (fun e => (e.2.row cfg.key cfg.backend e.1).upgrade) ++ added,
        (first.row cfg.key cfg.backend id).upgrade.id < b.id := by
      intro b hb
      obtain hb | hb := List.mem_append.mp hb
      · obtain ⟨e, he, rfl⟩ := List.mem_map.mp hb
        have hincreasing := old.increasing
        rw [hentries] at hincreasing
        exact List.rel_of_pairwise_cons hincreasing he
      · refine hlater _ ?_ b hb
        rw [hentries]
        exact List.mem_cons_self
    obtain ⟨-, blocks, hshows⟩ := (SigningKey.verifyChain_valid_iff rfl).mp hvalid
    rw [htable, selectById_cons hfirst] at hshows
    cases blocks with
    | nil => cases hshows.read
    | cons b blocks =>
      obtain ⟨⟨hread, -, hvouches⟩, -⟩ := SigningKey.shows_cons.mp hshows
      exact upgraded_not_vouched hbinds hread hvouches
  · intro hnil
    obtain ⟨log, hlog, hlinked⟩ := history_of_reachable (reachable_of_nil hnil hs)
    exact hlog.verifyChain hlinked hcorrect

/-! ## One old receipt -/

def oneOld : Receipt0001 where
  sequenceId := "receipt-0"
  timestamp := oneTime
  spiffeId := "spiffe://corp/agent"
  decision := .allow
  reason := ""
  payloadHash := ""
  previousHash := genesisHash

def oneOldChain (key : SigningKey) : Chain0001 key where
  entries := [(1, oneOld)]
  increasing := List.pairwise_singleton _ _
  linked := ⟨rfl, trivial⟩

theorem oneOld_migrated (key : SigningKey) :
    ((one key).migratedSystem (oneOldChain key)).Reachable
      ((one key).migrated (oneOldChain key) 2) :=
  .start ⟨2, by simp [oneOldChain], rfl⟩

theorem oneOld_verifies_iff :
    echoKey.verifyChain ((one echoKey).migrated (oneOldChain echoKey) 2).receipts =
        .ok { valid := true, receiptsChecked := 1 } ↔ (oneOldChain echoKey).entries = [] :=
  migrated_verifies_iff (one echoKey) echoKey_correct (fun _ _ h => of_decide_eq_true h)
    (oneOldChain echoKey) _ (oneOld_migrated echoKey)

/-- One old receipt is enough for the migrated ledger to be reported broken. -/
theorem oneOld_broken : ∃ s, ((one echoKey).migratedSystem (oneOldChain echoKey)).Reachable s ∧
    echoKey.verifyChain s.receipts ≠
      .ok { valid := true, receiptsChecked := s.receipts.length } := by
  refine ⟨_, oneOld_migrated echoKey, fun h => ?_⟩
  obtain ⟨-, blocks, hshows⟩ := (SigningKey.verifyChain_valid_iff rfl).mp h
  cases blocks with
  | nil => cases hshows.read
  | cons b blocks =>
    obtain ⟨⟨hread, -, hvouches⟩, -⟩ := SigningKey.shows_cons.mp hshows
    exact upgraded_not_vouched (fun _ _ h => of_decide_eq_true h) hread hvouches

end LedgerConfig

end OpenAgentControl
