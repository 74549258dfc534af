import OpenAgentControl.Adapters.Ledger.Postgres
import OpenAgentControl.Domain.Ports

/-! # Verifying the chain

`adapters/ledger/postgres_query.py`: the walk over the rows in the order of their ids. A table
verifies exactly when its rows decode to signed receipts that are linked from the genesis hash and
whose signatures verify (`verifyChain_valid_iff`). From it: an honest table always verifies, a table
that verifies is an initial segment of what was recorded, and a table with its last rows deleted
verifies too. -/

namespace OpenAgentControl
set_option autoImplicit false
set_option maxHeartbeats 250000

open Foundations

/-- `_to_domain`. -/
def toDomain (row : ReceiptRow) : Except Exc ExecutionReceipt :=
  match Decision.ofValue? row.decision with
  | none => .error valueError
  | some decision => .ok {
      sequenceId := row.sequenceId
      timestamp := row.timestamp.asUtc
      spiffeId := row.spiffeId
      decision
      reason := row.reason
      payloadHash := row.payloadHash
      previousHash := row.previousHash
      signature := some row.signature
      enforced := row.enforced }

/-- `select(ReceiptRow).order_by(ReceiptRow.id)`. -/
def selectById (table : List ReceiptRow) : List ReceiptRow :=
  table.insertionSort fun a b => a.id ≤ b.id

namespace SigningKey

variable (key : SigningKey)

/-- The loop of `verify_chain`. -/
def walk : String → ℕ → List ReceiptRow → Except Exc ChainVerificationResult
  | _, checked, [] => .ok { valid := true, receiptsChecked := checked }
  | expectedPreviousHash, checked, row :: rest => do
    let receipt ← toDomain row
    let broken : ChainVerificationResult :=
      { valid := false
        receiptsChecked := checked
        firstBrokenSequenceId := some receipt.sequenceId }
    if receipt.previousHash ≠ expectedPreviousHash then return broken
    match bytesFromHex (receipt.signature.getD "") with
    | none => .error valueError
    | some signature =>
      if key.verify signature receipt.unsignedBytes then
        walk (key.sha256Hex (receipt.unsignedBytes ++ signature)) (checked + 1) rest
      else return broken

def verifyChain (table : List ReceiptRow) : Except Exc ChainVerificationResult :=
  key.walk genesisHash 0 (selectById table)

end SigningKey

/-! ## What the walk checks -/

/-- The signed receipt a row shows, when it decodes. -/
def readRow (row : ReceiptRow) : Option SignedReceipt :=
  match toDomain row, bytesFromHex row.signature with
  | .ok receipt, some signature => some ⟨{ receipt with signature := none }, signature, rfl⟩
  | _, _ => none

theorem readRow_eq_some {row : ReceiptRow} {b : SignedReceipt} :
    readRow row = some b ↔ ∃ receipt, toDomain row = .ok receipt ∧
      b.receipt = { receipt with signature := none } ∧
      bytesFromHex row.signature = some b.signature := by
  unfold readRow
  constructor
  · intro h
    split at h
    case h_1 receipt signature hdomain hsignature =>
      cases h
      exact ⟨receipt, hdomain, rfl, hsignature⟩
    case h_2 => cases h
  · rintro ⟨receipt, hdomain, hreceipt, hsignature⟩
    rw [hdomain, hsignature]
    obtain ⟨unsigned, signature, hunsigned⟩ := b
    cases hreceipt
    rfl

theorem toDomain_signature {row : ReceiptRow} {receipt : ExecutionReceipt}
    (h : toDomain row = .ok receipt) : receipt.signature = some row.signature := by
  unfold toDomain at h
  split at h
  · cases h
  · cases h
    rfl

namespace SigningKey

variable {key : SigningKey}

def Vouches (key : SigningKey) (b : SignedReceipt) : Prop :=
  key.verify b.signature b.receipt.unsignedBytes = true

/-- The walk goes past a row exactly when it decodes, names the expected hash and verifies. -/
theorem walk_cons_valid {row : ReceiptRow} {rest : List ReceiptRow} {expected : String}
    {checked : ℕ} {result : ChainVerificationResult} (hvalid : result.valid = true) :
    key.walk expected checked (row :: rest) = .ok result ↔
      ∃ b, readRow row = some b ∧ key.chain.previous b = expected ∧ key.Vouches b ∧
        key.walk (key.chain.link b) (checked + 1) rest = .ok result := by
  have hinvalid : ∀ {sequenceId : String},
      (⟨false, checked, some sequenceId⟩ : ChainVerificationResult) ≠ result := by
    intro sequenceId heq
    rw [← heq] at hvalid
    cases hvalid
  rw [walk]
  cases hdomain : toDomain row with
  | error e =>
    refine iff_of_false (fun h => by cases h) ?_
    rintro ⟨b, hread, -⟩
    obtain ⟨receipt, habs, -⟩ := readRow_eq_some.mp hread
    rw [hdomain] at habs
    cases habs
  | ok receipt =>
    simp only [bind, Except.bind, toDomain_signature hdomain, Option.getD_some]
    cases hsignature : bytesFromHex row.signature with
    | none =>
      refine iff_of_false ?_ ?_
      · split_ifs
        · exact fun h => hinvalid (Except.ok.inj h)
        · exact fun h => by cases h
      · rintro ⟨b, hread, -⟩
        obtain ⟨-, -, -, habs⟩ := readRow_eq_some.mp hread
        rw [hsignature] at habs
        cases habs
    | some signature =>
      have hread : readRow row = some ⟨{ receipt with signature := none }, signature, rfl⟩ :=
        readRow_eq_some.mpr ⟨receipt, hdomain, rfl, hsignature⟩
      simp only [hread, Option.some.injEq, exists_eq_left', Vouches, chain]
      by_cases hprevious : receipt.previousHash = expected
      · rw [if_neg (not_not.mpr hprevious)]
        by_cases hverify : key.verify signature receipt.unsignedBytes = true
        · rw [if_pos hverify]
          exact ⟨fun h => ⟨hprevious, hverify, h⟩, fun h => h.2.2⟩
        · rw [if_neg hverify]
          exact iff_of_false (fun h => hinvalid (Except.ok.inj h)) fun h => hverify h.2.1
      · rw [if_pos hprevious]
        exact iff_of_false (fun h => hinvalid (Except.ok.inj h)) fun h => hprevious h.1

/-- What a list of rows that the walk accepts shows: signed receipts, linked and vouched for. -/
structure Shows (key : SigningKey) (expected : String) (rows : List ReceiptRow)
    (blocks : List SignedReceipt) : Prop where
  read : List.Forall₂ (fun row b => readRow row = some b) rows blocks
  linked : key.chain.Linked expected blocks
  vouched : ∀ b ∈ blocks, key.Vouches b

theorem shows_cons {expected : String} {row : ReceiptRow} {rest : List ReceiptRow}
    {b : SignedReceipt} {blocks : List SignedReceipt} :
    key.Shows expected (row :: rest) (b :: blocks) ↔
      (readRow row = some b ∧ key.chain.previous b = expected ∧ key.Vouches b) ∧
        key.Shows (key.chain.link b) rest blocks := by
  constructor
  · rintro ⟨hread, ⟨hprevious, hlinked⟩, hvouched⟩
    obtain ⟨hrow, hrest⟩ := List.forall₂_cons.mp hread
    exact ⟨⟨hrow, hprevious, hvouched b List.mem_cons_self⟩,
      hrest, hlinked, fun b' hb' => hvouched b' (List.mem_cons_of_mem _ hb')⟩
  · rintro ⟨⟨hrow, hprevious, hb⟩, hread, hlinked, hvouched⟩
    refine ⟨List.forall₂_cons.mpr ⟨hrow, hread⟩, ⟨hprevious, hlinked⟩, ?_⟩
    intro b' hb'
    obtain rfl | hb' := List.mem_cons.mp hb'
    · exact hb
    · exact hvouched b' hb'

theorem walk_valid_iff {rows : List ReceiptRow} {expected : String} {checked : ℕ}
    {result : ChainVerificationResult} (hvalid : result.valid = true) :
    key.walk expected checked rows = .ok result ↔
      result = { valid := true, receiptsChecked := checked + rows.length } ∧
        ∃ blocks, key.Shows expected rows blocks := by
  induction rows generalizing expected checked with
  | nil =>
    rw [walk]
    constructor
    · intro h
      exact ⟨(Except.ok.inj h).symm, [], List.Forall₂.nil, trivial,
        fun b hb => absurd hb List.not_mem_nil⟩
    · rintro ⟨rfl, -⟩
      rfl
  | cons row rest ih =>
    rw [walk_cons_valid hvalid]
    have hlength : checked + 1 + rest.length = checked + (row :: rest).length := by
      rw [List.length_cons]
      omega
    constructor
    · rintro ⟨b, hread, hprevious, hb, hwalk⟩
      obtain ⟨hresult, blocks, hblocks⟩ := ih.mp hwalk
      rw [hlength] at hresult
      exact ⟨hresult, b :: blocks, shows_cons.mpr ⟨⟨hread, hprevious, hb⟩, hblocks⟩⟩
    · rintro ⟨hresult, blocks, hshows⟩
      cases blocks with
      | nil => cases hshows.read
      | cons b blocks =>
        obtain ⟨⟨hread, hprevious, hb⟩, hblocks⟩ := shows_cons.mp hshows
        rw [← hlength] at hresult
        exact ⟨b, hread, hprevious, hb, ih.mpr ⟨hresult, blocks, hblocks⟩⟩

/-- A table is reported intact exactly when its rows show a vouched chain from the genesis hash, and
the report counts all of them. -/
theorem verifyChain_valid_iff {table : List ReceiptRow} {result : ChainVerificationResult}
    (hvalid : result.valid = true) :
    key.verifyChain table = .ok result ↔
      result = { valid := true, receiptsChecked := table.length } ∧
        ∃ blocks, key.Shows genesisHash (selectById table) blocks := by
  unfold verifyChain
  rw [walk_valid_iff hvalid, selectById, List.length_insertionSort, Nat.zero_add]

end SigningKey

/-! ## An honest table -/

theorem asUtc_load (backend : Backend) {t : DateTime} (h : t.utcoffset = some 0) :
    (backend.load t).asUtc = t := by
  cases backend with
  | postgres => exact DateTime.asUtc_of_aware (by rw [Backend.load, h]; rfl)
  | sqlite =>
    rw [DateTime.asUtc, Backend.load, if_neg (by simp)]
    cases t
    cases h
    rfl

/-- What `record` writes reads back as the receipt it signed, whatever the backend. -/
theorem readRow_row {b : SignedReceipt} (h : b.receipt.timestamp.utcoffset = some 0)
    (backend : Backend) (id : ℕ) : readRow (b.row backend id) = some b := by
  have hdomain : toDomain (b.row backend id) =
      .ok { b.receipt with signature := some (bytesHex b.signature) } := by
    unfold toDomain
    rw [show Decision.ofValue? (b.row backend id).decision = some b.receipt.decision from
      Decision.ofValue_eq_some.mpr rfl]
    simp only [SignedReceipt.row, asUtc_load backend h]
  refine readRow_eq_some.mpr ⟨_, hdomain, ?_, bytesFromHex_bytesHex b.signature⟩
  rw [← b.unsigned]

theorem selectById_of_increasing {table : List ReceiptRow}
    (h : table.Pairwise fun a b => a.id < b.id) : selectById table = table :=
  (h.imp fun hlt => Nat.le_of_lt hlt).insertionSort_eq

namespace LedgerConfig

variable {Tx : Type} {cfg : LedgerConfig Tx} {s : LedgerState Tx} {log : List (LogEntry Tx)}

theorem reads_rows {backend : Backend}
    (hutc : ∀ e ∈ log, e.entry.receipt.timestamp.utcoffset = some 0) :
    List.Forall₂ (fun row b => readRow row = some b)
      (log.map fun e => e.entry.row backend e.id) (log.map LogEntry.entry) := by
  rw [List.forall₂_map_left_iff, List.forall₂_map_right_iff, List.forall₂_same]
  exact fun e he => readRow_row (hutc e he) backend e.id

/-- The rows of linked blocks, in the order of their ids, are reported intact under exactly the keys
that vouch for every block. -/
theorem verifyChain_rows_iff {key : SigningKey} {backend : Backend}
    (hincreasing : log.Pairwise fun e f => e.id < f.id)
    (hutc : ∀ e ∈ log, e.entry.receipt.timestamp.utcoffset = some 0)
    (hlinked : key.chain.Linked genesisHash (log.map LogEntry.entry)) :
    key.verifyChain (log.map fun e => e.entry.row backend e.id) =
        .ok { valid := true, receiptsChecked := log.length } ↔
      ∀ e ∈ log, key.Vouches e.entry := by
  have hselect : selectById (log.map fun e => e.entry.row backend e.id) =
      log.map fun e => e.entry.row backend e.id := by
    apply selectById_of_increasing
    rw [List.pairwise_map]
    exact hincreasing
  rw [SigningKey.verifyChain_valid_iff rfl, hselect]
  constructor
  · rintro ⟨-, blocks, hshows⟩ e he
    have hunique : Relator.RightUnique fun row b => readRow row = some b := by
      intro row b b' hb hb'
      rw [hb] at hb'
      exact Option.some.inj hb'
    have hblocks : blocks = log.map LogEntry.entry :=
      List.right_unique_forall₂' hunique hshows.read (reads_rows hutc)
    apply hshows.vouched
    rw [hblocks]
    exact List.mem_map_of_mem he
  · intro hvouched
    refine ⟨by rw [List.length_map], log.map LogEntry.entry, reads_rows hutc, hlinked, ?_⟩
    intro b hb
    obtain ⟨e, he, rfl⟩ := List.mem_map.mp hb
    exact hvouched e he

theorem History.utc (h : History cfg s log) :
    ∀ e ∈ log, e.entry.receipt.timestamp.utcoffset = some 0 := by
  intro e he
  obtain ⟨sequenceId, timestamp, previousHash, hentry⟩ := h.recorded e he
  rw [hentry]
  exact timestamp.property

theorem History.reads (h : History cfg s log) :
    List.Forall₂ (fun row b => readRow row = some b) s.receipts (log.map LogEntry.entry) := by
  rw [h.receipts]
  exact reads_rows h.utc

/-- With a correct key, every initial segment of an honest table is reported intact. -/
theorem History.verifyChain_take (h : History cfg s log)
    (hlinked : cfg.key.chain.Linked genesisHash (log.map LogEntry.entry))
    (hcorrect : cfg.key.Correct) (k : ℕ) :
    cfg.key.verifyChain (s.receipts.take k) =
      .ok { valid := true, receiptsChecked := (s.receipts.take k).length } := by
  have hvouched : ∀ e ∈ log.take k, cfg.key.Vouches e.entry := by
    intro e he
    obtain ⟨sequenceId, timestamp, previousHash, hentry⟩ := h.recorded e (List.mem_of_mem_take he)
    rw [hentry]
    exact hcorrect _
  have hlinked' := hlinked.take k
  rw [← List.map_take] at hlinked'
  rw [h.receipts, ← List.map_take, List.length_map]
  exact (verifyChain_rows_iff (h.increasing.sublist (List.take_sublist k _))
    (fun e he => h.utc e (List.mem_of_mem_take he)) hlinked').mpr hvouched

theorem History.verifyChain (h : History cfg s log)
    (hlinked : cfg.key.chain.Linked genesisHash (log.map LogEntry.entry))
    (hcorrect : cfg.key.Correct) :
    cfg.key.verifyChain s.receipts =
      .ok { valid := true, receiptsChecked := s.receipts.length } := by
  have htake := h.verifyChain_take hlinked hcorrect s.receipts.length
  rwa [List.take_length] at htake

structure Intact (cfg : LedgerConfig Tx) (s : LedgerState Tx) (log : List (LogEntry Tx)) :
    Prop where
  /-- The table holds the rows of the log, in the order of their ids. -/
  rows : s.receipts = log.map fun e => e.entry.row cfg.backend e.id
  increasing : log.Pairwise fun e f => e.id < f.id
  /-- Every committed transaction stands in the log, once, with what it recorded. -/
  committed : ∀ t b, s.phase t = .committed b ↔ ∃ id, ⟨t, b, id⟩ ∈ log
  once : (log.map LogEntry.tx).Nodup
  head : s.chainHead =
    (log.getLast?.map fun e => cfg.key.sha256Hex e.entry.linkBytes).getD genesisHash
  first : ∀ e, log[0]? = some e → e.entry.receipt.previousHash = genesisHash
  linked : ∀ i e f, log[i]? = some e → log[i + 1]? = some f →
    f.entry.receipt.previousHash = cfg.key.sha256Hex e.entry.linkBytes
  /-- Where the hashes at hand differ, no receipt is linked twice. -/
  linked_once : cfg.key.chain.Separates genesisHash (log.map LogEntry.entry) →
    (log.map fun e => e.entry.receipt.previousHash).Nodup
  verified : cfg.key.verifyChain s.receipts =
    .ok { valid := true, receiptsChecked := s.receipts.length, firstBrokenSequenceId := none }

theorem History.intact (h : History cfg s log)
    (hlinked : cfg.key.chain.Linked genesisHash (log.map LogEntry.entry))
    (hcorrect : cfg.key.Correct) : Intact cfg s log where
  rows := h.receipts
  increasing := h.increasing
  committed := h.committed
  once := h.once
  head := by
    rw [h.head, Chaining.headFrom_eq_getLast, List.getLast?_map, Option.map_map]
    rfl
  first := by
    intro e he
    exact hlinked.previous_first (by rw [List.getElem?_map, he]; rfl)
  linked := by
    intro i e f he hf
    exact hlinked.previous_succ (by rw [List.getElem?_map, he]; rfl)
      (by rw [List.getElem?_map, hf]; rfl)
  linked_once := by
    intro hsep
    have hnodup := hlinked.previous_nodup hsep
    rwa [List.map_map] at hnodup
  verified := h.verifyChain hlinked hcorrect

/-- Whatever the replicas interleave and whatever fails, the ledger is one intact chain. -/
theorem intact_of_reachable [DecidableEq Tx] (hcorrect : cfg.key.Correct)
    (hs : cfg.system.Reachable s) : ∃ log, Intact cfg s log := by
  obtain ⟨log, hlog, hlinked⟩ := history_of_reachable hs
  exact ⟨log, hlog.intact hlinked hcorrect⟩

/-- A key whose signature of some bytes is those bytes. -/
def echoKey : SigningKey where
  sha256Hex := bytesHex
  sign := id
  verify := fun signature data => decide (signature = data)

theorem echoKey_correct : echoKey.Correct := fun _ => decide_eq_true rfl

theorem echoKey_ne_genesis (b : SignedReceipt) : bytesHex b.linkBytes ≠ genesisHash := by
  intro heq
  obtain ⟨rest, hrest⟩ := b.receipt.unsignedBytes_cons
  rw [SignedReceipt.linkBytes, hrest] at heq
  have hchars := String.ofList_injective heq
  exact absurd (List.cons.inj hchars).1 (by decide)

theorem two_intact : ∃ s, (two echoKey).system.Reachable s ∧ s.receipts.length = 2 ∧
    ∃ log, Intact (two echoKey) s log :=
  ⟨_, afterSecond_reachable echoKey, rfl,
    intact_of_reachable echoKey_correct (afterSecond_reachable echoKey)⟩

end LedgerConfig

end OpenAgentControl
