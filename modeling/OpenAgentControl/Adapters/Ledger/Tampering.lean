import OpenAgentControl.Adapters.Ledger.PostgresQuery

/-! # What tampering the walk can see

An attacker without the signing key may leave any rows in the table. If the walk accepts them they
are the first rows of the true history (`tampering_evident`). It accepts every initial segment, so
deleting the newest rows is never seen (`tailDeletion_undetected`). -/

namespace OpenAgentControl
set_option autoImplicit false
set_option maxHeartbeats 250000

open Foundations

def CollisionFree (sha256Hex : Bytes → String) (inputs : List Bytes) : Prop :=
  ∀ x ∈ inputs, ∀ y ∈ inputs, sha256Hex x = sha256Hex y → x = y

def NoGenesisPreimage (sha256Hex : Bytes → String) (inputs : List Bytes) : Prop :=
  ∀ x ∈ inputs, sha256Hex x ≠ genesisHash

/-- Two rows agree in every signed field and in their decoded signatures. -/
structure SameSigned (row row' : ReceiptRow) : Prop where
  sequenceId : row.sequenceId = row'.sequenceId
  timestamp : row.timestamp.asUtc = row'.timestamp.asUtc
  spiffeId : row.spiffeId = row'.spiffeId
  decision : row.decision = row'.decision
  reason : row.reason = row'.reason
  payloadHash : row.payloadHash = row'.payloadHash
  previousHash : row.previousHash = row'.previousHash
  enforced : row.enforced = row'.enforced
  signature : ∃ σ, bytesFromHex row.signature = some σ ∧ bytesFromHex row'.signature = some σ

theorem toDomain_fields {row : ReceiptRow} {receipt : ExecutionReceipt}
    (h : toDomain row = .ok receipt) :
    row.sequenceId = receipt.sequenceId ∧ row.timestamp.asUtc = receipt.timestamp ∧
      row.spiffeId = receipt.spiffeId ∧ row.decision = receipt.decision.value ∧
      row.reason = receipt.reason ∧ row.payloadHash = receipt.payloadHash ∧
      row.previousHash = receipt.previousHash ∧ row.enforced = receipt.enforced := by
  unfold toDomain at h
  split at h
  case h_1 => cases h
  case h_2 decision hdecision =>
    cases h
    exact ⟨rfl, rfl, rfl, Decision.ofValue_eq_some.mp hdecision, rfl, rfl, rfl, rfl⟩

theorem sameSigned_of_read {row row' : ReceiptRow} {b : SignedReceipt} (h : readRow row = some b)
    (h' : readRow row' = some b) : SameSigned row row' := by
  obtain ⟨receipt, hdomain, hreceipt, hsignature⟩ := readRow_eq_some.mp h
  obtain ⟨receipt', hdomain', hreceipt', hsignature'⟩ := readRow_eq_some.mp h'
  rw [hreceipt] at hreceipt'
  simp only [ExecutionReceipt.mk.injEq] at hreceipt'
  obtain ⟨h1, h2, h3, h4, h5, h6, h7, -, h8⟩ := hreceipt'
  obtain ⟨f1, f2, f3, f4, f5, f6, f7, f8⟩ := toDomain_fields hdomain
  obtain ⟨g1, g2, g3, g4, g5, g6, g7, g8⟩ := toDomain_fields hdomain'
  exact ⟨by rw [f1, g1, h1], by rw [f2, g2, h2], by rw [f3, g3, h3], by rw [f4, g4, h4],
    by rw [f5, g5, h5], by rw [f6, g6, h6], by rw [f7, g7, h7], by rw [f8, g8, h8],
    b.signature, hsignature, hsignature'⟩

namespace LedgerConfig

variable {Tx : Type} {cfg : LedgerConfig Tx} {s : LedgerState Tx} {log : List (LogEntry Tx)}

def history (s : LedgerState Tx) : List SignedReceipt := s.receipts.filterMap readRow

/-- The public key verifies exactly what the signer signed for the receipts of the history. -/
def VerifiesHistory (key : SigningKey) (blocks : List SignedReceipt) : Prop :=
  ∀ signature data, key.verify signature data = true ↔
    ∃ b ∈ blocks, data = b.receipt.unsignedBytes ∧ signature = b.signature

theorem filterMap_of_forall₂ {rows : List ReceiptRow} {blocks : List SignedReceipt}
    (h : List.Forall₂ (fun row b => readRow row = some b) rows blocks) :
    rows.filterMap readRow = blocks := by
  induction h with
  | nil => rfl
  | cons hread _ ih => rw [List.filterMap_cons, hread, ih]

theorem History.history_eq (h : History cfg s log) : history s = log.map LogEntry.entry :=
  filterMap_of_forall₂ h.reads

theorem mem_of_vouches {key : SigningKey} {blocks : List SignedReceipt} {b : SignedReceipt}
    (hkey : VerifiesHistory key blocks) (hb : key.Vouches b) : b ∈ blocks := by
  obtain ⟨b', hmem, hdata, hsignature⟩ := (hkey b.signature b.receipt.unsignedBytes).mp hb
  have hsame : b = b' := by
    apply SignedReceipt.linkBytes_inj
    rw [SignedReceipt.linkBytes, SignedReceipt.linkBytes, hdata, hsignature]
  rw [hsame]
  exact hmem

theorem separates_of_collisionFree {key : SigningKey} {blocks : List SignedReceipt}
    (hcollision : CollisionFree key.sha256Hex (blocks.map SignedReceipt.linkBytes))
    (hgenesis : NoGenesisPreimage key.sha256Hex (blocks.map SignedReceipt.linkBytes)) :
    key.chain.Separates genesisHash blocks where
  link_inj := by
    intro a ha b hb hlink
    exact SignedReceipt.linkBytes_inj
      (hcollision _ (List.mem_map_of_mem ha) _ (List.mem_map_of_mem hb) hlink)
  link_ne_genesis := fun a ha => hgenesis _ (List.mem_map_of_mem ha)

/-- Tamper evidence: a table that verifies is an initial segment of the true history. -/
theorem tampering_evident [DecidableEq Tx] (hs : cfg.system.Reachable s)
    (hkey : VerifiesHistory cfg.key (history s))
    (hcollision : CollisionFree cfg.key.sha256Hex ((history s).map SignedReceipt.linkBytes))
    (hgenesis : NoGenesisPreimage cfg.key.sha256Hex ((history s).map SignedReceipt.linkBytes))
    {table : List ReceiptRow} {k : ℕ} {broken : Option String}
    (hvalid : cfg.key.verifyChain table = .ok ⟨true, k, broken⟩) :
    k = table.length ∧ broken = none ∧ k ≤ s.receipts.length ∧
      ∀ i < k, ∃ row row', (selectById table)[i]? = some row ∧ s.receipts[i]? = some row' ∧
        SameSigned row row' := by
  obtain ⟨log, hlog, hlinked⟩ := history_of_reachable hs
  rw [hlog.history_eq] at hkey hcollision hgenesis
  obtain ⟨hresult, blocks, hshows⟩ := (SigningKey.verifyChain_valid_iff rfl).mp hvalid
  simp only [ChainVerificationResult.mk.injEq, true_and] at hresult
  obtain ⟨rfl, rfl⟩ := hresult
  obtain ⟨rest, hrest⟩ := hlinked.isPrefix_of_subset
    (separates_of_collisionFree hcollision hgenesis) hshows.linked
    (fun b hb => mem_of_vouches hkey (hshows.vouched b hb))
  have hreads := hlog.reads
  rw [← hrest] at hreads
  have hlength : (selectById table).length = table.length := List.length_insertionSort _ _
  have hblocks : blocks.length = table.length := by rw [← hshows.read.length_eq, hlength]
  have hrows : s.receipts.length = blocks.length + rest.length := by
    rw [hreads.length_eq, List.length_append]
  refine ⟨rfl, rfl, by omega, ?_⟩
  intro i hi
  have hi' : i < (selectById table).length := by omega
  have hi'' : i < s.receipts.length := by omega
  have hib : i < blocks.length := by omega
  refine ⟨(selectById table)[i], s.receipts[i], List.getElem?_eq_getElem hi',
    List.getElem?_eq_getElem hi'', ?_⟩
  have hread := hshows.read.get hi' hib
  have hread' := hreads.get hi'' (by rw [List.length_append]; omega)
  simp only [List.get_eq_getElem] at hread hread'
  rw [List.getElem_append_left hib] at hread'
  exact sameSigned_of_read hread hread'

/-- A key that knows nothing but what it has signed of the two receipts. -/
def twoKey : SigningKey :=
  { echoKey with
    verify := fun signature data => [oneEntry echoKey, secondEntry echoKey].any fun b =>
      decide (data = b.receipt.unsignedBytes ∧ signature = b.signature) }

theorem twoKey_verify (signature data : Bytes) : twoKey.verify signature data = true ↔
    ∃ b ∈ [oneEntry echoKey, secondEntry echoKey],
      data = b.receipt.unsignedBytes ∧ signature = b.signature := by
  simp [twoKey]

theorem oneEntry_twoKey : oneEntry twoKey = oneEntry echoKey :=
  SigningKey.signed_congr rfl rfl _ _ _ _

theorem secondEntry_twoKey : secondEntry twoKey = secondEntry echoKey := by
  rw [secondEntry, oneEntry_twoKey]
  exact SigningKey.signed_congr rfl rfl _ _ _ _

theorem afterSecond_history :
    history (afterSecond twoKey) = [oneEntry echoKey, secondEntry echoKey] := by
  have hread : readRow ((oneEntry echoKey).row .postgres 1) = some (oneEntry echoKey) :=
    readRow_row rfl .postgres 1
  have hread' : readRow ((secondEntry echoKey).row .postgres 2) = some (secondEntry echoKey) :=
    readRow_row rfl .postgres 2
  rw [history, afterSecond_receipts, oneEntry_twoKey, secondEntry_twoKey, List.filterMap_cons, hread,
    List.filterMap_cons, hread']
  rfl

/-- The attacker leaves the first of two receipts. -/
theorem two_tampering_evident : ∃ s, (two twoKey).system.Reachable s ∧ s.receipts.length = 2 ∧
    1 = (s.receipts.take 1).length ∧ (none : Option String) = none ∧ 1 ≤ s.receipts.length ∧
      ∀ i < 1, ∃ row row', (selectById (s.receipts.take 1))[i]? = some row ∧
        s.receipts[i]? = some row' ∧ SameSigned row row' := by
  have hkey : VerifiesHistory twoKey (history (afterSecond twoKey)) := by
    rw [afterSecond_history]
    exact twoKey_verify
  have hvalid : twoKey.verifyChain ((afterSecond twoKey).receipts.take 1) = .ok ⟨true, 1, none⟩ := by
    have hread : readRow ((oneEntry twoKey).row .postgres 1) = some (oneEntry twoKey) :=
      readRow_row rfl .postgres 1
    rw [SigningKey.verifyChain_valid_iff rfl, afterSecond_receipts]
    refine ⟨rfl, [oneEntry twoKey], .cons hread .nil, ⟨rfl, trivial⟩, ?_⟩
    intro b hb
    rw [List.mem_singleton.mp hb, oneEntry_twoKey]
    exact (twoKey_verify _ _).mpr ⟨_, List.mem_cons_self, rfl, rfl⟩
  refine ⟨_, afterSecond_reachable twoKey, rfl,
    tampering_evident (afterSecond_reachable twoKey) hkey ?_ ?_ hvalid⟩
  · intro x _ y _ hsame
    exact bytesHex_injective hsame
  · rw [afterSecond_history]
    intro x hx
    obtain ⟨b, -, rfl⟩ := List.mem_map.mp hx
    exact echoKey_ne_genesis b

/-- Deleting the rows after the first `k` makes the walk report a break. -/
def TailDeletionDetected (key : SigningKey) (s : LedgerState Tx) (k : ℕ) : Prop :=
  ∃ result, key.verifyChain (s.receipts.take k) = .ok result ∧ result.valid = false

/-- No deletion of the newest rows is ever seen: what is left is reported intact. -/
theorem tailDeletion_undetected [DecidableEq Tx] (hcorrect : cfg.key.Correct)
    (hs : cfg.system.Reachable s) {k : ℕ} (hk : k < s.receipts.length) :
    ¬ TailDeletionDetected cfg.key s k ∧
      cfg.key.verifyChain (s.receipts.take k) = .ok { valid := true, receiptsChecked := k } := by
  obtain ⟨log, hlog, hlinked⟩ := history_of_reachable hs
  have hverify := hlog.verifyChain_take hlinked hcorrect k
  rw [List.length_take_of_le (Nat.le_of_lt hk)] at hverify
  refine ⟨?_, hverify⟩
  rintro ⟨result, hresult, hinvalid⟩
  rw [hverify] at hresult
  cases hresult
  cases hinvalid

theorem one_tailDeletion : ∃ s, (one echoKey).system.Reachable s ∧ s.receipts.length = 1 ∧
    ¬ TailDeletionDetected echoKey s 0 ∧
      echoKey.verifyChain (s.receipts.take 0) = .ok { valid := true, receiptsChecked := 0 } := by
  obtain ⟨s, hs, hrows, -⟩ := one_reachable echoKey
  exact ⟨s, hs, by rw [hrows]; rfl,
    tailDeletion_undetected echoKey_correct hs (by rw [hrows]; decide)⟩

/-- The emptied table of a ledger with a receipt, whose head is no longer the genesis hash. -/
theorem emptied_table_intact : ∃ s, (one echoKey).system.Reachable s ∧ s.receipts.length = 1 ∧
    s.chainHead ≠ genesisHash ∧
    echoKey.verifyChain (s.receipts.take 0) = .ok { valid := true, receiptsChecked := 0 } := by
  obtain ⟨s, hs, hrows, hhead⟩ := one_reachable echoKey
  refine ⟨s, hs, by rw [hrows]; rfl, ?_, rfl⟩
  rw [hhead]
  exact echoKey_ne_genesis _

end LedgerConfig

end OpenAgentControl
