import OpenAgentControl.Adapters.Ledger.PostgresQuery

/-! # What the walk reports on any table

The table may hold anything. `verdict` is the report an auditor expects of it: how many leading rows
are sound, and the row after them. The walk gives exactly that report, or it raises, and the row on
which it raises is the first one that is not sound (`verifyChain_eq`). -/

namespace OpenAgentControl
set_option autoImplicit false
set_option maxHeartbeats 250000

open Foundations

namespace SigningKey

variable (key : SigningKey)

/-! ## Sound rows -/

/-- The signed receipt of a row that links to the expected hash and whose signature verifies. -/
def soundBlock? (expected : String) (row : ReceiptRow) : Option SignedReceipt :=
  match readRow row with
  | some b =>
    if b.receipt.previousHash = expected ∧ key.verify b.signature b.receipt.unsignedBytes = true then
      some b
    else none
  | none => none

/-- The leading rows that are sound, each against the hash of the one before it. -/
def soundBlocks : String → List ReceiptRow → List SignedReceipt
  | _, [] => []
  | expected, row :: rest =>
    match key.soundBlock? expected row with
    | some b => b :: soundBlocks (key.chain.link b) rest
    | none => []

/-- The report on rows of which these are the sound ones, `checked` rows into the table. -/
def report (checked : ℕ) (blocks : List SignedReceipt) (rows : List ReceiptRow) :
    ChainVerificationResult where
  valid := decide (blocks.length = rows.length)
  receiptsChecked := checked + blocks.length
  firstBrokenSequenceId := rows[blocks.length]?.map ReceiptRow.sequenceId

/-- The report an auditor expects of a table. -/
def verdict (table : List ReceiptRow) : ChainVerificationResult :=
  let rows := selectById table
  report 0 (key.soundBlocks genesisHash rows) rows

/-- A row the walk can report as broken: its decision is one, and it names another hash than the
expected one or has a signature in hexadecimal. -/
def Reportable (expected : String) (row : ReceiptRow) : Prop :=
  (Decision.ofValue? row.decision).isSome = true ∧
    (row.previousHash = expected → (bytesFromHex row.signature).isSome = true)

instance (expected : String) (row : ReceiptRow) : Decidable (Reportable expected row) := by
  unfold Reportable
  infer_instance

/-- The row after the sound ones, if there is one, can be reported. -/
def BreakReportable (expected : String) (rows : List ReceiptRow) : Prop :=
  let blocks := key.soundBlocks expected rows
  ∀ row, rows[blocks.length]? = some row → Reportable (key.chain.headFrom expected blocks) row

def FirstBreakReportable (table : List ReceiptRow) : Prop :=
  key.BreakReportable genesisHash (selectById table)

/-! ## One row -/

variable {key} {expected : String} {checked : ℕ} {row : ReceiptRow} {rest : List ReceiptRow}

theorem soundBlock_eq_some {b : SignedReceipt} :
    key.soundBlock? expected row = some b ↔
      readRow row = some b ∧ key.chain.previous b = expected ∧ key.Vouches b := by
  unfold soundBlock?
  cases hread : readRow row with
  | none => simp
  | some b' =>
    simp only [Option.some.injEq]
    constructor
    · intro h
      split_ifs at h with hsound
      obtain rfl := Option.some.inj h
      exact ⟨rfl, hsound⟩
    · rintro ⟨rfl, hsound⟩
      exact if_pos hsound

theorem soundBlocks_of_sound {b : SignedReceipt} (h : key.soundBlock? expected row = some b) :
    key.soundBlocks expected (row :: rest) = b :: key.soundBlocks (key.chain.link b) rest := by
  rw [soundBlocks, h]

theorem soundBlocks_of_unsound (h : key.soundBlock? expected row = none) :
    key.soundBlocks expected (row :: rest) = [] := by
  rw [soundBlocks, h]

theorem toDomain_of_decision {decision : Decision} (h : Decision.ofValue? row.decision = some decision) :
    ∃ receipt, toDomain row = .ok receipt ∧ receipt.previousHash = row.previousHash ∧
      receipt.sequenceId = row.sequenceId := by
  unfold toDomain
  rw [h]
  exact ⟨_, rfl, rfl, rfl⟩

theorem walk_of_sound {b : SignedReceipt} (h : key.soundBlock? expected row = some b) :
    key.walk expected checked (row :: rest) = key.walk (key.chain.link b) (checked + 1) rest := by
  obtain ⟨hread, hprevious, hvouches⟩ := soundBlock_eq_some.mp h
  obtain ⟨receipt, hdomain, hreceipt, hsignature⟩ := readRow_eq_some.mp hread
  have hprevious' : receipt.previousHash = expected := by
    rw [← hprevious]
    simp only [chain, hreceipt]
  have hverify : key.verify b.signature receipt.unsignedBytes = true := by
    have hbytes : b.receipt.unsignedBytes = receipt.unsignedBytes := by
      rw [hreceipt]
      rfl
    rw [← hbytes]
    exact hvouches
  have hlink : key.chain.link b = key.sha256Hex (receipt.unsignedBytes ++ b.signature) := by
    simp only [chain, SignedReceipt.linkBytes, hreceipt]
    rfl
  rw [walk, hdomain, hlink]
  simp only [bind, Except.bind, toDomain_signature hdomain, Option.getD_some, hsignature,
    hprevious', ne_eq, not_true_eq_false, if_false, hverify, if_true]

/-- At a row that is not sound the walk ends: with a report that names it, or by raising. -/
theorem walk_of_unsound (h : key.soundBlock? expected row = none) :
    key.walk expected checked (row :: rest) =
      if Reportable expected row then
        .ok { valid := false
              receiptsChecked := checked
              firstBrokenSequenceId := some row.sequenceId }
      else .error valueError := by
  cases hdecision : Decision.ofValue? row.decision with
  | none =>
    have hnot : ¬ Reportable expected row := by
      rintro ⟨hsome, -⟩
      rw [hdecision] at hsome
      cases hsome
    have hdomain : toDomain row = .error valueError := by
      unfold toDomain
      rw [hdecision]
    rw [if_neg hnot, walk, hdomain]
    rfl
  | some decision =>
    obtain ⟨receipt, hdomain, hprevious, hsequence⟩ := toDomain_of_decision hdecision
    rw [walk, hdomain]
    simp only [bind, Except.bind, toDomain_signature hdomain, Option.getD_some, hprevious,
      hsequence]
    by_cases hlinked : row.previousHash = expected
    · rw [if_neg (not_not.mpr hlinked)]
      cases hsignature : bytesFromHex row.signature with
      | none =>
        have hnot : ¬ Reportable expected row := by
          rintro ⟨-, hhex⟩
          have hsome := hhex hlinked
          rw [hsignature] at hsome
          cases hsome
        rw [if_neg hnot]
      | some signature =>
        have hreport : Reportable expected row := by
          refine ⟨by rw [hdecision]; rfl, fun _ => ?_⟩
          rw [hsignature]
          rfl
        have hread : readRow row = some ⟨{ receipt with signature := none }, signature, rfl⟩ :=
          readRow_eq_some.mpr ⟨receipt, hdomain, rfl, hsignature⟩
        have hverify : ¬ key.verify signature receipt.unsignedBytes = true := by
          intro hverify
          have hsound := soundBlock_eq_some.mpr ⟨hread, hprevious.trans hlinked, hverify⟩
          rw [h] at hsound
          cases hsound
        rw [if_pos hreport]
        simp only [hverify, Bool.false_eq_true, if_false]
        rfl
    · have hreport : Reportable expected row :=
        ⟨by rw [hdecision]; rfl, fun hlinked' => absurd hlinked' hlinked⟩
      rw [if_pos hlinked, if_pos hreport]
      rfl

/-! ## The whole table -/

theorem breakReportable_of_sound {b : SignedReceipt} (h : key.soundBlock? expected row = some b) :
    key.BreakReportable expected (row :: rest) ↔ key.BreakReportable (key.chain.link b) rest := by
  unfold BreakReportable
  rw [soundBlocks_of_sound h]
  rfl

theorem breakReportable_of_unsound (h : key.soundBlock? expected row = none) :
    key.BreakReportable expected (row :: rest) ↔ Reportable expected row := by
  unfold BreakReportable
  rw [soundBlocks_of_unsound h]
  simp [Chaining.headFrom]

/-- The walk reports what the rows are, or raises on the row after the sound ones. -/
theorem walk_eq (expected : String) (checked : ℕ) (rows : List ReceiptRow) :
    (key.BreakReportable expected rows ∧
      key.walk expected checked rows =
        .ok (report checked (key.soundBlocks expected rows) rows)) ∨
    (¬ key.BreakReportable expected rows ∧
      key.walk expected checked rows = .error valueError) := by
  induction rows generalizing expected checked with
  | nil => exact Or.inl ⟨nofun, rfl⟩
  | cons row rest ih =>
    cases hblock : key.soundBlock? expected row with
    | none =>
      rw [walk_of_unsound hblock, breakReportable_of_unsound hblock, soundBlocks_of_unsound hblock]
      by_cases hreport : Reportable expected row
      · rw [if_pos hreport]
        exact Or.inl ⟨hreport, rfl⟩
      · rw [if_neg hreport]
        exact Or.inr ⟨hreport, rfl⟩
    | some b =>
      have hreport : report (checked + 1) (key.soundBlocks (key.chain.link b) rest) rest =
          report checked (b :: key.soundBlocks (key.chain.link b) rest) (row :: rest) := by
        simp only [report, List.length_cons, List.getElem?_cons_succ, Nat.add_right_cancel_iff,
          ChainVerificationResult.mk.injEq, true_and, and_true]
        omega
      rw [walk_of_sound hblock, breakReportable_of_sound hblock, soundBlocks_of_sound hblock,
        ← hreport]
      exact ih (key.chain.link b) (checked + 1)

variable (key) in
/-- `verify_chain` gives the report expected of a table exactly when the first row that is not sound,
if there is one, can be reported; otherwise it raises. -/
theorem verifyChain_eq_verdict_iff (table : List ReceiptRow) :
    (key.verifyChain table = .ok (key.verdict table) ↔ key.FirstBreakReportable table) ∧
      ((∃ e, key.verifyChain table = .error e) ↔ ¬ key.FirstBreakReportable table) := by
  unfold verifyChain verdict FirstBreakReportable
  obtain ⟨hreport, hwalk⟩ | ⟨hreport, hwalk⟩ := key.walk_eq genesisHash 0 (selectById table)
  · rw [hwalk]
    exact ⟨iff_of_true rfl hreport, iff_of_false nofun (not_not.mpr hreport)⟩
  · rw [hwalk]
    exact ⟨iff_of_false nofun hreport, iff_of_true ⟨_, rfl⟩ hreport⟩

/-- One row that says neither ALLOW nor DENY. -/
def garbledRow : ReceiptRow where
  id := 1
  sequenceId := "receipt-1"
  timestamp := epoch
  spiffeId := "spiffe://corp/agent"
  decision := "MAYBE"
  reason := ""
  payloadHash := ""
  previousHash := genesisHash
  signature := ""
  enforced := true

theorem garbledRow_unreported :
    LedgerConfig.echoKey.verifyChain [garbledRow] = .error valueError ∧
      LedgerConfig.echoKey.verdict [garbledRow] =
        { valid := false
          receiptsChecked := 0
          firstBrokenSequenceId := some "receipt-1" } :=
  ⟨rfl, rfl⟩

end SigningKey

end OpenAgentControl
