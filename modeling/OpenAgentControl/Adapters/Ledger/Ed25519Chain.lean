import OpenAgentControl.Foundations.Machine
import OpenAgentControl.Adapters.Ledger.PostgresQuery

/-! # The in-memory ledger beside the Postgres one

`Ed25519ChainLedger.record` and `PostgresLedger.record` as machines that take one call after another.
What happens outside the two adapters is part of the call: the id and the time it draws, and what its
signer does with the bytes. The database is a parameter too: beyond the unique column of the schema it
may refuse any row. The ledgers agree exactly as long as it refuses none (`ledgers_agree_iff`), and
whatever it refuses, the table it keeps is reported intact (`finish_verifies`). -/

namespace OpenAgentControl
set_option autoImplicit false
set_option maxHeartbeats 250000

open Foundations

/-- One call of `record`, with what it draws and what its signer does. -/
structure LedgerCall where
  call : RecordCall
  sequenceId : String
  timestamp : UtcTime
  sign : Bytes → Except Exc Bytes

/-- The row `record` adds for a receipt, as it is read back. -/
def ExecutionReceipt.row (receipt : ExecutionReceipt) (backend : Backend) (id : ℕ) :
    ReceiptRow where
  id
  sequenceId := receipt.sequenceId
  timestamp := backend.load receipt.timestamp
  spiffeId := receipt.spiffeId
  decision := receipt.decision.value
  reason := receipt.reason
  payloadHash := receipt.payloadHash
  previousHash := receipt.previousHash
  signature := receipt.signature.getD ""
  enforced := receipt.enforced

/-- `execution_receipts`, the row of `chain_state`, and the next id of the table. -/
structure LedgerTables where
  receipts : List ReceiptRow
  chainHead : String
  nextId : ℕ

def LedgerTables.initial (firstId : ℕ) : LedgerTables where
  receipts := []
  chainHead := genesisHash
  nextId := firstId

/-! ## The two adapters -/

/-- The state is `_previous_hash`. -/
def Ed25519ChainLedger.record (key : SigningKey) :
    Machine LedgerCall Exc ExecutionReceipt String := fun c previousHash =>
  let payloadHash := key.sha256Hex (canonicalJson c.call.request.modelDump)
  let receipt : ExecutionReceipt :=
    { sequenceId := c.sequenceId
      timestamp := c.timestamp.val
      spiffeId := c.call.agent.spiffeId
      decision := c.call.decision.decision
      reason := c.call.decision.reason
      payloadHash
      previousHash
      enforced := c.call.enforced }
  let unsignedBytes := receipt.unsignedBytes
  match c.sign unsignedBytes with
  | .error e => (.error e, previousHash)
  | .ok signature =>
    (.ok { receipt with signature := some (bytesHex signature) },
      key.sha256Hex (unsignedBytes ++ signature))

/-- The insert of a flushed session. -/
def LedgerTables.insert (refusal : ReceiptRow → Option Exc) (tables : LedgerTables)
    (row : ReceiptRow) : Except Exc (List ReceiptRow) :=
  if row.sequenceId ∈ tables.receipts.map ReceiptRow.sequenceId then .error integrityError
  else
    match refusal row with
    | some e => .error e
    | none => .ok (tables.receipts ++ [row])

/-- An exception rolls the transaction back; the id it drew stays drawn. -/
def PostgresLedger.record (key : SigningKey) (backend : Backend)
    (refusal : ReceiptRow → Option Exc) :
    Machine LedgerCall Exc ExecutionReceipt LedgerTables := fun c tables =>
  let payloadHash := key.sha256Hex (canonicalJson c.call.request.modelDump)
  let receipt : ExecutionReceipt :=
    { sequenceId := c.sequenceId
      timestamp := c.timestamp.val
      spiffeId := c.call.agent.spiffeId
      decision := c.call.decision.decision
      reason := c.call.decision.reason
      payloadHash
      previousHash := tables.chainHead
      enforced := c.call.enforced }
  let unsignedBytes := receipt.unsignedBytes
  match c.sign unsignedBytes with
  | .error e => (.error e, tables)
  | .ok signature =>
    let receipt := { receipt with signature := some (bytesHex signature) }
    match tables.insert refusal (receipt.row backend tables.nextId) with
    | .error e => (.error e, { tables with nextId := tables.nextId + 1 })
    | .ok receipts =>
      (.ok receipt,
        { receipts
          chainHead := key.sha256Hex (unsignedBytes ++ signature)
          nextId := tables.nextId + 1 })

/-! ## One call -/

/-- What either ledger signs when it stands at this head. -/
def LedgerCall.signed (c : LedgerCall) (key : SigningKey) (previousHash : String) :
    Except Exc SignedReceipt :=
  let receipt := key.receiptFor c.call c.sequenceId c.timestamp previousHash
  (c.sign receipt.unsignedBytes).map fun signature => ⟨receipt, signature, rfl⟩

section Calls

variable {key : SigningKey} {backend : Backend} {refusal : ReceiptRow → Option Exc}
variable {c : LedgerCall} {b : SignedReceipt} {tables : LedgerTables}

theorem LedgerTables.insert_eq_ok {row : ReceiptRow} {receipts : List ReceiptRow} :
    tables.insert refusal row = .ok receipts ↔
      row.sequenceId ∉ tables.receipts.map ReceiptRow.sequenceId ∧ refusal row = none ∧
        receipts = tables.receipts ++ [row] := by
  unfold insert
  split
  · next hmem => simp [hmem]
  · next hmem =>
    cases hrefusal : refusal row with
    | none => simp [hmem, eq_comm]
    | some e => simp

theorem LedgerCall.signed_receipt {previousHash : String} (h : c.signed key previousHash = .ok b) :
    b.receipt = key.receiptFor c.call c.sequenceId c.timestamp previousHash := by
  unfold signed at h
  cases hsign : c.sign (key.receiptFor c.call c.sequenceId c.timestamp previousHash).unsignedBytes with
  | error e => simp [hsign, Except.map] at h
  | ok signature =>
    simp only [hsign, Except.map, Except.ok.injEq] at h
    subst h
    rfl

theorem LedgerCall.signed_previous {previousHash : String}
    (h : c.signed key previousHash = .ok b) : key.chain.previous b = previousHash :=
  congrArg ExecutionReceipt.previousHash (signed_receipt h)

/-- A signer that, when it answers, gives the signature of this key. -/
theorem LedgerCall.signed_eq {previousHash : String} (h : c.signed key previousHash = .ok b)
    (hsign : ∀ data signature, c.sign data = .ok signature → signature = key.sign data) :
    b = key.signed c.call c.sequenceId c.timestamp previousHash := by
  unfold signed at h
  cases hsigned : c.sign (key.receiptFor c.call c.sequenceId c.timestamp previousHash).unsignedBytes with
  | error e => simp [hsigned, Except.map] at h
  | ok signature =>
    simp only [hsigned, Except.map, Except.ok.injEq] at h
    rw [← h, hsign _ _ hsigned]
    rfl

theorem Ed25519ChainLedger.record_eq (key : SigningKey) (c : LedgerCall) (previousHash : String) :
    Ed25519ChainLedger.record key c previousHash =
      match c.signed key previousHash with
      | .error e => (.error e, previousHash)
      | .ok b => (.ok b.toReceipt, key.chain.link b) := by
  simp only [record, LedgerCall.signed, SigningKey.receiptFor]
  split
  · next hsign => simp only [hsign, Except.map]
  · next hsign => simp only [hsign, Except.map]; rfl

theorem PostgresLedger.record_eq (key : SigningKey) (backend : Backend)
    (refusal : ReceiptRow → Option Exc) (c : LedgerCall) (tables : LedgerTables) :
    PostgresLedger.record key backend refusal c tables =
      match c.signed key tables.chainHead with
      | .error e => (.error e, tables)
      | .ok b =>
        match tables.insert refusal (b.toReceipt.row backend tables.nextId) with
        | .error e => (.error e, { tables with nextId := tables.nextId + 1 })
        | .ok receipts =>
          (.ok b.toReceipt,
            { receipts, chainHead := key.chain.link b, nextId := tables.nextId + 1 }) := by
  simp only [record, LedgerCall.signed, SigningKey.receiptFor]
  split
  · next hsign => simp only [hsign, Except.map]
  · next hsign => simp only [hsign, Except.map]; rfl

theorem Ed25519ChainLedger.record_answered {previousHash : String} {receipt : ExecutionReceipt}
    (h : (record key c previousHash).1 = .ok receipt) :
    ∃ b, c.signed key previousHash = .ok b ∧ receipt = b.toReceipt := by
  rw [record_eq] at h
  cases hsigned : c.signed key previousHash with
  | error e => simp [hsigned] at h
  | ok b =>
    simp only [hsigned, Except.ok.injEq] at h
    exact ⟨b, rfl, h.symm⟩

theorem Ed25519ChainLedger.keeps_chain (key : SigningKey) :
    key.chain.KeptBy (record key) id SignedReceipt.toReceipt where
  failed := by
    intro c previousHash e h
    rw [record_eq] at h ⊢
    cases hsigned : c.signed key previousHash with
    | error e' => rfl
    | ok b => simp [hsigned] at h
  answered := by
    intro c previousHash a h
    obtain ⟨b, hsigned, ha⟩ := record_answered h
    refine ⟨b, ha, c.signed_previous hsigned, ?_⟩
    rw [record_eq, hsigned]
    rfl

/-- What one call of the Postgres ledger can do: raise and leave the rows and the head, or add the
row of the receipt it returns and move the head past it. -/
theorem PostgresLedger.record_cases (key : SigningKey) (backend : Backend)
    (refusal : ReceiptRow → Option Exc) (c : LedgerCall) (tables : LedgerTables) :
    (∃ e, (record key backend refusal c tables).1 = .error e ∧
      (record key backend refusal c tables).2.receipts = tables.receipts ∧
      (record key backend refusal c tables).2.chainHead = tables.chainHead ∧
      tables.nextId ≤ (record key backend refusal c tables).2.nextId) ∨
    ∃ b, c.signed key tables.chainHead = .ok b ∧
      b.receipt.sequenceId ∉ tables.receipts.map ReceiptRow.sequenceId ∧
      (record key backend refusal c tables).1 = .ok b.toReceipt ∧
      (record key backend refusal c tables).2 =
        { receipts := tables.receipts ++ [b.toReceipt.row backend tables.nextId]
          chainHead := key.chain.link b
          nextId := tables.nextId + 1 } := by
  rw [record_eq]
  cases hsigned : c.signed key tables.chainHead with
  | error e => exact Or.inl ⟨e, rfl, rfl, rfl, le_refl _⟩
  | ok b =>
    cases hinsert : tables.insert refusal (b.toReceipt.row backend tables.nextId) with
    | error e =>
      exact Or.inl ⟨e, by simp [hinsert], by simp [hinsert], by simp [hinsert], by simp [hinsert]⟩
    | ok receipts =>
      obtain ⟨hfresh, -, rfl⟩ := LedgerTables.insert_eq_ok.mp hinsert
      exact Or.inr ⟨b, rfl, hfresh, by simp [hinsert], by simp [hinsert]⟩

theorem PostgresLedger.record_failed {key : SigningKey} {backend : Backend}
    {refusal : ReceiptRow → Option Exc} {c : LedgerCall} {tables : LedgerTables} {e : Exc}
    (h : (record key backend refusal c tables).1 = .error e) :
    (record key backend refusal c tables).2.receipts = tables.receipts ∧
      (record key backend refusal c tables).2.chainHead = tables.chainHead := by
  obtain ⟨e', -, hreceipts, hhead, -⟩ | ⟨b, -, -, hok, -⟩ := record_cases key backend refusal c tables
  · exact ⟨hreceipts, hhead⟩
  · rw [hok] at h
    cases h

theorem PostgresLedger.record_answered {receipt : ExecutionReceipt}
    (h : (record key backend refusal c tables).1 = .ok receipt) :
    ∃ b, c.signed key tables.chainHead = .ok b ∧ receipt = b.toReceipt := by
  obtain ⟨e, herror, -⟩ | ⟨b, hsigned, -, hok, -⟩ := record_cases key backend refusal c tables
  · rw [herror] at h
    cases h
  · rw [hok] at h
    exact ⟨b, hsigned, (Except.ok.inj h).symm⟩

theorem PostgresLedger.keeps_chain (key : SigningKey) (backend : Backend)
    (refusal : ReceiptRow → Option Exc) :
    key.chain.KeptBy (record key backend refusal) LedgerTables.chainHead
      SignedReceipt.toReceipt where
  failed := fun c tables e h => (record_failed h).2
  answered := by
    intro c tables a h
    obtain ⟨e, herror, -⟩ | ⟨b, hsigned, -, hok, hnext⟩ := record_cases key backend refusal c tables
    · rw [herror] at h
      cases h
    · rw [hok] at h
      exact ⟨b, (Except.ok.inj h).symm, c.signed_previous hsigned, by rw [hnext]⟩

/-! ## Any number of calls -/

/-- The table can take the rows of these receipts, one after the other. -/
structure Storable (backend : Backend) (refusal : ReceiptRow → Option Exc) (tables : LedgerTables)
    (receipts : List ExecutionReceipt) : Prop where
  distinct : (receipts.map ExecutionReceipt.sequenceId).Nodup
  fresh : ∀ receipt ∈ receipts,
    receipt.sequenceId ∉ tables.receipts.map ReceiptRow.sequenceId
  taken : ∀ p ∈ receipts.zipIdx tables.nextId, refusal (p.1.row backend p.2) = none

theorem storable_nil : Storable backend refusal tables [] := ⟨List.nodup_nil, by simp, by simp⟩

theorem storable_cons {receipt : ExecutionReceipt} {receipts : List ExecutionReceipt}
    (head : String) :
    Storable backend refusal tables (receipt :: receipts) ↔
      (receipt.sequenceId ∉ tables.receipts.map ReceiptRow.sequenceId ∧
        refusal (receipt.row backend tables.nextId) = none) ∧
      Storable backend refusal
        { receipts := tables.receipts ++ [receipt.row backend tables.nextId]
          chainHead := head
          nextId := tables.nextId + 1 } receipts := by
  constructor
  · rintro ⟨hdistinct, hfresh, htaken⟩
    rw [List.map_cons, List.nodup_cons] at hdistinct
    rw [List.forall_mem_cons] at hfresh
    rw [List.zipIdx_cons, List.forall_mem_cons] at htaken
    refine ⟨⟨hfresh.1, htaken.1⟩, hdistinct.2, ?_, htaken.2⟩
    intro r hr hmem
    rw [List.map_append, List.mem_append, List.map_singleton, List.mem_singleton] at hmem
    obtain hold | hnew := hmem
    · exact hfresh.2 r hr hold
    · exact hdistinct.1 (List.mem_map.mpr ⟨r, hr, hnew⟩)
  · rintro ⟨⟨hfirst, hrow⟩, hdistinct, hfresh, htaken⟩
    simp only [List.map_append, List.mem_append, List.map_singleton, List.mem_singleton,
      not_or] at hfresh
    refine ⟨?_, ?_, ?_⟩
    · rw [List.map_cons, List.nodup_cons]
      refine ⟨?_, hdistinct⟩
      intro hmem
      obtain ⟨r, hr, heq⟩ := List.mem_map.mp hmem
      exact (hfresh r hr).2 heq
    · rw [List.forall_mem_cons]
      exact ⟨hfirst, fun r hr => (hfresh r hr).1⟩
    · rw [List.zipIdx_cons, List.forall_mem_cons]
      exact ⟨hrow, htaken⟩

/-- From the same head the two ledgers answer alike and keep the same head exactly when the database
takes the rows of all that the in-memory one returns. -/
theorem agree_iff_storable (calls : List LedgerCall) (tables : LedgerTables) :
    List.Forall₂ (fun x y => x.1 = y.1 ∧ x.2 = y.2.chainHead)
        ((Ed25519ChainLedger.record key).trace tables.chainHead calls)
        ((PostgresLedger.record key backend refusal).trace tables calls) ↔
      Storable backend refusal tables
        ((Ed25519ChainLedger.record key).successes tables.chainHead calls) := by
  induction calls generalizing tables with
  | nil => exact iff_of_true .nil storable_nil
  | cons c calls ih =>
    have hmemory := Ed25519ChainLedger.record_eq key c tables.chainHead
    have hpostgres := PostgresLedger.record_eq key backend refusal c tables
    rw [Machine.trace, Machine.trace, List.forall₂_cons]
    cases hsigned : c.signed key tables.chainHead with
    | error e =>
      simp only [hsigned] at hmemory hpostgres
      rw [Machine.successes_of_error (by rw [hmemory]), hmemory, hpostgres]
      simp only [true_and]
      exact ih tables
    | ok b =>
      simp only [hsigned] at hmemory hpostgres
      rw [Machine.successes_of_ok (by rw [hmemory]), hmemory]
      cases hinsert : tables.insert refusal (b.toReceipt.row backend tables.nextId) with
      | error e =>
        simp only [hinsert] at hpostgres
        rw [hpostgres]
        refine iff_of_false (by simp) ?_
        intro hstorable
        have hfirst := ((storable_cons tables.chainHead).mp hstorable).1
        have hok := LedgerTables.insert_eq_ok.mpr ⟨hfirst.1, hfirst.2, rfl⟩
        rw [hinsert] at hok
        cases hok
      | ok receipts =>
        simp only [hinsert] at hpostgres
        obtain ⟨hfresh, htaken, rfl⟩ := LedgerTables.insert_eq_ok.mp hinsert
        have hrest := ih
          { receipts := tables.receipts ++ [b.toReceipt.row backend tables.nextId]
            chainHead := key.chain.link b
            nextId := tables.nextId + 1 }
        rw [hpostgres, storable_cons (key.chain.link b), ← hrest]
        exact ⟨fun h => ⟨⟨hfresh, htaken⟩, h.2⟩, fun h => ⟨⟨rfl, rfl⟩, h.2⟩⟩

/-- Receipts that are one signed chain from the genesis hash to this head. -/
def ChainsTo (key : SigningKey) (receipts : List ExecutionReceipt) (head : String) : Prop :=
  ∃ blocks : List SignedReceipt, receipts = blocks.map SignedReceipt.toReceipt ∧
    key.chain.Linked genesisHash blocks ∧ head = key.chain.headFrom genesisHash blocks

theorem PostgresLedger.rows_run (key : SigningKey) (backend : Backend)
    (refusal : ReceiptRow → Option Exc) (tables : LedgerTables) (calls : List LedgerCall) :
    ∃ rows, ((record key backend refusal).finish tables calls).receipts =
        tables.receipts ++ rows ∧
      List.Forall₂ (fun row receipt => ∃ id, row = ExecutionReceipt.row receipt backend id) rows
        ((record key backend refusal).successes tables calls) := by
  apply Machine.log_run
  · intro c tables e h
    exact (record_failed h).1
  · intro c tables a h
    obtain ⟨e, herror, -⟩ | ⟨b, -, -, hok, hnext⟩ := record_cases key backend refusal c tables
    · rw [herror] at h
      cases h
    · rw [hok] at h
      obtain rfl := Except.ok.inj h
      exact ⟨_, ⟨tables.nextId, rfl⟩, by rw [hnext]⟩

end Calls

/-- The two ledgers give the same receipts, raise at the same calls and keep the same head, after
every call, exactly when the database takes the row of every receipt. A call that raises leaves the
rows and the head of its ledger, and what each ledger returned is one chain up to its head. -/
theorem ledgers_agree_iff (key : SigningKey) (backend : Backend)
    (refusal : ReceiptRow → Option Exc) (calls : List LedgerCall) (firstId : ℕ) :
    let memory := Ed25519ChainLedger.record key
    let postgres := PostgresLedger.record key backend refusal
    let tables := LedgerTables.initial firstId
    (List.Forall₂ (fun x y => x.1 = y.1 ∧ x.2 = y.2.chainHead)
        (memory.trace genesisHash calls) (postgres.trace tables calls) ↔
      Storable backend refusal tables (memory.successes genesisHash calls)) ∧
    (∀ c head e, (memory c head).1 = .error e → (memory c head).2 = head) ∧
    (∀ c t e, (postgres c t).1 = .error e →
      (postgres c t).2.receipts = t.receipts ∧ (postgres c t).2.chainHead = t.chainHead) ∧
    ChainsTo key (memory.successes genesisHash calls) (memory.finish genesisHash calls) ∧
    ChainsTo key (postgres.successes tables calls) (postgres.finish tables calls).chainHead ∧
    List.Forall₂ (fun row receipt => ∃ id, row = ExecutionReceipt.row receipt backend id)
      (postgres.finish tables calls).receipts (postgres.successes tables calls) := by
  intro memory postgres tables
  refine ⟨agree_iff_storable calls tables, (Ed25519ChainLedger.keeps_chain key).failed,
    fun c t e h => PostgresLedger.record_failed h,
    (Ed25519ChainLedger.keeps_chain key).run genesisHash calls,
    (PostgresLedger.keeps_chain key backend refusal).run tables calls, ?_⟩
  obtain ⟨rows, hrows, hshows⟩ := PostgresLedger.rows_run key backend refusal tables calls
  rw [show tables.receipts = [] from rfl, List.nil_append] at hrows
  rw [hrows]
  exact hshows

/-- A call whose signer gives one byte. -/
def oneLedgerCall : LedgerCall where
  call := LedgerConfig.oneCall
  sequenceId := "receipt-1"
  timestamp := LedgerConfig.oneTime
  sign := fun _ => .ok [7]

/-- A denial whose reason holds a NUL. -/
def nulCall : LedgerCall :=
  { oneLedgerCall with
    call := { LedgerConfig.oneCall with decision := { decision := .deny, reason := "\x00" } } }

/-- Postgres keeps no NUL in a text column. -/
def nulRefusal (row : ReceiptRow) : Option Exc :=
  if '\x00' ∈ row.spiffeId.toList ++ row.reason.toList then some (.other "DBAPIError") else none

/-- A second receipt under one id, and a receipt with a NUL in its reason: the in-memory ledger
returns them, and the Postgres ledger raises. -/
theorem ledgers_disagree :
    let returned := fun (State : Type) (trace : List (Except Exc ExecutionReceipt × State)) =>
      trace.map fun x => x.1.toOption.isSome
    let memory := Ed25519ChainLedger.record LedgerConfig.echoKey
    let postgres := PostgresLedger.record LedgerConfig.echoKey .postgres nulRefusal
    returned _ (memory.trace genesisHash [oneLedgerCall, oneLedgerCall]) = [true, true] ∧
      returned _ (postgres.trace (.initial 1) [oneLedgerCall, oneLedgerCall]) = [true, false] ∧
      returned _ (memory.trace genesisHash [nulCall]) = [true] ∧
      returned _ (postgres.trace (.initial 1) [nulCall]) = [false] :=
  ⟨rfl, rfl, rfl, rfl⟩

/-! ## One call at a time among the transactions -/

namespace PostgresLedger

variable {Tx : Type}

/-- A state of the transactions that shows these tables. -/
structure Holds (s : LedgerState Tx) (tables : LedgerTables) : Prop where
  receipts : s.receipts = tables.receipts
  chainHead : s.chainHead = tables.chainHead
  nextId : s.nextId ≤ tables.nextId

variable [DecidableEq Tx] {cfg : LedgerConfig Tx} {s : LedgerState Tx} {tables : LedgerTables}
variable {refusal : ReceiptRow → Option Exc}

theorem record_reaches (hs : cfg.system.Reachable s) (hlock : s.lock = none)
    (hholds : Holds s tables) {t : Tx} (hphase : s.phase t = .waiting) {c : LedgerCall}
    (hcall : c.call = cfg.call t)
    (hsign : ∀ data signature, c.sign data = .ok signature → signature = cfg.key.sign data) :
    ∃ s', cfg.system.Reachable s' ∧ s'.lock = none ∧
      Holds s' (record cfg.key cfg.backend refusal c tables).2 ∧
      ∀ t', t' ≠ t → s'.phase t' = s.phase t' := by
  have hacquire : cfg.next s (.acquire t) = some
      { s with lock := some t, phase := Function.update s.phase t (.locked s.chainHead) } := by
    simp only [LedgerConfig.next, hphase, hlock]
  have hacquired := System.Reachable.step hs hacquire
  obtain ⟨e, -, hreceipts, hhead, hid⟩ | ⟨b, hsigned, hfresh, -, hnext⟩ :=
    record_cases cfg.key cfg.backend refusal c tables
  · have hrolledBack : cfg.system.Reachable { s with
        lock := none
        phase := Function.update (Function.update s.phase t (.locked s.chainHead)) t
          .rolledBack } := by
      refine .step hacquired (show cfg.next _ (.rollback t) = some _ from ?_)
      simp only [LedgerConfig.next, Function.update_self]
    refine ⟨_, hrolledBack, rfl, ⟨?_, ?_, ?_⟩, ?_⟩
    · rw [hreceipts]
      exact hholds.receipts
    · rw [hhead]
      exact hholds.chainHead
    · exact hholds.nextId.trans hid
    · intro t' ht
      simp [Function.update_of_ne ht]
  · have hentry : b = cfg.key.signed (cfg.call t) c.sequenceId c.timestamp s.chainHead := by
      rw [← hcall, hholds.chainHead]
      exact c.signed_eq hsigned hsign
    have hwritten : cfg.system.Reachable { s with
        lock := some t
        nextId := tables.nextId + 1
        phase := Function.update (Function.update s.phase t (.locked s.chainHead)) t
          (.flushed b tables.nextId) } := by
      refine .step hacquired
        (show cfg.next _ (.write t c.sequenceId c.timestamp tables.nextId) = some _ from ?_)
      have hguard : s.nextId ≤ tables.nextId ∧
          c.sequenceId ∉ s.receipts.map ReceiptRow.sequenceId := by
        refine ⟨hholds.nextId, ?_⟩
        rw [hholds.receipts]
        rwa [hentry] at hfresh
      simp only [LedgerConfig.next, Function.update_self, hguard, not_false_eq_true, and_self,
        if_true, hentry]
    have hcommitted : cfg.system.Reachable {
        receipts := s.receipts ++ [b.row cfg.backend tables.nextId]
        chainHead := cfg.key.chain.link b
        nextId := tables.nextId + 1
        lock := none
        phase := Function.update (Function.update (Function.update s.phase t
          (.locked s.chainHead)) t (.flushed b tables.nextId)) t (.committed b) } := by
      refine .step hwritten (show cfg.next _ (.commit t) = some _ from ?_)
      simp only [LedgerConfig.next, Function.update_self]
    rw [hnext]
    refine ⟨_, hcommitted, rfl, ⟨?_, rfl, le_refl _⟩, ?_⟩
    · rw [hholds.receipts]
      rfl
    · intro t' ht
      simp [Function.update_of_ne ht]

variable (refusal) in
/-- Calls made one after the other are a run of the transactions. -/
theorem finish_reaches (calls : List (Tx × LedgerCall)) (hnodup : (calls.map Prod.fst).Nodup)
    (hs : cfg.system.Reachable s) (hlock : s.lock = none) (hholds : Holds s tables)
    (hcalls : ∀ p ∈ calls, s.phase p.1 = .waiting ∧ p.2.call = cfg.call p.1 ∧
      ∀ data signature, p.2.sign data = .ok signature → signature = cfg.key.sign data) :
    ∃ s', cfg.system.Reachable s' ∧ Holds s'
      ((record cfg.key cfg.backend refusal).finish tables (calls.map Prod.snd)) := by
  induction calls generalizing s tables with
  | nil => exact ⟨s, hs, hholds⟩
  | cons p calls ih =>
    rw [List.map_cons, List.nodup_cons] at hnodup
    rw [List.forall_mem_cons] at hcalls
    obtain ⟨⟨hphase, hcall, hsign⟩, hrest⟩ := hcalls
    obtain ⟨s', hs', hlock', hholds', hframe⟩ :=
      record_reaches hs hlock hholds hphase hcall hsign
    refine ih hnodup.2 hs' hlock' hholds' ?_
    intro q hq
    have hne : q.1 ≠ p.1 := by
      intro heq
      exact hnodup.1 (heq ▸ List.mem_map_of_mem hq)
    rw [hframe q.1 hne]
    exact hrest q hq

/-- Whatever the signer and the database do, the table such calls leave is reported intact. -/
theorem finish_verifies (hcorrect : cfg.key.Correct) (calls : List (Tx × LedgerCall))
    (hnodup : (calls.map Prod.fst).Nodup) (firstId : ℕ)
    (hcalls : ∀ p ∈ calls, p.2.call = cfg.call p.1 ∧
      ∀ data signature, p.2.sign data = .ok signature → signature = cfg.key.sign data) :
    let tables := (record cfg.key cfg.backend refusal).finish (.initial firstId)
      (calls.map Prod.snd)
    cfg.key.verifyChain tables.receipts =
      .ok { valid := true, receiptsChecked := tables.receipts.length } := by
  intro tables
  have hstart : cfg.system.Reachable (LedgerConfig.initial firstId) := .start ⟨firstId, rfl⟩
  have hinitial : Holds (LedgerConfig.initial firstId : LedgerState Tx) (.initial firstId) :=
    ⟨rfl, rfl, le_refl _⟩
  obtain ⟨s, hs, hholds⟩ := finish_reaches refusal calls hnodup hstart rfl hinitial
    fun p hp => ⟨rfl, hcalls p hp⟩
  obtain ⟨log, hlog, hlinked⟩ := LedgerConfig.history_of_reachable hs
  have hverified := (hlog.intact hlinked hcorrect).verified
  rwa [hholds.receipts] at hverified

end PostgresLedger

end OpenAgentControl
