import OpenAgentControl.Adapters.Ledger.Signing

/-! # The Postgres ledger

`PostgresLedger.record` as a transaction, and any number of replicas running such transactions at
once. A transaction takes the row lock of `chain_state` and reads the head with it, signs and writes
its receipt under an id drawn while it holds the lock, and commits both rows; at any point before
that it may fail, and everything it wrote is undone but the id it drew. -/

namespace OpenAgentControl
set_option autoImplicit false
set_option maxHeartbeats 250000

open Foundations

/-- A row of `execution_receipts`. -/
structure ReceiptRow where
  id : ℕ
  sequenceId : String
  timestamp : DateTime
  spiffeId : String
  decision : String
  reason : String
  payloadHash : String
  previousHash : String
  signature : String
  enforced : Bool
deriving DecidableEq

/-- How the database hands a timestamp back: Postgres as it was, SQLite without its zone. -/
inductive Backend
  | postgres
  | sqlite

def Backend.load : Backend → DateTime → DateTime
  | postgres, t => t
  | sqlite, t =>
    { t with
      utcoffset := none
      offset_valid := by
        intro o ho
        cases ho }

/-- The row `record` adds, as it is read back. -/
def SignedReceipt.row (b : SignedReceipt) (backend : Backend) (id : ℕ) : ReceiptRow where
  id
  sequenceId := b.receipt.sequenceId
  timestamp := backend.load b.receipt.timestamp
  spiffeId := b.receipt.spiffeId
  decision := b.receipt.decision.value
  reason := b.receipt.reason
  payloadHash := b.receipt.payloadHash
  previousHash := b.receipt.previousHash
  signature := bytesHex b.signature
  enforced := b.receipt.enforced

/-! ## Transactions -/

inductive Phase
  | waiting
  | locked (previousHash : String)
  | flushed (entry : SignedReceipt) (id : ℕ)
  | committed (entry : SignedReceipt)
  | rolledBack

/-- The phases in which a transaction holds the row lock. -/
def Phase.isOpen : Phase → Bool
  | locked _ => true
  | flushed _ _ => true
  | _ => false

structure LedgerState (Tx : Type) where
  receipts : List ReceiptRow
  /-- The committed `chain_state.previous_hash`. -/
  chainHead : String
  nextId : ℕ
  lock : Option Tx
  phase : Tx → Phase

inductive LedgerStep (Tx : Type)
  | acquire (t : Tx)
  | write (t : Tx) (sequenceId : String) (timestamp : UtcTime) (id : ℕ)
  | commit (t : Tx)
  | rollback (t : Tx)

def LedgerStep.tx {Tx : Type} : LedgerStep Tx → Tx
  | .acquire t => t
  | .write t _ _ _ => t
  | .commit t => t
  | .rollback t => t

/-- The signing key the replicas share, the backend, and what each transaction records. -/
structure LedgerConfig (Tx : Type) where
  key : SigningKey
  backend : Backend
  call : Tx → RecordCall

namespace LedgerConfig

variable {Tx : Type} (cfg : LedgerConfig Tx)

def initial (firstId : ℕ) : LedgerState Tx where
  receipts := []
  chainHead := genesisHash
  nextId := firstId
  lock := none
  phase := fun _ => .waiting

/-- A committed transaction: who recorded it, what it recorded, and under which id. -/
structure LogEntry (Tx : Type) where
  tx : Tx
  entry : SignedReceipt
  id : ℕ

/-- The log behind a state, in the order of the ids, and what the open transaction may add to it. -/
structure History (s : LedgerState Tx) (log : List (LogEntry Tx)) : Prop where
  receipts : s.receipts = log.map fun e => e.entry.row cfg.backend e.id
  once : (log.map LogEntry.tx).Nodup
  committed : ∀ t b, s.phase t = .committed b ↔ ∃ id, ⟨t, b, id⟩ ∈ log
  increasing : log.Pairwise fun e f => e.id < f.id
  drawn : ∀ e ∈ log, e.id < s.nextId
  recorded : ∀ e ∈ log, ∃ sequenceId timestamp previousHash,
    e.entry = cfg.key.signed (cfg.call e.tx) sequenceId timestamp previousHash
  head : s.chainHead = cfg.key.chain.headFrom genesisHash (log.map LogEntry.entry)
  locked : ∀ t previousHash, s.phase t = .locked previousHash →
    s.lock = some t ∧ previousHash = s.chainHead
  flushed : ∀ t b id, s.phase t = .flushed b id →
    s.lock = some t ∧ id < s.nextId ∧ (∀ e ∈ log, e.id < id) ∧
      ∃ sequenceId timestamp, b = cfg.key.signed (cfg.call t) sequenceId timestamp s.chainHead

/-- The same log where `made t previousHash b` says what transaction `t` may sign at a head. -/
structure Appends (chain : Chaining SignedReceipt String) (backend : Backend)
    (made : Tx → String → SignedReceipt → Prop) (s : LedgerState Tx) (log : List (LogEntry Tx)) :
    Prop where
  receipts : s.receipts = log.map fun e => e.entry.row backend e.id
  once : (log.map LogEntry.tx).Nodup
  committed : ∀ t b, s.phase t = .committed b ↔ ∃ id, ⟨t, b, id⟩ ∈ log
  increasing : log.Pairwise fun e f => e.id < f.id
  drawn : ∀ e ∈ log, e.id < s.nextId
  recorded : ∀ e ∈ log, ∃ previousHash, made e.tx previousHash e.entry
  head : s.chainHead = chain.headFrom genesisHash (log.map LogEntry.entry)
  locked : ∀ t previousHash, s.phase t = .locked previousHash →
    s.lock = some t ∧ previousHash = s.chainHead
  flushed : ∀ t b id, s.phase t = .flushed b id →
    s.lock = some t ∧ id < s.nextId ∧ (∀ e ∈ log, e.id < id) ∧ made t s.chainHead b

/-- What a transaction of this configuration may sign. -/
def made (t : Tx) (previousHash : String) (b : SignedReceipt) : Prop :=
  ∃ sequenceId timestamp, b = cfg.key.signed (cfg.call t) sequenceId timestamp previousHash

theorem history_iff {s : LedgerState Tx} {log : List (LogEntry Tx)} :
    History cfg s log ↔ Appends cfg.key.chain cfg.backend cfg.made s log := by
  constructor
  · intro h
    refine ⟨h.receipts, h.once, h.committed, h.increasing, h.drawn, ?_, h.head, h.locked, h.flushed⟩
    intro e he
    obtain ⟨sequenceId, timestamp, previousHash, hentry⟩ := h.recorded e he
    exact ⟨previousHash, sequenceId, timestamp, hentry⟩
  · intro h
    refine ⟨h.receipts, h.once, h.committed, h.increasing, h.drawn, ?_, h.head, h.locked, h.flushed⟩
    intro e he
    obtain ⟨previousHash, sequenceId, timestamp, hentry⟩ := h.recorded e he
    exact ⟨sequenceId, timestamp, previousHash, hentry⟩

section Appended

variable {chain : Chaining SignedReceipt String} {backend : Backend}
variable {made : Tx → String → SignedReceipt → Prop} {s : LedgerState Tx} {log : List (LogEntry Tx)}

theorem Appends.initial (firstId : ℕ) :
    Appends chain backend made (LedgerConfig.initial firstId) [] where
  receipts := rfl
  once := List.nodup_nil
  committed := fun t b => by simp [LedgerConfig.initial]
  increasing := List.Pairwise.nil
  drawn := fun e he => absurd he List.not_mem_nil
  recorded := fun e he => absurd he List.not_mem_nil
  head := rfl
  locked := fun t previousHash hphase => by cases hphase
  flushed := fun t b id hphase => by cases hphase

theorem Appends.holder (h : Appends chain backend made s log) {t : Tx}
    (hopen : (s.phase t).isOpen = true) : s.lock = some t := by
  cases hphase : s.phase t with
  | locked previousHash => exact (h.locked t previousHash hphase).1
  | flushed b id => exact (h.flushed t b id hphase).1
  | _ =>
    rw [hphase] at hopen
    cases hopen

theorem Appends.holder_unique (h : Appends chain backend made s log) {t t' : Tx}
    (ht : (s.phase t).isOpen = true) (ht' : (s.phase t').isOpen = true) : t' = t := by
  have hlock := h.holder ht'
  rw [h.holder ht] at hlock
  exact (Option.some.inj hlock).symm

end Appended

variable [DecidableEq Tx]

def next (s : LedgerState Tx) : LedgerStep Tx → Option (LedgerState Tx)
  | .acquire t =>
    match s.phase t, s.lock with
    | .waiting, none =>
      some { s with lock := some t, phase := Function.update s.phase t (.locked s.chainHead) }
    | _, _ => none
  | .write t sequenceId timestamp id =>
    match s.phase t with
    | .locked previousHash =>
      if s.nextId ≤ id ∧ sequenceId ∉ s.receipts.map ReceiptRow.sequenceId then
        some { s with
          nextId := id + 1
          phase := Function.update s.phase t
            (.flushed (cfg.key.signed (cfg.call t) sequenceId timestamp previousHash) id) }
      else none
    | _ => none
  | .commit t =>
    match s.phase t with
    | .flushed entry id =>
      some {
        receipts := s.receipts ++ [entry.row cfg.backend id]
        chainHead := cfg.key.chain.link entry
        nextId := s.nextId
        lock := none
        phase := Function.update s.phase t (.committed entry) }
    | _ => none
  | .rollback t =>
    match s.phase t with
    | .waiting => some { s with phase := Function.update s.phase t .rolledBack }
    | .locked _ =>
      some { s with lock := none, phase := Function.update s.phase t .rolledBack }
    | .flushed _ _ =>
      some { s with lock := none, phase := Function.update s.phase t .rolledBack }
    | _ => none

/-- Every interleaving of the replicas' transactions. -/
def system : System (LedgerState Tx) (LedgerStep Tx) where
  start := fun s => ∃ firstId, s = initial firstId
  step := fun s l s' => cfg.next s l = some s'

/-! ## What a step does -/

variable {cfg} {s s' : LedgerState Tx} {log : List (LogEntry Tx)}

theorem next_cases {l : LedgerStep Tx} (h : cfg.next s l = some s') :
    (∃ t, l = .acquire t ∧ s.phase t = .waiting ∧ s.lock = none ∧
      s' = { s with
        lock := some t
        phase := Function.update s.phase t (.locked s.chainHead) }) ∨
    (∃ t sequenceId timestamp id previousHash, l = .write t sequenceId timestamp id ∧
      s.phase t = .locked previousHash ∧ s.nextId ≤ id ∧
      s' = { s with
        nextId := id + 1
        phase := Function.update s.phase t
          (.flushed (cfg.key.signed (cfg.call t) sequenceId timestamp previousHash) id) }) ∨
    (∃ t entry id, l = .commit t ∧ s.phase t = .flushed entry id ∧
      s' = {
        receipts := s.receipts ++ [entry.row cfg.backend id]
        chainHead := cfg.key.chain.link entry
        nextId := s.nextId
        lock := none
        phase := Function.update s.phase t (.committed entry) }) ∨
    (∃ t lock, l = .rollback t ∧ (∀ b, s.phase t ≠ .committed b) ∧
      (s.phase t = .waiting ∧ lock = s.lock ∨ (s.phase t).isOpen = true ∧ lock = none) ∧
      s' = { s with lock, phase := Function.update s.phase t .rolledBack }) := by
  cases l with
  | acquire t =>
    simp only [next] at h
    split at h
    case h_1 hphase hlock =>
      cases h
      exact Or.inl ⟨t, rfl, hphase, hlock, rfl⟩
    case h_2 => cases h
  | write t sequenceId timestamp id =>
    simp only [next] at h
    split at h
    case h_1 previousHash hphase =>
      split_ifs at h with hguard
      · cases h
        exact Or.inr (Or.inl
          ⟨t, sequenceId, timestamp, id, previousHash, rfl, hphase, hguard.1, rfl⟩)
    case h_2 => cases h
  | commit t =>
    simp only [next] at h
    split at h
    case h_1 entry id hphase =>
      cases h
      exact Or.inr (Or.inr (Or.inl ⟨t, entry, id, rfl, hphase, rfl⟩))
    case h_2 => cases h
  | rollback t =>
    simp only [next] at h
    split at h
    case h_1 hphase =>
      cases h
      exact Or.inr (Or.inr (Or.inr
        ⟨t, s.lock, rfl, by simp [hphase], Or.inl ⟨hphase, rfl⟩, rfl⟩))
    case h_2 previousHash hphase =>
      cases h
      exact Or.inr (Or.inr (Or.inr
        ⟨t, none, rfl, by simp [hphase], Or.inr ⟨by rw [hphase]; rfl, rfl⟩, rfl⟩))
    case h_3 entry id hphase =>
      cases h
      exact Or.inr (Or.inr (Or.inr
        ⟨t, none, rfl, by simp [hphase], Or.inr ⟨by rw [hphase]; rfl, rfl⟩, rfl⟩))
    case h_4 => cases h

namespace Appends

variable {chain : Chaining SignedReceipt String} {backend : Backend}
variable {made : Tx → String → SignedReceipt → Prop}

theorem committed_update (h : Appends chain backend made s log) {t : Tx} {p : Phase}
    (hnot : ∀ b, s.phase t ≠ .committed b) (hp : ∀ b, p ≠ .committed b) (t' : Tx)
    (b : SignedReceipt) :
    Function.update s.phase t p t' = .committed b ↔ ∃ id, ⟨t', b, id⟩ ∈ log := by
  by_cases ht : t' = t
  · subst ht
    rw [Function.update_self]
    exact iff_of_false (hp b) fun hmem => hnot b ((h.committed t' b).mpr hmem)
  · rw [Function.update_of_ne ht]
    exact h.committed t' b

theorem acquire (h : Appends chain backend made s log) {t : Tx} (hphase : s.phase t = .waiting)
    (hlock : s.lock = none) :
    Appends chain backend made { s with
      lock := some t
      phase := Function.update s.phase t (.locked s.chainHead) } log where
  receipts := h.receipts
  once := h.once
  committed := h.committed_update (by simp [hphase]) (by simp)
  increasing := h.increasing
  drawn := h.drawn
  recorded := h.recorded
  head := h.head
  locked := by
    intro t' previousHash hlocked
    obtain ⟨rfl, heq⟩ | ⟨ht, hlocked⟩ := update_eq_iff.mp hlocked
    · exact ⟨rfl, (Phase.locked.inj heq).symm⟩
    · have hholder := h.holder (by rw [hlocked]; rfl)
      rw [hlock] at hholder
      cases hholder
  flushed := by
    intro t' b id hflushed
    obtain ⟨-, ⟨⟩⟩ | ⟨ht, hflushed⟩ := update_eq_iff.mp hflushed
    have hholder := h.holder (by rw [hflushed]; rfl)
    rw [hlock] at hholder
    cases hholder

theorem write (h : Appends chain backend made s log) {t : Tx} {entry : SignedReceipt} {id : ℕ}
    {previousHash : String} (hphase : s.phase t = .locked previousHash) (hid : s.nextId ≤ id)
    (hmade : made t previousHash entry) :
    Appends chain backend made { s with
      nextId := id + 1
      phase := Function.update s.phase t (.flushed entry id) } log where
  receipts := h.receipts
  once := h.once
  committed := h.committed_update (by simp [hphase]) (by simp)
  increasing := h.increasing
  drawn := fun e he => lt_trans (lt_of_lt_of_le (h.drawn e he) hid) (Nat.lt_succ_self id)
  recorded := h.recorded
  head := h.head
  locked := by
    intro t' head hlocked
    obtain ⟨-, ⟨⟩⟩ | ⟨ht, hlocked⟩ := update_eq_iff.mp hlocked
    exact absurd (h.holder_unique (by rw [hphase]; rfl) (by rw [hlocked]; rfl)) ht
  flushed := by
    intro t' b id' hflushed
    obtain ⟨hlock, rfl⟩ := h.locked t previousHash hphase
    obtain ⟨rfl, heq⟩ | ⟨ht, hflushed⟩ := update_eq_iff.mp hflushed
    · obtain ⟨rfl, rfl⟩ := Phase.flushed.inj heq
      exact ⟨hlock, Nat.lt_succ_self _, fun e he => lt_of_lt_of_le (h.drawn e he) hid, hmade⟩
    · exact absurd (h.holder_unique (by rw [hphase]; rfl) (by rw [hflushed]; rfl)) ht

theorem commit (h : Appends chain backend made s log) {t : Tx} {entry : SignedReceipt} {id : ℕ}
    (hphase : s.phase t = .flushed entry id) :
    Appends chain backend made {
      receipts := s.receipts ++ [entry.row backend id]
      chainHead := chain.link entry
      nextId := s.nextId
      lock := none
      phase := Function.update s.phase t (.committed entry) } (log ++ [⟨t, entry, id⟩]) := by
  obtain ⟨-, hid, hlast, hmade⟩ := h.flushed t entry id hphase
  have hfresh : ∀ b id', (⟨t, b, id'⟩ : LogEntry Tx) ∉ log := by
    intro b id' hmem
    have hcommitted := (h.committed t b).mpr ⟨id', hmem⟩
    rw [hphase] at hcommitted
    cases hcommitted
  refine ⟨?_, ?_, ?_, ?_, ?_, ?_, ?_, ?_, ?_⟩
  · rw [h.receipts, List.map_append, List.map_singleton]
  · rw [List.map_append, List.map_singleton, List.nodup_append]
    refine ⟨h.once, List.nodup_singleton t, ?_⟩
    intro x hx y hy hxy
    obtain ⟨⟨tx, b, id'⟩, he, rfl⟩ := List.mem_map.mp hx
    rw [List.mem_singleton.mp hy] at hxy
    cases hxy
    exact hfresh b id' he
  · intro t' b
    by_cases ht : t' = t
    · subst ht
      simp only [Function.update_self, Phase.committed.injEq, List.mem_append, List.mem_singleton,
        hfresh, false_or, LogEntry.mk.injEq, true_and]
      constructor
      · intro heq
        exact ⟨id, heq.symm, rfl⟩
      · rintro ⟨id', heq, -⟩
        exact heq.symm
    · simp only [Function.update_of_ne ht, h.committed, List.mem_append, List.mem_singleton,
        LogEntry.mk.injEq, ht, false_and, or_false]
  · rw [List.pairwise_append]
    refine ⟨h.increasing, List.pairwise_singleton _ _, ?_⟩
    intro e he f hf
    rw [List.mem_singleton.mp hf]
    exact hlast e he
  · intro e he
    obtain he | he := List.mem_append.mp he
    · exact h.drawn e he
    · rw [List.mem_singleton.mp he]
      exact hid
  · intro e he
    obtain he | he := List.mem_append.mp he
    · exact h.recorded e he
    · rw [List.mem_singleton.mp he]
      exact ⟨s.chainHead, hmade⟩
  · rw [List.map_append, List.map_singleton, Chaining.headFrom_snoc]
  · intro t' previousHash hlocked
    obtain ⟨-, ⟨⟩⟩ | ⟨ht, hlocked⟩ := update_eq_iff.mp hlocked
    exact absurd (h.holder_unique (by rw [hphase]; rfl) (by rw [hlocked]; rfl)) ht
  · intro t' b id' hflushed
    obtain ⟨-, ⟨⟩⟩ | ⟨ht, hflushed⟩ := update_eq_iff.mp hflushed
    exact absurd (h.holder_unique (by rw [hphase]; rfl) (by rw [hflushed]; rfl)) ht

theorem rollback (h : Appends chain backend made s log) {t : Tx} {lock : Option Tx}
    (hnot : ∀ b, s.phase t ≠ .committed b)
    (hlock : s.phase t = .waiting ∧ lock = s.lock ∨ (s.phase t).isOpen = true ∧ lock = none) :
    Appends chain backend made { s with lock, phase := Function.update s.phase t .rolledBack } log where
  receipts := h.receipts
  once := h.once
  committed := h.committed_update hnot (by simp)
  increasing := h.increasing
  drawn := h.drawn
  recorded := h.recorded
  head := h.head
  locked := by
    intro t' previousHash hlocked
    obtain ⟨-, ⟨⟩⟩ | ⟨ht, hold⟩ := update_eq_iff.mp hlocked
    obtain ⟨-, rfl⟩ | ⟨hopen, -⟩ := hlock
    · exact h.locked t' previousHash hold
    · exact absurd (h.holder_unique hopen (by rw [hold]; rfl)) ht
  flushed := by
    intro t' b id hflushed
    obtain ⟨-, ⟨⟩⟩ | ⟨ht, hold⟩ := update_eq_iff.mp hflushed
    obtain ⟨-, rfl⟩ | ⟨hopen, -⟩ := hlock
    · exact h.flushed t' b id hold
    · exact absurd (h.holder_unique hopen (by rw [hold]; rfl)) ht

end Appends

/-- The transactions implement an append-only log: a commit appends one block that names the head,
and nothing else changes the log. -/
theorem simulates : System.Simulates cfg.system (cfg.key.chain.log genesisHash)
    (fun s blocks => ∃ log, History cfg s log ∧ blocks = log.map LogEntry.entry) where
  start := by
    rintro s ⟨firstId, rfl⟩
    exact ⟨[], rfl, [], (history_iff cfg).mpr (.initial firstId), rfl⟩
  step := by
    rintro s l s' blocks ⟨log, hhistory, rfl⟩ hstep
    have hlog := (history_iff cfg).mp hhistory
    obtain ⟨t, -, hphase, hlock, rfl⟩ |
      ⟨t, sequenceId, timestamp, id, previousHash, -, hphase, hid, rfl⟩ |
      ⟨t, entry, id, -, hphase, rfl⟩ | ⟨t, lock, -, hnot, hlock, rfl⟩ := next_cases hstep
    · exact Or.inl ⟨log, (history_iff cfg).mpr (hlog.acquire hphase hlock), rfl⟩
    · have hmade : cfg.made t previousHash
          (cfg.key.signed (cfg.call t) sequenceId timestamp previousHash) := ⟨_, _, rfl⟩
      exact Or.inl ⟨log, (history_iff cfg).mpr (hlog.write hphase hid hmade), rfl⟩
    · refine Or.inr ⟨entry, _, ⟨?_, rfl⟩, log ++ [⟨t, entry, id⟩],
        (history_iff cfg).mpr (hlog.commit hphase), ?_⟩
      · obtain ⟨-, -, -, sequenceId, timestamp, rfl⟩ := hlog.flushed t entry id hphase
        rw [← hlog.head]
        rfl
      · rw [List.map_append, List.map_singleton]
    · exact Or.inl ⟨log, (history_iff cfg).mpr (hlog.rollback hnot hlock), rfl⟩

/-- Behind every reached state stands one chain, in the order of the ids. -/
theorem history_of_reachable (h : cfg.system.Reachable s) :
    ∃ log, History cfg s log ∧
      cfg.key.chain.Linked genesisHash (log.map LogEntry.entry) := by
  obtain ⟨blocks, hblocks, log, hlog, rfl⟩ := simulates.reachable h
  exact ⟨log, hlog, Chaining.linked_of_reachable hblocks⟩

/-! ## A transaction from end to end -/

/-- The ledger when one more receipt was committed, with nothing in between. -/
def appended (cfg : LedgerConfig Tx) (s : LedgerState Tx) (t : Tx) (sequenceId : String)
    (timestamp : UtcTime) : LedgerState Tx :=
  let entry := cfg.key.signed (cfg.call t) sequenceId timestamp s.chainHead
  { receipts := s.receipts ++ [entry.row cfg.backend s.nextId]
    chainHead := cfg.key.chain.link entry
    nextId := s.nextId + 1
    lock := none
    phase := Function.update s.phase t (.committed entry) }

/-- Where the lock is free and the sequence id is new, a waiting transaction goes through, wherever it
may take its own steps. -/
theorem leads_appended {sys : System (LedgerState Tx) (LedgerStep Tx)} {t : Tx}
    (hsys : ∀ s l s', LedgerStep.tx l = t → cfg.next s l = some s' → sys.step s l s')
    (hphase : s.phase t = .waiting) (hlock : s.lock = none) {sequenceId : String}
    (hfresh : sequenceId ∉ s.receipts.map ReceiptRow.sequenceId) (timestamp : UtcTime) :
    sys.Leads s (cfg.appended s t sequenceId timestamp) := by
  let locked : LedgerState Tx :=
    { s with lock := some t, phase := Function.update s.phase t (.locked s.chainHead) }
  let entry := cfg.key.signed (cfg.call t) sequenceId timestamp s.chainHead
  let flushed : LedgerState Tx :=
    { locked with
      nextId := s.nextId + 1
      phase := Function.update locked.phase t (.flushed entry s.nextId) }
  have hacquire : cfg.next s (.acquire t) = some locked := by
    simp only [next, hphase, hlock]
    rfl
  have hwrite : cfg.next locked (.write t sequenceId timestamp s.nextId) = some flushed := by
    simp only [next, locked, Function.update_self, if_pos (And.intro (le_refl s.nextId) hfresh)]
    rfl
  have hcommit : cfg.next flushed (.commit t) = some (cfg.appended s t sequenceId timestamp) := by
    simp only [next, flushed, locked, Function.update_self, Function.update_idem]
    rfl
  exact ((System.Leads.refl.step (hsys _ _ _ rfl hacquire)).step (hsys _ _ _ rfl hwrite)).step
    (hsys _ _ _ rfl hcommit)

/-! ## One transaction, and two -/

def oneTime : UtcTime :=
  ⟨{ year := 2026, month := 1, day := 31, hour := 12, minute := 0, second := 5, microsecond := 250,
     utcoffset := some 0, date_valid := by decide, time_valid := by decide,
     offset_valid := DateTime.utc_valid }, rfl⟩

def oneCall : RecordCall where
  agent := { spiffeId := "spiffe://corp/agent" }
  request := { method := "tools/list", agent := { spiffeId := "spiffe://corp/agent" } }
  decision := { decision := .allow }
  enforced := true

/-- One replica that records one allowed listing. -/
def one (key : SigningKey) : LedgerConfig Unit where
  key
  backend := .postgres
  call := fun _ => oneCall

def oneEntry (key : SigningKey) : SignedReceipt :=
  key.signed oneCall "receipt-1" oneTime genesisHash

theorem one_reachable (key : SigningKey) : ∃ s, (one key).system.Reachable s ∧
    s.receipts = [(oneEntry key).row .postgres 1] ∧
    s.chainHead = key.sha256Hex (oneEntry key).linkBytes := by
  have hstart : (one key).system.Reachable (initial 1) := .start ⟨1, rfl⟩
  have hlocked : (one key).system.Reachable _ :=
    .step hstart (show (one key).next _ (.acquire ()) = some _ from rfl)
  have hwritten : (one key).system.Reachable _ :=
    .step hlocked (show (one key).next _ (.write () "receipt-1" oneTime 1) = some _ from rfl)
  have hcommitted : (one key).system.Reachable _ :=
    .step hwritten (show (one key).next _ (.commit ()) = some _ from rfl)
  exact ⟨_, hcommitted, rfl, rfl⟩

def deniedCall : RecordCall where
  agent := { spiffeId := "spiffe://corp/other-agent" }
  request := { method := "tools/list", agent := { spiffeId := "spiffe://corp/other-agent" } }
  decision := { decision := .deny }
  enforced := true

/-- Two replicas, one of which records a denied listing. -/
def two (key : SigningKey) : LedgerConfig Bool where
  key
  backend := .postgres
  call := fun second => if second then deniedCall else oneCall

def afterFirst (key : SigningKey) : LedgerState Bool :=
  (two key).appended (initial 1) false "receipt-1" oneTime

def afterSecond (key : SigningKey) : LedgerState Bool :=
  (two key).appended (afterFirst key) true "receipt-2" oneTime

def secondEntry (key : SigningKey) : SignedReceipt :=
  key.signed deniedCall "receipt-2" oneTime (key.sha256Hex (oneEntry key).linkBytes)

theorem afterSecond_receipts (key : SigningKey) : (afterSecond key).receipts =
    [(oneEntry key).row .postgres 1, (secondEntry key).row .postgres 2] := rfl

theorem first_leads (key : SigningKey) :
    (two key).system.Leads (initial 1) (afterFirst key) :=
  leads_appended (fun _ _ _ _ h => h) rfl rfl List.not_mem_nil oneTime

theorem second_leads (key : SigningKey) :
    (two key).system.Leads (afterFirst key) (afterSecond key) := by
  have hfresh : "receipt-2" ∉ ["receipt-1"] := by decide
  exact leads_appended (fun _ _ _ _ h => h) rfl rfl hfresh oneTime

theorem afterFirst_reachable (key : SigningKey) : (two key).system.Reachable (afterFirst key) :=
  (first_leads key).reachable (.start ⟨1, rfl⟩)

theorem afterSecond_reachable (key : SigningKey) : (two key).system.Reachable (afterSecond key) :=
  (second_leads key).reachable (afterFirst_reachable key)

end LedgerConfig

end OpenAgentControl
