import OpenAgentControl.Adapters.Ledger.VaultSigner
import OpenAgentControl.Adapters.Ledger.Verdict

/-! # Rotating the signing key

Gateways that record on one Postgres ledger with a Vault signer each, while the transit key is rotated
and gateways are stopped and started. A gateway process keeps the public key it fetched when it was
built, and Vault signs with the version that is the latest when it is asked. `Sound` is what the
rotation should not cost: every receipt verifies under the key of the process that recorded it, and a
control plane built now reports the table intact. -/

namespace OpenAgentControl
set_option autoImplicit false
set_option maxHeartbeats 250000

open Foundations

/-- A process of a gateway: its signer, and how often the key had been rotated when it was built. -/
structure GatewayProcess where
  signer : VaultTransitSigner
  builtAt : ℕ
  running : Bool

structure RotationState (Tx Process : Type) where
  ledger : LedgerState Tx
  rotations : ℕ
  gateway : Process → Option GatewayProcess

/-- A restart is a stop of one process and the start of another. -/
inductive RotationStep (Tx Process : Type)
  | rotate
  | start (p : Process)
  | stop (p : Process)
  | transaction (l : LedgerStep Tx)

/-- Vault, the hash and the signature scheme, where Vault is found, and what each transaction records
and in which process. -/
structure RotationConfig (Tx Process : Type) where
  vault : Vault
  sha256Hex : Bytes → String
  verify : Ed25519PublicKey → Bytes → Bytes → Bool
  vaultUrl : String
  keyName : String
  backend : Backend
  call : Tx → RecordCall
  process : Tx → Process

namespace RotationConfig

variable {Tx Process : Type} (cfg : RotationConfig Tx Process)

/-- Vault as a client sees it: a key that was never rotated is at version 1. -/
def client (rotations : ℕ) : VaultClient :=
  cfg.vault.client (VaultTransitSigner.baseOf cfg.vaultUrl) cfg.keyName (rotations + 1)

/-- The version of the key after so many rotations. -/
def keyAt (rotations : ℕ) : SigningKey where
  sha256Hex := cfg.sha256Hex
  sign := cfg.vault.sign (rotations + 1)
  verify := cfg.verify (cfg.vault.publicKey (rotations + 1))

def ledgerAt (rotations : ℕ) : LedgerConfig Tx where
  key := cfg.keyAt rotations
  backend := cfg.backend
  call := cfg.call

/-- The key of a verifier, which never signs. -/
def checking (publicKey : Ed25519PublicKey) : SigningKey where
  sha256Hex := cfg.sha256Hex
  sign := fun _ => []
  verify := cfg.verify publicKey

/-- `_public_key` of the control plane. -/
def controlPlaneKey (rotations : ℕ) : Except VaultException Ed25519PublicKey :=
  (VaultTransitSigner.build cfg.vaultUrl cfg.keyName (cfg.client rotations)).map
    VaultTransitSigner.publicKey

/-- What the signer of a process returns for these bytes. -/
def signature (s : RotationState Tx Process) (p : Process) (data : Bytes) : Option Bytes :=
  (s.gateway p).bind fun g => (g.signer.sign (cfg.client s.rotations) data).toOption

/-- The ledger as a process writes to it, with the signatures that its signer returns. -/
def ledgerOf (s : RotationState Tx Process) (p : Process) : LedgerConfig Tx where
  key := { cfg.keyAt s.rotations with sign := fun data => (cfg.signature s p data).getD [] }
  backend := cfg.backend
  call := cfg.call

/-- The bytes that a step has signed. -/
def toSign (s : RotationState Tx Process) : LedgerStep Tx → Option Bytes
  | .write t sequenceId timestamp _ =>
    match s.ledger.phase t with
    | .locked previousHash =>
      some ((cfg.keyAt s.rotations).receiptFor (cfg.call t) sequenceId timestamp
        previousHash).unsignedBytes
    | _ => none
  | _ => none

/-- A process that has stopped takes no step but that the database undoes what it left open, and one that
runs takes none for which its signer raises. -/
def mayStep (s : RotationState Tx Process) (l : LedgerStep Tx) : Bool :=
  match l with
  | .rollback _ => true
  | l => (s.gateway (cfg.process l.tx)).any GatewayProcess.running &&
      (cfg.toSign s l).all fun data => (cfg.signature s (cfg.process l.tx) data).isSome

def next [DecidableEq Tx] [DecidableEq Process] (s : RotationState Tx Process) :
    RotationStep Tx Process → Option (RotationState Tx Process)
  | .rotate => some { s with rotations := s.rotations + 1 }
  | .start p =>
    match s.gateway p,
      VaultTransitSigner.build cfg.vaultUrl cfg.keyName (cfg.client s.rotations) with
    | none, .ok signer =>
      some { s with
        gateway := Function.update s.gateway p
          (some { signer, builtAt := s.rotations, running := true }) }
    | _, _ => none
  | .stop p =>
    match s.gateway p with
    | some g => some { s with gateway := Function.update s.gateway p (some { g with running := false }) }
    | none => none
  | .transaction l =>
    if cfg.mayStep s l then
      ((cfg.ledgerOf s (cfg.process l.tx)).next s.ledger l).map fun ledger => { s with ledger }
    else none

/-- Every interleaving, on an empty table and with any number of earlier rotations. -/
def system [DecidableEq Tx] [DecidableEq Process] :
    System (RotationState Tx Process) (RotationStep Tx Process) where
  start := fun s => ∃ firstId rotations,
    s = { ledger := LedgerConfig.initial firstId, rotations, gateway := fun _ => none }
  step := fun s l s' => cfg.next s l = some s'

/-- Every receipt verifies under the public key of the process that recorded it, and the table under
the key that a control plane fetches now. -/
def Sound (s : RotationState Tx Process) : Prop :=
  (∀ t b g, s.ledger.phase t = .committed b → s.gateway (cfg.process t) = some g →
    cfg.verify g.signer.publicKey b.signature b.receipt.unsignedBytes = true) ∧
  ∃ publicKey, cfg.controlPlaneKey s.rotations = .ok publicKey ∧
    (cfg.checking publicKey).verifyChain s.ledger.receipts =
      .ok { valid := true, receiptsChecked := s.ledger.receipts.length }

/-- The key is rotated only while no receipt is recorded, and a receipt is committed only by a process
that was built after the last rotation. -/
def Clean (s : RotationState Tx Process) : RotationStep Tx Process → Prop
  | .rotate => s.ledger.receipts = []
  | .transaction (.commit t) =>
    ∀ g, s.gateway (cfg.process t) = some g → g.builtAt = s.rotations
  | _ => True

/-! ## What every run keeps -/

/-- The signer that is built after so many rotations. -/
def builtSigner (cfg : RotationConfig Tx Process) (rotations : ℕ) : VaultTransitSigner where
  base := VaultTransitSigner.baseOf cfg.vaultUrl
  keyName := cfg.keyName
  publicKey := cfg.vault.publicKey (rotations + 1)

/-- What no step changes of a process that was started. -/
def SameProcess (g g' : GatewayProcess) : Prop :=
  g'.signer = g.signer ∧ g'.builtAt = g.builtAt

/-- A process is stopped, or one that was not there is built. -/
structure Restarts (s : RotationState Tx Process) (gateway : Process → Option GatewayProcess) :
    Prop where
  kept : ∀ p g, s.gateway p = some g → ∃ g', gateway p = some g' ∧ SameProcess g g'
  old_or_built : ∀ p g', gateway p = some g' →
    (∃ g, s.gateway p = some g ∧ SameProcess g g') ∨
    g'.signer = cfg.builtSigner s.rotations ∧ g'.builtAt = s.rotations

/-- A receipt that carries the signature of the version after so many rotations. -/
def SignedAt (cfg : RotationConfig Tx Process) (rotations : ℕ) (b : SignedReceipt) : Prop :=
  b.signature = cfg.vault.sign (rotations + 1) b.receipt.unsignedBytes

def made (cfg : RotationConfig Tx Process) (t : Tx) (previousHash : String) (b : SignedReceipt) :
    Prop :=
  ∃ rotations, (cfg.ledgerAt rotations).made t previousHash b

/-- The chain is the same for every version of the key. -/
def chain (cfg : RotationConfig Tx Process) : Chaining SignedReceipt String := (cfg.keyAt 0).chain

/-- What a transaction has written: the receipt it may still commit, or has committed. -/
def written? : Phase → Option SignedReceipt
  | .flushed b _ => some b
  | .committed b => some b
  | _ => none

/-- The log behind a state, the signer of every process, and which versions signed. -/
structure Held (cfg : RotationConfig Tx Process) (s : RotationState Tx Process)
    (log : List (LedgerConfig.LogEntry Tx)) : Prop where
  appends : LedgerConfig.Appends cfg.chain cfg.backend cfg.made s.ledger log
  linked : cfg.chain.Linked genesisHash (log.map LedgerConfig.LogEntry.entry)
  built : ∀ p g, s.gateway p = some g →
    g.signer = cfg.builtSigner g.builtAt ∧ g.builtAt ≤ s.rotations
  signed : ∀ t b, written? (s.ledger.phase t) = some b → ∃ g rotations,
    s.gateway (cfg.process t) = some g ∧ g.builtAt ≤ rotations ∧ rotations ≤ s.rotations ∧
      cfg.SignedAt rotations b

/-- Every recorded receipt was signed by the present version, in a process built since it is the
latest. -/
def Steady (cfg : RotationConfig Tx Process) (s : RotationState Tx Process) : Prop :=
  ∀ t b, s.ledger.phase t = .committed b → ∃ g, s.gateway (cfg.process t) = some g ∧
    g.builtAt = s.rotations ∧ cfg.SignedAt s.rotations b

/-- A signature verifies under the public key of the version that made it. -/
def Correct (cfg : RotationConfig Tx Process) : Prop := ∀ rotations, (cfg.keyAt rotations).Correct

/-- And, among the versions up to this one, under no other. -/
def Separated (cfg : RotationConfig Tx Process) (rotations : ℕ) : Prop :=
  ∀ i ≤ rotations, ∀ j ≤ rotations, ∀ data,
    (cfg.keyAt i).verify ((cfg.keyAt j).sign data) data = true → i = j

variable {cfg} {s s' : RotationState Tx Process} {log : List (LedgerConfig.LogEntry Tx)}

theorem Held.rotate (h : Held cfg s log) : Held cfg { s with rotations := s.rotations + 1 } log where
  appends := h.appends
  linked := h.linked
  built := by
    intro p g hg
    obtain ⟨hsigner, hbuilt⟩ := h.built p g hg
    exact ⟨hsigner, Nat.le_succ_of_le hbuilt⟩
  signed := by
    intro t b hb
    obtain ⟨g, rotations, hg, hbuilt, hrotations, hsigned⟩ := h.signed t b hb
    exact ⟨g, rotations, hg, hbuilt, Nat.le_succ_of_le hrotations, hsigned⟩

theorem Held.restart (h : Held cfg s log) {gateway : Process → Option GatewayProcess}
    (hrestart : cfg.Restarts s gateway) : Held cfg { s with gateway } log where
  appends := h.appends
  linked := h.linked
  built := by
    intro p g' hg'
    obtain ⟨g, hg, hsigner, hat⟩ | ⟨hsigner, hat⟩ := hrestart.old_or_built p g' hg'
    · rw [hsigner, hat]
      exact h.built p g hg
    · rw [hsigner, hat]
      exact ⟨rfl, le_refl _⟩
  signed := by
    intro t b hb
    obtain ⟨g, rotations, hg, hbuilt, hrotations, hsigned⟩ := h.signed t b hb
    obtain ⟨g', hg', -, hat⟩ := hrestart.kept _ g hg
    exact ⟨g', rotations, hg', by omega, hrotations, hsigned⟩

theorem steady_rotate_iff (h : Held cfg s log) :
    cfg.Steady { s with rotations := s.rotations + 1 } ↔ s.ledger.receipts = [] := by
  constructor
  · intro hsteady'
    by_contra hne
    have hlog : log ≠ [] := by
      rintro rfl
      exact hne h.appends.receipts
    obtain ⟨e, he⟩ := List.exists_mem_of_ne_nil log hlog
    obtain ⟨g, hg, hat, -⟩ := hsteady' e.tx e.entry ((h.appends.committed _ _).mpr ⟨e.id, he⟩)
    have hbuilt := (h.built _ g hg).2
    simp only at hat
    omega
  · intro hempty t b hcommitted
    have hlog : log = [] := by
      have hreceipts := h.appends.receipts
      rw [hempty] at hreceipts
      exact List.map_eq_nil_iff.mp hreceipts.symm
    obtain ⟨id, hmem⟩ := (h.appends.committed t b).mp hcommitted
    rw [hlog] at hmem
    cases hmem

theorem steady_restart (hsteady : cfg.Steady s) {gateway : Process → Option GatewayProcess}
    (hrestart : cfg.Restarts s gateway) : cfg.Steady { s with gateway } := by
  intro t b hcommitted
  obtain ⟨g, hg, hat, hsigned⟩ := hsteady t b hcommitted
  obtain ⟨g', hg', -, hat'⟩ := hrestart.kept _ g hg
  exact ⟨g', hg', hat'.trans hat, hsigned⟩

theorem build_eq (cfg : RotationConfig Tx Process) (rotations : ℕ) :
    VaultTransitSigner.build cfg.vaultUrl cfg.keyName (cfg.client rotations) =
      .ok (cfg.builtSigner rotations) :=
  VaultTransitSigner.build_client _ _ _ _

theorem controlPlaneKey_eq (cfg : RotationConfig Tx Process) (rotations : ℕ) :
    cfg.controlPlaneKey rotations = .ok (cfg.vault.publicKey (rotations + 1)) := by
  rw [controlPlaneKey, build_eq]
  rfl

/-- A signer that was built whenever signs with the latest version. -/
theorem signature_of_built {p : Process} {g : GatewayProcess} (hg : s.gateway p = some g)
    (hsigner : g.signer = cfg.builtSigner g.builtAt) (data : Bytes) :
    cfg.signature s p data = some (cfg.vault.sign (s.rotations + 1) data) := by
  have hsigned := (cfg.builtSigner g.builtAt).sign_client cfg.vault (s.rotations + 1) data
  change (cfg.builtSigner g.builtAt).sign (cfg.client s.rotations) data = _ at hsigned
  rw [signature, hg, Option.bind_some, hsigner, hsigned]
  rfl

theorem ledgerOf_of_built {p : Process} {g : GatewayProcess} (hg : s.gateway p = some g)
    (hsigner : g.signer = cfg.builtSigner g.builtAt) :
    cfg.ledgerOf s p = cfg.ledgerAt s.rotations := by
  simp only [ledgerOf, signature_of_built hg hsigner, Option.getD_some]
  rfl

theorem Held.utc (h : Held cfg s log) :
    ∀ e ∈ log, e.entry.receipt.timestamp.utcoffset = some 0 := by
  intro e he
  obtain ⟨previousHash, rotations, sequenceId, timestamp, hentry⟩ := h.appends.recorded e he
  rw [hentry]
  exact timestamp.property

theorem Held.sound_iff (h : Held cfg s log) :
    cfg.Sound s ↔ ∀ e ∈ log,
      (∀ g, s.gateway (cfg.process e.tx) = some g → (cfg.keyAt g.builtAt).Vouches e.entry) ∧
        (cfg.keyAt s.rotations).Vouches e.entry := by
  have hown : (∀ t b g, s.ledger.phase t = .committed b → s.gateway (cfg.process t) = some g →
        cfg.verify g.signer.publicKey b.signature b.receipt.unsignedBytes = true) ↔
      ∀ e ∈ log, ∀ g, s.gateway (cfg.process e.tx) = some g →
        (cfg.keyAt g.builtAt).Vouches e.entry := by
    constructor
    · intro hverify e he g hg
      have hcommitted := (h.appends.committed e.tx e.entry).mpr ⟨e.id, he⟩
      have hentry := hverify e.tx e.entry g hcommitted hg
      rw [(h.built _ g hg).1] at hentry
      exact hentry
    · intro hvouched t b g hcommitted hg
      obtain ⟨id, hmem⟩ := (h.appends.committed t b).mp hcommitted
      rw [(h.built _ g hg).1]
      exact hvouched _ hmem g hg
  have htable : (∃ publicKey, cfg.controlPlaneKey s.rotations = .ok publicKey ∧
      (cfg.checking publicKey).verifyChain s.ledger.receipts =
        .ok { valid := true, receiptsChecked := s.ledger.receipts.length }) ↔
      ∀ e ∈ log, (cfg.keyAt s.rotations).Vouches e.entry := by
    have hrows := @LedgerConfig.verifyChain_rows_iff Tx log
      (cfg.checking (cfg.vault.publicKey (s.rotations + 1))) cfg.backend h.appends.increasing
      h.utc h.linked
    rw [controlPlaneKey_eq, h.appends.receipts, List.length_map]
    simp only [Except.ok.injEq, exists_eq_left']
    exact hrows
  rw [Sound, hown, htable]
  exact ⟨fun hboth e he => ⟨hboth.1 e he, hboth.2 e he⟩,
    fun heach => ⟨fun e he => (heach e he).1, fun e he => (heach e he).2⟩⟩

theorem Held.sound_of_steady (h : Held cfg s log) (hcorrect : cfg.Correct)
    (hsteady : cfg.Steady s) : cfg.Sound s := by
  rw [h.sound_iff]
  intro e he
  obtain ⟨g, hg, hat, hsigned⟩ :=
    hsteady e.tx e.entry ((h.appends.committed _ _).mpr ⟨e.id, he⟩)
  have hvouched : (cfg.keyAt s.rotations).Vouches e.entry := by
    rw [SigningKey.Vouches, hsigned]
    exact hcorrect s.rotations e.entry.receipt.unsignedBytes
  refine ⟨?_, hvouched⟩
  intro g' hg'
  rw [hg] at hg'
  rw [← Option.some.inj hg', hat]
  exact hvouched

/-- Where the versions of the key are told apart, soundness shows which of them signed. -/
theorem Held.steady_of_sound (h : Held cfg s log) (hseparated : cfg.Separated s.rotations)
    (hsound : cfg.Sound s) : cfg.Steady s := by
  intro t b hcommitted
  obtain ⟨id, hmem⟩ := (h.appends.committed t b).mp hcommitted
  obtain ⟨g, rotations, hg, hbuilt, hrotations, hsigned⟩ :=
    h.signed t b (by rw [hcommitted]; rfl)
  obtain ⟨hown, htable⟩ := h.sound_iff.mp hsound _ hmem
  have hgateway := hown g hg
  rw [SigningKey.Vouches, hsigned] at hgateway htable
  have hat : g.builtAt = rotations :=
    hseparated _ (hbuilt.trans hrotations) _ hrotations _ hgateway
  have hnow : s.rotations = rotations := hseparated _ (le_refl _) _ hrotations _ htable
  subst hnow
  exact ⟨g, hg, hat, hsigned⟩

section Transactions

variable [DecidableEq Tx]

theorem Held.signed_update (h : Held cfg s log) {t : Tx} {p : Phase}
    (hp : ∀ b, written? p = some b → written? (s.ledger.phase t) = some b ∨
      cfg.SignedAt s.rotations b ∧ ∃ g, s.gateway (cfg.process t) = some g) (t' : Tx)
    (b : SignedReceipt) (hb : written? (Function.update s.ledger.phase t p t') = some b) :
    ∃ g rotations, s.gateway (cfg.process t') = some g ∧ g.builtAt ≤ rotations ∧
      rotations ≤ s.rotations ∧ cfg.SignedAt rotations b := by
  by_cases ht : t' = t
  · subst ht
    rw [Function.update_self] at hb
    obtain hold | ⟨hsigned, g, hg⟩ := hp b hb
    · exact h.signed t' b hold
    · exact ⟨g, s.rotations, hg, (h.built _ g hg).2, le_refl _, hsigned⟩
  · rw [Function.update_of_ne ht] at hb
    exact h.signed t' b hb

theorem Held.transaction (h : Held cfg s log) {m : LedgerStep Tx} {ledger : LedgerState Tx}
    (hmay : cfg.mayStep s m = true)
    (hnext : (cfg.ledgerAt s.rotations).next s.ledger m = some ledger) :
    ∃ log', Held cfg { s with ledger } log' := by
  obtain ⟨t, rfl, hphase, hlock, rfl⟩ |
    ⟨t, sequenceId, timestamp, id, previousHash, rfl, hphase, hid, rfl⟩ |
    ⟨t, entry, id, rfl, hphase, rfl⟩ | ⟨t, lock, rfl, hnot, hlock, rfl⟩ :=
      LedgerConfig.next_cases hnext
  · exact ⟨log, h.appends.acquire hphase hlock, h.linked, h.built,
      h.signed_update (by simp [written?])⟩
  · have hgateway : ∃ g, s.gateway (cfg.process t) = some g := by
      cases hg : s.gateway (cfg.process t) with
      | none => simp [mayStep, LedgerStep.tx, hg] at hmay
      | some g => exact ⟨g, rfl⟩
    refine ⟨log, h.appends.write hphase hid ⟨s.rotations, _, _, rfl⟩, h.linked, h.built,
      h.signed_update ?_⟩
    intro b hb
    obtain rfl := Option.some.inj hb
    exact Or.inr ⟨rfl, hgateway⟩
  · refine ⟨_, h.appends.commit hphase, ?_, h.built, h.signed_update ?_⟩
    · obtain ⟨-, -, -, rotations, sequenceId, timestamp, rfl⟩ := h.appends.flushed t entry id hphase
      rw [List.map_append, List.map_singleton]
      exact h.linked.snoc h.appends.head
    · intro b hb
      rw [hphase]
      exact Or.inl hb
  · exact ⟨log, h.appends.rollback hnot hlock, h.linked, h.built,
      h.signed_update (by simp [written?])⟩

/-- The ledger of a process is that of the latest version. -/
theorem Held.next_eq (h : Held cfg s log) {m : LedgerStep Tx} (hmay : cfg.mayStep s m = true) :
    (cfg.ledgerOf s (cfg.process m.tx)).next s.ledger m =
      (cfg.ledgerAt s.rotations).next s.ledger m := by
  cases hg : s.gateway (cfg.process m.tx) with
  | some g => rw [ledgerOf_of_built hg (h.built _ g hg).1]
  | none =>
    cases m with
    | rollback t => rfl
    | _ => simp [mayStep, hg] at hmay

theorem steady_update (hsteady : cfg.Steady s) {ledger : LedgerState Tx} {t : Tx} {p : Phase}
    (hphase : ledger.phase = Function.update s.ledger.phase t p) (hp : ∀ b, p ≠ .committed b) :
    cfg.Steady { s with ledger } := by
  intro t' b hcommitted
  simp only [hphase] at hcommitted
  obtain ⟨-, heq⟩ | ⟨-, hcommitted⟩ := update_eq_iff.mp hcommitted
  · exact absurd heq (hp b)
  · exact hsteady t' b hcommitted

theorem steady_commit_iff (h : Held cfg s log) (hsteady : cfg.Steady s) {ledger : LedgerState Tx}
    {t : Tx} {entry : SignedReceipt} {id : ℕ} (hphase : s.ledger.phase t = .flushed entry id)
    (hledger : ledger.phase = Function.update s.ledger.phase t (.committed entry)) :
    cfg.Steady { s with ledger } ↔
      ∀ g, s.gateway (cfg.process t) = some g → g.builtAt = s.rotations := by
  obtain ⟨g, rotations, hg, hbuilt, hrotations, hsigned⟩ :=
    h.signed t entry (by rw [hphase]; rfl)
  constructor
  · intro hsteady' g' hg'
    obtain ⟨g'', hg'', hat, -⟩ := hsteady' t entry (by simp [hledger])
    simp only at hg'' hat
    rw [hg'] at hg''
    rw [Option.some.inj hg'', hat]
  · intro hclean t' b hcommitted
    simp only [hledger] at hcommitted
    obtain ⟨rfl, heq⟩ | ⟨-, hcommitted⟩ := update_eq_iff.mp hcommitted
    · obtain rfl := Phase.committed.inj heq
      have hat := hclean g hg
      -- the version that signed lies between the one the process fetched and the latest
      have hsame : rotations = s.rotations := by omega
      exact ⟨g, hg, hat, hsame ▸ hsigned⟩
    · exact hsteady t' b hcommitted

end Transactions

section Restarts

variable [DecidableEq Process]

theorem restarts_start {p : Process} (hnone : s.gateway p = none) {signer : VaultTransitSigner}
    (hbuild : VaultTransitSigner.build cfg.vaultUrl cfg.keyName (cfg.client s.rotations) =
      .ok signer) :
    cfg.Restarts s (Function.update s.gateway p
      (some { signer, builtAt := s.rotations, running := true })) where
  kept := by
    intro q g hg
    have hne : q ≠ p := by
      rintro rfl
      rw [hnone] at hg
      cases hg
    exact ⟨g, by rw [Function.update_of_ne hne, hg], rfl, rfl⟩
  old_or_built := by
    intro q g' hg'
    obtain ⟨-, heq⟩ | ⟨-, hold⟩ := update_eq_iff.mp hg'
    · obtain rfl := Option.some.inj heq
      rw [build_eq] at hbuild
      obtain rfl := Except.ok.inj hbuild
      exact Or.inr ⟨rfl, rfl⟩
    · exact Or.inl ⟨g', hold, rfl, rfl⟩

theorem restarts_stop {p : Process} {g : GatewayProcess} (hg : s.gateway p = some g) :
    cfg.Restarts s (Function.update s.gateway p (some { g with running := false })) where
  kept := by
    intro q g' hg'
    by_cases hq : q = p
    · subst hq
      rw [hg] at hg'
      obtain rfl := Option.some.inj hg'
      exact ⟨_, Function.update_self .., rfl, rfl⟩
    · exact ⟨g', by rw [Function.update_of_ne hq, hg'], rfl, rfl⟩
  old_or_built := by
    intro q g' hg'
    obtain ⟨rfl, heq⟩ | ⟨-, hold⟩ := update_eq_iff.mp hg'
    · obtain rfl := Option.some.inj heq
      exact Or.inl ⟨g, hg, rfl, rfl⟩
    · exact Or.inl ⟨g', hold, rfl, rfl⟩

end Restarts

variable [DecidableEq Tx] [DecidableEq Process]

theorem next_cases {l : RotationStep Tx Process} (h : cfg.next s l = some s') :
    (l = .rotate ∧ s' = { s with rotations := s.rotations + 1 }) ∨
    (∃ p gateway, (l = .start p ∨ l = .stop p) ∧ cfg.Restarts s gateway ∧
      s' = { s with gateway }) ∨
    (∃ m ledger, l = .transaction m ∧ cfg.mayStep s m = true ∧
      (cfg.ledgerOf s (cfg.process m.tx)).next s.ledger m = some ledger ∧ s' = { s with ledger }) := by
  cases l with
  | rotate => exact Or.inl ⟨rfl, (Option.some.inj h).symm⟩
  | start p =>
    simp only [next] at h
    split at h
    · next signer hnone hbuild =>
      exact Or.inr (Or.inl ⟨p, _, Or.inl rfl, restarts_start hnone hbuild,
        (Option.some.inj h).symm⟩)
    · cases h
  | stop p =>
    simp only [next] at h
    split at h
    · next g hg =>
      exact Or.inr (Or.inl ⟨p, _, Or.inr rfl, restarts_stop hg, (Option.some.inj h).symm⟩)
    · cases h
  | transaction m =>
    simp only [next] at h
    split at h
    · next hmay =>
      obtain ⟨ledger, hnext, rfl⟩ := Option.map_eq_some_iff.mp h
      exact Or.inr (Or.inr ⟨m, ledger, rfl, hmay, hnext, rfl⟩)
    · cases h

theorem Held.step (h : Held cfg s log) {l : RotationStep Tx Process}
    (hstep : cfg.next s l = some s') : ∃ log', Held cfg s' log' := by
  obtain ⟨-, rfl⟩ | ⟨p, gateway, -, hrestart, rfl⟩ | ⟨m, ledger, -, hmay, hnext, rfl⟩ :=
    next_cases hstep
  · exact ⟨log, h.rotate⟩
  · exact ⟨log, h.restart hrestart⟩
  · rw [h.next_eq hmay] at hnext
    exact h.transaction hmay hnext

theorem held_of_reachable (hs : cfg.system.Reachable s) : ∃ log, Held cfg s log := by
  induction hs with
  | start hstart =>
    obtain ⟨firstId, rotations, rfl⟩ := hstart
    refine ⟨[], .initial firstId, trivial, ?_, ?_⟩
    · intro p g hg
      cases hg
    · intro t b hwritten
      cases hwritten
  | step hs hstep ih =>
    obtain ⟨log, h⟩ := ih
    exact h.step hstep

theorem steady_step_iff {l : RotationStep Tx Process} (h : Held cfg s log) (hsteady : cfg.Steady s)
    (hstep : cfg.next s l = some s') : cfg.Steady s' ↔ cfg.Clean s l := by
  obtain ⟨rfl, rfl⟩ | ⟨p, gateway, hl, hrestart, rfl⟩ | ⟨m, ledger, rfl, -, hnext, rfl⟩ :=
    next_cases hstep
  · exact steady_rotate_iff h
  · refine iff_of_true (steady_restart hsteady hrestart) ?_
    obtain rfl | rfl := hl <;> trivial
  · obtain ⟨t, rfl, -, -, rfl⟩ | ⟨t, sequenceId, timestamp, id, previousHash, rfl, -, -, rfl⟩ |
      ⟨t, entry, id, rfl, hphase, rfl⟩ | ⟨t, lock, rfl, -, -, rfl⟩ :=
        LedgerConfig.next_cases hnext
    · exact iff_of_true (steady_update hsteady rfl (by simp)) trivial
    · exact iff_of_true (steady_update hsteady rfl (by simp)) trivial
    · exact steady_commit_iff h hsteady hphase rfl
    · exact iff_of_true (steady_update hsteady rfl (by simp)) trivial

theorem steady_throughout_iff {steps : List (RotationState Tx Process × RotationStep Tx Process)}
    (hrun : cfg.system.Run steps s) :
    ((∀ p ∈ steps, cfg.Steady p.1) ∧ cfg.Steady s) ↔ ∀ p ∈ steps, cfg.Clean p.1 p.2 := by
  apply hrun.throughout_iff
  · rintro s ⟨firstId, rotations, rfl⟩ t b hcommitted
    cases hcommitted
  · intro s l s' hs hsteady hstep
    obtain ⟨log, h⟩ := held_of_reachable hs
    exact steady_step_iff h hsteady hstep

theorem rotations_le {l : RotationStep Tx Process} (hstep : cfg.next s l = some s') :
    s.rotations ≤ s'.rotations := by
  obtain ⟨-, rfl⟩ | ⟨p, gateway, -, -, rfl⟩ | ⟨m, ledger, -, -, -, rfl⟩ := next_cases hstep
  · exact Nat.le_succ _
  · exact le_refl _
  · exact le_refl _

/-- Rotations, restarts and records that are interleaved cleanly leave every receipt sound throughout,
and where the versions of the key are told apart no other runs do. -/
theorem sound_throughout_iff (hcorrect : cfg.Correct)
    {steps : List (RotationState Tx Process × RotationStep Tx Process)}
    (hrun : cfg.system.Run steps s) :
    ((∀ p ∈ steps, cfg.Clean p.1 p.2) → (∀ p ∈ steps, cfg.Sound p.1) ∧ cfg.Sound s) ∧
      (cfg.Separated s.rotations → (∀ p ∈ steps, cfg.Sound p.1) ∧ cfg.Sound s →
        ∀ p ∈ steps, cfg.Clean p.1 p.2) := by
  rw [← steady_throughout_iff hrun]
  constructor
  · rintro ⟨hbefore, hsteady⟩
    constructor
    · intro p hp
      obtain ⟨log, h⟩ := held_of_reachable (hrun.reachable_of_mem p hp)
      exact h.sound_of_steady hcorrect (hbefore p hp)
    · obtain ⟨log, h⟩ := held_of_reachable hrun.reachable
      exact h.sound_of_steady hcorrect hsteady
  · rintro hseparated ⟨hbefore, hsound⟩
    have hle := hrun.le_of_mem RotationState.rotations fun _ _ _ => rotations_le
    constructor
    · intro p hp
      obtain ⟨log, h⟩ := held_of_reachable (hrun.reachable_of_mem p hp)
      refine h.steady_of_sound ?_ (hbefore p hp)
      intro i hi j hj data
      exact hseparated i (hi.trans (hle p hp)) j (hj.trans (hle p hp)) data
    · obtain ⟨log, h⟩ := held_of_reachable hrun.reachable
      exact h.steady_of_sound hseparated hsound

/-- A running process goes on as with the latest version. -/
theorem next_transaction {g : GatewayProcess} {l : LedgerStep Tx}
    (hg : s.gateway (cfg.process l.tx) = some g) (hrunning : g.running = true)
    (hsigner : g.signer = cfg.builtSigner g.builtAt) :
    cfg.next s (.transaction l) =
      ((cfg.ledgerAt s.rotations).next s.ledger l).map fun ledger => { s with ledger } := by
  have hmay : cfg.mayStep s l = true := by
    cases l with
    | rollback t => rfl
    | _ => simp [mayStep, hg, hrunning, signature_of_built hg hsigner]
  rw [next, if_pos hmay, ledgerOf_of_built hg hsigner]

/-! ## One receipt and one rotation -/

/-- A Vault whose signature of some bytes is those bytes behind the number of the version. -/
def stampVault : Vault where
  publicKey := fun version => ⟨List.replicate 32 (UInt8.ofNat version), List.length_replicate⟩
  sign := fun version data => UInt8.ofNat version :: data

/-- One process that records one call. -/
def stamp : RotationConfig Unit Unit where
  vault := stampVault
  sha256Hex := bytesHex
  verify := fun publicKey signature data => decide (signature = publicKey.bytes.take 1 ++ data)
  vaultUrl := "https://vault/"
  keyName := "receipts"
  backend := .postgres
  call := fun _ => LedgerConfig.oneCall
  process := id

theorem stamp_correct : stamp.Correct := fun _ _ => decide_eq_true rfl

theorem stamp_rejects {i j : ℕ} (hne : UInt8.ofNat (j + 1) ≠ UInt8.ofNat (i + 1)) (data : Bytes) :
    (stamp.keyAt i).verify ((stamp.keyAt j).sign data) data = false := by
  apply decide_eq_false
  intro heq
  exact hne (List.cons.inj heq).1

theorem stamp_separated : stamp.Separated 1 := by
  intro i hi j hj data hverify
  by_contra hne
  have hbytes : UInt8.ofNat (j + 1) ≠ UInt8.ofNat (i + 1) := by
    intro heq
    have hnat := congrArg UInt8.toNat heq
    simp only [UInt8.toNat_ofNat'] at hnat
    omega
  rw [stamp_rejects hbytes] at hverify
  cases hverify

theorem stamp_start (s : RotationState Unit Unit) (hnone : s.gateway () = none) :
    stamp.next s (.start ()) = some { s with
      gateway := Function.update s.gateway () (some {
        signer := stamp.builtSigner s.rotations
        builtAt := s.rotations
        running := true }) } := by
  simp only [next, hnone, build_eq]

/-- After a rotation of an unused key, a gateway that starts and records does so soundly. -/
theorem stamp_sound : ∃ steps s, stamp.system.Run steps s ∧ steps.length = 5 ∧
    stamp.Separated s.rotations ∧ (∀ p ∈ steps, stamp.Sound p.1) ∧ stamp.Sound s := by
  have h0 : stamp.system.Run [] _ := .start ⟨1, 0, rfl⟩
  have h1 : stamp.system.Run _ _ := .step h0 (show stamp.next _ .rotate = some _ from rfl)
  have h2 : stamp.system.Run _ _ := .step h1 (stamp_start _ rfl)
  have h3 : stamp.system.Run _ _ :=
    .step h2 ((next_transaction (l := .acquire ()) rfl rfl rfl).trans (show _ = some _ from rfl))
  have h4 : stamp.system.Run _ _ :=
    .step h3 ((next_transaction (l := .write () "receipt-1" LedgerConfig.oneTime 1) rfl rfl rfl).trans
        (show _ = some _ from rfl))
  have h5 : stamp.system.Run _ _ :=
    .step h4 ((next_transaction (l := .commit ()) rfl rfl rfl).trans (show _ = some _ from rfl))
  refine ⟨_, _, h5, rfl, stamp_separated, (sound_throughout_iff stamp_correct h5).1 ?_⟩
  simp only [List.forall_mem_cons, List.not_mem_nil, false_implies, implies_true, and_true]
  refine ⟨?_, trivial, trivial, trivial, rfl⟩
  intro g hg
  obtain rfl := Option.some.inj hg
  rfl

/-- What the one process signs after so many rotations. -/
def stampEntry (rotations : ℕ) : SignedReceipt :=
  (stamp.keyAt rotations).signed LedgerConfig.oneCall "receipt-1" LedgerConfig.oneTime genesisHash

/-- A gateway that records, and a rotation after it: the table that nobody touched is reported broken
at its first receipt. A gateway that records after a rotation it did not see: the receipt does not
verify under its own public key. -/
theorem stamp_unsound :
    (∃ s publicKey, stamp.system.Reachable s ∧
      s.ledger.receipts = [(stampEntry 0).row .postgres 1] ∧
      stamp.controlPlaneKey s.rotations = .ok publicKey ∧
      (stamp.checking publicKey).verifyChain s.ledger.receipts =
        .ok { valid := false
              receiptsChecked := 0
              firstBrokenSequenceId := some "receipt-1" }) ∧
    ∃ s g, stamp.system.Reachable s ∧ s.ledger.phase () = .committed (stampEntry 1) ∧
      s.gateway () = some g ∧ g.running = true ∧
      stamp.verify g.signer.publicKey (stampEntry 1).signature
        (stampEntry 1).receipt.unsignedBytes = false := by
  have h0 : stamp.system.Reachable _ := .start ⟨1, 0, rfl⟩
  have h1 : stamp.system.Reachable _ := .step h0 (stamp_start _ rfl)
  constructor
  · have h2 : stamp.system.Reachable _ :=
      .step h1 ((next_transaction (l := .acquire ()) rfl rfl rfl).trans (show _ = some _ from rfl))
    have h3 : stamp.system.Reachable _ :=
      .step h2 ((next_transaction (l := .write () "receipt-1" LedgerConfig.oneTime 1) rfl rfl rfl).trans
        (show _ = some _ from rfl))
    have h4 : stamp.system.Reachable _ :=
      .step h3 ((next_transaction (l := .commit ()) rfl rfl rfl).trans (show _ = some _ from rfl))
    have h5 : stamp.system.Reachable _ :=
      .step h4 (show stamp.next _ .rotate = some _ from rfl)
    have hrow : readRow ((stampEntry 0).row .postgres 1) = some (stampEntry 0) :=
      readRow_row rfl .postgres 1
    have hunsound : (stamp.checking (stamp.vault.publicKey 2)).soundBlock? genesisHash
        ((stampEntry 0).row .postgres 1) = none := by
      have hrejects : (stamp.checking (stamp.vault.publicKey 2)).verify (stampEntry 0).signature
          (stampEntry 0).receipt.unsignedBytes = false :=
        stamp_rejects (i := 1) (j := 0) (by decide) _
      rw [SigningKey.soundBlock?, hrow]
      simp [hrejects]
    have hreportable : SigningKey.Reportable genesisHash ((stampEntry 0).row .postgres 1) := by
      refine ⟨rfl, ?_⟩
      intro hlinked
      rw [SignedReceipt.row, bytesFromHex_bytesHex]
      rfl
    refine ⟨_, _, h5, rfl, stamp.controlPlaneKey_eq 1, ?_⟩
    exact (SigningKey.walk_of_unsound hunsound).trans (if_pos hreportable)
  · have h2 : stamp.system.Reachable _ :=
      .step h1 (show stamp.next _ .rotate = some _ from rfl)
    have h3 : stamp.system.Reachable _ :=
      .step h2 ((next_transaction (l := .acquire ()) rfl rfl rfl).trans (show _ = some _ from rfl))
    have h4 : stamp.system.Reachable _ :=
      .step h3 ((next_transaction (l := .write () "receipt-1" LedgerConfig.oneTime 1) rfl rfl rfl).trans
        (show _ = some _ from rfl))
    have h5 : stamp.system.Reachable _ :=
      .step h4 ((next_transaction (l := .commit ()) rfl rfl rfl).trans (show _ = some _ from rfl))
    have hrejects : (stamp.keyAt 0).verify (stampEntry 1).signature
        (stampEntry 1).receipt.unsignedBytes = false :=
      stamp_rejects (i := 0) (j := 1) (by decide) _
    exact ⟨_, _, h5, rfl, rfl, rfl, hrejects⟩

end RotationConfig

end OpenAgentControl
