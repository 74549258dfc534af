import OpenAgentControl.Foundations.Hex
import OpenAgentControl.Foundations.HashChain
import OpenAgentControl.Domain.Ports

/-! # Signing receipts

`adapters/ledger/signing.py` and the half of `record` that every ledger shares: the canonical bytes
of a receipt, its signature, and the hash the next receipt must name. SHA-256 and the signature
scheme are parameters. The canonical bytes followed by a signature determine both
(`unsignedBytes_append_inj`). -/

namespace OpenAgentControl
set_option autoImplicit false
set_option maxHeartbeats 250000

open Foundations

/-- `"0" * 64`. -/
def genesisHash : String := String.ofList (List.replicate 64 '0')

/-- `json.dumps(data, sort_keys=True, default=str).encode("utf-8")`; nothing in the data needs the
default. -/
def canonicalJson (data : Json) : Bytes := utf8 (dumps data)

structure SigningKey where
  sha256Hex : Bytes → String
  sign : Bytes → Bytes
  /-- `public_key.verify(signature, data)` does not raise. -/
  verify : Bytes → Bytes → Bool

/-- What Ed25519 promises of a key pair. -/
def SigningKey.Correct (key : SigningKey) : Prop := ∀ data, key.verify (key.sign data) data = true

namespace ExecutionReceipt

/-- `receipt.model_dump(mode="json", exclude={"signature"})`. -/
def unsignedDump (r : ExecutionReceipt) : Json :=
  .obj [("sequence_id", .str r.sequenceId),
    ("timestamp", .str (String.ofList r.timestamp.isoformat)),
    ("spiffe_id", .str r.spiffeId), ("decision", .str r.decision.value), ("reason", .str r.reason),
    ("payload_hash", .str r.payloadHash), ("previous_hash", .str r.previousHash),
    ("enforced", .bool r.enforced)]

def unsignedBytes (r : ExecutionReceipt) : Bytes := canonicalJson r.unsignedDump

theorem sortKeys_unsignedDump (r : ExecutionReceipt) :
    sortKeys r.unsignedDump =
      .obj [("decision", .str r.decision.value), ("enforced", .bool r.enforced),
        ("payload_hash", .str r.payloadHash), ("previous_hash", .str r.previousHash),
        ("reason", .str r.reason), ("sequence_id", .str r.sequenceId),
        ("spiffe_id", .str r.spiffeId),
        ("timestamp", .str (String.ofList r.timestamp.isoformat))] := by
  simp [unsignedDump, sortKeys, sortFields, List.insertionSort, List.orderedInsert]

theorem unsignedBytes_cons (r : ExecutionReceipt) : ∃ rest, r.unsignedBytes = 123 :: rest := by
  unfold unsignedBytes canonicalJson dumps
  rw [sortKeys_unsignedDump]
  exact ⟨_, rfl⟩

/-- The canonical bytes lose no signed field, and stay readable with anything appended. -/
theorem unsignedBytes_append_inj {a b : ExecutionReceipt} {r s : Bytes}
    (h : a.unsignedBytes ++ r = b.unsignedBytes ++ s) :
    { a with signature := none } = { b with signature := none } ∧ r = s := by
  unfold unsignedBytes canonicalJson dumps at h
  rw [sortKeys_unsignedDump, sortKeys_unsignedDump] at h
  obtain ⟨hfields, hrest⟩ := utf8_obj_inj h
  refine ⟨?_, hrest⟩
  simp only [List.cons.injEq, Prod.mk.injEq, Json.str.injEq, Json.bool.injEq, true_and,
    and_true] at hfields
  obtain ⟨hdecision, henforced, hpayload, hprevious, hreason, hsequence, hspiffe, htime⟩ := hfields
  have htimestamp : a.timestamp = b.timestamp :=
    DateTime.isoformat_inj (String.ofList_injective htime)
  have hdec : a.decision = b.decision := by
    rw [← Decision.ofValue_eq_some] at hdecision
    rw [Decision.ofValue_eq_some.mpr rfl] at hdecision
    exact Option.some.inj hdecision
  rw [htimestamp, hdec, henforced, hpayload, hprevious, hreason, hsequence, hspiffe]

end ExecutionReceipt

/-! ## Signed receipts -/

/-- A receipt before its signature is written on it, and that signature. -/
structure SignedReceipt where
  receipt : ExecutionReceipt
  signature : Bytes
  unsigned : receipt.signature = none
deriving DecidableEq

namespace SignedReceipt

/-- `unsigned_bytes + signature`. -/
def linkBytes (b : SignedReceipt) : Bytes := b.receipt.unsignedBytes ++ b.signature

/-- The receipt that `record` returns. -/
def toReceipt (b : SignedReceipt) : ExecutionReceipt :=
  { b.receipt with signature := some (bytesHex b.signature) }

theorem eq_of_bytes {a b : SignedReceipt} {r s : Bytes}
    (h : a.receipt.unsignedBytes ++ r = b.receipt.unsignedBytes ++ s) :
    a.receipt = b.receipt ∧ r = s := by
  obtain ⟨hreceipt, hrest⟩ := ExecutionReceipt.unsignedBytes_append_inj h
  refine ⟨?_, hrest⟩
  have ha : { a.receipt with signature := none } = a.receipt := by rw [← a.unsigned]
  have hb : { b.receipt with signature := none } = b.receipt := by rw [← b.unsigned]
  rw [← ha, ← hb, hreceipt]

/-- What is hashed determines the receipt and the signature. -/
theorem linkBytes_inj {a b : SignedReceipt} (h : a.linkBytes = b.linkBytes) : a = b := by
  obtain ⟨hreceipt, hsignature⟩ := eq_of_bytes h
  cases a
  cases b
  simp only [SignedReceipt.mk.injEq]
  exact ⟨hreceipt, hsignature⟩

end SignedReceipt

/-- How receipts are chained: `previous_hash` against `sha256(unsigned_bytes + signature)`. -/
def SigningKey.chain (key : SigningKey) : Chaining SignedReceipt String where
  previous := fun b => b.receipt.previousHash
  link := fun b => key.sha256Hex b.linkBytes

/-! ## The body of record -/

structure RecordCall where
  agent : AgentIdentity
  request : ToolCallRequest
  decision : PolicyDecision
  enforced : Bool

namespace SigningKey

variable (key : SigningKey)

/-- `ExecutionReceipt(...)`, before it is signed. -/
def receiptFor (call : RecordCall) (sequenceId : String) (timestamp : UtcTime)
    (previousHash : String) : ExecutionReceipt where
  sequenceId
  timestamp := timestamp.val
  spiffeId := call.agent.spiffeId
  decision := call.decision.decision
  reason := call.decision.reason
  payloadHash := key.sha256Hex (canonicalJson call.request.modelDump)
  previousHash
  enforced := call.enforced

def signed (call : RecordCall) (sequenceId : String) (timestamp : UtcTime)
    (previousHash : String) : SignedReceipt where
  receipt := key.receiptFor call sequenceId timestamp previousHash
  signature := key.sign (key.receiptFor call sequenceId timestamp previousHash).unsignedBytes
  unsigned := rfl

theorem signed_congr {key key' : SigningKey} (hsha : key.sha256Hex = key'.sha256Hex)
    (hsign : key.sign = key'.sign) (call : RecordCall) (sequenceId : String)
    (timestamp : UtcTime) (previousHash : String) :
    key.signed call sequenceId timestamp previousHash =
      key'.signed call sequenceId timestamp previousHash := by
  simp only [signed, receiptFor, hsha, hsign]

/-- A ledger whose answers are receipts signed under this key for what it was asked to record. -/
def SignsFor (ledger : Ledger) : Prop :=
  ∀ agent request decision enforced receipt,
    ledger agent request decision enforced = .ok receipt →
      ∃ sequenceId timestamp previousHash,
        receipt = (key.signed ⟨agent, request, decision, enforced⟩ sequenceId timestamp
          previousHash).toReceipt

theorem SignsFor.stampsReceipts {key : SigningKey} {ledger : Ledger} (h : key.SignsFor ledger) :
    StampsReceipts ledger := by
  intro agent request decision enforced receipt hrecord
  obtain ⟨sequenceId, timestamp, previousHash, rfl⟩ := h _ _ _ _ _ hrecord
  exact ⟨rfl, rfl⟩

end SigningKey

end OpenAgentControl
