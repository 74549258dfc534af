import OpenAgentControl.Adapters.Ledger.Signing

/-! # The audit stream

`adapters/audit_export/stdout.py`: a receipt as one line of the log. The line says everything the
receipt says (`exportLine_injective`). -/

namespace OpenAgentControl
set_option autoImplicit false
set_option maxHeartbeats 250000

open Foundations

namespace ExecutionReceipt

/-- `receipt.model_dump(mode="json")`. -/
def modelDump (r : ExecutionReceipt) : Json :=
  .obj [("sequence_id", .str r.sequenceId),
    ("timestamp", .str (String.ofList r.timestamp.isoformat)),
    ("spiffe_id", .str r.spiffeId), ("decision", .str r.decision.value), ("reason", .str r.reason),
    ("payload_hash", .str r.payloadHash), ("previous_hash", .str r.previousHash),
    ("signature", optionalString r.signature), ("enforced", .bool r.enforced)]

theorem sortKeys_modelDump (r : ExecutionReceipt) :
    sortKeys r.modelDump =
      .obj [("decision", .str r.decision.value), ("enforced", .bool r.enforced),
        ("payload_hash", .str r.payloadHash), ("previous_hash", .str r.previousHash),
        ("reason", .str r.reason), ("sequence_id", .str r.sequenceId),
        ("signature", optionalString r.signature), ("spiffe_id", .str r.spiffeId),
        ("timestamp", .str (String.ofList r.timestamp.isoformat))] := by
  have hsignature : sortKeys (optionalString r.signature) = optionalString r.signature := by
    cases r.signature with
    | none => rfl
    | some signature => rfl
  simp [modelDump, sortKeys, sortFields, hsignature, List.insertionSort, List.orderedInsert]

theorem modelDump_inj {a b : ExecutionReceipt} (h : sortKeys a.modelDump = sortKeys b.modelDump) :
    a = b := by
  rw [sortKeys_modelDump, sortKeys_modelDump] at h
  simp only [Json.obj.injEq, List.cons.injEq, Prod.mk.injEq, Json.str.injEq, Json.bool.injEq,
    true_and, and_true] at h
  obtain ⟨hdecision, henforced, hpayload, hprevious, hreason, hsequence, hsignature, hspiffe,
    htime⟩ := h
  have hdec : some a.decision = some b.decision := by
    rw [← Decision.ofValue_eq_some.mpr rfl, hdecision, Decision.ofValue_eq_some.mpr rfl]
  have htimestamp := DateTime.isoformat_inj (String.ofList_injective htime)
  cases a
  cases b
  simp only [ExecutionReceipt.mk.injEq]
  exact ⟨hsequence, htimestamp, hspiffe, Option.some.inj hdec, hreason, hpayload, hprevious,
    optionalString_injective hsignature, henforced⟩

end ExecutionReceipt

namespace StdoutAuditExporter

/-- The message `export` logs. -/
def exportLine (receipt : ExecutionReceipt) : String :=
  "audit_receipt " ++ String.ofList (dumps receipt.modelDump)

theorem exportLine_injective : Function.Injective exportLine := by
  intro a b h
  have hchars : "audit_receipt ".toList ++ dumps a.modelDump =
      "audit_receipt ".toList ++ dumps b.modelDump := by
    have htext := congrArg String.toList h
    simpa [exportLine] using htext
  have hdumps := List.append_cancel_left hchars
  have htext : text (sortKeys a.modelDump) ++ [] = text (sortKeys b.modelDump) ++ [] := by
    rw [List.append_nil, List.append_nil]
    exact hdumps
  exact ExecutionReceipt.modelDump_inj
    (text_inj _ _ [] [] (by simp [Ends]) (by simp [Ends]) htext).1

end StdoutAuditExporter

end OpenAgentControl
