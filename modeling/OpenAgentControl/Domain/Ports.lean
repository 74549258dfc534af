import OpenAgentControl.Foundations.Traced
import OpenAgentControl.Domain.Models

/-! # Errors, ports and the events of a run

A port is what one of its calls answers: a value of its type or an exception, any exception. A run
of the gateway calls each port at most once, so a function of the arguments is every behaviour a
port can show in it. -/

namespace OpenAgentControl
set_option autoImplicit false
set_option maxHeartbeats 250000

open Foundations

/-- A raised exception: the errors of the domain with their message, and every other one by its
class. -/
inductive Exc
  | identity (message : String)
  | missingSubjectToken (message : String)
  | policyEngineUnavailable (message : String)
  | tokenExchange (message : String)
  | upstream (message : String)
  | agentNotFound (message : String)
  | other (className : String)
deriving DecidableEq

def attributeError : Exc := .other "AttributeError"
def validationError : Exc := .other "ValidationError"
def typeError : Exc := .other "TypeError"
def valueError : Exc := .other "ValueError"
def integrityError : Exc := .other "IntegrityError"
def overflowError : Exc := .other "OverflowError"

theorem bind_except_ok {α β : Type} {x : Except Exc α} {f : α → Except Exc β} {b : β}
    (h : x >>= f = .ok b) : ∃ a, x = .ok a ∧ f a = .ok b := by
  cases x with
  | ok a => exact ⟨a, rfl, h⟩
  | error e => cases h

/-- A value, and not an exception. -/
def Returns {α : Type} (x : Except Exc α) : Prop := ∃ a, x = .ok a

theorem returns_bind_iff {α β : Type} {x : Except Exc α} {f : α → Except Exc β} :
    Returns (x >>= f) ↔ ∃ a, x = .ok a ∧ Returns (f a) := by
  constructor
  · rintro ⟨b, hb⟩
    obtain ⟨a, ha, hf⟩ := bind_except_ok hb
    exact ⟨a, ha, b, hf⟩
  · rintro ⟨a, rfl, b, hb⟩
    exact ⟨b, hb⟩

/-- The value, or the exception that stands in its place. -/
def orRaise {α : Type} (e : Exc) : Option α → Except Exc α
  | some a => .ok a
  | none => .error e

theorem orRaise_eq_ok {α : Type} {e : Exc} {x : Option α} {a : α} :
    orRaise e x = .ok a ↔ x = some a := by
  cases x <;> simp [orRaise]

theorem returns_orRaise {α : Type} {e : Exc} {x : Option α} :
    Returns (orRaise e x) ↔ x.isSome = true := by
  cases x <;> simp [orRaise, Returns]

/-- Request headers, in the order of the `dict`. -/
abbrev Headers := List (String × String)

abbrev IdentityProvider := Headers → Except Exc AgentIdentity
abbrev AgentRegistry := String → Except Exc (Option RegisteredAgent)
abbrev SubjectVerifier := String → Except Exc SubjectIdentity
abbrev PolicyEngine := ToolCallRequest → Except Exc PolicyDecision
abbrev Ledger :=
  AgentIdentity → ToolCallRequest → PolicyDecision → Bool → Except Exc ExecutionReceipt
abbrev AuditExporter := ExecutionReceipt → Except Exc Unit
abbrev TokenExchange := String → String → Except Exc String
abbrev MCPUpstream := ToolCallRequest → String → Except Exc Json

/-- A ledger that writes on a receipt the decision and the flag it was given. -/
def StampsReceipts (ledger : Ledger) : Prop :=
  ∀ agent call decision enforced receipt, ledger agent call decision enforced = .ok receipt →
    receipt.enforced = enforced ∧ receipt.decision = decision.decision

/-- A port call with its answer. -/
inductive Event
  | identify (headers : Headers) (answer : Except Exc AgentIdentity)
  | lookup (spiffeId : String) (answer : Except Exc (Option RegisteredAgent))
  | verify (subjectToken : String) (answer : Except Exc SubjectIdentity)
  | evaluate (call : ToolCallRequest) (answer : Except Exc PolicyDecision)
  | record (agent : AgentIdentity) (call : ToolCallRequest) (decision : PolicyDecision)
      (enforced : Bool) (answer : Except Exc ExecutionReceipt)
  | exportReceipt (receipt : ExecutionReceipt) (answer : Except Exc Unit)
  | exchange (subjectToken audience : String) (answer : Except Exc String)
  | forward (call : ToolCallRequest) (credential : String) (answer : Except Exc Json)
deriving DecidableEq

namespace Event

def isRecord : Event → Bool
  | record .. => true
  | _ => false

def isExport : Event → Bool
  | exportReceipt .. => true
  | _ => false

def isExchange : Event → Bool
  | exchange .. => true
  | _ => false

def isForward : Event → Bool
  | forward .. => true
  | _ => false

end Event

/-! ## Configuration -/

inductive DecisionMode
  | enforce
  | observe
deriving DecidableEq

inductive SubjectBinding
  | strict
  | mayActOnly
  | off
deriving DecidableEq

structure GovernedExecutionService where
  identityProvider : IdentityProvider
  agentRegistry : AgentRegistry
  policyEngine : PolicyEngine
  ledger : Ledger
  auditExporter : AuditExporter
  tokenExchange : TokenExchange
  mcpUpstream : MCPUpstream
  delegatedAudience : String
  decisionMode : DecisionMode := .enforce
  subjectVerifier : Option SubjectVerifier := none
  subjectBinding : SubjectBinding := .strict

end OpenAgentControl
