import OpenAgentControl.Adapters.Http

/-! # The OPA adapter

`adapters/policy/opa.py`: the input document of a call, and the decision read off the answer of the
OPA server. What the server answers is a parameter of the engine. -/

namespace OpenAgentControl
set_option autoImplicit false
set_option maxHeartbeats 250000

open Foundations

/-- What policy sees of the verified human. -/
def subjectProjection : Option SubjectIdentity → Json
  | some subject => .obj [("id", .str subject.subjectId), ("roles", stringList subject.roles),
      ("scopes", stringList subject.scopes)]
  | none => .null

def inputDocument (request : ToolCallRequest) : Json :=
  .obj [("method", .str request.method),
    ("spiffe_id", .str request.agent.spiffeId),
    ("agent", (request.registration.map RegisteredAgent.modelDump).getD .null),
    ("subject", subjectProjection request.subject),
    ("params", .obj [("name", optionalString request.toolName),
      ("arguments", .obj request.arguments)])]

def opaInput (request : ToolCallRequest) : Json := .obj [("input", inputDocument request)]

structure OPAPolicyEngine where
  post : Json → HttpOutcome

namespace OPAPolicyEngine

def readDecision (body : Dict) : Except Exc PolicyDecision :=
  match (body.get? "result").getD (.obj []) with
  | .obj result =>
    let decision :=
      if ((Dict.get? result "allow").getD (.bool false)).truthy then Decision.allow else .deny
    let default := if decision = .allow then "" else "Denied by policy"
    match (Dict.get? result "reason").getD (.str default) with
    | .str reason => .ok ⟨decision, reason⟩
    | _ => .error validationError
  | _ => .error attributeError

def evaluate (engine : OPAPolicyEngine) (request : ToolCallRequest) : Except Exc PolicyDecision :=
  match engine.post (opaInput request) with
  | .httpError message => .error (.policyEngineUnavailable message)
  | .raised e => .error e
  | .success none => .error (.other "JSONDecodeError")
  | .success (some (.obj body)) => readDecision body
  | .success (some _) => .error attributeError

end OPAPolicyEngine

end OpenAgentControl
