import OpenAgentControl.Domain.Ports

/-! # Requests over HTTP

What a `post` of the shared HTTP client followed by `raise_for_status` comes to, for every adapter that
sends one. -/

namespace OpenAgentControl
set_option autoImplicit false
set_option maxHeartbeats 250000

open Foundations

/-- How `client.post(..)` and `raise_for_status()` end: an error of the HTTP client, another
exception, or a response whose body may be JSON. -/
inductive HttpOutcome
  | httpError (message : String)
  | raised (e : Exc)
  | success (body : Option Json)
deriving DecidableEq

/-- What a request comes to: no response, or one with its status, the message `raise_for_status` would
raise with, and its body as `response.json()` reads it. -/
inductive HttpAnswer
  | transportError (message : String)
  | response (status : ℕ) (statusError : String) (body : Option Json)
deriving DecidableEq

namespace HttpAnswer

def outcome : HttpAnswer → HttpOutcome
  | transportError message => .httpError message
  | response status statusError body =>
    if 200 ≤ status ∧ status < 300 then .success body else .httpError statusError

/-- The body of a response that `raise_for_status` lets pass. -/
def successful : HttpAnswer → Option (Option Json)
  | transportError _ => none
  | response status _ body => if 200 ≤ status ∧ status < 300 then some body else none

end HttpAnswer

/-- `{"Authorization": f"Bearer {credential}"}`. -/
def bearerHeaders (credential : String) : Headers := [("Authorization", "Bearer " ++ credential)]

/-- What `response.json()` raises on a body that is not JSON. -/
def jsonDecodeError : Exc := .other "JSONDecodeError"

end OpenAgentControl
