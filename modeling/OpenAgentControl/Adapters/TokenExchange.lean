import OpenAgentControl.Adapters.Http
import OpenAgentControl.Adapters.Identity

/-! # The token exchanges

`adapters/token_exchange/rfc8693.py` and `entra_obo.py`. Both post a form to an authorization server and
read the `access_token` of its answer; they differ in the form, in how the client authenticates, and
in one text. -/

namespace OpenAgentControl
set_option autoImplicit false
set_option maxHeartbeats 250000

open Foundations

/-- `client.post(token_url, data=.., auth=..)` with `raise_for_status`. -/
abbrev TokenPost := Option (String × String) → List (String × String) → HttpOutcome

/-- What an exchange makes of the answer of the authorization server. -/
def readAccessToken (repr : Json → String) (missing : String) : HttpOutcome → Except Exc String
  | .httpError message => .error (.tokenExchange message)
  | .raised e => .error e
  | .success none => .error jsonDecodeError
  | .success (some (.obj fields)) =>
    let accessToken := (Dict.get? fields "access_token").getD .null
    if accessToken.truthy then .ok (pyStr repr accessToken) else .error (.tokenExchange missing)
  | .success (some _) => .error attributeError

/-- An authorization server and the client registered with it. -/
structure TokenServer where
  clientId : String
  clientSecret : String
  post : TokenPost
  repr : Json → String

namespace Rfc8693TokenExchange

def accessTokenType : String := "urn:ietf:params:oauth:token-type:access_token"

def answer (server : TokenServer) (subjectToken audience : String) : HttpOutcome :=
  server.post (some (server.clientId, server.clientSecret))
    [("grant_type", "urn:ietf:params:oauth:grant-type:token-exchange"),
      ("subject_token", subjectToken), ("subject_token_type", accessTokenType),
      ("requested_token_type", accessTokenType), ("audience", audience)]

def exchange (server : TokenServer) : TokenExchange := fun subjectToken audience =>
  readAccessToken server.repr "authorization server returned no access_token"
    (answer server subjectToken audience)

end Rfc8693TokenExchange

namespace EntraOnBehalfOfTokenExchange

def answer (server : TokenServer) (subjectToken audience : String) : HttpOutcome :=
  server.post none
    [("grant_type", "urn:ietf:params:oauth:grant-type:jwt-bearer"),
      ("client_id", server.clientId), ("client_secret", server.clientSecret),
      ("assertion", subjectToken), ("scope", audience),
      ("requested_token_use", "on_behalf_of")]

def exchange (server : TokenServer) : TokenExchange := fun subjectToken audience =>
  readAccessToken server.repr "Entra returned no access_token" (answer server subjectToken audience)

end EntraOnBehalfOfTokenExchange

/-- One of the two adapters, with its server. -/
inductive TokenExchanger
  | rfc8693 (server : TokenServer)
  | entra (server : TokenServer)

namespace TokenExchanger

def server : TokenExchanger → TokenServer
  | rfc8693 server => server
  | entra server => server

def answer : TokenExchanger → String → String → HttpOutcome
  | rfc8693 server => Rfc8693TokenExchange.answer server
  | entra server => EntraOnBehalfOfTokenExchange.answer server

def exchange : TokenExchanger → TokenExchange
  | rfc8693 server => Rfc8693TokenExchange.exchange server
  | entra server => EntraOnBehalfOfTokenExchange.exchange server

theorem exchange_eq (exchanger : TokenExchanger) : ∃ missing, ∀ subjectToken audience,
    exchanger.exchange subjectToken audience =
      readAccessToken exchanger.server.repr missing (exchanger.answer subjectToken audience) := by
  cases exchanger with
  | rfc8693 server => exact ⟨_, fun _ _ => rfl⟩
  | entra server => exact ⟨_, fun _ _ => rfl⟩

end TokenExchanger

/-! ## What an answer comes to -/

/-- The answer is a failure the adapter reports, or a body it can read. -/
def TokenReadable : HttpOutcome → Prop
  | .httpError _ => True
  | .raised e => ∃ message, e = .tokenExchange message
  | .success body => ∃ fields, body = some (.obj fields)

/-- The credential that an answer gives. -/
def accessTokenIn (repr : Json → String) : HttpOutcome → Option String
  | .success (some (.obj fields)) =>
    let accessToken := (Dict.get? fields "access_token").getD .null
    if accessToken.truthy then some (pyStr repr accessToken) else none
  | _ => none

variable {repr : Json → String} {missing : String} {outcome : HttpOutcome}

theorem readAccessToken_ok_iff {credential : String} :
    readAccessToken repr missing outcome = .ok credential ↔
      accessTokenIn repr outcome = some credential := by
  cases outcome with
  | httpError message => exact iff_of_false nofun nofun
  | raised e => exact iff_of_false nofun nofun
  | success body =>
    cases body with
    | none => exact iff_of_false nofun nofun
    | some body =>
      cases body with
      | obj fields =>
        simp only [readAccessToken, accessTokenIn]
        split_ifs
        · rw [Except.ok.injEq, Option.some.injEq]
        · exact iff_of_false nofun nofun
      | _ => exact iff_of_false nofun nofun

/-- Without a credential, the exchange reports a failure of the exchange exactly when it could read
the answer. -/
theorem readAccessToken_error_iff (h : accessTokenIn repr outcome = none) :
    (∃ message, readAccessToken repr missing outcome = .error (.tokenExchange message)) ↔
      TokenReadable outcome := by
  cases outcome with
  | httpError message => exact iff_of_true ⟨_, rfl⟩ trivial
  | raised e =>
    constructor
    · rintro ⟨message, heq⟩
      exact ⟨message, Except.error.inj heq⟩
    · rintro ⟨message, rfl⟩
      exact ⟨message, rfl⟩
  | success body =>
    cases body with
    | none => exact iff_of_false nofun nofun
    | some body =>
      cases body with
      | obj fields =>
        refine iff_of_true ?_ ⟨fields, rfl⟩
        simp only [readAccessToken, accessTokenIn] at h ⊢
        split_ifs at h ⊢
        exact ⟨_, rfl⟩
      | _ => exact iff_of_false nofun nofun

end OpenAgentControl
