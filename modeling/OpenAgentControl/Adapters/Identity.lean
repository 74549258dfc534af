import OpenAgentControl.Application.GovernedExecution

/-! # The identity adapters

`adapters/identity`: the header stub, JWT-SVID and OIDC. PyJWT and Python's `repr` are parameters;
what the application relies on is which fields of the identity each adapter fills. -/

namespace OpenAgentControl
set_option autoImplicit false
set_option maxHeartbeats 250000

open Foundations

def spiffeHeader : String := "x-spiffe-id"
def sponsorHeader : String := "x-human-sponsor"

/-- What `jwt.decode` raises: an `InvalidTokenError`, or anything else. -/
inductive JwtError
  | invalidToken (message : String)
  | other (className : String)

/-- Signature, audience, issuer and expiry checks of a token, down to its claims. -/
abbrev JwtDecode := String → Except JwtError Dict

/-- `str(value)`, which is `repr(value)` for everything but a string. -/
def pyStr (repr : Json → String) : Json → String
  | .str s => s
  | value => repr value

def requireBearer (headers : Headers) (message : String) : Except Exc String :=
  match bearerToken headers with
  | none => .error (.identity message)
  | some token => .ok token

/-- `except jwt.InvalidTokenError`. -/
def decodeOrRefuse (decode : JwtDecode) (token message : String) : Except Exc Dict :=
  match decode token with
  | .ok claims => .ok claims
  | .error (.invalidToken reason) => .error (.identity (message ++ reason))
  | .error (.other className) => .error (.other className)

/-! ## Header -/

def HeaderIdentityProvider.identify : IdentityProvider := fun headers =>
  match present (getHeader headers spiffeHeader) with
  | none => .error (.identity ("missing required '" ++ spiffeHeader ++ "' header"))
  | some spiffeId => .ok { spiffeId, humanSponsor := getHeader headers sponsorHeader }

/-! ## JWT-SVID -/

structure JwtSvidIdentityProvider where
  decode : JwtDecode
  repr : Json → String

def JwtSvidIdentityProvider.identify (p : JwtSvidIdentityProvider) : IdentityProvider :=
  fun headers => do
    let token ← requireBearer headers "missing 'Authorization: Bearer <jwt-svid>' header"
    let claims ← decodeOrRefuse p.decode token "invalid JWT-SVID: "
    match claims.get? "sub" with
    | none => .error (.other "KeyError")
    | some sub =>
      let spiffeId := pyStr p.repr sub
      if "spiffe://".toList.isPrefixOf spiffeId.toList then
        .ok { spiffeId, humanSponsor := getHeader headers sponsorHeader }
      else .error (.identity ("token subject is not a SPIFFE ID: " ++ p.repr (.str spiffeId)))

/-! ## OIDC -/

def clientIdClaims : List String := ["azp", "appid", "cid"]

/-- `next((str(claims[c]) for c in _CLIENT_ID_CLAIMS if c in claims), None)`. -/
def clientIdOf (repr : Json → String) (claims : Dict) : Option String :=
  (clientIdClaims.filterMap claims.get?).head?.map (pyStr repr)

/-- `_has_human_sponsor`: a user acting through the agent, not an app-only token. -/
def hasHumanSponsor (claims : Dict) (clientId : String) : Bool :=
  let subject := (claims.get? "sub").getD .null
  if !subject.truthy || subject == .str clientId then false
  else if claims.get? "idtyp" == some (.str "app") then false
  else
    match claims.get? "preferred_username" with
    | some (.str username) => !"service-account-".toList.isPrefixOf username.toList
    | _ => true

structure OidcJwksIdentityProvider where
  issuer : String
  decode : JwtDecode
  repr : Json → String

def OidcJwksIdentityProvider.identify (p : OidcJwksIdentityProvider) : IdentityProvider :=
  fun headers => do
    let token ← requireBearer headers "missing 'Authorization: Bearer <access-token>' header"
    let claims ← decodeOrRefuse p.decode token "invalid OIDC access token: "
    match present (clientIdOf p.repr claims) with
    | none =>
      .error (.identity
        "token has none of the expected client-id claims ('azp', 'appid', 'cid')")
    | some clientId =>
      let humanSponsor :=
        if hasHumanSponsor claims clientId then
          some (p.issuer ++ "#" ++ pyStr p.repr ((claims.get? "sub").getD .null))
        else none
      .ok {
        spiffeId := "oidc://" ++ p.issuer ++ "/" ++ clientId
        humanSponsor
        clientId := some clientId }

/-! ## What each adapter fills in -/

inductive IdentityAdapter
  | header
  | jwtSvid (p : JwtSvidIdentityProvider)
  | oidcJwks (p : OidcJwksIdentityProvider)

namespace IdentityAdapter

def identify : IdentityAdapter → IdentityProvider
  | header => HeaderIdentityProvider.identify
  | jwtSvid p => p.identify
  | oidcJwks p => p.identify

/-- The adapter that reads the client id off a token. -/
def isOidc : IdentityAdapter → Bool
  | oidcJwks _ => true
  | _ => false

/-- The adapters whose identity is proved by a bearer token. -/
def readsBearer : IdentityAdapter → Bool
  | header => false
  | _ => true

end IdentityAdapter

theorem requireBearer_ok {headers : Headers} {message token : String}
    (h : requireBearer headers message = .ok token) : bearerToken headers = some token := by
  unfold requireBearer at h
  cases hbearer : bearerToken headers with
  | none =>
    rw [hbearer] at h
    cases h
  | some t =>
    rw [hbearer] at h
    cases h
    rfl

theorem HeaderIdentityProvider.identify_ok {headers : Headers} {agent : AgentIdentity}
    (h : HeaderIdentityProvider.identify headers = .ok agent) : agent.clientId = none := by
  unfold HeaderIdentityProvider.identify at h
  cases hspiffe : present (getHeader headers spiffeHeader) with
  | none =>
    rw [hspiffe] at h
    cases h
  | some spiffeId =>
    rw [hspiffe] at h
    cases h
    rfl

theorem JwtSvidIdentityProvider.identify_ok {p : JwtSvidIdentityProvider} {headers : Headers}
    {agent : AgentIdentity} (h : p.identify headers = .ok agent) :
    agent.clientId = none ∧ ∃ token, bearerToken headers = some token := by
  unfold JwtSvidIdentityProvider.identify at h
  obtain ⟨token, hbearer, h⟩ := bind_except_ok h
  obtain ⟨claims, -, h⟩ := bind_except_ok h
  refine ⟨?_, token, requireBearer_ok hbearer⟩
  cases hsub : claims.get? "sub" with
  | none =>
    rw [hsub] at h
    cases h
  | some sub =>
    simp only [hsub] at h
    split_ifs at h
    cases h
    rfl

theorem OidcJwksIdentityProvider.identify_ok {p : OidcJwksIdentityProvider} {headers : Headers}
    {agent : AgentIdentity} (h : p.identify headers = .ok agent) :
    (∃ clientId, clientId ≠ "" ∧ agent.clientId = some clientId) ∧
      ∃ token, bearerToken headers = some token := by
  unfold OidcJwksIdentityProvider.identify at h
  obtain ⟨token, hbearer, h⟩ := bind_except_ok h
  obtain ⟨claims, -, h⟩ := bind_except_ok h
  refine ⟨?_, token, requireBearer_ok hbearer⟩
  cases hclient : present (clientIdOf p.repr claims) with
  | none =>
    rw [hclient] at h
    cases h
  | some clientId =>
    rw [hclient] at h
    cases h
    exact ⟨clientId, (present_eq_some.mp hclient).2, rfl⟩

namespace IdentityAdapter

variable {adapter : IdentityAdapter} {headers : Headers} {agent : AgentIdentity}

/-- Only the OIDC adapter fills in the client id, and never with a blank one. -/
theorem clientId_of_identify (h : adapter.identify headers = .ok agent) :
    if adapter.isOidc then ∃ clientId, clientId ≠ "" ∧ agent.clientId = some clientId
    else agent.clientId = none := by
  cases adapter with
  | header => exact HeaderIdentityProvider.identify_ok h
  | jwtSvid p => exact (JwtSvidIdentityProvider.identify_ok h).1
  | oidcJwks p => exact (OidcJwksIdentityProvider.identify_ok h).1

theorem clientId_ne_blank (h : adapter.identify headers = .ok agent) :
    agent.clientId ≠ some "" := by
  have hfilled := clientId_of_identify h
  cases hoidc : adapter.isOidc with
  | true =>
    rw [hoidc] at hfilled
    obtain ⟨clientId, hne, hsome⟩ := hfilled
    rw [hsome]
    exact fun heq => hne (Option.some.inj heq)
  | false =>
    rw [hoidc] at hfilled
    rw [show agent.clientId = none from hfilled]
    exact fun heq => by cases heq

theorem clientId_eq_none (h : adapter.identify headers = .ok agent) :
    agent.clientId = none ↔ adapter.isOidc = false := by
  have hfilled := clientId_of_identify h
  cases hoidc : adapter.isOidc with
  | true =>
    rw [hoidc] at hfilled
    obtain ⟨clientId, -, hsome⟩ := hfilled
    simp [hsome]
  | false =>
    rw [hoidc] at hfilled
    exact iff_of_true hfilled rfl

theorem bearer_of_identify (h : adapter.identify headers = .ok agent)
    (hreads : adapter.readsBearer = true) : ∃ token, bearerToken headers = some token := by
  cases adapter with
  | header => cases hreads
  | jwtSvid p => exact (JwtSvidIdentityProvider.identify_ok h).2
  | oidcJwks p => exact (OidcJwksIdentityProvider.identify_ok h).2

end IdentityAdapter

end OpenAgentControl
