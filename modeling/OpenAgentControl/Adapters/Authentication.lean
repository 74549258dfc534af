import OpenAgentControl.Adapters.Claims
import OpenAgentControl.Gateway.Routes

/-! # Failures of authentication

The five adapters that take a credential, over a model of PyJWT's and `hmac`'s exceptions. Each catches
`InvalidTokenError` and no other class: a key of the wrong type and a key id that the JWKS does not
list escape it. The module says for which headers and tokens an adapter raises nothing but
`IdentityError`, and what the routes make of it (`routes_of_unidentified`,
`mcpProxy_of_unverified`). -/

namespace OpenAgentControl
set_option autoImplicit false
set_option maxHeartbeats 250000

open Foundations

/-! ## PyJWT -/

/-- What the header of a token says; `alg` is left out when it is missing or no string. -/
structure TokenHeader where
  alg : Option String
  kid : Option String

/-- What an adapter asks of `jwt.decode`. -/
structure DecodeOptions where
  algorithms : List String
  audience : String
  issuer : Option String := none
  required : List String

structure PyJwt (Key : Type) where
  /-- The header of a token, or the message of the `DecodeError`. -/
  header : String → Except String TokenHeader
  /-- Whether an algorithm works with a key. -/
  fits : String → Key → Bool
  /-- Signature and claims: the claims, or the message of the `InvalidTokenError`. -/
  check : DecodeOptions → Key → String → Except String Dict
  /-- `options={"require": ..}`. -/
  check_required : ∀ options key token claims, check options key token = .ok claims →
    ∀ claim ∈ options.required, ∃ value, claims.get? claim = some value
  /-- The keys of a JWKS, asked for by the key id of a token; none when no key has it or the JWKS
  cannot be fetched. -/
  signingKey : Option String → Option Key

def pyJwkClientError : JwtError := .other "PyJWKClientError"

namespace PyJwt

variable {Key : Type} (jwt : PyJwt Key)

/-- `jwt.decode(token, key=key, ..)`. -/
def decode (options : DecodeOptions) (key : Key) : JwtDecode := fun token =>
  match jwt.header token with
  | .error message => .error (.invalidToken message)
  | .ok header =>
    match header.alg with
    | none => .error (.invalidToken "Algorithm not specified")
    | some alg =>
      if alg ∈ options.algorithms then
        if jwt.fits alg key then
          match jwt.check options key token with
          | .ok claims => .ok claims
          | .error message => .error (.invalidToken message)
        else .error (.other "TypeError")
      else .error (.invalidToken "The specified alg value is not allowed")

/-- `PyJWKClient.get_signing_key_from_jwt`. -/
def getSigningKeyFromJwt (token : String) : Except JwtError Key :=
  match jwt.header token with
  | .error message => .error (.invalidToken message)
  | .ok header =>
    match jwt.signingKey header.kid with
    | some key => .ok key
    | none => .error pyJwkClientError

/-- `_verify` of the three OIDC adapters. -/
def verify (audience issuer : String) : JwtDecode := fun token =>
  match jwt.getSigningKeyFromJwt token with
  | .error e => .error e
  | .ok key =>
    jwt.decode
      { algorithms := ["RS256"], audience, issuer := some issuer, required := ["iss", "aud", "exp"] }
      key token

def svidOptions (audience : String) : DecodeOptions where
  algorithms := ["RS256", "ES256", "EdDSA"]
  audience
  required := ["sub", "exp", "aud"]

end PyJwt

/-! ## The adapters -/

section Adapters

variable {Key : Type} (jwt : PyJwt Key) (repr : Json → String)

def jwtSvidProvider (publicKey : Key) (audience : String) : JwtSvidIdentityProvider where
  decode := jwt.decode (PyJwt.svidOptions audience) publicKey
  repr

def oidcProvider (audience issuer : String) : OidcJwksIdentityProvider where
  issuer
  decode := jwt.verify audience issuer
  repr

def oidcSubjectVerifier (audience issuer roleClaim : String) : OidcSubjectVerifier where
  issuer
  decode := jwt.verify audience issuer
  roleClaim
  repr

def oidcOperatorAuth (audience issuer roleClaim requiredRole : String) : OidcOperatorAuth where
  decode := jwt.verify audience issuer
  roleClaim
  requiredRole
  repr

end Adapters

def isAscii (s : String) : Bool := s.toList.all fun c => decide (c.toNat < 128)

/-- `hmac.compare_digest` of two strings. -/
def compareDigest (a b : String) : Except Exc Bool :=
  if isAscii a && isAscii b then .ok (decide (a = b)) else .error typeError

/-- `api_key_set` is the check of the constructor. -/
structure ApiKeyOperatorAuth where
  apiKey : String
  api_key_set : apiKey ≠ ""

def ApiKeyOperatorAuth.identify (auth : ApiKeyOperatorAuth) (headers : Headers) :
    Except Exc String := do
  let token ← requireBearer headers "missing 'Authorization: Bearer <api-key>' header"
  let same ← compareDigest token auth.apiKey
  if same then return "api-key" else .error (.identity "invalid control-plane API key")

/-- `get_operator_subject`: the subject, an HTTP error with its detail, or an exception that nobody
handles. -/
inductive OperatorSubject
  | subject (s : String)
  | http (statusCode : ℕ) (detail : String)
  | unhandled (e : Exc)

def getOperatorSubject (identify : Headers → Except Exc String) (headers : Headers) :
    OperatorSubject :=
  match identify headers with
  | .ok s => .subject s
  | .error (.identity message) => .http 401 message
  | .error e => .unhandled e

/-! ## Nothing but an identity error -/

section Refusals

variable {α β : Type}

/-- A value or an `IdentityError`. -/
def OnlyRefuses (x : Except Exc α) : Prop := ∀ e, x = .error e → ∃ message, e = .identity message

theorem onlyRefuses_ok (a : α) : OnlyRefuses (.ok a) := nofun

theorem onlyRefuses_identity (message : String) :
    OnlyRefuses (.error (.identity message) : Except Exc α) := by
  intro e he
  exact ⟨message, (Except.error.inj he).symm⟩

theorem not_onlyRefuses_other (name : String) :
    ¬ OnlyRefuses (.error (.other name) : Except Exc α) := by
  intro h
  obtain ⟨message, habs⟩ := h _ rfl
  cases habs

/-- What follows a step only refuses: the whole does exactly when the step does. -/
theorem onlyRefuses_bind_iff {x : Except Exc α} {f : α → Except Exc β}
    (hf : ∀ a, x = .ok a → OnlyRefuses (f a)) : OnlyRefuses (x >>= f) ↔ OnlyRefuses x := by
  cases x with
  | ok a => exact iff_of_true (hf a rfl) (onlyRefuses_ok a)
  | error e =>
    constructor
    · intro h e' he
      exact h e' (congrArg Except.error (Except.error.inj he))
    · intro h e' he
      exact h e' (congrArg Except.error (Except.error.inj he))

/-- Behind a bearer header only the token is left to fail. -/
theorem onlyRefuses_requireBearer_iff {headers : Headers} {message : String}
    {f : String → Except Exc β} :
    OnlyRefuses (requireBearer headers message >>= f) ↔
      ∀ token, bearerToken headers = some token → OnlyRefuses (f token) := by
  unfold requireBearer
  cases bearerToken headers with
  | none => exact iff_of_true (onlyRefuses_identity message) nofun
  | some token =>
    constructor
    · rintro h token' ⟨⟩
      exact h
    · exact fun h => h token rfl

theorem onlyRefuses_decode_iff {decode : JwtDecode} {token message : String} :
    OnlyRefuses (decodeOrRefuse decode token message) ↔
      ∀ name, decode token ≠ .error (.other name) := by
  unfold decodeOrRefuse
  cases hdecode : decode token with
  | ok claims => exact iff_of_true (onlyRefuses_ok claims) nofun
  | error e =>
    cases e with
    | invalidToken reason =>
      refine iff_of_true (onlyRefuses_identity _) ?_
      intro name habs
      cases habs
    | other name => exact iff_of_false (not_onlyRefuses_other name) fun h => h name rfl

end Refusals

/-! ## Keys that fit -/

namespace PyJwt

variable {Key : Type} (jwt : PyJwt Key)

/-- The algorithm that the token names, where it is an allowed one, works with the key. -/
def KeyFits (options : DecodeOptions) (key : Key) (token : String) : Prop :=
  ∀ header alg, jwt.header token = .ok header → header.alg = some alg → alg ∈ options.algorithms →
    jwt.fits alg key = true

/-- The JWKS lists a key for the id of the token, and one for RSA if the token names RS256. -/
def KeyListed (token : String) : Prop :=
  ∀ header, jwt.header token = .ok header →
    ∃ key, jwt.signingKey header.kid = some key ∧
      (header.alg = some "RS256" → jwt.fits "RS256" key = true)

theorem decode_catches_iff {options : DecodeOptions} {key : Key} {token : String} :
    (∀ name, jwt.decode options key token ≠ .error (.other name)) ↔
      jwt.KeyFits options key token := by
  unfold decode KeyFits
  cases hheader : jwt.header token with
  | error message => exact iff_of_true nofun nofun
  | ok header =>
    cases halg : header.alg with
    | none =>
      simp only [halg]
      refine iff_of_true nofun ?_
      rintro header' alg ⟨⟩ hsome
      rw [halg] at hsome
      cases hsome
    | some alg =>
      simp only [halg]
      have hfits : (∀ header' alg', (Except.ok header : Except String TokenHeader) = .ok header' →
          header'.alg = some alg' → alg' ∈ options.algorithms → jwt.fits alg' key = true) ↔
            (alg ∈ options.algorithms → jwt.fits alg key = true) := by
        constructor
        · exact fun h => h header alg rfl halg
        · rintro h header' alg' ⟨⟩ hsome
          rw [halg] at hsome
          cases hsome
          exact h
      rw [hfits]
      split_ifs with hallowed hkey
      · cases jwt.check options key token with
        | ok claims => exact iff_of_true nofun fun _ => hkey
        | error message => exact iff_of_true nofun fun _ => hkey
      · exact iff_of_false (fun h => h "TypeError" rfl) fun h => hkey (h hallowed)
      · exact iff_of_true nofun fun h => absurd h hallowed

theorem verify_catches_iff {audience issuer token : String} :
    (∀ name, jwt.verify audience issuer token ≠ .error (.other name)) ↔ jwt.KeyListed token := by
  unfold verify getSigningKeyFromJwt KeyListed
  cases hheader : jwt.header token with
  | error message => exact iff_of_true nofun nofun
  | ok header =>
    cases hkey : jwt.signingKey header.kid with
    | none =>
      simp only [hkey]
      refine iff_of_false (fun h => h "PyJWKClientError" rfl) fun h => ?_
      obtain ⟨key, hsome, -⟩ := h header rfl
      rw [hkey] at hsome
      cases hsome
    | some key =>
      simp only [hkey]
      rw [jwt.decode_catches_iff, KeyFits]
      constructor
      · rintro h header' ⟨⟩
        exact ⟨key, hkey, fun halg => h header "RS256" hheader halg (List.mem_singleton_self _)⟩
      · intro h header' alg hheader' halg hallowed
        rw [hheader] at hheader'
        cases hheader'
        rw [List.mem_singleton.mp hallowed] at halg ⊢
        obtain ⟨key', hkey', hfits⟩ := h header rfl
        rw [hkey] at hkey'
        cases hkey'
        exact hfits halg

theorem decode_required {options : DecodeOptions} {key : Key} {token claim : String} {claims : Dict}
    (h : jwt.decode options key token = .ok claims) (hclaim : claim ∈ options.required) :
    ∃ value, claims.get? claim = some value := by
  unfold decode at h
  split at h
  · cases h
  · split at h
    · cases h
    · split_ifs at h
      split at h
      · next hcheck =>
        cases h
        exact jwt.check_required options key token _ hcheck claim hclaim
      · cases h

end PyJwt

/-! ## Each adapter -/

section Each

variable {Key : Type} (jwt : PyJwt Key) (repr : Json → String)

theorem decodeOrRefuse_ok {decode : JwtDecode} {token message : String} {claims : Dict}
    (h : decodeOrRefuse decode token message = .ok claims) : decode token = .ok claims := by
  unfold decodeOrRefuse at h
  split at h
  · next hdecode =>
    cases h
    exact hdecode
  · cases h
  · cases h

theorem jwtSvid_refuses_iff (publicKey : Key) (audience : String) (headers : Headers) :
    OnlyRefuses ((jwtSvidProvider jwt repr publicKey audience).identify headers) ↔
      ∀ token, bearerToken headers = some token →
        jwt.KeyFits (PyJwt.svidOptions audience) publicKey token := by
  unfold JwtSvidIdentityProvider.identify
  rw [onlyRefuses_requireBearer_iff]
  refine forall_congr' fun token => imp_congr_right fun _ => ?_
  rw [← jwt.decode_catches_iff, onlyRefuses_bind_iff, onlyRefuses_decode_iff]
  · rfl
  · intro claims hclaims
    -- the required `sub` leaves no KeyError
    obtain ⟨sub, hsub⟩ := jwt.decode_required (decodeOrRefuse_ok hclaims)
      (show "sub" ∈ (PyJwt.svidOptions audience).required from List.mem_cons_self)
    simp only [hsub]
    split_ifs
    · exact onlyRefuses_ok _
    · exact onlyRefuses_identity _

theorem oidcJwks_refuses_iff (audience issuer : String) (headers : Headers) :
    OnlyRefuses ((oidcProvider jwt repr audience issuer).identify headers) ↔
      ∀ token, bearerToken headers = some token → jwt.KeyListed token := by
  unfold OidcJwksIdentityProvider.identify
  rw [onlyRefuses_requireBearer_iff]
  refine forall_congr' fun token => imp_congr_right fun _ => ?_
  rw [← jwt.verify_catches_iff, onlyRefuses_bind_iff, onlyRefuses_decode_iff]
  · rfl
  · intro claims _
    cases present (clientIdOf (oidcProvider jwt repr audience issuer).repr claims) with
    | none => exact onlyRefuses_identity _
    | some clientId => exact onlyRefuses_ok _

theorem oidcSubject_refuses_iff (audience issuer roleClaim subjectToken : String) :
    OnlyRefuses ((oidcSubjectVerifier jwt repr audience issuer roleClaim).verify subjectToken) ↔
      (subjectToken ≠ "" → jwt.KeyListed subjectToken) := by
  unfold OidcSubjectVerifier.verify
  split_ifs with hempty
  · exact iff_of_true (onlyRefuses_identity _) fun h => absurd hempty h
  · rw [← jwt.verify_catches_iff, onlyRefuses_bind_iff, onlyRefuses_decode_iff]
    · exact ⟨fun h _ => h, fun h => h hempty⟩
    · intro claims _
      by_cases hsub : ((claims.get? "sub").getD .null).truthy = true
      · simp only [hsub, if_true]
        exact onlyRefuses_ok _
      · simp only [hsub]
        exact onlyRefuses_identity _

theorem oidcOperator_refuses_iff (audience issuer roleClaim requiredRole : String)
    (headers : Headers) :
    OnlyRefuses
        ((oidcOperatorAuth jwt repr audience issuer roleClaim requiredRole).identify headers) ↔
      ∀ token, bearerToken headers = some token → jwt.KeyListed token := by
  unfold OidcOperatorAuth.identify
  rw [onlyRefuses_requireBearer_iff]
  refine forall_congr' fun token => imp_congr_right fun _ => ?_
  rw [← jwt.verify_catches_iff, onlyRefuses_bind_iff, onlyRefuses_decode_iff]
  · rfl
  · intro claims _
    split_ifs
    · exact onlyRefuses_ok _
    · exact onlyRefuses_identity _

theorem apiKey_refuses_iff (auth : ApiKeyOperatorAuth) (headers : Headers) :
    OnlyRefuses (auth.identify headers) ↔
      ∀ token, bearerToken headers = some token →
        isAscii token = true ∧ isAscii auth.apiKey = true := by
  unfold ApiKeyOperatorAuth.identify
  rw [onlyRefuses_requireBearer_iff]
  refine forall_congr' fun token => imp_congr_right fun _ => ?_
  rw [onlyRefuses_bind_iff, compareDigest, ← Bool.and_eq_true]
  · split_ifs with hascii
    · exact iff_of_true (onlyRefuses_ok _) hascii
    · exact iff_of_false (not_onlyRefuses_other _) hascii
  · intro same _
    split_ifs
    · exact onlyRefuses_ok _
    · exact onlyRefuses_identity _

end Each

/-! ## The routes in front of them -/

/-- Both routes of the gateway answer 401 to whatever the authentication raised, the MCP route for
exactly those ids in the body that it can echo. -/
def RoutesRefuse {α : Type} (x : Except Exc α) : Prop :=
  ∀ e, x = .error e →
    (∀ requestId, (∃ content, respond requestId (.error e) = .response ⟨401, content⟩) ↔
      requestId.renderable = true) ∧
    ∃ content, respondAuthorize (.error e) = .response ⟨401, content⟩

theorem OnlyRefuses.routes {α : Type} {x : Except Exc α} (h : OnlyRefuses x) : RoutesRefuse x := by
  intro e he
  obtain ⟨message, rfl⟩ := h e he
  exact ⟨fun requestId => jsonrpcErrorResponse_iff, _, rfl⟩

theorem getOperatorSubject_handled_iff (identify : Headers → Except Exc String)
    (headers : Headers) :
    (∀ e, getOperatorSubject identify headers ≠ .unhandled e) ↔ OnlyRefuses (identify headers) := by
  unfold getOperatorSubject
  cases identify headers with
  | ok s => exact iff_of_true nofun (onlyRefuses_ok s)
  | error e =>
    cases e with
    | identity message => exact iff_of_true nofun (onlyRefuses_identity message)
    | _ =>
      refine iff_of_false (fun h => h _ rfl) fun h => ?_
      obtain ⟨message, habs⟩ := h _ rfl
      cases habs

namespace GovernedExecutionService

variable {svc : GovernedExecutionService} {headers : Headers} {e : Exc}

/-- What `identify` raises is what both routes have to answer. -/
theorem routes_of_unidentified (h : svc.identityProvider headers = .error e) (body : Dict)
    (tool : String) (arguments : Dict) :
    mcpProxy svc headers (some (.obj body)) =
        respond ((Dict.get? body "id").getD .null) (.error e) ∧
      authorizeRoute svc headers tool arguments = respondAuthorize (.error e) := by
  have hcore : ∀ payload, (svc.authorizeCore headers payload).result = .error e := by
    intro payload
    unfold authorizeCore
    rw [Traced.bind_of_error h]
  constructor
  · rw [mcpProxy, execute_of_error (hcore body)]
  · rw [authorizeRoute, authorize, hcore]

/-- So is what `verify` raises, once the call has been built. -/
theorem mcpProxy_of_unverified {body : Dict} {agent : AgentIdentity}
    {registration : Option RegisteredAgent} {built : ToolCallRequest} {verify : SubjectVerifier}
    (hidentify : svc.identityProvider headers = .ok agent)
    (hlookup : svc.agentRegistry agent.spiffeId = .ok registration)
    (hbuilt : buildCall body agent registration = .ok built)
    (hverifier : svc.subjectVerifier = some verify) (htoken : subjectToken headers ≠ "")
    (h : verify (subjectToken headers) = .error e) :
    mcpProxy svc headers (some (.obj body)) =
      respond ((Dict.get? body "id").getD .null) (.error e) := by
  have hresolve : (svc.resolveSubject headers agent built).result = .error e := by
    rw [resolveSubject_delegated hverifier htoken, Traced.bind_of_error h]
  have hcore := authorizeCore_of_refused hidentify hlookup hbuilt hresolve
  rw [mcpProxy, execute_of_error (by rw [hcore])]

end GovernedExecutionService

/-- When each adapter answers every request with an identity or an `IdentityError`, and the routes in
front of it therefore with 401, as far as the id of the request can be echoed: the key of the token is
one that its algorithm works with, and for the OIDC adapters one that the JWKS lists; the API key and
the token are ASCII. -/
theorem authentication_refuses_iff {Key : Type} (jwt : PyJwt Key) (repr : Json → String)
    (publicKey : Key) (audience issuer roleClaim requiredRole : String) (auth : ApiKeyOperatorAuth)
    (headers : Headers) (subjectToken : String) :
    ((OnlyRefuses ((jwtSvidProvider jwt repr publicKey audience).identify headers) ∧
        RoutesRefuse ((jwtSvidProvider jwt repr publicKey audience).identify headers)) ↔
      ∀ token, bearerToken headers = some token →
        jwt.KeyFits (PyJwt.svidOptions audience) publicKey token) ∧
    ((OnlyRefuses ((oidcProvider jwt repr audience issuer).identify headers) ∧
        RoutesRefuse ((oidcProvider jwt repr audience issuer).identify headers)) ↔
      ∀ token, bearerToken headers = some token → jwt.KeyListed token) ∧
    ((OnlyRefuses
          ((oidcSubjectVerifier jwt repr audience issuer roleClaim).verify subjectToken) ∧
        RoutesRefuse
          ((oidcSubjectVerifier jwt repr audience issuer roleClaim).verify subjectToken)) ↔
      (subjectToken ≠ "" → jwt.KeyListed subjectToken)) ∧
    ((OnlyRefuses
          ((oidcOperatorAuth jwt repr audience issuer roleClaim requiredRole).identify headers) ∧
        ∀ e, getOperatorSubject
          (oidcOperatorAuth jwt repr audience issuer roleClaim requiredRole).identify headers ≠
            .unhandled e) ↔
      ∀ token, bearerToken headers = some token → jwt.KeyListed token) ∧
    ((OnlyRefuses (auth.identify headers) ∧
        ∀ e, getOperatorSubject auth.identify headers ≠ .unhandled e) ↔
      ∀ token, bearerToken headers = some token →
        isAscii token = true ∧ isAscii auth.apiKey = true) := by
  have hroutes : ∀ {α : Type} {x : Except Exc α}, (OnlyRefuses x ∧ RoutesRefuse x) ↔
      OnlyRefuses x := and_iff_left_of_imp OnlyRefuses.routes
  rw [hroutes, hroutes, hroutes, getOperatorSubject_handled_iff, getOperatorSubject_handled_iff,
    and_self, and_self]
  exact ⟨jwtSvid_refuses_iff jwt repr publicKey audience headers,
    oidcJwks_refuses_iff jwt repr audience issuer headers,
    oidcSubject_refuses_iff jwt repr audience issuer roleClaim subjectToken,
    oidcOperator_refuses_iff jwt repr audience issuer roleClaim requiredRole headers,
    apiKey_refuses_iff auth headers⟩

/-! ## A key id that the JWKS does not list -/

/-- A provider whose JWKS lists nothing, over tokens with a header. -/
def emptyJwks : PyJwt Unit where
  header := fun _ => .ok { alg := some "RS256", kid := some "retired" }
  fits := fun _ _ => true
  check := fun _ _ _ => .error "Signature verification failed"
  check_required := nofun
  signingKey := fun _ => none

theorem retiredKey_escapes :
    (oidcProvider emptyJwks (fun _ => "") "gateway" "https://idp").identify bearerRequest =
        .error (.other "PyJWKClientError") ∧
      ¬ OnlyRefuses
        ((oidcProvider emptyJwks (fun _ => "") "gateway" "https://idp").identify bearerRequest) :=
  ⟨rfl, not_onlyRefuses_other _⟩

end OpenAgentControl
