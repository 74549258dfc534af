import OpenAgentControl.Adapters.Identity
import OpenAgentControl.Foundations.Words

/-! # The readers of a human's token

`adapters/claims.py` and its two users: the operator auth of the control plane and the subject
verifier of the gateway. Both walk the same dotted path; the module says exactly when they make the
same of what they find there. -/

namespace OpenAgentControl
set_option autoImplicit false
set_option maxHeartbeats 250000

open Foundations

/-! ## The path -/

def walkClaim : Json → List String → Json
  | value, [] => value
  | .obj fields, segment :: rest =>
    match Dict.get? fields segment with
    | some value => walkClaim value rest
    | none => .null
  | _, _ :: _ => .null

/-- `dotted_path.split(".")`. -/
def splitDots (path : String) : List String := (path.toList.splitOn '.').map String.ofList

def resolveDottedClaim (claims : Dict) (dottedPath : String) : Json :=
  walkClaim (.obj claims) (splitDots dottedPath)

/-- `claims.get(key) or claims.get(key')`. -/
def claimOr (claims : Dict) (key key' : String) : Json :=
  let value := (claims.get? key).getD .null
  if value.truthy then value else (claims.get? key').getD .null

/-! ## The operator -/

/-- `roles = [roles] if isinstance(roles, str)`, and the check of `required_role in roles`. -/
def hasRole (role : String) : Json → Bool
  | .str s => decide (role = s)
  | .arr items => decide (.str role ∈ items)
  | _ => false

structure OidcOperatorAuth where
  decode : JwtDecode
  roleClaim : String
  requiredRole : String
  repr : Json → String

def OidcOperatorAuth.identify (auth : OidcOperatorAuth) (headers : Headers) : Except Exc String := do
  let token ← requireBearer headers "missing 'Authorization: Bearer <access-token>' header"
  let claims ← decodeOrRefuse auth.decode token "invalid OIDC access token: "
  if hasRole auth.requiredRole (resolveDottedClaim claims auth.roleClaim) then
    return pyStr auth.repr (claimOr claims "preferred_username" "sub")
  else .error (.identity ("token lacks required role '" ++ auth.requiredRole ++ "' in claim '" ++
    auth.roleClaim ++ "'"))

/-! ## The subject -/

/-- `value.split()`. -/
def pySplit (s : String) : List String := (words pySpace s.toList).map String.ofList

/-- `_string_list`. -/
def claimStrings (repr : Json → String) : Json → List String
  | .str s => pySplit s
  | .arr items => items.map (pyStr repr)
  | _ => []

/-- `_authorized_actor`. -/
def authorizedActor (repr : Json → String) (claims : Dict) : Option String :=
  match claims.get? "may_act" with
  | some (.obj mayAct) =>
    let actor := claimOr mayAct "sub" "client_id"
    if actor.truthy then some (pyStr repr actor) else none
  | _ => none

structure OidcSubjectVerifier where
  issuer : String
  decode : JwtDecode
  roleClaim : String
  repr : Json → String

def OidcSubjectVerifier.verify (verifier : OidcSubjectVerifier) : SubjectVerifier :=
  fun subjectToken => do
    if subjectToken = "" then .error (.identity "delegated call is missing a subject token")
    else
      let claims ← decodeOrRefuse verifier.decode subjectToken "invalid subject token: "
      let subject := (claims.get? "sub").getD .null
      if subject.truthy then
        let roles := resolveDottedClaim claims verifier.roleClaim
        let username := claimOr claims "preferred_username" "email"
        return {
          subjectId := verifier.issuer ++ "#" ++ pyStr verifier.repr subject
          issuer := verifier.issuer
          username := if username.truthy then some (pyStr verifier.repr username) else none
          roles := claimStrings verifier.repr roles
          scopes := claimStrings verifier.repr ((claims.get? "scope").getD .null)
          authorizedActor := authorizedActor verifier.repr claims }
      else .error (.identity "subject token has no 'sub' claim")

/-! ## What each makes of the claims -/

def hasSubject (claims : Dict) : Bool := ((claims.get? "sub").getD .null).truthy

theorem OidcOperatorAuth.accepts_iff {auth : OidcOperatorAuth} {headers : Headers} {token : String}
    {claims : Dict} (hbearer : bearerToken headers = some token)
    (hdecode : auth.decode token = .ok claims) :
    (∃ operator, auth.identify headers = .ok operator) ↔
      hasRole auth.requiredRole (resolveDottedClaim claims auth.roleClaim) = true := by
  unfold identify requireBearer decodeOrRefuse
  simp only [hbearer, hdecode, bind, Except.bind]
  split_ifs with hrole
  · exact iff_of_true ⟨_, rfl⟩ hrole
  · exact iff_of_false nofun hrole

theorem OidcSubjectVerifier.projects_iff {verifier : OidcSubjectVerifier} {token role : String}
    {claims : Dict} (htoken : token ≠ "") (hdecode : verifier.decode token = .ok claims) :
    (∃ subject, verifier.verify token = .ok subject ∧ role ∈ subject.roles) ↔
      hasSubject claims = true ∧
        role ∈ claimStrings verifier.repr (resolveDottedClaim claims verifier.roleClaim) := by
  unfold verify decodeOrRefuse hasSubject
  simp only [if_neg htoken, hdecode, bind, Except.bind]
  by_cases hsub : ((claims.get? "sub").getD .null).truthy = true
  · simp only [hsub, true_and]
    constructor
    · rintro ⟨subject, hsubject, hrole⟩
      cases hsubject
      exact hrole
    · exact fun hrole => ⟨_, rfl, hrole⟩
  · simp only [if_neg hsub]
    exact iff_of_false nofun fun h => hsub h.1

/-- A string that is a single word: not empty, and without white space. -/
def OneWord (s : String) : Prop := s ≠ "" ∧ ∀ c ∈ s.toList, pySpace c = false

theorem mem_pySplit_self_iff {s : String} : s ∈ pySplit s ↔ OneWord s := by
  have hself : s ∈ pySplit s ↔ s.toList ∈ words pySpace s.toList := by
    unfold pySplit
    constructor
    · intro h
      obtain ⟨word, hword, heq⟩ := List.mem_map.mp h
      have hchars : s.toList = word := by rw [← heq, String.toList_ofList]
      rwa [hchars] at hword ⊢
    · exact fun h => List.mem_map.mpr ⟨_, h, String.ofList_toList⟩
  rw [hself, mem_words_self_iff, OneWord]
  simp

/-- Where the two readers make the same of a claim for a role. A string claim is the role and a single
word, or another string of which the role is no word; a list has the role itself if it has any item
that reads as the role. -/
def ReadAlike (repr : Json → String) (role : String) : Json → Prop
  | .str s => if role = s then OneWord s else role ∉ pySplit s
  | .arr items => (∃ item ∈ items, pyStr repr item = role) → .str role ∈ items
  | _ => True

theorem readAlike_iff {repr : Json → String} {role : String} {value : Json} :
    (hasRole role value = true ↔ role ∈ claimStrings repr value) ↔ ReadAlike repr role value := by
  cases value with
  | str s =>
    simp only [hasRole, claimStrings, ReadAlike, decide_eq_true_eq]
    split_ifs with hrole
    · subst hrole
      rw [mem_pySplit_self_iff]
      simp
    · simp [hrole]
  | arr items =>
    have hitem : .str role ∈ items → ∃ item ∈ items, pyStr repr item = role :=
      fun h => ⟨.str role, h, rfl⟩
    simp only [hasRole, claimStrings, ReadAlike, decide_eq_true_eq, List.mem_map]
    exact ⟨fun h => h.mpr, fun h => ⟨hitem, h⟩⟩
  | null => simp [hasRole, claimStrings, ReadAlike]
  | bool b => simp [hasRole, claimStrings, ReadAlike]
  | int n => simp [hasRole, claimStrings, ReadAlike]
  | float x => simp [hasRole, claimStrings, ReadAlike]
  | obj fields => simp [hasRole, claimStrings, ReadAlike]

/-- The condition on the claims: with a `sub`, the claim reads alike; without one no subject is
projected, and the operator must not have the role either. -/
def RolesAgree (repr : Json → String) (claims : Dict) (path role : String) : Prop :=
  if hasSubject claims = true then ReadAlike repr role (resolveDottedClaim claims path)
  else hasRole role (resolveDottedClaim claims path) = false

/-- An operator is accepted for exactly the roles a subject is projected to have, if and only if the
claims are such that the two readings agree. -/
theorem operator_subject_agree_iff (auth : OidcOperatorAuth) (verifier : OidcSubjectVerifier)
    (headers : Headers) (token subjectToken : String) (claims : Dict)
    (hpath : auth.roleClaim = verifier.roleClaim)
    (hbearer : bearerToken headers = some token) (hdecode : auth.decode token = .ok claims)
    (hpresent : subjectToken ≠ "") (hdecode' : verifier.decode subjectToken = .ok claims) :
    ((∃ operator, auth.identify headers = .ok operator) ↔
      ∃ subject, verifier.verify subjectToken = .ok subject ∧
        auth.requiredRole ∈ subject.roles) ↔
      RolesAgree verifier.repr claims verifier.roleClaim auth.requiredRole := by
  rw [OidcOperatorAuth.accepts_iff hbearer hdecode,
    OidcSubjectVerifier.projects_iff hpresent hdecode', hpath, RolesAgree]
  split_ifs with hsub
  · simp only [hsub, true_and]
    exact readAlike_iff
  · simp [hsub]

/-! ## Two roles in one string -/

def spacedClaims : Dict := [("sub", .str "alice"), ("roles", .str "auditor admin")]

def adminAuth : OidcOperatorAuth where
  decode := fun _ => .ok spacedClaims
  roleClaim := "roles"
  requiredRole := "admin"
  repr := fun _ => ""

def rolesVerifier : OidcSubjectVerifier where
  issuer := "https://idp"
  decode := fun _ => .ok spacedClaims
  roleClaim := "roles"
  repr := fun _ => ""

def bearerRequest : Headers := [("Authorization", "Bearer t")]

theorem spacedClaims_agree_iff :
    ((∃ operator, adminAuth.identify bearerRequest = .ok operator) ↔
      ∃ subject, rolesVerifier.verify "t" = .ok subject ∧ "admin" ∈ subject.roles) ↔
      RolesAgree (fun _ => "") spacedClaims "roles" "admin" :=
  operator_subject_agree_iff adminAuth rolesVerifier bearerRequest "t" "t" spacedClaims rfl
    (by decide) rfl (by decide) rfl

/-- The subject has the role, and the operator is refused for want of it. -/
theorem spacedClaims_disagree :
    (∃ subject, rolesVerifier.verify "t" = .ok subject ∧ "admin" ∈ subject.roles) ∧
      ¬ ∃ operator, adminAuth.identify bearerRequest = .ok operator := by
  refine ⟨⟨_, rfl, by decide⟩, ?_⟩
  rintro ⟨operator, h⟩
  cases h

end OpenAgentControl
