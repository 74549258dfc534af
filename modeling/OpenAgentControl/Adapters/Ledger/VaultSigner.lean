import OpenAgentControl.Foundations.Base64
import OpenAgentControl.Adapters.Http
import OpenAgentControl.Adapters.Ledger.Signing

/-! # The Vault signer

`adapters/ledger/vault_signer.py`: a signer reads the public key once, when it is built, and posts the
bytes of every receipt to Vault. The replies of a Vault whose transit key has a number of versions are
below it, and what the signer makes of them: the key of the latest version, and a signature by it. -/

namespace OpenAgentControl
set_option autoImplicit false
set_option maxHeartbeats 250000

open Foundations

/-- The raw bytes of a key, as `from_public_bytes` accepts them. -/
structure Ed25519PublicKey where
  bytes : Bytes
  size : bytes.length = 32
deriving DecidableEq

inductive VaultException
  | vaultSignerError (message : String)
  | httpError (message : String)
  | other (e : Exc)
deriving DecidableEq

/-- The HTTP client, by URL and, for a post, the JSON body. -/
structure VaultClient where
  get : String → HttpAnswer
  post : String → Json → HttpAnswer

structure VaultTransitSigner where
  base : String
  keyName : String
  publicKey : Ed25519PublicKey
deriving DecidableEq

/-! ## Reading a reply -/

def vaultValueError : VaultException := .other (.other "ValueError")

/-- `response.raise_for_status()` and `response.json()`. -/
def readBody (answer : HttpAnswer) : Except VaultException Json :=
  match answer.outcome with
  | .success body =>
    match body with
    | some body => .ok body
    | none => .error (.other jsonDecodeError)
  | .raised e => .error (.other e)
  | .httpError message => .error (.httpError message)

/-- `value[key]`. -/
def subscript (value : Json) (key : String) : Except VaultException Json :=
  match value with
  | .obj fields =>
    match Dict.get? fields key with
    | some item => .ok item
    | none => .error (.other (.other "KeyError"))
  | _ => .error (.other typeError)

/-- Digits with single underscores between them. -/
def readDigits (digits : List Char) : Option ℕ :=
  let groups := digits.splitOnP (· == '_')
  if groups.all fun group => !group.isEmpty && group.all Char.isDigit then
    some (Nat.ofDigitChars 10 groups.flatten 0)
  else none

/-- `int(v)`, with ASCII digits. -/
def pyInt (v : String) : Except VaultException ℤ :=
  let text := ((v.toList.dropWhile pySpace).reverse.dropWhile pySpace).reverse
  let read := match text with
    | '-' :: digits => (readDigits digits).map fun n => -(n : ℤ)
    | '+' :: digits => (readDigits digits).map fun n => (n : ℤ)
    | digits => (readDigits digits).map fun n => (n : ℤ)
  match read with
  | some n => .ok n
  | none => .error vaultValueError

/-- `keys[str(max(int(v) for v in keys))]`; what is not a `dict` raises, here always the same. -/
def latestKey (keys : Json) : Except VaultException Json :=
  match keys with
  | .obj fields => do
    match ← fields.mapM fun field => pyInt field.1 with
    | [] => .error vaultValueError
    | v :: vs => subscript keys (String.ofList (intText (vs.foldl max v)))
  | _ => .error (.other typeError)

def b64decode (value : Json) : Except VaultException Bytes :=
  match value with
  | .str s =>
    match base64Decode s with
    | some data => .ok data
    | none => .error vaultValueError
  | _ => .error (.other typeError)

def fromPublicBytes (raw : Bytes) : Except VaultException Ed25519PublicKey :=
  if h : raw.length = 32 then .ok ⟨raw, h⟩ else .error vaultValueError

/-- `signature_field.rsplit(":", 1)[-1]`. -/
def afterLastColon (s : String) : String :=
  String.ofList ((s.toList.reverse.takeWhile (· ≠ ':')).reverse)

namespace VaultTransitSigner

/-- `_fetch_public_key`. -/
def fetchPublicKey (base keyName : String) (client : VaultClient) :
    Except VaultException Ed25519PublicKey :=
  match client.get (base ++ "/v1/transit/keys/" ++ keyName) with
  | .response 404 _ _ =>
    .error (.vaultSignerError ("transit key '" ++ keyName ++
      "' does not exist — create it with: vault write -f transit/keys/" ++ keyName ++
      " type=ed25519"))
  | response => do
    let body ← readBody response
    let keys ← subscript (← subscript body "data") "keys"
    let latest ← latestKey keys
    let raw ← b64decode (← subscript latest "public_key")
    fromPublicBytes raw

/-- `vault_url.rstrip("/")`. -/
def baseOf (vaultUrl : String) : String :=
  String.ofList (vaultUrl.toList.reverse.dropWhile (· == '/')).reverse

/-- `VaultTransitSigner(vault_url, ..)`. -/
def build (vaultUrl keyName : String) (client : VaultClient) :
    Except VaultException VaultTransitSigner := do
  let base := baseOf vaultUrl
  let publicKey ← fetchPublicKey base keyName client
  return { base, keyName, publicKey }

def sign (signer : VaultTransitSigner) (client : VaultClient) (unsignedBytes : Bytes) :
    Except VaultException Bytes := do
  let payload := base64Encode unsignedBytes
  let body ← readBody (client.post (signer.base ++ "/v1/transit/sign/" ++ signer.keyName)
    (.obj [("input", .str payload)]))
  let signatureField ← subscript (← subscript body "data") "signature"
  match signatureField with
  | .str s => b64decode (.str (afterLastColon s))
  | _ => .error (.other attributeError)

end VaultTransitSigner

/-! ## A Vault -/

/-- The key pair of every version a transit key comes to have. -/
structure Vault where
  publicKey : ℕ → Ed25519PublicKey
  sign : ℕ → Bytes → Bytes

namespace Vault

def versionText (version : ℕ) : String := String.ofList (intText version)

/-- The keys endpoint: the public keys of the versions from 1 on. -/
def keysBody (vault : Vault) (version : ℕ) : Json :=
  .obj [("data", .obj [("keys", .obj ((List.range version).map fun i =>
    (versionText (i + 1),
      .obj [("public_key", .str (base64Encode (vault.publicKey (i + 1)).bytes))])))])]

def signBody (vault : Vault) (version : ℕ) (data : Bytes) : Json :=
  .obj [("data", .obj [("signature", .str ("vault:v" ++ versionText version ++ ":" ++
    base64Encode (vault.sign version data)))])]

/-- A Vault whose transit key is at this version, as a client at its URL sees it. -/
def client (vault : Vault) (base keyName : String) (version : ℕ) : VaultClient where
  get := fun url =>
    if url = base ++ "/v1/transit/keys/" ++ keyName then
      .response 200 "" (some (vault.keysBody version))
    else .response 404 "not found" none
  post := fun url body =>
    if url = base ++ "/v1/transit/sign/" ++ keyName then
      match body with
      | .obj [("input", .str input)] =>
        match base64Decode input with
        | some data => .response 200 "" (some (vault.signBody version data))
        | none => .response 400 "bad input" none
      | _ => .response 400 "bad request" none
    else .response 404 "not found" none

end Vault

theorem intText_nat (n : ℕ) : intText (n : ℤ) = Nat.toDigits 10 n := rfl

theorem mem_toDigits_isDigit {n : ℕ} {c : Char} (h : c ∈ Nat.toDigits 10 n) :
    c.isDigit = true :=
  Nat.isDigit_of_mem_toDigits (by decide) (by decide) h

theorem readDigits_toDigits (n : ℕ) : readDigits (Nat.toDigits 10 n) = some n := by
  have hsplit : (Nat.toDigits 10 n).splitOnP (· == '_') = [Nat.toDigits 10 n] := by
    apply List.splitOnP_eq_singleton
    intro c hc
    have hdigit := mem_toDigits_isDigit hc
    apply beq_eq_false_iff_ne.mpr
    rintro rfl
    exact absurd hdigit (by decide)
  have hall : (Nat.toDigits 10 n).all Char.isDigit = true := by
    rw [List.all_eq_true]
    exact fun c hc => mem_toDigits_isDigit hc
  have hne : (Nat.toDigits 10 n).isEmpty = false := by
    simp
  rw [readDigits, hsplit]
  simp [hall, hne, Nat.ofDigitChars_toDigits]

theorem pySpace_isDigit {c : Char} (h : c.isDigit = true) : pySpace c = false := by
  have hrange : 48 ≤ c.toNat ∧ c.toNat ≤ 57 := by
    simpa [Char.isDigit, UInt32.le_iff_toNat_le] using h
  simp only [pySpace, Bool.or_eq_false_iff, Bool.and_eq_false_iff, decide_eq_false_iff_not,
    beq_eq_false_iff_ne]
  omega

theorem dropWhile_digits {text : List Char} (h : ∀ c ∈ text, c.isDigit = true) :
    text.dropWhile pySpace = text := by
  cases text with
  | nil => rfl
  | cons c rest =>
    have hc := pySpace_isDigit (h c List.mem_cons_self)
    rw [List.dropWhile_cons_of_neg (by simp [hc])]

theorem pyInt_versionText (version : ℕ) : pyInt (Vault.versionText version) = .ok version := by
  have hdigits : ∀ c ∈ Nat.toDigits 10 version, c.isDigit = true :=
    fun c hc => mem_toDigits_isDigit hc
  have hstrip : (((Nat.toDigits 10 version).dropWhile pySpace).reverse.dropWhile
      pySpace).reverse = Nat.toDigits 10 version := by
    rw [dropWhile_digits hdigits, dropWhile_digits, List.reverse_reverse]
    exact fun c hc => hdigits c (List.mem_reverse.mp hc)
  have hread := readDigits_toDigits version
  rw [pyInt, Vault.versionText, String.toList_ofList, intText_nat, hstrip]
  cases htext : Nat.toDigits 10 version with
  | nil => exact absurd htext Nat.toDigits_ne_nil
  | cons d rest =>
    rw [htext] at hread hdigits
    have hd := hdigits d List.mem_cons_self
    have hminus : d ≠ '-' := by
      rintro rfl
      exact absurd hd (by decide)
    have hplus : d ≠ '+' := by
      rintro rfl
      exact absurd hd (by decide)
    simp [hminus, hplus, hread]

theorem versionText_inj {v w : ℕ} (h : Vault.versionText v = Vault.versionText w) : v = w := by
  have hint := intText_inj (String.ofList_injective h)
  omega

theorem afterLastColon_append (front : String) {data : Bytes} :
    afterLastColon (front ++ ":" ++ base64Encode data) = base64Encode data := by
  have hcolon : ∀ c ∈ (encodeGroups data).reverse, decide (c ≠ ':') = true := by
    intro c hc
    exact decide_eq_true (mem_encodeGroups (List.mem_reverse.mp hc)).2
  have hlist : (front ++ ":" ++ base64Encode data).toList.reverse =
      (encodeGroups data).reverse ++ ':' :: front.toList.reverse := by
    simp [base64Encode, String.toList_append]
  rw [afterLastColon, hlist, List.takeWhile_append_of_pos hcolon]
  simp [base64Encode]

theorem foldl_max_succ (n : ℕ) :
    ((List.range n).map fun i => ((i + 1 + 1 : ℕ) : ℤ)).foldl max 1 = ((n + 1 : ℕ) : ℤ) := by
  induction n with
  | zero => rfl
  | succ n ih =>
    rw [List.range_succ, List.map_append, List.foldl_append, ih]
    simp

theorem get?_map_version {f : ℕ → Json} {indices : List ℕ} {i : ℕ} (h : i ∈ indices) :
    Dict.get? (indices.map fun j => (Vault.versionText (j + 1), f j))
      (Vault.versionText (i + 1)) = some (f i) := by
  induction indices with
  | nil => simp at h
  | cons j rest ih =>
    rw [List.map_cons, Dict.get?_cons]
    by_cases hij : i = j
    · rw [hij, if_pos rfl]
    · have hne : Vault.versionText (i + 1) ≠ Vault.versionText (j + 1) := by
        intro heq
        have hsucc := versionText_inj heq
        omega
      rw [if_neg hne]
      exact ih (List.mem_of_ne_of_mem hij h)

theorem mapM_pyInt_versions {f : ℕ → Json} (indices : List ℕ) :
    (indices.map fun i => (Vault.versionText (i + 1), f i)).mapM (fun field => pyInt field.1) =
      .ok (indices.map fun i => ((i + 1 : ℕ) : ℤ)) := by
  induction indices with
  | nil => rfl
  | cons i rest ih =>
    rw [List.map_cons, List.mapM_cons, pyInt_versionText, ih]
    rfl

theorem latestKey_versions (f : ℕ → Json) (version : ℕ) :
    latestKey (.obj ((List.range (version + 1)).map fun i => (Vault.versionText (i + 1), f i))) =
      .ok (f version) := by
  have hmem : version ∈ List.range (version + 1) := List.mem_range.mpr (Nat.lt_succ_self version)
  have hlookup : subscript
      (.obj ((List.range (version + 1)).map fun i => (Vault.versionText (i + 1), f i)))
      (String.ofList (intText ((version + 1 : ℕ) : ℤ))) = .ok (f version) := by
    have hget := get?_map_version (f := f) hmem
    rw [Vault.versionText] at hget
    rw [subscript, hget]
  have hversions : (List.range (version + 1)).map (fun i => ((i + 1 : ℕ) : ℤ)) =
      1 :: (List.range version).map fun i => ((i + 1 + 1 : ℕ) : ℤ) := by
    rw [List.range_succ_eq_map, List.map_cons, List.map_map]
    rfl
  rw [latestKey, mapM_pyInt_versions, hversions]
  simp only [bind, Except.bind, foldl_max_succ]
  exact hlookup

theorem readBody_ok (statusError : String) (body : Json) :
    readBody (.response 200 statusError (some body)) = .ok body := rfl

namespace VaultTransitSigner

theorem fetchPublicKey_client (vault : Vault) (base keyName : String) (version : ℕ) :
    fetchPublicKey base keyName (vault.client base keyName (version + 1)) =
      .ok (vault.publicKey (version + 1)) := by
  have hlatest := latestKey_versions
    (fun i => .obj [("public_key", .str (base64Encode (vault.publicKey (i + 1)).bytes))]) version
  have hraw : b64decode (.str (base64Encode (vault.publicKey (version + 1)).bytes)) =
      .ok (vault.publicKey (version + 1)).bytes := by
    rw [b64decode, base64Decode_encode]
  have hkey : fromPublicBytes (vault.publicKey (version + 1)).bytes =
      .ok (vault.publicKey (version + 1)) := by
    rw [fromPublicBytes, dif_pos (vault.publicKey (version + 1)).size]
  simp only [fetchPublicKey, Vault.client, if_true, readBody_ok, Vault.keysBody, bind, Except.bind]
  simp only [subscript, Dict.get?_cons, if_true, hlatest, hraw, hkey]

/-- A signer holds the key of the version that was the latest when it was built. -/
theorem build_client (vault : Vault) (vaultUrl keyName : String) (version : ℕ) :
    build vaultUrl keyName (vault.client (baseOf vaultUrl) keyName (version + 1)) =
      .ok { base := baseOf vaultUrl, keyName, publicKey := vault.publicKey (version + 1) } := by
  rw [build, fetchPublicKey_client]
  rfl

/-- What it signs, it signs with the latest version, whichever key it holds. -/
theorem sign_client (signer : VaultTransitSigner) (vault : Vault) (version : ℕ) (data : Bytes) :
    signer.sign (vault.client signer.base signer.keyName version) data =
      .ok (vault.sign version data) := by
  have hcolon : afterLastColon ("vault:v" ++ Vault.versionText version ++ ":" ++
      base64Encode (vault.sign version data)) = base64Encode (vault.sign version data) :=
    afterLastColon_append _
  simp only [sign, Vault.client, if_true, base64Decode_encode, readBody_ok, Vault.signBody, bind,
    Except.bind]
  simp only [subscript, Dict.get?_cons, if_true, hcolon, b64decode, base64Decode_encode]

end VaultTransitSigner

end OpenAgentControl
