import OpenAgentControl.Foundations.ExpiringCache
import OpenAgentControl.Foundations.Hex
import OpenAgentControl.Domain.Ports
import Mathlib.Data.Rat.Floor
import Mathlib.Tactic.Linarith
import Mathlib.Tactic.NormNum

/-! # The Redis cache of brokered tokens

`CachingTokenExchange.exchange` on any number of gateway processes that share one Redis. A token is
kept under a hash of the subject token and the audience, for as long as its own `exp` claim, read
without verification, and two settings say. -/

namespace OpenAgentControl
set_option autoImplicit false
set_option maxHeartbeats 250000

open Foundations

def keyError : Exc := .other "KeyError"
def invalidTokenError : Exc := .other "InvalidTokenError"

/-! ## `int` -/

theorem sub_one_lt_pyTrunc (x : ℚ) : x - 1 < (pyTrunc x : ℚ) := by
  unfold pyTrunc
  split_ifs
  · exact Int.sub_one_lt_floor x
  · exact lt_of_lt_of_le (sub_one_lt x) (Int.le_ceil x)

/-! ## The adapter -/

structure CachingTokenExchange where
  maxTtlSeconds : ℤ
  safetyMarginSeconds : ℤ
  /-- `hashlib.sha256(data).hexdigest()`. -/
  sha256Hex : Bytes → String
  /-- `jwt.decode(token, options={"verify_signature": False})`; none is an `InvalidTokenError`. -/
  peek : String → Option Dict
  /-- `int(text)`; none is a `ValueError`. -/
  intOfStr : String → Option ℤ

namespace CachingTokenExchange

variable (x : CachingTokenExchange)

/-- `f"{subject_token}:{audience}"`. -/
def joined (subjectToken audience : String) : String := subjectToken ++ ":" ++ audience

def encode (text : String) : Bytes := text.toUTF8.data.toList

def cacheKey (subjectToken audience : String) : String :=
  "oac:token-exchange:" ++ x.sha256Hex (encode (joined subjectToken audience))

/-- `int(value)`. -/
def intOf : Json → Except Exc ℤ
  | .null => .error typeError
  | .bool b => .ok (if b then 1 else 0)
  | .int n => .ok n
  | .float (.finite literal) => .ok (intOfFloat (decimalValue literal.text))
  | .float (.inf _) => .error overflowError
  | .float .nan => .error valueError
  | .str s => orRaise valueError (x.intOfStr s)
  | .arr _ => .error typeError
  | .obj _ => .error typeError

/-- `int(claims["exp"])` of the claims of a token. -/
def readExp (token : String) : Except Exc ℤ := do
  let claims ← orRaise invalidTokenError (x.peek token)
  let exp ← orRaise keyError (claims.get? "exp")
  x.intOf exp

def caught : List Exc := [invalidTokenError, keyError, typeError, valueError]

def ttlFromToken (token : String) (now : ℚ) : Except Exc ℤ :=
  match x.readExp token with
  | .error e => if e ∈ caught then .ok x.safetyMarginSeconds else .error e
  | .ok exp =>
    let remaining := exp - pyTrunc now - x.safetyMarginSeconds
    .ok (max 0 (min remaining x.maxTtlSeconds))

variable {Id : Type} (request : Id → String × String)

/-- The calls of `exchange`, each with its subject token and its audience. -/
def cache : ExpiringCache ℚ Id String String Exc where
  key := fun i => x.cacheKey (request i).1 (request i).2
  ttl := fun token now => (x.ttlFromToken token now).map fun ttl => (ttl : ℚ)

/-! ## The lifetime of a token -/

/-- The token is a JWT with an `exp` that JSON writes as `Infinity`, or too large for a double. -/
def InfiniteExp (token : String) : Prop :=
  ∃ claims negative, x.peek token = some claims ∧
    claims.get? "exp" = some (.float (.inf negative))

variable {x request}

theorem readExp_of_infinite {token : String} (h : x.InfiniteExp token) :
    x.readExp token = .error overflowError := by
  obtain ⟨claims, negative, hpeek, hexp⟩ := h
  rw [readExp, hpeek]
  change (orRaise keyError (claims.get? "exp") >>= x.intOf) = _
  rw [hexp]
  rfl

theorem intOf_error {value : Json} {e : Exc} (h : x.intOf value = .error e) :
    e ∈ caught ∨ (e = overflowError ∧ ∃ negative, value = .float (.inf negative)) := by
  have htype : typeError ∈ caught := by decide
  have hvalue : valueError ∈ caught := by decide
  cases value with
  | null => exact Or.inl (Except.error.inj h ▸ htype)
  | bool b => cases h
  | int n => cases h
  | float y =>
    cases y with
    | finite literal => cases h
    | inf negative => exact Or.inr ⟨(Except.error.inj h).symm, negative, rfl⟩
    | nan => exact Or.inl (Except.error.inj h ▸ hvalue)
  | str s =>
    rw [intOf] at h
    cases hint : x.intOfStr s with
    | none =>
      rw [hint] at h
      exact Or.inl (Except.error.inj h ▸ hvalue)
    | some n =>
      rw [hint] at h
      cases h
  | arr items => exact Or.inl (Except.error.inj h ▸ htype)
  | obj fields => exact Or.inl (Except.error.inj h ▸ htype)

/-- Every failure to read the claim is caught, but that of an infinite one. -/
theorem readExp_error {token : String} {e : Exc} (h : x.readExp token = .error e) :
    e ∈ caught ∨ (e = overflowError ∧ x.InfiniteExp token) := by
  rw [readExp] at h
  cases hpeek : x.peek token with
  | none =>
    rw [hpeek] at h
    have he : invalidTokenError = e := Except.error.inj h
    exact Or.inl (he ▸ by decide)
  | some claims =>
    rw [hpeek] at h
    change (orRaise keyError (claims.get? "exp") >>= x.intOf) = _ at h
    cases hexp : claims.get? "exp" with
    | none =>
      rw [hexp] at h
      have he : keyError = e := Except.error.inj h
      exact Or.inl (he ▸ by decide)
    | some value =>
      rw [hexp] at h
      obtain hcaught | ⟨he, negative, rfl⟩ := intOf_error h
      · exact Or.inl hcaught
      · exact Or.inr ⟨he, claims, negative, hpeek, hexp⟩

theorem ttlFromToken_readable {token : String} {exp : ℤ} (h : x.readExp token = .ok exp)
    (now : ℚ) : x.ttlFromToken token now =
      .ok (max 0 (min (exp - pyTrunc now - x.safetyMarginSeconds) x.maxTtlSeconds)) := by
  rw [ttlFromToken, h]

theorem ttlFromToken_unreadable {token : String} (h : ¬ Returns (x.readExp token))
    (hinfinite : ¬ x.InfiniteExp token) (now : ℚ) :
    x.ttlFromToken token now = .ok x.safetyMarginSeconds := by
  rw [ttlFromToken]
  cases hread : x.readExp token with
  | ok exp => exact absurd ⟨exp, hread⟩ h
  | error e =>
    obtain hcaught | ⟨-, habs⟩ := readExp_error hread
    · exact if_pos hcaught
    · exact absurd habs hinfinite

theorem ttlFromToken_error_iff {token : String} (now : ℚ) {e : Exc} :
    x.ttlFromToken token now = .error e ↔ x.InfiniteExp token ∧ e = overflowError := by
  by_cases hinfinite : x.InfiniteExp token
  · have huncaught : overflowError ∉ caught := by decide
    rw [ttlFromToken, readExp_of_infinite hinfinite]
    simp only [if_neg huncaught, Except.error.injEq, hinfinite, true_and]
    exact eq_comm
  · refine iff_of_false ?_ (fun h => hinfinite h.1)
    intro h
    by_cases hreturns : Returns (x.readExp token)
    · obtain ⟨exp, hexp⟩ := hreturns
      rw [ttlFromToken_readable hexp] at h
      cases h
    · rw [ttlFromToken_unreadable hreturns hinfinite] at h
      cases h

theorem cache_ttl_ok_iff {token : String} {now t : ℚ} :
    (x.cache request).ttl token now = .ok t ↔
      ∃ ttl : ℤ, x.ttlFromToken token now = .ok ttl ∧ (ttl : ℚ) = t := by
  simp only [cache]
  cases x.ttlFromToken token now <;> simp [Except.map]

theorem cache_ttl_error_iff {token : String} (now : ℚ) {e : Exc} :
    (x.cache request).ttl token now = .error e ↔ x.InfiniteExp token ∧ e = overflowError := by
  rw [← ttlFromToken_error_iff now]
  simp only [cache]
  cases x.ttlFromToken token now <;> simp [Except.map]

variable (x) in
/-- The settings let some token be kept for some time. -/
def KeepsSome : Prop :=
  (0 < x.safetyMarginSeconds ∧
      ∃ token, ¬ Returns (x.readExp token) ∧ ¬ x.InfiniteExp token) ∨
    (0 < x.maxTtlSeconds ∧ ∃ token, Returns (x.readExp token))

theorem exists_storable_iff (request : Id → String × String) :
    (∃ token, (x.cache request).Storable token) ↔ x.KeepsSome := by
  constructor
  · rintro ⟨token, now, t, ht, hpositive⟩
    obtain ⟨ttl, httl, rfl⟩ := cache_ttl_ok_iff.mp ht
    have hpositive : 0 < ttl := by exact_mod_cast hpositive
    by_cases hreturns : Returns (x.readExp token)
    · obtain ⟨exp, hexp⟩ := hreturns
      rw [ttlFromToken_readable hexp] at httl
      cases httl
      exact Or.inr ⟨by omega, token, exp, hexp⟩
    · have hinfinite : ¬ x.InfiniteExp token := by
        intro h
        rw [(ttlFromToken_error_iff now).mpr ⟨h, rfl⟩] at httl
        cases httl
      rw [ttlFromToken_unreadable hreturns hinfinite] at httl
      cases httl
      exact Or.inl ⟨hpositive, token, hreturns, hinfinite⟩
  · rintro (⟨hmargin, token, hreturns, hinfinite⟩ | ⟨hmax, token, exp, hexp⟩)
    · refine ⟨token, 0, x.safetyMarginSeconds, ?_, by exact_mod_cast hmargin⟩
      exact cache_ttl_ok_iff.mpr ⟨_, ttlFromToken_unreadable hreturns hinfinite 0, rfl⟩
    · -- read early enough, the token has longer than the margin to live
      have hnow : pyTrunc ((exp - x.safetyMarginSeconds - 1 : ℤ) : ℚ) =
          exp - x.safetyMarginSeconds - 1 := by
        simp [pyTrunc]
      refine ⟨token, ((exp - x.safetyMarginSeconds - 1 : ℤ) : ℚ), _,
        cache_ttl_ok_iff.mpr ⟨_, ttlFromToken_readable hexp _, rfl⟩, ?_⟩
      rw [hnow]
      have hpositive : 0 < max 0 (min (exp - (exp - x.safetyMarginSeconds - 1) -
          x.safetyMarginSeconds) x.maxTtlSeconds) := by omega
      exact_mod_cast hpositive

/-! ## Whose tokens a call returns -/

/-- Two of the calls differ only in which of two separators stands between their parts. -/
def Ambiguous (calls : Set (String × String)) : Prop :=
  ∃ s m a, (s, m ++ ":" ++ a) ∈ calls ∧ (s ++ ":" ++ m, a) ∈ calls

theorem append_separator_eq {α : Type} {c : α} {s t a b : List α} (h : s ++ c :: a = t ++ c :: b) :
    (s = t ∧ a = b) ∨ (∃ m, t = s ++ c :: m ∧ a = m ++ c :: b) ∨
      ∃ m, s = t ++ c :: m ∧ b = m ++ c :: a := by
  obtain ⟨m, rfl, hm⟩ | ⟨m, rfl, hm⟩ := List.append_eq_append_iff.mp h
  · cases m with
    | nil => simpa using hm
    | cons d m =>
      rw [List.cons_append, List.cons.injEq] at hm
      obtain ⟨rfl, rfl⟩ := hm
      exact Or.inr (Or.inl ⟨m, rfl, rfl⟩)
  · cases m with
    | nil => simpa [eq_comm] using hm
    | cons d m =>
      rw [List.cons_append, List.cons.injEq] at hm
      obtain ⟨rfl, rfl⟩ := hm
      exact Or.inr (Or.inr ⟨m, rfl, rfl⟩)

theorem encode_injective : Function.Injective encode := by
  intro a b h
  have hdata : a.toUTF8.data = b.toUTF8.data := Array.toList_inj.mp h
  exact String.toByteArray_inj.mp (ByteArray.ext hdata)

variable (x) in
/-- The hash has no collision among the texts of the calls. -/
def CollisionFreeOn (calls : Set (String × String)) : Prop :=
  Set.InjOn x.sha256Hex ((fun p => encode (joined p.1 p.2)) '' calls)

/-- Calls with the same key are the same, or two of them are ambiguous. -/
theorem eq_of_cacheKey_eq {calls : Set (String × String)} (hsha : x.CollisionFreeOn calls)
    (hcalls : ¬ Ambiguous calls) {s t a b : String} (hp : (s, a) ∈ calls) (hq : (t, b) ∈ calls)
    (h : x.cacheKey s a = x.cacheKey t b) : s = t ∧ a = b := by
  unfold cacheKey at h
  rw [String.append_right_inj] at h
  have hs : encode (joined s a) ∈ (fun p => encode (joined p.1 p.2)) '' calls := ⟨(s, a), hp, rfl⟩
  have ht : encode (joined t b) ∈ (fun p => encode (joined p.1 p.2)) '' calls := ⟨(t, b), hq, rfl⟩
  have hjoined : joined s a = joined t b := encode_injective (hsha hs ht h)
  have hchars : s.toList ++ ':' :: a.toList = t.toList ++ ':' :: b.toList := by
    simpa [joined, String.toList_append] using congrArg String.toList hjoined
  have hsplit : ∀ {u : String} {m : List Char} {v : String}, u.toList = v.toList ++ ':' :: m →
      u = v ++ ":" ++ String.ofList m := by
    intro u m v hu
    rw [← String.toList_inj]
    simpa [String.toList_append] using hu
  have hmerge : ∀ {u : String} {m : List Char} {v : String}, u.toList = m ++ ':' :: v.toList →
      u = String.ofList m ++ ":" ++ v := by
    intro u m v hu
    rw [← String.toList_inj]
    simpa [String.toList_append] using hu
  obtain ⟨hs, ha⟩ | ⟨m, ht, ha⟩ | ⟨m, hs, hb⟩ := append_separator_eq hchars
  · exact ⟨String.toList_inj.mp hs, String.toList_inj.mp ha⟩
  · rw [hmerge ha] at hp
    rw [hsplit ht] at hq
    exact absurd ⟨s, String.ofList m, b, hp, hq⟩ hcalls
  · rw [hsplit hs] at hp
    rw [hmerge hb] at hq
    exact absurd ⟨t, String.ofList m, a, hq, hp⟩ hcalls

variable (x) in
/-- In every run of such calls, over any evictions, a call returns what the inner exchange answered
to a call with the same subject token and the same audience. -/
def NeverMixes (calls : Set (String × String)) : Prop :=
  ∀ (Id : Type) [DecidableEq Id] (request : Id → String × String), (∀ i, request i ∈ calls) →
    ∀ steps s, (x.cache request).system.Run steps s →
      ∀ i credential, (s.phase i).result = some credential →
        ∃ j, ExpiringCache.Answered steps j credential ∧ request j = request i

/-- Two calls with one text: the first separator ends the subject token, or the second does. -/
def pairOf (s m a : String) : Bool → String × String
  | false => (s, m ++ ":" ++ a)
  | true => (s ++ ":" ++ m, a)

theorem joined_pairOf (s m a : String) (i : Bool) :
    joined (pairOf s m a i).1 (pairOf s m a i).2 = s ++ ":" ++ m ++ ":" ++ a := by
  cases i <;> simp only [pairOf, joined, String.append_assoc]

theorem cacheKey_pairOf (s m a : String) (i j : Bool) :
    (x.cache (pairOf s m a)).key i = (x.cache (pairOf s m a)).key j := by
  change x.cacheKey _ _ = x.cacheKey _ _
  unfold cacheKey
  rw [joined_pairOf, joined_pairOf]

theorem pairOf_ne (s m a : String) : pairOf s m a false ≠ pairOf s m a true := by
  intro h
  have hs : s = s ++ ":" ++ m := congrArg Prod.fst h
  have hchars := congrArg (fun t => t.toList.length) hs
  simp only [String.toList_append, List.length_append] at hchars
  have hone : ":".toList.length = 1 := by simp
  omega

/-- In a run of the two, the second is served what was answered to the first. -/
theorem pairOf_mixes (s m a : String) (hkeeps : x.KeepsSome) :
    ∃ steps state token, (x.cache (pairOf s m a)).system.Run steps state ∧
      (state.phase true).result = some token ∧
      ∀ j, ExpiringCache.Answered steps j token → pairOf s m a j ≠ pairOf s m a true := by
  obtain ⟨token, now, ttl, httl, hpositive⟩ :=
    (exists_storable_iff (pairOf s m a)).mpr hkeeps
  obtain ⟨steps, state, hrun, hanswers, -, -, hserved⟩ :=
    ExpiringCache.reuse (by decide) (cacheKey_pairOf s m a true false) httl hpositive (le_refl 0)
      hpositive
  refine ⟨steps, state, token, hrun, by rw [hserved]; rfl, ?_⟩
  intro j hanswered
  obtain ⟨rfl, -⟩ := hanswers j token hanswered
  exact pairOf_ne s m a

theorem not_neverMixes {calls : Set (String × String)} (hcalls : Ambiguous calls)
    (hkeeps : x.KeepsSome) : ¬ x.NeverMixes calls := by
  intro hnever
  obtain ⟨s, m, a, hfirst, hsecond⟩ := hcalls
  obtain ⟨steps, state, token, hrun, hresult, hother⟩ := pairOf_mixes s m a hkeeps
  have hrequest : ∀ i, pairOf s m a i ∈ calls := by
    intro i
    cases i with
    | false => exact hfirst
    | true => exact hsecond
  obtain ⟨j, hanswered, hsame⟩ := hnever Bool _ hrequest steps state hrun true token hresult
  exact hother j hanswered hsame

/-- The cache never mixes callers exactly when it cannot keep any token, or no two calls have the same
text. -/
theorem neverMixes_iff {calls : Set (String × String)} (hsha : x.CollisionFreeOn calls) :
    x.NeverMixes calls ↔ ¬ (Ambiguous calls ∧ x.KeepsSome) := by
  constructor
  · rintro hnever ⟨hcalls, hkeeps⟩
    exact not_neverMixes hcalls hkeeps hnever
  · intro h Id _ request hrequest steps s hrun i credential hresult
    obtain hanswered | ⟨⟨j, hanswered, hkey⟩, hstorable⟩ :=
      (ExpiringCache.produced hrun).2 i credential (CallPhase.held_of_result hresult)
    · exact ⟨i, hanswered, rfl⟩
    · have hcalls : ¬ Ambiguous calls := fun hambiguous =>
        h ⟨hambiguous, (exists_storable_iff request).mp ⟨credential, hstorable⟩⟩
      obtain ⟨hs, ha⟩ := eq_of_cacheKey_eq hsha hcalls (hrequest j) (hrequest i) hkey
      exact ⟨j, hanswered, Prod.ext hs ha⟩

theorem not_ambiguous_of_separator_free {calls : Set (String × String)}
    (h : ∀ p ∈ calls, ':' ∉ p.2.toList) : ¬ Ambiguous calls := by
  rintro ⟨s, m, a, hfirst, -⟩
  refine h _ hfirst ?_
  simp [String.toList_append]

/-- An authorization server of opaque tokens, with the default settings. -/
def opaqueTokens : CachingTokenExchange where
  maxTtlSeconds := 300
  safetyMarginSeconds := 30
  sha256Hex := bytesHex
  peek := fun _ => none
  intOfStr := String.toInt?

theorem opaqueTokens_collisionFree (calls : Set (String × String)) :
    opaqueTokens.CollisionFreeOn calls := by
  intro a _ b _ h
  exact bytesHex_injective h

theorem opaqueTokens_unreadable (token : String) :
    ¬ Returns (opaqueTokens.readExp token) ∧ ¬ opaqueTokens.InfiniteExp token := by
  constructor
  · rintro ⟨exp, hexp⟩
    cases hexp
  · rintro ⟨claims, negative, hpeek, -⟩
    cases hpeek

theorem opaqueTokens_keepsSome : opaqueTokens.KeepsSome :=
  Or.inl ⟨by decide, "opaque", opaqueTokens_unreadable "opaque"⟩

theorem separatorFree_neverMixes :
    opaqueTokens.NeverMixes {("subject-a", "aud-1"), ("subject-b", "aud-1"), ("subject-a", "aud-2")} := by
  refine (neverMixes_iff (opaqueTokens_collisionFree _)).mpr ?_
  rintro ⟨hambiguous, -⟩
  refine not_ambiguous_of_separator_free ?_ hambiguous
  rintro p (rfl | rfl | rfl)
  · decide
  · decide
  · decide

/-- The subject token `a:b` with the audience `c` gets what the subject token `a` got for `b:c`. -/
theorem separators_mix : opaqueTokens.CollisionFreeOn {("a", "b:c"), ("a:b", "c")} ∧
    ¬ opaqueTokens.NeverMixes {("a", "b:c"), ("a:b", "c")} := by
  refine ⟨opaqueTokens_collisionFree _, not_neverMixes ?_ opaqueTokens_keepsSome⟩
  exact ⟨"a", "b", "c", Or.inl rfl, Or.inr rfl⟩

/-! ## How long a token is served -/

variable (x) in
/-- In every run that stores a token less than a second after reading the clock, whose inner exchange
answers with these tokens: no call raises, and what the cache serves is within both limits. -/
def KeepsLimits (tokens : Set String) : Prop :=
  ∀ (Id : Type) [DecidableEq Id] (request : Id → String × String) steps s,
    (x.cache request).system.Run steps s → ExpiringCache.Prompt 1 steps →
      (∀ i token, ExpiringCache.Answered steps i token → token ∈ tokens) → ∀ i,
        (∀ e, s.phase i ≠ .raised e) ∧
          ∀ token stored time, s.phase i = .served token stored time →
            time ≤ stored + x.maxTtlSeconds ∧
              ∀ exp, x.readExp token = .ok exp → time < exp - x.safetyMarginSeconds + 2

theorem ttl_le_exp {token : String} {now : ℚ} {ttl exp : ℤ}
    (h : x.ttlFromToken token now = .ok ttl) (hpositive : 0 < ttl)
    (hexp : x.readExp token = .ok exp) :
    ttl ≤ x.maxTtlSeconds ∧ ttl ≤ exp - pyTrunc now - x.safetyMarginSeconds := by
  rw [ttlFromToken_readable hexp] at h
  cases h
  omega

theorem ttl_le_max {token : String} {now : ℚ} {ttl : ℤ} (h : x.ttlFromToken token now = .ok ttl)
    (hpositive : 0 < ttl)
    (hbounded : x.safetyMarginSeconds ≤ x.maxTtlSeconds ∨ Returns (x.readExp token)) :
    ttl ≤ x.maxTtlSeconds := by
  by_cases hreturns : Returns (x.readExp token)
  · obtain ⟨exp, hexp⟩ := hreturns
    exact (ttl_le_exp h hpositive hexp).1
  · have hinfinite : ¬ x.InfiniteExp token := by
      intro habs
      rw [(ttlFromToken_error_iff now).mpr ⟨habs, rfl⟩] at h
      cases h
    rw [ttlFromToken_unreadable hreturns hinfinite] at h
    cases h
    exact hbounded.resolve_right hreturns

theorem infinite_raises {token : String} (h : x.InfiniteExp token) {tokens : Set String}
    (htoken : token ∈ tokens) : ¬ x.KeepsLimits tokens := by
  intro hkeeps
  obtain ⟨steps, s, hrun, hanswers, hprompt, hraised⟩ :=
    ExpiringCache.raises (c := x.cache fun _ : Unit => ("", "")) (i := ())
      ((cache_ttl_error_iff 0).mpr ⟨h, rfl⟩)
  have hin : ∀ i t, ExpiringCache.Answered steps i t → t ∈ tokens := by
    intro i t hanswered
    rw [(hanswers i t hanswered).2]
    exact htoken
  exact (hkeeps Unit _ steps s hrun (hprompt 1) hin ()).1 overflowError hraised

/-- A token whose `exp` cannot be read is served for the safety margin, however short the maximum. -/
theorem unreadable_outlives {token : String} (h : ¬ Returns (x.readExp token))
    (hmax : 0 ≤ x.maxTtlSeconds) (hmargin : x.maxTtlSeconds < x.safetyMarginSeconds)
    {tokens : Set String} (htoken : token ∈ tokens) : ¬ x.KeepsLimits tokens := by
  intro hkeeps
  have hinfinite : ¬ x.InfiniteExp token := fun habs => infinite_raises habs htoken hkeeps
  have hmax' : (0 : ℚ) ≤ x.maxTtlSeconds := by exact_mod_cast hmax
  have hmargin' : (x.maxTtlSeconds : ℚ) + 1 ≤ x.safetyMarginSeconds := by exact_mod_cast hmargin
  obtain ⟨steps, s, hrun, hanswers, hprompt, -, hserved⟩ :=
    ExpiringCache.reuse (c := x.cache fun _ : Bool => ("", "")) (i := false) (j := true)
      (t := x.maxTtlSeconds + 1 / 2) (by decide) rfl
      (cache_ttl_ok_iff.mpr ⟨_, ttlFromToken_unreadable h hinfinite 0, rfl⟩)
      (by linarith) (by linarith) (by linarith)
  have hin : ∀ i t, ExpiringCache.Answered steps i t → t ∈ tokens := by
    intro i t hanswered
    rw [(hanswers i t hanswered).2]
    exact htoken
  obtain ⟨-, hlimits⟩ := hkeeps Bool _ steps s hrun (hprompt 1 one_pos) hin true
  obtain ⟨hstored, -⟩ := hlimits token _ _ hserved
  linarith

/-- Both limits hold, and nothing raises, exactly when no token has an infinite `exp` and, unless
every token has a readable one, the safety margin is within the maximum. -/
theorem keepsLimits_iff {tokens : Set String} (hmax : 0 ≤ x.maxTtlSeconds) :
    x.KeepsLimits tokens ↔ (∀ token ∈ tokens, ¬ x.InfiniteExp token) ∧
      (x.safetyMarginSeconds ≤ x.maxTtlSeconds ∨
        ∀ token ∈ tokens, Returns (x.readExp token)) := by
  constructor
  · intro hkeeps
    refine ⟨fun token htoken h => infinite_raises h htoken hkeeps, ?_⟩
    by_contra hcondition
    obtain ⟨hmargin, hsome⟩ := not_or.mp hcondition
    refine hsome fun token htoken => ?_
    by_contra hunreadable
    exact unreadable_outlives hunreadable hmax (not_le.mp hmargin) htoken hkeeps
  · rintro ⟨hfinite, hbounded⟩ Id _ request steps s hrun hprompt hin i
    constructor
    · intro e hraised
      obtain ⟨token, readAt, herror, hproduced⟩ := ExpiringCache.raised_produced hrun hraised
      obtain ⟨j, hanswered⟩ := hproduced.exists_answered
      exact hfinite token (hin j token hanswered) ((cache_ttl_error_iff readAt).mp herror).1
    · intro token stored time hserved
      obtain ⟨expires, ⟨readAt, t, ht, hpositive, hprompt, rfl⟩, htime⟩ :=
        (ExpiringCache.dated hrun hprompt).served i token stored time hserved
      obtain ⟨ttl, httl, rfl⟩ := cache_ttl_ok_iff.mp ht
      have hpositive : 0 < ttl := by exact_mod_cast hpositive
      have hproduced := (ExpiringCache.produced hrun).2 i token (by rw [hserved]; rfl)
      obtain ⟨j, hanswered⟩ := hproduced.exists_answered
      have hle : ttl ≤ x.maxTtlSeconds :=
        ttl_le_max httl hpositive (hbounded.imp_right fun h => h token (hin j token hanswered))
      constructor
      · have hle' : (ttl : ℚ) ≤ x.maxTtlSeconds := by exact_mod_cast hle
        linarith
      · intro exp hexp
        obtain ⟨-, hle⟩ := ttl_le_exp httl hpositive hexp
        have hle' : (ttl : ℚ) ≤ exp - pyTrunc readAt - x.safetyMarginSeconds := by
          exact_mod_cast hle
        -- the clock was read less than a second before the store, and truncated by less than one
        have htrunc := sub_one_lt_pyTrunc readAt
        linarith

theorem opaqueTokens_keepsLimits : opaqueTokens.KeepsLimits {"opaque-not-a-jwt-token"} :=
  (keepsLimits_iff (by decide)).mpr
    ⟨fun token _ => (opaqueTokens_unreadable token).2, Or.inl (by decide)⟩

/-- A JWT with the claims `{"exp":1e999}`. -/
def infiniteToken : String := "eyJhbGciOiJub25lIn0.eyJleHAiOjFlOTk5fQ."

def infiniteTokens : CachingTokenExchange :=
  { opaqueTokens with
    peek := fun token =>
      if token = infiniteToken then some [("exp", .float (.inf false))] else none }

/-- The token makes `exchange` raise; and an opaque one is served past a maximum of 20 seconds. -/
theorem limits_fail : ¬ infiniteTokens.KeepsLimits {infiniteToken} ∧
    ¬ { opaqueTokens with maxTtlSeconds := 20 }.KeepsLimits {"opaque-not-a-jwt-token"} := by
  constructor
  · have hpeek : infiniteTokens.peek infiniteToken = some [("exp", .float (.inf false))] :=
      by simp [infiniteTokens]
    exact infinite_raises ⟨_, false, hpeek, rfl⟩ rfl
  · refine unreadable_outlives ?_ (by decide) (by decide) rfl
    rintro ⟨exp, hexp⟩
    cases hexp

end CachingTokenExchange

end OpenAgentControl
