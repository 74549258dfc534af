import OpenAgentControl.Foundations.JsonText

/-! # Hexadecimal digests of byte strings

`bytes.hex` and `bytes.fromhex`. Reading back accepts what the standard library accepts: digits of
either case, and white space between bytes. -/

namespace Foundations
set_option autoImplicit false
set_option maxHeartbeats 250000

/-- The ASCII white space `bytes.fromhex` skips between bytes. -/
def hexSpace (c : Char) : Bool :=
  c.toNat == 32 || (decide (9 ≤ c.toNat) && decide (c.toNat ≤ 13))

def digitValue? (c : Char) : Option ℕ :=
  if 48 ≤ c.toNat ∧ c.toNat ≤ 57 then some (c.toNat - 48)
  else if 97 ≤ c.toNat ∧ c.toNat ≤ 102 then some (c.toNat - 87)
  else if 65 ≤ c.toNat ∧ c.toNat ≤ 70 then some (c.toNat - 55)
  else none

def byteDigits (b : UInt8) : List Char := [hexDigit (b.toNat / 16), hexDigit (b.toNat % 16)]

/-- `data.hex()`. -/
def bytesHex (data : Bytes) : String := String.ofList (data.flatMap byteDigits)

/-- The digits of whole bytes; `none` is the `ValueError`. -/
def readBytes : List Char → Option Bytes
  | [] => some []
  | c :: rest =>
    if hexSpace c then readBytes rest
    else
      match digitValue? c, rest with
      | some high, d :: rest =>
        match digitValue? d with
        | some low => (readBytes rest).map (UInt8.ofNat (16 * high + low) :: ·)
        | none => none
      | _, _ => none

/-- `bytes.fromhex(s)`. -/
def bytesFromHex (s : String) : Option Bytes := readBytes s.toList

theorem digitValue_hexDigit {n : ℕ} (h : n < 16) : digitValue? (hexDigit n) = some n := by
  revert n
  decide

theorem hexSpace_hexDigit {n : ℕ} (h : n < 16) : hexSpace (hexDigit n) = false := by
  revert n
  decide

theorem ofNat_digits (b : UInt8) : UInt8.ofNat (16 * (b.toNat / 16) + b.toNat % 16) = b := by
  rw [Nat.div_add_mod]
  exact UInt8.ofNat_toNat

theorem readBytes_digits (data : Bytes) : readBytes (data.flatMap byteDigits) = some data := by
  induction data with
  | nil => rfl
  | cons b rest ih =>
    have hhigh : b.toNat / 16 < 16 := by
      have hb := b.toNat_lt
      omega
    have hlow : b.toNat % 16 < 16 := Nat.mod_lt _ (by decide)
    have hread : readBytes ((b :: rest).flatMap byteDigits) =
        (readBytes (rest.flatMap byteDigits)).map
          (UInt8.ofNat (16 * (b.toNat / 16) + b.toNat % 16) :: ·) := by
      simp [byteDigits, readBytes, hexSpace_hexDigit hhigh, digitValue_hexDigit hhigh,
        digitValue_hexDigit hlow]
    rw [hread, ih, ofNat_digits]
    rfl

/-- A digest reads back as the bytes it was made from. -/
theorem bytesFromHex_bytesHex (data : Bytes) : bytesFromHex (bytesHex data) = some data := by
  rw [bytesFromHex, bytesHex, String.toList_ofList]
  exact readBytes_digits data

theorem bytesHex_injective : Function.Injective bytesHex := by
  intro a b h
  have hread := congrArg bytesFromHex h
  rw [bytesFromHex_bytesHex, bytesFromHex_bytesHex] at hread
  exact Option.some.inj hread

end Foundations
