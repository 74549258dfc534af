import OpenAgentControl.Foundations.Hex

/-! # Base64 texts of byte strings

`base64.b64encode` and `base64.b64decode` in the mode the standard library decodes in by default: what
is not in the alphabet is skipped, and the first complete padding ends the text. -/

namespace Foundations
set_option autoImplicit false
set_option maxHeartbeats 250000

def base64Char (n : ℕ) : Char :=
  if n < 26 then Char.ofNat (65 + n)
  else if n < 52 then Char.ofNat (71 + n)
  else if n < 62 then Char.ofNat (n - 4)
  else if n = 62 then '+'
  else '/'

def base64Value? (c : Char) : Option ℕ :=
  if 65 ≤ c.toNat ∧ c.toNat ≤ 90 then some (c.toNat - 65)
  else if 97 ≤ c.toNat ∧ c.toNat ≤ 122 then some (c.toNat - 71)
  else if 48 ≤ c.toNat ∧ c.toNat ≤ 57 then some (c.toNat + 4)
  else if c = '+' then some 62
  else if c = '/' then some 63
  else none

/-- The first character of a byte that stands first in its group, and so on. -/
def encodeGroups : Bytes → List Char
  | [] => []
  | [a] => [base64Char (a.toNat / 4), base64Char (a.toNat % 4 * 16), '=', '=']
  | [a, b] =>
    [base64Char (a.toNat / 4), base64Char (a.toNat % 4 * 16 + b.toNat / 16),
      base64Char (b.toNat % 16 * 4), '=']
  | a :: b :: c :: rest =>
    base64Char (a.toNat / 4) :: base64Char (a.toNat % 4 * 16 + b.toNat / 16) ::
      base64Char (b.toNat % 16 * 4 + c.toNat / 64) :: base64Char (c.toNat % 64) ::
      encodeGroups rest

/-- `base64.b64encode(data).decode()`. -/
def base64Encode (data : Bytes) : String := String.ofList (encodeGroups data)

/-- The decoding loop: how many characters of the group have been read, their bits that no byte has
yet, and the padding since the last of them. `none` is the `binascii.Error`. -/
def decodeGroups (quadPos leftChar pads : ℕ) : List Char → Option Bytes
  | [] => if quadPos = 0 then some [] else none
  | c :: rest =>
    if c = '=' then
      if 2 ≤ quadPos then
        if 4 ≤ quadPos + (pads + 1) then some [] else decodeGroups quadPos leftChar (pads + 1) rest
      else decodeGroups quadPos leftChar pads rest
    else
      match base64Value? c, quadPos with
      | none, _ => decodeGroups quadPos leftChar pads rest
      | some v, 0 => decodeGroups 1 v 0 rest
      | some v, 1 =>
        (decodeGroups 2 (v % 16) 0 rest).map (UInt8.ofNat (leftChar * 4 + v / 16) :: ·)
      | some v, 2 =>
        (decodeGroups 3 (v % 4) 0 rest).map (UInt8.ofNat (leftChar * 16 + v / 4) :: ·)
      | some v, _ => (decodeGroups 0 0 0 rest).map (UInt8.ofNat (leftChar * 64 + v) :: ·)

/-- `base64.b64decode(s)`; a text that is not ASCII raises too. -/
def base64Decode (s : String) : Option Bytes :=
  if s.toList.all fun c => decide (c.toNat < 128) then decodeGroups 0 0 0 s.toList else none

theorem base64Value_char {n : ℕ} (h : n < 64) : base64Value? (base64Char n) = some n := by
  revert n
  decide

theorem base64Char_ne_pad {n : ℕ} (h : n < 64) : base64Char n ≠ '=' := by
  revert n
  decide

theorem base64Char_ascii {n : ℕ} (h : n < 64) :
    (base64Char n).toNat < 128 ∧ base64Char n ≠ ':' := by
  revert n
  decide

theorem mem_encodeGroups {data : Bytes} {c : Char} (h : c ∈ encodeGroups data) :
    c.toNat < 128 ∧ c ≠ ':' := by
  fun_induction encodeGroups data with
  | case1 => simp at h
  | case2 a =>
    have ha := a.toNat_lt
    simp only [List.mem_cons, List.not_mem_nil, or_false] at h
    obtain rfl | rfl | rfl | rfl := h
    · exact base64Char_ascii (by omega)
    · exact base64Char_ascii (by omega)
    all_goals decide
  | case3 a b =>
    have ha := a.toNat_lt
    have hb := b.toNat_lt
    simp only [List.mem_cons, List.not_mem_nil, or_false] at h
    obtain rfl | rfl | rfl | rfl := h
    · exact base64Char_ascii (by omega)
    · exact base64Char_ascii (by omega)
    · exact base64Char_ascii (by omega)
    · decide
  | case4 a b c' rest ih =>
    have ha := a.toNat_lt
    have hb := b.toNat_lt
    have hc := c'.toNat_lt
    simp only [List.mem_cons] at h
    obtain rfl | rfl | rfl | rfl | h := h
    · exact base64Char_ascii (by omega)
    · exact base64Char_ascii (by omega)
    · exact base64Char_ascii (by omega)
    · exact base64Char_ascii (by omega)
    · exact ih h

theorem decode_first {n leftChar pads : ℕ} (h : n < 64) (rest : List Char) :
    decodeGroups 0 leftChar pads (base64Char n :: rest) = decodeGroups 1 n 0 rest := by
  simp [decodeGroups, base64Char_ne_pad h, base64Value_char h]

theorem decode_second {n leftChar : ℕ} (h : n < 64) (rest : List Char) :
    decodeGroups 1 leftChar 0 (base64Char n :: rest) =
      (decodeGroups 2 (n % 16) 0 rest).map (UInt8.ofNat (leftChar * 4 + n / 16) :: ·) := by
  simp [decodeGroups, base64Char_ne_pad h, base64Value_char h]

theorem decode_third {n leftChar : ℕ} (h : n < 64) (rest : List Char) :
    decodeGroups 2 leftChar 0 (base64Char n :: rest) =
      (decodeGroups 3 (n % 4) 0 rest).map (UInt8.ofNat (leftChar * 16 + n / 4) :: ·) := by
  simp [decodeGroups, base64Char_ne_pad h, base64Value_char h]

theorem decode_fourth {n leftChar : ℕ} (h : n < 64) (rest : List Char) :
    decodeGroups 3 leftChar 0 (base64Char n :: rest) =
      (decodeGroups 0 0 0 rest).map (UInt8.ofNat (leftChar * 64 + n) :: ·) := by
  simp [decodeGroups, base64Char_ne_pad h, base64Value_char h]

theorem ofNat_eq {a : UInt8} {n : ℕ} (h : n = a.toNat) : UInt8.ofNat n = a := by
  rw [h, UInt8.ofNat_toNat]

theorem decodeGroups_encodeGroups (data : Bytes) :
    decodeGroups 0 0 0 (encodeGroups data) = some data := by
  fun_induction encodeGroups data with
  | case1 => rfl
  | case2 a =>
    have ha := a.toNat_lt
    rw [decode_first (by omega), decode_second (by omega), ofNat_eq (a := a) (by omega)]
    rfl
  | case3 a b =>
    have ha := a.toNat_lt
    have hb := b.toNat_lt
    rw [decode_first (by omega), decode_second (by omega), decode_third (by omega),
      ofNat_eq (a := a) (by omega), ofNat_eq (a := b) (by omega)]
    rfl
  | case4 a b c rest ih =>
    have ha := a.toNat_lt
    have hb := b.toNat_lt
    have hc := c.toNat_lt
    rw [decode_first (by omega), decode_second (by omega), decode_third (by omega),
      decode_fourth (by omega), ih, ofNat_eq (a := a) (by omega), ofNat_eq (a := b) (by omega),
      ofNat_eq (a := c) (by omega)]
    rfl

theorem base64Decode_encode (data : Bytes) : base64Decode (base64Encode data) = some data := by
  rw [base64Decode, base64Encode, String.toList_ofList, decodeGroups_encodeGroups, if_pos]
  rw [List.all_eq_true]
  intro c hc
  exact decide_eq_true (mem_encodeGroups hc).1

end Foundations
