import OpenAgentControl.Foundations.Json
import Mathlib.Data.Nat.Digits.Defs
import Mathlib.Tactic.Ring

/-! # The text `json.dumps` prints, and that it can be read back

`dumps` is `json.dumps(value, sort_keys=True)` with Python's other defaults: `", "` and `": "` as
separators, and every character outside printable ASCII escaped, in surrogate pairs above the basic
plane. The module proves

* `text_inj`, the text of a value followed by a separator or a closing bracket determines the value
  and what follows it;
* `fieldsText_inj`, the text of an object does so whatever follows it, because it closes itself;
* `text_ascii`, the text is ASCII.
-/

namespace Foundations
set_option autoImplicit false
set_option maxHeartbeats 250000

/-! ## Characters -/

def quoteChar : Char := Char.ofNat 34

def backslash : Char := Char.ofNat 92

def hexDigit (n : ℕ) : Char :=
  if n < 10 then Char.ofNat (48 + n) else Char.ofNat (87 + n)

/-- The four digits of `'{0:04x}'.format(n)`, for `n` below `2 ^ 16`. -/
def hexFour (n : ℕ) : List Char :=
  [hexDigit (n / 4096 % 16), hexDigit (n / 256 % 16), hexDigit (n / 16 % 16), hexDigit (n % 16)]

def unicodeEscape (n : ℕ) : List Char := backslash :: 'u' :: hexFour n

/-- One character under `ensure_ascii`. -/
def escapeChar (c : Char) : List Char :=
  if c = quoteChar then [backslash, quoteChar]
  else if c = backslash then [backslash, backslash]
  else if c = '\n' then [backslash, 'n']
  else if c = '\r' then [backslash, 'r']
  else if c = '\t' then [backslash, 't']
  else if c.toNat = 12 then [backslash, 'f']
  else if c.toNat = 8 then [backslash, 'b']
  else if 32 ≤ c.toNat ∧ c.toNat ≤ 126 then [c]
  else if c.toNat < 65536 then unicodeEscape c.toNat
  else
    let v := c.toNat - 65536
    unicodeEscape (55296 + v / 1024) ++ unicodeEscape (56320 + v % 1024)

def hexValue (c : Char) : ℕ :=
  if c.toNat < 58 then c.toNat - 48 else c.toNat - 87

def readHexFour : List Char → ℕ × List Char
  | a :: b :: c :: d :: rest =>
    (hexValue a * 4096 + hexValue b * 256 + hexValue c * 16 + hexValue d, rest)
  | rest => (0, rest)

def readChar : List Char → Option (Char × List Char)
  | [] => none
  | c :: rest =>
    if c = backslash then
      match rest with
      | [] => none
      | e :: rest =>
        if e = 'u' then
          let high := readHexFour rest
          if 55296 ≤ high.1 ∧ high.1 < 56320 then
            let low := readHexFour (high.2.drop 2)
            some (Char.ofNat (65536 + (high.1 - 55296) * 1024 + (low.1 - 56320)), low.2)
          else some (Char.ofNat high.1, high.2)
        else if e = 'n' then some ('\n', rest)
        else if e = 'r' then some ('\r', rest)
        else if e = 't' then some ('\t', rest)
        else if e = 'f' then some (Char.ofNat 12, rest)
        else if e = 'b' then some (Char.ofNat 8, rest)
        else some (e, rest)
    else some (c, rest)

theorem hexDigit_toNat {n : ℕ} (h : n < 16) :
    (hexDigit n).toNat = if n < 10 then 48 + n else 87 + n := by
  revert h
  revert n
  decide

theorem hexValue_hexDigit {n : ℕ} (h : n < 16) : hexValue (hexDigit n) = n := by
  unfold hexValue
  rw [hexDigit_toNat h]
  split_ifs <;> omega

theorem readHexFour_hexFour {n : ℕ} (h : n < 65536) (rest : List Char) :
    readHexFour (hexFour n ++ rest) = (n, rest) := by
  have hsum : n / 4096 % 16 * 4096 + n / 256 % 16 * 256 + n / 16 % 16 * 16 + n % 16 = n := by
    omega
  simp only [hexFour, List.cons_append, List.nil_append, readHexFour]
  rw [hexValue_hexDigit (Nat.mod_lt _ (by decide)), hexValue_hexDigit (Nat.mod_lt _ (by decide)),
    hexValue_hexDigit (Nat.mod_lt _ (by decide)), hexValue_hexDigit (Nat.mod_lt _ (by decide)),
    hsum]

theorem toNat_scalar (c : Char) : c.toNat < 55296 ∨ 57343 < c.toNat ∧ c.toNat < 1114112 :=
  c.valid

theorem ofNat_toNat_of_eq {c : Char} {n : ℕ} (h : c.toNat = n) : Char.ofNat n = c := by
  rw [← h, Char.ofNat_toNat]

/-- One character prints as a short escape, as itself, or as one or two escapes of four digits. -/
theorem escapeChar_cases (c : Char) :
    (∃ e, e.toNat < 128 ∧ escapeChar c = [backslash, e] ∧
      ∀ rest, readChar (backslash :: e :: rest) = some (c, rest)) ∨
    (c ≠ quoteChar ∧ c ≠ backslash ∧ c.toNat ≤ 126 ∧ escapeChar c = [c]) ∨
    (c.toNat < 65536 ∧ escapeChar c = unicodeEscape c.toNat) ∨
    (65536 ≤ c.toNat ∧ escapeChar c = unicodeEscape (55296 + (c.toNat - 65536) / 1024) ++
      unicodeEscape (56320 + (c.toNat - 65536) % 1024)) := by
  by_cases hq : c = quoteChar
  · subst hq
    exact Or.inl ⟨quoteChar, by decide, rfl, fun _ => rfl⟩
  by_cases hb : c = backslash
  · subst hb
    exact Or.inl ⟨backslash, by decide, rfl, fun _ => rfl⟩
  by_cases hn : c = '\n'
  · subst hn
    exact Or.inl ⟨'n', by decide, rfl, fun _ => rfl⟩
  by_cases hr : c = '\r'
  · subst hr
    exact Or.inl ⟨'r', by decide, rfl, fun _ => rfl⟩
  by_cases ht : c = '\t'
  · subst ht
    exact Or.inl ⟨'t', by decide, rfl, fun _ => rfl⟩
  by_cases hf : c.toNat = 12
  · rw [← ofNat_toNat_of_eq hf]
    exact Or.inl ⟨'f', by decide, rfl, fun _ => rfl⟩
  by_cases hbs : c.toNat = 8
  · rw [← ofNat_toNat_of_eq hbs]
    exact Or.inl ⟨'b', by decide, rfl, fun _ => rfl⟩
  rw [escapeChar, if_neg hq, if_neg hb, if_neg hn, if_neg hr, if_neg ht, if_neg hf, if_neg hbs]
  by_cases hprint : 32 ≤ c.toNat ∧ c.toNat ≤ 126
  · exact Or.inr (Or.inl ⟨hq, hb, hprint.2, if_pos hprint⟩)
  rw [if_neg hprint]
  by_cases hbmp : c.toNat < 65536
  · exact Or.inr (Or.inr (Or.inl ⟨hbmp, if_pos hbmp⟩))
  · exact Or.inr (Or.inr (Or.inr ⟨not_lt.mp hbmp, if_neg hbmp⟩))

theorem readChar_escapeChar (c : Char) (rest : List Char) :
    readChar (escapeChar c ++ rest) = some (c, rest) := by
  have hscalar := toNat_scalar c
  obtain ⟨e, -, he, hread⟩ | ⟨-, hb, -, he⟩ | ⟨hbmp, he⟩ | ⟨hlarge, he⟩ := escapeChar_cases c
  · rw [he]
    exact hread rest
  · rw [he]
    simp [readChar, hb]
  · -- one escape, outside the surrogate range
    have hread := readHexFour_hexFour hbmp rest
    have hnot : ¬ (55296 ≤ c.toNat ∧ c.toNat < 56320) := by omega
    rw [he]
    simp [readChar, unicodeEscape, hread, hnot]
  · -- a surrogate pair
    have hmax : c.toNat < 1114112 := by omega
    have hhigh := readHexFour_hexFour
      (show 55296 + (c.toNat - 65536) / 1024 < 65536 by omega)
      (unicodeEscape (56320 + (c.toNat - 65536) % 1024) ++ rest)
    have hlow := readHexFour_hexFour
      (show 56320 + (c.toNat - 65536) % 1024 < 65536 by omega) rest
    have hrange : 55296 + (c.toNat - 65536) / 1024 < 56320 := by omega
    have hsum : 65536 + (c.toNat - 65536) / 1024 * 1024 + (c.toNat - 65536) % 1024 = c.toNat := by
      omega
    rw [he]
    simp only [unicodeEscape, List.cons_append] at hhigh
    simp [readChar, unicodeEscape, hhigh, hlow, hrange, hsum]

theorem escapeChar_inj {c d : Char} {r s : List Char}
    (h : escapeChar c ++ r = escapeChar d ++ s) : c = d ∧ r = s := by
  have hread := readChar_escapeChar c r
  rw [h, readChar_escapeChar d s] at hread
  simpa [eq_comm] using hread

theorem escapeChar_cons (c : Char) : ∃ d rest, escapeChar c = d :: rest ∧ d ≠ quoteChar := by
  obtain ⟨e, -, he, -⟩ | ⟨hq, -, -, he⟩ | ⟨-, he⟩ | ⟨-, he⟩ := escapeChar_cases c
  · exact ⟨_, _, he, by decide⟩
  · exact ⟨_, _, he, hq⟩
  · exact ⟨_, _, he, by decide⟩
  · exact ⟨_, _, he, by decide⟩

theorem ascii_of_all {cs : List Char} (h : (cs.all fun c => decide (c.toNat < 128)) = true) :
    ∀ c ∈ cs, c.toNat < 128 := fun c hc => of_decide_eq_true (List.all_eq_true.mp h c hc)

theorem unicodeEscape_ascii (n : ℕ) : ∀ d ∈ unicodeEscape n, d.toNat < 128 := by
  have hdigit : ∀ n, n < 16 → (hexDigit n).toNat < 128 := by decide
  intro d hd
  simp only [unicodeEscape, hexFour, List.mem_cons, List.not_mem_nil, or_false] at hd
  obtain rfl | rfl | rfl | rfl | rfl | rfl := hd
  · decide
  · decide
  all_goals exact hdigit _ (Nat.mod_lt _ (by decide))

theorem escapeChar_ascii (c : Char) : ∀ d ∈ escapeChar c, d.toNat < 128 := by
  intro d hd
  obtain ⟨e, hascii, he, -⟩ | ⟨-, -, hascii, he⟩ | ⟨-, he⟩ | ⟨-, he⟩ := escapeChar_cases c
  · rw [he, List.mem_cons, List.mem_singleton] at hd
    obtain rfl | rfl := hd
    · decide
    · exact hascii
  · rw [he, List.mem_singleton] at hd
    rw [hd]
    omega
  · rw [he] at hd
    exact unicodeEscape_ascii _ d hd
  · rw [he] at hd
    obtain hd | hd := List.mem_append.mp hd
    · exact unicodeEscape_ascii _ d hd
    · exact unicodeEscape_ascii _ d hd

/-! ## Text -/

def stringText (s : String) : List Char :=
  quoteChar :: (s.toList.flatMap escapeChar ++ [quoteChar])

/-- `int.__repr__`. -/
def intText : ℤ → List Char
  | .ofNat n => Nat.toDigits 10 n
  | .negSucc n => '-' :: Nat.toDigits 10 (n + 1)

/-- `float.__repr__`, with the names `allow_nan` prints for the rest. -/
def floatText : PyFloat → List Char
  | .finite literal => literal.text
  | .inf true => "-Infinity".toList
  | .inf false => "Infinity".toList
  | .nan => "NaN".toList

mutual
/-- The text of a value, fields in the order they stand in. -/
def text : Json → List Char
  | .null => "null".toList
  | .bool true => "true".toList
  | .bool false => "false".toList
  | .int n => intText n
  | .float x => floatText x
  | .str s => stringText s
  | .arr [] => ['[', ']']
  | .arr (x :: xs) => '[' :: (text x ++ itemsText xs)
  | .obj [] => ['{', '}']
  | .obj ((k, v) :: rest) => '{' :: (stringText k ++ (':' :: ' ' :: (text v ++ fieldsText rest)))

def itemsText : List Json → List Char
  | [] => [']']
  | x :: xs => ',' :: ' ' :: (text x ++ itemsText xs)

def fieldsText : List (String × Json) → List Char
  | [] => ['}']
  | (k, v) :: rest =>
    ',' :: ' ' :: (stringText k ++ (':' :: ' ' :: (text v ++ fieldsText rest)))
end

/-! ## Reading it back -/

theorem escapes_inj : ∀ (cs ds : List Char) (r s : List Char),
    cs.flatMap escapeChar ++ quoteChar :: r = ds.flatMap escapeChar ++ quoteChar :: s →
    cs = ds ∧ r = s
  | [], [], r, s, h => by simpa using h
  | [], d :: ds, r, s, h => by
    obtain ⟨e, rest, he, hne⟩ := escapeChar_cons d
    simp [he] at h
    exact absurd h.1.symm hne
  | c :: cs, [], r, s, h => by
    obtain ⟨e, rest, he, hne⟩ := escapeChar_cons c
    simp [he] at h
    exact absurd h.1 hne
  | c :: cs, d :: ds, r, s, h => by
    simp only [List.flatMap_cons, List.append_assoc] at h
    obtain ⟨hcd, hrest⟩ := escapeChar_inj h
    obtain ⟨hrec, hrs⟩ := escapes_inj cs ds r s hrest
    exact ⟨by rw [hcd, hrec], hrs⟩

theorem stringText_inj {a b : String} {r s : List Char}
    (h : stringText a ++ r = stringText b ++ s) : a = b ∧ r = s := by
  have hbody : a.toList.flatMap escapeChar ++ quoteChar :: r =
      b.toList.flatMap escapeChar ++ quoteChar :: s := by
    simpa [stringText] using h
  obtain ⟨hchars, hrs⟩ := escapes_inj _ _ _ _ hbody
  exact ⟨String.toList_injective hchars, hrs⟩

/-- The characters that can stand after a value. -/
def separator (c : Char) : Bool := c == ',' || c == ']' || c == '}'

/-- What follows a value: nothing, or something that starts with a separator. -/
def Ends (r : List Char) : Prop := ∀ c ∈ r.head?, separator c = true

/-- The first character of a string, an array or an object. -/
def opener : Json → Option Char
  | .str _ => some quoteChar
  | .arr _ => some '['
  | .obj _ => some '{'
  | _ => none

def tokenChar (c : Char) : Bool :=
  !separator c && c != quoteChar && c != '[' && c != '{'

def numeric (c : Char) : Bool :=
  c.isDigit || c == '-' || c == '+' || c == '.' || c == 'e'

def named : Json → Bool
  | .null => true
  | .bool _ => true
  | .float (.inf _) => true
  | .float .nan => true
  | _ => false

def names : List Json :=
  [.null, .bool true, .bool false, .float (.inf true), .float (.inf false), .float .nan]

theorem tokenChar_of_numeric {c : Char} (h : numeric c = true) : tokenChar c = true := by
  by_contra hnot
  have hcases : c = ',' ∨ c = ']' ∨ c = '}' ∨ c = quoteChar ∨ c = '[' ∨ c = '{' := by
    simp [tokenChar, separator] at hnot
    tauto
  obtain rfl | rfl | rfl | rfl | rfl | rfl := hcases
  all_goals exact absurd h (by decide)

theorem intText_chars (n : ℤ) : ∀ c ∈ intText n, c.isDigit = true ∨ c = '-' := by
  intro c hc
  cases n with
  | ofNat n => exact Or.inl (Nat.isDigit_of_mem_toDigits (by decide) (by decide) hc)
  | negSucc n =>
    obtain rfl | hc := List.mem_cons.mp hc
    · exact Or.inr rfl
    · exact Or.inl (Nat.isDigit_of_mem_toDigits (by decide) (by decide) hc)

theorem intText_numeric (n : ℤ) : ∀ c ∈ intText n, numeric c = true := by
  intro c hc
  obtain hdigit | rfl := intText_chars n c hc
  · simp [numeric, hdigit]
  · decide

theorem intText_ne_nil (n : ℤ) : intText n ≠ [] := by
  cases n with
  | ofNat n => exact Nat.toDigits_ne_nil
  | negSucc n => exact List.cons_ne_nil _ _

theorem intText_unpointed (n : ℤ) :
    ((intText n).contains '.' || (intText n).contains 'e') = false := by
  rw [Bool.or_eq_false_iff]
  constructor
  all_goals
    rw [List.contains_eq_mem, decide_eq_false_iff_not]
    intro hmem
    obtain hdigit | heq := intText_chars n _ hmem
    · exact absurd hdigit (by decide)
    · exact absurd heq (by decide)

theorem floatShape_numeric {literal : List Char} (h : floatShape literal = true) :
    ∀ c ∈ literal, numeric c = true :=
  List.all_eq_true.mp (Bool.and_eq_true_iff.mp h).1

theorem floatShape_pointed {literal : List Char} (h : floatShape literal = true) :
    (literal.contains '.' || literal.contains 'e') = true :=
  (Bool.and_eq_true_iff.mp h).2

theorem text_all_numeric {a : Json} (h : opener a = none) :
    (text a).all numeric = !named a := by
  cases a with
  | null => rfl
  | bool b => cases b <;> rfl
  | int n => simpa [text, named] using intText_numeric n
  | float x =>
    cases x with
    | finite literal => exact List.all_eq_true.mpr (floatShape_numeric literal.shape)
    | inf negative => cases negative <;> rfl
    | nan => rfl
  | str s => cases h
  | arr items => cases h
  | obj fields => cases h

theorem mem_names {a : Json} (h : named a = true) : a ∈ names := by
  cases a with
  | null => decide
  | bool b => cases b <;> decide
  | float x =>
    cases x with
    | finite literal => cases h
    | inf negative => cases negative <;> decide
    | nan => decide
  | _ => cases h

theorem names_inj : ∀ a ∈ names, ∀ b ∈ names, text a = text b → a = b := by decide

theorem intText_inj {m n : ℤ} (h : intText m = intText n) : m = n := by
  have hdigits : ∀ {i j : ℕ}, Nat.toDigits 10 i = Nat.toDigits 10 j → i = j := by
    intro i j hij
    have hread (n : ℕ) : Nat.ofDigitChars 10 (Nat.toDigits 10 n) 0 = n :=
      Nat.ofDigitChars_toDigits (by decide) (by decide)
    rw [← hread i, hij, hread j]
  have hsign : ∀ {i : ℕ} {rest : List Char}, Nat.toDigits 10 i ≠ '-' :: rest := by
    intro i rest hi
    have hmem : '-' ∈ Nat.toDigits 10 i := by simp [hi]
    exact absurd (Nat.isDigit_of_mem_toDigits (by decide) (by decide) hmem) (by decide)
  cases m with
  | ofNat i =>
    cases n with
    | ofNat j => rw [hdigits h]
    | negSucc j => exact absurd h hsign
  | negSucc i =>
    cases n with
    | ofNat j => exact absurd h.symm hsign
    | negSucc j =>
      have hij : i + 1 = j + 1 := hdigits (List.cons.inj h).2
      rw [Nat.succ.inj hij]

theorem scalar_text_inj {a b : Json} (ha : opener a = none) (hb : opener b = none)
    (h : text a = text b) : a = b := by
  have hnamed : named a = named b := by
    have hall := text_all_numeric ha
    rw [h, text_all_numeric hb] at hall
    simpa using hall.symm
  cases hna : named a with
  | true => exact names_inj a (mem_names hna) b (mem_names (hnamed ▸ hna)) h
  | false =>
    rw [hna] at hnamed
    have hclash : ∀ {n : ℤ} {literal : FloatText}, intText n ≠ literal.text := by
      intro n literal heq
      have hpoint := floatShape_pointed literal.shape
      rw [← heq, intText_unpointed] at hpoint
      cases hpoint
    cases a with
    | int m =>
      cases b with
      | int n => rw [intText_inj h]
      | float x =>
        cases x with
        | finite literal => exact absurd h hclash
        | inf negative => cases hnamed
        | nan => cases hnamed
      | null => cases hnamed
      | bool b => cases hnamed
      | _ => cases hb
    | float x =>
      cases x with
      | finite literal =>
        cases b with
        | int n => exact absurd h.symm hclash
        | float y =>
          cases y with
          | finite other =>
            have hlit : literal.text = other.text := h
            obtain ⟨chars, hshape⟩ := literal
            obtain ⟨others, hothers⟩ := other
            cases hlit
            rfl
          | inf negative => cases hnamed
          | nan => cases hnamed
        | null => cases hnamed
        | bool b => cases hnamed
        | _ => cases hb
      | inf negative => cases hna
      | nan => cases hna
    | null => cases hna
    | bool b => cases hna
    | _ => cases ha

theorem scalar_tokens {a : Json} (h : opener a = none) : ∀ c ∈ text a, tokenChar c = true := by
  cases hn : named a with
  | true =>
    have hnames : (names.all fun x => (text x).all tokenChar) = true := by decide
    exact List.all_eq_true.mp (List.all_eq_true.mp hnames a (mem_names hn))
  | false =>
    have hall := text_all_numeric h
    rw [hn] at hall
    intro c hc
    exact tokenChar_of_numeric (List.all_eq_true.mp hall c hc)

theorem scalar_text_ne_nil {a : Json} (h : opener a = none) : text a ≠ [] := by
  cases a with
  | null => decide
  | bool b => cases b <;> decide
  | int n => exact intText_ne_nil n
  | float x =>
    cases x with
    | finite literal =>
      intro hnil
      have hpoint := floatShape_pointed literal.shape
      rw [show literal.text = [] from hnil] at hpoint
      cases hpoint
    | inf negative => cases negative <;> decide
    | nan => decide
  | _ => cases h

/-- The first character of a value is its opener, or belongs to a name or a number. -/
theorem head_text (a : Json) :
    ∃ c rest, text a = c :: rest ∧
      (opener a = some c ∨ opener a = none ∧ tokenChar c = true) := by
  cases ho : opener a with
  | none =>
    obtain ⟨c, rest, htext⟩ := List.exists_cons_of_ne_nil (scalar_text_ne_nil ho)
    refine ⟨c, rest, htext, Or.inr ⟨rfl, scalar_tokens ho c ?_⟩⟩
    rw [htext]
    exact List.mem_cons_self
  | some o =>
    cases a with
    | str s =>
      cases ho
      exact ⟨_, _, rfl, Or.inl rfl⟩
    | arr items =>
      cases ho
      cases items with
      | nil => exact ⟨_, _, rfl, Or.inl rfl⟩
      | cons x xs => exact ⟨_, _, rfl, Or.inl rfl⟩
    | obj fields =>
      cases ho
      cases fields with
      | nil => exact ⟨_, _, rfl, Or.inl rfl⟩
      | cons field rest =>
        obtain ⟨k, v⟩ := field
        exact ⟨_, _, rfl, Or.inl rfl⟩
    | _ => cases ho

theorem opener_chars {a : Json} {c : Char} (h : opener a = some c) :
    tokenChar c = false ∧ separator c = false := by
  cases a with
  | str s => cases h; decide
  | arr items => cases h; decide
  | obj fields => cases h; decide
  | _ => cases h

theorem opener_eq {a b : Json} {r s : List Char} (h : text a ++ r = text b ++ s) :
    opener a = opener b := by
  obtain ⟨c, rest, hc, hac⟩ := head_text a
  obtain ⟨d, rest', hd, hbd⟩ := head_text b
  rw [hc, hd] at h
  have hcd : c = d := (List.cons.inj h).1
  subst hcd
  obtain ha | ⟨ha, htok⟩ := hac
  · obtain hb | ⟨-, htok⟩ := hbd
    · rw [ha, hb]
    · exact absurd htok (by rw [(opener_chars ha).1]; decide)
  · obtain hb | ⟨hb, -⟩ := hbd
    · exact absurd htok (by rw [(opener_chars hb).1]; decide)
    · rw [ha, hb]

theorem text_ne_separator {a : Json} {c : Char} {r s : List Char} (hc : separator c = true) :
    text a ++ r ≠ c :: s := by
  intro h
  obtain ⟨d, rest, hd, had⟩ := head_text a
  rw [hd] at h
  have hdc : d = c := (List.cons.inj h).1
  subst hdc
  obtain ha | ⟨-, htok⟩ := had
  · exact absurd hc (by rw [(opener_chars ha).2]; decide)
  · simp [tokenChar, hc] at htok

theorem token_split : ∀ {a b r s : List Char}, (∀ c ∈ a, tokenChar c = true) →
    (∀ c ∈ b, tokenChar c = true) → Ends r → Ends s → a ++ r = b ++ s → a = b ∧ r = s
  | [], [], r, s, _, _, _, _, h => ⟨rfl, h⟩
  | [], d :: b, r, s, _, hb, hr, _, h => by
    have hsep := hr d (by rw [show r = d :: (b ++ s) from h]; rfl)
    have htok := hb d List.mem_cons_self
    simp [tokenChar, hsep] at htok
  | c :: a, [], r, s, ha, _, _, hs, h => by
    have hsep := hs c (by rw [show s = c :: (a ++ r) from h.symm]; rfl)
    have htok := ha c List.mem_cons_self
    simp [tokenChar, hsep] at htok
  | c :: a, d :: b, r, s, ha, hb, hr, hs, h => by
    obtain ⟨hcd, hrest⟩ := List.cons.inj h
    obtain ⟨hab, hrs⟩ := token_split (fun x hx => ha x (List.mem_cons_of_mem _ hx))
      (fun x hx => hb x (List.mem_cons_of_mem _ hx)) hr hs hrest
    exact ⟨by rw [hcd, hab], hrs⟩

theorem opener_str {b : Json} (h : opener b = some quoteChar) : ∃ s, b = .str s := by
  cases b with
  | str s => exact ⟨s, rfl⟩
  | arr items => exact absurd (Option.some.inj h) (by decide)
  | obj fields => exact absurd (Option.some.inj h) (by decide)
  | _ => cases h

theorem opener_arr {b : Json} (h : opener b = some '[') : ∃ items, b = .arr items := by
  cases b with
  | arr items => exact ⟨items, rfl⟩
  | str s => exact absurd (Option.some.inj h) (by decide)
  | obj fields => exact absurd (Option.some.inj h) (by decide)
  | _ => cases h

theorem opener_obj {b : Json} (h : opener b = some '{') : ∃ fields, b = .obj fields := by
  cases b with
  | obj fields => exact ⟨fields, rfl⟩
  | str s => exact absurd (Option.some.inj h) (by decide)
  | arr items => exact absurd (Option.some.inj h) (by decide)
  | _ => cases h

theorem ends_itemsText (xs : List Json) (r : List Char) : Ends (itemsText xs ++ r) := by
  intro c hc
  cases xs with
  | nil => cases hc; decide
  | cons x xs => cases hc; decide

theorem ends_fieldsText (fields : List (String × Json)) (r : List Char) :
    Ends (fieldsText fields ++ r) := by
  intro c hc
  cases fields with
  | nil => cases hc; decide
  | cons field rest =>
    obtain ⟨k, v⟩ := field
    cases hc
    decide

/-- A name or a number and what follows it are determined by their text. -/
theorem scalar_inj {a b : Json} {r s : List Char} (ha : opener a = none) (hr : Ends r)
    (hs : Ends s) (h : text a ++ r = text b ++ s) : a = b ∧ r = s := by
  have hb : opener b = none := by rw [← opener_eq h, ha]
  obtain ⟨htext, hrs⟩ := token_split (scalar_tokens ha) (scalar_tokens hb) hr hs h
  exact ⟨scalar_text_inj ha hb htext, hrs⟩

mutual
/-- A value and what follows it are determined by their text. -/
theorem text_inj : ∀ (a b : Json) (r s : List Char), Ends r → Ends s →
    text a ++ r = text b ++ s → a = b ∧ r = s
  | .str t, b, r, s, _, _, h => by
    obtain ⟨u, rfl⟩ := opener_str (opener_eq h).symm
    obtain ⟨rfl, hrs⟩ := stringText_inj h
    exact ⟨rfl, hrs⟩
  | .arr xs, b, r, s, _, _, h => by
    obtain ⟨ys, rfl⟩ := opener_arr (opener_eq h).symm
    obtain ⟨rfl, hrs⟩ := arrText_inj xs ys r s h
    exact ⟨rfl, hrs⟩
  | .obj fields, b, r, s, _, _, h => by
    obtain ⟨others, rfl⟩ := opener_obj (opener_eq h).symm
    obtain ⟨rfl, hrs⟩ := objText_inj fields others r s h
    exact ⟨rfl, hrs⟩
  | .null, b, r, s, hr, hs, h => scalar_inj rfl hr hs h
  | .bool _, b, r, s, hr, hs, h => scalar_inj rfl hr hs h
  | .int _, b, r, s, hr, hs, h => scalar_inj rfl hr hs h
  | .float _, b, r, s, hr, hs, h => scalar_inj rfl hr hs h

theorem arrText_inj : ∀ (xs ys : List Json) (r s : List Char),
    text (.arr xs) ++ r = text (.arr ys) ++ s → xs = ys ∧ r = s
  | [], [], r, s, h => ⟨rfl, by simpa [text] using h⟩
  | [], y :: ys, r, s, h => by
    simp only [text, List.cons_append, List.append_assoc, List.nil_append] at h
    exact absurd (List.cons.inj h).2.symm (text_ne_separator (by decide))
  | x :: xs, [], r, s, h => by
    simp only [text, List.cons_append, List.append_assoc, List.nil_append] at h
    exact absurd (List.cons.inj h).2 (text_ne_separator (by decide))
  | x :: xs, y :: ys, r, s, h => by
    simp only [text, List.cons_append, List.append_assoc] at h
    obtain ⟨rfl, htail⟩ := text_inj x y _ _ (ends_itemsText _ _) (ends_itemsText _ _)
      (List.cons.inj h).2
    obtain ⟨rfl, hrs⟩ := itemsText_inj xs ys r s htail
    exact ⟨rfl, hrs⟩

theorem itemsText_inj : ∀ (xs ys : List Json) (r s : List Char),
    itemsText xs ++ r = itemsText ys ++ s → xs = ys ∧ r = s
  | [], [], r, s, h => ⟨rfl, by simpa [itemsText] using h⟩
  | [], y :: ys, r, s, h => by simp [itemsText] at h
  | x :: xs, [], r, s, h => by simp [itemsText] at h
  | x :: xs, y :: ys, r, s, h => by
    simp only [itemsText, List.cons_append, List.append_assoc] at h
    obtain ⟨rfl, htail⟩ := text_inj x y _ _ (ends_itemsText _ _) (ends_itemsText _ _)
      (List.cons.inj (List.cons.inj h).2).2
    obtain ⟨rfl, hrs⟩ := itemsText_inj xs ys r s htail
    exact ⟨rfl, hrs⟩

/-- The text of an object closes itself: it is determined whatever follows it. -/
theorem objText_inj : ∀ (fields others : List (String × Json)) (r s : List Char),
    text (.obj fields) ++ r = text (.obj others) ++ s → fields = others ∧ r = s
  | [], [], r, s, h => ⟨rfl, by simpa [text] using h⟩
  | [], (l, w) :: others, r, s, h => by
    simp only [text, stringText, List.cons_append, List.append_assoc, List.nil_append] at h
    exact absurd (List.cons.inj (List.cons.inj h).2).1 (by decide)
  | (k, v) :: fields, [], r, s, h => by
    simp only [text, stringText, List.cons_append, List.append_assoc, List.nil_append] at h
    exact absurd (List.cons.inj (List.cons.inj h).2).1 (by decide)
  | (k, v) :: fields, (l, w) :: others, r, s, h => by
    simp only [text, List.cons_append, List.append_assoc] at h
    obtain ⟨rfl, hvalue⟩ := stringText_inj (List.cons.inj h).2
    obtain ⟨rfl, htail⟩ := text_inj v w _ _ (ends_fieldsText _ _) (ends_fieldsText _ _)
      (List.cons.inj (List.cons.inj hvalue).2).2
    obtain ⟨rfl, hrs⟩ := fieldsText_inj fields others r s htail
    exact ⟨rfl, hrs⟩

theorem fieldsText_inj : ∀ (fields others : List (String × Json)) (r s : List Char),
    fieldsText fields ++ r = fieldsText others ++ s → fields = others ∧ r = s
  | [], [], r, s, h => ⟨rfl, by simpa [fieldsText] using h⟩
  | [], (l, w) :: others, r, s, h => by simp [fieldsText] at h
  | (k, v) :: fields, [], r, s, h => by simp [fieldsText] at h
  | (k, v) :: fields, (l, w) :: others, r, s, h => by
    simp only [fieldsText, List.cons_append, List.append_assoc] at h
    obtain ⟨rfl, hvalue⟩ := stringText_inj (List.cons.inj (List.cons.inj h).2).2
    obtain ⟨rfl, htail⟩ := text_inj v w _ _ (ends_fieldsText _ _) (ends_fieldsText _ _)
      (List.cons.inj (List.cons.inj hvalue).2).2
    obtain ⟨rfl, hrs⟩ := fieldsText_inj fields others r s htail
    exact ⟨rfl, hrs⟩
end

/-! ## Bytes -/

theorem scalar_ascii {a : Json} (h : opener a = none) : ∀ c ∈ text a, c.toNat < 128 := by
  cases hn : named a with
  | true =>
    have hnames : (names.all fun x => (text x).all fun c => decide (c.toNat < 128)) = true := by
      decide
    exact ascii_of_all (List.all_eq_true.mp hnames a (mem_names hn))
  | false =>
    have hall := text_all_numeric h
    rw [hn] at hall
    intro c hc
    have hnum := List.all_eq_true.mp hall c hc
    simp only [numeric, Char.isDigit, Bool.or_eq_true, Bool.and_eq_true, beq_iff_eq] at hnum
    obtain (((⟨-, hle⟩ | rfl) | rfl) | rfl) | rfl := hnum
    · exact lt_of_le_of_lt (UInt32.le_iff_toNat_le.mp (of_decide_eq_true hle)) (by decide)
    all_goals decide

theorem stringText_ascii (t : String) : ∀ c ∈ stringText t, c.toNat < 128 := by
  intro c hc
  simp only [stringText, List.mem_cons, List.mem_append, List.mem_flatMap, List.not_mem_nil,
    or_false] at hc
  obtain rfl | ⟨d, -, hd⟩ | rfl := hc
  · decide
  · exact escapeChar_ascii d c hd
  · decide

mutual
theorem text_ascii : ∀ a : Json, ∀ c ∈ text a, c.toNat < 128
  | .str t => stringText_ascii t
  | .arr [] => ascii_of_all (by decide)
  | .arr (x :: xs) => by
    intro c hc
    obtain rfl | hc := List.mem_cons.mp hc
    · decide
    · obtain hc | hc := List.mem_append.mp hc
      · exact text_ascii x c hc
      · exact itemsText_ascii xs c hc
  | .obj [] => ascii_of_all (by decide)
  | .obj ((k, v) :: rest) => by
    intro c hc
    simp only [text, List.mem_cons, List.mem_append] at hc
    obtain rfl | hc | rfl | rfl | hc | hc := hc
    · decide
    · exact stringText_ascii k c hc
    · decide
    · decide
    · exact text_ascii v c hc
    · exact fieldsText_ascii rest c hc
  | .null => scalar_ascii rfl
  | .bool _ => scalar_ascii rfl
  | .int _ => scalar_ascii rfl
  | .float _ => scalar_ascii rfl

theorem itemsText_ascii : ∀ xs : List Json, ∀ c ∈ itemsText xs, c.toNat < 128
  | [] => ascii_of_all (by decide)
  | x :: xs => by
    intro c hc
    simp only [itemsText, List.mem_cons, List.mem_append] at hc
    obtain rfl | rfl | hc | hc := hc
    · decide
    · decide
    · exact text_ascii x c hc
    · exact itemsText_ascii xs c hc

theorem fieldsText_ascii : ∀ fields : List (String × Json), ∀ c ∈ fieldsText fields, c.toNat < 128
  | [] => ascii_of_all (by decide)
  | (k, v) :: rest => by
    intro c hc
    simp only [fieldsText, List.mem_cons, List.mem_append] at hc
    obtain rfl | rfl | hc | rfl | rfl | hc | hc := hc
    · decide
    · decide
    · exact stringText_ascii k c hc
    · decide
    · decide
    · exact text_ascii v c hc
    · exact fieldsText_ascii rest c hc
end

abbrev Bytes := List UInt8

/-- `str.encode("utf-8")`. -/
def utf8 (cs : List Char) : Bytes := cs.flatMap String.utf8EncodeChar

def byteChar (b : UInt8) : Char := Char.ofNat b.toNat

theorem map_byteChar_utf8 {cs : List Char} (h : ∀ c ∈ cs, c.toNat < 128) :
    (utf8 cs).map byteChar = cs := by
  induction cs with
  | nil => rfl
  | cons c cs ih =>
    have hc : c.toNat < 128 := h c List.mem_cons_self
    have hsize : c.utf8Size = 1 := by
      have hle : c.val ≤ 127 := UInt32.le_iff_toNat_le.mpr (by simpa using Nat.lt_succ_iff.mp hc)
      simp [Char.utf8Size, hle]
    have hbyte : byteChar c.val.toUInt8 = c := by
      have hmod : c.val.toUInt8.toNat = c.toNat := by
        rw [UInt32.toNat_toUInt8]
        exact Nat.mod_eq_of_lt (lt_trans hc (by decide))
      rw [byteChar, hmod, Char.ofNat_toNat]
    rw [utf8, List.flatMap_cons, String.utf8EncodeChar_eq_singleton hsize, List.map_append,
      List.map_singleton, hbyte]
    exact congrArg (c :: ·) (ih fun d hd => h d (List.mem_cons_of_mem _ hd))

/-- The bytes of an object and whatever follows them are determined together. -/
theorem utf8_obj_inj {fields others : List (String × Json)} {r s : Bytes}
    (h : utf8 (text (.obj fields)) ++ r = utf8 (text (.obj others)) ++ s) :
    fields = others ∧ r = s := by
  have hchars := congrArg (List.map byteChar) h
  rw [List.map_append, List.map_append, map_byteChar_utf8 (text_ascii _),
    map_byteChar_utf8 (text_ascii _)] at hchars
  obtain ⟨rfl, -⟩ := objText_inj _ _ _ _ hchars
  exact ⟨rfl, List.append_cancel_left h⟩

/-! ## Sorted keys -/

mutual
/-- The items of every object in the order of their keys. -/
def sortKeys : Json → Json
  | .arr items => .arr (sortItems items)
  | .obj fields => .obj ((sortFields fields).insertionSort (fun a b => a.1 ≤ b.1))
  | .null => .null
  | .bool b => .bool b
  | .int n => .int n
  | .float x => .float x
  | .str s => .str s

def sortItems : List Json → List Json
  | [] => []
  | x :: xs => sortKeys x :: sortItems xs

def sortFields : List (String × Json) → List (String × Json)
  | [] => []
  | (k, v) :: rest => (k, sortKeys v) :: sortFields rest
end

/-- `json.dumps(value, sort_keys=True)`. -/
def dumps (a : Json) : List Char := text (sortKeys a)

example : dumps (.obj [("b", .arr [.int (-3), .null]), ("a", .str "x\ny")]) =
    "\x7b\"a\": \"x\\ny\", \"b\": [-3, null]\x7d".toList := by decide

end Foundations
