import Unified.Lib.Bytes
import Unified.Lib.Numerals

/-! Hexadecimal text: bytes as pairs of digits, and the `0x` form of a byte string of a fixed size. -/

namespace Unified

def hexEncode (b : List UInt8) : List Char :=
  b.flatMap fun x => [Nat.digitChar (x.toNat / 16), Nat.digitChar (x.toNat % 16)]

def hexDecode : List Char → Option (List UInt8)
  | [] => some []
  | [_] => none
  | c :: d :: rest => do
    let high ← digitValue c
    let low ← digitValue d
    let bytes ← hexDecode rest
    pure (UInt8.ofNat (16 * high + low) :: bytes)

/-- The lower case text of a byte string after `0x`. -/
def hexText (b : List UInt8) : String := String.ofList ('0' :: 'x' :: hexEncode b)

/-- A byte string of `size` bytes from its lower case text. -/
def decodeHexText (value : String) (size : Nat) : Option (List UInt8) :=
  match value.toList with
  | '0' :: 'x' :: digits =>
    if digits.length = 2 * size ∧ digits.map Char.toLower = digits then hexDecode digits else none
  | _ => none

theorem digitValue_digitChar_hex {d : Nat} (hd : d < 16) : digitValue d.digitChar = some d := by
  have : ∀ d < 16, digitValue (Nat.digitChar d) = some d := by decide
  exact this d hd

theorem hexEncode_cons (x : UInt8) (b : List UInt8) :
    hexEncode (x :: b) = Nat.digitChar (x.toNat / 16) :: Nat.digitChar (x.toNat % 16) :: hexEncode b := rfl

theorem length_hexEncode (b : List UInt8) : (hexEncode b).length = 2 * b.length := by
  induction b with
  | nil => rfl
  | cons _ _ ih =>
    rw [hexEncode_cons, List.length_cons, List.length_cons, ih, List.length_cons]
    omega

theorem hexDecode_hexEncode (b : List UInt8) : hexDecode (hexEncode b) = some b := by
  induction b with
  | nil => rfl
  | cons x _ ih =>
    have hx := x.toNat_lt
    have hbyte : UInt8.ofNat (16 * (x.toNat / 16) + x.toNat % 16) = x := by
      rw [Nat.div_add_mod, UInt8.ofNat_toNat]
    simp only [hexEncode_cons, hexDecode, digitValue_digitChar_hex (d := x.toNat / 16) (by omega),
      digitValue_digitChar_hex (d := x.toNat % 16) (by omega), ih, Option.bind_eq_bind, Option.bind_some, hbyte]
    rfl

theorem map_toLower_hexEncode (b : List UInt8) : (hexEncode b).map Char.toLower = hexEncode b := by
  have lower : ∀ d < 16, (Nat.digitChar d).toLower = Nat.digitChar d := by decide
  induction b with
  | nil => rfl
  | cons x _ ih =>
    have hx := x.toNat_lt
    rw [hexEncode_cons, List.map_cons, List.map_cons, ih, lower _ (by omega), lower _ (by omega)]

theorem digitChar_of_digitValue {c : Char} {d : Nat} (h : digitValue c = some d) (lower : c.toLower = c) :
    c = Nat.digitChar d := by
  have table : ∀ n < 103, (Char.ofNat n).toLower = Char.ofNat n → ∀ d ∈ digitValue (Char.ofNat n),
      Char.ofNat n = Nat.digitChar d := by decide +kernel
  have bound : c.toNat < 103 := by
    unfold digitValue at h
    split at h
    · next hc => exact Nat.lt_of_le_of_lt hc.2 (by decide)
    · split at h
      · next hc => exact Nat.lt_of_le_of_lt hc.2 (by decide)
      · split at h
        · next hc => exact Nat.lt_of_le_of_lt hc.2 (by decide)
        · cases h
  have hc := Char.ofNat_toNat c
  rw [← hc] at h lower ⊢
  exact table _ bound lower d h

theorem digitValue_lt {c : Char} {d : Nat} (h : digitValue c = some d) : d < 16 := by
  unfold digitValue at h
  split at h
  · next hc =>
    cases h
    have : c.toNat ≤ 57 := hc.2
    omega
  · split at h
    · next hc =>
      cases h
      have : c.toNat ≤ 102 := hc.2
      omega
    · split at h
      · next hc =>
        cases h
        have : c.toNat ≤ 70 := hc.2
        omega
      · cases h

theorem hexEncode_of_hexDecode {digits : List Char} {b : List UInt8} (h : hexDecode digits = some b)
    (lower : digits.map Char.toLower = digits) : hexEncode b = digits := by
  induction digits using hexDecode.induct generalizing b with
  | case1 => cases h; rfl
  | case2 => cases h
  | case3 _ _ _ ih =>
    simp only [hexDecode, Option.bind_eq_bind, Option.bind_eq_some_iff, Option.pure_def, Option.some.injEq] at h
    obtain ⟨high, hhigh, low, hlow, bytes, hbytes, rfl⟩ := h
    simp only [List.map_cons, List.cons.injEq] at lower
    have hh := digitValue_lt hhigh
    have hl := digitValue_lt hlow
    have hbyte : (UInt8.ofNat (16 * high + low)).toNat = 16 * high + low := by
      rw [UInt8.toNat_ofNat']
      omega
    rw [hexEncode_cons, ih hbytes lower.2.2, hbyte, Nat.mul_add_div (by decide), Nat.div_eq_of_lt hl, Nat.add_zero,
      Nat.mul_add_mod, Nat.mod_eq_of_lt hl, ← digitChar_of_digitValue hhigh lower.1,
      ← digitChar_of_digitValue hlow lower.2.1]

/-- The text of `size` bytes, and nothing else, decodes to them. -/
theorem decodeHexText_eq_some {value : String} {size : Nat} {b : List UInt8} :
    decodeHexText value size = some b ↔ value = hexText b ∧ b.length = size := by
  constructor
  · intro h
    unfold decodeHexText at h
    split at h
    · next digits heq =>
      simp only [Option.ite_none_right_eq_some] at h
      obtain ⟨⟨length, lower⟩, decoded⟩ := h
      have hdigits := hexEncode_of_hexDecode decoded lower
      rw [← hdigits, length_hexEncode] at length
      refine ⟨?_, by omega⟩
      rw [hexText, hdigits, ← heq, String.ofList_toList]
    · cases h
  · rintro ⟨rfl, rfl⟩
    simp only [decodeHexText, hexText, String.toList_ofList]
    rw [if_pos ⟨length_hexEncode b, map_toLower_hexEncode b⟩, hexDecode_hexEncode]

theorem hexText_inj {b b' : List UInt8} (h : hexText b = hexText b') : b = b' := by
  have hdigits := List.cons.inj (List.cons.inj (String.ofList_injective h)).2
  have := congrArg hexDecode hdigits.2
  rwa [hexDecode_hexEncode, hexDecode_hexEncode, Option.some.injEq] at this

theorem hexText_ne_empty (b : List UInt8) : hexText b ≠ "" := by
  intro h
  have := congrArg String.toList h
  rw [hexText, String.toList_ofList] at this
  cases this

end Unified
