import Mathlib.Init

/-! Numerals: reading digits in a radix, and that reading back a decimal gives its number. -/

namespace Unified

def digitValue (c : Char) : Option Nat :=
  if '0' ≤ c ∧ c ≤ '9' then some (c.toNat - 48)
  else if 'a' ≤ c ∧ c ≤ 'f' then some (c.toNat - 87)
  else if 'A' ≤ c ∧ c ≤ 'F' then some (c.toNat - 55)
  else none

/-- One or more digits of a radix. -/
def parseRadix (radix : Nat) : List Char → Option Nat
  | [] => none
  | cs => cs.foldlM (fun acc c => (digitValue c).bind fun d => if d < radix then some (radix * acc + d) else none) 0

theorem digitValue_digitChar {d : Nat} (hd : d < 10) : digitValue d.digitChar = some d := by
  have : ∀ d < 10, digitValue (Nat.digitChar d) = some d := by decide
  exact this d hd

theorem foldlM_toDigits (n : Nat) :
    (Nat.toDigits 10 n).foldlM
      (fun acc c => (digitValue c).bind fun d => if d < 10 then some (10 * acc + d) else none) 0 = some n := by
  induction n using Nat.strongRecOn with
  | ind n ih =>
    by_cases hn : n < 10
    · rw [Nat.toDigits_of_lt_base hn]
      simp [digitValue_digitChar hn, hn]
    · have hlast : n % 10 < 10 := Nat.mod_lt _ (by decide)
      rw [Nat.toDigits_of_base_le (by decide) (by omega), List.foldlM_append, ih (n / 10) (by omega)]
      simp only [Option.bind_eq_bind, Option.bind_some, List.foldlM_cons, List.foldlM_nil, digitValue_digitChar hlast,
        if_pos hlast]
      simp only [Option.pure_def, Option.some.injEq]
      omega

theorem parseRadix_toDigits (n : Nat) : parseRadix 10 (Nat.toDigits 10 n) = some n := by
  have hne : Nat.toDigits 10 n ≠ [] := Nat.toDigits_ne_nil
  unfold parseRadix
  split
  · next h => exact absurd h hne
  · exact foldlM_toDigits n

theorem mem_toDigits {n : Nat} {c : Char} (h : c ∈ Nat.toDigits 10 n) : ∃ d < 10, c = Nat.digitChar d := by
  induction n using Nat.strongRecOn with
  | ind n ih =>
    by_cases hn : n < 10
    · rw [Nat.toDigits_of_lt_base hn, List.mem_singleton] at h
      exact ⟨n, hn, h⟩
    · rw [Nat.toDigits_of_base_le (by decide) (by omega), List.mem_append, List.mem_singleton] at h
      rcases h with h | h
      · exact ih (n / 10) (by omega) h
      · exact ⟨n % 10, Nat.mod_lt _ (by decide), h⟩

theorem notMem_toDigits {n : Nat} {c : Char} (hc : c.isDigit = false) : c ∉ Nat.toDigits 10 n := by
  intro hmem
  obtain ⟨d, hd, rfl⟩ := mem_toDigits hmem
  have digit : ∀ d < 10, (Nat.digitChar d).isDigit = true := by decide
  rw [digit d hd] at hc
  cases hc

theorem repr_inj {n m : Nat} (h : Nat.repr n = Nat.repr m) : n = m := by
  have hdigits := congrArg (fun s : String => parseRadix 10 s.toList) h
  rwa [Nat.toList_repr, Nat.toList_repr, parseRadix_toDigits, parseRadix_toDigits, Option.some.injEq] at hdigits

/-- `big.Int.SetString(value, 10)`: a sign and decimal digits. -/
def setString (value : String) : Option Int :=
  match value.toList with
  | '-' :: digits => (parseRadix 10 digits).map fun n => -Int.ofNat n
  | '+' :: digits => (parseRadix 10 digits).map Int.ofNat
  | digits => (parseRadix 10 digits).map Int.ofNat

/-- A number that is not negative, written as it is printed. -/
def canonicalDecimal (value : String) : Option Nat := do
  let number ← setString value
  if 0 ≤ number ∧ toString number = value then some number.toNat else none

end Unified
