import Mathlib
import Unified.Lib.Checked

/-! An amount divided over the members of a list in proportion to their shares: every part is rounded down, and one
    member takes what the rounding leaves. -/

namespace Unified

/-! ### `Math.mulDiv` -/

section

variable {ε : Type} {zero overflow : ε} {x y denominator quotient : ℕ}

/-- The quotient of the full product. -/
def mulDiv (x y denominator : ℕ) : ℕ := x * y / denominator

/-- `Math.mulDiv` returns: there is a quotient, and it is a word. -/
def MulDivFits (x y denominator : ℕ) : Prop := denominator ≠ 0 ∧ mulDiv x y denominator < 2 ^ 256

instance : Decidable (MulDivFits x y denominator) := inferInstanceAs (Decidable (_ ∧ _))

/-- `Math.mulDiv` with its two panics. -/
def checkedMulDiv (zero overflow : ε) (x y denominator : ℕ) : Except ε ℕ := do
  require (denominator ≠ 0) zero
  require (mulDiv x y denominator < 2 ^ 256) overflow
  pure (mulDiv x y denominator)

theorem checkedMulDiv_eq_ok : checkedMulDiv zero overflow x y denominator = .ok quotient ↔
    MulDivFits x y denominator ∧ mulDiv x y denominator = quotient := by
  simp only [checkedMulDiv, block_eq_ok, MulDivFits, and_assoc]

theorem mulDiv_le (h : y ≤ denominator) : mulDiv x y denominator ≤ x :=
  Nat.div_le_of_le_mul (by rw [Nat.mul_comm denominator]; gcongr)

end

/-! ### Parts of an amount -/

variable {α : Type} {xs : List α} {share f g : α → ℕ} {amount total : ℕ} {a : α}

/-- A sum over distinct members, of which one counts differently. -/
theorem sum_map_change [DecidableEq α] (nodup : xs.Nodup) (ha : a ∈ xs) (off : ∀ x, x ≠ a → g x = f x) :
    (xs.map g).sum + f a = (xs.map f).sum + g a := by
  have rest : (xs.erase a).map g = (xs.erase a).map f := by
    refine List.map_congr_left fun x hx => off x ?_
    rintro rfl
    exact nodup.not_mem_erase hx
  rw [← List.sum_map_erase g ha, ← List.sum_map_erase f ha, rest]
  omega

theorem sum_map_same (same : ∀ x ∈ xs, g x = f x) : (xs.map g).sum = (xs.map f).sum := by
  rw [List.map_congr_left same]

def part (amount total : ℕ) (share : α → ℕ) (x : α) : ℕ := mulDiv amount (share x) total

theorem part_mul_le (x : α) : part amount total share x * total ≤ amount * share x :=
  Nat.div_mul_le_self _ _

theorem mul_le_part_succ (share : α → ℕ) (x : α) (hle : share x ≤ total) :
    amount * share x ≤ (part amount total share x + 1) * total := by
  rcases Nat.eq_zero_or_pos total with rfl | pos
  · rw [Nat.le_zero.mp hle, Nat.mul_zero]
    exact Nat.zero_le _
  · rw [Nat.mul_comm _ total]
    exact (Nat.lt_mul_div_succ _ pos).le

theorem sum_part_mul_le (xs : List α) (share : α → ℕ) (amount total : ℕ) :
    (xs.map (part amount total share)).sum * total ≤ amount * (xs.map share).sum := by
  rw [← List.sum_map_mul_right, ← List.sum_map_mul_left]
  exact List.sum_le_sum fun x _ => part_mul_le x

theorem sum_part_le (amount : ℕ) (all : (xs.map share).sum = total) : (xs.map (part amount total share)).sum ≤ amount := by
  rcases Nat.eq_zero_or_pos total with rfl | pos
  · have none : (xs.map (part amount 0 share)).sum = (xs.map fun _ => 0).sum := sum_map_same fun x _ => Nat.div_zero _
    simp [none]
  · have h := sum_part_mul_le xs share amount total
    rw [all] at h
    exact Nat.le_of_mul_le_mul_right h pos

/-- With what is left over, the parts come to exactly the amount. -/
theorem sum_part_residual [DecidableEq α] (amount : ℕ) (nodup : xs.Nodup) (all : (xs.map share).sum = total)
    (ha : a ∈ xs) :
    (xs.map fun x => part amount total share x +
      if x = a then amount - (xs.map (part amount total share)).sum else 0).sum = amount := by
  have hle := sum_part_le amount all
  have h := sum_map_change nodup (f := part amount total share) (g := fun x => part amount total share x +
    if x = a then amount - (xs.map (part amount total share)).sum else 0) ha
    fun x hx => by rw [if_neg hx, Nat.add_zero]
  rw [if_pos rfl] at h
  omega

/-- Nothing is rounded away. -/
def Exact (xs : List α) (share : α → ℕ) (amount total : ℕ) : Prop := ∀ x ∈ xs, total ∣ amount * share x

theorem Exact.sum_part (h : Exact xs share amount total) (all : (xs.map share).sum = total) (pos : 0 < total) :
    (xs.map (part amount total share)).sum = amount := by
  have even : (xs.map fun x => part amount total share x * total).sum = (xs.map fun x => amount * share x).sum :=
    sum_map_same fun x hx => Nat.div_mul_cancel (h x hx)
  rw [List.sum_map_mul_right, List.sum_map_mul_left, all] at even
  exact Nat.eq_of_mul_eq_mul_right pos even

/-- The part of one member comes out even when those of all the others do. -/
theorem exact_of_others [DecidableEq α] (nodup : xs.Nodup) (all : (xs.map share).sum = total) (ha : a ∈ xs)
    (others : ∀ x ∈ xs, x ≠ a → total ∣ amount * share x) : Exact xs share amount total := by
  intro x hx
  by_cases hxa : x = a
  · subst hxa
    have hsum : amount * share x + ((xs.erase x).map fun y => amount * share y).sum = amount * total := by
      rw [List.sum_map_erase (fun y => amount * share y) hx, List.sum_map_mul_left, all]
    have hrest : total ∣ ((xs.erase x).map fun y => amount * share y).sum := by
      refine List.dvd_sum fun n hn => ?_
      obtain ⟨y, hy, rfl⟩ := List.mem_map.mp hn
      refine others y (List.mem_of_mem_erase hy) ?_
      rintro rfl
      exact nodup.not_mem_erase hy
    exact (Nat.dvd_add_left hrest).mp (hsum ▸ Nat.dvd_mul_left total amount)
  · exact others x hx hxa

section
open Finset
variable {s : Finset α} (f : α → ℕ) {d k : ℕ} {t : ℕ → ℕ}

theorem sum_div_le (s : Finset α) (d : ℕ) : ∑ x ∈ s, f x / d ≤ (∑ x ∈ s, f x) / d := by
  rcases Nat.eq_zero_or_pos d with rfl | pos
  · simp
  · rw [Nat.le_div_iff_mul_le pos, sum_mul]
    exact sum_le_sum fun x _ => Nat.div_mul_le_self _ _

/-- Rounding every member of a sum down loses less than one unit a member. -/
theorem div_sum_lt (pos : 0 < d) (some : s.Nonempty) : (∑ x ∈ s, f x) / d < ∑ x ∈ s, f x / d + #s := by
  rw [Nat.div_lt_iff_lt_mul pos, card_eq_sum_ones, ← sum_add_distrib, sum_mul]
  refine sum_lt_sum_of_nonempty some fun x _ => ?_
  rw [Nat.mul_comm]
  exact Nat.lt_mul_div_succ _ pos

/-- The steps between instants in order come to the whole distance. -/
theorem sum_steps (mono : ∀ i < k, t i ≤ t (i + 1)) : t 0 + ∑ i ∈ range k, (t (i + 1) - t i) = t k := by
  induction k with
  | zero => rfl
  | succ k ih =>
    have hstep := mono k (Nat.lt_succ_self k)
    rw [sum_range_succ, ← Nat.add_assoc, ih fun i hi => mono i (Nat.lt_succ_of_lt hi)]
    omega

end

end Unified
