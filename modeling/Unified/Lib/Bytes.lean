import Mathlib.Data.List.Induction
import Mathlib.Tactic.Ring

/-! Byte strings: big-endian numbers of a fixed width, and strings cut into parts of one length. -/

namespace Unified

/-- The `width` low bytes of a number, the most significant one first. -/
def toBigEndian : Nat → Nat → List UInt8
  | 0, _ => []
  | width + 1, n => toBigEndian width (n / 256) ++ [UInt8.ofNat n]

def ofBigEndian (b : List UInt8) : Nat := b.foldl (fun acc x => 256 * acc + x.toNat) 0

@[simp] theorem length_toBigEndian (width n : Nat) : (toBigEndian width n).length = width := by
  induction width generalizing n with
  | zero => rfl
  | succ _ ih => rw [toBigEndian, List.length_append, ih, List.length_singleton]

theorem ofBigEndian_append_singleton (b : List UInt8) (x : UInt8) :
    ofBigEndian (b ++ [x]) = 256 * ofBigEndian b + x.toNat := by
  simp [ofBigEndian]

theorem ofBigEndian_toBigEndian (width n : Nat) : ofBigEndian (toBigEndian width n) = n % 256 ^ width := by
  induction width generalizing n with
  | zero => rw [pow_zero, Nat.mod_one]; rfl
  | succ width ih =>
    rw [toBigEndian, ofBigEndian_append_singleton, ih, UInt8.toNat_ofNat', pow_succ' 256 width, Nat.mod_mul]
    omega

theorem ofBigEndian_lt (b : List UInt8) : ofBigEndian b < 256 ^ b.length := by
  induction b using List.reverseRecOn with
  | nil => exact Nat.one_pos
  | append_singleton _ x =>
    rw [ofBigEndian_append_singleton, List.length_append, List.length_singleton, pow_succ]
    have := x.toNat_lt
    omega

theorem toBigEndian_ofBigEndian (b : List UInt8) : toBigEndian b.length (ofBigEndian b) = b := by
  induction b using List.reverseRecOn with
  | nil => rfl
  | append_singleton b x ih =>
    have hx := x.toNat_lt
    have hdiv : (256 * ofBigEndian b + x.toNat) / 256 = ofBigEndian b := by omega
    rw [List.length_append, List.length_singleton, toBigEndian, ofBigEndian_append_singleton, hdiv, ih]
    congr 2
    rw [← UInt8.toNat_inj, UInt8.toNat_ofNat']
    omega

theorem toBigEndian_inj {width n m : Nat} (hn : n < 256 ^ width) (hm : m < 256 ^ width)
    (h : toBigEndian width n = toBigEndian width m) : n = m := by
  have := congrArg ofBigEndian h
  rwa [ofBigEndian_toBigEndian, ofBigEndian_toBigEndian, Nat.mod_eq_of_lt hn, Nat.mod_eq_of_lt hm] at this

/-- A number that fits in fewer bytes is padded with zeros on the left. -/
theorem toBigEndian_pad {width n : Nat} (hn : n < 256 ^ width) (padding : Nat) :
    toBigEndian (padding + width) n = List.replicate padding 0 ++ toBigEndian width n := by
  induction width generalizing n with
  | zero =>
    obtain rfl : n = 0 := by simpa using hn
    rw [Nat.add_zero]
    induction padding with
    | zero => rfl
    | succ padding ih =>
      change toBigEndian padding 0 ++ [0] = _
      rw [ih, List.replicate_succ']
      simp [toBigEndian]
  | succ width ih =>
    have hdiv : n / 256 < 256 ^ width := by
      rw [pow_succ] at hn
      omega
    rw [← Nat.add_assoc, toBigEndian, ih hdiv, toBigEndian, List.append_assoc]

/-- Strings of parts of one length are equal part by part. -/
theorem flatten_inj {α : Type} {k : Nat} {xs ys : List (List α)} (hx : ∀ x ∈ xs, x.length = k)
    (hy : ∀ y ∈ ys, y.length = k) (hlen : xs.length = ys.length) (h : xs.flatten = ys.flatten) : xs = ys := by
  induction xs generalizing ys with
  | nil => exact (List.length_eq_zero_iff.mp hlen.symm).symm
  | cons x _ ih =>
    obtain _ | ⟨y, ys⟩ := ys
    · cases hlen
    · have heq : x.length = y.length := by rw [hx x List.mem_cons_self, hy y List.mem_cons_self]
      obtain ⟨rfl, htail⟩ := List.append_inj h heq
      rw [ih (fun z hz => hx z (List.mem_cons_of_mem _ hz)) (fun z hz => hy z (List.mem_cons_of_mem _ hz))
        (Nat.succ.inj hlen) htail]

theorem length_flatten_of_forall {α : Type} {k : Nat} {xs : List (List α)} (hx : ∀ x ∈ xs, x.length = k) :
    xs.flatten.length = k * xs.length := by
  induction xs with
  | nil => rfl
  | cons x _ ih =>
    rw [List.flatten_cons, List.length_append, hx x List.mem_cons_self,
      ih fun y hy => hx y (List.mem_cons_of_mem _ hy), List.length_cons]
    ring

/-- A hash for sample inputs: a polynomial in the bytes, cut to 32 of them. -/
def polyHash (input : List UInt8) : List UInt8 :=
  toBigEndian 32 (input.foldl (fun acc x => 65599 * acc + x.toNat + 1) 1)

end Unified
