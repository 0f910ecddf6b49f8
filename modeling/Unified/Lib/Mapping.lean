import Mathlib.Algebra.BigOperators.Group.Finset.Basic
import Mathlib.Algebra.Order.BigOperators.Group.Finset

/-! Total maps with finitely many written keys, and the sums over them. -/

namespace Unified

/-- A storage mapping: every key reads, and every key that was never written reads as the default. -/
structure Mapping (K V : Type) [Inhabited V] where
  keys : Finset K
  get : K → V
  get_of_notMem : ∀ k, k ∉ keys → get k = default

namespace Mapping

variable {K V : Type} [Inhabited V]

instance : CoeFun (Mapping K V) fun _ => K → V := ⟨Mapping.get⟩

def empty : Mapping K V := ⟨∅, fun _ => default, fun _ _ => rfl⟩

instance : Inhabited (Mapping K V) := ⟨empty⟩

@[simp] theorem empty_apply (k : K) : (empty : Mapping K V) k = default := rfl

@[simp] theorem default_apply (k : K) : (default : Mapping K V) k = default := rfl

/-- The sum of a weight over the keys of the mapping. -/
def sum (m : Mapping K V) (weight : K → V → ℕ) : ℕ := ∑ k ∈ m.keys, weight k (m k)

/-- A weight that counts nothing where nothing was written, so that its sum does not depend on
    which keys happen to be listed. -/
def Vanishes (weight : K → V → ℕ) : Prop := ∀ k, weight k default = 0

variable {weight : K → V → ℕ} {k : K} {m : Mapping K V}

theorem weight_of_notMem (hw : Vanishes weight) (hk : k ∉ m.keys) : weight k (m k) = 0 := by
  have hget : m.get k = default := m.get_of_notMem k hk
  rw [hget]
  exact hw k

/-- A sum may be taken over any larger set of keys. -/
theorem sum_eq_of_subset (hw : Vanishes weight) {keys : Finset K} (hsub : m.keys ⊆ keys) :
    m.sum weight = ∑ k ∈ keys, weight k (m k) :=
  Finset.sum_subset hsub fun _ _ hk => weight_of_notMem hw hk

theorem weight_le_sum (m : Mapping K V) (hw : Vanishes weight) (k : K) : weight k (m k) ≤ m.sum weight := by
  by_cases hk : k ∈ m.keys
  · exact Finset.single_le_sum (f := fun k => weight k (m k)) (fun _ _ => Nat.zero_le _) hk
  · rw [weight_of_notMem hw hk]
    exact Nat.zero_le _

/-! ### Writes -/

variable [DecidableEq K] {k' : K} {weight' : K → V → ℕ}

def set (m : Mapping K V) (k : K) (v : V) : Mapping K V where
  keys := insert k m.keys
  get := Function.update m.get k v
  get_of_notMem := by
    intro k' hk'
    rw [Finset.mem_insert, not_or] at hk'
    rw [Function.update_of_ne hk'.1]
    exact m.get_of_notMem k' hk'.2

theorem set_apply (m : Mapping K V) (k k' : K) (v : V) : m.set k v k' = if k' = k then v else m k' :=
  Function.update_apply _ _ _ _

@[simp] theorem set_self (m : Mapping K V) (k : K) (v : V) : m.set k v k = v := by
  rw [set_apply, if_pos rfl]

theorem set_of_ne (m : Mapping K V) (v : V) (hne : k' ≠ k) : m.set k v k' = m k' := by
  rw [set_apply, if_neg hne]

@[simp] theorem set_set (m : Mapping K V) (k : K) (v v' : V) : (m.set k v).set k v' = m.set k v' := by
  simp only [set, Finset.insert_idem, Function.update_idem]

/-- Read and write back in one step. -/
def modify (m : Mapping K V) (k : K) (f : V → V) : Mapping K V := m.set k (f (m k))

theorem modify_apply (m : Mapping K V) (k k' : K) (f : V → V) :
    m.modify k f k' = if k' = k then f (m k') else m k' := by
  rw [modify, set_apply]
  split
  · next h => rw [h]
  · rfl

@[simp] theorem modify_self (m : Mapping K V) (k : K) (f : V → V) : m.modify k f k = f (m k) := set_self ..

theorem modify_of_ne (m : Mapping K V) (f : V → V) (hne : k' ≠ k) : m.modify k f k' = m k' :=
  set_of_ne m _ hne

/-- What a change of values leaves alone. -/
theorem modify_kept {α : Type*} (g : V → α) {f : V → V} (same : ∀ v, g (f v) = g v) : g (m.modify k f k') = g (m k') := by
  rw [modify_apply]
  split
  next heq => rw [heq, same]
  next => rfl

theorem sum_congr {m' : Mapping K V} (hw : Vanishes weight) (hw' : Vanishes weight')
    (same : ∀ k, weight k (m k) = weight' k (m' k)) : m.sum weight = m'.sum weight' := by
  have hsub : m.keys ⊆ m.keys ∪ m'.keys := Finset.subset_union_left
  have hsub' : m'.keys ⊆ m.keys ∪ m'.keys := Finset.subset_union_right
  rw [sum_eq_of_subset hw hsub, sum_eq_of_subset hw' hsub']
  exact Finset.sum_congr rfl fun k _ => same k

/-- Two sums whose weights agree off one key differ by the weights at that key. -/
theorem sum_change (m m' : Mapping K V) (hw : Vanishes weight) (hw' : Vanishes weight') (k : K)
    (off : ∀ k', k' ≠ k → weight k' (m k') = weight' k' (m' k')) :
    m.sum weight + weight' k (m' k) = m'.sum weight' + weight k (m k) := by
  have hsub : m.keys ⊆ insert k (m.keys ∪ m'.keys) :=
    Finset.subset_union_left.trans (Finset.subset_insert _ _)
  have hsub' : m'.keys ⊆ insert k (m.keys ∪ m'.keys) :=
    Finset.subset_union_right.trans (Finset.subset_insert _ _)
  have hmem : k ∈ insert k (m.keys ∪ m'.keys) := Finset.mem_insert_self _ _
  have rest : ∑ k' ∈ (insert k (m.keys ∪ m'.keys)).erase k, weight k' (m k') =
      ∑ k' ∈ (insert k (m.keys ∪ m'.keys)).erase k, weight' k' (m' k') :=
    Finset.sum_congr rfl fun k' hk' => off k' (Finset.ne_of_mem_erase hk')
  rw [sum_eq_of_subset hw hsub, sum_eq_of_subset hw' hsub', ← Finset.add_sum_erase _ _ hmem,
    ← Finset.add_sum_erase _ (fun k' => weight' k' (m' k')) hmem, rest]
  omega

/-- Writing one key moves a sum by the weights of the old and the new value. -/
theorem sum_set (m : Mapping K V) (hw : Vanishes weight) (k : K) (v : V) :
    (m.set k v).sum weight + weight k (m k) = m.sum weight + weight k v := by
  have h := sum_change (m.set k v) m hw hw k fun k' hne => by rw [set_of_ne m v hne]
  rwa [set_self] at h

/-- Writing a value of the same weight leaves a sum as it is. -/
theorem sum_set_same (m : Mapping K V) (hw : Vanishes weight) {v : V} (same : weight k v = weight k (m k)) :
    (m.set k v).sum weight = m.sum weight := by
  have h := m.sum_set hw k v
  omega

/-! ### Counters -/

theorem modify_add_apply (m : Mapping K ℕ) (k k' : K) (n : ℕ) :
    m.modify k (· + n) k' = m k' + if k = k' then n else 0 := by
  rw [modify_apply]
  by_cases h : k' = k
  · rw [if_pos h, if_pos h.symm]
  · rw [if_neg h, if_neg (Ne.symm h), Nat.add_zero]

theorem modify_sub_apply (m : Mapping K ℕ) (k' : K) {n : ℕ} (hn : n ≤ m k) :
    m.modify k (· - n) k' + (if k = k' then n else 0) = m k' := by
  rw [modify_apply]
  by_cases h : k' = k
  · subst h
    rw [if_pos rfl, if_pos rfl]
    omega
  · rw [if_neg h, if_neg (Ne.symm h), Nat.add_zero]

/-- The part of some counters that belongs to the keys in `p`. -/
def totalOver (p : K → Prop) [DecidablePred p] (m : Mapping K ℕ) : ℕ := m.sum fun k n => if p k then n else 0

section

variable {p : K → Prop} [DecidablePred p] {m : Mapping K ℕ} {k : K} {n : ℕ}

omit [DecidableEq K] in
theorem totalOver_vanishes (p : K → Prop) [DecidablePred p] : Vanishes fun k n => if p k then n else 0 := fun k => by
  change (if p k then 0 else 0) = 0
  rw [ite_self]

theorem totalOver_add : (m.modify k (· + n)).totalOver p = m.totalOver p + if p k then n else 0 := by
  have h := m.sum_set (totalOver_vanishes p) k (m k + n)
  unfold totalOver modify
  by_cases hk : p k
  · simp only [if_pos hk] at h ⊢
    omega
  · simp only [if_neg hk] at h ⊢
    omega

theorem totalOver_sub (hn : n ≤ m k) : (m.modify k (· - n)).totalOver p + (if p k then n else 0) = m.totalOver p := by
  have h := m.sum_set (totalOver_vanishes p) k (m k - n)
  unfold totalOver modify
  by_cases hk : p k
  · simp only [if_pos hk] at h ⊢
    omega
  · simp only [if_neg hk] at h ⊢
    omega

omit [DecidableEq K] in
theorem le_totalOver (hk : p k) : m k ≤ m.totalOver p := by
  have h := m.weight_le_sum (totalOver_vanishes p) k
  rwa [if_pos hk] at h

omit [DecidableEq K] in
theorem totalOver_true : m.totalOver (fun _ => True) = m.sum fun _ n => n := by simp [totalOver]

end

/-- Counters `c` of the groups that `g` puts the keys of `m` in. -/
structure Grouped {G : Type} [DecidableEq G] (g : K → G) (m : Mapping K ℕ) (c : Mapping G ℕ) : Prop where
  group : ∀ x, c x = m.totalOver fun k => g k = x
  total : c.totalOver (fun _ => True) = m.totalOver fun _ => True

namespace Grouped

variable {G : Type} [DecidableEq G] {g : K → G} {m : Mapping K ℕ} {c : Mapping G ℕ} {k : K} {n : ℕ}

omit [DecidableEq K] in
theorem le (h : Grouped g m c) (k : K) : m k ≤ c (g k) := by
  rw [h.group]
  exact le_totalOver rfl

theorem add (h : Grouped g m c) : Grouped g (m.modify k (· + n)) (c.modify (g k) (· + n)) where
  group x := by rw [totalOver_add, modify_add_apply, h.group]
  total := by rw [totalOver_add, totalOver_add, h.total]

theorem sub (h : Grouped g m c) (hn : n ≤ m k) : Grouped g (m.modify k (· - n)) (c.modify (g k) (· - n)) where
  group x := by
    have hs := totalOver_sub (p := fun k => g k = x) hn
    have hs' := c.modify_sub_apply x (hn.trans (h.le k))
    rw [h.group] at hs'
    omega
  total := by
    have hs := totalOver_sub (p := fun _ => True) hn
    have hs' := totalOver_sub (p := fun _ => True) (hn.trans (h.le k))
    rw [h.total] at hs'
    rw [if_pos trivial] at hs hs'
    omega

end Grouped

end Mapping

end Unified
