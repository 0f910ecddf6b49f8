import Mathlib.Tactic.Ring
import Unified.Lib.ProRata
import Unified.Syndicate.PositionManager

/-! What the position manager's books keep: the shares of a tranche are those of its positions, the claims of its
    positions come to its outstanding principal, and amounts that are distributed stay with the contract until they
    are withdrawn. -/

namespace Unified.Syndicate

open Mapping

variable {W : Type} [Evm W]

/-! ### Positions and their tranches -/

/-- Every position is listed once, in its tranche, and the positions of each tranche have `total` shares. -/
structure Holdings (positions : Mapping W (Position W)) (listed : Mapping W (List W)) (total : W → Nat) : Prop where
  named : ∀ id, (positions id).status ≠ .none → (positions id).positionId = id
  mem_iff : ∀ t id, id ∈ listed t ↔ (positions id).status ≠ .none ∧ (positions id).trancheId = t
  nodup : ∀ t, (listed t).Nodup
  blank : ∀ id, (positions id).status = .none → (positions id).shares = 0
  shares : ∀ t, ((listed t).map fun id => (positions id).shares).sum = total t

/-- The shares that one position has in a tranche. -/
def sharesIn (p : Position W) (t : W) : Nat := if t = p.trancheId then p.shares else 0

namespace Holdings

variable {positions : Mapping W (Position W)} {listed : Mapping W (List W)} {total total' : W → Nat} {id t : W}
  {p : Position W}

theorem congr (h : Holdings positions listed total) (same : ∀ t, total' t = total t) : Holdings positions listed total' :=
  { h with shares := fun t => (h.shares t).trans (same t).symm }

theorem empty : Holdings (W := W) .empty .empty fun _ => 0 where
  named _ hs := (hs rfl).elim
  mem_iff _ _ := ⟨fun hm => (List.not_mem_nil hm).elim, fun hm => (hm.1 rfl).elim⟩
  nodup _ := List.nodup_nil
  blank _ _ := rfl
  shares _ := rfl

theorem mem_of_shares (h : Holdings positions listed total) (hs : (positions id).shares ≠ 0) :
    id ∈ listed (positions id).trancheId := (h.mem_iff _ _).mpr ⟨fun hn => hs (h.blank id hn), rfl⟩

theorem shares_le (h : Holdings positions listed total) (id : W) :
    (positions id).shares ≤ total (positions id).trancheId := by
  by_cases hs : (positions id).shares = 0
  · rw [hs]
    exact Nat.zero_le _
  · rw [← h.shares]
    exact List.le_sum_of_mem (List.mem_map_of_mem (h.mem_of_shares hs))

theorem of_same {positions' : Mapping W (Position W)} (h : Holdings positions listed total)
    (same : ∀ id, (positions' id).positionId = (positions id).positionId ∧
      (positions' id).trancheId = (positions id).trancheId ∧ (positions' id).shares = (positions id).shares ∧
      ((positions' id).status = .none ↔ (positions id).status = .none)) : Holdings positions' listed total where
  named id hs := by
    rw [(same id).1]
    exact h.named id fun hn => hs ((same id).2.2.2.mpr hn)
  mem_iff t id := by rw [h.mem_iff, (same id).2.1, Ne, Ne, (same id).2.2.2]
  nodup := h.nodup
  blank id hs := by
    rw [(same id).2.2.1]
    exact h.blank id ((same id).2.2.2.mp hs)
  shares t := by
    rw [← h.shares t]
    exact sum_map_same fun id _ => (same id).2.2.1

theorem set (h : Holdings positions listed total) (known : (positions id).status ≠ .none) (hid : p.positionId = id)
    (htranche : p.trancheId = (positions id).trancheId) (hstatus : p.status ≠ .none)
    (htotal : ∀ t, total' t + sharesIn (positions id) t = total t + sharesIn p t) :
    Holdings (positions.set id p) listed total' where
  named id' hs := by
    by_cases hne : id' = id
    · rw [hne, set_self, hid]
    · rw [set_of_ne _ _ hne] at hs ⊢
      exact h.named id' hs
  mem_iff t id' := by
    by_cases hne : id' = id
    · rw [h.mem_iff, hne, set_self, htranche]
      exact and_congr_left fun _ => ⟨fun _ => hstatus, fun _ => known⟩
    · rw [h.mem_iff, set_of_ne _ _ hne]
  nodup := h.nodup
  blank id' hs := by
    by_cases hne : id' = id
    · rw [hne, set_self] at hs
      exact (hstatus hs).elim
    · rw [set_of_ne _ _ hne] at hs ⊢
      exact h.blank id' hs
  shares t := by
    have htot := htotal t
    unfold sharesIn at htot
    rw [htranche] at htot
    by_cases ht : t = (positions id).trancheId
    · rw [if_pos ht, if_pos ht] at htot
      have hmem : id ∈ listed t := (h.mem_iff t id).mpr ⟨known, ht.symm⟩
      have hsum := sum_map_change (h.nodup t) (f := fun x => (positions x).shares)
        (g := fun x => (positions.set id p x).shares) hmem fun x hx => by rw [set_of_ne _ _ hx]
      rw [h.shares t, set_self] at hsum
      omega
    · rw [if_neg ht, if_neg ht, Nat.add_zero, Nat.add_zero] at htot
      rw [htot, ← h.shares t]
      refine sum_map_same fun x hx => ?_
      have hne : x ≠ id := by
        rintro rfl
        exact ht ((h.mem_iff t x).mp hx).2.symm
      rw [set_of_ne _ _ hne]

/-- A position is written under a new id and listed last. -/
theorem add (h : Holdings positions listed total) (fresh : (positions id).status = .none) (hid : p.positionId = id)
    (hstatus : p.status ≠ .none) (htotal : ∀ t, total' t = total t + sharesIn p t) :
    Holdings (positions.set id p) (listed.modify p.trancheId (· ++ [id])) total' where
  named id' hs := by
    by_cases hne : id' = id
    · rw [hne, set_self, hid]
    · rw [set_of_ne _ _ hne] at hs ⊢
      exact h.named id' hs
  mem_iff t id' := by
    have hmem := h.mem_iff t id'
    rw [modify_apply]
    by_cases hne : id' = id
    · rw [hne, set_self]
      rw [hne, fresh] at hmem
      by_cases ht : t = p.trancheId
      · simp [ht, hstatus]
      · simp [ht, hmem, hstatus, Ne.symm ht]
    · rw [set_of_ne _ _ hne, ← hmem]
      split
      · simp [hne]
      · rfl
  nodup t := by
    rw [modify_apply]
    split
    · refine List.nodup_append.mpr ⟨h.nodup t, List.nodup_singleton id, ?_⟩
      rintro x hx y hy rfl
      rw [List.mem_singleton.mp hy] at hx
      exact ((h.mem_iff t id).mp hx).1 fresh
    · exact h.nodup t
  blank id' hs := by
    by_cases hne : id' = id
    · rw [hne, set_self] at hs
      exact (hstatus hs).elim
    · rw [set_of_ne _ _ hne] at hs ⊢
      exact h.blank id' hs
  shares t := by
    have old : ((listed t).map fun x => (positions.set id p x).shares).sum = total t := by
      rw [← h.shares t]
      refine sum_map_same fun x hx => ?_
      have hne : x ≠ id := by
        rintro rfl
        exact ((h.mem_iff t x).mp hx).1 fresh
      rw [set_of_ne _ _ hne]
    rw [htotal t, modify_apply]
    unfold sharesIn
    by_cases ht : t = p.trancheId
    · rw [if_pos ht, if_pos ht, List.map_append, List.sum_append, old]
      simp
    · rw [if_neg ht, if_neg ht, old, Nat.add_zero]

end Holdings

namespace PositionManager

/-- A tranche that is still owed something has a position for what rounding leaves over. -/
def Anchored (positions : Mapping W (Position W)) (tranches : Mapping W (Tranche W)) : Prop :=
  ∀ t, (tranches t).outstandingPrincipal ≠ 0 → (positions (tranches t).residualPositionId).shares ≠ 0 ∧
    (positions (tranches t).residualPositionId).trancheId = t

/-- While no position is cancelled, a funded tranche has such a position from the start. -/
def Seeded (m : PositionManager W) : Prop :=
  ∀ t, ((m.tranches t).residualPositionId ≠ 0 → (m.positions (m.tranches t).residualPositionId).shares ≠ 0 ∧
      (m.positions (m.tranches t).residualPositionId).trancheId = t) ∧
    ((m.tranches t).fundedPrincipal ≠ 0 → (m.tranches t).residualPositionId ≠ 0)

def outstandingOf (m : PositionManager W) : Nat := (m.trancheIds.map fun t => (m.tranches t).outstandingPrincipal).sum

def fundedOf (m : PositionManager W) : Nat := (m.trancheIds.map fun t => (m.tranches t).fundedPrincipal).sum

/-- The books while the loan is being funded. -/
structure Forming (m : PositionManager W) : Prop where
  unopened : ∀ t, (m.tranches t).outstandingPrincipal = 0
  pending : ∀ id, (m.positions id).status = .none ∨ (m.positions id).status = .pending ∨
    (m.positions id).status = .cancelled
  registered : ∀ id ∈ m.positionIds, (m.positions id).status ≠ .none
  placed : ∀ id, (m.positions id).status ≠ .none → (m.positions id).trancheId ∈ m.trancheIds
  level : ∀ t, (m.tranches t).fundedPrincipal = (m.tranches t).totalShares
  issued : m.fundedOf = m.totalIssuedShares

structure Sound (m : PositionManager W) : Prop where
  holdings : Holdings m.positions m.positionsByTranche fun t => (m.tranches t).totalShares
  anchored : Anchored m.positions m.tranches
  configured : ∀ t, t ∈ m.trancheIds ↔ (m.tranches t).configuration.trancheId ≠ 0
  distinct : m.trancheIds.Nodup
  forming : m.fundingActivated = false → m.Forming
  outstanding : m.outstandingOf = m.totalOutstandingPrincipal

/-- What the contract holds for the owners. -/
def held (m : PositionManager W) : Nat :=
  m.accruedDistribution.sum (fun _ n => n) + m.withdrawable.sum fun _ n => n

theorem counter_vanishes {K : Type} : Vanishes fun (_ : K) (n : Nat) => n := fun _ => rfl

theorem sum_credits {K α : Type} [DecidableEq K] (xs : List α) (key : α → K) (credit : α → Nat) (m : Mapping K Nat) :
    (xs.foldl (fun m x => m.modify (key x) (· + credit x)) m).sum (fun _ n => n) =
      m.sum (fun _ n => n) + (xs.map credit).sum := by
  induction xs generalizing m with
  | nil => rfl
  | cons x _ ih =>
    have h := m.sum_set counter_vanishes (key x) (m (key x) + credit x)
    rw [List.foldl_cons, ih, List.map_cons, List.sum_cons, Mapping.modify]
    omega

/-- Distinct members with keys of their own are each credited once. -/
theorem credits_apply {K : Type} [DecidableEq K] {xs : List K} (nodup : xs.Nodup) {key : K → K} (hkey : ∀ x ∈ xs, key x = x)
    (credit : K → Nat) (m : Mapping K Nat) (k : K) :
    xs.foldl (fun m x => m.modify (key x) (· + credit x)) m k = m k + if k ∈ xs then credit k else 0 := by
  induction xs generalizing m with
  | nil => rfl
  | cons x _ ih =>
    obtain ⟨hx, nodup⟩ := List.nodup_cons.mp nodup
    rw [List.foldl_cons, ih nodup fun y hy => hkey y (List.mem_cons_of_mem _ hy), hkey x List.mem_cons_self,
      modify_add_apply]
    by_cases hk : x = k
    · subst hk
      simp [hx]
    · simp [hk, Ne.symm hk]

/-! ### Claims and parts -/

variable {m m' : PositionManager W} {t id : W} {amount : Nat} {p : Position W}

/-- What a position gets of an amount for its tranche, with what the rounding leaves to it. -/
def entitlement (m : PositionManager W) (t : W) (amount : Nat) (id : W) : Nat :=
  m.allocation t amount id + if id = (m.tranches t).residualPositionId then amount - m.allocated t amount else 0

theorem allocation_eq (m : PositionManager W) (t : W) (amount : Nat) :
    m.allocation t amount = part amount (m.tranches t).totalShares fun id => (m.positions id).shares := by
  funext id
  unfold allocation part
  split
  · next h =>
    dsimp only
    rw [h, mulDiv, Nat.mul_zero, Nat.zero_div]
  · rfl

theorem Sound.allocated_le (h : m.Sound) (t : W) (amount : Nat) : m.allocated t amount ≤ amount := by
  rw [allocated, allocation_eq]
  exact sum_part_le amount (h.holdings.shares t)

/-- An amount for a tranche that has a residual position is given out to the last unit. -/
theorem Sound.sum_entitlement (h : m.Sound) (howed : (m.tranches t).outstandingPrincipal ≠ 0) (amount : Nat) :
    ((m.positionsByTranche t).map (m.entitlement t amount)).sum = amount := by
  obtain ⟨hshares, htranche⟩ := h.anchored t howed
  have hmem := h.holdings.mem_of_shares hshares
  rw [htranche] at hmem
  have hsum := sum_part_residual amount (h.holdings.nodup t) (h.holdings.shares t) hmem
  rw [← allocation_eq] at hsum
  exact hsum

theorem Sound.claimUnits_eq (h : m.Sound) (howed : (m.tranches t).outstandingPrincipal ≠ 0)
    (hmem : id ∈ m.positionsByTranche t) :
    m.claimUnits (m.positions id) = m.entitlement t (m.tranches t).outstandingPrincipal id := by
  obtain ⟨hstatus, htranche⟩ := (h.holdings.mem_iff t id).mp hmem
  have hle := h.allocated_le t (m.tranches t).outstandingPrincipal
  simp only [claimUnits, htranche, howed, or_false, h.holdings.named id hstatus, entitlement, allocation]
  by_cases hs : (m.positions id).shares = 0
  · rw [if_pos hs, if_pos hs]
    have hne : id ≠ (m.tranches t).residualPositionId := by
      rintro rfl
      exact (h.anchored t howed).1 hs
    rw [if_neg hne]
  · rw [if_neg hs, if_neg hs]
    by_cases hres : id = (m.tranches t).residualPositionId
    · rw [if_neg (not_not.mpr hres), if_pos hres]
      omega
    · rw [if_pos hres, if_neg hres, Nat.add_zero]

/-- No claim on a tranche that is owed less than half of the range of a word overflows. -/
theorem Sound.claimFits (h : m.Sound) (hbound : (m.tranches t).outstandingPrincipal < 2 ^ 255)
    (hmem : id ∈ m.positionsByTranche t) : m.ClaimFits (m.positions id) := by
  obtain ⟨-, htranche⟩ := (h.holdings.mem_iff t id).mp hmem
  have fits (id' : W) (hid : id' ∈ m.positionsByTranche t) (hshares : (m.positions id').shares ≠ 0) :
      MulDivFits (m.tranches t).outstandingPrincipal (m.positions id').shares (m.tranches t).totalShares ∧
        mulDiv (m.tranches t).outstandingPrincipal (m.positions id').shares (m.tranches t).totalShares ≤
          (m.tranches t).outstandingPrincipal := by
    have hle := h.holdings.shares_le id'
    rw [((h.holdings.mem_iff t id').mp hid).2] at hle
    have hquotient := mulDiv_le (x := (m.tranches t).outstandingPrincipal) hle
    exact ⟨⟨by omega, by omega⟩, hquotient⟩
  have hallocated := h.allocated_le t (m.tranches t).outstandingPrincipal
  intro hshares _
  rw [htranche]
  obtain ⟨hfits, hle⟩ := fits id hmem hshares
  exact ⟨hfits, fun _ => ⟨fun id' hid hs => (fits id' hid hs).1, by omega, by omega, by omega⟩⟩

/-- The claims of the positions of a tranche come to what it is owed. -/
theorem Sound.sum_claimUnits (h : m.Sound) (t : W) :
    ((m.positionsByTranche t).map fun id => m.claimUnits (m.positions id)).sum = (m.tranches t).outstandingPrincipal := by
  by_cases howed : (m.tranches t).outstandingPrincipal = 0
  · have none : ((m.positionsByTranche t).map fun id => m.claimUnits (m.positions id)).sum =
        ((m.positionsByTranche t).map fun _ => 0).sum := by
      refine sum_map_same fun id hmem => ?_
      obtain ⟨-, htranche⟩ := (h.holdings.mem_iff t id).mp hmem
      simp only [claimUnits, htranche, howed, or_true, if_true]
    simp [none, howed]
  · rw [← h.sum_entitlement howed (m.tranches t).outstandingPrincipal]
    exact sum_map_same fun id hmem => h.claimUnits_eq howed hmem

end PositionManager

end Unified.Syndicate
