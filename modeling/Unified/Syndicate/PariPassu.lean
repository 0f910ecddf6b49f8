import Unified.Syndicate.Solvency

/-! How the principal of a syndicated loan reaches the positions of a tranche. Every payment is rounded down for each
    position, and one position takes what the rounding leaves, so a position is short of its part by less than one unit
    a payment, and all have exactly their parts when no payment is rounded. -/

namespace Unified.Syndicate

open PositionManager

variable {W : Type} [Evm W] {m m' u u' : PositionManager W} {t id : W}

/-! ### One payment -/

/-- Part of what the tranches are owed is credited to their positions. -/
structure Spread (m m' : PositionManager W) : Prop where
  positions : m'.positions = m.positions
  listed : m'.positionsByTranche = m.positionsByTranche
  trancheIds : m'.trancheIds = m.trancheIds
  tranches : ∀ t, m'.tranches t = { m.tranches t with outstandingPrincipal := (m'.tranches t).outstandingPrincipal }
  le : ∀ t, (m'.tranches t).outstandingPrincipal ≤ (m.tranches t).outstandingPrincipal
  accrued : ∀ id, m'.accruedDistribution id = m.accruedDistribution id +
    if (m.positions id).status = .none then 0
    else m.entitlement (m.positions id).trancheId ((m.tranches (m.positions id).trancheId).outstandingPrincipal -
      (m'.tranches (m.positions id).trancheId).outstandingPrincipal) id

namespace PositionManager

variable {m m' : PositionManager W} {t id : W} {amount : Nat}

theorem entitlement_zero (m : PositionManager W) (t id : W) : m.entitlement t 0 id = 0 := by
  simp [entitlement, allocation, mulDiv]

end PositionManager

theorem Spread.refl (m : PositionManager W) : Spread m m :=
  ⟨rfl, rfl, rfl, fun _ => rfl, fun _ => le_refl _, fun id => by
    rw [Nat.sub_self, entitlement_zero, ite_self, Nat.add_zero]⟩

theorem Spread.entitlement (h : Spread m m') (t : W) (amount : Nat) :
    m'.entitlement t amount = m.entitlement t amount := by
  have hsame (f : Tranche W → W) (hf : ∀ (tr : Tranche W) n, f { tr with outstandingPrincipal := n } = f tr) :
      f (m'.tranches t) = f (m.tranches t) := by rw [h.tranches t, hf]
  have hshares : (m'.tranches t).totalShares = (m.tranches t).totalShares := by rw [h.tranches t]
  have halloc : m'.allocation t amount = m.allocation t amount := by
    funext id
    rw [allocation, allocation, h.positions, hshares]
  funext id
  rw [PositionManager.entitlement, PositionManager.entitlement, allocated, allocated, halloc, h.listed,
    hsame (·.residualPositionId) fun _ _ => rfl]

/-- A further tranche, which was not credited before, is credited. -/
theorem Spread.distributed {m'' : PositionManager W} {amount : Nat} (h : Spread m m')
    (hholds : Holdings m'.positions m'.positionsByTranche fun t => (m'.tranches t).totalShares)
    (fresh : (m'.tranches t).outstandingPrincipal = (m.tranches t).outstandingPrincipal)
    (hdist : Distributed m' m'' t amount) : Spread m m'' := by
  have howed := hdist.owed.2
  obtain ⟨accrued, rfl, happly⟩ := hdist.eq
  refine ⟨h.positions, h.listed, h.trancheIds, fun t' => ?_, fun t' => ?_, fun id => ?_⟩
  · dsimp only
    rw [Mapping.set_apply]
    split
    · next ht =>
      subst ht
      rw [h.tranches t']
    · exact h.tranches t'
  · dsimp only
    rw [Mapping.set_apply]
    split
    · next ht =>
      subst ht
      exact (Nat.sub_le _ _).trans (h.le t')
    · exact h.le t'
  · have hmem := hholds.mem_iff t id
    dsimp only
    rw [happly id, h.accrued id, h.entitlement]
    rw [h.positions] at hmem
    by_cases hnone : (m.positions id).status = .none
    · have hout : id ∉ m'.positionsByTranche t := fun hin => (hmem.mp hin).1 hnone
      rw [if_pos hnone, if_pos hnone, if_neg hout]
    · rw [if_neg hnone, if_neg hnone, Mapping.set_apply]
      by_cases ht : (m.positions id).trancheId = t
      · have hin : id ∈ m'.positionsByTranche t := hmem.mpr ⟨hnone, ht⟩
        rw [ht, if_pos rfl, if_pos hin, fresh, Nat.sub_self, entitlement_zero, Nat.add_zero]
        dsimp only
        rw [← fresh, Nat.sub_sub_self howed]
      · have hout : id ∉ m'.positionsByTranche t := fun hin => ht (hmem.mp hin).2
        rw [if_neg ht, if_neg hout, Nat.add_zero]

/-- What a payment credits to a position. -/
def increment (u u' : PositionManager W) (id : W) : Nat := u'.accruedDistribution id - u.accruedDistribution id

theorem Spread.increment_eq (hs : Spread u u') (hsound : u.Sound) (hmem : id ∈ u.positionsByTranche t) :
    increment u u' id = u.entitlement t ((u.tranches t).outstandingPrincipal - (u'.tranches t).outstandingPrincipal) id := by
  obtain ⟨known, htranche⟩ := (hsound.holdings.mem_iff t id).mp hmem
  rw [increment, hs.accrued id, if_neg known, htranche, Nat.add_sub_cancel_left]

/-- What `_distribute` gives a tranche of a payment: the tranches come in their order, each gets at most what it is owed.
    -/
def due (m : PositionManager W) : List W → Nat → W → Nat
  | [], _, _ => 0
  | first :: ids, amount, t =>
    if t = first then min amount (m.tranches first).outstandingPrincipal
    else due m ids (amount - min amount (m.tranches first).outstandingPrincipal) t

theorem due_of_not_mem {ids : List W} (hout : t ∉ ids) (amount : Nat) : due m ids amount t = 0 := by
  induction ids generalizing amount with
  | nil => rfl
  | cons first ids ih =>
    obtain ⟨hne, hout⟩ := List.ne_and_not_mem_of_not_mem_cons hout
    rw [due, if_neg hne, ih hout]

theorem due_le (m : PositionManager W) (ids : List W) (amount : Nat) (t : W) :
    due m ids amount t ≤ (m.tranches t).outstandingPrincipal := by
  induction ids generalizing amount with
  | nil => exact Nat.zero_le _
  | cons first ids ih =>
    rw [due]
    split
    · next ht => exact ht ▸ Nat.min_le_right _ _
    · exact ih _

theorem Spread.increment_zero (hs : Spread u u') (hsound : u.Sound) (hmem : id ∈ u.positionsByTranche t)
    (hnone : (u.tranches t).outstandingPrincipal = 0) : increment u u' id = 0 := by
  rw [hs.increment_eq hsound hmem, hnone, Nat.zero_sub, entitlement_zero]

namespace SyndicateVault

variable {s s' : SyndicateVault W} {context : Context} {amount : Nat} {journalRef : W}

/-- The loop over the tranches credits each of them at most once. -/
theorem foldlM_distributeTo {u : SyndicateVault W} {ids : List W} (distinct : ids.Nodup) {rest rest' : SyndicateVault W × Nat}
    (hfold : ids.foldlM distributeTo rest = .ok rest') (hsound : rest.1.positions.Sound)
    (hspread : Spread u.positions rest.1.positions) (fresh : ∀ t ∈ ids,
      (rest.1.positions.tranches t).outstandingPrincipal = (u.positions.tranches t).outstandingPrincipal) :
    Spread u.positions rest'.1.positions ∧ ∀ t, (rest'.1.positions.tranches t).outstandingPrincipal =
      (rest.1.positions.tranches t).outstandingPrincipal - due u.positions ids rest.2 t := by
  induction ids generalizing rest with
  | nil =>
    rw [List.foldlM_nil, pure_eq_ok] at hfold
    exact hfold ▸ ⟨hspread, fun _ => rfl⟩
  | cons t ids ih =>
    obtain ⟨hnew, distinct⟩ := List.nodup_cons.mp distinct
    rw [List.foldlM_cons, bind_eq_ok] at hfold
    obtain ⟨mid, hstep, hfold⟩ := hfold
    simp only [distributeTo, bind_eq_ok, tranche_eq_ok] at hstep
    obtain ⟨_, ⟨-, rfl⟩, hstep⟩ := hstep
    split at hstep
    · -- nothing is left, or the tranche is owed nothing: it is skipped
      rw [pure_eq_ok] at hstep
      subst hstep
      have hnone := ‹min _ _ = 0›
      obtain ⟨hlater, howed⟩ := ih distinct hfold hsound hspread fun t' ht' => fresh t' (List.mem_cons_of_mem _ ht')
      refine ⟨hlater, fun t' => ?_⟩
      rw [howed t', due, ← fresh t List.mem_cons_self, hnone, Nat.sub_zero]
      split
      · next ht => rw [ht, due_of_not_mem hnew]
      · rfl
    · simp only [SyndicateVault.recordDistribution, block_eq_ok] at hstep
      obtain ⟨_, ⟨_, -, -, positions, hrec, rfl⟩, rfl⟩ := hstep
      have hdist := hsound.recordDistribution hrec
      obtain ⟨_, heq, -⟩ := hdist.eq
      obtain ⟨hlater, howed⟩ := ih distinct hfold hdist.sound
        (hspread.distributed hsound.holdings (fresh t List.mem_cons_self) hdist) fun t' ht' => by
          rw [← fresh t' (List.mem_cons_of_mem _ ht'), heq]
          dsimp only
          rw [Mapping.set_of_ne]
          rintro rfl
          exact hnew ht'
      refine ⟨hlater, fun t' => ?_⟩
      rw [howed t', due, ← fresh t List.mem_cons_self, heq]
      dsimp only
      rw [Mapping.set_apply]
      split
      · next ht => rw [ht, due_of_not_mem hnew, Nat.sub_zero]
      · rfl

theorem distribute_spread (h : s.positions.Sound) (hcall : s.distribute amount = .ok s') :
    Spread s.positions s'.positions ∧ ∀ t, (s.positions.tranches t).outstandingPrincipal -
      (s'.positions.tranches t).outstandingPrincipal = due s.positions s.positions.trancheIds amount t := by
  simp only [distribute, block_eq_ok, Prod.exists] at hcall
  obtain ⟨s1, remaining, hfold, -, rfl⟩ := hcall
  obtain ⟨hspread, howed⟩ := foldlM_distributeTo h.distinct hfold h (.refl _) fun _ _ => rfl
  exact ⟨hspread, fun t => by rw [howed t, Nat.sub_sub_self (due_le _ _ _ t)]⟩

theorem Inv.repay_spread (h : Inv s) {paymentId : W} (hcall : s.repay context paymentId amount journalRef = .ok s') :
    Spread s.positions s'.positions ∧ ∀ t, (s.positions.tranches t).outstandingPrincipal -
      (s'.positions.tranches t).outstandingPrincipal = due s.positions s.positions.trancheIds amount t := by
  simp only [SyndicateVault.repay, block_eq_ok, pullExact] at hcall
  obtain ⟨-, -, _, ⟨_, -, -, rfl⟩, _, hdist, hcall⟩ := hcall
  have hspread := distribute_spread (by exact h.sound) hdist
  split at hcall
  · simp only [block_eq_ok] at hcall
    obtain ⟨-, rfl⟩ := hcall
    exact hspread
  · rw [pure_eq_ok] at hcall
    exact hcall ▸ hspread

/-- Positions are not transferred, split or merged. -/
def Plain : Call W → Prop
  | .transferPosition .. => False
  | .splitPosition .. => False
  | .mergePositions .. => False
  | _ => True

/-- What a call distributes to a position. -/
def distributedTo (id : W) (call : Context × Call W) (s s' : SyndicateVault W) : Nat :=
  match call.2 with
  | .repay .. => s'.positions.accruedDistribution id - s.positions.accruedDistribution id
  | _ => 0

/-- A call counts as a payment. -/
def payment (call : Context × Call W) (_ _ : SyndicateVault W) : Nat :=
  match call.2 with
  | .repay .. => 1
  | _ => 0

/-- What each tranche is paid comes out even for all of its positions. -/
def ExactPayment (m : PositionManager W) (paid : W → Nat) : Prop :=
  ∀ t ∈ m.trancheIds, Exact (m.positionsByTranche t) (fun id => (m.positions id).shares) (paid t) (m.tranches t).totalShares

/-- A call rounds nothing. -/
def ExactCall (s : SyndicateVault W) : Call W → Prop
  | .repay _ amount _ => ExactPayment s.positions (due s.positions s.positions.trancheIds amount)
  | _ => True

/-- All payments of a run come out even. -/
def ExactRun : SyndicateVault W → List (Context × Call W) → Prop
  | _, [] => True
  | s, call :: calls => ((∃ s', exec call s = .ok s') → ExactCall s call.2) ∧ ExactRun (Unified.commit exec s call) calls

section

variable {m : PositionManager W} {t id : W}

theorem entitlement_le (m : PositionManager W) (amount : Nat) (hne : id ≠ (m.tranches t).residualPositionId) :
    m.entitlement t amount id * (m.tranches t).totalShares ≤ amount * (m.positions id).shares := by
  rw [entitlement, if_neg hne, Nat.add_zero, allocation_eq]
  exact part_mul_le id

/-- The rounding costs a position less than one unit. -/
theorem le_entitlement (h : m.Sound) (amount : Nat) (hmem : id ∈ m.positionsByTranche t) :
    amount * (m.positions id).shares ≤ (m.entitlement t amount id + 1) * (m.tranches t).totalShares := by
  have hle := h.holdings.shares_le id
  obtain ⟨-, htranche⟩ := (h.holdings.mem_iff t id).mp hmem
  rw [htranche] at hle
  refine (mul_le_part_succ (fun id => (m.positions id).shares) id hle).trans (Nat.mul_le_mul_right _ ?_)
  rw [entitlement, allocation_eq]
  omega

/-- A payment that comes out even gives every position its part. -/
theorem entitlement_even (h : m.Sound) (hmem : id ∈ m.positionsByTranche t)
    (heven : Exact (m.positionsByTranche t) (fun id => (m.positions id).shares) amount (m.tranches t).totalShares) :
    m.entitlement t amount id * (m.tranches t).totalShares = amount * (m.positions id).shares := by
  rcases Nat.eq_zero_or_pos (m.tranches t).totalShares with hzero | hpos
  · have hle := h.holdings.shares_le id
    obtain ⟨-, htranche⟩ := (h.holdings.mem_iff t id).mp hmem
    rw [htranche, hzero] at hle
    rw [hzero, Nat.le_zero.mp hle, Nat.mul_zero, Nat.mul_zero]
  · have hall : m.allocated t amount = amount := by
      rw [allocated, allocation_eq]
      exact heven.sum_part (h.holdings.shares t) hpos
    rw [entitlement, hall, Nat.sub_self, ite_self, Nat.add_zero, allocation_eq]
    exact Nat.div_mul_cancel (heven id hmem)

/-- A payment that does not come out even gives some position less than its part. -/
theorem entitlement_short (h : m.Sound) (howed : (m.tranches t).outstandingPrincipal ≠ 0)
    (hodd : ¬ Exact (m.positionsByTranche t) (fun id => (m.positions id).shares) amount (m.tranches t).totalShares) :
    ∃ id ∈ m.positionsByTranche t, id ≠ (m.tranches t).residualPositionId ∧
      m.entitlement t amount id * (m.tranches t).totalShares < amount * (m.positions id).shares := by
  obtain ⟨hshares, htranche⟩ := h.anchored t howed
  have hanchor := h.holdings.mem_of_shares hshares
  rw [htranche] at hanchor
  by_contra hall
  push Not at hall
  refine hodd (exact_of_others (h.holdings.nodup t) (h.holdings.shares t) hanchor fun id hmem hne => ?_)
  have heq := Nat.le_antisymm (entitlement_le m amount hne) (hall id hmem hne)
  exact ⟨m.entitlement t amount id, by rw [← heq, Nat.mul_comm]⟩

end

/-! ### What the calls keep -/

/-- The tranches that are owed something, and what they are owed, stay as they are. -/
structure Quiet (m m' : PositionManager W) : Prop where
  listed : m'.positionsByTranche = m.positionsByTranche
  trancheIds : m'.trancheIds = m.trancheIds
  owed : ∀ t, (m'.tranches t).outstandingPrincipal = (m.tranches t).outstandingPrincipal
  intact : ∀ t, (m.tranches t).outstandingPrincipal ≠ 0 → (m'.tranches t).totalShares = (m.tranches t).totalShares ∧
    (m'.tranches t).residualPositionId = (m.tranches t).residualPositionId ∧
    ∀ id ∈ m.positionsByTranche t, (m'.positions id).shares = (m.positions id).shares
  placed : ∀ id, (m'.positions id).status = .none ↔ (m.positions id).status = .none

variable {m m' : PositionManager W} {id : W} {call : Context × Call W} {paid : W → Nat}

theorem quiet_relabel {p : Position W} (known : (m.positions id).status ≠ .none)
    (hshares : p.shares = (m.positions id).shares) (hstatus : p.status ≠ .none) : Quiet m (m.setPosition id p) := by
  refine ⟨rfl, rfl, fun _ => rfl, fun t _ => ⟨rfl, rfl, fun id' _ => ?_⟩, fun id' => ?_⟩
  · dsimp only [setPosition]
    rw [Mapping.set_apply]
    split
    · next hid => rw [hid, hshares]
    · rfl
  · dsimp only [setPosition]
    rw [Mapping.set_apply]
    split
    · next hid => exact iff_of_false hstatus (hid ▸ known)
    · rfl

theorem quiet_refl (m : PositionManager W) : Quiet m m :=
  ⟨rfl, rfl, fun _ => rfl, fun _ _ => ⟨rfl, rfl, fun _ _ => rfl⟩, fun _ => Iff.rfl⟩

theorem quiet_settles (h : Settles m m') : Quiet m m' := by
  obtain ⟨_, _, _, _, rfl, -⟩ := h
  exact ⟨rfl, rfl, fun _ => rfl, fun _ _ => ⟨rfl, rfl, fun _ _ => rfl⟩, fun _ => Iff.rfl⟩

theorem quiet_redeemPosition {caller : Address} (h : m.Sound) (hcall : m.redeemPosition caller id = .ok m') :
    Quiet m m' := by
  simp only [PositionManager.redeemPosition, block_eq_ok, position_eq_ok] at hcall
  obtain ⟨_, ⟨known, rfl⟩, ⟨-, -, hnone⟩, m1, hmove, -, rfl⟩ := hcall
  obtain ⟨_, _, _, _, rfl, -⟩ := (settleAccrued_settles m _).trans (moveVotes_moves hmove).settles
  refine ⟨rfl, rfl, fun t => ?_, fun t howed => ?_, fun id' => ?_⟩
  · exact set_tranche_kept (·.outstandingPrincipal) (by rfl) t
  · have hother : t ≠ (m.positions id).trancheId := by
      rintro rfl
      exact howed hnone
    dsimp only [setPosition, setTranche]
    rw [Mapping.set_of_ne _ _ hother]
    refine ⟨rfl, rfl, fun id' hmem => ?_⟩
    rw [Mapping.set_of_ne]
    rintro rfl
    exact hother ((h.holdings.mem_iff t id').mp hmem).2.symm
  · dsimp only [setPosition, setTranche]
    rw [Mapping.set_apply]
    split
    · next hid => exact iff_of_false (by simp) (hid ▸ known)
    · rfl

/-- Of the calls that leave the holdings alone, only repayments change what an activated loan owes. -/
theorem Inv.quiet (h : Inv s) (hon : s.roundStatus = .active ∨ s.roundStatus = .closed) (hplain : Plain call.2)
    (hother : ∀ paymentId amount journalRef, call.2 ≠ .repay paymentId amount journalRef)
    (hcall : SyndicateVault.exec call s = .ok s') : Quiet s.positions s'.positions := by
  have hserv := exec_servicing hcall hon
  obtain ⟨context, call⟩ := call
  simp only [SyndicateVault.exec, block_eq_ok] at hcall
  obtain ⟨-, hcall⟩ := hcall
  cases call with
  | openRound | commit | finalize | cancelRound | refund => exact hserv.elim
  | transferPosition | splitPosition | mergePositions => exact hplain.elim
  | repay => exact (hother _ _ _ rfl).elim
  | pledgePosition =>
    simp only [SyndicateVault.managed, pledgePosition, block_eq_ok, position_eq_ok] at hcall
    obtain ⟨_, ⟨_, ⟨known, rfl⟩, -, rfl⟩, rfl⟩ := hcall
    exact quiet_relabel known rfl (by simp)
  | releasePledge =>
    simp only [SyndicateVault.managed, releasePledge, block_eq_ok, position_eq_ok] at hcall
    obtain ⟨_, ⟨_, ⟨known, rfl⟩, -, rfl⟩, rfl⟩ := hcall
    exact quiet_relabel known rfl (by simp)
  | setFrozen _ frozen =>
    simp only [SyndicateVault.managed, setFrozen, block_eq_ok, position_eq_ok] at hcall
    obtain ⟨_, ⟨-, _, ⟨known, rfl⟩, -, rfl⟩, rfl⟩ := hcall
    exact quiet_relabel known rfl (by cases frozen <;> simp)
  | redeemPosition =>
    simp only [SyndicateVault.managed, bind_eq_ok, pure_eq_ok] at hcall
    obtain ⟨_, hredeem, rfl⟩ := hcall
    exact quiet_redeemPosition h.sound hredeem
  | withdrawDistribution id =>
    simp only [SyndicateVault.withdrawDistribution, SyndicateVault.managed, PositionManager.withdrawDistribution,
      block_eq_ok, position_eq_ok] at hcall
    obtain ⟨_, ⟨_, ⟨_, ⟨-, rfl⟩, -, rfl⟩, rfl⟩, hcall⟩ := hcall
    obtain ⟨-, -, -, -, -, rfl⟩ := withdraw_eq_ok.mp hcall
    exact { quiet_settles (settleAccrued_settles s.positions (s.positions.positions id)) with }
  | withdrawAvailable =>
    obtain ⟨-, -, -, -, -, rfl⟩ := withdraw_eq_ok.mp hcall
    exact { quiet_refl s.positions with }
  | transferTokens =>
    simp only [bind_eq_ok, pure_eq_ok] at hcall
    obtain ⟨_, -, rfl⟩ := hcall
    exact quiet_refl s.positions

/-! ### The progress of a loan -/

/-- The tranches of an activated loan that are still owed something are as they were at its start, what has been paid
    went to their positions, each position but the residual one has got at most its part, and each lacks at most one unit
    a payment. -/
structure Fair (s u : PositionManager W) (paid : W → Nat) (payments : Nat) : Prop where
  listed : u.positionsByTranche = s.positionsByTranche
  trancheIds : u.trancheIds = s.trancheIds
  le : ∀ t, (u.tranches t).outstandingPrincipal ≤ (s.tranches t).totalShares
  intact : ∀ t, (u.tranches t).outstandingPrincipal ≠ 0 → (u.tranches t).totalShares = (s.tranches t).totalShares ∧
    (u.tranches t).residualPositionId = (s.tranches t).residualPositionId ∧
    ∀ id ∈ s.positionsByTranche t, (u.positions id).shares = (s.positions id).shares
  placed : ∀ id, (u.positions id).status = .none ↔ (s.positions id).status = .none
  part : ∀ t, ∀ id ∈ s.positionsByTranche t, id ≠ (s.tranches t).residualPositionId →
    paid id * (s.tranches t).totalShares ≤
      ((s.tranches t).totalShares - (u.tranches t).outstandingPrincipal) * (s.positions id).shares
  near : ∀ t, ∀ id ∈ s.positionsByTranche t,
    ((s.tranches t).totalShares - (u.tranches t).outstandingPrincipal) * (s.positions id).shares ≤
      (paid id + payments) * (s.tranches t).totalShares
  sum : ∀ t, ((s.positionsByTranche t).map paid).sum = (s.tranches t).totalShares - (u.tranches t).outstandingPrincipal
  unplaced : ∀ id, (s.positions id).status = .none → paid id = 0

/-- Every position has got exactly its part. -/
def Even (s u : PositionManager W) (paid : W → Nat) : Prop :=
  ∀ t ∈ s.trancheIds, ∀ id ∈ s.positionsByTranche t, paid id * (s.tranches t).totalShares =
    ((s.tranches t).totalShares - (u.tranches t).outstandingPrincipal) * (s.positions id).shares

/-- Some position has got less than its part. -/
def Short (s u : PositionManager W) (paid : W → Nat) : Prop :=
  ∃ t ∈ s.trancheIds, ∃ id ∈ s.positionsByTranche t, id ≠ (s.tranches t).residualPositionId ∧
    paid id * (s.tranches t).totalShares <
      ((s.tranches t).totalShares - (u.tranches t).outstandingPrincipal) * (s.positions id).shares

section

variable {m u u' : PositionManager W} {paid : W → Nat} {n : Nat}

theorem Fair.quiet (h : Fair m u paid n) (hq : Quiet u u') : Fair m u' paid n where
  listed := hq.listed.trans h.listed
  trancheIds := hq.trancheIds.trans h.trancheIds
  le t := hq.owed t ▸ h.le t
  intact t howed := by
    rw [hq.owed t] at howed
    obtain ⟨htotal, hres, hshares⟩ := hq.intact t howed
    obtain ⟨htotal', hres', hshares'⟩ := h.intact t howed
    refine ⟨htotal.trans htotal', hres.trans hres', fun id hmem => (hshares id ?_).trans (hshares' id hmem)⟩
    rwa [h.listed]
  placed id := (hq.placed id).trans (h.placed id)
  part t := hq.owed t ▸ h.part t
  near t := hq.owed t ▸ h.near t
  sum t := hq.owed t ▸ h.sum t
  unplaced := h.unplaced

/-- The terms of a tranche, and of what is paid to it, as they were at the start. -/
theorem Fair.owed (h : Fair m u paid n) (hs : Spread u u') (t : W) :
    (m.tranches t).totalShares - (u'.tranches t).outstandingPrincipal =
      (m.tranches t).totalShares - (u.tranches t).outstandingPrincipal +
        ((u.tranches t).outstandingPrincipal - (u'.tranches t).outstandingPrincipal) := by
  have hle := h.le t
  have hless := hs.le t
  omega

theorem Fair.increment_le (h : Fair m u paid n) (hs : Spread u u') (hsound : u.Sound) {t id : W}
    (hmem : id ∈ m.positionsByTranche t) (hne : id ≠ (m.tranches t).residualPositionId) :
    increment u u' id * (m.tranches t).totalShares ≤
      ((u.tranches t).outstandingPrincipal - (u'.tranches t).outstandingPrincipal) * (m.positions id).shares := by
  have hmem' : id ∈ u.positionsByTranche t := by rwa [h.listed]
  by_cases hnone : (u.tranches t).outstandingPrincipal = 0
  · rw [hs.increment_zero hsound hmem' hnone, Nat.zero_mul]
    exact Nat.zero_le _
  · obtain ⟨htotal, hres, hshares⟩ := h.intact t hnone
    rw [hs.increment_eq hsound hmem', ← htotal, ← hshares id hmem]
    exact entitlement_le u _ (hres ▸ hne)

theorem Fair.le_increment (h : Fair m u paid n) (hs : Spread u u') (hsound : u.Sound) {t id : W}
    (hmem : id ∈ m.positionsByTranche t) :
    ((u.tranches t).outstandingPrincipal - (u'.tranches t).outstandingPrincipal) * (m.positions id).shares ≤
      (increment u u' id + 1) * (m.tranches t).totalShares := by
  have hmem' : id ∈ u.positionsByTranche t := by rwa [h.listed]
  by_cases hnone : (u.tranches t).outstandingPrincipal = 0
  · rw [hnone, Nat.zero_sub, Nat.zero_mul]
    exact Nat.zero_le _
  · obtain ⟨htotal, -, hshares⟩ := h.intact t hnone
    rw [hs.increment_eq hsound hmem', ← htotal, ← hshares id hmem]
    exact le_entitlement hsound _ hmem'

theorem Fair.increment_sum (h : Fair m u paid n) (hs : Spread u u') (hsound : u.Sound) (t : W) :
    ((m.positionsByTranche t).map (increment u u')).sum =
      (u.tranches t).outstandingPrincipal - (u'.tranches t).outstandingPrincipal := by
  rw [← h.listed]
  by_cases hnone : (u.tranches t).outstandingPrincipal = 0
  · have hzero : ((u.positionsByTranche t).map (increment u u')).sum = ((u.positionsByTranche t).map fun _ => 0).sum :=
      sum_map_same fun id hmem => hs.increment_zero hsound hmem hnone
    simp [hzero, hnone]
  · rw [← hsound.sum_entitlement hnone ((u.tranches t).outstandingPrincipal - (u'.tranches t).outstandingPrincipal)]
    exact sum_map_same fun id hmem => hs.increment_eq hsound hmem

/-- A payment keeps the parts fair. -/
theorem Fair.spread (h : Fair m u paid n) (hs : Spread u u') (hsound : u.Sound) :
    Fair m u' (fun id => paid id + increment u u' id) (n + 1) where
  listed := hs.listed.trans h.listed
  trancheIds := hs.trancheIds.trans h.trancheIds
  le t := (hs.le t).trans (h.le t)
  intact t howed := by
    have hne : (u.tranches t).outstandingPrincipal ≠ 0 := by
      have hle := hs.le t
      omega
    obtain ⟨htotal, hres, hshares⟩ := h.intact t hne
    rw [hs.tranches t, hs.positions]
    exact ⟨htotal, hres, hshares⟩
  placed id := by rw [hs.positions]; exact h.placed id
  part t id hmem hne := by
    rw [h.owed hs, Nat.add_mul, Nat.add_mul]
    exact Nat.add_le_add (h.part t id hmem hne) (h.increment_le hs hsound hmem hne)
  near t id hmem := by
    have hbefore := h.near t id hmem
    have hpayment := h.le_increment hs hsound hmem
    rw [h.owed hs, Nat.add_mul]
    calc _ ≤ _ := Nat.add_le_add hbefore hpayment
      _ = _ := by rw [← Nat.add_mul, Nat.add_add_add_comm]
  sum t := by
    rw [h.owed hs, ← h.sum t, ← h.increment_sum hs hsound t]
    exact List.sum_map_add
  unplaced id hnone := by
    rw [h.unplaced id hnone, increment, hs.accrued id, if_pos ((h.placed id).mpr hnone), Nat.add_zero, Nat.sub_self]

theorem Fair.even_spread (h : Fair m u paid n) (hs : Spread u u') (hsound : u.Sound) (heven : Even m u paid)
    (hexact : ExactPayment u fun t => (u.tranches t).outstandingPrincipal - (u'.tranches t).outstandingPrincipal) :
    Even m u' fun id => paid id + increment u u' id := by
  intro t ht id hmem
  rw [h.owed hs, Nat.add_mul, Nat.add_mul, heven t ht id hmem]
  have hmem' : id ∈ u.positionsByTranche t := by rwa [h.listed]
  by_cases hnone : (u.tranches t).outstandingPrincipal = 0
  · rw [hs.increment_zero hsound hmem' hnone, hnone, Nat.zero_sub, Nat.zero_mul, Nat.zero_mul]
  · obtain ⟨htotal, -, hshares⟩ := h.intact t hnone
    rw [hs.increment_eq hsound hmem', ← htotal, ← hshares id hmem]
    exact congrArg _ (entitlement_even hsound hmem' (hexact t (h.trancheIds ▸ ht)))

theorem Fair.short_spread (h : Fair m u paid n) (hs : Spread u u') (hsound : u.Sound) (hshort : Short m u paid) :
    Short m u' fun id => paid id + increment u u' id := by
  obtain ⟨t, ht, id, hmem, hne, hlt⟩ := hshort
  refine ⟨t, ht, id, hmem, hne, ?_⟩
  rw [h.owed hs, Nat.add_mul, Nat.add_mul]
  exact Nat.add_lt_add_of_lt_of_le hlt (h.increment_le hs hsound hmem hne)

/-- A payment that is rounded leaves some position short of its part for good. -/
theorem Fair.short_of_rounded (h : Fair m u paid n) (hs : Spread u u') (hsound : u.Sound)
    (hodd : ¬ ExactPayment u fun t => (u.tranches t).outstandingPrincipal - (u'.tranches t).outstandingPrincipal) :
    Short m u' fun id => paid id + increment u u' id := by
  simp only [ExactPayment, not_forall] at hodd
  obtain ⟨t, ht, hodd⟩ := hodd
  by_cases hnone : (u.tranches t).outstandingPrincipal = 0
  · refine (hodd fun id _ => ?_).elim
    rw [hnone, Nat.zero_sub, Nat.zero_mul]
    exact Nat.dvd_zero _
  · obtain ⟨htotal, hres, hshares⟩ := h.intact t hnone
    obtain ⟨id, hmem, hne, hlt⟩ := entitlement_short hsound hnone hodd
    have hmem' : id ∈ m.positionsByTranche t := by rwa [← h.listed]
    refine ⟨t, h.trancheIds ▸ ht, id, hmem', hres ▸ hne, ?_⟩
    rw [h.owed hs, Nat.add_mul, Nat.add_mul]
    refine Nat.add_lt_add_of_le_of_lt (h.part t id hmem' (hres ▸ hne)) ?_
    rwa [hs.increment_eq hsound hmem, ← htotal, ← hshares id hmem']

/-- The course of the parts from one state to a later one, all of whose payments are exact or not. -/
structure Course (m u u' : PositionManager W) (paid paid' : W → Nat) (payments : Nat) (exact : Prop) : Prop where
  fair : Fair m u' paid' payments
  even : exact → Even m u paid → Even m u' paid'
  short : ¬ exact ∨ Short m u paid → Short m u' paid'

theorem Fair.course_quiet (h : Fair m u paid n) (hq : Quiet u u') : Course m u u' paid paid n True := by
  refine ⟨h.quiet hq, fun _ heven t ht => hq.owed t ▸ heven t ht, fun hor => ?_⟩
  obtain ⟨t, ht, hshort⟩ := hor.resolve_left (not_not.mpr trivial)
  exact ⟨t, ht, hq.owed t ▸ hshort⟩

end

/-- One call of an activated loan. -/
theorem exec_course {n : Nat} (h : Inv s) (hon : s.roundStatus = .active ∨ s.roundStatus = .closed) (hplain : Plain call.2)
    (hcall : exec call s = .ok s') (hfair : Fair m s.positions paid n) : Course m s.positions s'.positions paid
      (fun id => paid id + distributedTo id call s s') (n + payment call s s') (ExactCall s call.2) := by
  obtain ⟨context, call⟩ := call
  by_cases hrepay : ∃ paymentId amount journalRef, call = .repay paymentId amount journalRef
  · obtain ⟨paymentId, amount, journalRef, rfl⟩ := hrepay
    simp only [exec, block_eq_ok] at hcall
    obtain ⟨hs, howed⟩ := h.repay_spread hcall.2
    simp only [ExactCall, ← funext howed]
    exact ⟨hfair.spread hs h.sound, fun hexact heven => hfair.even_spread hs h.sound heven hexact,
      fun hor => hor.elim (hfair.short_of_rounded hs h.sound) (hfair.short_spread hs h.sound)⟩
  · have hother : (∀ id, distributedTo id (context, call) s s' = 0) ∧ payment (context, call) s s' = 0 ∧
        ExactCall s call = True := by
      cases call with
      | repay => exact (hrepay ⟨_, _, _, rfl⟩).elim
      | _ => exact ⟨fun _ => rfl, rfl, rfl⟩
    simp only [hother, Nat.add_zero]
    exact hfair.course_quiet (h.quiet hon hplain (fun _ _ _ heq => hrepay ⟨_, _, _, heq⟩) hcall)

/-- A run of an activated loan. -/
theorem run_course {n : Nat} {calls : List (Context × Call W)} (h : Inv s)
    (hon : s.roundStatus = .active ∨ s.roundStatus = .closed) (hplain : ∀ call ∈ calls, Plain call.2)
    (hfair : Fair m s.positions paid n) : Course m s.positions (runCalls exec s calls).positions paid
      (fun id => paid id + runTotal exec (distributedTo id) s calls) (n + runTotal exec payment s calls)
      (ExactRun s calls) := by
  induction calls generalizing s paid n with
  | nil => exact ⟨hfair, fun _ heven => heven, fun hor => hor.resolve_left (not_not.mpr trivial)⟩
  | cons call calls ih =>
    have hrest : ∀ call ∈ calls, Plain call.2 := fun c hc => hplain c (List.mem_cons_of_mem _ hc)
    rw [runCalls_cons]
    simp only [runTotal, ExactRun]
    cases hcall : exec call s with
    | error =>
      rw [commit_of_error hcall]
      have hcourse := ih h hon hrest hfair
      simp only [Nat.zero_add, reduceCtorEq, exists_false, false_implies, true_and]
      exact hcourse
    | ok s1 =>
      rw [commit_of_ok hcall]
      have hfirst := exec_course h hon (hplain call List.mem_cons_self) hcall hfair
      have hlater := ih (inv_step _ _ _ hcall h) (exec_activated h hcall hon) hrest hfirst.fair
      simp only [Nat.add_assoc] at hlater
      simp only [Except.ok.injEq, exists_eq', forall_const]
      refine ⟨hlater.fair, fun hexact heven => hlater.even hexact.2 (hfirst.even hexact.1 heven), fun hor => ?_⟩
      refine hlater.short ?_
      -- a payment that was rounded is the first one or a later one
      rcases hor with hodd | hshort
      · by_cases hlast : ExactRun s1 calls
        · exact .inr (hfirst.short (.inl fun hexact => hodd ⟨hexact, hlast⟩))
        · exact .inl hlast
      · exact .inr (hfirst.short (.inr hshort))

theorem fair_opened (h : Opened m) : Fair m m (fun _ => 0) 0 ∧ Even m m (fun _ => 0) := by
  refine ⟨⟨rfl, rfl, fun t => (h.level t).le, fun _ _ => ⟨rfl, rfl, fun _ _ => rfl⟩, fun _ => Iff.rfl, fun _ _ _ _ => ?_,
    fun t _ _ => ?_, fun t => ?_, fun _ _ => rfl⟩, fun t _ _ _ => ?_⟩
  · rw [Nat.zero_mul]
    exact Nat.zero_le _
  · simp [h.level t]
  · simp [h.level t]
  · simp [h.level t]

theorem Inv.finalize_opened (h : Inv s) (hcall : SyndicateVault.exec (context, .finalize journalRef) s = .ok s')
    (hon : s'.positions.fundingActivated = true) : Opened s'.positions := by
  simp only [SyndicateVault.exec, SyndicateVault.finalize, block_eq_ok] at hcall
  obtain ⟨-, ⟨hopened, -, -⟩, hcall⟩ := hcall
  split at hcall
  · simp only [block_eq_ok] at hcall
    obtain ⟨-, rfl⟩ := hcall
    have hstatus := h.activated.mp hon
    simp [hopened] at hstatus
  · simp only [bind_eq_ok, transferExact, pure_eq_ok] at hcall
    obtain ⟨positions, hactivate, _, ⟨_, -, rfl⟩, rfl⟩ := hcall
    obtain ⟨-, -, -, -, -, hpositions⟩ := h.sound.activateFunding (h.seeded (.inr hopened)) hactivate
    exact hpositions

section

variable {m u : PositionManager W} {paid : W → Nat} {n : Nat} {t id : W}

theorem Fair.paid_zero (h : Fair m u paid n) (hsound : m.Sound) (hzero : (m.tranches (m.positions id).trancheId).totalShares = 0) :
    paid id = 0 := by
  by_cases hnone : (m.positions id).status = .none
  · exact h.unplaced id hnone
  · have hsum := h.sum (m.positions id).trancheId
    rw [hzero, Nat.zero_sub] at hsum
    have hmem : id ∈ m.positionsByTranche (m.positions id).trancheId := (hsound.holdings.mem_iff _ _).mpr ⟨hnone, rfl⟩
    exact Nat.le_zero.mp (hsum ▸ List.le_sum_of_mem (List.mem_map_of_mem hmem))

theorem Fair.even_apply (h : Fair m u paid n) (hsound : m.Sound) (hopened : Opened m) (heven : Even m u paid) (id : W) :
    paid id * (m.tranches (m.positions id).trancheId).totalShares =
      ((m.tranches (m.positions id).trancheId).totalShares -
        (u.tranches (m.positions id).trancheId).outstandingPrincipal) * (m.positions id).shares := by
  by_cases hnone : (m.positions id).status = .none
  · rw [h.unplaced id hnone, hsound.holdings.blank id hnone, Nat.zero_mul, Nat.mul_zero]
  · exact heven _ (hopened.placed id hnone) id ((hsound.holdings.mem_iff _ _).mpr ⟨hnone, rfl⟩)

/-- No position but the residual one gets more than its shares. -/
theorem Fair.others_le (h : Fair m u paid n) (hsound : m.Sound) (hmem : id ∈ m.positionsByTranche t)
    (hne : id ≠ (m.tranches t).residualPositionId) : paid id ≤ (m.positions id).shares := by
  obtain ⟨-, rfl⟩ := (hsound.holdings.mem_iff t id).mp hmem
  rcases Nat.eq_zero_or_pos (m.tranches (m.positions id).trancheId).totalShares with hzero | hpos
  · rw [h.paid_zero hsound hzero]
    exact Nat.zero_le _
  · refine Nat.le_of_mul_le_mul_right ((h.part _ id hmem hne).trans ?_) hpos
    rw [Nat.mul_comm (m.positions id).shares]
    exact Nat.mul_le_mul_right _ (Nat.sub_le _ _)

/-- A position of a repaid loan lacks at most one unit a payment. -/
theorem Fair.shares_le (h : Fair m u paid n) (hsound : m.Sound) (hmem : id ∈ m.positionsByTranche t)
    (hrepaid : (u.tranches t).outstandingPrincipal = 0) : (m.positions id).shares ≤ paid id + n := by
  have hnear := h.near t id hmem
  rw [hrepaid, Nat.sub_zero, Nat.mul_comm] at hnear
  rcases Nat.eq_zero_or_pos (m.tranches t).totalShares with hzero | hpos
  · have hle := hsound.holdings.shares_le id
    rw [((hsound.holdings.mem_iff t id).mp hmem).2, hzero] at hle
    omega
  · exact Nat.le_of_mul_le_mul_right hnear hpos

/-- With exact parts no position gets more than its shares. -/
theorem Fair.paid_le (h : Fair m u paid n) (hsound : m.Sound) (hopened : Opened m) (heven : Even m u paid) (id : W) :
    paid id ≤ (m.positions id).shares := by
  have heq := h.even_apply hsound hopened heven id
  rcases Nat.eq_zero_or_pos (m.tranches (m.positions id).trancheId).totalShares with hzero | hpos
  · rw [h.paid_zero hsound hzero]
    exact Nat.zero_le _
  · refine Nat.le_of_mul_le_mul_right ?_ hpos
    rw [heq, Nat.mul_comm (m.positions id).shares]
    exact Nat.mul_le_mul_right _ (Nat.sub_le _ _)

/-- With exact parts every position has got its shares when the loan is repaid. -/
theorem Fair.paid_eq (h : Fair m u paid n) (hsound : m.Sound) (hopened : Opened m) (heven : Even m u paid)
    (hrepaid : ∀ t ∈ m.trancheIds, (u.tranches t).outstandingPrincipal = 0) (id : W) :
    paid id = (m.positions id).shares := by
  by_cases hnone : (m.positions id).status = .none
  · rw [h.unplaced id hnone, hsound.holdings.blank id hnone]
  have heq := h.even_apply hsound hopened heven id
  rw [hrepaid _ (hopened.placed id hnone), Nat.sub_zero] at heq
  rcases Nat.eq_zero_or_pos (m.tranches (m.positions id).trancheId).totalShares with hzero | hpos
  · have hle := hsound.holdings.shares_le id
    rw [hzero] at hle
    rw [h.paid_zero hsound hzero, Nat.le_zero.mp hle]
  · exact Nat.eq_of_mul_eq_mul_right hpos (heq.trans (Nat.mul_comm _ _))

end

/-- Distributions of an activated loan whose holdings stay as they are. At any time the positions of a tranche together
    have what it was repaid; none but the residual one has more than its part of that, or than its shares, and none lacks
    more than one unit a payment. Without rounding no position ever gets more than its shares, and when the loan is repaid
    every position has exactly its shares if and only if no payment was rounded. -/
theorem pariPassu_residual {vault manager : Address} {accounts : vault ≠ manager} {token : Token}
    {terms : FundingRoundTerms W} {tranches : List (TrancheConfiguration W)} {now : Nat} {s₀ : SyndicateVault W}
    (created : initializeVault vault manager accounts token terms tranches now = .ok s₀) (before : List (Context × Call W))
    {journalRef : W} (funded : exec (context, .finalize journalRef) (runCalls exec s₀ before) = .ok s)
    (activated : s.positions.fundingActivated = true) (calls : List (Context × Call W))
    (plain : ∀ call ∈ calls, Plain call.2) :
    (∀ t, ((s.positions.positionsByTranche t).map fun id => runTotal exec (distributedTo id) s calls).sum =
      (s.positions.tranches t).totalShares - ((runCalls exec s calls).positions.tranches t).outstandingPrincipal) ∧
    (∀ t, ∀ id ∈ s.positions.positionsByTranche t, id ≠ (s.positions.tranches t).residualPositionId →
      runTotal exec (distributedTo id) s calls ≤ (s.positions.positions id).shares ∧
      runTotal exec (distributedTo id) s calls * (s.positions.tranches t).totalShares ≤ ((s.positions.tranches t).totalShares -
        ((runCalls exec s calls).positions.tranches t).outstandingPrincipal) * (s.positions.positions id).shares) ∧
    (∀ t, ∀ id ∈ s.positions.positionsByTranche t, ((s.positions.tranches t).totalShares -
        ((runCalls exec s calls).positions.tranches t).outstandingPrincipal) * (s.positions.positions id).shares ≤
      (runTotal exec (distributedTo id) s calls + runTotal exec payment s calls) * (s.positions.tranches t).totalShares) ∧
    (ExactRun s calls → ∀ id, runTotal exec (distributedTo id) s calls ≤ (s.positions.positions id).shares) ∧
    ((runCalls exec s calls).outstandingPrincipal = 0 →
      (∀ t ∈ s.positions.trancheIds, ∀ id ∈ s.positions.positionsByTranche t, (s.positions.positions id).shares ≤
        runTotal exec (distributedTo id) s calls + runTotal exec payment s calls) ∧
      ((∀ id, runTotal exec (distributedTo id) s calls = (s.positions.positions id).shares) ↔ ExactRun s calls)) := by
  have hbefore : Inv (runCalls exec s₀ before) := runCalls_invariant Inv inv_step (initialize_inv created).1 before
  have hinv : Inv s := inv_step _ _ _ funded hbefore
  have hopened := hbefore.finalize_opened funded activated
  obtain ⟨hfair₀, heven₀⟩ := fair_opened hopened
  have hcourse := run_course hinv (hinv.activated.mp activated) plain hfair₀
  simp only [Nat.zero_add] at hcourse
  have hfair := hcourse.fair
  refine ⟨hfair.sum, fun t id hmem hne => ⟨hfair.others_le hinv.sound hmem hne, hfair.part t id hmem hne⟩, hfair.near,
    fun hexact => hfair.paid_le hinv.sound hopened (hcourse.even hexact heven₀), fun hrepaid => ?_⟩
  have hend : Inv (runCalls exec s calls) := runCalls_invariant Inv inv_step hinv calls
  have hnothing : ∀ t ∈ s.positions.trancheIds,
      ((runCalls exec s calls).positions.tranches t).outstandingPrincipal = 0 := by
    have hsum := hend.sound.outstanding
    rw [← hend.outstanding, hrepaid, outstandingOf, List.sum_eq_zero_iff] at hsum
    intro t ht
    exact hsum _ (List.mem_map_of_mem (hfair.trancheIds ▸ ht))
  refine ⟨fun t ht id hmem => hfair.shares_le hinv.sound hmem (hnothing t ht), fun hall => ?_,
    fun hexact => hfair.paid_eq hinv.sound hopened (hcourse.even hexact heven₀) hnothing⟩
  -- a rounded payment leaves a position short for good, so not all have their shares at the end
  by_contra hodd
  obtain ⟨t, ht, id, -, -, hlt⟩ := hcourse.short (.inl hodd)
  dsimp only at hlt
  rw [hall id, hnothing t ht, Nat.sub_zero, Nat.mul_comm] at hlt
  exact Nat.lt_irrefl _ hlt

/-! ### The loan of two lenders, repaid in one payment and in two -/

/-- The loan is repaid in one payment. -/
def toyPayment : List (Context × Call Term) := [(toyContext 9, .repay (.lit 31) 2 (.lit 41))]

def toyActivated : Except Revert (SyndicateVault Term) :=
  toyCreated.bind fun s => exec (toyContext 11, .finalize (.lit 40)) (runCalls exec s toyFunding)

theorem toyActivated_eq_ok {s : SyndicateVault Term} (h : toyActivated = .ok s) : ∃ s₀, toyCreated = .ok s₀ ∧
    exec (toyContext 11, .finalize (.lit 40)) (runCalls exec s₀ toyFunding) = .ok s := by
  unfold toyActivated at h
  cases hs : toyCreated with
  | error =>
    rw [hs] at h
    cases h
  | ok s₀ =>
    rw [hs] at h
    exact ⟨s₀, rfl, h⟩

theorem toyRepayment_plain : ∀ call ∈ toyRepayment, Plain call.2 := by
  intro call hcall
  simp only [toyRepayment, List.mem_cons, List.not_mem_nil, or_false] at hcall
  rcases hcall with rfl | rfl <;> trivial

/-- The residual position gets both units when they are repaid one by one. -/
theorem residual_takes_all : ∃ s, toyActivated = .ok s ∧ (runCalls exec s toyRepayment).outstandingPrincipal = 0 ∧
    (∀ call ∈ toyRepayment, Plain call.2) ∧ ∃ id other, (s.positions.positions id).shares = 1 ∧
      (s.positions.positions other).shares = 1 ∧ runTotal exec (distributedTo id) s toyRepayment = 2 ∧
      runTotal exec (distributedTo other) s toyRepayment = 0 := by
  obtain ⟨s, hs⟩ := exists_of_isOk (x := toyActivated) (by decide +kernel)
  have heval : toyActivated.map (fun s => ((runCalls exec s toyRepayment).outstandingPrincipal,
      (s.positions.positions (s.positionIdOf (.lit 21))).shares, (s.positions.positions (s.positionIdOf (.lit 22))).shares,
      runTotal exec (distributedTo (s.positionIdOf (.lit 21))) s toyRepayment,
      runTotal exec (distributedTo (s.positionIdOf (.lit 22))) s toyRepayment)) = .ok (0, 1, 1, 2, 0) := by decide +kernel
  rw [hs] at heval
  simp only [Except.map, Except.ok.injEq, Prod.mk.injEq] at heval
  obtain ⟨hout, hshares, hshares', hpaid, hpaid'⟩ := heval
  exact ⟨s, hs, hout, toyRepayment_plain, _, _, hshares, hshares', hpaid, hpaid'⟩

/-- Repaid in one payment, every position has its shares if the payment comes out even; repaid in two, the position that
    gets nothing lacks no more than two units. -/
theorem pariPassu_toy : ∃ s, toyActivated = .ok s ∧ (runCalls exec s toyPayment).outstandingPrincipal = 0 ∧
    ((∀ id, runTotal exec (distributedTo id) s toyPayment = (s.positions.positions id).shares) ↔ ExactRun s toyPayment) ∧
    ∀ t ∈ s.positions.trancheIds, ∀ id ∈ s.positions.positionsByTranche t, (s.positions.positions id).shares ≤
      runTotal exec (distributedTo id) s toyRepayment + runTotal exec payment s toyRepayment := by
  obtain ⟨s, hs⟩ := exists_of_isOk (x := toyActivated) (by decide +kernel)
  have heval : toyActivated.map (fun s => ((runCalls exec s toyPayment).outstandingPrincipal,
      (runCalls exec s toyRepayment).outstandingPrincipal, s.positions.fundingActivated)) = .ok (0, 0, true) := by
    decide +kernel
  rw [hs] at heval
  simp only [Except.map, Except.ok.injEq, Prod.mk.injEq] at heval
  obtain ⟨hone, htwo, hactivated⟩ := heval
  obtain ⟨s₀, hcreated, hfunded⟩ := toyActivated_eq_ok hs
  have hplain : ∀ call ∈ toyPayment, Plain call.2 := by
    intro call hcall
    rw [toyPayment, List.mem_singleton] at hcall
    subst hcall
    trivial
  obtain ⟨-, -, -, -, hrepaid⟩ := pariPassu_residual hcreated toyFunding hfunded hactivated toyPayment hplain
  obtain ⟨-, -, -, -, hcut⟩ := pariPassu_residual hcreated toyFunding hfunded hactivated toyRepayment toyRepayment_plain
  exact ⟨s, hs, hone, (hrepaid hone).2, (hcut htwo).1⟩

end SyndicateVault

end Unified.Syndicate
