import Unified.Lib.Flow
import Unified.Syndicate.Books
import Unified.Syndicate.Vault

/-! Whole runs of a syndicated loan: the books of the vault and of the position manager agree, the manager holds what it
    owes to the owners, and the vault holds what it has to refund. -/

namespace Unified.Syndicate

open PositionManager Token

variable {W : Type} [Evm W]

namespace SyndicateVault

/-- What a commitment can have refunded. -/
def refundable (_ : W) (c : Commitment W) : Nat := if c.status = .funded then c.amount else 0

theorem refundable_vanishes : Mapping.Vanishes (refundable (W := W)) := fun _ => rfl

structure Inv (s : SyndicateVault W) : Prop where
  sound : s.positions.Sound
  activated : s.positions.fundingActivated = true ↔ s.roundStatus = .active ∨ s.roundStatus = .closed
  seeded : s.roundStatus = .scheduled ∨ s.roundStatus = .opened → s.positions.Seeded
  unrefunded : s.roundStatus = .scheduled ∨ s.roundStatus = .opened → ∀ id, (s.commitments id).status ≠ .refunded
  outstanding : s.outstandingPrincipal = s.positions.totalOutstandingPrincipal
  covered : s.positions.fundingActivated = false → s.commitments.sum refundable ≤ s.token.balances s.vault
  solvent : s.positions.held ≤ s.token.balances s.manager

variable {s s' : SyndicateVault W} {context : Context} {amount now : Nat} {t commitmentId journalRef paymentId : W}
  {positions : PositionManager W}

/-- Tokens go from the vault to the manager, which credits as much to the positions. -/
structure Pays (s s' : SyndicateVault W) (amount : Nat) : Prop where
  eq : ∃ token positions, s' = { s with token := token, positions := positions }
  sound : s'.positions.Sound
  held : s'.positions.held = s.positions.held + amount
  total : s'.positions.totalOutstandingPrincipal + amount = s.positions.totalOutstandingPrincipal
  activated : s'.positions.fundingActivated = s.positions.fundingActivated
  manager : s'.token.balances s.manager = s.token.balances s.manager + amount

theorem Pays.refl (h : s.positions.Sound) : Pays s s 0 := ⟨⟨_, _, rfl⟩, h, rfl, rfl, rfl, rfl⟩

theorem Pays.trans {s'' : SyndicateVault W} {more : Nat} (h : Pays s s' amount) (h' : Pays s' s'' more) :
    Pays s s'' (amount + more) := by
  obtain ⟨⟨_, _, rfl⟩, -, hheld, htotal, hact, hman⟩ := h
  obtain ⟨⟨_, _, rfl⟩, hsound, hheld', htotal', hact', hman'⟩ := h'
  dsimp only at *
  exact ⟨⟨_, _, rfl⟩, hsound, by dsimp only; omega, by dsimp only; omega, hact'.trans hact, by dsimp only; omega⟩

theorem recordDistribution_pays (h : s.positions.Sound) (hcall : s.recordDistribution t amount = .ok s') :
    Pays s s' amount := by
  simp only [SyndicateVault.recordDistribution, block_eq_ok, transfer_eq_ok] at hcall
  obtain ⟨_, ⟨-, -, hle, rfl⟩, hbalance, positions, hrec, rfl⟩ := hcall
  have hdist := h.recordDistribution hrec
  have htotal := hdist.le
  obtain ⟨accrued, rfl, -⟩ := hdist.eq
  exact ⟨⟨_, _, rfl⟩, hdist.sound, hdist.held, by dsimp only; omega, rfl, hbalance⟩

theorem distribute_pays (h : s.positions.Sound) (hcall : s.distribute amount = .ok s') : Pays s s' amount := by
  simp only [distribute, block_eq_ok, Prod.exists] at hcall
  obtain ⟨s1, remaining, hfold, rfl, rfl⟩ := hcall
  have hinv : (0 : Nat) ≤ amount ∧ Pays s s1 (amount - 0) := by
    refine foldlM_invariant (fun (rest : SyndicateVault W × Nat) => rest.2 ≤ amount ∧ Pays s rest.1 (amount - rest.2))
      (fun t _ rest rest' hstep hrest => ?_) hfold ⟨le_refl _, by simpa using Pays.refl h⟩
    obtain ⟨hle, hpays⟩ := hrest
    simp only [distributeTo, bind_eq_ok, tranche_eq_ok] at hstep
    obtain ⟨_, ⟨-, rfl⟩, hstep⟩ := hstep
    split at hstep
    · rw [pure_eq_ok] at hstep
      exact hstep ▸ ⟨hle, hpays⟩
    · simp only [bind_eq_ok, pure_eq_ok] at hstep
      obtain ⟨s2, hrec, rfl⟩ := hstep
      have hmore := hpays.trans (recordDistribution_pays hpays.sound hrec)
      have hmin := Nat.min_le_left rest.2 (rest.1.positions.tranches t).outstandingPrincipal
      refine ⟨by dsimp only; omega, ?_⟩
      dsimp only
      convert hmore using 1
      omega
  exact hinv.2

/-! ### The calls -/

theorem Inv.openRound (h : Inv s) (hcall : s.openRound now = .ok s') : Inv s' := by
  simp only [SyndicateVault.openRound, block_eq_ok] at hcall
  obtain ⟨⟨hstatus, -, -⟩, rfl⟩ := hcall
  refine { h with
    activated := h.activated.trans (by simp [hstatus])
    seeded := fun _ => h.seeded (.inl hstatus)
    unrefunded := fun _ => h.unrefunded (.inl hstatus) }

theorem Inv.off (h : Inv s) (hstatus : s.roundStatus ≠ .active ∧ s.roundStatus ≠ .closed) :
    s.positions.fundingActivated = false := by
  by_contra hon
  rcases h.activated.mp (by simpa using hon) with hact | hclosed
  · exact hstatus.1 hact
  · exact hstatus.2 hclosed

theorem Inv.commit (h : Inv s) (hcaller : context.caller ≠ s.vault ∧ context.caller ≠ s.manager)
    (hcall : s.commit context commitmentId t amount = .ok s') : Inv s' ∧ s'.positions.held = s.positions.held := by
  simp only [SyndicateVault.commit, block_eq_ok, pullExact, transfer_eq_ok] at hcall
  obtain ⟨⟨hopened, -, -, -, hfresh, -, -⟩, positions, hissue, _, ⟨-, -, hle, rfl⟩, -, rfl⟩ := hcall
  have hissued := h.sound.issuePending hissue
  have hsum := s.commitments.sum_set refundable_vanishes commitmentId
    ⟨commitmentId, t, s.positionIdOf commitmentId, context.caller, amount, .funded⟩
  have hzero : refundable commitmentId (s.commitments commitmentId) = 0 := if_neg (by simp [hfresh])
  have hnew : refundable commitmentId
    ⟨commitmentId, t, s.positionIdOf commitmentId, context.caller, amount, .funded⟩ = amount := rfl
  refine ⟨⟨hissued.sound, ?_, fun _ => hissued.seeded (h.seeded (.inr hopened)), fun _ id => ?_,
    h.outstanding.trans hissued.total.symm, fun _ => ?_, ?_⟩, hissued.held⟩
  · simp [hissued.activated', hopened]
  · dsimp only
    rw [Mapping.set_apply]
    split
    · simp
    · exact h.unrefunded (.inr hopened) id
  · have hcovered := h.covered hissued.activated
    dsimp only
    rw [move_dst hle hcaller.1]
    omega
  · dsimp only
    rw [hissued.held]
    exact h.solvent.trans (le_move hle hcaller.2.symm)

theorem Inv.cancelRound (h : Inv s) {reasonCode : W} (hcall : s.cancelRound context reasonCode = .ok s') :
    Inv s' ∧ s'.positions.held = s.positions.held := by
  simp only [SyndicateVault.cancelRound, block_eq_ok] at hcall
  obtain ⟨⟨-, -, hstatus⟩, -, rfl⟩ := hcall
  have hoff : s.positions.fundingActivated = false := h.off (by rcases hstatus with h | h <;> simp [h])
  exact ⟨{ h with activated := by simp [hoff], seeded := by simp, unrefunded := by simp }, rfl⟩

theorem Inv.refund (h : Inv s) (hcall : s.refund commitmentId = .ok s') :
    Inv s' ∧ s'.positions.held = s.positions.held := by
  simp only [SyndicateVault.refund, block_eq_ok, transferExact, transferExact_eq_ok] at hcall
  obtain ⟨hstatus, hfunded, positions, hcancel, _, ⟨-, -, hself, hle, rfl⟩, rfl⟩ := hcall
  obtain ⟨hsound, hheld, htotal, hoff, hoff'⟩ := h.sound.cancelPending hcancel
  have hsum := s.commitments.sum_set refundable_vanishes commitmentId
    { s.commitments commitmentId with status := .refunded }
  have hold : refundable commitmentId (s.commitments commitmentId) = (s.commitments commitmentId).amount := if_pos hfunded
  have hnew : refundable commitmentId { s.commitments commitmentId with status := .refunded } = 0 := rfl
  refine ⟨⟨hsound, ?_, ?_, ?_, h.outstanding.trans htotal.symm, fun _ => ?_, ?_⟩, hheld⟩
  · rcases hstatus with hs | hs <;> simp [hoff', hs]
  · rcases hstatus with hs | hs <;> simp [hs]
  · rcases hstatus with hs | hs <;> simp [hs]
  · have hcovered := h.covered hoff
    have hsrc := move_exact_src hle hself
    dsimp only at hsum hnew hsrc ⊢
    omega
  · dsimp only
    rw [hheld]
    exact h.solvent.trans (le_move hle s.accounts.symm)

theorem Inv.finalize (h : Inv s) (hcall : s.finalize context journalRef = .ok s') :
    Inv s' ∧ s'.positions.held = s.positions.held := by
  simp only [SyndicateVault.finalize, block_eq_ok] at hcall
  obtain ⟨⟨hopened, -, -⟩, hcall⟩ := hcall
  have hoff : s.positions.fundingActivated = false := h.off (by simp [hopened])
  split at hcall
  · simp only [block_eq_ok] at hcall
    obtain ⟨-, rfl⟩ := hcall
    exact ⟨{ h with activated := by simp [hoff], seeded := by simp, unrefunded := by simp }, rfl⟩
  · simp only [bind_eq_ok, transferExact, pure_eq_ok, transferExact_eq_ok] at hcall
    obtain ⟨positions, hactivate, _, ⟨_, ⟨-, -, hself, hle, rfl⟩, rfl⟩, rfl⟩ := hcall
    obtain ⟨-, hsound, hheld, hon, htotal, -⟩ := h.sound.activateFunding (h.seeded (.inr hopened)) hactivate
    refine ⟨⟨hsound, by simp [hon], by simp, by simp, htotal.symm, fun hoff => ?_, ?_⟩, hheld⟩
    · dsimp only at hoff
      simp [hon] at hoff
    · dsimp only
      rw [hheld]
      exact h.solvent.trans (le_move hle s.accounts.symm)

theorem Inv.repay (h : Inv s) (hcaller : context.caller ≠ s.vault ∧ context.caller ≠ s.manager)
    (hcall : s.repay context paymentId amount journalRef = .ok s') :
    Inv s' ∧ s'.positions.held = s.positions.held + amount := by
  simp only [SyndicateVault.repay, block_eq_ok, pullExact, transfer_eq_ok] at hcall
  obtain ⟨⟨hactive, -, -, -, hle⟩, -, _, ⟨_, ⟨-, -, hbalance, rfl⟩, -, rfl⟩, s1, hdist, hcall⟩ := hcall
  have hon := h.activated.mpr (.inl hactive)
  have hsolvent : s.positions.held ≤ (s.token.move context.caller s.vault amount hbalance).balances s.manager :=
    h.solvent.trans (le_move hbalance hcaller.2.symm)
  have hpays := distribute_pays (by exact h.sound) hdist
  clear hdist
  obtain ⟨⟨_, _, rfl⟩, hsound, hheld, htotal, hact, hmanager⟩ := hpays
  have hon' := hact.trans hon
  have hout := h.outstanding
  dsimp only at hcall hsound hheld htotal hmanager hon'
  split at hcall
  · simp only [block_eq_ok] at hcall
    obtain ⟨-, rfl⟩ := hcall
    refine ⟨⟨hsound, by simp [hon'], by simp, by simp, by dsimp only; omega, by simp [hon'], ?_⟩, hheld⟩
    dsimp only
    omega
  · rw [pure_eq_ok] at hcall
    subst hcall
    refine ⟨⟨hsound, by simp [hon', hactive], by simp [hactive], by simp [hactive], by dsimp only; omega, by simp [hon'], ?_⟩, hheld⟩
    dsimp only
    omega

/-- The position manager is called and moves no tokens. -/
theorem Inv.rearranged (h : Inv s) (hre : Rearranged s.positions positions) :
    Inv { s with positions := positions } := by
  have hstatus := h.activated.mp hre.activated
  refine ⟨hre.sound, iff_of_true hre.activated' hstatus, fun hs => ?_, fun hs => ?_, h.outstanding.trans hre.total.symm,
    by simp [hre.activated'], hre.held.trans_le h.solvent⟩
  · rcases hstatus with hst | hst <;> simp [hst] at hs
  · rcases hstatus with hst | hst <;> simp [hst] at hs

theorem Inv.managed (h : Inv s) {call : Except Revert (PositionManager W)}
    (hre : ∀ positions, call = .ok positions → Rearranged s.positions positions) (hcall : s.managed call = .ok s') :
    Inv s' ∧ s'.positions.held = s.positions.held := by
  simp only [SyndicateVault.managed, bind_eq_ok, pure_eq_ok] at hcall
  obtain ⟨positions, hpos, rfl⟩ := hcall
  exact ⟨h.rearranged (hre positions hpos), (hre positions hpos).held⟩

theorem Inv.settles (h : Inv s) (hset : Settles s.positions positions) : Inv { s with positions := positions } := by
  obtain ⟨_, _, _, _, rfl, hheld⟩ := hset
  exact ⟨h.sound.accounts _ _ _ _, h.activated, h.seeded, h.unrefunded, h.outstanding, h.covered, hheld.trans_le h.solvent⟩

variable {call : Context × Call W} {owner caller : Address} {id : W} {m : PositionManager W} {x y : Option W}

theorem withdraw_eq_ok : s.withdraw owner = .ok s' ↔ s.positions.withdrawable owner ≠ 0 ∧
    s.manager ≠ 0 ∧ owner ≠ 0 ∧ (s.manager = owner → s.positions.withdrawable owner = 0) ∧
    ∃ h : s.positions.withdrawable owner ≤ s.token.balances s.manager, { s with
      token := s.token.move s.manager owner (s.positions.withdrawable owner) h
      positions := { s.positions with withdrawable := s.positions.withdrawable.set owner 0 } } = s' := by
  simp only [withdraw, withdrawAvailable, block_eq_ok, transferExact_eq_ok]
  constructor
  · rintro ⟨_, ⟨hne, rfl⟩, _, ⟨hman, howner, hself, hle, rfl⟩, rfl⟩
    exact ⟨hne, hman, howner, hself, hle, rfl⟩
  · rintro ⟨hne, hman, howner, hself, hle, rfl⟩
    exact ⟨_, ⟨hne, rfl⟩, _, ⟨hman, howner, hself, hle, rfl⟩, rfl⟩

/-- A withdrawal pays out what is credited, and what the others are credited with stays. -/
theorem Inv.withdraw (h : Inv s) (hcall : s.withdraw owner = .ok s') :
    Inv s' ∧ s'.positions.held + (s.token.balances s.manager - s'.token.balances s.manager) = s.positions.held := by
  obtain ⟨hne, -, -, hself, hle, rfl⟩ := withdraw_eq_ok.mp hcall
  have hsrc := move_exact_src hle hself
  have hsum := s.positions.withdrawable.sum_set counter_vanishes owner 0
  have hsolvent := h.solvent
  refine ⟨⟨h.sound.accounts _ _ _ _, h.activated, h.seeded, h.unrefunded, h.outstanding, fun hoff => ?_, ?_⟩, ?_⟩
  · exact (h.covered hoff).trans (le_move hle s.accounts)
  · simp only [held] at hsolvent ⊢
    omega
  · simp only [held]
    omega

theorem Inv.withdrawDistribution (h : Inv s) (hcall : s.withdrawDistribution context id = .ok s') :
    Inv s' ∧ s'.positions.held + (s.token.balances s.manager - s'.token.balances s.manager) = s.positions.held := by
  simp only [SyndicateVault.withdrawDistribution, SyndicateVault.managed, PositionManager.withdrawDistribution,
    block_eq_ok, position_eq_ok] at hcall
  obtain ⟨_, ⟨_, ⟨_, ⟨-, rfl⟩, -, rfl⟩, rfl⟩, hcall⟩ := hcall
  have hset := settleAccrued_settles s.positions (s.positions.positions id)
  have hheld : (s.positions.settleAccrued (s.positions.positions id)).held = s.positions.held := by
    obtain ⟨_, _, _, _, -, hheld⟩ := hset
    exact hheld
  obtain ⟨hinv, hpaid⟩ := (h.settles hset).withdraw hcall
  exact ⟨hinv, hpaid.trans hheld⟩

/-- What a call pays in. -/
def repaid (call : Context × Call W) (_ _ : SyndicateVault W) : Nat :=
  match call.2 with
  | .repay _ amount _ => amount
  | _ => 0

/-- What a call takes out of the manager for its sender. -/
def withdrawn (call : Context × Call W) (s s' : SyndicateVault W) : Nat :=
  match call.2 with
  | .withdrawDistribution _ => s.token.balances s.manager - s'.token.balances s.manager
  | .withdrawAvailable => s.token.balances s.manager - s'.token.balances s.manager
  | _ => 0

theorem Inv.exec (h : Inv s) (hcall : exec call s = .ok s') :
    Inv s' ∧ s'.positions.held + withdrawn call s s' = s.positions.held + repaid call s s' := by
  obtain ⟨context, call⟩ := call
  simp only [SyndicateVault.exec, block_eq_ok] at hcall
  obtain ⟨hcaller, hcall⟩ := hcall
  cases call with
  | openRound =>
    refine ⟨h.openRound hcall, ?_⟩
    simp only [SyndicateVault.openRound, block_eq_ok] at hcall
    rw [← hcall.2]
    rfl
  | commit => exact h.commit hcaller hcall
  | finalize => exact h.finalize hcall
  | cancelRound => exact h.cancelRound hcall
  | refund => exact h.refund hcall
  | repay => exact h.repay hcaller hcall
  | transferPosition => exact h.managed (fun _ => h.sound.transferPosition) hcall
  | splitPosition => exact h.managed (fun _ => h.sound.splitPosition) hcall
  | mergePositions => exact h.managed (fun _ => h.sound.mergePositions) hcall
  | pledgePosition => exact h.managed (fun _ => h.sound.pledgePosition) hcall
  | releasePledge => exact h.managed (fun _ => h.sound.releasePledge) hcall
  | setFrozen => exact h.managed (fun _ => h.sound.setFrozen) hcall
  | withdrawDistribution => exact h.withdrawDistribution hcall
  | withdrawAvailable => exact h.withdraw hcall
  | redeemPosition => exact h.managed (fun _ => h.sound.redeemPosition) hcall
  | transferTokens =>
    simp only [bind_eq_ok, pure_eq_ok, transfer_eq_ok] at hcall
    obtain ⟨_, ⟨-, -, hle, rfl⟩, rfl⟩ := hcall
    exact ⟨{ h with
      covered := fun hoff => (h.covered hoff).trans (le_move hle hcaller.1.symm)
      solvent := h.solvent.trans (le_move hle hcaller.2.symm) }, rfl⟩

/-! ### Creation -/

/-- A position manager that only has tranches. -/
structure Fresh (m : PositionManager W) : Prop where
  eq : m = { (default : PositionManager W) with tranches := m.tranches, trancheIds := m.trancheIds }
  blank : ∀ t, m.tranches t = { (default : Tranche W) with configuration := (m.tranches t).configuration }
  configured : ∀ t, t ∈ m.trancheIds ↔ (m.tranches t).configuration.trancheId ≠ 0
  distinct : m.trancheIds.Nodup

theorem fresh_default : Fresh (default : PositionManager W) :=
  ⟨rfl, fun _ => rfl, fun _ => ⟨fun hm => (List.not_mem_nil hm).elim, fun hne => (hne rfl).elim⟩, List.nodup_nil⟩

theorem Fresh.configureTranche {m' : PositionManager W} {configuration : TrancheConfiguration W} (h : Fresh m)
    (hcall : m.configureTranche configuration = .ok m') : Fresh m' := by
  simp only [PositionManager.configureTranche, block_eq_ok] at hcall
  obtain ⟨⟨-, hid, -, -, -, -, -, -, hnew⟩, rfl⟩ := hcall
  refine ⟨?_, fun t => ?_, fun t => ?_, ?_⟩
  · rw [h.eq]
    rfl
  · dsimp only [setTranche]
    rw [Mapping.set_apply]
    split
    · rw [h.blank]
    · exact h.blank t
  · dsimp only [setTranche]
    rw [Mapping.set_apply, List.mem_append, List.mem_singleton, h.configured]
    split
    · next ht => simp [ht, hid]
    · next ht => simp [ht]
  · refine List.nodup_append.mpr ⟨h.distinct, List.nodup_singleton _, ?_⟩
    rintro t ht _ hmem rfl
    rw [List.mem_singleton.mp hmem] at ht
    exact (h.configured _).mp ht hnew

theorem Fresh.sound (h : Fresh m) : m.Sound := by
  have zero {f : Tranche W → Nat} (hf : ∀ c, f { (default : Tranche W) with configuration := c } = 0) (t : W) :
      f (m.tranches t) = 0 := by
    rw [h.blank t]
    exact hf _
  have none {f : Tranche W → Nat} (hf : ∀ c, f { (default : Tranche W) with configuration := c } = 0) :
      (m.trancheIds.map fun t => f (m.tranches t)).sum = 0 := by
    have hsum : (m.trancheIds.map fun t => f (m.tranches t)).sum = (m.trancheIds.map fun _ => 0).sum :=
      sum_map_same fun t _ => zero hf t
    simpa using hsum
  have hpositions : m.positions = .empty := by rw [h.eq]; rfl
  have hlisted : m.positionsByTranche = .empty := by rw [h.eq]; rfl
  refine ⟨?_, fun t howed => (howed (zero (fun _ => rfl) t)).elim, h.configured, h.distinct,
    fun _ => ⟨zero fun _ => rfl, fun id => .inl ?_, fun id hid => ?_, fun id hid => ?_, fun t => ?_, ?_⟩, ?_⟩
  · rw [hpositions, hlisted]
    exact Holdings.empty.congr (zero fun _ => rfl)
  · rw [hpositions]
    rfl
  · rw [h.eq] at hid
    exact (List.not_mem_nil hid).elim
  · rw [hpositions] at hid
    exact (hid rfl).elim
  · rw [h.blank t]
    rfl
  · rw [fundedOf, none fun _ => rfl, h.eq]
    rfl
  · rw [outstandingOf, none fun _ => rfl, h.eq]
    rfl

theorem Fresh.seeded (h : Fresh m) : m.Seeded := by
  intro t
  rw [h.blank t]
  exact ⟨fun hne => (hne rfl).elim, fun hne => (hne rfl).elim⟩

theorem initialize_inv {vault manager : Address} {accounts : vault ≠ manager} {token : Token}
    {terms : FundingRoundTerms W} {tranches : List (TrancheConfiguration W)}
    (created : initializeVault vault manager accounts token terms tranches now = .ok s) :
    Inv s ∧ s.positions.held = 0 ∧ ∀ id, (s.commitments id).status = .none := by
  simp only [initializeVault, block_eq_ok] at created
  obtain ⟨-, positions, hfold, rfl⟩ := created
  have hfresh : Fresh positions :=
    foldlM_invariant Fresh (fun _ _ _ _ hstep hm => hm.configureTranche hstep) hfold fresh_default
  have hoff : positions.fundingActivated = false := by rw [hfresh.eq]; rfl
  have hheld : positions.held = 0 := by rw [hfresh.eq]; rfl
  refine ⟨⟨hfresh.sound, ?_, fun _ => hfresh.seeded, fun _ _ heq => (by cases heq), ?_, fun _ => Nat.zero_le _, ?_⟩, hheld, fun _ => rfl⟩
  · dsimp only
    rw [hoff]
    split <;> simp
  · dsimp only
    rw [hfresh.eq]
    rfl
  · dsimp only
    rw [hheld]
    exact Nat.zero_le _

/-! ### Refunds -/

/-- One for a call that refunds the commitment. -/
def refundsOf (id : W) (call : Context × Call W) (_ _ : SyndicateVault W) : Nat :=
  match call.2 with
  | .refund id' => if id' = id then 1 else 0
  | _ => 0

/-- One for a commitment that has been refunded. -/
def refunded (id : W) (s : SyndicateVault W) : Nat := if (s.commitments id).status = .refunded then 1 else 0

theorem foldl_activateCommitment (ids : List W) (commitments : Mapping W (Commitment W)) (id : W) :
    (ids.foldl activateCommitment commitments id).status = (commitments id).status ∨
      (ids.foldl activateCommitment commitments id).status = .positionActive := by
  induction ids generalizing commitments with
  | nil => exact .inl rfl
  | cons id' _ ih =>
    rcases ih (activateCommitment commitments id') with hsame | hactive
    · rw [List.foldl_cons, hsame, activateCommitment, Mapping.modify_apply]
      split
      · exact .inr rfl
      · exact .inl rfl
    · exact .inr hactive

theorem refunded_of_status (h : (s'.commitments id).status = (s.commitments id).status) :
    refunded id s' = refunded id s := by
  unfold refunded
  rw [h]

theorem managed_frame {call : Except Revert (PositionManager W)} (hcall : s.managed call = .ok s') :
    s'.commitments = s.commitments ∧ s'.roundStatus = s.roundStatus := by
  simp only [SyndicateVault.managed, bind_eq_ok, pure_eq_ok] at hcall
  obtain ⟨_, -, rfl⟩ := hcall
  exact ⟨rfl, rfl⟩

theorem withdraw_frame (hcall : s.withdraw owner = .ok s') :
    s'.commitments = s.commitments ∧ s'.roundStatus = s.roundStatus := by
  obtain ⟨-, -, -, -, -, rfl⟩ := withdraw_eq_ok.mp hcall
  exact ⟨rfl, rfl⟩

theorem withdrawDistribution_frame (hcall : s.withdrawDistribution context id = .ok s') :
    s'.commitments = s.commitments ∧ s'.roundStatus = s.roundStatus := by
  simp only [SyndicateVault.withdrawDistribution, bind_eq_ok] at hcall
  obtain ⟨_, hmanaged, hcall⟩ := hcall
  have hfirst := managed_frame hmanaged
  have hsecond := withdraw_frame hcall
  exact ⟨hsecond.1.trans hfirst.1, hsecond.2.trans hfirst.2⟩

theorem Inv.repay_frame (h : Inv s) (hcall : s.repay context paymentId amount journalRef = .ok s') :
    s'.commitments = s.commitments ∧ (s'.roundStatus = .active ∨ s'.roundStatus = .closed) := by
  simp only [SyndicateVault.repay, block_eq_ok, pullExact] at hcall
  obtain ⟨⟨hactive, -⟩, -, _, ⟨_, -, -, rfl⟩, _, hdist, hcall⟩ := hcall
  obtain ⟨_, _, rfl⟩ := (distribute_pays (by exact h.sound) hdist).eq
  split at hcall
  · simp only [block_eq_ok] at hcall
    obtain ⟨-, rfl⟩ := hcall
    exact ⟨rfl, .inr rfl⟩
  · rw [pure_eq_ok] at hcall
    subst hcall
    exact ⟨rfl, .inl hactive⟩

/-- A commitment is marked as refunded by its refund, and stays so. -/
theorem exec_refunded (h : Inv s) (hcall : exec call s = .ok s') (id : W) :
    refunded id s' = refunded id s + refundsOf id call s s' := by
  obtain ⟨context, call⟩ := call
  simp only [SyndicateVault.exec, block_eq_ok] at hcall
  obtain ⟨-, hcall⟩ := hcall
  have same (heq : s'.commitments = s.commitments) : refunded id s' = refunded id s :=
    refunded_of_status (by rw [heq])
  have none {u : SyndicateVault W} (hne : (u.commitments id).status ≠ .refunded) : refunded id u = 0 := if_neg hne
  cases call with
  | openRound =>
    simp only [SyndicateVault.openRound, block_eq_ok] at hcall
    exact same (by rw [← hcall.2])
  | commit =>
    simp only [SyndicateVault.commit, block_eq_ok, pullExact] at hcall
    obtain ⟨⟨-, -, -, -, hfresh, -, -⟩, _, -, _, -, -, rfl⟩ := hcall
    simp only [refunded, refundsOf, Mapping.set_apply]
    split
    · next hid => simp [hid, hfresh]
    · rfl
  | finalize =>
    simp only [SyndicateVault.finalize, block_eq_ok] at hcall
    obtain ⟨⟨hopened, -, -⟩, hcall⟩ := hcall
    split at hcall
    · simp only [block_eq_ok] at hcall
      exact same (by rw [← hcall.2])
    · simp only [bind_eq_ok, transferExact, pure_eq_ok] at hcall
      obtain ⟨_, -, _, ⟨_, -, rfl⟩, rfl⟩ := hcall
      have hne := h.unrefunded (.inr hopened) id
      refine (none ?_).trans (none hne).symm
      rcases foldl_activateCommitment s.commitmentIds s.commitments id with hs | hs
      · exact hs.trans_ne hne
      · exact hs.trans_ne (by simp)
  | cancelRound =>
    simp only [SyndicateVault.cancelRound, block_eq_ok] at hcall
    exact same (by rw [← hcall.2.2])
  | refund commitmentId =>
    simp only [SyndicateVault.refund, block_eq_ok, transferExact] at hcall
    obtain ⟨-, hfunded, _, -, _, -, rfl⟩ := hcall
    simp only [refunded, refundsOf, Mapping.set_apply]
    by_cases hid : id = commitmentId
    · subst hid
      simp [hfunded]
    · simp [hid, Ne.symm hid]
  | repay => exact same (h.repay_frame hcall).1
  | withdrawDistribution => exact same (withdrawDistribution_frame hcall).1
  | withdrawAvailable => exact same (withdraw_frame hcall).1
  | transferTokens =>
    simp only [bind_eq_ok, pure_eq_ok] at hcall
    obtain ⟨_, -, rfl⟩ := hcall
    exact same rfl
  | _ => exact same (managed_frame hcall).1

/-! ### Withdrawals -/

/-- The withdrawals of an owner: of all that is credited, or with the accrued distribution of one position. -/
def withdrawal : Option W → Call W
  | none => .withdrawAvailable
  | some positionId => .withdrawDistribution positionId

/-- The owner has something to withdraw. -/
def Entitled (s : SyndicateVault W) (owner : Address) : Option W → Prop
  | none => s.positions.withdrawable owner ≠ 0
  | some id => (s.positions.positions id).status ≠ .none ∧ (s.positions.positions id).owner = owner ∧
    s.positions.withdrawable owner + s.positions.accruedDistribution id ≠ 0

theorem settleAccrued_withdrawable (m : PositionManager W) (p : Position W) (owner : Address) :
    (m.settleAccrued p).withdrawable owner =
      m.withdrawable owner + if p.owner = owner then m.accruedDistribution p.positionId else 0 := by
  unfold settleAccrued
  split
  · next hzero => rw [hzero, ite_self, Nat.add_zero]
  · exact Mapping.modify_add_apply _ _ _ _

theorem settleAccrued_accrued (m : PositionManager W) (p : Position W) (hne : id ≠ p.positionId) :
    (m.settleAccrued p).accruedDistribution id = m.accruedDistribution id := by
  unfold settleAccrued
  split
  · rfl
  · exact Mapping.set_of_ne _ _ hne

theorem Inv.credited_le (h : Inv s) (owner : Address) : s.positions.withdrawable owner ≤ s.token.balances s.manager := by
  have hle := s.positions.withdrawable.weight_le_sum counter_vanishes owner
  have hsolvent := h.solvent
  simp only [held] at hsolvent
  omega

theorem Inv.withdraw_succeeds (h : Inv s) (hne : owner ≠ s.manager) :
    (∃ s', s.withdraw owner = .ok s') ↔ s.manager ≠ 0 ∧ owner ≠ 0 ∧ s.positions.withdrawable owner ≠ 0 := by
  simp only [withdraw_eq_ok]
  constructor
  · rintro ⟨_, hcredit, hman, howner, -⟩
    exact ⟨hman, howner, hcredit⟩
  · rintro ⟨hman, howner, hcredit⟩
    exact ⟨_, hcredit, hman, howner, fun heq => (hne heq.symm).elim, h.credited_le owner, rfl⟩

/-- A withdrawal succeeds exactly for an owner with something to withdraw. -/
theorem Inv.withdrawal_succeeds (h : Inv s) (x : Option W) : (∃ s', SyndicateVault.exec (context, withdrawal x) s = .ok s') ↔
    (context.caller ≠ s.vault ∧ context.caller ≠ s.manager) ∧ s.manager ≠ 0 ∧ context.caller ≠ 0 ∧
      Entitled s context.caller x := by
  cases x with
  | none =>
    simp only [SyndicateVault.exec, withdrawal, block_eq_ok, exists_and_left]
    exact and_congr_right fun hcaller => h.withdraw_succeeds hcaller.2
  | some id =>
    simp only [SyndicateVault.exec, withdrawal, block_eq_ok, exists_and_left]
    refine and_congr_right fun hcaller => ?_
    have hinv := h.settles (settleAccrued_settles s.positions (s.positions.positions id))
    have hpaid := hinv.withdraw_succeeds hcaller.2
    simp only [SyndicateVault.withdrawDistribution, SyndicateVault.managed, PositionManager.withdrawDistribution,
      block_eq_ok, position_eq_ok, Entitled]
    constructor
    · rintro ⟨s', _, ⟨_, ⟨_, ⟨known, rfl⟩, howner, rfl⟩, rfl⟩, hwithdraw⟩
      obtain ⟨hman, hne, hcredit⟩ := hpaid.mp ⟨s', hwithdraw⟩
      rw [settleAccrued_withdrawable, if_pos howner, h.sound.holdings.named id known] at hcredit
      exact ⟨hman, hne, known, howner, hcredit⟩
    · rintro ⟨hman, hne, known, howner, hcredit⟩
      obtain ⟨s', hwithdraw⟩ := hpaid.mpr ⟨hman, hne, by
        rw [settleAccrued_withdrawable, if_pos howner, h.sound.holdings.named id known]
        exact hcredit⟩
      exact ⟨s', _, ⟨_, ⟨_, ⟨known, rfl⟩, howner, rfl⟩, rfl⟩, hwithdraw⟩

/-- A withdrawal leaves the positions and what the other owners are credited with. -/
structure Untouched (s s' : SyndicateVault W) (caller : Address) : Prop where
  accounts : s'.vault = s.vault ∧ s'.manager = s.manager
  positions : s'.positions.positions = s.positions.positions
  withdrawable : ∀ owner, owner ≠ caller → s'.positions.withdrawable owner = s.positions.withdrawable owner
  accrued : ∀ id, (s.positions.positions id).status ≠ .none → (s.positions.positions id).owner ≠ caller →
    s'.positions.accruedDistribution id = s.positions.accruedDistribution id

theorem withdraw_untouched (hcall : s.withdraw caller = .ok s') : Untouched s s' caller := by
  obtain ⟨-, -, -, -, -, rfl⟩ := withdraw_eq_ok.mp hcall
  exact ⟨⟨rfl, rfl⟩, rfl, fun owner hne => Mapping.set_of_ne _ _ hne, fun _ _ _ => rfl⟩

theorem Inv.untouched (h : Inv s) (hcall : SyndicateVault.exec (context, withdrawal x) s = .ok s') :
    Untouched s s' context.caller := by
  cases x with
  | none =>
    simp only [SyndicateVault.exec, withdrawal, block_eq_ok] at hcall
    exact withdraw_untouched hcall.2
  | some id =>
    simp only [SyndicateVault.exec, withdrawal, SyndicateVault.withdrawDistribution, SyndicateVault.managed,
      PositionManager.withdrawDistribution, block_eq_ok, position_eq_ok] at hcall
    obtain ⟨-, _, ⟨_, ⟨_, ⟨known, rfl⟩, howner, rfl⟩, rfl⟩, hcall⟩ := hcall
    have hkeep := withdraw_untouched hcall
    have hpositions : (s.positions.settleAccrued (s.positions.positions id)).positions = s.positions.positions := by
      obtain ⟨_, _, _, _, heq, -⟩ := settleAccrued_settles s.positions (s.positions.positions id)
      rw [heq]
    refine ⟨hkeep.accounts, hkeep.positions.trans hpositions, fun owner hne => ?_, fun id' known' hother => ?_⟩
    · rw [hkeep.withdrawable owner hne, settleAccrued_withdrawable, if_neg, Nat.add_zero]
      exact fun heq => hne (heq.symm.trans howner)
    · have hne : id' ≠ (s.positions.positions id).positionId := by
        rw [h.sound.holdings.named id known]
        rintro rfl
        exact hother howner
      rw [hkeep.accrued id' (by rwa [hpositions]) (by rwa [hpositions]), settleAccrued_accrued _ _ hne]

theorem Untouched.entitled {owner : Address} (h : Untouched s s' caller) (hne : owner ≠ caller)
    (hent : Entitled s owner y) : Entitled s' owner y := by
  cases y with
  | none => exact (h.withdrawable owner hne).trans_ne hent
  | some id =>
    obtain ⟨known, howner, hdue⟩ := hent
    refine ⟨by rwa [h.positions], by rwa [h.positions], ?_⟩
    rwa [h.withdrawable owner hne, h.accrued id known (howner.trans_ne hne)]

/-- No withdrawal takes what another owner could have withdrawn. -/
theorem Inv.withdrawal_other (h : Inv s) {other : Context} (hne : other.caller ≠ context.caller)
    (hcall : SyndicateVault.exec (context, withdrawal x) s = .ok s')
    (hother : ∃ u, SyndicateVault.exec (other, withdrawal y) s = .ok u) :
    ∃ u, SyndicateVault.exec (other, withdrawal y) s' = .ok u := by
  have hkeep := h.untouched hcall
  obtain ⟨hvault, hmanager⟩ := hkeep.accounts
  obtain ⟨hcaller, hman, hzero, hent⟩ := (h.withdrawal_succeeds y).mp hother
  refine ((h.exec hcall).1.withdrawal_succeeds y).mpr ⟨?_, by rwa [hmanager], hzero, hkeep.entitled hne hent⟩
  rwa [hvault, hmanager]

/-! ### The books of a run -/

/-- The books of a loan after a run from its creation. -/
structure Balanced (s₀ : SyndicateVault W) (calls : List (Context × Call W)) (s : SyndicateVault W) : Prop where
  shares : s.positions.fundingActivated = true → ∀ t ∈ s.positions.trancheIds,
    ((s.positions.positionsByTranche t).map fun id => (s.positions.positions id).shares).sum =
      (s.positions.tranches t).totalShares
  claims : s.positions.fundingActivated = true → ∀ t ∈ s.positions.trancheIds,
    ((s.positions.positionsByTranche t).map fun id => s.positions.claimUnits (s.positions.positions id)).sum =
      (s.positions.tranches t).outstandingPrincipal
  claimable : ∀ t, (s.positions.tranches t).outstandingPrincipal < 2 ^ 255 → ∀ id ∈ s.positions.positionsByTranche t,
    s.positions.ClaimFits (s.positions.positions id)
  principal : s.positions.fundingActivated = true →
    (s.positions.trancheIds.map fun t => (s.positions.tranches t).outstandingPrincipal).sum =
      s.positions.totalOutstandingPrincipal ∧ s.positions.totalOutstandingPrincipal = s.outstandingPrincipal
  credits : s.positions.accruedDistribution.sum (fun _ n => n) + s.positions.withdrawable.sum (fun _ n => n) +
    runTotal exec withdrawn s₀ calls = runTotal exec repaid s₀ calls
  solvent : s.positions.accruedDistribution.sum (fun _ n => n) + s.positions.withdrawable.sum (fun _ n => n) ≤
    s.token.balances s.manager
  withdrawals : ∀ (context other : Context) (x y : Option W) s', other.caller ≠ context.caller →
    exec (context, withdrawal x) s = .ok s' → (∃ u, exec (other, withdrawal y) s = .ok u) →
    ∃ u, exec (other, withdrawal y) s' = .ok u
  covered : s.positions.fundingActivated = false →
    s.commitments.sum (fun _ c => if c.status = .funded then c.amount else 0) ≤ s.token.balances s.vault
  refundedOnce : ∀ id, runTotal exec (refundsOf id) s₀ calls ≤ 1
  refundedBefore : s.positions.fundingActivated = true → ∀ later context id s',
    exec (context, .refund id) (runCalls exec s later) ≠ .ok s'

/-- The calls that are left once a loan has been activated. -/
def Servicing : Call W → Prop
  | .openRound => False
  | .commit .. => False
  | .finalize .. => False
  | .cancelRound .. => False
  | .refund .. => False
  | _ => True

theorem exec_servicing (hcall : exec call s = .ok s') (hon : s.roundStatus = .active ∨ s.roundStatus = .closed) :
    Servicing call.2 := by
  obtain ⟨context, call⟩ := call
  simp only [SyndicateVault.exec, block_eq_ok] at hcall
  obtain ⟨-, hcall⟩ := hcall
  have ended (hs : s.roundStatus = .scheduled ∨ s.roundStatus = .opened ∨ s.roundStatus = .failed ∨
      s.roundStatus = .cancelled) : False := by
    rcases hs with hs | hs | hs | hs <;> simp [hs] at hon
  cases call with
  | openRound =>
    simp only [SyndicateVault.openRound, block_eq_ok] at hcall
    exact ended (.inl hcall.1.1)
  | commit =>
    simp only [SyndicateVault.commit, block_eq_ok] at hcall
    exact ended (.inr (.inl hcall.1.1))
  | finalize =>
    simp only [SyndicateVault.finalize, block_eq_ok] at hcall
    exact ended (.inr (.inl hcall.1.1))
  | cancelRound =>
    simp only [SyndicateVault.cancelRound, block_eq_ok] at hcall
    rcases hcall.1.2.2 with hs | hs
    · exact ended (.inl hs)
    · exact ended (.inr (.inl hs))
  | refund =>
    simp only [SyndicateVault.refund, block_eq_ok] at hcall
    exact ended (.inr (.inr hcall.1))
  | _ => trivial

theorem exec_activated (h : Inv s) (hcall : exec call s = .ok s')
    (hon : s.roundStatus = .active ∨ s.roundStatus = .closed) :
    s'.roundStatus = .active ∨ s'.roundStatus = .closed := by
  have hserv := exec_servicing hcall hon
  obtain ⟨context, call⟩ := call
  simp only [SyndicateVault.exec, block_eq_ok] at hcall
  obtain ⟨-, hcall⟩ := hcall
  have same (heq : s'.roundStatus = s.roundStatus) : s'.roundStatus = .active ∨ s'.roundStatus = .closed := by rwa [heq]
  cases call with
  | openRound | commit | finalize | cancelRound | refund => exact hserv.elim
  | repay => exact (h.repay_frame hcall).2
  | withdrawDistribution => exact same (withdrawDistribution_frame hcall).2
  | withdrawAvailable => exact same (withdraw_frame hcall).2
  | transferTokens =>
    simp only [bind_eq_ok, pure_eq_ok] at hcall
    obtain ⟨_, -, rfl⟩ := hcall
    exact hon
  | _ => exact same (managed_frame hcall).2

theorem inv_step (call : Context × Call W) (s s' : SyndicateVault W) (hcall : exec call s = .ok s') (h : Inv s) : Inv s' :=
  (h.exec hcall).1

theorem books_balance {vault manager : Address} {accounts : vault ≠ manager} {token : Token} {terms : FundingRoundTerms W}
    {tranches : List (TrancheConfiguration W)} {now : Nat} {s₀ : SyndicateVault W}
    (created : initializeVault vault manager accounts token terms tranches now = .ok s₀) (calls : List (Context × Call W)) :
    Balanced s₀ calls (runCalls exec s₀ calls) := by
  obtain ⟨h₀, hheld, hnone⟩ := initialize_inv created
  have hinv : Inv (runCalls exec s₀ calls) := runCalls_invariant Inv inv_step h₀ calls
  have hcredits := runTotal_balance exec repaid withdrawn Inv inv_step (fun s => s.positions.held)
    (fun _ _ _ hcall h => (h.exec hcall).2) h₀ calls
  refine ⟨fun _ t _ => hinv.sound.holdings.shares t, fun _ t _ => hinv.sound.sum_claimUnits t,
    fun _ hbound _ hmem => hinv.sound.claimFits hbound hmem,
    fun _ => ⟨hinv.sound.outstanding, hinv.outstanding.symm⟩, ?_, hinv.solvent,
    fun _ _ _ _ _ hne hcall hother => hinv.withdrawal_other hne hcall hother, hinv.covered, fun id => ?_, ?_⟩
  · simp only [hheld, Nat.zero_add] at hcredits
    exact hcredits
  · have hrefunds := runTotal_balance exec (refundsOf id) (fun _ _ _ => 0) Inv inv_step (refunded id)
      (fun _ _ _ hcall h => exec_refunded h hcall id) h₀ calls
    have hle : refunded id (runCalls exec s₀ calls) ≤ 1 := by unfold refunded; split <;> omega
    have hzero : refunded id s₀ = 0 := if_neg (by simp [hnone id])
    rw [runTotal_zero] at hrefunds
    omega
  · intro hon later context id s' hcall
    obtain ⟨-, hend⟩ : Inv (runCalls exec (runCalls exec s₀ calls) later) ∧ _ :=
      runCalls_invariant (fun s => Inv s ∧ (s.roundStatus = .active ∨ s.roundStatus = .closed))
        (fun c s t hstep h => ⟨inv_step c s t hstep h.1, exec_activated h.1 hstep h.2⟩) ⟨hinv, hinv.activated.mp hon⟩ later
    exact exec_servicing hcall hend

/-! ### A loan of two lenders -/

def toyTerms : FundingRoundTerms Term := ⟨.lit 1, .lit 2, .lit 3, .lit 4, .lit 5, 9, .lit 6, 1, 2, 2, 0, 10, 20, 5, 1⟩

def toyTranches : List (TrancheConfiguration Term) := [⟨.lit 7, .lit 8, 1, 2, 500, 10000, .freelyTransferable⟩]

def toyToken : Token := ((default : Token).credit 11 1).credit 12 1

def toyContext (caller : Address) : Context := ⟨caller, 1, false, true⟩

/-- Two lenders fund one unit each. -/
def toyFunding : List (Context × Call Term) :=
  [(toyContext 11, .commit (.lit 21) (.lit 7) 1), (toyContext 12, .commit (.lit 22) (.lit 7) 1)]

/-- The loan is activated, and the borrower repays it in two payments. -/
def toyRepayment : List (Context × Call Term) :=
  [(toyContext 9, .repay (.lit 31) 1 (.lit 41)), (toyContext 9, .repay (.lit 32) 1 (.lit 42))]

def toyCalls : List (Context × Call Term) := toyFunding ++ (toyContext 11, .finalize (.lit 40)) :: toyRepayment

def toyCreated : Except Revert (SyndicateVault Term) := initializeVault 101 102 (by decide) toyToken toyTerms toyTranches 0

theorem books_balance_toy : ∃ s, toyCreated = .ok s ∧ (runCalls exec s toyCalls).positions.held = 2 ∧
    Balanced s toyCalls (runCalls exec s toyCalls) := by
  obtain ⟨s, hs⟩ := exists_of_isOk (x := toyCreated) (by decide +kernel)
  have hheld : toyCreated.map (fun s => (runCalls exec s toyCalls).positions.held) = .ok 2 := by decide +kernel
  rw [hs] at hheld
  exact ⟨s, hs, Except.ok.inj hheld, books_balance hs toyCalls⟩

end SyndicateVault

end Unified.Syndicate
