import Unified.CrossChain.HomeSteps

/-! The state machine of a home loan account: its transitions, what each phase of a loan knows, and
    what no transition takes back. -/

namespace Unified.CrossChain.LoanAccount

variable {W : Type}

section

variable [Evm W] {acc acc' : LoanAccount W}

inductive Moves (acc : LoanAccount W) : LoanAccount W → Prop
  | mintReported (operationId : W) (activating : acc.state = .activating) : Moves acc (acc.mintReported operationId)
  | collateralReported {next : LoanAccount W} (operationId : W)
      (unfinished : acc.state = .activating ∨ acc.state = .recoveryPending)
      (advanced : next = acc.collateralReported operationId ∨ next = (acc.collateralReported operationId).advanceState) :
      Moves acc next
  | disbursementReported (unfinished : acc.state = .activating ∨ acc.resolvesCancellationRace = true) :
      Moves acc acc.disbursementReported
  | releaseReported (closing : acc.state = .closing) : Moves acc acc.releaseReported
  | cancellationRequested (cancellationId messageId tombstoneHash : W) (activating : acc.state = .activating) :
      Moves acc (acc.cancellationRequested cancellationId messageId tombstoneHash)
  | refunded {next : LoanAccount W} (cancellationId : W) (pending : acc.state = .recoveryPending)
      (advanced : next = acc.refunded cancellationId ∨ next = (acc.refunded cancellationId).advanceState) :
      Moves acc next
  | repaid (paymentId : W) (amount : Nat) (active : acc.state = .active) : Moves acc (acc.repaid paymentId amount)
  | compensated {next : LoanAccount W} (activating : acc.state = .activating)
      (advanced : next = acc.compensated ∨ next = acc.compensated.advanceState) : Moves acc next

theorem Moves.state_ne (h : acc.Moves acc') : acc.state ≠ .none := by
  cases h with
  | mintReported _ activating | cancellationRequested _ _ _ activating | compensated activating => simp [activating]
  | collateralReported _ unfinished => rcases unfinished with hs | hs <;> simp [hs]
  | disbursementReported unfinished =>
    rcases unfinished with hs | hrace
    · simp [hs]
    · simp only [resolvesCancellationRace, Bool.and_eq_true, beq_iff_eq] at hrace
      simp [hrace.1.1.1.1]
  | releaseReported closing => simp [closing]
  | refunded _ pending => simp [pending]
  | repaid _ _ active => simp [active]

/-- The loan is over: repaid after it was disbursed, or its funding returned. -/
structure Finished (acc : LoanAccount W) : Prop where
  state : acc.state = .closing ∨ acc.state = .closed
  undrawn : acc.outstandingPrincipal = 0
  reason : acc.fundingRefunded = true ∨ acc.activated = true

/-- What an account knows about its loan in each state. -/
def Phase (acc : LoanAccount W) : Prop :=
  match acc.state with
  | .none => acc.fundingRefunded = false ∧ acc.activated = false
  | .activating => acc.outstandingPrincipal = 0 ∧ acc.fundingRefunded = false ∧ acc.activated = false
  | .active => acc.fundingRefunded = false ∧ acc.activated = true
  | .recoveryPending => acc.outstandingPrincipal = 0 ∧ acc.activated = false
  | .closing | .closed => acc.outstandingPrincipal = 0 ∧ (acc.fundingRefunded = true ∨ acc.activated = true)
  | .disputed => False

structure Kept (acc acc' : LoanAccount W) : Prop where
  terms : acc'.terms = acc.terms
  satellite : acc'.satellite = acc.satellite
  refunded : acc.fundingRefunded = true → acc'.fundingRefunded = true
  activated : acc.activated = true → acc'.activated = true
  finished : acc.Finished → acc'.Finished ∧ acc'.collateralReleaseMessageId = acc.collateralReleaseMessageId

theorem Kept.refl (acc : LoanAccount W) : acc.Kept acc := ⟨rfl, rfl, fun h => h, fun h => h, fun h => ⟨h, rfl⟩⟩

theorem Kept.trans {acc'' : LoanAccount W} (h : acc.Kept acc') (h' : acc'.Kept acc'') : acc.Kept acc'' where
  terms := h'.terms.trans h.terms
  satellite := h'.satellite.trans h.satellite
  refunded hr := h'.refunded (h.refunded hr)
  activated ha := h'.activated (h.activated ha)
  finished hf := by
    obtain ⟨hf', hm⟩ := h.finished hf
    obtain ⟨hf'', hm'⟩ := h'.finished hf'
    exact ⟨hf'', hm'.trans hm⟩

theorem Phase.finished (h : acc.Phase) (hs : acc.state = .closing ∨ acc.state = .closed) : acc.Finished := by
  unfold Phase at h
  rcases hs with hs | hs <;> rw [hs] at h <;> exact ⟨by simp [hs], h.1, h.2⟩

theorem Phase.activated_of_active (h : acc.Phase) (hs : acc.state = .active) : acc.activated = true := by
  unfold Phase at h
  rw [hs] at h
  exact h.2

theorem Phase.unactivated (h : acc.Phase) (hs : acc.state = .activating ∨ acc.state = .recoveryPending) :
    acc.activated = false := by
  unfold Phase at h
  rcases hs with hs | hs <;> rw [hs] at h
  · exact h.2.2
  · exact h.2

theorem Phase.undrawn (h : acc.Phase) (hr : acc.fundingRefunded = true) :
    acc.outstandingPrincipal = 0 ∧ (acc.state = .recoveryPending ∨ acc.state = .closing ∨ acc.state = .closed) := by
  unfold Phase at h
  split at h <;> simp_all

end

variable [CollisionFree W] {D : Deployment W} {c : Coordinator W} {a : Address} {acc acc' : LoanAccount W}
  {sent : Option (MessageEnvelope W)} {x : CrossChainActionType}

theorem operationKey_inj {x' : CrossChainActionType} {i i' : W} (h : operationKey x i = operationKey x' i') :
    x = x' := by
  have hdata := (CollisionFree.keccak256_inj h).2
  simp only [List.cons.injEq, Datum.uint.injEq] at hdata
  exact CrossChainActionType.ordinal_inj hdata.1

theorem repaymentOperationKey_ne (i i' : W) (x : CrossChainActionType) : operationKey x i ≠ repaymentOperationKey i' := by
  intro heq
  have hdata := (CollisionFree.keccak256_inj heq).2
  simp at hdata

/-- Only the settled disbursement activates an account. -/
theorem activated_process (acc : LoanAccount W) {key : W}
    (hkey : operationKey .satelliteDisbursementSettled acc.terms.fundingLockId ≠ key) :
    (acc.process key).activated = acc.activated := by
  simp only [activated, process, Mapping.set_apply]
  exact if_neg hkey

theorem activated_operation (acc : LoanAccount W) (i : W) (hx : x ≠ .satelliteDisbursementSettled) :
    (acc.process (operationKey x i)).activated = acc.activated :=
  activated_process acc fun heq => hx (operationKey_inj heq).symm

theorem activated_mintReported (acc : LoanAccount W) (i : W) : (acc.mintReported i).activated = acc.activated :=
  activated_operation acc i (by simp)

theorem activated_collateralReported (acc : LoanAccount W) (i : W) : (acc.collateralReported i).activated = acc.activated :=
  activated_operation acc i (by simp)

theorem activated_refunded (acc : LoanAccount W) (i : W) : (acc.refunded i).activated = acc.activated :=
  activated_operation acc i (by simp)

theorem activated_repaid (acc : LoanAccount W) (i : W) (amount : Nat) : (acc.repaid i amount).activated = acc.activated :=
  activated_process acc (repaymentOperationKey_ne _ _ _)

theorem activated_disbursementReported : acc.disbursementReported.activated = true := Mapping.set_self ..

theorem Moves.phase (h : acc.Moves acc') (hp : acc.Phase) : acc'.Phase := by
  cases h with
  | mintReported i activating =>
    unfold Phase at hp ⊢
    rw [activating] at hp
    rw [show (acc.mintReported i).state = _ from activating]
    exact ⟨hp.1, hp.2.1, (activated_mintReported acc i).trans hp.2.2⟩
  | collateralReported i unfinished advanced =>
    -- The two outcomes differ in the state nonce only.
    have key : (acc.collateralReported i).Phase := by
      unfold Phase at hp ⊢
      rcases unfinished with hs | hs <;> rw [hs] at hp <;> rw [show (acc.collateralReported i).state = _ from hs]
      · exact ⟨hp.1, hp.2.1, (activated_collateralReported acc i).trans hp.2.2⟩
      · exact ⟨hp.1, (activated_collateralReported acc i).trans hp.2⟩
    rcases advanced with rfl | rfl
    · exact key
    · exact key
  | disbursementReported unfinished =>
    refine ⟨?_, activated_disbursementReported⟩
    change acc.fundingRefunded = false
    rcases unfinished with hs | hrace
    · unfold Phase at hp
      rw [hs] at hp
      exact hp.2.1
    · simp only [resolvesCancellationRace, Bool.and_eq_true, Bool.not_eq_true'] at hrace
      exact hrace.2
  | releaseReported closing =>
    unfold Phase at hp
    rw [closing] at hp
    exact hp
  | cancellationRequested _ _ _ activating =>
    unfold Phase at hp
    rw [activating] at hp
    exact ⟨hp.1, hp.2.2⟩
  | refunded i pending advanced =>
    have key : (acc.refunded i).Phase := by
      unfold Phase at hp ⊢
      rw [pending] at hp
      rw [show (acc.refunded i).state = _ from pending]
      exact ⟨hp.1, (activated_refunded acc i).trans hp.2⟩
    rcases advanced with rfl | rfl
    · exact key
    · exact key
  | repaid i amount active =>
    unfold Phase at hp ⊢
    rw [active] at hp
    rw [show (acc.repaid i amount).state = _ from active]
    exact ⟨hp.1, (activated_repaid acc i amount).trans hp.2⟩
  | compensated activating advanced =>
    have key : acc.compensated.Phase := by
      unfold Phase at hp
      rw [activating] at hp
      exact ⟨hp.1, hp.2.2⟩
    rcases advanced with rfl | rfl
    · exact key
    · exact key

/-- An account whose state is not final keeps what it recorded. -/
theorem Kept.of_unfinished (hs : acc.state ≠ .closing ∧ acc.state ≠ .closed) (terms : acc'.terms = acc.terms)
    (satellite : acc'.satellite = acc.satellite) (refunded : acc.fundingRefunded = true → acc'.fundingRefunded = true)
    (activated : acc.activated = true → acc'.activated = true) : acc.Kept acc' :=
  ⟨terms, satellite, refunded, activated, fun h => (h.state.elim hs.1 hs.2).elim⟩

theorem Moves.kept (h : acc.Moves acc') : acc.Kept acc' := by
  cases h with
  | mintReported i activating =>
    exact .of_unfinished (by simp [activating]) rfl rfl (fun h => h) (activated_mintReported acc i).trans
  | collateralReported i unfinished advanced =>
    have hs : acc.state ≠ .closing ∧ acc.state ≠ .closed := by rcases unfinished with hs | hs <;> simp [hs]
    rcases advanced with rfl | rfl <;>
      exact .of_unfinished hs rfl rfl (fun h => h) (activated_collateralReported acc i).trans
  | disbursementReported unfinished =>
    have hs : acc.state ≠ .closing ∧ acc.state ≠ .closed := by
      rcases unfinished with hs | hrace
      · simp [hs]
      · simp only [resolvesCancellationRace, Bool.and_eq_true, beq_iff_eq] at hrace
        simp [hrace.1.1.1.1]
    exact .of_unfinished hs rfl rfl (fun h => h) fun _ => activated_disbursementReported
  | releaseReported =>
    exact ⟨rfl, rfl, fun h => h, fun h => h, fun h => ⟨⟨.inr rfl, h.undrawn, h.reason⟩, rfl⟩⟩
  | cancellationRequested _ _ _ activating =>
    exact .of_unfinished (by simp [activating]) rfl rfl (fun h => h) fun h => h
  | refunded i pending advanced =>
    rcases advanced with rfl | rfl <;>
      exact .of_unfinished (by simp [pending]) rfl rfl (fun _ => rfl) (activated_refunded acc i).trans
  | repaid i amount active =>
    exact .of_unfinished (by simp [active]) rfl rfl (fun h => h) (activated_repaid acc i amount).trans
  | compensated activating advanced =>
    rcases advanced with rfl | rfl <;> exact .of_unfinished (by simp [activating]) rfl rfl (fun _ => rfl) fun h => h

end Unified.CrossChain.LoanAccount

namespace Unified.CrossChain.Home

variable {W : Type} [CollisionFree W] {D : Deployment W} {c : Coordinator W} {a : Address} {acc acc' : LoanAccount W}
  {sent : Option (MessageEnvelope W)}

theorem Asks.fundingRefunded (h : Asks D c a acc acc' sent) : acc'.fundingRefunded = acc.fundingRefunded := by
  cases h <;> rfl

theorem Asks.activated (h : Asks D c a acc acc' sent) : acc'.activated = acc.activated := by
  cases h <;> rfl

theorem Asks.phase (h : Asks D c a acc acc' sent) (hp : acc.Phase) : acc'.Phase := by
  cases h with
  | nothing | disbursement => exact hp
  | release due =>
    unfold LoanAccount.Phase at hp
    rcases due with ⟨hs, hr⟩ | ⟨hs, hz⟩
    · rw [hs] at hp
      exact ⟨hp.1, .inl hr⟩
    · rw [hs] at hp
      exact ⟨hz, .inr hp.2⟩

theorem Asks.kept (h : Asks D c a acc acc' sent) : acc.Kept acc' := by
  cases h with
  | nothing => exact .refl _
  | disbursement => exact ⟨rfl, rfl, fun h => h, fun h => h, fun h => ⟨⟨h.state, h.undrawn, h.reason⟩, rfl⟩⟩
  | release due =>
    refine .of_unfinished ?_ rfl rfl (fun h => h) fun h => h
    rcases due with ⟨hs, -⟩ | ⟨hs, -⟩ <;> simp [hs]

end Unified.CrossChain.Home
