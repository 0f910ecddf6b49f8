import Unified.CrossChain.LoanLifecycle

/-! What holds on the home chain after any calls: where its messages come from, how a lock and a loan
    account are bound to each other and to the messages that moved them. -/

namespace Unified.CrossChain

open Mapping LoanAccount

variable {W : Type}

def LockRecord.terms (r : LockRecord W) : LockRecord W := { r with state := .none }

theorem LockRecord.eq_of_terms {r r' : LockRecord W} (h : r'.terms = r.terms) : r' = { r with state := r'.state } := by
  cases r
  cases r'
  simpa [terms] using h

namespace Home

section

variable [Evm W]

/-! ### Evidence -/

structure LockEvidence (D : Deployment W) (h : Home W) (lockId : W) (e : MessageEnvelope W) : Prop where
  recorded : (h.hub.locks lockId).state ≠ .none
  messageId : (h.hub.locks lockId).messageId = e.messageId
  action : e.actionType = .canonicalUftLocked
  payload : e.payloadHash = payloadHash (Hub.mintPayload D lockId (h.hub.locks lockId).loanId
    (h.hub.locks lockId).routePolicyHash (h.hub.locks lockId).recipient (h.hub.locks lockId).amount).encode
  route : e.routePolicyHash = (h.hub.locks lockId).routePolicyHash

/-- A cancellation is only requested under an authorisation for the router and the loan it names. -/
def CancellationEvidence (D : Deployment W) (σ : Nat) (e : MessageEnvelope W) : Prop :=
  ∃ (p : LoanCancellationRequestedPayload W) (r : LoanCancellationAuthorization W),
    e.payloadHash = payloadHash p.encode ∧ p.cancellationId = loanCancellationAuthorizationDigest D.home r ∧
    p.loanId = r.loanId ∧ r.loanRouter = (D.satellite σ).homeLoanRouter

/-- A release is only authorised for an account whose loan is over. -/
def ReleaseEvidence (D : Deployment W) (σ : Nat) (h : Home W) (e : MessageEnvelope W) : Prop :=
  ∃ a, (h.accounts a).terms.loanId ≠ 0 ∧ (h.accounts a).satellite = σ ∧
    e.payloadHash = payloadHash (releasePayload D a (h.accounts a)).encode ∧
    (h.accounts a).collateralReleaseMessageId = e.messageId ∧ (h.accounts a).Finished

inductive Origin (D : Deployment W) (h : Home W) (e : MessageEnvelope W) : Prop
  | foreign (source : ¬ Component D e.sourceComponent)
  | lock {lockId : W} (source : e.sourceComponent = D.homeBridgeHub) (evidence : LockEvidence D h lockId e)
  | instruction {σ : Nat} (source : e.sourceComponent = (D.satellite σ).homeLoanRouter)
      (cancellation : e.actionType = .cancellationRequested → CancellationEvidence D σ e)
      (release : e.actionType = .homeCollateralReleaseAuthorized → ReleaseEvidence D σ h e)

def RefundReport (D : Deployment W) (h : Home W) (σ : Nat) (c : SatelliteFundingCancelledPayload W) : Prop :=
  ∃ e payload, h.endpoint.Executed e payload ∧ e.destinationComponent = (D.satellite σ).homeLoanRouter ∧
    e.actionType = .sourceCompensated ∧ SatelliteFundingCancelledPayload.decode payload = some c

def DisbursementReport (D : Deployment W) (h : Home W) (σ : Nat) (p : LoanLegPayload W) : Prop :=
  ∃ e payload, h.endpoint.Executed e payload ∧ e.destinationComponent = (D.satellite σ).homeLoanRouter ∧
    e.actionType = .satelliteDisbursementSettled ∧ LoanLegPayload.decode payload = some p

structure Locked (D : Deployment W) (h : Home W) (lockId : W) (r : LockRecord W) : Prop where
  known : r.state = .none ∨ r.state = .locked ∨ r.state = .compensated
  sent : r.state ≠ .none → ∃ e, .messageSent e ∈ h.endpoint.coordinator.events ∧ LockEvidence D h lockId e
  loan : r.state ≠ .none → r.loanId ≠ 0 → h.hub.loanAccount r.loanId ≠ 0 ∧ h.hub.loanLock r.loanId = lockId
  compensated : r.state = .compensated → h.endpoint.recovery.sourceCompensation r.messageId ≠ 0 ∨
    (r.loanId ≠ 0 ∧ ∃ σ c, RefundReport D h σ c ∧ c.loanId = r.loanId)

/-- How a deployed account is bound to the hub and to its router. -/
structure Bound (h : Home W) (a : Address) (acc : LoanAccount W) : Prop where
  known : a ≠ 0
  account : h.hub.loanAccount acc.terms.loanId = a
  lock : h.hub.loanLock acc.terms.loanId = acc.terms.fundingLockId
  locked : (h.hub.locks acc.terms.fundingLockId).state ≠ .none
  loan : (h.hub.locks acc.terms.fundingLockId).loanId = acc.terms.loanId
  factory : (h.factories acc.satellite).loanAccount acc.terms.loanId = a

structure Accounted (D : Deployment W) (h : Home W) (a : Address) (acc : LoanAccount W) : Prop where
  bound : acc.terms.loanId ≠ 0 → Bound h a acc
  undeployed : acc.terms.loanId = 0 → acc.state = .none
  phase : acc.Phase
  refunded : acc.fundingRefunded = true →
    h.endpoint.recovery.sourceCompensation (h.hub.locks acc.terms.fundingLockId).messageId ≠ 0 ∨
      ∃ c, RefundReport D h acc.satellite c ∧ c.loanId = acc.terms.loanId
  activated : acc.activated = true → ∃ p, DisbursementReport D h acc.satellite p ∧ p.loanId = acc.terms.loanId ∧
    p.borrower = acc.terms.borrower ∧ p.amount = acc.terms.principalAmount

structure Registered (h : Home W) : Prop where
  isLoan : ∀ σ l, (h.factories σ).loanAccount l ≠ 0 → l ≠ 0
  loan : ∀ σ l, (h.factories σ).loanAccount l ≠ 0 → (h.accounts ((h.factories σ).loanAccount l)).terms.loanId = l
  satellite : ∀ σ l, (h.factories σ).loanAccount l ≠ 0 → (h.accounts ((h.factories σ).loanAccount l)).satellite = σ
  registry : ∀ σ l, (h.factories σ).loanAccount l ≠ 0 → (h.loans l).loanAccount ≠ 0

structure Kept (h t : Home W) (sent : Option (MessageEnvelope W)) : Prop where
  log : h.endpoint.Extends t.endpoint sent
  locks : ∀ x, (h.hub.locks x).state ≠ .none →
    (t.hub.locks x).terms = (h.hub.locks x).terms ∧ (t.hub.locks x).state ≠ .none
  loans : ∀ l, h.hub.loanAccount l ≠ 0 →
    t.hub.loanAccount l = h.hub.loanAccount l ∧ t.hub.loanLock l = h.hub.loanLock l
  factories : ∀ σ l, (h.factories σ).loanAccount l ≠ 0 → (t.factories σ).loanAccount l = (h.factories σ).loanAccount l
  accounts : ∀ a, (h.accounts a).terms.loanId ≠ 0 → (h.accounts a).Kept (t.accounts a)

/-! ### What a step does to each contract -/

inductive LockChange (D : Deployment W) (h t : Home W) : Prop
  | same (locks : t.hub.locks = h.hub.locks) (accounts : t.hub.loanAccount = h.hub.loanAccount)
      (loanLocks : t.hub.loanLock = h.hub.loanLock) (refunds : t.hub.cancellationRefund = h.hub.cancellationRefund)
  | lock {x : W} {r : LockRecord W} {e : MessageEnvelope W} (fresh : (h.hub.locks x).state = .none)
      (state : r.state = .locked) (sent : .messageSent e ∈ t.endpoint.coordinator.events)
      (evidence : LockEvidence D t x e) (locks : t.hub.locks = h.hub.locks.set x r)
      (refunds : t.hub.cancellationRefund = h.hub.cancellationRefund)
      (loan : (r.loanId = 0 ∧ t.hub.loanAccount = h.hub.loanAccount ∧ t.hub.loanLock = h.hub.loanLock) ∨
        (r.loanId ≠ 0 ∧ h.hub.loanAccount r.loanId = 0 ∧ r.loanAccount ≠ 0 ∧
          t.hub.loanAccount = h.hub.loanAccount.set r.loanId r.loanAccount ∧
          t.hub.loanLock = h.hub.loanLock.set r.loanId x))
  | unlock {x : W} (locked : (h.hub.locks x).state = .locked)
      (locks : t.hub.locks = h.hub.locks.set x { h.hub.locks x with state := .compensated })
      (accounts : t.hub.loanAccount = h.hub.loanAccount) (loanLocks : t.hub.loanLock = h.hub.loanLock)
      (reason : (t.endpoint.recovery.sourceCompensation (h.hub.locks x).messageId ≠ 0 ∧
          t.hub.cancellationRefund = h.hub.cancellationRefund) ∨
        ∃ σ c, (h.hub.locks x).loanId ≠ 0 ∧ RefundReport D t σ c ∧ c.loanId = (h.hub.locks x).loanId ∧
          t.hub.cancellationRefund = h.hub.cancellationRefund.set c.cancellationId (h.hub.locks x).loanId)

inductive AccountChange (D : Deployment W) (h t : Home W) : Prop
  | same (accounts : t.accounts = h.accounts)
  | deploy {σ : Nat} {terms : CrossChainLoanTerms W} {a : Address} {m : W} (ok : Creatable D σ terms a h)
      (bound : Bound t a { LoanAccount.deploy terms σ with mintMessageId := m })
      (accounts : t.accounts = h.accounts.set a { LoanAccount.deploy terms σ with mintMessageId := m })
  | move {a : Address} {pending acc : LoanAccount W} {c : Coordinator W} {sent : Option (MessageEnvelope W)}
      (moves : (h.accounts a).Moves pending) (asks : Asks D c a pending acc sent)
      (refunded : pending.fundingRefunded = true → (h.accounts a).fundingRefunded = true ∨
        t.endpoint.recovery.sourceCompensation (h.hub.locks (h.accounts a).terms.fundingLockId).messageId ≠ 0 ∨
          ∃ c, RefundReport D t (h.accounts a).satellite c ∧ c.loanId = (h.accounts a).terms.loanId)
      (activated : pending.activated = true → (h.accounts a).activated = true ∨
        ∃ p, DisbursementReport D t (h.accounts a).satellite p ∧ p.loanId = (h.accounts a).terms.loanId ∧
          p.borrower = (h.accounts a).terms.borrower ∧ p.amount = (h.accounts a).terms.principalAmount)
      (accounts : t.accounts = h.accounts.set a acc)

end

variable [CollisionFree W] {D : Deployment W} {env : Env W} {h t : Home W} {a : Address} {acc pending : LoanAccount W}
  {c : Coordinator W} {sent : Option (MessageEnvelope W)}

omit [CollisionFree W] in
/-- A lock that was just recorded is the one its message names. -/
theorem LockEvidence.ofSent [Evm W] {D : Deployment W} {t : Home W} {r : LockRequest W} {e : MessageEnvelope W}
    {c : Coordinator W} {locks : Mapping W (LockRecord W)}
    (out : Outgoing D D.home.toCoordinatorConfig D.homeBridgeHub r.routePolicyHash .canonicalUftLocked
      (Hub.mintPayload D r.lockId r.loanId r.routePolicyHash r.recipient r.amount).encode c e)
    (hlocks : t.hub.locks = locks.set r.lockId
      ⟨r.lockId, e.messageId, r.loanId, r.routePolicyHash, r.locker, r.recipient, r.loanAccount, r.amount, .locked⟩) :
    LockEvidence D t r.lockId e := by
  refine ⟨?_, ?_, out.actionType, ?_, ?_⟩ <;> simp only [hlocks, set_self]
  · exact fun h => by cases h
  · exact out.payload
  · exact out.routePolicyHash

omit [CollisionFree W] in
theorem RefundReport.delivered [Evm W] {D : Deployment W} {h t : Home W} {σ : Nat} {e : MessageEnvelope W}
    {payload : Payload W} {c : SatelliteFundingCancelledPayload W} {env : Env W} {report : Option (MessageEnvelope W)}
    {result : W} (ok : Deliverable D.home.toCoordinatorConfig env e payload h.endpoint.coordinator)
    (destination : e.destinationComponent = (D.satellite σ).homeLoanRouter) (action : e.actionType = .sourceCompensated)
    (hpayload : SatelliteFundingCancelledPayload.decode payload = some c)
    (ht : t.endpoint = h.endpoint.delivered e report result) : RefundReport D t σ c := by
  refine ⟨e, payload, ?_, destination, action, hpayload⟩
  rw [ht]
  exact .delivered ok report result

theorem Step.locks (hstep : Step D env h t) (hreg : Registered h) : LockChange D h t := by
  cases hstep with
  | lock ok loanId out =>
    exact .lock ok.fresh rfl (Coordinator.mem_sent_recordSends.mpr (.inr rfl)) (.ofSent out rfl) rfl rfl
      (.inl ⟨loanId, rfl, rfl⟩)
  | create ok lockable loanId _ account _ out =>
    refine .lock lockable.fresh rfl (Coordinator.mem_sent_recordSends.mpr (.inr rfl)) (.ofSent out rfl) rfl rfl
      (.inr ⟨loanId.trans_ne ok.loanId, ?_, account.trans_ne ok.vacant.1, rfl, rfl⟩)
    rw [loanId]
    exact ok.unassigned
  | @refund σ _ _ c _ _ _ _ _ _ _ ok destination action hpayload known registered _ _ _ refundable =>
    subst registered
    have hl := refundable.lockLoan
    refine .unlock refundable.isLocked rfl rfl rfl (.inr ⟨σ, c, hl.trans_ne refundable.isLoan,
      .delivered ok destination action hpayload rfl, (hreg.loan σ c.loanId known).symm.trans hl.symm, ?_⟩)
    rw [hl]
    rfl
  | compensate _ compensable _ _ hresult | compensateLoan _ compensable _ _ _ _ _ _ _ hresult =>
    refine .unlock compensable.isLocked rfl rfl rfl (.inl ⟨?_, rfl⟩)
    rw [compensable.message, Endpoint.compensated_sourceCompensation, if_pos rfl]
    exact hresult
  | _ => exact .same rfl rfl rfl rfl

theorem Step.accounts (hstep : Step D env h t) (hreg : Registered h) : AccountChange D h t := by
  cases hstep with
  | @create _ _ _ _ e _ _ ok _ loanId lockId account =>
    refine .deploy (m := e.messageId) ok ⟨ok.vacant.1, ?_, ?_, ?_, ?_, ?_⟩ rfl
    · simp only [deploy, Hub.holding, Hub.loanLocked, loanId, set_self, account]
    · simp only [deploy, Hub.holding, Hub.loanLocked, loanId, set_self, lockId]
    · simp only [deploy, Hub.holding, Hub.loanLocked, Hub.locked, Hub.recordLock, lockId, set_self]
      exact fun h => by cases h
    · simp only [deploy, Hub.holding, Hub.loanLocked, Hub.locked, Hub.recordLock, lockId, set_self,
        loanId]
    · simp only [deploy, Function.update_self, set_self]
  | repayDirectly active _ _ _ _ _ asks | repay _ _ _ _ _ _ active _ _ _ _ _ _ _ asks =>
    exact .move (.repaid _ _ active) asks .inl (fun h => .inl ((activated_repaid ..).symm.trans h)) rfl
  | requestCancellation _ _ _ activating =>
    exact .move (.cancellationRequested _ _ _ activating) (.nothing (c := h.endpoint.coordinator)) .inl .inl rfl
  | reportMint _ _ activating asks =>
    exact .move (.mintReported _ activating) asks .inl (fun h => .inl ((activated_mintReported ..).symm.trans h)) rfl
  | @reportCollateral _ _ _ p a _ _ _ _ _ _ unfinished advanced asks =>
    refine .move (.collateralReported p.operationId unfinished advanced) asks ?_ ?_ rfl
    · rcases advanced with rfl | rfl <;> exact .inl
    · have same := activated_collateralReported (h.accounts a) p.operationId
      rcases advanced with rfl | rfl <;> exact fun h => .inl (same.symm.trans h)
  | @reportDisbursement σ e payload p _ result ok action unfinished _ _ amount =>
    have registered := ok.registered
    subst registered
    refine .move (.disbursementReported unfinished) (.nothing (c := h.endpoint.coordinator)) .inl
      (fun _ => .inr ⟨p, ?_, (hreg.loan σ p.loanId ok.known).symm, ok.borrower, amount⟩) rfl
    rw [hreg.satellite σ p.loanId ok.known]
    exact ⟨e, payload, .delivered ok.deliverable none result, ok.destination, action, ok.payload⟩
  | reportRelease _ _ closing =>
    exact .move (.releaseReported closing) (.nothing (c := h.endpoint.coordinator)) .inl .inl rfl
  | @refund σ e payload c a result pending acc sent token surplus ok destination action hpayload known registered
      pendingRecovery unrefunded undrawn refundable backed advanced asks hresult =>
    subst registered
    refine .move (.refunded c.cancellationId pendingRecovery advanced) asks
      (fun _ => .inr (.inr ⟨c, ?_, (hreg.loan σ c.loanId known).symm⟩)) ?_ rfl
    · rw [hreg.satellite σ c.loanId known]
      exact .delivered ok destination action hpayload rfl
    · have same := activated_refunded (h.accounts ((h.factories σ).loanAccount c.loanId)) c.cancellationId
      rcases advanced with rfl | rfl <;> exact fun h => .inl (same.symm.trans h)
  | @compensateLoan _ _ _ _ _ _ _ _ _ _ _ _ _ _ _ compensable _ _ activating funding advanced asks _ hresult =>
    refine .move (.compensated activating advanced) asks (fun _ => .inr (.inl ?_)) ?_ rfl
    · rw [← funding, compensable.message, Endpoint.compensated_sourceCompensation, if_pos rfl]
      exact hresult
    · rcases advanced with rfl | rfl <;> exact .inl
  | _ => exact .same rfl

/-! ### The log -/

theorem Asks.origin (asks : Asks D c a pending acc sent) (ht : t.accounts a = acc) (hp : pending.Phase)
    (hl : pending.terms.loanId ≠ 0) : ∀ e ∈ sent, Routed D D.home.toCoordinatorConfig e ∧ Origin D t e := by
  have hphase := asks.phase hp
  cases asks with
  | nothing => simp
  | disbursement _ out =>
    rintro _ ⟨⟩
    have other {x : CrossChainActionType} (hne : .homeDisbursementAuthorized ≠ x) (h : _ = x) : False :=
      hne (out.actionType.symm.trans h)
    exact ⟨out.toRouted, .instruction out.sourceComponent (fun h => (other (by simp) h).elim) fun h =>
      (other (by simp) h).elim⟩
  | release _ out =>
    rintro _ ⟨⟩
    refine ⟨out.toRouted, .instruction out.sourceComponent (fun h => absurd (out.actionType.symm.trans h) (by simp))
      fun _ => ⟨a, ?_⟩⟩
    rw [ht]
    exact ⟨hl, rfl, out.payload, rfl, hphase.finished (.inl rfl)⟩

/-- The message that an account's transition made its router send. -/
theorem AccountChange.origin (moves : (h.accounts a).Moves pending) (asks : Asks D c a pending acc sent)
    (ht : t.accounts = h.accounts.set a acc) (hacc : Accounted D h a (h.accounts a)) :
    ∀ e ∈ sent, Routed D D.home.toCoordinatorConfig e ∧ Origin D t e := by
  refine asks.origin ?_ (moves.phase hacc.phase) ?_
  · rw [ht, set_self]
  · rw [moves.kept.terms]
    exact fun hl => moves.state_ne (hacc.undeployed hl)

/-- A step sends at most one message, on its route and for a reason. -/
theorem Step.extends (hstep : Step D env h t) (hreg : Registered h) (hacc : ∀ a, Accounted D h a (h.accounts a)) :
    ∃ sent, h.endpoint.Extends t.endpoint sent ∧
      ∀ e ∈ sent, Routed D D.home.toCoordinatorConfig e ∧ Origin D t e := by
  cases hstep with
  | foreign step =>
    obtain ⟨sent, hx, hnew⟩ := step.extends
    refine ⟨sent, hx, fun e he => ?_⟩
    obtain ⟨hforeign, payload, out⟩ := hnew e he
    exact ⟨out.toRouted, .foreign hforeign⟩
  | lock _ _ out | create _ _ _ _ _ _ out =>
    refine ⟨some _, .recordSends _ (some _), ?_⟩
    rintro _ ⟨⟩
    exact ⟨out.toRouted, .lock out.sourceComponent (.ofSent out rfl)⟩
  | repayDirectly active _ _ _ _ _ asks =>
    exact ⟨_, .recordSends _ _, AccountChange.origin (.repaid _ _ active) asks rfl (hacc _)⟩
  | @requestCancellation σ _ r e _ known registered router _ consumed out =>
    obtain ⟨signatures, hconsume⟩ := consumed
    have hsame := RecoveryController.consumeLoanCancellationAuthorization_compensation hconsume
    have hx := Endpoint.Extends.recordSends h.endpoint (some e)
    refine ⟨some e, ⟨hx.sent_iff, hx.executed, hx.outbound, fun m hm => by rwa [hsame]⟩, ?_⟩
    rintro _ ⟨⟩
    subst registered
    refine ⟨out.toRouted, .instruction out.sourceComponent (fun _ => ⟨_, r, out.payload, rfl, ?_, router⟩)
      fun h => absurd (out.actionType.symm.trans h) (by simp)⟩
    exact hreg.loan σ r.loanId known
  | reportMint _ _ activating asks =>
    exact ⟨_, .delivered .., AccountChange.origin (.mintReported _ activating) asks rfl (hacc _)⟩
  | reportCollateral _ _ unfinished advanced asks =>
    exact ⟨_, .delivered .., AccountChange.origin (.collateralReported _ unfinished advanced) asks rfl (hacc _)⟩
  | reportDisbursement | reportRelease | exit => exact ⟨none, .delivered .., by simp⟩
  | refund _ _ _ _ _ _ pendingRecovery _ _ _ _ advanced asks =>
    exact ⟨_, .delivered .., AccountChange.origin (.refunded _ pendingRecovery advanced) asks rfl (hacc _)⟩
  | repay ok destination action hpayload known registered active loanId le repayable dLoan dBurn dAmount backed asks
      hresult => exact ⟨_, .delivered .., AccountChange.origin (.repaid _ _ active) asks rfl (hacc _)⟩
  | compensate _ _ _ _ hresult => exact ⟨none, .compensated _ hresult, by simp⟩
  | compensateLoan _ _ _ _ activating _ advanced asks _ hresult =>
    exact ⟨_, .compensated _ hresult, AccountChange.origin (.compensated activating advanced) asks rfl (hacc _)⟩
  | _ => exact ⟨none, .refl _, by simp⟩

theorem Step.factories (hstep : Step D env h t) (hreg : Registered h) {σ : Nat} {l : W}
    (hl : (h.factories σ).loanAccount l ≠ 0) : (t.factories σ).loanAccount l = (h.factories σ).loanAccount l := by
  cases hstep with
  | @create σ' _ _ _ _ _ _ ok =>
    change (Function.update h.factories σ' _ σ).loanAccount l = _
    rw [Function.update_apply]
    split
    next heq =>
      subst heq
      refine set_of_ne _ _ ?_
      rintro rfl
      exact hreg.registry σ _ hl ok.unregistered
    next => rfl
  | @requestCancellation σ' =>
    change (Function.update h.factories σ' _ σ).loanAccount l = _
    rw [Function.update_apply]
    split
    next heq =>
      subst heq
      rfl
    next => rfl
  | _ => rfl

theorem Step.kept (hstep : Step D env h t) (hreg : Registered h) (hx : h.endpoint.Extends t.endpoint sent) :
    Kept h t sent := by
  refine ⟨hx, fun x hx' => ?_, fun l hl => ?_, fun _ _ => hstep.factories hreg, fun a ha => ?_⟩
  · cases hstep.locks hreg with
    | same locks =>
      rw [locks]
      exact ⟨rfl, hx'⟩
    | @lock _ _ _ fresh _ _ _ locks =>
      rw [locks, set_of_ne _ _ (by rintro rfl; exact hx' fresh)]
      exact ⟨rfl, hx'⟩
    | @unlock _ _ locks =>
      rw [locks, set_apply]
      split
      next heq =>
        subst heq
        exact ⟨rfl, by simp⟩
      next => exact ⟨rfl, hx'⟩
  · cases hstep.locks hreg with
    | same _ accounts loanLocks | @unlock _ _ _ accounts loanLocks => exact ⟨by rw [accounts], by rw [loanLocks]⟩
    | @lock _ r _ _ _ _ _ _ _ loan =>
      rcases loan with ⟨-, accounts, loanLocks⟩ | ⟨-, hfree, -, accounts, loanLocks⟩
      · exact ⟨by rw [accounts], by rw [loanLocks]⟩
      · have hne : l ≠ r.loanId := by
          rintro rfl
          exact hl hfree
        rw [accounts, loanLocks, set_of_ne _ _ hne, set_of_ne _ _ hne]
        exact ⟨rfl, rfl⟩
  · cases hstep.accounts hreg with
    | same accounts =>
      rw [accounts]
      exact .refl _
    | @deploy _ _ _ _ ok _ accounts =>
      rw [accounts, set_of_ne _ _ (by rintro rfl; exact ha ok.vacant.2.2.2)]
      exact .refl _
    | @move _ _ _ _ _ moves asks _ _ accounts =>
      rw [accounts, set_apply]
      split
      next heq =>
        subst heq
        exact moves.kept.trans asks.kept
      next => exact .refl _

section

variable {sent : Option (MessageEnvelope W)} {e : MessageEnvelope W} {σ : Nat}

theorem LockEvidence.kept {x : W} (he : LockEvidence D h x e) (hk : Kept h t sent) : LockEvidence D t x e := by
  obtain ⟨terms, recorded⟩ := hk.locks x he.recorded
  have fields := LockRecord.eq_of_terms terms
  refine ⟨recorded, (congrArg LockRecord.messageId terms).trans he.messageId, he.action, ?_, ?_⟩ <;> rw [fields]
  · exact he.payload
  · exact he.route

theorem RefundReport.kept {c : SatelliteFundingCancelledPayload W} (hr : RefundReport D h σ c) (hk : Kept h t sent) :
    RefundReport D t σ c := by
  obtain ⟨e, payload, hx, hrest⟩ := hr
  exact ⟨e, payload, hx.extends hk.log, hrest⟩

theorem DisbursementReport.kept {p : LoanLegPayload W} (hr : DisbursementReport D h σ p) (hk : Kept h t sent) :
    DisbursementReport D t σ p := by
  obtain ⟨e, payload, hx, hrest⟩ := hr
  exact ⟨e, payload, hx.extends hk.log, hrest⟩

theorem ReleaseEvidence.kept (hr : ReleaseEvidence D σ h e) (hk : Kept h t sent) : ReleaseEvidence D σ t e := by
  obtain ⟨a, hl, hσ, hp, hm, hf⟩ := hr
  have kept := hk.accounts a hl
  obtain ⟨hf', hm'⟩ := kept.finished hf
  refine ⟨a, kept.terms ▸ hl, kept.satellite.trans hσ, ?_, hm'.trans hm, hf'⟩
  unfold releasePayload legPayload at hp ⊢
  rwa [kept.terms, kept.satellite]

theorem Origin.kept (ho : Origin D h e) (hk : Kept h t sent) : Origin D t e := by
  cases ho with
  | foreign source => exact .foreign source
  | lock source evidence => exact .lock source (evidence.kept hk)
  | instruction source cancellation release =>
    exact .instruction source cancellation fun haction => (release haction).kept hk

theorem Bound.kept {a : Address} {acc acc' : LoanAccount W} (hb : Bound h a acc) (hk : Kept h t sent)
    (terms : acc'.terms = acc.terms) (satellite : acc'.satellite = acc.satellite) : Bound t a acc' := by
  have hne : h.hub.loanAccount acc.terms.loanId ≠ 0 := hb.account.trans_ne hb.known
  obtain ⟨haccount, hlock⟩ := hk.loans _ hne
  obtain ⟨hterms, hlocked⟩ := hk.locks _ hb.locked
  refine ⟨hb.known, ?_, ?_, ?_, ?_, ?_⟩ <;> rw [terms]
  · exact haccount.trans hb.account
  · exact hlock.trans hb.lock
  · exact hlocked
  · exact (congrArg LockRecord.loanId hterms).trans hb.loan
  · rw [satellite, hk.factories _ _ (hb.factory.trans_ne hb.known), hb.factory]

end

section

variable {sent : Option (MessageEnvelope W)} {x l : W} {a : Address} {acc : LoanAccount W}

theorem Locked.kept {r : LockRecord W} (hl : Locked D h x r) (hk : Kept h t sent) : Locked D t x r where
  known := hl.known
  sent hs := by
    obtain ⟨e, hsent, hev⟩ := hl.sent hs
    exact ⟨e, hk.log.of_sent hsent, hev.kept hk⟩
  loan hs hloan := by
    obtain ⟨hne, hlock⟩ := hl.loan hs hloan
    obtain ⟨haccount, hloanLock⟩ := hk.loans _ hne
    exact ⟨haccount ▸ hne, hloanLock.trans hlock⟩
  compensated hc := by
    rcases hl.compensated hc with hcomp | ⟨hloan, σ, c, hreport, hc⟩
    · exact .inl (hk.log.compensation _ hcomp)
    · exact .inr ⟨hloan, σ, c, hreport.kept hk, hc⟩

theorem Step.locked (hstep : Step D env h t) (hreg : Registered h) (hk : Kept h t sent)
    (hl : ∀ x, Locked D h x (h.hub.locks x)) (x : W) : Locked D t x (t.hub.locks x) := by
  cases hstep.locks hreg with
  | same locks =>
    rw [locks]
    exact (hl x).kept hk
  | @lock _ _ e _ state sent evidence locks _ loan =>
    rw [locks, set_apply]
    split
    next heq =>
      subst heq
      refine ⟨.inr (.inl state), fun _ => ⟨e, sent, evidence⟩, fun _ hloan => ?_, fun hc => ?_⟩
      · rcases loan with ⟨hzero, -⟩ | ⟨-, -, haccount, accounts, loanLocks⟩
        · exact absurd hzero hloan
        · rw [accounts, loanLocks, set_self, set_self]
          exact ⟨haccount, rfl⟩
      · rw [state] at hc
        cases hc
    next => exact (hl x).kept hk
  | @unlock _ locked locks _ _ reason =>
    rw [locks, set_apply]
    split
    next heq =>
      subst heq
      have kept := (hl x).kept hk
      have hs : (h.hub.locks x).state ≠ .none := by simp [locked]
      refine ⟨.inr (.inr rfl), fun _ => kept.sent hs, fun _ => kept.loan hs, fun _ => ?_⟩
      rcases reason with ⟨hcomp, -⟩ | ⟨σ, c, hloan, hreport, hc, -⟩
      · exact .inl hcomp
      · exact .inr ⟨hloan, σ, c, hreport, hc⟩
    next => exact (hl x).kept hk

theorem Accounted.locked (ha : Accounted D h a acc) (hs : acc.state ≠ .none) :
    Bound h a acc := ha.bound fun hl => hs (ha.undeployed hl)

/-- The message of a lock that was recorded is still the same. -/
theorem Kept.messageId (hk : Kept h t sent) (hx : (h.hub.locks x).state ≠ .none) :
    (t.hub.locks x).messageId = (h.hub.locks x).messageId := by
  rw [LockRecord.eq_of_terms (hk.locks x hx).1]

theorem Accounted.kept (ha : Accounted D h a acc) (hk : Kept h t sent) :
    Accounted D t a acc where
  bound hl := (ha.bound hl).kept hk rfl rfl
  undeployed := ha.undeployed
  phase := ha.phase
  refunded hr := by
    have hb : Bound h a acc := ha.locked fun hs => by
      have := (ha.phase.undrawn hr).2
      simp [hs] at this
    rcases ha.refunded hr with hcomp | ⟨c, hreport, hc⟩
    · rw [hk.messageId hb.locked]
      exact .inl (hk.log.compensation _ hcomp)
    · exact .inr ⟨c, hreport.kept hk, hc⟩
  activated hact := by
    obtain ⟨p, hreport, hp⟩ := ha.activated hact
    exact ⟨p, hreport.kept hk, hp⟩

theorem Step.accounted (hstep : Step D env h t) (hreg : Registered h) (hk : Kept h t sent)
    (ha : ∀ a, Accounted D h a (h.accounts a)) (a : Address) : Accounted D t a (t.accounts a) := by
  cases hstep.accounts hreg with
  | same accounts =>
    rw [accounts]
    exact (ha a).kept hk
  | @deploy _ _ _ _ ok bound accounts =>
    rw [accounts, set_apply]
    split
    next heq =>
      subst heq
      exact ⟨fun _ => bound, fun h => absurd h ok.loanId, ⟨rfl, rfl, rfl⟩, (fun h => by cases h), (fun h => by cases h)⟩
    next => exact (ha a).kept hk
  | @move _ _ _ _ _ moves asks refunded activated accounts =>
    rw [accounts, set_apply]
    split
    next heq =>
      subst heq
      have kept := moves.kept.trans asks.kept
      have hb : Bound h a (h.accounts a) := (ha a).locked moves.state_ne
      have old := (ha a).kept hk
      refine ⟨fun _ => hb.kept hk kept.terms kept.satellite, fun hl => ?_, asks.phase (moves.phase (ha a).phase),
        fun hr => ?_, fun hact => ?_⟩
      · rw [kept.terms] at hl
        exact absurd ((ha a).undeployed hl) moves.state_ne
      · rw [kept.terms, kept.satellite]
        rcases refunded (asks.fundingRefunded ▸ hr) with hr | hcomp | hreport
        · exact old.refunded hr
        · rw [hk.messageId hb.locked]
          exact .inl hcomp
        · exact .inr hreport
      · rw [kept.terms, kept.satellite]
        rcases activated (asks.activated ▸ hact) with hact | hreport
        · exact old.activated hact
        · exact hreport
    next => exact (ha a).kept hk

theorem Step.loans (hstep : Step D env h t) (hl : (h.loans l).loanAccount ≠ 0) : (t.loans l).loanAccount ≠ 0 := by
  cases hstep with
  | register kept =>
    rw [kept l hl]
    exact hl
  | create ok =>
    simp only [set_apply]
    split
    · exact ok.vacant.1
    · exact hl
  | reportRelease =>
    simp only [modify_apply]
    split <;> exact hl
  | _ => exact hl

/-- An account that a router did not know before was just created. -/
theorem Step.newAccount (hstep : Step D env h t) {σ : Nat} (hold : (h.factories σ).loanAccount l = 0)
    (hnew : (t.factories σ).loanAccount l ≠ 0) :
    l ≠ 0 ∧ (t.accounts ((t.factories σ).loanAccount l)).terms.loanId = l ∧
      (t.accounts ((t.factories σ).loanAccount l)).satellite = σ ∧ (t.loans l).loanAccount ≠ 0 := by
  cases hstep with
  | @create _ terms _ _ _ _ _ ok _ loanId =>
    revert hnew
    simp only [Function.update_apply]
    split
    next heq =>
      subst heq
      by_cases heq : l = terms.loanId
      · subst heq
        simp only [set_self, deploy]
        exact fun _ => ⟨ok.loanId, trivial, trivial, ok.vacant.1⟩
      · simp only [set_of_ne _ _ heq]
        exact fun hne => absurd hold hne
    next => exact fun hne => absurd hold hne
  | @requestCancellation =>
    revert hnew
    simp only [Function.update_apply]
    split
    next heq =>
      subst heq
      exact fun hne => absurd hold hne
    next => exact fun hne => absurd hold hne
  | _ => exact absurd hold hnew

theorem Registered.step (hreg : Registered h) (hstep : Step D env h t) (hk : Kept h t sent) : Registered t := by
  -- An account that a router knows was known before, or was just created.
  have key (σ : Nat) (l : W) (hne : (t.factories σ).loanAccount l ≠ 0) :
      l ≠ 0 ∧ (t.accounts ((t.factories σ).loanAccount l)).terms.loanId = l ∧
        (t.accounts ((t.factories σ).loanAccount l)).satellite = σ ∧ (t.loans l).loanAccount ≠ 0 := by
    by_cases hold : (h.factories σ).loanAccount l = 0
    · exact hstep.newAccount hold hne
    · have hl := hreg.isLoan σ l hold
      have kept := hk.accounts _ ((hreg.loan σ l hold).trans_ne hl)
      rw [hk.factories σ l hold, kept.terms, kept.satellite]
      exact ⟨hl, hreg.loan σ l hold, hreg.satellite σ l hold, hstep.loans (hreg.registry σ l hold)⟩
  exact ⟨fun σ l hne => (key σ l hne).1, fun σ l hne => (key σ l hne).2.1, fun σ l hne => (key σ l hne).2.2.1,
    fun σ l hne => (key σ l hne).2.2.2⟩

end

structure Local (D : Deployment W) (h : Home W) : Prop where
  routed : ∀ e, .messageSent e ∈ h.endpoint.coordinator.events → Routed D D.home.toCoordinatorConfig e
  origin : ∀ e, .messageSent e ∈ h.endpoint.coordinator.events → Origin D h e
  locked : ∀ x, Locked D h x (h.hub.locks x)
  accounted : ∀ a, Accounted D h a (h.accounts a)
  registered : Registered h
  refunds : ∀ id, h.hub.cancellationRefund id ≠ 0 → ∃ σ c, RefundReport D h σ c ∧ c.cancellationId = id

theorem Local.initial (D : Deployment W) (canonicalUFT : Token) : Local D (initial D canonicalUFT) where
  routed _ h := by cases h
  origin _ h := by cases h
  locked _ := ⟨.inl rfl, fun h => absurd rfl h, fun h => absurd rfl h, (fun h => by cases h)⟩
  accounted _ := ⟨fun h => absurd rfl h, fun _ => rfl, ⟨rfl, rfl⟩, (fun h => by cases h), (fun h => by cases h)⟩
  registered := ⟨fun _ _ h => absurd rfl h, fun _ _ h => absurd rfl h, fun _ _ h => absurd rfl h, fun _ _ h => absurd rfl h⟩
  refunds _ h := absurd rfl h

theorem Step.refunds (hstep : Step D env h t) (hl : Local D h) (hk : Kept h t sent) (id : W)
    (hid : t.hub.cancellationRefund id ≠ 0) : ∃ σ c, RefundReport D t σ c ∧ c.cancellationId = id := by
  have old (hne : h.hub.cancellationRefund id ≠ 0) : ∃ σ c, RefundReport D t σ c ∧ c.cancellationId = id := by
    obtain ⟨σ, c, hreport, hc⟩ := hl.refunds id hne
    exact ⟨σ, c, hreport.kept hk, hc⟩
  cases hstep.locks hl.registered with
  | same _ _ _ refunds | lock _ _ _ _ _ refunds => exact old (refunds ▸ hid)
  | unlock _ _ _ _ reason =>
    rcases reason with ⟨-, refunds⟩ | ⟨σ, c, -, hreport, -, refunds⟩
    · exact old (refunds ▸ hid)
    · rw [refunds, set_apply] at hid
      split at hid
      next heq => exact ⟨σ, c, hreport, heq.symm⟩
      next => exact old hid

/-- One step keeps the invariant, and nothing that it fixed is taken back. -/
theorem Local.step (hl : Local D h) (hstep : Step D env h t) : Local D t ∧ ∃ sent, Kept h t sent := by
  obtain ⟨sent, hx, hnew⟩ := hstep.extends hl.registered hl.accounted
  have hk := hstep.kept hl.registered hx
  refine ⟨⟨fun e he => ?_, fun e he => ?_, hstep.locked hl.registered hk hl.locked,
    hstep.accounted hl.registered hk hl.accounted, hl.registered.step hstep hk, hstep.refunds hl hk⟩, sent, hk⟩
  · rcases (hx.sent_iff e).mp he with hold | hnew'
    · exact hl.routed e hold
    · exact (hnew e hnew').1
  · rcases (hx.sent_iff e).mp he with hold | hnew'
    · exact (hl.origin e hold).kept hk
    · exact (hnew e hnew').2

end Home

end Unified.CrossChain
