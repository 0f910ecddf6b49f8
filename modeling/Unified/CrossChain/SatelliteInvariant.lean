import Unified.CrossChain.SatelliteSteps

/-! What holds on a satellite chain after any calls: where its messages come from, how a burn, a loan's
    funding and its collateral are bound to the messages that moved them. -/

namespace Unified.CrossChain

open Mapping

variable {W : Type}

def SettlementRecord.terms [Evm W] (r : SettlementRecord W) : SettlementRecord W :=
  { r with
    escrowedAmount := 0, disbursedAmount := 0, authorizedRepaymentAmount := 0, cancellationId := 0, cancelledAmount := 0 }

/-- What of a provisioned record is never taken back. -/
structure SettlementRecord.Kept [Evm W] (r r' : SettlementRecord W) : Prop where
  terms : r'.terms = r.terms
  disbursed : r.disbursedAmount ≠ 0 → r'.disbursedAmount = r.disbursedAmount
  cancelled : r.cancellationId ≠ 0 → r'.cancellationId = r.cancellationId ∧ r'.cancelledAmount = r.cancelledAmount

theorem SettlementRecord.Kept.refl [Evm W] (r : SettlementRecord W) : r.Kept r := ⟨rfl, fun _ => rfl, fun _ => ⟨rfl, rfl⟩⟩

def BurnRecord.terms [Evm W] (r : BurnRecord W) : BurnRecord W := { r with state := .none, compensationResult := 0 }

namespace Satellite

section

variable [Evm W]

/-! ### Evidence -/

structure BurnEvidence (D : Deployment W) (σ : Nat) (s : Satellite W) (burnId : W) (e : MessageEnvelope W)
    (d : BurnDispatch W) (payload : Payload W) : Prop where
  recorded : (s.wrapped.burnRecords burnId).state ≠ .none
  messageId : (s.wrapped.burnRecords burnId).messageId = e.messageId
  amount : (s.wrapped.burnRecords burnId).amount = d.amount
  burn : d.burnId = burnId
  backing : d.backingRoutePolicyHash = (D.satellite σ).canonicalBackingRoutePolicyHash
  message : BurnMessage D σ d payload
  payload : e.payloadHash = payloadHash payload
  action : e.actionType = d.actionType
  route : e.routePolicyHash = d.routePolicyHash
  chain : (D.routes d.routePolicyHash).destinationChainId = D.home.localChainId
  disbursed : d.actionType = .satelliteRepaymentBurned →
    (s.settlement.records d.loanId).loanId ≠ 0 ∧ (s.settlement.records d.loanId).disbursedAmount ≠ 0

/-- A disbursement is only reported of a loan that was disbursed. -/
def DisbursementEvidence (s : Satellite W) (e : MessageEnvelope W) : Prop :=
  ∃ p : LoanLegPayload W, e.payloadHash = payloadHash p.encode ∧ (s.settlement.records p.loanId).loanId ≠ 0 ∧
    (s.settlement.records p.loanId).disbursedAmount ≠ 0 ∧ p.borrower = (s.settlement.records p.loanId).borrower ∧
    p.amount = (s.settlement.records p.loanId).principalAmount

/-- A cancellation is only reported of a loan whose escrow was burned under it. -/
def CancellationEvidence (s : Satellite W) (e : MessageEnvelope W) : Prop :=
  ∃ p : SatelliteFundingCancelledPayload W, e.payloadHash = payloadHash p.encode ∧ p.cancellationId ≠ 0 ∧
    (s.settlement.records p.loanId).loanId ≠ 0 ∧ (s.settlement.records p.loanId).cancellationId = p.cancellationId ∧
    (s.settlement.records p.loanId).cancelledAmount = p.amount

inductive Origin (D : Deployment W) (σ : Nat) (s : Satellite W) (e : MessageEnvelope W) : Prop
  | foreign (source : ¬ Sends D σ e.sourceComponent)
  | burn {burnId : W} {d : BurnDispatch W} {payload : Payload W} (source : e.sourceComponent = (D.satellite σ).wrappedUFT)
      (evidence : BurnEvidence D σ s burnId e d payload)
  | report (source : e.sourceComponent = (D.satellite σ).satelliteComponent)
      (disbursed : e.actionType = .satelliteDisbursementSettled → s.DisbursementEvidence e)
      (cancelled : e.actionType = .sourceCompensated → s.CancellationEvidence e)

structure Funding (D : Deployment W) (σ : Nat) (s : Satellite W) (loanId fundingLockId : W) : Prop where
  configured : (D.satellite σ).canonicalBackingRoutePolicyHash ≠ 0
  minted : s.wrapped.mintMessage fundingLockId ≠ 0
  message : ∃ e payload lock, s.endpoint.Executed e payload ∧
    e.routePolicyHash = (D.satellite σ).canonicalBackingRoutePolicyHash ∧
    CanonicalUftLockPayload.decode payload = some lock ∧ lock.loanId = loanId ∧ lock.lockId = fundingLockId

def CancellationOrder (D : Deployment W) (σ : Nat) (s : Satellite W) (loanId cancellationId : W) : Prop :=
  ∃ e payload action, s.endpoint.Executed e payload ∧
    e.destinationComponent = (D.satellite σ).satelliteSettlementVault ∧ e.actionType = .cancellationRequested ∧
    LoanCancellationRequestedPayload.decode payload = some action ∧ action.cancellationId = cancellationId ∧
    action.loanId = loanId

def ReleaseOrder (D : Deployment W) (σ : Nat) (s : Satellite W) (loanId : W) (account : Address) : Prop :=
  ∃ e payload action, s.endpoint.Executed e payload ∧
    e.destinationComponent = (D.satellite σ).satelliteCollateralVault ∧
    e.actionType = .homeCollateralReleaseAuthorized ∧ LoanLegPayload.decode payload = some action ∧
    action.loanId = loanId ∧ action.homeLoanAccount = account

/-- A settlement record agrees with the component's provisioning and with the satellite's configuration. -/
structure Provisioned (D : Deployment W) (σ : Nat) (s : Satellite W) (loanId : W) (r : SettlementRecord W) : Prop where
  borrower : r.borrower = (s.component.provisionedLoans loanId).borrower
  principal : r.principalAmount ≠ 0
  router : r.homeLoanRouter = (D.satellite σ).homeLoanRouter
  repaymentRoute : r.repaymentRoutePolicyHash = (D.satellite σ).repaymentRoutePolicyHash
  known : (s.component.provisionedLoans loanId).loanId ≠ 0

structure Settled (D : Deployment W) (σ : Nat) (s : Satellite W) (l : W) (r : SettlementRecord W) : Prop where
  provisioned : r.loanId ≠ 0 → Provisioned D σ s l r
  unknown : r.loanId = 0 → r.escrowedAmount = 0 ∧ r.disbursedAmount = 0 ∧ r.cancellationId = 0
  funded : r.escrowedAmount ≠ 0 ∨ r.disbursedAmount ≠ 0 ∨ r.cancellationId ≠ 0 → Funding D σ s l r.fundingLockId
  disbursed : r.disbursedAmount ≠ 0 → r.disbursedAmount = r.principalAmount ∧ r.cancellationId = 0
  cancelled : r.cancellationId ≠ 0 →
    r.escrowedAmount = 0 ∧ r.cancelledAmount = r.principalAmount ∧ CancellationOrder D σ s l r.cancellationId
  uncancelled : r.cancellationId = 0 → r.cancelledAmount = 0
  log : s.settlement.disbursements.filter (·.loanId = l) =
    if r.disbursedAmount = 0 then [] else [⟨l, r.borrower, r.principalAmount⟩]

structure Kept (s t : Satellite W) (sent : Option (MessageEnvelope W)) : Prop where
  log : s.endpoint.Extends t.endpoint sent
  burns : ∀ b, (s.wrapped.burnRecords b).state ≠ .none →
    (t.wrapped.burnRecords b).terms = (s.wrapped.burnRecords b).terms ∧ (t.wrapped.burnRecords b).state ≠ .none
  minted : ∀ x, s.wrapped.mintMessage x ≠ 0 → t.wrapped.mintMessage x ≠ 0
  provisioned : ∀ l, (s.component.provisionedLoans l).loanId ≠ 0 →
    t.component.provisionedLoans l = s.component.provisionedLoans l
  records : ∀ l, (s.settlement.records l).loanId ≠ 0 → (s.settlement.records l).Kept (t.settlement.records l)

/-! ### What a step does to each contract -/

inductive RecordChange (D : Deployment W) (σ : Nat) (s t : Satellite W) (l : W) : SettlementRecord W → Prop
  | provision {p : SatelliteLoanProvisioning W} (ok : Provisionable D σ p s) (key : p.loanId = l)
      (component : t.component.provisionedLoans l = p)
      (log : t.settlement.disbursements = s.settlement.disbursements) :
      RecordChange D σ s t l
        ⟨p.loanId, p.fundingLockId, p.homeLoanAccount, p.homeLoanRouter, p.borrower, p.lender, p.principalAmount, 0, 0,
          0, 0, 0, p.repaymentRoutePolicyHash, p.policyHash⟩
  | adjust {amount : Nat} (log : t.settlement.disbursements = s.settlement.disbursements) :
      RecordChange D σ s t l { s.settlement.records l with authorizedRepaymentAmount := amount }
  | escrow (known : (s.settlement.records l).loanId ≠ 0)
      (unminted : s.wrapped.mintMessage (s.settlement.records l).fundingLockId = 0)
      (funding : Funding D σ t l (s.settlement.records l).fundingLockId)
      (log : t.settlement.disbursements = s.settlement.disbursements) :
      RecordChange D σ s t l { s.settlement.records l with escrowedAmount := (s.settlement.records l).principalAmount }
  | disburse (known : (s.settlement.records l).loanId ≠ 0)
      (escrowed : (s.settlement.records l).escrowedAmount = (s.settlement.records l).principalAmount)
      (undisbursed : (s.settlement.records l).disbursedAmount = 0)
      (log : t.settlement.disbursements = s.settlement.disbursements ++
        [⟨l, (s.settlement.records l).borrower, (s.settlement.records l).principalAmount⟩])
      (paid : s.wrapped.token.Paid t.wrapped.token (D.satellite σ).satelliteSettlementVault
        (s.settlement.records l).borrower (s.settlement.records l).principalAmount) :
      RecordChange D σ s t l { s.settlement.records l with disbursedAmount := (s.settlement.records l).principalAmount }
  | cancel {cancellationId : W} (known : (s.settlement.records l).loanId ≠ 0)
      (escrowed : (s.settlement.records l).escrowedAmount = (s.settlement.records l).principalAmount)
      (undisbursed : (s.settlement.records l).disbursedAmount = 0)
      (uncancelled : (s.settlement.records l).cancellationId = 0) (isCancellation : cancellationId ≠ 0)
      (order : CancellationOrder D σ t l cancellationId)
      (log : t.settlement.disbursements = s.settlement.disbursements) :
      RecordChange D σ s t l
        { s.settlement.records l with
          cancellationId := cancellationId
          cancelledAmount := (s.settlement.records l).principalAmount
          escrowedAmount := 0 }

inductive SettlementChange (D : Deployment W) (σ : Nat) (s t : Satellite W) : Prop
  | same (settlement : t.settlement = s.settlement)
  | record {l : W} {r : SettlementRecord W} (records : t.settlement.records = s.settlement.records.set l r)
      (change : RecordChange D σ s t l r)

inductive BurnChange (D : Deployment W) (σ : Nat) (s t : Satellite W) : Prop
  | same (records : t.wrapped.burnRecords = s.wrapped.burnRecords) (messages : t.wrapped.burnMessage = s.wrapped.burnMessage)
  | burn {b : W} {r : BurnRecord W} {e : MessageEnvelope W} {d : BurnDispatch W} {payload : Payload W}
      (fresh : s.wrapped.burnMessage b = 0) (state : r.state = .burned) (messageId : r.messageId ≠ 0)
      (records : t.wrapped.burnRecords = s.wrapped.burnRecords.set b r)
      (messages : t.wrapped.burnMessage = s.wrapped.burnMessage.set b r.messageId)
      (sent : .messageSent e ∈ t.endpoint.coordinator.events) (evidence : BurnEvidence D σ t b e d payload)
  | compensate {b result : W} (burned : (s.wrapped.burnRecords b).state = .burned)
      (compensated : t.endpoint.recovery.sourceCompensation (s.wrapped.burnRecords b).messageId ≠ 0)
      (records : t.wrapped.burnRecords = s.wrapped.burnRecords.set b
        { s.wrapped.burnRecords b with state := .compensated, compensationResult := result })
      (messages : t.wrapped.burnMessage = s.wrapped.burnMessage)

def lockedAmount (_ : W) (r : CollateralRecord W) : Nat := if r.state = .locked then r.amount else 0

theorem lockedAmount_vanishes : Mapping.Vanishes (lockedAmount (W := W)) := fun _ => rfl

def vaultBalance (D : Deployment W) (σ : Nat) (s : Satellite W) : Nat :=
  s.collateral.collateralToken.balances (D.satellite σ).satelliteCollateralVault

inductive CollateralRecordChange (D : Deployment W) (σ : Nat) (s t : Satellite W) (l : W) : CollateralRecord W → Prop
  | provision {p : SatelliteLoanProvisioning W} (ok : Provisionable D σ p s) (key : p.loanId = l)
      (loans : t.collateral.collateralLoan = s.collateral.collateralLoan.set p.collateralId l)
      (log : t.collateral.releases = s.collateral.releases) (balance : vaultBalance D σ s = vaultBalance D σ t) :
      CollateralRecordChange D σ s t l
        ⟨p.loanId, p.collateralId, p.homeLoanAccount, p.borrower, p.lender, p.collateralToken, p.collateralAmount,
          p.policyHash, .none⟩
  | lock (known : (s.collateral.records l).loanId ≠ 0) (fresh : (s.collateral.records l).state = .none)
      (loans : t.collateral.collateralLoan = s.collateral.collateralLoan)
      (log : t.collateral.releases = s.collateral.releases)
      (balance : vaultBalance D σ t = vaultBalance D σ s + (s.collateral.records l).amount) :
      CollateralRecordChange D σ s t l { s.collateral.records l with state := .locked }
  | release (known : (s.collateral.records l).loanId ≠ 0) (locked : (s.collateral.records l).state = .locked)
      (order : ReleaseOrder D σ t l (s.collateral.records l).homeLoanAccount)
      (loans : t.collateral.collateralLoan = s.collateral.collateralLoan)
      (log : t.collateral.releases = s.collateral.releases ++
        [⟨l, (s.collateral.records l).borrower, (s.collateral.records l).amount⟩])
      (paid : s.collateral.collateralToken.Paid t.collateral.collateralToken (D.satellite σ).satelliteCollateralVault
        (s.collateral.records l).borrower (s.collateral.records l).amount) :
      CollateralRecordChange D σ s t l { s.collateral.records l with state := .released }

inductive CollateralChange (D : Deployment W) (σ : Nat) (s t : Satellite W) : Prop
  | same (records : t.collateral.records = s.collateral.records)
      (loans : t.collateral.collateralLoan = s.collateral.collateralLoan)
      (log : t.collateral.releases = s.collateral.releases) (balance : vaultBalance D σ s ≤ vaultBalance D σ t)
  | record {l : W} {r : CollateralRecord W} (records : t.collateral.records = s.collateral.records.set l r)
      (change : CollateralRecordChange D σ s t l r)

end

variable [CollisionFree W] {D : Deployment W} {σ : Nat} {env : Env W} {s t : Satellite W}

theorem Step.settlement (h : Step D σ env s t) : SettlementChange D σ s t := by
  cases h with
  | repay _ found =>
    subst found
    exact .record rfl (.adjust rfl)
  | @provision _ ok => exact .record rfl (.provision ok rfl (set_self ..) rfl)
  | @escrow e _ payload lock _ record ok found known funding principal =>
    subst found
    rw [principal]
    refine .record rfl (.escrow known (funding ▸ ok.unminted) ⟨ok.configured, ?_, ?_⟩ rfl)
    · simp only [minted, ← funding, set_self]
      exact ok.deliverable.selfId.ne_zero
    · exact ⟨e, payload, lock, .delivered ok.deliverable _ _, ok.route, ok.payload, rfl, funding⟩
  | disburse _ _ _ _ found known escrowed undisbursed apart covered =>
    subst found
    exact .record rfl (.disburse known escrowed undisbursed rfl (Token.paid_move covered apart))
  | cancel ok destination haction hpayload cancellationId found known escrowed undisbursed uncancelled =>
    subst found
    exact .record rfl (.cancel known escrowed undisbursed uncancelled cancellationId
      ⟨_, _, _, .delivered ok _ _, destination, haction, hpayload, rfl, rfl⟩ rfl)
  | compensate _ _ _ _ vault =>
    rcases vault with rfl | ⟨loanId, consumed, amount, rfl⟩
    · exact .same rfl
    · exact .record rfl (.adjust rfl)
  | _ => exact .same rfl

variable {sent : Option (MessageEnvelope W)} {e : MessageEnvelope W} {r : SettlementRecord W} {l x l' : W}
  {payload : Payload W}

omit [CollisionFree W] in
theorem Burnable.evidence [Evm W] {D : Deployment W} {s t : Satellite W} {d : BurnDispatch W}
    (ok : Burnable D σ d payload e s) (message : BurnMessage D σ d payload)
    (chain : (D.routes d.routePolicyHash).destinationChainId = D.home.localChainId)
    (hw : t.wrapped = burned s.wrapped d e.messageId ok.covered)
    (hdisbursed : d.actionType = .satelliteRepaymentBurned →
      (t.settlement.records d.loanId).loanId ≠ 0 ∧ (t.settlement.records d.loanId).disbursedAmount ≠ 0) :
    BurnEvidence D σ t d.burnId e d payload := by
  have record : t.wrapped.burnRecords d.burnId =
      ⟨d.burnId, e.messageId, d.loanId, d.paymentId, d.backingRoutePolicyHash, d.routePolicyHash, d.account, d.amount,
        d.actionType, .burned, 0⟩ := by
    rw [hw]
    exact set_self ..
  refine ⟨?_, ?_, ?_, rfl, ok.backing, message, ok.out.payload, ok.out.actionType, ok.out.routePolicyHash, chain,
    hdisbursed⟩ <;> rw [record]
  exact fun h => by cases h

theorem Step.burns (h : Step D σ env s t) (hs : ∀ l, Settled D σ s l (s.settlement.records l)) : BurnChange D σ s t := by
  cases h with
  | burn ok _ chain generic message =>
    exact .burn ok.unburned rfl ok.out.selfId.ne_zero rfl rfl (Coordinator.mem_sent_recordSends.mpr (.inr rfl))
      (ok.evidence message chain rfl fun h => absurd h generic)
  | @repay d _ _ _ ok found known _ disbursed action route router payloadIs =>
    subst found payloadIs
    have hp := (hs d.loanId).provisioned known
    rw [hp.router] at router
    have chain : (D.routes d.routePolicyHash).destinationChainId = D.home.localChainId := by
      rw [route, hp.repaymentRoute]
      exact D.repaymentRoute σ
    refine .burn ok.unburned rfl ok.out.selfId.ne_zero rfl rfl (Coordinator.mem_sent_recordSends.mpr (.inr rfl))
      (ok.evidence (.repayment _ action router) chain rfl fun _ => ?_)
    simp only [withRecord, set_self]
    exact ⟨known, disbursed ▸ hp.principal⟩
  | compensate _ found message isBurned _ hresult =>
    subst found
    refine .compensate isBurned ?_ rfl rfl
    rw [message, Endpoint.compensated_sourceCompensation, if_pos rfl]
    exact hresult
  | _ => exact .same rfl rfl

theorem Step.collateral (h : Step D σ env s t) : CollateralChange D σ s t := by
  cases h with
  | transferCollateral kept => exact .same rfl rfl rfl kept
  | provision ok => exact .record rfl (.provision ok rfl rfl rfl rfl)
  | lockCollateral found known fresh apart covered =>
    subst found
    exact .record rfl (.lock known fresh rfl rfl (Token.move_exact_dst covered apart))
  | release ok destination haction hpayload found known locked account apart covered =>
    subst found
    exact .record rfl (.release known locked
      ⟨_, _, _, .delivered ok _ _, destination, haction, hpayload, rfl, account⟩ rfl rfl
      (Token.paid_move covered apart))
  | _ => exact .same rfl rfl rfl (Nat.le_refl _)

/-- The settlement vault logs a disbursement and pays it. -/
def Disburses (D : Deployment W) (σ : Nat) (d : Disbursement W) (s t : Satellite W) : Prop :=
  t.settlement.disbursements = s.settlement.disbursements ++ [d] ∧
    s.wrapped.token.Paid t.wrapped.token (D.satellite σ).satelliteSettlementVault d.recipient d.amount

theorem Step.disburses (h : Step D σ env s t) :
    t.settlement.disbursements = s.settlement.disbursements ∨ ∃ d, Disburses D σ d s t := by
  cases h.settlement with
  | same settlement => exact .inl (by rw [settlement])
  | record _ change =>
    cases change with
    | disburse _ _ _ log paid => exact .inr ⟨_, log, paid⟩
    | provision _ _ _ log | adjust log | escrow _ _ _ log | cancel _ _ _ _ _ _ log => exact .inl log

/-- The collateral vault gives a locked collateral back to its borrower. -/
structure Releases (D : Deployment W) (σ : Nat) (l : W) (s t : Satellite W) : Prop where
  locked : (s.collateral.records l).state = .locked
  released : t.collateral.records l = { s.collateral.records l with state := .released }
  log : t.collateral.releases = s.collateral.releases ++
    [⟨l, (s.collateral.records l).borrower, (s.collateral.records l).amount⟩]
  paid : s.collateral.collateralToken.Paid t.collateral.collateralToken (D.satellite σ).satelliteCollateralVault
    (s.collateral.records l).borrower (s.collateral.records l).amount

/-- Nothing leaves the collateral vault in any other way. -/
theorem Step.releases (h : Step D σ env s t) :
    (t.collateral.releases = s.collateral.releases ∧ vaultBalance D σ s ≤ vaultBalance D σ t) ∨
      ∃ l, Releases D σ l s t := by
  cases h.collateral with
  | same _ _ log balance => exact .inl ⟨log, balance⟩
  | record records change =>
    cases change with
    | provision _ _ _ log balance => exact .inl ⟨log, balance.le⟩
    | lock _ _ _ log balance => exact .inl ⟨log, balance ▸ Nat.le_add_right _ _⟩
    | release _ locked _ _ log paid => exact .inr ⟨_, locked, by rw [records, set_self], log, paid⟩

theorem Step.provisionedLoans (h : Step D σ env s t) (hl : (s.component.provisionedLoans l).loanId ≠ 0) :
    t.component.provisionedLoans l = s.component.provisionedLoans l := by
  cases h with
  | provision ok => exact set_of_ne _ _ (by rintro rfl; exact hl ok.unprovisioned)
  | _ => rfl

theorem Step.mintMessage (h : Step D σ env s t) (hx : s.wrapped.mintMessage x ≠ 0) : t.wrapped.mintMessage x ≠ 0 := by
  have written (e : MessageEnvelope W) (lock : CanonicalUftLockPayload W) (he : e.Sealed) :
      (minted s.wrapped e lock).mintMessage x ≠ 0 := by
    simp only [minted, set_apply]
    split
    · exact he.ne_zero
    · exact hx
  cases h with
  | mint ok | escrow ok => exact written _ _ ok.deliverable.selfId
  | _ => exact hx

omit [CollisionFree W] in
/-- A report that is neither of a disbursement nor of a cancellation. -/
theorem Origin.ofReport [Evm W] {D : Deployment W} {t : Satellite W} {a : CrossChainActionType} {c : Coordinator W}
    (out : Report D σ a payload c e) (hd : a ≠ .satelliteDisbursementSettled) (hc : a ≠ .sourceCompensated) :
    Origin D σ t e :=
  .report out.sourceComponent (fun h => absurd (out.actionType.symm.trans h) hd)
    (fun h => absurd (out.actionType.symm.trans h) hc)

theorem Step.extends (h : Step D σ env s t) (hs : ∀ l, Settled D σ s l (s.settlement.records l)) :
    ∃ sent, s.endpoint.Extends t.endpoint sent ∧
      ∀ e ∈ sent, Routed D (D.satellite σ).endpoint.toCoordinatorConfig e ∧ Origin D σ t e := by
  cases h with
  | foreign step =>
    obtain ⟨sent, hx, hnew⟩ := step.extends
    refine ⟨sent, hx, fun e he => ?_⟩
    obtain ⟨hforeign, payload, out⟩ := hnew e he
    exact ⟨out.toRouted, .foreign hforeign⟩
  | burn ok _ chain generic message =>
    refine ⟨some _, .recordSends _ (some _), ?_⟩
    rintro _ ⟨⟩
    exact ⟨ok.out.toRouted, .burn ok.out.sourceComponent (ok.evidence message chain rfl fun h => absurd h generic)⟩
  | @repay d _ _ _ ok found known _ disbursed action route router payloadIs =>
    refine ⟨some _, .recordSends _ (some _), ?_⟩
    rintro _ ⟨⟩
    have hp := (hs d.loanId).provisioned (found ▸ known)
    rw [found] at hp
    refine ⟨ok.out.toRouted, .burn ok.out.sourceComponent
      (ok.evidence (payloadIs ▸ .repayment _ action (router.trans hp.router)) ?_ rfl fun _ => ?_)⟩
    · rw [route, hp.repaymentRoute]
      exact D.repaymentRoute σ
    · simp only [withRecord, set_self]
      exact ⟨known, disbursed ▸ hp.principal⟩
  | lockCollateral _ _ _ _ _ out =>
    refine ⟨some _, .recordSends _ (some _), ?_⟩
    rintro _ ⟨⟩
    exact ⟨out.toRouted, .ofReport out (by simp) (by simp)⟩
  | mint => exact ⟨none, .delivered .., by simp⟩
  | escrow _ _ _ _ _ _ out | release _ _ _ _ _ _ _ _ _ _ out =>
    refine ⟨some _, .delivered .., ?_⟩
    rintro _ ⟨⟩
    exact ⟨out.toRouted, .ofReport out (by simp) (by simp)⟩
  | @disburse _ report payload action _ _ _ _ _ _ found known _ _ _ _ out =>
    refine ⟨some _, .delivered .., ?_⟩
    rintro _ ⟨⟩
    have hp := (hs action.loanId).provisioned (found ▸ known)
    rw [found] at hp
    refine ⟨out.toRouted, .report out.sourceComponent (fun _ => ⟨_, out.payload, ?_⟩)
      (fun h => absurd (out.actionType.symm.trans h) (by simp))⟩
    simp only [legReport, withRecord, set_self]
    exact ⟨known, hp.principal, hp.borrower.symm, trivial⟩
  | @cancel e report payload action r result burnResult record ok destination haction hpayload cancellationId found known
      escrowed undisbursed uncancelled amount covered reportId reportLoan reportAmount out hresult =>
    refine ⟨some _, .delivered .., ?_⟩
    rintro _ ⟨⟩
    refine ⟨out.toRouted, .report out.sourceComponent (fun h => absurd (out.actionType.symm.trans h) (by simp))
      (fun _ => ⟨r, out.payload, reportId.trans_ne cancellationId, ?_⟩)⟩
    simp only [reportLoan, withRecord, set_self]
    exact ⟨known, reportId.symm, by rw [reportAmount, amount]⟩
  | compensate _ _ _ _ _ hresult | recompensate _ hresult => exact ⟨none, .compensated _ hresult, by simp⟩
  | _ => exact ⟨none, .refl _, by simp⟩

structure Burns (s : Satellite W) : Prop where
  unburned : ∀ b, s.wrapped.burnMessage b = 0 → (s.wrapped.burnRecords b).state = .none
  compensated : ∀ b, (s.wrapped.burnRecords b).state = .compensated →
    s.endpoint.recovery.sourceCompensation (s.wrapped.burnRecords b).messageId ≠ 0

omit [CollisionFree W] in
theorem RecordChange.kept [Evm W] {D : Deployment W} {s t : Satellite W} (h : RecordChange D σ s t l r)
    (hl : (s.settlement.records l).loanId ≠ 0) : (s.settlement.records l).Kept r := by
  cases h with
  | provision ok key => exact absurd (key ▸ ok.unsettled) hl
  | adjust | escrow => exact ⟨rfl, fun _ => rfl, fun _ => ⟨rfl, rfl⟩⟩
  | disburse _ _ undisbursed => exact ⟨rfl, fun h => absurd undisbursed h, fun _ => ⟨rfl, rfl⟩⟩
  | cancel _ _ _ uncancelled =>
    exact ⟨rfl, fun _ => rfl, fun h => absurd uncancelled h⟩

theorem Step.kept (h : Step D σ env s t) (hb : Burns s) (hs : ∀ l, Settled D σ s l (s.settlement.records l))
    (hx : s.endpoint.Extends t.endpoint sent) : Kept s t sent := by
  refine ⟨hx, fun b hb' => ?_, fun _ => h.mintMessage, fun _ => h.provisionedLoans, fun l hl => ?_⟩
  · cases h.burns hs with
    | same records =>
      rw [records]
      exact ⟨rfl, hb'⟩
    | @burn _ _ _ _ _ fresh _ _ records =>
      rw [records, set_of_ne _ _ (by rintro rfl; exact hb' (hb.unburned _ fresh))]
      exact ⟨rfl, hb'⟩
    | @compensate _ _ _ _ records =>
      rw [records, set_apply]
      split
      next heq =>
        subst heq
        exact ⟨rfl, by simp⟩
      next => exact ⟨rfl, hb'⟩
  · cases h.settlement with
    | same settlement =>
      rw [settlement]
      exact .refl _
    | @record _ _ records change =>
      rw [records, set_apply]
      split
      next heq =>
        subst heq
        exact change.kept hl
      next => exact .refl _

theorem Burns.step (hb : Burns s) (h : Step D σ env s t) (hs : ∀ l, Settled D σ s l (s.settlement.records l)) :
    Burns t := by
  obtain ⟨sent, hx, -⟩ := h.extends hs
  cases h.burns hs with
  | same records messages =>
    refine ⟨fun b => ?_, fun b hc => ?_⟩
    · rw [records, messages]
      exact hb.unburned b
    · rw [records] at hc ⊢
      exact hx.compensation _ (hb.compensated b hc)
  | @burn _ _ _ _ _ _ state messageId records messages =>
    refine ⟨fun b => ?_, fun b => ?_⟩
    · rw [records, messages, set_apply, set_apply]
      split
      · exact fun h => absurd h messageId
      · exact hb.unburned b
    · rw [records, set_apply]
      split
      · rw [state]
        exact fun h => by cases h
      · exact fun hc => hx.compensation _ (hb.compensated b hc)
  | @compensate _ _ burned compensated records messages =>
    refine ⟨fun b => ?_, fun b => ?_⟩
    · rw [records, messages, set_apply]
      split
      next heq =>
        subst heq
        intro h
        rw [hb.unburned _ h] at burned
        cases burned
      next => exact hb.unburned b
    · rw [records, set_apply]
      split
      · exact fun _ => compensated
      · exact fun hc => hx.compensation _ (hb.compensated b hc)

/-! ### Loans -/

theorem Funding.kept (h : Funding D σ s l x) (hk : Kept s t sent) : Funding D σ t l x := by
  obtain ⟨hc, hm, e, payload, lock, hx, hrest⟩ := h
  exact ⟨hc, hk.minted x hm, e, payload, lock, hx.extends hk.log, hrest⟩

theorem CancellationOrder.kept {id : W} (h : CancellationOrder D σ s l id) (hk : Kept s t sent) :
    CancellationOrder D σ t l id := by
  obtain ⟨e, payload, action, hx, hrest⟩ := h
  exact ⟨e, payload, action, hx.extends hk.log, hrest⟩

theorem ReleaseOrder.kept {a : Address} (h : ReleaseOrder D σ s l a) (hk : Kept s t sent) : ReleaseOrder D σ t l a := by
  obtain ⟨e, payload, action, hx, hrest⟩ := h
  exact ⟨e, payload, action, hx.extends hk.log, hrest⟩

theorem Provisioned.kept (h : Provisioned D σ s l r) (hk : Kept s t sent) : Provisioned D σ t l r := by
  have same := hk.provisioned l h.known
  exact ⟨same ▸ h.borrower, h.principal, h.router, h.repaymentRoute, same ▸ h.known⟩

omit [CollisionFree W] in
theorem Provisioned.of_terms [Evm W] {D : Deployment W} {s : Satellite W} {r r' : SettlementRecord W}
    (h : Provisioned D σ s l r) (ht : r'.terms = r.terms) : Provisioned D σ s l r' where
  borrower := (congrArg SettlementRecord.borrower ht).trans h.borrower
  principal := (congrArg SettlementRecord.principalAmount ht).trans_ne h.principal
  router := (congrArg SettlementRecord.homeLoanRouter ht).trans h.router
  repaymentRoute := (congrArg SettlementRecord.repaymentRoutePolicyHash ht).trans h.repaymentRoute
  known := h.known

theorem Settled.kept (h : Settled D σ s l r)
    (hk : Kept s t sent)
    (hlog : t.settlement.disbursements.filter (·.loanId = l) = s.settlement.disbursements.filter (·.loanId = l)) :
    Settled D σ t l r where
  provisioned hl := (h.provisioned hl).kept hk
  unknown := h.unknown
  funded hf := (h.funded hf).kept hk
  disbursed := h.disbursed
  cancelled hc := ⟨(h.cancelled hc).1, (h.cancelled hc).2.1, (h.cancelled hc).2.2.kept hk⟩
  uncancelled := h.uncancelled
  log := hlog.trans h.log

theorem RecordChange.settled (h : RecordChange D σ s t l r) (hs : Settled D σ s l (s.settlement.records l))
    (hk : Kept s t sent) : Settled D σ t l r := by
  cases h with
  | provision ok key component log =>
    subst key
    refine ⟨fun _ => ⟨?_, ok.principal, ok.router, ok.repaymentRoute, ?_⟩, fun h => absurd h ok.loanId, by simp,
      fun h => absurd rfl h, fun h => absurd rfl h, fun _ => rfl, ?_⟩
    · rw [component]
    · rw [component]
      exact ok.loanId
    · rw [log, hs.log]
      simp [(hs.unknown ok.unsettled).2.1]
  | adjust log =>
    have kept := hs.kept hk (by rw [log])
    exact ⟨fun hl => (kept.provisioned hl).of_terms rfl, kept.unknown, kept.funded, kept.disbursed, kept.cancelled,
      kept.uncancelled, kept.log⟩
  | escrow known unminted funding log =>
    have kept := hs.kept hk (by rw [log])
    refine ⟨fun hl => (kept.provisioned hl).of_terms rfl, fun h => absurd h known, fun _ => funding, kept.disbursed,
      fun hc => ?_, kept.uncancelled, kept.log⟩
    -- A cancelled loan was funded before, and its lock cannot be minted twice.
    exact absurd unminted (hs.funded (.inr (.inr hc))).minted
  | disburse known escrowed undisbursed log =>
    have hp := hs.provisioned known
    have hescrowed : (s.settlement.records l).escrowedAmount ≠ 0 := escrowed ▸ hp.principal
    have huncancelled : (s.settlement.records l).cancellationId = 0 := by
      by_contra hc
      exact hescrowed (hs.cancelled hc).1
    refine ⟨fun _ => (hp.kept hk).of_terms rfl, fun h => absurd h known, fun _ => (hs.funded (.inl hescrowed)).kept hk,
      fun _ => ⟨rfl, huncancelled⟩, fun hc => absurd huncancelled hc, hs.uncancelled, ?_⟩
    rw [log, List.filter_append, hs.log, if_pos undisbursed, if_neg hp.principal]
    simp
  | cancel known escrowed undisbursed _ isCancellation order log =>
    have hp := hs.provisioned known
    have hescrowed : (s.settlement.records l).escrowedAmount ≠ 0 := escrowed ▸ hp.principal
    exact ⟨fun _ => (hp.kept hk).of_terms rfl, fun h => absurd h known, fun _ => (hs.funded (.inl hescrowed)).kept hk,
      fun h => absurd undisbursed h, fun _ => ⟨rfl, rfl, order⟩, fun h => absurd h isCancellation,
      (hs.kept hk (by rw [log])).log⟩

/-- A change of one record leaves the disbursements of every other loan alone. -/
theorem RecordChange.log (h : RecordChange D σ s t l r) (hne : l' ≠ l) :
    t.settlement.disbursements.filter (·.loanId = l') = s.settlement.disbursements.filter (·.loanId = l') := by
  cases h with
  | disburse _ _ _ log =>
    rw [log, List.filter_append]
    simp [hne.symm]
  | provision _ _ _ log | adjust log | escrow _ _ _ log | cancel _ _ _ _ _ _ log => rw [log]

theorem Step.settled (h : Step D σ env s t) (hk : Kept s t sent) (hs : ∀ l, Settled D σ s l (s.settlement.records l))
    (l : W) : Settled D σ t l (t.settlement.records l) := by
  cases h.settlement with
  | same settlement =>
    rw [settlement]
    exact (hs l).kept hk (by rw [settlement])
  | @record _ _ records change =>
    rw [records, set_apply]
    split
    next heq =>
      subst heq
      exact change.settled (hs l) hk
    next hne => exact (hs l).kept hk (change.log hne)

/-! ### Collateral -/

structure Secured (D : Deployment W) (σ : Nat) (s : Satellite W) (l : W) (r : CollateralRecord W) : Prop where
  known : r.loanId ≠ 0 → r.loanId = l ∧ s.collateral.collateralLoan r.collateralId = l
  unknown : r.loanId = 0 → r.state = .none
  released : r.state = .released → ReleaseOrder D σ s l r.homeLoanAccount
  log : s.collateral.releases.filter (·.loanId = l) =
    if r.state = .released then [⟨l, r.borrower, r.amount⟩] else []

/-- A collateral that was given to a loan stays with it. -/
theorem CollateralRecordChange.collateralLoan {r : CollateralRecord W} (h : CollateralRecordChange D σ s t l r) {c : W}
    (hc : s.collateral.collateralLoan c ≠ 0) : t.collateral.collateralLoan c = s.collateral.collateralLoan c := by
  cases h with
  | provision ok _ loans =>
    rw [loans, set_of_ne]
    rintro rfl
    exact hc ok.collateralFree
  | lock _ _ loans | release _ _ _ loans => rw [loans]

theorem CollateralRecordChange.log {r : CollateralRecord W} (h : CollateralRecordChange D σ s t l r) (hne : l' ≠ l) :
    t.collateral.releases.filter (·.loanId = l') = s.collateral.releases.filter (·.loanId = l') := by
  cases h with
  | provision _ _ _ log | lock _ _ _ log => rw [log]
  | release _ _ _ _ log =>
    rw [log, List.filter_append]
    simp [hne.symm]

theorem Secured.kept {r : CollateralRecord W} (h : Secured D σ s l r)
    (hk : Kept s t sent)
    (hloans : ∀ c, s.collateral.collateralLoan c ≠ 0 → t.collateral.collateralLoan c = s.collateral.collateralLoan c)
    (hlog : t.collateral.releases.filter (·.loanId = l) = s.collateral.releases.filter (·.loanId = l)) :
    Secured D σ t l r where
  known hr := by
    obtain ⟨hid, hloan⟩ := h.known hr
    refine ⟨hid, ?_⟩
    rw [hloans _ (hloan ▸ hid ▸ hr), hloan]
  unknown := h.unknown
  released hr := (h.released hr).kept hk
  log := hlog.trans h.log

theorem CollateralRecordChange.secured {r : CollateralRecord W} (h : CollateralRecordChange D σ s t l r)
    (hs : Secured D σ s l (s.collateral.records l)) : Secured D σ t l r := by
  cases h with
  | provision ok key loans log =>
    subst key
    refine ⟨fun _ => ⟨rfl, ?_⟩, fun h => absurd h ok.loanId, (fun h => by cases h), ?_⟩
    · rw [loans, set_self]
    · rw [log, hs.log, hs.unknown ok.unsecured]
      rfl
  | lock known fresh loans log =>
    refine ⟨fun _ => ?_, fun h => absurd h known, (fun h => by cases h), ?_⟩
    · rw [loans]
      exact hs.known known
    · rw [log, hs.log, fresh]
      rfl
  | release known locked order loans log =>
    refine ⟨fun _ => ?_, fun h => absurd h known, fun _ => order, ?_⟩
    · rw [loans]
      exact hs.known known
    · rw [log, List.filter_append, hs.log, locked]
      simp

theorem Step.secured (h : Step D σ env s t) (hk : Kept s t sent) (hs : ∀ l, Secured D σ s l (s.collateral.records l))
    (l : W) : Secured D σ t l (t.collateral.records l) := by
  cases h.collateral with
  | same records loans log =>
    rw [records]
    exact (hs l).kept hk (fun _ _ => by rw [loans]) (by rw [log])
  | @record _ _ records change =>
    rw [records, set_apply]
    split
    next heq =>
      subst heq
      exact change.secured (hs l)
    next hne => exact (hs l).kept hk (fun _ => change.collateralLoan) (change.log hne)

/-- The vault holds every collateral that it locked and did not release. -/
def Covered (D : Deployment W) (σ : Nat) (s : Satellite W) : Prop :=
  s.collateral.records.sum lockedAmount ≤ vaultBalance D σ s

/-- What a record binds moves with the vault's balance. -/
theorem CollateralRecordChange.balance {r : CollateralRecord W} (h : CollateralRecordChange D σ s t l r)
    (hs : Secured D σ s l (s.collateral.records l)) :
    vaultBalance D σ s + lockedAmount l r = vaultBalance D σ t + lockedAmount l (s.collateral.records l) := by
  cases h with
  | provision ok key _ _ balance =>
    subst key
    simp [lockedAmount, hs.unknown ok.unsecured, balance]
  | lock _ fresh _ _ balance => simp [lockedAmount, fresh, balance]
  | release _ locked _ _ _ paid => simp [lockedAmount, locked, vaultBalance, ← paid.source]

theorem Covered.step (hc : Covered D σ s) (h : Step D σ env s t)
    (hs : ∀ l, Secured D σ s l (s.collateral.records l)) : Covered D σ t := by
  unfold Covered at hc ⊢
  cases h.collateral with
  | same records _ _ balance =>
    rw [records]
    exact hc.trans balance
  | @record l r records change =>
    have hsum := s.collateral.records.sum_set lockedAmount_vanishes l r
    have hbalance := change.balance (hs l)
    rw [records]
    omega

theorem BurnEvidence.kept {b : W} {d : BurnDispatch W} (h : BurnEvidence D σ s b e d payload) (hk : Kept s t sent) :
    BurnEvidence D σ t b e d payload := by
  obtain ⟨terms, recorded⟩ := hk.burns b h.recorded
  refine { h with
    recorded := recorded
    messageId := (congrArg BurnRecord.messageId terms).trans h.messageId
    amount := (congrArg BurnRecord.amount terms).trans h.amount
    disbursed := fun haction => ?_ }
  obtain ⟨hl, hd⟩ := h.disbursed haction
  have kept := hk.records d.loanId hl
  exact ⟨(congrArg SettlementRecord.loanId kept.terms).trans_ne hl, (kept.disbursed hd).trans_ne hd⟩

theorem DisbursementEvidence.kept (h : s.DisbursementEvidence e) (hk : Kept s t sent) : t.DisbursementEvidence e := by
  obtain ⟨p, hp, hl, hd, hb, ha⟩ := h
  have kept := hk.records p.loanId hl
  exact ⟨p, hp, (congrArg SettlementRecord.loanId kept.terms).trans_ne hl, (kept.disbursed hd).trans_ne hd,
    hb.trans (congrArg SettlementRecord.borrower kept.terms).symm,
    ha.trans (congrArg SettlementRecord.principalAmount kept.terms).symm⟩

theorem CancellationEvidence.kept (h : s.CancellationEvidence e) (hk : Kept s t sent) : t.CancellationEvidence e := by
  obtain ⟨p, hp, hid, hl, hc, ha⟩ := h
  have kept := hk.records p.loanId hl
  obtain ⟨hc', ha'⟩ := kept.cancelled (hc.trans_ne hid)
  exact ⟨p, hp, hid, (congrArg SettlementRecord.loanId kept.terms).trans_ne hl, hc'.trans hc, ha'.trans ha⟩

theorem Origin.kept (h : Origin D σ s e) (hk : Kept s t sent) : Origin D σ t e := by
  cases h with
  | foreign source => exact .foreign source
  | burn source evidence => exact .burn source (evidence.kept hk)
  | report source disbursed cancelled =>
    exact .report source (fun h => (disbursed h).kept hk) (fun h => (cancelled h).kept hk)

structure Local (D : Deployment W) (σ : Nat) (s : Satellite W) : Prop where
  routed : ∀ e, .messageSent e ∈ s.endpoint.coordinator.events →
    Routed D (D.satellite σ).endpoint.toCoordinatorConfig e
  origin : ∀ e, .messageSent e ∈ s.endpoint.coordinator.events → Origin D σ s e
  burns : Burns s
  burnSent : ∀ b, (s.wrapped.burnRecords b).state ≠ .none →
    ∃ e d payload, .messageSent e ∈ s.endpoint.coordinator.events ∧ BurnEvidence D σ s b e d payload
  settled : ∀ l, Settled D σ s l (s.settlement.records l)
  secured : ∀ l, Secured D σ s l (s.collateral.records l)
  covered : Covered D σ s

theorem Local.initial (D : Deployment W) (σ : Nat) (collateralToken : Token) :
    Local D σ (initial D σ collateralToken) where
  routed _ h := by cases h
  origin _ h := by cases h
  burns := ⟨fun _ _ => rfl, fun _ h => by cases h⟩
  burnSent _ h := absurd rfl h
  settled _ := ⟨fun h => absurd rfl h, fun _ => ⟨rfl, rfl, rfl⟩,
    (fun h => by rcases h with h | h | h <;> exact absurd rfl h), fun h => absurd rfl h, fun h => absurd rfl h,
    fun _ => rfl, rfl⟩
  secured _ := ⟨fun h => absurd rfl h, fun _ => rfl, (fun h => by cases h), rfl⟩
  covered := Nat.zero_le _

theorem Local.step (hl : Local D σ s) (h : Step D σ env s t) : Local D σ t ∧ ∃ sent, Kept s t sent := by
  obtain ⟨sent, hx, hnew⟩ := h.extends hl.settled
  have hk := h.kept hl.burns hl.settled hx
  refine ⟨⟨fun e he => ?_, fun e he => ?_, hl.burns.step h hl.settled, fun b => ?_, h.settled hk hl.settled,
    h.secured hk hl.secured, hl.covered.step h hl.secured⟩, sent, hk⟩
  · rcases (hx.sent_iff e).mp he with hold | hnew'
    · exact hl.routed e hold
    · exact (hnew e hnew').1
  · rcases (hx.sent_iff e).mp he with hold | hnew'
    · exact (hl.origin e hold).kept hk
    · exact (hnew e hnew').2
  · have old (hb : (s.wrapped.burnRecords b).state ≠ .none) :
        ∃ e d payload, .messageSent e ∈ t.endpoint.coordinator.events ∧ BurnEvidence D σ t b e d payload := by
      obtain ⟨e, d, payload, hsent, hev⟩ := hl.burnSent b hb
      exact ⟨e, d, payload, hx.of_sent hsent, hev.kept hk⟩
    cases h.burns hl.settled with
    | same records =>
      rw [records]
      exact old
    | @burn _ _ e d payload _ _ _ records _ sent evidence =>
      rw [records, set_apply]
      split
      next heq =>
        subst heq
        exact fun _ => ⟨e, d, payload, sent, evidence⟩
      next => exact old
    | @compensate _ _ burned _ records =>
      rw [records, set_apply]
      split
      next heq =>
        subst heq
        exact fun _ => old (by rw [burned]; simp)
      next => exact old

end Satellite

end Unified.CrossChain
