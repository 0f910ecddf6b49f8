import Unified.CrossChain.Effects
import Unified.CrossChain.Satellite

/-! What a call on a satellite chain can do, with everything it checked. -/

namespace Unified.CrossChain.Satellite

variable {W : Type} [Evm W]

def Receives (D : Deployment W) (σ : Nat) (a : Address) : Prop :=
  a = (D.satellite σ).wrappedUFT ∨ a = (D.satellite σ).satelliteSettlementVault ∨
    a = (D.satellite σ).satelliteCollateralVault

def Sends (D : Deployment W) (σ : Nat) (a : Address) : Prop :=
  a = (D.satellite σ).wrappedUFT ∨ a = (D.satellite σ).satelliteComponent

inductive BurnMessage (D : Deployment W) (σ : Nat) (d : BurnDispatch W) : Payload W → Prop
  | permanent (action : d.actionType = .satelliteUftPermanentBurned)
      (destination : (D.routes d.routePolicyHash).destinationComponent = D.homeBridgeHub) :
      BurnMessage D σ d (SatelliteUftPermanentBurnedPayload.encode
        ⟨d.burnId, d.backingRoutePolicyHash, D.canonicalUFT, D.homeBridgeHub, (D.satellite σ).wrappedUFT, d.amount⟩)
  | redeemable (recipient : Address) (action : d.actionType = .wrappedUftBurned)
      (destination : (D.routes d.routePolicyHash).destinationComponent = D.homeBridgeHub) :
      BurnMessage D σ d (WrappedUftBurnedPayload.encode
        ⟨d.burnId, d.backingRoutePolicyHash, D.canonicalUFT, D.homeBridgeHub, (D.satellite σ).wrappedUFT, recipient,
          d.amount⟩)
  | repayment (lender : Address) (action : d.actionType = .satelliteRepaymentBurned)
      (destination : (D.routes d.routePolicyHash).destinationComponent = (D.satellite σ).homeLoanRouter) :
      BurnMessage D σ d (SatelliteRepaymentBurnedPayload.encode
        ⟨d.burnId, d.loanId, d.paymentId, d.backingRoutePolicyHash, D.canonicalUFT, D.homeBridgeHub,
          (D.satellite σ).wrappedUFT, lender, d.amount⟩)

def reported (component : SatelliteLoanComponent W) (loanId : W) (a : CrossChainActionType) (m : W) :
    SatelliteLoanComponent W :=
  { component with reportMessage := component.reportMessage.set (loanId, a) m }

def legReport (component : SatelliteLoanComponent W) (loanId operationId : W) (token : Address) (amount : Nat) :
    LoanLegPayload W :=
  let p := component.provisionedLoans loanId
  ⟨loanId, operationId, p.homeLoanAccount, p.borrower, p.lender, token, amount, p.policyHash⟩

abbrev Report (D : Deployment W) (σ : Nat) (a : CrossChainActionType) (payload : Payload W) (c : Coordinator W)
    (e : MessageEnvelope W) : Prop :=
  Outgoing D (D.satellite σ).endpoint.toCoordinatorConfig (D.satellite σ).satelliteComponent
    (D.satellite σ).reportRoutePolicyHash a payload c e

def minted (w : WrappedUFT W) (e : MessageEnvelope W) (lock : CanonicalUftLockPayload W) : WrappedUFT W :=
  { w with
    token := w.token.credit lock.destinationRecipient lock.amount
    mintMessage := w.mintMessage.set lock.lockId e.messageId }

structure Mintable (D : Deployment W) (σ : Nat) (env : Env W) (e : MessageEnvelope W) (payload : Payload W)
    (lock : CanonicalUftLockPayload W) (s : Satellite W) : Prop where
  deliverable : Deliverable (D.satellite σ).endpoint.toCoordinatorConfig env e payload s.endpoint.coordinator
  destination : e.destinationComponent = (D.satellite σ).wrappedUFT
  action : e.actionType = .canonicalUftLocked
  payload : CanonicalUftLockPayload.decode payload = some lock
  configured : (D.satellite σ).canonicalBackingRoutePolicyHash ≠ 0
  route : e.routePolicyHash = (D.satellite σ).canonicalBackingRoutePolicyHash
  lockId : lock.lockId ≠ 0
  amount : lock.amount ≠ 0
  unminted : s.wrapped.mintMessage lock.lockId = 0

/-- A burn that passed its checks and left the message `e`. -/
structure Burnable (D : Deployment W) (σ : Nat) (d : BurnDispatch W) (payload : Payload W) (e : MessageEnvelope W)
    (s : Satellite W) : Prop where
  burnId : d.burnId ≠ 0
  backing : d.backingRoutePolicyHash = (D.satellite σ).canonicalBackingRoutePolicyHash
  unburned : s.wrapped.burnMessage d.burnId = 0
  covered : d.amount ≤ s.wrapped.token.balances d.account
  out : Outgoing D (D.satellite σ).endpoint.toCoordinatorConfig (D.satellite σ).wrappedUFT d.routePolicyHash
    d.actionType payload s.endpoint.coordinator e

def burned (w : WrappedUFT W) (d : BurnDispatch W) (m : W) (h : d.amount ≤ w.token.balances d.account) : WrappedUFT W :=
  { w with token := w.token.debit d.account d.amount h }.recordBurn d m

def escrowBurned (w : WrappedUFT W) (vault : Address) (cancellationId loanId result : W) (amount : Nat)
    (h : amount ≤ w.token.balances vault) : WrappedUFT W :=
  { w with
    token := w.token.debit vault amount h
    loanCancellationBurn := w.loanCancellationBurn.set loanId cancellationId
    cancellationBurnResult := w.cancellationBurnResult.set cancellationId result }

def unburned (w : WrappedUFT W) (burnId result : W) (record : BurnRecord W) : WrappedUFT W :=
  { w with
    token := w.token.credit record.account record.amount
    burnRecords := w.burnRecords.set burnId { record with state := .compensated, compensationResult := result } }

def withRecord (v : SatelliteSettlementVault W) (loanId : W) (record : SettlementRecord W) :
    SatelliteSettlementVault W :=
  { v with records := v.records.set loanId record }

structure Provisionable (D : Deployment W) (σ : Nat) (p : SatelliteLoanProvisioning W) (s : Satellite W) : Prop where
  loanId : p.loanId ≠ 0
  principal : p.principalAmount ≠ 0
  collateralAmount : p.collateralAmount ≠ 0
  router : p.homeLoanRouter = (D.satellite σ).homeLoanRouter
  repaymentRoute : p.repaymentRoutePolicyHash = (D.satellite σ).repaymentRoutePolicyHash
  unprovisioned : (s.component.provisionedLoans p.loanId).loanId = 0
  unsettled : (s.settlement.records p.loanId).loanId = 0
  unsecured : (s.collateral.records p.loanId).loanId = 0
  collateralFree : s.collateral.collateralLoan p.collateralId = 0

def provisioned (s : Satellite W) (p : SatelliteLoanProvisioning W) : Satellite W :=
  { s with
    component := { s.component with provisionedLoans := s.component.provisionedLoans.set p.loanId p }
    settlement := withRecord s.settlement p.loanId
      ⟨p.loanId, p.fundingLockId, p.homeLoanAccount, p.homeLoanRouter, p.borrower, p.lender, p.principalAmount, 0, 0, 0,
        0, 0, p.repaymentRoutePolicyHash, p.policyHash⟩
    collateral := { s.collateral with
      records := s.collateral.records.set p.loanId
        ⟨p.loanId, p.collateralId, p.homeLoanAccount, p.borrower, p.lender, p.collateralToken, p.collateralAmount,
          p.policyHash, .none⟩
      collateralLoan := s.collateral.collateralLoan.set p.collateralId p.loanId } }

/-- What a call did. `record` is the record of the loan it was about. -/
inductive Step (D : Deployment W) (σ : Nat) (env : Env W) (s : Satellite W) : Satellite W → Prop
  | idle : Step D σ env s s
  | foreign {endpoint : Endpoint W}
      (step : s.endpoint.ForeignStep D (D.satellite σ).endpoint env (Receives D σ) (Sends D σ) endpoint) :
      Step D σ env s { s with endpoint := endpoint }
  | transferWrapped {token : Token} (supply : token.totalSupply = s.wrapped.token.totalSupply) :
      Step D σ env s { s with wrapped := { s.wrapped with token := token } }
  | transferCollateral {token : Token}
      (kept : s.collateral.collateralToken.balances (D.satellite σ).satelliteCollateralVault ≤
        token.balances (D.satellite σ).satelliteCollateralVault) :
      Step D σ env s { s with collateral := { s.collateral with collateralToken := token } }
  | burn {d : BurnDispatch W} {payload : Payload W} {e : MessageEnvelope W} (ok : Burnable D σ d payload e s)
      (paymentId : d.paymentId = 0) (chain : (D.routes d.routePolicyHash).destinationChainId = D.home.localChainId)
      (generic : d.actionType ≠ .satelliteRepaymentBurned) (message : BurnMessage D σ d payload) :
      Step D σ env s
        { s with
          endpoint := { s.endpoint with coordinator := s.endpoint.coordinator.recordSent e }
          wrapped := burned s.wrapped d e.messageId ok.covered }
  | repay {d : BurnDispatch W} {payload : Payload W} {e : MessageEnvelope W} {record : SettlementRecord W}
      (ok : Burnable D σ d payload e s) (found : s.settlement.records d.loanId = record) (known : record.loanId ≠ 0)
      (paymentId : d.paymentId ≠ 0) (disbursed : record.disbursedAmount = record.principalAmount)
      (action : d.actionType = .satelliteRepaymentBurned) (route : d.routePolicyHash = record.repaymentRoutePolicyHash)
      (router : (D.routes d.routePolicyHash).destinationComponent = record.homeLoanRouter)
      (payloadIs : payload = SatelliteRepaymentBurnedPayload.encode
        ⟨d.burnId, d.loanId, d.paymentId, d.backingRoutePolicyHash, D.canonicalUFT, D.homeBridgeHub,
          (D.satellite σ).wrappedUFT, record.lender, d.amount⟩) :
      Step D σ env s
        { s with
          endpoint := { s.endpoint with coordinator := s.endpoint.coordinator.recordSent e }
          wrapped := burned s.wrapped d e.messageId ok.covered
          settlement := { withRecord s.settlement d.loanId
              { record with authorizedRepaymentAmount := record.authorizedRepaymentAmount + d.amount } with
            consumedPayment := s.settlement.consumedPayment.set d.paymentId true } }
  | provision {p : SatelliteLoanProvisioning W} (ok : Provisionable D σ p s) : Step D σ env s (s.provisioned p)
  | lockCollateral {loanId : W} {report : MessageEnvelope W} {record : CollateralRecord W}
      (found : s.collateral.records loanId = record) (known : record.loanId ≠ 0) (fresh : record.state = .none)
      (apart : record.borrower = (D.satellite σ).satelliteCollateralVault → record.amount = 0)
      (covered : record.amount ≤ s.collateral.collateralToken.balances record.borrower)
      (out : Report D σ .satelliteCollateralLocked
        (legReport s.component loanId record.collateralId (D.satellite σ).collateralToken record.amount).encode
        s.endpoint.coordinator report) :
      Step D σ env s
        { s with
          endpoint := { s.endpoint with coordinator := s.endpoint.coordinator.recordSent report }
          component := reported s.component loanId .satelliteCollateralLocked report.messageId
          collateral := { s.collateral with
            collateralToken := s.collateral.collateralToken.move record.borrower
              (D.satellite σ).satelliteCollateralVault record.amount covered
            records := s.collateral.records.set loanId { record with state := .locked } } }
  | mint {e : MessageEnvelope W} {payload : Payload W} {lock : CanonicalUftLockPayload W} {result : W}
      (ok : Mintable D σ env e payload lock s)
      (outsider : lock.destinationRecipient ≠ (D.satellite σ).satelliteSettlementVault) (hresult : result ≠ 0) :
      Step D σ env s { s with endpoint := s.endpoint.delivered e none result, wrapped := minted s.wrapped e lock }
  | escrow {e report : MessageEnvelope W} {payload : Payload W} {lock : CanonicalUftLockPayload W} {result : W}
      {record : SettlementRecord W} (ok : Mintable D σ env e payload lock s)
      (found : s.settlement.records lock.loanId = record) (known : record.loanId ≠ 0)
      (funding : lock.lockId = record.fundingLockId) (principal : lock.amount = record.principalAmount)
      (unescrowed : record.escrowedAmount = 0)
      (out : Report D σ .wrappedUftMinted
        (legReport s.component lock.loanId lock.lockId (D.satellite σ).wrappedUFT lock.amount).encode
        (s.endpoint.coordinator.recordVerified e) report) (hresult : result ≠ 0) :
      Step D σ env s
        { s with
          endpoint := s.endpoint.delivered e (some report) result
          wrapped := minted s.wrapped e lock
          component := reported s.component lock.loanId .wrappedUftMinted report.messageId
          settlement := withRecord s.settlement lock.loanId { record with escrowedAmount := lock.amount } }
  | disburse {e report : MessageEnvelope W} {payload : Payload W} {action : HomeDisbursementAuthorizedPayload W}
      {result : W} {record : SettlementRecord W}
      (ok : Deliverable (D.satellite σ).endpoint.toCoordinatorConfig env e payload s.endpoint.coordinator)
      (destination : e.destinationComponent = (D.satellite σ).satelliteSettlementVault)
      (haction : e.actionType = .homeDisbursementAuthorized) (hpayload : LoanLegPayload.decode payload = some action)
      (found : s.settlement.records action.loanId = record) (known : record.loanId ≠ 0)
      (escrowed : record.escrowedAmount = record.principalAmount) (undisbursed : record.disbursedAmount = 0)
      (apart : (D.satellite σ).satelliteSettlementVault = record.borrower → record.principalAmount = 0)
      (covered : record.principalAmount ≤ s.wrapped.token.balances (D.satellite σ).satelliteSettlementVault)
      (out : Report D σ .satelliteDisbursementSettled
        (legReport s.component action.loanId record.fundingLockId (D.satellite σ).wrappedUFT
          record.principalAmount).encode (s.endpoint.coordinator.recordVerified e) report) (hresult : result ≠ 0) :
      Step D σ env s
        { s with
          endpoint := s.endpoint.delivered e (some report) result
          wrapped := { s.wrapped with
            token := s.wrapped.token.move (D.satellite σ).satelliteSettlementVault record.borrower record.principalAmount
              covered }
          component := reported s.component action.loanId .satelliteDisbursementSettled report.messageId
          settlement := { withRecord s.settlement action.loanId { record with disbursedAmount := record.principalAmount } with
            disbursements := s.settlement.disbursements ++ [⟨action.loanId, record.borrower, record.principalAmount⟩] } }
  | cancel {e report : MessageEnvelope W} {payload : Payload W} {action : LoanCancellationRequestedPayload W}
      {r : SatelliteFundingCancelledPayload W} {result burnResult : W} {record : SettlementRecord W}
      (ok : Deliverable (D.satellite σ).endpoint.toCoordinatorConfig env e payload s.endpoint.coordinator)
      (destination : e.destinationComponent = (D.satellite σ).satelliteSettlementVault)
      (haction : e.actionType = .cancellationRequested)
      (hpayload : LoanCancellationRequestedPayload.decode payload = some action)
      (cancellationId : action.cancellationId ≠ 0) (found : s.settlement.records action.loanId = record)
      (known : record.loanId ≠ 0) (escrowed : record.escrowedAmount = record.principalAmount)
      (undisbursed : record.disbursedAmount = 0) (uncancelled : record.cancellationId = 0)
      (amount : action.amount = record.principalAmount)
      (covered : action.amount ≤ s.wrapped.token.balances (D.satellite σ).satelliteSettlementVault)
      (reportId : r.cancellationId = action.cancellationId) (reportLoan : r.loanId = action.loanId)
      (reportAmount : r.amount = action.amount)
      (out : Report D σ .sourceCompensated r.encode (s.endpoint.coordinator.recordVerified e) report)
      (hresult : result ≠ 0) :
      Step D σ env s
        { s with
          endpoint := s.endpoint.delivered e (some report) result
          wrapped := escrowBurned s.wrapped (D.satellite σ).satelliteSettlementVault action.cancellationId action.loanId
            burnResult action.amount covered
          component := reported s.component action.loanId .sourceCompensated report.messageId
          settlement := withRecord s.settlement action.loanId
            { record with
              cancellationId := action.cancellationId
              cancelledAmount := record.principalAmount
              escrowedAmount := 0 } }
  | release {e report : MessageEnvelope W} {payload : Payload W} {action : HomeCollateralReleaseAuthorizedPayload W}
      {result : W} {record : CollateralRecord W}
      (ok : Deliverable (D.satellite σ).endpoint.toCoordinatorConfig env e payload s.endpoint.coordinator)
      (destination : e.destinationComponent = (D.satellite σ).satelliteCollateralVault)
      (haction : e.actionType = .homeCollateralReleaseAuthorized) (hpayload : LoanLegPayload.decode payload = some action)
      (found : s.collateral.records action.loanId = record) (known : record.loanId ≠ 0)
      (locked : record.state = .locked) (account : action.homeLoanAccount = record.homeLoanAccount)
      (apart : (D.satellite σ).satelliteCollateralVault = record.borrower → record.amount = 0)
      (covered : record.amount ≤ s.collateral.collateralToken.balances (D.satellite σ).satelliteCollateralVault)
      (out : Report D σ .satelliteCollateralReleased
        (legReport s.component action.loanId record.collateralId (D.satellite σ).collateralToken record.amount).encode
        (s.endpoint.coordinator.recordVerified e) report) (hresult : result ≠ 0) :
      Step D σ env s
        { s with
          endpoint := s.endpoint.delivered e (some report) result
          component := reported s.component action.loanId .satelliteCollateralReleased report.messageId
          collateral := { s.collateral with
            collateralToken := s.collateral.collateralToken.move (D.satellite σ).satelliteCollateralVault
              record.borrower record.amount covered
            records := s.collateral.records.set action.loanId { record with state := .released }
            releases := s.collateral.releases ++ [⟨action.loanId, record.borrower, record.amount⟩] } }
  | compensate {e : MessageEnvelope W} {r : RecoveryRequest W} {signatures : List Bytes} {tombstone burnId result : W}
      {payload : Payload W} {signerBitmap : Nat} {settlement : SatelliteSettlementVault W} {record : BurnRecord W}
      (ok : SourceRecovery (D.satellite σ).endpoint env e r signatures tombstone payload signerBitmap s.endpoint)
      (found : s.wrapped.burnRecords burnId = record) (message : record.messageId = e.messageId)
      (isBurned : record.state = .burned)
      (vault : settlement = s.settlement ∨ ∃ loanId consumed amount,
        settlement = { withRecord s.settlement loanId
            { s.settlement.records loanId with
              authorizedRepaymentAmount := (s.settlement.records loanId).authorizedRepaymentAmount - amount } with
          consumedPayment := consumed })
      (hresult : result ≠ 0) :
      Step D σ env s
        { s with
          endpoint := s.endpoint.compensated e r signerBitmap tombstone none result
          settlement := settlement
          wrapped := unburned s.wrapped burnId result record }
  | recompensate {e : MessageEnvelope W} {r : RecoveryRequest W} {signatures : List Bytes} {tombstone result : W}
      {payload : Payload W} {signerBitmap : Nat}
      (ok : SourceRecovery (D.satellite σ).endpoint env e r signatures tombstone payload signerBitmap s.endpoint)
      (hresult : result ≠ 0) :
      Step D σ env s { s with endpoint := s.endpoint.compensated e r signerBitmap tombstone none result }

/-! ### Every call is a step -/

section

variable {D : Deployment W} {σ amount expiresAt : Nat} {env : Env W} {s t : Satellite W} {e : MessageEnvelope W}
  {payload : Payload W} {result m loanId paymentId burnId : W} {a : CrossChainActionType} {hook : Bool}
  {outcome : Option W} {w w' : WrappedUFT W} {c : Coordinator W} {sender : Address}

theorem sendReport_inv (henv : env.Agrees D) (h : s.sendReport D σ env loanId a payload = .ok (m, t)) :
    ∃ report, Report D σ a payload s.endpoint.coordinator report ∧ m = report.messageId ∧
      t = { s with
        endpoint := { s.endpoint with coordinator := s.endpoint.coordinator.recordSent report }
        component := reported s.component loanId a report.messageId } := by
  simp only [sendReport, bind_eq_ok, pure_eq_ok, Prod.exists, Prod.mk.injEq] at h
  obtain ⟨_, _, hsend, rfl, rfl⟩ := h
  obtain ⟨report, out, -, rfl, rfl⟩ := buildAndSend_outgoing henv hsend
  exact ⟨report, out, rfl, rfl⟩

theorem reportLeg_inv (henv : env.Agrees D) {token : Address} {operationId : W}
    (h : reportLeg a token D σ env loanId operationId amount s = .ok (m, t)) :
    ∃ report, Report D σ a (legReport s.component loanId operationId token amount).encode s.endpoint.coordinator report ∧
      m = report.messageId ∧
      t = { s with
        endpoint := { s.endpoint with coordinator := s.endpoint.coordinator.recordSent report }
        component := reported s.component loanId a report.messageId } := by
  simp only [reportLeg, SatelliteLoanComponent.reportProvisioning, block_eq_ok] at h
  obtain ⟨_, ⟨-, rfl⟩, h⟩ := h
  exact sendReport_inv henv h

/-- The endpoint while a component runs, before and after its report. -/
def verifying (s : Satellite W) (e : MessageEnvelope W) : Satellite W :=
  s.withCoordinator (s.endpoint.coordinator.recordVerified e)

def executed (s : Satellite W) (e : MessageEnvelope W) (result : W) : Satellite W :=
  s.withCoordinator (s.endpoint.coordinator.recordExecuted e result)

theorem handleMint_step (henv : env.Agrees D)
    (hd : Deliverable (D.satellite σ).endpoint.toCoordinatorConfig env e payload s.endpoint.coordinator)
    (hdest : e.destinationComponent = (D.satellite σ).wrappedUFT) (hr : result ≠ 0)
    (h : handleMint D σ env e payload hook (s.verifying e) = .ok (result, t)) :
    Step D σ env s (t.executed e result) := by
  simp only [handleMint, WrappedUFT.mintFor, block_eq_ok, orRevert_eq_ok, Token.mint_eq_ok, Prod.mk.injEq] at h
  obtain ⟨haction, lock, hlock, _, ⟨⟨h0, h1, h2, -, -, -, -, h3, h4⟩, _, ⟨-, rfl⟩, rfl⟩, _, hmint, -, rfl⟩ := h
  have ok : Mintable D σ env e payload lock s := ⟨hd, hdest, haction, hlock, h0, h1, h2, h3, h4⟩
  unfold onWrappedMint at hmint
  split at hmint
  · simp only [SatelliteSettlementVault.escrow, block_eq_ok, Prod.exists] at hmint
    obtain ⟨_, ⟨⟨hk, hf, hp, hu, -⟩, rfl⟩, _, _, hreport, rfl⟩ := hmint
    obtain ⟨report, out, -, rfl⟩ := reportLeg_inv henv hreport
    exact .escrow ok rfl hk hf hp hu out hr
  · next hne =>
    simp only [block_eq_ok] at hmint
    obtain ⟨-, rfl⟩ := hmint
    exact .mint ok hne hr

theorem handleDisbursement_step (henv : env.Agrees D)
    (hd : Deliverable (D.satellite σ).endpoint.toCoordinatorConfig env e payload s.endpoint.coordinator)
    (hdest : e.destinationComponent = (D.satellite σ).satelliteSettlementVault)
    (haction : e.actionType = .homeDisbursementAuthorized) (hr : result ≠ 0)
    (h : handleDisbursement D σ env e payload (s.verifying e) = .ok (result, t)) :
    Step D σ env s (t.executed e result) := by
  simp only [handleDisbursement, SatelliteSettlementVault.disburse, block_eq_ok, orRevert_eq_ok,
    Token.transferExact_eq_ok, Prod.exists, Prod.mk.injEq] at h
  obtain ⟨action, hpayload, _, ⟨⟨hk, hesc, hun, -⟩, rfl⟩, _, ⟨-, -, hself, hle, rfl⟩, _, _, hreport, -, rfl⟩ := h
  obtain ⟨report, out, -, rfl⟩ := reportLeg_inv henv hreport
  exact .disburse hd hdest haction hpayload rfl hk hesc hun hself hle out hr

theorem cancelEscrow_step (henv : env.Agrees D)
    (hd : Deliverable (D.satellite σ).endpoint.toCoordinatorConfig env e payload s.endpoint.coordinator)
    (hdest : e.destinationComponent = (D.satellite σ).satelliteSettlementVault)
    (haction : e.actionType = .cancellationRequested) (hr : result ≠ 0)
    (h : cancelEscrow D σ env e payload (s.verifying e) = .ok (result, t)) :
    Step D σ env s (t.executed e result) := by
  simp only [cancelEscrow, SatelliteSettlementVault.cancel, WrappedUFT.burnEscrowedLoanCancellation,
    reportFundingCancellation, SatelliteLoanComponent.reportProvisioning, block_eq_ok, orRevert_eq_ok,
    Token.burn_eq_ok, Prod.exists, Prod.mk.injEq] at h
  obtain ⟨action, hpayload, _, ⟨⟨hid, hk, hesc, hun, hnc, -, -, -, -, -, hamt, -⟩, -, rfl⟩, _, _,
    ⟨-, _, ⟨-, hle, rfl⟩, rfl, rfl⟩, _, _, ⟨-, _, ⟨-, rfl⟩, -, hreport⟩, -, rfl⟩ := h
  obtain ⟨report, out, -, rfl⟩ := sendReport_inv henv hreport
  exact .cancel hd hdest haction hpayload hid rfl hk hesc hun hnc hamt hle rfl rfl rfl out hr

theorem handleRelease_step (henv : env.Agrees D)
    (hd : Deliverable (D.satellite σ).endpoint.toCoordinatorConfig env e payload s.endpoint.coordinator)
    (hdest : e.destinationComponent = (D.satellite σ).satelliteCollateralVault) (hr : result ≠ 0)
    (h : handleRelease D σ env e payload (s.verifying e) = .ok (result, t)) :
    Step D σ env s (t.executed e result) := by
  simp only [handleRelease, SatelliteCollateralVault.giveBack, block_eq_ok, orRevert_eq_ok, Token.transferExact_eq_ok,
    Prod.exists, Prod.mk.injEq] at h
  obtain ⟨haction, action, hpayload, _, ⟨⟨hk, hl, -, hacc, -⟩, _, ⟨-, -, hself, hle, rfl⟩, rfl⟩, _, _, hreport, -, rfl⟩ := h
  obtain ⟨report, out, -, rfl⟩ := reportLeg_inv henv hreport
  exact .release hd hdest haction hpayload rfl hk hl hacc hself hle out hr

theorem executeMessage_step (henv : env.Agrees D) (h : executeMessage D σ env e payload hook outcome s = .ok t) :
    Step D σ env s t := by
  simp only [executeMessage, bind_eq_ok] at h
  obtain ⟨v, hv, h⟩ := h
  cases v with
  | replayed =>
    cases pure_eq_ok.mp h
    exact .idle
  | verified =>
    obtain ⟨hd, rfl⟩ := Coordinator.verifyMessage_eq_verified.mp hv
    simp only [bind_eq_ok, pure_eq_ok, Prod.exists, Coordinator.complete_eq_ok] at h
    obtain ⟨result, u, hhandle, _, ⟨hr, rfl⟩, rfl⟩ := h
    unfold handleCrossChainMessage at hhandle
    split at hhandle
    next hdest => exact handleMint_step henv hd hdest hr hhandle
    split at hhandle
    next hne hdest =>
      split at hhandle
      next haction => exact cancelEscrow_step henv hd hdest haction hr hhandle
      next =>
        obtain ⟨haction, hhandle⟩ := require_bind_eq_ok.mp hhandle
        exact handleDisbursement_step henv hd hdest haction hr hhandle
    split at hhandle
    next hdest => exact handleRelease_step henv hd hdest hr hhandle
    next hmint hsettle hrelease =>
      simp only [bind_eq_ok, pure_eq_ok, orRevert_eq_ok, Prod.mk.injEq] at hhandle
      obtain ⟨_, -, rfl, rfl⟩ := hhandle
      refine .foreign (.deliver hd hr ?_)
      rintro (h | h | h)
      exacts [hmint h, hsettle h, hrelease h]

theorem finishCompensation_inv (h : w.finishCompensation burnId = .ok (result, w')) :
    w' = unburned w burnId result (w.burnRecords burnId) := by
  simp only [WrappedUFT.finishCompensation, bind_eq_ok, pure_eq_ok, Token.mint_eq_ok, Prod.mk.injEq] at h
  obtain ⟨_, ⟨-, rfl⟩, rfl, rfl⟩ := h
  rfl

theorem compensateSource_step {r : RecoveryRequest W} {signatures : List Bytes} {tombstone : W}
    (h : compensateSource D σ env e r signatures tombstone payload outcome s = .ok t) : Step D σ env s t := by
  simp only [compensateSource, bind_eq_ok] at h
  obtain ⟨v, hv, h⟩ := h
  cases v with
  | replayed =>
    cases pure_eq_ok.mp h
    exact .idle
  | authorized =>
    obtain ⟨signerBitmap, hd, rfl⟩ := Endpoint.authorizeCompensation_inv hv
    simp only [bind_eq_ok, pure_eq_ok, Prod.exists, Endpoint.completeCompensation_eq_ok] at h
    obtain ⟨result, u, hcomp, _, ⟨hr, rfl⟩, rfl⟩ := h
    unfold compensateMessage at hcomp
    split at hcomp
    next hsource =>
      simp only [compensateBurn, WrappedUFT.checkCompensation, block_eq_ok, orRevert_eq_ok, Prod.exists] at hcomp
      obtain ⟨burnId, account, -, _, ⟨⟨-, hm, -⟩, rfl⟩, hcomp⟩ := hcomp
      split at hcomp
      · simp only [pure_eq_ok, Prod.mk.injEq] at hcomp
        obtain ⟨rfl, rfl⟩ := hcomp
        exact .recompensate hd hr
      · obtain ⟨hburned, hcomp⟩ := require_bind_eq_ok.mp hcomp
        split at hcomp
        · simp only [bind_eq_ok, pure_eq_ok, Prod.exists, Prod.mk.injEq] at hcomp
          obtain ⟨_, rfl, _, _, hfinish, rfl, rfl⟩ := hcomp
          obtain rfl := finishCompensation_inv hfinish
          exact .compensate hd rfl hm hburned (.inl rfl) hr
        · simp only [bind_eq_ok, pure_eq_ok, Prod.exists, Prod.mk.injEq] at hcomp
          obtain ⟨_, hvault, _, _, hfinish, rfl, rfl⟩ := hcomp
          obtain rfl := finishCompensation_inv hfinish
          simp only [SatelliteSettlementVault.reverseRepaymentBurn, block_eq_ok] at hvault
          exact .compensate hd rfl hm hburned (.inr ⟨_, _, _, hvault.2.symm⟩) hr
    next hsource =>
      simp only [block_eq_ok, orRevert_eq_ok, Prod.mk.injEq] at hcomp
      obtain ⟨hne, _, -, rfl, rfl⟩ := hcomp
      exact .foreign (.compensate hd hr (by rintro (h | h); exacts [hsource h, hne h]))

theorem burnAndSend_inv (henv : env.Agrees D) {d : BurnDispatch W} {c' : Coordinator W}
    (h : w.burnAndSend D σ env d payload c = .ok (w', c')) :
    ∃ (hle : d.amount ≤ w.token.balances d.account) (e : MessageEnvelope W),
      Outgoing D (D.satellite σ).endpoint.toCoordinatorConfig (D.satellite σ).wrappedUFT d.routePolicyHash d.actionType
        payload c e ∧ w' = burned w d e.messageId hle ∧ c' = c.recordSent e := by
  simp only [WrappedUFT.burnAndSend, bind_eq_ok, pure_eq_ok, Token.burn_eq_ok, Prod.exists, Prod.mk.injEq] at h
  obtain ⟨_, ⟨-, hle, rfl⟩, _, _, hsend, rfl, rfl⟩ := h
  obtain ⟨e, out, -, rfl, rfl⟩ := buildAndSend_outgoing henv hsend
  exact ⟨hle, e, out, rfl, rfl⟩

theorem validateBurnRoute_inv (henv : env.Agrees D) {route : W} {u : Unit}
    (h : WrappedUFT.validateBurnRoute D σ env route a = .ok u) :
    (D.routes route).destinationChainId = D.home.localChainId ∧
      (D.routes route).destinationComponent = D.homeBridgeHub := by
  simp only [WrappedUFT.validateBurnRoute, bind_eq_ok, require_eq_ok, RouteRegistry.route_eq_ok] at h
  obtain ⟨_, ⟨-, rfl⟩, _, -, -, -, -, hchain, -, hdest, -⟩ := h
  rw [henv route] at hchain hdest
  exact ⟨hchain, hdest⟩

theorem burnForBridge_step (henv : env.Agrees D) {recipient : Address} {backingRoute burnRoute : W} {permanent : Bool}
    (h : s.wrapped.burnForBridge D σ env sender burnId backingRoute burnRoute recipient amount permanent expiresAt
      s.endpoint.coordinator = .ok (w, c)) :
    Step D σ env s { s.withCoordinator c with wrapped := w } := by
  simp only [WrappedUFT.burnForBridge, block_eq_ok] at h
  obtain ⟨⟨hid, hback, -, -, -, hun⟩, _, hroute, h⟩ := h
  obtain ⟨hchain, hdest⟩ := validateBurnRoute_inv henv hroute
  obtain ⟨hle, e, out, rfl, rfl⟩ := burnAndSend_inv henv h
  cases permanent with
  | true => exact .burn ⟨hid, hback, hun, hle, out⟩ rfl hchain (by simp) (.permanent rfl hdest)
  | false => exact .burn ⟨hid, hback, hun, hle, out⟩ rfl hchain (by simp) (.redeemable recipient rfl hdest)

theorem burnForLoanRepayment_step (henv : env.Agrees D) {repaymentRoute : W}
    (h : burnForLoanRepayment D σ env sender burnId loanId paymentId repaymentRoute amount expiresAt s = .ok t) :
    Step D σ env s t := by
  simp only [burnForLoanRepayment, SatelliteSettlementVault.authorizeRepaymentBurn, block_eq_ok, Prod.exists,
    Prod.mk.injEq, RouteRegistry.route_eq_ok] at h
  obtain ⟨⟨hid, -, hpay, -, -, hun⟩, _, _, ⟨⟨hk, -, -, -, -, hdis, -⟩, rfl, rfl⟩, ⟨hroute, hback⟩, _, _, hburn, _,
    ⟨-, rfl⟩, hrouter, rfl⟩ := h
  obtain ⟨hle, e, out, rfl, rfl⟩ := burnAndSend_inv henv hburn
  rw [henv repaymentRoute] at hrouter
  exact .repay (d := ⟨burnId, loanId, paymentId, _, amount, repaymentRoute, .satelliteRepaymentBurned, sender, expiresAt,
    loanId⟩) ⟨hid, hback, hun, hle, out⟩ rfl hk hpay hdis rfl hroute hrouter rfl

theorem lockCollateral_step (henv : env.Agrees D) (h : lockCollateral D σ env sender loanId s = .ok t) :
    Step D σ env s t := by
  simp only [lockCollateral, SatelliteCollateralVault.take, block_eq_ok, Prod.exists, Token.transferExact_eq_ok] at h
  obtain ⟨_, ⟨⟨hk, -, hfresh⟩, _, ⟨-, -, hself, hle, rfl⟩, rfl⟩, _, _, hreport, rfl⟩ := h
  obtain ⟨report, out, -, rfl⟩ := reportLeg_inv henv hreport
  exact .lockCollateral rfl hk hfresh hself hle out

theorem provisionLoan_step {p : SatelliteLoanProvisioning W} (h : provisionLoan D σ p s = .ok t) :
    Step D σ env s t := by
  simp only [provisionLoan, SatelliteLoanComponent.provisionLoan, SatelliteCollateralVault.provisionLoan,
    SatelliteSettlementVault.provisionLoan, block_eq_ok] at h
  obtain ⟨_, ⟨⟨hid, -, -, hrouter, -, -, -, -, -, -, hprincipal, hcoll, hroute, -⟩, hun, rfl⟩, _,
    ⟨⟨-, -, -, -, -, hunsec, hfree⟩, rfl⟩, _, ⟨⟨-, -, -, -, -, -, -, -, -, -, hunset⟩, rfl⟩, rfl⟩ := h
  exact .provision ⟨hid, hprincipal, hcoll, hrouter, hroute, hun, hunset, hunsec, hfree⟩

theorem call_step (henv : env.Agrees D) {c : SatelliteCall W} (h : call D σ env c s = .ok t) : Step D σ env s t := by
  cases c with
  | transferWrapped =>
    simp only [call, block_eq_ok, Token.transfer_eq_ok] at h
    obtain ⟨-, _, ⟨-, -, hle, rfl⟩, rfl⟩ := h
    exact .transferWrapped rfl
  | transferCollateral =>
    simp only [call, block_eq_ok, Token.transfer_eq_ok] at h
    obtain ⟨hext, _, ⟨-, -, hle, rfl⟩, rfl⟩ := h
    exact .transferCollateral (Token.le_move hle hext.2.2.2.symm)
  | burnForBridge =>
    simp only [call, block_eq_ok, Prod.exists] at h
    obtain ⟨-, _, _, hburn, rfl⟩ := h
    exact burnForBridge_step henv hburn
  | burnForLoanRepayment =>
    exact burnForLoanRepayment_step henv (require_bind_eq_ok.mp h).2
  | provisionLoan => exact provisionLoan_step h
  | lockCollateral => exact lockCollateral_step henv (require_bind_eq_ok.mp h).2
  | sendMessage =>
    simp only [call, block_eq_ok, Coordinator.sendMessage_eq_ok] at h
    obtain ⟨hext, _, ⟨hs, rfl⟩, rfl⟩ := h
    exact .foreign (.send (hs.outgoing henv) (by rintro (h | h); exacts [hext.1 h, hext.2.1 h]))
  | executeMessage => exact executeMessage_step henv h
  | recordAcknowledgement =>
    simp only [call, bind_eq_ok, pure_eq_ok] at h
    obtain ⟨_, hack, rfl⟩ := h
    obtain ⟨ok, rfl | ⟨hzero, hat, rfl⟩⟩ := Coordinator.recordAcknowledgement_inv hack
    · exact .idle
    · exact .foreign (.acknowledge ok hzero hat)
  | recordDestinationTombstone =>
    simp only [call, bind_eq_ok, pure_eq_ok] at h
    obtain ⟨_, htomb, rfl⟩ := h
    rcases Endpoint.recordDestinationTombstone_inv htomb with rfl | ⟨signerBitmap, ok, rfl⟩
    · exact .idle
    · exact .foreign (.tombstone ok)
  | compensateSource => exact compensateSource_step h

end

end Unified.CrossChain.Satellite
