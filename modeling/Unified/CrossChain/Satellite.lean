import Unified.CrossChain.Vaults

/-! One satellite chain: its endpoint, its wrapped token, its loan component and its vaults, and the
    calls that anyone can make to them. A call to a component outside the deployment only has an outcome. -/

namespace Unified.CrossChain

structure Satellite (W : Type) [Evm W] where
  endpoint : Endpoint W
  wrapped : WrappedUFT W
  component : SatelliteLoanComponent W
  settlement : SatelliteSettlementVault W
  collateral : SatelliteCollateralVault W

/-- The calls on a satellite chain. `hook` is the answer of a receiving contract outside the deployment,
    `outcome` that of a component outside it; `none` is a revert. -/
inductive SatelliteCall (W : Type) where
  | transferWrapped (sender recipient : Address) (amount : Nat)
  | transferCollateral (sender recipient : Address) (amount : Nat)
  | burnForBridge (sender : Address) (burnId backingRoute burnRoute : W) (recipient : Address) (amount : Nat)
      (permanent : Bool) (expiresAt : Nat)
  | burnForLoanRepayment (sender : Address) (burnId loanId paymentId repaymentRoute : W) (amount expiresAt : Nat)
  | provisionLoan (provisioning : SatelliteLoanProvisioning W)
  | lockCollateral (sender : Address) (loanId : W)
  | sendMessage (sender : Address) (envelope : MessageEnvelope W) (payload : Payload W)
  | executeMessage (envelope : MessageEnvelope W) (payload : Payload W) (hook : Bool) (outcome : Option W)
  | recordAcknowledgement (envelope : MessageEnvelope W) (resultHash : W)
  | recordDestinationTombstone (envelope : MessageEnvelope W) (request : RecoveryRequest W) (signatures : List Bytes)
  | compensateSource (envelope : MessageEnvelope W) (request : RecoveryRequest W) (signatures : List Bytes)
      (tombstone : W) (payload : Payload W) (outcome : Option W)

namespace Satellite

variable {W : Type} [Evm W]

def initial (D : Deployment W) (σ : Nat) (collateralToken : Token) : Satellite W where
  endpoint := .initial (D.satellite σ).endpoint.recoveryController
  wrapped := .initial
  component := .initial
  settlement := .initial
  collateral := .initial collateralToken

def withCoordinator (s : Satellite W) (c : Coordinator W) : Satellite W :=
  { s with endpoint := { s.endpoint with coordinator := c } }

/-! ### Reports of the loan component -/

def TWO_DAYS : Nat := 172800

def reportRequest (D : Deployment W) (σ : Nat) (env : Env W) (loanId : W) (a : CrossChainActionType)
    (payload : Payload W) : BuildRequest W where
  routePolicyHash := (D.satellite σ).reportRoutePolicyHash
  sourceComponent := (D.satellite σ).satelliteComponent
  aggregateId := loanId
  actionType := a
  payloadHash := payloadHash payload
  expiresAt := (env.now + TWO_DAYS) % 2 ^ 64
  correlationId := loanId
  causationMessageId := 0
  supersededMessageId := 0

def sendReport (D : Deployment W) (σ : Nat) (env : Env W) (loanId : W) (a : CrossChainActionType)
    (payload : Payload W) (s : Satellite W) : Except (Revert W) (W × Satellite W) := do
  let (messageId, c) ← buildAndSend (D.satellite σ).endpoint.toCoordinatorConfig env
    (reportRequest D σ env loanId a payload) payload s.endpoint.coordinator
  pure (messageId,
    { s.withCoordinator c with
      component := { s.component with reportMessage := s.component.reportMessage.set (loanId, a) messageId } })

def reportLeg (a : CrossChainActionType) (token : Address) (D : Deployment W) (σ : Nat) (env : Env W)
    (loanId operationId : W) (amount : Nat) (s : Satellite W) : Except (Revert W) (W × Satellite W) := do
  let p ← s.component.reportProvisioning loanId operationId amount
  s.sendReport D σ env loanId a
    (LoanLegPayload.encode ⟨loanId, operationId, p.homeLoanAccount, p.borrower, p.lender, token, amount, p.policyHash⟩)

def reportMintConfirmed (D : Deployment W) (σ : Nat) : Env W → W → W → Nat → Satellite W →
    Except (Revert W) (W × Satellite W) :=
  reportLeg .wrappedUftMinted (D.satellite σ).wrappedUFT D σ

def reportCollateralLocked (D : Deployment W) (σ : Nat) : Env W → W → W → Nat → Satellite W →
    Except (Revert W) (W × Satellite W) :=
  reportLeg .satelliteCollateralLocked (D.satellite σ).collateralToken D σ

def reportDisbursementSettled (D : Deployment W) (σ : Nat) : Env W → W → W → Nat → Satellite W →
    Except (Revert W) (W × Satellite W) :=
  reportLeg .satelliteDisbursementSettled (D.satellite σ).wrappedUFT D σ

def reportCollateralReleased (D : Deployment W) (σ : Nat) : Env W → W → W → Nat → Satellite W →
    Except (Revert W) (W × Satellite W) :=
  reportLeg .satelliteCollateralReleased (D.satellite σ).collateralToken D σ

def reportFundingCancellation (D : Deployment W) (σ : Nat) (env : Env W)
    (r : SatelliteFundingCancelledPayload W) (s : Satellite W) : Except (Revert W) (W × Satellite W) := do
  require (r.escrowBurnResultHash ≠ 0) .unauthorizedSatelliteCaller
  let p ← s.component.reportProvisioning r.loanId r.cancellationId r.amount
  require (r.fundingLockId = p.fundingLockId ∧ r.homeLoanAccount = p.homeLoanAccount ∧ r.lender = p.lender ∧
    r.wrappedToken = (D.satellite σ).wrappedUFT ∧ r.amount = p.principalAmount ∧ r.policyHash = p.policyHash ∧
    (r.disbursementMessageId = 0 ↔ r.disbursementTombstoneHash = 0)) .invalidSatelliteLoan
  s.sendReport D σ env r.loanId .sourceCompensated r.encode

/-! ### Messages to the components -/

/-- The call of a mint's receiver: the settlement vault escrows the funding of a loan and reports it. -/
def onWrappedMint (D : Deployment W) (σ : Nat) (env : Env W) (lock : CanonicalUftLockPayload W) (hook : Bool)
    (s : Satellite W) : Except (Revert W) (Satellite W) :=
  if lock.destinationRecipient = (D.satellite σ).satelliteSettlementVault then do
    let settlement ← s.settlement.escrow lock.lockId lock.loanId lock.amount
      (s.wrapped.token.balances (D.satellite σ).satelliteSettlementVault)
    let (_, s) ← reportMintConfirmed D σ env lock.loanId lock.lockId lock.amount { s with settlement := settlement }
    pure s
  else do
    require (hook = true) .handlerReverted
    pure s

def handleMint (D : Deployment W) (σ : Nat) (env : Env W) (e : MessageEnvelope W) (payload : Payload W) (hook : Bool)
    (s : Satellite W) : Except (Revert W) (W × Satellite W) := do
  require (e.actionType = .canonicalUftLocked) .invalidWrappedOperation
  let lock ← orRevert (CanonicalUftLockPayload.decode payload) .malformedPayload
  let wrapped ← s.wrapped.mintFor D σ e lock
  let s ← onWrappedMint D σ env lock hook { s with wrapped := wrapped }
  pure (WrappedUFT.mintResult e lock, s)

def handleDisbursement (D : Deployment W) (σ : Nat) (env : Env W) (e : MessageEnvelope W) (payload : Payload W)
    (s : Satellite W) : Except (Revert W) (W × Satellite W) := do
  let action ← orRevert (LoanLegPayload.decode payload) .malformedPayload
  let record := s.settlement.records action.loanId
  let settlement ← s.settlement.disburse D σ action
  let token ← s.wrapped.token.transferExact .insufficientBalance .satelliteSettlementBalanceMismatch
    (D.satellite σ).satelliteSettlementVault record.borrower record.principalAmount
  let (report, s) ← reportDisbursementSettled D σ env action.loanId record.fundingLockId record.principalAmount
    { s with settlement := settlement, wrapped := { s.wrapped with token := token } }
  pure (keccak256 "UNIFIED_SATELLITE_DISBURSEMENT_RESULT_V1"
    [.bytes32 e.messageId, .bytes32 report, .bytes32 action.loanId, .bytes32 record.fundingLockId,
      .uint record.principalAmount], s)

def cancelEscrow (D : Deployment W) (σ : Nat) (env : Env W) (e : MessageEnvelope W) (payload : Payload W)
    (s : Satellite W) : Except (Revert W) (W × Satellite W) := do
  let action ← orRevert (LoanCancellationRequestedPayload.decode payload) .malformedPayload
  let settlement ← s.settlement.cancel D σ s.endpoint.coordinator action
  let (burnResult, wrapped) ← s.wrapped.burnEscrowedLoanCancellation D σ action.cancellationId action.loanId action.amount
  let (report, s) ← reportFundingCancellation D σ env
    ⟨action.cancellationId, action.loanId, action.fundingLockId, action.disbursementMessageId,
      action.disbursementTombstoneHash, burnResult, action.homeLoanAccount, action.lender, action.wrappedToken,
      action.amount, action.policyHash⟩ { s with settlement := settlement, wrapped := wrapped }
  pure (keccak256 "UNIFIED_SATELLITE_FUNDING_CANCELLATION_RESULT_V1"
    [.bytes32 e.messageId, .bytes32 report, .bytes32 action.cancellationId, .bytes32 action.loanId,
      .uint action.amount, .bytes32 burnResult], s)

def handleRelease (D : Deployment W) (σ : Nat) (env : Env W) (e : MessageEnvelope W) (payload : Payload W)
    (s : Satellite W) : Except (Revert W) (W × Satellite W) := do
  require (e.actionType = .homeCollateralReleaseAuthorized) .invalidSatelliteCollateral
  let action ← orRevert (LoanLegPayload.decode payload) .malformedPayload
  let record := s.collateral.records action.loanId
  let collateral ← s.collateral.giveBack D σ action
  let (report, s) ← reportCollateralReleased D σ env action.loanId record.collateralId record.amount
    { s with collateral := collateral }
  pure (keccak256 "UNIFIED_SATELLITE_COLLATERAL_RELEASE_RESULT_V1"
    [.bytes32 e.messageId, .bytes32 report, .bytes32 action.loanId, .bytes32 record.collateralId,
      .uint record.amount], s)

def handleCrossChainMessage (D : Deployment W) (σ : Nat) (env : Env W) (e : MessageEnvelope W) (payload : Payload W)
    (hook : Bool) (outcome : Option W) (s : Satellite W) : Except (Revert W) (W × Satellite W) :=
  if e.destinationComponent = (D.satellite σ).wrappedUFT then handleMint D σ env e payload hook s
  else if e.destinationComponent = (D.satellite σ).satelliteSettlementVault then
    if e.actionType = .cancellationRequested then cancelEscrow D σ env e payload s
    else do
      require (e.actionType = .homeDisbursementAuthorized) .invalidSatelliteSettlement
      handleDisbursement D σ env e payload s
  else if e.destinationComponent = (D.satellite σ).satelliteCollateralVault then handleRelease D σ env e payload s
  else do
    let result ← orRevert outcome .handlerReverted
    pure (result, s)

def executeMessage (D : Deployment W) (σ : Nat) (env : Env W) (e : MessageEnvelope W) (payload : Payload W)
    (hook : Bool) (outcome : Option W) (s : Satellite W) : Except (Revert W) (Satellite W) := do
  match ← s.endpoint.coordinator.verifyMessage (D.satellite σ).endpoint.toCoordinatorConfig env e payload with
  | .replayed _ => pure s
  | .verified c => do
    let (result, s) ← handleCrossChainMessage D σ env e payload hook outcome (s.withCoordinator c)
    let c ← s.endpoint.coordinator.complete e result
    pure (s.withCoordinator c)

/-- `WrappedUFT.compensateMessage`, with its call of the settlement vault. -/
def compensateBurn (e : MessageEnvelope W) (payload : Payload W) (s : Satellite W) :
    Except (Revert W) (W × Satellite W) := do
  let (burnId, account) ← orRevert (WrappedUFT.decodeBurn payload) .malformedPayload
  let record ← s.wrapped.checkCompensation e.messageId e.actionType burnId account
  if record.state = .compensated then pure (record.compensationResult, s)
  else do
    require (record.state = .burned) .invalidWrappedOperation
    let settlement ←
      if record.paymentId = 0 then pure s.settlement
      else s.settlement.reverseRepaymentBurn record.loanId record.paymentId record.account record.amount
    let (result, wrapped) ← s.wrapped.finishCompensation burnId
    pure (result, { s with settlement := settlement, wrapped := wrapped })

/-- The source component of a tombstoned message runs. The loan component has no compensation. -/
def compensateMessage (D : Deployment W) (σ : Nat) (e : MessageEnvelope W) (payload : Payload W) (outcome : Option W)
    (s : Satellite W) : Except (Revert W) (W × Satellite W) :=
  if e.sourceComponent = (D.satellite σ).wrappedUFT then compensateBurn e payload s
  else do
    require (e.sourceComponent ≠ (D.satellite σ).satelliteComponent) .handlerReverted
    let result ← orRevert outcome .handlerReverted
    pure (result, s)

def compensateSource (D : Deployment W) (σ : Nat) (env : Env W) (e : MessageEnvelope W) (r : RecoveryRequest W)
    (signatures : List Bytes) (tombstone : W) (payload : Payload W) (outcome : Option W) (s : Satellite W) :
    Except (Revert W) (Satellite W) := do
  match ← s.endpoint.authorizeCompensation (D.satellite σ).endpoint env e r signatures tombstone payload with
  | .replayed _ => pure s
  | .authorized rc => do
    let (result, s) ← compensateMessage D σ e payload outcome { s with endpoint := { s.endpoint with recovery := rc } }
    let rc ← Endpoint.completeCompensation e r result s.endpoint.recovery
    pure { s with endpoint := { s.endpoint with recovery := rc } }

/-! ### Calls -/

def burnForLoanRepayment (D : Deployment W) (σ : Nat) (env : Env W) (sender : Address)
    (burnId loanId paymentId repaymentRoute : W) (amount expiresAt : Nat) (s : Satellite W) :
    Except (Revert W) (Satellite W) := do
  require (burnId ≠ 0 ∧ loanId ≠ 0 ∧ paymentId ≠ 0 ∧ amount ≠ 0 ∧ env.now < expiresAt ∧
    s.wrapped.burnMessage burnId = 0) .invalidWrappedOperation
  let (a, settlement) ← s.settlement.authorizeRepaymentBurn D σ loanId paymentId sender amount
  require (repaymentRoute = a.repaymentRoutePolicyHash ∧
    a.backingRoutePolicyHash = (D.satellite σ).canonicalBackingRoutePolicyHash) .invalidWrappedOperation
  let payload := SatelliteRepaymentBurnedPayload.encode
    ⟨burnId, loanId, paymentId, a.backingRoutePolicyHash, D.canonicalUFT, D.homeBridgeHub, (D.satellite σ).wrappedUFT,
      a.lender, amount⟩
  let (wrapped, c) ← s.wrapped.burnAndSend D σ env
    ⟨burnId, loanId, paymentId, a.backingRoutePolicyHash, amount, repaymentRoute, .satelliteRepaymentBurned, sender,
      expiresAt, loanId⟩ payload s.endpoint.coordinator
  let route ← env.registry.route repaymentRoute
  require (route.config.destinationComponent = a.homeLoanRouter) .invalidWrappedOperation
  pure { s.withCoordinator c with wrapped := wrapped, settlement := settlement }

def provisionLoan (D : Deployment W) (σ : Nat) (p : SatelliteLoanProvisioning W) (s : Satellite W) :
    Except (Revert W) (Satellite W) := do
  let component ← s.component.provisionLoan D σ p
  let collateral ← s.collateral.provisionLoan D σ p
  let settlement ← s.settlement.provisionLoan D σ p
  pure { s with component := component, collateral := collateral, settlement := settlement }

def lockCollateral (D : Deployment W) (σ : Nat) (env : Env W) (sender : Address) (loanId : W) (s : Satellite W) :
    Except (Revert W) (Satellite W) := do
  let record := s.collateral.records loanId
  let collateral ← s.collateral.take D σ sender loanId
  let (_, s) ← reportCollateralLocked D σ env loanId record.collateralId record.amount { s with collateral := collateral }
  pure s

/-- The sender is not one of the deployment's own contracts, which call as modelled only. -/
def External (D : Deployment W) (σ : Nat) (sender : Address) : Prop :=
  sender ≠ (D.satellite σ).wrappedUFT ∧ sender ≠ (D.satellite σ).satelliteComponent ∧
    sender ≠ (D.satellite σ).satelliteSettlementVault ∧ sender ≠ (D.satellite σ).satelliteCollateralVault

instance (D : Deployment W) (σ : Nat) (sender : Address) : Decidable (External D σ sender) :=
  inferInstanceAs (Decidable (_ ∧ _))

def call (D : Deployment W) (σ : Nat) (env : Env W) : SatelliteCall W → Satellite W → Except (Revert W) (Satellite W)
  | .transferWrapped sender recipient amount, s => do
    require (External D σ sender) .notCallable
    let token ← s.wrapped.token.transfer .insufficientBalance sender recipient amount
    pure { s with wrapped := { s.wrapped with token := token } }
  | .transferCollateral sender recipient amount, s => do
    require (External D σ sender) .notCallable
    let token ← s.collateral.collateralToken.transfer .insufficientBalance sender recipient amount
    pure { s with collateral := { s.collateral with collateralToken := token } }
  | .burnForBridge sender burnId backingRoute burnRoute recipient amount permanent expiresAt, s => do
    require (External D σ sender) .notCallable
    let (wrapped, c) ← s.wrapped.burnForBridge D σ env sender burnId backingRoute burnRoute recipient amount permanent
      expiresAt s.endpoint.coordinator
    pure { s.withCoordinator c with wrapped := wrapped }
  | .burnForLoanRepayment sender burnId loanId paymentId repaymentRoute amount expiresAt, s => do
    require (External D σ sender) .notCallable
    burnForLoanRepayment D σ env sender burnId loanId paymentId repaymentRoute amount expiresAt s
  | .provisionLoan p, s => provisionLoan D σ p s
  | .lockCollateral sender loanId, s => do
    require (External D σ sender) .notCallable
    lockCollateral D σ env sender loanId s
  | .sendMessage sender e payload, s => do
    require (External D σ sender) .notCallable
    let c ← s.endpoint.coordinator.sendMessage (D.satellite σ).endpoint.toCoordinatorConfig env sender e payload
    pure (s.withCoordinator c)
  | .executeMessage e payload hook outcome, s => executeMessage D σ env e payload hook outcome s
  | .recordAcknowledgement e resultHash, s => do
    let c ← s.endpoint.coordinator.recordAcknowledgement (D.satellite σ).endpoint.toCoordinatorConfig env e resultHash
    pure (s.withCoordinator c)
  | .recordDestinationTombstone e r signatures, s => do
    let endpoint ← s.endpoint.recordDestinationTombstone (D.satellite σ).endpoint env e r signatures
    pure { s with endpoint := endpoint }
  | .compensateSource e r signatures tombstone payload outcome, s =>
    compensateSource D σ env e r signatures tombstone payload outcome s

end Satellite

end Unified.CrossChain
