import Unified.CrossChain.Hub
import Unified.CrossChain.LoanAccount
import Unified.CrossChain.Satellite

/-! The home chain: its endpoint, the bridge hub, the loan registry, the loan routers and the loan
    accounts, and the calls that anyone can make to them. -/

namespace Unified.CrossChain

structure LoanRecord where
  loanAccount : Address
  terminal : Bool
  deriving DecidableEq, Inhabited

structure CrossChainLoanFactory (W : Type) [Evm W] where
  loanAccount : Mapping W Address
  cancellationMessage : Mapping W W

structure Home (W : Type) [Evm W] where
  endpoint : Endpoint W
  hub : Hub W
  loans : Mapping W LoanRecord
  /-- By the satellite that the router serves. -/
  factories : Nat → CrossChainLoanFactory W
  accounts : Mapping Address (LoanAccount W)

/-- The calls on the home chain. `exposure` are the active exposure policies by route, `account` the
    address of a new account, `outcome` the answer of a component outside the deployment. -/
inductive HomeCall (W : Type) where
  | transferUFT (sender recipient : Address) (amount : Nat)
  | burnUFT (sender : Address) (amount : Nat)
  | reconcileSurplus
  | lockForBridge (sender : Address) (lockId route : W) (recipient : Address) (amount expiresAt : Nat)
      (exposure : W → ExposureConfig)
  | createLoan (satellite : Nat) (sender : Address) (terms : CrossChainLoanTerms W) (expiresAt : Nat)
      (account : Address) (exposure : W → ExposureConfig)
  | registerLoan (loanId : W) (account : Address)
  | markTerminal (loanId : W)
  | directHomeRepayment (account sender : Address) (paymentId : W) (amount : Nat)
  | authorizeCancellation (satellite : Nat) (authorization : LoanCancellationAuthorization W) (signatures : List Bytes)
  | sendMessage (sender : Address) (envelope : MessageEnvelope W) (payload : Payload W)
  | executeMessage (envelope : MessageEnvelope W) (payload : Payload W) (outcome : Option W)
  | recordAcknowledgement (envelope : MessageEnvelope W) (resultHash : W)
  | recordDestinationTombstone (envelope : MessageEnvelope W) (request : RecoveryRequest W) (signatures : List Bytes)
  | compensateSource (envelope : MessageEnvelope W) (request : RecoveryRequest W) (signatures : List Bytes)
      (tombstone : W) (payload : Payload W) (outcome : Option W)

namespace Home

variable {W : Type} [Evm W]

def initial (D : Deployment W) (canonicalUFT : Token) : Home W where
  endpoint := .initial D.home.recoveryController
  hub := .initial canonicalUFT
  loans := .empty
  factories _ := ⟨.empty, .empty⟩
  accounts := .empty

def withCoordinator (h : Home W) (c : Coordinator W) : Home W :=
  { h with endpoint := { h.endpoint with coordinator := c } }

def setAccount (a : Address) (acc : LoanAccount W) (h : Home W) : Home W :=
  { h with accounts := h.accounts.set a acc }

def setFactory (σ : Nat) (f : CrossChainLoanFactory W) (h : Home W) : Home W :=
  { h with factories := Function.update h.factories σ f }

def account (σ : Nat) (loanId : W) (h : Home W) : Except (Revert W) Address := do
  let a := (h.factories σ).loanAccount loanId
  require (a ≠ 0 ∧ (h.loans loanId).loanAccount = a) .invalidCrossChainLoanMessage
  pure a

def routerRequest (D : Deployment W) (σ : Nat) (route loanId : W) (a : CrossChainActionType) (payload : Payload W)
    (expiresAt : Nat) (causationMessageId : W) : BuildRequest W where
  routePolicyHash := route
  sourceComponent := (D.satellite σ).homeLoanRouter
  aggregateId := loanId
  actionType := a
  payloadHash := payloadHash payload
  expiresAt := expiresAt
  correlationId := loanId
  causationMessageId := causationMessageId
  supersededMessageId := 0

def routerSend (D : Deployment W) (σ : Nat) (env : Env W) (route loanId : W) (a : CrossChainActionType)
    (payload : Payload W) (expiresAt : Nat) (causationMessageId : W) (h : Home W) :
    Except (Revert W) (W × Home W) := do
  let (messageId, c) ← buildAndSend D.home.toCoordinatorConfig env
    (routerRequest D σ route loanId a payload expiresAt causationMessageId) payload h.endpoint.coordinator
  pure (messageId, h.withCoordinator c)

def legPayload (account : Address) (acc : LoanAccount W) (operationId : W) (token : Address) (amount : Nat) :
    LoanLegPayload W :=
  ⟨acc.terms.loanId, operationId, account, acc.terms.borrower, acc.terms.lender, token, amount, acc.terms.policyHash⟩

def releasePayload (D : Deployment W) (account : Address) (acc : LoanAccount W) :
    HomeCollateralReleaseAuthorizedPayload W :=
  legPayload account acc acc.terms.collateralId (D.satellite acc.satellite).collateralToken acc.terms.collateralAmount

/-- Called by a loan account at `sender`. -/
def authorizeDisbursement (D : Deployment W) (σ : Nat) (env : Env W) (sender : Address) (loanId : W) (h : Home W) :
    Except (Revert W) (W × Home W) := do
  let a ← h.account σ loanId
  require (sender = a) (.unauthorizedLoanAccount sender)
  let acc := h.accounts a
  h.routerSend D σ env (D.satellite σ).policy.disbursementRouteHash loanId .homeDisbursementAuthorized
    (legPayload a acc acc.terms.fundingLockId (D.satellite σ).wrappedUFT acc.terms.principalAmount).encode
    ((env.now + Satellite.TWO_DAYS) % 2 ^ 64) 0

/-- Called by a loan account at `sender`. -/
def authorizeCollateralRelease (D : Deployment W) (σ : Nat) (env : Env W) (sender : Address) (loanId : W) (h : Home W) :
    Except (Revert W) (W × Home W) := do
  let a ← h.account σ loanId
  require (sender = a) (.unauthorizedLoanAccount sender)
  h.routerSend D σ env (D.satellite σ).policy.collateralReleaseRouteHash loanId .homeCollateralReleaseAuthorized
    (releasePayload D a (h.accounts a)).encode ((env.now + Satellite.TWO_DAYS) % 2 ^ 64) 0

/-! ### Transitions of a loan account -/

/-- `_maybeAuthorizeDisbursement`, of the account at `a` with the pending storage `acc`. -/
def maybeAuthorizeDisbursement (D : Deployment W) (env : Env W) (a : Address) (acc : LoanAccount W) (h : Home W) :
    Except (Revert W) (Home W) :=
  if acc.awaitsDisbursement then do
    let (messageId, h) ← h.authorizeDisbursement D acc.satellite env a acc.terms.loanId
    pure (h.setAccount a { acc with disbursementMessageId := messageId })
  else pure (h.setAccount a acc)

def enterClosing (D : Deployment W) (env : Env W) (a : Address) (acc : LoanAccount W) (h : Home W) :
    Except (Revert W) (Home W) := do
  let (messageId, h) ← h.authorizeCollateralRelease D acc.satellite env a acc.terms.loanId
  pure (h.setAccount a (acc.close messageId))

/-- `_enterClosing` where the condition holds, else `acc` is stored. -/
def closeIf (c : Bool) (D : Deployment W) (env : Env W) (a : Address) (acc : LoanAccount W) (h : Home W) :
    Except (Revert W) (Home W) :=
  if c then h.enterClosing D env a acc else pure (h.setAccount a acc)

def recordMintConfirmed (D : Deployment W) (env : Env W) (a : Address) (operationId : W) (amount : Nat)
    (policyHash : W) (h : Home W) : Except (Revert W) (Home W) := do
  let acc ← (h.accounts a).recordMintConfirmed operationId amount policyHash
  h.maybeAuthorizeDisbursement D env a acc

def recordCollateralLocked (D : Deployment W) (env : Env W) (a : Address) (operationId : W) (amount : Nat)
    (policyHash : W) (h : Home W) : Except (Revert W) (Home W) := do
  let acc ← (h.accounts a).recordCollateralLocked operationId amount policyHash
  if acc.state = .recoveryPending then
    if acc.fundingRefunded then h.enterClosing D env a acc else pure (h.setAccount a acc.advanceState)
  else h.maybeAuthorizeDisbursement D env a acc.advanceState

def recordDisbursement (a : Address) (operationId : W) (amount : Nat) (policyHash : W) (h : Home W) :
    Except (Revert W) (Home W) := do
  let acc ← (h.accounts a).recordDisbursement operationId amount policyHash
  pure (h.setAccount a acc)

def recordCancellationCompensated (D : Deployment W) (env : Env W) (a : Address)
    (c : SatelliteFundingCancelledPayload W) (h : Home W) : Except (Revert W) (Home W) := do
  let acc := h.accounts a
  let pending ← acc.beginCancellation a (D.satellite acc.satellite).wrappedUFT c
  let hub ← h.hub.refundCancelledLoan D env a acc.terms.loanId c.cancellationId acc.terms.lender c.amount
  let refunded := { pending with fundingRefunded := true }
  let h := { h with hub := hub }
  if refunded.collateralConfirmed then h.enterClosing D env a refunded
  else pure (h.setAccount a refunded.advanceState)

def recordRemoteRepayment (D : Deployment W) (env : Env W) (a : Address) (burn : SatelliteRepaymentBurnedPayload W)
    (h : Home W) : Except (Revert W) (Home W) := do
  let acc := h.accounts a
  let pending ← acc.beginRemoteRepayment (D.satellite acc.satellite).wrappedUFT burn
  let hub ← h.hub.releaseLoanBacking D env a acc.terms.loanId burn.burnId acc.terms.lender burn.amount
  let repaid := pending.repay burn.amount
  closeIf (repaid.outstandingPrincipal == 0) D env a repaid { h with hub := hub }

def directHomeRepayment (D : Deployment W) (env : Env W) (a sender : Address) (paymentId : W) (amount : Nat)
    (h : Home W) : Except (Revert W) (Home W) := do
  let acc := h.accounts a
  let pending ← acc.beginDirectRepayment paymentId amount
  let token ← h.hub.canonicalUFT.transferExact .insufficientBalance .loanBalanceMismatch sender acc.terms.lender amount
  let hub ← Hub.reclassifyLoanBacking a acc.terms.loanId amount { h.hub with canonicalUFT := token }
  let repaid := pending.repay amount
  closeIf (repaid.outstandingPrincipal == 0) D env a repaid { h with hub := hub }

def recordCollateralReleased (a : Address) (operationId : W) (amount : Nat) (policyHash : W) (h : Home W) :
    Except (Revert W) (Home W) := do
  let acc ← (h.accounts a).recordCollateralReleased operationId amount policyHash
  let h := h.setAccount a acc
  pure { h with loans := h.loans.modify acc.terms.loanId fun loan => { loan with terminal := true } }

/-- Called by the hub for a compensated lock of a loan. -/
def onFundingCompensated (D : Deployment W) (env : Env W) (a : Address) (lockId : W) (h : Home W) :
    Except (Revert W) (Home W) := do
  let acc ← (h.accounts a).beginFundingCompensation lockId D.homeBridgeHub
  if acc.collateralConfirmed then h.enterClosing D env a acc
  else pure (h.setAccount a { acc.advanceState with state := .recoveryPending })

/-! ### Locks and new loans -/

def lock (D : Deployment W) (env : Env W) (exposure : W → ExposureConfig) (r : LockRequest W) (h : Home W) :
    Except (Revert W) (W × Home W) := do
  let hub ← h.hub.reserve D env exposure r
  let (messageId, c) ← buildAndSend D.home.toCoordinatorConfig env (Hub.mintRequest D r)
    (Hub.mintPayload D r.lockId r.loanId r.routePolicyHash r.recipient r.amount).encode h.endpoint.coordinator
  let hub ← (hub.recordLock r messageId).requireBackingBalance D
  pure (messageId, { h.withCoordinator c with hub := hub })

def lockForBridge (D : Deployment W) (env : Env W) (exposure : W → ExposureConfig) (sender : Address) (lockId route : W)
    (recipient : Address) (amount expiresAt : Nat) (h : Home W) : Except (Revert W) (Home W) := do
  let (_, h) ← h.lock D env exposure ⟨lockId, 0, 0, sender, recipient, amount, route, expiresAt⟩
  pure h

def lockForLoan (D : Deployment W) (env : Env W) (exposure : W → ExposureConfig) (lockId loanId : W)
    (account lender recipient : Address) (amount : Nat) (route : W) (expiresAt : Nat) (h : Home W) :
    Except (Revert W) (W × Home W) := do
  let hub ← h.hub.assignLoan loanId lockId account
  let (messageId, h) ← { h with hub := hub }.lock D env exposure
    ⟨lockId, loanId, account, lender, recipient, amount, route, expiresAt⟩
  pure (messageId, { h with hub := { h.hub with loanBacking := h.hub.loanBacking.set loanId amount } })

def registerLoan (loanId : W) (account : Address) (h : Home W) : Except (Revert W) (Home W) := do
  require (loanId ≠ 0 ∧ account ≠ 0) .invalidLoan
  require ((h.loans loanId).loanAccount = 0) (.loanAlreadyRegistered loanId)
  pure { h with loans := h.loans.set loanId ⟨account, false⟩ }

def Vacant (D : Deployment W) (a : Address) (h : Home W) : Prop :=
  a ≠ 0 ∧ a ≠ D.homeBridgeHub ∧ D.routerOf a = none ∧ (h.accounts a).terms.loanId = 0

instance (D : Deployment W) (a : Address) (h : Home W) : Decidable (Vacant D a h) := inferInstanceAs (Decidable (_ ∧ _))

/-- `createLoan`, deploying the account at the vacant address `a`. -/
def createLoan (D : Deployment W) (env : Env W) (exposure : W → ExposureConfig) (σ : Nat) (sender : Address)
    (terms : CrossChainLoanTerms W) (expiresAt : Nat) (a : Address) (h : Home W) : Except (Revert W) (Home W) := do
  let cfg := D.satellite σ
  require (sender = terms.lender ∧ terms.loanId ≠ 0 ∧ terms.agreementHash ≠ 0 ∧ terms.fundingLockId ≠ 0 ∧
    terms.collateralId ≠ 0 ∧ terms.borrower ≠ 0 ∧ terms.lender ≠ 0 ∧ terms.borrower ≠ terms.lender ∧
    terms.principalAmount ≠ 0 ∧ terms.collateralAmount ≠ 0 ∧ terms.policyHash = cfg.policy.policyHash ∧
    env.now < expiresAt ∧ (h.loans terms.loanId).loanAccount = 0) .invalidCrossChainOrigination
  require (Vacant D a h) .notCallable
  require (terms.policyHash ≠ 0) .invalidLoan
  let factory := h.factories σ
  let h := (h.setAccount a (.deploy terms σ)).setFactory σ
    { factory with loanAccount := factory.loanAccount.set terms.loanId a }
  let h ← h.registerLoan terms.loanId a
  let (messageId, h) ← h.lockForLoan D env exposure terms.fundingLockId terms.loanId a terms.lender
    cfg.satelliteSettlementVault terms.principalAmount cfg.policy.mintRouteHash expiresAt
  let acc ← (h.accounts a).bindOrigination messageId
  pure (h.setAccount a acc)

def cancellationPayload (D : Deployment W) (σ : Nat) (a : Address) (acc : LoanAccount W)
    (r : LoanCancellationAuthorization W) : LoanCancellationRequestedPayload W :=
  ⟨loanCancellationAuthorizationDigest D.home r, acc.terms.loanId, acc.terms.fundingLockId, r.disbursementMessageId,
    r.disbursementTombstoneHash, a, acc.terms.lender, (D.satellite σ).wrappedUFT, acc.terms.principalAmount,
    acc.terms.policyHash, r.reasonCode⟩

def dispatchCancellation (D : Deployment W) (σ : Nat) (env : Env W) (a : Address)
    (r : LoanCancellationAuthorization W) (h : Home W) : Except (Revert W) (Home W) := do
  let cancellationId := loanCancellationAuthorizationDigest D.home r
  let acc := h.accounts a
  let (messageId, h) ← h.routerSend D σ env (D.satellite σ).policy.disbursementRouteHash r.loanId .cancellationRequested
    (cancellationPayload D σ a acc r).encode r.validUntil
    (if r.disbursementMessageId = 0 then acc.mintMessageId else r.disbursementMessageId)
  let factory := h.factories σ
  let acc ← acc.requestCancellation cancellationId messageId r.disbursementTombstoneHash
  pure ((h.setFactory σ { factory with cancellationMessage := factory.cancellationMessage.set cancellationId messageId }).setAccount
    a acc)

def authorizeCancellation (D : Deployment W) (σ : Nat) (env : Env W) (r : LoanCancellationAuthorization W)
    (signatures : List Bytes) (h : Home W) : Except (Revert W) (Home W) := do
  let a ← h.account σ r.loanId
  let acc := h.accounts a
  require (r.loanRouter = (D.satellite σ).homeLoanRouter ∧ r.fundingLockId = acc.terms.fundingLockId ∧
    r.disbursementMessageId = acc.disbursementMessageId ∧ r.amount = acc.terms.principalAmount ∧
    r.policyHash = acc.terms.policyHash) .invalidCrossChainLoanMessage
  if (h.factories σ).cancellationMessage (loanCancellationAuthorizationDigest D.home r) ≠ 0 then pure h
  else do
    let rc ← RecoveryController.consumeLoanCancellationAuthorization D.home env (D.satellite σ).homeLoanRouter r signatures
      h.endpoint.recovery
    dispatchCancellation D σ env a r { h with endpoint := { h.endpoint with recovery := rc } }

/-! ### Messages to the routers and the hub -/

def validatedAccount (σ : Nat) (p : LoanLegPayload W) (h : Home W) : Except (Revert W) Address := do
  let a ← h.account σ p.loanId
  require (p.homeLoanAccount = a ∧ p.borrower = (h.accounts a).terms.borrower ∧
    p.lender = (h.accounts a).terms.lender) .invalidCrossChainLoanMessage
  pure a

def handleRepayment (D : Deployment W) (σ : Nat) (env : Env W) (payload : Payload W) (h : Home W) :
    Except (Revert W) (W × Home W) := do
  let burn ← orRevert (SatelliteRepaymentBurnedPayload.decode payload) .malformedPayload
  let a ← h.account σ burn.loanId
  require (burn.lender = (h.accounts a).terms.lender) .invalidCrossChainLoanMessage
  let h ← h.recordRemoteRepayment D env a burn
  pure (keccak256 "UNIFIED_REMOTE_REPAYMENT_RESULT_V1"
    [.bytes32 burn.loanId, .bytes32 burn.paymentId, .uint burn.amount, .uint (h.accounts a).outstandingPrincipal], h)

def handleCancellation (D : Deployment W) (σ : Nat) (env : Env W) (payload : Payload W) (h : Home W) :
    Except (Revert W) (W × Home W) := do
  let c ← orRevert (SatelliteFundingCancelledPayload.decode payload) .malformedPayload
  let a ← h.account σ c.loanId
  require (c.homeLoanAccount = a ∧ c.lender = (h.accounts a).terms.lender ∧
    c.wrappedToken = (D.satellite σ).wrappedUFT) .invalidCrossChainLoanMessage
  let h ← h.recordCancellationCompensated D env a c
  pure (keccak256 "UNIFIED_HOME_LOAN_CANCELLATION_RESULT_V1"
    [.bytes32 c.cancellationId, .bytes32 c.loanId, .uint c.amount, .bytes32 c.escrowBurnResultHash,
      .uint (h.accounts a).stateNonce], h)

/-- The report of one leg of a loan, by its action. -/
def handleLeg (D : Deployment W) (σ : Nat) (env : Env W) (a : CrossChainActionType) (payload : Payload W)
    (h : Home W) : Except (Revert W) (W × Home W) := do
  require (a = .wrappedUftMinted ∨ a = .satelliteCollateralLocked ∨ a = .satelliteDisbursementSettled ∨
    a = .satelliteCollateralReleased) .invalidCrossChainLoanMessage
  let p ← orRevert (LoanLegPayload.decode payload) .malformedPayload
  let account ← h.validatedAccount σ p
  let h ←
    if a = .wrappedUftMinted then h.recordMintConfirmed D env account p.operationId p.amount p.policyHash
    else if a = .satelliteCollateralLocked then
      h.recordCollateralLocked D env account p.operationId p.amount p.policyHash
    else if a = .satelliteDisbursementSettled then h.recordDisbursement account p.operationId p.amount p.policyHash
    else h.recordCollateralReleased account p.operationId p.amount p.policyHash
  pure (keccak256 "UNIFIED_SATELLITE_LOAN_ACTION_RESULT_V1"
    [.uint a.ordinal, .bytes32 p.loanId, .bytes32 p.operationId, .uint p.amount,
      .uint (h.accounts account).stateNonce], h)

def handleRouterMessage (D : Deployment W) (σ : Nat) (env : Env W) (a : CrossChainActionType) (payload : Payload W)
    (h : Home W) : Except (Revert W) (W × Home W) :=
  if a = .satelliteRepaymentBurned then handleRepayment D σ env payload h
  else if a = .sourceCompensated then handleCancellation D σ env payload h
  else handleLeg D σ env a payload h

def handleCrossChainMessage (D : Deployment W) (env : Env W) (e : MessageEnvelope W) (payload : Payload W)
    (outcome : Option W) (h : Home W) : Except (Revert W) (W × Home W) :=
  if e.destinationComponent = D.homeBridgeHub then do
    let (result, hub) ← h.hub.handleCrossChainMessage D env e payload
    pure (result, { h with hub := hub })
  else
    match D.routerOf e.destinationComponent with
    | some σ => handleRouterMessage D σ env e.actionType payload h
    | none => do
      let result ← orRevert outcome .handlerReverted
      pure (result, h)

def executeMessage (D : Deployment W) (env : Env W) (e : MessageEnvelope W) (payload : Payload W) (outcome : Option W)
    (h : Home W) : Except (Revert W) (Home W) := do
  match ← h.endpoint.coordinator.verifyMessage D.home.toCoordinatorConfig env e payload with
  | .replayed _ => pure h
  | .verified c => do
    let (result, h) ← handleCrossChainMessage D env e payload outcome (h.withCoordinator c)
    let c ← h.endpoint.coordinator.complete e result
    pure (h.withCoordinator c)

/-- `UFTBridgeHub.compensateMessage`, with its call of the loan account. -/
def compensateLock (D : Deployment W) (env : Env W) (e : MessageEnvelope W) (payload : Payload W) (h : Home W) :
    Except (Revert W) (W × Home W) := do
  require (e.actionType = .canonicalUftLocked) .invalidBridgeOperation
  let lockId ← orRevert (Hub.decodeLockId payload) .malformedPayload
  let lock := h.hub.locks lockId
  let hub ← h.hub.beginCompensation env e.messageId lockId
  let h ←
    if lock.loanId = 0 then pure { h with hub := hub }
    else onFundingCompensated D env lock.loanAccount lockId { h with hub := hub }
  let (result, hub) ← h.hub.finishCompensation D e.messageId lockId
  pure (result, { h with hub := hub })

/-- The source component of a tombstoned message runs. The routers have no compensation. -/
def compensateMessage (D : Deployment W) (env : Env W) (e : MessageEnvelope W) (payload : Payload W)
    (outcome : Option W) (h : Home W) : Except (Revert W) (W × Home W) :=
  if e.sourceComponent = D.homeBridgeHub then compensateLock D env e payload h
  else do
    require (D.routerOf e.sourceComponent = none) .handlerReverted
    let result ← orRevert outcome .handlerReverted
    pure (result, h)

def compensateSource (D : Deployment W) (env : Env W) (e : MessageEnvelope W) (r : RecoveryRequest W)
    (signatures : List Bytes) (tombstone : W) (payload : Payload W) (outcome : Option W) (h : Home W) :
    Except (Revert W) (Home W) := do
  match ← h.endpoint.authorizeCompensation D.home env e r signatures tombstone payload with
  | .replayed _ => pure h
  | .authorized rc => do
    let (result, h) ← compensateMessage D env e payload outcome { h with endpoint := { h.endpoint with recovery := rc } }
    let rc ← Endpoint.completeCompensation e r result h.endpoint.recovery
    pure { h with endpoint := { h.endpoint with recovery := rc } }

/-- The sender is not the hub or a router, which call as modelled only. -/
def External (D : Deployment W) (sender : Address) : Prop := sender ≠ D.homeBridgeHub ∧ D.routerOf sender = none

instance (D : Deployment W) (sender : Address) : Decidable (External D sender) := inferInstanceAs (Decidable (_ ∧ _))

def call (D : Deployment W) (env : Env W) : HomeCall W → Home W → Except (Revert W) (Home W)
  | .transferUFT sender recipient amount, h => do
    require (External D sender) .notCallable
    let token ← h.hub.canonicalUFT.transfer .insufficientBalance sender recipient amount
    pure { h with hub := { h.hub with canonicalUFT := token } }
  | .burnUFT sender amount, h => do
    require (External D sender) .notCallable
    let token ← h.hub.canonicalUFT.burn .insufficientBalance sender amount
    pure { h with hub := { h.hub with canonicalUFT := token } }
  | .reconcileSurplus, h => do
    let hub ← h.hub.requireBackingBalance D
    pure { h with hub := hub }
  | .lockForBridge sender lockId route recipient amount expiresAt exposure, h => do
    require (External D sender) .notCallable
    h.lockForBridge D env exposure sender lockId route recipient amount expiresAt
  | .createLoan σ sender terms expiresAt account exposure, h => do
    require (External D sender) .notCallable
    h.createLoan D env exposure σ sender terms expiresAt account
  | .registerLoan loanId account, h => h.registerLoan loanId account
  | .markTerminal loanId, h => do
    require ((h.loans loanId).loanAccount ≠ 0 ∧ (h.loans loanId).terminal = false) .invalidLoan
    pure { h with loans := h.loans.modify loanId fun loan => { loan with terminal := true } }
  | .directHomeRepayment account sender paymentId amount, h => do
    require (External D sender) .notCallable
    h.directHomeRepayment D env account sender paymentId amount
  | .authorizeCancellation σ authorization signatures, h => h.authorizeCancellation D σ env authorization signatures
  | .sendMessage sender e payload, h => do
    require (External D sender) .notCallable
    let c ← h.endpoint.coordinator.sendMessage D.home.toCoordinatorConfig env sender e payload
    pure (h.withCoordinator c)
  | .executeMessage e payload outcome, h => h.executeMessage D env e payload outcome
  | .recordAcknowledgement e resultHash, h => do
    let c ← h.endpoint.coordinator.recordAcknowledgement D.home.toCoordinatorConfig env e resultHash
    pure (h.withCoordinator c)
  | .recordDestinationTombstone e r signatures, h => do
    let endpoint ← h.endpoint.recordDestinationTombstone D.home env e r signatures
    pure { h with endpoint := endpoint }
  | .compensateSource e r signatures tombstone payload outcome, h =>
    h.compensateSource D env e r signatures tombstone payload outcome

end Home

end Unified.CrossChain
