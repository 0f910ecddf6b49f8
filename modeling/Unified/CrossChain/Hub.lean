import Unified.CrossChain.Deployment
import Unified.CrossChain.MessageBuilder
import Unified.CrossChain.Payloads
import Unified.Lib.Token

/-! The bridge hub on the home chain: locks of canonical UFT, the backing counters and their releases.
    `_lock` and `compensateMessage` are split at their calls of the coordinator and the loan account. -/

namespace Unified.CrossChain

inductive BridgeOperationState where
  | none | locked | released | canonicalBurned | compensated
  deriving DecidableEq, Repr, Inhabited

structure LockRecord (W : Type) where
  (lockId messageId loanId routePolicyHash : W)
  (locker recipient loanAccount : Address)
  amount : Nat
  state : BridgeOperationState
  deriving DecidableEq, Inhabited

structure LockRequest (W : Type) where
  lockId : W
  loanId : W
  (loanAccount locker recipient : Address)
  amount : Nat
  routePolicyHash : W
  expiresAt : Nat

structure BurnDisposition (W : Type) where
  (burnId loanId backingRoutePolicyHash : W)
  recipient : Address
  amount : Nat
  actionType : CrossChainActionType
  resultHash : W
  deriving DecidableEq, Inhabited

/-- The fields of an exposure policy that a lock is checked against. -/
structure ExposureConfig where
  (circulatingSupplyReference routeAbsoluteCap chainAbsoluteCap adapterAbsoluteCap aggregateAbsoluteCap : Nat)
  (routePercentageCeilingBps aggregatePercentageCeilingBps activeFrom : Nat)

structure Hub (W : Type) [Evm W] where
  canonicalUFT : Token
  locks : Mapping W (LockRecord W)
  messageLock : Mapping W W
  consumedBurn : Mapping W Bool
  burnDisposition : Mapping W (BurnDisposition W)
  routeBacking : Mapping W Nat
  backingForChain : Mapping Nat Nat
  (adapterBacking loanBacking : Mapping W Nat)
  loanAccount : Mapping W Address
  (loanLock cancellationRefund : Mapping W W)
  (totalBridgeBacking lastReportedSurplus : Nat)

def BPS : Nat := 10000

section

variable {W : Type} [Evm W]

namespace BridgeExposurePolicy

def requireWithin (dimension : String) (exposure limit : Nat) : Except (Revert W) Unit :=
  require (exposure ≤ limit) (.exposureLimitExceeded dimension exposure limit)

/-- `validateLock` under the route's active policy. -/
def validateLock (now : Nat) (config : ExposureConfig) (routeExposure chainExposure adapterExposure
    aggregateExposure : Nat) : Except (Revert W) Unit := do
  require (config.circulatingSupplyReference ≠ 0 ∧ config.activeFrom ≤ now) .unknownExposurePolicy
  requireWithin "ROUTE_ABSOLUTE" routeExposure config.routeAbsoluteCap
  requireWithin "ROUTE_PERCENTAGE" routeExposure
    (config.circulatingSupplyReference * config.routePercentageCeilingBps / BPS)
  requireWithin "CHAIN_ABSOLUTE" chainExposure config.chainAbsoluteCap
  requireWithin "ADAPTER_ABSOLUTE" adapterExposure config.adapterAbsoluteCap
  requireWithin "AGGREGATE_ABSOLUTE" aggregateExposure config.aggregateAbsoluteCap
  requireWithin "AGGREGATE_PERCENTAGE" aggregateExposure
    (config.circulatingSupplyReference * config.aggregatePercentageCeilingBps / BPS)

end BridgeExposurePolicy

namespace Hub

def initial (canonicalUFT : Token) : Hub W where
  canonicalUFT := canonicalUFT
  locks := .empty
  messageLock := .empty
  consumedBurn := .empty
  burnDisposition := .empty
  routeBacking := .empty
  backingForChain := .empty
  adapterBacking := .empty
  loanBacking := .empty
  loanAccount := .empty
  loanLock := .empty
  cancellationRefund := .empty
  totalBridgeBacking := 0
  lastReportedSurplus := 0

def exposed (hub : Hub W) (config : RouteConfig W) (h : W) (amount : Nat) : Hub W :=
  { hub with
    routeBacking := hub.routeBacking.modify h (· + amount)
    backingForChain := hub.backingForChain.modify config.destinationChainId (· + amount)
    adapterBacking := hub.adapterBacking.modify config.adapterId (· + amount)
    totalBridgeBacking := hub.totalBridgeBacking + amount }

def unexposed (hub : Hub W) (config : RouteConfig W) (h : W) (amount : Nat) : Hub W :=
  { hub with
    routeBacking := hub.routeBacking.modify h (· - amount)
    backingForChain := hub.backingForChain.modify config.destinationChainId (· - amount)
    adapterBacking := hub.adapterBacking.modify config.adapterId (· - amount)
    totalBridgeBacking := hub.totalBridgeBacking - amount }

def increaseExposure (env : Env W) (exposure : W → ExposureConfig) (config : RouteConfig W) (h : W) (amount : Nat)
    (hub : Hub W) : Except (Revert W) (Hub W) := do
  let routeAfter := hub.routeBacking h + amount
  let chainAfter := hub.backingForChain config.destinationChainId + amount
  let adapterAfter := hub.adapterBacking config.adapterId + amount
  let aggregateAfter := hub.totalBridgeBacking + amount
  require (routeAfter ≤ config.absoluteCap ∧ chainAfter ≤ config.chainCap ∧ adapterAfter ≤ config.adapterCap)
    .exposureExceeded
  BridgeExposurePolicy.validateLock env.now (exposure h) routeAfter chainAfter adapterAfter aggregateAfter
  pure (hub.exposed config h amount)

def decreaseExposure (env : Env W) (h : W) (amount : Nat) (hub : Hub W) : Except (Revert W) (Hub W) := do
  let route ← env.registry.route h
  require (amount ≤ hub.routeBacking h ∧ amount ≤ hub.backingForChain route.config.destinationChainId ∧
    amount ≤ hub.adapterBacking route.config.adapterId ∧ amount ≤ hub.totalBridgeBacking) .invalidBridgeOperation
  pure (hub.unexposed route.config h amount)

def transferExact (D : Deployment W) (recipient : Address) (amount : Nat) (hub : Hub W) :
    Except (Revert W) (Hub W) := do
  let token ← hub.canonicalUFT.transferExact .insufficientBalance .bridgeBalanceMismatch D.homeBridgeHub recipient amount
  pure { hub with canonicalUFT := token }

def collectExact (D : Deployment W) (locker : Address) (amount : Nat) (hub : Hub W) :
    Except (Revert W) (Hub W) := do
  let token ← hub.canonicalUFT.transferExact .insufficientBalance .bridgeBalanceMismatch locker D.homeBridgeHub amount
  pure { hub with canonicalUFT := token }

def requireBackingBalance (D : Deployment W) (hub : Hub W) : Except (Revert W) (Hub W) := do
  require (hub.totalBridgeBacking ≤ hub.canonicalUFT.balances D.homeBridgeHub) .bridgeBalanceMismatch
  pure { hub with lastReportedSurplus := hub.canonicalUFT.balances D.homeBridgeHub - hub.totalBridgeBacking }

def mintPayload (D : Deployment W) (lockId loanId h : W) (recipient : Address) (amount : Nat) :
    CanonicalUftLockPayload W :=
  ⟨lockId, loanId, D.canonicalUFT, D.homeBridgeHub, (D.routes h).destinationComponent, recipient, amount⟩

/-- `_lock` up to the call of the coordinator. -/
def reserve (D : Deployment W) (env : Env W) (exposure : W → ExposureConfig) (r : LockRequest W) (hub : Hub W) :
    Except (Revert W) (Hub W) := do
  require (r.lockId ≠ 0 ∧ r.locker ≠ 0 ∧ r.recipient ≠ 0 ∧ r.amount ≠ 0 ∧ env.now < r.expiresAt ∧
    (hub.locks r.lockId).state = .none) .invalidBridgeOperation
  let route ← env.registry.route r.routePolicyHash
  require (route.config.sourceComponent = D.homeBridgeHub ∧
    env.registry.isActionAllowed r.routePolicyHash .canonicalUftLocked = true) .invalidBridgeOperation
  let hub ← hub.increaseExposure env exposure route.config r.routePolicyHash r.amount
  hub.collectExact D r.locker r.amount

def mintRequest (D : Deployment W) (r : LockRequest W) : BuildRequest W where
  routePolicyHash := r.routePolicyHash
  sourceComponent := D.homeBridgeHub
  aggregateId := if r.loanId = 0 then r.lockId else r.loanId
  actionType := .canonicalUftLocked
  payloadHash := payloadHash (mintPayload D r.lockId r.loanId r.routePolicyHash r.recipient r.amount).encode
  expiresAt := r.expiresAt
  correlationId := if r.loanId = 0 then r.lockId else r.loanId
  causationMessageId := 0
  supersededMessageId := 0

/-- `_lock` from the return of the coordinator on, less the final balance check. -/
def recordLock (r : LockRequest W) (messageId : W) (hub : Hub W) : Hub W :=
  { hub with
    locks := hub.locks.set r.lockId
      ⟨r.lockId, messageId, r.loanId, r.routePolicyHash, r.locker, r.recipient, r.loanAccount, r.amount, .locked⟩
    messageLock := hub.messageLock.set messageId r.lockId }

/-- `lockForLoan` before `_lock`. -/
def assignLoan (loanId lockId : W) (account : Address) (hub : Hub W) : Except (Revert W) (Hub W) := do
  require (loanId ≠ 0 ∧ hub.loanAccount loanId = 0) .invalidBridgeOperation
  pure { hub with
    loanAccount := hub.loanAccount.set loanId account
    loanLock := hub.loanLock.set loanId lockId }

/-! ### Exits -/

def validateBackingRoute (D : Deployment W) (env : Env W) (h : W) (exit : MessageEnvelope W) :
    Except (Revert W) Unit := do
  let route ← env.registry.route h
  require (route.config.sourceChainId = D.home.localChainId ∧ route.config.sourceCoordinator = D.home.address ∧
    route.config.sourceComponent = D.homeBridgeHub ∧ route.config.destinationChainId = exit.sourceChainId ∧
    route.config.destinationCoordinator = exit.sourceCoordinator ∧
    route.config.destinationComponent = exit.sourceComponent ∧
    env.registry.isActionAllowed h .canonicalUftLocked = true) .invalidBridgeOperation

/-- A consumed burn: its id, its backing route and what was released where. -/
def recordDisposition (d : BurnDisposition W) (hub : Hub W) : Hub W :=
  { hub with burnDisposition := hub.burnDisposition.set d.burnId d }

def consume (burnId : W) (hub : Hub W) : Hub W := { hub with consumedBurn := hub.consumedBurn.set burnId true }

def burnResult (e : MessageEnvelope W) (burnId : W) (amount : Nat) : W :=
  keccak256 "UNIFIED_UFT_BURN_RESULT_V1"
    [.bytes32 e.messageId, .bytes32 burnId, .uint amount, .uint e.actionType.ordinal]

/-- The execution of a permanent or a redeemable burn; `e` is the envelope that the coordinator stored
    under the message id before the call. -/
def handleCrossChainMessage (D : Deployment W) (env : Env W) (e : MessageEnvelope W) (payload : Payload W)
    (hub : Hub W) : Except (Revert W) (W × Hub W) :=
  if e.actionType = .satelliteUftPermanentBurned then do
    let burn ← orRevert (SatelliteUftPermanentBurnedPayload.decode payload) .malformedPayload
    require (burn.burnId ≠ 0 ∧ burn.canonicalToken = D.canonicalUFT ∧ burn.homeBridgeHub = D.homeBridgeHub ∧
      burn.wrappedToken = e.sourceComponent ∧ burn.amount ≠ 0 ∧ hub.consumedBurn burn.burnId = false)
      .invalidBridgeOperation
    validateBackingRoute D env burn.backingRoutePolicyHash e
    let hub ← (hub.consume burn.burnId).decreaseExposure env burn.backingRoutePolicyHash burn.amount
    let token ← hub.canonicalUFT.burn .insufficientBalance D.homeBridgeHub burn.amount
    let hub ← requireBackingBalance D { hub with canonicalUFT := token }
    let result := burnResult e burn.burnId burn.amount
    pure (result, hub.recordDisposition
      ⟨burn.burnId, 0, burn.backingRoutePolicyHash, 0, burn.amount, e.actionType, result⟩)
  else do
    require (e.actionType = .wrappedUftBurned) .invalidBridgeOperation
    let burn ← orRevert (WrappedUftBurnedPayload.decode payload) .malformedPayload
    require (burn.burnId ≠ 0 ∧ burn.canonicalToken = D.canonicalUFT ∧ burn.homeBridgeHub = D.homeBridgeHub ∧
      burn.wrappedToken = e.sourceComponent ∧ burn.recipient ≠ 0 ∧ burn.amount ≠ 0 ∧
      hub.consumedBurn burn.burnId = false) .invalidBridgeOperation
    validateBackingRoute D env burn.backingRoutePolicyHash e
    let hub ← (hub.consume burn.burnId).decreaseExposure env burn.backingRoutePolicyHash burn.amount
    let hub ← hub.transferExact D burn.recipient burn.amount
    let hub ← hub.requireBackingBalance D
    let result := burnResult e burn.burnId burn.amount
    pure (result, hub.recordDisposition
      ⟨burn.burnId, 0, burn.backingRoutePolicyHash, burn.recipient, burn.amount, e.actionType, result⟩)

/-- Called by the loan account of a remote repayment. -/
def releaseLoanBacking (D : Deployment W) (env : Env W) (sender : Address) (loanId burnId : W) (lender : Address)
    (amount : Nat) (hub : Hub W) : Except (Revert W) (Hub W) := do
  require (loanId ≠ 0 ∧ burnId ≠ 0 ∧ lender ≠ 0 ∧ amount ≠ 0 ∧ sender = hub.loanAccount loanId ∧
    hub.consumedBurn burnId = false ∧ amount ≤ hub.loanBacking loanId) .invalidBridgeOperation
  let h := (hub.locks (hub.loanLock loanId)).routePolicyHash
  let hub := { hub.consume burnId with loanBacking := hub.loanBacking.modify loanId (· - amount) }
  let hub ← hub.decreaseExposure env h amount
  let hub ← hub.transferExact D lender amount
  let result := keccak256 "UNIFIED_LOAN_BACKING_RELEASE_RESULT_V1"
    [.bytes32 loanId, .bytes32 burnId, .address lender, .uint amount, .bytes32 h]
  (hub.recordDisposition ⟨burnId, loanId, h, lender, amount, .satelliteRepaymentBurned, result⟩).requireBackingBalance D

/-- The record of a lock whose funds went back to the locker. -/
def compensateLock (lockId : W) (hub : Hub W) : Hub W :=
  { hub with locks := hub.locks.modify lockId fun lock => { lock with state := .compensated } }

/-- Called by the loan account of a completed cancellation. -/
def refundCancelledLoan (D : Deployment W) (env : Env W) (sender : Address) (loanId cancellationId : W)
    (lender : Address) (amount : Nat) (hub : Hub W) : Except (Revert W) (Hub W) := do
  let lockId := hub.loanLock loanId
  let lock := hub.locks lockId
  require (loanId ≠ 0 ∧ cancellationId ≠ 0 ∧ lender ≠ 0 ∧ amount ≠ 0 ∧ sender = hub.loanAccount loanId ∧
    lock.loanId = loanId ∧ lock.loanAccount = sender ∧ lock.locker = lender ∧ lock.amount = amount ∧
    lock.state = .locked ∧ hub.loanBacking loanId = amount ∧ hub.cancellationRefund cancellationId = 0)
    .invalidBridgeOperation
  let hub :=
    { hub.compensateLock lockId with
      loanBacking := hub.loanBacking.set loanId 0
      cancellationRefund := hub.cancellationRefund.set cancellationId loanId }
  let hub ← hub.decreaseExposure env lock.routePolicyHash amount
  let hub ← hub.transferExact D lender amount
  hub.requireBackingBalance D

/-- Called by the loan account of a direct repayment. -/
def reclassifyLoanBacking (sender : Address) (loanId : W) (amount : Nat) (hub : Hub W) :
    Except (Revert W) (Hub W) := do
  require (loanId ≠ 0 ∧ amount ≠ 0 ∧ sender = hub.loanAccount loanId ∧ amount ≤ hub.loanBacking loanId)
    .invalidBridgeOperation
  pure { hub with loanBacking := hub.loanBacking.modify loanId (· - amount) }

/-- `abi.decode(compensationPayload, (bytes32))`. -/
def decodeLockId : Payload W → Option W
  | .bytes32 lockId :: _ => some lockId
  | _ => none

/-- `compensateMessage` up to the call of the loan account, for the lock that the payload names. -/
def beginCompensation (env : Env W) (messageId lockId : W) (hub : Hub W) :
    Except (Revert W) (Hub W) := do
  let lock := hub.locks lockId
  require (lock.lockId ≠ 0 ∧ lock.messageId = messageId ∧ lock.state = .locked) .invalidBridgeOperation
  let hub ← (hub.compensateLock lockId).decreaseExposure env lock.routePolicyHash lock.amount
  pure (if lock.loanId = 0 then hub else { hub with loanBacking := hub.loanBacking.set lock.loanId 0 })

/-- `compensateMessage` from the return of the loan account on. -/
def finishCompensation (D : Deployment W) (messageId lockId : W) (hub : Hub W) : Except (Revert W) (W × Hub W) := do
  let lock := hub.locks lockId
  let hub ← hub.transferExact D lock.locker lock.amount
  let hub ← hub.requireBackingBalance D
  pure (keccak256 "UNIFIED_BRIDGE_COMPENSATION_V1" [.bytes32 messageId, .bytes32 lockId, .uint lock.amount], hub)

end Hub

end

end Unified.CrossChain
