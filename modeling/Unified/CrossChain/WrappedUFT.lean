import Unified.CrossChain.Deployment
import Unified.CrossChain.MessageBuilder
import Unified.CrossChain.Payloads
import Unified.Lib.Token

/-! The wrapped token of a satellite: mints on authorised lock messages, burns that leave a recoverable
    record, and the burn of a cancelled loan's escrow. -/

namespace Unified.CrossChain

inductive BurnRecoveryState where
  | none | burned | compensated
  deriving DecidableEq, Repr, Inhabited

structure BurnDispatch (W : Type) where
  (burnId loanId paymentId backingRoutePolicyHash : W)
  amount : Nat
  routePolicyHash : W
  actionType : CrossChainActionType
  account : Address
  expiresAt : Nat
  aggregateId : W

structure BurnRecord (W : Type) where
  (burnId messageId loanId paymentId backingRoutePolicyHash exitRoutePolicyHash : W)
  account : Address
  amount : Nat
  actionType : CrossChainActionType
  state : BurnRecoveryState
  compensationResult : W
  deriving DecidableEq, Inhabited

structure WrappedUFT (W : Type) [Evm W] where
  token : Token
  (mintMessage burnMessage : Mapping W W)
  burnRecords : Mapping W (BurnRecord W)
  (messageBurn loanCancellationBurn cancellationBurnResult : Mapping W W)

namespace WrappedUFT

variable {W : Type} [Evm W]

def initial : WrappedUFT W where
  token := default
  mintMessage := .empty
  burnMessage := .empty
  burnRecords := .empty
  messageBurn := .empty
  loanCancellationBurn := .empty
  cancellationBurnResult := .empty

/-- `handleCrossChainMessage` up to the call of a receiving contract. -/
def mintFor (D : Deployment W) (σ : Nat) (e : MessageEnvelope W) (lock : CanonicalUftLockPayload W)
    (w : WrappedUFT W) : Except (Revert W) (WrappedUFT W) := do
  let canonical := (D.satellite σ).canonicalBackingRoutePolicyHash
  require (canonical ≠ 0 ∧ e.routePolicyHash = canonical ∧ lock.lockId ≠ 0 ∧ lock.canonicalToken = D.canonicalUFT ∧
    lock.homeBridgeHub = D.homeBridgeHub ∧ lock.wrappedToken = (D.satellite σ).wrappedUFT ∧
    lock.destinationRecipient ≠ 0 ∧ lock.amount ≠ 0 ∧ w.mintMessage lock.lockId = 0) .invalidWrappedOperation
  let token ← w.token.mint .insufficientBalance lock.destinationRecipient lock.amount
  pure { w with token := token, mintMessage := w.mintMessage.set lock.lockId e.messageId }

def mintResult (e : MessageEnvelope W) (lock : CanonicalUftLockPayload W) : W :=
  keccak256 "UNIFIED_WRAPPED_MINT_RESULT_V1"
    [.bytes32 e.messageId, .bytes32 lock.lockId, .bytes32 lock.loanId, .address lock.destinationRecipient,
      .uint lock.amount]

/-! ### Burns -/

def validateBurnRoute (D : Deployment W) (σ : Nat) (env : Env W) (h : W) (a : CrossChainActionType) :
    Except (Revert W) Unit := do
  let route ← env.registry.route h
  let backing ← env.registry.route (D.satellite σ).canonicalBackingRoutePolicyHash
  require (route.config.sourceChainId = σ ∧ route.config.sourceCoordinator = (D.satellite σ).endpoint.address ∧
    route.config.sourceComponent = (D.satellite σ).wrappedUFT ∧
    route.config.destinationChainId = D.home.localChainId ∧
    route.config.destinationCoordinator = backing.config.sourceCoordinator ∧
    route.config.destinationComponent = D.homeBridgeHub ∧ env.registry.isActionAllowed h a = true)
    .invalidWrappedOperation

def burnRequest (D : Deployment W) (σ : Nat) (d : BurnDispatch W) (payload : Payload W) : BuildRequest W where
  routePolicyHash := d.routePolicyHash
  sourceComponent := (D.satellite σ).wrappedUFT
  aggregateId := d.aggregateId
  actionType := d.actionType
  payloadHash := payloadHash payload
  expiresAt := d.expiresAt
  correlationId := if d.loanId = 0 then d.burnId else d.loanId
  causationMessageId := 0
  supersededMessageId := 0

def recordBurn (d : BurnDispatch W) (messageId : W) (w : WrappedUFT W) : WrappedUFT W :=
  { w with
    burnMessage := w.burnMessage.set d.burnId messageId
    messageBurn := w.messageBurn.set messageId d.burnId
    burnRecords := w.burnRecords.set d.burnId
      ⟨d.burnId, messageId, d.loanId, d.paymentId, d.backingRoutePolicyHash, d.routePolicyHash, d.account, d.amount,
        d.actionType, .burned, 0⟩ }

def burnAndSend (D : Deployment W) (σ : Nat) (env : Env W) (d : BurnDispatch W) (payload : Payload W)
    (w : WrappedUFT W) (c : Coordinator W) : Except (Revert W) (WrappedUFT W × Coordinator W) := do
  let token ← w.token.burn .insufficientBalance d.account d.amount
  let (messageId, c) ← buildAndSend (D.satellite σ).endpoint.toCoordinatorConfig env (burnRequest D σ d payload) payload c
  pure (recordBurn d messageId { w with token := token }, c)

def burnForBridge (D : Deployment W) (σ : Nat) (env : Env W) (sender : Address) (burnId backingRoute burnRoute : W)
    (recipient : Address) (amount : Nat) (permanent : Bool) (expiresAt : Nat) (w : WrappedUFT W) (c : Coordinator W) :
    Except (Revert W) (WrappedUFT W × Coordinator W) := do
  require (burnId ≠ 0 ∧ backingRoute = (D.satellite σ).canonicalBackingRoutePolicyHash ∧ recipient ≠ 0 ∧ amount ≠ 0 ∧
    env.now < expiresAt ∧ w.burnMessage burnId = 0) .invalidWrappedOperation
  let a := if permanent then CrossChainActionType.satelliteUftPermanentBurned else .wrappedUftBurned
  validateBurnRoute D σ env burnRoute a
  let payload :=
    if permanent then
      SatelliteUftPermanentBurnedPayload.encode
        ⟨burnId, backingRoute, D.canonicalUFT, D.homeBridgeHub, (D.satellite σ).wrappedUFT, amount⟩
    else
      WrappedUftBurnedPayload.encode
        ⟨burnId, backingRoute, D.canonicalUFT, D.homeBridgeHub, (D.satellite σ).wrappedUFT, recipient, amount⟩
  burnAndSend D σ env ⟨burnId, 0, 0, backingRoute, amount, burnRoute, a, sender, expiresAt, burnId⟩ payload w c

def burnEscrowedLoanCancellation (D : Deployment W) (σ : Nat) (cancellationId loanId : W) (amount : Nat)
    (w : WrappedUFT W) : Except (Revert W) (W × WrappedUFT W) := do
  let vault := (D.satellite σ).satelliteSettlementVault
  require (cancellationId ≠ 0 ∧ loanId ≠ 0 ∧ amount ≠ 0 ∧ w.loanCancellationBurn loanId = 0 ∧
    w.cancellationBurnResult cancellationId = 0 ∧ amount ≤ w.token.balances vault) .invalidWrappedOperation
  let token ← w.token.burn .insufficientBalance vault amount
  let result := keccak256 "UNIFIED_WRAPPED_LOAN_ESCROW_CANCELLATION_V1"
    [.bytes32 cancellationId, .bytes32 loanId, .address vault, .uint amount, .uint token.totalSupply]
  pure (result,
    { w with
      token := token
      loanCancellationBurn := w.loanCancellationBurn.set loanId cancellationId
      cancellationBurnResult := w.cancellationBurnResult.set cancellationId result })

/-- `abi.decode(compensationPayload, (bytes32, address))`. -/
def decodeBurn : Payload W → Option (W × Address)
  | .bytes32 burnId :: .address account :: _ => some (burnId, account)
  | _ => none

def compensationResult (record : BurnRecord W) : W :=
  keccak256 "UNIFIED_WRAPPED_BURN_COMPENSATION_V1"
    [.bytes32 record.burnId, .bytes32 record.messageId, .address record.account, .uint record.amount,
      .uint record.actionType.ordinal]

/-- The record that the payload names belongs to the message and its account. -/
def checkCompensation (messageId : W) (a : CrossChainActionType) (burnId : W) (account : Address) (w : WrappedUFT W) :
    Except (Revert W) (BurnRecord W) := do
  let record := w.burnRecords burnId
  require (record.burnId ≠ 0 ∧ record.messageId = messageId ∧ record.actionType = a ∧ record.account = account ∧
    w.messageBurn messageId = burnId) .invalidWrappedOperation
  pure record

/-- `compensateMessage` from the return of the settlement vault on. -/
def finishCompensation (burnId : W) (w : WrappedUFT W) : Except (Revert W) (W × WrappedUFT W) := do
  let record := w.burnRecords burnId
  let token ← w.token.mint .insufficientBalance record.account record.amount
  let result := compensationResult record
  pure (result,
    { w with
      token := token
      burnRecords := w.burnRecords.set burnId { record with state := .compensated, compensationResult := result } })

end WrappedUFT

end Unified.CrossChain
