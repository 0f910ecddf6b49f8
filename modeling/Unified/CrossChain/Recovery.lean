import Unified.CrossChain.Coordinator
import Unified.CrossChain.Signatures

/-! Staged recovery: a signed request first tombstones an expired message at its destination and then
    compensates it once at its source. `compensateSource` is split at its external call. -/

namespace Unified.CrossChain

inductive RecoveryAction where
  | unspecified | tombstoneThenCompensate
  deriving DecidableEq, Repr, Inhabited

inductive RecoveryState where
  | none | authorized | destinationTombstoned | sourceCompensated
  deriving DecidableEq, Repr, Inhabited

structure RecoveryRequest (W : Type) where
  (messageId envelopeHash routePolicyHash assetAmountCommitment sourceStateCommitment : W)
  destinationStateCommitment : W
  compensationPayloadHash : W
  (messageExpiresAt recoveryNonce : Nat)
  reasonCode : W
  action : RecoveryAction
  authorizerSetHash : W
  authorizerSetVersion : Nat
  deriving DecidableEq, Inhabited

structure RecoveryRecord (W : Type) where
  requestDigest : W
  signerBitmap : Nat
  state : RecoveryState
  (tombstoneEventHash compensationPayloadHash compensationResult : W)
  deriving DecidableEq, Inhabited

structure LoanCancellationAuthorization (W : Type) where
  loanRouter : Address
  (loanId fundingLockId disbursementMessageId disbursementTombstoneHash : W)
  amount : Nat
  policyHash : W
  (authorizationNonce validUntil : Nat)
  reasonCode : W
  authorizerSetHash : W
  authorizerSetVersion : Nat
  deriving DecidableEq, Inhabited

/-- The immutable configuration of a chain's coordinator and recovery controller, and `block.chainid`. -/
structure EndpointConfig (W : Type) extends CoordinatorConfig W where
  recoveryController : Address
  recoverySigners : RecoverySigners
  chainid : Nat

structure RecoveryController (W : Type) [Evm W] where
  recoveryRecords : Mapping W (RecoveryRecord W)
  (recoveryForMessage destinationTombstone sourceCompensation : Mapping W W)
  nextRecoveryNonce : Mapping W Nat
  nextLoanCancellationNonce : Mapping (Address × W) Nat
  cancellationForLoan : Mapping (Address × W) W
  loanCancellationSignerBitmap : Mapping W Nat
  entered : Bool
  /-- The messages of the `SourceCompensated` log, oldest first. -/
  compensated : List W

/-- One chain's message endpoint: its coordinator and its recovery controller. -/
structure Endpoint (W : Type) [Evm W] where
  coordinator : Coordinator W
  recovery : RecoveryController W

def AUTHORIZER_SET_VERSION : Nat := 1

section

variable {W : Type} [Evm W]

def authorizerSetHash (signers : RecoverySigners) : W :=
  keccak256 "UNIFIED_XCHAIN_RECOVERY_AUTHORIZER_SET_V1"
    (.uint AUTHORIZER_SET_VERSION :: .uint RECOVERY_THRESHOLD :: signers.addresses.map .address)

def RecoveryRequest.data (r : RecoveryRequest W) : List (Datum W) :=
  [.bytes32 r.messageId, .bytes32 r.envelopeHash, .bytes32 r.routePolicyHash, .bytes32 r.assetAmountCommitment,
    .bytes32 r.sourceStateCommitment, .bytes32 r.destinationStateCommitment, .bytes32 r.compensationPayloadHash,
    .uint r.messageExpiresAt, .uint r.recoveryNonce, .bytes32 r.reasonCode, .uint r.action.ctorIdx,
    .bytes32 r.authorizerSetHash, .uint r.authorizerSetVersion]

def recoveryId (r : RecoveryRequest W) : W := keccak256 "UNIFIED_XCHAIN_RECOVERY_ID_V1" r.data

def recoveryAuthorizationDigest (e : MessageEnvelope W) (r : RecoveryRequest W) : W :=
  keccak256 "UNIFIED_XCHAIN_RECOVERY_AUTHORIZATION_V2"
    (.bytes32 e.protocolId :: .uint e.sourceChainId :: .address e.sourceCoordinator ::
      .uint e.destinationChainId :: .address e.destinationCoordinator :: r.data)

def assetAmountCommitment (e : MessageEnvelope W) : W :=
  keccak256 "UNIFIED_RECOVERY_ASSET_AMOUNT_COMMITMENT_V1" [.uint e.actionType.ordinal, .bytes32 e.payloadHash]

def LoanCancellationAuthorization.data (r : LoanCancellationAuthorization W) : List (Datum W) :=
  [.address r.loanRouter, .bytes32 r.loanId, .bytes32 r.fundingLockId, .bytes32 r.disbursementMessageId,
    .bytes32 r.disbursementTombstoneHash, .uint r.amount, .bytes32 r.policyHash, .uint r.authorizationNonce,
    .uint r.validUntil, .bytes32 r.reasonCode, .bytes32 r.authorizerSetHash, .uint r.authorizerSetVersion]

def loanCancellationAuthorizationDigest (cfg : EndpointConfig W) (r : LoanCancellationAuthorization W) : W :=
  keccak256 "UNIFIED_LOAN_CANCELLATION_AUTHORIZATION_V1"
    (.uint cfg.chainid :: .address cfg.recoveryController :: r.data)

namespace RecoveryController

def initial : RecoveryController W where
  recoveryRecords := .empty
  recoveryForMessage := .empty
  destinationTombstone := .empty
  sourceCompensation := .empty
  nextRecoveryNonce := .empty
  nextLoanCancellationNonce := .empty
  cancellationForLoan := .empty
  loanCancellationSignerBitmap := .empty
  entered := false
  compensated := []

/-- The request restates the envelope and the configured signer set. -/
def validateRequest (cfg : EndpointConfig W) (e : MessageEnvelope W) (r : RecoveryRequest W) :
    Except (Revert W) W := do
  require (r.messageId = e.messageId ∧ r.envelopeHash = envelopeHash e ∧ r.routePolicyHash = e.routePolicyHash ∧
    r.assetAmountCommitment = assetAmountCommitment e ∧ r.sourceStateCommitment ≠ 0 ∧
    r.destinationStateCommitment ≠ 0 ∧ r.compensationPayloadHash ≠ 0 ∧ r.messageExpiresAt = e.expiresAt ∧
    r.recoveryNonce ≠ 0 ∧ r.reasonCode ≠ 0 ∧ r.action = .tombstoneThenCompensate ∧
    r.authorizerSetHash = authorizerSetHash cfg.recoverySigners ∧
    r.authorizerSetVersion = AUTHORIZER_SET_VERSION) .invalidRecovery
  pure (recoveryAuthorizationDigest e r)

/-- A message is recovered under one recovery id only. -/
def bindMessage (rc : RecoveryController W) (messageId recoveryId : W) :
    Except (Revert W) (RecoveryController W) := do
  let existing := rc.recoveryForMessage messageId
  require (existing = 0 ∨ existing = recoveryId) (.conflictingRecovery messageId existing)
  pure { rc with recoveryForMessage := rc.recoveryForMessage.set messageId recoveryId }

def recordTombstone (rc : RecoveryController W) (e : MessageEnvelope W) (r : RecoveryRequest W)
    (signerBitmap : Nat) (tombstone : W) : RecoveryController W :=
  { rc with
    recoveryRecords := rc.recoveryRecords.modify (recoveryId r) fun record =>
      { record with
        requestDigest := recoveryAuthorizationDigest e r
        signerBitmap := signerBitmap
        state := .destinationTombstoned
        tombstoneEventHash := tombstone }
    nextRecoveryNonce := rc.nextRecoveryNonce.set e.laneId r.recoveryNonce
    destinationTombstone := rc.destinationTombstone.set e.messageId tombstone }

/-- The controller's writes before the source component is called. -/
def recordAuthorized (rc : RecoveryController W) (e : MessageEnvelope W) (r : RecoveryRequest W)
    (signerBitmap : Nat) (tombstone : W) : RecoveryController W :=
  { rc with
    entered := true
    recoveryRecords := rc.recoveryRecords.modify (recoveryId r) fun record =>
      { record with
        requestDigest := recoveryAuthorizationDigest e r
        signerBitmap := signerBitmap
        state := .destinationTombstoned
        tombstoneEventHash := tombstone
        compensationPayloadHash := r.compensationPayloadHash } }

/-- The controller's writes after the source component returned. -/
def recordCompensated (rc : RecoveryController W) (recoveryId messageId resultHash : W) : RecoveryController W :=
  { rc with
    entered := false
    recoveryRecords := rc.recoveryRecords.modify recoveryId fun record =>
      { record with compensationResult := resultHash, state := .sourceCompensated }
    sourceCompensation := rc.sourceCompensation.set messageId resultHash
    compensated := rc.compensated ++ [messageId] }

def consumeLoanCancellationAuthorization (cfg : EndpointConfig W) (env : Env W) (sender : Address)
    (r : LoanCancellationAuthorization W) (signatures : List Bytes) (rc : RecoveryController W) :
    Except (Revert W) (RecoveryController W) := do
  require (sender = r.loanRouter ∧ r.loanId ≠ 0 ∧ r.fundingLockId ≠ 0 ∧ r.amount ≠ 0 ∧ r.policyHash ≠ 0 ∧
    r.authorizationNonce ≠ 0 ∧ r.validUntil ≠ 0 ∧ r.reasonCode ≠ 0 ∧
    r.authorizerSetHash = authorizerSetHash cfg.recoverySigners ∧
    r.authorizerSetVersion = AUTHORIZER_SET_VERSION ∧
    (r.disbursementMessageId = 0 ↔ r.disbursementTombstoneHash = 0)) .invalidRecovery
  let cancellationId := loanCancellationAuthorizationDigest cfg r
  let existing := rc.cancellationForLoan (r.loanRouter, r.loanId)
  if existing ≠ 0 then do
    require (existing = cancellationId) (.conflictingRecovery r.loanId existing)
    pure rc
  else do
    let expected ← Coordinator.expectedNonce (rc.nextLoanCancellationNonce (r.loanRouter, r.loanId))
    require (env.now ≤ r.validUntil ∧ r.authorizationNonce = expected) .invalidRecovery
    let signerBitmap ← authorizationBitmap cfg.recoverySigners cancellationId signatures
    pure { rc with
      nextLoanCancellationNonce := rc.nextLoanCancellationNonce.set (r.loanRouter, r.loanId) r.authorizationNonce
      cancellationForLoan := rc.cancellationForLoan.set (r.loanRouter, r.loanId) cancellationId
      loanCancellationSignerBitmap := rc.loanCancellationSignerBitmap.set cancellationId signerBitmap }

end RecoveryController

namespace Endpoint

/-- A deployed endpoint; the coordinator's recovery controller is the zero address until configured. -/
def initial (recoveryController : Address) : Endpoint W := ⟨.initial recoveryController, .initial⟩

def recordDestinationTombstone (cfg : EndpointConfig W) (env : Env W) (e : MessageEnvelope W)
    (r : RecoveryRequest W) (signatures : List Bytes) (s : Endpoint W) : Except (Revert W) (Endpoint W) := do
  let digest ← RecoveryController.validateRequest cfg e r
  let record := s.recovery.recoveryRecords (recoveryId r)
  if record.requestDigest ≠ 0 then do
    require (record.requestDigest = digest ∧ record.state = .destinationTombstoned) .invalidRecovery
    pure s
  else do
    let bound ← s.recovery.bindMessage r.messageId (recoveryId r)
    let expected ← Coordinator.expectedNonce (s.recovery.nextRecoveryNonce e.laneId)
    require (e.destinationChainId = cfg.localChainId ∧ e.destinationCoordinator = cfg.address ∧
      e.expiresAt ≤ env.now ∧ r.recoveryNonce = expected) .invalidRecovery
    let signerBitmap ← authorizationBitmap cfg.recoverySigners digest signatures
    let coordinator ← s.coordinator.recordTombstone cfg.toCoordinatorConfig env cfg.recoveryController e
      r.recoveryNonce r.reasonCode
    let tombstone := tombstoneEventHash cfg.address e.messageId (envelopeHash e) r.recoveryNonce r.reasonCode
    pure ⟨coordinator, bound.recordTombstone e r signerBitmap tombstone⟩

def validateSourceRecovery (cfg : EndpointConfig W) (env : Env W) (e : MessageEnvelope W) (r : RecoveryRequest W)
    (tombstone : W) (c : Coordinator W) : Except (Revert W) Unit := do
  require (e.sourceChainId = cfg.localChainId ∧ e.sourceCoordinator = cfg.address ∧ e.expiresAt ≤ env.now ∧
    tombstone ≠ 0 ∧ tombstone = tombstoneEventHash e.destinationCoordinator e.messageId r.envelopeHash
      r.recoveryNonce r.reasonCode) .invalidRecovery
  let stored := c.envelopes e.messageId
  require (stored.messageId = e.messageId ∧ envelopeHash stored = r.envelopeHash) .invalidRecovery

/-- How `compensateSource` goes on once its checks passed. -/
inductive Compensation (W : Type) [Evm W] where
  | replayed (resultHash : W)
  | authorized (rc : RecoveryController W)

/-- `compensateSource` up to the call of the source component. -/
def authorizeCompensation (cfg : EndpointConfig W) (env : Env W) (e : MessageEnvelope W) (r : RecoveryRequest W)
    (signatures : List Bytes) (tombstone : W) (payload : Payload W) (s : Endpoint W) :
    Except (Revert W) (Compensation W) := do
  require (s.recovery.entered = false) .reentrantCall
  let digest ← RecoveryController.validateRequest cfg e r
  require (r.compensationPayloadHash = payloadHash payload) .invalidRecovery
  let record := s.recovery.recoveryRecords (recoveryId r)
  if record.compensationResult ≠ 0 then do
    require (record.requestDigest = digest ∧ record.tombstoneEventHash = tombstone ∧
      record.compensationPayloadHash = payloadHash payload) .invalidRecovery
    pure (.replayed record.compensationResult)
  else do
    let bound ← s.recovery.bindMessage r.messageId (recoveryId r)
    validateSourceRecovery cfg env e r tombstone s.coordinator
    let signerBitmap ← authorizationBitmap cfg.recoverySigners digest signatures
    let _ ← env.registry.route e.routePolicyHash
    require (env.attested e.destinationChainId e.destinationCoordinator tombstone = true) .invalidFinality
    pure (.authorized (bound.recordAuthorized e r signerBitmap tombstone))

/-- `compensateSource` from the return of the source component on. -/
def completeCompensation (e : MessageEnvelope W) (r : RecoveryRequest W) (resultHash : W)
    (rc : RecoveryController W) : Except (Revert W) (RecoveryController W) := do
  require (resultHash ≠ 0) .invalidRecovery
  pure (rc.recordCompensated (recoveryId r) e.messageId resultHash)

end Endpoint

end

end Unified.CrossChain
