import Unified.Lib.Checked
import Unified.Lib.Evm
import Unified.Lib.Mapping

/-! Message envelopes, their digests and the two action classes of the cross-chain protocol. -/

namespace Unified.CrossChain

/-- Ordinals follow the order of the constructors. -/
inductive CrossChainActionType where
  | unspecified | canonicalUftLocked | wrappedUftMinted | wrappedUftBurned | canonicalUftReleased
  | satelliteCollateralLocked | homeDisbursementAuthorized | satelliteDisbursementSettled
  | satelliteRepaymentBurned | homeCollateralReleaseAuthorized | satelliteCollateralReleased | stateAcknowledged
  | cancellationRequested | destinationTombstoned | sourceCompensated | satelliteUftPermanentBurned
  | routeGovernance
  deriving DecidableEq, Repr, Inhabited

inductive MessageState where
  | none | created | sourceFinalizing | sourceFinal | sent | relayed | verified | executed | ackPending
  | acknowledged | rejected | failed | expired | recoveryPending | destinationTombstoned | sourceCompensated
  | recovered | disputed
  deriving DecidableEq, Repr, Inhabited

inductive RegistryStatus where
  | none | active | deprecated
  deriving DecidableEq, Repr, Inhabited

structure MessageEnvelope (W : Type) where
  schemaVersion : Nat
  messageId : W
  protocolId : W
  sourceChainId : Nat
  (sourceCoordinator sourceComponent : Address)
  destinationChainId : Nat
  (destinationCoordinator destinationComponent : Address)
  laneId : W
  sourceNonce : Nat
  aggregateId : W
  actionType : CrossChainActionType
  payloadHash : W
  (createdAt expiresAt : Nat)
  (routePolicyHash adapterSetPolicyHash sourceFinalityPolicyHash destinationFinalityPolicyHash correlationId : W)
  causationMessageId : W
  supersededMessageId : W
  deriving DecidableEq, Inhabited

/-- ABI encoded call data: the fields of the encoded struct, one word each. -/
abbrev Payload (W : Type) := List (Datum W)

/-- The errors of the contracts. `handlerReverted` is any revert of a component outside of this development,
    `arithmetic` a checked overflow, `malformedPayload` call data that does not decode, and `notCallable` a call that
    its sender, a contract of the protocol, never makes. -/
inductive Revert (W : Type) where
  | invalidMessage
  | invalidRoute (routePolicyHash : W)
  | unknownRoute (routePolicyHash : W)
  | invalidMessageOrder (laneId : W) (expected actual : Nat)
  | conflictingMessage (laneId : W) (nonce : Nat)
  | messageExpired (messageId : W)
  | messageAlreadyTombstoned (messageId : W)
  | unauthorizedRecoveryController (caller : Address)
  | invalidCoordinatorConfiguration | invalidExecutionResult | invalidFinality | reentrantCall | invalidRecovery
  | insufficientRecoveryAuthorization
  | conflictingRecovery (messageId existingRecoveryId : W)
  | invalidSignature
  | invalidSignatureLength (length : Nat)
  | invalidSignatureS | handlerReverted | arithmetic | malformedPayload | insufficientBalance
  | invalidBridgeOperation | exposureExceeded | unknownExposurePolicy
  | exposureLimitExceeded (dimension : String) (exposure limit : Nat)
  | bridgeBalanceMismatch | invalidWrappedOperation | invalidSatelliteSettlement
  | satelliteSettlementBalanceMismatch | invalidSatelliteCollateral | satelliteCollateralBalanceMismatch
  | invalidSatelliteLoan | unauthorizedSatelliteCaller | invalidLoan
  | amountExceedsPrincipal (amount outstanding : Nat)
  | loanBalanceMismatch
  | loanAlreadyRegistered (loanId : W)
  | unauthorizedLoanCaller (caller : Address)
  | unauthorizedLoanAccount (caller : Address)
  | invalidCrossChainOrigination | invalidCrossChainLoanMessage | notCallable
  deriving DecidableEq

def SCHEMA_VERSION : Nat := 1

namespace CrossChainActionType

def ordinal (a : CrossChainActionType) : Nat := a.ctorIdx

theorem ordinal_inj {a b : CrossChainActionType} (h : a.ordinal = b.ordinal) : a = b := by
  cases a <;> cases b <;> first | rfl | cases h

end CrossChainActionType

/-- Actions that leave the satellite or unwind a loan, and stay executable on a paused route. -/
def isExitAction (a : CrossChainActionType) : Bool :=
  a == .wrappedUftBurned || a == .satelliteUftPermanentBurned || a == .satelliteRepaymentBurned ||
    a == .cancellationRequested || a == .sourceCompensated || a == .homeCollateralReleaseAuthorized ||
    a == .satelliteCollateralReleased

/-- Reports attest completed effects and stay ingestible after their transport expiry. -/
def isReportAction (a : CrossChainActionType) : Bool :=
  a == .wrappedUftMinted || a == .satelliteCollateralLocked || a == .satelliteDisbursementSettled ||
    a == .sourceCompensated || a == .satelliteCollateralReleased

section

variable {W : Type} [Evm W]

def messageId (e : MessageEnvelope W) : W :=
  keccak256 "UNIFIED_XCHAIN_MESSAGE_V1"
    [.uint e.schemaVersion, .bytes32 e.protocolId, .uint e.sourceChainId, .address e.sourceCoordinator,
      .address e.sourceComponent, .uint e.destinationChainId, .address e.destinationCoordinator,
      .address e.destinationComponent, .bytes32 e.laneId, .uint e.sourceNonce, .bytes32 e.aggregateId,
      .uint e.actionType.ordinal, .bytes32 e.payloadHash, .uint e.createdAt, .uint e.expiresAt,
      .bytes32 e.routePolicyHash, .bytes32 e.adapterSetPolicyHash, .bytes32 e.sourceFinalityPolicyHash,
      .bytes32 e.destinationFinalityPolicyHash, .bytes32 e.correlationId, .bytes32 e.causationMessageId,
      .bytes32 e.supersededMessageId]

/-- `keccak256(abi.encode(envelope))`: all fields, the stored message id included. -/
def envelopeHash (e : MessageEnvelope W) : W :=
  keccak256 ""
    [.uint e.schemaVersion, .bytes32 e.messageId, .bytes32 e.protocolId, .uint e.sourceChainId,
      .address e.sourceCoordinator, .address e.sourceComponent, .uint e.destinationChainId,
      .address e.destinationCoordinator, .address e.destinationComponent, .bytes32 e.laneId,
      .uint e.sourceNonce, .bytes32 e.aggregateId, .uint e.actionType.ordinal, .bytes32 e.payloadHash,
      .uint e.createdAt, .uint e.expiresAt, .bytes32 e.routePolicyHash, .bytes32 e.adapterSetPolicyHash,
      .bytes32 e.sourceFinalityPolicyHash, .bytes32 e.destinationFinalityPolicyHash,
      .bytes32 e.correlationId, .bytes32 e.causationMessageId, .bytes32 e.supersededMessageId]

def laneId (protocolId : W) (sourceChainId : Nat) (sourceComponent : Address) (destinationChainId : Nat)
    (destinationComponent : Address) (aggregateId actionFamily : W) : W :=
  keccak256 "UNIFIED_XCHAIN_LANE_V1"
    [.bytes32 protocolId, .uint sourceChainId, .address sourceComponent, .uint destinationChainId,
      .address destinationComponent, .bytes32 aggregateId, .bytes32 actionFamily]

def tombstoneEventHash (destinationCoordinator : Address) (messageId envelopeHash : W)
    (recoveryNonce : Nat) (reasonCode : W) : W :=
  keccak256 "UNIFIED_XCHAIN_TOMBSTONE_V1"
    [.address destinationCoordinator, .bytes32 messageId, .bytes32 envelopeHash, .uint recoveryNonce,
      .bytes32 reasonCode]

def payloadHash (payload : Payload W) : W := keccak256 "" payload

/-- The key of `inboundMessageAt`: `keccak256(abi.encode(laneId, nonce))`. -/
def laneNonceKey (lane : W) (nonce : Nat) : W := keccak256 "" [.bytes32 lane, .uint nonce]

/-- The envelope carries its own digest. -/
def MessageEnvelope.Sealed (e : MessageEnvelope W) : Prop := CrossChain.messageId e = e.messageId

instance (e : MessageEnvelope W) : Decidable e.Sealed := inferInstanceAs (Decidable (_ = _))

end

section

variable {W : Type} [CollisionFree W] {e e' : MessageEnvelope W}

theorem messageId_ne_zero (e : MessageEnvelope W) : messageId e ≠ 0 := CollisionFree.keccak256_ne_zero _ _

theorem MessageEnvelope.Sealed.ne_zero (h : e.Sealed) : e.messageId ≠ 0 := by
  rw [← show CrossChain.messageId e = e.messageId from h]
  exact messageId_ne_zero e

/-- A digest determines every field of the envelope that carries it. -/
theorem MessageEnvelope.Sealed.eq (h : e.Sealed) (h' : e'.Sealed) (heq : e.messageId = e'.messageId) :
    e = e' := by
  have hid : CrossChain.messageId e = CrossChain.messageId e' := by
    rw [show CrossChain.messageId e = _ from h, heq, show CrossChain.messageId e' = _ from h']
  have hdata := (CollisionFree.keccak256_inj hid).2
  simp only [List.cons.injEq, Datum.uint.injEq, Datum.bytes32.injEq, Datum.address.injEq, and_true] at hdata
  cases e
  cases e'
  simp only at hdata heq
  obtain ⟨rfl, rfl, rfl, rfl, rfl, rfl, rfl, rfl, rfl, rfl, rfl, ha, rfl, rfl, rfl, rfl, rfl, rfl, rfl, rfl, rfl,
    rfl⟩ := hdata
  rw [CrossChainActionType.ordinal_inj ha, heq]

theorem envelopeHash_inj (h : envelopeHash e = envelopeHash e') : e = e' := by
  have hdata := (CollisionFree.keccak256_inj h).2
  simp only [List.cons.injEq, Datum.uint.injEq, Datum.bytes32.injEq, Datum.address.injEq, and_true] at hdata
  cases e
  cases e'
  simp only at hdata
  obtain ⟨rfl, rfl, rfl, rfl, rfl, rfl, rfl, rfl, rfl, rfl, rfl, rfl, ha, rfl, rfl, rfl, rfl, rfl, rfl, rfl, rfl,
    rfl, rfl⟩ := hdata
  rw [CrossChainActionType.ordinal_inj ha]

theorem laneNonceKey_inj {lane lane' : W} {n n' : Nat} (h : laneNonceKey lane n = laneNonceKey lane' n') :
    lane = lane' ∧ n = n' := by
  have hdata := (CollisionFree.keccak256_inj h).2
  simpa using hdata

theorem payloadHash_inj {p p' : Payload W} (h : payloadHash p = payloadHash p') : p = p' :=
  (CollisionFree.keccak256_inj h).2

theorem tombstoneEventHash_ne_zero (a : Address) (m h : W) (n : Nat) (r : W) :
    tombstoneEventHash a m h n r ≠ 0 := CollisionFree.keccak256_ne_zero _ _

end

end Unified.CrossChain
