import Unified.CrossChain.Types
import Unified.Lib.Abi
import Unified.Lib.Numerals

/-! The message identity as four programs compute it: the coordinator service on its protobuf envelope,
    the TypeScript package on the same, the Python model on its digest input, and the contracts on
    their struct. Each is given up to the byte string that it hashes. -/

namespace Unified.CrossChain.Wire

abbrev Octets := List UInt8

/-! ### The protobuf envelope -/

structure Timestamp where
  seconds : Int64
  nanos : Int32
  deriving DecidableEq, Repr

structure CanonicalUftLockPayload where
  (lockId loanId canonicalToken homeBridgeHub wrappedToken destinationRecipient : Octets)
  amount : String
  deriving DecidableEq, Repr

/-- The shape that the six loan messages share; the operation is a lock or a collateral id. -/
structure LoanActionPayload where
  (loanId operationId homeLoanAccount borrower lender asset : Octets)
  amount : String
  policyHash : Octets
  deriving DecidableEq, Repr

structure WrappedUftBurnedPayload where
  (burnId backingRoutePolicyHash canonicalToken homeBridgeHub wrappedToken recipient : Octets)
  amount : String
  deriving DecidableEq, Repr

structure CanonicalUftReleasedPayload where
  (burnId canonicalToken recipient : Octets)
  amount : String
  wrappedBurnMessageId : Octets
  deriving DecidableEq, Repr

structure SatelliteRepaymentBurnedPayload where
  (burnId loanId paymentId backingRoutePolicyHash canonicalToken homeBridgeHub wrappedToken lender : Octets)
  amount : String
  deriving DecidableEq, Repr

structure LoanCancellationRequestedPayload where
  (cancellationId loanId fundingLockId disbursementMessageId disbursementTombstoneHash homeLoanAccount : Octets)
  (lender wrappedToken : Octets)
  amount : String
  (policyHash reasonCode : Octets)
  deriving DecidableEq, Repr

structure SatelliteFundingCancelledPayload where
  (cancellationId loanId fundingLockId disbursementMessageId disbursementTombstoneHash : Octets)
  (escrowBurnResultHash homeLoanAccount lender wrappedToken : Octets)
  amount : String
  policyHash : Octets
  deriving DecidableEq, Repr

structure SatelliteUftPermanentBurnedPayload where
  (burnId backingRoutePolicyHash canonicalToken homeBridgeHub wrappedToken : Octets)
  amount : String
  deriving DecidableEq, Repr

inductive TypedAction where
  | unset
  | canonicalUftLock (p : CanonicalUftLockPayload)
  | wrappedUftMinted (p : LoanActionPayload)
  | wrappedUftBurned (p : WrappedUftBurnedPayload)
  | canonicalUftReleased (p : CanonicalUftReleasedPayload)
  | satelliteCollateralLocked (p : LoanActionPayload)
  | homeDisbursementAuthorized (p : LoanActionPayload)
  | satelliteDisbursementSettled (p : LoanActionPayload)
  | satelliteRepaymentBurned (p : SatelliteRepaymentBurnedPayload)
  | homeCollateralReleaseAuthorized (p : LoanActionPayload)
  | satelliteCollateralReleased (p : LoanActionPayload)
  | loanCancellationRequested (p : LoanCancellationRequestedPayload)
  | satelliteFundingCancelled (p : SatelliteFundingCancelledPayload)
  | satelliteUftPermanentBurned (p : SatelliteUftPermanentBurnedPayload)
  deriving DecidableEq, Repr

structure ProtoEnvelope where
  schemaVersion : UInt32
  (messageId protocolId : Octets)
  sourceChainId : String
  (sourceCoordinator sourceComponent : Octets)
  destinationChainId : String
  (destinationCoordinator destinationComponent laneId : Octets)
  sourceNonce : UInt64
  aggregateId : Octets
  actionType : Int32
  (typedActionPayload payloadHash : Octets)
  (createdAt expiresAt : Option Timestamp)
  (routePolicyHash adapterSetPolicyHash sourceFinalityPolicyHash destinationFinalityPolicyHash : Octets)
  (correlationId causationMessageId supersededMessageId : Octets)
  typedAction : TypedAction
  deriving DecidableEq, Repr

def MESSAGE_DOMAIN : String := "UNIFIED_XCHAIN_MESSAGE_V1"

/-! ### The coordinator service -/

namespace Coordination

inductive EnvelopeError where
  | schemaNonceAction | messageIdLength
  | length (field : String) (size : Nat)
  | notUint256 (field : String)
  | timestamps | actionMismatch
  | noFrozenPayload (action : Int)
  | payloadNotCanonical | payloadHashMismatch | digestMismatch
  deriving DecidableEq, Repr

def exactLength (value : Octets) (size : Nat) (name : String) : Except EnvelopeError Unit :=
  require (value.length = size) (.length name size)

/-- A canonical positive decimal below `2^256`, as a word. -/
def uint256 (value name : String) : Except EnvelopeError Octets := do
  let number ← orRevert (setString value) (.notUint256 name)
  require (0 < number ∧ number < 2 ^ 256 ∧ toString number = value) (.notUint256 name)
  pure (uintWord number.toNat)

/-- `PutUint64` into the last eight bytes of a zero word. -/
def uint64Word (value : UInt64) : Octets := List.replicate 24 0 ++ toBigEndian 8 value.toNat

def addressWord (address : Octets) : Octets :=
  List.replicate 12 0 ++ address.take 20 ++ List.replicate (20 - address.length) 0

def bytes32ABI (value : Octets) (name : String) : Except EnvelopeError Octets := do
  exactLength value 32 name
  pure value

def addressABI (value : Octets) (name : String) : Except EnvelopeError Octets := do
  exactLength value 20 name
  pure (addressWord value)

def uint256ABI (value name : String) : Except EnvelopeError Octets := uint256 value name

/-- The words one after the other, or the first error. -/
def encodeStatic (words : List (Except EnvelopeError Octets)) : Except EnvelopeError Octets := do
  let words ← words.mapM id
  pure words.flatten

def encodeLoanAction (p : LoanActionPayload) (operationName assetName : String) : Except EnvelopeError Octets :=
  encodeStatic [bytes32ABI p.loanId "loan_id", bytes32ABI p.operationId operationName,
    addressABI p.homeLoanAccount "home_loan_account", addressABI p.borrower "borrower", addressABI p.lender "lender",
    addressABI p.asset assetName, uint256ABI p.amount "amount", bytes32ABI p.policyHash "policy_hash"]

/-- The payload of each action with a frozen ABI; an action of another kind is a mismatch. -/
def encodeTypedActionABI (e : ProtoEnvelope) : Except EnvelopeError Octets :=
  match e.actionType.toInt with
  | 1 => match e.typedAction with
    | .canonicalUftLock p => encodeStatic [bytes32ABI p.lockId "lock_id", bytes32ABI p.loanId "loan_id",
        addressABI p.canonicalToken "canonical_token", addressABI p.homeBridgeHub "home_bridge_hub",
        addressABI p.wrappedToken "wrapped_token", addressABI p.destinationRecipient "destination_recipient",
        uint256ABI p.amount "amount"]
    | _ => .error .actionMismatch
  | 2 => match e.typedAction with
    | .wrappedUftMinted p => encodeLoanAction p "lock_id" "wrapped_token"
    | _ => .error .actionMismatch
  | 3 => match e.typedAction with
    | .wrappedUftBurned p => encodeStatic [bytes32ABI p.burnId "burn_id",
        bytes32ABI p.backingRoutePolicyHash "backing_route_policy_hash", addressABI p.canonicalToken "canonical_token",
        addressABI p.homeBridgeHub "home_bridge_hub", addressABI p.wrappedToken "wrapped_token",
        addressABI p.recipient "recipient", uint256ABI p.amount "amount"]
    | _ => .error .actionMismatch
  | 4 => match e.typedAction with
    | .canonicalUftReleased p => encodeStatic [bytes32ABI p.burnId "burn_id",
        addressABI p.canonicalToken "canonical_token", addressABI p.recipient "recipient", uint256ABI p.amount "amount",
        bytes32ABI p.wrappedBurnMessageId "wrapped_burn_message_id"]
    | _ => .error .actionMismatch
  | 5 => match e.typedAction with
    | .satelliteCollateralLocked p => encodeLoanAction p "collateral_id" "collateral_token"
    | _ => .error .actionMismatch
  | 6 => match e.typedAction with
    | .homeDisbursementAuthorized p => encodeLoanAction p "funding_lock_id" "wrapped_token"
    | _ => .error .actionMismatch
  | 7 => match e.typedAction with
    | .satelliteDisbursementSettled p => encodeLoanAction p "funding_lock_id" "wrapped_token"
    | _ => .error .actionMismatch
  | 8 => match e.typedAction with
    | .satelliteRepaymentBurned p => encodeStatic [bytes32ABI p.burnId "burn_id", bytes32ABI p.loanId "loan_id",
        bytes32ABI p.paymentId "payment_id", bytes32ABI p.backingRoutePolicyHash "backing_route_policy_hash",
        addressABI p.canonicalToken "canonical_token", addressABI p.homeBridgeHub "home_bridge_hub",
        addressABI p.wrappedToken "wrapped_token", addressABI p.lender "lender", uint256ABI p.amount "amount"]
    | _ => .error .actionMismatch
  | 9 => match e.typedAction with
    | .homeCollateralReleaseAuthorized p => encodeLoanAction p "collateral_id" "collateral_token"
    | _ => .error .actionMismatch
  | 10 => match e.typedAction with
    | .satelliteCollateralReleased p => encodeLoanAction p "collateral_id" "collateral_token"
    | _ => .error .actionMismatch
  | 12 => match e.typedAction with
    | .loanCancellationRequested p => encodeStatic [bytes32ABI p.cancellationId "cancellation_id",
        bytes32ABI p.loanId "loan_id", bytes32ABI p.fundingLockId "funding_lock_id",
        bytes32ABI p.disbursementMessageId "disbursement_message_id",
        bytes32ABI p.disbursementTombstoneHash "disbursement_tombstone_hash",
        addressABI p.homeLoanAccount "home_loan_account", addressABI p.lender "lender",
        addressABI p.wrappedToken "wrapped_token", uint256ABI p.amount "amount", bytes32ABI p.policyHash "policy_hash",
        bytes32ABI p.reasonCode "reason_code"]
    | _ => .error .actionMismatch
  | 14 => match e.typedAction with
    | .satelliteFundingCancelled p => encodeStatic [bytes32ABI p.cancellationId "cancellation_id",
        bytes32ABI p.loanId "loan_id", bytes32ABI p.fundingLockId "funding_lock_id",
        bytes32ABI p.disbursementMessageId "disbursement_message_id",
        bytes32ABI p.disbursementTombstoneHash "disbursement_tombstone_hash",
        bytes32ABI p.escrowBurnResultHash "escrow_burn_result_hash", addressABI p.homeLoanAccount "home_loan_account",
        addressABI p.lender "lender", addressABI p.wrappedToken "wrapped_token", uint256ABI p.amount "amount",
        bytes32ABI p.policyHash "policy_hash"]
    | _ => .error .actionMismatch
  | 15 => match e.typedAction with
    | .satelliteUftPermanentBurned p => encodeStatic [bytes32ABI p.burnId "burn_id",
        bytes32ABI p.backingRoutePolicyHash "backing_route_policy_hash", addressABI p.canonicalToken "canonical_token",
        addressABI p.homeBridgeHub "home_bridge_hub", addressABI p.wrappedToken "wrapped_token",
        uint256ABI p.amount "amount"]
    | _ => .error .actionMismatch
  | action => .error (.noFrozenPayload action)

/-- Whole nonnegative seconds, expiry after creation. -/
def ValidTimes : Option Timestamp → Option Timestamp → Prop
  | some created, some expires =>
    created.nanos = 0 ∧ expires.nanos = 0 ∧ 0 ≤ created.seconds.toInt ∧ created.seconds.toInt < expires.seconds.toInt
  | _, _ => False

instance : ∀ created expires, Decidable (ValidTimes created expires)
  | some _, some _ => inferInstanceAs (Decidable (_ ∧ _))
  | some _, none => inferInstanceAs (Decidable False)
  | none, _ => inferInstanceAs (Decidable False)

section

variable (keccak : Octets → Octets)

/-- `validateEnvelope`; the service walks the fixed-width fields in no particular order. -/
def validateEnvelope (e : ProtoEnvelope) (requireID : Bool) : Except EnvelopeError Unit := do
  require (e.schemaVersion ≠ 0 ∧ e.sourceNonce ≠ 0 ∧ e.actionType ≠ 0) .schemaNonceAction
  if requireID then exactLength e.messageId 32 "message_id"
  else require (e.messageId.length = 0 ∨ e.messageId.length = 32) .messageIdLength
  exactLength e.protocolId 32 "protocol_id"
  exactLength e.laneId 32 "lane_id"
  exactLength e.aggregateId 32 "aggregate_id"
  exactLength e.payloadHash 32 "payload_hash"
  exactLength e.routePolicyHash 32 "route_policy_hash"
  exactLength e.adapterSetPolicyHash 32 "adapter_set_policy_hash"
  exactLength e.sourceFinalityPolicyHash 32 "source_finality_policy_hash"
  exactLength e.destinationFinalityPolicyHash 32 "destination_finality_policy_hash"
  exactLength e.correlationId 32 "correlation_id"
  exactLength e.causationMessageId 32 "causation_message_id"
  exactLength e.supersededMessageId 32 "superseded_message_id"
  exactLength e.sourceCoordinator 20 "source_coordinator"
  exactLength e.sourceComponent 20 "source_component"
  exactLength e.destinationCoordinator 20 "destination_coordinator"
  exactLength e.destinationComponent 20 "destination_component"
  discard (uint256 e.sourceChainId "source_chain_id")
  discard (uint256 e.destinationChainId "destination_chain_id")
  require (ValidTimes e.createdAt e.expiresAt) .timestamps
  let encodedPayload ← encodeTypedActionABI e
  require (encodedPayload = e.typedActionPayload) .payloadNotCanonical
  require (keccak encodedPayload = e.payloadHash) .payloadHashMismatch

/-- `GetSeconds` of a timestamp that may be missing. -/
def seconds (t : Option Timestamp) : UInt64 := (t.elim 0 Timestamp.seconds).toUInt64

def tagTail (tag : Octets) : Octets :=
  let tail := uint64Word (UInt64.ofNat tag.length) ++ tag
  let remainder := tail.length % 32
  if remainder ≠ 0 then tail ++ List.replicate (32 - remainder) 0 else tail

/-- The byte string that `ComputeMessageID` hashes. -/
def messagePreimage (e : ProtoEnvelope) : Except EnvelopeError Octets := do
  validateEnvelope keccak e false
  let sourceChain ← uint256 e.sourceChainId "source_chain_id"
  let destinationChain ← uint256 e.destinationChainId "destination_chain_id"
  let head := uint64Word (23 * 32) ++ uint64Word e.schemaVersion.toUInt64 ++ e.protocolId ++ sourceChain ++
    addressWord e.sourceCoordinator ++ addressWord e.sourceComponent ++ destinationChain ++
    addressWord e.destinationCoordinator ++ addressWord e.destinationComponent ++ e.laneId ++
    uint64Word e.sourceNonce ++ e.aggregateId ++ uint64Word e.actionType.toInt64.toUInt64 ++ e.payloadHash ++
    uint64Word (seconds e.createdAt) ++ uint64Word (seconds e.expiresAt) ++ e.routePolicyHash ++
    e.adapterSetPolicyHash ++ e.sourceFinalityPolicyHash ++ e.destinationFinalityPolicyHash ++ e.correlationId ++
    e.causationMessageId ++ e.supersededMessageId
  pure (head ++ tagTail MESSAGE_DOMAIN.toUTF8.toList)

def computeMessageID (e : ProtoEnvelope) : Except EnvelopeError Octets := do
  let preimage ← messagePreimage keccak e
  pure (keccak preimage)

def ValidateEnvelope (e : ProtoEnvelope) : Except EnvelopeError Unit := do
  validateEnvelope keccak e true
  let expected ← computeMessageID keccak e
  require (e.messageId = expected) .digestMismatch

end

end Coordination

/-! ### The TypeScript package -/

namespace Typescript

inductive CodecError where
  | outsideUint256
  | length (field : String) (size : Nat)
  | notBigInt | timesRequired
  deriving DecidableEq, Repr

/-- The white space and line ends that a numeric string may start and end with. -/
def isStrWhiteSpace (c : Char) : Bool :=
  c.toNat ∈ [0x09, 0x0A, 0x0B, 0x0C, 0x0D, 0x20, 0xA0, 0x1680, 0x2028, 0x2029, 0x202F, 0x205F, 0x3000, 0xFEFF] ||
    (0x2000 ≤ c.toNat && c.toNat ≤ 0x200A)

/-- `BigInt(string)`. -/
def bigInt (value : String) : Except CodecError Int :=
  let trimmed := ((value.toList.dropWhile isStrWhiteSpace).reverse.dropWhile isStrWhiteSpace).reverse
  let number : Option Int := match trimmed with
    | [] => some 0
    | '0' :: 'x' :: digits => (parseRadix 16 digits).map Int.ofNat
    | '0' :: 'X' :: digits => (parseRadix 16 digits).map Int.ofNat
    | '0' :: 'o' :: digits => (parseRadix 8 digits).map Int.ofNat
    | '0' :: 'O' :: digits => (parseRadix 8 digits).map Int.ofNat
    | '0' :: 'b' :: digits => (parseRadix 2 digits).map Int.ofNat
    | '0' :: 'B' :: digits => (parseRadix 2 digits).map Int.ofNat
    | '-' :: digits => (parseRadix 10 digits).map fun n => -Int.ofNat n
    | '+' :: digits => (parseRadix 10 digits).map Int.ofNat
    | digits => (parseRadix 10 digits).map Int.ofNat
  orRevert number .notBigInt

/-- The loop that fills a word from its last byte. -/
def fillWord : Nat → Nat → Octets → Octets
  | 0, _, filled => filled
  | index + 1, remaining, filled => fillWord index (remaining / 256) (UInt8.ofNat (remaining % 256) :: filled)

def uintWord (value : Int) : Except CodecError Octets := do
  require (0 ≤ value ∧ value < 2 ^ 256) .outsideUint256
  pure (fillWord 32 value.toNat [])

def exactBytes (value : Octets) (length : Nat) (field : String) : Except CodecError Octets := do
  require (value.length = length) (.length field length)
  pure value

def addressWord (value : Octets) (field : String) : Except CodecError Octets := do
  let address ← exactBytes value 20 field
  pure (List.replicate 12 0 ++ address)

def dynamicStringTail (value : String) : Except CodecError Octets := do
  let encoded := value.toUTF8.toList
  let padding := (32 - encoded.length % 32) % 32
  let length ← uintWord encoded.length
  pure (length ++ encoded ++ List.replicate padding 0)

def abiEncodeDynamicDomain (domain : String) (staticWords : List Octets) : Except CodecError Octets := do
  let argumentCount := staticWords.length + 1
  let offset ← uintWord (argumentCount * 32 : Nat)
  let words ← staticWords.zipIdx.mapM fun (word, index) => exactBytes word 32 s!"word {index}"
  let tail ← dynamicStringTail domain
  pure (offset ++ words.flatten ++ tail)

/-- The byte string that `crossChainMessageId` hashes. -/
def messagePreimage (e : ProtoEnvelope) : Except CodecError Octets := do
  let createdAt ← orRevert e.createdAt .timesRequired
  let expiresAt ← orRevert e.expiresAt .timesRequired
  let sourceChainId ← bigInt e.sourceChainId
  let destinationChainId ← bigInt e.destinationChainId
  let staticWords ← [uintWord e.schemaVersion.toNat, exactBytes e.protocolId 32 "protocol_id",
    uintWord sourceChainId, addressWord e.sourceCoordinator "source_coordinator",
    addressWord e.sourceComponent "source_component", uintWord destinationChainId,
    addressWord e.destinationCoordinator "destination_coordinator",
    addressWord e.destinationComponent "destination_component", exactBytes e.laneId 32 "lane_id",
    uintWord e.sourceNonce.toNat, exactBytes e.aggregateId 32 "aggregate_id", uintWord e.actionType.toInt,
    exactBytes e.payloadHash 32 "payload_hash", uintWord createdAt.seconds.toInt, uintWord expiresAt.seconds.toInt,
    exactBytes e.routePolicyHash 32 "route_policy_hash",
    exactBytes e.adapterSetPolicyHash 32 "adapter_set_policy_hash",
    exactBytes e.sourceFinalityPolicyHash 32 "source_finality_policy_hash",
    exactBytes e.destinationFinalityPolicyHash 32 "destination_finality_policy_hash",
    exactBytes e.correlationId 32 "correlation_id", exactBytes e.causationMessageId 32 "causation_message_id",
    exactBytes e.supersededMessageId 32 "superseded_message_id"].mapM id
  abiEncodeDynamicDomain MESSAGE_DOMAIN staticWords

end Typescript

/-! ### The Python model -/

namespace Python

inductive CodecError where
  | outsideUint256
  | length (field : String) (size : Nat)
  deriving DecidableEq, Repr

structure MessageDigestInput where
  schemaVersion : Int
  protocolId : Octets
  sourceChainId : Int
  (sourceCoordinator sourceComponent : Octets)
  destinationChainId : Int
  (destinationCoordinator destinationComponent laneId : Octets)
  sourceNonce : Int
  aggregateId : Octets
  actionType : Int
  payloadHash : Octets
  (createdAtSeconds expiresAtSeconds : Int)
  (routePolicyHash adapterSetPolicyHash sourceFinalityPolicyHash destinationFinalityPolicyHash : Octets)
  (correlationId causationMessageId supersededMessageId : Octets)
  deriving DecidableEq, Repr

def uintWord (value : Int) : Except CodecError Octets := do
  require (0 ≤ value ∧ value < 2 ^ 256) .outsideUint256
  pure (toBigEndian 32 value.toNat)

def exactBytes (value : Octets) (length : Nat) (field : String) : Except CodecError Octets := do
  require (value.length = length) (.length field length)
  pure value

def addressWord (value : Octets) (field : String) : Except CodecError Octets := do
  let address ← exactBytes value 20 field
  pure (List.replicate 12 0 ++ address)

def dynamicStringTail (value : String) : Except CodecError Octets := do
  let encoded := value.toUTF8.toList
  let padding := (-(encoded.length : Int) % 32).toNat
  let length ← uintWord encoded.length
  pure (length ++ encoded ++ List.replicate padding 0)

def abiEncodeDynamicDomain (domain : String) (staticWords : List Octets) : Except CodecError Octets := do
  let words ← staticWords.zipIdx.mapM fun (word, index) => exactBytes word 32 s!"word {index}"
  let argumentCount := staticWords.length + 1
  let offset ← uintWord (argumentCount * 32 : Nat)
  let tail ← dynamicStringTail domain
  pure (offset ++ words.flatten ++ tail)

/-- The byte string that `cross_chain_message_id` hashes. -/
def messagePreimage (e : MessageDigestInput) : Except CodecError Octets := do
  let staticWords ← [uintWord e.schemaVersion, exactBytes e.protocolId 32 "protocol_id", uintWord e.sourceChainId,
    addressWord e.sourceCoordinator "source_coordinator", addressWord e.sourceComponent "source_component",
    uintWord e.destinationChainId, addressWord e.destinationCoordinator "destination_coordinator",
    addressWord e.destinationComponent "destination_component", exactBytes e.laneId 32 "lane_id",
    uintWord e.sourceNonce, exactBytes e.aggregateId 32 "aggregate_id", uintWord e.actionType,
    exactBytes e.payloadHash 32 "payload_hash", uintWord e.createdAtSeconds, uintWord e.expiresAtSeconds,
    exactBytes e.routePolicyHash 32 "route_policy_hash",
    exactBytes e.adapterSetPolicyHash 32 "adapter_set_policy_hash",
    exactBytes e.sourceFinalityPolicyHash 32 "source_finality_policy_hash",
    exactBytes e.destinationFinalityPolicyHash 32 "destination_finality_policy_hash",
    exactBytes e.correlationId 32 "correlation_id", exactBytes e.causationMessageId 32 "causation_message_id",
    exactBytes e.supersededMessageId 32 "superseded_message_id"].mapM id
  abiEncodeDynamicDomain MESSAGE_DOMAIN staticWords

end Python

namespace Solidity

def MESSAGE_DOMAIN_WORD : BitVec 256 := 0x554e49464945445f58434841494e5f4d4553534147455f563100000000000000

/-- The byte string that `CrossChainTypes.messageId` hashes, chunk by chunk. -/
def messagePreimage (e : MessageEnvelope (BitVec 256)) : Octets :=
  abiEncodeStatic [.uint (23 * 32), .uint e.schemaVersion, .bytes32 e.protocolId, .uint e.sourceChainId,
    .address e.sourceCoordinator, .address e.sourceComponent, .uint e.destinationChainId,
    .address e.destinationCoordinator] ++
  abiEncodeStatic [.address e.destinationComponent, .bytes32 e.laneId, .uint e.sourceNonce, .bytes32 e.aggregateId,
    .uint e.actionType.ordinal, .bytes32 e.payloadHash] ++
  abiEncodeStatic [.uint e.createdAt, .uint e.expiresAt, .bytes32 e.routePolicyHash, .bytes32 e.adapterSetPolicyHash,
    .bytes32 e.sourceFinalityPolicyHash, .bytes32 e.destinationFinalityPolicyHash, .bytes32 e.correlationId,
    .bytes32 e.causationMessageId, .bytes32 e.supersededMessageId] ++
  abiEncodeStatic [.uint 25, .bytes32 MESSAGE_DOMAIN_WORD]

end Solidity

/-- The 22 fields of an envelope other than its id, in order. -/
def messageFields {W : Type} (e : MessageEnvelope W) : List (Datum W) :=
  [.uint e.schemaVersion, .bytes32 e.protocolId, .uint e.sourceChainId, .address e.sourceCoordinator,
    .address e.sourceComponent, .uint e.destinationChainId, .address e.destinationCoordinator,
    .address e.destinationComponent, .bytes32 e.laneId, .uint e.sourceNonce, .bytes32 e.aggregateId,
    .uint e.actionType.ordinal, .bytes32 e.payloadHash, .uint e.createdAt, .uint e.expiresAt,
    .bytes32 e.routePolicyHash, .bytes32 e.adapterSetPolicyHash, .bytes32 e.sourceFinalityPolicyHash,
    .bytes32 e.destinationFinalityPolicyHash, .bytes32 e.correlationId, .bytes32 e.causationMessageId,
    .bytes32 e.supersededMessageId]

end Unified.CrossChain.Wire
