import Unified.Indexer.Gateway

/-! The records of the canonical settlement coordinator: requests and plans, confirmations, the evidence of
    reorganisations and provider reversals, and what the coordinator's store keeps of them. -/

namespace Unified.Settlement

open Indexer (Crypto Octets Time TransactionFailureEvidence VerifiedGatewayProjection SettlementReorg octets)

/-- The value of a struct that `json.Marshal` encodes. -/
inductive JsonValue where
  | text (s : String)
  | number (n : Nat)
  | time (t : Time)
  | array (items : List JsonValue)
  | object (fields : List (String × JsonValue))

/-- What the services take from the libraries for digests of JSON. -/
class Encoding extends Crypto where
  sha256 : Octets → Octets
  length_sha256 : ∀ input, (sha256 input).length = 32
  marshal : JsonValue → Octets

/-- `hex.EncodeToString(sha256(domain ++ 0 ++ json))`. -/
def jsonDigest [Encoding] (domain : String) (value : JsonValue) : String :=
  String.ofList (hexEncode (Encoding.sha256 (octets domain ++ 0 :: Encoding.marshal value)))

inductive ErrorKind where
  | invalidPlan | planConflict | invalidTransition | invalidEvent | invalidReorg | storeConflict | invalidStore
  | invalidClaim | claimConflict | invalidCanonicalTransition | resolutionFailed | claimStoreConflict
  | invalidClaimStore | accounting
  deriving DecidableEq, Repr

/-- A joined error is all the errors it wraps. -/
abbrev Errors := List ErrorKind

def joinError {α : Type} (e : ErrorKind) (x : Except Errors α) : Except Errors α := x.mapError (e :: ·)

@[simp] theorem joinError_eq_ok {α : Type} {e : ErrorKind} {x : Except Errors α} {a : α} :
    joinError e x = .ok a ↔ x = .ok a := by
  cases x <;> simp [joinError, Except.mapError]

inductive PaymentStatus where
  | created | processing | provisional | final | failed | reversed | disputed
  deriving DecidableEq, Repr

inductive Mode where
  | syntheticProjection | canonicalGateway
  deriving DecidableEq, Repr

/-- The state of a canonical claim; a synthetic claim leaves it unset. -/
inductive CanonicalState where
  | unset | prepared | submitted | confirmed | failed | quarantined | incident
  deriving DecidableEq, Repr

structure Claim where
  (claimID paymentID allocationID : String)
  mode : Mode
  digest : String
  state : CanonicalState
  expectedVersion : Nat
  evidenceHash : String
  claimedAt : Time
  deriving DecidableEq

inductive ReversalDisposition where
  | unclaimed | synthetic | quarantined | incident
  deriving DecidableEq, Repr

/-! ### Requests and plans -/

/-- The state of a plan. -/
inductive State where
  | prepared | submitted | confirmed | failed | quarantined | incident
  deriving DecidableEq, Repr

def stateFromCanonical : CanonicalState → Option State
  | .unset => none
  | .prepared => some .prepared
  | .submitted => some .submitted
  | .confirmed => some .confirmed
  | .failed => some .failed
  | .quarantined => some .quarantined
  | .incident => some .incident

def State.canonical : State → CanonicalState
  | .prepared => .prepared
  | .submitted => .submitted
  | .confirmed => .confirmed
  | .failed => .failed
  | .quarantined => .quarantined
  | .incident => .incident

theorem stateFromCanonical_eq_some {claimed : CanonicalState} {state : State} :
    stateFromCanonical claimed = some state ↔ claimed = state.canonical := by
  cases claimed <;> cases state <;> simp [stateFromCanonical, State.canonical]

structure SolidityInstruction where
  (paymentID allocationID loanID sourceAssetID targetAssetID sourceUnits targetUnits providerIDHash : String)
  (providerReferenceHash reconciliationID reconciliationCommitment originalJournalSetHash : String)
  (conversionPolicyHash finalityPolicyHash evidenceHash journalRef : String)
  (finalizedAt reversalDeadline : Nat)
  expectedDebt : String
  expectedStateNonce : Nat
  attester : String
  deriving DecidableEq

/-- What a plan copies from its request. -/
structure Terms where
  (paymentID allocationID loanID providerID providerReference : String)
  paymentVersion : Nat
  (sourceAssetID targetAssetID targetToken denomination sourceUnits targetUnits reconciliationID : String)
  (providerIDHash providerReferenceHash reconciliationCommitment originalJournalSetHash : String)
  (finalityPolicyHash conversionPolicyHash policySetHash eligibilityEvidenceHash journalRef : String)
  originalJournalIDs : List String
  (expectedStateNonce chainID : Nat)
  (gatewayAddress finalizerAddress attesterAddress : String)
  reversalDeadline : Time
  correlationID : String
  deriving DecidableEq

structure PrepareRequest extends Terms where
  paymentStatus : PaymentStatus
  (sourcePrecision targetPrecision : Nat)
  differenceUnits : String
  unmatchedItems : Nat
  expectedDebtUnits : String
  (finalizedAt preparedAt : Time)

structure Submission where
  chainID : Nat
  (gateway sender : String)
  senderNonce : Nat
  (transactionHash calldataHash : String)
  submittedAt : Time
  deriving DecidableEq

def Submission.zero : Submission := ⟨0, "", "", 0, "", "", 0⟩

structure SubmissionRequest extends Submission where
  (paymentID allocationID instructionDigest : String)
  expectedVersion : Nat

/-- A plan; the failure proof is there only for a verified reverted transaction. -/
structure Plan extends Terms where
  precision : Nat
  (principalUnits refundableExcessUnits debtBeforeUnits debtAfterUnits : String)
  (providerFinalizedAt reversalDeadlineUnix : Nat)
  instructionDigest : String
  instruction : SolidityInstruction
  state : State
  version : Nat
  preparedAt : Time
  submission : Submission
  failureReason : String
  failureProof : Option TransactionFailureEvidence
  replayed : Bool
  deriving DecidableEq

def bump (version : Nat) : Nat := (version + 1) % 2 ^ 64

/-- The fields by which a call names a plan and the version it expects. -/
structure PlanRef where
  (paymentID allocationID instructionDigest : String)
  expectedVersion : Nat
  deriving DecidableEq

structure ConfirmationRequest extends PlanRef where
  projection : VerifiedGatewayProjection

/-- The proof is missing where the caller passes the zero value. -/
structure FailureRequest extends PlanRef where
  proof : Option TransactionFailureEvidence

structure RetryRequest extends PlanRef where
  evidenceHash : String
  retriedAt : Time

/-- What a confirmation holds. -/
structure AccountingProjection where
  (paymentID allocationID loanID providerID providerReference sourceAssetID targetAssetID targetToken : String)
  denomination : String
  precision : Nat
  (sourceUnits targetUnits principalUnits refundableExcessUnits debtBeforeUnits debtAfterUnits : String)
  (reconciliationID providerIDHash providerReferenceHash reconciliationCommitment originalJournalSetHash : String)
  (finalityPolicyHash conversionPolicyHash policySetHash eligibilityEvidenceHash journalRef : String)
  (providerFinalizedAt reversalDeadlineUnix : Nat)
  originalJournalIDs : List String
  (correlationID instructionDigest : String)
  chainID : Nat
  (gateway loanAccount finalizer attester transactionHash eventID : String)
  (logIndex blockNumber : Nat)
  blockHash : String
  transactionIndex : Nat
  (receiptsRoot inclusionProofHash headerAuthorityHash receiptHeaderSignatureHash : String)
  headHeaderSignatureHash : String
  (confirmationDepth finalityHeadBlock : Nat)
  (finalityHeadHash finalityEvidenceHash : String)
  (stateNonceBefore stateNonceAfter : Nat)
  (lenderID borrowerID eventEvidenceHash gatewayPayloadHash : String)
  confirmedAt : Time
  incident : Bool
  deriving DecidableEq

/-- The evidence of a removed settlement as the coordinator keeps it: `eventID` and `transactionHash` are its
    `OrphanedEventID` and `OrphanedTxHash`. -/
structure ReorgEvidence extends SettlementReorg where
  reorgID : String
  deep : Bool
  submissionSubmittedAt : Time
  deriving DecidableEq

structure CallbackFields where
  quarantineID : String
  ingressID : Nat
  (paymentID providerID providerEventID providerReference assetID units rawHash signatureHash : String)
  callbackEvidenceHash : String
  (callbackExpiresAt occurredAt : Time)
  deriving DecidableEq

structure CanonicalReversalRecord extends CallbackFields where
  (resolutionID allocationID instructionDigest reversalEventID : String)
  failureProof : Option TransactionFailureEvidence
  (resolutionEvidence resolvedBy : String)
  receivedAt : Time

structure PendingReversalSnapshot extends CallbackFields where
  (allocationID instructionDigest : String)
  receivedAt : Time
  originState : State
  submissionChainID : Nat
  (submissionGateway submissionTxHash : String)
  submissionSubmittedAt : Time
  deriving DecidableEq

structure ConsumedPendingReversalSnapshot where
  pending : PendingReversalSnapshot
  (resolutionID resolutionEvidenceHash resolvedBy : String)
  resolvedAt : Time
  (gatewayEventID gatewayTransactionHash gatewayRawPayloadHash finalityEvidenceHash : String)
  deriving DecidableEq

structure PendingReversalResolution where
  pending : PendingReversalSnapshot
  (requestDigest resolutionID reversalEventID failureEvidenceHash : String)
  failureProof : Option TransactionFailureEvidence
  (resolutionEvidence resolvedBy : String)
  resolvedAt : Time
  deriving DecidableEq

structure StoredReversalResolution where
  resolution : PendingReversalResolution
  journalIDs : List String
  deriving DecidableEq

/-- The snapshot of one payment; the store keeps it as JSON, which reads back to the same value. -/
structure DurableSnapshot where
  plan : Plan
  confirmation : Option AccountingProjection
  reorgs : List ReorgEvidence
  claim : Claim
  tombstoned : Bool
  pendingReversal : Option PendingReversalSnapshot
  consumedPendingReversal : Option ConsumedPendingReversalSnapshot
  deriving DecidableEq

structure StoredCoordinator where
  (paymentID allocationID instructionDigest : String)
  allocationExpectedVersion : Nat
  state : State
  version : Nat
  snapshot : DurableSnapshot
  (tombstoned pendingReversal : Bool)
  deriving DecidableEq

structure StoredTombstone where
  (paymentID allocationID instructionDigest quarantineID reversalEventID evidenceHash : String)
  occurredAt : Time
  deriving DecidableEq

end Unified.Settlement
