import Unified.Settlement.Registry

/-! The coordinator's store: one record per payment that a writer replaces only when it names the current
    state and version, the tombstones of reversed payments, and the reversals that are pending or resolved. -/

namespace Unified.Settlement

open Indexer (Time TransactionFailureEvidence)

def UniqueNonempty (values : List String) : Prop := (∀ value ∈ values, value ≠ "") ∧ values.Nodup

instance (values : List String) : Decidable (UniqueNonempty values) := by unfold UniqueNonempty; infer_instance

/-! ### Validity of what is stored -/

/-- `validStoredCoordinator`; the snapshot is never empty. -/
def ValidStoredCoordinator (record : StoredCoordinator) : Prop :=
  record.paymentID ≠ "" ∧ record.allocationID ≠ "" ∧ record.instructionDigest ≠ "" ∧
    0 < record.allocationExpectedVersion ∧ 0 < record.version

instance (record : StoredCoordinator) : Decidable (ValidStoredCoordinator record) := by
  unfold ValidStoredCoordinator; infer_instance

def ValidStoredTombstone (record : StoredTombstone) : Prop :=
  record.paymentID ≠ "" ∧ (record.allocationID = "" ↔ record.instructionDigest = "") ∧ record.reversalEventID ≠ "" ∧
    record.evidenceHash ≠ "" ∧ ¬ record.occurredAt.IsZero

instance (record : StoredTombstone) : Decidable (ValidStoredTombstone record) := by
  unfold ValidStoredTombstone; infer_instance

/-- The submission that a quarantine remembers is there exactly when the plan was submitted. -/
def SubmissionRemembered (pending : PendingReversalSnapshot) : Prop :=
  pending.originState = .submitted ∧ pending.submissionChainID ≠ 0 ∧ pending.submissionGateway ≠ "" ∧
      pending.submissionTxHash ≠ "" ∧ ¬ pending.submissionSubmittedAt.IsZero ∨
    (pending.originState = .prepared ∨ pending.originState = .failed) ∧ pending.submissionChainID = 0 ∧
      pending.submissionGateway = "" ∧ pending.submissionTxHash = "" ∧ pending.submissionSubmittedAt.IsZero

instance (pending : PendingReversalSnapshot) : Decidable (SubmissionRemembered pending) := by
  unfold SubmissionRemembered; infer_instance

def ValidPendingSnapshot (pending : PendingReversalSnapshot) : Prop :=
  SubmissionRemembered pending ∧ pending.quarantineID ≠ "" ∧ 0 < pending.ingressID ∧ pending.providerID ≠ "" ∧
    pending.providerEventID ≠ "" ∧ pending.providerReference ≠ "" ∧ pending.assetID ≠ "" ∧ pending.units ≠ "" ∧
    pending.rawHash ≠ "" ∧ pending.signatureHash ≠ "" ∧ pending.paymentID ≠ "" ∧ pending.allocationID ≠ "" ∧
    pending.instructionDigest ≠ "" ∧ pending.callbackEvidenceHash ≠ "" ∧ ¬ pending.callbackExpiresAt.IsZero ∧
    ¬ pending.occurredAt.IsZero ∧ ¬ pending.receivedAt.IsZero ∧ pending.occurredAt ≤ pending.receivedAt ∧
    pending.receivedAt ≤ pending.callbackExpiresAt

instance (pending : PendingReversalSnapshot) : Decidable (ValidPendingSnapshot pending) := by
  unfold ValidPendingSnapshot; infer_instance

/-- The fields of a failure proof are there, and its block is below the head by the confirmation depth. -/
def FailureComplete (failure : TransactionFailureEvidence) : Prop :=
  failure.status = .reverted ∧ failure.receiptPayloadHash ≠ "" ∧ failure.headerAuthorityHash ≠ "" ∧
    failure.receiptHeaderSignatureHash ≠ "" ∧ failure.headHeaderSignatureHash ≠ "" ∧ failure.blockNumber ≠ 0 ∧
    failure.blockHash ≠ "" ∧ failure.receiptsRoot ≠ "" ∧ failure.inclusionProofHash ≠ "" ∧
    failure.confirmationDepth ≠ 0 ∧ failure.blockNumber ≤ failure.headBlockNumber ∧
    failure.confirmationDepth ≤ failure.headBlockNumber - failure.blockNumber ∧ failure.headBlockHash ≠ "" ∧
    ¬ failure.observedAt.IsZero

instance (failure : TransactionFailureEvidence) : Decidable (FailureComplete failure) := by
  unfold FailureComplete; infer_instance

section

variable [Encoding]

def callbackJson (c : CallbackFields) : List (String × JsonValue) :=
  [("QuarantineID", .text c.quarantineID), ("IngressID", .number c.ingressID), ("ProviderID", .text c.providerID),
    ("ProviderEventID", .text c.providerEventID), ("ProviderReference", .text c.providerReference),
    ("AssetID", .text c.assetID), ("Units", .text c.units), ("RawHash", .text c.rawHash),
    ("SignatureHash", .text c.signatureHash), ("PaymentID", .text c.paymentID)]

def State.text : State → String
  | .prepared => "PREPARED"
  | .submitted => "SUBMITTED"
  | .confirmed => "CONFIRMED"
  | .failed => "FAILED"
  | .quarantined => "QUARANTINED"
  | .incident => "INCIDENT"

def pendingJson (p : PendingReversalSnapshot) : JsonValue :=
  .object (callbackJson p.toCallbackFields ++
    [("AllocationID", .text p.allocationID), ("InstructionDigest", .text p.instructionDigest),
      ("CallbackEvidenceHash", .text p.callbackEvidenceHash), ("CallbackExpiresAt", .time p.callbackExpiresAt),
      ("OccurredAt", .time p.occurredAt), ("ReceivedAt", .time p.receivedAt), ("OriginState", .text p.originState.text),
      ("SubmissionChainID", .number p.submissionChainID), ("SubmissionGateway", .text p.submissionGateway),
      ("SubmissionTxHash", .text p.submissionTxHash), ("SubmissionSubmittedAt", .time p.submissionSubmittedAt)])

/-- A missing proof is encoded as the zero struct. -/
def failureJson (proof : Option TransactionFailureEvidence) : JsonValue :=
  let text (f : TransactionFailureEvidence → String) := JsonValue.text ((proof.map f).getD "")
  let number (f : TransactionFailureEvidence → Nat) := JsonValue.number ((proof.map f).getD 0)
  .object [("ChainID", number (·.chainID)), ("Gateway", text (·.gateway)), ("TransactionHash", text (·.transactionHash)),
    ("ReceiptPayloadHash", text (·.receiptPayloadHash)), ("Status", text (·.status.text)),
    ("TransactionIndex", number (·.transactionIndex)), ("BlockNumber", number (·.blockNumber)),
    ("BlockHash", text (·.blockHash)), ("ReceiptsRoot", text (·.receiptsRoot)),
    ("InclusionProofHash", text (·.inclusionProofHash)), ("FinalityPolicyHash", text (·.finalityPolicyHash)),
    ("HeaderAuthorityHash", text (·.headerAuthorityHash)),
    ("ReceiptHeaderSignatureHash", text (·.receiptHeaderSignatureHash)),
    ("HeadHeaderSignatureHash", text (·.headHeaderSignatureHash)), ("ConfirmationDepth", number (·.confirmationDepth)),
    ("HeadBlockNumber", number (·.headBlockNumber)), ("HeadBlockHash", text (·.headBlockHash)),
    ("EvidenceHash", text (·.evidenceHash)), ("ObservedAt", .time ((proof.map (·.observedAt)).getD 0))]

def reversalResolutionRequestDigest (pending : PendingReversalSnapshot) (resolutionID failureEvidenceHash : String)
    (failureProof : Option TransactionFailureEvidence) (resolutionEvidence resolvedBy : String) (resolvedAt : Time) :
    String :=
  jsonDigest "UNIFIED_PHASE7C_REVERSAL_RESOLUTION_V1" (.object [("Pending", pendingJson pending),
    ("ResolutionID", .text resolutionID), ("FailureEvidenceHash", .text failureEvidenceHash),
    ("FailureProof", failureJson failureProof), ("ResolutionEvidence", .text resolutionEvidence),
    ("ResolvedBy", .text resolvedBy), ("ResolvedAt", .time resolvedAt)])

/-- The proof that a resolution needs: one of the submitted transaction, or none if there was no submission. -/
def ResolutionProven (resolution : PendingReversalResolution) : Prop :=
  match resolution.pending.originState with
  | .submitted => ∃ failure ∈ resolution.failureProof, FailureComplete failure ∧
      failure.evidenceHash = resolution.failureEvidenceHash ∧ failure.chainID = resolution.pending.submissionChainID ∧
      failure.gateway = resolution.pending.submissionGateway ∧
      failure.transactionHash = resolution.pending.submissionTxHash ∧ failure.finalityPolicyHash ≠ "" ∧
      resolution.pending.submissionSubmittedAt ≤ failure.observedAt ∧ failure.observedAt ≤ resolution.resolvedAt
  | .prepared | .failed => resolution.failureProof = none
  | _ => False

instance (resolution : PendingReversalResolution) : Decidable (ResolutionProven resolution) := by
  unfold ResolutionProven; split <;> infer_instance

def ValidPendingResolution (resolution : PendingReversalResolution) : Prop :=
  ValidPendingSnapshot resolution.pending ∧ resolution.requestDigest ≠ "" ∧ resolution.resolutionID ≠ "" ∧
    resolution.reversalEventID ≠ "" ∧
    resolution.reversalEventID = resolution.pending.providerID ++ ":" ++ resolution.pending.providerEventID ∧
    resolution.failureEvidenceHash ≠ "" ∧ resolution.resolutionEvidence ≠ "" ∧ resolution.resolvedBy ≠ "" ∧
    ¬ resolution.resolvedAt.IsZero ∧
    resolution.requestDigest = reversalResolutionRequestDigest resolution.pending resolution.resolutionID
      resolution.failureEvidenceHash resolution.failureProof resolution.resolutionEvidence resolution.resolvedBy
      resolution.resolvedAt ∧ ResolutionProven resolution

instance (resolution : PendingReversalResolution) : Decidable (ValidPendingResolution resolution) := by
  unfold ValidPendingResolution; infer_instance

def ValidStoredReversalResolution (record : StoredReversalResolution) : Prop :=
  ValidPendingResolution record.resolution ∧ 0 < record.journalIDs.length ∧ record.journalIDs.length ≤ 2 ∧
    UniqueNonempty record.journalIDs

end

/-! ### The store in memory -/

structure MemoryStore where
  records : Table String StoredCoordinator
  tombstones : Table String StoredTombstone
  quarantines : Table String PendingReversalSnapshot
  resolutions : Table String StoredReversalResolution

namespace MemoryStore

def empty : MemoryStore := ⟨∅, ∅, ∅, ∅⟩

/-- The record that a writer replaces is the one it has read. -/
def Current (s : MemoryStore) (expectedState : State) (expectedVersion : Nat) (next : StoredCoordinator)
    (extra : StoredCoordinator → Prop) : Prop :=
  ∃ current ∈ s.records.lookup next.paymentID, current.state = expectedState ∧ current.version = expectedVersion ∧
    current.allocationID = next.allocationID ∧ current.instructionDigest = next.instructionDigest ∧
    current.allocationExpectedVersion = next.allocationExpectedVersion ∧ extra current

instance (s : MemoryStore) (expectedState : State) (expectedVersion : Nat) (next : StoredCoordinator)
    (extra : StoredCoordinator → Prop) [DecidablePred extra] :
    Decidable (s.Current expectedState expectedVersion next extra) := by unfold Current; infer_instance

def create (s : MemoryStore) (record : StoredCoordinator) (evidenceHash : String) (occurredAt : Time) :
    Except Errors MemoryStore := do
  require (ValidStoredCoordinator record ∧ evidenceHash ≠ "" ∧ ¬ occurredAt.IsZero) [.invalidStore]
  match s.records.lookup record.paymentID with
  | some existing => do
    require (existing = record) [.storeConflict]
    pure s
  | none => pure { s with records := s.records.insert record.paymentID record }

theorem create_eq_ok {s s' : MemoryStore} {record : StoredCoordinator} {evidenceHash : String} {occurredAt : Time}
    (free : s.records.lookup record.paymentID = none) (h : s.create record evidenceHash occurredAt = .ok s') :
    s' = { s with records := s.records.insert record.paymentID record } := by
  simp only [create, block_eq_ok, free] at h
  exact h.2.symm

def compareAndSwap (s : MemoryStore) (expectedState : State) (expectedVersion : Nat) (next : StoredCoordinator)
    (evidenceHash : String) (occurredAt : Time) : Except Errors MemoryStore := do
  require (ValidStoredCoordinator next ∧ expectedVersion ≠ 0 ∧ next.version = bump expectedVersion ∧
    evidenceHash ≠ "" ∧ ¬ occurredAt.IsZero) [.invalidStore]
  require (s.Current expectedState expectedVersion next fun _ => True) [.storeConflict]
  pure { s with records := s.records.insert next.paymentID next }

def createTombstone (s : MemoryStore) (record : StoredTombstone) : Except Errors MemoryStore := do
  require (ValidStoredTombstone record) [.invalidStore]
  match s.tombstones.lookup record.paymentID with
  | some existing => do
    require (existing = record) [.storeConflict]
    pure s
  | none => pure { s with tombstones := s.tombstones.insert record.paymentID record }

def quarantinePendingReversal (s : MemoryStore) (expectedState : State) (expectedVersion : Nat)
    (next : StoredCoordinator) (pending : PendingReversalSnapshot) : Except Errors MemoryStore := do
  require (ValidStoredCoordinator next ∧ ValidPendingSnapshot pending ∧ pending.paymentID = next.paymentID ∧
    pending.allocationID = next.allocationID ∧ pending.instructionDigest = next.instructionDigest ∧
    pending.originState = expectedState ∧ next.state = .quarantined ∧ next.tombstoned = false ∧
    next.pendingReversal = true ∧ next.version = bump expectedVersion) [.invalidStore]
  require (s.Current expectedState expectedVersion next fun current =>
    current.tombstoned = false ∧ current.pendingReversal = false) [.storeConflict]
  require (∀ existing ∈ s.quarantines.lookup pending.quarantineID, existing = pending) [.storeConflict]
  pure { s with
    records := s.records.insert next.paymentID next
    quarantines := s.quarantines.insert pending.quarantineID pending }

def tombstoneOf (next : StoredCoordinator) (resolution : PendingReversalResolution) : StoredTombstone where
  paymentID := next.paymentID
  allocationID := next.allocationID
  instructionDigest := next.instructionDigest
  quarantineID := resolution.pending.quarantineID
  reversalEventID := resolution.reversalEventID
  evidenceHash := resolution.resolutionEvidence
  occurredAt := resolution.resolvedAt

/-- `ResolvePendingReversal`; `localFallback` posts the accounting of the reversal and gives its journals. -/
def resolvePendingReversal [Encoding] (s : MemoryStore) (expectedState : State) (expectedVersion : Nat)
    (next : StoredCoordinator) (resolution : PendingReversalResolution) (localFallback : Except Errors (List String)) :
    Except Errors (MemoryStore × List String) := do
  require (expectedState = .quarantined ∧ ValidStoredCoordinator next ∧ next.state = .failed ∧
    next.version = bump expectedVersion ∧ next.tombstoned = true ∧ next.pendingReversal = false ∧
    ValidPendingResolution resolution) [.invalidStore]
  match s.resolutions.lookup resolution.pending.quarantineID with
  | some stored => do
    require (s.records.lookup next.paymentID = some next ∧ stored.resolution = resolution) [.storeConflict]
    pure (s, stored.journalIDs)
  | none => do
    require (s.Current expectedState expectedVersion next fun current =>
      current.pendingReversal = true ∧ current.tombstoned = false) [.storeConflict]
    require (s.quarantines.lookup resolution.pending.quarantineID = some resolution.pending) [.storeConflict]
    let tombstone := tombstoneOf next resolution
    require (∀ existing ∈ s.tombstones.lookup next.paymentID, existing = tombstone) [.storeConflict]
    let journalIDs ← localFallback
    require (0 < journalIDs.length ∧ journalIDs.length ≤ 2 ∧ UniqueNonempty journalIDs) [.invalidStore]
    pure ({ s with
      records := s.records.insert next.paymentID next
      tombstones := s.tombstones.insert next.paymentID tombstone
      resolutions := s.resolutions.insert resolution.pending.quarantineID ⟨resolution, journalIDs⟩
      quarantines := s.quarantines.erase resolution.pending.quarantineID }, journalIDs)

end MemoryStore

end Unified.Settlement
