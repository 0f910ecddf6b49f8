import Unified.Settlement.Coordinator

/-! Provider reversals: a reversal of an unclaimed or synthetic payment is committed at once and leaves a
    tombstone, one of a plan that is not confirmed quarantines the plan until it is resolved, and one of a
    confirmed plan makes an incident. -/

namespace Unified.Settlement

open Indexer (Time TransactionFailureEvidence)

def canonicalPaymentEventID (providerID providerEventID : String) : String := providerID ++ ":" ++ providerEventID

def ValidReversalRecord (r : CanonicalReversalRecord) : Prop :=
  r.quarantineID ≠ "" ∧ 0 < r.ingressID ∧ r.paymentID ≠ "" ∧ r.providerID ≠ "" ∧ r.providerEventID ≠ "" ∧
    r.reversalEventID = canonicalPaymentEventID r.providerID r.providerEventID ∧ r.assetID ≠ "" ∧ r.units ≠ "" ∧
    r.rawHash ≠ "" ∧ r.signatureHash ≠ "" ∧ r.callbackEvidenceHash ≠ "" ∧ ¬ r.callbackExpiresAt.IsZero ∧
    ¬ r.occurredAt.IsZero ∧ ¬ r.receivedAt.IsZero ∧ r.occurredAt ≤ r.receivedAt

instance (r : CanonicalReversalRecord) : Decidable (ValidReversalRecord r) := by
  unfold ValidReversalRecord; infer_instance

def ValidResolutionRecord (r : CanonicalReversalRecord) : Prop :=
  ValidReversalRecord r ∧ r.resolutionID ≠ "" ∧ r.allocationID ≠ "" ∧ r.instructionDigest ≠ "" ∧
    r.resolutionEvidence ≠ "" ∧ r.resolvedBy ≠ ""

instance (r : CanonicalReversalRecord) : Decidable (ValidResolutionRecord r) := by
  unfold ValidResolutionRecord; infer_instance

def SamePendingReversal (pending : PendingReversalSnapshot) (r : CanonicalReversalRecord) : Prop :=
  pending.toCallbackFields = r.toCallbackFields

instance (pending : PendingReversalSnapshot) (r : CanonicalReversalRecord) : Decidable (SamePendingReversal pending r) :=
  inferInstanceAs (Decidable (pending.toCallbackFields = r.toCallbackFields))

/-- `pendingSnapshot`: only a submitted plan leaves its submission in the quarantine. -/
def pendingSnapshot (r : CanonicalReversalRecord) (plan : Plan) (originState : State) : PendingReversalSnapshot :=
  { r.toCallbackFields with
    paymentID := plan.paymentID
    allocationID := plan.allocationID
    instructionDigest := plan.instructionDigest
    receivedAt := r.receivedAt
    originState := originState
    submissionChainID := if originState = .submitted then plan.submission.chainID else 0
    submissionGateway := if originState = .submitted then plan.submission.gateway else ""
    submissionTxHash := if originState = .submitted then plan.submission.transactionHash else ""
    submissionSubmittedAt := if originState = .submitted then plan.submission.submittedAt else 0 }

/-- The tombstone of a reversal that no plan stands against. -/
def unclaimedTombstone (r : CanonicalReversalRecord) : StoredTombstone where
  paymentID := r.paymentID
  allocationID := ""
  instructionDigest := ""
  quarantineID := ""
  reversalEventID := r.reversalEventID
  evidenceHash := r.callbackEvidenceHash
  occurredAt := r.receivedAt

namespace Coordinator

/-- The plan put in quarantine, with the store's record of the reversal. -/
def quarantine (c : Coordinator) (r : CanonicalReversalRecord) (claim : Claim) : Except Errors Coordinator := do
  let plan ← orRevert (c.plans.lookup r.paymentID) [.invalidTransition]
  require ((plan.state = .prepared ∨ plan.state = .submitted ∨ plan.state = .failed) ∧ ClaimMatchesPlan claim plan)
    [.invalidTransition]
  let next := plan.advanceFor .quarantined "PROVIDER_REVERSAL_PENDING"
  let pending := pendingSnapshot r next plan.state
  let record ← c.durableRecordWith next { claim with state := .quarantined } false (some pending)
  let store ← c.store.quarantinePendingReversal plan.state plan.version record pending
  pure { c.publish next c.modes store with pending := c.pending.insert r.paymentID pending }

def reversalIncident (c : Coordinator) (r : CanonicalReversalRecord) (claim : Claim) : Except Errors Coordinator := do
  let plan ← orRevert (c.plans.lookup r.paymentID) [.invalidTransition]
  require (plan.state = .confirmed ∧ ClaimMatchesPlan claim plan) [.invalidTransition]
  let next := plan.advanceFor .incident "PROVIDER_REVERSAL_AFTER_CONFIRMATION"
  let record ← c.durableRecordWith next { claim with state := .incident } false none
  let store ← c.store.compareAndSwap .confirmed plan.version record r.callbackEvidenceHash r.receivedAt
  pure (c.publish next c.modes store)

/-- What is written while the registry handles a reversal; `commit` posts the reversal's accounting. -/
def commitReversal (c : Coordinator) (r : CanonicalReversalRecord) (commit : Except Errors Unit) :
    Option Claim → ReversalDisposition → Except Errors Coordinator
  | _, .unclaimed | _, .synthetic => do
    commit
    let store ← c.store.createTombstone (unclaimedTombstone r)
    pure { c with store := store }
  | some claim, .quarantined => c.quarantine r claim
  | some claim, .incident => c.reversalIncident r claim
  | none, _ => .error [.invalidTransition]

/-- A reversal for a plan that is in quarantine already. -/
def quarantinedReplay (c : Coordinator) (r : CanonicalReversalRecord) (plan : Plan) : Except Errors Claim := do
  let pending ← orRevert (c.pending.lookup r.paymentID) [.planConflict]
  let claim ← orRevert (c.modes.lookup r.paymentID) [.planConflict]
  require (ClaimMatchesPlan claim plan ∧ SamePendingReversal pending r) [.planConflict]
  pure claim

def handleProviderReversal (c : Coordinator) (r : CanonicalReversalRecord) (commit : Except Errors Unit) :
    Except Errors (Coordinator × Option Claim × ReversalDisposition) := do
  require (ValidReversalRecord r) [.invalidTransition]
  match (c.plans.lookup r.paymentID).filter (·.state = .quarantined) with
  | some plan => do
    let claim ← c.quarantinedReplay r plan
    pure (c, some claim, .quarantined)
  | none => do
    let (modes, c', claim, disposition) ← joinError .invalidTransition <|
      c.modes.handleReversalWithCommit r.paymentID c (c.commitReversal r commit)
    pure ({ c' with modes := modes }, claim, disposition)

/-! ### Resolution -/

section

variable [Encoding]

def preSubmissionFailureEvidenceHash (plan : Plan) (pending : PendingReversalSnapshot) : String :=
  jsonDigest "UNIFIED_PHASE7C_PRE_SUBMISSION_REVERSAL_V1" (.object [("PaymentID", .text plan.paymentID),
    ("AllocationID", .text plan.allocationID), ("InstructionDigest", .text plan.instructionDigest),
    ("OriginState", .text pending.originState.text), ("QuarantineID", .text pending.quarantineID),
    ("ProviderID", .text pending.providerID), ("ProviderEventID", .text pending.providerEventID),
    ("RawHash", .text pending.rawHash), ("CallbackEvidenceHash", .text pending.callbackEvidenceHash),
    ("OccurredAt", .time pending.occurredAt), ("ReceivedAt", .time pending.receivedAt)])

/-- The proof is of the plan's current submission and was observed between submission and resolution. -/
def ProvesFailure (plan : Plan) (r : CanonicalReversalRecord) (failure : TransactionFailureEvidence) : Prop :=
  FailureComplete failure ∧ failure.evidenceHash ≠ "" ∧ failure.chainID = plan.submission.chainID ∧
    failure.gateway = plan.submission.gateway ∧ failure.transactionHash = plan.submission.transactionHash ∧
    failure.finalityPolicyHash = plan.finalityPolicyHash ∧ plan.submission.submittedAt ≤ failure.observedAt ∧
    failure.observedAt ≤ r.receivedAt

instance (plan : Plan) (r : CanonicalReversalRecord) (failure : TransactionFailureEvidence) :
    Decidable (ProvesFailure plan r failure) := by unfold ProvesFailure; infer_instance

/-- `validateReversalFailureProof`: only a quarantine of a submitted plan needs a proof. -/
def validateReversalFailureProof (plan : Plan) (pending : PendingReversalSnapshot) (r : CanonicalReversalRecord) :
    Except Errors String :=
  match pending.originState with
  | .submitted => do
    let failure ← orRevert r.failureProof [.invalidTransition]
    require (ProvesFailure plan r failure) [.invalidTransition]
    pure failure.evidenceHash
  | .prepared | .failed => do
    require (r.failureProof = none) [.invalidTransition]
    pure (preSubmissionFailureEvidenceHash plan pending)
  | _ => .error [.invalidTransition]

def ResolvedReversalMatchesRecord (stored : StoredReversalResolution) (r : CanonicalReversalRecord) : Prop :=
  let resolution := stored.resolution
  SamePendingReversal resolution.pending r ∧ resolution.pending.allocationID = r.allocationID ∧
    resolution.pending.instructionDigest = r.instructionDigest ∧ resolution.resolutionID = r.resolutionID ∧
    resolution.reversalEventID = r.reversalEventID ∧ resolution.failureProof = r.failureProof ∧
    resolution.resolutionEvidence = r.resolutionEvidence ∧ resolution.resolvedBy = r.resolvedBy ∧
    resolution.resolvedAt = r.receivedAt ∧
    resolution.requestDigest = reversalResolutionRequestDigest resolution.pending r.resolutionID
      resolution.failureEvidenceHash r.failureProof r.resolutionEvidence r.resolvedBy r.receivedAt

instance (stored : StoredReversalResolution) (r : CanonicalReversalRecord) :
    Decidable (ResolvedReversalMatchesRecord stored r) := by unfold ResolvedReversalMatchesRecord; infer_instance

def resolutionOf (pending : PendingReversalSnapshot) (r : CanonicalReversalRecord) (failureEvidenceHash : String) :
    PendingReversalResolution where
  pending := pending
  requestDigest := reversalResolutionRequestDigest pending r.resolutionID failureEvidenceHash r.failureProof
    r.resolutionEvidence r.resolvedBy r.receivedAt
  resolutionID := r.resolutionID
  reversalEventID := r.reversalEventID
  failureEvidenceHash := failureEvidenceHash
  failureProof := r.failureProof
  resolutionEvidence := r.resolutionEvidence
  resolvedBy := r.resolvedBy
  resolvedAt := r.receivedAt

/-- What a resolution answers: the journals of the reversal and the evidence that it was due. -/
structure CanonicalReversalResolution where
  journalIDs : List String
  failureEvidenceHash : String

def resolveProviderReversal (c : Coordinator) (r : CanonicalReversalRecord)
    (localFallback : Except Errors (List String)) : Except Errors (Coordinator × CanonicalReversalResolution) := do
  require (ValidResolutionRecord r) [.invalidTransition]
  match c.resolutions.lookup r.quarantineID with
  | some stored => do
    require (ResolvedReversalMatchesRecord stored r) [.invalidTransition]
    pure (c, ⟨stored.journalIDs, stored.resolution.failureEvidenceHash⟩)
  | none => do
    let plan ← orRevert (c.plans.lookup r.paymentID) [.invalidTransition]
    let pending ← orRevert (c.pending.lookup r.paymentID) [.invalidTransition]
    require (plan.state = .quarantined ∧ plan.allocationID = r.allocationID ∧
      plan.instructionDigest = r.instructionDigest ∧ SamePendingReversal pending r ∧
      pending.receivedAt ≤ r.receivedAt) [.invalidTransition]
    let claim ← orRevert (c.modes.lookup r.paymentID) [.invalidTransition]
    require (claim.state = .quarantined ∧ ClaimMatchesPlan claim plan) [.invalidTransition]
    let failureEvidenceHash ← validateReversalFailureProof plan pending r
    let next := plan.advanceFor .failed "PROVIDER_REVERSAL_RESOLVED"
    let record ← c.durableRecordWith next { claim with state := .failed } true none
    let resolution := resolutionOf pending r failureEvidenceHash
    let (modes, store, journalIDs) ← joinError .invalidTransition <|
      c.modes.resolveQuarantinedReversal claim <|
        c.store.resolvePendingReversal .quarantined plan.version record resolution localFallback
    pure ({ c.publish next modes store with
      pending := c.pending.erase r.paymentID
      resolutions := c.resolutions.insert r.quarantineID ⟨resolution, journalIDs⟩ }, ⟨journalIDs, failureEvidenceHash⟩)

end

end Coordinator

end Unified.Settlement
