import Unified.Settlement.Digest
import Unified.Settlement.Store

/-! The settlement coordinator: preparing a plan, submitting it, confirming it with a finalized projection,
    failing and retrying it, and recording a reorganisation. Every transition is written to the store while
    the registry's latch is held; a transition that is rejected undoes what it had set in memory. -/

namespace Unified.Settlement

open Indexer

/-! ### Requests -/

def nanosecond (t : Time) : Int := t % 1000000000

def positive (value : String) : Option Nat := (canonicalDecimal value).filter (0 < ·)

def nonNegative (value : String) : Option Nat := canonicalDecimal value

def validAddress (value : String) : Bool :=
  match decodeHexText value 20 with
  | some bytes => bytes.any (· ≠ 0)
  | none => false

def ValidPrepare (r : PrepareRequest) : Prop :=
  r.paymentID ≠ "" ∧ r.allocationID ≠ "" ∧ r.loanID ≠ "" ∧ r.providerID ≠ "" ∧ r.providerReference ≠ "" ∧
    r.paymentStatus = .final ∧ 0 < r.paymentVersion ∧ r.sourceAssetID ≠ "" ∧ r.targetAssetID ≠ "" ∧
    r.sourceAssetID ≠ r.targetAssetID ∧ validAddress r.targetToken ∧ r.denomination ≠ "" ∧ 0 < r.sourcePrecision ∧
    r.sourcePrecision = r.targetPrecision ∧ (∃ source ∈ positive r.sourceUnits, source ∈ positive r.targetUnits) ∧
    (positive r.expectedDebtUnits).isSome ∧ r.reconciliationID ≠ "" ∧ 0 ∈ nonNegative r.differenceUnits ∧
    r.unmatchedItems = 0 ∧ r.finalityPolicyHash ≠ "" ∧ r.conversionPolicyHash ≠ "" ∧ r.policySetHash ≠ "" ∧
    r.eligibilityEvidenceHash ≠ "" ∧ r.originalJournalIDs.length = 2 ∧ UniqueNonempty r.originalJournalIDs ∧
    0 < r.expectedStateNonce ∧ 0 < r.chainID ∧ validAddress r.gatewayAddress ∧ validAddress r.finalizerAddress ∧
    validAddress r.attesterAddress ∧ nanosecond r.finalizedAt = 0 ∧ nanosecond r.reversalDeadline = 0 ∧
    ¬ r.finalizedAt.IsZero ∧ r.finalizedAt < r.reversalDeadline ∧ r.reversalDeadline ≤ r.preparedAt ∧
    r.correlationID ≠ ""

instance (r : PrepareRequest) : Decidable (ValidPrepare r) := by unfold ValidPrepare; infer_instance

def ValidSubmission (r : SubmissionRequest) : Prop :=
  r.paymentID ≠ "" ∧ r.allocationID ≠ "" ∧ r.instructionDigest ≠ "" ∧ 0 < r.expectedVersion ∧ 0 < r.chainID ∧
    r.gateway ≠ "" ∧ r.sender ≠ "" ∧ r.transactionHash ≠ "" ∧ r.calldataHash ≠ "" ∧ ¬ r.submittedAt.IsZero

instance (r : SubmissionRequest) : Decidable (ValidSubmission r) := by unfold ValidSubmission; infer_instance

def PlanRef.Present (r : PlanRef) : Prop :=
  r.paymentID ≠ "" ∧ r.allocationID ≠ "" ∧ r.instructionDigest ≠ "" ∧ r.expectedVersion ≠ 0

instance (r : PlanRef) : Decidable r.Present := by unfold PlanRef.Present; infer_instance

def calculateAllocationID [Encoding] (r : PrepareRequest) : String :=
  "0x" ++ jsonDigest "UNIFIED_PHASE7C_ALLOCATION_V1" (.object [("PaymentID", .text r.paymentID),
    ("LoanID", .text r.loanID), ("SourceAssetID", .text r.sourceAssetID), ("TargetAssetID", .text r.targetAssetID),
    ("TargetUnits", .text r.targetUnits), ("ExpectedDebt", .text r.expectedDebtUnits),
    ("ExpectedNonce", .number r.expectedStateNonce), ("PaymentVersion", .number r.paymentVersion),
    ("PolicySetHash", .text r.policySetHash), ("EligibilityHash", .text r.eligibilityEvidenceHash)])

def instructionOf (r : PrepareRequest) : SolidityInstruction where
  paymentID := r.paymentID
  allocationID := r.allocationID
  loanID := r.loanID
  sourceAssetID := r.sourceAssetID
  targetAssetID := r.targetAssetID
  sourceUnits := r.sourceUnits
  targetUnits := r.targetUnits
  providerIDHash := r.providerIDHash
  providerReferenceHash := r.providerReferenceHash
  reconciliationID := r.reconciliationID
  reconciliationCommitment := r.reconciliationCommitment
  originalJournalSetHash := r.originalJournalSetHash
  conversionPolicyHash := r.conversionPolicyHash
  finalityPolicyHash := r.finalityPolicyHash
  evidenceHash := r.eligibilityEvidenceHash
  journalRef := r.journalRef
  finalizedAt := r.finalizedAt.unix.toNat
  reversalDeadline := r.reversalDeadline.unix.toNat
  expectedDebt := r.expectedDebtUnits
  expectedStateNonce := r.expectedStateNonce
  attester := r.attesterAddress

def calculateInstructionDigest [Crypto] (r : PrepareRequest) : Option String := do
  guard (0 ≤ r.finalizedAt.unix ∧ 0 ≤ r.reversalDeadline.unix)
  solidityInstructionDigest ⟨r.chainID, r.gatewayAddress, r.finalizerAddress, r.policySetHash, instructionOf r⟩

/-- The plan of an accepted request: the payment covers the debt as far as it reaches, and the rest is excess. -/
def planOf (r : PrepareRequest) (instructionDigest : String) : Plan :=
  let gross := (positive r.targetUnits).getD 0
  let debt := (positive r.expectedDebtUnits).getD 0
  let principal := min gross debt
  { r.toTerms with
    precision := r.targetPrecision
    principalUnits := Nat.repr principal
    refundableExcessUnits := Nat.repr (gross - principal)
    debtBeforeUnits := Nat.repr debt
    debtAfterUnits := Nat.repr (debt - principal)
    providerFinalizedAt := r.finalizedAt.unix.toNat
    reversalDeadlineUnix := r.reversalDeadline.unix.toNat
    instructionDigest := instructionDigest
    instruction := instructionOf r
    state := .prepared
    version := 1
    preparedAt := r.preparedAt
    submission := .zero
    failureReason := ""
    failureProof := none
    replayed := false }

/-- The plan in its next state, one version on. -/
def Plan.advance (plan : Plan) (state : State) : Plan := { plan with state := state, version := bump plan.version }

def Plan.advanceFor (plan : Plan) (state : State) (reason : String) : Plan :=
  { plan.advance state with failureReason := reason }

/-! ### Plans, claims and events -/

def ClaimMatchesPlan (claim : Claim) (plan : Plan) : Prop :=
  claim.mode = .canonicalGateway ∧ claim.paymentID = plan.paymentID ∧ claim.allocationID = plan.allocationID ∧
    claim.digest = plan.instructionDigest

instance (claim : Claim) (plan : Plan) : Decidable (ClaimMatchesPlan claim plan) := by
  unfold ClaimMatchesPlan; infer_instance

def SubmittedPendingMatchesPlan (pending : PendingReversalSnapshot) (plan : Plan) : Prop :=
  pending.originState = .submitted ∧ pending.paymentID = plan.paymentID ∧ pending.allocationID = plan.allocationID ∧
    pending.instructionDigest = plan.instructionDigest ∧ pending.submissionChainID = plan.submission.chainID ∧
    pending.submissionGateway = plan.submission.gateway ∧ pending.submissionTxHash = plan.submission.transactionHash ∧
    pending.submissionSubmittedAt = plan.submission.submittedAt

instance (pending : PendingReversalSnapshot) (plan : Plan) : Decidable (SubmittedPendingMatchesPlan pending plan) := by
  unfold SubmittedPendingMatchesPlan; infer_instance

/-- The proof of a projection is final and late enough for the plan. -/
def ValidProof (plan : Plan) (event : CanonicalSettlement) (proof : FinalityProof) : Prop :=
  proof.finality = .final ∧ 0 < proof.confirmationDepth ∧ event.updatedInBlock ≤ proof.headBlockNumber ∧
    proof.confirmationDepth ≤ proof.headBlockNumber - event.updatedInBlock ∧ proof.headBlockHash ≠ "" ∧
    proof.evidenceHash ≠ "" ∧ proof.finalityPolicyHash = plan.finalityPolicyHash ∧ proof.headerAuthorityHash ≠ "" ∧
    proof.headHeaderSignatureHash ≠ "" ∧ ¬ proof.observedAt.IsZero ∧ ¬ plan.submission.submittedAt.IsZero ∧
    plan.submission.submittedAt ≤ proof.observedAt

/-- The event is the plan's own: same submission, same instruction, same units. -/
def MatchesPlan (plan : Plan) (event : CanonicalSettlement) : Prop :=
  event.transactionHash = plan.submission.transactionHash ∧ event.chainID = plan.submission.chainID ∧
    event.gateway = plan.submission.gateway ∧ event.loanID = plan.loanID ∧ event.paymentID = plan.paymentID ∧
    event.allocationID = plan.allocationID ∧ event.instructionDigest = plan.instructionDigest ∧
    event.policySetHash = plan.policySetHash ∧ event.finalizer = plan.finalizerAddress ∧
    event.attester = plan.attesterAddress ∧ event.sourceAssetID = plan.sourceAssetID ∧
    event.targetAssetID = plan.targetAssetID ∧ event.targetToken = plan.targetToken ∧
    event.sourceUnits = plan.sourceUnits ∧ event.grossUnits = plan.targetUnits ∧
    event.providerIDHash = plan.instruction.providerIDHash ∧
    event.providerReferenceHash = plan.instruction.providerReferenceHash ∧
    event.reconciliationID = plan.instruction.reconciliationID ∧
    event.reconciliationCommitment = plan.instruction.reconciliationCommitment ∧
    event.originalJournalSetHash = plan.instruction.originalJournalSetHash ∧
    event.conversionPolicyHash = plan.instruction.conversionPolicyHash ∧
    event.finalityPolicyHash = plan.instruction.finalityPolicyHash ∧
    event.evidenceHash = plan.instruction.evidenceHash ∧ event.journalRef = plan.instruction.journalRef ∧
    event.providerFinalizedAt = plan.instruction.finalizedAt ∧
    event.reversalDeadline = plan.instruction.reversalDeadline ∧ event.principalUnits = plan.principalUnits ∧
    event.refundableExcessUnits = plan.refundableExcessUnits ∧ event.debtBeforeUnits = plan.debtBeforeUnits ∧
    event.debtAfterUnits = plan.debtAfterUnits ∧ event.stateNonceBefore = plan.expectedStateNonce

/-- The event carries every field, and its units add up. -/
def CompleteEvent (event : CanonicalSettlement) : Prop :=
  event.eventID ≠ "" ∧ event.receiptsRoot ≠ "" ∧ event.inclusionProofHash ≠ "" ∧
    event.receiptHeaderSignatureHash ≠ "" ∧ 0 < event.updatedInBlock ∧ event.blockHash ≠ "" ∧
    event.stateNonceBefore < event.stateNonceAfter ∧ event.lenderID ≠ "" ∧ event.borrowerID ≠ "" ∧
    event.evidenceHash ≠ "" ∧ event.rawEvidenceHash ≠ "" ∧
    ∃ source ∈ positive event.sourceUnits, ∃ gross ∈ positive event.grossUnits,
      ∃ principal ∈ positive event.principalUnits, ∃ excess ∈ nonNegative event.refundableExcessUnits,
        ∃ debtBefore ∈ positive event.debtBeforeUnits, ∃ debtAfter ∈ nonNegative event.debtAfterUnits,
          source = gross ∧ principal + excess = gross ∧ principal + debtAfter = debtBefore

def ValidEvent (plan : Plan) (event : CanonicalSettlement) (proof : FinalityProof) : Prop :=
  ValidProof plan event proof ∧ (plan.state = .submitted ∨ plan.state = .quarantined) ∧ MatchesPlan plan event ∧
    CompleteEvent event

instance (plan : Plan) (event : CanonicalSettlement) (proof : FinalityProof) : Decidable (ValidProof plan event proof) := by
  unfold ValidProof; infer_instance

instance (plan : Plan) (event : CanonicalSettlement) : Decidable (MatchesPlan plan event) := by
  unfold MatchesPlan; infer_instance

instance (event : CanonicalSettlement) : Decidable (CompleteEvent event) := by unfold CompleteEvent; infer_instance

instance (plan : Plan) (event : CanonicalSettlement) (proof : FinalityProof) : Decidable (ValidEvent plan event proof) := by
  unfold ValidEvent; infer_instance

def SameGatewayEvent (p : AccountingProjection) (event : CanonicalSettlement) : Prop :=
  p.eventID = event.eventID ∧ p.transactionHash = event.transactionHash ∧ p.blockHash = event.blockHash ∧
    p.transactionIndex = event.transactionIndex ∧ p.receiptsRoot = event.receiptsRoot ∧
    p.inclusionProofHash = event.inclusionProofHash ∧ p.receiptHeaderSignatureHash = event.receiptHeaderSignatureHash ∧
    p.logIndex = event.logIndex ∧ p.eventEvidenceHash = event.evidenceHash ∧
    p.gatewayPayloadHash = event.rawEvidenceHash ∧ p.instructionDigest = event.instructionDigest ∧
    p.chainID = event.chainID ∧ p.gateway = event.gateway ∧ p.loanID = event.loanID ∧
    p.loanAccount = event.loanAccount ∧ p.paymentID = event.paymentID ∧ p.allocationID = event.allocationID ∧
    p.targetAssetID = event.targetAssetID ∧ p.targetToken = event.targetToken ∧ p.targetUnits = event.grossUnits ∧
    p.principalUnits = event.principalUnits ∧ p.refundableExcessUnits = event.refundableExcessUnits ∧
    p.debtBeforeUnits = event.debtBeforeUnits ∧ p.debtAfterUnits = event.debtAfterUnits ∧
    p.stateNonceBefore = event.stateNonceBefore ∧ p.stateNonceAfter = event.stateNonceAfter ∧
    p.finalizer = event.finalizer ∧ p.attester = event.attester ∧ p.lenderID = event.lenderID ∧
    p.borrowerID = event.borrowerID

instance (p : AccountingProjection) (event : CanonicalSettlement) : Decidable (SameGatewayEvent p event) := by
  unfold SameGatewayEvent; infer_instance

def confirmationOf (plan : Plan) (event : CanonicalSettlement) (proof : FinalityProof) (incident : Bool) :
    AccountingProjection where
  paymentID := plan.paymentID
  allocationID := plan.allocationID
  loanID := plan.loanID
  providerID := plan.providerID
  providerReference := plan.providerReference
  sourceAssetID := plan.sourceAssetID
  targetAssetID := plan.targetAssetID
  targetToken := plan.targetToken
  denomination := plan.denomination
  precision := plan.precision
  sourceUnits := plan.sourceUnits
  targetUnits := plan.targetUnits
  principalUnits := plan.principalUnits
  refundableExcessUnits := plan.refundableExcessUnits
  debtBeforeUnits := plan.debtBeforeUnits
  debtAfterUnits := plan.debtAfterUnits
  reconciliationID := plan.reconciliationID
  providerIDHash := event.providerIDHash
  providerReferenceHash := event.providerReferenceHash
  reconciliationCommitment := event.reconciliationCommitment
  originalJournalSetHash := event.originalJournalSetHash
  finalityPolicyHash := plan.finalityPolicyHash
  conversionPolicyHash := plan.conversionPolicyHash
  policySetHash := plan.policySetHash
  eligibilityEvidenceHash := plan.eligibilityEvidenceHash
  journalRef := event.journalRef
  providerFinalizedAt := event.providerFinalizedAt
  reversalDeadlineUnix := event.reversalDeadline
  originalJournalIDs := plan.originalJournalIDs
  correlationID := plan.correlationID
  instructionDigest := plan.instructionDigest
  chainID := event.chainID
  gateway := event.gateway
  loanAccount := event.loanAccount
  finalizer := event.finalizer
  attester := event.attester
  transactionHash := event.transactionHash
  eventID := event.eventID
  logIndex := event.logIndex
  blockNumber := event.updatedInBlock
  blockHash := event.blockHash
  transactionIndex := event.transactionIndex
  receiptsRoot := event.receiptsRoot
  inclusionProofHash := event.inclusionProofHash
  headerAuthorityHash := proof.headerAuthorityHash
  receiptHeaderSignatureHash := event.receiptHeaderSignatureHash
  headHeaderSignatureHash := proof.headHeaderSignatureHash
  confirmationDepth := proof.confirmationDepth
  finalityHeadBlock := proof.headBlockNumber
  finalityHeadHash := proof.headBlockHash
  finalityEvidenceHash := proof.evidenceHash
  stateNonceBefore := event.stateNonceBefore
  stateNonceAfter := event.stateNonceAfter
  lenderID := event.lenderID
  borrowerID := event.borrowerID
  eventEvidenceHash := event.evidenceHash
  gatewayPayloadHash := event.rawEvidenceHash
  confirmedAt := proof.observedAt
  incident := incident

/-- The record of a pending reversal that a finalized settlement contradicts. -/
def consumedOf (pending : PendingReversalSnapshot) (event : CanonicalSettlement) (proof : FinalityProof) :
    ConsumedPendingReversalSnapshot where
  pending := pending
  resolutionID := "canonical-success:" ++ event.eventID
  resolutionEvidenceHash := proof.evidenceHash
  resolvedBy := "canonical-chain-indexer"
  resolvedAt := proof.observedAt
  gatewayEventID := event.eventID
  gatewayTransactionHash := event.transactionHash
  gatewayRawPayloadHash := event.rawEvidenceHash
  finalityEvidenceHash := proof.evidenceHash

/-! ### The coordinator -/

structure Coordinator where
  modes : Registry
  store : MemoryStore
  plans : Table String Plan
  byAllocation : Table String String
  confirmations : Table String AccountingProjection
  reorgs : List ReorgEvidence
  pending : Table String PendingReversalSnapshot
  consumed : Table String ConsumedPendingReversalSnapshot
  resolutions : Table String StoredReversalResolution

namespace Coordinator

def empty : Coordinator := ⟨.empty, .empty, ∅, ∅, ∅, [], ∅, ∅, ∅⟩

def durableRecordWith (c : Coordinator) (plan : Plan) (claim : Claim) (tombstoned : Bool)
    (pending : Option PendingReversalSnapshot) : Except Errors StoredCoordinator := do
  require (ClaimMatchesPlan claim plan ∧ stateFromCanonical claim.state = some plan.state) [.invalidTransition]
  pure {
    paymentID := plan.paymentID
    allocationID := plan.allocationID
    instructionDigest := plan.instructionDigest
    allocationExpectedVersion := plan.paymentVersion
    state := plan.state
    version := plan.version
    snapshot := {
      plan := plan
      confirmation := c.confirmations.lookup plan.paymentID
      reorgs := c.reorgs.filter (·.paymentID = plan.paymentID)
      claim := claim
      tombstoned := tombstoned
      pendingReversal := pending
      consumedPendingReversal := c.consumed.lookup plan.paymentID }
    tombstoned := tombstoned
    pendingReversal := pending.isSome }

def durableRecord (c : Coordinator) (plan : Plan) (claim : Claim) : Except Errors StoredCoordinator :=
  c.durableRecordWith plan claim false (c.pending.lookup plan.paymentID)

def createDurable (c : Coordinator) (plan : Plan) (claim : Claim) (evidenceHash : String) (occurredAt : Time) :
    Except Errors MemoryStore := do
  let record ← c.durableRecord plan claim
  c.store.create record evidenceHash occurredAt

def compareAndSwapDurable (c : Coordinator) (expectedState : State) (expectedVersion : Nat) (plan : Plan)
    (claim : Claim) (evidenceHash : String) (occurredAt : Time) : Except Errors MemoryStore := do
  let record ← c.durableRecord plan claim
  c.store.compareAndSwap expectedState expectedVersion record evidenceHash occurredAt

def publish (c : Coordinator) (plan : Plan) (modes : Registry) (store : MemoryStore) : Coordinator :=
  { c with modes := modes, store := store, plans := c.plans.insert plan.paymentID plan }

/-- A compare-and-swap of the plan together with the transition of its claim. -/
def transition (c : Coordinator) (plan next : Plan) (expected target : CanonicalState) (evidenceHash : String)
    (occurredAt : Time) (failure : ErrorKind) : Except Errors Coordinator := do
  let (modes, store) ← joinError failure <|
    c.modes.transitionWithCommit plan.paymentID plan.allocationID plan.instructionDigest expected target fun claim =>
      c.compareAndSwapDurable plan.state plan.version next claim evidenceHash occurredAt
  pure (c.publish next modes store)

def named (c : Coordinator) (paymentID allocationID instructionDigest : String) (e : ErrorKind) :
    Except Errors Plan := do
  let plan ← orRevert (c.plans.lookup paymentID) [e]
  require (plan.allocationID = allocationID ∧ plan.instructionDigest = instructionDigest) [e]
  pure plan

def prepare [Encoding] (c : Coordinator) (r : PrepareRequest) : Except Errors (Coordinator × Plan) := do
  require (ValidPrepare r ∧ r.allocationID = calculateAllocationID r) [.invalidPlan]
  let instructionDigest ← orRevert (calculateInstructionDigest r) [.invalidPlan]
  match c.plans.lookup r.paymentID with
  | some existing => do
    require (existing.instructionDigest = instructionDigest ∧ existing.allocationID = r.allocationID) [.planConflict]
    require (existing.state = .prepared → ∃ claim ∈ c.modes.lookup existing.paymentID,
      ClaimMatchesPlan claim existing ∧ claim.state = .prepared) [.invalidTransition]
    require (existing.state ≠ .failed) [.invalidTransition]
    pure (c, { existing with replayed := true })
  | none => do
    require (∀ owner ∈ c.byAllocation.lookup r.allocationID, owner = r.paymentID) [.planConflict]
    let plan := planOf r instructionDigest
    let (modes, claim, store) ← joinError .planConflict <|
      c.modes.claimModeWithCommit r.paymentID r.allocationID .canonicalGateway instructionDigest r.paymentVersion
        r.eligibilityEvidenceHash r.preparedAt fun claim =>
          c.createDurable plan claim r.eligibilityEvidenceHash r.preparedAt
    require (claim.state = .prepared) [.planConflict]
    pure ({ c.publish plan modes store with byAllocation := c.byAllocation.insert plan.allocationID plan.paymentID }, plan)

def submit (c : Coordinator) (r : SubmissionRequest) : Except Errors (Coordinator × Plan) := do
  require (ValidSubmission r) [.invalidTransition]
  let plan ← c.named r.paymentID r.allocationID r.instructionDigest .planConflict
  if plan.state = .submitted ∧ plan.submission = r.toSubmission then
    pure (c, { plan with replayed := true })
  else do
    require (plan.state = .prepared ∧ plan.version = r.expectedVersion ∧ plan.preparedAt ≤ r.submittedAt ∧
      r.chainID = plan.chainID ∧ r.gateway = plan.gatewayAddress ∧ r.sender = plan.finalizerAddress) [.invalidTransition]
    let next := { plan.advance .submitted with submission := r.toSubmission }
    let c' ← c.transition plan next .prepared .submitted r.calldataHash r.submittedAt .invalidTransition
    pure (c', next)

/-- The version that `Confirm` accepts: a quarantine of a submitted plan has moved it one on. -/
def VersionMatches (plan : Plan) (pending : Option PendingReversalSnapshot) (expectedVersion : Nat) : Prop :=
  plan.version = expectedVersion ∨
    plan.state = .quarantined ∧ (∃ p ∈ pending, p.originState = .submitted) ∧ expectedVersion < 2 ^ 64 - 1 ∧
      plan.version = expectedVersion + 1

instance (plan : Plan) (pending : Option PendingReversalSnapshot) (expectedVersion : Nat) :
    Decidable (VersionMatches plan pending expectedVersion) := by unfold VersionMatches; infer_instance

/-- What is in memory before the store is asked to confirm: the confirmation, and for a quarantined plan its
    reversal consumed. -/
def withConfirmation (c : Coordinator) (plan : Plan) (event : CanonicalSettlement) (proof : FinalityProof) :
    Option PendingReversalSnapshot → Coordinator
  | none => { c with
      confirmations := c.confirmations.insert plan.paymentID (confirmationOf plan event proof false) }
  | some pending => { c with
      confirmations := c.confirmations.insert plan.paymentID (confirmationOf plan event proof true)
      pending := c.pending.erase plan.paymentID
      consumed := c.consumed.insert plan.paymentID (consumedOf pending event proof) }

def confirm (c : Coordinator) (r : ConfirmationRequest) : Except Errors (Coordinator × AccountingProjection) := do
  require r.Present [.invalidEvent]
  let event := r.projection.settlement
  let proof := r.projection.proof
  let plan ← c.named r.paymentID r.allocationID r.instructionDigest .planConflict
  match c.confirmations.lookup r.paymentID with
  | some existing => do
    require (SameGatewayEvent existing event) [.planConflict]
    pure (c, existing)
  | none => do
    let pending := c.pending.lookup plan.paymentID
    require (VersionMatches plan pending r.expectedVersion ∧ ValidEvent plan event proof ∧
      (plan.state = .quarantined → ∃ p ∈ pending, SubmittedPendingMatchesPlan p plan)) [.invalidEvent]
    let claim ← orRevert (c.modes.lookup plan.paymentID) [.invalidTransition]
    require (claim.allocationID = plan.allocationID ∧ claim.digest = plan.instructionDigest ∧
      stateFromCanonical claim.state = some plan.state) [.invalidTransition]
    match claim.state with
    | .submitted => do
      let next := plan.advance .confirmed
      let c' ← (c.withConfirmation plan event proof none).transition plan next .submitted .confirmed proof.evidenceHash
        proof.observedAt .invalidTransition
      pure (c', confirmationOf plan event proof false)
    | .quarantined => do
      let quarantine ← orRevert pending [.invalidEvent]
      let next := plan.advance .incident
      let c' ← (c.withConfirmation plan event proof quarantine).transition plan next .quarantined .incident
        proof.evidenceHash proof.observedAt .invalidTransition
      pure (c', confirmationOf plan event proof true)
    | _ => .error [.invalidTransition]

/-- The proof of a reverted transaction is complete. -/
def FailurePresent (failure : TransactionFailureEvidence) : Prop :=
  failure.status = .reverted ∧ failure.evidenceHash ≠ "" ∧ failure.receiptPayloadHash ≠ "" ∧
    failure.finalityPolicyHash ≠ "" ∧ failure.headerAuthorityHash ≠ "" ∧ failure.receiptHeaderSignatureHash ≠ "" ∧
    failure.headHeaderSignatureHash ≠ "" ∧ failure.receiptsRoot ≠ "" ∧ failure.inclusionProofHash ≠ "" ∧
    ¬ failure.observedAt.IsZero

instance (failure : TransactionFailureEvidence) : Decidable (FailurePresent failure) := by
  unfold FailurePresent; infer_instance

def fail (c : Coordinator) (r : FailureRequest) : Except Errors (Coordinator × Plan) := do
  let failure ← orRevert r.proof [.invalidTransition]
  require (r.Present ∧ FailurePresent failure) [.invalidTransition]
  let plan ← c.named r.paymentID r.allocationID r.instructionDigest .planConflict
  if plan.state = .failed ∧ plan.failureProof = some failure then
    pure (c, { plan with replayed := true })
  else do
    require (plan.version = r.expectedVersion ∧ plan.state = .submitted ∧
      failure.transactionHash = plan.submission.transactionHash ∧ failure.chainID = plan.submission.chainID ∧
      failure.gateway = plan.submission.gateway ∧ failure.finalityPolicyHash = plan.finalityPolicyHash ∧
      plan.submission.submittedAt ≤ failure.observedAt ∧ failure.confirmationDepth ≠ 0 ∧
      failure.blockNumber ≤ failure.headBlockNumber ∧
      failure.confirmationDepth ≤ failure.headBlockNumber - failure.blockNumber) [.invalidTransition]
    let claim ← orRevert (c.modes.lookup plan.paymentID) [.invalidTransition]
    require (claim.state = .submitted ∧ ClaimMatchesPlan claim plan) [.invalidTransition]
    let next := { plan.advanceFor .failed "VERIFIED_TRANSACTION_REVERTED" with failureProof := some failure }
    let c' ← c.transition plan next .submitted .failed failure.evidenceHash failure.observedAt .invalidTransition
    pure (c', next)

def retry (c : Coordinator) (r : RetryRequest) : Except Errors (Coordinator × Plan) := do
  require (r.Present ∧ r.evidenceHash ≠ "" ∧ ¬ r.retriedAt.IsZero) [.invalidTransition]
  let plan ← c.named r.paymentID r.allocationID r.instructionDigest .invalidTransition
  require (plan.state = .failed ∧ plan.version = r.expectedVersion ∧ ¬ c.modes.IsReversed plan.paymentID)
    [.invalidTransition]
  let next := { plan.advanceFor .prepared "" with preparedAt := r.retriedAt, submission := .zero, failureProof := none }
  let c' ← c.transition plan next .failed .prepared r.evidenceHash r.retriedAt .planConflict
  pure (c', next)

/-! ### Reorganisations -/

/-- What `RecordReorg` checks of an envelope by itself. -/
def ReorgPresent (e : SettlementReorg) : Prop :=
  e.paymentID ≠ "" ∧ e.allocationID ≠ "" ∧ e.instructionDigest ≠ "" ∧ e.chainID ≠ 0 ∧ e.gateway ≠ "" ∧
    e.eventID ≠ "" ∧ e.transactionHash ≠ "" ∧ e.orphanedBlockHash ≠ "" ∧
    nonzeroCanonicalHash e.orphanedEventEvidenceHash ∧ e.rawEvidenceHash ≠ "" ∧ e.receiptsRoot ≠ "" ∧
    e.inclusionProofHash ≠ "" ∧ e.orphanedReceiptHeaderSignatureHash ≠ "" ∧ e.orphanedBlock ≠ 0 ∧
    e.replacementBlock ≠ 0 ∧ e.replacementBlockHash ≠ "" ∧ e.confirmationDepth ≠ 0 ∧
    e.orphanedBlock ≤ e.detectedHead ∧ e.detectedHeadHash ≠ "" ∧ e.finalityPolicyHash ≠ "" ∧
    e.headerAuthorityHash ≠ "" ∧ e.replacementHeaderSignatureHash ≠ "" ∧ e.detectedHeadHeaderSignatureHash ≠ "" ∧
    e.compensationRequired = decide (e.depthClass = .deepFinality) ∧ e.evidenceHash ≠ "" ∧ ¬ e.detectedAt.IsZero

instance (e : SettlementReorg) : Decidable (ReorgPresent e) := by unfold ReorgPresent; infer_instance

def reorgEvidenceOf (plan : Plan) (e : SettlementReorg) : ReorgEvidence :=
  { e with
    paymentID := plan.paymentID
    allocationID := plan.allocationID
    instructionDigest := plan.instructionDigest
    reorgID := "reorg:" ++ e.evidenceHash
    deep := e.depthClass = .deepFinality
    submissionSubmittedAt := plan.submission.submittedAt }

/-- An envelope that fails a submitted plan: the removed event was not final and is of the current submission. -/
def FailsSubmission (plan : Plan) (e : SettlementReorg) : Prop :=
  e.depthClass ≠ .deepFinality ∧ e.transactionHash = plan.submission.transactionHash ∧
    e.orphanedEventEvidenceHash = plan.eligibilityEvidenceHash ∧ e.chainID = plan.submission.chainID ∧
    e.gateway = plan.submission.gateway ∧ ¬ plan.submission.submittedAt.IsZero ∧
    plan.submission.submittedAt ≤ e.detectedAt

instance (plan : Plan) (e : SettlementReorg) : Decidable (FailsSubmission plan e) := by
  unfold FailsSubmission; infer_instance

/-- An envelope that contradicts a confirmation: a final event was removed, and it is the confirmed one. -/
def Contradicts (p : AccountingProjection) (e : SettlementReorg) : Prop :=
  e.depthClass = .deepFinality ∧ e.eventID = p.eventID ∧ e.transactionHash = p.transactionHash ∧
    e.orphanedEventEvidenceHash = p.eventEvidenceHash ∧ e.transactionIndex = p.transactionIndex ∧
    e.receiptsRoot = p.receiptsRoot ∧ e.inclusionProofHash = p.inclusionProofHash ∧
    e.orphanedReceiptHeaderSignatureHash = p.receiptHeaderSignatureHash ∧ e.orphanedBlockHash = p.blockHash ∧
    e.rawEvidenceHash = p.gatewayPayloadHash ∧ e.chainID = p.chainID ∧ e.gateway = p.gateway ∧
    e.finalityPolicyHash = p.finalityPolicyHash ∧ e.headerAuthorityHash = p.headerAuthorityHash ∧
    e.confirmationDepth = p.confirmationDepth ∧ p.finalityHeadBlock ≤ e.detectedHead ∧ p.confirmedAt ≤ e.detectedAt

instance (p : AccountingProjection) (e : SettlementReorg) : Decidable (Contradicts p e) := by
  unfold Contradicts; infer_instance

/-- A compare-and-swap of the plan alone; its claim stays in its state. -/
def rewrite (c : Coordinator) (plan next : Plan) (claim : Claim) (evidenceHash : String) (occurredAt : Time)
    (failure : ErrorKind) : Except Errors Coordinator := do
  let store ← joinError failure (c.compareAndSwapDurable plan.state plan.version next claim evidenceHash occurredAt)
  pure (c.publish next c.modes store)

/-- What `RecordReorg` does with a submitted or quarantined plan. -/
def reorgSubmitted (c : Coordinator) (plan : Plan) (claim : Claim) (e : SettlementReorg) :
    Except Errors Coordinator := do
  require (FailsSubmission plan e) [.invalidReorg]
  if claim.state = .quarantined then
    -- the store compares with the state QUARANTINED whatever the plan says
    let next := plan.advanceFor .quarantined "REORG_BEFORE_FINALITY_REVERSAL_PENDING"
    c.rewrite { plan with state := .quarantined } next claim e.evidenceHash e.detectedAt .invalidReorg
  else
    let next := plan.advanceFor .failed "REORG_BEFORE_FINALITY"
    c.transition { plan with state := .submitted } next .submitted .failed e.evidenceHash e.detectedAt .invalidReorg

/-- What `RecordReorg` does with a confirmed plan or one that is already an incident. -/
def reorgConfirmed (c : Coordinator) (plan : Plan) (claim : Claim) (e : SettlementReorg) :
    Except Errors Coordinator := do
  let confirmation ← orRevert (c.confirmations.lookup plan.paymentID) [.invalidReorg]
  require (Contradicts confirmation e) [.invalidReorg]
  let next := plan.advance .incident
  if claim.state = .confirmed then
    c.transition { plan with state := .confirmed } next .confirmed .incident e.evidenceHash e.detectedAt .invalidReorg
  else do
    require (claim.state = .incident) [.invalidReorg]
    c.rewrite { plan with state := .incident } next claim e.evidenceHash e.detectedAt .invalidReorg

def recordReorg (c : Coordinator) (expectedVersion : Nat) (e : SettlementReorg) :
    Except Errors (Coordinator × ReorgEvidence) := do
  require (expectedVersion ≠ 0 ∧ ReorgPresent e) [.invalidReorg]
  let plan ← c.named e.paymentID e.allocationID e.instructionDigest .invalidReorg
  require (e.chainID = plan.chainID ∧ e.gateway = plan.gatewayAddress ∧ e.finalityPolicyHash = plan.finalityPolicyHash)
    [.invalidReorg]
  match c.reorgs.find? (·.eventID = e.eventID) with
  | some existing => do
    require (existing.evidenceHash = e.evidenceHash) [.invalidReorg]
    pure (c, existing)
  | none => do
    require (plan.version = expectedVersion) [.invalidReorg]
    let evidence := reorgEvidenceOf plan e
    let claim ← orRevert (c.modes.lookup plan.paymentID) [.invalidReorg]
    let recorded := { c with reorgs := c.reorgs ++ [evidence] }
    match plan.state with
    | .submitted | .quarantined => do
      let c' ← recorded.reorgSubmitted plan claim e
      pure (c', evidence)
    | .confirmed | .incident => do
      let c' ← recorded.reorgConfirmed plan claim e
      pure (c', evidence)
    | _ => .error [.invalidReorg]

def missingClaimReason (c : Coordinator) (paymentID : String) (state : State) : String :=
  if c.modes.IsReversed paymentID then
    if state = .quarantined then "PAYMENT_REVERSED" else "REVERSED_BEFORE_SUBMISSION"
  else if (c.modes.lookup paymentID).isSome then "ALLOCATION_MODE_CONFLICT"
  else "MODE_CLAIM_RELEASED"

/-- `Plan`, with the state that it reports. It fails a plan whose claim is gone, in memory only. -/
def plan (c : Coordinator) (paymentID : String) : Coordinator × Option (Plan × Option State) :=
  match c.plans.lookup paymentID with
  | none => (c, none)
  | some plan =>
    match (c.modes.lookup paymentID).filter (ClaimMatchesPlan · plan) with
    | some claim => (c, some (plan, stateFromCanonical claim.state))
    | none =>
      if plan.state = .prepared ∨ plan.state = .quarantined then
        let failed := { plan with
          failureReason := c.missingClaimReason paymentID plan.state
          state := .failed
          version := bump plan.version }
        ({ c with plans := c.plans.insert paymentID failed }, some (failed, some .failed))
      else (c, some (plan, some plan.state))

end Coordinator

end Unified.Settlement
