import Unified.Settlement.Reversal

/-! The file of one payment: everything that the coordinator, the registry and their stores hold under its
    identifier, and the steps that an accepted call can take on it. -/

namespace Unified.Settlement

open Indexer (Time TransactionFailureEvidence VerifiedGatewayProjection SettlementReorg CanonicalSettlement FinalityProof)

def ValidConsumedPendingReversal (consumed : ConsumedPendingReversalSnapshot) (plan : Plan)
    (confirmation : AccountingProjection) : Prop :=
  ValidPendingSnapshot consumed.pending ∧ SubmittedPendingMatchesPlan consumed.pending plan ∧
    consumed.resolutionID = "canonical-success:" ++ consumed.gatewayEventID ∧ consumed.resolutionEvidenceHash ≠ "" ∧
    consumed.resolvedBy = "canonical-chain-indexer" ∧ ¬ consumed.resolvedAt.IsZero ∧
    consumed.gatewayEventID = confirmation.eventID ∧ consumed.gatewayTransactionHash = confirmation.transactionHash ∧
    consumed.gatewayRawPayloadHash = confirmation.gatewayPayloadHash ∧
    consumed.finalityEvidenceHash = confirmation.finalityEvidenceHash ∧
    consumed.resolutionEvidenceHash = confirmation.finalityEvidenceHash ∧
    consumed.resolvedAt = confirmation.confirmedAt ∧ confirmation.incident = true

/-- The calls that change the coordinator or the registry; a reversal carries what posting its accounting gives. -/
inductive Call where
  | claimMode (paymentID allocationID digest : String) (expectedVersion : Nat) (evidenceHash : String) (claimedAt : Time)
  | prepare (r : PrepareRequest)
  | submit (r : SubmissionRequest)
  | confirm (r : ConfirmationRequest)
  | fail (r : FailureRequest)
  | retry (r : RetryRequest)
  | recordReorg (expectedVersion : Nat) (e : SettlementReorg)
  | handleProviderReversal (r : CanonicalReversalRecord) (commit : Except Errors Unit)
  | resolveProviderReversal (r : CanonicalReversalRecord) (localFallback : Except Errors (List String))

def Call.exec [Encoding] : Call → Coordinator → Except Errors Coordinator
  | .claimMode paymentID allocationID digest expectedVersion evidenceHash claimedAt, c => do
    let (modes, _) ← c.modes.claimMode paymentID allocationID .syntheticProjection digest expectedVersion evidenceHash
      claimedAt
    pure { c with modes := modes }
  | .prepare r, c => (c.prepare r).map Prod.fst
  | .submit r, c => (c.submit r).map Prod.fst
  | .confirm r, c => (c.confirm r).map Prod.fst
  | .fail r, c => (c.fail r).map Prod.fst
  | .retry r, c => (c.retry r).map Prod.fst
  | .recordReorg expectedVersion e, c => (c.recordReorg expectedVersion e).map Prod.fst
  | .handleProviderReversal r commit, c => (c.handleProviderReversal r commit).map Prod.fst
  | .resolveProviderReversal r localFallback, c => (c.resolveProviderReversal r localFallback).map Prod.fst

/-! ### Files -/

structure File where
  plan : Option Plan
  (claim written : Option Claim)
  reversed : Bool
  confirmation : Option AccountingProjection
  reorgs : List ReorgEvidence
  pending : Option PendingReversalSnapshot
  consumed : Option ConsumedPendingReversalSnapshot
  record : Option StoredCoordinator
  tombstone : Option StoredTombstone

def Coordinator.file (c : Coordinator) (p : String) : File where
  plan := c.plans.lookup p
  claim := c.modes.byPayment.lookup p
  written := c.modes.claims.lookup p
  reversed := decide (p ∈ c.modes.reversed)
  confirmation := c.confirmations.lookup p
  reorgs := c.reorgs.filter (·.paymentID = p)
  pending := c.pending.lookup p
  consumed := c.consumed.lookup p
  record := c.store.records.lookup p
  tombstone := c.store.tombstones.lookup p

namespace File

/-- What the store keeps of a plan and a claim beside the rest of the file. -/
def stored (f : File) (plan : Plan) (claim : Claim) : StoredCoordinator where
  paymentID := plan.paymentID
  allocationID := plan.allocationID
  instructionDigest := plan.instructionDigest
  allocationExpectedVersion := plan.paymentVersion
  state := plan.state
  version := plan.version
  snapshot := {
    plan := plan
    confirmation := f.confirmation
    reorgs := f.reorgs
    claim := claim
    tombstoned := f.reversed
    pendingReversal := f.pending
    consumedPendingReversal := f.consumed }
  tombstoned := f.reversed
  pendingReversal := f.pending.isSome

/-- The file with a new plan and claim, all of it written to the store. -/
def moved (f : File) (plan : Plan) (claim : Claim) : File :=
  { f with plan := some plan, claim := some claim, record := some (f.stored plan claim) }

/-- The confirmation is of the plan's own submission; nothing here depends on the plan's state. -/
def Confirms (plan : Plan) (k : AccountingProjection) : Prop :=
  ∃ event proof, k = confirmationOf plan event proof k.incident ∧ ValidProof plan event proof ∧ MatchesPlan plan event ∧
    CompleteEvent event

/-- The submission of a plan is on the plan's chain and gateway, if there is one. -/
def Submitted (plan : Plan) : Prop :=
  plan.submission = .zero ∨ plan.submission.chainID = plan.chainID ∧ plan.submission.gateway = plan.gatewayAddress ∧
    plan.submission.transactionHash ≠ "" ∧ ¬ plan.submission.submittedAt.IsZero

/-- The pending reversal of a plan in quarantine. -/
def Quarantines (plan : Plan) (q : PendingReversalSnapshot) : Prop :=
  ValidPendingSnapshot q ∧ q.paymentID = plan.paymentID ∧ q.allocationID = plan.allocationID ∧
    q.instructionDigest = plan.instructionDigest ∧ (q.originState = .submitted → SubmittedPendingMatchesPlan q plan)

/-- The rest of a file agrees with its plan. -/
structure Consistent (f : File) (plan : Plan) : Prop where
  submitted : Submitted plan
  reversed : f.reversed = true → plan.state = .failed
  confirmed : f.confirmation.isSome ↔ plan.state = .confirmed ∨ plan.state = .incident
  confirms : ∀ k ∈ f.confirmation, Confirms plan k
  pending : f.pending.isSome ↔ plan.state = .quarantined
  quarantines : ∀ q ∈ f.pending, Quarantines plan q
  consumed : ∀ k ∈ f.consumed, plan.state = .incident ∧
    ∃ confirmation ∈ f.confirmation, ValidConsumedPendingReversal k plan confirmation

structure Planned (p : String) (f : File) (plan : Plan) (claim : Claim) : Prop extends Consistent f plan where
  key : plan.paymentID = p
  claimed : ClaimMatchesPlan claim plan
  sameState : stateFromCanonical claim.state = some plan.state
  record : f.record = some (f.stored plan claim)
  valid : ValidStoredCoordinator (f.stored plan claim)

/-- What holds of the file of a payment after any calls. -/
structure Ok (p : String) (f : File) : Prop where
  written : f.written = f.claim.map Claim.written
  validClaim : ∀ claim ∈ f.written, claim.paymentID = p ∧ ValidDurableClaim claim
  tombstone : f.reversed = f.tombstone.isSome
  validTombstone : ∀ t ∈ f.tombstone, t.paymentID = p ∧ t.paymentID ≠ ""
  blank : f.plan = none →
    f.confirmation = none ∧ f.reorgs = [] ∧ f.pending = none ∧ f.consumed = none ∧ f.record = none
  planned : ∀ plan ∈ f.plan, ∃ claim ∈ f.claim, Planned p f plan claim
  canonical : ∀ claim ∈ f.claim, claim.mode = .canonicalGateway → f.plan.isSome

/-! ### Steps -/

def preparedClaim (r : PrepareRequest) (instructionDigest : String) : Claim :=
  ⟨"phase7c:" ++ r.allocationID, r.paymentID, r.allocationID, .canonicalGateway, instructionDigest, .prepared,
    r.paymentVersion, r.eligibilityEvidenceHash, r.preparedAt⟩

structure Holds (f : File) (plan : Plan) (claim : Claim) : Prop where
  planned : f.plan = some plan
  claimed : f.claim = some claim
  room : 0 < bump plan.version

def Concerns (plan : Plan) (e : SettlementReorg) : Prop :=
  Coordinator.ReorgPresent e ∧ e.allocationID = plan.allocationID ∧ e.instructionDigest = plan.instructionDigest ∧
    e.chainID = plan.chainID ∧ e.gateway = plan.gatewayAddress ∧ e.finalityPolicyHash = plan.finalityPolicyHash

/-- The steps of the file of payment `p`, one for each way in which a call is accepted and changes something. -/
inductive Step [Encoding] (p : String) : Call → File → File → Prop
  | claimed {f : File} {claim : Claim} (key : claim.paymentID = p) (free : f.claim = none)
      (unreversed : f.reversed = false) (valid : ValidDurableClaim claim) (mode : claim.mode = .syntheticProjection) :
      Step p (.claimMode claim.paymentID claim.allocationID claim.digest claim.expectedVersion claim.evidenceHash
        claim.claimedAt) f { f with claim := some claim, written := some claim }
  | prepared {f : File} {r : PrepareRequest} {digest : String} (key : r.paymentID = p) (free : f.claim = none)
      (unplanned : f.plan = none) (unreversed : f.reversed = false) (valid : ValidPrepare r)
      (allocation : r.allocationID = calculateAllocationID r) (hdigest : calculateInstructionDigest r = some digest)
      (durable : ValidDurableClaim (preparedClaim r digest)) :
      Step p (.prepare r) f
        ({ f with written := some (preparedClaim r digest) }.moved (planOf r digest) (preparedClaim r digest))
  | submitted {f : File} {r : SubmissionRequest} {plan : Plan} {claim : Claim} (key : r.paymentID = p)
      (now : f.Holds plan claim) (state : plan.state = .prepared) (valid : ValidSubmission r)
      (place : r.chainID = plan.chainID ∧ r.gateway = plan.gatewayAddress) :
      Step p (.submit r) f (f.moved { plan.advance .submitted with submission := r.toSubmission }
        { claim with state := .submitted })
  | confirmed {f : File} {r : ConfirmationRequest} {plan : Plan} {claim : Claim} (key : r.paymentID = p)
      (now : f.Holds plan claim) (state : plan.state = .submitted)
      (event : ValidEvent plan r.projection.settlement r.projection.proof) :
      Step p (.confirm r) f ({ f with
        confirmation := some (confirmationOf plan r.projection.settlement r.projection.proof false) }.moved
          (plan.advance .confirmed) { claim with state := .confirmed })
  | contradicted {f : File} {r : ConfirmationRequest} {plan : Plan} {claim : Claim} {q : PendingReversalSnapshot}
      (key : r.paymentID = p) (now : f.Holds plan claim) (state : plan.state = .quarantined)
      (event : ValidEvent plan r.projection.settlement r.projection.proof) (hpending : f.pending = some q)
      (submitted : SubmittedPendingMatchesPlan q plan) :
      Step p (.confirm r) f ({ f with
        confirmation := some (confirmationOf plan r.projection.settlement r.projection.proof true)
        pending := none
        consumed := some (consumedOf q r.projection.settlement r.projection.proof) }.moved
          (plan.advance .incident) { claim with state := .incident })
  | failed {f : File} {r : FailureRequest} {failure : TransactionFailureEvidence} {plan : Plan} {claim : Claim}
      (key : r.paymentID = p) (now : f.Holds plan claim) (state : plan.state = .submitted)
      (proof : r.proof = some failure) (transaction : failure.transactionHash = plan.submission.transactionHash) :
      Step p (.fail r) f (f.moved
        { plan.advanceFor .failed "VERIFIED_TRANSACTION_REVERTED" with failureProof := some failure }
        { claim with state := .failed })
  | retried {f : File} {r : RetryRequest} {plan : Plan} {claim : Claim} (key : r.paymentID = p)
      (now : f.Holds plan claim) (state : plan.state = .failed) (unreversed : f.reversed = false) :
      Step p (.retry r) f (f.moved
        { plan.advanceFor .prepared "" with preparedAt := r.retriedAt, submission := .zero, failureProof := none }
        { claim with state := .prepared })
  | reorgFailed {f : File} {v : Nat} {e : SettlementReorg} {plan : Plan} {claim : Claim} (key : e.paymentID = p)
      (now : f.Holds plan claim) (state : plan.state = .submitted) (concerns : Concerns plan e)
      (fails : Coordinator.FailsSubmission plan e) :
      Step p (.recordReorg v e) f ({ f with reorgs := f.reorgs ++ [Coordinator.reorgEvidenceOf plan e] }.moved
        (plan.advanceFor .failed "REORG_BEFORE_FINALITY") { claim with state := .failed })
  | reorgQuarantined {f : File} {v : Nat} {e : SettlementReorg} {plan : Plan} {claim : Claim} (key : e.paymentID = p)
      (now : f.Holds plan claim) (state : plan.state = .quarantined) (concerns : Concerns plan e)
      (fails : Coordinator.FailsSubmission plan e) :
      Step p (.recordReorg v e) f ({ f with reorgs := f.reorgs ++ [Coordinator.reorgEvidenceOf plan e] }.moved
        (plan.advanceFor .quarantined "REORG_BEFORE_FINALITY_REVERSAL_PENDING") { claim with state := .quarantined })
  | reorgIncident {f : File} {v : Nat} {e : SettlementReorg} {plan : Plan} {claim : Claim} {k : AccountingProjection}
      (key : e.paymentID = p) (now : f.Holds plan claim) (concerns : Concerns plan e)
      (state : plan.state = .confirmed ∨ plan.state = .incident) (hconfirmation : f.confirmation = some k)
      (contradicts : Coordinator.Contradicts k e) :
      Step p (.recordReorg v e) f ({ f with reorgs := f.reorgs ++ [Coordinator.reorgEvidenceOf plan e] }.moved
        (plan.advance .incident) { claim with state := .incident })
  | tombstoned {f : File} {r : CanonicalReversalRecord} {commit : Except Errors Unit} {t : StoredTombstone}
      (key : r.paymentID = p) (unplanned : f.plan = none) (valid : ValidReversalRecord r) (payment : t.paymentID = p) :
      Step p (.handleProviderReversal r commit) f { f with reversed := true, tombstone := some t }
  | quarantined {f : File} {r : CanonicalReversalRecord} {commit : Except Errors Unit} {plan : Plan} {claim : Claim}
      (key : r.paymentID = p) (now : f.Holds plan claim)
      (state : plan.state = .prepared ∨ plan.state = .submitted ∨ plan.state = .failed) (unreversed : f.reversed = false)
      (valid : ValidPendingSnapshot (pendingSnapshot r plan plan.state)) :
      Step p (.handleProviderReversal r commit) f ({ f with
        pending := some (pendingSnapshot r plan plan.state) }.moved
          (plan.advanceFor .quarantined "PROVIDER_REVERSAL_PENDING") { claim with state := .quarantined })
  | reversalIncident {f : File} {r : CanonicalReversalRecord} {commit : Except Errors Unit} {plan : Plan} {claim : Claim}
      (key : r.paymentID = p) (now : f.Holds plan claim) (state : plan.state = .confirmed) :
      Step p (.handleProviderReversal r commit) f (f.moved
        (plan.advanceFor .incident "PROVIDER_REVERSAL_AFTER_CONFIRMATION") { claim with state := .incident })
  | resolved {f : File} {r : CanonicalReversalRecord} {localFallback : Except Errors (List String)} {plan : Plan}
      {claim : Claim} {q : PendingReversalSnapshot} {evidence : String} {t : StoredTombstone} (key : r.paymentID = p)
      (now : f.Holds plan claim) (state : plan.state = .quarantined) (hpending : f.pending = some q)
      (proof : Coordinator.validateReversalFailureProof plan q r = .ok evidence) (payment : t.paymentID = p) :
      Step p (.resolveProviderReversal r localFallback) f ({ f with
        pending := none, reversed := true, tombstone := some t }.moved
          (plan.advanceFor .failed "PROVIDER_REVERSAL_RESOLVED") { claim with state := .failed })

end File

end Unified.Settlement
