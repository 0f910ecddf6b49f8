import Unified.Lib.Token
import Unified.Syndicate.PositionManager

/-! The vault of one syndicated loan with its position manager and their settlement token: the funding round, its
    activation or its refunds, repayments in the order of the tranches, and runs of calls of both contracts. -/

namespace Unified.Syndicate

inductive RoundStatus where
  | none | scheduled | opened | active | failed | cancelled | closed
  deriving DecidableEq, Repr, Inhabited

inductive CommitmentStatus where
  | none | funded | positionActive | refunded
  deriving DecidableEq, Repr, Inhabited

structure FundingRoundTerms (W : Type) where
  (loanId roundId agreementHash policySetHash metadataHash : W)
  borrower : Address
  settlementAssetId : W
  (minimumFunding targetFunding maximumFunding opensAt closesAt finalMaturityTime gracePeriod : Nat)
  protocolVersion : Nat
  deriving DecidableEq, Inhabited

structure Commitment (W : Type) where
  (commitmentId trancheId positionId : W)
  lender : Address
  amount : Nat
  status : CommitmentStatus
  deriving DecidableEq, Inhabited

def MAX_COMMITMENTS : Nat := 64

structure SyndicateVault (W : Type) [Evm W] where
  /-- The account of the vault. -/
  vault : Address
  /-- The account of the position manager. -/
  manager : Address
  accounts : vault ≠ manager
  fundingTerms : FundingRoundTerms W
  roundStatus : RoundStatus
  (totalCommitted outstandingPrincipal : Nat)
  commitments : Mapping W (Commitment W)
  commitmentIds : List W
  processedPayments : Mapping W Bool
  positions : PositionManager W
  token : Token

/-- What a call brings from outside: its sender and time, whether the sender sits in the risk council, and whether the
    loan registry takes the end of a loan. -/
structure Context where
  caller : Address
  timestamp : Nat
  (riskCouncil registry : Bool)

namespace SyndicateVault

variable {W : Type} [Evm W]

def ValidTerms (terms : FundingRoundTerms W) (tranches : List (TrancheConfiguration W)) (now : Nat) : Prop :=
  (terms.loanId ≠ 0 ∧ terms.roundId ≠ 0 ∧ terms.agreementHash ≠ 0 ∧ terms.policySetHash ≠ 0 ∧ terms.metadataHash ≠ 0 ∧
    terms.borrower ≠ 0 ∧ terms.settlementAssetId ≠ 0 ∧ terms.minimumFunding ≠ 0 ∧
    terms.minimumFunding ≤ terms.targetFunding ∧ terms.targetFunding ≤ terms.maximumFunding ∧ now ≤ terms.opensAt ∧
    terms.opensAt < terms.closesAt ∧ terms.closesAt < terms.finalMaturityTime ∧ terms.protocolVersion ≠ 0 ∧
    tranches ≠ [] ∧ tranches.length ≤ MAX_TRANCHES) ∧
  (tranches.map (·.seniorityRank) = (List.range tranches.length).map (· + 1)) ∧
  (tranches.map (·.targetSize)).sum = terms.maximumFunding

instance (terms : FundingRoundTerms W) (tranches : List (TrancheConfiguration W)) (now : Nat) :
    Decidable (ValidTerms terms tranches now) := by unfold ValidTerms; infer_instance

/-- `initialize`, over a settlement token that is in use already. -/
def initializeVault (vault manager : Address) (accounts : vault ≠ manager) (token : Token) (terms : FundingRoundTerms W)
    (tranches : List (TrancheConfiguration W)) (now : Nat) : Except Revert (SyndicateVault W) := do
  require (ValidTerms terms tranches now) .invalidFundingRound
  let positions ← tranches.foldlM PositionManager.configureTranche default
  pure ⟨vault, manager, accounts, terms, if terms.opensAt ≤ now then .opened else .scheduled, 0, 0, .empty, [], .empty, positions, token⟩

/-! ### The vault -/

variable (s : SyndicateVault W)

def openRound (now : Nat) : Except Revert (SyndicateVault W) := do
  require (s.roundStatus = .scheduled ∧ s.fundingTerms.opensAt ≤ now ∧ now < s.fundingTerms.closesAt) .invalidFundingState
  pure { s with roundStatus := .opened }

def positionIdOf (commitmentId : W) : W :=
  keccak256 "SYNDICATE_POSITION" [.bytes32 s.fundingTerms.loanId, .bytes32 commitmentId]

def pullExact (sender : Address) (amount : Nat) : Except Revert (SyndicateVault W) := do
  let token ← s.token.transfer .token sender s.vault amount
  require (token.balances s.vault = s.token.balances s.vault + amount) .settlementBalanceMismatch
  pure { s with token := token }

def transferExact (recipient : Address) (amount : Nat) : Except Revert (SyndicateVault W) := do
  let token ← s.token.transferExact .token .settlementBalanceMismatch s.vault recipient amount
  pure { s with token := token }

def commit (context : Context) (commitmentId trancheId : W) (amount : Nat) : Except Revert (SyndicateVault W) := do
  require (s.roundStatus = .opened ∧ context.timestamp < s.fundingTerms.closesAt ∧ commitmentId ≠ 0 ∧ amount ≠ 0 ∧
    (s.commitments commitmentId).status = .none ∧ s.commitmentIds.length < MAX_COMMITMENTS ∧
    s.totalCommitted + amount ≤ s.fundingTerms.maximumFunding) .invalidCommitment
  let positionId := s.positionIdOf commitmentId
  let positions ← s.positions.issuePending positionId trancheId context.caller amount context.timestamp
  pullExact { s with
    commitments := s.commitments.set commitmentId
      ⟨commitmentId, trancheId, positionId, context.caller, amount, .funded⟩
    commitmentIds := s.commitmentIds ++ [commitmentId]
    totalCommitted := s.totalCommitted + amount
    positions := positions } context.caller amount

/-- One commitment of the loop of `finalize`. -/
def activateCommitment (commitments : Mapping W (Commitment W)) (commitmentId : W) : Mapping W (Commitment W) :=
  commitments.modify commitmentId fun c => { c with status := .positionActive }

def finalize (context : Context) (journalRef : W) : Except Revert (SyndicateVault W) := do
  require (s.roundStatus = .opened ∧ journalRef ≠ 0 ∧
    ¬ (context.timestamp < s.fundingTerms.closesAt ∧ s.totalCommitted < s.fundingTerms.targetFunding)) .invalidFundingState
  if s.totalCommitted < s.fundingTerms.minimumFunding then do
    require (context.registry = true) .registry
    pure { s with roundStatus := .failed }
  else do
    let positions ← s.positions.activateFunding s.totalCommitted
    let s := { s with positions := positions, outstandingPrincipal := s.totalCommitted, roundStatus := .active }
    let s ← s.transferExact s.fundingTerms.borrower s.totalCommitted
    pure { s with commitments := s.commitmentIds.foldl activateCommitment s.commitments }

def cancelRound (context : Context) (reasonCode : W) : Except Revert (SyndicateVault W) := do
  require (context.caller = s.fundingTerms.borrower ∧ reasonCode ≠ 0 ∧
    (s.roundStatus = .scheduled ∨ s.roundStatus = .opened)) .invalidFundingState
  require (context.registry = true) .registry
  pure { s with roundStatus := .cancelled }

def refund (commitmentId : W) : Except Revert (SyndicateVault W) := do
  require (s.roundStatus = .failed ∨ s.roundStatus = .cancelled) .invalidFundingState
  let c := s.commitments commitmentId
  require (c.status = .funded) .invalidCommitment
  let positions ← s.positions.cancelPending c.positionId
  transferExact { s with
    commitments := s.commitments.set commitmentId { c with status := .refunded }
    positions := positions } c.lender c.amount

/-- `recordDistribution` of the position manager, called by the vault, with the transfer of the tokens. -/
def recordDistribution (trancheId : W) (amount : Nat) : Except Revert (SyndicateVault W) := do
  let token ← s.token.transfer .token s.vault s.manager amount
  require (token.balances s.manager = s.token.balances s.manager + amount) .positionBalanceMismatch
  let positions ← s.positions.recordDistribution trancheId amount
  pure { s with token := token, positions := positions }

/-- One tranche of the loop of `_distribute`, with what is still to be distributed. -/
def distributeTo (rest : SyndicateVault W × Nat) (trancheId : W) : Except Revert (SyndicateVault W × Nat) := do
  let t ← rest.1.positions.tranche trancheId
  let allocation := min rest.2 t.outstandingPrincipal
  if allocation = 0 then pure rest
  else do
    let s ← rest.1.recordDistribution trancheId allocation
    pure (s, rest.2 - allocation)

def distribute (amount : Nat) : Except Revert (SyndicateVault W) := do
  let (s, remaining) ← s.positions.trancheIds.foldlM distributeTo (s, amount)
  require (remaining = 0) .settlementBalanceMismatch
  pure s

def repay (context : Context) (paymentId : W) (amount : Nat) (journalRef : W) : Except Revert (SyndicateVault W) := do
  require (s.roundStatus = .active ∧ paymentId ≠ 0 ∧ journalRef ≠ 0 ∧ amount ≠ 0 ∧ amount ≤ s.outstandingPrincipal)
    .invalidFundingState
  require (s.processedPayments paymentId = false) .duplicatePayment
  let s ← pullExact { s with processedPayments := s.processedPayments.set paymentId true } context.caller amount
  let s ← s.distribute amount
  let s := { s with outstandingPrincipal := s.outstandingPrincipal - amount }
  if s.outstandingPrincipal = 0 then do
    require (context.registry = true) .registry
    pure { s with roundStatus := .closed }
  else pure s

/-- A call of the position manager that moves no tokens. -/
def managed (positions : Except Revert (PositionManager W)) : Except Revert (SyndicateVault W) := do
  let positions ← positions
  pure { s with positions := positions }

def withdraw (owner : Address) : Except Revert (SyndicateVault W) := do
  let (positions, amount) ← s.positions.withdrawAvailable owner
  let token ← s.token.transferExact .token .positionBalanceMismatch s.manager owner amount
  pure { s with token := token, positions := positions }

def withdrawDistribution (context : Context) (positionId : W) : Except Revert (SyndicateVault W) := do
  let s ← s.managed (s.positions.withdrawDistribution context.caller positionId)
  s.withdraw context.caller

end SyndicateVault

inductive Call (W : Type) where
  | openRound
  | commit (commitmentId trancheId : W) (amount : Nat)
  | finalize (journalRef : W)
  | cancelRound (reasonCode : W)
  | refund (commitmentId : W)
  | repay (paymentId : W) (amount : Nat) (journalRef : W)
  | transferPosition (positionId : W) (buyer : Address) (evidenceHash : W)
  | splitPosition (positionId newPositionId : W) (splitShares : Nat) (newOwner : Address)
  | mergePositions (primaryPositionId mergedPositionId : W)
  | pledgePosition (positionId : W) (pledgee : Address) (evidenceHash : W)
  | releasePledge (positionId : W)
  | setFrozen (positionId : W) (frozen : Bool) (evidenceHash : W)
  | withdrawDistribution (positionId : W)
  | withdrawAvailable
  | redeemPosition (positionId : W)
  | transferTokens (recipient : Address) (amount : Nat)

namespace SyndicateVault

variable {W : Type} [Evm W]

/-- A call by anybody but the two contracts, which call nothing of their own accord. -/
def exec (call : Context × Call W) (s : SyndicateVault W) : Except Revert (SyndicateVault W) := do
  let (context, call) := call
  require (context.caller ≠ s.vault ∧ context.caller ≠ s.manager) .token
  match call with
  | .openRound => s.openRound context.timestamp
  | .commit commitmentId trancheId amount => s.commit context commitmentId trancheId amount
  | .finalize journalRef => s.finalize context journalRef
  | .cancelRound reasonCode => s.cancelRound context reasonCode
  | .refund commitmentId => s.refund commitmentId
  | .repay paymentId amount journalRef => s.repay context paymentId amount journalRef
  | .transferPosition positionId buyer evidenceHash =>
    s.managed (s.positions.transferPosition context.caller context.timestamp positionId buyer evidenceHash)
  | .splitPosition positionId newPositionId splitShares newOwner =>
    s.managed (s.positions.splitPosition context.caller context.timestamp positionId newPositionId splitShares newOwner)
  | .mergePositions primaryPositionId mergedPositionId =>
    s.managed (s.positions.mergePositions context.caller primaryPositionId mergedPositionId)
  | .pledgePosition positionId pledgee evidenceHash =>
    s.managed (s.positions.pledgePosition context.caller positionId pledgee evidenceHash)
  | .releasePledge positionId => s.managed (s.positions.releasePledge context.caller positionId)
  | .setFrozen positionId frozen evidenceHash =>
    s.managed (s.positions.setFrozen context.riskCouncil positionId frozen evidenceHash)
  | .withdrawDistribution positionId => s.withdrawDistribution context positionId
  | .withdrawAvailable => s.withdraw context.caller
  | .redeemPosition positionId => s.managed (s.positions.redeemPosition context.caller positionId)
  | .transferTokens recipient amount => do
    let token ← s.token.transfer .token context.caller recipient amount
    pure { s with token := token }

end SyndicateVault

end Unified.Syndicate
