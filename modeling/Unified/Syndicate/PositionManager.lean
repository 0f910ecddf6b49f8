import Mathlib
import Unified.Lib.ProRata
import Unified.Lib.Evm
import Unified.Lib.Mapping

/-! The rights of the lenders of one syndicated loan: tranches and the positions in them, what is distributed to the
    positions, and how positions are transferred, split, merged, pledged, frozen and redeemed. -/

namespace Unified.Syndicate

inductive PositionStatus where
  | none | pending | active | pledged | frozen | merged | redeemed | cancelled
  deriving DecidableEq, Repr, Inhabited

inductive TransferPolicy where
  | none | nonTransferable | freelyTransferable
  deriving DecidableEq, Repr, Inhabited

structure TrancheConfiguration (W : Type) where
  trancheId : W
  nameHash : W
  (seniorityRank targetSize couponBps votingBps : Nat)
  transferPolicy : TransferPolicy
  deriving DecidableEq, Inhabited

structure Tranche (W : Type) where
  configuration : TrancheConfiguration W
  (fundedPrincipal outstandingPrincipal totalShares issuedShares : Nat)
  residualPositionId : W
  deriving DecidableEq, Inhabited

structure Position (W : Type) where
  positionId : W
  trancheId : W
  (owner pledgee : Address)
  (shares votingPower acquiredAt : Nat)
  status : PositionStatus
  deriving DecidableEq, Inhabited

inductive Revert where
  | unauthorizedPositionCaller | invalidTranche | invalidPosition | invalidPositionState
  | positionBalanceMismatch | invalidFundingRound | invalidFundingState | invalidCommitment | duplicatePayment
  | settlementBalanceMismatch | token | registry | arithmetic
  deriving DecidableEq, Repr

def BPS : Nat := 10000

def MAX_TRANCHES : Nat := 8

def MAX_POSITIONS : Nat := 64

def MAX_VOTES : Nat := 2 ^ 192 - 1

/-- The storage of the contract. Of the checkpoints of votes only the latest values are read here. -/
structure PositionManager (W : Type) [Evm W] where
  fundingActivated : Bool
  (totalIssuedShares totalOutstandingPrincipal : Nat)
  tranches : Mapping W (Tranche W)
  trancheIds : List W
  positions : Mapping W (Position W)
  positionIds : List W
  positionsByTranche : Mapping W (List W)
  accruedDistribution : Mapping W Nat
  (withdrawable currentVotes : Mapping Address Nat)
  totalVotes : Nat
  deriving Inhabited

namespace PositionManager

variable {W : Type} [Evm W]

def tranche (m : PositionManager W) (trancheId : W) : Except Revert (Tranche W) := do
  require ((m.tranches trancheId).configuration.trancheId ≠ 0) .invalidTranche
  pure (m.tranches trancheId)

def position (m : PositionManager W) (positionId : W) : Except Revert (Position W) := do
  require ((m.positions positionId).status ≠ .none) .invalidPosition
  pure (m.positions positionId)

def setPosition (m : PositionManager W) (positionId : W) (p : Position W) : PositionManager W :=
  { m with positions := m.positions.set positionId p }

def setTranche (m : PositionManager W) (trancheId : W) (t : Tranche W) : PositionManager W :=
  { m with tranches := m.tranches.set trancheId t }

def writeVotes (m : PositionManager W) (owner : Address) (votes : Nat) : Except Revert (PositionManager W) := do
  require (votes ≤ MAX_VOTES) .invalidPosition
  pure { m with currentVotes := m.currentVotes.set owner votes }

def takeVotes (m : PositionManager W) (source : Address) (amount : Nat) : Except Revert (PositionManager W) :=
  if source = 0 then pure m
  else do
    require (amount ≤ m.currentVotes source) .arithmetic
    m.writeVotes source (m.currentVotes source - amount)

def giveVotes (m : PositionManager W) (dst : Address) (amount : Nat) : Except Revert (PositionManager W) :=
  if dst = 0 then pure m else m.writeVotes dst (m.currentVotes dst + amount)

/-- `_moveVotes`; the zero address stands for votes that are issued or end. -/
def moveVotes (m : PositionManager W) (source dst : Address) (amount : Nat) : Except Revert (PositionManager W) :=
  if amount = 0 ∨ source = dst then pure m
  else do
    require (amount ≤ MAX_VOTES) .invalidPosition
    let m ← m.takeVotes source amount
    let m ← m.giveVotes dst amount
    let total := if source = 0 then m.totalVotes + amount else m.totalVotes
    require (dst = 0 → amount ≤ total) .arithmetic
    let total := if dst = 0 then total - amount else total
    require (total ≤ MAX_VOTES) .invalidPosition
    pure { m with totalVotes := total }

def votingPower (m : PositionManager W) (trancheId : W) (shares : Nat) : Nat :=
  mulDiv shares (m.tranches trancheId).configuration.votingBps BPS

/-! ### Funding -/

def configureTranche (m : PositionManager W) (configuration : TrancheConfiguration W) :
    Except Revert (PositionManager W) := do
  require (m.fundingActivated = false ∧ configuration.trancheId ≠ 0 ∧ configuration.nameHash ≠ 0 ∧
    configuration.targetSize ≠ 0 ∧ configuration.seniorityRank = m.trancheIds.length + 1 ∧
    configuration.votingBps ≤ BPS ∧ configuration.transferPolicy ≠ .none ∧ m.trancheIds.length < MAX_TRANCHES ∧
    (m.tranches configuration.trancheId).configuration.trancheId = 0) .invalidTranche
  pure { m.setTranche configuration.trancheId { m.tranches configuration.trancheId with configuration := configuration } with
    trancheIds := m.trancheIds ++ [configuration.trancheId] }

def issuePending (m : PositionManager W) (positionId trancheId : W) (owner : Address) (shares now : Nat) :
    Except Revert (PositionManager W) := do
  let t ← m.tranche trancheId
  require (m.fundingActivated = false ∧ positionId ≠ 0 ∧ owner ≠ 0 ∧ shares ≠ 0 ∧
    (m.positions positionId).status = .none ∧ m.positionIds.length < MAX_POSITIONS ∧
    t.fundedPrincipal + shares ≤ t.configuration.targetSize) .invalidPosition
  require (MulDivFits shares t.configuration.votingBps BPS) .arithmetic
  pure { m with
    positions := m.positions.set positionId
      ⟨positionId, trancheId, owner, 0, shares, m.votingPower trancheId shares, now, .pending⟩
    positionIds := m.positionIds ++ [positionId]
    positionsByTranche := m.positionsByTranche.modify trancheId (· ++ [positionId])
    tranches := m.tranches.set trancheId { t with
      fundedPrincipal := t.fundedPrincipal + shares
      totalShares := t.totalShares + shares
      issuedShares := t.issuedShares + shares
      residualPositionId := if t.residualPositionId = 0 then positionId else t.residualPositionId }
    totalIssuedShares := m.totalIssuedShares + shares }

/-- One tranche of the loop of `activateFunding`. -/
def openTranche (m : PositionManager W) (trancheId : W) : PositionManager W :=
  m.setTranche trancheId { m.tranches trancheId with outstandingPrincipal := (m.tranches trancheId).fundedPrincipal }

/-- One position of the loop of `activateFunding`. -/
def openPosition (m : PositionManager W) (positionId : W) : Except Revert (PositionManager W) :=
  (m.setPosition positionId { m.positions positionId with status := .active }).moveVotes 0 (m.positions positionId).owner
    (m.positions positionId).votingPower

def activateFunding (m : PositionManager W) (fundedPrincipal : Nat) : Except Revert (PositionManager W) := do
  require (m.fundingActivated = false ∧ fundedPrincipal ≠ 0 ∧ fundedPrincipal = m.totalIssuedShares ∧
    m.trancheIds.length ≠ 0) .invalidPosition
  let m := { m with fundingActivated := true, totalOutstandingPrincipal := fundedPrincipal }
  m.positionIds.foldlM openPosition (m.trancheIds.foldl openTranche m)

def cancelPending (m : PositionManager W) (positionId : W) : Except Revert (PositionManager W) := do
  let p ← m.position positionId
  require (m.fundingActivated = false ∧ p.status = .pending) .invalidPositionState
  let t := m.tranches p.trancheId
  require (p.shares ≤ t.fundedPrincipal ∧ p.shares ≤ t.totalShares ∧ p.shares ≤ t.issuedShares ∧
    p.shares ≤ m.totalIssuedShares) .arithmetic
  pure { m with
    positions := m.positions.set positionId { p with shares := 0, votingPower := 0, status := .cancelled }
    tranches := m.tranches.set p.trancheId { t with
      fundedPrincipal := t.fundedPrincipal - p.shares
      totalShares := t.totalShares - p.shares
      issuedShares := t.issuedShares - p.shares }
    totalIssuedShares := m.totalIssuedShares - p.shares }

/-- The part of a position in an amount for its tranche, rounded down. -/
def allocation (m : PositionManager W) (trancheId : W) (amount : Nat) (positionId : W) : Nat :=
  if (m.positions positionId).shares = 0 then 0
  else mulDiv amount (m.positions positionId).shares (m.tranches trancheId).totalShares

/-- What the parts add up to. -/
def allocated (m : PositionManager W) (trancheId : W) (amount : Nat) : Nat :=
  ((m.positionsByTranche trancheId).map (m.allocation trancheId amount)).sum

/-- Every part is a word. -/
def AllocationsFit (m : PositionManager W) (trancheId : W) (amount : Nat) : Prop :=
  ∀ id ∈ m.positionsByTranche trancheId, (m.positions id).shares ≠ 0 →
    MulDivFits amount (m.positions id).shares (m.tranches trancheId).totalShares

instance (m : PositionManager W) (trancheId : W) (amount : Nat) : Decidable (m.AllocationsFit trancheId amount) := by
  unfold AllocationsFit
  infer_instance

def accrue (m : PositionManager W) (positionId : W) (amount : Nat) : PositionManager W :=
  { m with accruedDistribution := m.accruedDistribution.modify positionId (· + amount) }

/-- `recordDistribution` after the tokens have come; what the rounding leaves goes to the residual position. -/
def recordDistribution (m : PositionManager W) (trancheId : W) (amount : Nat) : Except Revert (PositionManager W) := do
  let t ← m.tranche trancheId
  require (m.fundingActivated = true ∧ amount ≠ 0 ∧ amount ≤ t.outstandingPrincipal) .invalidTranche
  require (m.AllocationsFit trancheId amount) .arithmetic
  let paid := (m.positionsByTranche trancheId).foldl
    (fun paid id => paid.accrue (m.positions id).positionId (m.allocation trancheId amount id)) m
  require (m.allocated trancheId amount ≤ amount) .arithmetic
  let residual := amount - m.allocated trancheId amount
  require (residual ≠ 0 → (m.positions t.residualPositionId).shares ≠ 0) .positionBalanceMismatch
  let paid := if residual = 0 then paid else paid.accrue (m.positions t.residualPositionId).positionId residual
  require (amount ≤ m.totalOutstandingPrincipal) .arithmetic
  pure { paid.setTranche trancheId { t with outstandingPrincipal := t.outstandingPrincipal - amount } with
    totalOutstandingPrincipal := m.totalOutstandingPrincipal - amount }

def settleAccrued (m : PositionManager W) (p : Position W) : PositionManager W :=
  if m.accruedDistribution p.positionId = 0 then m
  else { m with
    accruedDistribution := m.accruedDistribution.set p.positionId 0
    withdrawable := m.withdrawable.modify p.owner (· + m.accruedDistribution p.positionId) }

/-- `_claimUnits`, where `ClaimFits` holds. -/
def claimUnits (m : PositionManager W) (p : Position W) : Nat :=
  let t := m.tranches p.trancheId
  if p.shares = 0 ∨ t.outstandingPrincipal = 0 then 0
  else
    let claim := mulDiv t.outstandingPrincipal p.shares t.totalShares
    if p.positionId ≠ t.residualPositionId then claim
    else claim + t.outstandingPrincipal - m.allocated p.trancheId t.outstandingPrincipal

/-- The quotients and sums of `_claimUnits` are words, and nothing is taken from less. -/
def ClaimFits (m : PositionManager W) (p : Position W) : Prop :=
  let t := m.tranches p.trancheId
  p.shares ≠ 0 → t.outstandingPrincipal ≠ 0 → MulDivFits t.outstandingPrincipal p.shares t.totalShares ∧
    (p.positionId = t.residualPositionId → m.AllocationsFit p.trancheId t.outstandingPrincipal ∧
      m.allocated p.trancheId t.outstandingPrincipal < 2 ^ 256 ∧
      mulDiv t.outstandingPrincipal p.shares t.totalShares + t.outstandingPrincipal < 2 ^ 256 ∧
      m.allocated p.trancheId t.outstandingPrincipal ≤
        mulDiv t.outstandingPrincipal p.shares t.totalShares + t.outstandingPrincipal)

instance (m : PositionManager W) (p : Position W) : Decidable (m.ClaimFits p) := by
  unfold ClaimFits
  infer_instance

/-! ### Owners -/

def transferPosition (m : PositionManager W) (caller : Address) (now : Nat) (positionId : W) (buyer : Address)
    (evidenceHash : W) : Except Revert (PositionManager W) := do
  let p ← m.position positionId
  require (p.owner = caller ∧ buyer ≠ 0 ∧ buyer ≠ caller ∧ evidenceHash ≠ 0 ∧ p.status = .active ∧
    (m.tranches p.trancheId).configuration.transferPolicy = .freelyTransferable) .invalidPositionState
  require (m.ClaimFits p) .arithmetic
  require (m.claimUnits p ≠ 0) .invalidPositionState
  let m ← (m.settleAccrued p).moveVotes p.owner buyer p.votingPower
  pure (m.setPosition positionId { p with owner := buyer, acquiredAt := now })

def splitPosition (m : PositionManager W) (caller : Address) (now : Nat) (positionId newPositionId : W) (splitShares : Nat)
    (newOwner : Address) : Except Revert (PositionManager W) := do
  let p ← m.position positionId
  require (p.owner = caller ∧ newPositionId ≠ 0 ∧ (m.positions newPositionId).status = .none ∧ newOwner = p.owner ∧
    splitShares ≠ 0 ∧ splitShares < p.shares ∧ p.status = .active ∧
    (m.tranches p.trancheId).configuration.transferPolicy = .freelyTransferable ∧
    m.positionIds.length < MAX_POSITIONS) .invalidPositionState
  require (MulDivFits p.votingPower splitShares p.shares) .arithmetic
  let splitVotingPower := mulDiv p.votingPower splitShares p.shares
  let m ← (m.settleAccrued p).moveVotes p.owner newOwner splitVotingPower
  let m := m.setPosition positionId
    { p with shares := p.shares - splitShares, votingPower := p.votingPower - splitVotingPower }
  let m := m.setPosition newPositionId
    ⟨newPositionId, p.trancheId, newOwner, 0, splitShares, splitVotingPower, now, .active⟩
  pure { m with
    positionIds := m.positionIds ++ [newPositionId]
    positionsByTranche := m.positionsByTranche.modify p.trancheId (· ++ [newPositionId]) }

def mergePositions (m : PositionManager W) (caller : Address) (primaryPositionId mergedPositionId : W) :
    Except Revert (PositionManager W) := do
  require (primaryPositionId ≠ mergedPositionId) .invalidPosition
  let primary ← m.position primaryPositionId
  let merged ← m.position mergedPositionId
  require (primary.owner = caller ∧ merged.owner = caller ∧ primary.trancheId = merged.trancheId ∧
    primary.status = .active ∧ merged.status = .active) .invalidPositionState
  let m := (m.settleAccrued primary).settleAccrued merged
  let m := m.setPosition primaryPositionId { primary with
    shares := primary.shares + merged.shares
    votingPower := primary.votingPower + merged.votingPower }
  let t := m.tranches primary.trancheId
  let m := m.setTranche primary.trancheId { t with
    residualPositionId := if t.residualPositionId = mergedPositionId then primaryPositionId else t.residualPositionId }
  pure (m.setPosition mergedPositionId { merged with shares := 0, votingPower := 0, status := .merged })

def pledgePosition (m : PositionManager W) (caller : Address) (positionId : W) (pledgee : Address) (evidenceHash : W) :
    Except Revert (PositionManager W) := do
  let p ← m.position positionId
  require (p.owner = caller ∧ pledgee ≠ 0 ∧ pledgee ≠ caller ∧ evidenceHash ≠ 0 ∧ p.status = .active) .invalidPositionState
  pure (m.setPosition positionId { p with pledgee := pledgee, status := .pledged })

def releasePledge (m : PositionManager W) (caller : Address) (positionId : W) : Except Revert (PositionManager W) := do
  let p ← m.position positionId
  require (p.status = .pledged ∧ p.pledgee = caller) .invalidPositionState
  pure (m.setPosition positionId { p with pledgee := 0, status := .active })

def setFrozen (m : PositionManager W) (riskCouncil : Bool) (positionId : W) (frozen : Bool) (evidenceHash : W) :
    Except Revert (PositionManager W) := do
  require (riskCouncil = true ∧ evidenceHash ≠ 0) .unauthorizedPositionCaller
  let p ← m.position positionId
  require (p.status = if frozen then .active else .frozen) .invalidPositionState
  pure (m.setPosition positionId { p with status := if frozen then .frozen else .active })

def withdrawDistribution (m : PositionManager W) (caller : Address) (positionId : W) : Except Revert (PositionManager W) := do
  let p ← m.position positionId
  require (p.owner = caller) .invalidPositionState
  pure (m.settleAccrued p)

/-- `_withdrawAvailable` before the transfer, with the amount to transfer. -/
def withdrawAvailable (m : PositionManager W) (owner : Address) : Except Revert (PositionManager W × Nat) := do
  require (m.withdrawable owner ≠ 0) .invalidPositionState
  pure ({ m with withdrawable := m.withdrawable.set owner 0 }, m.withdrawable owner)

def redeemPosition (m : PositionManager W) (caller : Address) (positionId : W) : Except Revert (PositionManager W) := do
  let p ← m.position positionId
  require (p.owner = caller ∧ p.status = .active ∧ (m.tranches p.trancheId).outstandingPrincipal = 0) .invalidPositionState
  let m ← (m.settleAccrued p).moveVotes p.owner 0 p.votingPower
  let t := m.tranches p.trancheId
  require (p.shares ≤ t.totalShares) .arithmetic
  let m := m.setTranche p.trancheId { t with totalShares := t.totalShares - p.shares }
  pure (m.setPosition positionId { p with shares := 0, votingPower := 0, status := .redeemed })

end PositionManager

end Unified.Syndicate
