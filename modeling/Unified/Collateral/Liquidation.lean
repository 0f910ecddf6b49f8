import Unified.Collateral.Custody

/-! The plans of the liquidation engine: what a plan has to look like, what it sells for, and how the proceeds are
    divided. -/

namespace Unified.Collateral

inductive SaleKind where
  | none | direct | dutch | english
  deriving DecidableEq, Repr, Inhabited

def SaleKind.toNat : SaleKind → Nat
  | .none => 0
  | .direct => 1
  | .dutch => 2
  | .english => 3

inductive PlanStatus where
  | none | active | settled | failed | cancelled
  deriving DecidableEq, Repr, Inhabited

structure OracleObservation (W : Type) where
  assetId : W
  quoteAssetId : W
  value : Nat
  sourceEvidenceHash : W
  deriving DecidableEq, Inhabited

structure PlanRequest (W : Type) where
  (liquidationId loanId collateralId : W)
  saleKind : SaleKind
  (quantity minimumProceedsBps incentiveBps minimumBidIncrementBps executionCostCap startsAt endsAt : Nat)
  policySetHash : W
  triggerSnapshotHash : W
  deriving DecidableEq, Inhabited

structure Plan (W : Type) where
  (liquidationId loanId collateralId policySetHash triggerSnapshotHash pricingContext : W)
  saleKind : SaleKind
  status : PlanStatus
  (settlementToken borrower : Address)
  (quantity referenceProceeds reservePrice executionCostCap incentiveBps minimumBidIncrementBps startsAt : Nat)
  endsAt : Nat
  observation : OracleObservation W
  deriving DecidableEq, Inhabited

structure Bid where
  bidder : Address
  amount : Nat
  deriving DecidableEq, Inhabited

structure Settlement (W : Type) where
  (grossProceeds executionCosts liquidationIncentive securedClaimPaid borrowerSurplus residualBadDebt : Nat)
  (buyer executor : Address)
  paymentId : W
  journalRef : W
  deriving DecidableEq, Inhabited

structure Auctions (W : Type) [Evm W] where
  plans : Mapping W (Plan W)
  highestBid : Mapping W Bid
  settlements : Mapping W (Settlement W)
  activeLiquidation : Mapping W W
  refundable : Mapping (Address × Address) Nat
  /-- The reentrancy guard. -/
  entered : Bool
  deriving Inhabited

def MINIMUM_PROCEEDS_BPS : Nat := 5000

def MAXIMUM_INCENTIVE_BPS : Nat := 1200

def MAXIMUM_EXECUTION_COST_BPS : Nat := 200

def MINIMUM_BID_INCREMENT_BPS : Nat := 50

def MAXIMUM_BID_INCREMENT_BPS : Nat := 2000

/-- Seven days. -/
def MAXIMUM_PLAN_DURATION : Nat := 604800

variable {W : Type} [Evm W]

namespace PlanRequest

def pricingContext (request : PlanRequest W) : W :=
  keccak256 "LIQUIDATION" [.bytes32 request.liquidationId, .bytes32 request.loanId, .bytes32 request.collateralId,
    .uint request.quantity, .uint request.saleKind.toNat, .bytes32 request.policySetHash,
    .bytes32 request.triggerSnapshotHash]

/-- What `_validateRequest` asks of the request itself. -/
def Valid (request : PlanRequest W) (now : Nat) : Prop :=
  request.liquidationId ≠ 0 ∧ request.loanId ≠ 0 ∧ request.collateralId ≠ 0 ∧ request.saleKind ≠ .none ∧
  request.quantity ≠ 0 ∧ MINIMUM_PROCEEDS_BPS ≤ request.minimumProceedsBps ∧ request.minimumProceedsBps ≤ BPS ∧
  request.incentiveBps ≤ MAXIMUM_INCENTIVE_BPS ∧ now ≤ request.startsAt ∧ request.startsAt < request.endsAt ∧
  request.endsAt - request.startsAt ≤ MAXIMUM_PLAN_DURATION ∧ request.policySetHash ≠ 0 ∧
  request.triggerSnapshotHash ≠ 0 ∧
  if request.saleKind = .english then MINIMUM_BID_INCREMENT_BPS ≤ request.minimumBidIncrementBps ∧
    request.minimumBidIncrementBps ≤ MAXIMUM_BID_INCREMENT_BPS
  else request.minimumBidIncrementBps = 0

instance (request : PlanRequest W) (now : Nat) : Decidable (request.Valid now) := by unfold Valid; infer_instance

end PlanRequest

def referenceProceeds (collateralDecimals settlementDecimals quantity normalizedPrice : Nat) : Except Revert Nat := do
  require (collateralDecimals ≤ 36 ∧ settlementDecimals ≤ 36) .invalidLiquidationPlan
  pure (normalizedPrice * quantity / 10 ^ collateralDecimals * 10 ^ settlementDecimals / 10 ^ 18)

namespace Plan

variable (plan : Plan W)

def dutchPrice (now : Nat) : Nat :=
  if now ≤ plan.startsAt then plan.referenceProceeds
  else if plan.endsAt ≤ now then plan.reservePrice
  else plan.referenceProceeds -
    (plan.referenceProceeds - plan.reservePrice) * (now - plan.startsAt) / (plan.endsAt - plan.startsAt)

def minimumBid (current : Bid) : Nat :=
  if current.amount = 0 then plan.reservePrice
  else current.amount + max 1 (current.amount * plan.minimumBidIncrementBps / BPS)

def paymentId : W := keccak256 "LIQUIDATION_PAYMENT" [.bytes32 plan.liquidationId]

def journalRef (grossProceeds : Nat) : W :=
  keccak256 "LIQUIDATION_JOURNAL" [.bytes32 plan.liquidationId, .bytes32 plan.triggerSnapshotHash,
    .bytes32 plan.observation.sourceEvidenceHash, .uint grossProceeds]

/-- `_calculateSettlement`; the residual debt is filled in at the end of the settlement. -/
def calculateSettlement (buyer executor : Address) (grossProceeds debtBefore : Nat) : Settlement W :=
  let executionCosts := min plan.executionCostCap grossProceeds
  let available := grossProceeds - executionCosts
  let liquidationIncentive := min (grossProceeds * plan.incentiveBps / BPS) available
  let available := available - liquidationIncentive
  let securedClaimPaid := min debtBefore available
  { grossProceeds := grossProceeds
    executionCosts := executionCosts
    liquidationIncentive := liquidationIncentive
    securedClaimPaid := securedClaimPaid
    borrowerSurplus := available - securedClaimPaid
    residualBadDebt := 0
    buyer := buyer
    executor := executor
    paymentId := plan.paymentId
    journalRef := plan.journalRef grossProceeds }

end Plan

end Unified.Collateral
