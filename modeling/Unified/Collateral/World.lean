import Unified.Lib.Reentrancy
import Unified.Collateral.Liquidation

/-! Loans, their collateral and its liquidation as one system. A call that moves collateral hands over control to the
    token or to the recipient, who can call any contract of the system before the first call goes on. -/

namespace Unified.Collateral

open Loan

structure Deployment (W : Type) [Evm W] where
  (factory engine treasury : Address)
  uftAssetId : W
  uft : Address
  /-- The address of the vault of a loan, which is made from the loan id. -/
  vault : W → Address
  /-- The engine and the vaults: they make no calls of their own accord. -/
  own : Address → Bool
  own_engine : own engine = true
  own_vault : ∀ loanId, own (vault loanId) = true
  vault_injective : Function.Injective vault
  vault_ne_engine : ∀ loanId, vault loanId ≠ engine
  treasury_ne : treasury ≠ 0 ∧ treasury ≠ engine

/-- What a call finds outside of the modelled contracts: its caller with the roles it has, the time, and the answers of
    the other contracts. -/
structure Context where
  caller : Address
  timestamp : Nat
  (riskCouncil governance servicer : Bool)
  /-- The factory's checks of an origination have passed. -/
  originates : Bool
  /-- `liquidationEligible` of the servicing engine, for the loan of the call. -/
  eligible : Bool
  /-- `validateObservation` of the oracle router, for the observation of the call. -/
  pricingValid : Bool
  /-- The token of the asset that the call is about, and whether it is active. -/
  registered : Option (Address × Bool)
  (collateralDecimals settlementDecimals : Nat)
  /-- The token that is registered for the asset of the loan's principal. -/
  settlementAsset : Address
  /-- The recipient of a delivery takes it. -/
  accepts : Bool
  deriving DecidableEq, Inhabited

structure World (W : Type) [Evm W] where
  assets : Mapping AssetKey Token
  registry : Mapping W LoanRecord
  loans : Mapping W (CoreLoanAccount W)
  custody : Custody W
  auctions : Auctions W
  /-- What was put into each item and what was taken out of it so far; no contract reads it. -/
  (deposited disposed : Mapping (W × W) Nat)
  deriving Inhabited

def settlementKey (token : Address) : AssetKey := ⟨.erc20, token, 0⟩

namespace World

variable {W : Type} [Evm W]

def balance (w : World W) (key : AssetKey) (account : Address) : Nat := (w.assets key).balances account

def move (w : World W) (key : AssetKey) (src dst : Address) (amount : Nat) : Except Revert (World W) := do
  let token ← (w.assets key).transfer .token src dst amount
  pure { w with assets := w.assets.set key token }

/-- `_pullExact` and `_transferExact`. -/
def moveExact (w : World W) (token src dst : Address) (amount : Nat) : Except Revert (World W) := do
  let moved ← (w.assets (settlementKey token)).transferExact .token .settlementBalanceMismatch src dst amount
  pure { w with assets := w.assets.set (settlementKey token) moved }

/-- Control goes to others, but not where the native currency is moved with a call of the system itself. -/
def hand (kind : CollateralKind) (inner : World W → World W) (w : World W) : World W :=
  if kind = .native then w else inner w

/-- A loan is created, registered and activated by the factory in one call. -/
def originate (d : Deployment W) (ctx : Context) (terms : LoanTerms W) (lender settlementToken : Address) (journalRef : W)
    (w : World W) : Except Revert (World W) := do
  require (ctx.originates = true) .unauthorized
  require ((w.registry terms.loanId).registered = false) .invalidLoan
  let account ← (CoreLoanAccount.initializeLoan d.factory ctx.timestamp
    { terms with commencementTime := ctx.timestamp } lender settlementToken).mapError .loan
  let activated ← (account.activate d.factory ctx.timestamp journalRef).mapError .loan
  pure { w with
    loans := w.loans.set terms.loanId activated.1
    registry := w.registry.set terms.loanId ⟨true, terms.borrower, false⟩ }

/-- `repay` of the account; a loan that is repaid is marked as terminal. -/
def repayLoan (caller : Address) (now : Nat) (loanId paymentId : W) (amount : Nat) (journalRef : W) (w : World W) :
    Except Revert (World W) := do
  require ((w.registry loanId).registered = true) .invalidLoan
  let key := settlementKey (w.loans loanId).settlementToken
  let paid ← ((w.loans loanId).repay caller now (w.assets key) paymentId amount journalRef).mapError .loan
  pure { w with
    loans := w.loans.set loanId paid.1
    assets := w.assets.set key paid.2.1
    registry := w.registry.modify loanId fun record =>
      { record with terminal := record.terminal || decide (paid.1.outstandingPrincipal = 0) } }

def markTerminal (ctx : Context) (loanId : W) (w : World W) : Except Revert (World W) := do
  require ((w.registry loanId).registered = true) .invalidLoan
  require (ctx.servicer = true) .unauthorized
  require ((w.registry loanId).terminal = false) .invalidLoan
  pure { w with registry := w.registry.modify loanId fun record => { record with terminal := true } }

/-! ### Custody -/

def Received (kind : CollateralKind) (held now amount : Nat) : Prop :=
  match kind with
  | .erc721 => now ≠ 0
  | .native => True
  | _ => now = held + amount

instance (kind : CollateralKind) (held now amount : Nat) : Decidable (Received kind held now amount) := by
  unfold Received
  split <;> infer_instance

/-- The lock functions of the manager, with the deposit into the vault. -/
def lock (d : Deployment W) (ctx : Context) (kind : CollateralKind) (loanId collateralId assetId : W)
    (tokenId amount : Nat) (before after : World W → World W) (w : World W) : Except Revert (World W) := do
  let configuration ← w.custody.validateDeposit (w.assets (settlementKey d.uft)).totalSupply ctx.caller
    (w.registry loanId) loanId collateralId assetId kind amount
  let custody ← w.custody.openVault loanId
  let custody ← custody.beginDeposit loanId collateralId assetId ctx.caller amount
  let key : AssetKey := ⟨kind, if kind = .native then 0 else configuration.token, tokenId⟩
  let item : CollateralItem W :=
    ⟨collateralId, assetId, kind, key.token, tokenId, amount, ctx.caller, ctx.timestamp, .locked⟩
  let moved ← (hand kind before { w with custody := custody }).move key ctx.caller (d.vault loanId) amount
  let w' := hand kind after moved
  require (Received kind (w.balance key (d.vault loanId)) (w'.balance key (d.vault loanId)) amount) .custodyBalanceMismatch
  pure { w' with
    custody := (w'.custody.store loanId item).register ctx.caller loanId collateralId assetId amount
    deposited := w'.deposited.modify (loanId, collateralId) (· + amount) }

def lockERC20 (d : Deployment W) (ctx : Context) (loanId collateralId assetId : W) (amount : Nat) :=
  lock d ctx .erc20 loanId collateralId assetId 0 amount

def lockNative (d : Deployment W) (ctx : Context) (loanId collateralId assetId : W) (value : Nat) :=
  lock d ctx .native loanId collateralId assetId 0 value

def lockERC721 (d : Deployment W) (ctx : Context) (loanId collateralId assetId : W) (tokenId : Nat) :=
  lock d ctx .erc721 loanId collateralId assetId tokenId 1

def lockERC1155 (d : Deployment W) (ctx : Context) (loanId collateralId assetId : W) (tokenId amount : Nat) :=
  lock d ctx .erc1155 loanId collateralId assetId tokenId amount

/-- `_transfer` of a vault. A recipient can refuse everything but fungible tokens; the vaults and the engine do. -/
def deliver (d : Deployment W) (ctx : Context) (loanId : W) (item : CollateralItem W) (recipient : Address)
    (quantity : Nat) (before after : World W → World W) (w : World W) : Except Revert (World W) := do
  require (item.kind ≠ .none) .invalidCollateral
  require (item.kind ≠ .erc20 → ctx.accepts = true ∧ d.own recipient = false) .custodyBalanceMismatch
  let moved ← (hand item.kind before w).move item.key (d.vault loanId) recipient quantity
  let w' := after moved
  require (item.kind = .erc20 →
    w'.balance item.key (d.vault loanId) + quantity = w.balance item.key (d.vault loanId) ∧
      w'.balance item.key recipient = w.balance item.key recipient + quantity) .custodyBalanceMismatch
  pure w'

/-- `_decreaseExposure` and `dispose`. -/
def dispose (d : Deployment W) (ctx : Context) (loanId collateralId : W) (recipient : Address) (quantity : Nat)
    (target : CollateralStatus) (before after : World W → World W) (w : World W) : Except Revert (World W) := do
  let item ← w.custody.collateral loanId collateralId
  let custody ← w.custody.decreaseExposure loanId (w.registry loanId).borrower item.assetId quantity
  let custody ← custody.beginDisposal loanId collateralId recipient quantity target
  let w' ← deliver d ctx loanId item recipient quantity before after
    { w with custody := custody, disposed := w.disposed.modify (loanId, collateralId) (· + quantity) }
  pure { w' with custody := w'.custody.leave loanId }

def releaseCollateral (d : Deployment W) (ctx : Context) (loanId collateralId : W) (recipient : Address) (journalRef : W)
    (before after : World W → World W) (w : World W) : Except Revert (World W) := do
  let borrower := (w.registry loanId).borrower
  require (ctx.caller = borrower ∧ recipient = borrower ∧ journalRef ≠ 0 ∧ (w.registry loanId).terminal = true ∧
    (w.loans loanId).outstandingPrincipal = 0 ∧ w.custody.collateralLoan collateralId = loanId)
    .invalidCollateralOperation
  dispose d ctx loanId collateralId recipient (w.custody.items (loanId, collateralId)).quantity .released before after w

def liquidateCollateral (d : Deployment W) (ctx : Context) (caller : Address) (loanId collateralId : W)
    (recipient : Address) (quantity : Nat) (before after : World W → World W) (w : World W) :
    Except Revert (World W) := do
  require (caller = w.custody.liquidationEngine) .unauthorizedLiquidationEngine
  require (w.custody.collateralLoan collateralId = loanId) .invalidCollateralOperation
  dispose d ctx loanId collateralId recipient quantity .liquidated before after w

/-! ### Liquidations -/

def startLiquidation (d : Deployment W) (ctx : Context) (request : PlanRequest W) (observation : OracleObservation W)
    (w : World W) : Except Revert (World W) := do
  require (ctx.riskCouncil = true) .unauthorized
  let record := w.registry request.loanId
  let debt := w.loans request.loanId
  require (request.Valid ctx.timestamp ∧ (w.auctions.plans request.liquidationId).status = .none ∧
    w.auctions.activeLiquidation request.collateralId = 0 ∧
    w.custody.collateralLoan request.collateralId = request.loanId ∧ record.registered = true ∧
    record.terminal = false ∧ ctx.eligible = true ∧ debt.outstandingPrincipal ≠ 0) .invalidLiquidationPlan
  let item ← w.custody.collateral request.loanId request.collateralId
  require (debt.terms.policySetHash = request.policySetHash ∧ debt.terms.assetId = observation.quoteAssetId ∧
    item.assetId = observation.assetId ∧ item.status = .locked ∧ request.quantity ≤ item.quantity ∧
    (item.kind = .erc721 → request.quantity = 1)) .invalidLiquidationPlan
  require (ctx.pricingValid = true) .pricingEvidenceUnavailable
  let reference ← referenceProceeds (if item.kind = .native then 18 else ctx.collateralDecimals) ctx.settlementDecimals
    request.quantity observation.value
  let reservePrice := reference * request.minimumProceedsBps / BPS
  require (reservePrice ≠ 0 ∧ request.executionCostCap ≤ reservePrice * MAXIMUM_EXECUTION_COST_BPS / BPS)
    .invalidLiquidationPlan
  -- `_settlementToken` and `_borrower`
  require (debt.settlementToken ≠ 0 ∧ ctx.settlementAsset = debt.settlementToken) .invalidLiquidationPlan
  require (record.borrower ≠ 0 ∧ record.borrower ≠ d.engine ∧ debt.lender ≠ 0 ∧ debt.lender ≠ d.engine)
    .invalidLiquidationPlan
  let plan : Plan W := {
    liquidationId := request.liquidationId
    loanId := request.loanId
    collateralId := request.collateralId
    policySetHash := request.policySetHash
    triggerSnapshotHash := request.triggerSnapshotHash
    pricingContext := request.pricingContext
    saleKind := request.saleKind
    status := .active
    settlementToken := debt.settlementToken
    borrower := record.borrower
    quantity := request.quantity
    referenceProceeds := reference
    reservePrice := reservePrice
    executionCostCap := request.executionCostCap
    incentiveBps := request.incentiveBps
    minimumBidIncrementBps := request.minimumBidIncrementBps
    startsAt := request.startsAt
    endsAt := request.endsAt
    observation := observation }
  pure { w with auctions := { w.auctions with
    plans := w.auctions.plans.set request.liquidationId plan
    activeLiquidation := w.auctions.activeLiquidation.set request.collateralId request.liquidationId } }

def guarded (body : World W → Except Revert (World W)) (w : World W) : Except Revert (World W) := do
  require (w.auctions.entered = false) .reentrantCall
  let w' ← body { w with auctions := { w.auctions with entered := true } }
  pure { w' with auctions := { w'.auctions with entered := false } }

def requireEligibleAndFresh (ctx : Context) (plan : Plan W) (w : World W) : Except Revert Unit := do
  require (ctx.eligible = true) .liquidationNotEligible
  require ((w.registry plan.loanId).registered = true) .invalidLiquidationPlan
  require ((w.loans plan.loanId).outstandingPrincipal ≠ 0) .liquidationNotEligible
  require (ctx.pricingValid = true) .pricingEvidenceUnavailable
  let item ← w.custody.collateral plan.loanId plan.collateralId
  require (item.status = .locked ∧ plan.quantity ≤ item.quantity) .invalidLiquidationState

def actionable (ctx : Context) (plan : Plan W) (kind : SaleKind) (w : World W) : Except Revert Unit := do
  require (plan.status = .active ∧ plan.saleKind = kind ∧ plan.startsAt ≤ ctx.timestamp ∧ ctx.timestamp ≤ plan.endsAt)
    .invalidLiquidationState
  requireEligibleAndFresh ctx plan w

/-- A payment of the engine; nothing is sent where nothing is due. -/
def payOut (d : Deployment W) (token dst : Address) (amount : Nat) (w : World W) : Except Revert (World W) :=
  if amount = 0 then pure w else w.moveExact token d.engine dst amount

/-- The repayment of a settlement, where something is left for the lender. -/
def payClaim (d : Deployment W) (now : Nat) (loanId : W) (result : Settlement W) (w : World W) :
    Except Revert (World W) :=
  if result.securedClaimPaid = 0 then pure w
  else w.repayLoan d.engine now loanId result.paymentId result.securedClaimPaid result.journalRef

def executeSettlementTransfers (d : Deployment W) (ctx : Context) (plan : Plan W) (result : Settlement W)
    (before after : World W → World W) (w : World W) : Except Revert (World W) := do
  let w ← liquidateCollateral d ctx d.engine plan.loanId plan.collateralId result.buyer plan.quantity before after w
  let w ← payOut d plan.settlementToken d.treasury result.executionCosts w
  let w ← payOut d plan.settlementToken result.executor result.liquidationIncentive w
  let w ← payClaim d ctx.timestamp plan.loanId result w
  payOut d plan.settlementToken plan.borrower result.borrowerSurplus w

def settle (d : Deployment W) (ctx : Context) (plan : Plan W) (buyer executor : Address) (grossProceeds : Nat)
    (before after : World W → World W) (w : World W) : Except Revert (World W) := do
  let debtBefore := (w.loans plan.loanId).outstandingPrincipal
  let result := plan.calculateSettlement buyer executor grossProceeds debtBefore
  let w ← executeSettlementTransfers d ctx plan result before after w
  let residual := (w.loans plan.loanId).outstandingPrincipal
  require (residual ≤ debtBefore) .arithmetic
  require (debtBefore - residual = result.securedClaimPaid ∧ result.grossProceeds = result.executionCosts +
    result.liquidationIncentive + result.securedClaimPaid + result.borrowerSurplus) .settlementBalanceMismatch
  pure { w with auctions := { w.auctions with
    plans := w.auctions.plans.modify plan.liquidationId fun plan => { plan with status := .settled }
    activeLiquidation := w.auctions.activeLiquidation.set plan.collateralId 0
    settlements := w.auctions.settlements.set plan.liquidationId { result with residualBadDebt := residual } } }

/-- A sale to the caller at a price that the plan gives. -/
def execute (d : Deployment W) (ctx : Context) (kind : SaleKind) (price : Plan W → Nat) (liquidationId : W)
    (maximumPrice : Nat) (before after : World W → World W) : World W → Except Revert (World W) :=
  guarded fun w => do
    let plan := w.auctions.plans liquidationId
    actionable ctx plan kind w
    require (price plan ≤ maximumPrice) .invalidLiquidationPlan
    let w ← w.moveExact plan.settlementToken ctx.caller d.engine (price plan)
    settle d ctx plan ctx.caller ctx.caller (price plan) before after w

def executeDirect (d : Deployment W) (ctx : Context) (liquidationId : W) (maximumPrice : Nat) :=
  execute d ctx .direct Plan.reservePrice liquidationId maximumPrice

def executeDutch (d : Deployment W) (ctx : Context) (liquidationId : W) (maximumPrice : Nat) :=
  execute d ctx .dutch (fun plan => plan.dutchPrice ctx.timestamp) liquidationId maximumPrice

def creditBid (token : Address) (current : Bid) (w : World W) : World W :=
  if current.amount = 0 then w
  else { w with auctions := { w.auctions with
    refundable := w.auctions.refundable.modify (token, current.bidder) (· + current.amount) } }

def bid (d : Deployment W) (ctx : Context) (liquidationId : W) (amount : Nat) : World W → Except Revert (World W) :=
  guarded fun w => do
    let plan := w.auctions.plans liquidationId
    actionable ctx plan .english w
    let current := w.auctions.highestBid liquidationId
    require (plan.minimumBid current ≤ amount) .bidTooLow
    let w ← w.moveExact plan.settlementToken ctx.caller d.engine amount
    let w := creditBid plan.settlementToken current w
    pure { w with auctions := { w.auctions with
      highestBid := w.auctions.highestBid.set liquidationId ⟨ctx.caller, amount⟩ } }

def settleEnglish (d : Deployment W) (ctx : Context) (liquidationId : W) (before after : World W → World W) :
    World W → Except Revert (World W) :=
  guarded fun w => do
    let plan := w.auctions.plans liquidationId
    require (plan.status = .active ∧ plan.saleKind = .english ∧ plan.endsAt < ctx.timestamp) .invalidLiquidationState
    requireEligibleAndFresh ctx plan w
    let winning := w.auctions.highestBid liquidationId
    require (winning.bidder ≠ 0 ∧ plan.reservePrice ≤ winning.amount) .invalidLiquidationState
    settle d ctx plan winning.bidder ctx.caller winning.amount before after w

def endPlan (plan : Plan W) (status : PlanStatus) (w : World W) : World W :=
  let winning := w.auctions.highestBid plan.liquidationId
  let w := creditBid plan.settlementToken winning w
  { w with auctions := { w.auctions with
    highestBid := if winning.amount = 0 then w.auctions.highestBid
      else w.auctions.highestBid.set plan.liquidationId default
    plans := w.auctions.plans.modify plan.liquidationId fun plan => { plan with status := status }
    activeLiquidation := w.auctions.activeLiquidation.set plan.collateralId 0 } }

def cancelInvalidated (ctx : Context) (liquidationId : W) : World W → Except Revert (World W) :=
  guarded fun w => do
    let plan := w.auctions.plans liquidationId
    require (plan.status = .active) .invalidLiquidationState
    require ((w.registry plan.loanId).registered = true) .invalidLiquidationPlan
    require (¬ (ctx.eligible = true ∧ (w.loans plan.loanId).outstandingPrincipal ≠ 0)) .liquidationNotEligible
    pure (endPlan plan .cancelled w)

def expire (ctx : Context) (liquidationId : W) : World W → Except Revert (World W) :=
  guarded fun w => do
    let plan := w.auctions.plans liquidationId
    require (plan.status = .active ∧ plan.endsAt < ctx.timestamp) .invalidLiquidationState
    require (¬ (plan.saleKind = .english ∧ (w.auctions.highestBid liquidationId).amount ≠ 0 ∧ ctx.eligible = true ∧
      (w.loans plan.loanId).outstandingPrincipal ≠ 0 ∧ ctx.pricingValid = true)) .invalidLiquidationState
    pure (endPlan plan .failed w)

def withdrawRefund (d : Deployment W) (ctx : Context) (token : Address) : World W → Except Revert (World W) :=
  guarded fun w => do
    let amount := w.auctions.refundable (token, ctx.caller)
    require (amount ≠ 0) .invalidLiquidationState
    let w := { w with auctions := { w.auctions with refundable := w.auctions.refundable.set (token, ctx.caller) 0 } }
    w.moveExact token d.engine ctx.caller amount

end World

/-! ### Calls -/

inductive Op (W : Type) where
  | transfer (key : AssetKey) (dst : Address) (amount : Nat)
  | originate (terms : LoanTerms W) (lender settlementToken : Address) (journalRef : W)
  | repay (loanId paymentId : W) (amount : Nat) (journalRef : W)
  | markTerminal (loanId : W)
  | configureAsset (assetId : W) (token : Address) (kind : CollateralKind) (enabled isUFT : Bool)
  | configureLiquidationEngine (engine : Address)
  | configureUFTDebtCeiling (ceiling : Nat) (evidenceHash : W)
  | bindUFTBackedDebt (loanId : W) (debtValue : Nat)
  | closeUFTBackedDebt (loanId : W)
  | createVault (loanId : W)
  | lockERC20 (loanId collateralId assetId : W) (amount : Nat)
  | lockNative (loanId collateralId assetId : W) (value : Nat)
  | lockERC721 (loanId collateralId assetId : W) (tokenId : Nat)
  | lockERC1155 (loanId collateralId assetId : W) (tokenId amount : Nat)
  | releaseCollateral (loanId collateralId : W) (recipient : Address) (journalRef : W)
  | liquidateCollateral (loanId collateralId : W) (recipient : Address) (quantity : Nat)
  | startLiquidation (request : PlanRequest W) (observation : OracleObservation W)
  | executeDirect (liquidationId : W) (maximumPrice : Nat)
  | executeDutch (liquidationId : W) (maximumPrice : Nat)
  | bid (liquidationId : W) (amount : Nat)
  | settleEnglish (liquidationId : W)
  | cancelInvalidated (liquidationId : W)
  | expire (liquidationId : W)
  | withdrawRefund (token : Address)

namespace World

variable {W : Type} [Evm W]

def configure (change : Custody W → Except Revert (Custody W)) (w : World W) : Except Revert (World W) := do
  let custody ← change w.custody
  pure { w with custody := custody }

def body (d : Deployment W) (ctx : Context) (before after : World W → World W) : Op W → World W → Except Revert (World W)
  | .transfer key dst amount => fun w => w.move key ctx.caller dst amount
  | .originate terms lender settlementToken journalRef => originate d ctx terms lender settlementToken journalRef
  | .repay loanId paymentId amount journalRef => repayLoan ctx.caller ctx.timestamp loanId paymentId amount journalRef
  | .markTerminal loanId => markTerminal ctx loanId
  | .configureAsset assetId token kind enabled isUFT => configure fun c => do
    require (ctx.riskCouncil = true) .unauthorized
    c.configureAsset d.uftAssetId d.uft ctx.registered assetId token kind enabled isUFT
  | .configureLiquidationEngine engine => configure fun c => do
    require (ctx.governance = true) .unauthorized
    c.configureLiquidationEngine engine
  | .configureUFTDebtCeiling ceiling evidenceHash => configure fun c => do
    require (ctx.riskCouncil = true) .unauthorized
    c.configureUFTDebtCeiling ceiling evidenceHash
  | .bindUFTBackedDebt loanId debtValue => fun w => w.configure fun c => do
    require (ctx.riskCouncil = true) .unauthorized
    c.bindUFTBackedDebt (w.registry loanId) loanId debtValue
  | .closeUFTBackedDebt loanId => fun w => w.configure fun c =>
    c.closeUFTBackedDebt d.uftAssetId (w.registry loanId) (w.loans loanId).outstandingPrincipal loanId
  | .createVault loanId => fun w => w.configure fun c => c.createVault ctx.caller (w.registry loanId) loanId
  | .lockERC20 loanId collateralId assetId amount => lockERC20 d ctx loanId collateralId assetId amount before after
  | .lockNative loanId collateralId assetId value => lockNative d ctx loanId collateralId assetId value before after
  | .lockERC721 loanId collateralId assetId tokenId => lockERC721 d ctx loanId collateralId assetId tokenId before after
  | .lockERC1155 loanId collateralId assetId tokenId amount =>
    lockERC1155 d ctx loanId collateralId assetId tokenId amount before after
  | .releaseCollateral loanId collateralId recipient journalRef =>
    releaseCollateral d ctx loanId collateralId recipient journalRef before after
  | .liquidateCollateral loanId collateralId recipient quantity =>
    liquidateCollateral d ctx ctx.caller loanId collateralId recipient quantity before after
  | .startLiquidation request observation => startLiquidation d ctx request observation
  | .executeDirect liquidationId maximumPrice => executeDirect d ctx liquidationId maximumPrice before after
  | .executeDutch liquidationId maximumPrice => executeDutch d ctx liquidationId maximumPrice before after
  | .bid liquidationId amount => bid d ctx liquidationId amount
  | .settleEnglish liquidationId => settleEnglish d ctx liquidationId before after
  | .cancelInvalidated liquidationId => cancelInvalidated ctx liquidationId
  | .expire liquidationId => expire ctx liquidationId
  | .withdrawRefund token => withdrawRefund d ctx token

/-- A call from outside: the engine and the vaults call nothing but what is modelled in the bodies. -/
def perform (d : Deployment W) (call : Context × Op W) (before after : World W → World W) (w : World W) :
    Except Revert (World W) := do
  require (d.own call.1.caller = false) .unauthorized
  body d call.1 before after call.2 w

/-- A call with the calls that are made from inside it. -/
abbrev Call (W : Type) := CallTree (Context × Op W)

def exec (d : Deployment W) : Call W → World W → Except Revert (World W) := CallTree.exec (perform d)

end World

def sampleDeployment : Deployment Term where
  factory := 2
  engine := 1
  treasury := 3
  uftAssetId := .lit 99
  uft := 8
  vault loanId := loanId.number + 100
  own a := decide (a = 1 ∨ 100 ≤ a)
  own_engine := rfl
  own_vault loanId := decide_eq_true (.inr (Nat.le_add_left ..))
  vault_injective _ _ h := Term.number_injective (Nat.add_right_cancel h)
  vault_ne_engine loanId := by
    intro h
    have : loanId.number + 100 = 1 := h
    omega
  treasury_ne := by decide

end Unified.Collateral
