import Unified.Loan.CoreLoanAccount

/-! The collateral of loans: the items in the vault of each loan, and the manager's exposures of loans and borrowers. The
    entry points are here up to the points where assets move and others get control. -/

namespace Unified.Collateral

inductive CollateralKind where
  | none | native | erc20 | erc721 | erc1155
  deriving DecidableEq, Repr, Inhabited

inductive CollateralStatus where
  | none | locked | released | liquidated | claimed
  deriving DecidableEq, Repr, Inhabited

/-- One asset with balances: the native currency, a fungible token, or one token id of a collection. The owner of a
    non-fungible token has a balance of one. -/
structure AssetKey where
  kind : CollateralKind
  token : Address
  tokenId : Nat
  deriving DecidableEq, Repr

structure CollateralItem (W : Type) where
  collateralId : W
  assetId : W
  kind : CollateralKind
  token : Address
  (tokenId quantity : Nat)
  owner : Address
  lockedAt : Nat
  status : CollateralStatus
  deriving DecidableEq, Inhabited

def CollateralItem.key {W : Type} (item : CollateralItem W) : AssetKey := ⟨item.kind, item.token, item.tokenId⟩

structure AssetConfiguration where
  token : Address
  kind : CollateralKind
  (enabled isUFT : Bool)
  deriving DecidableEq, Inhabited

structure LoanRecord where
  registered : Bool
  borrower : Address
  terminal : Bool
  deriving DecidableEq, Inhabited

inductive Revert where
  | invalidCollateralConfiguration | invalidCollateralOperation | uftExposureExceeded
  | unauthorizedLiquidationEngine | unauthorized | invalidCollateral | collateralAlreadyExists
  | invalidCollateralState | custodyBalanceMismatch | invalidLiquidationPlan | invalidLiquidationState
  | liquidationNotEligible | pricingEvidenceUnavailable | bidTooLow | settlementBalanceMismatch | invalidLoan
  | loan (e : Loan.LoanError)
  | token | reentrantCall | arithmetic
  deriving DecidableEq, Repr

def BPS : Nat := 10000

def UFT_SINGLE_LOAN_EXPOSURE_BPS : Nat := 25

def UFT_BORROWER_EXPOSURE_BPS : Nat := 50

/-- The storage of the manager and of the vaults that it has created. A vault's storage is found under its loan. -/
structure Custody (W : Type) [Evm W] where
  liquidationEngine : Address
  (uftBackedDebtCeiling totalUftBackedDebt : Nat)
  uftBackedDebt : Mapping W Nat
  assetConfiguration : Mapping W AssetConfiguration
  vaults : Mapping W Bool
  collateralLoan : Mapping W W
  collateralIds : Mapping W (List W)
  loanExposure : Mapping (W × W) Nat
  borrowerExposure : Mapping (Address × W) Nat
  /-- `_items` of the vaults. -/
  items : Mapping (W × W) (CollateralItem W)
  /-- `_assetBalance` of the vaults. -/
  assetBalance : Mapping (W × W) Nat
  /-- The reentrancy guards of the vaults. -/
  entered : Mapping W Bool
  deriving Inhabited

namespace Custody

variable {W : Type} [Evm W] (c : Custody W)

def configureAsset (uftAssetId : W) (uft : Address) (registered : Option (Address × Bool)) (assetId : W) (token : Address)
    (kind : CollateralKind) (enabled isUFT : Bool) : Except Revert (Custody W) := do
  require (assetId ≠ 0 ∧ kind ≠ .none ∧ (kind = .native → token = 0) ∧ (kind ≠ .native → token ≠ 0) ∧
    (isUFT = true ↔ assetId = uftAssetId ∧ token = uft)) .invalidCollateralConfiguration
  require (kind ≠ .native → registered = some (token, true)) .invalidCollateralConfiguration
  let existing := c.assetConfiguration assetId
  require (existing.kind ≠ .none → existing.token = token ∧ existing.kind = kind ∧ existing.isUFT = isUFT)
    .invalidCollateralConfiguration
  pure { c with assetConfiguration := c.assetConfiguration.set assetId ⟨token, kind, enabled, isUFT⟩ }

def configureLiquidationEngine (engine : Address) : Except Revert (Custody W) := do
  require (engine ≠ 0 ∧ c.liquidationEngine = 0) .invalidCollateralConfiguration
  pure { c with liquidationEngine := engine }

def configureUFTDebtCeiling (ceiling : Nat) (evidenceHash : W) : Except Revert (Custody W) := do
  require (ceiling ≠ 0 ∧ c.totalUftBackedDebt ≤ ceiling ∧ evidenceHash ≠ 0) .invalidCollateralConfiguration
  pure { c with uftBackedDebtCeiling := ceiling }

def bindUFTBackedDebt (loan : LoanRecord) (loanId : W) (debtValue : Nat) : Except Revert (Custody W) := do
  require (loan.registered = true ∧ debtValue ≠ 0 ∧ c.uftBackedDebt loanId = 0 ∧
    c.totalUftBackedDebt + debtValue ≤ c.uftBackedDebtCeiling) .uftExposureExceeded
  pure { c with
    uftBackedDebt := c.uftBackedDebt.set loanId debtValue
    totalUftBackedDebt := c.totalUftBackedDebt + debtValue }

def closeUFTBackedDebt (uftAssetId : W) (loan : LoanRecord) (outstandingPrincipal : Nat) (loanId : W) :
    Except Revert (Custody W) := do
  require (loan.terminal = true ∧ outstandingPrincipal = 0 ∧ c.loanExposure (loanId, uftAssetId) = 0)
    .invalidCollateralOperation
  require (c.uftBackedDebt loanId ≠ 0) .invalidCollateralOperation
  require (c.uftBackedDebt loanId ≤ c.totalUftBackedDebt) .arithmetic
  pure { c with
    uftBackedDebt := c.uftBackedDebt.set loanId 0
    totalUftBackedDebt := c.totalUftBackedDebt - c.uftBackedDebt loanId }

def validateDeposit (uftSupply : Nat) (caller : Address) (loan : LoanRecord) (loanId collateralId assetId : W)
    (expectedKind : CollateralKind) (quantity : Nat) : Except Revert AssetConfiguration := do
  let configuration := c.assetConfiguration assetId
  require (loan.registered = true ∧ loan.terminal = false ∧ loan.borrower = caller ∧ collateralId ≠ 0 ∧
    c.collateralLoan collateralId = 0 ∧ quantity ≠ 0 ∧ configuration.enabled = true ∧
    configuration.kind = expectedKind) .invalidCollateralOperation
  require (configuration.isUFT = true → c.uftBackedDebt loanId ≠ 0 ∧
    c.loanExposure (loanId, assetId) + quantity ≤ uftSupply * UFT_SINGLE_LOAN_EXPOSURE_BPS / BPS ∧
    c.borrowerExposure (caller, assetId) + quantity ≤ uftSupply * UFT_BORROWER_EXPOSURE_BPS / BPS) .uftExposureExceeded
  pure configuration

/-- `_vault`; the constructor of a vault asks for a loan id. -/
def openVault (loanId : W) : Except Revert (Custody W) :=
  if c.vaults loanId = true then pure c
  else do
    require (loanId ≠ 0) .invalidCollateral
    pure { c with vaults := c.vaults.set loanId true }

def createVault (caller : Address) (loan : LoanRecord) (loanId : W) : Except Revert (Custody W) := do
  require (loan.registered = true ∧ loan.terminal = false ∧ loan.borrower = caller) .invalidCollateralOperation
  c.openVault loanId

/-- The vault's guard, and `_requireNew`. -/
def beginDeposit (loanId collateralId assetId : W) (owner : Address) (quantity : Nat) : Except Revert (Custody W) := do
  require (c.entered loanId = false) .reentrantCall
  require (collateralId ≠ 0 ∧ assetId ≠ 0 ∧ owner ≠ 0 ∧ quantity ≠ 0) .invalidCollateral
  require ((c.items (loanId, collateralId)).status = .none) .collateralAlreadyExists
  pure { c with entered := c.entered.set loanId true }

/-- `_store`, and the end of the deposit. -/
def store (loanId : W) (item : CollateralItem W) : Custody W :=
  { c with
    items := c.items.set (loanId, item.collateralId) item
    assetBalance := c.assetBalance.modify (loanId, item.assetId) (· + item.quantity)
    entered := c.entered.set loanId false }

def register (caller : Address) (loanId collateralId assetId : W) (quantity : Nat) : Custody W :=
  { c with
    collateralLoan := c.collateralLoan.set collateralId loanId
    collateralIds := c.collateralIds.modify loanId (· ++ [collateralId])
    loanExposure := c.loanExposure.modify (loanId, assetId) (· + quantity)
    borrowerExposure := c.borrowerExposure.modify (caller, assetId) (· + quantity) }

/-- `collateral` of the loan's vault; there is nothing to call before the vault exists. -/
def collateral (loanId collateralId : W) : Except Revert (CollateralItem W) := do
  require (c.vaults loanId = true) .invalidCollateral
  pure (c.items (loanId, collateralId))

def decreaseExposure (loanId : W) (borrower : Address) (assetId : W) (quantity : Nat) : Except Revert (Custody W) := do
  require (quantity ≠ 0 ∧ quantity ≤ c.loanExposure (loanId, assetId) ∧ quantity ≤ c.borrowerExposure (borrower, assetId))
    .invalidCollateralOperation
  pure { c with
    loanExposure := c.loanExposure.modify (loanId, assetId) (· - quantity)
    borrowerExposure := c.borrowerExposure.modify (borrower, assetId) (· - quantity) }

def disposed (item : CollateralItem W) (quantity : Nat) (target : CollateralStatus) : CollateralItem W :=
  { item with
    quantity := item.quantity - quantity
    status := if item.quantity - quantity = 0 then target else item.status }

/-- `dispose` up to the transfer. -/
def beginDisposal (loanId collateralId : W) (recipient : Address) (quantity : Nat) (target : CollateralStatus) :
    Except Revert (Custody W) := do
  require (c.entered loanId = false) .reentrantCall
  let item := c.items (loanId, collateralId)
  require (item.status = .locked ∧ recipient ≠ 0 ∧ quantity ≠ 0 ∧ quantity ≤ item.quantity ∧
    (target = .released ∨ target = .liquidated ∨ target = .claimed) ∧ (item.kind = .erc721 → quantity = 1))
    .invalidCollateralState
  require (quantity ≤ c.assetBalance (loanId, item.assetId)) .arithmetic
  pure { c with
    items := c.items.set (loanId, collateralId) (disposed item quantity target)
    assetBalance := c.assetBalance.modify (loanId, item.assetId) (· - quantity)
    entered := c.entered.set loanId true }

def leave (loanId : W) : Custody W := { c with entered := c.entered.set loanId false }

end Custody

end Unified.Collateral
