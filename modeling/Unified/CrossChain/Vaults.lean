import Unified.CrossChain.WrappedUFT

/-! The satellite's loan component and its two vaults: provisioning, escrow and disbursement of loan
    funding, repayment authorisations, and collateral custody. -/

namespace Unified.CrossChain

inductive SatelliteCollateralState where
  | none | locked | released
  deriving DecidableEq, Repr, Inhabited

structure SatelliteLoanProvisioning (W : Type) where
  loanId : W
  fundingLockId : W
  (homeLoanAccount homeLoanRouter borrower lender wrappedToken collateralToken : Address)
  collateralId : W
  (principalAmount collateralAmount : Nat)
  repaymentRoutePolicyHash : W
  policyHash : W
  deriving DecidableEq, Inhabited

structure SatelliteLoanComponent (W : Type) [Evm W] where
  provisionedLoans : Mapping W (SatelliteLoanProvisioning W)
  reportMessage : Mapping (W × CrossChainActionType) W

structure SettlementRecord (W : Type) where
  loanId : W
  fundingLockId : W
  (homeLoanAccount homeLoanRouter borrower lender : Address)
  (principalAmount escrowedAmount disbursedAmount authorizedRepaymentAmount : Nat)
  cancellationId : W
  cancelledAmount : Nat
  repaymentRoutePolicyHash : W
  policyHash : W
  deriving DecidableEq, Inhabited

/-- A transfer of the settlement vault to a borrower, in the `SatelliteFundingDisbursed` log. -/
structure Disbursement (W : Type) where
  loanId : W
  recipient : Address
  amount : Nat
  deriving DecidableEq

structure SatelliteSettlementVault (W : Type) [Evm W] where
  records : Mapping W (SettlementRecord W)
  consumedPayment : Mapping W Bool
  disbursements : List (Disbursement W)

structure CollateralRecord (W : Type) where
  loanId : W
  collateralId : W
  (homeLoanAccount borrower lender token : Address)
  amount : Nat
  policyHash : W
  state : SatelliteCollateralState
  deriving DecidableEq, Inhabited

/-- A transfer of the collateral vault, in the `SatelliteCollateralReleased` log. -/
structure CollateralRelease (W : Type) where
  loanId : W
  recipient : Address
  amount : Nat
  deriving DecidableEq

structure SatelliteCollateralVault (W : Type) [Evm W] where
  collateralToken : Token
  records : Mapping W (CollateralRecord W)
  collateralLoan : Mapping W W
  releases : List (CollateralRelease W)

structure RepaymentAuthorization (W : Type) where
  (lender homeLoanRouter : Address)
  (policyHash backingRoutePolicyHash repaymentRoutePolicyHash : W)

section

variable {W : Type} [Evm W]

namespace SatelliteLoanComponent

def initial : SatelliteLoanComponent W := ⟨.empty, .empty⟩

/-- `provisionLoan` on the component's own storage. -/
def provisionLoan (D : Deployment W) (σ : Nat) (p : SatelliteLoanProvisioning W) (s : SatelliteLoanComponent W) :
    Except (Revert W) (SatelliteLoanComponent W) := do
  let cfg := D.satellite σ
  require (p.loanId ≠ 0 ∧ p.fundingLockId ≠ 0 ∧ p.homeLoanAccount ≠ 0 ∧ p.homeLoanRouter = cfg.homeLoanRouter ∧
    p.borrower ≠ 0 ∧ p.lender ≠ 0 ∧ p.borrower ≠ p.lender ∧ p.wrappedToken = cfg.wrappedUFT ∧
    p.collateralToken = cfg.collateralToken ∧ p.collateralId ≠ 0 ∧ p.principalAmount ≠ 0 ∧ p.collateralAmount ≠ 0 ∧
    p.repaymentRoutePolicyHash = cfg.repaymentRoutePolicyHash ∧ p.policyHash ≠ 0) .invalidSatelliteLoan
  require ((s.provisionedLoans p.loanId).loanId = 0) .invalidSatelliteLoan
  pure { s with provisionedLoans := s.provisionedLoans.set p.loanId p }

def reportProvisioning (loanId operationId : W) (amount : Nat) (s : SatelliteLoanComponent W) :
    Except (Revert W) (SatelliteLoanProvisioning W) := do
  require ((s.provisionedLoans loanId).loanId ≠ 0 ∧ operationId ≠ 0 ∧ amount ≠ 0) .invalidSatelliteLoan
  pure (s.provisionedLoans loanId)

end SatelliteLoanComponent

namespace SatelliteSettlementVault

def initial : SatelliteSettlementVault W := ⟨.empty, .empty, []⟩

def provisionLoan (D : Deployment W) (σ : Nat) (p : SatelliteLoanProvisioning W) (v : SatelliteSettlementVault W) :
    Except (Revert W) (SatelliteSettlementVault W) := do
  require (p.loanId ≠ 0 ∧ p.fundingLockId ≠ 0 ∧ p.homeLoanAccount ≠ 0 ∧ p.homeLoanRouter ≠ 0 ∧ p.borrower ≠ 0 ∧
    p.lender ≠ 0 ∧ p.wrappedToken = (D.satellite σ).wrappedUFT ∧ p.principalAmount ≠ 0 ∧
    p.repaymentRoutePolicyHash ≠ 0 ∧ p.policyHash ≠ 0 ∧ (v.records p.loanId).loanId = 0) .invalidSatelliteSettlement
  pure { v with
    records := v.records.set p.loanId
      ⟨p.loanId, p.fundingLockId, p.homeLoanAccount, p.homeLoanRouter, p.borrower, p.lender, p.principalAmount, 0, 0, 0,
        0, 0, p.repaymentRoutePolicyHash, p.policyHash⟩ }

/-- `onWrappedMint` up to the report; `balance` is the vault's wrapped balance. -/
def escrow (lockId loanId : W) (amount balance : Nat) (v : SatelliteSettlementVault W) :
    Except (Revert W) (SatelliteSettlementVault W) := do
  let record := v.records loanId
  require (record.loanId ≠ 0 ∧ lockId = record.fundingLockId ∧ amount = record.principalAmount ∧
    record.escrowedAmount = 0 ∧ amount ≤ balance) .invalidSatelliteSettlement
  pure { v with records := v.records.set loanId { record with escrowedAmount := amount } }

/-- The checks and the record of a disbursement, before its transfer. -/
def disburse (D : Deployment W) (σ : Nat) (action : HomeDisbursementAuthorizedPayload W)
    (v : SatelliteSettlementVault W) : Except (Revert W) (SatelliteSettlementVault W) := do
  let record := v.records action.loanId
  require (record.loanId ≠ 0 ∧ record.escrowedAmount = record.principalAmount ∧ record.disbursedAmount = 0 ∧
    action.operationId = record.fundingLockId ∧ action.homeLoanAccount = record.homeLoanAccount ∧
    action.borrower = record.borrower ∧ action.lender = record.lender ∧
    action.token = (D.satellite σ).wrappedUFT ∧ action.amount = record.principalAmount ∧
    action.policyHash = record.policyHash) .invalidSatelliteSettlement
  pure { v with
    records := v.records.set action.loanId { record with disbursedAmount := record.principalAmount }
    disbursements := v.disbursements ++ [⟨action.loanId, record.borrower, record.principalAmount⟩] }

/-- The checks and the record of a cancellation, before the escrow is burned. -/
def cancel (D : Deployment W) (σ : Nat) (c : Coordinator W) (action : LoanCancellationRequestedPayload W)
    (v : SatelliteSettlementVault W) : Except (Revert W) (SatelliteSettlementVault W) := do
  let record := v.records action.loanId
  require (action.cancellationId ≠ 0 ∧ record.loanId ≠ 0 ∧ record.escrowedAmount = record.principalAmount ∧
    record.disbursedAmount = 0 ∧ record.cancellationId = 0 ∧ record.cancelledAmount = 0 ∧
    action.fundingLockId = record.fundingLockId ∧ action.homeLoanAccount = record.homeLoanAccount ∧
    action.lender = record.lender ∧ action.wrappedToken = (D.satellite σ).wrappedUFT ∧
    action.amount = record.principalAmount ∧ action.policyHash = record.policyHash ∧ action.reasonCode ≠ 0)
    .invalidSatelliteSettlement
  require (if action.disbursementMessageId = 0 then action.disbursementTombstoneHash = 0 else
    action.disbursementTombstoneHash ≠ 0 ∧
      c.messageStates action.disbursementMessageId = .destinationTombstoned ∧
      c.tombstoneHash action.disbursementMessageId = action.disbursementTombstoneHash ∧
      c.executionResult action.disbursementMessageId = 0) .invalidSatelliteSettlement
  pure { v with
    records := v.records.set action.loanId
      { record with
        cancellationId := action.cancellationId
        cancelledAmount := record.principalAmount
        escrowedAmount := 0 } }

/-- Called by the wrapped token. -/
def authorizeRepaymentBurn (D : Deployment W) (σ : Nat) (loanId paymentId : W) (borrower : Address) (amount : Nat)
    (v : SatelliteSettlementVault W) : Except (Revert W) (RepaymentAuthorization W × SatelliteSettlementVault W) := do
  let record := v.records loanId
  require (record.loanId ≠ 0 ∧ paymentId ≠ 0 ∧ borrower = record.borrower ∧ amount ≠ 0 ∧
    v.consumedPayment paymentId = false ∧ record.disbursedAmount = record.principalAmount ∧
    record.authorizedRepaymentAmount + amount ≤ record.principalAmount) .invalidSatelliteSettlement
  pure (⟨record.lender, record.homeLoanRouter, record.policyHash, (D.satellite σ).backingRoutePolicyHash,
      record.repaymentRoutePolicyHash⟩,
    { v with
      consumedPayment := v.consumedPayment.set paymentId true
      records := v.records.set loanId
        { record with authorizedRepaymentAmount := record.authorizedRepaymentAmount + amount } })

/-- Called by the wrapped token. -/
def reverseRepaymentBurn (loanId paymentId : W) (borrower : Address) (amount : Nat)
    (v : SatelliteSettlementVault W) : Except (Revert W) (SatelliteSettlementVault W) := do
  let record := v.records loanId
  require (record.loanId ≠ 0 ∧ paymentId ≠ 0 ∧ borrower = record.borrower ∧ amount ≠ 0 ∧
    v.consumedPayment paymentId = true ∧ amount ≤ record.authorizedRepaymentAmount) .invalidSatelliteSettlement
  pure { v with
    consumedPayment := v.consumedPayment.set paymentId false
    records := v.records.set loanId
      { record with authorizedRepaymentAmount := record.authorizedRepaymentAmount - amount } }

end SatelliteSettlementVault

namespace SatelliteCollateralVault

def initial (collateralToken : Token) : SatelliteCollateralVault W := ⟨collateralToken, .empty, .empty, []⟩

def provisionLoan (D : Deployment W) (σ : Nat) (p : SatelliteLoanProvisioning W) (v : SatelliteCollateralVault W) :
    Except (Revert W) (SatelliteCollateralVault W) := do
  require (p.loanId ≠ 0 ∧ p.collateralId ≠ 0 ∧ p.borrower ≠ 0 ∧
    p.collateralToken = (D.satellite σ).collateralToken ∧ p.collateralAmount ≠ 0 ∧
    (v.records p.loanId).loanId = 0 ∧ v.collateralLoan p.collateralId = 0) .invalidSatelliteCollateral
  pure { v with
    records := v.records.set p.loanId
      ⟨p.loanId, p.collateralId, p.homeLoanAccount, p.borrower, p.lender, p.collateralToken, p.collateralAmount,
        p.policyHash, .none⟩
    collateralLoan := v.collateralLoan.set p.collateralId p.loanId }

/-- `lockCollateral` up to the report. -/
def take (D : Deployment W) (σ : Nat) (sender : Address) (loanId : W) (v : SatelliteCollateralVault W) :
    Except (Revert W) (SatelliteCollateralVault W) := do
  let record := v.records loanId
  require (record.loanId ≠ 0 ∧ sender = record.borrower ∧ record.state = .none) .invalidSatelliteCollateral
  let token ← v.collateralToken.transferExact .insufficientBalance .satelliteCollateralBalanceMismatch record.borrower
    (D.satellite σ).satelliteCollateralVault record.amount
  pure { v with collateralToken := token, records := v.records.set loanId { record with state := .locked } }

/-- `handleCrossChainMessage` up to the report. -/
def giveBack (D : Deployment W) (σ : Nat) (action : HomeCollateralReleaseAuthorizedPayload W)
    (v : SatelliteCollateralVault W) : Except (Revert W) (SatelliteCollateralVault W) := do
  let record := v.records action.loanId
  require (record.loanId ≠ 0 ∧ record.state = .locked ∧ action.operationId = record.collateralId ∧
    action.homeLoanAccount = record.homeLoanAccount ∧ action.borrower = record.borrower ∧
    action.lender = record.lender ∧ action.token = (D.satellite σ).collateralToken ∧
    action.amount = record.amount ∧ action.policyHash = record.policyHash) .invalidSatelliteCollateral
  let token ← v.collateralToken.transferExact .insufficientBalance .satelliteCollateralBalanceMismatch
    (D.satellite σ).satelliteCollateralVault record.borrower record.amount
  pure { v with
    collateralToken := token
    records := v.records.set action.loanId { record with state := .released }
    releases := v.releases ++ [⟨action.loanId, record.borrower, record.amount⟩] }

end SatelliteCollateralVault

end

end Unified.CrossChain
