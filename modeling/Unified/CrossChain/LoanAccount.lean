import Unified.CrossChain.Payloads

/-! The home account of a cross-chain loan: its own storage under each call of its router, of the bridge
    hub and of a payer. The messages that a transition asks its router for are sent by the caller. -/

namespace Unified.CrossChain

inductive CrossChainLoanState where
  | none | activating | active | closing | closed | recoveryPending | disputed
  deriving DecidableEq, Repr, Inhabited

structure CrossChainLoanTerms (W : Type) where
  (loanId agreementHash fundingLockId collateralId : W)
  (borrower lender : Address)
  (principalAmount collateralAmount : Nat)
  policyHash : W
  deriving DecidableEq, Inhabited

structure LoanAccount (W : Type) [Evm W] where
  terms : CrossChainLoanTerms W
  /-- The satellite whose router deployed the account; its `factory` and `wrappedUFT`. -/
  satellite : Nat
  state : CrossChainLoanState
  (outstandingPrincipal stateNonce : Nat)
  (mintMessageId disbursementMessageId collateralReleaseMessageId cancellationId cancellationMessageId : W)
  cancellationDisbursementTombstoneHash : W
  (mintConfirmed collateralConfirmed collateralReleased fundingRefunded : Bool)
  processedOperations : Mapping W Bool
  deriving Inhabited

section

variable {W : Type} [Evm W]

def operationKey (a : CrossChainActionType) (operationId : W) : W :=
  keccak256 "" [.uint a.ordinal, .bytes32 operationId]

def REPAYMENT_OPERATION_DOMAIN : W := keccak256 "UNIFIED_REPAYMENT_OPERATION_V1" []

def repaymentOperationKey (paymentId : W) : W :=
  keccak256 "" [.bytes32 REPAYMENT_OPERATION_DOMAIN, .bytes32 paymentId]

namespace LoanAccount

/-- The constructor, whose terms the factory has checked. -/
def deploy (terms : CrossChainLoanTerms W) (σ : Nat) : LoanAccount W :=
  { (default : LoanAccount W) with terms := terms, satellite := σ, state := .activating, stateNonce := 1 }

def advanceState (acc : LoanAccount W) : LoanAccount W := { acc with stateNonce := acc.stateNonce + 1 }

def process (key : W) (acc : LoanAccount W) : LoanAccount W :=
  { acc with processedOperations := acc.processedOperations.set key true }

/-- The disbursement of this loan was settled once. -/
def activated (acc : LoanAccount W) : Bool :=
  acc.processedOperations (operationKey .satelliteDisbursementSettled acc.terms.fundingLockId)

def bindOrigination (mintMessageId : W) (acc : LoanAccount W) : Except (Revert W) (LoanAccount W) := do
  require (acc.mintMessageId = 0 ∧ mintMessageId ≠ 0) .invalidLoan
  pure { acc with mintMessageId := mintMessageId }

/-- `recordMintConfirmed` before `_maybeAuthorizeDisbursement`. -/
def recordMintConfirmed (operationId : W) (amount : Nat) (policyHash : W) (acc : LoanAccount W) :
    Except (Revert W) (LoanAccount W) := do
  require (acc.state = .activating ∧ operationId = acc.terms.fundingLockId ∧ amount = acc.terms.principalAmount ∧
    policyHash = acc.terms.policyHash ∧ acc.mintConfirmed = false) .invalidLoan
  pure { (acc.process (operationKey .wrappedUftMinted operationId)).advanceState with mintConfirmed := true }

/-- What `_maybeAuthorizeDisbursement` waits for. -/
def awaitsDisbursement (acc : LoanAccount W) : Bool :=
  acc.state == .activating && acc.cancellationId == 0 && acc.mintConfirmed && acc.collateralConfirmed &&
    acc.disbursementMessageId == 0

/-- `recordCollateralLocked` up to the branch on the state. -/
def recordCollateralLocked (operationId : W) (amount : Nat) (policyHash : W) (acc : LoanAccount W) :
    Except (Revert W) (LoanAccount W) := do
  require ((acc.state = .activating ∨ acc.state = .recoveryPending) ∧ operationId = acc.terms.collateralId ∧
    amount = acc.terms.collateralAmount ∧ policyHash = acc.terms.policyHash ∧ acc.collateralConfirmed = false) .invalidLoan
  pure { acc.process (operationKey .satelliteCollateralLocked operationId) with collateralConfirmed := true }

/-- A cancellation was requested, but the disbursement that was authorised before it came first. -/
def resolvesCancellationRace (acc : LoanAccount W) : Bool :=
  acc.state == .recoveryPending && acc.cancellationId != 0 && acc.cancellationMessageId != 0 &&
    acc.disbursementMessageId != 0 && !acc.fundingRefunded

def recordDisbursement (operationId : W) (amount : Nat) (policyHash : W) (acc : LoanAccount W) :
    Except (Revert W) (LoanAccount W) := do
  let key := operationKey .satelliteDisbursementSettled operationId
  require ((acc.state = .activating ∨ acc.resolvesCancellationRace = true) ∧ acc.mintConfirmed = true ∧
    acc.collateralConfirmed = true ∧ operationId = acc.terms.fundingLockId ∧ acc.processedOperations key = false ∧
    amount = acc.terms.principalAmount ∧ policyHash = acc.terms.policyHash) .invalidLoan
  pure { (acc.process key).advanceState with outstandingPrincipal := acc.terms.principalAmount, state := .active }

def requestCancellation (cancellationId messageId tombstoneHash : W) (acc : LoanAccount W) :
    Except (Revert W) (LoanAccount W) := do
  require (acc.state = .activating ∧ acc.mintConfirmed = true ∧ acc.outstandingPrincipal = 0 ∧ cancellationId ≠ 0 ∧
    messageId ≠ 0 ∧ acc.cancellationId = 0) .invalidLoan
  pure { acc.advanceState with
    cancellationId := cancellationId
    cancellationMessageId := messageId
    cancellationDisbursementTombstoneHash := tombstoneHash
    state := .recoveryPending }

/-- The checks of `recordCancellationCompensated` at the account's address, and its record of the operation. -/
def beginCancellation (self wrappedUFT : Address) (c : SatelliteFundingCancelledPayload W) (acc : LoanAccount W) :
    Except (Revert W) (LoanAccount W) := do
  let key := operationKey .sourceCompensated c.cancellationId
  require (acc.state = .recoveryPending ∧ c.cancellationId = acc.cancellationId ∧
    c.fundingLockId = acc.terms.fundingLockId ∧ c.disbursementMessageId = acc.disbursementMessageId ∧
    c.disbursementTombstoneHash = acc.cancellationDisbursementTombstoneHash ∧ c.homeLoanAccount = self ∧
    c.lender = acc.terms.lender ∧ c.wrappedToken = wrappedUFT ∧ c.amount = acc.terms.principalAmount ∧
    c.policyHash = acc.terms.policyHash ∧ c.escrowBurnResultHash ≠ 0 ∧ acc.fundingRefunded = false ∧
    acc.outstandingPrincipal = 0 ∧ acc.processedOperations key = false) .invalidLoan
  pure (acc.process key)

/-- The checks of `recordRemoteRepayment`, and its record of the payment. -/
def beginRemoteRepayment (wrappedUFT : Address) (burn : SatelliteRepaymentBurnedPayload W) (acc : LoanAccount W) :
    Except (Revert W) (LoanAccount W) := do
  let key := repaymentOperationKey burn.paymentId
  require (acc.state = .active ∧ burn.loanId = acc.terms.loanId ∧ burn.paymentId ≠ 0 ∧ burn.burnId ≠ 0 ∧
    burn.lender = acc.terms.lender ∧ burn.wrappedToken = wrappedUFT ∧ burn.amount ≠ 0 ∧
    acc.processedOperations key = false) .invalidLoan
  require (burn.amount ≤ acc.outstandingPrincipal) (.amountExceedsPrincipal burn.amount acc.outstandingPrincipal)
  pure (acc.process key)

/-- The checks of `directHomeRepayment`, and its record of the payment. -/
def beginDirectRepayment (paymentId : W) (amount : Nat) (acc : LoanAccount W) :
    Except (Revert W) (LoanAccount W) := do
  let key := repaymentOperationKey paymentId
  require (acc.state = .active ∧ paymentId ≠ 0 ∧ amount ≠ 0 ∧ acc.processedOperations key = false) .invalidLoan
  require (amount ≤ acc.outstandingPrincipal) (.amountExceedsPrincipal amount acc.outstandingPrincipal)
  pure (acc.process key)

/-- A repayment after the hub has followed it. -/
def repay (amount : Nat) (acc : LoanAccount W) : LoanAccount W :=
  { acc.advanceState with outstandingPrincipal := acc.outstandingPrincipal - amount }

/-- `_enterClosing` and `_enterCancellationClosing`, once the router has sent the release. -/
def close (messageId : W) (acc : LoanAccount W) : LoanAccount W :=
  { acc.advanceState with state := .closing, collateralReleaseMessageId := messageId }

def recordCollateralReleased (operationId : W) (amount : Nat) (policyHash : W) (acc : LoanAccount W) :
    Except (Revert W) (LoanAccount W) := do
  require (acc.state = .closing ∧ operationId = acc.terms.collateralId ∧ acc.collateralReleased = false ∧
    amount = acc.terms.collateralAmount ∧ policyHash = acc.terms.policyHash) .invalidLoan
  pure { acc.advanceState with collateralReleased := true, state := .closed }

/-- The checks of `onFundingCompensated`, called by the hub. -/
def beginFundingCompensation (lockId : W) (hub : Address) (acc : LoanAccount W) :
    Except (Revert W) (LoanAccount W) := do
  require (lockId = acc.terms.fundingLockId ∧ acc.state = .activating) (.unauthorizedLoanCaller hub)
  pure { acc with fundingRefunded := true }

end LoanAccount

end

end Unified.CrossChain
