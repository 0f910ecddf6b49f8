import Unified.Lib.Token

/-! The account of one principal-only loan: its creation, its activation, and repayments under ids chosen by the payer,
    with the events that they emit. -/

namespace Unified.Loan

inductive LoanLifecycle where
  | none | proposed | underwriting | funding | activating | active | closed | cancelled
  deriving DecidableEq, Repr, Inhabited

inductive ServicingState where
  | notStarted | current | grace | delinquent | accelerated | restructuring | refinancing | defaulted | repaid
  | settled | writtenOff
  deriving DecidableEq, Repr, Inhabited

inductive FundingState where
  | none | opened | partiallyFunded | funded | failed | refunding | closed
  deriving DecidableEq, Repr, Inhabited

inductive PaymentState where
  | none | requested | authorized | processing | provisional | final | allocated | reversed | disputed | failed
  | refunded
  deriving DecidableEq, Repr, Inhabited

/-- The terms that the account and its readers use. -/
structure LoanTerms (W : Type) where
  loanId : W
  agreementHash : W
  borrower : Address
  assetId : W
  (principal commencementTime finalMaturityTime protocolVersion : Nat)
  policySetHash : W
  deriving DecidableEq, Inhabited

structure LoanStateVector where
  lifecycle : LoanLifecycle
  servicing : ServicingState
  funding : FundingState
  latestPayment : PaymentState
  (lastTransitionTime stateNonce : Nat)
  deriving DecidableEq, Inhabited

structure CoreLoanAccount (W : Type) [Evm W] where
  terms : LoanTerms W
  state : LoanStateVector
  (lender settlementToken factory : Address)
  outstandingPrincipal : Nat
  processedPayments : Mapping W Bool
  initialized : Bool
  deriving Inhabited

inductive LoanError where
  | alreadyInitialized | invalidLoan
  | invalidState (lifecycle : LoanLifecycle)
  | unauthorizedCaller (caller : Address)
  | duplicatePayment
  | amountExceedsObligation (amount remaining : Nat)
  | settlementBalanceMismatch | token
  deriving DecidableEq, Repr

inductive StateChange where
  | lifecycle (source target : LoanLifecycle)
  | servicing (source target : ServicingState)
  | funding (source target : FundingState)
  | payment (source target : PaymentState)
  deriving DecidableEq, Repr

inductive LoanEvent (W : Type) where
  | loanActivated (loanId : W) (commencementTime principalAmount : Nat)
  | loanStateChanged (loanId : W) (change : StateChange) (stateNonce : Nat)
  | paymentFinalized (paymentId loanId : W) (amount : Nat)
  | paymentAllocated (paymentId loanId : W) (principal interest fees : Nat)
  | loanClosed (loanId journalRef : W)
  | journalReferenceLinked (operationId journalRef : W)
  deriving DecidableEq, Repr

namespace LoanStateVector

/-- `_advanceState`; a loan never has so many transitions that its nonce would overflow. -/
def advance (state : LoanStateVector) (now : Nat) : LoanStateVector :=
  { state with lastTransitionTime := now, stateNonce := state.stateNonce + 1 }

end LoanStateVector

namespace CoreLoanAccount

variable {W : Type} [Evm W]

/-- `initialize`, called by the factory that creates the account. -/
def initializeLoan (factory : Address) (now : Nat) (terms : LoanTerms W) (lender settlementToken : Address) :
    Except LoanError (CoreLoanAccount W) := do
  require (terms.loanId ≠ 0 ∧ terms.agreementHash ≠ 0 ∧ terms.borrower ≠ 0 ∧ lender ≠ 0 ∧ lender ≠ terms.borrower ∧
    settlementToken ≠ 0 ∧ terms.principal ≠ 0 ∧ terms.assetId ≠ 0 ∧ terms.commencementTime ≠ 0 ∧
    terms.commencementTime < terms.finalMaturityTime) .invalidLoan
  pure {
    terms := terms
    state := ⟨.activating, .notStarted, .funded, .none, now, 1⟩
    lender := lender
    settlementToken := settlementToken
    factory := factory
    outstandingPrincipal := terms.principal
    processedPayments := .empty
    initialized := true }

variable (a : CoreLoanAccount W)

def activate (caller : Address) (now : Nat) (journalRef : W) :
    Except LoanError (CoreLoanAccount W × List (LoanEvent W)) := do
  require (caller = a.factory) (.unauthorizedCaller caller)
  require (a.state.lifecycle = .activating) (.invalidState a.state.lifecycle)
  require (journalRef ≠ 0) .invalidLoan
  let state := { a.state with lifecycle := .active, servicing := .current }.advance now
  pure ({ a with state := state },
    [.loanStateChanged a.terms.loanId (.lifecycle a.state.lifecycle .active) state.stateNonce,
      .loanStateChanged a.terms.loanId (.servicing a.state.servicing .current) state.stateNonce,
      .loanActivated a.terms.loanId a.terms.commencementTime a.terms.principal,
      .journalReferenceLinked a.terms.loanId journalRef])

def close (now : Nat) (journalRef : W) : CoreLoanAccount W × List (LoanEvent W) :=
  let state := { a.state with lifecycle := .closed, servicing := .repaid, funding := .closed }.advance now
  ({ a with state := state },
    [.loanStateChanged a.terms.loanId (.lifecycle a.state.lifecycle .closed) state.stateNonce,
      .loanStateChanged a.terms.loanId (.servicing a.state.servicing .repaid) state.stateNonce,
      .loanStateChanged a.terms.loanId (.funding a.state.funding .closed) state.stateNonce,
      .loanClosed a.terms.loanId journalRef])

/-- The account after an allocated payment, which does not close the loan yet. -/
def allocate (now : Nat) (paymentId : W) (amount : Nat) : CoreLoanAccount W :=
  { a with
    processedPayments := a.processedPayments.set paymentId true
    outstandingPrincipal := a.outstandingPrincipal - amount
    state := { a.state with latestPayment := .allocated }.advance now }

/-- The account after a payment: a loan that is repaid is closed. -/
def settlePayment (now : Nat) (paymentId : W) (amount : Nat) (journalRef : W) : CoreLoanAccount W :=
  if (a.allocate now paymentId amount).outstandingPrincipal = 0 then
    ((a.allocate now paymentId amount).close now journalRef).1
  else a.allocate now paymentId amount

def paymentEvents (now : Nat) (paymentId : W) (amount : Nat) (journalRef : W) : List (LoanEvent W) :=
  [.paymentFinalized paymentId a.terms.loanId amount, .paymentAllocated paymentId a.terms.loanId amount 0 0,
    .loanStateChanged a.terms.loanId (.payment a.state.latestPayment .allocated)
      (a.allocate now paymentId amount).state.stateNonce,
    .journalReferenceLinked paymentId journalRef] ++
  if (a.allocate now paymentId amount).outstandingPrincipal = 0 then
    ((a.allocate now paymentId amount).close now journalRef).2
  else []

/-- `repay`, with the settlement token. A loan that is repaid closes and is marked as terminal in the registry. -/
def repay (caller : Address) (now : Nat) (token : Token) (paymentId : W) (amount : Nat) (journalRef : W) :
    Except LoanError (CoreLoanAccount W × Token × List (LoanEvent W)) := do
  require (a.state.lifecycle = .active) (.invalidState a.state.lifecycle)
  require (paymentId ≠ 0 ∧ journalRef ≠ 0 ∧ amount ≠ 0) .invalidLoan
  require (a.processedPayments paymentId = false) .duplicatePayment
  require (amount ≤ a.outstandingPrincipal) (.amountExceedsObligation amount a.outstandingPrincipal)
  let token ← token.transferExact .token .settlementBalanceMismatch caller a.lender amount
  pure (a.settlePayment now paymentId amount journalRef, token, a.paymentEvents now paymentId amount journalRef)

section

variable {a : CoreLoanAccount W} {caller : Address} {now amount : Nat} {token : Token} {paymentId journalRef : W}
  {r : CoreLoanAccount W × Token × List (LoanEvent W)}

theorem repay_eq_ok : a.repay caller now token paymentId amount journalRef = .ok r ↔
    a.state.lifecycle = .active ∧ (paymentId ≠ 0 ∧ journalRef ≠ 0 ∧ amount ≠ 0) ∧ a.processedPayments paymentId = false ∧
      amount ≤ a.outstandingPrincipal ∧ caller ≠ 0 ∧ a.lender ≠ 0 ∧ caller ≠ a.lender ∧
      ∃ h : amount ≤ token.balances caller, (a.settlePayment now paymentId amount journalRef,
        token.move caller a.lender amount h, a.paymentEvents now paymentId amount journalRef) = r := by
  simp only [repay, block_eq_ok, Token.transferExact_eq_ok]
  constructor
  · rintro ⟨hactive, hids, hnew, hle, _, ⟨hcaller, hlender, hself, hbalance, rfl⟩, rfl⟩
    exact ⟨hactive, hids, hnew, hle, hcaller, hlender, fun heq => hids.2.2 (hself heq), hbalance, rfl⟩
  · rintro ⟨hactive, hids, hnew, hle, hcaller, hlender, hne, hbalance, rfl⟩
    exact ⟨hactive, hids, hnew, hle, _, ⟨hcaller, hlender, fun heq => (hne heq).elim, hbalance, rfl⟩, rfl⟩

@[simp] theorem settlePayment_outstanding : (a.settlePayment now paymentId amount journalRef).outstandingPrincipal =
    a.outstandingPrincipal - amount := by
  unfold settlePayment
  split <;> rfl

@[simp] theorem settlePayment_lender : (a.settlePayment now paymentId amount journalRef).lender = a.lender := by
  unfold settlePayment
  split <;> rfl

@[simp] theorem settlePayment_settlementToken :
    (a.settlePayment now paymentId amount journalRef).settlementToken = a.settlementToken := by
  unfold settlePayment
  split <;> rfl

end

end CoreLoanAccount

end Unified.Loan
