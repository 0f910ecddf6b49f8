import Unified.CrossChain.Types

/-! The payloads that the components put into messages, and their ABI layout. Decoding reads the words
    of the struct and ignores what follows them. -/

namespace Unified.CrossChain

structure CanonicalUftLockPayload (W : Type) where
  lockId : W
  loanId : W
  (canonicalToken homeBridgeHub wrappedToken destinationRecipient : Address)
  amount : Nat
  deriving DecidableEq

structure WrappedUftBurnedPayload (W : Type) where
  burnId : W
  backingRoutePolicyHash : W
  (canonicalToken homeBridgeHub wrappedToken recipient : Address)
  amount : Nat
  deriving DecidableEq

structure SatelliteUftPermanentBurnedPayload (W : Type) where
  burnId : W
  backingRoutePolicyHash : W
  (canonicalToken homeBridgeHub wrappedToken : Address)
  amount : Nat
  deriving DecidableEq

structure SatelliteRepaymentBurnedPayload (W : Type) where
  (burnId loanId paymentId backingRoutePolicyHash : W)
  (canonicalToken homeBridgeHub wrappedToken lender : Address)
  amount : Nat
  deriving DecidableEq

/-- The shape of the six payloads about one leg of a loan. `operationId` is the funding lock or the
    collateral id, `token` the wrapped or the collateral token. -/
structure LoanLegPayload (W : Type) where
  loanId : W
  operationId : W
  (homeLoanAccount borrower lender token : Address)
  amount : Nat
  policyHash : W
  deriving DecidableEq

abbrev WrappedUftMintedPayload := LoanLegPayload

abbrev SatelliteCollateralLockedPayload := LoanLegPayload

abbrev HomeDisbursementAuthorizedPayload := LoanLegPayload

abbrev SatelliteDisbursementSettledPayload := LoanLegPayload

abbrev HomeCollateralReleaseAuthorizedPayload := LoanLegPayload

abbrev SatelliteCollateralReleasedPayload := LoanLegPayload

structure LoanCancellationRequestedPayload (W : Type) where
  (cancellationId loanId fundingLockId disbursementMessageId disbursementTombstoneHash : W)
  (homeLoanAccount lender wrappedToken : Address)
  amount : Nat
  policyHash : W
  reasonCode : W
  deriving DecidableEq

structure SatelliteFundingCancelledPayload (W : Type) where
  (cancellationId loanId fundingLockId disbursementMessageId disbursementTombstoneHash escrowBurnResultHash : W)
  (homeLoanAccount lender wrappedToken : Address)
  amount : Nat
  policyHash : W
  deriving DecidableEq

section

variable {W : Type}

namespace CanonicalUftLockPayload

def encode (p : CanonicalUftLockPayload W) : Payload W :=
  [.bytes32 p.lockId, .bytes32 p.loanId, .address p.canonicalToken, .address p.homeBridgeHub,
    .address p.wrappedToken, .address p.destinationRecipient, .uint p.amount]

def decode : Payload W → Option (CanonicalUftLockPayload W)
  | .bytes32 lockId :: .bytes32 loanId :: .address canonicalToken :: .address homeBridgeHub ::
      .address wrappedToken :: .address destinationRecipient :: .uint amount :: _ =>
    some ⟨lockId, loanId, canonicalToken, homeBridgeHub, wrappedToken, destinationRecipient, amount⟩
  | _ => none

theorem decode_encode (p : CanonicalUftLockPayload W) : decode p.encode = some p := rfl

end CanonicalUftLockPayload

namespace WrappedUftBurnedPayload

def encode (p : WrappedUftBurnedPayload W) : Payload W :=
  [.bytes32 p.burnId, .bytes32 p.backingRoutePolicyHash, .address p.canonicalToken, .address p.homeBridgeHub,
    .address p.wrappedToken, .address p.recipient, .uint p.amount]

def decode : Payload W → Option (WrappedUftBurnedPayload W)
  | .bytes32 burnId :: .bytes32 backingRoute :: .address canonicalToken :: .address homeBridgeHub ::
      .address wrappedToken :: .address recipient :: .uint amount :: _ =>
    some ⟨burnId, backingRoute, canonicalToken, homeBridgeHub, wrappedToken, recipient, amount⟩
  | _ => none

theorem decode_encode (p : WrappedUftBurnedPayload W) : decode p.encode = some p := rfl

end WrappedUftBurnedPayload

namespace SatelliteUftPermanentBurnedPayload

def encode (p : SatelliteUftPermanentBurnedPayload W) : Payload W :=
  [.bytes32 p.burnId, .bytes32 p.backingRoutePolicyHash, .address p.canonicalToken, .address p.homeBridgeHub,
    .address p.wrappedToken, .uint p.amount]

def decode : Payload W → Option (SatelliteUftPermanentBurnedPayload W)
  | .bytes32 burnId :: .bytes32 backingRoute :: .address canonicalToken :: .address homeBridgeHub ::
      .address wrappedToken :: .uint amount :: _ =>
    some ⟨burnId, backingRoute, canonicalToken, homeBridgeHub, wrappedToken, amount⟩
  | _ => none

theorem decode_encode (p : SatelliteUftPermanentBurnedPayload W) : decode p.encode = some p := rfl

end SatelliteUftPermanentBurnedPayload

namespace SatelliteRepaymentBurnedPayload

def encode (p : SatelliteRepaymentBurnedPayload W) : Payload W :=
  [.bytes32 p.burnId, .bytes32 p.loanId, .bytes32 p.paymentId, .bytes32 p.backingRoutePolicyHash,
    .address p.canonicalToken, .address p.homeBridgeHub, .address p.wrappedToken, .address p.lender, .uint p.amount]

def decode : Payload W → Option (SatelliteRepaymentBurnedPayload W)
  | .bytes32 burnId :: .bytes32 loanId :: .bytes32 paymentId :: .bytes32 backingRoute :: .address canonicalToken ::
      .address homeBridgeHub :: .address wrappedToken :: .address lender :: .uint amount :: _ =>
    some ⟨burnId, loanId, paymentId, backingRoute, canonicalToken, homeBridgeHub, wrappedToken, lender, amount⟩
  | _ => none

theorem decode_encode (p : SatelliteRepaymentBurnedPayload W) : decode p.encode = some p := rfl

end SatelliteRepaymentBurnedPayload

namespace LoanLegPayload

def encode (p : LoanLegPayload W) : Payload W :=
  [.bytes32 p.loanId, .bytes32 p.operationId, .address p.homeLoanAccount, .address p.borrower, .address p.lender,
    .address p.token, .uint p.amount, .bytes32 p.policyHash]

def decode : Payload W → Option (LoanLegPayload W)
  | .bytes32 loanId :: .bytes32 operationId :: .address homeLoanAccount :: .address borrower :: .address lender ::
      .address token :: .uint amount :: .bytes32 policyHash :: _ =>
    some ⟨loanId, operationId, homeLoanAccount, borrower, lender, token, amount, policyHash⟩
  | _ => none

theorem decode_encode (p : LoanLegPayload W) : decode p.encode = some p := rfl

end LoanLegPayload

namespace LoanCancellationRequestedPayload

def encode (p : LoanCancellationRequestedPayload W) : Payload W :=
  [.bytes32 p.cancellationId, .bytes32 p.loanId, .bytes32 p.fundingLockId, .bytes32 p.disbursementMessageId,
    .bytes32 p.disbursementTombstoneHash, .address p.homeLoanAccount, .address p.lender, .address p.wrappedToken,
    .uint p.amount, .bytes32 p.policyHash, .bytes32 p.reasonCode]

def decode : Payload W → Option (LoanCancellationRequestedPayload W)
  | .bytes32 cancellationId :: .bytes32 loanId :: .bytes32 fundingLockId :: .bytes32 disbursementMessageId ::
      .bytes32 disbursementTombstoneHash :: .address homeLoanAccount :: .address lender :: .address wrappedToken ::
      .uint amount :: .bytes32 policyHash :: .bytes32 reasonCode :: _ =>
    some ⟨cancellationId, loanId, fundingLockId, disbursementMessageId, disbursementTombstoneHash, homeLoanAccount,
      lender, wrappedToken, amount, policyHash, reasonCode⟩
  | _ => none

theorem decode_encode (p : LoanCancellationRequestedPayload W) : decode p.encode = some p := rfl

end LoanCancellationRequestedPayload

namespace SatelliteFundingCancelledPayload

def encode (p : SatelliteFundingCancelledPayload W) : Payload W :=
  [.bytes32 p.cancellationId, .bytes32 p.loanId, .bytes32 p.fundingLockId, .bytes32 p.disbursementMessageId,
    .bytes32 p.disbursementTombstoneHash, .bytes32 p.escrowBurnResultHash, .address p.homeLoanAccount,
    .address p.lender, .address p.wrappedToken, .uint p.amount, .bytes32 p.policyHash]

def decode : Payload W → Option (SatelliteFundingCancelledPayload W)
  | .bytes32 cancellationId :: .bytes32 loanId :: .bytes32 fundingLockId :: .bytes32 disbursementMessageId ::
      .bytes32 disbursementTombstoneHash :: .bytes32 escrowBurnResultHash :: .address homeLoanAccount ::
      .address lender :: .address wrappedToken :: .uint amount :: .bytes32 policyHash :: _ =>
    some ⟨cancellationId, loanId, fundingLockId, disbursementMessageId, disbursementTombstoneHash,
      escrowBurnResultHash, homeLoanAccount, lender, wrappedToken, amount, policyHash⟩
  | _ => none

theorem decode_encode (p : SatelliteFundingCancelledPayload W) : decode p.encode = some p := rfl

end SatelliteFundingCancelledPayload

end

end Unified.CrossChain
