import Unified.CrossChain.Types
import Mathlib.Data.List.Nodup
import Mathlib.Data.Nat.Bitwise
import Mathlib.Tactic.IntervalCases

/-! Recovery quorums: the signer bitmap of the on-chain controller and the approval loop of the
    off-chain authorizer, over one abstract signer recovery. -/

namespace Unified.CrossChain

abbrev Bytes := List UInt8

def bigEndian (b : Bytes) : Nat := b.foldl (fun acc x => 256 * acc + x.toNat) 0

def SECP256K1_ORDER : Nat := 0xFFFFFFFFFFFFFFFFFFFFFFFFFFFFFFFEBAAEDCE6AF48A03BBFD25E8CD0364141

def HALF_ORDER : Nat := 0x7FFFFFFFFFFFFFFFFFFFFFFFFFFFFFFF5D576E7357A4501DDFE92F46681B20A0

def signatureR (sig : Bytes) : Nat := bigEndian (sig.take 32)

def signatureS (sig : Bytes) : Nat := bigEndian ((sig.drop 32).take 32)

def signatureV (sig : Bytes) : Nat := (sig.getD 64 0).toNat

/-- The three signers of a recovery controller, as its constructor accepts them. -/
structure RecoverySigners where
  addresses : List Address
  three : addresses.length = 3
  distinct : addresses.Nodup
  nonzero : 0 ∉ addresses

def RECOVERY_THRESHOLD : Nat := 2

section

variable {W : Type} [Evm W]

/-- `ECDSA.recover`: 65 bytes, low `s`, `v` 27 or 28, and a nonzero signer. -/
def recover (digest : W) (sig : Bytes) : Except (Revert W) Address := do
  require (sig.length = 65) (.invalidSignatureLength sig.length)
  require (signatureS sig ≤ HALF_ORDER) .invalidSignatureS
  require (signatureV sig = 27 ∨ signatureV sig = 28) .invalidSignature
  let signer ← orRevert (ecrecover digest (signatureR sig) (signatureS sig) (signatureV sig == 28)) .invalidSignature
  require (signer ≠ 0) .invalidSignature
  pure signer

/-- The bit of the first configured signer that equals the recovered one. -/
def markSigner (signers : RecoverySigners) (bitmap : Nat) (recovered : Address) : Nat :=
  match signers.addresses.findIdx? (· == recovered) with
  | some signerIndex => bitmap ||| 1 <<< signerIndex
  | none => bitmap

def markSigners (signers : RecoverySigners) (digest : W) : List Bytes → Nat → Except (Revert W) Nat
  | [], bitmap => pure bitmap
  | sig :: rest, bitmap => do
    let recovered ← recover digest sig
    markSigners signers digest rest (markSigner signers bitmap recovered)

def hasBit (bitmap index : Nat) : Bool := bitmap &&& 1 <<< index != 0

def validSigners (bitmap : Nat) : Nat := (List.range 3).countP (hasBit bitmap)

def authorizationBitmap (signers : RecoverySigners) (digest : W) (signatures : List Bytes) :
    Except (Revert W) Nat := do
  require (RECOVERY_THRESHOLD ≤ signatures.length ∧ signatures.length ≤ 3) .insufficientRecoveryAuthorization
  let bitmap ← markSigners signers digest signatures 0
  require (RECOVERY_THRESHOLD ≤ validSigners bitmap) .insufficientRecoveryAuthorization
  pure bitmap

/-- A 2-of-3 policy as `NewSecp256k1Authorizer` accepts it: three named signers with distinct nonzero
    addresses. -/
structure Secp256k1Policy where
  signers : List (String × Address)
  three : signers.length = 3
  distinctIds : (signers.map Prod.fst).Nodup
  distinctAddresses : (signers.map Prod.snd).Nodup
  nonzero : 0 ∉ signers.map Prod.snd

structure Approval where
  signerId : String
  signature : Bytes
  deriving DecidableEq

/-- `VerifyEthereumSignature`; `none` is `ErrInsufficientApproval`. -/
def verifyEthereumSignature (digest : W) (sig : Bytes) : Option Address :=
  if sig.length ≠ 65 then none
  else if SECP256K1_ORDER ≤ signatureR sig ∨ signatureR sig = 0 ∨ SECP256K1_ORDER ≤ signatureS sig ∨
      signatureS sig = 0 ∨ HALF_ORDER < signatureS sig then none
  else
    let recoveryId := if signatureV sig = 27 ∨ signatureV sig = 28 then signatureV sig - 27 else signatureV sig
    if 1 < recoveryId then none
    else ecrecover digest (signatureR sig) (signatureS sig) (recoveryId == 1)

/-- The loop of `Secp256k1Authorizer.Verify` over the approvals: the signers seen so far and the count
    of valid approvals; `none` as soon as one approval is refused. -/
def approvalLoop (policy : Secp256k1Policy) (digest : W) (seen : List String) (valid : Nat) :
    List Approval → Option Nat
  | [] => some valid
  | approval :: rest =>
    match policy.signers.lookup approval.signerId with
    | none => none
    | some expected =>
      if approval.signerId ∈ seen then none
      else if verifyEthereumSignature digest approval.signature ≠ some expected then none
      else approvalLoop policy digest (approval.signerId :: seen) (valid + 1) rest

/-- `Secp256k1Authorizer.Verify` on the approvals of a request whose digest is `digest`. -/
def verifyApprovals (policy : Secp256k1Policy) (digest : W) (approvals : List Approval) : Bool :=
  2 ≤ approvals.length && match approvalLoop policy digest [] 0 approvals with
    | some valid => 2 ≤ valid
    | none => false

/-! ### What an accepted list says -/

/-- `sig` is a low-`s` signature of the digest by `signer`, under one of the two parities. -/
def SignedBy (digest : W) (signer : Address) (sig : Bytes) : Prop :=
  sig.length = 65 ∧ signatureS sig ≤ HALF_ORDER ∧
    ∃ parity, ecrecover digest (signatureR sig) (signatureS sig) parity = some signer

def Quorum (signers : List Address) (digest : W) (signatures : List Bytes) : Prop :=
  ∃ a ∈ signers, ∃ b ∈ signers, a ≠ b ∧ (∃ sig ∈ signatures, SignedBy digest a sig) ∧
    ∃ sig ∈ signatures, SignedBy digest b sig

/-- The final byte is one of the two values `ECDSA.recover` knows. -/
def EthereumV (sig : Bytes) : Prop := signatureV sig = 27 ∨ signatureV sig = 28

variable {sig : Bytes} {a : Address} {digest : W}

theorem recover_eq_ok :
    recover digest sig = .ok a ↔ sig.length = 65 ∧ signatureS sig ≤ HALF_ORDER ∧ EthereumV sig ∧
      ecrecover digest (signatureR sig) (signatureS sig) (signatureV sig == 28) = some a ∧ a ≠ 0 := by
  simp only [recover, block_eq_ok, orRevert_eq_ok, EthereumV]
  constructor
  · rintro ⟨hl, hs, hv, b, hb, hne, rfl⟩
    exact ⟨hl, hs, hv, hb, hne⟩
  · rintro ⟨hl, hs, hv, hb, hne⟩
    exact ⟨hl, hs, hv, a, hb, hne, rfl⟩

theorem signedBy_of_recover (h : recover digest sig = .ok a) : SignedBy digest a sig := by
  obtain ⟨hl, hs, -, ha, -⟩ := recover_eq_ok.mp h
  exact ⟨hl, hs, _, ha⟩

theorem verifyEthereumSignature_eq_some (h : verifyEthereumSignature digest sig = some a) :
    sig.length = 65 ∧ signatureS sig ≤ HALF_ORDER ∧
      ∃ recoveryId, recoveryId ≤ 1 ∧ (signatureV sig = recoveryId ∨ signatureV sig = recoveryId + 27) ∧
        ecrecover digest (signatureR sig) (signatureS sig) (recoveryId == 1) = some a := by
  unfold verifyEthereumSignature at h
  split at h
  · cases h
  next hl =>
    split at h
    · cases h
    next hrange =>
      simp only [not_or] at hrange
      refine ⟨by omega, by omega, ?_⟩
      by_cases hv : signatureV sig = 27 ∨ signatureV sig = 28
      · simp only [if_pos hv, Option.ite_none_left_eq_some] at h
        exact ⟨signatureV sig - 27, by omega, by omega, h.2⟩
      · simp only [if_neg hv, Option.ite_none_left_eq_some] at h
        exact ⟨signatureV sig, by omega, by omega, h.2⟩

theorem signedBy_of_verifyEthereumSignature (h : verifyEthereumSignature digest sig = some a) :
    SignedBy digest a sig := by
  obtain ⟨hl, hs, id, -, -, ha⟩ := verifyEthereumSignature_eq_some h
  exact ⟨hl, hs, _, ha⟩

/-- A signature the off-chain check recovers is recovered on chain exactly when its final byte is in
    the on-chain alphabet, and then to the same signer. -/
theorem recover_of_verifyEthereumSignature (h : verifyEthereumSignature digest sig = some a) (hne : a ≠ 0)
    (hv : EthereumV sig) : recover digest sig = .ok a := by
  obtain ⟨hl, hs, id, hid, hvid, ha⟩ := verifyEthereumSignature_eq_some h
  refine recover_eq_ok.mpr ⟨hl, hs, hv, ?_, hne⟩
  have hparity : (signatureV sig == 28) = (id == 1) := by
    unfold EthereumV at hv
    rw [Bool.eq_iff_iff, beq_iff_eq, beq_iff_eq]
    omega
  rw [hparity, ha]

end

end Unified.CrossChain
