import Unified.Settlement.Types

/-! The allocation registry: one claim per payment and per allocation, the states of the canonical claims,
    and the payments whose reversal is committed. A commit runs while the latch is held, and nothing is
    published when it fails. -/

namespace Unified.Settlement

open Indexer (Time)

variable {σ : Type} {claim : Claim} {claims claims' : ClaimStore}

/-! ### The store of claims -/

/-- A claim as it is written: its identifier names the phase and the allocation. -/
def ValidDurableClaim (claim : Claim) : Prop :=
  claim.claimID ≠ "" ∧ claim.paymentID ≠ "" ∧ claim.allocationID ≠ "" ∧ claim.digest ≠ "" ∧ claim.evidenceHash ≠ "" ∧
    ¬ claim.claimedAt.IsZero ∧
    (claim.mode = .syntheticProjection ∧ claim.claimID = "phase7b:" ++ claim.allocationID ∧ claim.state = .unset ∨
      claim.mode = .canonicalGateway ∧ claim.claimID = "phase7c:" ++ claim.allocationID ∧ claim.state = .prepared)

instance (claim : Claim) : Decidable (ValidDurableClaim claim) := by unfold ValidDurableClaim; infer_instance

def Claim.durable (claim : Claim) : Claim := { claim with state := .prepared }

/-- What is written of a claim: a canonical one as it was prepared. -/
def Claim.written (claim : Claim) : Claim := if claim.mode = .canonicalGateway then claim.durable else claim

theorem Claim.written_withState (h : claim.mode = .canonicalGateway) (state : CanonicalState) :
    { claim with state := state }.written = claim.written := by
  rw [Claim.written, Claim.written, if_pos h, if_pos h]
  rfl

def SameDurableClaim (left right : Claim) : Prop := left.durable = right.durable

instance (left right : Claim) : Decidable (SameDurableClaim left right) :=
  inferInstanceAs (Decidable (left.durable = right.durable))

abbrev ClaimStore := Table String Claim

/-- `MemoryStore.ClaimSynthetic`. -/
def ClaimStore.claimSynthetic (claims : ClaimStore) (claim : Claim) : Except Errors (ClaimStore × Bool) := do
  require (ValidDurableClaim claim ∧ claim.mode = .syntheticProjection) [.invalidClaimStore]
  match claims.lookup claim.paymentID with
  | some existing => do
    require (existing = claim) [.claimStoreConflict]
    pure (claims, true)
  | none => do
    require (¬ Table.Any claims (·.allocationID = claim.allocationID)) [.claimStoreConflict]
    pure (claims.insert claim.paymentID claim, false)

/-- `MemoryStore.ClaimCanonical`; `commit` gives what the coordinator has written. -/
def ClaimStore.claimCanonical (claims : ClaimStore) (claim : Claim) (commit : Except Errors σ) :
    Except Errors (ClaimStore × σ) := do
  require (ValidDurableClaim claim ∧ claim.mode = .canonicalGateway ∧ claim.state = .prepared) [.invalidClaimStore]
  match claims.lookup claim.paymentID with
  | some existing => do
    require (SameDurableClaim existing claim) [.claimStoreConflict]
    let written ← commit
    pure (claims, written)
  | none => do
    require (¬ Table.Any claims (·.allocationID = claim.allocationID)) [.claimStoreConflict]
    let written ← commit
    pure (claims.insert claim.paymentID claim, written)

/-! ### The registry -/

@[ext]
structure Registry where
  byPayment : Table String Claim
  byAllocation : Table String String
  reversed : Finset String
  claims : ClaimStore

namespace Registry

def empty : Registry := ⟨∅, ∅, ∅, ∅⟩

def lookup (r : Registry) (paymentID : String) : Option Claim := r.byPayment.lookup paymentID

def IsReversed (r : Registry) (paymentID : String) : Prop := paymentID ∈ r.reversed

instance (r : Registry) (paymentID : String) : Decidable (r.IsReversed paymentID) :=
  inferInstanceAs (Decidable (paymentID ∈ r.reversed))

def SameClaim (record : Claim) (paymentID allocationID : String) (mode : Mode) (digest : String) : Prop :=
  record.paymentID = paymentID ∧ record.allocationID = allocationID ∧ record.mode = mode ∧ record.digest = digest

instance (record : Claim) (paymentID allocationID : String) (mode : Mode) (digest : String) :
    Decidable (SameClaim record paymentID allocationID mode digest) := by unfold SameClaim; infer_instance

def allowedCanonicalTransition : CanonicalState → CanonicalState → Bool
  | .prepared, next => next = .submitted ∨ next = .failed ∨ next = .quarantined
  | .submitted, next => next = .confirmed ∨ next = .failed ∨ next = .quarantined
  | .quarantined, next => next = .incident ∨ next = .failed
  | .confirmed, next => next = .incident
  | .failed, next => next = .prepared ∨ next = .quarantined
  | _, _ => false

def claimMode (r : Registry) (paymentID allocationID : String) (mode : Mode) (digest : String) (expectedVersion : Nat)
    (evidenceHash : String) (claimedAt : Time) : Except Errors (Registry × Claim × Bool) := do
  require (paymentID ≠ "" ∧ allocationID ≠ "" ∧ digest ≠ "" ∧ evidenceHash ≠ "" ∧ ¬ claimedAt.IsZero ∧
    mode = .syntheticProjection) [.invalidClaim]
  require (¬ r.IsReversed paymentID) [.claimConflict]
  match r.byPayment.lookup paymentID with
  | some existing => do
    require (SameClaim existing paymentID allocationID mode digest ∧ existing.expectedVersion = expectedVersion ∧
      existing.evidenceHash = evidenceHash ∧ existing.claimedAt = claimedAt) [.claimConflict]
    pure (r, existing, true)
  | none => do
    require (∀ owner ∈ r.byAllocation.lookup allocationID, owner = paymentID) [.claimConflict]
    let record : Claim :=
      ⟨"phase7b:" ++ allocationID, paymentID, allocationID, mode, digest, .unset, expectedVersion, evidenceHash, claimedAt⟩
    let (claims, replayed) ← joinError .claimConflict (r.claims.claimSynthetic record)
    pure ({ r with
      byPayment := r.byPayment.insert paymentID record
      byAllocation := r.byAllocation.insert allocationID paymentID
      claims := claims }, record, replayed)

def claimModeWithCommit (r : Registry) (paymentID allocationID : String) (mode : Mode) (digest : String)
    (expectedVersion : Nat) (evidenceHash : String) (claimedAt : Time) (commit : Claim → Except Errors σ) :
    Except Errors (Registry × Claim × σ) := do
  require (paymentID ≠ "" ∧ allocationID ≠ "" ∧ digest ≠ "" ∧ evidenceHash ≠ "" ∧ ¬ claimedAt.IsZero ∧
    mode = .canonicalGateway) [.invalidClaim]
  require (¬ r.IsReversed paymentID) [.claimConflict]
  require (r.byPayment.lookup paymentID = none) [.claimConflict]
  require (r.byAllocation.lookup allocationID = none) [.claimConflict]
  let record : Claim :=
    ⟨"phase7c:" ++ allocationID, paymentID, allocationID, mode, digest, .prepared, expectedVersion, evidenceHash, claimedAt⟩
  let (claims, written) ← r.claims.claimCanonical record (commit record)
  pure ({ r with
    byPayment := r.byPayment.insert paymentID record
    byAllocation := r.byAllocation.insert allocationID paymentID
    claims := claims }, record, written)

def register (r : Registry) (claim : Claim) : Registry :=
  { r with
    byPayment := r.byPayment.insert claim.paymentID claim
    byAllocation := r.byAllocation.insert claim.allocationID claim.paymentID
    claims := r.claims.insert claim.paymentID claim }

variable {allocationID digest evidenceHash paymentID : String} {claimedAt : Time} {expectedVersion : Nat}
  {r r' : Registry}

theorem claimMode_eq_ok {result : Claim × Bool}
    (written : r.byPayment.lookup paymentID = none → r.claims.lookup paymentID = none)
    (h : r.claimMode paymentID allocationID .syntheticProjection digest expectedVersion evidenceHash claimedAt =
      .ok (r', result)) :
    r' = r ∨ r.byPayment.lookup paymentID = none ∧ ¬ r.IsReversed paymentID ∧
      (∀ owner ∈ r.byAllocation.lookup allocationID, owner = paymentID) ∧
      ∃ claim : Claim, claim.paymentID = paymentID ∧ claim.allocationID = allocationID ∧ claim.digest = digest ∧
        claim.expectedVersion = expectedVersion ∧ claim.evidenceHash = evidenceHash ∧ claim.claimedAt = claimedAt ∧
        claim.mode = .syntheticProjection ∧ ValidDurableClaim claim ∧ r' = r.register claim := by
  simp only [claimMode, block_eq_ok] at h
  obtain ⟨-, hreversed, h⟩ := h
  split at h
  · simp only [block_eq_ok, Prod.mk.injEq] at h
    exact .inl h.2.1.symm
  · next free =>
    simp only [block_eq_ok, joinError_eq_ok, Prod.exists, Prod.mk.injEq] at h
    obtain ⟨howner, claims, replayed, hclaims, rfl, -⟩ := h
    simp only [ClaimStore.claimSynthetic, block_eq_ok, written free, Prod.mk.injEq] at hclaims
    obtain ⟨⟨valid, -⟩, -, rfl, -⟩ := hclaims
    exact .inr ⟨free, hreversed, howner, _, rfl, rfl, rfl, rfl, rfl, rfl, rfl, valid, rfl⟩

theorem claimModeWithCommit_eq_ok {commit : Claim → Except Errors σ} {claim : Claim} {written : σ}
    (hwritten : r.byPayment.lookup paymentID = none → r.claims.lookup paymentID = none)
    (h : r.claimModeWithCommit paymentID allocationID .canonicalGateway digest expectedVersion evidenceHash claimedAt
      commit = .ok (r', claim, written)) :
    r.byPayment.lookup paymentID = none ∧ ¬ r.IsReversed paymentID ∧ r.byAllocation.lookup allocationID = none ∧
      claim = ⟨"phase7c:" ++ allocationID, paymentID, allocationID, .canonicalGateway, digest, .prepared,
        expectedVersion, evidenceHash, claimedAt⟩ ∧
      ValidDurableClaim claim ∧ commit claim = .ok written ∧ r' = r.register claim := by
  simp only [claimModeWithCommit, block_eq_ok, Prod.exists, Prod.mk.injEq] at h
  obtain ⟨-, hreversed, free, unowned, claims, written, hclaims, rfl, rfl, rfl⟩ := h
  simp only [ClaimStore.claimCanonical, block_eq_ok, hwritten free, Prod.mk.injEq] at hclaims
  obtain ⟨⟨valid, -⟩, -, _, hcommit, rfl, rfl⟩ := hclaims
  exact ⟨free, hreversed, unowned, rfl, valid, hcommit, rfl⟩

def transitionWithCommit (r : Registry) (paymentID allocationID digest : String) (expected next : CanonicalState)
    (commit : Claim → Except Errors σ) : Except Errors (Registry × σ) := do
  require (expected ≠ .unset ∧ next ≠ .unset) [.invalidCanonicalTransition]
  let record ← orRevert (r.byPayment.lookup paymentID) [.invalidCanonicalTransition]
  require (record.mode = .canonicalGateway ∧ record.allocationID = allocationID ∧ record.digest = digest ∧
    record.state = expected ∧ allowedCanonicalTransition expected next) [.invalidCanonicalTransition]
  let written ← commit { record with state := next }
  pure ({ r with byPayment := r.byPayment.insert paymentID { record with state := next } }, written)

/-- `HandleReversalWithCommit`; `current` is what the coordinator keeps when no commit runs. -/
def handleReversalWithCommit (r : Registry) (paymentID : String) (current : σ)
    (commit : Option Claim → ReversalDisposition → Except Errors σ) :
    Except Errors (Registry × σ × Option Claim × ReversalDisposition) := do
  require (paymentID ≠ "") [.invalidClaim]
  match r.byPayment.lookup paymentID with
  | none => do
    let written ← joinError .resolutionFailed (commit none .unclaimed)
    pure ({ r with reversed := insert paymentID r.reversed }, written, none, .unclaimed)
  | some record =>
    if record.mode = .syntheticProjection then do
      let written ← joinError .resolutionFailed (commit (some record) .synthetic)
      pure ({ r with reversed := insert paymentID r.reversed }, written, some record, .synthetic)
    else
      match record.state with
      | .prepared | .failed | .submitted => do
        let written ← joinError .resolutionFailed (commit (some record) .quarantined)
        let record := { record with state := .quarantined }
        pure ({ r with byPayment := r.byPayment.insert paymentID record }, written, some record, .quarantined)
      | .confirmed => do
        let written ← joinError .resolutionFailed (commit (some record) .incident)
        let record := { record with state := .incident }
        pure ({ r with byPayment := r.byPayment.insert paymentID record }, written, some record, .incident)
      | .incident => pure (r, current, some record, .incident)
      | .quarantined | .unset => pure (r, current, some record, .quarantined)

def resolveQuarantinedReversal (r : Registry) (claim : Claim) (commit : Except Errors σ) :
    Except Errors (Registry × σ) := do
  let existing ← orRevert (r.byPayment.lookup claim.paymentID) [.invalidCanonicalTransition]
  require (SameClaim existing claim.paymentID claim.allocationID claim.mode claim.digest ∧
    existing.mode = .canonicalGateway ∧ existing.state = .quarantined) [.invalidCanonicalTransition]
  let written ← joinError .resolutionFailed commit
  pure ({ r with
    byPayment := r.byPayment.insert existing.paymentID { existing with state := .failed }
    reversed := insert existing.paymentID r.reversed }, written)

end Registry

end Unified.Settlement
