import Unified.Indexer.Settlements
import Unified.Settlement.Runs

/-! What one state of a gateway's indexer can justify: never both the failure and the confirmation of one
    submitted transaction. -/

namespace Unified.Settlement

open Indexer

namespace Coordinator

/-- A plan that a call of `Fail` names is not confirmed and carries the transaction of the proof, or is failed. -/
theorem fail_plan {c c' : Coordinator} {r : FailureRequest} {next : Plan} (h : c.fail r = .ok (c', next)) :
    ∃ plan failure, (c.file r.paymentID).plan = some plan ∧ r.proof = some failure ∧
      (plan.state = .failed ∨
        plan.state = .submitted ∧ failure.transactionHash = plan.submission.transactionHash) := by
  simp only [fail, block_eq_ok, orRevert_eq_ok] at h
  obtain ⟨failure, hproof, -, plan, hplan, h⟩ := h
  refine ⟨plan, failure, (named_eq_ok hplan).1, hproof, ?_⟩
  split at h
  · next hreplay => exact .inl hreplay.1
  · simp only [block_eq_ok] at h
    obtain ⟨⟨-, hstate, htransaction, -⟩, -⟩ := h
    exact .inr ⟨hstate, htransaction⟩

/-- A plan without a confirmation that a call of `Confirm` accepts carries the transaction of the projection. -/
theorem confirm_plan {c c' : Coordinator} {r : ConfirmationRequest} {k : AccountingProjection}
    (h : c.confirm r = .ok (c', k)) (unconfirmed : (c.file r.paymentID).confirmation = none) :
    ∃ plan, (c.file r.paymentID).plan = some plan ∧ (plan.state = .submitted ∨ plan.state = .quarantined) ∧
      r.projection.settlement.transactionHash = plan.submission.transactionHash := by
  simp only [confirm, block_eq_ok] at h
  obtain ⟨-, plan, hplan, h⟩ := h
  have hnone : c.confirmations.lookup r.paymentID = none := unconfirmed
  rw [hnone] at h
  simp only [block_eq_ok] at h
  obtain ⟨⟨-, ⟨-, hstate, hmatches, -⟩, -⟩, -⟩ := h
  exact ⟨plan, (named_eq_ok hplan).1, hstate, hmatches.1⟩

end Coordinator

/-! ### One state of the indexer -/

/-- After any blocks: no transaction of a projected settlement is ever proved to have failed, a transaction has at most
    one receipt, a proof of failure is of a reverted receipt under enough blocks, and a coordinator accepts at most one
    of a failure and a confirmation from this state. -/
theorem success_excludes_failure [Encoding] {chainID depth : Nat} {gateway : String} {authority : Octets}
    {s₀ : Indexer.State} (h₀ : newGateway chainID gateway depth authority = .ok s₀) (blocks : List AuthenticatedBlock)
    (free : NoReceiptCollision blocks) :
    let s := runCalls (fun a s => ingestAuthenticated s a) s₀ blocks
    (∀ p settlement, s.snapshot.canonicalSettlements.lookup p = some settlement →
      ∀ expected failure, expected.transactionHash = settlement.transactionHash →
        verifyTransactionFailure s expected ≠ .ok failure) ∧
    (∀ h r, s.receipts.lookup h = some r → r.transactionHash = h ∧
      ∃ b, s.blocks.lookup r.blockNumber = some b ∧ b.hash = r.blockHash) ∧
    (∀ expected failure, verifyTransactionFailure s expected = .ok failure →
      ∃ r b, s.receipts.lookup expected.transactionHash = some r ∧ r.status = .reverted ∧
        s.blocks.lookup r.blockNumber = some b ∧ b.hash = r.blockHash ∧
        r.blockNumber + s.config.finalityDepth ≤ s.snapshot.head ∧ failure.transactionHash = r.transactionHash ∧
        failure.status = .reverted ∧ failure.blockNumber = r.blockNumber ∧ failure.blockHash = r.blockHash) ∧
    (∀ expected failure p projection, verifyTransactionFailure s expected = .ok failure →
      finalizedGatewayProjection s p = some projection →
        failure.transactionHash ≠ projection.settlement.transactionHash) ∧
    (∀ (calls : List Call) (r : FailureRequest) (r' : ConfirmationRequest) expected failure p projection,
      verifyTransactionFailure s expected = .ok failure → finalizedGatewayProjection s p = some projection →
      r.proof = some failure → r'.projection = projection → r.paymentID = r'.paymentID →
        ¬ ((∃ x, (Coordinator.after calls).fail r = .ok x) ∧ ∃ y, (Coordinator.after calls).confirm r' = .ok y)) := by
  intro s
  obtain ⟨config, rfl, -, -⟩ := newGateway_eq_ok h₀
  have hrun : StoresDeliveries blocks config s :=
    runCalls_invariant_of_mem _ (fun a ha s t hok hs => hs.ingest free ha hok) ⟨[], [], by simp, .nil, Stored.nil⟩
  have receipts : ∀ h r, s.receipts.lookup h = some r → r.transactionHash = h ∧
      ∃ b, s.blocks.lookup r.blockNumber = some b ∧ b.hash = r.blockHash := by
    intro h r hr
    obtain ⟨stored, ds, -, -, hstored⟩ := hrun
    obtain ⟨hhash, d, -, -, hblock, hblockHash⟩ := hstored.receipt_block hr
    exact ⟨hhash, d.block, hblock, hblockHash⟩
  have exclusive : ∀ p settlement, s.snapshot.canonicalSettlements.lookup p = some settlement →
      ∀ expected failure, expected.transactionHash = settlement.transactionHash →
        verifyTransactionFailure s expected ≠ .ok failure := by
    intro p settlement hp expected failure hexpected hfailure
    obtain ⟨r, hr, hsucceeded⟩ := hrun.settlement_receipt hp
    obtain ⟨r', b, hr', hreverted, -⟩ := verifyTransactionFailure_eq_ok hfailure
    rw [hexpected, hr] at hr'
    cases hr'
    rw [hsucceeded] at hreverted
    cases hreverted
  have distinct : ∀ expected failure p projection, verifyTransactionFailure s expected = .ok failure →
      finalizedGatewayProjection s p = some projection →
        failure.transactionHash ≠ projection.settlement.transactionHash := by
    intro expected failure p projection hfailure hprojection heq
    obtain ⟨r, b, hr, -, -, -, -, hhash, -⟩ := verifyTransactionFailure_eq_ok hfailure
    have hexpected : expected.transactionHash = projection.settlement.transactionHash := by
      rw [← heq, hhash, (receipts _ _ hr).1]
    rw [finalizedGatewayProjection] at hprojection
    split at hprojection
    · cases hprojection
    · obtain ⟨settlement, hsettlement, rfl⟩ := Option.map_eq_some_iff.mp hprojection
      exact exclusive p settlement (Option.filter_eq_some_iff.mp hsettlement).1 expected failure hexpected hfailure
  refine ⟨exclusive, receipts, fun expected failure => verifyTransactionFailure_eq_ok, distinct, ?_⟩
  rintro calls r r' expected failure p projection hfailure hprojection hproof rfl hpayment
    ⟨⟨⟨c', next⟩, hfail⟩, ⟨⟨c'', k⟩, hconfirm⟩⟩
  obtain ⟨plan, failure', hplan, hproof', hstate⟩ := Coordinator.fail_plan hfail
  rw [hproof] at hproof'
  cases hproof'
  -- a failed or submitted plan has no confirmation, so `Confirm` compares its projection with the submission
  obtain ⟨claim, -, planned⟩ := ((Coordinator.inv_after calls).files r.paymentID).planned plan hplan
  have hopen : plan.state ≠ .confirmed ∧ plan.state ≠ .incident := by
    rcases hstate with hstate | ⟨hstate, -⟩ <;> simp [hstate]
  obtain ⟨plan', hplan', hstate', htransaction⟩ :=
    Coordinator.confirm_plan hconfirm (hpayment ▸ planned.unconfirmed hopen)
  rw [← hpayment, hplan] at hplan'
  cases hplan'
  rcases hstate with hstate | ⟨-, hsame⟩
  · rw [hstate] at hstate'
    simp at hstate'
  · exact distinct expected failure p _ hfailure hprojection (hsame.trans htransaction.symm)

/-! ### A reverted transaction and a settlement under two blocks -/

def revertedReceipt : EvmReceipt := { toyReceipt with succeeded := false, logs := [] }

/-- The hash of `CANONICAL_SETTLEMENT_EVENT_SIGNATURE`, written out. -/
def settlementTopic : Octets :=
  [121, 210, 142, 237, 88, 99, 194, 161, 164, 214, 237, 163, 65, 233, 135, 76, 165, 245, 199, 195, 188, 18, 60, 169, 12,
    56, 162, 114, 48, 152, 5, 75]

/-- The policy hash of `polyIndexer`, written out. -/
def policyWord : Octets :=
  [84, 232, 2, 122, 191, 233, 211, 140, 168, 22, 95, 252, 66, 127, 48, 233, 254, 41, 233, 56, 23, 30, 195, 243, 17, 172,
    118, 249, 159, 143, 236, 18]

def lastByte (n : UInt8) : Octets := List.replicate 31 0 ++ [n]

/-- A settlement of 30 units, which lowers a debt of 100. -/
def settlementData : Octets :=
  [1, 1, 1, 1, 1, 1, 2, 1, 30, 30, 1, 1, 1, 1, 1, 1].flatMap lastByte ++ policyWord ++
    [1, 1, 1, 2, 100, 30, 0, 70, 1, 2, 1, 1].flatMap lastByte

def settledReceipt : EvmReceipt :=
  { toyReceipt with logs := [⟨List.replicate 20 5, settlementTopic :: [1, 2, 3].map lastByte, settlementData⟩] }

/-- The block of the two transactions and two blocks on top of it. -/
def revertedBlocks : List AuthenticatedBlock :=
  let receipts := [revertedReceipt.encode, settledReceipt.encode]
  let first := polyHeader (List.replicate 32 0) [[9], [8]] receipts 1 1
  let second := polyHeader (polyHash first) [] [] 2 1
  let third := polyHeader (polyHash second) [] [] 3 1
  [polyBlock first toyTime ([0, 1].map (polyProof [[9], [8]] receipts)), polyBlock second toyTime [],
    polyBlock third toyTime []]

def revertedIndexer : Indexer.State :=
  runCalls (fun a s => @ingestAuthenticated polyEncoding.toCrypto s a) polyIndexer revertedBlocks

def transactionOf (transaction : Octets) : ExpectedTransaction := ⟨1, polyGateway, @keccakText polyCrypto transaction⟩

theorem revertedIndexer_run :
    (@verifyTransactionFailure polyEncoding.toCrypto revertedIndexer (transactionOf [9])).isOk = true ∧
    (revertedIndexer.snapshot.canonicalSettlements.lookup (hexText (lastByte 1))).map (·.transactionHash) =
      some (transactionOf [8]).transactionHash := by decide +kernel

/-- The first transaction is proved to have failed; the second has settled, and no such proof passes for it. -/
theorem success_excludes_failure_reverted :
    (∃ failure, @verifyTransactionFailure polyEncoding.toCrypto revertedIndexer (transactionOf [9]) = .ok failure ∧
      ∃ r, revertedIndexer.receipts.lookup (transactionOf [9]).transactionHash = some r ∧ r.status = .reverted ∧
        r.blockNumber + revertedIndexer.config.finalityDepth ≤ revertedIndexer.snapshot.head) ∧
    ∃ settlement, revertedIndexer.snapshot.canonicalSettlements.lookup (hexText (lastByte 1)) = some settlement ∧
      settlement.transactionHash = (transactionOf [8]).transactionHash ∧
      ∀ failure, @verifyTransactionFailure polyEncoding.toCrypto revertedIndexer (transactionOf [8]) ≠ .ok failure := by
  have h₀ : @newGateway polyEncoding.toCrypto 1 polyGateway 2 polyKey = .ok polyIndexer := by decide +kernel
  have free : @NoReceiptCollision polyEncoding.toCrypto revertedBlocks := by
    unfold NoReceiptCollision
    decide +kernel
  obtain ⟨failure, hfailure⟩ := exists_of_isOk revertedIndexer_run.1
  obtain ⟨settlement, hsettlement, htransaction⟩ := Option.map_eq_some_iff.mp revertedIndexer_run.2
  unfold revertedIndexer at hfailure hsettlement ⊢
  obtain ⟨exclusive, -, proved, -⟩ := @success_excludes_failure polyEncoding _ _ _ _ _ h₀ revertedBlocks free
  obtain ⟨r, b, hr, hstatus, -, -, hdepth, -⟩ := proved (transactionOf [9]) failure hfailure
  exact ⟨⟨failure, hfailure, r, hr, hstatus, hdepth⟩, settlement, hsettlement, htransaction,
    fun failure' => exclusive _ settlement hsettlement _ failure' htransaction.symm⟩

end Unified.Settlement
