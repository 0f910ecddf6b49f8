import Unified.Indexer.Evidence

/-! The indexer of one gateway: its constructor, the ingestion of authenticated blocks, and the proofs it
    gives out of finalized settlements, removed settlements and reverted transactions. -/

namespace Unified.Indexer

structure FinalityProof where
  finality : Finality
  (confirmationDepth headBlockNumber : Nat)
  (headBlockHash evidenceHash : String)
  observedAt : Time
  (finalityPolicyHash headerAuthorityHash headHeaderSignatureHash : String)
  deriving DecidableEq

structure VerifiedGatewayProjection where
  settlement : CanonicalSettlement
  proof : FinalityProof
  deriving DecidableEq

structure ExpectedTransaction where
  chainID : Nat
  (gateway transactionHash : String)
  deriving DecidableEq

structure TransactionFailureEvidence where
  chainID : Nat
  (gateway transactionHash receiptPayloadHash : String)
  status : TransactionReceiptStatus
  (transactionIndex blockNumber : Nat)
  (blockHash receiptsRoot inclusionProofHash finalityPolicyHash headerAuthorityHash : String)
  (receiptHeaderSignatureHash headHeaderSignatureHash : String)
  (confirmationDepth headBlockNumber : Nat)
  (headBlockHash evidenceHash : String)
  observedAt : Time
  deriving DecidableEq

def Finality.text : Finality → String
  | .provisional => "PROVISIONAL"
  | .final => "FINAL"

def TransactionReceiptStatus.text : TransactionReceiptStatus → String
  | .reverted => "REVERTED"
  | .succeeded => "SUCCEEDED"

section

variable [Crypto]

def computeFinalityPolicyHash (chainID : Nat) (gateway : String) (finalityDepth : Nat) (headerAuthority : Octets) :
    Except IndexerError String := do
  let gatewayBytes ← orRevert (decodeHexText gateway 20) .invalidIndexerConfig
  require (chainID ≠ 0 ∧ finalityDepth ≠ 0 ∧ headerAuthority.length = PUBLIC_KEY_SIZE) .invalidIndexerConfig
  pure (keccakText (octets "UNIFIED_EVM_FINALITY_POLICY_V1\x00" ++ toBigEndian 8 chainID ++ gatewayBytes ++
    toBigEndian 8 finalityDepth ++ headerAuthority))

def newGateway (chainID : Nat) (gateway : String) (finalityDepth : Nat) (headerAuthority : Octets) :
    Except IndexerError State := do
  require (chainID ≠ 0 ∧ canonicalAddress gateway ∧ finalityDepth ≠ 0 ∧ headerAuthority.length = PUBLIC_KEY_SIZE)
    .invalidIndexerConfig
  let policyHash ← computeFinalityPolicyHash chainID gateway finalityDepth headerAuthority
  pure (State.fresh ⟨chainID, gateway, finalityDepth, headerAuthority, keccakText headerAuthority, policyHash⟩)

/-- The block that verified evidence gives. -/
def blockOf (block : AuthenticatedBlock) (verified : Verified) : Block where
  number := verified.header.number
  hash := verified.header.hash
  parentHash := verified.header.parentHash
  observedAt := block.observedAt
  events := verified.events
  headerSignatureHash := keccakText block.signature

def ingestAuthenticated (s : State) (block : AuthenticatedBlock) : Except IndexerError State := do
  require (s.config.chainID ≠ 0 ∧ s.config.gateway ≠ "" ∧ s.config.headerAuthority.length = PUBLIC_KEY_SIZE)
    .invalidIndexerConfig
  let verified ← verifyAuthenticatedBlock s.config.chainID s.config.gateway s.config.headerAuthority block
  ingestBlock s (blockOf block verified) verified.receipts

/-! ### Proofs given out -/

def finalityEvidenceHash (settlement : CanonicalSettlement) (proof : FinalityProof) : String :=
  keccakText (joined "UNIFIED_PHASE7C_FINALITY_V3" [Nat.repr settlement.chainID, settlement.gateway, settlement.paymentID,
    settlement.allocationID, settlement.instructionDigest, settlement.eventID, settlement.transactionHash,
    settlement.blockHash, Nat.repr settlement.updatedInBlock, Nat.repr settlement.logIndex, settlement.rawEvidenceHash,
    Nat.repr settlement.transactionIndex, settlement.receiptsRoot, settlement.inclusionProofHash,
    settlement.receiptHeaderSignatureHash, proof.finality.text, Nat.repr proof.confirmationDepth,
    Nat.repr proof.headBlockNumber, proof.headBlockHash, proof.finalityPolicyHash, proof.headerAuthorityHash,
    proof.headHeaderSignatureHash, toString proof.observedAt.unixNano])

/-- What `FinalizedGatewayProjection` checks of a settlement and of the head. -/
def Finalized (s : State) (settlement : CanonicalSettlement) : Prop :=
  settlement.finality = .final ∧ settlement.updatedInBlock ≠ 0 ∧ settlement.updatedInBlock ≤ s.snapshot.head ∧
    s.config.finalityDepth ≤ s.snapshot.head - settlement.updatedInBlock ∧ s.snapshot.headHash ≠ "" ∧
    canonicalHash s.snapshot.headHeaderSignatureHash ∧ settlement.finalityPolicyHash = s.config.finalityPolicyHash ∧
    canonicalHash settlement.receiptsRoot ∧ canonicalHash settlement.inclusionProofHash ∧
    canonicalHash settlement.receiptHeaderSignatureHash ∧ ¬ s.snapshot.headObservedAt.IsZero

instance (s : State) (settlement : CanonicalSettlement) : Decidable (Finalized s settlement) := by
  unfold Finalized; infer_instance

/-- The proof before its own hash is filled in. -/
def finalityProofOf (s : State) : FinalityProof where
  finality := .final
  confirmationDepth := s.config.finalityDepth
  headBlockNumber := s.snapshot.head
  headBlockHash := s.snapshot.headHash
  evidenceHash := ""
  observedAt := s.snapshot.headObservedAt
  finalityPolicyHash := s.config.finalityPolicyHash
  headerAuthorityHash := s.config.headerAuthorityHash
  headHeaderSignatureHash := s.snapshot.headHeaderSignatureHash

def finalizedGatewayProjection (s : State) (paymentID : String) : Option VerifiedGatewayProjection :=
  if s.config.finalityDepth = 0 ∨ s.config.headerAuthority.length ≠ PUBLIC_KEY_SIZE then none
  else
    ((s.snapshot.canonicalSettlements.lookup paymentID).filter (Finalized s ·)).map fun settlement =>
      let proof := finalityProofOf s
      ⟨settlement, { proof with evidenceHash := finalityEvidenceHash settlement proof }⟩

def transactionFailureEvidenceHash (e : TransactionFailureEvidence) : String :=
  keccakText (joined "UNIFIED_PHASE7C_TRANSACTION_FAILURE_V3" [Nat.repr e.chainID, e.gateway, e.transactionHash,
    e.receiptPayloadHash, e.status.text, Nat.repr e.transactionIndex, Nat.repr e.blockNumber, e.blockHash, e.receiptsRoot,
    e.inclusionProofHash, e.receiptHeaderSignatureHash, e.finalityPolicyHash, e.headerAuthorityHash,
    Nat.repr e.confirmationDepth, Nat.repr e.headBlockNumber, e.headBlockHash, e.headHeaderSignatureHash,
    toString e.observedAt.unixNano])

/-- The evidence of a reverted receipt before its own hash is filled in. -/
def failureEvidenceOf (s : State) (expected : ExpectedTransaction) (receipt : VerifiedReceipt) :
    TransactionFailureEvidence where
  chainID := expected.chainID
  gateway := expected.gateway
  transactionHash := receipt.transactionHash
  receiptPayloadHash := receipt.receiptPayloadHash
  status := receipt.status
  transactionIndex := receipt.transactionIndex
  blockNumber := receipt.blockNumber
  blockHash := receipt.blockHash
  receiptsRoot := receipt.receiptsRoot
  inclusionProofHash := receipt.inclusionProofHash
  finalityPolicyHash := s.config.finalityPolicyHash
  headerAuthorityHash := s.config.headerAuthorityHash
  receiptHeaderSignatureHash := receipt.headerSignatureHash
  headHeaderSignatureHash := s.snapshot.headHeaderSignatureHash
  confirmationDepth := s.config.finalityDepth
  headBlockNumber := s.snapshot.head
  headBlockHash := s.snapshot.headHash
  evidenceHash := ""
  observedAt := s.snapshot.headObservedAt

def verifyTransactionFailure (s : State) (expected : ExpectedTransaction) :
    Except IndexerError TransactionFailureEvidence := do
  require (s.config.chainID ≠ 0 ∧ s.config.gateway ≠ "" ∧ s.config.finalityDepth ≠ 0 ∧
    s.config.headerAuthority.length = PUBLIC_KEY_SIZE ∧ expected.chainID = s.config.chainID ∧
    expected.gateway = s.config.gateway ∧ canonicalAddress expected.gateway ∧ canonicalHash expected.transactionHash)
    .invalidTransactionFailure
  let receipt ← orRevert (s.receipts.lookup expected.transactionHash) .invalidTransactionFailure
  require (receipt.status = .reverted) .invalidTransactionFailure
  require ((s.blocks.lookup receipt.blockNumber).map Block.hash = some receipt.blockHash ∧
    receipt.blockNumber ≤ s.snapshot.head ∧ s.config.finalityDepth ≤ s.snapshot.head - receipt.blockNumber ∧
    canonicalHash s.snapshot.headHash ∧ canonicalHash s.snapshot.headHeaderSignatureHash ∧
    canonicalHash receipt.receiptsRoot ∧ canonicalHash receipt.inclusionProofHash ∧
    canonicalHash receipt.headerSignatureHash ∧ ¬ s.snapshot.headObservedAt.IsZero) .invalidTransactionFailure
  let evidence := failureEvidenceOf s expected receipt
  pure { evidence with evidenceHash := transactionFailureEvidenceHash evidence }

end

end Unified.Indexer
