import Unified.Lib.Checked
import Unified.Lib.Hex
import Unified.Lib.Table

/-! The records of the chain indexer: decoded events, blocks, the read models they project to, and the
    evidence of settlements that a reorganisation removed. -/

namespace Unified.Indexer

abbrev Octets := List UInt8

/-- Nanoseconds since the zero time. -/
abbrev Time := Int

def Time.IsZero (t : Time) : Prop := t = 0

instance (t : Time) : Decidable t.IsZero := inferInstanceAs (Decidable (t = 0))

/-- The zero time in nanoseconds of the Unix epoch, with the other sign. -/
def UNIX_EPOCH : Int := 62135596800000000000

/-- `UnixNano` wraps around in 64 bits. -/
def Time.unixNano (t : Time) : Int := (t - UNIX_EPOCH).bmod (2 ^ 64)

def Time.unix (t : Time) : Int := (t - UNIX_EPOCH) / 1000000000

/-- The hash and the signature check that the services take from a library. -/
class Crypto where
  keccak : Octets → Octets
  length_keccak : ∀ input, (keccak input).length = 32
  /-- `ed25519.Verify(key, message, signature)`. -/
  verify : Octets → Octets → Octets → Bool

export Crypto (keccak length_keccak)

def keccakText [Crypto] (input : Octets) : String := hexText (keccak input)

def canonicalHash (value : String) : Bool := (decodeHexText value 32).isSome

def canonicalAddress (value : String) : Bool := (decodeHexText value 20).isSome

def nonzeroCanonicalHash (value : String) : Bool :=
  match decodeHexText value 32 with
  | some bytes => bytes.any (· ≠ 0)
  | none => false

theorem canonicalHash_hexText {b : Octets} (h : b.length = 32) : canonicalHash (hexText b) = true := by
  rw [canonicalHash, decodeHexText_eq_some.mpr ⟨rfl, h⟩, Option.isSome_some]

theorem canonicalHash_keccakText [Crypto] (input : Octets) : canonicalHash (keccakText input) = true :=
  canonicalHash_hexText (length_keccak input)

theorem ne_empty_of_canonicalHash {value : String} (h : canonicalHash value = true) : value ≠ "" := by
  obtain ⟨b, hb⟩ := Option.isSome_iff_exists.mp h
  rw [(decodeHexText_eq_some.mp hb).1]
  exact hexText_ne_empty b

inductive EventType where
  | tenderPublished | offerSelected | loanActivated | principalRepaid | loanClosed | canonicalSettlementExecuted
  | other (name : String)
  deriving DecidableEq, Repr

/-- The fields of a settlement event that its projection copies. -/
structure SettlementFields where
  (paymentID allocationID instructionDigest policySetHash loanID loanAccount finalizer attester : String)
  (sourceAssetID targetToken sourceUnits grossUnits providerIDHash providerReferenceHash : String)
  (reconciliationID reconciliationCommitment originalJournalSetHash conversionPolicyHash : String)
  (finalityPolicyHash evidenceHash journalRef : String)
  (providerFinalizedAt reversalDeadline : Nat)
  (principalUnits refundableExcessUnits debtBeforeUnits debtAfterUnits : String)
  (stateNonceBefore stateNonceAfter : Nat)
  (lenderID borrowerID : String)
  chainID : Nat
  gateway : String
  logIndex : Nat
  (blockHash rawEvidenceHash : String)
  transactionIndex : Nat
  (receiptsRoot inclusionProofHash receiptHeaderSignatureHash : String)
  deriving DecidableEq, Repr, Inhabited

structure Event extends SettlementFields where
  id : String
  type : EventType
  txHash : String
  blockNumber : Nat
  (tenderID offerID assetID amountUnits : String)
  decodedCanonical : Bool
  deriving DecidableEq, Repr

structure Block where
  number : Nat
  (hash parentHash : String)
  observedAt : Time
  events : List Event
  headerSignatureHash : String
  deriving DecidableEq, Repr, Inhabited

inductive TransactionReceiptStatus where
  | reverted | succeeded
  deriving DecidableEq, Repr

structure VerifiedReceipt where
  (transactionHash receiptPayloadHash : String)
  status : TransactionReceiptStatus
  (transactionIndex blockNumber : Nat)
  (blockHash receiptsRoot inclusionProofHash headerSignatureHash : String)
  deriving DecidableEq, Repr

inductive Finality where
  | provisional | final
  deriving DecidableEq, Repr

inductive TenderState where
  | open | offerSelected
  deriving DecidableEq, Repr

structure Tender where
  (id borrowerID : String)
  state : TenderState
  selectedOfferID : String
  updatedInBlock : Nat
  finality : Finality
  deriving DecidableEq, Repr

inductive LoanStatus where
  | active | closed
  deriving DecidableEq, Repr

structure Loan where
  (id borrowerID lenderID assetID principalUnits outstandingUnits : String)
  status : LoanStatus
  lastPaymentID : String
  updatedInBlock : Nat
  finality : Finality
  deriving DecidableEq, Repr

structure CanonicalSettlement extends SettlementFields where
  (targetAssetID transactionHash eventID : String)
  updatedInBlock : Nat
  finality : Finality
  deriving DecidableEq, Repr

inductive ReorgDepthClass where
  | preFinality | deepFinality
  deriving DecidableEq, Repr

structure SettlementReorg where
  (paymentID allocationID instructionDigest : String)
  chainID : Nat
  (gateway eventID transactionHash orphanedEventEvidenceHash rawEvidenceHash : String)
  transactionIndex : Nat
  (receiptsRoot inclusionProofHash orphanedReceiptHeaderSignatureHash orphanedBlockHash : String)
  orphanedBlock : Nat
  replacementBlockHash : String
  replacementBlock : Nat
  depthClass : ReorgDepthClass
  (confirmationDepth detectedHead : Nat)
  (detectedHeadHash finalityPolicyHash headerAuthorityHash replacementHeaderSignatureHash : String)
  detectedHeadHeaderSignatureHash : String
  compensationRequired : Bool
  evidenceHash : String
  detectedAt : Time
  deriving DecidableEq, Repr

structure Projection where
  headHash : String
  head : Nat
  headObservedAt : Time
  headHeaderSignatureHash : String
  tenders : Table String Tender
  loans : Table String Loan
  payments : Table String String
  canonicalSettlements : Table String CanonicalSettlement
  deriving DecidableEq

structure Snapshot extends Projection where
  settlementReorgs : Table String SettlementReorg
  deriving DecidableEq

def Projection.empty : Projection where
  headHash := ""
  head := 0
  headObservedAt := 0
  headHeaderSignatureHash := ""
  tenders := ∅
  loans := ∅
  payments := ∅
  canonicalSettlements := ∅

/-- What a constructor fixes; an indexer without a header authority takes unauthenticated blocks. -/
structure Config where
  chainID : Nat
  gateway : String
  finalityDepth : Nat
  headerAuthority : Octets
  (headerAuthorityHash finalityPolicyHash : String)
  deriving DecidableEq, Repr

/-- The maps that are copied, changed and put back together. -/
structure ChainMaps where
  blocks : Table Nat Block
  eventBlocks : Table String Nat
  receipts : Table String VerifiedReceipt
  settlementReorgs : Table String SettlementReorg
  deriving DecidableEq

structure State extends ChainMaps where
  config : Config
  snapshot : Snapshot
  deriving DecidableEq

def State.fresh (config : Config) : State where
  blocks := ∅
  eventBlocks := ∅
  receipts := ∅
  settlementReorgs := ∅
  config := config
  snapshot := { Projection.empty with settlementReorgs := ∅ }

inductive IndexerError where
  | invalidBlock | unknownParent
  | duplicateEvent (eventID : String) (height : Nat)
  | invalidEvent | invalidIndexerConfig | invalidTransactionFailure | unauthenticatedBlock
  | invalidHeaderEvidence | invalidInclusionProof
  deriving DecidableEq, Repr

end Unified.Indexer
