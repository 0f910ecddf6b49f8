import Unified.Indexer.Ingest
import Unified.Indexer.TrieInclusion

/-! Authenticated evidence: a header signed by the configured authority, the receipts of the block proved
    under its roots from the first one on, and the settlement events in their logs. -/

namespace Unified.Indexer

def MAX_HEADER_RLP_BYTES : Nat := 64 * 2 ^ 10

def MAX_TRANSACTION_BYTES : Nat := 2 ^ 20

def MAX_RECEIPT_BYTES : Nat := 4 * 2 ^ 20

def MAX_RECEIPTS_PER_BLOCK : Nat := 4096

def MAX_BLOCK_PROOF_BYTES : Nat := 32 * 2 ^ 20

def MAX_BLOCK_INPUT_BYTES : Nat := 64 * 2 ^ 20

def MAX_RECEIPT_LOGS : Nat := 4096

def MAX_LOG_TOPICS : Nat := 16

def PUBLIC_KEY_SIZE : Nat := 32

def SIGNATURE_SIZE : Nat := 64

def MAX_UINT32 : Nat := 2 ^ 32 - 1

structure ReceiptInclusionProof where
  transactionIndex : Nat
  transactionRLP : Octets
  transactionProofNodes : List Octets
  receiptRLP : Octets
  receiptProofNodes : List Octets
  deriving DecidableEq

structure AuthenticatedBlock where
  headerRLP : Octets
  observedAt : Time
  signature : Octets
  receipts : List ReceiptInclusionProof
  deriving DecidableEq

structure AuthenticatedHeader where
  headerRLP : Octets
  observedAt : Time
  signature : Octets
  deriving DecidableEq

structure EvmHeader where
  number : Nat
  (hash parentHash transactionsRoot receiptsRoot : String)
  timestamp : Nat
  deriving DecidableEq

structure ReceiptLog where
  address : String
  topics : List String
  data : Octets
  deriving DecidableEq

def octets (text : String) : Octets := text.toUTF8.data.toList

def RlpValue.payload? : RlpValue → Option Octets
  | .string _ payload => some payload
  | .list _ _ => none

def RlpValue.items? : RlpValue → Option (List RlpValue)
  | .string _ _ => none
  | .list _ items => some items

def rlpUint64 (payload : Octets) : Option Nat :=
  if 8 < payload.length ∨ payload.head? = some 0 then none else some (ofBigEndian payload)

def rlpEncodeUint (value : Nat) : Octets :=
  if value = 0 then [0x80]
  else
    let payload := minimalBigEndian value
    if payload.length = 1 ∧ payload.head?.any (· < 0x80) then payload
    else UInt8.ofNat (0x80 + payload.length) :: payload

section

variable [Crypto]

def parseEVMHeader (encoded : Octets) : Except IndexerError EvmHeader := do
  require (encoded.length ≠ 0 ∧ encoded.length ≤ MAX_HEADER_RLP_BYTES) .invalidHeaderEvidence
  let list ← orRevert ((decodeWhole encoded).bind RlpValue.items?) .invalidHeaderEvidence
  require (12 ≤ list.length) .invalidHeaderEvidence
  let field (i : Nat) := orRevert ((list[i]? : Option RlpValue).bind RlpValue.payload?) IndexerError.invalidHeaderEvidence
  let parent ← field 0
  let transactionsRoot ← field 4
  let receiptsRoot ← field 5
  let number ← field 8
  let timestamp ← field 11
  require (parent.length = 32 ∧ transactionsRoot.length = 32 ∧ receiptsRoot.length = 32) .invalidHeaderEvidence
  let blockNumber ← orRevert ((rlpUint64 number).filter (· ≠ 0)) .invalidHeaderEvidence
  let blockTimestamp ← orRevert ((rlpUint64 timestamp).filter (· ≠ 0)) .invalidHeaderEvidence
  pure ⟨blockNumber, keccakText encoded, hexText parent, hexText transactionsRoot, hexText receiptsRoot, blockTimestamp⟩

def authenticatedHeaderSigningDigest (chainID : Nat) (headerRLP : Octets) (observedAt : Time) :
    Except IndexerError Octets := do
  require (chainID ≠ 0 ∧ ¬ observedAt.IsZero ∧ 0 < observedAt.unixNano ∧ headerRLP.length ≠ 0 ∧
    headerRLP.length ≤ MAX_HEADER_RLP_BYTES) .invalidHeaderEvidence
  let _ ← parseEVMHeader headerRLP
  pure (keccak (octets "UNIFIED_EVM_HEADER_AUTHORITY_V1\x00" ++ toBigEndian 8 chainID ++
    toBigEndian 8 observedAt.unixNano.toNat ++ keccak headerRLP))

def decodeTopic (topic : RlpValue) : Option String :=
  (topic.payload?.filter (·.length = 32)).map hexText

def decodeReceiptLog : RlpValue → Option ReceiptLog
  | .list _ [address, topics, data] => do
    let address ← address.payload?.filter (·.length = 20)
    let topics ← topics.items?.filter (·.length ≤ MAX_LOG_TOPICS)
    let data ← data.payload?.filter (·.length ≤ MAX_RECEIPT_BYTES)
    let topics ← topics.mapM decodeTopic
    some ⟨hexText address, topics, data⟩
  | _ => none

def decodeStatus : Octets → Option TransactionReceiptStatus
  | [] => some .reverted
  | [1] => some .succeeded
  | _ => none

/-- The payload of a receipt, without the byte that a typed receipt begins with. -/
def receiptPayload : Octets → Octets
  | [] => []
  | first :: rest => if 0 < first ∧ first < 0x80 then rest else first :: rest

def decodeReceipt (encoded : Octets) : Option (TransactionReceiptStatus × List ReceiptLog) :=
  match decodeWhole (receiptPayload encoded) with
  | some (.list _ [statusField, cumulativeGasUsed, bloom, logsField]) => do
    let statusField ← statusField.payload?
    let _ ← cumulativeGasUsed.payload?.bind rlpUint64
    let _ ← bloom.payload?.filter (·.length = 256)
    let status ← decodeStatus statusField
    let logs ← logsField.items?.filter fun logs => logs.length ≤ MAX_RECEIPT_LOGS ∧ (status = .reverted → logs.length = 0)
    let logs ← logs.mapM decodeReceiptLog
    some (status, logs)
  | _ => none

def appendLengthPrefixed (target value : Octets) : Octets := target ++ toBigEndian 8 value.length ++ value

def receiptInclusionProofHash (header : EvmHeader) (proof : ReceiptInclusionProof) : String :=
  let input := appendLengthPrefixed (octets "UNIFIED_EVM_TRANSACTION_RECEIPT_INCLUSION_V1\x00") (octets header.hash)
  let input := appendLengthPrefixed (input ++ toBigEndian 8 proof.transactionIndex) proof.transactionRLP
  let input := appendLengthPrefixed (proof.transactionProofNodes.foldl appendLengthPrefixed input) proof.receiptRLP
  keccakText (proof.receiptProofNodes.foldl appendLengthPrefixed input)

/-! ### Settlement logs -/

structure RawLog where
  chainID : Nat
  contractAddress : String
  topics : List String
  data : Octets
  transactionHash : String
  (logIndex blockNumber : Nat)
  blockHash : String

def CANONICAL_SETTLEMENT_EVENT_SIGNATURE : String :=
  "CanonicalSettlementExecuted(bytes32,bytes32,bytes32,(bytes32,bytes32,address,address,address,bytes32,bytes32,address,uint256,uint256,bytes32,bytes32,bytes32,bytes32,bytes32,bytes32,bytes32,bytes32,bytes32,uint64,uint64,uint256,uint256,uint256,uint256,uint64,uint64,address,address))"

def canonicalSettlementTopic : String := keccakText (octets CANONICAL_SETTLEMENT_EVENT_SIGNATURE)

def logWord (data : Octets) (index : Nat) : Octets := (data.drop (32 * index)).take 32

def logHash (data : Octets) (index : Nat) : String := hexText (logWord data index)

def logAddress (data : Octets) (index : Nat) : Option String :=
  let value := logWord data index
  if ∀ x ∈ value.take 12, x = 0 then some (hexText (value.drop 12)) else none

def logUint256 (data : Octets) (index : Nat) : String := Nat.repr (ofBigEndian (logWord data index))

def logUint64 (data : Octets) (index : Nat) : Option Nat :=
  some (ofBigEndian (logWord data index)) |>.filter (· < 2 ^ 64)

def settlementEventID (raw : RawLog) : String :=
  keccakText (joined (Nat.repr raw.chainID) [raw.blockHash, raw.transactionHash, Nat.repr raw.logIndex])

def rawEvidenceHash (raw : RawLog) : String :=
  keccakText (raw.topics.flatMap (fun topic => (decodeHexText topic 32).getD []) ++ raw.data)

/-- The event of a log once its shape is checked. -/
def decodeCanonicalSettlementLog (raw : RawLog) (transactionIndex : Nat) (receiptsRoot inclusionProofHash : String)
    (verified : Bool) : Except IndexerError Event := do
  require (raw.chainID ≠ 0 ∧ canonicalAddress raw.contractAddress ∧ raw.topics.length = 4 ∧
    raw.topics.head? = some canonicalSettlementTopic ∧ canonicalHash raw.transactionHash ∧ raw.blockNumber ≠ 0 ∧
    canonicalHash raw.blockHash ∧ raw.data.length = 29 * 32 ∧
    (verified → canonicalHash receiptsRoot ∧ canonicalHash inclusionProofHash)) .invalidEvent
  require (∀ topic ∈ raw.topics.tail, canonicalHash topic) .invalidEvent
  let loanAccount ← orRevert (logAddress raw.data 2) .invalidEvent
  let finalizer ← orRevert (logAddress raw.data 3) .invalidEvent
  let attester ← orRevert (logAddress raw.data 4) .invalidEvent
  let targetToken ← orRevert (logAddress raw.data 7) .invalidEvent
  let finalizedAt ← orRevert (logUint64 raw.data 19) .invalidEvent
  let reversalDeadline ← orRevert (logUint64 raw.data 20) .invalidEvent
  let stateNonceBefore ← orRevert (logUint64 raw.data 25) .invalidEvent
  let stateNonceAfter ← orRevert (logUint64 raw.data 26) .invalidEvent
  let lender ← orRevert (logAddress raw.data 27) .invalidEvent
  let borrower ← orRevert (logAddress raw.data 28) .invalidEvent
  pure {
    id := settlementEventID raw
    type := .canonicalSettlementExecuted
    txHash := raw.transactionHash
    logIndex := raw.logIndex
    blockNumber := raw.blockNumber
    blockHash := raw.blockHash
    chainID := raw.chainID
    gateway := raw.contractAddress
    paymentID := raw.topics.getD 1 ""
    allocationID := raw.topics.getD 2 ""
    loanID := raw.topics.getD 3 ""
    instructionDigest := logHash raw.data 0
    policySetHash := logHash raw.data 1
    loanAccount := loanAccount
    finalizer := finalizer
    attester := attester
    sourceAssetID := logHash raw.data 5
    assetID := logHash raw.data 6
    targetToken := targetToken
    sourceUnits := logUint256 raw.data 8
    grossUnits := logUint256 raw.data 9
    providerIDHash := logHash raw.data 10
    providerReferenceHash := logHash raw.data 11
    reconciliationID := logHash raw.data 12
    reconciliationCommitment := logHash raw.data 13
    originalJournalSetHash := logHash raw.data 14
    conversionPolicyHash := logHash raw.data 15
    finalityPolicyHash := logHash raw.data 16
    evidenceHash := logHash raw.data 17
    journalRef := logHash raw.data 18
    providerFinalizedAt := finalizedAt
    reversalDeadline := reversalDeadline
    debtBeforeUnits := logUint256 raw.data 21
    principalUnits := logUint256 raw.data 22
    refundableExcessUnits := logUint256 raw.data 23
    debtAfterUnits := logUint256 raw.data 24
    stateNonceBefore := stateNonceBefore
    stateNonceAfter := stateNonceAfter
    lenderID := lender
    borrowerID := borrower
    rawEvidenceHash := rawEvidenceHash raw
    transactionIndex := transactionIndex
    receiptsRoot := receiptsRoot
    inclusionProofHash := inclusionProofHash
    decodedCanonical := verified
    receiptHeaderSignatureHash := ""
    tenderID := ""
    offerID := ""
    amountUnits := "" }

/-! ### Blocks -/

def ReceiptInclusionProof.proofBytes (proof : ReceiptInclusionProof) : Nat :=
  (proof.transactionProofNodes.map List.length).sum + (proof.receiptProofNodes.map List.length).sum

/-- The sums stay within their limits at every addition when the whole sums do. -/
def validAuthenticatedBlockSize (block : AuthenticatedBlock) : Bool :=
  block.receipts.length ≤ MAX_RECEIPTS_PER_BLOCK ∧ (block.receipts.map (·.proofBytes)).sum ≤ MAX_BLOCK_PROOF_BYTES ∧
    block.headerRLP.length + block.signature.length + (block.receipts.map fun proof =>
      proof.transactionRLP.length + proof.receiptRLP.length + proof.proofBytes).sum ≤ MAX_BLOCK_INPUT_BYTES

structure Collected where
  receipts : List VerifiedReceipt
  events : List Event
  globalLogIndex : Nat

def receiptRecord (header : EvmHeader) (signatureHash : String) (proof : ReceiptInclusionProof)
    (status : TransactionReceiptStatus) : VerifiedReceipt where
  transactionHash := keccakText proof.transactionRLP
  receiptPayloadHash := keccakText proof.receiptRLP
  status := status
  transactionIndex := proof.transactionIndex
  blockNumber := header.number
  blockHash := header.hash
  receiptsRoot := header.receiptsRoot
  inclusionProofHash := receiptInclusionProofHash header proof
  headerSignatureHash := signatureHash

/-- A log of a receipt: an event when it is a settlement of the gateway. -/
def collectLog (chainID : Nat) (gateway : String) (record : VerifiedReceipt) (acc : Collected) (log : ReceiptLog) :
    Except IndexerError Collected := do
  require (acc.globalLogIndex ≤ MAX_UINT32) .invalidInclusionProof
  require (¬ (record.status = .succeeded ∧ log.address = "")) .invalidInclusionProof
  if record.status = .succeeded ∧ log.address = gateway ∧ log.topics.head? = some canonicalSettlementTopic then do
    let raw : RawLog := ⟨chainID, log.address, log.topics, log.data, record.transactionHash, acc.globalLogIndex,
      record.blockNumber, record.blockHash⟩
    let event ← orRevert
      (decodeCanonicalSettlementLog raw record.transactionIndex record.receiptsRoot record.inclusionProofHash true).toOption
      .invalidInclusionProof
    let event := { event with receiptHeaderSignatureHash := record.headerSignatureHash }
    pure { acc with events := acc.events ++ [event], globalLogIndex := acc.globalLogIndex + 1 }
  else
    pure { acc with globalLogIndex := acc.globalLogIndex + 1 }

/-- One round of the loop over the proofs. -/
def collectReceipt (chainID : Nat) (gateway : String) (header : EvmHeader) (signatureHash : String) (acc : Collected)
    (entry : ReceiptInclusionProof × Nat) : Except IndexerError Collected := do
  let (proof, position) := entry
  require (proof.transactionIndex = position ∧ proof.transactionRLP.length ≠ 0 ∧
    proof.transactionRLP.length ≤ MAX_TRANSACTION_BYTES ∧ proof.receiptRLP.length ≠ 0 ∧
    proof.receiptRLP.length ≤ MAX_RECEIPT_BYTES ∧ validProofSize proof.transactionProofNodes ∧
    validProofSize proof.receiptProofNodes) .invalidInclusionProof
  let key := rlpEncodeUint proof.transactionIndex
  let transactionRoot := (decodeHexText header.transactionsRoot 32).getD []
  let receiptsRoot := (decodeHexText header.receiptsRoot 32).getD []
  require (verifyTrieInclusion transactionRoot key proof.transactionRLP proof.transactionProofNodes ∧
    verifyTrieInclusion receiptsRoot key proof.receiptRLP proof.receiptProofNodes) .invalidInclusionProof
  let (status, logs) ← orRevert (decodeReceipt proof.receiptRLP) .invalidInclusionProof
  let record := receiptRecord header signatureHash proof status
  logs.foldlM (collectLog chainID gateway record) { acc with receipts := acc.receipts ++ [record] }

/-- `sort.Slice` by transaction index. -/
def sortProofs (proofs : List ReceiptInclusionProof) : List ReceiptInclusionProof :=
  proofs.insertionSort fun left right => left.transactionIndex ≤ right.transactionIndex

/-- The header of a block with its verified receipts and events. -/
structure Verified where
  header : EvmHeader
  receipts : List VerifiedReceipt
  events : List Event

def verifyAuthenticatedBlock (chainID : Nat) (gateway : String) (authority : Octets) (block : AuthenticatedBlock) :
    Except IndexerError Verified := do
  require (authority.length = PUBLIC_KEY_SIZE ∧ block.signature.length = SIGNATURE_SIZE ∧ ¬ block.observedAt.IsZero ∧
    0 < block.observedAt.unixNano ∧ block.headerRLP.length ≠ 0 ∧ block.headerRLP.length ≤ MAX_HEADER_RLP_BYTES ∧
    validAuthenticatedBlockSize block) .invalidHeaderEvidence
  let header ← parseEVMHeader block.headerRLP
  -- the comparison is between signed 64-bit numbers
  require ((header.timestamp : Int).bmod (2 ^ 64) ≤ block.observedAt.unix) .invalidHeaderEvidence
  require ((authenticatedHeaderSigningDigest chainID block.headerRLP block.observedAt).toOption.any fun digest =>
    Crypto.verify authority digest block.signature) .invalidHeaderEvidence
  require (∀ entry ∈ block.receipts.zipIdx, entry.1.transactionIndex = entry.2) .invalidInclusionProof
  let collected ← (sortProofs block.receipts).zipIdx.foldlM
    (collectReceipt chainID gateway header (keccakText block.signature)) ⟨[], [], 0⟩
  pure ⟨header, collected.receipts, collected.events⟩

/-! ### The evidence of one receipt -/

structure ExpectedReceiptLog where
  address : String
  topics : List String
  data : Octets
  logIndex : Nat

structure VerifiedReceiptLog where
  address : String
  topics : List String
  data : Octets
  logIndex : Nat
  deriving DecidableEq

structure VerifiedReceiptEvidence where
  transactionHash : String
  transactionIndex : Nat
  blockHash : String
  (blockNumber blockTimestamp : Nat)
  (receiptsRoot inclusionProofHash finalityHeadHash : String)
  finalityHeadNumber : Nat
  log : VerifiedReceiptLog
  deriving DecidableEq

/-- The search for the expected log: what was matched and the position of the next log. -/
structure LogSearch where
  matched : Option VerifiedReceiptLog
  globalLogIndex : Nat

/-- A log at its position in the block; a second match is refused. -/
def matchLog (expected : ExpectedReceiptLog) (atTarget : Bool) (status : TransactionReceiptStatus) (acc : LogSearch)
    (log : ReceiptLog) : Except IndexerError LogSearch :=
  if atTarget = true ∧ acc.globalLogIndex = expected.logIndex ∧ status = .succeeded ∧ log.address = expected.address ∧
      log.topics = expected.topics ∧ log.data = expected.data then do
    require (acc.matched = none) .invalidInclusionProof
    pure ⟨some ⟨log.address, log.topics, log.data, acc.globalLogIndex⟩, acc.globalLogIndex + 1⟩
  else
    pure { acc with globalLogIndex := acc.globalLogIndex + 1 }

/-- The loop over the receipts up to the target, which is the last one. -/
def searchReceipt (expected : ExpectedReceiptLog) (targetIndex : Nat) (acc : LogSearch)
    (entry : ReceiptInclusionProof × Nat) : Except IndexerError LogSearch := do
  let (status, logs) ← orRevert (decodeReceipt entry.1.receiptRLP) .invalidInclusionProof
  logs.foldlM (matchLog expected (entry.2 = targetIndex) status) acc

/-- One confirmation header on top of the previous one. -/
def confirmHeader (chainID : Nat) (coordinator : String) (authority : Octets) (previous : EvmHeader × Time)
    (signed : AuthenticatedHeader) : Except IndexerError (EvmHeader × Time) := do
  require (previous.2 ≤ signed.observedAt) .invalidHeaderEvidence
  let next ← orRevert
    (verifyAuthenticatedBlock chainID coordinator authority ⟨signed.headerRLP, signed.observedAt, signed.signature, []⟩).toOption
    .invalidHeaderEvidence
  require (next.header.number = (previous.1.number + 1) % 2 ^ 64 ∧ next.header.parentHash = previous.1.hash)
    .invalidHeaderEvidence
  pure (next.header, signed.observedAt)

def verifyAuthenticatedReceiptEvidence (chainID : Nat) (coordinator : String) (authority : Octets)
    (block : AuthenticatedBlock) (confirmationHeaders : List AuthenticatedHeader) (targetIndex requiredDepth : Nat)
    (expectedLog : ExpectedReceiptLog) : Except IndexerError VerifiedReceiptEvidence := do
  require (requiredDepth ≠ 0 ∧ confirmationHeaders.length = requiredDepth ∧ targetIndex < block.receipts.length ∧
    targetIndex = block.receipts.length - 1 ∧ canonicalAddress expectedLog.address ∧ expectedLog.address = coordinator ∧
    expectedLog.topics.length ≠ 0) .invalidHeaderEvidence
  require (∀ topic ∈ expectedLog.topics, canonicalHash topic) .invalidHeaderEvidence
  let verified ← verifyAuthenticatedBlock chainID coordinator authority block
  let target ← orRevert (verified.receipts[targetIndex]? : Option VerifiedReceipt) .invalidHeaderEvidence
  let search ← block.receipts.zipIdx.foldlM (searchReceipt expectedLog targetIndex) ⟨none, 0⟩
  let log ← orRevert search.matched .invalidInclusionProof
  let (finalityHead, _) ← confirmationHeaders.foldlM (confirmHeader chainID coordinator authority)
    (verified.header, block.observedAt)
  pure {
    transactionHash := target.transactionHash
    transactionIndex := target.transactionIndex
    blockHash := target.blockHash
    blockNumber := target.blockNumber
    blockTimestamp := verified.header.timestamp
    receiptsRoot := target.receiptsRoot
    inclusionProofHash := target.inclusionProofHash
    finalityHeadHash := finalityHead.hash
    finalityHeadNumber := finalityHead.number
    log := log }

end

end Unified.Indexer
