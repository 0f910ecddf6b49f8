import Mathlib.Data.List.Sort
import Unified.Indexer.Types

/-! The indexer's state machine: projecting the stored blocks, taking a new or competing block, and
    completing a stored block with further receipts. Every call works on copies of the maps and puts
    them back only when the projection of the new chain succeeds. -/

namespace Unified.Indexer

/-! ### The projection -/

def MAX_UINT256 : Nat := 2 ^ 256 - 1

def parseUnits (value : String) : Option Nat := (canonicalDecimal value).filter fun n => 0 < n ∧ n ≤ MAX_UINT256

def parseNonNegativeUnits (value : String) : Option Nat := (canonicalDecimal value).filter fun n => n ≤ MAX_UINT256

/-- The units of a settlement add up. -/
def Balanced (e : Event) : Prop :=
  ∃ source ∈ parseUnits e.sourceUnits, ∃ gross ∈ parseUnits e.grossUnits, ∃ principal ∈ parseUnits e.principalUnits,
    ∃ excess ∈ parseNonNegativeUnits e.refundableExcessUnits, ∃ debtBefore ∈ parseUnits e.debtBeforeUnits,
      ∃ debtAfter ∈ parseNonNegativeUnits e.debtAfterUnits,
        source = gross ∧ principal + excess = gross ∧ principal + debtAfter = debtBefore

instance (e : Event) : Decidable (Balanced e) := by unfold Balanced; infer_instance

def Complete (e : Event) : Prop :=
  e.decodedCanonical = true ∧ e.paymentID ≠ "" ∧ e.allocationID ≠ "" ∧ e.instructionDigest ≠ "" ∧
    e.policySetHash ≠ "" ∧ e.loanAccount ≠ "" ∧ e.finalizer ≠ "" ∧ e.attester ≠ "" ∧ e.sourceAssetID ≠ "" ∧
    e.assetID ≠ "" ∧ e.targetToken ≠ "" ∧ e.sourceAssetID ≠ e.assetID ∧ e.gateway ≠ "" ∧ e.providerIDHash ≠ "" ∧
    e.providerReferenceHash ≠ "" ∧ e.reconciliationID ≠ "" ∧ e.reconciliationCommitment ≠ "" ∧
    e.originalJournalSetHash ≠ "" ∧ e.conversionPolicyHash ≠ "" ∧ e.finalityPolicyHash ≠ "" ∧ e.evidenceHash ≠ "" ∧
    e.journalRef ≠ "" ∧ e.rawEvidenceHash ≠ "" ∧ e.providerFinalizedAt ≠ 0 ∧
    e.providerFinalizedAt < e.reversalDeadline ∧ e.stateNonceBefore ≠ 0 ∧ e.stateNonceBefore < e.stateNonceAfter

instance (e : Event) : Decidable (Complete e) := by unfold Complete; infer_instance

/-- The projected settlement of an event; `settleFinality` gives it its finality. -/
def settlementOf (e : Event) (blockNumber : Nat) : CanonicalSettlement where
  toSettlementFields := e.toSettlementFields
  targetAssetID := e.assetID
  transactionHash := e.txHash
  eventID := e.id
  updatedInBlock := blockNumber
  finality := .provisional

def apply (s : Projection) (e : Event) (blockNumber : Nat) : Except IndexerError Projection :=
  match e.type with
  | .tenderPublished => do
    require (e.tenderID ≠ "" ∧ e.borrowerID ≠ "") .invalidEvent
    let tender : Tender := ⟨e.tenderID, e.borrowerID, .open, "", blockNumber, .provisional⟩
    pure { s with tenders := s.tenders.insert e.tenderID tender }
  | .offerSelected => do
    let tender ← orRevert (s.tenders.lookup e.tenderID) .invalidEvent
    require (e.offerID ≠ "") .invalidEvent
    let tender := { tender with state := .offerSelected, selectedOfferID := e.offerID, updatedInBlock := blockNumber }
    pure { s with tenders := s.tenders.insert e.tenderID tender }
  | .loanActivated => do
    require (e.loanID ≠ "" ∧ e.borrowerID ≠ "" ∧ e.lenderID ≠ "" ∧ e.assetID ≠ "") .invalidEvent
    require ((parseUnits e.amountUnits).isSome ∧ e.loanID ∉ s.loans) .invalidEvent
    let loan : Loan := ⟨e.loanID, e.borrowerID, e.lenderID, e.assetID, e.amountUnits, e.amountUnits, .active, "",
      blockNumber, .provisional⟩
    pure { s with loans := s.loans.insert e.loanID loan }
  | .principalRepaid => do
    let loan ← orRevert (s.loans.lookup e.loanID) .invalidEvent
    let amount ← orRevert (parseUnits e.amountUnits) .invalidEvent
    let outstanding ← orRevert (parseUnits loan.outstandingUnits) .invalidEvent
    require (loan.status = .active ∧ e.paymentID ≠ "" ∧ amount ≤ outstanding) .invalidEvent
    require (e.paymentID ∉ s.payments) .invalidEvent
    let loan := { loan with outstandingUnits := Nat.repr (outstanding - amount), lastPaymentID := e.paymentID,
                            updatedInBlock := blockNumber }
    pure { s with loans := s.loans.insert e.loanID loan, payments := s.payments.insert e.paymentID e.loanID }
  | .loanClosed => do
    let loan ← orRevert (s.loans.lookup e.loanID) .invalidEvent
    require (loan.outstandingUnits = "0") .invalidEvent
    let loan := { loan with status := .closed, updatedInBlock := blockNumber }
    pure { s with loans := s.loans.insert e.loanID loan }
  | .canonicalSettlementExecuted => do
    require (Complete e ∧ Balanced e) .invalidEvent
    require (∀ loan ∈ s.loans.lookup e.loanID, e.lenderID = loan.lenderID ∧ e.borrowerID = loan.borrowerID ∧
      loan.assetID = e.assetID ∧ loan.outstandingUnits = e.debtAfterUnits) .invalidEvent
    require (∀ loanID ∈ s.payments.lookup e.paymentID, loanID = e.loanID) .invalidEvent
    require (e.paymentID ∉ s.canonicalSettlements) .invalidEvent
    require (¬ s.canonicalSettlements.Any fun existing => existing.allocationID = e.allocationID) .invalidEvent
    pure { s with
      payments := s.payments.insert e.paymentID e.loanID
      canonicalSettlements := s.canonicalSettlements.insert e.paymentID (settlementOf e blockNumber) }
  | .other _ => .error .invalidEvent

/-- The last height that the head leaves `depth` blocks behind. -/
def finalHeight (head depth : Nat) : Nat := if depth < head then head - depth else 0

def finalityAt (final updatedInBlock : Nat) : Finality := if updatedInBlock ≤ final then .final else .provisional

/-- The loops that end `Rebuild`. -/
def settleFinality (depth : Nat) (s : Projection) : Projection :=
  let final := finalHeight s.head depth
  { s with
    tenders := s.tenders.map fun tender => { tender with finality := finalityAt final tender.updatedInBlock }
    loans := s.loans.map fun loan => { loan with finality := finalityAt final loan.updatedInBlock }
    canonicalSettlements := s.canonicalSettlements.map fun settlement =>
      { settlement with finality := finalityAt final settlement.updatedInBlock } }

/-- One round of the loop over the heights; the second component is `priorObservedAt`. -/
def applyBlock (height : Nat) (block : Block) (acc : Projection × Time) : Except IndexerError (Projection × Time) := do
  require (block.number = height ∧ ¬ block.observedAt.IsZero ∧ (acc.2.IsZero ∨ acc.2 ≤ block.observedAt)) .invalidBlock
  let s ← block.events.foldlM (fun s e => apply s e height) acc.1
  pure ({ s with head := height, headHash := block.hash, headObservedAt := block.observedAt,
                 headHeaderSignatureHash := block.headerSignatureHash }, block.observedAt)

def rebuild (depth : Nat) (maps : ChainMaps) : Except IndexerError Snapshot := do
  let acc ← maps.blocks.ascending.foldlM
    (fun acc height => applyBlock height ((maps.blocks.lookup height).getD default) acc) (.empty, 0)
  pure { settleFinality depth acc.1 with settlementReorgs := maps.settlementReorgs }

/-- The end of a successful call: the candidate's maps with their own projection. -/
def publish (s : State) (maps : ChainMaps) : Except IndexerError State := do
  let snapshot ← rebuild s.config.finalityDepth maps
  pure { maps with config := s.config, snapshot := snapshot }

/-! ### A new or competing block -/

section

variable [Crypto]

/-- Fields that `fmt.Sprintf` joins with zero bytes after a domain. -/
def joined (domain : String) (fields : List String) : Octets :=
  (fields.foldl (fun text field => text ++ "\x00" ++ field) domain).toUTF8.toList

def ReorgDepthClass.text : ReorgDepthClass → String
  | .preFinality => "PRE_FINALITY"
  | .deepFinality => "DEEP_FINALITY"

def settlementReorgEvidenceHash (r : SettlementReorg) : String :=
  keccakText (joined "UNIFIED_PHASE7C_REORG_V5" [r.paymentID, r.allocationID, r.instructionDigest, Nat.repr r.chainID,
    r.gateway, r.eventID, r.transactionHash, r.orphanedEventEvidenceHash, r.rawEvidenceHash,
    Nat.repr r.transactionIndex, r.receiptsRoot, r.inclusionProofHash, r.orphanedReceiptHeaderSignatureHash,
    Nat.repr r.orphanedBlock, r.orphanedBlockHash, Nat.repr r.replacementBlock, r.replacementBlockHash,
    Nat.repr r.detectedHead, r.detectedHeadHash, r.depthClass.text, Nat.repr r.confirmationDepth, r.finalityPolicyHash,
    r.headerAuthorityHash, r.replacementHeaderSignatureHash, r.detectedHeadHeaderSignatureHash,
    toString r.compensationRequired, toString r.detectedAt.unixNano])

/-- The evidence before its own hash is filled in: `event` was in the block at `height` when `block` came. -/
def reorgOf (s : State) (block removed : Block) (height : Nat) (event : Event) : SettlementReorg :=
  let deep := height ≤ finalHeight s.snapshot.head s.config.finalityDepth
  { paymentID := event.paymentID
    allocationID := event.allocationID
    instructionDigest := event.instructionDigest
    chainID := event.chainID
    gateway := event.gateway
    eventID := event.id
    transactionHash := event.txHash
    orphanedEventEvidenceHash := event.evidenceHash
    rawEvidenceHash := event.rawEvidenceHash
    transactionIndex := event.transactionIndex
    receiptsRoot := event.receiptsRoot
    inclusionProofHash := event.inclusionProofHash
    orphanedReceiptHeaderSignatureHash := event.receiptHeaderSignatureHash
    orphanedBlockHash := removed.hash
    orphanedBlock := height
    replacementBlockHash := block.hash
    replacementBlock := block.number
    depthClass := if deep then .deepFinality else .preFinality
    confirmationDepth := s.config.finalityDepth
    detectedHead := s.snapshot.head
    detectedHeadHash := s.snapshot.headHash
    finalityPolicyHash := s.config.finalityPolicyHash
    headerAuthorityHash := s.config.headerAuthorityHash
    replacementHeaderSignatureHash := block.headerSignatureHash
    detectedHeadHeaderSignatureHash := s.snapshot.headHeaderSignatureHash
    compensationRequired := deep
    evidenceHash := ""
    detectedAt := block.observedAt }

def reorgEvidence (s : State) (block removed : Block) (height : Nat) (event : Event) : SettlementReorg :=
  let reorg := reorgOf s block removed height event
  { reorg with evidenceHash := settlementReorgEvidenceHash reorg }

/-- The evidence of the settlements in a removed block. -/
def orphans (s : State) (block removed : Block) (height : Nat) : List (String × SettlementReorg) :=
  (removed.events.filter (·.type = .canonicalSettlementExecuted)).map fun event =>
    (event.id, reorgEvidence s block removed height event)

/-- One round of the removal loop. -/
def removeHeight (s : State) (block : Block) (maps : ChainMaps) (height : Nat) : ChainMaps :=
  match maps.blocks.lookup height with
  | none => maps
  | some removed =>
    { blocks := maps.blocks.erase height
      eventBlocks := Table.eraseMany maps.eventBlocks (removed.events.map (·.id))
      receipts := Table.filter (fun receipt => receipt.blockNumber ≠ height) maps.receipts
      settlementReorgs := Table.insertMany maps.settlementReorgs (orphans s block removed height) }

/-- The stored blocks from the new block's height up to the head are removed. -/
def removeFrom (s : State) (block : Block) : ChainMaps :=
  (List.range' block.number (s.snapshot.head + 1 - block.number)).foldl (removeHeight s block) s.toChainMaps

def recordReceipt (block : Block) (receipts : Table String VerifiedReceipt) (receipt : VerifiedReceipt) :
    Except IndexerError (Table String VerifiedReceipt) := do
  require (receipt.blockNumber = block.number ∧ receipt.blockHash = block.hash ∧
    canonicalHash receipt.transactionHash ∧ canonicalHash receipt.receiptPayloadHash ∧
    canonicalHash receipt.receiptsRoot ∧ canonicalHash receipt.inclusionProofHash) .invalidInclusionProof
  require (∀ prior ∈ receipts.lookup receipt.transactionHash,
    prior.blockNumber = receipt.blockNumber ∧ prior.transactionIndex = receipt.transactionIndex) .invalidInclusionProof
  pure (receipts.insert receipt.transactionHash receipt)

/-- A settlement event belongs to the block and, where they are configured, to the policy, chain and gateway. -/
def Belongs (c : Config) (block : Block) (e : Event) : Prop :=
  e.type = .canonicalSettlementExecuted → e.decodedCanonical = true ∧ e.blockNumber = block.number ∧
    e.blockHash = block.hash ∧ (c.finalityPolicyHash ≠ "" → e.finalityPolicyHash = c.finalityPolicyHash) ∧
    (c.chainID ≠ 0 → e.chainID = c.chainID ∧ e.gateway = c.gateway)

instance (c : Config) (block : Block) (e : Event) : Decidable (Belongs c block e) := by unfold Belongs; infer_instance

def recordEvent (c : Config) (block : Block) (eventBlocks : Table String Nat) (e : Event) :
    Except IndexerError (Table String Nat) := do
  require (e.id ≠ "" ∧ e.txHash ≠ "") .invalidEvent
  require (Belongs c block e) .invalidEvent
  match eventBlocks.lookup e.id with
  | some height => .error (.duplicateEvent e.id height)
  | none => pure (eventBlocks.insert e.id block.number)

/-- `ingestBlock` for a block that is not stored yet. -/
def adoptBlock (s : State) (block : Block) (verifiedReceipts : List VerifiedReceipt) : Except IndexerError State := do
  require (1 < block.number → (s.blocks.lookup (block.number - 1)).map Block.hash = some block.parentHash) .unknownParent
  require (s.snapshot.headObservedAt.IsZero ∨ s.snapshot.headObservedAt ≤ block.observedAt) .invalidBlock
  let maps := removeFrom s block
  let receipts ← verifiedReceipts.foldlM (recordReceipt block) maps.receipts
  let eventBlocks ← block.events.foldlM (recordEvent s.config block) maps.eventBlocks
  publish s { maps with
    blocks := maps.blocks.insert block.number block, eventBlocks := eventBlocks, receipts := receipts }

/-! ### A second delivery of a stored block -/

/-- The receipts that `receiptIndexes` holds. -/
def OfBlock (block : Block) (receipt : VerifiedReceipt) : Prop :=
  receipt.blockNumber = block.number ∧ receipt.blockHash = block.hash

instance (block : Block) (receipt : VerifiedReceipt) : Decidable (OfBlock block receipt) :=
  inferInstanceAs (Decidable (_ ∧ _))

/-- One receipt: known under its index, known under its hash, or new. -/
def enrichReceipt (existing : Block) (acc : Table String VerifiedReceipt × Bool) (receipt : VerifiedReceipt) :
    Except IndexerError (Table String VerifiedReceipt × Bool) := do
  require (OfBlock existing receipt) .invalidInclusionProof
  if acc.1.Any fun prior => OfBlock existing prior ∧ prior.transactionIndex = receipt.transactionIndex then
    require (¬ acc.1.Any fun prior => OfBlock existing prior ∧ prior.transactionIndex = receipt.transactionIndex ∧
      prior ≠ receipt) .invalidInclusionProof
    pure acc
  else
    match acc.1.lookup receipt.transactionHash with
    | some prior => do
      require (prior = receipt) .invalidInclusionProof
      pure acc
    | none => pure (acc.1.insert receipt.transactionHash receipt, true)

/-- A settlement event belongs to the stored block, the indexer's policy, chain and gateway. -/
def BelongsTo (c : Config) (existing : Block) (e : Event) : Prop :=
  e.type = .canonicalSettlementExecuted → e.decodedCanonical = true ∧ e.blockNumber = existing.number ∧
    e.blockHash = existing.hash ∧ e.finalityPolicyHash = c.finalityPolicyHash ∧ e.chainID = c.chainID ∧
    e.gateway = c.gateway

instance (c : Config) (block : Block) (e : Event) : Decidable (BelongsTo c block e) := by
  unfold BelongsTo; infer_instance

/-- The merged events, the event index, and whether the block changed. -/
structure Merge where
  events : List Event
  eventBlocks : Table String Nat
  changed : Bool

/-- One event: known under its id, or new under an id and a log index that are free. -/
def enrichEvent (c : Config) (existing : Block) (acc : Merge) (e : Event) : Except IndexerError Merge := do
  require (e.id ≠ "" ∧ e.txHash ≠ "" ∧ BelongsTo c existing e) .invalidEvent
  match acc.events.find? (·.id = e.id) with
  | some prior => do
    require (prior = e) .invalidEvent
    pure acc
  | none => do
    require (∀ prior ∈ acc.events, prior.logIndex = e.logIndex → prior = e) .invalidEvent
    match acc.eventBlocks.lookup e.id with
    | some height => .error (.duplicateEvent e.id height)
    | none => pure ⟨acc.events ++ [e], acc.eventBlocks.insert e.id existing.number, true⟩

/-- `sort.SliceStable` by log index. -/
def sortEvents (events : List Event) : List Event := events.insertionSort fun a b => a.logIndex ≤ b.logIndex

def enrichAuthenticatedBlock (s : State) (existing incoming : Block) (verifiedReceipts : List VerifiedReceipt) :
    Except IndexerError State := do
  require (existing.parentHash = incoming.parentHash ∧ existing.observedAt = incoming.observedAt ∧
    existing.headerSignatureHash = incoming.headerSignatureHash) .invalidBlock
  require (¬ s.receipts.Any fun receipt => OfBlock existing receipt ∧ s.receipts.Any fun prior =>
    OfBlock existing prior ∧ prior.transactionIndex = receipt.transactionIndex ∧ prior ≠ receipt) .invalidInclusionProof
  let (receipts, changed) ← verifiedReceipts.foldlM (enrichReceipt existing) (s.receipts, false)
  let merge ← incoming.events.foldlM (enrichEvent s.config existing) ⟨existing.events, s.eventBlocks, changed⟩
  if merge.changed then
    publish s { s.toChainMaps with
      blocks := s.blocks.insert existing.number { existing with events := sortEvents merge.events }
      eventBlocks := merge.eventBlocks
      receipts := receipts }
  else
    pure s

def ingestBlock (s : State) (block : Block) (verifiedReceipts : List VerifiedReceipt) : Except IndexerError State := do
  require (block.number ≠ 0 ∧ block.hash ≠ "" ∧ ¬ block.observedAt.IsZero) .invalidBlock
  match (s.blocks.lookup block.number).filter (·.hash = block.hash) with
  | some existing =>
    if s.config.headerAuthority = [] then pure s
    else enrichAuthenticatedBlock s existing block verifiedReceipts
  | none => adoptBlock s block verifiedReceipts

def ingest (s : State) (block : Block) : Except IndexerError State := do
  require (s.config.headerAuthority = []) .unauthenticatedBlock
  ingestBlock s block []

/-- The configuration that `New` sets. -/
def Config.unauthenticated (finalityDepth : Nat) : Config := ⟨0, "", finalityDepth, [], "", ""⟩

end

end Unified.Indexer
