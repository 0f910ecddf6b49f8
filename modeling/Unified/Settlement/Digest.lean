import Unified.Settlement.Types

/-! The instruction digest: the 26 static words that the service writes, hashed as the gateway hashes them. -/

namespace Unified.Settlement

open Indexer (Crypto Octets octets keccak keccakText)

def ELIGIBILITY_DOMAIN_LABEL : String := "UNIFIED_PHASE7C_ELIGIBILITY_V1"

structure SolidityDigestInput where
  chainID : Nat
  (gateway finalizer policySetHash : String)
  instruction : SolidityInstruction

/-- `appendBytes32Word`. -/
def bytes32Word (value : String) : Option Octets := decodeHexText value 32

/-- `appendAddressWord`. -/
def addressWord (value : String) : Option Octets := (decodeHexText value 20).map (List.replicate 12 0 ++ ·)

/-- `appendUint64Word`. -/
def uint64Word (value : Nat) : Octets := toBigEndian 32 value

/-- `appendUint256Word`. -/
def uint256Word (value : String) : Option Octets :=
  ((canonicalDecimal value).filter (· < 2 ^ 256)).map (toBigEndian 32)

/-- Several `bytes32` words in a row. -/
def bytes32Words (values : List String) : Option Octets := (values.mapM bytes32Word).map List.flatten

def instructionWords (i : SolidityInstruction) : Option Octets := do
  let identifiers ← bytes32Words [i.paymentID, i.allocationID, i.loanID, i.sourceAssetID, i.targetAssetID]
  let sourceUnits ← uint256Word i.sourceUnits
  let targetUnits ← uint256Word i.targetUnits
  let commitments ← bytes32Words [i.providerIDHash, i.providerReferenceHash, i.reconciliationID,
    i.reconciliationCommitment, i.originalJournalSetHash, i.conversionPolicyHash, i.finalityPolicyHash, i.evidenceHash,
    i.journalRef]
  let expectedDebt ← uint256Word i.expectedDebt
  let attester ← addressWord i.attester
  pure (identifiers ++ sourceUnits ++ targetUnits ++ commitments ++ uint64Word i.finalizedAt ++
    uint64Word i.reversalDeadline ++ expectedDebt ++ uint64Word i.expectedStateNonce ++ attester)

section

variable [Crypto]

def digestPreimage (input : SolidityDigestInput) : Option Octets := do
  guard (input.chainID ≠ 0)
  let gateway ← addressWord input.gateway
  let finalizer ← addressWord input.finalizer
  let policySetHash ← bytes32Word input.policySetHash
  let instruction ← instructionWords input.instruction
  let encoded := keccak (octets ELIGIBILITY_DOMAIN_LABEL) ++ uint64Word input.chainID ++ gateway ++ finalizer ++
    policySetHash ++ instruction
  guard (encoded.length = 26 * 32)
  pure encoded

def solidityInstructionDigest (input : SolidityDigestInput) : Option String := (digestPreimage input).map keccakText

end

end Unified.Settlement
