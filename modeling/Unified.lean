import Unified.Lib.Mapping
import Unified.Lib.Table
import Unified.Lib.Checked
import Unified.Lib.Evm
import Unified.Lib.Token
import Unified.Lib.Abi
import Unified.Lib.Numerals
import Unified.Lib.Hex
import Unified.Lib.Rlp
import Unified.Lib.Trie
import Unified.CrossChain.RegistryAgreement
import Unified.CrossChain.LaneSafety
import Unified.CrossChain.Quorum
import Unified.CrossChain.LoanFunding
import Unified.CrossChain.CollateralSafety
import Unified.CrossChain.HubLedger
import Unified.CrossChain.ExposurePolicy
import Unified.CrossChain.MessageIdentity
import Unified.Indexer.Types
import Unified.Indexer.Ingest
import Unified.Indexer.Chain
import Unified.Indexer.Enrichment
import Unified.Indexer.TrieInclusion
import Unified.Indexer.Evidence
import Unified.Indexer.EvidenceSpec
import Unified.Indexer.ReceiptEvidence
import Unified.Indexer.RlpExact
import Unified.Indexer.TrieProofs
import Unified.Indexer.Gateway
import Unified.Indexer.Replay
import Unified.Indexer.Settlements
import Unified.Indexer.Redelivery
import Unified.Settlement.Types
import Unified.Settlement.Registry
import Unified.Settlement.Digest
import Unified.Settlement.Store
import Unified.Settlement.Coordinator
import Unified.Settlement.Reversal
import Unified.Settlement.File
import Unified.Settlement.Lifecycle
import Unified.Settlement.Steps
import Unified.Settlement.Runs
import Unified.Settlement.Exclusion
import Unified.Ledger.Types
import Unified.Ledger.Post
import Unified.Ledger.Integrity
import Unified.Ledger.Reversal
import Unified.Payment.Types
import Unified.Payment.Accounting
import Unified.Payment.Orchestrator
import Unified.Payment.World
import Unified.Payment.Steps
import Unified.Payment.Quarantine
import Unified.Payment.Reconciliation
import Unified.Risk.Interest
import Unified.Risk.Servicing
import Unified.Lib.ProRata
import Unified.Lib.Flow
import Unified.Lib.Reentrancy
import Unified.Syndicate.PositionManager
import Unified.Syndicate.Holdings
import Unified.Syndicate.Books
import Unified.Syndicate.Vault
import Unified.Syndicate.Solvency
import Unified.Syndicate.PariPassu
import Unified.Loan.CoreLoanAccount
import Unified.Collateral.Custody
import Unified.Collateral.Liquidation
import Unified.Collateral.World
import Unified.Collateral.Steps
import Unified.Collateral.Exposure
import Unified.Collateral.Belonging
