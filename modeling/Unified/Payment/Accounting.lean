import Unified.Ledger.Integrity
import Unified.Payment.Types

/-! The accounting of payments: every accepted change of a payment is posted to the ledger, a reversal as the
    mirror of the journals it reverses, and a change that comes again is answered with its own journals. -/

namespace Unified.Payment

open Indexer (Time)
open Ledger (Entry Journal LedgerError PostedJournal Side)
open Settlement (Encoding JsonValue PaymentStatus)

/-- The journals of one payment; an empty identifier stands for a journal that is not posted. -/
structure JournalRecord where
  (provisionalJournalID finalJournalID : String)
  reversalJournalIDs : List String
  deriving DecidableEq

structure AppliedTransition where
  contentHash : String
  journalIDs : List String
  deriving DecidableEq

structure Poster where
  book : Ledger
  (legalEntityID bookID : String)
  records : Table String JournalRecord
  events : Table String AppliedTransition
  deriving DecidableEq

inductive PosterError where
  | invalidTransition | transitionConflict
  | ledger (e : LedgerError)
  deriving DecidableEq

def Intent.json (i : Intent) : JsonValue :=
  .object [("PaymentID", .text i.paymentID), ("LegalEntityID", .text i.legalEntityID),
    ("IdempotencyKey", .text i.idempotencyKey), ("CorrelationID", .text i.correlationID),
    ("PayerReference", .text i.payerReference), ("LoanID", .text i.loanID), ("ProviderID", .text i.providerID),
    ("ProviderReference", .text i.providerReference), ("Rail", .text i.rail.text), ("Purpose", .text i.purpose),
    ("AssetID", .text i.assetID), ("Units", .text i.units), ("ExpiresAt", .time i.expiresAt),
    ("SchemaVersion", .number i.schemaVersion), ("Status", .text (statusText i.status)), ("Version", .number i.version),
    ("CreatedAt", .time i.createdAt), ("UpdatedAt", .time i.updatedAt), ("ProvisionalAt", .time i.provisionalAt),
    ("FinalizedAt", .time i.finalizedAt), ("ReversedAt", .time i.reversedAt)]

def Transition.json (t : Transition) : JsonValue :=
  .object [("Payment", t.payment.json), ("From", .text (statusText t.fromStatus)), ("To", .text (statusText t.toStatus)),
    ("ProviderEventID", .text t.providerEventID), ("OccurredAt", .time t.occurredAt), ("ReceivedAt", .time t.receivedAt),
    ("EvidenceHash", .text t.evidenceHash)]

def Transition.contentHash [Encoding] (t : Transition) : String := hashBytes (Encoding.marshal t.json)

def journalID (paymentID stage : String) : String := "payment:" ++ paymentID ++ ":" ++ stage

def reversalReason (reversalOf : String) : String := if reversalOf = "" then "" else "authenticated provider reversal"

namespace Poster

def journal (p : Poster) (t : Transition) (entryType stage : String) (entries : List Entry) (reversalOf : String) :
    Journal where
  id := journalID t.payment.paymentID stage
  legalEntityID := p.legalEntityID
  bookID := p.bookID
  sourceSystem := "payment-orchestrator"
  entryType := entryType
  sourceEventID := t.payment.providerID ++ ":" ++ t.providerEventID
  loanID := t.payment.loanID
  idempotencyKey := journalID t.payment.paymentID stage
  correlationID := t.payment.correlationID
  effectiveAt := t.occurredAt
  entries := entries
  evidenceHash := t.evidenceHash
  reversalOf := reversalOf
  reason := reversalReason reversalOf

def entry (t : Transition) (account : String) (side : Side) : Entry :=
  ⟨account, side, t.payment.assetID, t.payment.units, t.payment.payerReference, t.payment.loanID, ""⟩

def pendingAccount (rail : Rail) : String := if rail = .card then "9130" else "9140"

def settlementAccount (rail : Rail) : String := if rail = .card then "1120" else "1100"

def provisionalJournal (p : Poster) (t : Transition) : Journal :=
  p.journal t "PAYMENT_PROVISIONAL" "provisional"
    [entry t (pendingAccount t.payment.rail) .debit, entry t "9120" .credit] ""

def finalJournal (p : Poster) (t : Transition) : Journal :=
  p.journal t "PAYMENT_FINAL" "final"
    [entry t (settlementAccount t.payment.rail) .debit, entry t (pendingAccount t.payment.rail) .credit] ""

def reversalJournal (p : Poster) (t : Transition) (original : PostedJournal) : Journal :=
  p.journal t "PAYMENT_REVERSAL" ((if original.entryType = "PAYMENT_FINAL" then "final" else "provisional") ++ "-reversal")
    (original.entries.map Entry.reversed) original.id

/-- The journals that a reversal mirrors, the last one first. -/
def reversalTargets (record : JournalRecord) (fromStatus : PaymentStatus) : List String :=
  if fromStatus = .final then [record.finalJournalID, record.provisionalJournalID] else [record.provisionalJournalID]

def journals (p : Poster) (t : Transition) (record : JournalRecord) : Except PosterError (List Journal) :=
  match t.toStatus with
  | .provisional => do
    require (t.fromStatus = .processing ∧ record.provisionalJournalID = "") .invalidTransition
    pure [p.provisionalJournal t]
  | .final => do
    require (t.fromStatus = .provisional ∧ record.provisionalJournalID ≠ "" ∧ record.finalJournalID = "")
      .invalidTransition
    pure [p.finalJournal t]
  | .reversed => do
    require (record.reversalJournalIDs = [] ∧ (t.fromStatus = .provisional ∨ t.fromStatus = .final)) .invalidTransition
    (reversalTargets record t.fromStatus).mapM fun target => do
      require (target ≠ "") .invalidTransition
      let original ← orRevert (p.book.byID.lookup target) .invalidTransition
      pure (p.reversalJournal t original)
  | _ => .error .invalidTransition

def recorded (record : JournalRecord) (t : Transition) (journalIDs : List String) : JournalRecord :=
  match t.toStatus with
  | .provisional => { record with provisionalJournalID := journalID t.payment.paymentID "provisional" }
  | .final => { record with finalJournalID := journalID t.payment.paymentID "final" }
  | .reversed => { record with reversalJournalIDs := journalIDs }
  | _ => record

def record (p : Poster) (paymentID : String) : JournalRecord := (p.records.lookup paymentID).getD ⟨"", "", []⟩

/-- `Apply`; the ledger's clock reads `now`. -/
def apply [Encoding] (p : Poster) (t : Transition) (now : Time) : Except PosterError (List String × Poster) := do
  require (t.payment.paymentID ≠ "" ∧ t.payment.providerID ≠ "" ∧ t.providerEventID ≠ "" ∧ t.evidenceHash ≠ "" ∧
    ¬ t.occurredAt.IsZero ∧ ¬ t.receivedAt.IsZero ∧ t.payment.status = t.toStatus) .invalidTransition
  let key := eventKey t.payment.providerID t.providerEventID
  match p.events.lookup key with
  | some existing => do
    require (existing.contentHash = t.contentHash) .transitionConflict
    pure (existing.journalIDs, p)
  | none => do
    let record := p.record t.payment.paymentID
    let journals ← p.journals t record
    let (posted, book) ← (Ledger.postBatch journals now p.book).mapError .ledger
    let journalIDs := posted.map (·.id)
    pure (journalIDs, { p with
      book := book
      records := p.records.insert t.payment.paymentID (recorded record t journalIDs)
      events := p.events.insert key ⟨t.contentHash, journalIDs⟩ })

end Poster

end Unified.Payment
