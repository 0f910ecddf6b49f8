import Unified.Ledger.Types

/-! The records of the payment orchestrator: providers and payment intents, the callbacks of the providers,
    and what the orchestrator keeps of every callback it has received. -/

namespace Unified.Payment

open Indexer (Octets Time TransactionFailureEvidence octets)
open Ledger (Encodable)
open Settlement (Claim Encoding JsonValue PaymentStatus)

inductive Rail where
  | bank | card
  | other (text : String)
  deriving DecidableEq, Repr

def Rail.text : Rail → String
  | .bank => "BANK"
  | .card => "CARD"
  | .other text => text

structure Provider where
  id : String
  rail : Rail
  publicKey : Octets
  active : Bool
  assetID : String
  supportsReversal : Bool
  version : Nat
  deriving DecidableEq

structure IntentRequest where
  (paymentID legalEntityID idempotencyKey correlationID payerReference loanID providerID : String)
  rail : Rail
  (purpose assetID units : String)
  expiresAt : Time
  schemaVersion : Nat
  deriving DecidableEq

structure Intent extends IntentRequest where
  providerReference : String
  status : PaymentStatus
  version : Nat
  (createdAt updatedAt provisionalAt finalizedAt reversedAt : Time)
  deriving DecidableEq

/-! ### Callbacks -/

structure Callback where
  (providerID providerEventID paymentID providerReference : String)
  status : PaymentStatus
  (assetID units : String)
  (occurredAt expiresAt : Time)
  evidenceHash : String
  deriving DecidableEq

def statusText : PaymentStatus → String
  | .created => "CREATED"
  | .processing => "PROCESSING"
  | .provisional => "PROVISIONAL"
  | .final => "FINAL"
  | .failed => "FAILED"
  | .reversed => "REVERSED"
  | .disputed => "DISPUTED"

def Callback.json (c : Callback) : JsonValue :=
  .object [("provider_id", .text c.providerID), ("provider_event_id", .text c.providerEventID),
    ("payment_id", .text c.paymentID), ("provider_reference", .text c.providerReference),
    ("status", .text (statusText c.status)), ("asset_id", .text c.assetID), ("units", .text c.units),
    ("occurred_at", .time c.occurredAt), ("expires_at", .time c.expiresAt), ("evidence_hash", .text c.evidenceHash)]

/-- The JSON decoder that refuses unknown fields and anything behind the value. -/
class Codec extends Encoding where
  unmarshal : Octets → Option Callback

def positiveInteger (value : String) : Prop := ∃ n ∈ canonicalDecimal value, 0 < n

instance (value : String) : Decidable (positiveInteger value) := by unfold positiveInteger; infer_instance

def callbackStatus (status : PaymentStatus) : Prop :=
  status = .processing ∨ status = .provisional ∨ status = .final ∨ status = .failed ∨ status = .reversed

instance (status : PaymentStatus) : Decidable (callbackStatus status) := by unfold callbackStatus; infer_instance

/-- What `EncodeCallback` checks, the years that JSON can write included. -/
def Callback.Valid (c : Callback) : Prop :=
  c.providerID ≠ "" ∧ c.providerEventID ≠ "" ∧ c.paymentID ≠ "" ∧ c.providerReference ≠ "" ∧ callbackStatus c.status ∧
    c.assetID ≠ "" ∧ ¬ c.occurredAt.IsZero ∧ ¬ c.expiresAt.IsZero ∧ c.occurredAt ≤ c.expiresAt ∧ c.evidenceHash ≠ "" ∧
    positiveInteger c.units ∧ Encodable c.occurredAt ∧ Encodable c.expiresAt

instance (c : Callback) : Decidable c.Valid := by unfold Callback.Valid; infer_instance

def encodeCallback [Encoding] (c : Callback) : Option Octets := if c.Valid then some (Encoding.marshal c.json) else none

/-- `decodeCallback`: only the canonical encoding is accepted. -/
def decodeCallback [Codec] (raw : Octets) : Option Callback :=
  (Codec.unmarshal raw).filter fun c => encodeCallback c = some raw

def hashBytes [Encoding] (value : Octets) : String := String.ofList (hexEncode (Encoding.sha256 value))

def CALLBACK_DOMAIN : String := "UNIFIED_PHASE7A_CALLBACK_V1"

def MAX_CALLBACK_BYTES : Nat := 64 * 1024

def signingMessage [Encoding] (raw : Octets) : Octets := Encoding.sha256 (octets CALLBACK_DOMAIN ++ 0 :: raw)

/-- A change of a payment that is handed to the accounting. -/
structure Transition where
  payment : Intent
  (fromStatus toStatus : PaymentStatus)
  providerEventID : String
  (occurredAt receivedAt : Time)
  evidenceHash : String
  deriving DecidableEq

/-- The errors of the orchestrator; those of the coordinator are kept with the one they are joined to. -/
inductive PaymentError where
  | invalidIntent | invalidProvider | idempotencyConflict | unknownPayment | unauthorizedCallback
  | invalidCallback | callbackConflict | invalidTransition | accounting
  | invalidResolution (cause : Settlement.Errors)
  | canonicalPending | canonicalConfirmed
  | canonicalPersistence (cause : Settlement.Errors)
  | coordinator (cause : Settlement.Errors)
  deriving DecidableEq

/-- `CallbackResult.Disposition`; it is empty for a callback that is applied. -/
inductive Disposition where
  | applied | quarantined | incident | reversed | unclaimed | synthetic
  deriving DecidableEq, Repr

structure CallbackResult where
  (providerID providerEventID rawHash : String)
  payment : Intent
  journalIDs : List String
  replayed : Bool
  disposition : Disposition
  deriving DecidableEq

structure Answer where
  result : Option CallbackResult
  err : Option PaymentError
  deriving DecidableEq

def Answer.error (e : PaymentError) : Answer := ⟨none, some e⟩

/-! ### What is kept -/

structure RawCallback where
  ingressID : Nat
  (providerID providerEventID : String)
  rawPayload : Octets
  (rawHash signatureHash : String)
  receivedAt : Time
  deriving DecidableEq

inductive ReasonCode where
  | callbackEnvelopeInvalid | callbackAuthenticationFailed | callbackBindingInvalid | callbackEventConflict
  | unknownPayment | paymentBindingInvalid | reversalUnsupported | callbackOrderInvalid
  | canonicalSettlementSubmitted
  deriving DecidableEq, Repr

structure Quarantine where
  (quarantineID providerID providerEventID paymentID rawHash evidenceHash : String)
  reasonCode : ReasonCode
  receivedAt : Time
  owner : String
  resolutionDeadline : Time
  deriving DecidableEq

structure QuarantineResolution where
  (resolutionID quarantineID canonicalFailureEvidenceHash evidenceHash resolvedBy : String)
  resolvedAt : Time
  deriving DecidableEq

structure CanonicalReversalResolutionRequest where
  (quarantineID resolutionID paymentID allocationID instructionDigest : String)
  failureProof : Option TransactionFailureEvidence
  (resolutionEvidenceHash resolvedBy : String)
  resolvedAt : Time

inductive IncidentReason where
  | contradictionAfterSettlement | contradictedBySettlement
  deriving DecidableEq, Repr

structure CanonicalIncident where
  (incidentID paymentID allocationID claimDigest providerID providerEventID providerReference rawHash : String)
  evidenceHash : String
  reasonCode : IncidentReason
  (occurredAt receivedAt : Time)
  deriving DecidableEq

structure StoredEvent where
  rawHash : String
  result : CallbackResult
  err : Option PaymentError
  deriving DecidableEq

/-- What a pending reversal keeps of its claim; the other fields are never read. -/
structure PendingCanonicalReversal where
  eventKey : String
  ingressID : Nat
  callback : Callback
  (rawHash signatureHash : String)
  receivedAt : Time
  (claimPaymentID claimAllocationID claimDigest : String)
  deriving DecidableEq

structure CanonicalReversalConsumption where
  quarantineID : String
  ingressID : Nat
  (paymentID allocationID instructionDigest providerID providerEventID providerReference assetID units : String)
  (rawHash signatureHash callbackEvidenceHash : String)
  (callbackExpiresAt callbackOccurredAt callbackReceivedAt : Time)
  (resolutionID resolutionEvidenceHash resolvedBy : String)
  resolvedAt : Time
  (gatewayEventID gatewayTransactionHash gatewayRawPayloadHash finalityEvidenceHash : String)
  deriving DecidableEq

structure CanonicalReversalResolutionRecord where
  (quarantineID resolutionID paymentID allocationID instructionDigest providerID providerEventID : String)
  (providerReference assetID units rawHash requestDigest canonicalFailureEvidenceHash : String)
  (resolutionEvidenceHash resolvedBy : String)
  resolvedAt : Time
  journalIDs : List String

structure Orchestrator where
  providers : Table String Provider
  payments : Table String Intent
  (intentKeys intentHashes : Table String String)
  events : Table String StoredEvent
  rawCallbacks : List RawCallback
  quarantines : List Quarantine
  canonicalIncidents : List CanonicalIncident
  quarantineResolutions : Table String QuarantineResolution
  pendingReversals : Table String PendingCanonicalReversal
  consumedReversals : Table String CanonicalReversalConsumption
  deriving DecidableEq

/-- A number with leading zeros up to a width. -/
def padded (width n : Nat) : String := String.ofList (List.leftpad width '0' (Nat.toDigits 10 n))

/-- The identifier of the `sequence`-th quarantine. -/
def quarantineID (sequence : Nat) : String := "quarantine-" ++ padded 6 sequence

def incidentID (sequence : Nat) : String := "canonical-incident-" ++ padded 6 sequence

def eventKey (providerID providerEventID : String) : String := providerID ++ "\x00" ++ providerEventID

theorem foldlM_zeros (k : Nat) (cs : List Char) :
    (List.replicate k '0' ++ cs).foldlM
      (fun acc c => (digitValue c).bind fun d => if d < 10 then some (10 * acc + d) else none) 0 =
    cs.foldlM (fun acc c => (digitValue c).bind fun d => if d < 10 then some (10 * acc + d) else none) 0 := by
  induction k with
  | zero => rfl
  | succ k ih =>
    rw [List.replicate_succ, List.cons_append, List.foldlM_cons]
    exact ih

/-- Leading zeros do not change a number. -/
theorem padded_inj {width n m : Nat} (h : padded width n = padded width m) : n = m := by
  have hlist := String.ofList_injective h
  have hread := congrArg (fun cs : List Char =>
    cs.foldlM (fun acc c => (digitValue c).bind fun d => if d < 10 then some (10 * acc + d) else none) 0) hlist
  simp only [List.leftpad, foldlM_zeros, foldlM_toDigits, Option.some.injEq] at hread
  exact hread

theorem quarantineID_inj {n m : Nat} (h : quarantineID n = quarantineID m) : n = m := by
  have hlist := congrArg String.toList h
  simp only [quarantineID, String.toList_append] at hlist
  exact padded_inj (String.toList_inj.mp (List.append_cancel_left hlist))

end Unified.Payment
