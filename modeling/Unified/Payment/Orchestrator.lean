import Unified.Payment.Types
import Unified.Settlement.Reversal

/-! The orchestrator: its construction from what the coordinator reports, the payments it creates, the checks a
    callback passes before it is applied, and the consumed reversals it takes over from the coordinator. -/

namespace Unified.Payment

open Indexer (Crypto Octets Time)
open Settlement (CanonicalReversalRecord ConsumedPendingReversalSnapshot Coordinator Encoding PaymentStatus
  PendingReversalSnapshot StoredReversalResolution bump canonicalPaymentEventID reversalResolutionRequestDigest)

/-! ### What the coordinator reports -/

def pendingRecord (p : PendingReversalSnapshot) : CanonicalReversalRecord where
  toCallbackFields := p.toCallbackFields
  resolutionID := ""
  allocationID := p.allocationID
  instructionDigest := p.instructionDigest
  reversalEventID := canonicalPaymentEventID p.providerID p.providerEventID
  failureProof := none
  resolutionEvidence := ""
  resolvedBy := ""
  receivedAt := p.receivedAt

/-- `PendingProviderReversals`, in the order of the payments. -/
def pendingProviderReversals (c : Coordinator) : List CanonicalReversalRecord := c.pending.values.map pendingRecord

def consumption (k : ConsumedPendingReversalSnapshot) : CanonicalReversalConsumption where
  quarantineID := k.pending.quarantineID
  ingressID := k.pending.ingressID
  paymentID := k.pending.paymentID
  allocationID := k.pending.allocationID
  instructionDigest := k.pending.instructionDigest
  providerID := k.pending.providerID
  providerEventID := k.pending.providerEventID
  providerReference := k.pending.providerReference
  assetID := k.pending.assetID
  units := k.pending.units
  rawHash := k.pending.rawHash
  signatureHash := k.pending.signatureHash
  callbackEvidenceHash := k.pending.callbackEvidenceHash
  callbackExpiresAt := k.pending.callbackExpiresAt
  callbackOccurredAt := k.pending.occurredAt
  callbackReceivedAt := k.pending.receivedAt
  resolutionID := k.resolutionID
  resolutionEvidenceHash := k.resolutionEvidenceHash
  resolvedBy := k.resolvedBy
  resolvedAt := k.resolvedAt
  gatewayEventID := k.gatewayEventID
  gatewayTransactionHash := k.gatewayTransactionHash
  gatewayRawPayloadHash := k.gatewayRawPayloadHash
  finalityEvidenceHash := k.finalityEvidenceHash

/-- `ConsumedProviderReversals`, in the order of the quarantines. -/
def consumedProviderReversals (c : Coordinator) : List CanonicalReversalConsumption :=
  (c.consumed.values.map consumption).insertionSort fun left right => left.quarantineID ≤ right.quarantineID

def CanonicalReversalResolutionRequest.Present (r : CanonicalReversalResolutionRequest) : Prop :=
  r.quarantineID ≠ "" ∧ r.resolutionID ≠ "" ∧ r.paymentID ≠ "" ∧ r.allocationID ≠ "" ∧ r.instructionDigest ≠ "" ∧
    r.resolutionEvidenceHash ≠ "" ∧ r.resolvedBy ≠ "" ∧ ¬ r.resolvedAt.IsZero

instance (r : CanonicalReversalResolutionRequest) : Decidable r.Present := by
  unfold CanonicalReversalResolutionRequest.Present; infer_instance

/-- The stored resolution is the one that the request asks for. -/
def RequestMatches [Encoding] (stored : StoredReversalResolution) (r : CanonicalReversalResolutionRequest) : Prop :=
  let resolution := stored.resolution
  resolution.pending.paymentID = r.paymentID ∧ resolution.pending.allocationID = r.allocationID ∧
    resolution.pending.instructionDigest = r.instructionDigest ∧ resolution.resolutionID = r.resolutionID ∧
    resolution.resolutionEvidence = r.resolutionEvidenceHash ∧ resolution.resolvedBy = r.resolvedBy ∧
    resolution.resolvedAt = r.resolvedAt ∧ resolution.failureProof = r.failureProof ∧
    resolution.requestDigest = reversalResolutionRequestDigest resolution.pending r.resolutionID
      resolution.failureEvidenceHash r.failureProof r.resolutionEvidenceHash r.resolvedBy r.resolvedAt

instance [Encoding] (stored : StoredReversalResolution) (r : CanonicalReversalResolutionRequest) :
    Decidable (RequestMatches stored r) := by unfold RequestMatches; infer_instance

def resolutionRecord (stored : StoredReversalResolution) : CanonicalReversalResolutionRecord where
  quarantineID := stored.resolution.pending.quarantineID
  resolutionID := stored.resolution.resolutionID
  paymentID := stored.resolution.pending.paymentID
  allocationID := stored.resolution.pending.allocationID
  instructionDigest := stored.resolution.pending.instructionDigest
  providerID := stored.resolution.pending.providerID
  providerEventID := stored.resolution.pending.providerEventID
  providerReference := stored.resolution.pending.providerReference
  assetID := stored.resolution.pending.assetID
  units := stored.resolution.pending.units
  rawHash := stored.resolution.pending.rawHash
  requestDigest := stored.resolution.requestDigest
  canonicalFailureEvidenceHash := stored.resolution.failureEvidenceHash
  resolutionEvidenceHash := stored.resolution.resolutionEvidence
  resolvedBy := stored.resolution.resolvedBy
  resolvedAt := stored.resolution.resolvedAt
  journalIDs := stored.journalIDs

/-- `ResolvedProviderReversal`: nothing for a quarantine that is not resolved, an error for another request. -/
def resolvedProviderReversal [Encoding] (c : Coordinator) (r : CanonicalReversalResolutionRequest) :
    Except Settlement.Errors (Option CanonicalReversalResolutionRecord) := do
  require r.Present [.invalidTransition]
  match c.resolutions.lookup r.quarantineID with
  | none => pure none
  | some stored => do
    require (RequestMatches stored r) [.invalidTransition]
    pure (some (resolutionRecord stored))

def allowedTransition : PaymentStatus → PaymentStatus → Bool
  | .created, next => next = .processing ∨ next = .failed
  | .processing, next => next = .provisional ∨ next = .failed
  | .provisional, next => next = .final ∨ next = .reversed
  | .final, next => next = .reversed
  | _, _ => false

def AccountingTransition (status : PaymentStatus) : Prop := status = .provisional ∨ status = .final ∨ status = .reversed

instance (status : PaymentStatus) : Decidable (AccountingTransition status) := by
  unfold AccountingTransition; infer_instance

def Intent.advanced (current : Intent) (callback : Callback) (receivedAt : Time) : Intent :=
  { current with
    status := callback.status
    version := bump current.version
    updatedAt := receivedAt
    providerReference := if current.providerReference = "" then callback.providerReference else current.providerReference
    provisionalAt := if callback.status = .provisional then receivedAt else current.provisionalAt
    finalizedAt := if callback.status = .final then receivedAt else current.finalizedAt
    reversedAt := if callback.status = .reversed then receivedAt else current.reversedAt }

def transitionOf (current : Intent) (callback : Callback) (receivedAt : Time) : Transition where
  payment := current.advanced callback receivedAt
  fromStatus := current.status
  toStatus := callback.status
  providerEventID := callback.providerEventID
  occurredAt := callback.occurredAt
  receivedAt := receivedAt
  evidenceHash := callback.evidenceHash

/-! ### Consumed reversals -/

def ValidCanonicalConsumption (k : CanonicalReversalConsumption) : Prop :=
  k.quarantineID ≠ "" ∧ 0 < k.ingressID ∧ k.paymentID ≠ "" ∧ k.allocationID ≠ "" ∧ k.instructionDigest ≠ "" ∧
    k.providerID ≠ "" ∧ k.providerEventID ≠ "" ∧ k.providerReference ≠ "" ∧ k.assetID ≠ "" ∧ k.units ≠ "" ∧
    k.rawHash ≠ "" ∧ k.signatureHash ≠ "" ∧ k.callbackEvidenceHash ≠ "" ∧ ¬ k.callbackExpiresAt.IsZero ∧
    ¬ k.callbackOccurredAt.IsZero ∧ ¬ k.callbackReceivedAt.IsZero ∧ k.callbackOccurredAt ≤ k.callbackReceivedAt ∧
    k.callbackReceivedAt ≤ k.callbackExpiresAt ∧ k.resolutionID = "canonical-success:" ++ k.gatewayEventID ∧
    k.resolutionEvidenceHash ≠ "" ∧ k.resolvedBy = "canonical-chain-indexer" ∧ ¬ k.resolvedAt.IsZero ∧
    k.callbackReceivedAt ≤ k.resolvedAt ∧ k.gatewayEventID ≠ "" ∧ k.gatewayTransactionHash ≠ "" ∧
    k.gatewayRawPayloadHash ≠ "" ∧ k.finalityEvidenceHash = k.resolutionEvidenceHash

instance (k : CanonicalReversalConsumption) : Decidable (ValidCanonicalConsumption k) := by
  unfold ValidCanonicalConsumption; infer_instance

def ConsumptionMatches (current : Intent) (k : CanonicalReversalConsumption) : Prop :=
  current.status = .final ∧ current.providerID = k.providerID ∧ current.providerReference = k.providerReference ∧
    current.assetID = k.assetID ∧ current.units = k.units

instance (current : Intent) (k : CanonicalReversalConsumption) : Decidable (ConsumptionMatches current k) := by
  unfold ConsumptionMatches; infer_instance

def DAY : Int := 86400000000000

/-- A quarantine that payment operations own for a day. -/
def quarantineRecord (id providerID providerEventID paymentID rawHash evidenceHash : String) (reasonCode : ReasonCode)
    (receivedAt : Time) : Quarantine :=
  ⟨id, providerID, providerEventID, paymentID, rawHash, evidenceHash, reasonCode, receivedAt, "payment-operations",
    receivedAt + DAY⟩

namespace Orchestrator

def consumedEvent (current : Intent) (k : CanonicalReversalConsumption) : StoredEvent where
  rawHash := k.rawHash
  result := ⟨k.providerID, k.providerEventID, k.rawHash, current, [], false, .incident⟩
  err := some .canonicalConfirmed

def consumedFor (o : Orchestrator) (paymentID : String) : List CanonicalReversalConsumption :=
  o.consumedReversals.values.filter (·.paymentID = paymentID)

/-- `applyCanonicalConsumptionsLocked`: a payment has at most one consumed reversal, so the order of the map in which
    the source checks and writes them makes no difference. -/
def applyCanonicalConsumptions (o : Orchestrator) (paymentID : String) : Except PaymentError Orchestrator :=
  match o.payments.lookup paymentID with
  | none => pure o
  | some current => do
    require (∀ k ∈ o.consumedFor paymentID, ConsumptionMatches current k) (.canonicalPersistence [])
    pure { o with events := Table.insertMany o.events ((o.consumedFor paymentID).map fun k =>
      (eventKey k.providerID k.providerEventID, consumedEvent current k)) }

def consumedIncident (k : CanonicalReversalConsumption) : CanonicalIncident where
  incidentID := "canonical-success:" ++ k.quarantineID
  paymentID := k.paymentID
  allocationID := k.allocationID
  claimDigest := k.instructionDigest
  providerID := k.providerID
  providerEventID := k.providerEventID
  providerReference := k.providerReference
  rawHash := k.rawHash
  evidenceHash := k.resolutionEvidenceHash
  reasonCode := .contradictedBySettlement
  occurredAt := k.callbackOccurredAt
  receivedAt := k.resolvedAt

def consumedResolution (k : CanonicalReversalConsumption) : QuarantineResolution :=
  ⟨k.resolutionID, k.quarantineID, "", k.resolutionEvidenceHash, k.resolvedBy, k.resolvedAt⟩

def consume (o : Orchestrator) (k : CanonicalReversalConsumption) : Orchestrator :=
  { o with
    consumedReversals := o.consumedReversals.insert k.quarantineID k
    pendingReversals := o.pendingReversals.erase k.quarantineID
    quarantines :=
      if ∃ q ∈ o.quarantines, q.quarantineID = k.quarantineID then o.quarantines
      else o.quarantines ++ [quarantineRecord k.quarantineID k.providerID k.providerEventID k.paymentID k.rawHash
        k.callbackEvidenceHash .canonicalSettlementSubmitted k.callbackReceivedAt]
    quarantineResolutions := o.quarantineResolutions.insert k.quarantineID (consumedResolution k)
    canonicalIncidents :=
      if ∃ i ∈ o.canonicalIncidents, i.incidentID = "canonical-success:" ++ k.quarantineID then o.canonicalIncidents
      else o.canonicalIncidents ++ [consumedIncident k] }

/-- One round of the loop of `refreshCanonicalConsumptionsLocked`; what is taken over stays when the round fails. -/
def refreshOne (o : Orchestrator) (k : CanonicalReversalConsumption) : Orchestrator × Option PaymentError :=
  if ¬ (ValidCanonicalConsumption k ∧ k.providerID ∈ o.providers) then (o, some (.canonicalPersistence []))
  else
    match o.consumedReversals.lookup k.quarantineID with
    | some existing =>
      if existing ≠ k then (o, some (.canonicalPersistence []))
      else
        match o.applyCanonicalConsumptions k.paymentID with
        | .ok o' => (o', none)
        | .error e => (o, some e)
    | none =>
      match (o.consume k).applyCanonicalConsumptions k.paymentID with
      | .ok o' => (o', none)
      | .error e => (o.consume k, some e)

def refresh (o : Orchestrator) : List CanonicalReversalConsumption → Orchestrator × Option PaymentError
  | [] => (o, none)
  | k :: ks =>
    match o.refreshOne k with
    | (o', none) => o'.refresh ks
    | (o', some e) => (o', some e)

def PUBLIC_KEY_SIZE : Nat := 32

def ValidProvider (p : Provider) : Prop :=
  p.id ≠ "" ∧ (p.rail = .bank ∨ p.rail = .card) ∧ p.publicKey.length = PUBLIC_KEY_SIZE ∧ p.assetID ≠ "" ∧ p.version ≠ 0

instance (p : Provider) : Decidable (ValidProvider p) := by unfold ValidProvider; infer_instance

def configure (configured : Table String Provider) (p : Provider) : Except PaymentError (Table String Provider) := do
  require (ValidProvider p ∧ p.id ∉ configured) .invalidProvider
  pure (configured.insert p.id p)

def fresh (providers : Table String Provider) : Orchestrator := ⟨providers, ∅, ∅, ∅, ∅, [], [], [], ∅, ∅, ∅⟩

/-- What `New` checks of a pending reversal. -/
def ValidPendingRecord (r : CanonicalReversalRecord) : Prop :=
  r.quarantineID ≠ "" ∧ r.ingressID ≠ 0 ∧ r.paymentID ≠ "" ∧ r.allocationID ≠ "" ∧ r.instructionDigest ≠ "" ∧
    r.providerID ≠ "" ∧ r.providerEventID ≠ "" ∧ r.assetID ≠ "" ∧ r.units ≠ "" ∧ r.rawHash ≠ "" ∧ r.signatureHash ≠ "" ∧
    r.callbackEvidenceHash ≠ "" ∧ ¬ r.callbackExpiresAt.IsZero ∧ ¬ r.occurredAt.IsZero ∧ ¬ r.receivedAt.IsZero

instance (r : CanonicalReversalRecord) : Decidable (ValidPendingRecord r) := by
  unfold ValidPendingRecord; infer_instance

def restoredCallback (r : CanonicalReversalRecord) : Callback :=
  ⟨r.providerID, r.providerEventID, r.paymentID, r.providerReference, .reversed, r.assetID, r.units, r.occurredAt,
    r.callbackExpiresAt, r.callbackEvidenceHash⟩

def restoredPending (r : CanonicalReversalRecord) : PendingCanonicalReversal where
  eventKey := eventKey r.providerID r.providerEventID
  ingressID := r.ingressID
  callback := restoredCallback r
  rawHash := r.rawHash
  signatureHash := r.signatureHash
  receivedAt := r.receivedAt
  claimPaymentID := r.paymentID
  claimAllocationID := r.allocationID
  claimDigest := r.instructionDigest

def restorePending (o : Orchestrator) (r : CanonicalReversalRecord) : Except PaymentError Orchestrator := do
  require (ValidPendingRecord r) (.canonicalPersistence [])
  require (r.providerID ∈ o.providers) (.canonicalPersistence [])
  require (r.quarantineID ∉ o.pendingReversals) (.canonicalPersistence [])
  pure { o with
    quarantines := o.quarantines ++ [quarantineRecord r.quarantineID r.providerID r.providerEventID r.paymentID r.rawHash
      r.callbackEvidenceHash .canonicalSettlementSubmitted r.receivedAt]
    pendingReversals := o.pendingReversals.insert r.quarantineID (restoredPending r) }

def new (providers : List Provider) (c : Coordinator) : Except PaymentError Orchestrator := do
  require (providers ≠ []) .invalidProvider
  let configured ← providers.foldlM configure ∅
  let o ← (pendingProviderReversals c).foldlM restorePending (fresh configured)
  match o.refresh (consumedProviderReversals c) with
  | (o', none) => pure o'
  | (_, some e) => .error e

/-! ### Payments -/

def ValidRestored (i : Intent) : Prop :=
  i.paymentID ≠ "" ∧ i.providerID ≠ "" ∧ i.assetID ≠ "" ∧ i.units ≠ "" ∧ i.version ≠ 0 ∧ ¬ i.createdAt.IsZero ∧
    ¬ i.updatedAt.IsZero

instance (i : Intent) : Decidable (ValidRestored i) := by unfold ValidRestored; infer_instance

def restorePayment (o : Orchestrator) (i : Intent) : Except PaymentError Orchestrator := do
  require (ValidRestored i) .invalidIntent
  let _ ← orRevert ((o.providers.lookup i.providerID).filter fun p => p.rail = i.rail ∧ p.assetID = i.assetID) .invalidIntent
  match o.payments.lookup i.paymentID with
  | some existing => do
    require (existing = i) .idempotencyConflict
    pure o
  | none => applyCanonicalConsumptions { o with payments := o.payments.insert i.paymentID i } i.paymentID

def ValidIntentRequest (r : IntentRequest) (now : Time) : Prop :=
  ¬ now.IsZero ∧ r.paymentID ≠ "" ∧ r.legalEntityID ≠ "" ∧ r.idempotencyKey ≠ "" ∧ r.correlationID ≠ "" ∧
    r.payerReference ≠ "" ∧ r.providerID ≠ "" ∧ r.purpose ≠ "" ∧ r.assetID ≠ "" ∧ r.schemaVersion ≠ 0 ∧
    now < r.expiresAt ∧ positiveInteger r.units

instance (r : IntentRequest) (now : Time) : Decidable (ValidIntentRequest r now) := by
  unfold ValidIntentRequest; infer_instance

def created (r : IntentRequest) (now : Time) : Intent :=
  { toIntentRequest := r, providerReference := "", status := .created, version := 1, createdAt := now, updatedAt := now,
    provisionalAt := 0, finalizedAt := 0, reversedAt := 0 }

section

variable [Encoding]

def intentHash (r : IntentRequest) : String :=
  hashBytes (Encoding.marshal (.object [("PaymentID", .text r.paymentID), ("LegalEntityID", .text r.legalEntityID),
    ("IdempotencyKey", .text r.idempotencyKey), ("CorrelationID", .text r.correlationID),
    ("PayerReference", .text r.payerReference), ("LoanID", .text r.loanID), ("ProviderID", .text r.providerID),
    ("Rail", .text r.rail.text), ("Purpose", .text r.purpose), ("AssetID", .text r.assetID), ("Units", .text r.units),
    ("ExpiresAt", .time r.expiresAt), ("SchemaVersion", .number r.schemaVersion)]))

def createIntent (o : Orchestrator) (r : IntentRequest) (now : Time) : Except PaymentError (Orchestrator × Intent) := do
  require (ValidIntentRequest r now) .invalidIntent
  let _ ← orRevert ((o.providers.lookup r.providerID).filter fun p =>
    p.active ∧ p.rail = r.rail ∧ p.assetID = r.assetID) .invalidIntent
  let scope := r.legalEntityID ++ "\x00" ++ r.idempotencyKey
  match o.intentKeys.lookup scope with
  | some paymentID => do
    require (o.intentHashes.lookup paymentID = some (intentHash r)) .idempotencyConflict
    let existing ← orRevert (o.payments.lookup paymentID) .idempotencyConflict
    pure (o, existing)
  | none => do
    require (r.paymentID ∉ o.payments) .idempotencyConflict
    pure ({ o with
      payments := o.payments.insert r.paymentID (created r now)
      intentKeys := o.intentKeys.insert scope r.paymentID
      intentHashes := o.intentHashes.insert r.paymentID (intentHash r) }, created r now)

end

/-! ### Callbacks -/

structure Delivery where
  (providerID providerEventID : String)
  (raw signature : Octets)
  receivedAt : Time

/-- A callback that is put in quarantine, with the error it is answered with. -/
structure Rejection where
  (paymentID evidenceHash : String)
  reasonCode : ReasonCode
  err : PaymentError

/-- A callback that passed the checks: a replay of a stored event, or one to apply to a payment. -/
inductive Admitted where
  | replay (event : StoredEvent)
  | apply (callback : Callback) (current : Intent)

/-- The payment and the callback belong together. -/
def Bound (current : Intent) (provider : Provider) (callback : Callback) (d : Delivery) : Prop :=
  current.providerID = d.providerID ∧ current.rail = provider.rail ∧ current.assetID = callback.assetID ∧
    current.units = callback.units ∧
    (current.providerReference ≠ "" → current.providerReference = callback.providerReference) ∧
    ¬ (current.status = .created ∧ current.expiresAt < d.receivedAt)

instance (current : Intent) (provider : Provider) (callback : Callback) (d : Delivery) :
    Decidable (Bound current provider callback d) := by unfold Bound; infer_instance

section

variable [Codec]

/-- Every callback is kept as it came. -/
def receive (o : Orchestrator) (d : Delivery) : Orchestrator :=
  { o with rawCallbacks := o.rawCallbacks ++ [⟨o.rawCallbacks.length + 1, d.providerID, d.providerEventID,
      if MAX_CALLBACK_BYTES < d.raw.length then [] else d.raw, hashBytes d.raw, hashBytes d.signature, d.receivedAt⟩] }

def quarantine (o : Orchestrator) (d : Delivery) (paymentID evidenceHash : String) (reasonCode : ReasonCode) :
    Orchestrator :=
  { o with quarantines := o.quarantines ++ [quarantineRecord (quarantineID (o.quarantines.length + 1)) d.providerID
      d.providerEventID paymentID (hashBytes d.raw) evidenceHash reasonCode d.receivedAt] }

/-- The checks of `IngestCallback` in their order. -/
def accept (o : Orchestrator) (d : Delivery) : Except Rejection Admitted := do
  require (d.providerID ≠ "" ∧ d.providerEventID ≠ "" ∧ d.raw.length ≠ 0 ∧ d.raw.length ≤ MAX_CALLBACK_BYTES)
    ⟨"", "", .callbackEnvelopeInvalid, .invalidCallback⟩
  let provider ← orRevert ((o.providers.lookup d.providerID).filter fun p =>
      p.active ∧ Crypto.verify p.publicKey (signingMessage d.raw) d.signature)
    ⟨"", "", .callbackAuthenticationFailed, .unauthorizedCallback⟩
  let callback ← orRevert (decodeCallback d.raw) ⟨"", "", .callbackBindingInvalid, .invalidCallback⟩
  let reject : ReasonCode → PaymentError → Rejection := Rejection.mk callback.paymentID callback.evidenceHash
  require (callback.providerID = d.providerID ∧ callback.providerEventID = d.providerEventID ∧
    callback.assetID = provider.assetID ∧ d.receivedAt ≤ callback.expiresAt)
    (reject .callbackBindingInvalid .invalidCallback)
  match o.events.lookup (eventKey d.providerID d.providerEventID) with
  | some existing => do
    require (existing.rawHash = hashBytes d.raw) (reject .callbackEventConflict .callbackConflict)
    pure (.replay existing)
  | none => do
    let current ← orRevert (o.payments.lookup callback.paymentID) (reject .unknownPayment .unknownPayment)
    require (Bound current provider callback d) (reject .paymentBindingInvalid .invalidCallback)
    require (callback.status = .reversed → provider.supportsReversal) (reject .reversalUnsupported .invalidTransition)
    require (¬ (callback.status = .reversed ∧ current.status = .reversed)) (reject .callbackOrderInvalid .invalidTransition)
    require (callback.status = current.status ∨ allowedTransition current.status callback.status)
      (reject .callbackOrderInvalid .invalidTransition)
    pure (.apply callback current)

/-- The record of a reversal callback, with the identifier that its quarantine would have. -/
def reversalRecord (o : Orchestrator) (d : Delivery) (callback : Callback) : CanonicalReversalRecord where
  quarantineID := quarantineID (o.quarantines.length + 1)
  ingressID := o.rawCallbacks.length
  paymentID := callback.paymentID
  providerID := callback.providerID
  providerEventID := callback.providerEventID
  providerReference := callback.providerReference
  assetID := callback.assetID
  units := callback.units
  rawHash := hashBytes d.raw
  signatureHash := hashBytes d.signature
  callbackEvidenceHash := callback.evidenceHash
  callbackExpiresAt := callback.expiresAt
  occurredAt := callback.occurredAt
  resolutionID := ""
  allocationID := ""
  instructionDigest := ""
  reversalEventID := canonicalPaymentEventID callback.providerID callback.providerEventID
  failureProof := none
  resolutionEvidence := ""
  resolvedBy := ""
  receivedAt := d.receivedAt

/-- The answer to a callback that is stored with it. -/
def answerEvent (o : Orchestrator) (d : Delivery) (payment : Intent) (journalIDs : List String)
    (disposition : Disposition) (err : Option PaymentError) : Orchestrator × Answer :=
  let result : CallbackResult :=
    ⟨d.providerID, d.providerEventID, hashBytes d.raw, payment, journalIDs, false, disposition⟩
  ({ o with events := o.events.insert (eventKey d.providerID d.providerEventID) ⟨hashBytes d.raw, result, err⟩ },
    ⟨some result, err⟩)

end

def resolveQuarantine (o : Orchestrator) (r : QuarantineResolution) : Except PaymentError Orchestrator := do
  require (r.quarantineID ≠ "" ∧ r.resolutionID ≠ "" ∧ r.evidenceHash ≠ "" ∧ r.resolvedBy ≠ "" ∧ ¬ r.resolvedAt.IsZero)
    (.invalidResolution [])
  require (r.quarantineID ∉ o.pendingReversals ∧ r.quarantineID ∉ o.quarantineResolutions) (.invalidResolution [])
  require (∃ q ∈ o.quarantines, q.quarantineID = r.quarantineID ∧ q.receivedAt ≤ r.resolvedAt) (.invalidResolution [])
  pure { o with quarantineResolutions :=
    o.quarantineResolutions.insert r.quarantineID { r with canonicalFailureEvidenceHash := "" } }

end Orchestrator

end Unified.Payment
