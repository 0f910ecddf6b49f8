import Unified.Payment.Accounting
import Unified.Payment.Orchestrator
import Unified.Settlement.Runs

/-! The orchestrator with the coordinator and the accounting behind it: what every call does to the three of
    them, also where it fails half way, and the runs of such calls with restarts of the orchestrator between. -/

namespace Unified.Payment

open Indexer (Time)
open Settlement (CanonicalReversalRecord Claim Coordinator Encoding Errors Mode PaymentStatus ReversalDisposition
  ValidReversalRecord bump canonicalPaymentEventID)

structure World where
  orchestrator : Orchestrator
  coordinator : Coordinator
  poster : Poster

/-- What goes wrong around one callback: the accounting refuses, or the store answers a write with an error and
    does not make it. -/
structure Faults where
  accounting : Bool
  store : Except Errors Unit

def Faults.none : Faults := ⟨false, .ok ()⟩

/-- `HandleProviderReversal` over a store that answers the write with `stored`. -/
def handleProviderReversal (c : Coordinator) (r : CanonicalReversalRecord) (commit stored : Except Errors Unit) :
    Except Errors (Coordinator × Option Claim × ReversalDisposition) := do
  require (ValidReversalRecord r) [.invalidTransition]
  match (c.plans.lookup r.paymentID).filter (·.state = .quarantined) with
  | some plan => do
    let claim ← c.quarantinedReplay r plan
    pure (c, some claim, .quarantined)
  | none => do
    let (modes, c', claim, disposition) ← Settlement.joinError .invalidTransition <|
      c.modes.handleReversalWithCommit r.paymentID c fun claim disposition => do
        let c' ← c.commitReversal r commit claim disposition
        stored
        pure c'
    pure ({ c' with modes := modes }, claim, disposition)

/-- The coordinator lets the reversal be posted: no plan stands against it. -/
def ReversalCommits (c : Coordinator) (r : CanonicalReversalRecord) : Prop :=
  ValidReversalRecord r ∧ (c.plans.lookup r.paymentID).filter (·.state = .quarantined) = none ∧
    ∀ claim ∈ c.modes.lookup r.paymentID, claim.mode = Mode.syntheticProjection

instance (c : Coordinator) (r : CanonicalReversalRecord) : Decidable (ReversalCommits c r) := by
  unfold ReversalCommits; infer_instance

section

variable [Encoding]

/-- The coordinator asks for the journals of a reversal that it resolves: everything else is in order, and the
    reversal is not resolved before. -/
def FallbackRuns (c : Coordinator) (r : CanonicalReversalRecord) : Prop :=
  r.quarantineID ∉ c.resolutions ∧ (c.resolveProviderReversal r (.ok ["journal"])).isOk

instance (c : Coordinator) (r : CanonicalReversalRecord) : Decidable (FallbackRuns c r) := by
  unfold FallbackRuns; infer_instance

/-- Posting a transition, unless the accounting refuses. -/
def Poster.attempt (p : Poster) (t : Transition) (now : Time) (fails : Bool) : Option (List String × Poster) :=
  if fails then none else (p.apply t now).toOption

end

/-! ### Callbacks -/

namespace Orchestrator

def pendingOf (record : CanonicalReversalRecord) (callback : Callback) (claim : Option Claim) :
    PendingCanonicalReversal where
  eventKey := eventKey record.providerID record.providerEventID
  ingressID := record.ingressID
  callback := callback
  rawHash := record.rawHash
  signatureHash := record.signatureHash
  receivedAt := record.receivedAt
  claimPaymentID := (claim.map (·.paymentID)).getD ""
  claimAllocationID := (claim.map (·.allocationID)).getD ""
  claimDigest := (claim.map (·.digest)).getD ""

def contradiction (o : Orchestrator) (record : CanonicalReversalRecord) (claim : Option Claim) : CanonicalIncident where
  incidentID := incidentID (o.canonicalIncidents.length + 1)
  paymentID := record.paymentID
  allocationID := (claim.map (·.allocationID)).getD ""
  claimDigest := (claim.map (·.digest)).getD ""
  providerID := record.providerID
  providerEventID := record.providerEventID
  providerReference := record.providerReference
  rawHash := record.rawHash
  evidenceHash := record.callbackEvidenceHash
  reasonCode := .contradictionAfterSettlement
  occurredAt := record.occurredAt
  receivedAt := record.receivedAt

variable [Codec] (o : Orchestrator) (d : Delivery) (callback : Callback) (current : Intent)

/-- The callback is in quarantine until its settlement is known to have failed. -/
def quarantineReversal (claim : Option Claim) : Orchestrator × Answer :=
  let record := o.reversalRecord d callback
  let (o, answer) := (o.quarantine d callback.paymentID callback.evidenceHash .canonicalSettlementSubmitted).answerEvent d
    current [] .quarantined (some .canonicalPending)
  ({ o with pendingReversals := o.pendingReversals.insert record.quarantineID (pendingOf record callback claim) }, answer)

/-- The callback contradicts a confirmed settlement. -/
def incidentReversal (claim : Option Claim) : Orchestrator × Answer :=
  let incident := o.contradiction (o.reversalRecord d callback) claim
  { o with canonicalIncidents := o.canonicalIncidents ++ [incident] }.answerEvent d current [] .incident
    (some .canonicalConfirmed)

def applyCallback (journalIDs : List String) (disposition : Disposition) : Orchestrator × Answer :=
  let next := current.advanced callback d.receivedAt
  { o with payments := o.payments.insert next.paymentID next }.answerEvent d next journalIDs disposition none

end Orchestrator

namespace World

section

variable [Codec]

/-- `IngestCallback` on a reversal. Its accounting is posted where the coordinator comes to it, and stays posted
    when the coordinator fails after it. -/
def ingestReversal (w : World) (d : Orchestrator.Delivery) (callback : Callback) (current : Intent) (now : Time)
    (faults : Faults) : World × Answer :=
  let record := w.orchestrator.reversalRecord d callback
  let posted := w.poster.attempt (transitionOf current callback d.receivedAt) now faults.accounting
  let poster := if ReversalCommits w.coordinator record then (posted.map Prod.snd).getD w.poster else w.poster
  match handleProviderReversal w.coordinator record (orRevert (posted.map fun _ => ()) [.accounting]) faults.store with
  | .error e => ({ w with poster := poster }, .error (.canonicalPersistence e))
  | .ok (c, claim, .quarantined) =>
    let (o, answer) := w.orchestrator.quarantineReversal d callback current claim
    (⟨o, c, poster⟩, answer)
  | .ok (c, claim, .incident) =>
    let (o, answer) := w.orchestrator.incidentReversal d callback current claim
    (⟨o, c, poster⟩, answer)
  | .ok (c, _, .unclaimed) =>
    let (o, answer) := w.orchestrator.applyCallback d callback current ((posted.map Prod.fst).getD []) .unclaimed
    (⟨o, c, poster⟩, answer)
  | .ok (c, _, .synthetic) =>
    let (o, answer) := w.orchestrator.applyCallback d callback current ((posted.map Prod.fst).getD []) .synthetic
    (⟨o, c, poster⟩, answer)

/-- `IngestCallback` on any other callback: nothing is kept of it when its accounting fails. -/
def ingestAdvance (w : World) (d : Orchestrator.Delivery) (callback : Callback) (current : Intent) (now : Time)
    (faults : Faults) : World × Answer :=
  if callback.status = current.status then
    let (o, answer) := w.orchestrator.answerEvent d current [] .applied none
    ({ w with orchestrator := o }, answer)
  else if AccountingTransition callback.status then
    match w.poster.attempt (transitionOf current callback d.receivedAt) now faults.accounting with
    | none => (w, .error .accounting)
    | some (journalIDs, poster) =>
      let (o, answer) := w.orchestrator.applyCallback d callback current journalIDs .applied
      ({ w with orchestrator := o, poster := poster }, answer)
  else
    let (o, answer) := w.orchestrator.applyCallback d callback current [] .applied
    ({ w with orchestrator := o }, answer)

/-- What `IngestCallback` does with a callback that it has taken in. -/
def ingestReceived (w : World) (d : Orchestrator.Delivery) (now : Time) (faults : Faults) : World × Answer :=
  match w.orchestrator.accept d with
  | .error r =>
    ({ w with orchestrator := w.orchestrator.quarantine d r.paymentID r.evidenceHash r.reasonCode }, .error r.err)
  | .ok (.replay event) => (w, ⟨some { event.result with replayed := true }, event.err⟩)
  | .ok (.apply callback current) =>
    if callback.status = .reversed then w.ingestReversal d callback current now faults
    else w.ingestAdvance d callback current now faults

/-- `IngestCallback`; the ledger's clock reads `now`. -/
def ingestCallback (w : World) (d : Orchestrator.Delivery) (now : Time) (faults : Faults) : World × Answer :=
  if d.receivedAt.IsZero then (w, .error .invalidCallback)
  else
    match w.orchestrator.refresh (consumedProviderReversals w.coordinator) with
    | (o, some e) => ({ w with orchestrator := o }, .error e)
    | (o, none) => { w with orchestrator := o.receive d }.ingestReceived d now faults

end

end World

/-! ### Resolutions -/

abbrev Resolved := CallbackResult × QuarantineResolution

namespace Orchestrator

def reversedAt (current : Intent) (providerReference : String) (resolvedAt : Time) : Intent :=
  { current with
    status := .reversed
    version := bump current.version
    updatedAt := resolvedAt
    reversedAt := resolvedAt
    providerReference := providerReference }

/-- The payment after a resolution that the coordinator has already. -/
def replayedPayment (current : Intent) (replay : CanonicalReversalResolutionRecord) : Except PaymentError Intent :=
  match current.status with
  | .final => .ok (reversedAt current
      (if current.providerReference = "" then replay.providerReference else current.providerReference) replay.resolvedAt)
  | .reversed => do
    require (current.reversedAt = replay.resolvedAt ∧ current.updatedAt = replay.resolvedAt) .invalidTransition
    pure current
  | _ => .error .invalidTransition

def resolve (o : Orchestrator) (quarantineID key rawHash : String) (result : CallbackResult)
    (resolution : QuarantineResolution) : Orchestrator :=
  { o with
    payments := o.payments.insert result.payment.paymentID result.payment
    events := o.events.insert key ⟨rawHash, result, none⟩
    quarantineResolutions := o.quarantineResolutions.insert quarantineID resolution
    pendingReversals := o.pendingReversals.erase quarantineID }

def replayResolution (o : Orchestrator) (r : CanonicalReversalResolutionRequest)
    (replay : CanonicalReversalResolutionRecord) : Except PaymentError (Orchestrator × Resolved) := do
  let current ← orRevert (o.payments.lookup r.paymentID) .invalidTransition
  require (current.providerID = replay.providerID ∧ current.assetID = replay.assetID ∧ current.units = replay.units ∧
    (current.providerReference ≠ "" → current.providerReference = replay.providerReference)) .invalidTransition
  let next ← replayedPayment current replay
  let result : CallbackResult :=
    ⟨replay.providerID, replay.providerEventID, replay.rawHash, next, replay.journalIDs, true, .reversed⟩
  let resolution : QuarantineResolution := ⟨replay.resolutionID, replay.quarantineID, replay.canonicalFailureEvidenceHash,
    replay.resolutionEvidenceHash, replay.resolvedBy, replay.resolvedAt⟩
  pure (o.resolve r.quarantineID (eventKey replay.providerID replay.providerEventID) replay.rawHash result resolution,
    result, resolution)

/-- The pending reversal that a request names, with its payment. -/
def pendingFor (o : Orchestrator) (r : CanonicalReversalResolutionRequest) :
    Except PaymentError (PendingCanonicalReversal × Intent) := do
  require (r.quarantineID ∉ o.quarantineResolutions) (.invalidResolution [])
  let pending ← orRevert (o.pendingReversals.lookup r.quarantineID) (.invalidResolution [])
  require (pending.claimPaymentID = r.paymentID ∧ pending.claimAllocationID = r.allocationID ∧
    pending.claimDigest = r.instructionDigest ∧ pending.receivedAt ≤ r.resolvedAt) (.invalidResolution [])
  let current ← orRevert ((o.payments.lookup r.paymentID).filter (·.status = .final)) .invalidTransition
  pure (pending, current)

def resolutionOf (r : CanonicalReversalResolutionRequest) (pending : PendingCanonicalReversal) :
    CanonicalReversalRecord where
  quarantineID := r.quarantineID
  ingressID := pending.ingressID
  paymentID := r.paymentID
  providerID := pending.callback.providerID
  providerEventID := pending.callback.providerEventID
  providerReference := pending.callback.providerReference
  assetID := pending.callback.assetID
  units := pending.callback.units
  rawHash := pending.rawHash
  signatureHash := pending.signatureHash
  callbackEvidenceHash := pending.callback.evidenceHash
  callbackExpiresAt := pending.callback.expiresAt
  occurredAt := pending.callback.occurredAt
  resolutionID := r.resolutionID
  allocationID := r.allocationID
  instructionDigest := r.instructionDigest
  reversalEventID := canonicalPaymentEventID pending.callback.providerID pending.callback.providerEventID
  failureProof := r.failureProof
  resolutionEvidence := r.resolutionEvidenceHash
  resolvedBy := r.resolvedBy
  receivedAt := r.resolvedAt

/-- What the accounting is told of a resolved reversal. -/
def resolvedTransition (current : Intent) (pending : PendingCanonicalReversal) (resolvedAt : Time) : Transition where
  payment := reversedAt current current.providerReference resolvedAt
  fromStatus := current.status
  toStatus := .reversed
  providerEventID := pending.callback.providerEventID
  occurredAt := pending.callback.occurredAt
  receivedAt := pending.receivedAt
  evidenceHash := pending.callback.evidenceHash

end Orchestrator

namespace World

section

variable [Encoding]

/-- `ResolveCanonicalReversal` on a reversal that the coordinator has not resolved. -/
def resolvePending (w : World) (r : CanonicalReversalResolutionRequest) (now : Time) (accountingFails : Bool) :
    World × Except PaymentError Resolved :=
  match w.orchestrator.pendingFor r with
  | .error e => (w, .error e)
  | .ok (pending, current) =>
    let record := Orchestrator.resolutionOf r pending
    let transition := Orchestrator.resolvedTransition current pending r.resolvedAt
    let posted := w.poster.attempt transition now accountingFails
    let poster := if FallbackRuns w.coordinator record then (posted.map Prod.snd).getD w.poster else w.poster
    match w.coordinator.resolveProviderReversal record (orRevert (posted.map Prod.fst) [.accounting]) with
    | .error e => ({ w with poster := poster }, .error (.coordinator e))
    | .ok (c, canonical) =>
      let result : CallbackResult := ⟨pending.callback.providerID, pending.callback.providerEventID, pending.rawHash,
        transition.payment, canonical.journalIDs, false, .reversed⟩
      let resolution : QuarantineResolution := ⟨r.resolutionID, r.quarantineID, canonical.failureEvidenceHash,
        r.resolutionEvidenceHash, r.resolvedBy, r.resolvedAt⟩
      (⟨w.orchestrator.resolve r.quarantineID pending.eventKey pending.rawHash result resolution, c, poster⟩,
        .ok (result, resolution))

def resolveCanonicalReversal (w : World) (r : CanonicalReversalResolutionRequest) (now : Time)
    (accountingFails : Bool) : World × Except PaymentError Resolved :=
  if ¬ r.Present then (w, .error (.invalidResolution []))
  else
    match w.orchestrator.refresh (consumedProviderReversals w.coordinator) with
    | (o, some e) => ({ w with orchestrator := o }, .error e)
    | (o, none) =>
      match resolvedProviderReversal w.coordinator r with
      | .error e => ({ w with orchestrator := o }, .error (.invalidResolution e))
      | .ok (some replay) =>
        match o.replayResolution r replay with
        | .error e => ({ w with orchestrator := o }, .error e)
        | .ok (o', resolved) => ({ w with orchestrator := o' }, .ok resolved)
      | .ok none => { w with orchestrator := o }.resolvePending r now accountingFails

end

/-- The orchestrator stopped, built again from the coordinator, and the payments in `intents` restored. -/
def rebuild (w : World) (providers : List Provider) (intents : List Intent) : Except PaymentError World := do
  let o ← Orchestrator.new providers w.coordinator
  let o ← intents.foldlM Orchestrator.restorePayment o
  pure { w with orchestrator := o }

inductive Call where
  | createIntent (r : IntentRequest) (now : Time)
  | restorePayment (i : Intent)
  | ingestCallback (d : Orchestrator.Delivery) (now : Time) (faults : Faults)
  | resolveCanonicalReversal (r : CanonicalReversalResolutionRequest) (now : Time) (accountingFails : Bool)
  | resolveQuarantine (r : QuarantineResolution)
  | coordinate (call : Settlement.Call)
  | rebuild (providers : List Provider) (intents : List Intent)

/-- The new orchestrator where a call is accepted. -/
def withOrchestrator {ε : Type} (w : World) : Except ε Orchestrator → World
  | .ok o => { w with orchestrator := o }
  | .error _ => w

/-- Calls of the coordinator itself; provider reversals reach it only through the orchestrator. -/
def coordinate [Encoding] (w : World) : Settlement.Call → World
  | .handleProviderReversal _ _ => w
  | .resolveProviderReversal _ _ => w
  | call => { w with coordinator := commit Settlement.Call.exec w.coordinator call }

variable [Codec]

def step (w : World) : Call → World
  | .createIntent r now => w.withOrchestrator ((w.orchestrator.createIntent r now).map Prod.fst)
  | .restorePayment i => w.withOrchestrator (w.orchestrator.restorePayment i)
  | .ingestCallback d now faults => (w.ingestCallback d now faults).1
  | .resolveCanonicalReversal r now accountingFails => (w.resolveCanonicalReversal r now accountingFails).1
  | .resolveQuarantine r => w.withOrchestrator (w.orchestrator.resolveQuarantine r)
  | .coordinate call => w.coordinate call
  | .rebuild providers intents =>
    match w.rebuild providers intents with
    | .ok w' => w'
    | .error _ => w

def run (w : World) (calls : List Call) : World := calls.foldl step w

end World

/-! ### A small world -/

def toyMarshal : Settlement.JsonValue → Indexer.Octets
  | .object fields => fields.flatMap fun field =>
    match field.2 with
    | .text s => Indexer.octets s ++ [0]
    | .time t => toBigEndian 8 t.toNat
    | .number n => toBigEndian 8 n
    | _ => []
  | _ => []

/-- A polynomial in place of both hashes, and texts and times one after the other. -/
@[reducible] def toyEncoding : Encoding where
  toCrypto := Indexer.polyCrypto
  sha256 := Indexer.polyCrypto.keccak
  length_sha256 := Indexer.polyCrypto.length_keccak
  marshal := toyMarshal

/-- The id of the payment, and of everything else that a settlement names by a hash. -/
def toyHash : String := hexText (List.replicate 32 1)

def toyCallback (providerEventID : String) (status : PaymentStatus) : Callback :=
  ⟨"bank", providerEventID, toyHash, "reference", status, "USD", "100", 10, 1000, "evidence"⟩

/-- A decoder that knows four callbacks. -/
@[reducible] def toyCodec : Codec where
  toEncoding := toyEncoding
  unmarshal raw := [toyCallback "processing" .processing, toyCallback "provisional" .provisional,
    toyCallback "final" .final, toyCallback "reversed" .reversed].find? fun c => toyMarshal c.json = raw

def toyProvider : Provider := ⟨"bank", .bank, List.replicate 32 0, true, "USD", true, 1⟩

def toyWorld : World where
  orchestrator := .fresh ((∅ : Table String Provider).insert "bank" toyProvider)
  coordinator := .empty
  poster := ⟨.empty, "entity", "book", ∅, ∅⟩

end Unified.Payment
