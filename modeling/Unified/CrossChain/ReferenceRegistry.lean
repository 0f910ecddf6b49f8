import Unified.CrossChain.Coordinator

/-! The off-chain reference registry: at-most-once execution of delivered envelopes with retained
    failure and expiry records. -/

namespace Unified.CrossChain

/-- The static field types of the typed action table. -/
inductive Field where
  | bytes32 | address | uint256
  deriving DecidableEq, Repr

inductive RegistryError where
  | invalidEnvelope | digestMismatch | messageExpired | nonceConflict | outOfOrder | handler
  deriving DecidableEq, Repr

/-- What `Registry` keeps per message: the serialized envelope with its payload, and the outcome. -/
structure RegistryRecord (W : Type) where
  envelope : MessageEnvelope W
  payload : Payload W
  state : MessageState
  result : Option W
  version : Nat
  deriving DecidableEq

structure Execution (W : Type) where
  messageId : W
  state : MessageState
  result : Option W
  replay : Bool
  version : Nat
  deriving DecidableEq

/-- The pair a call of `Execute` returns; no execution stands for the zero value of Go. -/
structure Response (W : Type) where
  execution : Option (Execution W)
  error : Option RegistryError
  deriving DecidableEq

/-- The call ran the handler and ended EXECUTED. -/
def Response.executes {W : Type} (r : Response W) : Bool :=
  r.error.isNone && r.execution.any fun x => x.state == .executed && !x.replay

structure ReferenceRegistry (W : Type) [Evm W] where
  byMessage : Mapping W (Option (RegistryRecord W))
  byNonce : Mapping (W × Nat) (Option W)
  nextNonce : Mapping W Nat

namespace ReferenceRegistry

def loanActionFields : List Field := [.bytes32, .bytes32, .address, .address, .address, .address, .uint256, .bytes32]

/-- The frozen table of `EncodeTypedActionABI`. -/
def typedActionFields : CrossChainActionType → Option (List Field)
  | .canonicalUftLocked => some [.bytes32, .bytes32, .address, .address, .address, .address, .uint256]
  | .wrappedUftMinted => some loanActionFields
  | .wrappedUftBurned => some [.bytes32, .bytes32, .address, .address, .address, .address, .uint256]
  | .canonicalUftReleased => some [.bytes32, .address, .address, .uint256, .bytes32]
  | .satelliteCollateralLocked => some loanActionFields
  | .homeDisbursementAuthorized => some loanActionFields
  | .satelliteDisbursementSettled => some loanActionFields
  | .satelliteRepaymentBurned =>
    some [.bytes32, .bytes32, .bytes32, .bytes32, .address, .address, .address, .address, .uint256]
  | .homeCollateralReleaseAuthorized => some loanActionFields
  | .satelliteCollateralReleased => some loanActionFields
  | .cancellationRequested =>
    some [.bytes32, .bytes32, .bytes32, .bytes32, .bytes32, .address, .address, .address, .uint256, .bytes32, .bytes32]
  | .sourceCompensated =>
    some [.bytes32, .bytes32, .bytes32, .bytes32, .bytes32, .bytes32, .address, .address, .address, .uint256, .bytes32]
  | .satelliteUftPermanentBurned => some [.bytes32, .bytes32, .address, .address, .address, .uint256]
  | _ => none

def IsReportAction (a : CrossChainActionType) : Bool :=
  a == .wrappedUftMinted || a == .satelliteCollateralLocked || a == .satelliteDisbursementSettled ||
    a == .satelliteCollateralReleased

section

variable {W : Type}

/-- A word of the payload fits its field; amounts are positive. -/
def fits : Field → Datum W → Bool
  | .bytes32, .bytes32 _ => true
  | .address, .address _ => true
  | .uint256, .uint n => 0 < n
  | _, _ => false

/-- The payload is the canonical encoding of the typed action. -/
def isTypedAction (a : CrossChainActionType) (payload : Payload W) : Bool :=
  match typedActionFields a with
  | none => false
  | some fields => fields.length == payload.length && (fields.zip payload).all fun p => fits p.1 p.2

variable [Evm W]

/-- The checks before that of the digest. -/
def wellFormed (e : MessageEnvelope W) (payload : Payload W) : Bool :=
  e.schemaVersion ≠ 0 && e.sourceNonce ≠ 0 && e.actionType ≠ .unspecified && 0 < e.sourceChainId &&
    0 < e.destinationChainId && e.createdAt < e.expiresAt && isTypedAction e.actionType payload &&
    e.payloadHash = payloadHash payload

def validateEnvelope (e : MessageEnvelope W) (payload : Payload W) : Bool :=
  wellFormed e payload && messageId e = e.messageId

def initial : ReferenceRegistry W := ⟨.empty, .empty, .empty⟩

def toExecution (m : W) (current : RegistryRecord W) (replay : Bool) : Execution W :=
  ⟨m, current.state, current.result, replay, current.version⟩

/-- The lane's next nonce; a fresh lane starts at 1. -/
def next (g : ReferenceRegistry W) (lane : W) : Nat := if g.nextNonce lane = 0 then 1 else g.nextNonce lane

def put (g : ReferenceRegistry W) (e : MessageEnvelope W) (current : RegistryRecord W) : ReferenceRegistry W :=
  { g with
    byMessage := g.byMessage.set e.messageId (some current)
    byNonce := g.byNonce.set (e.laneId, e.sourceNonce) (some e.messageId) }

/-- The record an attempt works on: the stored one, or a new one in the given state. A new record also
    claims the nonce; a stored one already did. -/
def current (g : ReferenceRegistry W) (e : MessageEnvelope W) (payload : Payload W) (state : MessageState) :
    RegistryRecord W :=
  (g.byMessage e.messageId).getD ⟨e, payload, state, none, 1⟩

/-- The attempt after the nonce checks: expire, or call the handler and keep what it did. -/
def attempt (now : Nat) (e : MessageEnvelope W) (payload : Payload W) (outcome : Option W)
    (g : ReferenceRegistry W) : ReferenceRegistry W × Response W :=
  if e.expiresAt ≤ now ∧ IsReportAction e.actionType = false then
    let r := g.current e payload .expired
    let r := if (g.byMessage e.messageId).isSome then { r with state := .expired, version := r.version + 1 } else r
    (g.put e r, ⟨some (toExecution e.messageId r false), some .messageExpired⟩)
  else
    let r := g.current e payload .verified
    match outcome with
    | none =>
      let r := { r with state := .failed, version := r.version + 1 }
      (g.put e r, ⟨some (toExecution e.messageId r false), some .handler⟩)
    | some result =>
      let r := { r with state := .executed, result := some result, version := r.version + 1 }
      ({ g.put e r with nextNonce := g.nextNonce.set e.laneId ((g.next e.laneId + 1) % 2 ^ 64) },
        ⟨some (toExecution e.messageId r false), none⟩)

/-- The nonce checks. -/
def order (now : Nat) (e : MessageEnvelope W) (payload : Payload W) (outcome : Option W)
    (g : ReferenceRegistry W) : ReferenceRegistry W × Response W :=
  if ∃ m ∈ g.byNonce (e.laneId, e.sourceNonce), m ≠ e.messageId then (g, ⟨none, some .nonceConflict⟩)
  else if g.next e.laneId < e.sourceNonce then (g, ⟨none, some .outOfOrder⟩)
  else if e.sourceNonce < g.next e.laneId then (g, ⟨none, some .nonceConflict⟩)
  else attempt now e payload outcome g

/-- `Registry.Execute`, with the clock reading and the handler's outcome (`none` is an error). -/
def execute (now : Nat) (e : MessageEnvelope W) (payload : Payload W) (outcome : Option W)
    (g : ReferenceRegistry W) : ReferenceRegistry W × Response W :=
  if wellFormed e payload = false then (g, ⟨none, some .invalidEnvelope⟩)
  else if validateEnvelope e payload = false then (g, ⟨none, some .digestMismatch⟩)
  else match g.byMessage e.messageId with
    | none => order now e payload outcome g
    | some existing =>
      if existing.envelope ≠ e ∨ existing.payload ≠ payload then (g, ⟨none, some .digestMismatch⟩)
      else if existing.state = .executed then (g, ⟨some (toExecution e.messageId existing true), none⟩)
      else if existing.state = .expired then
        (g, ⟨some (toExecution e.messageId existing true), some .messageExpired⟩)
      else order now e payload outcome g

end

end ReferenceRegistry

end Unified.CrossChain
