import Unified.CrossChain.Registry

/-! The message endpoint of one chain: outbound lanes, ordered replay-safe delivery, tombstones and
    acknowledgements. `executeMessage` is split at its external call into `verifyMessage` and `complete`. -/

namespace Unified.CrossChain

structure CoordinatorConfig (W : Type) where
  protocolId : W
  localChainId : Nat
  address : Address

/-- The log entries that finality observers attest. -/
inductive Event (W : Type) where
  | messageSent (envelope : MessageEnvelope W)
  | messageExecuted (envelope : MessageEnvelope W) (resultHash : W)
  | messageTombstoned (envelope : MessageEnvelope W) (recoveryNonce : Nat) (reasonCode : W)
  deriving DecidableEq

structure Coordinator (W : Type) [Evm W] where
  recoveryController : Address
  (nextOutboundNonce nextInboundNonce : Mapping W Nat)
  envelopes : Mapping W (MessageEnvelope W)
  messageStates : Mapping W MessageState
  (executionResult acknowledgementCommitment tombstoneHash inboundMessageAt : Mapping W W)
  entered : Bool
  events : List (Event W)

def MAX_PAYLOAD_BYTES : Nat := 16384

section

variable {W : Type} [Evm W]

def sourceMessageEventHash (e : MessageEnvelope W) : W :=
  keccak256 "UNIFIED_MESSAGE_SENT_V1"
    [.address e.sourceCoordinator, .bytes32 e.messageId, .bytes32 e.laneId, .uint e.sourceNonce,
      .uint e.actionType.ordinal, .bytes32 e.payloadHash]

def acknowledgementEventHash (e : MessageEnvelope W) (resultHash : W) : W :=
  keccak256 "UNIFIED_XCHAIN_EXECUTION_ACKNOWLEDGEMENT_V1"
    [.address e.destinationCoordinator, .bytes32 e.messageId, .bytes32 resultHash]

/-- The hash under which a log entry of the coordinator at `self` is attested. -/
def Event.hash (self : Address) : Event W → W
  | .messageSent e => sourceMessageEventHash e
  | .messageExecuted e r => acknowledgementEventHash e r
  | .messageTombstoned e n reason => tombstoneEventHash self e.messageId (envelopeHash e) n reason

/-- `payload.length` is within bounds; every field takes 32 bytes. -/
def PayloadFits (payload : Payload W) : Prop := payload ≠ [] ∧ 32 * payload.length ≤ MAX_PAYLOAD_BYTES

instance (payload : Payload W) : Decidable (PayloadFits payload) := inferInstanceAs (Decidable (_ ∧ _))

namespace Coordinator

def initial (recoveryController : Address) : Coordinator W where
  recoveryController := recoveryController
  nextOutboundNonce := .empty
  nextInboundNonce := .empty
  envelopes := .empty
  messageStates := .empty
  executionResult := .empty
  acknowledgementCommitment := .empty
  tombstoneHash := .empty
  inboundMessageAt := .empty
  entered := false
  events := []

def validateEnvelopeAndRouteIdentity (cfg : CoordinatorConfig W) (env : Env W) (e : MessageEnvelope W)
    (payload : Payload W) : Except (Revert W) (RouteVersion W) := do
  require (e.schemaVersion = SCHEMA_VERSION ∧ e.protocolId = cfg.protocolId ∧
    e.payloadHash = payloadHash payload ∧ e.createdAt ≤ env.now ∧ e.createdAt < e.expiresAt ∧
    e.routePolicyHash ≠ 0) .invalidMessage
  let route ← env.registry.route e.routePolicyHash
  require (RouteIdentity cfg.protocolId route.config e ∧
    env.registry.isActionAllowed e.routePolicyHash e.actionType = true) (.invalidRoute e.routePolicyHash)
  pure route

def validateRouteAvailability (cfg : CoordinatorConfig W) (env : Env W) (e : MessageEnvelope W)
    (outbound : Bool) : Except (Revert W) Unit :=
  let isExit := isExitAction e.actionType
  let isReport := isReportAction e.actionType
  if outbound then
    require (e.sourceChainId = cfg.localChainId ∧ e.sourceCoordinator = cfg.address ∧
      (isExit = false → env.registry.isAvailableForNewMessage env.now e.routePolicyHash = true) ∧
      (isExit = true → env.registry.isExecutable e.routePolicyHash e.createdAt true = true))
      (.invalidRoute e.routePolicyHash)
  else
    require (e.destinationChainId = cfg.localChainId ∧ e.destinationCoordinator = cfg.address ∧
      env.registry.isExecutable e.routePolicyHash e.createdAt (isExit || isReport) = true)
      (.invalidRoute e.routePolicyHash)

def validateTombstoneEnvelope (cfg : CoordinatorConfig W) (env : Env W) (e : MessageEnvelope W) :
    Except (Revert W) Unit := do
  require (e.schemaVersion = SCHEMA_VERSION ∧ e.protocolId = cfg.protocolId ∧ e.routePolicyHash ≠ 0 ∧
    e.createdAt < e.expiresAt) .invalidMessage
  let route ← env.registry.route e.routePolicyHash
  require (RouteIdentity cfg.protocolId route.config e ∧
    env.registry.isActionAllowed e.routePolicyHash e.actionType = true ∧
    env.registry.isExecutable e.routePolicyHash e.createdAt true = true) (.invalidRoute e.routePolicyHash)

/-- `nonce + 1` in checked 64-bit arithmetic. -/
def expectedNonce (nonce : Nat) : Except (Revert W) Nat := do
  require (nonce + 1 < 2 ^ 64) .arithmetic
  pure (nonce + 1)

def recordSent (c : Coordinator W) (e : MessageEnvelope W) : Coordinator W :=
  { c with
    nextOutboundNonce := c.nextOutboundNonce.set e.laneId e.sourceNonce
    envelopes := c.envelopes.set e.messageId e
    messageStates := c.messageStates.set e.messageId .sent
    events := c.events ++ [.messageSent e] }

def recordVerified (c : Coordinator W) (e : MessageEnvelope W) : Coordinator W :=
  { c with
    entered := true
    inboundMessageAt := c.inboundMessageAt.set (laneNonceKey e.laneId e.sourceNonce) e.messageId
    envelopes := c.envelopes.set e.messageId e
    messageStates := c.messageStates.set e.messageId .verified }

def recordExecuted (c : Coordinator W) (e : MessageEnvelope W) (resultHash : W) : Coordinator W :=
  { c with
    entered := false
    executionResult := c.executionResult.set e.messageId resultHash
    messageStates := c.messageStates.set e.messageId .executed
    nextInboundNonce := c.nextInboundNonce.set e.laneId e.sourceNonce
    events := c.events ++ [.messageExecuted e resultHash] }

def recordTombstoned (cfg : CoordinatorConfig W) (c : Coordinator W) (e : MessageEnvelope W)
    (recoveryNonce : Nat) (reasonCode : W) : Coordinator W :=
  { c with
    inboundMessageAt := c.inboundMessageAt.set (laneNonceKey e.laneId e.sourceNonce) e.messageId
    envelopes := c.envelopes.set e.messageId e
    tombstoneHash := c.tombstoneHash.set e.messageId
      (tombstoneEventHash cfg.address e.messageId (envelopeHash e) recoveryNonce reasonCode)
    messageStates := c.messageStates.set e.messageId .destinationTombstoned
    nextInboundNonce := c.nextInboundNonce.set e.laneId e.sourceNonce
    events := c.events ++ [.messageTombstoned e recoveryNonce reasonCode] }

def recordAcknowledged (c : Coordinator W) (e : MessageEnvelope W) (resultHash : W) : Coordinator W :=
  { c with
    acknowledgementCommitment :=
      c.acknowledgementCommitment.set e.messageId (acknowledgementEventHash e resultHash)
    messageStates := c.messageStates.set e.messageId .acknowledged }

/-! ### Entry points -/

def configureRecoveryController (c : Coordinator W) (controller : Address) (hasCode : Bool) :
    Except (Revert W) (Coordinator W) := do
  require (hasCode = true ∧ c.recoveryController = 0) .invalidCoordinatorConfiguration
  pure { c with recoveryController := controller }

def sendMessage (cfg : CoordinatorConfig W) (env : Env W) (sender : Address) (e : MessageEnvelope W)
    (payload : Payload W) (c : Coordinator W) : Except (Revert W) (Coordinator W) := do
  require (PayloadFits payload) .invalidMessage
  let _ ← validateEnvelopeAndRouteIdentity cfg env e payload
  validateRouteAvailability cfg env e true
  require (env.now < e.expiresAt) (.messageExpired e.messageId)
  require (e.sourceComponent = sender) .invalidMessage
  let expected ← expectedNonce (c.nextOutboundNonce e.laneId)
  require (e.sourceNonce = expected) (.invalidMessageOrder e.laneId expected e.sourceNonce)
  require (e.Sealed ∧ c.messageStates e.messageId = .none) .invalidMessage
  pure (c.recordSent e)

/-- How `executeMessage` goes on once its checks passed: a known result is returned as it is, a new
    message is verified and handed to its destination component. -/
inductive Verification (W : Type) [Evm W] where
  | replayed (resultHash : W)
  | verified (c : Coordinator W)

/-- `executeMessage` up to the call of the destination component. -/
def verifyMessage (cfg : CoordinatorConfig W) (env : Env W) (e : MessageEnvelope W) (payload : Payload W)
    (c : Coordinator W) : Except (Revert W) (Verification W) := do
  require (c.entered = false) .reentrantCall
  require (PayloadFits payload) .invalidMessage
  require e.Sealed .invalidMessage
  let _ ← validateEnvelopeAndRouteIdentity cfg env e payload
  if c.executionResult e.messageId ≠ 0 then
    pure (.replayed (c.executionResult e.messageId))
  else do
    validateRouteAvailability cfg env e false
    require (c.tombstoneHash e.messageId = 0) (.messageAlreadyTombstoned e.messageId)
    require (env.now < e.expiresAt ∨ isReportAction e.actionType = true) (.messageExpired e.messageId)
    let existing := c.inboundMessageAt (laneNonceKey e.laneId e.sourceNonce)
    require (existing = 0 ∨ existing = e.messageId) (.conflictingMessage e.laneId e.sourceNonce)
    let expected ← expectedNonce (c.nextInboundNonce e.laneId)
    require (e.sourceNonce = expected) (.invalidMessageOrder e.laneId expected e.sourceNonce)
    require (env.attested e.sourceChainId e.sourceCoordinator (sourceMessageEventHash e) = true) .invalidFinality
    pure (.verified (c.recordVerified e))

/-- `executeMessage` from the return of the destination component on. -/
def complete (e : MessageEnvelope W) (resultHash : W) (c : Coordinator W) :
    Except (Revert W) (Coordinator W) := do
  require (resultHash ≠ 0) .invalidExecutionResult
  pure (c.recordExecuted e resultHash)

def recordTombstone (cfg : CoordinatorConfig W) (env : Env W) (sender : Address) (e : MessageEnvelope W)
    (recoveryNonce : Nat) (reasonCode : W) (c : Coordinator W) : Except (Revert W) (Coordinator W) := do
  require (sender = c.recoveryController) (.unauthorizedRecoveryController sender)
  require (e.Sealed ∧ reasonCode ≠ 0 ∧ c.executionResult e.messageId = 0 ∧ c.tombstoneHash e.messageId = 0 ∧
    e.destinationChainId = cfg.localChainId ∧ e.destinationCoordinator = cfg.address) .invalidMessage
  validateTombstoneEnvelope cfg env e
  let expected ← expectedNonce (c.nextInboundNonce e.laneId)
  require (e.sourceNonce = expected ∧ c.inboundMessageAt (laneNonceKey e.laneId e.sourceNonce) = 0)
    (.invalidMessageOrder e.laneId expected e.sourceNonce)
  pure (c.recordTombstoned cfg e recoveryNonce reasonCode)

def recordAcknowledgement (cfg : CoordinatorConfig W) (env : Env W) (e : MessageEnvelope W)
    (destinationResultHash : W) (c : Coordinator W) : Except (Revert W) (Coordinator W) := do
  require (e.sourceChainId = cfg.localChainId ∧ e.sourceCoordinator = cfg.address ∧
    destinationResultHash ≠ 0 ∧ e.Sealed) .invalidMessage
  let stored := c.envelopes e.messageId
  require (stored.messageId = e.messageId ∧ envelopeHash stored = envelopeHash e) .invalidMessage
  let commitment := acknowledgementEventHash e destinationResultHash
  let existing := c.acknowledgementCommitment e.messageId
  if existing ≠ 0 then do
    require (existing = commitment) .invalidMessage
    pure c
  else do
    let _ ← env.registry.route e.routePolicyHash
    require (env.attested e.destinationChainId e.destinationCoordinator commitment = true) .invalidFinality
    pure (c.recordAcknowledged e destinationResultHash)

end Coordinator

end

end Unified.CrossChain
