import Unified.CrossChain.CoordinatorSpec

/-! The envelope builder that the source components share, and the sending of what it builds. -/

namespace Unified.CrossChain

structure BuildRequest (W : Type) where
  routePolicyHash : W
  sourceComponent : Address
  aggregateId : W
  actionType : CrossChainActionType
  payloadHash : W
  expiresAt : Nat
  (correlationId causationMessageId supersededMessageId : W)

variable {W : Type} [Evm W]

def BuildRequest.lane (cfg : CoordinatorConfig W) (config : RouteConfig W) (r : BuildRequest W) : W :=
  laneId cfg.protocolId config.sourceChainId r.sourceComponent config.destinationChainId config.destinationComponent
    r.aggregateId config.actionFamily

/-- The envelope of a request on a route at a nonce; `createdAt` is the block time as `uint64`. -/
def BuildRequest.envelope (cfg : CoordinatorConfig W) (config : RouteConfig W) (now nonce : Nat)
    (r : BuildRequest W) : MessageEnvelope W :=
  let unsigned : MessageEnvelope W :=
    { schemaVersion := SCHEMA_VERSION
      messageId := 0
      protocolId := cfg.protocolId
      sourceChainId := config.sourceChainId
      sourceCoordinator := config.sourceCoordinator
      sourceComponent := r.sourceComponent
      destinationChainId := config.destinationChainId
      destinationCoordinator := config.destinationCoordinator
      destinationComponent := config.destinationComponent
      laneId := r.lane cfg config
      sourceNonce := nonce
      aggregateId := r.aggregateId
      actionType := r.actionType
      payloadHash := r.payloadHash
      createdAt := now % 2 ^ 64
      expiresAt := r.expiresAt
      routePolicyHash := r.routePolicyHash
      adapterSetPolicyHash := config.adapterSetPolicyHash
      sourceFinalityPolicyHash := config.sourceFinalityPolicyHash
      destinationFinalityPolicyHash := config.destinationFinalityPolicyHash
      correlationId := r.correlationId
      causationMessageId := r.causationMessageId
      supersededMessageId := r.supersededMessageId }
  { unsigned with messageId := messageId unsigned }

def build (cfg : CoordinatorConfig W) (env : Env W) (r : BuildRequest W) (c : Coordinator W) :
    Except (Revert W) (MessageEnvelope W) := do
  let route ← env.registry.route r.routePolicyHash
  let nonce ← Coordinator.expectedNonce (c.nextOutboundNonce (r.lane cfg route.config))
  pure (r.envelope cfg route.config env.now nonce)

/-- Build an envelope and hand it to the coordinator; the result is the message id. -/
def buildAndSend (cfg : CoordinatorConfig W) (env : Env W) (r : BuildRequest W) (payload : Payload W)
    (c : Coordinator W) : Except (Revert W) (W × Coordinator W) := do
  let e ← build cfg env r c
  let c ← Coordinator.sendMessage cfg env r.sourceComponent e payload c
  pure (e.messageId, c)

def BuildRequest.next (cfg : CoordinatorConfig W) (env : Env W) (r : BuildRequest W) (c : Coordinator W) :
    MessageEnvelope W :=
  let config := (env.registry.routes r.routePolicyHash).config
  r.envelope cfg config env.now (c.nextOutboundNonce (r.lane cfg config) + 1)

theorem buildAndSend_eq_ok {cfg : CoordinatorConfig W} {env : Env W} {r : BuildRequest W} {payload : Payload W}
    {c c' : Coordinator W} {m : W} :
    buildAndSend cfg env r payload c = .ok (m, c') ↔
      Sendable cfg env r.sourceComponent (r.next cfg env c) payload c ∧ m = (r.next cfg env c).messageId ∧
        c' = c.recordSent (r.next cfg env c) := by
  simp only [buildAndSend, build, bind_eq_ok, pure_eq_ok, RouteRegistry.route_eq_ok, Coordinator.expectedNonce_eq_ok,
    Coordinator.sendMessage_eq_ok, Prod.mk.injEq]
  constructor
  · rintro ⟨_, ⟨_, ⟨-, rfl⟩, _, ⟨-, rfl⟩, rfl⟩, _, ⟨hs, rfl⟩, rfl, rfl⟩
    exact ⟨hs, rfl, rfl⟩
  · rintro ⟨hs, rfl, rfl⟩
    exact ⟨_, ⟨_, ⟨hs.valid.known, rfl⟩, _, ⟨hs.bounded, rfl⟩, rfl⟩, _, ⟨hs, rfl⟩, rfl, rfl⟩

end Unified.CrossChain
