import Unified.CrossChain.Coordinator

/-! What each coordinator entry point checked when it did not revert, and what it wrote. -/

namespace Unified.CrossChain

variable {W : Type} [Evm W]

/-- The checks every new or delivered message passes against its route. -/
structure ValidEnvelope (cfg : CoordinatorConfig W) (env : Env W) (e : MessageEnvelope W) (payload : Payload W) :
    Prop where
  schemaVersion : e.schemaVersion = SCHEMA_VERSION
  protocolId : e.protocolId = cfg.protocolId
  payload : e.payloadHash = payloadHash payload
  created : e.createdAt ≤ env.now
  window : e.createdAt < e.expiresAt
  route : e.routePolicyHash ≠ 0
  known : (env.registry.routes e.routePolicyHash).status ≠ .none
  identity : RouteIdentity cfg.protocolId (env.registry.routes e.routePolicyHash).config e
  allowed : (env.registry.routes e.routePolicyHash).config.allows e.actionType = true

/-- `sendMessage` goes through. -/
structure Sendable (cfg : CoordinatorConfig W) (env : Env W) (sender : Address) (e : MessageEnvelope W)
    (payload : Payload W) (c : Coordinator W) : Prop where
  fits : PayloadFits payload
  valid : ValidEnvelope cfg env e payload
  sourceChainId : e.sourceChainId = cfg.localChainId
  sourceCoordinator : e.sourceCoordinator = cfg.address
  available : isExitAction e.actionType = false →
    env.registry.isAvailableForNewMessage env.now e.routePolicyHash = true
  executable : isExitAction e.actionType = true →
    env.registry.isExecutable e.routePolicyHash e.createdAt true = true
  live : env.now < e.expiresAt
  sender : e.sourceComponent = sender
  bounded : c.nextOutboundNonce e.laneId + 1 < 2 ^ 64
  nonce : e.sourceNonce = c.nextOutboundNonce e.laneId + 1
  selfId : e.Sealed
  fresh : c.messageStates e.messageId = .none

/-- `executeMessage` reaches the call of the destination component. -/
structure Deliverable (cfg : CoordinatorConfig W) (env : Env W) (e : MessageEnvelope W) (payload : Payload W)
    (c : Coordinator W) : Prop where
  idle : c.entered = false
  fits : PayloadFits payload
  selfId : e.Sealed
  valid : ValidEnvelope cfg env e payload
  unexecuted : c.executionResult e.messageId = 0
  destinationChainId : e.destinationChainId = cfg.localChainId
  destinationCoordinator : e.destinationCoordinator = cfg.address
  executable : env.registry.isExecutable e.routePolicyHash e.createdAt
    (isExitAction e.actionType || isReportAction e.actionType) = true
  untombstoned : c.tombstoneHash e.messageId = 0
  live : env.now < e.expiresAt ∨ isReportAction e.actionType = true
  unbound : c.inboundMessageAt (laneNonceKey e.laneId e.sourceNonce) = 0 ∨
    c.inboundMessageAt (laneNonceKey e.laneId e.sourceNonce) = e.messageId
  bounded : c.nextInboundNonce e.laneId + 1 < 2 ^ 64
  nonce : e.sourceNonce = c.nextInboundNonce e.laneId + 1
  attested : env.attested e.sourceChainId e.sourceCoordinator (sourceMessageEventHash e) = true

/-- `recordTombstone` goes through. -/
structure Tombstonable (cfg : CoordinatorConfig W) (env : Env W) (sender : Address) (e : MessageEnvelope W)
    (reasonCode : W) (c : Coordinator W) : Prop where
  sender : sender = c.recoveryController
  selfId : e.Sealed
  reason : reasonCode ≠ 0
  unexecuted : c.executionResult e.messageId = 0
  untombstoned : c.tombstoneHash e.messageId = 0
  destinationChainId : e.destinationChainId = cfg.localChainId
  destinationCoordinator : e.destinationCoordinator = cfg.address
  schemaVersion : e.schemaVersion = SCHEMA_VERSION
  protocolId : e.protocolId = cfg.protocolId
  route : e.routePolicyHash ≠ 0
  window : e.createdAt < e.expiresAt
  known : (env.registry.routes e.routePolicyHash).status ≠ .none
  identity : RouteIdentity cfg.protocolId (env.registry.routes e.routePolicyHash).config e
  allowed : (env.registry.routes e.routePolicyHash).config.allows e.actionType = true
  executable : env.registry.isExecutable e.routePolicyHash e.createdAt true = true
  bounded : c.nextInboundNonce e.laneId + 1 < 2 ^ 64
  nonce : e.sourceNonce = c.nextInboundNonce e.laneId + 1
  unbound : c.inboundMessageAt (laneNonceKey e.laneId e.sourceNonce) = 0

/-- `recordAcknowledgement` passes its checks on the envelope. -/
structure Acknowledgeable (cfg : CoordinatorConfig W) (e : MessageEnvelope W) (resultHash : W)
    (c : Coordinator W) : Prop where
  sourceChainId : e.sourceChainId = cfg.localChainId
  sourceCoordinator : e.sourceCoordinator = cfg.address
  result : resultHash ≠ 0
  selfId : e.Sealed
  stored : (c.envelopes e.messageId).messageId = e.messageId
  same : envelopeHash (c.envelopes e.messageId) = envelopeHash e

namespace Coordinator

variable {cfg : CoordinatorConfig W} {env : Env W} {sender : Address} {e : MessageEnvelope W}
  {payload : Payload W} {c c' : Coordinator W} {resultHash reasonCode : W} {recoveryNonce : Nat}

omit [Evm W] in
theorem expectedNonce_eq_ok {nonce expected : Nat} :
    expectedNonce nonce = (.ok expected : Except (Revert W) Nat) ↔ nonce + 1 < 2 ^ 64 ∧ nonce + 1 = expected := by
  simp only [expectedNonce, block_eq_ok]

theorem validateEnvelopeAndRouteIdentity_eq_ok {v : RouteVersion W} :
    validateEnvelopeAndRouteIdentity cfg env e payload = .ok v ↔
      ValidEnvelope cfg env e payload ∧ env.registry.routes e.routePolicyHash = v := by
  simp only [validateEnvelopeAndRouteIdentity, block_eq_ok, RouteRegistry.route_eq_ok]
  constructor
  · rintro ⟨⟨h1, h2, h3, h4, h5, h6⟩, _, ⟨hk, rfl⟩, ⟨hid, ha⟩, rfl⟩
    exact ⟨⟨h1, h2, h3, h4, h5, h6, hk, hid, by rwa [RouteRegistry.isActionAllowed_eq hk] at ha⟩, rfl⟩
  · rintro ⟨⟨h1, h2, h3, h4, h5, h6, hk, hid, ha⟩, rfl⟩
    exact ⟨⟨h1, h2, h3, h4, h5, h6⟩, _, ⟨hk, rfl⟩, ⟨hid, by rwa [RouteRegistry.isActionAllowed_eq hk]⟩, rfl⟩

theorem sendMessage_eq_ok :
    sendMessage cfg env sender e payload c = .ok c' ↔ Sendable cfg env sender e payload c ∧ c' = c.recordSent e := by
  simp only [sendMessage, block_eq_ok, expectedNonce_eq_ok, validateEnvelopeAndRouteIdentity_eq_ok,
    validateRouteAvailability, if_true]
  constructor
  · rintro ⟨hf, _, ⟨hv, -⟩, ⟨hc, ha, hav, hex⟩, hl, hs, _, ⟨hb, rfl⟩, hn, ⟨hid, hst⟩, rfl⟩
    exact ⟨⟨hf, hv, hc, ha, hav, hex, hl, hs, hb, hn, hid, hst⟩, rfl⟩
  · rintro ⟨⟨hf, hv, hc, ha, hav, hex, hl, hs, hb, hn, hid, hst⟩, rfl⟩
    exact ⟨hf, _, ⟨hv, rfl⟩, ⟨hc, ha, hav, hex⟩, hl, hs, _, ⟨hb, rfl⟩, hn, ⟨hid, hst⟩, rfl⟩

theorem verifyMessage_eq_verified :
    verifyMessage cfg env e payload c = .ok (.verified c') ↔
      Deliverable cfg env e payload c ∧ c' = c.recordVerified e := by
  simp only [verifyMessage, block_eq_ok, validateEnvelopeAndRouteIdentity_eq_ok]
  by_cases hx : c.executionResult e.messageId ≠ 0
  · simp only [if_pos hx, pure_eq_ok, reduceCtorEq, and_false, exists_false, false_iff]
    rintro ⟨hd, -⟩
    exact hx hd.unexecuted
  · simp only [if_neg hx, block_eq_ok, expectedNonce_eq_ok, validateRouteAvailability, Bool.false_eq_true, if_false,
    Verification.verified.injEq]
    constructor
    · rintro ⟨hi, hf, hid, _, ⟨hv, -⟩, ⟨hc, ha, hex⟩, ht, hl, hu, _, ⟨hb, rfl⟩, hn, hat, rfl⟩
      exact ⟨⟨hi, hf, hid, hv, not_not.mp hx, hc, ha, hex, ht, hl, hu, hb, hn, hat⟩, rfl⟩
    · rintro ⟨⟨hi, hf, hid, hv, -, hc, ha, hex, ht, hl, hu, hb, hn, hat⟩, rfl⟩
      exact ⟨hi, hf, hid, _, ⟨hv, rfl⟩, ⟨hc, ha, hex⟩, ht, hl, hu, _, ⟨hb, rfl⟩, hn, hat, rfl⟩

theorem complete_eq_ok :
    complete e resultHash c = .ok c' ↔ resultHash ≠ 0 ∧ c' = c.recordExecuted e resultHash := by
  simp only [complete, block_eq_ok]
  exact and_congr_right fun _ => eq_comm

theorem recordTombstone_eq_ok :
    recordTombstone cfg env sender e recoveryNonce reasonCode c = .ok c' ↔
      Tombstonable cfg env sender e reasonCode c ∧ c' = c.recordTombstoned cfg e recoveryNonce reasonCode := by
  simp only [recordTombstone, validateTombstoneEnvelope, block_eq_ok, expectedNonce_eq_ok, RouteRegistry.route_eq_ok]
  constructor
  · rintro ⟨hs, ⟨hid, hr, hx, ht, hc, ha⟩, ⟨⟨h1, h2, h3, h4⟩, _, ⟨hk, rfl⟩, hri, hal, hex⟩, _, ⟨hb, rfl⟩, ⟨hn, hu⟩, rfl⟩
    exact ⟨⟨hs, hid, hr, hx, ht, hc, ha, h1, h2, h3, h4, hk, hri, by rwa [RouteRegistry.isActionAllowed_eq hk] at hal, hex, hb,
      hn, hu⟩, rfl⟩
  · rintro ⟨⟨hs, hid, hr, hx, ht, hc, ha, h1, h2, h3, h4, hk, hri, hal, hex, hb, hn, hu⟩, rfl⟩
    exact ⟨hs, ⟨hid, hr, hx, ht, hc, ha⟩, ⟨⟨h1, h2, h3, h4⟩, _, ⟨hk, rfl⟩, hri, by rwa [RouteRegistry.isActionAllowed_eq hk], hex⟩,
      _, ⟨hb, rfl⟩, ⟨hn, hu⟩, rfl⟩

theorem recordAcknowledgement_inv (h : recordAcknowledgement cfg env e resultHash c = .ok c') :
    Acknowledgeable cfg e resultHash c ∧
      (c' = c ∨ (c.acknowledgementCommitment e.messageId = 0 ∧
        env.attested e.destinationChainId e.destinationCoordinator (acknowledgementEventHash e resultHash) = true ∧
        c' = c.recordAcknowledged e resultHash)) := by
  simp only [recordAcknowledgement, block_eq_ok] at h
  obtain ⟨⟨hc, ha, hr, hid⟩, ⟨hst, hsame⟩, h⟩ := h
  refine ⟨⟨hc, ha, hr, hid, hst, hsame⟩, ?_⟩
  split at h
  next hne =>
    simp only [block_eq_ok] at h
    exact .inl h.2.symm
  next hzero =>
    simp only [block_eq_ok] at h
    obtain ⟨_, -, hat, rfl⟩ := h
    exact .inr ⟨not_not.mp hzero, hat, rfl⟩

end Coordinator

end Unified.CrossChain
