import Unified.CrossChain.Deployment
import Unified.CrossChain.Endpoint
import Unified.CrossChain.MessageBuilder

/-! What a call can do to a chain's endpoint: send a message, deliver one through a component that sends
    at most one report, tombstone, acknowledge, and compensate through a component. -/

namespace Unified.CrossChain

open Coordinator

variable {W : Type}

def Env.Agrees [Evm W] (env : Env W) (D : Deployment W) : Prop :=
  ∀ h, (env.registry.routes h).config = D.routes h

/-- A sent message that follows its route. -/
structure Routed [Evm W] (D : Deployment W) (cfg : CoordinatorConfig W) (e : MessageEnvelope W) : Prop where
  schemaVersion : e.schemaVersion = SCHEMA_VERSION
  protocolId : e.protocolId = cfg.protocolId
  window : e.createdAt < e.expiresAt
  hasRoute : e.routePolicyHash ≠ 0
  sourceChainId : e.sourceChainId = cfg.localChainId
  sourceCoordinator : e.sourceCoordinator = cfg.address
  identity : RouteIdentity cfg.protocolId (D.routes e.routePolicyHash) e
  allowed : (D.routes e.routePolicyHash).allows e.actionType = true
  active : isExitAction e.actionType = true → (D.routes e.routePolicyHash).activatedAt ≤ e.createdAt

structure Outgoing [Evm W] (D : Deployment W) (cfg : CoordinatorConfig W) (sender : Address) (route : W)
    (a : CrossChainActionType) (payload : Payload W) (c : Coordinator W) (e : MessageEnvelope W) : Prop extends
    Routed D cfg e where
  selfId : e.Sealed
  fresh : c.messageStates e.messageId = .none
  nonce : e.sourceNonce = c.nextOutboundNonce e.laneId + 1
  sourceComponent : e.sourceComponent = sender
  routePolicyHash : e.routePolicyHash = route
  actionType : e.actionType = a
  payload : e.payloadHash = payloadHash payload

section

variable [Evm W] {D : Deployment W} {cfg : CoordinatorConfig W} {env : Env W} {c c' : Coordinator W}
  {e : MessageEnvelope W} {payload : Payload W} {sender : Address}

theorem Outgoing.sealed {route : W} {a : CrossChainActionType} (out : Outgoing D cfg sender route a payload c e) :
    ∀ e' ∈ some e, e'.Sealed := by
  rintro _ ⟨⟩
  exact out.selfId

theorem Sendable.outgoing (henv : env.Agrees D) (h : Sendable cfg env sender e payload c) :
    Outgoing D cfg sender e.routePolicyHash e.actionType payload c e where
  schemaVersion := h.valid.schemaVersion
  protocolId := h.valid.protocolId
  window := h.valid.window
  hasRoute := h.valid.route
  sourceChainId := h.sourceChainId
  sourceCoordinator := h.sourceCoordinator
  identity := henv e.routePolicyHash ▸ h.valid.identity
  allowed := henv e.routePolicyHash ▸ h.valid.allowed
  active hexit := henv e.routePolicyHash ▸ RouteRegistry.activatedAt_le (h.executable hexit)
  selfId := h.selfId
  fresh := h.fresh
  nonce := h.nonce
  sourceComponent := h.sender
  routePolicyHash := rfl
  actionType := rfl
  payload := h.valid.payload

theorem buildAndSend_outgoing (henv : env.Agrees D) {r : BuildRequest W} {m : W}
    (h : buildAndSend cfg env r payload c = .ok (m, c')) :
    ∃ e, Outgoing D cfg r.sourceComponent r.routePolicyHash r.actionType payload c e ∧ e.aggregateId = r.aggregateId ∧
      m = e.messageId ∧ c' = c.recordSent e := by
  obtain ⟨hs, rfl, rfl⟩ := buildAndSend_eq_ok.mp h
  exact ⟨_, hs.outgoing henv, rfl, rfl, rfl⟩

end

namespace Coordinator

section

variable [Evm W]

def recordSends (c : Coordinator W) : Option (MessageEnvelope W) → Coordinator W
  | none => c
  | some e => c.recordSent e

def delivered (c : Coordinator W) (e : MessageEnvelope W) (report : Option (MessageEnvelope W)) (resultHash : W) :
    Coordinator W :=
  ((c.recordVerified e).recordSends report).recordExecuted e resultHash

variable {c : Coordinator W} {e e' : MessageEnvelope W} {report : Option (MessageEnvelope W)} {resultHash r m : W}

theorem mem_sent_recordSends : .messageSent e' ∈ (c.recordSends report).events ↔
    .messageSent e' ∈ c.events ∨ report = some e' := by
  cases report <;> simp [recordSends, recordSent, eq_comm]

theorem mem_executed_recordSends : .messageExecuted e' r ∈ (c.recordSends report).events ↔
    .messageExecuted e' r ∈ c.events := by
  cases report <;> simp [recordSends, recordSent]

@[simp] theorem recordSends_executionResult : (c.recordSends report).executionResult = c.executionResult := by
  cases report <;> rfl

theorem mem_sent_delivered : .messageSent e' ∈ (c.delivered e report resultHash).events ↔
    .messageSent e' ∈ c.events ∨ report = some e' := by
  simp only [delivered, recordExecuted, List.mem_append, List.mem_singleton, reduceCtorEq, or_false]
  exact mem_sent_recordSends (c := c.recordVerified e)

theorem mem_executed_delivered : .messageExecuted e' r ∈ (c.delivered e report resultHash).events ↔
    .messageExecuted e' r ∈ c.events ∨ (e' = e ∧ r = resultHash) := by
  simp only [delivered, recordExecuted, List.mem_append, List.mem_singleton, Event.messageExecuted.injEq]
  exact or_congr_left (mem_executed_recordSends (c := c.recordVerified e))

theorem delivered_executionResult :
    (c.delivered e report resultHash).executionResult m = if m = e.messageId then resultHash else c.executionResult m := by
  rw [delivered, recordExecuted, Mapping.set_apply, recordSends_executionResult]
  rfl

end

section

variable [CollisionFree W] {cfg : CoordinatorConfig W} {c : Coordinator W} {report : Option (MessageEnvelope W)}
  {pending : Option (MessageEnvelope W)}

theorem Grows.recordSends (c : Coordinator W) (report : Option (MessageEnvelope W)) : Grows c (c.recordSends report) := by
  cases report with
  | none => exact .refl c
  | some e => exact .recordSent c e

theorem Ordered.recordSends (h : Ordered cfg pending c) (hid : ∀ e ∈ report, e.Sealed) :
    Ordered cfg pending (c.recordSends report) := by
  cases report with
  | none => exact h
  | some e => exact h.recordSent (hid e rfl)

end

end Coordinator

namespace Endpoint

section

variable [Evm W]

def delivered (s : Endpoint W) (e : MessageEnvelope W) (report : Option (MessageEnvelope W)) (resultHash : W) :
    Endpoint W :=
  { s with coordinator := s.coordinator.delivered e report resultHash }

def compensated (s : Endpoint W) (e : MessageEnvelope W) (r : RecoveryRequest W) (signerBitmap : Nat) (tombstone : W)
    (sent : Option (MessageEnvelope W)) (resultHash : W) : Endpoint W where
  coordinator := s.coordinator.recordSends sent
  recovery := ((s.recovery.bound r.messageId (recoveryId r)).recordAuthorized e r signerBitmap tombstone).recordCompensated
    (recoveryId r) e.messageId resultHash

def tombstoned (cfg : EndpointConfig W) (s : Endpoint W) (e : MessageEnvelope W) (r : RecoveryRequest W)
    (signerBitmap : Nat) : Endpoint W where
  coordinator := s.coordinator.recordTombstoned cfg.toCoordinatorConfig e r.recoveryNonce r.reasonCode
  recovery := (s.recovery.bound r.messageId (recoveryId r)).recordTombstone e r signerBitmap
    (tombstoneEventHash cfg.address e.messageId (envelopeHash e) r.recoveryNonce r.reasonCode)

/-- Calls in which no component of the deployment takes part: its receivers and senders are those in
    `receives` and `sends`. -/
inductive ForeignStep (D : Deployment W) (cfg : EndpointConfig W) (env : Env W) (receives sends : Address → Prop)
    (s : Endpoint W) : Endpoint W → Prop
  | send {sender : Address} {e : MessageEnvelope W} {payload : Payload W}
      (out : Outgoing D cfg.toCoordinatorConfig sender e.routePolicyHash e.actionType payload s.coordinator e)
      (foreign : ¬ sends sender) :
      ForeignStep D cfg env receives sends s { s with coordinator := s.coordinator.recordSent e }
  | acknowledge {e : MessageEnvelope W} {resultHash : W}
      (ok : Acknowledgeable cfg.toCoordinatorConfig e resultHash s.coordinator)
      (unset : s.coordinator.acknowledgementCommitment e.messageId = 0)
      (attested : env.attested e.destinationChainId e.destinationCoordinator (acknowledgementEventHash e resultHash) = true) :
      ForeignStep D cfg env receives sends s { s with coordinator := s.coordinator.recordAcknowledged e resultHash }
  | tombstone {e : MessageEnvelope W} {r : RecoveryRequest W} {signatures : List Bytes} {signerBitmap : Nat}
      (ok : DestinationRecovery cfg env e r signatures signerBitmap s) :
      ForeignStep D cfg env receives sends s (s.tombstoned cfg e r signerBitmap)
  | deliver {e : MessageEnvelope W} {payload : Payload W} {resultHash : W}
      (ok : Deliverable cfg.toCoordinatorConfig env e payload s.coordinator) (result : resultHash ≠ 0)
      (foreign : ¬ receives e.destinationComponent) :
      ForeignStep D cfg env receives sends s (s.delivered e none resultHash)
  | compensate {e : MessageEnvelope W} {r : RecoveryRequest W} {signatures : List Bytes} {tombstone : W}
      {payload : Payload W} {signerBitmap : Nat} {resultHash : W}
      (ok : SourceRecovery cfg env e r signatures tombstone payload signerBitmap s) (result : resultHash ≠ 0)
      (foreign : ¬ sends e.sourceComponent) :
      ForeignStep D cfg env receives sends s (s.compensated e r signerBitmap tombstone none resultHash)

/-! ### What a step adds to the log -/

def Executed (s : Endpoint W) (e : MessageEnvelope W) (payload : Payload W) : Prop :=
  e.payloadHash = payloadHash payload ∧ ∃ r, .messageExecuted e r ∈ s.coordinator.events

/-- The log grows by at most one sent message, and nothing that happened is taken back. -/
structure Extends (s t : Endpoint W) (sent : Option (MessageEnvelope W)) : Prop where
  sent_iff : ∀ e, .messageSent e ∈ t.coordinator.events ↔ .messageSent e ∈ s.coordinator.events ∨ sent = some e
  executed : ∀ e r, .messageExecuted e r ∈ s.coordinator.events → .messageExecuted e r ∈ t.coordinator.events
  outbound : t.coordinator.nextOutboundNonce = (s.coordinator.recordSends sent).nextOutboundNonce
  compensation : ∀ m, s.recovery.sourceCompensation m ≠ 0 → t.recovery.sourceCompensation m ≠ 0

variable {sent : Option (MessageEnvelope W)} {e : MessageEnvelope W} {s t : Endpoint W} {env : Env W}
  {payload : Payload W}

theorem Extends.of_sent (h : Extends s t sent) (he : .messageSent e ∈ s.coordinator.events) :
    .messageSent e ∈ t.coordinator.events :=
  (h.sent_iff e).mpr (.inl he)

theorem Extends.refl (s : Endpoint W) : Extends s s none := ⟨fun _ => by simp, fun _ _ h => h, rfl, fun _ h => h⟩

theorem Extends.recordSends (s : Endpoint W) (sent : Option (MessageEnvelope W)) :
    Extends s { s with coordinator := s.coordinator.recordSends sent } sent where
  sent_iff _ := mem_sent_recordSends
  executed _ _ h := mem_executed_recordSends.mpr h
  outbound := rfl
  compensation _ h := h

theorem Extends.delivered (s : Endpoint W) (e : MessageEnvelope W) (report : Option (MessageEnvelope W)) (r : W) :
    Extends s (s.delivered e report r) report where
  sent_iff _ := mem_sent_delivered
  executed _ _ h := mem_executed_delivered.mpr (.inl h)
  outbound := by cases report <;> rfl
  compensation _ h := h

theorem mem_executed_self (s : Endpoint W) (e : MessageEnvelope W) (report : Option (MessageEnvelope W)) (r : W) :
    .messageExecuted e r ∈ (s.delivered e report r).coordinator.events :=
  mem_executed_delivered.mpr (.inr ⟨rfl, rfl⟩)

theorem Executed.delivered {cfg : CoordinatorConfig W} (hd : Deliverable cfg env e payload s.coordinator)
    (report : Option (MessageEnvelope W)) (r : W) : (s.delivered e report r).Executed e payload :=
  ⟨hd.valid.payload, r, mem_executed_self s e report r⟩

theorem Executed.extends (h : s.Executed e payload) (hx : Extends s t sent) : t.Executed e payload :=
  ⟨h.1, h.2.imp fun r hr => hx.executed e r hr⟩

theorem compensated_sourceCompensation (s : Endpoint W) (e : MessageEnvelope W) (r : RecoveryRequest W)
    (signerBitmap : Nat) (tombstone : W) (sent : Option (MessageEnvelope W)) (resultHash m : W) :
    (s.compensated e r signerBitmap tombstone sent resultHash).recovery.sourceCompensation m =
      if m = e.messageId then resultHash else s.recovery.sourceCompensation m :=
  Mapping.set_apply ..

theorem Extends.compensated (s : Endpoint W) {r : RecoveryRequest W} {signerBitmap : Nat} {tombstone : W}
    {resultHash : W} (hr : resultHash ≠ 0) :
    Extends s (s.compensated e r signerBitmap tombstone sent resultHash) sent where
  sent_iff _ := mem_sent_recordSends
  executed _ _ h := mem_executed_recordSends.mpr h
  outbound := rfl
  compensation m h := by
    rw [compensated_sourceCompensation]
    split
    · exact hr
    · exact h

theorem ForeignStep.extends {D : Deployment W} {cfg : EndpointConfig W} {receives sends : Address → Prop}
    (h : ForeignStep D cfg env receives sends s t) :
    ∃ sent, Extends s t sent ∧ ∀ e ∈ sent, ¬ sends e.sourceComponent ∧ ∃ payload,
      Outgoing D cfg.toCoordinatorConfig e.sourceComponent e.routePolicyHash e.actionType payload s.coordinator e := by
  cases h with
  | @send _ e payload out foreign =>
    refine ⟨some e, .recordSends s (some e), ?_⟩
    intro _ he
    cases he
    obtain rfl := out.sourceComponent
    exact ⟨foreign, payload, out⟩
  | acknowledge =>
    exact ⟨none, ⟨fun _ => by simp [recordAcknowledged], fun _ _ h => h, rfl, fun _ h => h⟩, by simp⟩
  | tombstone =>
    refine ⟨none, ⟨fun _ => ?_, fun _ _ h => ?_, rfl, fun _ h => h⟩, by simp⟩
    · simp [tombstoned, recordTombstoned]
    · exact List.mem_append_left _ h
  | deliver => exact ⟨none, .delivered .., by simp⟩
  | compensate _ result => exact ⟨none, .compensated s result, by simp⟩

end

variable [CollisionFree W] {D : Deployment W} {cfg : EndpointConfig W} {env : Env W}
  {evidence : Nat → Address → W → Prop} {s t : Endpoint W} {e : MessageEnvelope W} {r : RecoveryRequest W}
  {payload : Payload W} {report : Option (MessageEnvelope W)} {resultHash tombstone : W} {signatures : List Bytes}
  {signerBitmap : Nat} {executing : Option (MessageEnvelope W)}
  {compensating : Option (MessageEnvelope W × RecoveryRequest W)}

theorem Sound.recordSends (h : Sound cfg evidence executing compensating s) (hid : ∀ e ∈ report, e.Sealed) :
    Sound cfg evidence executing compensating { s with coordinator := s.coordinator.recordSends report } := by
  refine h.withCoordinator (h.ordered.recordSends hid) ?_ (fun _ _ => mem_executed_recordSends.mp) h.delivering
  cases report <;> rfl

theorem Keeps.refl (hs : Sound cfg evidence none none s) : Keeps cfg evidence none none s s := ⟨hs, .refl _⟩

theorem Keeps.recordSends (hs : Sound cfg evidence none none s) (hid : ∀ e ∈ report, e.Sealed) :
    Keeps cfg evidence none none s { s with coordinator := s.coordinator.recordSends report } :=
  ⟨hs.recordSends hid, .recordSends _ report⟩

theorem Keeps.delivered (hE : ∀ chain a x, env.attested chain a x = true → evidence chain a x)
    (h : Sound cfg evidence none none s) (hd : Deliverable cfg.toCoordinatorConfig env e payload s.coordinator)
    (hid : ∀ e ∈ report, e.Sealed) (hr : resultHash ≠ 0) :
    Keeps cfg evidence none none s (s.delivered e report resultHash) := by
  have hsent := (h.recordVerified hE hd).recordSends hid
  refine ⟨hsent.recordExecuted hr, ?_⟩
  exact ((Coordinator.Grows.recordVerified h.ordered hd).trans (.recordSends _ report)).trans
    (.recordExecuted hsent.ordered)

theorem Keeps.compensated (hE : ∀ chain a x, env.attested chain a x = true → evidence chain a x)
    (h : Sound cfg evidence none none s)
    (hd : SourceRecovery cfg env e r signatures tombstone payload signerBitmap s) (hid : ∀ e ∈ report, e.Sealed)
    (hr : resultHash ≠ 0) :
    Keeps cfg evidence none none s (s.compensated e r signerBitmap tombstone report resultHash) :=
  ⟨((h.recordAuthorized hE hd).recordSends hid).recordCompensated hr, .recordSends _ report⟩

theorem ForeignStep.keeps {receives sends : Address → Prop}
    (hE : ∀ chain a x, env.attested chain a x = true → evidence chain a x)
    (h : ForeignStep D cfg env receives sends s t) (hs : Sound cfg evidence none none s) :
    Keeps cfg evidence none none s t := by
  cases h with
  | send out => exact .recordSends hs out.sealed
  | acknowledge ok unset attested =>
    refine ⟨⟨hs.ordered.recordAcknowledged, hs.once, ?_, hs.compensated, hs.running, hs.delivered, hs.delivering⟩,
      .recordAcknowledged unset⟩
    intro m
    simp only [recordAcknowledged, Mapping.set_apply]
    split
    next heq => exact fun _ => ⟨_, ok.selfId, heq.symm, _, hE _ _ _ attested⟩
    next => exact hs.acknowledged m
  | tombstone ok =>
    refine ⟨⟨hs.ordered.recordTombstoned ok.tombstonable, (hs.once.bound ok.bindable).recordTombstone, hs.acknowledged,
      hs.compensated, hs.running, fun e r hmem => hs.delivered e r (executed_mem_append (fun _ _ => by simp) e r hmem),
      hs.delivering⟩, .recordTombstoned ok.tombstonable⟩
  | deliver ok result => exact .delivered hE hs ok (fun _ he => by cases he) result
  | compensate ok result => exact .compensated hE hs ok (fun _ he => by cases he) result

end Endpoint

end Unified.CrossChain
