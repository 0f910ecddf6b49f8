import Unified.CrossChain.Messaging

/-! One chain's endpoint along arbitrary calls: the destination invariant, one compensation per
    message, and the evidence behind every acknowledgement and compensation. -/

namespace Unified.CrossChain

variable {W : Type}

namespace RecoveryController

/-- The controller's invariant. `pending` is the message and the request whose source component is
    running, if there is one. -/
structure Once [Evm W] (pending : Option (MessageEnvelope W × RecoveryRequest W)) (rc : RecoveryController W) :
    Prop where
  entered : rc.entered = pending.isSome
  counted : ∀ m, rc.compensated.count m = if rc.sourceCompensation m = 0 then 0 else 1
  recorded : ∀ m, rc.sourceCompensation m ≠ 0 → ∃ r : RecoveryRequest W, r.messageId = m ∧
    rc.recoveryForMessage m = recoveryId r ∧ (rc.recoveryRecords (recoveryId r)).compensationResult ≠ 0
  running : ∀ e r, pending = some (e, r) → r.messageId = e.messageId ∧
    rc.recoveryForMessage e.messageId = recoveryId r ∧ (rc.recoveryRecords (recoveryId r)).compensationResult = 0

theorem Once.initial [Evm W] : Once none (initial : RecoveryController W) where
  entered := rfl
  counted _ := (if_pos rfl).symm
  recorded _ h := absurd rfl h
  running _ _ h := by cases h

variable [CollisionFree W] {cfg : EndpointConfig W} {env : Env W} {e : MessageEnvelope W} {r : RecoveryRequest W}
  {signatures : List Bytes} {signerBitmap : Nat} {tombstone id m : W}
  {pending : Option (MessageEnvelope W × RecoveryRequest W)} {rc : RecoveryController W}

theorem recoveryId_ne_zero (r : RecoveryRequest W) : recoveryId r ≠ 0 := CollisionFree.keccak256_ne_zero _ _

/-- Binding a message that is unbound, or bound to the same id, changes no existing binding. -/
theorem bound_recoveryForMessage (h : Bindable rc m id) {m' : W} (hm' : rc.recoveryForMessage m' ≠ 0) :
    (rc.bound m id).recoveryForMessage m' = rc.recoveryForMessage m' := by
  simp only [bound, Mapping.set_apply]
  split
  next heq =>
    subst heq
    exact (h.resolve_left hm').symm
  next => rfl

theorem Once.bound (h : Once pending rc) (hb : Bindable rc m id) : Once pending (rc.bound m id) where
  entered := h.entered
  counted := h.counted
  recorded m' hm' := by
    obtain ⟨r, hr, hid, hres⟩ := h.recorded m' hm'
    refine ⟨r, hr, ?_, hres⟩
    rw [bound_recoveryForMessage hb (hid ▸ recoveryId_ne_zero r), hid]
  running e' r' hp := by
    obtain ⟨hm, hid, hres⟩ := h.running e' r' hp
    refine ⟨hm, ?_, hres⟩
    rw [bound_recoveryForMessage hb (hid ▸ recoveryId_ne_zero r'), hid]

theorem Once.recordTombstone (h : Once pending rc) : Once pending (rc.recordTombstone e r signerBitmap tombstone) where
  entered := h.entered
  counted := h.counted
  recorded m hm := by
    obtain ⟨r', hr', hid, hres⟩ := h.recorded m hm
    refine ⟨r', hr', hid, ?_⟩
    rw [RecoveryController.recordTombstone, Mapping.modify_kept RecoveryRecord.compensationResult]
    exacts [hres, fun _ => rfl]
  running e' r' hp := by
    obtain ⟨hm, hid, hres⟩ := h.running e' r' hp
    refine ⟨hm, hid, ?_⟩
    rw [RecoveryController.recordTombstone, Mapping.modify_kept RecoveryRecord.compensationResult]
    exacts [hres, fun _ => rfl]

theorem Once.recordAuthorized (h : Once none rc) (hm : r.messageId = e.messageId)
    (hb : rc.recoveryForMessage e.messageId = recoveryId r)
    (hres : (rc.recoveryRecords (recoveryId r)).compensationResult = 0) :
    Once (some (e, r)) (rc.recordAuthorized e r signerBitmap tombstone) where
  entered := rfl
  counted := h.counted
  recorded m hm := by
    obtain ⟨r', hr', hid, hres'⟩ := h.recorded m hm
    refine ⟨r', hr', hid, ?_⟩
    rw [RecoveryController.recordAuthorized, Mapping.modify_kept RecoveryRecord.compensationResult]
    exacts [hres', fun _ => rfl]
  running e' r' hp := by
    cases hp
    refine ⟨hm, hb, ?_⟩
    rw [RecoveryController.recordAuthorized, Mapping.modify_kept RecoveryRecord.compensationResult]
    exacts [hres, fun _ => rfl]

/-- The message whose component is running was never compensated. -/
theorem Once.uncompensated (h : Once (some (e, r)) rc) : rc.sourceCompensation e.messageId = 0 := by
  obtain ⟨-, hid, hres⟩ := h.running e r rfl
  by_contra hne
  obtain ⟨r', -, hid', hres'⟩ := h.recorded e.messageId hne
  rw [hid] at hid'
  rw [← hid'] at hres'
  exact hres' hres

theorem Once.recordCompensated (h : Once (some (e, r)) rc) {resultHash : W} (hr : resultHash ≠ 0) :
    Once none (rc.recordCompensated (recoveryId r) e.messageId resultHash) where
  entered := rfl
  counted m := by
    simp only [RecoveryController.recordCompensated, List.count_append, h.counted, Mapping.set_apply]
    by_cases heq : m = e.messageId
    · simp [heq, h.uncompensated, hr]
    · simp [heq, Ne.symm heq]
  recorded m := by
    obtain ⟨hm, hid, -⟩ := h.running e r rfl
    simp only [RecoveryController.recordCompensated, Mapping.set_apply, Mapping.modify_apply]
    by_cases heq : m = e.messageId
    · subst heq
      rw [if_pos rfl]
      intro _
      refine ⟨r, hm, hid, ?_⟩
      rw [if_pos rfl]
      exact hr
    · rw [if_neg heq]
      intro hne
      obtain ⟨r', hm', hid', hres'⟩ := h.recorded m hne
      refine ⟨r', hm', hid', ?_⟩
      split
      · exact hr
      · exact hres'
  running _ _ hp := by cases hp

end RecoveryController

namespace Endpoint

def TombstoneEvidence [Evm W] (evidence : Nat → Address → W → Prop) (e : MessageEnvelope W) : Prop :=
  ∃ recoveryNonce reasonCode, evidence e.destinationChainId e.destinationCoordinator
    (tombstoneEventHash e.destinationCoordinator e.messageId (envelopeHash e) recoveryNonce reasonCode)

def ExecutionEvidence [Evm W] (evidence : Nat → Address → W → Prop) (e : MessageEnvelope W) : Prop :=
  ∃ resultHash, evidence e.destinationChainId e.destinationCoordinator (acknowledgementEventHash e resultHash)

def DeliveryEvidence [Evm W] (cfg : CoordinatorConfig W) (evidence : Nat → Address → W → Prop)
    (e : MessageEnvelope W) : Prop :=
  e.destinationChainId = cfg.localChainId ∧ e.destinationCoordinator = cfg.address ∧
    evidence e.sourceChainId e.sourceCoordinator (sourceMessageEventHash e)

/-- The invariant of an endpoint whose certificates are only accepted for events in `evidence`, while
    the destination component of `executing` and the source component of `compensating` are running. -/
structure Sound [Evm W] (cfg : EndpointConfig W) (evidence : Nat → Address → W → Prop)
    (executing : Option (MessageEnvelope W)) (compensating : Option (MessageEnvelope W × RecoveryRequest W))
    (s : Endpoint W) : Prop where
  ordered : s.coordinator.Ordered cfg.toCoordinatorConfig executing
  once : s.recovery.Once compensating
  acknowledged : ∀ m, s.coordinator.acknowledgementCommitment m ≠ 0 → ∃ e : MessageEnvelope W, e.Sealed ∧
    e.messageId = m ∧ ExecutionEvidence evidence e
  compensated : ∀ m, m ≠ 0 → s.recovery.sourceCompensation m ≠ 0 → ∃ e : MessageEnvelope W, e.Sealed ∧
    e.messageId = m ∧ TombstoneEvidence evidence e
  running : ∀ e r, compensating = some (e, r) → e.messageId ≠ 0 → e.Sealed ∧ TombstoneEvidence evidence e
  delivered : ∀ e r, .messageExecuted e r ∈ s.coordinator.events →
    DeliveryEvidence cfg.toCoordinatorConfig evidence e
  delivering : ∀ e, executing = some e → DeliveryEvidence cfg.toCoordinatorConfig evidence e

theorem Sound.initial [Evm W] (cfg : EndpointConfig W) (evidence : Nat → Address → W → Prop)
    (recoveryController : Address) : Sound cfg evidence none none (initial recoveryController) where
  ordered := .initial _ _
  once := .initial
  acknowledged _ h := absurd rfl h
  compensated _ _ h := absurd rfl h
  running _ _ h := by cases h
  delivered _ _ h := by cases h
  delivering _ h := by cases h

theorem Sound.mono [Evm W] {cfg : EndpointConfig W} {evidence evidence' : Nat → Address → W → Prop}
    {executing : Option (MessageEnvelope W)} {compensating : Option (MessageEnvelope W × RecoveryRequest W)}
    {s : Endpoint W} (h : Sound cfg evidence executing compensating s)
    (hsub : ∀ chain a x, evidence chain a x → evidence' chain a x) : Sound cfg evidence' executing compensating s where
  ordered := h.ordered
  once := h.once
  acknowledged m hm := by
    obtain ⟨e, hid, hem, r, hev⟩ := h.acknowledged m hm
    exact ⟨e, hid, hem, r, hsub _ _ _ hev⟩
  compensated m hm hc := by
    obtain ⟨e, hid, hem, n, reason, hev⟩ := h.compensated m hm hc
    exact ⟨e, hid, hem, n, reason, hsub _ _ _ hev⟩
  running e r hp hm := by
    obtain ⟨hid, n, reason, hev⟩ := h.running e r hp hm
    exact ⟨hid, n, reason, hsub _ _ _ hev⟩
  delivered e r hmem := by
    obtain ⟨hc, ha, hev⟩ := h.delivered e r hmem
    exact ⟨hc, ha, hsub _ _ _ hev⟩
  delivering e hp := by
    obtain ⟨hc, ha, hev⟩ := h.delivering e hp
    exact ⟨hc, ha, hsub _ _ _ hev⟩

variable [CollisionFree W] {cfg : EndpointConfig W} {env : Env W} {evidence : Nat → Address → W → Prop}
  {executing : Option (MessageEnvelope W)} {compensating : Option (MessageEnvelope W × RecoveryRequest W)}
  {s t : Endpoint W} {e : MessageEnvelope W} {r : RecoveryRequest W} {payload : Payload W}

/-- The invariant across a call: kept, and nothing it fixed is taken back. -/
def Keeps (cfg : EndpointConfig W) (evidence : Nat → Address → W → Prop) (executing : Option (MessageEnvelope W))
    (compensating : Option (MessageEnvelope W × RecoveryRequest W)) (s t : Endpoint W) : Prop :=
  Sound cfg evidence executing compensating t ∧ s.coordinator.Grows t.coordinator

variable {c : Coordinator W} {signatures : List Bytes} {outcome : Option W} {sender : Address}
  {resultHash tombstone : W} {rc : RecoveryController W} {nested : Endpoint W → Endpoint W}

/-- A coordinator step that leaves the acknowledgements and the execution log alone. -/
theorem Sound.withCoordinator (h : Sound cfg evidence executing compensating s)
    {executing' : Option (MessageEnvelope W)} (ho : c.Ordered cfg.toCoordinatorConfig executing')
    (hack : c.acknowledgementCommitment = s.coordinator.acknowledgementCommitment)
    (hlog : ∀ e r, .messageExecuted e r ∈ c.events → .messageExecuted e r ∈ s.coordinator.events)
    (hexe : ∀ e, executing' = some e → DeliveryEvidence cfg.toCoordinatorConfig evidence e) :
    Sound cfg evidence executing' compensating { s with coordinator := c } where
  ordered := ho
  once := h.once
  acknowledged m hm := h.acknowledged m (by rwa [← hack])
  compensated := h.compensated
  running := h.running
  delivered e r hmem := h.delivered e r (hlog e r hmem)
  delivering := hexe

omit [CollisionFree W] in
/-- The executions in a log that grew by another event. -/
theorem executed_mem_append {evs : List (Event W)} {ev : Event W} (hev : ∀ e r, ev ≠ .messageExecuted e r)
    (e : MessageEnvelope W) (r : W) (h : .messageExecuted e r ∈ evs ++ [ev]) : .messageExecuted e r ∈ evs := by
  rcases List.mem_append.mp h with hold | hnew
  · exact hold
  · exact absurd (List.mem_singleton.mp hnew).symm (hev e r)

theorem onCoordinator_eq_ok {f : Coordinator W → Except (Revert W) (Coordinator W)} :
    s.onCoordinator f = .ok t ↔ ∃ c, f s.coordinator = .ok c ∧ { s with coordinator := c } = t := by
  simp only [onCoordinator, bind_eq_ok, pure_eq_ok]

theorem onRecovery_eq_ok {f : RecoveryController W → Except (Revert W) (RecoveryController W)} :
    s.onRecovery f = .ok t ↔ ∃ rc, f s.recovery = .ok rc ∧ { s with recovery := rc } = t := by
  simp only [onRecovery, bind_eq_ok, pure_eq_ok]

theorem finishExecution_inv (h : finishExecution e outcome s = .ok t) :
    ∃ resultHash, outcome = some resultHash ∧ resultHash ≠ 0 ∧
      t = { s with coordinator := s.coordinator.recordExecuted e resultHash } := by
  simp only [finishExecution, bind_eq_ok, orRevert_eq_ok, onCoordinator_eq_ok, Coordinator.complete_eq_ok] at h
  obtain ⟨resultHash, ho, _, ⟨hr, rfl⟩, rfl⟩ := h
  exact ⟨resultHash, ho, hr, rfl⟩

/-! ### Calls without a component -/

theorem Sound.configureRecoveryController (h : Sound cfg evidence executing compensating s) {controller : Address}
    {hasCode : Bool} (hc : s.coordinator.configureRecoveryController controller hasCode = .ok c) :
    Keeps cfg evidence executing compensating s { s with coordinator := c } := by
  simp only [Coordinator.configureRecoveryController, block_eq_ok] at hc
  obtain ⟨-, rfl⟩ := hc
  have o := h.ordered
  refine ⟨h.withCoordinator ⟨o.entered, o.bound, o.named, o.above, o.terminal, o.exclusive, o.delivered, o.running,
    o.executedOnce, o.executedLog, o.tombstonedLog, o.sentLog, o.stored⟩ rfl (fun _ _ hmem => hmem) h.delivering, ?_⟩
  exact { Coordinator.Grows.refl s.coordinator with }

theorem Sound.recordAcknowledgement (hE : ∀ chain a x, env.attested chain a x = true → evidence chain a x)
    (h : Sound cfg evidence executing compensating s)
    (hc : Coordinator.recordAcknowledgement cfg.toCoordinatorConfig env e resultHash s.coordinator = .ok c) :
    Keeps cfg evidence executing compensating s { s with coordinator := c } := by
  obtain ⟨hd, rfl | ⟨hzero, hat, rfl⟩⟩ := Coordinator.recordAcknowledgement_inv hc
  · exact ⟨h, .refl _⟩
  · refine ⟨⟨h.ordered.recordAcknowledged, h.once, ?_, h.compensated, h.running, h.delivered, h.delivering⟩,
      .recordAcknowledged hzero⟩
    intro m
    simp only [Coordinator.recordAcknowledged, Mapping.set_apply]
    split
    next heq => exact fun _ => ⟨e, hd.selfId, heq.symm, resultHash, hE _ _ _ hat⟩
    next => exact h.acknowledged m

theorem Sound.recordDestinationTombstone (h : Sound cfg evidence executing compensating s)
    (hc : s.recordDestinationTombstone cfg env e r signatures = .ok t) :
    Keeps cfg evidence executing compensating s t := by
  rcases recordDestinationTombstone_inv hc with rfl | ⟨signerBitmap, hd, rfl⟩
  · exact ⟨h, .refl _⟩
  · refine ⟨⟨h.ordered.recordTombstoned hd.tombstonable, (h.once.bound hd.bindable).recordTombstone, h.acknowledged,
      h.compensated, h.running, fun e r hmem => h.delivered e r (executed_mem_append (fun _ _ => by simp) e r hmem),
      h.delivering⟩, .recordTombstoned hd.tombstonable⟩

theorem Sound.consumeLoanCancellationAuthorization (h : Sound cfg evidence executing compensating s)
    {request : LoanCancellationAuthorization W}
    (hc : RecoveryController.consumeLoanCancellationAuthorization cfg env sender request signatures s.recovery = .ok rc) :
    Keeps cfg evidence executing compensating s { s with recovery := rc } := by
  obtain ⟨-, -, ⟨rfl, -⟩ | ⟨-, bitmap, rfl⟩⟩ := RecoveryController.consumeLoanCancellationAuthorization_inv hc
  · exact ⟨h, .refl _⟩
  · exact ⟨{ h with once := ⟨h.once.entered, h.once.counted, h.once.recorded, h.once.running⟩ }, .refl _⟩

/-! ### Calls through a component -/

/-- The message of a delivery is bound before its component runs. -/
theorem Sound.recordVerified (hE : ∀ chain a x, env.attested chain a x = true → evidence chain a x)
    (h : Sound cfg evidence none compensating s)
    (hd : Deliverable cfg.toCoordinatorConfig env e payload s.coordinator) :
    Sound cfg evidence (some e) compensating { s with coordinator := s.coordinator.recordVerified e } := by
  refine h.withCoordinator (h.ordered.recordVerified hd) rfl (fun _ _ hmem => hmem) ?_
  intro e' he'
  cases he'
  exact ⟨hd.destinationChainId, hd.destinationCoordinator, hE _ _ _ hd.attested⟩

theorem Sound.recordExecuted (h : Sound cfg evidence (some e) compensating s) (hr : resultHash ≠ 0) :
    Sound cfg evidence none compensating { s with coordinator := s.coordinator.recordExecuted e resultHash } where
  ordered := h.ordered.recordExecuted hr
  once := h.once
  acknowledged := h.acknowledged
  compensated := h.compensated
  running := h.running
  delivered e' r' hmem := by
    rcases List.mem_append.mp hmem with hold | hnew
    · exact h.delivered e' r' hold
    · cases List.mem_singleton.mp hnew
      exact h.delivering e rfl
  delivering _ hp := by cases hp

/-- The guard was free, so no component was running. -/
theorem Sound.idle (h : Sound cfg evidence executing compensating s) (hidle : s.coordinator.entered = false) :
    executing = none := by
  have := h.ordered.entered
  rw [hidle] at this
  exact Option.isNone_iff_eq_none.mp (by simpa using this.symm)

/-- `executeMessage` around a component whose own calls keep the invariant. -/
theorem Sound.executeMessage (hE : ∀ chain a x, env.attested chain a x = true → evidence chain a x)
    (h : Sound cfg evidence executing compensating s)
    (hn : ∀ {u}, Sound cfg evidence (some e) compensating u → Keeps cfg evidence (some e) compensating u (nested u))
    (hc : Coordinator.verifyMessage cfg.toCoordinatorConfig env e payload s.coordinator = .ok (.verified c))
    (hf : finishExecution e outcome (nested { s with coordinator := c }) = .ok t) :
    Keeps cfg evidence executing compensating s t := by
  obtain ⟨hd, rfl⟩ := Coordinator.verifyMessage_eq_verified.mp hc
  obtain ⟨resultHash, -, hr, rfl⟩ := finishExecution_inv hf
  obtain rfl := h.idle hd.idle
  obtain ⟨hs, hg⟩ := hn (h.recordVerified hE hd)
  refine ⟨hs.recordExecuted hr, ?_⟩
  exact ((Coordinator.Grows.recordVerified h.ordered hd).trans hg).trans (.recordExecuted hs.ordered)

/-- The writes of an authorised compensation before its component runs. -/
theorem Sound.recordAuthorized (hE : ∀ chain a x, env.attested chain a x = true → evidence chain a x)
    (h : Sound cfg evidence executing none s) {signerBitmap : Nat}
    (hd : SourceRecovery cfg env e r signatures tombstone payload signerBitmap s) :
    Sound cfg evidence executing (some (e, r))
      { s with recovery := (s.recovery.bound r.messageId (recoveryId r)).recordAuthorized e r signerBitmap tombstone } := by
  have hbound : (s.recovery.bound r.messageId (recoveryId r)).recoveryForMessage e.messageId = recoveryId r := by
    rw [← hd.request.messageId]
    exact Mapping.set_self ..
  have heq : s.coordinator.envelopes e.messageId = e := by
    have := hd.same
    rw [hd.request.envelopeHash] at this
    exact envelopeHash_inj this
  refine ⟨h.ordered, (h.once.bound hd.bindable).recordAuthorized hd.request.messageId hbound hd.uncompensated,
    h.acknowledged, h.compensated, ?_, h.delivered, h.delivering⟩
  intro e' r' hp hm
  cases hp
  refine ⟨heq ▸ h.ordered.stored e.messageId hm hd.stored, r.recoveryNonce, r.reasonCode, ?_⟩
  have := hE _ _ _ hd.attested
  rwa [hd.tombstoneHash, hd.request.envelopeHash] at this

theorem Sound.recordCompensated (h : Sound cfg evidence executing (some (e, r)) s) (hr : resultHash ≠ 0) :
    Sound cfg evidence executing none
      { s with recovery := s.recovery.recordCompensated (recoveryId r) e.messageId resultHash } where
  ordered := h.ordered
  once := h.once.recordCompensated hr
  acknowledged := h.acknowledged
  compensated m hm := by
    simp only [RecoveryController.recordCompensated, Mapping.set_apply]
    split
    next heq =>
      subst heq
      obtain ⟨hid, hev⟩ := h.running e r rfl hm
      exact fun _ => ⟨e, hid, rfl, hev⟩
    next => exact h.compensated m hm
  running _ _ hp := by cases hp
  delivered := h.delivered
  delivering := h.delivering

/-- `compensateSource` around a component whose own calls keep the invariant. -/
theorem Sound.compensateSource (hE : ∀ chain a x, env.attested chain a x = true → evidence chain a x)
    (h : Sound cfg evidence executing compensating s)
    (hn : ∀ {u}, Sound cfg evidence executing (some (e, r)) u → Keeps cfg evidence executing (some (e, r)) u (nested u))
    (hc : authorizeCompensation cfg env e r signatures tombstone payload s = .ok (.authorized rc))
    (hf : finishCompensation e r outcome (nested { s with recovery := rc }) = .ok t) :
    Keeps cfg evidence executing compensating s t := by
  obtain ⟨signerBitmap, hd, rfl⟩ := authorizeCompensation_inv hc
  simp only [finishCompensation, bind_eq_ok, orRevert_eq_ok, onRecovery_eq_ok, completeCompensation_eq_ok] at hf
  obtain ⟨resultHash, -, _, ⟨hr, rfl⟩, rfl⟩ := hf
  obtain rfl : compensating = none := by
    have := h.once.entered
    rw [hd.idle] at this
    exact Option.isNone_iff_eq_none.mp (by simpa using this.symm)
  obtain ⟨hs, hg⟩ := hn (h.recordAuthorized hE hd)
  exact ⟨hs.recordCompensated hr, hg⟩

mutual

theorem exec_keeps (hE : ∀ chain a x, env.attested chain a x = true → evidence chain a x) (call : Call W)
    {executing : Option (MessageEnvelope W)} {compensating : Option (MessageEnvelope W × RecoveryRequest W)}
    {s t : Endpoint W} (h : exec cfg env call s = .ok t) (hs : Sound cfg evidence executing compensating s) :
    Keeps cfg evidence executing compensating s t := by
  cases call with
  | configureRecoveryController =>
    rw [exec, onCoordinator_eq_ok] at h
    obtain ⟨c, hc, rfl⟩ := h
    exact hs.configureRecoveryController hc
  | sendMessage =>
    rw [exec, onCoordinator_eq_ok] at h
    obtain ⟨c, hc, rfl⟩ := h
    obtain ⟨hd, rfl⟩ := Coordinator.sendMessage_eq_ok.mp hc
    exact ⟨hs.withCoordinator (hs.ordered.recordSent hd.selfId) rfl (executed_mem_append fun _ _ => by simp)
      hs.delivering, .recordSent _ _⟩
  | executeMessage _ _ nested =>
    rw [exec] at h
    split at h
    · cases h
    · cases h
      exact ⟨hs, .refl _⟩
    next c hc => exact hs.executeMessage hE (fun hu => execNested_keeps hE nested hu) hc h
  | recordTombstone =>
    rw [exec, onCoordinator_eq_ok] at h
    obtain ⟨c, hc, rfl⟩ := h
    obtain ⟨hd, rfl⟩ := Coordinator.recordTombstone_eq_ok.mp hc
    exact ⟨hs.withCoordinator (hs.ordered.recordTombstoned hd) rfl (executed_mem_append fun _ _ => by simp)
      hs.delivering, .recordTombstoned hd⟩
  | recordAcknowledgement =>
    rw [exec, onCoordinator_eq_ok] at h
    obtain ⟨c, hc, rfl⟩ := h
    exact hs.recordAcknowledgement hE hc
  | recordDestinationTombstone =>
    rw [exec] at h
    exact hs.recordDestinationTombstone h
  | compensateSource _ _ _ _ _ nested =>
    rw [exec] at h
    split at h
    · cases h
    · cases h
      exact ⟨hs, .refl _⟩
    next rc hc => exact hs.compensateSource hE (fun hu => execNested_keeps hE nested hu) hc h
  | consumeLoanCancellationAuthorization =>
    rw [exec, onRecovery_eq_ok] at h
    obtain ⟨rc, hc, rfl⟩ := h
    exact hs.consumeLoanCancellationAuthorization hc

theorem execNested_keeps (hE : ∀ chain a x, env.attested chain a x = true → evidence chain a x)
    (calls : List (Call W)) {executing : Option (MessageEnvelope W)}
    {compensating : Option (MessageEnvelope W × RecoveryRequest W)} {s : Endpoint W}
    (hs : Sound cfg evidence executing compensating s) :
    Keeps cfg evidence executing compensating s (execNested cfg env calls s) := by
  cases calls with
  | nil =>
    rw [execNested]
    exact ⟨hs, .refl _⟩
  | cons call rest =>
    rw [execNested]
    split
    next t ht =>
      obtain ⟨hst, hgt⟩ := exec_keeps hE call ht hs
      obtain ⟨hsu, hgu⟩ := execNested_keeps hE rest hst
      exact ⟨hsu, hgt.trans hgu⟩
    next => exact execNested_keeps hE rest hs

end

end Endpoint

end Unified.CrossChain
