import Unified.CrossChain.Recovery
import Unified.CrossChain.CoordinatorSpec

/-! What each recovery entry point checked when it did not revert, and what it wrote. -/

namespace Unified.CrossChain

variable {W : Type} [Evm W]

/-- The request restates the envelope under the configured signer set. -/
structure RequestFor (cfg : EndpointConfig W) (e : MessageEnvelope W) (r : RecoveryRequest W) : Prop where
  messageId : r.messageId = e.messageId
  envelopeHash : r.envelopeHash = envelopeHash e
  routePolicyHash : r.routePolicyHash = e.routePolicyHash
  assetAmountCommitment : r.assetAmountCommitment = assetAmountCommitment e
  sourceState : r.sourceStateCommitment ≠ 0
  destinationState : r.destinationStateCommitment ≠ 0
  compensationPayload : r.compensationPayloadHash ≠ 0
  messageExpiresAt : r.messageExpiresAt = e.expiresAt
  recoveryNonce : r.recoveryNonce ≠ 0
  reasonCode : r.reasonCode ≠ 0
  action : r.action = .tombstoneThenCompensate
  authorizerSetHash : r.authorizerSetHash = authorizerSetHash cfg.recoverySigners
  authorizerSetVersion : r.authorizerSetVersion = AUTHORIZER_SET_VERSION

/-- The message is not recovered under another id. -/
def Bindable (rc : RecoveryController W) (messageId recoveryId : W) : Prop :=
  rc.recoveryForMessage messageId = 0 ∨ rc.recoveryForMessage messageId = recoveryId

/-- `recordDestinationTombstone` records a new tombstone. -/
structure DestinationRecovery (cfg : EndpointConfig W) (env : Env W) (e : MessageEnvelope W) (r : RecoveryRequest W)
    (signatures : List Bytes) (signerBitmap : Nat) (s : Endpoint W) : Prop where
  request : RequestFor cfg e r
  unrecorded : (s.recovery.recoveryRecords (recoveryId r)).requestDigest = 0
  bindable : Bindable s.recovery r.messageId (recoveryId r)
  expired : e.expiresAt ≤ env.now
  recoveryNonce : r.recoveryNonce = s.recovery.nextRecoveryNonce e.laneId + 1
  signed : authorizationBitmap cfg.recoverySigners (recoveryAuthorizationDigest e r) signatures = .ok signerBitmap
  tombstonable : Tombstonable cfg.toCoordinatorConfig env cfg.recoveryController e r.reasonCode s.coordinator

/-- `compensateSource` reaches the call of the source component. -/
structure SourceRecovery (cfg : EndpointConfig W) (env : Env W) (e : MessageEnvelope W) (r : RecoveryRequest W)
    (signatures : List Bytes) (tombstone : W) (payload : Payload W) (signerBitmap : Nat) (s : Endpoint W) : Prop where
  idle : s.recovery.entered = false
  request : RequestFor cfg e r
  payload : r.compensationPayloadHash = payloadHash payload
  uncompensated : (s.recovery.recoveryRecords (recoveryId r)).compensationResult = 0
  bindable : Bindable s.recovery r.messageId (recoveryId r)
  sourceChainId : e.sourceChainId = cfg.localChainId
  sourceCoordinator : e.sourceCoordinator = cfg.address
  expired : e.expiresAt ≤ env.now
  tombstoneHash : tombstone = tombstoneEventHash e.destinationCoordinator e.messageId r.envelopeHash r.recoveryNonce
    r.reasonCode
  stored : (s.coordinator.envelopes e.messageId).messageId = e.messageId
  same : envelopeHash (s.coordinator.envelopes e.messageId) = r.envelopeHash
  signed : authorizationBitmap cfg.recoverySigners (recoveryAuthorizationDigest e r) signatures = .ok signerBitmap
  attested : env.attested e.destinationChainId e.destinationCoordinator tombstone = true

namespace RecoveryController

variable {cfg : EndpointConfig W} {e : MessageEnvelope W} {r : RecoveryRequest W} {rc rc' : RecoveryController W}
  {env : Env W} {sender : Address} {signatures : List Bytes}

theorem validateRequest_eq_ok {digest : W} :
    validateRequest cfg e r = .ok digest ↔ RequestFor cfg e r ∧ recoveryAuthorizationDigest e r = digest := by
  simp only [validateRequest, block_eq_ok]
  constructor
  · rintro ⟨⟨h1, h2, h3, h4, h5, h6, h7, h8, h9, h10, h11, h12, h13⟩, hd⟩
    exact ⟨⟨h1, h2, h3, h4, h5, h6, h7, h8, h9, h10, h11, h12, h13⟩, hd⟩
  · rintro ⟨⟨h1, h2, h3, h4, h5, h6, h7, h8, h9, h10, h11, h12, h13⟩, hd⟩
    exact ⟨⟨h1, h2, h3, h4, h5, h6, h7, h8, h9, h10, h11, h12, h13⟩, hd⟩

def bound (rc : RecoveryController W) (messageId recoveryId : W) : RecoveryController W :=
  { rc with recoveryForMessage := rc.recoveryForMessage.set messageId recoveryId }

theorem bindMessage_eq_ok {messageId recoveryId : W} :
    rc.bindMessage messageId recoveryId = .ok rc' ↔
      Bindable rc messageId recoveryId ∧ rc.bound messageId recoveryId = rc' := by
  simp only [bindMessage, block_eq_ok, Bindable, bound]

/-- A consumed cancellation authorization either was consumed before or passes every check now. -/
theorem consumeLoanCancellationAuthorization_inv {r : LoanCancellationAuthorization W}
    (h : consumeLoanCancellationAuthorization cfg env sender r signatures rc = .ok rc') :
    sender = r.loanRouter ∧ (r.disbursementMessageId = 0 ↔ r.disbursementTombstoneHash = 0) ∧
      ((rc' = rc ∧ rc.cancellationForLoan (r.loanRouter, r.loanId) = loanCancellationAuthorizationDigest cfg r) ∨
        (rc.cancellationForLoan (r.loanRouter, r.loanId) = 0 ∧ ∃ signerBitmap,
          rc' = { rc with
            nextLoanCancellationNonce :=
              rc.nextLoanCancellationNonce.set (r.loanRouter, r.loanId) r.authorizationNonce
            cancellationForLoan :=
              rc.cancellationForLoan.set (r.loanRouter, r.loanId) (loanCancellationAuthorizationDigest cfg r)
            loanCancellationSignerBitmap :=
              rc.loanCancellationSignerBitmap.set (loanCancellationAuthorizationDigest cfg r) signerBitmap })) := by
  simp only [consumeLoanCancellationAuthorization, block_eq_ok] at h
  obtain ⟨⟨hs, -, -, -, -, -, -, -, -, -, hd⟩, h⟩ := h
  refine ⟨hs, hd, ?_⟩
  split at h
  next =>
    simp only [block_eq_ok] at h
    exact .inl ⟨h.2.symm, h.1⟩
  next hzero =>
    simp only [block_eq_ok] at h
    obtain ⟨_, -, -, signerBitmap, -, rfl⟩ := h
    exact .inr ⟨not_not.mp hzero, signerBitmap, rfl⟩

theorem consumeLoanCancellationAuthorization_compensation {r : LoanCancellationAuthorization W}
    (h : consumeLoanCancellationAuthorization cfg env sender r signatures rc = .ok rc') :
    rc'.sourceCompensation = rc.sourceCompensation := by
  obtain ⟨-, -, ⟨rfl, -⟩ | ⟨-, _, rfl⟩⟩ := consumeLoanCancellationAuthorization_inv h <;> rfl

end RecoveryController

namespace Endpoint

variable {cfg : EndpointConfig W} {env : Env W} {e : MessageEnvelope W} {r : RecoveryRequest W}
  {signatures : List Bytes} {tombstone : W} {payload : Payload W} {s t : Endpoint W} {rc : RecoveryController W}

theorem recordDestinationTombstone_inv (h : recordDestinationTombstone cfg env e r signatures s = .ok t) :
    t = s ∨ ∃ signerBitmap, DestinationRecovery cfg env e r signatures signerBitmap s ∧
      t = ⟨s.coordinator.recordTombstoned cfg.toCoordinatorConfig e r.recoveryNonce r.reasonCode,
        (s.recovery.bound r.messageId (recoveryId r)).recordTombstone e r signerBitmap
          (tombstoneEventHash cfg.address e.messageId (envelopeHash e) r.recoveryNonce r.reasonCode)⟩ := by
  simp only [recordDestinationTombstone, bind_eq_ok, RecoveryController.validateRequest_eq_ok] at h
  obtain ⟨_, ⟨hreq, rfl⟩, h⟩ := h
  split at h
  next =>
    simp only [block_eq_ok] at h
    exact .inl h.2.symm
  next hzero =>
    simp only [block_eq_ok, RecoveryController.bindMessage_eq_ok, Coordinator.expectedNonce_eq_ok,
      Coordinator.recordTombstone_eq_ok] at h
    obtain ⟨_, ⟨hb, rfl⟩, _, ⟨-, rfl⟩, ⟨-, -, hx, hn⟩, bitmap, hsig, _, ⟨ht, rfl⟩, rfl⟩ := h
    exact .inr ⟨bitmap, ⟨hreq, not_not.mp hzero, hb, hx, hn, hsig, ht⟩, rfl⟩

theorem authorizeCompensation_inv
    (h : authorizeCompensation cfg env e r signatures tombstone payload s = .ok (.authorized rc)) :
    ∃ signerBitmap, SourceRecovery cfg env e r signatures tombstone payload signerBitmap s ∧
      rc = (s.recovery.bound r.messageId (recoveryId r)).recordAuthorized e r signerBitmap tombstone := by
  simp only [authorizeCompensation, block_eq_ok, RecoveryController.validateRequest_eq_ok] at h
  obtain ⟨hi, _, ⟨hreq, rfl⟩, hp, h⟩ := h
  split at h
  next =>
    simp only [block_eq_ok, reduceCtorEq, and_false] at h
  next hzero =>
    simp only [block_eq_ok, RecoveryController.bindMessage_eq_ok, validateSourceRecovery, RouteRegistry.route_eq_ok,
      Compensation.authorized.injEq] at h
    obtain ⟨_, ⟨hb, rfl⟩, ⟨⟨hc, ha, hx, -, ht⟩, hst, hsame⟩, bitmap, hsig, _, -, hat, rfl⟩ := h
    exact ⟨bitmap, ⟨hi, hreq, hp, not_not.mp hzero, hb, hc, ha, hx, ht, hst, hsame, hsig, hat⟩, rfl⟩

theorem completeCompensation_eq_ok {resultHash : W} {rc' : RecoveryController W} :
    completeCompensation e r resultHash rc = .ok rc' ↔
      resultHash ≠ 0 ∧ rc' = rc.recordCompensated (recoveryId r) e.messageId resultHash := by
  simp only [completeCompensation, block_eq_ok]
  exact and_congr_right fun _ => eq_comm

end Endpoint

end Unified.CrossChain
