import Unified.CrossChain.Network
import Unified.CrossChain.ReferenceRegistry

/-! The reference registry against the coordinator: the same deliveries, the same executions. -/

namespace Unified.CrossChain

open Coordinator

variable {W : Type}

/-- One delivery: the surroundings (clock, registries, certificate verdicts), the envelope with its
    payload, and what the destination handler does with it; `none` is a revert. -/
structure Delivery (W : Type) where
  env : Env W
  envelope : MessageEnvelope W
  payload : Payload W
  outcome : Option W

section

variable [Evm W]

/-- The envelope is valid for both sides, its route is available and its proof is accepted. -/
structure Delivery.Valid (cfg : EndpointConfig W) (d : Delivery W) : Prop where
  fits : PayloadFits d.payload
  selfId : d.envelope.Sealed
  valid : ValidEnvelope cfg.toCoordinatorConfig d.env d.envelope d.payload
  destinationChainId : d.envelope.destinationChainId = cfg.localChainId
  destinationCoordinator : d.envelope.destinationCoordinator = cfg.address
  executable : d.env.registry.isExecutable d.envelope.routePolicyHash d.envelope.createdAt
    (isExitAction d.envelope.actionType || isReportAction d.envelope.actionType) = true
  attested : d.env.attested d.envelope.sourceChainId d.envelope.sourceCoordinator
    (sourceMessageEventHash d.envelope) = true
  reference : ReferenceRegistry.validateEnvelope d.envelope d.payload = true
  nonce : d.envelope.sourceNonce < 2 ^ 64

/-- A cancellation report comes before its expiry, and a handler that succeeds returns a nonzero word. -/
def Delivery.Agreeable (d : Delivery W) : Prop :=
  (d.envelope.actionType = .sourceCompensated → d.env.now < d.envelope.expiresAt) ∧ d.outcome ≠ some 0

instance (d : Delivery W) : Decidable d.Agreeable := inferInstanceAs (Decidable (_ ∧ _))

def LanesUnambiguous (deliveries : List (Delivery W)) : Prop :=
  ∀ d ∈ deliveries, ∀ d' ∈ deliveries, d.envelope.laneId = d'.envelope.laneId →
    d.envelope.sourceNonce = d'.envelope.sourceNonce → d.envelope = d'.envelope ∧ d.payload = d'.payload

/-- The call of `executeMessage` that a delivery makes; its handler does not call back. -/
def Delivery.call (d : Delivery W) : Call W := .executeMessage d.envelope d.payload [] d.outcome

def contractStep (cfg : EndpointConfig W) (s : Endpoint W) (d : Delivery W) : Endpoint W :=
  commit (fun d s => Endpoint.exec cfg d.env d.call s) s d

/-- The coordinator executes the delivery: its message has a result now and had none before. -/
def contractExecutes (cfg : EndpointConfig W) (s : Endpoint W) (d : Delivery W) : Bool :=
  s.coordinator.executionResult d.envelope.messageId == 0 &&
    (contractStep cfg s d).coordinator.executionResult d.envelope.messageId != 0

def contractRun (cfg : EndpointConfig W) : Endpoint W → List (Delivery W) → List Bool
  | _, [] => []
  | s, d :: rest => contractExecutes cfg s d :: contractRun cfg (contractStep cfg s d) rest

def referenceRun : ReferenceRegistry W → List (Delivery W) → List Bool
  | _, [] => []
  | g, d :: rest =>
    let out := g.execute d.env.now d.envelope d.payload d.outcome
    out.2.executes :: referenceRun out.1 rest

end

variable [CollisionFree W] {cfg : EndpointConfig W} {s : Endpoint W} {d : Delivery W} {g : ReferenceRegistry W}

theorem contractStep_of_deliverable (hd : Deliverable cfg.toCoordinatorConfig d.env d.envelope d.payload s.coordinator)
    {r : W} (ho : d.outcome = some r) (hr : r ≠ 0) :
    contractStep cfg s d =
      { s with coordinator := (s.coordinator.recordVerified d.envelope).recordExecuted d.envelope r } := by
  have hv := verifyMessage_eq_verified.mpr ⟨hd, rfl⟩
  refine commit_of_ok ?_
  simp only [Delivery.call, Endpoint.exec, hv, Endpoint.execNested, Endpoint.finishExecution, bind_eq_ok,
    orRevert_eq_ok, Endpoint.onCoordinator_eq_ok, complete_eq_ok]
  exact ⟨r, ho, _, ⟨hr, rfl⟩, rfl⟩

theorem contractStep_of_not (h : ¬ (Deliverable cfg.toCoordinatorConfig d.env d.envelope d.payload s.coordinator ∧
    ∃ r, d.outcome = some r ∧ r ≠ 0)) : contractStep cfg s d = s := by
  unfold contractStep commit
  split
  next t ht =>
    simp only [Delivery.call, Endpoint.exec] at ht
    split at ht
    · cases ht
    · cases ht
      rfl
    next c hc =>
      obtain ⟨hd, rfl⟩ := verifyMessage_eq_verified.mp hc
      obtain ⟨r, ho, hr, -⟩ := Endpoint.finishExecution_inv ht
      exact absurd ⟨hd, r, ho, hr⟩ h
  next => rfl

/-- For a valid delivery the coordinator looks at the lane, the expiry and its own records only. -/
theorem deliverable_iff (hs : Endpoint.Consistent cfg s) (hv : d.Valid cfg)
    (ht : s.coordinator.tombstoneHash d.envelope.messageId = 0) :
    Deliverable cfg.toCoordinatorConfig d.env d.envelope d.payload s.coordinator ↔
      s.coordinator.executionResult d.envelope.messageId = 0 ∧
      (d.env.now < d.envelope.expiresAt ∨ isReportAction d.envelope.actionType = true) ∧
      d.envelope.sourceNonce = s.coordinator.nextInboundNonce d.envelope.laneId + 1 := by
  constructor
  · intro h
    exact ⟨h.unexecuted, h.live, h.nonce⟩
  · rintro ⟨hx, hl, hn⟩
    refine ⟨hs.ordered.entered, hv.fits, hv.selfId, hv.valid, hx, hv.destinationChainId, hv.destinationCoordinator,
      hv.executable, ht, hl, .inl (hs.ordered.boundAt_eq_zero (by omega)), ?_, hn, hv.attested⟩
    have := hv.nonce
    omega

/-! ### The simulation -/

/-- The reference registry and the endpoint after the same deliveries of `all`, read at `clock`. -/
structure Agree (cfg : EndpointConfig W) (all : List (Delivery W)) (clock : Nat) (g : ReferenceRegistry W)
    (s : Endpoint W) : Prop where
  consistent : Endpoint.Consistent cfg s
  untombstoned : ∀ m, s.coordinator.tombstoneHash m = 0
  bounded : ∀ lane, s.coordinator.nextInboundNonce lane < 2 ^ 64
  nonces : ∀ lane, g.nextNonce lane =
    if s.coordinator.nextInboundNonce lane = 0 then 0 else (s.coordinator.nextInboundNonce lane + 1) % 2 ^ 64
  executed : ∀ m, s.coordinator.executionResult m ≠ 0 → ∃ r, g.byMessage m = some r ∧ r.state = .executed
  recorded : ∀ m r, g.byMessage m = some r → (∃ d ∈ all, d.envelope = r.envelope ∧ d.payload = r.payload ∧
      d.envelope.messageId = m) ∧ (r.state = .executed → s.coordinator.executionResult m ≠ 0) ∧
    (r.state = .expired → r.envelope.expiresAt ≤ clock ∧
      ReferenceRegistry.IsReportAction r.envelope.actionType = false)
  claimed : ∀ lane k m, g.byNonce (lane, k) = some m → ∃ d ∈ all, d.envelope.messageId = m ∧
    d.envelope.laneId = lane ∧ d.envelope.sourceNonce = k

theorem Agree.initial (cfg : EndpointConfig W) (all : List (Delivery W)) :
    Agree cfg all 0 ReferenceRegistry.initial (Endpoint.initial 0) where
  consistent := .initial _ _ _
  untombstoned _ := rfl
  bounded _ := Nat.two_pow_pos 64
  nonces _ := rfl
  executed _ h := absurd rfl h
  recorded _ _ h := by cases h
  claimed _ _ _ h := by cases h

theorem Agree.later {all : List (Delivery W)} {clock clock' : Nat} (h : Agree cfg all clock g s) (hle : clock ≤ clock') :
    Agree cfg all clock' g s :=
  { h with
    recorded := fun m r hr => by
      obtain ⟨hd, hx, he⟩ := h.recorded m r hr
      exact ⟨hd, hx, fun hst => ⟨(he hst).1.trans hle, (he hst).2⟩⟩ }

/-- The two classifications of reports differ in the cancellation report only. -/
theorem isReportAction_eq {a : CrossChainActionType} (h : a ≠ .sourceCompensated) :
    ReferenceRegistry.IsReportAction a = isReportAction a := by
  cases a <;> first | rfl | exact absurd rfl h

/-- An agreeable delivery is past its expiry for both sides or for neither. -/
theorem Delivery.Agreeable.expired_iff (ha : d.Agreeable) :
    (d.envelope.expiresAt ≤ d.env.now ∧ ReferenceRegistry.IsReportAction d.envelope.actionType = false) ↔
      ¬ (d.env.now < d.envelope.expiresAt ∨ isReportAction d.envelope.actionType = true) := by
  rw [not_or, not_lt, Bool.not_eq_true]
  refine and_congr_right fun hle => ?_
  rw [isReportAction_eq]
  intro hact
  have := ha.1 hact
  omega

namespace Agree

variable {all : List (Delivery W)} {clock : Nat} {r : RegistryRecord W}

/-- The reference registry expects the nonce the coordinator expects, and the first one again once a
    lane has used up all 64-bit nonces. -/
theorem next_eq (h : Agree cfg all clock g s) (lane : W) :
    g.next lane = if s.coordinator.nextInboundNonce lane + 1 = 2 ^ 64 then 1
      else s.coordinator.nextInboundNonce lane + 1 := by
  have hb := h.bounded lane
  unfold ReferenceRegistry.next
  rw [h.nonces lane]
  by_cases hzero : s.coordinator.nextInboundNonce lane = 0
  · simp [hzero]
  · simp only [if_neg hzero]
    by_cases hwrap : s.coordinator.nextInboundNonce lane + 1 = 2 ^ 64
    · simp [hwrap]
    · rw [if_neg hwrap, Nat.mod_eq_of_lt (by omega), if_neg (by omega)]

/-- A nonce the counter has passed belongs to an executed message. -/
theorem executed_of_le (h : Agree cfg all clock g s) (hall : LanesUnambiguous all)
    (hvalid : ∀ d ∈ all, d.Valid cfg) (hd : d ∈ all) (h1 : 1 ≤ d.envelope.sourceNonce)
    (hle : d.envelope.sourceNonce ≤ s.coordinator.nextInboundNonce d.envelope.laneId) :
    s.coordinator.executionResult d.envelope.messageId ≠ 0 := by
  have o := h.consistent.ordered
  have hbound := o.bound _ _ h1 hle
  have hx := (o.terminal _ _ hle hbound).resolve_right fun ht => ht (h.untombstoned _)
  obtain ⟨r, hr, -⟩ := h.executed _ hx
  obtain ⟨⟨d', hd', -, -, hm'⟩, -⟩ := h.recorded _ r hr
  obtain ⟨e, hid, hm, hlane, hnonce⟩ := o.named _ _ hbound
  -- the bound envelope was delivered, so it is the one delivered now
  obtain rfl : d'.envelope = e := (hvalid d' hd').selfId.eq hid (hm'.trans hm.symm)
  rw [(hall d hd d' hd' hlane.symm hnonce.symm).1, hm']
  exact hx

/-- A stored record is about the delivered envelope. -/
theorem stored_eq (h : Agree cfg all clock g s) (hall : LanesUnambiguous all) (hvalid : ∀ d ∈ all, d.Valid cfg)
    (hd : d ∈ all) (hr : g.byMessage d.envelope.messageId = some r) :
    r.envelope = d.envelope ∧ r.payload = d.payload := by
  obtain ⟨⟨d', hd', he, hp, hm⟩, -⟩ := h.recorded _ r hr
  have heq : d'.envelope = d.envelope := (hvalid d' hd').selfId.eq (hvalid d hd).selfId hm
  obtain ⟨-, hpay⟩ := hall d' hd' d hd (by rw [heq]) (by rw [heq])
  exact ⟨he ▸ heq, hp ▸ hpay⟩

/-- A nonce is claimed by the delivered message or by none. -/
theorem not_claimed (h : Agree cfg all clock g s) (hall : LanesUnambiguous all) (hd : d ∈ all) :
    ¬ ∃ m ∈ g.byNonce (d.envelope.laneId, d.envelope.sourceNonce), m ≠ d.envelope.messageId := by
  rintro ⟨m, hm, hne⟩
  obtain ⟨d', hd', hm', hl, hn⟩ := h.claimed _ _ m hm
  rw [(hall d' hd' d hd hl hn).1] at hm'
  exact hne hm'.symm

/-- Keeping a record about the delivered envelope; `s` and the counters are as they were. -/
theorem put (h : Agree cfg all clock g s) (hd : d ∈ all) (he : r.envelope = d.envelope) (hp : r.payload = d.payload)
    (hx : s.coordinator.executionResult d.envelope.messageId = 0) (hst : r.state ≠ .executed)
    (hexp : r.state = .expired → r.envelope.expiresAt ≤ clock ∧
      ReferenceRegistry.IsReportAction r.envelope.actionType = false) :
    Agree cfg all clock (g.put d.envelope r) s where
  consistent := h.consistent
  untombstoned := h.untombstoned
  bounded := h.bounded
  nonces := h.nonces
  executed m hm := by
    obtain ⟨r', hr', hst'⟩ := h.executed m hm
    refine ⟨r', ?_, hst'⟩
    simp only [ReferenceRegistry.put]
    rw [Mapping.set_of_ne, hr']
    rintro rfl
    exact hm hx
  recorded m r' := by
    simp only [ReferenceRegistry.put, Mapping.set_apply]
    split
    next heq =>
      rintro hr'
      cases hr'
      exact ⟨⟨d, hd, he.symm, hp.symm, heq.symm⟩, fun hst' => absurd hst' hst, hexp⟩
    next => exact h.recorded m r'
  claimed lane k m := by
    simp only [ReferenceRegistry.put, Mapping.set_apply]
    split
    next heq =>
      rintro hm
      cases hm
      cases heq
      exact ⟨d, hd, rfl, rfl, rfl⟩
    next => exact h.claimed lane k m

theorem execute (h : Agree cfg all clock g s) (hd : d ∈ all)
    (hdel : Deliverable cfg.toCoordinatorConfig d.env d.envelope d.payload s.coordinator) {result : W} (hr : result ≠ 0)
    (he : r.envelope = d.envelope) (hp : r.payload = d.payload) (hst : r.state = .executed)
    (hnext : g.next d.envelope.laneId = d.envelope.sourceNonce) :
    Agree cfg all clock
      { g.put d.envelope r with
        nextNonce := g.nextNonce.set d.envelope.laneId ((g.next d.envelope.laneId + 1) % 2 ^ 64) }
      { s with coordinator := (s.coordinator.recordVerified d.envelope).recordExecuted d.envelope result } where
  consistent := (h.consistent.recordVerified (fun _ _ _ _ => trivial) hdel).recordExecuted hr
  untombstoned := h.untombstoned
  bounded lane := by
    have hb := h.bounded lane
    have hn := hdel.nonce
    have hn' := hdel.bounded
    simp only [recordExecuted, recordVerified, Mapping.set_apply]
    split <;> omega
  nonces lane := by
    have hn := hdel.nonce
    simp only [recordExecuted, recordVerified, Mapping.set_apply]
    split
    · rw [hnext, if_neg (by omega)]
    · exact h.nonces lane
  executed m := by
    simp only [recordExecuted, recordVerified, ReferenceRegistry.put, Mapping.set_apply]
    split
    · exact fun _ => ⟨r, rfl, hst⟩
    · exact h.executed m
  recorded m r' := by
    simp only [recordExecuted, recordVerified, ReferenceRegistry.put, Mapping.set_apply]
    split
    next heq =>
      rintro hr'
      cases hr'
      exact ⟨⟨d, hd, he.symm, hp.symm, heq.symm⟩, fun _ => hr, fun hst' => by rw [hst] at hst'; cases hst'⟩
    next => exact h.recorded m r'
  claimed lane k m := by
    simp only [ReferenceRegistry.put, Mapping.set_apply]
    split
    next heq =>
      rintro hm
      cases hm
      cases heq
      exact ⟨d, hd, rfl, rfl, rfl⟩
    next => exact h.claimed lane k m

def Together (cfg : EndpointConfig W) (all : List (Delivery W)) (d : Delivery W) (s : Endpoint W)
    (out : ReferenceRegistry W × Response W) : Prop :=
  Agree cfg all d.env.now out.1 (contractStep cfg s d) ∧ out.2.executes = contractExecutes cfg s d

theorem together_of_not {g' : ReferenceRegistry W} {response : Response W} (h : Agree cfg all d.env.now g' s)
    (hnot : ¬ (Deliverable cfg.toCoordinatorConfig d.env d.envelope d.payload s.coordinator ∧
      ∃ r, d.outcome = some r ∧ r ≠ 0)) (hresponse : response.executes = false) :
    Together cfg all d s (g', response) := by
  refine ⟨?_, ?_⟩
  · rw [contractStep_of_not hnot]
    exact h
  · rw [hresponse, contractExecutes, contractStep_of_not hnot]
    simp [bne]

variable (hall : LanesUnambiguous all) (hvalid : ∀ d ∈ all, d.Valid cfg)

include hall hvalid

/-- The record an attempt works on, whichever state a new one would start in. -/
theorem current_eq (h : Agree cfg all clock g s) (hd : d ∈ all) (state : MessageState) :
    (g.current d.envelope d.payload state).envelope = d.envelope ∧
      (g.current d.envelope d.payload state).payload = d.payload := by
  unfold ReferenceRegistry.current
  cases hr : g.byMessage d.envelope.messageId with
  | none => exact ⟨rfl, rfl⟩
  | some => exact h.stored_eq hall hvalid hd hr

/-- The attempt on a message that is next in its lane on both sides. -/
theorem attempt (h : Agree cfg all d.env.now g s) (hd : d ∈ all) (ha : d.Agreeable)
    (hx : s.coordinator.executionResult d.envelope.messageId = 0)
    (hnext : g.next d.envelope.laneId = d.envelope.sourceNonce)
    (hnonce : d.envelope.sourceNonce = s.coordinator.nextInboundNonce d.envelope.laneId + 1) :
    Together cfg all d s (g.attempt d.env.now d.envelope d.payload d.outcome) := by
  have hdel := deliverable_iff h.consistent (hvalid d hd) (h.untombstoned _)
  unfold ReferenceRegistry.attempt
  by_cases hexp : d.envelope.expiresAt ≤ d.env.now ∧ ReferenceRegistry.IsReportAction d.envelope.actionType = false
  · -- expired on both sides
    obtain ⟨he, hp⟩ := h.current_eq hall hvalid hd .expired
    rw [if_pos hexp]
    refine together_of_not ?_ (fun hboth => ha.expired_iff.mp hexp (hdel.mp hboth.1).2.1) rfl
    split
    · exact h.put hd he hp hx (by simp) fun _ => by rw [he]; exact hexp
    next hnone =>
      have : g.current d.envelope d.payload .expired = ⟨d.envelope, d.payload, .expired, none, 1⟩ := by
        rw [ReferenceRegistry.current, Option.not_isSome_iff_eq_none.mp hnone]
        rfl
      rw [this]
      exact h.put hd rfl rfl hx (by simp) fun _ => hexp
  · obtain ⟨he, hp⟩ := h.current_eq hall hvalid hd .verified
    have hlive : d.env.now < d.envelope.expiresAt ∨ isReportAction d.envelope.actionType = true :=
      not_not.mp fun hn => hexp (ha.expired_iff.mpr hn)
    rw [if_neg hexp]
    cases hout : d.outcome with
    | none =>
      refine together_of_not (h.put hd he hp hx (by simp) (by simp)) ?_ rfl
      rintro ⟨-, r, hr, -⟩
      rw [hout] at hr
      cases hr
    | some result =>
      have hr : result ≠ 0 := by
        rintro rfl
        exact ha.2 hout
      have hdeliverable := hdel.mpr ⟨hx, hlive, hnonce⟩
      refine ⟨?_, ?_⟩
      · rw [contractStep_of_deliverable hdeliverable hout hr]
        exact h.execute hd hdeliverable hr he hp rfl hnext
      · rw [contractExecutes, contractStep_of_deliverable hdeliverable hout hr, hx]
        simp [Response.executes, ReferenceRegistry.toExecution, recordExecuted, hr]

/-- The nonce checks agree: either the message is next in its lane for both, or for neither. -/
theorem order (h : Agree cfg all d.env.now g s) (hd : d ∈ all) (ha : d.Agreeable)
    (hx : s.coordinator.executionResult d.envelope.messageId = 0) :
    Together cfg all d s (g.order d.env.now d.envelope d.payload d.outcome) := by
  have hdel := deliverable_iff h.consistent (hvalid d hd) (h.untombstoned _)
  have hpos : 1 ≤ d.envelope.sourceNonce := by
    have := (hvalid d hd).reference
    simp only [ReferenceRegistry.validateEnvelope, ReferenceRegistry.wellFormed, Bool.and_eq_true, decide_eq_true_eq] at this
    omega
  have hnext := h.next_eq d.envelope.laneId
  have hnotexecuted : s.coordinator.nextInboundNonce d.envelope.laneId < d.envelope.sourceNonce := by
    by_contra hle
    exact h.executed_of_le hall hvalid hd hpos (by omega) hx
  have hlt := (hvalid d hd).nonce
  unfold ReferenceRegistry.order
  rw [if_neg (h.not_claimed hall hd)]
  split
  next hafter =>
    refine together_of_not h (fun hboth => ?_) rfl
    have := (hdel.mp hboth.1).2.2
    split at hnext <;> omega
  next =>
    split
    next hbefore =>
      refine together_of_not h (fun hboth => ?_) rfl
      have := (hdel.mp hboth.1).2.2
      split at hnext <;> omega
    next =>
      refine h.attempt hall hvalid hd ha hx (by omega) ?_
      split at hnext <;> omega

theorem step (h : Agree cfg all clock g s) (hd : d ∈ all) (ha : d.Agreeable) (hclock : clock ≤ d.env.now) :
    Together cfg all d s (g.execute d.env.now d.envelope d.payload d.outcome) := by
  have h := h.later hclock
  have hdel := deliverable_iff h.consistent (hvalid d hd) (h.untombstoned _)
  have hreference := (hvalid d hd).reference
  have hformed : ReferenceRegistry.wellFormed d.envelope d.payload = true := (Bool.and_eq_true_iff.mp hreference).1
  unfold ReferenceRegistry.execute
  rw [hformed, hreference, if_neg (by simp), if_neg (by simp)]
  by_cases hx : s.coordinator.executionResult d.envelope.messageId = 0
  · split
    next => exact h.order hall hvalid hd ha hx
    next existing hr =>
      obtain ⟨he, hp⟩ := h.stored_eq hall hvalid hd hr
      obtain ⟨-, hexecuted, hexpired⟩ := h.recorded _ _ hr
      rw [if_neg (by simp [he, hp])]
      split
      next hst => exact absurd hx (hexecuted hst)
      next =>
        split
        next hst =>
          -- it stays expired: the clock does not run backwards
          refine together_of_not h (fun hboth => ?_) rfl
          have := hexpired hst
          rw [he] at this
          exact ha.expired_iff.mp this (hdel.mp hboth.1).2.1
        next => exact h.order hall hvalid hd ha hx
  · obtain ⟨r, hr, hst⟩ := h.executed _ hx
    obtain ⟨he, hp⟩ := h.stored_eq hall hvalid hd hr
    rw [hr]
    simp only [he, hp, hst, ne_eq, not_true_eq_false, or_self, if_false, if_true]
    refine together_of_not h (fun hboth => hx (hdel.mp hboth.1).1) ?_
    simp [Response.executes, ReferenceRegistry.toExecution]

theorem run (h : Agree cfg all clock g s) (deliveries : List (Delivery W)) (hsub : ∀ d ∈ deliveries, d ∈ all)
    (ha : ∀ d ∈ deliveries, d.Agreeable) (htimes : (clock :: deliveries.map (·.env.now)).IsChain (· ≤ ·)) :
    referenceRun g deliveries = contractRun cfg s deliveries := by
  induction deliveries generalizing clock g s with
  | nil => rfl
  | cons d _ ih =>
    rw [List.map_cons, List.isChain_cons_cons] at htimes
    obtain ⟨hagree, hsame⟩ := h.step hall hvalid (hsub d List.mem_cons_self) (ha d List.mem_cons_self) htimes.1
    rw [referenceRun, contractRun, hsame]
    congr 1
    exact ih hagree (fun d' hd' => hsub d' (List.mem_cons_of_mem _ hd')) (fun d' hd' => ha d' (List.mem_cons_of_mem _ hd'))
      htimes.2

end Agree

/-- The reference registry and the coordinator execute the same deliveries, in every run in which each
    cancellation report comes before its expiry and no handler succeeds with the zero word. -/
theorem registry_agreement (cfg : EndpointConfig W) (deliveries : List (Delivery W))
    (hvalid : ∀ d ∈ deliveries, d.Valid cfg) (hall : LanesUnambiguous deliveries)
    (htimes : (deliveries.map (·.env.now)).IsChain (· ≤ ·)) (ha : ∀ d ∈ deliveries, d.Agreeable) :
    referenceRun .initial deliveries = contractRun cfg (.initial 0) deliveries := by
  refine (Agree.initial cfg deliveries).run hall hvalid deliveries (fun _ hd => hd) ha ?_
  cases deliveries with
  | nil => exact List.isChain_singleton 0
  | cons => exact List.isChain_cons_cons.mpr ⟨Nat.zero_le _, htimes⟩

/-! ### Reports after their expiry -/

def sampleReport (a : CrossChainActionType) (payload : Payload Term) (nonce : Nat) : MessageEnvelope Term :=
  let unsigned : MessageEnvelope Term :=
    { sampleEnvelope with messageId := 0, actionType := a, payloadHash := payloadHash payload, sourceNonce := nonce }
  { unsigned with messageId := messageId unsigned }

/-- Its delivery at time 30, with a handler that succeeds. -/
def lateReport (a : CrossChainActionType) (payload : Payload Term) (nonce : Nat) : Delivery Term where
  env :=
    { now := 30
      registry :=
        { sampleRegistry with
          routes := fun h =>
            let v := sampleRegistry.routes h
            { v with config := { v.config with allowedActionsBitmap := actionBit a } } }
      attested := fun _ _ _ => true }
  envelope := sampleReport a payload nonce
  payload := payload
  outcome := some (.lit 1)

def mintReportPayload : Payload Term :=
  [.bytes32 (.lit 1), .bytes32 (.lit 2), .address 3, .address 4, .address 5, .address 6, .uint 7, .bytes32 (.lit 8)]

def cancellationReportPayload : Payload Term :=
  [.bytes32 (.lit 1), .bytes32 (.lit 2), .bytes32 (.lit 3), .bytes32 0, .bytes32 0, .bytes32 (.lit 4), .address 5,
    .address 6, .address 7, .uint 8, .bytes32 (.lit 9)]

theorem lateReport_valid {a : CrossChainActionType} {payload : Payload Term} {nonce : Nat}
    (h : (a, payload) = (.wrappedUftMinted, mintReportPayload) ∨
      (a, payload) = (.sourceCompensated, cancellationReportPayload)) (hnonce : nonce = 1 ∨ nonce = 2) :
    (lateReport a payload nonce).Valid (twoChains.endpoint 2) := by
  obtain ⟨rfl, rfl⟩ | ⟨rfl, rfl⟩ := h.imp Prod.mk.inj Prod.mk.inj
  all_goals
    rcases hnonce with rfl | rfl
    all_goals exact
      { fits := by decide +kernel
        selfId := by decide +kernel
        valid := ⟨rfl, rfl, rfl, by decide, by decide, by decide +kernel, by decide +kernel, by decide +kernel,
          by decide +kernel⟩
        destinationChainId := rfl
        destinationCoordinator := rfl
        executable := by decide +kernel
        attested := rfl
        reference := by decide +kernel
        nonce := by decide +kernel }

/-- Two mint reports of one lane after their expiry, out of order at first, and the first one again. -/
def lateMintReports : List (Delivery Term) :=
  [lateReport .wrappedUftMinted mintReportPayload 2, lateReport .wrappedUftMinted mintReportPayload 1,
    lateReport .wrappedUftMinted mintReportPayload 2, lateReport .wrappedUftMinted mintReportPayload 1]

theorem mem_lateMintReports {d : Delivery Term} (hd : d ∈ lateMintReports) : ∃ nonce, (nonce = 1 ∨ nonce = 2) ∧
    d = lateReport .wrappedUftMinted mintReportPayload nonce := by
  simp only [lateMintReports, List.mem_cons, List.not_mem_nil, or_false] at hd
  rcases hd with rfl | rfl | rfl | rfl
  exacts [⟨2, .inr rfl, rfl⟩, ⟨1, .inl rfl, rfl⟩, ⟨2, .inr rfl, rfl⟩, ⟨1, .inl rfl, rfl⟩]

theorem registry_agreement_lateMintReports :
    contractRun (twoChains.endpoint 2) (.initial 0) lateMintReports = [false, true, true, false] ∧
    referenceRun .initial lateMintReports = contractRun (twoChains.endpoint 2) (.initial 0) lateMintReports := by
  refine ⟨by decide +kernel, registry_agreement (twoChains.endpoint 2) lateMintReports (fun d hd => ?_)
    (fun d hd d' hd' _ hsame => ?_) (by decide) fun d hd => ?_⟩
  · obtain ⟨nonce, hnonce, rfl⟩ := mem_lateMintReports hd
    exact lateReport_valid (.inl rfl) hnonce
  · obtain ⟨nonce, -, rfl⟩ := mem_lateMintReports hd
    obtain ⟨nonce', -, rfl⟩ := mem_lateMintReports hd'
    obtain rfl : nonce = nonce' := hsame
    exact ⟨rfl, rfl⟩
  · obtain ⟨nonce, rfl | rfl, rfl⟩ := mem_lateMintReports hd <;> decide +kernel

/-- A cancellation report that comes after its expiry: the coordinator executes it, the reference
    registry expires it. -/
theorem registry_disagreement_lateCancellationReport :
    (lateReport .sourceCompensated cancellationReportPayload 1).Valid (twoChains.endpoint 2) ∧
      isReportAction (lateReport .sourceCompensated cancellationReportPayload 1).envelope.actionType = true ∧
      contractRun (twoChains.endpoint 2) (.initial 0) [lateReport .sourceCompensated cancellationReportPayload 1] =
        [true] ∧
      referenceRun .initial [lateReport .sourceCompensated cancellationReportPayload 1] = [false] :=
  ⟨lateReport_valid (.inr rfl) (.inl rfl), rfl, by decide +kernel, by decide +kernel⟩

end Unified.CrossChain
