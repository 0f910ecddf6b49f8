import Unified.CrossChain.Provenance

/-! The value behind a satellite's wrapped token. At every moment the route's backing on the hub is the
    supply on the satellite plus what is on its way: locks that are not minted, burns that are not
    released, and cancelled escrows that are not refunded. -/

namespace Unified.CrossChain

open Mapping Satellite

variable {W : Type}

section

variable [Evm W]

/-- What a lock holds for a satellite until its mint is executed there. -/
def Satellite.unminted (D : Deployment W) (σ : Nat) (s : Satellite W) (_ : W) (r : LockRecord W) : Nat :=
  if r.state = .locked ∧ r.routePolicyHash = (D.satellite σ).canonicalBackingRoutePolicyHash ∧
      s.endpoint.coordinator.executionResult r.messageId = 0 then r.amount else 0

/-- What a burn is still owed by the hub until its message is executed there. -/
def Home.unreleased (h : Home W) (_ : W) (r : BurnRecord W) : Nat :=
  if r.state = .burned ∧ h.endpoint.coordinator.executionResult r.messageId = 0 then r.amount else 0

/-- What a cancelled loan is still owed by the hub until its refund. -/
def Home.unrefunded (h : Home W) (_ : W) (r : SettlementRecord W) : Nat :=
  if h.hub.cancellationRefund r.cancellationId = 0 then r.cancelledAmount else 0

theorem Satellite.unminted_vanishes (D : Deployment W) (σ : Nat) (s : Satellite W) :
    Mapping.Vanishes (s.unminted D σ) := fun _ => if_neg fun h => by cases h.1

theorem Home.unreleased_vanishes (h : Home W) : Mapping.Vanishes h.unreleased := fun _ => if_neg fun h => by cases h.1

theorem Home.unrefunded_vanishes (h : Home W) : Mapping.Vanishes h.unrefunded := fun _ => by
  unfold Home.unrefunded
  split <;> rfl

theorem Satellite.unminted_congr {D : Deployment W} {σ : Nat} {s t : Satellite W}
    (h : t.endpoint.coordinator.executionResult = s.endpoint.coordinator.executionResult) :
    t.unminted D σ = s.unminted D σ := by
  unfold unminted
  rw [h]

theorem Home.unreleased_congr {h t : Home W}
    (same : t.endpoint.coordinator.executionResult = h.endpoint.coordinator.executionResult) :
    t.unreleased = h.unreleased := by
  unfold Home.unreleased
  rw [same]

theorem Home.unrefunded_congr {h t : Home W} (same : t.hub.cancellationRefund = h.hub.cancellationRefund) :
    t.unrefunded = h.unrefunded := by
  unfold Home.unrefunded
  rw [same]

/-- The backing of a satellite's route and everything it backs. -/
def Conserved (D : Deployment W) (σ : Nat) (h : Home W) (s : Satellite W) : Prop :=
  h.hub.routeBacking (D.satellite σ).canonicalBackingRoutePolicyHash =
    s.wrapped.token.totalSupply + h.hub.locks.sum (s.unminted D σ) + s.wrapped.burnRecords.sum h.unreleased +
      s.settlement.records.sum h.unrefunded

def Endpoint.ExecutesOnly (s t : Endpoint W) (p : MessageEnvelope W → Prop) : Prop :=
  ∀ m, t.coordinator.executionResult m = s.coordinator.executionResult m ∨
    ∃ e payload, t.Executed e payload ∧ e.messageId = m ∧ p e

namespace Endpoint.ExecutesOnly

variable {D : Deployment W} {cfg : EndpointConfig W} {env : Env W} {s t : Endpoint W} {p : MessageEnvelope W → Prop}
  {e : MessageEnvelope W} {payload : Payload W}

theorem of_eq (h : t.coordinator.executionResult = s.coordinator.executionResult) : s.ExecutesOnly t p :=
  fun m => .inl (by rw [h])

theorem delivered (hd : Deliverable cfg.toCoordinatorConfig env e payload s.coordinator)
    (report : Option (MessageEnvelope W)) (r : W) (hp : p e) : s.ExecutesOnly (s.delivered e report r) p := by
  intro m
  by_cases hm : m = e.messageId
  · exact .inr ⟨e, payload, .delivered hd report r, hm.symm, hp⟩
  · exact .inl (Coordinator.delivered_executionResult.trans (if_neg hm))

theorem foreign {receives sends : Address → Prop} (h : s.ForeignStep D cfg env receives sends t) :
    s.ExecutesOnly t fun e => ¬ receives e.destinationComponent := by
  cases h with
  | send | acknowledge | tombstone => exact .of_eq rfl
  | deliver ok _ foreign => exact .delivered ok none _ foreign
  | compensate => exact .of_eq Coordinator.recordSends_executionResult

theorem mono {q : MessageEnvelope W → Prop} (h : s.ExecutesOnly t p) (hpq : ∀ e, p e → q e) : s.ExecutesOnly t q := by
  intro m
  rcases h m with heq | ⟨e, payload, hx, hm, hp⟩
  · exact .inl heq
  · exact .inr ⟨e, payload, hx, hm, hpq e hp⟩

end Endpoint.ExecutesOnly

end

namespace World

variable [CollisionFree W] {D : Deployment W} {w w' : World W} {σ : Nat} {e : MessageEnvelope W} {payload : Payload W}
  {x b : W} {h : Home W} {s : Satellite W}

/-! ### The messages of locks and burns -/

theorem Valid.lockMessage (hv : Valid D w) (hx : (w.home.hub.locks x).state ≠ .none) :
    ∃ e, e.Sealed ∧ .messageSent e ∈ w.home.endpoint.coordinator.events ∧ Home.LockEvidence D w.home x e := by
  obtain ⟨e, hsent, evidence⟩ := (hv.home.locked x).sent hx
  have ordered := (hv.net D.home.localChainId).ordered
  rw [net_home] at ordered
  exact ⟨e, (ordered.sentLog e hsent).1, hsent, evidence⟩

theorem lock_unique {x' : W} (hx : Home.LockEvidence D h x e) (hx' : Home.LockEvidence D h x' e) : x = x' := by
  have same := payloadHash_inj (hx.payload.symm.trans hx'.payload)
  exact congrArg CanonicalUftLockPayload.lockId (Option.some.inj (congrArg CanonicalUftLockPayload.decode same))

theorem Valid.burnMessage (hv : Valid D w) (hσ : σ ≠ D.home.localChainId)
    (hb : ((w.satellite σ).wrapped.burnRecords b).state ≠ .none) :
    ∃ e d payload, e.Sealed ∧ e.sourceChainId = σ ∧ e.destinationChainId = D.home.localChainId ∧
      e.destinationComponent = (D.routes d.routePolicyHash).destinationComponent ∧
      Satellite.BurnEvidence D σ (w.satellite σ) b e d payload := by
  obtain ⟨e, d, payload, hsent, evidence⟩ := (hv.satellite σ).burnSent b hb
  have routed := (hv.satellite σ).routed e hsent
  have ordered := (hv.net σ).ordered
  rw [net_satellite hσ] at ordered
  refine ⟨e, d, payload, (ordered.sentLog e hsent).1, routed.sourceChainId.trans (D.localChainId σ), ?_, ?_, evidence⟩
  · rw [routed.identity.destinationChainId, evidence.route, evidence.chain]
  · rw [routed.identity.destinationComponent, evidence.route]

omit [CollisionFree W] in
theorem burnMessage_head [Evm W] {D : Deployment W} {d : BurnDispatch W} (h : Satellite.BurnMessage D σ d payload) :
    payload.head? = some (.bytes32 d.burnId) := by
  cases h <;> rfl

theorem burn_unique {b' : W} {d d' : BurnDispatch W} {payload' : Payload W}
    (hb : Satellite.BurnEvidence D σ s b e d payload) (hb' : Satellite.BurnEvidence D σ s b' e d' payload') :
    b = b' := by
  obtain rfl := payloadHash_inj (hb.payload.symm.trans hb'.payload)
  have same := (burnMessage_head hb.message).symm.trans (burnMessage_head hb'.message)
  rw [hb.burn, hb'.burn] at same
  exact Datum.bytes32.inj (Option.some.inj same)

theorem canonicalRoute_inj {σ' : Nat} (hcan : (D.satellite σ).canonicalBackingRoutePolicyHash ≠ 0)
    (h : (D.satellite σ).canonicalBackingRoutePolicyHash = (D.satellite σ').canonicalBackingRoutePolicyHash) : σ = σ' := by
  rw [← (D.canonicalRoute σ hcan).2.2.1, h, (D.canonicalRoute σ' (h ▸ hcan)).2.2.1]

theorem Valid.fundedLock (hv : Valid D w) {l y : W} (hf : FundedBy D w σ l y) (hx : (w.home.hub.locks x).state ≠ .none)
    (hl : (w.home.hub.locks x).loanId = l) (hne : l ≠ 0) : y = x := by
  have hy := ((hv.home.locked y).loan hf.recorded (hf.loan.trans_ne hne)).2
  have hx' := ((hv.home.locked x).loan hx (hl.trans_ne hne)).2
  rw [← hy, ← hx', hf.loan, hl]

/-- The lock of a loan whose cancelled funding a router heard of was minted on the router's satellite. -/
theorem Valid.refundedLock (hv : Valid D w) {c : SatelliteFundingCancelledPayload W}
    (hreport : Home.RefundReport D w.home σ c) (hx : (w.home.hub.locks x).state ≠ .none)
    (hl : (w.home.hub.locks x).loanId = c.loanId) (hne : (w.home.hub.locks x).loanId ≠ 0) :
    σ ≠ D.home.localChainId ∧ Satellite.Funding D σ (w.satellite σ) c.loanId x ∧ FundedBy D w σ c.loanId x := by
  obtain ⟨e, payload, hexec, hd, -⟩ := id hreport
  have hσ := hv.remote hexec hd
  obtain ⟨hid, -, hcancelled, -⟩ := hv.refund hσ hreport
  have funding := ((hv.satellite σ).settled c.loanId).funded (.inr (.inr (hcancelled.trans_ne hid)))
  obtain rfl := hv.fundedLock (hv.funding hσ funding) hx hl (hl ▸ hne)
  exact ⟨hσ, funding, hv.funding hσ funding⟩

/-! ### Executions that move no value -/

/-- Satellite messages that are not mints: to components outside the deployment, or to a vault. -/
def NoMint (D : Deployment W) (σ : Nat) (e : MessageEnvelope W) : Prop :=
  ¬ Satellite.Receives D σ e.destinationComponent ∨ e.destinationComponent = (D.satellite σ).satelliteSettlementVault ∨
    e.destinationComponent = (D.satellite σ).satelliteCollateralVault

/-- Home messages that are not burns: to components outside the deployment, or reports to a router. -/
def NoBurn (D : Deployment W) (e : MessageEnvelope W) : Prop :=
  ¬ Home.Component D e.destinationComponent ∨
    ((∃ σ, e.destinationComponent = (D.satellite σ).homeLoanRouter) ∧ e.actionType ≠ .satelliteRepaymentBurned)

theorem Valid.route_ne_of_noMint (hv : Valid D w) (hσ : σ ≠ D.home.localChainId)
    (hc : (D.satellite σ).canonicalBackingRoutePolicyHash ≠ 0) (hx : (w.satellite σ).endpoint.Executed e payload)
    (hp : NoMint D σ e) : e.routePolicyHash ≠ (D.satellite σ).canonicalBackingRoutePolicyHash := by
  intro hr
  rw [← net_satellite (D := D) hσ] at hx
  obtain ⟨-, hchain, hcomp, -, -, -⟩ := hv.arrived hx
  obtain ⟨-, hhub, -, hwrapped⟩ := D.canonicalRoute σ hc
  rw [← hr] at hhub hwrapped
  rcases hp with hp | hp | hp
  · exact hp (.inl (hcomp.symm.trans hwrapped))
  · exact D.hub_ne_router σ (hhub.symm.trans (D.toSettlementVault _ σ hchain (hcomp.trans hp)).2)
  · exact D.hub_ne_router σ (hhub.symm.trans (D.toCollateralVault _ σ hchain (hcomp.trans hp)).2)

theorem Valid.unminted_eq (hv : Valid D w) (hσ : σ ≠ D.home.localChainId)
    (hc : (D.satellite σ).canonicalBackingRoutePolicyHash ≠ 0)
    (hx : s.endpoint.ExecutesOnly (w.satellite σ).endpoint (NoMint D σ)) :
    w.home.hub.locks.sum ((w.satellite σ).unminted D σ) = w.home.hub.locks.sum (s.unminted D σ) := by
  refine sum_congr (unminted_vanishes D σ _) (unminted_vanishes D σ s) fun x => ?_
  unfold unminted
  by_cases hr : (w.home.hub.locks x).state = .locked ∧
      (w.home.hub.locks x).routePolicyHash = (D.satellite σ).canonicalBackingRoutePolicyHash
  · obtain ⟨e, hid, -, evidence⟩ := hv.lockMessage (x := x) (by simp [hr.1])
    rcases hx (w.home.hub.locks x).messageId with heq | ⟨e', payload, hexec, hm, hp⟩
    · rw [heq]
    · obtain ⟨-, r, hmem⟩ := id hexec
      have ordered := (hv.net σ).ordered
      rw [net_satellite hσ] at ordered
      obtain rfl := (ordered.executedLog e' r hmem).1.eq hid (hm.trans evidence.messageId)
      exact absurd (evidence.route.trans hr.2) (hv.route_ne_of_noMint hσ hc hexec hp)
  · rw [if_neg fun h => hr ⟨h.1, h.2.1⟩, if_neg fun h => hr ⟨h.1, h.2.1⟩]

/-- The message of a burn goes to the hub, or as a repayment to the router. -/
theorem not_noBurn {d : BurnDispatch W}
    (evidence : Satellite.BurnEvidence D σ s b e d payload)
    (hdest : e.destinationComponent = (D.routes d.routePolicyHash).destinationComponent) : ¬ NoBurn D e := by
  intro hp
  cases evidence.message with
  | permanent _ destination | redeemable _ _ destination =>
    rcases hp with hp | ⟨⟨σ', hp⟩, -⟩
    · exact hp (.inl (hdest.trans destination))
    · exact D.hub_ne_router σ' ((hdest.trans destination).symm.trans hp)
  | repayment _ action destination =>
    rcases hp with hp | ⟨-, hp⟩
    · exact hp (.inr ⟨σ, hdest.trans destination⟩)
    · exact hp (evidence.action.trans action)

theorem Valid.unreleased_eq (hv : Valid D w) (hσ : σ ≠ D.home.localChainId)
    (hx : h.endpoint.ExecutesOnly w.home.endpoint (NoBurn D)) :
    (w.satellite σ).wrapped.burnRecords.sum w.home.unreleased = (w.satellite σ).wrapped.burnRecords.sum h.unreleased := by
  refine sum_congr (Home.unreleased_vanishes _) (Home.unreleased_vanishes _) fun b => ?_
  unfold Home.unreleased
  by_cases hb : ((w.satellite σ).wrapped.burnRecords b).state = .burned
  · obtain ⟨e, d, payload, hid, -, -, hdest, evidence⟩ := hv.burnMessage hσ (b := b) (by simp [hb])
    rcases hx ((w.satellite σ).wrapped.burnRecords b).messageId with heq | ⟨e', payload', hexec, hm, hp⟩
    · rw [heq]
    · obtain ⟨-, r, hmem⟩ := id hexec
      have ordered := (hv.net D.home.localChainId).ordered
      rw [net_home] at ordered
      obtain rfl := (ordered.executedLog e' r hmem).1.eq hid (hm.trans evidence.messageId)
      exact absurd hp (not_noBurn evidence hdest)
  · rw [if_neg fun h => hb h.1, if_neg fun h => hb h.1]

/-! ### Steps on the satellite -/

section

variable {s t : Satellite W} {h : Home W} {env : Env W} {lock : CanonicalUftLockPayload W} {b l : W}

omit [CollisionFree W] in
theorem unrefunded_same [Evm W] {h : Home W} {l : W} {r r' : SettlementRecord W}
    (hid : r'.cancellationId = r.cancellationId) (ha : r'.cancelledAmount = r.cancelledAmount) :
    h.unrefunded l r' = h.unrefunded l r := by
  unfold Home.unrefunded
  rw [hid, ha]

/-- A lock that a mint is executed for is still locked. -/
theorem Valid.locked_of_mint (hv : Valid D w) (hv' : Valid D w') (hσ : σ ≠ D.home.localChainId) (hh : w'.home = w.home)
    (hx : (w'.satellite σ).endpoint.Executed e payload) (evidence : Home.LockEvidence D w.home lock.lockId e)
    (hcan : (D.satellite σ).canonicalBackingRoutePolicyHash ≠ 0)
    (hr : e.routePolicyHash = (D.satellite σ).canonicalBackingRoutePolicyHash)
    (unminted : (w.satellite σ).wrapped.mintMessage lock.lockId = 0) :
    (w.home.hub.locks lock.lockId).state = .locked := by
  rcases (hv.home.locked lock.lockId).known with hs | hs | hs
  · exact absurd hs evidence.recorded
  · exact hs
  · exfalso
    rcases (hv.home.locked lock.lockId).compensated hs with hcomp | ⟨hloan, σ', c, hreport, hc⟩
    · -- Its message is executed, so it was not compensated.
      rw [evidence.messageId, ← hh, ← net_home (D := D)] at hcomp
      rw [← net_satellite (D := D) hσ] at hx
      exact hcomp (hv'.uncompensated hx)
    · -- The loan was refunded, so the lock was minted before and its escrow burned.
      obtain ⟨-, funding, funded⟩ := hv.refundedLock hreport evidence.recorded hc.symm hloan
      have hroute := funded.route
      rw [← evidence.route, hr] at hroute
      obtain rfl := canonicalRoute_inj hcan hroute
      exact funding.minted unminted

/-- A cancellation id names its router and its loan. -/
theorem cancellation_unique {cfg : EndpointConfig W} {r r' : LoanCancellationAuthorization W}
    (h : loanCancellationAuthorizationDigest cfg r = loanCancellationAuthorizationDigest cfg r') :
    r.loanRouter = r'.loanRouter ∧ r.loanId = r'.loanId := by
  have hdata := (CollisionFree.keccak256_inj h).2
  simp only [LoanCancellationAuthorization.data, List.cons.injEq, Datum.address.injEq, Datum.bytes32.injEq] at hdata
  exact ⟨hdata.2.2.1, hdata.2.2.2.1⟩

omit [CollisionFree W] in
theorem router_inj [Evm W] {D : Deployment W} {σ' : Nat}
    (h : (D.satellite σ).homeLoanRouter = (D.satellite σ').homeLoanRouter) : σ = σ' := by
  have hσ := (D.routerOf_eq _ σ).mpr rfl
  rw [h, (D.routerOf_eq _ σ').mpr rfl] at hσ
  exact (Option.some.inj hσ).symm

/-- A refunded cancellation names the satellite and the loan whose escrow was burned under it. -/
theorem Valid.refunded_unique (hv : Valid D w) {id : W} (hid : w.home.hub.cancellationRefund id ≠ 0)
    {r : LoanCancellationAuthorization W} (hr : id = loanCancellationAuthorizationDigest D.home r)
    (hrouter : r.loanRouter = (D.satellite σ).homeLoanRouter) :
    ((w.satellite σ).settlement.records r.loanId).cancellationId ≠ 0 := by
  obtain ⟨σ', c, hreport, rfl⟩ := hv.home.refunds id hid
  obtain ⟨e, payload, hx, hd, -⟩ := id hreport
  have hσ' := hv.remote hx hd
  obtain ⟨hne, -, hcancelled, -⟩ := hv.refund hσ' hreport
  have order := (((hv.satellite σ').settled c.loanId).cancelled (hcancelled.trans_ne hne)).2.2
  rw [hcancelled] at order
  obtain ⟨r', hr', hloan', hrouter'⟩ := hv.cancellation hσ' order
  obtain ⟨hrouters, hloans⟩ := cancellation_unique (hr.symm.trans hr')
  obtain rfl := router_inj (hrouter.symm.trans (hrouters.trans hrouter'))
  rw [hloans, hloan', hcancelled]
  exact hne

variable (hv : Valid D w) (hσ : σ ≠ D.home.localChainId) (hc : Conserved D σ w.home (w.satellite σ))

include hv hσ hc

/-- A mint moves its lock's amount from the way into the supply. -/
theorem Valid.conserved_mint (hv' : Valid D w') (hcan : (D.satellite σ).canonicalBackingRoutePolicyHash ≠ 0)
    (hh : w'.home = w.home) {report : Option (MessageEnvelope W)} {result : W}
    (ok : Satellite.Mintable D σ env e payload lock (w.satellite σ)) (hresult : result ≠ 0)
    (endpoint : (w'.satellite σ).endpoint = (w.satellite σ).endpoint.delivered e report result)
    (wrapped : (w'.satellite σ).wrapped = minted (w.satellite σ).wrapped e lock)
    (refunds : (w'.satellite σ).settlement.records.sum w.home.unrefunded =
      (w.satellite σ).settlement.records.sum w.home.unrefunded) :
    Conserved D σ w.home (w'.satellite σ) := by
  have hx : (w'.satellite σ).endpoint.Executed e payload := by
    rw [endpoint]
    exact .delivered ok.deliverable report result
  obtain ⟨evidence, -, hamount⟩ := hv'.mint hσ hx ok.payload ok.configured ok.route
  rw [hh] at evidence hamount
  have hlocked := hv.locked_of_mint hv' hσ hh hx evidence hcan ok.route ok.unminted
  have hresults (m : W) : (w'.satellite σ).endpoint.coordinator.executionResult m =
      if m = e.messageId then result else (w.satellite σ).endpoint.coordinator.executionResult m := by
    rw [endpoint]
    exact Coordinator.delivered_executionResult
  have hsum := sum_change w.home.hub.locks w.home.hub.locks
    (unminted_vanishes D σ (w.satellite σ)) (unminted_vanishes D σ (w'.satellite σ)) lock.lockId
    fun x hne => by
      unfold unminted
      by_cases hs : (w.home.hub.locks x).state = .locked
      · obtain ⟨e', hid', -, evidence'⟩ := hv.lockMessage (x := x) (by simp [hs])
        have hm : (w.home.hub.locks x).messageId ≠ e.messageId := by
          intro heq
          obtain rfl := hid'.eq ok.deliverable.selfId (evidence'.messageId.symm.trans heq)
          exact hne (lock_unique evidence' evidence)
        rw [hresults, if_neg hm]
      · rw [if_neg fun h => hs h.1, if_neg fun h => hs h.1]
  have before : (w.satellite σ).unminted D σ lock.lockId (w.home.hub.locks lock.lockId) = lock.amount := by
    unfold unminted
    rw [if_pos ⟨hlocked, evidence.route.symm.trans ok.route, evidence.messageId ▸ ok.deliverable.unexecuted⟩, hamount]
  have after : (w'.satellite σ).unminted D σ lock.lockId (w.home.hub.locks lock.lockId) = 0 := by
    unfold unminted
    rw [hresults, if_pos evidence.messageId]
    exact if_neg fun h => hresult h.2.2
  unfold Conserved at hc ⊢
  rw [wrapped, refunds]
  simp only [minted, Token.credit]
  omega

/-- A burn moves its amount from the supply onto the way. -/
theorem Valid.conserved_burn {r : BurnRecord W} (fresh : (w.satellite σ).wrapped.burnMessage b = 0) (hid : e.Sealed)
    (source : e.sourceChainId = σ) (unsent : (w.satellite σ).endpoint.coordinator.messageStates e.messageId = .none)
    (burned : r.state = .burned) (message : r.messageId = e.messageId)
    (executes : t.endpoint.coordinator.executionResult = (w.satellite σ).endpoint.coordinator.executionResult)
    (supply : t.wrapped.token.totalSupply + r.amount = (w.satellite σ).wrapped.token.totalSupply)
    (records : t.wrapped.burnRecords = (w.satellite σ).wrapped.burnRecords.set b r)
    (refunds : t.settlement.records.sum w.home.unrefunded = (w.satellite σ).settlement.records.sum w.home.unrefunded) :
    Conserved D σ w.home t := by
  have hold : w.home.unreleased b ((w.satellite σ).wrapped.burnRecords b) = 0 := by
    unfold Home.unreleased
    rw [(hv.satellite σ).burns.unburned _ fresh]
    exact if_neg fun h => by cases h.1
  have hnew : w.home.unreleased b r = r.amount := by
    refine if_pos ⟨burned, ?_⟩
    rw [message, ← net_home (D := D)]
    exact hv.unexecuted_of_unsent hid source (by rwa [net_satellite hσ])
  have hsum := (w.satellite σ).wrapped.burnRecords.sum_set w.home.unreleased_vanishes b r
  unfold Conserved at hc ⊢
  rw [records, refunds, unminted_congr executes]
  omega

/-- A compensated burn moves its amount from the way back into the supply. -/
theorem Valid.conserved_unburned (hv' : Valid D w') (hh : w'.home = w.home) {r : BurnRecord W}
    (burned : ((w.satellite σ).wrapped.burnRecords b).state = .burned) (state : r.state = .compensated)
    (compensated : (w'.satellite σ).endpoint.recovery.sourceCompensation
      ((w.satellite σ).wrapped.burnRecords b).messageId ≠ 0)
    (executes : (w'.satellite σ).endpoint.coordinator.executionResult =
      (w.satellite σ).endpoint.coordinator.executionResult)
    (supply : (w'.satellite σ).wrapped.token.totalSupply =
      (w.satellite σ).wrapped.token.totalSupply + ((w.satellite σ).wrapped.burnRecords b).amount)
    (records : (w'.satellite σ).wrapped.burnRecords = (w.satellite σ).wrapped.burnRecords.set b r)
    (refunds : (w'.satellite σ).settlement.records.sum w.home.unrefunded =
      (w.satellite σ).settlement.records.sum w.home.unrefunded) :
    Conserved D σ w.home (w'.satellite σ) := by
  have hold : w.home.unreleased b ((w.satellite σ).wrapped.burnRecords b) =
      ((w.satellite σ).wrapped.burnRecords b).amount := by
    obtain ⟨e, d, payload, hid, -, hdest, -, evidence⟩ := hv.burnMessage hσ (b := b) (by simp [burned])
    refine if_pos ⟨burned, ?_⟩
    rw [evidence.messageId, ← net_satellite (D := D) hσ] at compensated
    rw [evidence.messageId, ← hh, ← net_home (D := D)]
    exact hv'.unexecuted_of_compensated hid hdest compensated
  have hnew : w.home.unreleased b r = 0 := if_neg fun h => by
    rw [state] at h
    cases h.1
  have hsum := (w.satellite σ).wrapped.burnRecords.sum_set w.home.unreleased_vanishes b r
  unfold Conserved at hc ⊢
  rw [records, refunds, unminted_congr executes]
  omega

/-- A cancellation moves the escrow from the supply onto the way. -/
theorem Valid.conserved_cancel (hv' : Valid D w') (hcan : (D.satellite σ).canonicalBackingRoutePolicyHash ≠ 0)
    (hh : w'.home = w.home) {r : SettlementRecord W}
    (uncancelled : ((w.satellite σ).settlement.records l).cancellationId = 0)
    (order : Satellite.CancellationOrder D σ (w'.satellite σ) l r.cancellationId)
    (executes : (w.satellite σ).endpoint.ExecutesOnly (w'.satellite σ).endpoint (NoMint D σ))
    (supply : (w'.satellite σ).wrapped.token.totalSupply + r.cancelledAmount =
      (w.satellite σ).wrapped.token.totalSupply)
    (burns : (w'.satellite σ).wrapped.burnRecords = (w.satellite σ).wrapped.burnRecords)
    (records : (w'.satellite σ).settlement.records = (w.satellite σ).settlement.records.set l r) :
    Conserved D σ w.home (w'.satellite σ) := by
  have hlocks := hv'.unminted_eq hσ hcan executes
  rw [hh] at hlocks
  have hold : w.home.unrefunded l ((w.satellite σ).settlement.records l) = 0 := by
    unfold Home.unrefunded
    rw [((hv.satellite σ).settled l).uncancelled uncancelled, ite_self]
  have hnew : w.home.unrefunded l r = r.cancelledAmount := by
    refine if_pos ?_
    obtain ⟨a, hid, hloan, hrouter⟩ := hv'.cancellation hσ order
    by_contra hne
    exact hv.refunded_unique hne hid hrouter (hloan ▸ uncancelled)
  have hsum := (w.satellite σ).settlement.records.sum_set w.home.unrefunded_vanishes l r
  unfold Conserved at hc ⊢
  rw [burns, records, hlocks]
  omega

theorem Valid.conserved_satellite (hv' : Valid D w') (hcan : (D.satellite σ).canonicalBackingRoutePolicyHash ≠ 0)
    (hh : w'.home = w.home) (ht : w'.satellite σ = t) (step : Satellite.Step D σ env (w.satellite σ) t) :
    Conserved D σ w.home t := by
  have vanishes := w.home.unrefunded_vanishes
  -- A step that mints nothing, burns nothing and cancels nothing.
  have still (supply : t.wrapped.token.totalSupply = (w.satellite σ).wrapped.token.totalSupply)
      (burns : t.wrapped.burnRecords = (w.satellite σ).wrapped.burnRecords)
      (refunds : t.settlement.records.sum w.home.unrefunded = (w.satellite σ).settlement.records.sum w.home.unrefunded)
      (executes : (w.satellite σ).endpoint.ExecutesOnly t.endpoint (NoMint D σ)) : Conserved D σ w.home t := by
    subst ht
    have hlocks := hv'.unminted_eq hσ hcan executes
    rw [hh] at hlocks
    unfold Conserved at hc ⊢
    rw [supply, burns, refunds, hlocks]
    exact hc
  cases step with
  | idle => exact hc
  | foreign step => exact still rfl rfl rfl ((Endpoint.ExecutesOnly.foreign step).mono fun _ h => .inl h)
  | transferWrapped supply => exact still supply rfl rfl (.of_eq rfl)
  | transferCollateral | lockCollateral | recompensate => exact still rfl rfl rfl (.of_eq rfl)
  | @burn d _ _ ok =>
    have hle := ok.covered.trans ((w.satellite σ).wrapped.token.balance_le_supply d.account)
    refine hv.conserved_burn hσ hc ok.unburned ok.out.selfId (ok.out.sourceChainId.trans (D.localChainId σ)) ok.out.fresh
      rfl rfl rfl ?_ rfl rfl
    simp only [burned, WrappedUFT.recordBurn, Token.debit]
    omega
  | @repay d _ _ _ ok found =>
    subst found
    have hle := ok.covered.trans ((w.satellite σ).wrapped.token.balance_le_supply d.account)
    refine hv.conserved_burn hσ hc ok.unburned ok.out.selfId (ok.out.sourceChainId.trans (D.localChainId σ)) ok.out.fresh
      rfl rfl rfl ?_ rfl (sum_set_same _ vanishes (unrefunded_same rfl rfl))
    simp only [burned, WrappedUFT.recordBurn, Token.debit]
    omega
  | @provision p ok =>
    have settled := (hv.satellite σ).settled p.loanId
    have hnone := (settled.unknown ok.unsettled).2.2
    exact still rfl rfl (sum_set_same _ vanishes (unrefunded_same hnone.symm (settled.uncancelled hnone).symm)) (.of_eq rfl)
  | mint ok _ hresult =>
    rw [← ht]
    exact hv.conserved_mint hσ hc hv' hcan hh ok hresult (by rw [ht]) (by rw [ht]) (by rw [ht])
  | escrow ok found _ _ _ _ _ hresult =>
    subst found
    rw [← ht]
    refine hv.conserved_mint hσ hc hv' hcan hh ok hresult (by rw [ht]) (by rw [ht]) ?_
    rw [ht]
    exact sum_set_same _ vanishes (unrefunded_same rfl rfl)
  | disburse ok destination _ _ found =>
    subst found
    exact still rfl rfl (sum_set_same _ vanishes (unrefunded_same rfl rfl))
      (.delivered ok _ _ (.inr (.inl destination)))
  | @cancel e _ payload action _ _ _ _ ok destination haction hpayload _ found _ _ _ uncancelled _ covered =>
    subst found
    have hle := covered.trans ((w.satellite σ).wrapped.token.balance_le_supply _)
    rw [← ht]
    refine hv.conserved_cancel hσ hc hv' hcan hh uncancelled ?_ ?_ ?_ ?_ (by rw [ht]; rfl) <;> rw [ht]
    · exact ⟨e, payload, action, .delivered ok _ _, destination, haction, hpayload, rfl, rfl⟩
    · exact .delivered ok _ _ (.inr (.inl destination))
    · simp only [escrowBurned, Token.debit]
      omega
    · rfl
  | release ok destination =>
    exact still rfl rfl rfl (.delivered ok _ _ (.inr (.inr destination)))
  | @compensate _ r _ _ burnId result _ _ settlement _ _ found message isBurned vault hresult =>
    subst found
    have refunds : settlement.records.sum w.home.unrefunded =
        (w.satellite σ).settlement.records.sum w.home.unrefunded := by
      rcases vault with rfl | ⟨loanId, consumed, amount, rfl⟩
      · rfl
      · exact sum_set_same _ vanishes (unrefunded_same rfl rfl)
    rw [← ht]
    refine hv.conserved_unburned hσ hc hv' hh (b := burnId) (r := { (w.satellite σ).wrapped.burnRecords burnId with
      state := .compensated, compensationResult := result }) isBurned rfl ?_ ?_ ?_ ?_ ?_ <;> rw [ht]
    · rw [message, Endpoint.compensated_sourceCompensation, if_pos rfl]
      exact hresult
    · rfl
    · rfl
    · rfl
    · exact refunds

end

/-! ### Steps on the home chain -/

section

variable {t h : Home W} {env : Env W} {r : LockRecord W} {x l : W} {c : SatelliteFundingCancelledPayload W}
  {σ' amount : Nat}

/-- A lock moves its amount into the backing of its route and onto the way. -/
theorem Valid.conserved_lock (hv : Valid D w) (hσ : σ ≠ D.home.localChainId) (hc : Conserved D σ w.home (w.satellite σ))
    (fresh : (w.home.hub.locks x).state = .none) (hid : e.Sealed) (source : e.sourceChainId = D.home.localChainId)
    (unsent : w.home.endpoint.coordinator.messageStates e.messageId = .none) (state : r.state = .locked)
    (message : r.messageId = e.messageId)
    (backing : t.hub.routeBacking = w.home.hub.routeBacking.modify r.routePolicyHash (· + r.amount))
    (locks : t.hub.locks = w.home.hub.locks.set x r)
    (refunds : t.hub.cancellationRefund = w.home.hub.cancellationRefund)
    (executes : t.endpoint.coordinator.executionResult = w.home.endpoint.coordinator.executionResult) :
    Conserved D σ t (w.satellite σ) := by
  have hold : (w.satellite σ).unminted D σ x (w.home.hub.locks x) = 0 := if_neg fun h => by
    rw [fresh] at h
    cases h.1
  have hunexecuted : (w.satellite σ).endpoint.coordinator.executionResult r.messageId = 0 := by
    rw [message, ← net_satellite (D := D) hσ]
    exact hv.unexecuted_of_unsent hid source (by rwa [net_home])
  have hsum := w.home.hub.locks.sum_set (unminted_vanishes D σ (w.satellite σ)) x r
  unfold Conserved at hc ⊢
  rw [backing, locks, Home.unrefunded_congr refunds, Home.unreleased_congr executes, modify_apply]
  by_cases hr : r.routePolicyHash = (D.satellite σ).canonicalBackingRoutePolicyHash
  · have hnew : (w.satellite σ).unminted D σ x r = r.amount := if_pos ⟨state, hr, hunexecuted⟩
    rw [if_pos hr.symm]
    omega
  · have hnew : (w.satellite σ).unminted D σ x r = 0 := if_neg fun h => hr h.2.1
    rw [if_neg (Ne.symm hr)]
    omega

/-- What a refund does to the cancelled loans of a satellite: the loan that it names is settled. -/
theorem Valid.unrefunded_change (hv : Valid D w') (hσ : σ ≠ D.home.localChainId)
    (hreport : Home.RefundReport D w'.home σ' c) (hl : l ≠ 0)
    (unrefunded : h.hub.cancellationRefund c.cancellationId = 0)
    (refunds : w'.home.hub.cancellationRefund = h.hub.cancellationRefund.set c.cancellationId l) :
    (w'.satellite σ).settlement.records.sum h.unrefunded =
      (w'.satellite σ).settlement.records.sum w'.home.unrefunded + if σ' = σ then c.amount else 0 := by
  obtain ⟨e, payload, hx, hd, -⟩ := id hreport
  have hσ' := hv.remote hx hd
  obtain ⟨hid, -, hcancelled, hamount⟩ := hv.refund hσ' hreport
  have order := (((hv.satellite σ').settled c.loanId).cancelled (hcancelled.trans_ne hid)).2.2
  rw [hcancelled] at order
  obtain ⟨r, hr, hloan, hrouter⟩ := hv.cancellation hσ' order
  -- Another loan with the same cancellation id would have the same authorisation.
  have off (l' : W) (hne : ((w'.satellite σ).settlement.records l').cancellationId = c.cancellationId) :
      σ' = σ ∧ l' = c.loanId := by
    have order' := (((hv.satellite σ).settled l').cancelled (hne.trans_ne hid)).2.2
    rw [hne] at order'
    obtain ⟨r', hr', hloan', hrouter'⟩ := hv.cancellation hσ order'
    obtain ⟨hrouters, hloans⟩ := cancellation_unique (hr.symm.trans hr')
    exact ⟨router_inj (hrouter.symm.trans (hrouters.trans hrouter')), hloan'.symm.trans (hloans.symm.trans hloan)⟩
  have same (l' : W) (hne : ((w'.satellite σ).settlement.records l').cancellationId ≠ c.cancellationId) :
      h.unrefunded l' ((w'.satellite σ).settlement.records l') =
        w'.home.unrefunded l' ((w'.satellite σ).settlement.records l') := by
    unfold Home.unrefunded
    rw [refunds, set_of_ne _ _ hne]
  by_cases heq : σ' = σ
  · subst heq
    have hsum := sum_change (w'.satellite σ').settlement.records (w'.satellite σ').settlement.records
      h.unrefunded_vanishes w'.home.unrefunded_vanishes c.loanId fun l' hne => same l' fun h => hne (off l' h).2
    have hold : h.unrefunded c.loanId ((w'.satellite σ').settlement.records c.loanId) = c.amount := by
      unfold Home.unrefunded
      rw [hcancelled, if_pos unrefunded, hamount]
    have hnew : w'.home.unrefunded c.loanId ((w'.satellite σ').settlement.records c.loanId) = 0 := by
      unfold Home.unrefunded
      rw [refunds, hcancelled, set_self, if_neg hl]
    rw [if_pos rfl]
    omega
  · rw [if_neg heq, Nat.add_zero]
    exact sum_congr h.unrefunded_vanishes w'.home.unrefunded_vanishes fun l' => same l' fun h => heq (off l' h).1

theorem Valid.burned_of_executed (hv : Valid D w) (hσ : σ ≠ D.home.localChainId)
    (hx : w.home.endpoint.Executed e payload) {b : W} {d : BurnDispatch W} {payload' : Payload W}
    (evidence : Satellite.BurnEvidence D σ (w.satellite σ) b e d payload') :
    ((w.satellite σ).wrapped.burnRecords b).state = .burned := by
  cases hb : ((w.satellite σ).wrapped.burnRecords b).state with
  | none => exact absurd hb evidence.recorded
  | burned => rfl
  | compensated =>
    have hcomp := (hv.satellite σ).burns.compensated b hb
    rw [evidence.messageId, ← net_satellite (D := D) hσ] at hcomp
    rw [← net_home (D := D)] at hx
    exact absurd (hv.uncompensated hx) hcomp

omit [CollisionFree W] in
/-- What the hub reads from a burn's message is what was burned. -/
theorem exit_payload [Evm W] {D : Deployment W} {d : BurnDispatch W} {x : BurnDisposition W}
    (message : Satellite.BurnMessage D σ d payload) (exit : Hub.ExitPayload d.actionType payload x) :
    x.backingRoutePolicyHash = d.backingRoutePolicyHash ∧ d.amount = x.amount := by
  cases exit with
  | permanent action _ hpayload _ route amount =>
    cases message with
    | permanent =>
      obtain rfl := Option.some.inj hpayload
      exact ⟨route, amount.symm⟩
    | redeemable _ action' | repayment _ action' => exact absurd (action.symm.trans action') (by simp)
  | redeemable action _ hpayload _ route amount =>
    cases message with
    | permanent action' | repayment _ action' => exact absurd (action.symm.trans action') (by simp)
    | redeemable =>
      obtain rfl := Option.some.inj hpayload
      exact ⟨route, amount.symm⟩

omit [CollisionFree W] in
/-- What the router reads from a repayment's message is what was burned for it. -/
theorem repayment_payload [Evm W] {D : Deployment W} {d : BurnDispatch W} {burn : SatelliteRepaymentBurnedPayload W}
    (message : Satellite.BurnMessage D σ d payload) (action : d.actionType = .satelliteRepaymentBurned)
    (hpayload : SatelliteRepaymentBurnedPayload.decode payload = some burn) :
    burn.loanId = d.loanId ∧ burn.amount = d.amount := by
  cases message with
  | permanent action' | redeemable _ action' => exact absurd (action.symm.trans action') (by simp)
  | repayment =>
    obtain rfl := Option.some.inj hpayload
    exact ⟨rfl, rfl⟩

/-- The satellite's burn that a home message executes, and the route that backs it. -/
theorem Valid.exit_burn (hv : Valid D w) (hσ : σ ≠ D.home.localChainId)
    (hcan : (D.satellite σ).canonicalBackingRoutePolicyHash ≠ 0) {d : BurnDisposition W} {hub : Hub W}
    (hx : w.home.endpoint.Executed e payload) (exitable : hub.Exitable D e payload d) :
    (∀ b x, Satellite.BurnEvidence D σ (w.satellite σ) b e x payload →
      d.backingRoutePolicyHash = (D.satellite σ).canonicalBackingRoutePolicyHash ∧ x.amount = d.amount) ∧
    (d.backingRoutePolicyHash = (D.satellite σ).canonicalBackingRoutePolicyHash →
      ∃ b x, Satellite.BurnEvidence D σ (w.satellite σ) b e x payload) := by
  refine ⟨fun b x evidence => ?_, fun hr => ?_⟩
  · have hexit := exitable.payload
    rw [evidence.action] at hexit
    obtain ⟨hroute, hamount⟩ := exit_payload evidence.message hexit
    exact ⟨hroute.trans evidence.backing, hamount⟩
  · obtain ⟨-, -, hchain, hwrapped⟩ := D.canonicalRoute σ hcan
    refine hv.burn hσ hx ?_ ?_
    · rw [← exitable.chain, hr, hchain]
    · rw [← exitable.component, hr, hwrapped]

/-- The satellite's repayment that a router executes, and the lock of its loan. -/
theorem Valid.repayment_burn (hv : Valid D w) (hσ : σ ≠ D.home.localChainId) {burn : SatelliteRepaymentBurnedPayload W}
    (hx : w.home.endpoint.Executed e payload) (hd : e.destinationComponent = (D.satellite σ').homeLoanRouter)
    (ha : e.actionType = .satelliteRepaymentBurned) (hp : SatelliteRepaymentBurnedPayload.decode payload = some burn)
    (hloan : l = burn.loanId) (hl : l ≠ 0) (hamount : amount = burn.amount) :
    (∀ b x, Satellite.BurnEvidence D σ (w.satellite σ) b e x payload →
      (w.home.hub.locks (w.home.hub.loanLock l)).routePolicyHash = (D.satellite σ).canonicalBackingRoutePolicyHash ∧
        x.amount = amount) ∧
    ((w.home.hub.locks (w.home.hub.loanLock l)).routePolicyHash = (D.satellite σ).canonicalBackingRoutePolicyHash →
      ∃ b x, Satellite.BurnEvidence D σ (w.satellite σ) b e x payload) := by
  subst hloan hamount
  have hσ' := hv.remote hx hd
  obtain ⟨hsent, ⟨-, hreport⟩ | ⟨hfrom, -⟩⟩ := hv.atRouter hσ' hx hd
  · rw [ha] at hreport
    cases hreport
  have hsource := (((hv.satellite σ').routed e hsent).sourceChainId).trans (D.localChainId σ')
  obtain ⟨b', x', evidence'⟩ := hv.burn hσ' hx hsource hfrom
  have haction := evidence'.action.symm.trans ha
  obtain ⟨hloan, -⟩ := repayment_payload evidence'.message haction hp
  have funding := ((hv.satellite σ').settled x'.loanId).funded (.inr (.inl (evidence'.disbursed haction).2))
  have funded := hv.funding hσ' funding
  have hlock := ((hv.home.locked _).loan funded.recorded (funded.loan.trans_ne (hloan ▸ hl))).2
  have hroute := funded.route
  rw [← hlock, funded.loan, ← hloan] at hroute
  refine ⟨fun b x evidence => ?_, fun hr => ?_⟩
  · obtain ⟨e₂, d₂, payload₂, hid, hσ₂, -, -, evidence₂⟩ := hv.burnMessage hσ evidence.recorded
    obtain ⟨-, r, hmem⟩ := id hx
    have ordered := (hv.net D.home.localChainId).ordered
    rw [net_home] at ordered
    obtain rfl := hid.eq (ordered.executedLog e r hmem).1 (evidence₂.messageId.symm.trans evidence.messageId)
    obtain rfl : σ' = σ := hsource.symm.trans hσ₂
    exact ⟨hroute, (repayment_payload evidence.message (evidence.action.symm.trans ha) hp).2.symm⟩
  · obtain rfl := canonicalRoute_inj funding.configured (hroute.symm.trans hr)
    exact ⟨b', x', evidence'⟩

variable (hv' : Valid D w') (hσ : σ ≠ D.home.localChainId) (hs : w'.satellite σ = w.satellite σ)
  (hc : Conserved D σ w.home (w.satellite σ))

include hv' hσ hs hc

/-- A compensated lock leaves the backing of its route and the way. -/
theorem Valid.conserved_unlock (hv : Valid D w) (hcan : (D.satellite σ).canonicalBackingRoutePolicyHash ≠ 0)
    (isLocked : (w.home.hub.locks x).state = .locked) (state : r.state = .compensated)
    (compensated : w'.home.endpoint.recovery.sourceCompensation (w.home.hub.locks x).messageId ≠ 0)
    (covered : (w.home.hub.locks x).amount ≤ w.home.hub.routeBacking (w.home.hub.locks x).routePolicyHash)
    (backing : w'.home.hub.routeBacking =
      w.home.hub.routeBacking.modify (w.home.hub.locks x).routePolicyHash (· - (w.home.hub.locks x).amount))
    (locks : w'.home.hub.locks = w.home.hub.locks.set x r)
    (refunds : w'.home.hub.cancellationRefund = w.home.hub.cancellationRefund)
    (executes : w'.home.endpoint.coordinator.executionResult = w.home.endpoint.coordinator.executionResult) :
    Conserved D σ w'.home (w.satellite σ) := by
  have hnew : (w.satellite σ).unminted D σ x r = 0 := if_neg fun h => by
    rw [state] at h
    cases h.1
  have hsum := w.home.hub.locks.sum_set (unminted_vanishes D σ (w.satellite σ)) x r
  unfold Conserved at hc ⊢
  rw [backing, locks, Home.unrefunded_congr refunds, Home.unreleased_congr executes, modify_apply]
  by_cases hr : (w.home.hub.locks x).routePolicyHash = (D.satellite σ).canonicalBackingRoutePolicyHash
  · have hold : (w.satellite σ).unminted D σ x (w.home.hub.locks x) = (w.home.hub.locks x).amount := by
      -- The mint is tombstoned on the satellite, so it was not executed there.
      obtain ⟨e, hid, hsent, evidence⟩ := hv.lockMessage (x := x) (by simp [isLocked])
      refine if_pos ⟨isLocked, hr, ?_⟩
      have hdest : e.destinationChainId = σ := by
        rw [(hv.home.routed e hsent).identity.destinationChainId, evidence.route, hr]
        exact (D.canonicalRoute σ hcan).2.2.1
      rw [evidence.messageId, ← net_home (D := D)] at compensated
      rw [evidence.messageId, ← hs, ← net_satellite (D := D) hσ]
      exact hv'.unexecuted_of_compensated hid hdest compensated
    rw [hr] at covered
    rw [if_pos hr.symm]
    omega
  · have hold : (w.satellite σ).unminted D σ x (w.home.hub.locks x) = 0 := if_neg fun h => hr h.2.1
    rw [if_neg (Ne.symm hr)]
    omega

/-- A refund leaves the backing of its lock's route and the way. -/
theorem Valid.conserved_refund (hreport : Home.RefundReport D w'.home σ' c)
    (loan : (w.home.hub.locks x).loanId = c.loanId) (isLoan : c.loanId ≠ 0)
    (terms : r.terms = (w.home.hub.locks x).terms) (state : r.state = .compensated)
    (unrefunded : w.home.hub.cancellationRefund c.cancellationId = 0)
    (covered : c.amount ≤ w.home.hub.routeBacking (w.home.hub.locks x).routePolicyHash)
    (backing : w'.home.hub.routeBacking = w.home.hub.routeBacking.modify (w.home.hub.locks x).routePolicyHash (· - c.amount))
    (locks : w'.home.hub.locks = w.home.hub.locks.set x r)
    (refunds : w'.home.hub.cancellationRefund = w.home.hub.cancellationRefund.set c.cancellationId c.loanId)
    (executes : w.home.endpoint.ExecutesOnly w'.home.endpoint (NoBurn D)) : Conserved D σ w'.home (w.satellite σ) := by
  have hx : w'.home.hub.locks x = { w.home.hub.locks x with state := r.state } := by
    rw [locks, set_self]
    exact LockRecord.eq_of_terms terms
  -- The lock was minted on the satellite that reports its cancellation.
  obtain ⟨-, funding, funded⟩ := hv'.refundedLock hreport (x := x) (by rw [hx, state]; simp)
    (by rw [hx]; exact loan) (by rw [hx]; exact loan.trans_ne isLoan)
  have hroute := funded.route
  have hexecuted := funded.executed
  rw [hx] at hroute hexecuted
  have hold : (w.satellite σ).unminted D σ x (w.home.hub.locks x) = 0 := by
    refine if_neg fun h => ?_
    obtain rfl := canonicalRoute_inj funding.configured (hroute.symm.trans h.2.1)
    rw [hs] at hexecuted
    exact hexecuted h.2.2
  have hnew : (w.satellite σ).unminted D σ x r = 0 := if_neg fun h => by
    rw [state] at h
    cases h.1
  have hsum := w.home.hub.locks.sum_set (unminted_vanishes D σ (w.satellite σ)) x r
  have hburns := hv'.unreleased_eq hσ executes
  have hrefunds := hv'.unrefunded_change hσ hreport isLoan unrefunded refunds
  rw [hs] at hburns hrefunds
  unfold Conserved at hc ⊢
  rw [backing, locks, modify_apply, hburns]
  by_cases heq : σ' = σ
  · subst heq
    rw [if_pos rfl] at hrefunds
    rw [hroute] at covered
    rw [if_pos hroute.symm]
    omega
  · rw [if_neg heq] at hrefunds
    rw [if_neg fun h => heq (canonicalRoute_inj funding.configured (hroute.symm.trans h.symm))]
    omega

/-- An executed burn leaves the backing of its route and the way. -/
theorem Valid.conserved_release {route result : W} {report : Option (MessageEnvelope W)}
    (ok : Deliverable D.home.toCoordinatorConfig env e payload w.home.endpoint.coordinator) (hresult : result ≠ 0)
    (endpoint : w'.home.endpoint = w.home.endpoint.delivered e report result)
    (covered : amount ≤ w.home.hub.routeBacking route)
    (backing : w'.home.hub.routeBacking = w.home.hub.routeBacking.modify route (· - amount))
    (locks : w'.home.hub.locks = w.home.hub.locks)
    (refunds : w'.home.hub.cancellationRefund = w.home.hub.cancellationRefund)
    (of_burn : ∀ b d, Satellite.BurnEvidence D σ (w'.satellite σ) b e d payload →
      route = (D.satellite σ).canonicalBackingRoutePolicyHash ∧ d.amount = amount)
    (burn : route = (D.satellite σ).canonicalBackingRoutePolicyHash →
      ∃ b d, Satellite.BurnEvidence D σ (w'.satellite σ) b e d payload) :
    Conserved D σ w'.home (w.satellite σ) := by
  have hx : w'.home.endpoint.Executed e payload := by
    rw [endpoint]
    exact .delivered ok report result
  have hresults (m : W) : w'.home.endpoint.coordinator.executionResult m =
      if m = e.messageId then result else w.home.endpoint.coordinator.executionResult m := by
    rw [endpoint]
    exact Coordinator.delivered_executionResult
  -- Another burn has another message.
  have same (b : W) (hother : ∀ d, ¬ Satellite.BurnEvidence D σ (w'.satellite σ) b e d payload) :
      w.home.unreleased b ((w'.satellite σ).wrapped.burnRecords b) =
        w'.home.unreleased b ((w'.satellite σ).wrapped.burnRecords b) := by
    unfold Home.unreleased
    by_cases hb : ((w'.satellite σ).wrapped.burnRecords b).state = .burned
    · obtain ⟨e', d, payload', hid, -, -, -, evidence⟩ := hv'.burnMessage hσ (b := b) (by simp [hb])
      have hm : ((w'.satellite σ).wrapped.burnRecords b).messageId ≠ e.messageId := by
        intro heq
        obtain rfl := hid.eq ok.selfId (evidence.messageId.symm.trans heq)
        obtain rfl := payloadHash_inj (evidence.payload.symm.trans hx.1)
        exact hother d evidence
      rw [hresults, if_neg hm]
    · rw [if_neg fun h => hb h.1, if_neg fun h => hb h.1]
  unfold Conserved at hc ⊢
  rw [backing, locks, Home.unrefunded_congr refunds, modify_apply]
  by_cases hr : route = (D.satellite σ).canonicalBackingRoutePolicyHash
  · obtain ⟨b, d, evidence⟩ := burn hr
    have hsum := sum_change (w'.satellite σ).wrapped.burnRecords (w'.satellite σ).wrapped.burnRecords
      w.home.unreleased_vanishes w'.home.unreleased_vanishes b
      fun b' hne => same b' fun d' h => hne (burn_unique h evidence)
    have hold : w.home.unreleased b ((w'.satellite σ).wrapped.burnRecords b) = amount := by
      unfold Home.unreleased
      rw [if_pos ⟨hv'.burned_of_executed hσ hx evidence, evidence.messageId ▸ ok.unexecuted⟩, evidence.amount]
      exact (of_burn b d evidence).2
    have hnew : w'.home.unreleased b ((w'.satellite σ).wrapped.burnRecords b) = 0 := by
      unfold Home.unreleased
      rw [hresults, if_pos evidence.messageId]
      exact if_neg fun h => hresult h.2
    rw [hs] at hsum hold hnew
    rw [hr] at covered
    rw [if_pos hr.symm]
    omega
  · have hsum := sum_congr (m := (w'.satellite σ).wrapped.burnRecords) w.home.unreleased_vanishes
      w'.home.unreleased_vanishes fun b => same b fun d h => hr (of_burn b d h).1
    rw [hs] at hsum
    rw [if_neg (Ne.symm hr), ← hsum]
    exact hc

theorem Valid.conserved_home (hv : Valid D w) (hcan : (D.satellite σ).canonicalBackingRoutePolicyHash ≠ 0)
    (ht : w'.home = t) (step : Home.Step D env w.home t) : Conserved D σ t (w.satellite σ) := by
  -- A step that locks nothing, releases nothing and refunds nothing.
  have still (backing : t.hub.routeBacking = w.home.hub.routeBacking) (locks : t.hub.locks = w.home.hub.locks)
      (refunds : t.hub.cancellationRefund = w.home.hub.cancellationRefund)
      (executes : w.home.endpoint.ExecutesOnly t.endpoint (NoBurn D)) : Conserved D σ t (w.satellite σ) := by
    subst ht
    have hburns := hv'.unreleased_eq hσ executes
    rw [hs] at hburns
    unfold Conserved at hc ⊢
    rw [backing, locks, Home.unrefunded_congr refunds, hburns]
    exact hc
  -- A report to a router moves no value on the hub.
  have reported {σ' : Nat} {e : MessageEnvelope W} {payload : Payload W} {sent : Option (MessageEnvelope W)} {r : W}
      (ok : Deliverable D.home.toCoordinatorConfig env e payload w.home.endpoint.coordinator)
      (hd : e.destinationComponent = (D.satellite σ').homeLoanRouter) (ha : e.actionType ≠ .satelliteRepaymentBurned) :
      w.home.endpoint.ExecutesOnly (w.home.endpoint.delivered e sent r) (NoBurn D) :=
    .delivered ok sent r (.inr ⟨⟨σ', hd⟩, ha⟩)
  cases step with
  | idle => exact hc
  | foreign step => exact still rfl rfl rfl ((Endpoint.ExecutesOnly.foreign step).mono fun _ h => .inl h)
  | hold | register | requestCancellation => exact still rfl rfl rfl (.of_eq rfl)
  | lock ok _ out =>
    exact hv.conserved_lock hσ hc ok.fresh out.selfId out.sourceChainId out.fresh rfl rfl rfl rfl rfl rfl
  | create _ lockable _ _ _ _ out =>
    exact hv.conserved_lock hσ hc lockable.fresh out.selfId out.sourceChainId out.fresh rfl rfl rfl rfl rfl rfl
  | repayDirectly =>
    exact still rfl rfl rfl (.of_eq Coordinator.recordSends_executionResult)
  | reportMint ok action | reportCollateral ok action | reportDisbursement ok action | reportRelease ok action =>
    exact still rfl rfl rfl (reported ok.deliverable ok.destination (by simp [action]))
  | @refund σ' _ _ c _ _ _ _ _ _ _ ok destination action hpayload known registered _ unrefunded _ refundable =>
    subst registered
    have hloan := hv.home.registered.loan σ' c.loanId known
    have hlock := refundable.lockLoan.trans hloan
    have hcovers := refundable.covers.route
    rw [← ht]
    refine hv'.conserved_refund hσ hs hc (.delivered ok destination action hpayload (by rw [ht]; rfl)) hlock
      (hloan ▸ refundable.isLoan) (r := { w.home.hub.locks _ with state := .compensated }) rfl rfl refundable.unrefunded
      hcovers ?_ ?_ ?_ ?_ <;> rw [ht]
    · rw [← refundable.lockAmount]
      rfl
    · rfl
    · exact congrArg (w.home.hub.cancellationRefund.set c.cancellationId) hloan
    · exact reported ok destination (by simp [action])
  | @repay σ' e payload burn a result d acc sent token surplus ok destination action hpayload known registered active
      loanId le repayable dLoan dBurn dAmount backed asks hresult =>
    have hx : w'.home.endpoint.Executed e payload := by
      rw [ht]
      exact .delivered ok _ _
    obtain ⟨of_burn, conv⟩ := hv'.repayment_burn hσ hx destination action hpayload dLoan repayable.loanId dAmount
    have hroute : (w'.home.hub.locks (w'.home.hub.loanLock d.loanId)).routePolicyHash = d.backingRoutePolicyHash := by
      rw [ht]
      exact repayable.route.symm
    rw [hroute] at of_burn conv
    rw [← ht]
    exact hv'.conserved_release hσ hs hc ok hresult (by rw [ht]; rfl) repayable.covers.route (by rw [ht]; rfl)
      (by rw [ht]; rfl) (by rw [ht]; rfl) of_burn conv
  | @exit e payload _ _ _ _ ok _ exitable _ hresult =>
    have hx : w'.home.endpoint.Executed e payload := by
      rw [ht]
      exact .delivered ok _ _
    obtain ⟨of_burn, conv⟩ := hv'.exit_burn hσ hcan hx exitable
    rw [← ht]
    exact hv'.conserved_release hσ hs hc ok hresult (by rw [ht]) exitable.covers.route (by rw [ht]; rfl)
      (by rw [ht]; rfl) (by rw [ht]; rfl) of_burn conv
  | @compensate _ _ _ _ lockId _ _ _ _ _ _ compensable _ _ hresult
  | @compensateLoan _ _ _ _ lockId _ _ _ _ _ _ _ _ _ _ compensable _ _ _ _ _ _ _ hresult =>
    rw [← ht]
    refine hv'.conserved_unlock hσ hs hc hv (x := lockId) (r := { w.home.hub.locks lockId with state := .compensated })
      hcan compensable.isLocked rfl ?_ compensable.covers.route ?_ ?_ ?_ ?_ <;> rw [ht]
    · rw [compensable.message, Endpoint.compensated_sourceCompensation, if_pos rfl]
      exact hresult
    · rfl
    · rfl
    · rfl
    · exact Coordinator.recordSends_executionResult

end

/-! ### Executed burns -/

section

variable {h t : Home W} {env : Env W} {d : BurnDisposition W}

/-- The message is no burn, or the hub has consumed its burn id. -/
def Settles (D : Deployment W) (h : Home W) (e : MessageEnvelope W) : Prop :=
  NoBurn D e ∨ ∃ payload b, e.payloadHash = payloadHash payload ∧ payload.head? = some (.bytes32 b) ∧
    h.hub.consumedBurn b = true

omit [CollisionFree W] in
theorem exit_head [Evm W] {a : CrossChainActionType} (h : Hub.ExitPayload a payload d) :
    payload.head? = some (.bytes32 d.burnId) := by
  cases h with
  | permanent _ _ hpayload burnId =>
    unfold SatelliteUftPermanentBurnedPayload.decode at hpayload
    split at hpayload <;> cases hpayload
    rw [burnId, List.head?_cons]
  | redeemable _ _ hpayload burnId =>
    unfold WrappedUftBurnedPayload.decode at hpayload
    split at hpayload <;> cases hpayload
    rw [burnId, List.head?_cons]

omit [CollisionFree W] in
theorem repayment_head [Evm W] {burn : SatelliteRepaymentBurnedPayload W}
    (h : SatelliteRepaymentBurnedPayload.decode payload = some burn) : payload.head? = some (.bytes32 burn.burnId) := by
  unfold SatelliteRepaymentBurnedPayload.decode at h
  split at h <;> cases h
  rfl

/-- The burns that a step of the home chain executes are consumed, and stay so. -/
theorem step_settles (step : Home.Step D env h t) :
    (∀ b, h.hub.consumedBurn b = true → t.hub.consumedBurn b = true) ∧
      h.endpoint.ExecutesOnly t.endpoint (Settles D t) := by
  have kept {b b' : W} (hb : h.hub.consumedBurn b = true) : h.hub.consumedBurn.set b' true b = true := by
    rw [set_apply]
    split
    · rfl
    · exact hb
  -- only repayments and exits execute a burn, and both mark its id
  cases step with
  | idle | hold | register | lock | create | requestCancellation => exact ⟨fun _ => id, .of_eq rfl⟩
  | foreign step => exact ⟨fun _ => id, (Endpoint.ExecutesOnly.foreign step).mono fun _ h => .inl (.inl h)⟩
  | repayDirectly | compensate | compensateLoan =>
    exact ⟨fun _ => id, .of_eq Coordinator.recordSends_executionResult⟩
  | reportMint ok action | reportCollateral ok action | reportDisbursement ok action | reportRelease ok action =>
    exact ⟨fun _ => id, .delivered ok.deliverable _ _ (.inl (.inr ⟨⟨_, ok.destination⟩, by simp [action]⟩))⟩
  | refund ok destination action =>
    exact ⟨fun _ => id, .delivered ok _ _ (.inl (.inr ⟨⟨_, destination⟩, by simp [action]⟩))⟩
  | repay ok _ _ hpayload _ _ _ _ _ _ _ dBurn =>
    refine ⟨fun _ => kept, .delivered ok _ _ (.inr ⟨_, _, ok.valid.payload, repayment_head hpayload, ?_⟩)⟩
    rw [← dBurn]
    exact set_self ..
  | exit ok _ exitable =>
    exact ⟨fun _ => kept, .delivered ok _ _ (.inr ⟨_, _, ok.valid.payload, exit_head exitable.payload, set_self ..⟩)⟩

/-- Everything that the home chain has executed is settled on the hub. -/
def AllSettled (D : Deployment W) (h : Home W) : Prop :=
  ∀ m, h.endpoint.coordinator.executionResult m ≠ 0 → ∃ e, e.Sealed ∧ e.messageId = m ∧ Settles D h e

theorem Valid.allSettled_step (hv' : Valid D w') (hstep : Step D w w') (hs : AllSettled D w.home) :
    AllSettled D w'.home := by
  cases hstep with
  | satellite => exact hs
  | home _ _ step =>
    obtain ⟨hkept, hexecutes⟩ := step_settles step
    intro m hm
    rcases hexecutes m with heq | ⟨e, payload, ⟨-, r, hmem⟩, hid, hsettles⟩
    · -- executed before
      obtain ⟨e, hsealed, hid, hsettles⟩ := hs m (heq ▸ hm)
      refine ⟨e, hsealed, hid, hsettles.imp_right ?_⟩
      rintro ⟨payload, b, hpayload, hhead, hconsumed⟩
      exact ⟨payload, b, hpayload, hhead, hkept b hconsumed⟩
    · have ordered := (hv'.net D.home.localChainId).ordered
      rw [net_home] at ordered
      exact ⟨e, (ordered.executedLog e r hmem).1, hid, hsettles⟩

theorem Valid.consumed (hv : Valid D w) (hs : AllSettled D w.home) (hσ : σ ≠ D.home.localChainId)
    (hb : ((w.satellite σ).wrapped.burnRecords b).state = .burned)
    (hx : w.home.endpoint.coordinator.executionResult ((w.satellite σ).wrapped.burnRecords b).messageId ≠ 0) :
    w.home.hub.consumedBurn b = true := by
  obtain ⟨e, d, payload, hid, -, -, hdest, evidence⟩ := hv.burnMessage hσ (b := b) (by simp [hb])
  obtain ⟨e', hid', hm, hsettles⟩ := hs _ hx
  -- the executed message is the one of the burn, so both have the burn id at the head of their payload
  obtain rfl := hid'.eq hid (hm.trans evidence.messageId)
  obtain ⟨payload', b', hpayload, hhead, hconsumed⟩ := hsettles.resolve_left (not_noBurn evidence hdest)
  obtain rfl := payloadHash_inj (hpayload.symm.trans evidence.payload)
  have same := hhead.symm.trans (burnMessage_head evidence.message)
  rw [evidence.burn, Option.some.injEq, Datum.bytes32.injEq] at same
  exact same ▸ hconsumed

end

/-! ### Runs -/

theorem conserved_initial (D : Deployment W) (σ : Nat) (canonicalUFT collateralToken : Token) :
    Conserved D σ (.initial D canonicalUFT) (.initial D σ collateralToken) := rfl

theorem Valid.conserved_step (hv : Valid D w) (hσ : σ ≠ D.home.localChainId)
    (hcan : (D.satellite σ).canonicalBackingRoutePolicyHash ≠ 0) (hstep : Step D w w')
    (hc : Conserved D σ w.home (w.satellite σ)) : Conserved D σ w'.home (w'.satellite σ) := by
  have hv' := hv.step hstep
  cases hstep with
  | home _ _ step => exact hv'.conserved_home (w := w) hσ rfl hc hv hcan rfl step
  | @satellite σ' _ _ _ _ _ step =>
    by_cases heq : σ = σ'
    · subst heq
      simp only [Function.update_self]
      exact hv.conserved_satellite hσ hc hv' hcan rfl (Function.update_self ..) step
    · simp only [Function.update_of_ne heq]
      exact hc

/-- What a satellite's wrapped token is backed by, in every reachable state. A burn whose message is executed is consumed
    on the hub; the converse does not hold, since the hub keys consumed burns by the burn id alone. -/
theorem bridge_conserved (D : Deployment W) (canonicalUFT : Token) (collateralToken : Nat → Token)
    (calls : List (WorldCall W)) (σ : Nat) (hσ : σ ≠ D.home.localChainId)
    (hcan : (D.satellite σ).canonicalBackingRoutePolicyHash ≠ 0) :
    let w := (initial D canonicalUFT collateralToken).run D calls
    let r := (D.satellite σ).canonicalBackingRoutePolicyHash
    (w.home.hub.routeBacking r = (w.satellite σ).wrapped.token.totalSupply +
      (w.home.hub.locks.sum fun _ lock =>
        if lock.state = .locked ∧ lock.routePolicyHash = r ∧
            (w.satellite σ).endpoint.coordinator.executionResult lock.messageId = 0 then lock.amount else 0) +
      ((w.satellite σ).wrapped.burnRecords.sum fun _ burn =>
        if burn.state = .burned ∧ w.home.endpoint.coordinator.executionResult burn.messageId = 0 then burn.amount
        else 0) +
      ((w.satellite σ).settlement.records.sum fun _ loan =>
        if w.home.hub.cancellationRefund loan.cancellationId = 0 then loan.cancelledAmount else 0)) ∧
    (w.satellite σ).wrapped.token.totalSupply ≤ w.home.hub.routeBacking r ∧
    ∀ b, ((w.satellite σ).wrapped.burnRecords b).state = .burned →
      w.home.endpoint.coordinator.executionResult ((w.satellite σ).wrapped.burnRecords b).messageId ≠ 0 →
      w.home.hub.consumedBurn b = true := by
  intro w r
  obtain ⟨hv, hc, hs⟩ : Valid D w ∧ Conserved D σ w.home (w.satellite σ) ∧ AllSettled D w.home :=
    runCalls_invariant (fun w => Valid D w ∧ Conserved D σ w.home (w.satellite σ) ∧ AllSettled D w.home)
      (fun _ _ _ h hw => ⟨hw.1.step (exec_step h), hw.1.conserved_step hσ hcan (exec_step h) hw.2.1,
        (hw.1.step (exec_step h)).allSettled_step (exec_step h) hw.2.2⟩)
      ⟨.initial D canonicalUFT collateralToken, conserved_initial D σ canonicalUFT (collateralToken σ),
        fun _ h => absurd rfl h⟩ calls
  refine ⟨hc, ?_, fun b hb hx => hv.consumed hs hσ hb hx⟩
  have hbacking : w.home.hub.routeBacking r = _ := hc
  omega

theorem bridge_conserved_loanDisbursed :
    let w := sampleWorld.run oneSatellite loanDisbursed
    w.home.hub.routeBacking (.lit 51) = 100 ∧ (w.satellite 2).wrapped.token.totalSupply = 100 ∧
      (w.satellite 2).wrapped.token.totalSupply ≤ w.home.hub.routeBacking (.lit 51) :=
  ⟨by decide +kernel, by decide +kernel,
    (bridge_conserved oneSatellite sampleUFT sampleCollateral loanDisbursed 2 (by decide) (by decide)).2.1⟩

end World

end Unified.CrossChain
