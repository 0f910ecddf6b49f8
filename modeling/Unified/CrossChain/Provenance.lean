import Unified.CrossChain.World

/-! What an executed message tells about the chain that sent it. A route names both of its ends, so a
    vault, a router or the wrapped token hears from its own counterpart only, and what the counterpart
    said was true when it was sent and still is. -/

namespace Unified.CrossChain.World

variable {W : Type} [CollisionFree W] {D : Deployment W} {w : World W} {σ chain chain' : Nat} {e : MessageEnvelope W}
  {payload : Payload W} {l : W}

theorem Valid.routed (hv : Valid D w) (hs : .messageSent e ∈ (w.net D chain).coordinator.events) :
    (∃ p, RouteIdentity p (D.routes e.routePolicyHash) e) ∧ (D.routes e.routePolicyHash).allows e.actionType = true := by
  by_cases h : chain = D.home.localChainId
  · subst h
    rw [net_home] at hs
    have hr := hv.home.routed e hs
    exact ⟨⟨_, hr.identity⟩, hr.allowed⟩
  · rw [net_satellite h] at hs
    have hr := (hv.satellite chain).routed e hs
    exact ⟨⟨_, hr.identity⟩, hr.allowed⟩

/-- An executed message followed its route from the chain that sent it. -/
theorem Valid.arrived (hv : Valid D w) (hx : (w.net D chain).Executed e payload) :
    .messageSent e ∈ (w.net D e.sourceChainId).coordinator.events ∧
      (D.routes e.routePolicyHash).destinationChainId = chain ∧
      (D.routes e.routePolicyHash).destinationComponent = e.destinationComponent ∧
      (D.routes e.routePolicyHash).sourceChainId = e.sourceChainId ∧
      (D.routes e.routePolicyHash).sourceComponent = e.sourceComponent ∧
      (D.routes e.routePolicyHash).allows e.actionType = true := by
  obtain ⟨-, r, hmem⟩ := hx
  obtain ⟨hchain, hsent⟩ := hv.net.sent hmem
  obtain ⟨⟨p, hid⟩, hallowed⟩ := hv.routed hsent
  exact ⟨hsent, hid.destinationChainId.symm.trans hchain, hid.destinationComponent.symm, hid.sourceChainId.symm,
    hid.sourceComponent.symm, hallowed⟩

theorem Valid.uncompensated (hv : Valid D w) (hx : (w.net D chain).Executed e payload) :
    (w.net D chain').recovery.sourceCompensation e.messageId = 0 := by
  obtain ⟨-, r, hmem⟩ := hx
  obtain ⟨hid, hr, hresult⟩ := (hv.net chain).ordered.executedLog e r hmem
  by_contra hc
  have ht := hv.net.tombstoned hid hc
  rw [(hv.net.sent hmem).1] at ht
  exact ht ((hv.net chain).ordered.exclusive e.messageId (hresult.trans_ne hr))

theorem Valid.executionResult_ne_zero (hv : Valid D w) (hx : (w.net D chain).Executed e payload) :
    (w.net D chain).coordinator.executionResult e.messageId ≠ 0 := by
  obtain ⟨-, r, hmem⟩ := hx
  obtain ⟨-, hr, hresult⟩ := (hv.net chain).ordered.executedLog e r hmem
  exact hresult.trans_ne hr

theorem Valid.unexecuted_of_unsent (hv : Valid D w) (hid : e.Sealed) (hs : e.sourceChainId = chain)
    (hf : (w.net D chain).coordinator.messageStates e.messageId = .none) :
    (w.net D chain').coordinator.executionResult e.messageId = 0 := by
  by_contra hx
  obtain ⟨e', r, hmem, hm⟩ := (hv.net chain').ordered.exists_executed hx
  obtain rfl := ((hv.net chain').ordered.executedLog e' r hmem).1.eq hid hm
  have hsent := (hv.net.sent hmem).2
  rw [hs] at hsent
  exact ((hv.net chain).ordered.sentLog e' hsent).2 hf

theorem Valid.unexecuted_of_compensated (hv : Valid D w) (hid : e.Sealed) (hd : e.destinationChainId = chain')
    (hc : (w.net D chain).recovery.sourceCompensation e.messageId ≠ 0) :
    (w.net D chain').coordinator.executionResult e.messageId = 0 := by
  by_contra hx
  have ht := hv.net.tombstoned hid hc
  rw [hd] at ht
  exact ht ((hv.net chain').ordered.exclusive e.messageId hx)

/-- A route has its two ends on different chains. -/
theorem Valid.crossed (hv : Valid D w) (hx : (w.net D chain).Executed e payload) : e.sourceChainId ≠ chain := by
  obtain ⟨-, hchain, -, hsource, -, hallowed⟩ := hv.arrived hx
  have := D.crossing _ _ hallowed
  rwa [hchain, hsource] at this

/-! ### The home chain hears from a satellite -/

/-- A router hears from its satellite's loan component and wrapped token only. -/
theorem Valid.atRouter (hv : Valid D w) (hσ : σ ≠ D.home.localChainId) (hx : w.home.endpoint.Executed e payload)
    (hd : e.destinationComponent = (D.satellite σ).homeLoanRouter) :
    .messageSent e ∈ (w.satellite σ).endpoint.coordinator.events ∧
      ((e.sourceComponent = (D.satellite σ).satelliteComponent ∧ isLoanReport e.actionType = true) ∨
        (e.sourceComponent = (D.satellite σ).wrappedUFT ∧ e.actionType = .satelliteRepaymentBurned)) := by
  rw [← net_home (D := D)] at hx
  obtain ⟨hsent, hchain, hcomp, hsource, hfrom, hallowed⟩ := hv.arrived hx
  obtain ⟨hfromσ, hkind⟩ := D.toRouter _ σ _ hchain (hcomp.trans hd) hallowed
  rw [hfrom] at hkind
  rw [← hsource, hfromσ, net_satellite hσ] at hsent
  exact ⟨hsent, hkind⟩

/-- The satellite of a router that heard of anything is another chain. -/
theorem Valid.remote (hv : Valid D w) (hx : w.home.endpoint.Executed e payload)
    (hd : e.destinationComponent = (D.satellite σ).homeLoanRouter) : σ ≠ D.home.localChainId := by
  rw [← net_home (D := D)] at hx
  obtain ⟨-, hchain, hcomp, hsource, -, hallowed⟩ := hv.arrived hx
  rw [← (D.toRouter _ σ _ hchain (hcomp.trans hd) hallowed).1, hsource]
  exact hv.crossed hx

/-- A report of the loan component that reached its router. -/
theorem Valid.report (hv : Valid D w) (hσ : σ ≠ D.home.localChainId) (hx : w.home.endpoint.Executed e payload)
    (hd : e.destinationComponent = (D.satellite σ).homeLoanRouter) (ha : e.actionType ≠ .satelliteRepaymentBurned) :
    (e.actionType = .satelliteDisbursementSettled → (w.satellite σ).DisbursementEvidence e) ∧
      (e.actionType = .sourceCompensated → (w.satellite σ).CancellationEvidence e) := by
  obtain ⟨hsent, ⟨hfrom, -⟩ | ⟨-, haction⟩⟩ := hv.atRouter hσ hx hd
  · cases (hv.satellite σ).origin e hsent with
    | foreign source => exact absurd (.inr hfrom) source
    | burn source => exact absurd (hfrom.symm.trans source) (D.component_ne_wrapped σ)
    | report _ disbursed cancelled => exact ⟨disbursed, cancelled⟩
  · exact absurd haction ha

/-- A disbursement that a router heard of took place. -/
theorem Valid.disbursement (hv : Valid D w) (hσ : σ ≠ D.home.localChainId) {p : LoanLegPayload W}
    (h : Home.DisbursementReport D w.home σ p) :
    ((w.satellite σ).settlement.records p.loanId).loanId ≠ 0 ∧
      ((w.satellite σ).settlement.records p.loanId).disbursedAmount ≠ 0 ∧
      p.borrower = ((w.satellite σ).settlement.records p.loanId).borrower ∧
      p.amount = ((w.satellite σ).settlement.records p.loanId).principalAmount := by
  obtain ⟨e, payload, hx, hd, ha, hp⟩ := h
  obtain ⟨p', hp', hrest⟩ := (hv.report hσ hx hd (by simp [ha])).1 ha
  obtain rfl := payloadHash_inj (hx.1.symm.trans hp')
  obtain rfl := Option.some.inj ((LoanLegPayload.decode_encode p').symm.trans hp)
  exact hrest

/-- A cancelled funding that a router heard of was burned under the same cancellation. -/
theorem Valid.refund (hv : Valid D w) (hσ : σ ≠ D.home.localChainId) {c : SatelliteFundingCancelledPayload W}
    (h : Home.RefundReport D w.home σ c) :
    c.cancellationId ≠ 0 ∧ ((w.satellite σ).settlement.records c.loanId).loanId ≠ 0 ∧
      ((w.satellite σ).settlement.records c.loanId).cancellationId = c.cancellationId ∧
      ((w.satellite σ).settlement.records c.loanId).cancelledAmount = c.amount := by
  obtain ⟨e, payload, hx, hd, ha, hp⟩ := h
  obtain ⟨c', hp', hrest⟩ := (hv.report hσ hx hd (by simp [ha])).2 ha
  obtain rfl := payloadHash_inj (hx.1.symm.trans hp')
  obtain rfl := Option.some.inj ((SatelliteFundingCancelledPayload.decode_encode c').symm.trans hp)
  exact hrest

/-- A burn of a satellite's wrapped token that was executed at home. -/
theorem Valid.burn (hv : Valid D w) (hσ : σ ≠ D.home.localChainId) (hx : w.home.endpoint.Executed e payload)
    (hs : e.sourceChainId = σ) (hfrom : e.sourceComponent = (D.satellite σ).wrappedUFT) :
    ∃ b d, Satellite.BurnEvidence D σ (w.satellite σ) b e d payload := by
  rw [← net_home (D := D)] at hx
  have hsent := (hv.arrived hx).1
  rw [hs, net_satellite hσ] at hsent
  cases (hv.satellite σ).origin e hsent with
  | foreign source => exact absurd (.inl hfrom) source
  | @burn b d _ _ evidence =>
    obtain rfl := payloadHash_inj (hx.1.symm.trans evidence.payload)
    exact ⟨b, d, evidence⟩
  | report source => exact absurd (source.symm.trans hfrom) (D.component_ne_wrapped σ)

/-! ### A satellite hears from the home chain -/

/-- A message that the home router of a satellite sent. -/
theorem Valid.instruction (hv : Valid D w) (hs : .messageSent e ∈ w.home.endpoint.coordinator.events)
    (hfrom : e.sourceComponent = (D.satellite σ).homeLoanRouter) :
    (e.actionType = .cancellationRequested → Home.CancellationEvidence D σ e) ∧
      (e.actionType = .homeCollateralReleaseAuthorized → Home.ReleaseEvidence D σ w.home e) := by
  cases hv.home.origin e hs with
  | foreign source => exact absurd (.inr ⟨σ, hfrom⟩) source
  | lock source => exact absurd (source.symm.trans hfrom) (D.hub_ne_router σ)
  | @instruction σ' source cancellation release =>
    have hrouter := (D.routerOf_eq _ σ').mpr source
    rw [(D.routerOf_eq _ σ).mpr hfrom] at hrouter
    obtain rfl := Option.some.inj hrouter
    exact ⟨cancellation, release⟩

/-- A cancellation that a settlement vault executed was authorised for its loan. -/
theorem Valid.cancellation (hv : Valid D w) (hσ : σ ≠ D.home.localChainId) {id : W}
    (h : Satellite.CancellationOrder D σ (w.satellite σ) l id) :
    ∃ r : LoanCancellationAuthorization W, id = loanCancellationAuthorizationDigest D.home r ∧ r.loanId = l ∧
      r.loanRouter = (D.satellite σ).homeLoanRouter := by
  obtain ⟨e, payload, action, hx, hd, ha, hp, rfl, rfl⟩ := h
  rw [← net_satellite (D := D) hσ] at hx
  obtain ⟨hsent, hchain, hcomp, hsource, hfrom, -⟩ := hv.arrived hx
  obtain ⟨hhome, hrouter⟩ := D.toSettlementVault _ σ hchain (hcomp.trans hd)
  rw [← hsource, hhome, net_home] at hsent
  obtain ⟨p, r, hp', hid, hl, hr⟩ := (hv.instruction hsent (hfrom.symm.trans hrouter)).1 ha
  obtain rfl := payloadHash_inj (hx.1.symm.trans hp')
  obtain rfl := Option.some.inj ((LoanCancellationRequestedPayload.decode_encode p).symm.trans hp)
  exact ⟨r, hid, hl.symm, hr⟩

/-- A release that a collateral vault executed was authorised for an account whose loan is over. -/
theorem Valid.release (hv : Valid D w) (hσ : σ ≠ D.home.localChainId) {a : Address}
    (h : Satellite.ReleaseOrder D σ (w.satellite σ) l a) :
    (w.home.accounts a).terms.loanId = l ∧ l ≠ 0 ∧ (w.home.accounts a).satellite = σ ∧ (w.home.accounts a).Finished := by
  obtain ⟨e, payload, action, hx, hd, ha, hp, rfl, rfl⟩ := h
  rw [← net_satellite (D := D) hσ] at hx
  obtain ⟨hsent, hchain, hcomp, hsource, hfrom, -⟩ := hv.arrived hx
  obtain ⟨hhome, hrouter⟩ := D.toCollateralVault _ σ hchain (hcomp.trans hd)
  rw [← hsource, hhome, net_home] at hsent
  obtain ⟨a, hl, hsat, hp', -, hfinished⟩ := (hv.instruction hsent (hfrom.symm.trans hrouter)).2 ha
  obtain rfl := payloadHash_inj (hx.1.symm.trans hp')
  obtain rfl := Option.some.inj ((LoanLegPayload.decode_encode _).symm.trans hp)
  exact ⟨rfl, hl, hsat, hfinished⟩

/-- The mint message of a lock, executed on the satellite of its route. -/
theorem Valid.mint (hv : Valid D w) (hσ : σ ≠ D.home.localChainId) {lock : CanonicalUftLockPayload W}
    (hx : (w.satellite σ).endpoint.Executed e payload) (hp : CanonicalUftLockPayload.decode payload = some lock)
    (hc : (D.satellite σ).canonicalBackingRoutePolicyHash ≠ 0)
    (hr : e.routePolicyHash = (D.satellite σ).canonicalBackingRoutePolicyHash) :
    Home.LockEvidence D w.home lock.lockId e ∧ (w.home.hub.locks lock.lockId).loanId = lock.loanId ∧
      (w.home.hub.locks lock.lockId).amount = lock.amount := by
  rw [← net_satellite (D := D) hσ] at hx
  obtain ⟨hsent, -, -, hsource, hfrom, -⟩ := hv.arrived hx
  obtain ⟨hhome, hhub, -⟩ := D.canonicalRoute σ hc
  rw [hr, hhome] at hsource
  rw [hr, hhub] at hfrom
  rw [← hsource, net_home] at hsent
  cases hv.home.origin e hsent with
  | foreign source => exact absurd (.inl hfrom.symm) source
  | lock _ evidence =>
    obtain rfl := payloadHash_inj (hx.1.symm.trans evidence.payload)
    obtain rfl := Option.some.inj ((CanonicalUftLockPayload.decode_encode _).symm.trans hp)
    exact ⟨evidence, rfl, rfl⟩
  | @instruction σ' source => exact absurd (hfrom.trans source) (D.hub_ne_router σ')

structure FundedBy (D : Deployment W) (w : World W) (σ : Nat) (loanId lockId : W) : Prop where
  recorded : (w.home.hub.locks lockId).state ≠ .none
  loan : (w.home.hub.locks lockId).loanId = loanId
  route : (w.home.hub.locks lockId).routePolicyHash = (D.satellite σ).canonicalBackingRoutePolicyHash
  executed : (w.satellite σ).endpoint.coordinator.executionResult (w.home.hub.locks lockId).messageId ≠ 0
  uncompensated : w.home.endpoint.recovery.sourceCompensation (w.home.hub.locks lockId).messageId = 0

theorem Valid.funding (hv : Valid D w) (hσ : σ ≠ D.home.localChainId) {x : W}
    (h : Satellite.Funding D σ (w.satellite σ) l x) : FundedBy D w σ l x := by
  obtain ⟨hc, -, e, payload, lock, hx, hr, hp, rfl, rfl⟩ := h
  obtain ⟨evidence, hloan, -⟩ := hv.mint hσ hx hp hc hr
  rw [← net_satellite (D := D) hσ] at hx
  refine ⟨evidence.recorded, hloan, evidence.route.symm.trans hr, ?_, ?_⟩ <;> rw [evidence.messageId]
  · rw [← net_satellite (D := D) hσ]
    exact hv.executionResult_ne_zero hx
  · rw [← net_home (D := D)]
    exact hv.uncompensated hx

end Unified.CrossChain.World
