import Unified.CrossChain.Effects
import Unified.CrossChain.Hub

/-! What each operation of the bridge hub checked when it did not revert, and what it wrote. -/

namespace Unified.CrossChain.Hub

variable {W : Type} [Evm W]

def holding (hub : Hub W) (token : Token) (surplus : Nat) : Hub W :=
  { hub with canonicalUFT := token, lastReportedSurplus := surplus }

def locked (D : Deployment W) (hub : Hub W) (r : LockRequest W) (m : W) : Hub W :=
  (hub.exposed (D.routes r.routePolicyHash) r.routePolicyHash r.amount).recordLock r m

def loanLocked (D : Deployment W) (hub : Hub W) (r : LockRequest W) (m : W) : Hub W :=
  { hub.locked D r m with
    loanAccount := hub.loanAccount.set r.loanId r.loanAccount
    loanLock := hub.loanLock.set r.loanId r.lockId
    loanBacking := hub.loanBacking.set r.loanId r.amount }

def exited (D : Deployment W) (hub : Hub W) (d : BurnDisposition W) : Hub W :=
  ((hub.consume d.burnId).unexposed (D.routes d.backingRoutePolicyHash) d.backingRoutePolicyHash d.amount).recordDisposition d

def repaid (D : Deployment W) (hub : Hub W) (d : BurnDisposition W) : Hub W :=
  { hub.exited D d with loanBacking := hub.loanBacking.modify d.loanId (· - d.amount) }

def unlocked (D : Deployment W) (hub : Hub W) (lockId : W) : Hub W :=
  let lock := hub.locks lockId
  (hub.compensateLock lockId).unexposed (D.routes lock.routePolicyHash) lock.routePolicyHash lock.amount

def refunded (D : Deployment W) (hub : Hub W) (loanId cancellationId : W) : Hub W :=
  { hub.unlocked D (hub.loanLock loanId) with
    loanBacking := hub.loanBacking.set loanId 0
    cancellationRefund := hub.cancellationRefund.set cancellationId loanId }

def compensated (D : Deployment W) (hub : Hub W) (lockId : W) : Hub W :=
  { hub.unlocked D lockId with
    loanBacking := if (hub.locks lockId).loanId = 0 then hub.loanBacking else hub.loanBacking.set (hub.locks lockId).loanId 0 }

def reclassified (hub : Hub W) (loanId : W) (amount : Nat) : Hub W :=
  { hub with loanBacking := hub.loanBacking.modify loanId (· - amount) }

/-! ### Checks -/

/-- All four counters of a route cover the amount. -/
structure Covers (D : Deployment W) (hub : Hub W) (h : W) (amount : Nat) : Prop where
  route : amount ≤ hub.routeBacking h
  chain : amount ≤ hub.backingForChain (D.routes h).destinationChainId
  adapter : amount ≤ hub.adapterBacking (D.routes h).adapterId
  total : amount ≤ hub.totalBridgeBacking

def Backed (D : Deployment W) (hub : Hub W) : Prop := hub.totalBridgeBacking ≤ hub.canonicalUFT.balances D.homeBridgeHub

structure Lockable (D : Deployment W) (r : LockRequest W) (hub : Hub W) : Prop where
  lockId : r.lockId ≠ 0
  amount : r.amount ≠ 0
  fresh : (hub.locks r.lockId).state = .none
  source : (D.routes r.routePolicyHash).sourceComponent = D.homeBridgeHub

inductive ExitPayload (a : CrossChainActionType) (payload : Payload W) (d : BurnDisposition W) : Prop
  | permanent (action : a = .satelliteUftPermanentBurned) (burn : SatelliteUftPermanentBurnedPayload W)
      (hpayload : SatelliteUftPermanentBurnedPayload.decode payload = some burn) (burnId : d.burnId = burn.burnId)
      (route : d.backingRoutePolicyHash = burn.backingRoutePolicyHash) (amount : d.amount = burn.amount)
  | redeemable (action : a = .wrappedUftBurned) (burn : WrappedUftBurnedPayload W)
      (hpayload : WrappedUftBurnedPayload.decode payload = some burn) (burnId : d.burnId = burn.burnId)
      (route : d.backingRoutePolicyHash = burn.backingRoutePolicyHash) (amount : d.amount = burn.amount)

structure Exitable (D : Deployment W) (e : MessageEnvelope W) (payload : Payload W) (d : BurnDisposition W)
    (hub : Hub W) : Prop where
  payload : ExitPayload e.actionType payload d
  loanId : d.loanId = 0
  burnId : d.burnId ≠ 0
  amount : d.amount ≠ 0
  unconsumed : hub.consumedBurn d.burnId = false
  source : (D.routes d.backingRoutePolicyHash).sourceComponent = D.homeBridgeHub
  chain : (D.routes d.backingRoutePolicyHash).destinationChainId = e.sourceChainId
  component : (D.routes d.backingRoutePolicyHash).destinationComponent = e.sourceComponent
  covers : hub.Covers D d.backingRoutePolicyHash d.amount

structure Repayable (D : Deployment W) (account : Address) (d : BurnDisposition W) (hub : Hub W) : Prop where
  loanId : d.loanId ≠ 0
  burnId : d.burnId ≠ 0
  amount : d.amount ≠ 0
  sender : account = hub.loanAccount d.loanId
  route : d.backingRoutePolicyHash = (hub.locks (hub.loanLock d.loanId)).routePolicyHash
  unconsumed : hub.consumedBurn d.burnId = false
  backing : d.amount ≤ hub.loanBacking d.loanId
  covers : hub.Covers D d.backingRoutePolicyHash d.amount

structure Refundable (D : Deployment W) (account : Address) (loanId cancellationId : W) (amount : Nat) (hub : Hub W) :
    Prop where
  isLoan : loanId ≠ 0
  isCancelled : cancellationId ≠ 0
  lockLoan : (hub.locks (hub.loanLock loanId)).loanId = loanId
  sender : account = hub.loanAccount loanId
  lockAmount : (hub.locks (hub.loanLock loanId)).amount = amount
  isLocked : (hub.locks (hub.loanLock loanId)).state = .locked
  backing : hub.loanBacking loanId = amount
  unrefunded : hub.cancellationRefund cancellationId = 0
  covers : hub.Covers D (hub.locks (hub.loanLock loanId)).routePolicyHash amount

structure Compensable (D : Deployment W) (messageId lockId : W) (hub : Hub W) : Prop where
  known : (hub.locks lockId).lockId ≠ 0
  message : (hub.locks lockId).messageId = messageId
  isLocked : (hub.locks lockId).state = .locked
  covers : hub.Covers D (hub.locks lockId).routePolicyHash (hub.locks lockId).amount

/-! ### Reading a call back -/

section

variable {D : Deployment W} {env : Env W} {hub hub' : Hub W} {e : MessageEnvelope W} {payload : Payload W}
  {amount : Nat} {h result loanId lockId messageId : W} {lender sender : Address}

theorem decreaseExposure_inv (henv : env.Agrees D) (hd : hub.decreaseExposure env h amount = .ok hub') :
    hub.Covers D h amount ∧ hub' = hub.unexposed (D.routes h) h amount := by
  simp only [decreaseExposure, block_eq_ok, RouteRegistry.route_eq_ok] at hd
  obtain ⟨_, ⟨-, rfl⟩, ⟨h1, h2, h3, h4⟩, rfl⟩ := hd
  rw [henv h] at h2 h3 ⊢
  exact ⟨⟨h1, h2, h3, h4⟩, rfl⟩

theorem transferExact_inv {recipient : Address} (h : hub.transferExact D recipient amount = .ok hub') :
    ∃ token, hub' = { hub with canonicalUFT := token } := by
  simp only [transferExact, bind_eq_ok, pure_eq_ok] at h
  obtain ⟨token, -, rfl⟩ := h
  exact ⟨token, rfl⟩

theorem requireBackingBalance_inv (h : hub.requireBackingBalance D = .ok hub') :
    hub.Backed D ∧ ∃ surplus, hub' = { hub with lastReportedSurplus := surplus } := by
  simp only [requireBackingBalance, block_eq_ok] at h
  exact ⟨h.1, _, h.2.symm⟩

theorem reserve_inv (henv : env.Agrees D) {exposure : W → ExposureConfig} {r : LockRequest W}
    (h : hub.reserve D env exposure r = .ok hub') :
    hub.Lockable D r ∧ ∃ token,
      hub' = { hub.exposed (D.routes r.routePolicyHash) r.routePolicyHash r.amount with canonicalUFT := token } := by
  simp only [reserve, increaseExposure, collectExact, block_eq_ok, RouteRegistry.route_eq_ok] at h
  obtain ⟨⟨hid, -, -, hamt, -, hfresh⟩, _, ⟨-, rfl⟩, ⟨hsource, -⟩, _, ⟨-, _, -, rfl⟩, token, -, rfl⟩ := h
  rw [henv r.routePolicyHash] at hsource ⊢
  exact ⟨⟨hid, hamt, hfresh, hsource⟩, token, rfl⟩

theorem validateBackingRoute_inv (henv : env.Agrees D) {u : Unit} (hv : validateBackingRoute D env h e = .ok u) :
    (D.routes h).sourceComponent = D.homeBridgeHub ∧ (D.routes h).destinationChainId = e.sourceChainId ∧
      (D.routes h).destinationComponent = e.sourceComponent := by
  simp only [validateBackingRoute, bind_eq_ok, require_eq_ok, RouteRegistry.route_eq_ok] at hv
  obtain ⟨_, ⟨-, rfl⟩, -, -, hsource, hchain, -, hcomp, -⟩ := hv
  rw [henv h] at hsource hchain hcomp
  exact ⟨hsource, hchain, hcomp⟩

theorem handleCrossChainMessage_inv (henv : env.Agrees D)
    (h : hub.handleCrossChainMessage D env e payload = .ok (result, hub')) :
    ∃ d token surplus, hub.Exitable D e payload d ∧ hub' = (hub.exited D d).holding token surplus ∧ hub'.Backed D := by
  unfold handleCrossChainMessage at h
  split at h
  next haction =>
    simp only [block_eq_ok, orRevert_eq_ok, Prod.mk.injEq] at h
    obtain ⟨burn, hburn, ⟨hid, -, -, -, hamt, hun⟩, _, hroute, _, hdec, token, -, _, hbal, -, rfl⟩ := h
    obtain ⟨hsource, hchain, hcomp⟩ := validateBackingRoute_inv henv hroute
    obtain ⟨hcov, rfl⟩ := decreaseExposure_inv henv hdec
    obtain ⟨hbacked, surplus, rfl⟩ := requireBackingBalance_inv hbal
    exact ⟨⟨burn.burnId, 0, burn.backingRoutePolicyHash, 0, burn.amount, e.actionType, _⟩, token, surplus,
      ⟨.permanent haction burn hburn rfl rfl rfl, rfl, hid, hamt, hun, hsource, hchain, hcomp,
      ⟨hcov.route, hcov.chain, hcov.adapter, hcov.total⟩⟩, rfl, hbacked⟩
  next =>
    simp only [block_eq_ok, orRevert_eq_ok, Prod.mk.injEq] at h
    obtain ⟨haction, burn, hburn, ⟨hid, -, -, -, -, hamt, hun⟩, _, hroute, _, hdec, _, hmove, _, hbal, -, rfl⟩ := h
    obtain ⟨hsource, hchain, hcomp⟩ := validateBackingRoute_inv henv hroute
    obtain ⟨hcov, rfl⟩ := decreaseExposure_inv henv hdec
    obtain ⟨token, rfl⟩ := transferExact_inv hmove
    obtain ⟨hbacked, surplus, rfl⟩ := requireBackingBalance_inv hbal
    exact ⟨⟨burn.burnId, 0, burn.backingRoutePolicyHash, burn.recipient, burn.amount, e.actionType, _⟩, token, surplus,
      ⟨.redeemable haction burn hburn rfl rfl rfl, rfl, hid, hamt, hun, hsource, hchain, hcomp,
      ⟨hcov.route, hcov.chain, hcov.adapter, hcov.total⟩⟩, rfl, hbacked⟩

theorem releaseLoanBacking_inv (henv : env.Agrees D) {burnId : W}
    (h : hub.releaseLoanBacking D env sender loanId burnId lender amount = .ok hub') :
    ∃ d token surplus, hub.Repayable D sender d ∧ d.loanId = loanId ∧ d.burnId = burnId ∧ d.amount = amount ∧
      hub' = (hub.repaid D d).holding token surplus ∧ hub'.Backed D := by
  simp only [releaseLoanBacking, block_eq_ok] at h
  obtain ⟨⟨hloan, hid, -, hamt, hsender, hun, hle⟩, _, hdec, _, hmove, hbal⟩ := h
  obtain ⟨hcov, rfl⟩ := decreaseExposure_inv henv hdec
  obtain ⟨token, rfl⟩ := transferExact_inv hmove
  obtain ⟨hbacked, surplus, rfl⟩ := requireBackingBalance_inv hbal
  exact ⟨⟨burnId, loanId, _, lender, amount, .satelliteRepaymentBurned, _⟩, token, surplus,
    ⟨hloan, hid, hamt, hsender, rfl, hun, hle, ⟨hcov.route, hcov.chain, hcov.adapter, hcov.total⟩⟩, rfl, rfl, rfl, rfl,
    hbacked⟩

theorem refundCancelledLoan_inv (henv : env.Agrees D) {cancellationId : W}
    (h : hub.refundCancelledLoan D env sender loanId cancellationId lender amount = .ok hub') :
    ∃ token surplus, hub.Refundable D sender loanId cancellationId amount ∧
      hub' = (hub.refunded D loanId cancellationId).holding token surplus ∧ hub'.Backed D := by
  simp only [refundCancelledLoan, block_eq_ok] at h
  obtain ⟨⟨hloan, hid, -, -, hsender, hlock, -, -, hamt, hstate, hback, hun⟩, _, hdec, _, hmove, hbal⟩ := h
  obtain ⟨hcov, rfl⟩ := decreaseExposure_inv henv hdec
  obtain ⟨token, rfl⟩ := transferExact_inv hmove
  obtain ⟨hbacked, surplus, rfl⟩ := requireBackingBalance_inv hbal
  refine ⟨token, surplus, ⟨hloan, hid, hlock, hsender, hamt, hstate, hback, hun,
    ⟨hcov.route, hcov.chain, hcov.adapter, hcov.total⟩⟩, ?_, hbacked⟩
  subst hamt
  rfl

theorem beginCompensation_inv (henv : env.Agrees D) (h : hub.beginCompensation env messageId lockId = .ok hub') :
    hub.Compensable D messageId lockId ∧ hub' = hub.compensated D lockId := by
  simp only [beginCompensation, block_eq_ok] at h
  obtain ⟨⟨hknown, hm, hstate⟩, _, hdec, rfl⟩ := h
  obtain ⟨hcov, rfl⟩ := decreaseExposure_inv henv hdec
  refine ⟨⟨hknown, hm, hstate, ⟨hcov.route, hcov.chain, hcov.adapter, hcov.total⟩⟩, ?_⟩
  unfold compensated
  split <;> rfl

theorem finishCompensation_inv (h : hub.finishCompensation D messageId lockId = .ok (result, hub')) :
    ∃ token surplus, hub' = hub.holding token surplus ∧ hub'.Backed D := by
  simp only [finishCompensation, bind_eq_ok, pure_eq_ok, Prod.mk.injEq] at h
  obtain ⟨_, hmove, _, hbal, -, rfl⟩ := h
  obtain ⟨token, rfl⟩ := transferExact_inv hmove
  obtain ⟨hbacked, surplus, rfl⟩ := requireBackingBalance_inv hbal
  exact ⟨token, surplus, rfl, hbacked⟩

end

end Unified.CrossChain.Hub
