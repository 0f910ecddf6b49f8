import Unified.CrossChain.Conservation

/-! The hub's ledger. The counters of routes, chains and adapters add up to one total, which the hub
    holds; a route's backing is what its locks hold less what burns and repayments took from it. What is
    attributed to the loans of a route can exceed that backing, but by no more than generic burns took. -/

namespace Unified.CrossChain

open Mapping LockRecord

variable {W : Type}

section

variable [DecidableEq W]

def LockRecord.heldOn (h : W) (r : LockRecord W) : Nat :=
  if r.state = .locked ∧ r.routePolicyHash = h then r.amount else 0

def BurnDisposition.takenFrom (h : W) (d : BurnDisposition W) : Nat :=
  if d.backingRoutePolicyHash = h then d.amount else 0

end

section

variable [Evm W] {r : LockRecord W}

def LockRecord.unlentOn (h : W) (r : LockRecord W) : Nat := if r.loanId = 0 then r.heldOn h else 0

def BurnDisposition.exitedFrom (h : W) (d : BurnDisposition W) : Nat := if d.loanId = 0 then d.takenFrom h else 0

def Hub.lentOn (hub : Hub W) (h l : W) (amount : Nat) : Nat :=
  if (hub.locks (hub.loanLock l)).routePolicyHash = h then amount else 0

theorem LockRecord.heldOn_vanishes (h : W) : Vanishes fun (_ : W) (r : LockRecord W) => r.heldOn h :=
  fun _ => if_neg fun hs => by cases hs.1

theorem LockRecord.heldOn_of_locked (hs : r.state = .locked) (h : W) :
    r.heldOn h = if r.routePolicyHash = h then r.amount else 0 := by
  unfold heldOn
  simp only [hs, true_and]

theorem LockRecord.heldOn_of_ne (hs : r.state ≠ .locked) (h : W) : r.heldOn h = 0 :=
  if_neg fun hx => hs hx.1

theorem LockRecord.unlentOn_vanishes (h : W) : Vanishes fun (_ : W) (r : LockRecord W) => r.unlentOn h :=
  fun k => by simp [unlentOn, heldOn_vanishes h k]

theorem BurnDisposition.takenFrom_vanishes (h : W) :
    Vanishes fun (_ : W) (d : BurnDisposition W) => d.takenFrom h := fun _ => ite_self 0

theorem BurnDisposition.exitedFrom_vanishes (h : W) :
    Vanishes fun (_ : W) (d : BurnDisposition W) => d.exitedFrom h :=
  fun k => by simp [exitedFrom, takenFrom_vanishes h k]

/-- What is attributed to the loans of a route and what it holds without a loan, against what it is
    backed by and what generic burns took from it. -/
def Hub.Attributed (hub : Hub W) (h : W) : Prop :=
  hub.loanBacking.sum (hub.lentOn h) + hub.locks.sum (fun _ r => r.unlentOn h) ≤
    hub.routeBacking h + hub.burnDisposition.sum fun _ d => d.exitedFrom h

theorem Hub.lentOn_vanishes (hub : Hub W) (h : W) : Vanishes (hub.lentOn h) := fun _ => ite_self 0

end

namespace Hub

variable [Evm W]

inductive Step (D : Deployment W) (hub : Hub W) : Hub W → Prop
  | idle : Step D hub hub
  | hold {token : Token} {surplus : Nat}
      (kept : hub.canonicalUFT.balances D.homeBridgeHub ≤ token.balances D.homeBridgeHub) :
      Step D hub (hub.holding token surplus)
  | lock {r : LockRequest W} {m : W} {token : Token} {surplus : Nat} (ok : hub.Lockable D r) (loanId : r.loanId = 0)
      (backed : ((hub.locked D r m).holding token surplus).Backed D) :
      Step D hub ((hub.locked D r m).holding token surplus)
  | lockLoan {r : LockRequest W} {m : W} {token : Token} {surplus : Nat} (ok : hub.Lockable D r) (loanId : r.loanId ≠ 0)
      (unassigned : hub.loanAccount r.loanId = 0)
      (backed : ((hub.loanLocked D r m).holding token surplus).Backed D) :
      Step D hub ((hub.loanLocked D r m).holding token surplus)
  | exit {d : BurnDisposition W} {token : Token} {surplus : Nat} (loanId : d.loanId = 0)
      (unconsumed : hub.consumedBurn d.burnId = false) (covers : hub.Covers D d.backingRoutePolicyHash d.amount)
      (backed : ((hub.exited D d).holding token surplus).Backed D) : Step D hub ((hub.exited D d).holding token surplus)
  | repay {account : Address} {d : BurnDisposition W} {token : Token} {surplus : Nat} (ok : hub.Repayable D account d)
      (backed : ((hub.repaid D d).holding token surplus).Backed D) : Step D hub ((hub.repaid D d).holding token surplus)
  | refund {account : Address} {loanId cancellationId : W} {amount : Nat} {token : Token} {surplus : Nat}
      (ok : hub.Refundable D account loanId cancellationId amount)
      (backed : ((hub.refunded D loanId cancellationId).holding token surplus).Backed D) :
      Step D hub ((hub.refunded D loanId cancellationId).holding token surplus)
  | compensate {m lockId : W} {token : Token} {surplus : Nat} (ok : hub.Compensable D m lockId)
      (whole : (hub.locks lockId).loanId ≠ 0 → hub.loanBacking (hub.locks lockId).loanId = (hub.locks lockId).amount)
      (backed : ((hub.compensated D lockId).holding token surplus).Backed D) :
      Step D hub ((hub.compensated D lockId).holding token surplus)
  | reclassify {loanId : W} {amount : Nat} {token : Token} (backing : amount ≤ hub.loanBacking loanId)
      (kept : hub.canonicalUFT.balances D.homeBridgeHub ≤ token.balances D.homeBridgeHub) :
      Step D hub ((hub.reclassified loanId amount).holding token hub.lastReportedSurplus)

structure Counted (D : Deployment W) (route : Mapping W Nat) (chain : Mapping Nat Nat) (adapter : Mapping W Nat)
    (total : Nat) : Prop where
  total : route.totalOver (fun _ => True) = total
  chain : Grouped (fun h => (D.routes h).destinationChainId) route chain
  adapter : Grouped (fun h => (D.routes h).adapterId) route adapter

section

variable {D : Deployment W} {route : Mapping W Nat} {chain : Mapping Nat Nat} {adapter : Mapping W Nat} {total : Nat}
  {h : W} {n : Nat}

theorem Counted.exposed (hc : Counted D route chain adapter total) :
    Counted D (route.modify h (· + n)) (chain.modify (D.routes h).destinationChainId (· + n))
      (adapter.modify (D.routes h).adapterId (· + n)) (total + n) where
  total := by rw [totalOver_add, hc.total, if_pos trivial]
  chain := hc.chain.add
  adapter := hc.adapter.add

theorem Counted.unexposed (hc : Counted D route chain adapter total) (hn : n ≤ route h) :
    Counted D (route.modify h (· - n)) (chain.modify (D.routes h).destinationChainId (· - n))
      (adapter.modify (D.routes h).adapterId (· - n)) (total - n) where
  total := by
    have hs := totalOver_sub (p := fun _ => True) hn
    rw [hc.total, if_pos trivial] at hs
    omega
  chain := hc.chain.sub hn
  adapter := hc.adapter.sub hn

end

structure Ledger (D : Deployment W) (hub : Hub W) : Prop where
  counted : Counted D hub.routeBacking hub.backingForChain hub.adapterBacking hub.totalBridgeBacking
  backed : hub.Backed D
  unconsumed : ∀ b, hub.consumedBurn b = false → hub.burnDisposition b = default
  held : ∀ h, hub.routeBacking h + hub.burnDisposition.sum (fun _ d => d.takenFrom h) =
    hub.locks.sum fun _ r => r.heldOn h
  lent : ∀ l, hub.loanBacking l ≠ 0 →
    l ≠ 0 ∧ (hub.locks (hub.loanLock l)).state = .locked ∧ (hub.locks (hub.loanLock l)).loanId = l
  attributed : ∀ h, hub.Attributed h

/-- Every loan that a lock names has an account and this lock. -/
def Assigned (hub : Hub W) : Prop :=
  ∀ x, (hub.locks x).state ≠ .none → (hub.locks x).loanId ≠ 0 →
    hub.loanAccount (hub.locks x).loanId ≠ 0 ∧ hub.loanLock (hub.locks x).loanId = x

theorem Ledger.initial (D : Deployment W) (canonicalUFT : Token) : Ledger D (initial canonicalUFT) where
  counted := ⟨rfl, ⟨fun _ => rfl, rfl⟩, ⟨fun _ => rfl, rfl⟩⟩
  backed := Nat.zero_le _
  unconsumed _ _ := rfl
  held _ := rfl
  lent _ h := absurd rfl h
  attributed _ := Nat.le_refl _

variable {D : Deployment W} {hub hub' : Hub W}

theorem Step.counted (hstep : Step D hub hub') (hl : hub.Ledger D) :
    Counted D hub'.routeBacking hub'.backingForChain hub'.adapterBacking hub'.totalBridgeBacking := by
  cases hstep with
  | lock | lockLoan => exact hl.counted.exposed
  | exit _ _ covers => exact hl.counted.unexposed covers.route
  | repay ok | compensate ok => exact hl.counted.unexposed ok.covers.route
  | refund ok => exact hl.counted.unexposed (ok.lockAmount ▸ ok.covers.route)
  | _ => exact hl.counted

theorem Step.backed (hstep : Step D hub hub') (hl : hub.Ledger D) : hub'.Backed D := by
  cases hstep with
  | idle => exact hl.backed
  | hold kept | reclassify _ kept => exact hl.backed.trans kept
  | lock _ _ backed | lockLoan _ _ _ backed | exit _ _ _ backed | repay _ backed | refund _ backed
  | compensate _ _ backed => exact backed

theorem unconsumed_exited (hl : hub.Ledger D) (d : BurnDisposition W) (b : W)
    (hb : (hub.exited D d).consumedBurn b = false) : (hub.exited D d).burnDisposition b = default := by
  change hub.consumedBurn.set d.burnId true b = false at hb
  change hub.burnDisposition.set d.burnId d b = default
  rw [set_apply] at hb ⊢
  split at hb
  next => cases hb
  next hne =>
    rw [if_neg hne]
    exact hl.unconsumed b hb

theorem Step.unconsumed (hstep : Step D hub hub') (hl : hub.Ledger D) (b : W) (hb : hub'.consumedBurn b = false) :
    hub'.burnDisposition b = default := by
  cases hstep with
  | exit | repay => exact unconsumed_exited hl _ b hb
  | _ => exact hl.unconsumed b hb

variable {r : LockRequest W} {d : BurnDisposition W} {x l : W}

theorem held_locked (hl : hub.Ledger D) (fresh : (hub.locks r.lockId).state = .none) (m h : W) :
    (hub.locked D r m).routeBacking h + hub.burnDisposition.sum (fun _ d => d.takenFrom h) =
      (hub.locked D r m).locks.sum fun _ r => r.heldOn h := by
  have hs := hub.locks.sum_set (heldOn_vanishes h) r.lockId
    ⟨r.lockId, m, r.loanId, r.routePolicyHash, r.locker, r.recipient, r.loanAccount, r.amount, .locked⟩
  have hold := hl.held h
  have hback := hub.routeBacking.modify_add_apply r.routePolicyHash h r.amount
  simp only [heldOn_of_ne (r := hub.locks r.lockId) (by simp [fresh]), heldOn_of_locked] at hs
  simp only [locked, recordLock, exposed]
  omega

theorem held_exited (hl : hub.Ledger D) (unconsumed : hub.consumedBurn d.burnId = false)
    (covers : hub.Covers D d.backingRoutePolicyHash d.amount) (h : W) :
    (hub.exited D d).routeBacking h + (hub.exited D d).burnDisposition.sum (fun _ d => d.takenFrom h) =
      hub.locks.sum fun _ r => r.heldOn h := by
  have hs := hub.burnDisposition.sum_set (BurnDisposition.takenFrom_vanishes h) d.burnId d
  have hold := hl.held h
  have hback := hub.routeBacking.modify_sub_apply h covers.route
  simp only [hl.unconsumed _ unconsumed, BurnDisposition.takenFrom_vanishes h d.burnId] at hs
  simp only [exited, recordDisposition, unexposed, consume]
  simp only [BurnDisposition.takenFrom] at hs hold ⊢
  omega

theorem held_unlocked (hl : hub.Ledger D) (isLocked : (hub.locks x).state = .locked)
    (covers : (hub.locks x).amount ≤ hub.routeBacking (hub.locks x).routePolicyHash) (h : W) :
    (hub.unlocked D x).routeBacking h + hub.burnDisposition.sum (fun _ d => d.takenFrom h) =
      (hub.unlocked D x).locks.sum fun _ r => r.heldOn h := by
  have hs := hub.locks.sum_set (heldOn_vanishes h) x { hub.locks x with state := .compensated }
  have hold := hl.held h
  have hback := hub.routeBacking.modify_sub_apply h covers
  simp only [heldOn_of_locked isLocked,
    heldOn_of_ne (r := { hub.locks x with state := .compensated }) (by simp)] at hs
  simp only [unlocked, unexposed, compensateLock, Mapping.modify]
  simp only [Mapping.modify] at hback
  omega

theorem Step.held (hstep : Step D hub hub') (hl : hub.Ledger D) (h : W) :
    hub'.routeBacking h + hub'.burnDisposition.sum (fun _ d => d.takenFrom h) = hub'.locks.sum fun _ r => r.heldOn h := by
  cases hstep with
  | lock ok | lockLoan ok => exact held_locked hl ok.fresh _ h
  | exit _ unconsumed covers => exact held_exited hl unconsumed covers h
  | repay ok => exact held_exited hl ok.unconsumed ok.covers h
  | refund ok => exact held_unlocked hl ok.isLocked (ok.lockAmount ▸ ok.covers.route) h
  | compensate ok => exact held_unlocked hl ok.isLocked ok.covers.route h
  | _ => exact hl.held h

/-- A lock that backs a loan is not the one that is just made. -/
theorem Ledger.loanLock_ne (hl : hub.Ledger D) (hn : hub.loanBacking l ≠ 0) (fresh : (hub.locks x).state = .none) :
    hub.loanLock l ≠ x := by
  rintro rfl
  have hs := (hl.lent l hn).2.1
  rw [fresh] at hs
  cases hs

theorem lent_unlocked (hl : hub.Ledger D) (hne : l ≠ 0 → l ≠ (hub.locks x).loanId) (hn : hub.loanBacking l ≠ 0) :
    l ≠ 0 ∧ ((hub.unlocked D x).locks (hub.loanLock l)).state = .locked ∧
      ((hub.unlocked D x).locks (hub.loanLock l)).loanId = l := by
  obtain ⟨hzero, hs, hloan⟩ := hl.lent l hn
  have hx : hub.loanLock l ≠ x := by
    rintro rfl
    exact hne hzero hloan.symm
  have same : (hub.unlocked D x).locks (hub.loanLock l) = hub.locks (hub.loanLock l) := by
    simp only [unlocked, unexposed, compensateLock, modify_of_ne _ _ hx]
  rw [same]
  exact ⟨hzero, hs, hloan⟩

theorem Step.lent (hstep : Step D hub hub') (hl : hub.Ledger D) (l : W) (hn : hub'.loanBacking l ≠ 0) :
    l ≠ 0 ∧ (hub'.locks (hub'.loanLock l)).state = .locked ∧ (hub'.locks (hub'.loanLock l)).loanId = l := by
  cases hstep with
  | @lock r m _ _ ok loanId =>
    change hub.loanBacking l ≠ 0 at hn
    have same : (hub.locked D r m).locks (hub.loanLock l) = hub.locks (hub.loanLock l) :=
      set_of_ne _ _ (hl.loanLock_ne hn ok.fresh)
    change l ≠ 0 ∧ ((hub.locked D r m).locks (hub.loanLock l)).state = .locked ∧
      ((hub.locked D r m).locks (hub.loanLock l)).loanId = l
    rw [same]
    exact hl.lent l hn
  | @lockLoan r _ _ _ ok loanId =>
    simp only [holding, loanLocked, locked, recordLock, exposed, set_apply] at hn ⊢
    by_cases heq : l = r.loanId
    · simp only [if_pos heq]
      exact ⟨heq.trans_ne loanId, rfl, heq.symm⟩
    · simp only [if_neg heq] at hn ⊢
      simp only [if_neg (hl.loanLock_ne hn ok.fresh)]
      exact hl.lent l hn
  | @repay =>
    refine hl.lent l fun hzero => hn ?_
    simp only [holding, repaid, modify_apply, hzero, Nat.zero_sub, ite_self]
  | @refund _ _ _ _ _ _ ok =>
    simp only [holding, refunded, set_apply] at hn ⊢
    split at hn
    next => exact absurd rfl hn
    next hne => exact lent_unlocked (D := D) hl (fun _ heq => hne (heq.trans ok.lockLoan)) hn
  | @compensate =>
    simp only [holding, compensated] at hn ⊢
    split at hn
    next hfree => exact lent_unlocked (D := D) hl (fun hzero => hfree ▸ hzero) hn
    next =>
      rw [set_apply] at hn
      split at hn
      next => exact absurd rfl hn
      next hne => exact lent_unlocked (D := D) hl (fun _ => hne) hn
  | @reclassify =>
    refine hl.lent l fun hzero => hn ?_
    simp only [holding, reclassified, modify_apply, hzero, Nat.zero_sub, ite_self]
  | _ => exact hl.lent l hn

/-! ### Attributed -/

/-- What a payment takes off a loan's backing it takes off its route's share. -/
theorem lentOn_modify (hub : Hub W) {n : Nat} (hn : n ≤ hub.loanBacking l) (h : W) :
    (hub.loanBacking.modify l (· - n)).sum (hub.lentOn h) +
      (if (hub.locks (hub.loanLock l)).routePolicyHash = h then n else 0) = hub.loanBacking.sum (hub.lentOn h) := by
  have hs := hub.loanBacking.sum_set (hub.lentOn_vanishes h) l (hub.loanBacking l - n)
  change (hub.loanBacking.set l (hub.loanBacking l - n)).sum (hub.lentOn h) + _ = _
  by_cases hr : (hub.locks (hub.loanLock l)).routePolicyHash = h
  · simp only [lentOn, if_pos hr] at hs ⊢
    omega
  · simp only [lentOn, if_neg hr] at hs ⊢
    omega

theorem lentOn_unlocked (hub : Hub W) (x h : W) : (hub.unlocked D x).lentOn h = hub.lentOn h := by
  funext l n
  have same : ((hub.unlocked D x).locks (hub.loanLock l)).routePolicyHash =
      (hub.locks (hub.loanLock l)).routePolicyHash := by
    simp only [unlocked, unexposed, compensateLock, modify_apply]
    split <;> rfl
  exact congrArg (if · = h then n else 0) same

/-- A new lock is not one that backs a loan. -/
theorem lentOn_locked (hl : hub.Ledger D) (fresh : (hub.locks r.lockId).state = .none) (m h l : W) :
    (hub.locked D r m).lentOn h l (hub.loanBacking l) = hub.lentOn h l (hub.loanBacking l) := by
  by_cases hn : hub.loanBacking l = 0
  · rw [hn]
    exact (lentOn_vanishes _ h l).trans (lentOn_vanishes hub h l).symm
  · have same : (hub.locked D r m).locks (hub.loanLock l) = hub.locks (hub.loanLock l) :=
      set_of_ne _ _ (hl.loanLock_ne hn fresh)
    unfold lentOn
    rw [← same]
    rfl

theorem unlentOn_locked (fresh : (hub.locks r.lockId).state = .none) (m h : W) :
    ((hub.locked D r m).locks.sum fun _ r => r.unlentOn h) =
      (hub.locks.sum fun _ r => r.unlentOn h) + if r.loanId = 0 then (if r.routePolicyHash = h then r.amount else 0) else 0 := by
  have hs := hub.locks.sum_set (unlentOn_vanishes h) r.lockId
    ⟨r.lockId, m, r.loanId, r.routePolicyHash, r.locker, r.recipient, r.loanAccount, r.amount, .locked⟩
  have before : (hub.locks r.lockId).unlentOn h = 0 := by
    unfold unlentOn
    rw [heldOn_of_ne (by simp [fresh]), ite_self]
  simp only [before, Nat.add_zero] at hs
  exact hs.trans (by simp only [unlentOn, heldOn_of_locked])

theorem unlentOn_unlocked (isLocked : (hub.locks x).state = .locked) (h : W) :
    ((hub.unlocked D x).locks.sum fun _ r => r.unlentOn h) + (if (hub.locks x).loanId = 0 then
      (if (hub.locks x).routePolicyHash = h then (hub.locks x).amount else 0) else 0) =
        hub.locks.sum fun _ r => r.unlentOn h := by
  have hs := hub.locks.sum_set (unlentOn_vanishes h) x { hub.locks x with state := .compensated }
  have after : ({ hub.locks x with state := .compensated } : LockRecord W).unlentOn h = 0 := by
    unfold unlentOn
    rw [heldOn_of_ne (by simp), ite_self]
  simp only [after, Nat.add_zero] at hs
  refine Eq.trans ?_ hs
  simp only [unlentOn, heldOn_of_locked isLocked]
  rfl

theorem attributed_locked (hl : hub.Ledger D) (fresh : (hub.locks r.lockId).state = .none) (loanId : r.loanId = 0)
    (m h : W) : (hub.locked D r m).Attributed h := by
  have hold := hl.attributed h
  have hlent : hub.loanBacking.sum ((hub.locked D r m).lentOn h) = hub.loanBacking.sum (hub.lentOn h) :=
    sum_congr (lentOn_vanishes _ h) (lentOn_vanishes _ h) (lentOn_locked hl fresh m h)
  have hunlent := unlentOn_locked (D := D) fresh m h
  have hback := hub.routeBacking.modify_add_apply r.routePolicyHash h r.amount
  rw [if_pos loanId] at hunlent
  unfold Attributed at hold ⊢
  rw [hunlent]
  simp only [locked, recordLock, exposed] at hlent ⊢
  omega

/-- A new loan had nothing attributed to it before. -/
theorem attributed_loanLocked (hl : hub.Ledger D) (ha : hub.Assigned) (fresh : (hub.locks r.lockId).state = .none)
    (loanId : r.loanId ≠ 0) (unassigned : hub.loanAccount r.loanId = 0) (m h : W) :
    (hub.loanLocked D r m).Attributed h := by
  have hzero : hub.loanBacking r.loanId = 0 := by
    by_contra hn
    obtain ⟨hne, hs, hloan⟩ := hl.lent _ hn
    have hassigned := (ha _ (by simp [hs]) (hloan.trans_ne hne)).1
    rw [hloan] at hassigned
    exact hassigned unassigned
  have hold := hl.attributed h
  have hlent := sum_change hub.loanBacking (hub.loanBacking.set r.loanId r.amount) (lentOn_vanishes hub h)
    (lentOn_vanishes (hub.loanLocked D r m) h) r.loanId fun l hne => by
      rw [set_of_ne _ _ hne, ← lentOn_locked hl fresh m h l]
      simp only [lentOn, loanLocked, set_of_ne _ _ hne]
      rfl
  have hnew : (hub.loanLocked D r m).lentOn h r.loanId r.amount = if r.routePolicyHash = h then r.amount else 0 := by
    simp only [lentOn, loanLocked, locked, recordLock, set_self]
  have hbefore : hub.lentOn h r.loanId 0 = 0 := lentOn_vanishes hub h r.loanId
  have hunlent := unlentOn_locked (D := D) fresh m h
  have hback := hub.routeBacking.modify_add_apply r.routePolicyHash h r.amount
  rw [set_self, hnew, hzero, hbefore] at hlent
  rw [if_neg loanId] at hunlent
  change (hub.loanBacking.set r.loanId r.amount).sum _ + (hub.locked D r m).locks.sum _ ≤
    hub.routeBacking.modify r.routePolicyHash (· + r.amount) h + hub.burnDisposition.sum _
  unfold Attributed at hold
  omega

theorem attributed_exited (hl : hub.Ledger D) (loanId : d.loanId = 0) (unconsumed : hub.consumedBurn d.burnId = false)
    (covers : hub.Covers D d.backingRoutePolicyHash d.amount) (h : W) : (hub.exited D d).Attributed h := by
  have hold := hl.attributed h
  have hs := hub.burnDisposition.sum_set (BurnDisposition.exitedFrom_vanishes h) d.burnId d
  have hback := hub.routeBacking.modify_sub_apply h covers.route
  have before : (default : BurnDisposition W).exitedFrom h = 0 := BurnDisposition.exitedFrom_vanishes h d.burnId
  have after : d.exitedFrom h = if d.backingRoutePolicyHash = h then d.amount else 0 := if_pos loanId
  rw [hl.unconsumed _ unconsumed, before, after] at hs
  change hub.loanBacking.sum (hub.lentOn h) + hub.locks.sum _ ≤
    hub.routeBacking.modify d.backingRoutePolicyHash (· - d.amount) h + (hub.burnDisposition.set d.burnId d).sum _
  unfold Attributed at hold
  omega

theorem attributed_repaid (hl : hub.Ledger D) {account : Address} (ok : hub.Repayable D account d) (h : W) :
    (hub.repaid D d).Attributed h := by
  have hold := hl.attributed h
  have hs := hub.burnDisposition.sum_set (BurnDisposition.exitedFrom_vanishes h) d.burnId d
  have hlent := hub.lentOn_modify ok.backing h
  have hback := hub.routeBacking.modify_sub_apply h ok.covers.route
  have before : (default : BurnDisposition W).exitedFrom h = 0 := BurnDisposition.exitedFrom_vanishes h d.burnId
  have after : d.exitedFrom h = 0 := if_neg ok.loanId
  rw [hl.unconsumed _ ok.unconsumed, before, after] at hs
  rw [← ok.route] at hlent
  change (hub.loanBacking.modify d.loanId (· - d.amount)).sum (hub.lentOn h) + hub.locks.sum _ ≤
    hub.routeBacking.modify d.backingRoutePolicyHash (· - d.amount) h + (hub.burnDisposition.set d.burnId d).sum _
  unfold Attributed at hold
  omega

/-- A loan whose lock is undone had the whole of it attributed to it. -/
theorem attributed_unlockedLoan (hl : hub.Ledger D) {loanBacking : Mapping W Nat}
    (isLocked : (hub.locks x).state = .locked) (hloan : (hub.locks x).loanId = l) (hne : l ≠ 0)
    (hlock : hub.loanLock l = x) (whole : hub.loanBacking l = (hub.locks x).amount)
    (covers : (hub.locks x).amount ≤ hub.routeBacking (hub.locks x).routePolicyHash)
    (hback : loanBacking = hub.loanBacking.set l 0) (h : W) :
    Attributed { hub.unlocked D x with loanBacking := loanBacking } h := by
  subst hback
  have hold := hl.attributed h
  have hlent := hub.loanBacking.sum_set (hub.lentOn_vanishes h) l 0
  have hunlent := unlentOn_unlocked (D := D) isLocked h
  have hback := hub.routeBacking.modify_sub_apply h covers
  have hsame := lentOn_unlocked (D := D) hub x h
  simp only [lentOn, ite_self, hlock, whole] at hlent
  rw [if_neg (hloan.trans_ne hne)] at hunlent
  change (hub.loanBacking.set l 0).sum ((hub.unlocked D x).lentOn h) + (hub.unlocked D x).locks.sum _ ≤
    hub.routeBacking.modify (hub.locks x).routePolicyHash (· - (hub.locks x).amount) h + hub.burnDisposition.sum _
  rw [hsame]
  unfold Attributed at hold
  omega

theorem attributed_unlocked (hl : hub.Ledger D) (isLocked : (hub.locks x).state = .locked)
    (free : (hub.locks x).loanId = 0) (covers : (hub.locks x).amount ≤ hub.routeBacking (hub.locks x).routePolicyHash)
    (h : W) : (hub.unlocked D x).Attributed h := by
  have hold := hl.attributed h
  have hunlent := unlentOn_unlocked (D := D) isLocked h
  have hback := hub.routeBacking.modify_sub_apply h covers
  have hsame := lentOn_unlocked (D := D) hub x h
  rw [if_pos free] at hunlent
  change hub.loanBacking.sum ((hub.unlocked D x).lentOn h) + (hub.unlocked D x).locks.sum _ ≤
    hub.routeBacking.modify (hub.locks x).routePolicyHash (· - (hub.locks x).amount) h + hub.burnDisposition.sum _
  rw [hsame]
  unfold Attributed at hold
  omega

theorem Step.attributed (hstep : Step D hub hub') (hl : hub.Ledger D) (ha : hub.Assigned) (h : W) :
    hub'.Attributed h := by
  cases hstep with
  | lock ok loanId => exact attributed_locked hl ok.fresh loanId _ h
  | lockLoan ok loanId unassigned => exact attributed_loanLocked hl ha ok.fresh loanId unassigned _ h
  | exit loanId unconsumed covers => exact attributed_exited hl loanId unconsumed covers h
  | repay ok => exact attributed_repaid hl ok h
  | refund ok =>
    exact attributed_unlockedLoan hl ok.isLocked ok.lockLoan ok.isLoan rfl (ok.backing.trans ok.lockAmount.symm)
      (ok.lockAmount ▸ ok.covers.route) rfl h
  | @compensate _ x _ _ ok whole =>
    by_cases free : (hub.locks x).loanId = 0
    · have hfree := attributed_unlocked hl ok.isLocked free ok.covers.route h
      unfold compensated
      rw [if_pos free]
      exact hfree
    · have hlock := (ha x (by simp [ok.isLocked]) free).2
      have hloan := attributed_unlockedLoan hl ok.isLocked rfl free hlock (whole free) ok.covers.route rfl h
      unfold compensated
      rw [if_neg free]
      exact hloan
  | @reclassify loanId amount _ backing =>
    have hold := hl.attributed h
    have hlent := hub.lentOn_modify backing h
    change (hub.loanBacking.modify loanId (· - amount)).sum (hub.lentOn h) + hub.locks.sum _ ≤
      hub.routeBacking h + hub.burnDisposition.sum _
    unfold Attributed at hold
    omega
  | _ => exact hl.attributed h

theorem Ledger.step (hl : hub.Ledger D) (ha : hub.Assigned) (hstep : Step D hub hub') : hub'.Ledger D :=
  ⟨hstep.counted hl, hstep.backed hl, hstep.unconsumed hl, hstep.held hl, hstep.lent hl, hstep.attributed hl ha⟩

end Hub

/-! ### The loans that the hub backs -/

namespace Home

/-- What the hub keeps for a loan, as its account knows it. -/
structure Backs [Evm W] (hub : Hub W) (acc : LoanAccount W) : Prop where
  amount : (hub.locks acc.terms.fundingLockId).amount = acc.terms.principalAmount
  refunded : (hub.locks acc.terms.fundingLockId).state = .compensated → acc.fundingRefunded = true
  drawn : acc.activated = true → hub.loanBacking acc.terms.loanId = acc.outstandingPrincipal
  undrawn : acc.activated = false → (hub.locks acc.terms.fundingLockId).state = .locked →
    hub.loanBacking acc.terms.loanId = acc.terms.principalAmount

namespace Backs

variable [Evm W] {hub hub' : Hub W} {acc acc' : LoanAccount W}

theorem frame (hb : Backs hub acc) (locks : hub'.locks acc.terms.fundingLockId = hub.locks acc.terms.fundingLockId)
    (backing : hub'.loanBacking acc.terms.loanId = hub.loanBacking acc.terms.loanId) : Backs hub' acc := by
  refine ⟨?_, ?_, ?_, ?_⟩
  · rw [locks]
    exact hb.amount
  · rw [locks]
    exact hb.refunded
  · rw [backing]
    exact hb.drawn
  · rw [locks, backing]
    exact hb.undrawn

/-- A transition of the account that neither draws nor repays the loan. -/
theorem moved (hb : Backs hub acc) (terms : acc'.terms = acc.terms) (activated : acc'.activated = acc.activated)
    (outstanding : acc'.outstandingPrincipal = acc.outstandingPrincipal)
    (refunded : acc.fundingRefunded = true → acc'.fundingRefunded = true) : Backs hub acc' := by
  refine ⟨?_, ?_, ?_, ?_⟩ <;> rw [terms]
  · exact hb.amount
  · exact fun hs => refunded (hb.refunded hs)
  · rw [activated, outstanding]
    exact hb.drawn
  · rw [activated]
    exact hb.undrawn

end Backs

section

variable [Evm W] {h t : Home W} {a : Address} {acc : LoanAccount W}

def AllBacked (h : Home W) : Prop := ∀ a, (h.accounts a).terms.loanId ≠ 0 → Backs h.hub (h.accounts a)

theorem AllBacked.set (hb : h.AllBacked) (accounts : t.accounts = h.accounts.set a acc) (own : Backs t.hub acc)
    (others : ∀ b, b ≠ a → (h.accounts b).terms.loanId ≠ 0 →
      t.hub.locks (h.accounts b).terms.fundingLockId = h.hub.locks (h.accounts b).terms.fundingLockId ∧
        t.hub.loanBacking (h.accounts b).terms.loanId = h.hub.loanBacking (h.accounts b).terms.loanId) :
    t.AllBacked := by
  intro b hdeployed
  rw [accounts, set_apply] at hdeployed ⊢
  split at hdeployed
  next heq =>
    rw [if_pos heq]
    exact own
  next hne =>
    rw [if_neg hne]
    obtain ⟨locks, backing⟩ := others b hne hdeployed
    exact (hb b hdeployed).frame locks backing

/-- Two accounts have two loans and two locks. -/
theorem Bound.apart {b : Address} {acc' : LoanAccount W} (ha : Bound h a acc) (hb : Bound h b acc') (hne : b ≠ a) :
    acc'.terms.loanId ≠ acc.terms.loanId ∧ acc'.terms.fundingLockId ≠ acc.terms.fundingLockId := by
  have hloan : acc'.terms.loanId ≠ acc.terms.loanId := fun heq => hne (hb.account.symm.trans (heq ▸ ha.account))
  refine ⟨hloan, fun heq => hloan ?_⟩
  rw [← hb.loan, heq, ha.loan]

end

variable [CollisionFree W] {D : Deployment W} {env : Env W} {h t : Home W} {a : Address}

variable {sent : Option (MessageEnvelope W)} {c : Coordinator W} {acc pending : LoanAccount W}

theorem Asks.backs {hub : Hub W} {acc' : LoanAccount W} (asks : Asks D c a acc acc' sent) (hb : Backs hub acc) :
    Backs hub acc' := by
  cases asks <;> exact hb.moved rfl rfl rfl fun h => h

theorem AllBacked.moved (hb : h.AllBacked) (hl : Local D h) (moves : (h.accounts a).Moves pending)
    (asks : Asks D c a pending acc sent) (activated : pending.activated = (h.accounts a).activated)
    (outstanding : pending.outstandingPrincipal = (h.accounts a).outstandingPrincipal)
    (accounts : t.accounts = h.accounts.set a acc) (hub : t.hub = h.hub) : t.AllBacked := by
  refine hb.set accounts ?_ fun b _ _ => by rw [hub]; exact ⟨rfl, rfl⟩
  rw [hub]
  have hdeployed : (h.accounts a).terms.loanId ≠ 0 := fun hz => moves.state_ne ((hl.accounted a).undeployed hz)
  exact asks.backs ((hb a hdeployed).moved moves.kept.terms activated outstanding moves.kept.refunded)

theorem AllBacked.disbursed (hb : h.AllBacked) (hl : Local D h)
    (unfinished : (h.accounts a).state = .activating ∨ (h.accounts a).resolvesCancellationRace = true)
    (unsettled : (h.accounts a).activated = false)
    (accounts : t.accounts = h.accounts.set a (h.accounts a).disbursementReported) (hub : t.hub = h.hub) :
    t.AllBacked := by
  have moves := LoanAccount.Moves.disbursementReported unfinished
  have bound := (hl.accounted a).locked moves.state_ne
  have old := hb a fun hz => moves.state_ne ((hl.accounted a).undeployed hz)
  refine hb.set accounts ?_ fun b _ _ => by rw [hub]; exact ⟨rfl, rfl⟩
  rw [hub]
  refine ⟨old.amount, old.refunded, fun _ => ?_, fun hn => ?_⟩
  · -- The lock was not undone, as the funding was not returned.
    refine old.undrawn unsettled ?_
    have hphase := moves.phase (hl.accounted a).phase
    rcases (hl.locked (h.accounts a).terms.fundingLockId).known with hs | hs | hs
    · exact absurd hs bound.locked
    · exact hs
    · have hr : (h.accounts a).disbursementReported.fundingRefunded = true := old.refunded hs
      exact absurd (hphase.1.symm.trans hr) (by simp)
  · rw [LoanAccount.activated_disbursementReported] at hn
    cases hn

theorem AllBacked.repaid (hb : h.AllBacked) (hl : Local D h) {paymentId : W} {n : Nat}
    (active : (h.accounts a).state = .active) (asks : Asks D c a ((h.accounts a).repaid paymentId n) acc sent)
    (accounts : t.accounts = h.accounts.set a acc) (locks : t.hub.locks = h.hub.locks)
    (backing : t.hub.loanBacking = h.hub.loanBacking.modify (h.accounts a).terms.loanId (· - n)) : t.AllBacked := by
  have moves := LoanAccount.Moves.repaid paymentId n active
  have bound := (hl.accounted a).locked moves.state_ne
  have hdeployed : (h.accounts a).terms.loanId ≠ 0 := fun hz => moves.state_ne ((hl.accounted a).undeployed hz)
  have hactivated := (hl.accounted a).phase.activated_of_active active
  refine hb.set accounts (asks.backs ?_) fun b hne hb => ?_
  · -- The payment takes the same off the debt and off the backing.
    have old := hb a hdeployed
    refine ⟨locks ▸ old.amount, locks ▸ old.refunded, fun _ => ?_, fun hundrawn => ?_⟩
    · change t.hub.loanBacking (h.accounts a).terms.loanId = (h.accounts a).outstandingPrincipal - n
      rw [backing, modify_self, old.drawn hactivated]
    · rw [LoanAccount.activated_repaid, hactivated] at hundrawn
      cases hundrawn
  · have apart := bound.apart ((hl.accounted b).bound hb) hne
    rw [locks, backing, modify_of_ne _ _ apart.1]
    exact ⟨rfl, rfl⟩

theorem AllBacked.returned (hb : h.AllBacked) (hl : Local D h) (moves : (h.accounts a).Moves pending)
    (asks : Asks D c a pending acc sent) (undrawn : pending.activated = false)
    (refunded : pending.fundingRefunded = true) (accounts : t.accounts = h.accounts.set a acc)
    (locks : t.hub.locks = h.hub.locks.set (h.accounts a).terms.fundingLockId
      { h.hub.locks (h.accounts a).terms.fundingLockId with state := .compensated })
    (backing : t.hub.loanBacking = h.hub.loanBacking.set (h.accounts a).terms.loanId 0) : t.AllBacked := by
  have bound := (hl.accounted a).locked moves.state_ne
  have hdeployed : (h.accounts a).terms.loanId ≠ 0 := fun hz => moves.state_ne ((hl.accounted a).undeployed hz)
  refine hb.set accounts (asks.backs ⟨?_, fun _ => refunded, fun ha => ?_, fun _ hs => ?_⟩) fun b hne hb => ?_
  · rw [moves.kept.terms, locks, set_self]
    exact (hb a hdeployed).amount
  · rw [undrawn] at ha
    cases ha
  · rw [moves.kept.terms, locks, set_self] at hs
    cases hs
  · have apart := bound.apart ((hl.accounted b).bound hb) hne
    rw [locks, backing, set_of_ne _ _ apart.1, set_of_ne _ _ apart.2]
    exact ⟨rfl, rfl⟩

theorem Step.allBacked (hstep : Step D env h t) (hl : Local D h) (hb : h.AllBacked) : t.AllBacked := by
  -- The lock of an account that exists is not one that is just made.
  have old {r : LockRequest W} (fresh : (h.hub.locks r.lockId).state = .none) {b : Address}
      (hdeployed : (h.accounts b).terms.loanId ≠ 0) : (h.accounts b).terms.fundingLockId ≠ r.lockId := by
    intro heq
    have bound := (hl.accounted b).bound hdeployed
    exact bound.locked (heq ▸ fresh)
  cases hstep with
  | @lock _ _ _ _ ok =>
    intro b hdeployed
    exact (hb b hdeployed).frame (set_of_ne _ _ (old ok.fresh hdeployed)) rfl
  | @create _ _ _ _ _ _ _ ok lockable loanId lockId account amount =>
    refine hb.set rfl ?_ fun b hne hdeployed => ⟨set_of_ne _ _ (old lockable.fresh hdeployed),
      set_of_ne _ _ fun heq => ?_⟩
    · refine ⟨?_, fun hs => ?_, (fun ha => by cases ha), fun _ _ => ?_⟩ <;>
        simp only [LoanAccount.deploy, Hub.holding, Hub.loanLocked, Hub.locked, Hub.recordLock, ← lockId, ← loanId,
          set_self] at *
      · exact amount
      · cases hs
      · exact amount
    · have bound := (hl.accounted b).bound hdeployed
      have hfree := ok.unassigned
      rw [← loanId, ← heq, bound.account] at hfree
      exact bound.known hfree
  | repayDirectly active _ _ _ _ _ asks => exact hb.repaid hl active asks rfl rfl rfl
  | requestCancellation _ _ _ activating =>
    exact hb.moved hl (.cancellationRequested _ _ _ activating) (.nothing (c := h.endpoint.coordinator)) rfl rfl rfl rfl
  | reportMint _ _ activating asks =>
    exact hb.moved hl (.mintReported _ activating) asks (LoanAccount.activated_mintReported ..) rfl rfl rfl
  | @reportCollateral _ _ _ p a _ _ _ _ _ _ unfinished advanced asks =>
    have same : ((h.accounts a).collateralReported p.operationId).activated = (h.accounts a).activated :=
      LoanAccount.activated_collateralReported ..
    rcases id advanced with rfl | rfl <;>
      exact hb.moved hl (.collateralReported p.operationId unfinished advanced) asks same rfl rfl rfl
  | reportDisbursement _ _ unfinished unsettled =>
    exact hb.disbursed hl unfinished unsettled rfl rfl
  | reportRelease _ _ closing =>
    exact hb.moved hl (.releaseReported closing) (.nothing (c := h.endpoint.coordinator)) rfl rfl rfl rfl
  | @refund _ _ _ c a _ _ _ _ _ _ _ _ _ _ _ _ pendingRecovery _ _ _ _ advanced asks =>
    have moves := LoanAccount.Moves.refunded c.cancellationId pendingRecovery advanced
    have bound := (hl.accounted a).locked moves.state_ne
    have same : ((h.accounts a).refunded c.cancellationId).activated = false :=
      (LoanAccount.activated_refunded ..).trans ((hl.accounted a).phase.unactivated (.inr pendingRecovery))
    refine hb.returned hl moves asks ?_ ?_ rfl ?_ rfl
    · rcases advanced with rfl | rfl <;> exact same
    · rcases advanced with rfl | rfl <;> rfl
    · rw [← bound.lock]
      rfl
  | repay _ _ _ _ _ _ active loanId _ _ dLoan _ dAmount _ asks =>
    refine hb.repaid hl active asks rfl rfl ?_
    rw [← loanId, ← dLoan, ← dAmount]
    rfl
  | @compensate _ _ _ _ _ _ _ _ _ _ _ _ loanId =>
    intro b hdeployed
    have bound := (hl.accounted b).bound hdeployed
    refine (hb b hdeployed).frame (set_of_ne _ _ fun heq => ?_) ?_
    · have hzero := bound.loan
      rw [heq, loanId] at hzero
      exact hdeployed hzero.symm
    · simp only [Hub.holding, Hub.compensated, if_pos loanId]
  | @compensateLoan _ _ _ _ _ _ _ _ _ _ a _ _ _ _ _ loanId _ activating funding advanced asks =>
    have moves := LoanAccount.Moves.compensated activating advanced
    have bound := (hl.accounted a).locked moves.state_ne
    have same : (h.accounts a).compensated.activated = false := (hl.accounted a).phase.unactivated (.inl activating)
    subst funding
    refine hb.returned hl moves asks ?_ ?_ rfl rfl ?_
    · rcases advanced with rfl | rfl <;> exact same
    · rcases advanced with rfl | rfl <;> rfl
    · rw [bound.loan] at loanId
      simp only [Hub.holding, Hub.compensated, bound.loan, if_neg loanId]
  | _ => exact fun a ha => (hb a ha).frame rfl rfl

theorem Step.ledger (hstep : Step D env h t) (hl : Local D h) (hb : h.AllBacked) : h.hub.Step D t.hub := by
  cases hstep with
  | hold kept => exact .hold kept
  | lock ok loanId _ backed => exact .lock ok loanId backed
  | create ok lockable loanId _ _ _ _ backed =>
    exact .lockLoan lockable (loanId.trans_ne ok.loanId) (loanId ▸ ok.unassigned) backed
  | repayDirectly _ _ _ _ backing kept => exact .reclassify backing kept
  | refund _ _ _ _ _ _ _ _ _ refundable backed => exact .refund refundable backed
  | repay _ _ _ _ _ _ _ _ _ repayable _ _ _ backed => exact .repay repayable backed
  | exit _ _ exitable backed =>
    exact .exit exitable.loanId exitable.unconsumed exitable.covers backed
  | compensate _ compensable loanId backed => exact .compensate compensable (absurd loanId) backed
  | @compensateLoan _ _ _ _ _ _ _ _ _ _ a _ _ _ _ compensable _ _ activating funding advanced _ backed =>
    refine .compensate compensable (fun _ => ?_) backed
    subst funding
    have moves := LoanAccount.Moves.compensated activating advanced
    have bound := (hl.accounted a).locked moves.state_ne
    have old := hb a fun hz => moves.state_ne ((hl.accounted a).undeployed hz)
    rw [bound.loan, old.amount]
    exact old.undrawn ((hl.accounted a).phase.unactivated (.inl activating)) compensable.isLocked
  | _ => exact .idle

theorem Local.assigned (hl : Local D h) : h.hub.Assigned := fun x => (hl.locked x).loan

end Home

namespace World

variable [CollisionFree W] {D : Deployment W} {w w' : World W} {σ : Nat} {a : Address}

structure Booked (D : Deployment W) (w : World W) : Prop where
  valid : Valid D w
  backs : w.home.AllBacked
  ledger : w.home.hub.Ledger D
  conserved : ∀ σ, σ ≠ D.home.localChainId → (D.satellite σ).canonicalBackingRoutePolicyHash ≠ 0 →
    Conserved D σ w.home (w.satellite σ)

theorem Booked.initial (D : Deployment W) (canonicalUFT : Token) (collateralToken : Nat → Token) :
    Booked D (initial D canonicalUFT collateralToken) where
  valid := .initial D canonicalUFT collateralToken
  backs _ h := absurd rfl h
  ledger := .initial D canonicalUFT
  conserved σ _ _ := conserved_initial D σ canonicalUFT (collateralToken σ)

theorem Booked.step (hb : Booked D w) (hstep : Step D w w') : Booked D w' := by
  refine ⟨hb.valid.step hstep, ?_, ?_, fun σ hσ hcan => hb.valid.conserved_step hσ hcan hstep (hb.conserved σ hσ hcan)⟩
  · cases hstep with
    | home _ _ step => exact step.allBacked hb.valid.home hb.backs
    | satellite => exact hb.backs
  · cases hstep with
    | home _ _ step => exact hb.ledger.step hb.valid.home.assigned (step.ledger hb.valid.home hb.backs)
    | satellite => exact hb.ledger

theorem Booked.run (hb : Booked D w) (calls : List (WorldCall W)) : Booked D (w.run D calls) :=
  runCalls_invariant (Booked D) (fun _ _ _ h hb => hb.step (exec_step h)) hb calls

/-! ### What the counters cover -/

theorem Booked.covers (hb : Booked D w) {h : W} {n : Nat} (hn : n ≤ w.home.hub.routeBacking h) :
    w.home.hub.Covers D h n := by
  have counted := hb.ledger.counted
  refine ⟨hn, hn.trans (counted.chain.le h), hn.trans (counted.adapter.le h), hn.trans ?_⟩
  rw [← counted.total]
  exact le_totalOver trivial

/-- What is kept for a loan that is neither drawn nor returned is its whole lock. -/
theorem Booked.whole (hb : Booked D w)
    (hs : (w.home.accounts a).state = .activating ∨ (w.home.accounts a).state = .recoveryPending)
    (hr : (w.home.accounts a).fundingRefunded = false) :
    w.home.hub.loanBacking (w.home.accounts a).terms.loanId =
      (w.home.hub.locks (w.home.accounts a).terms.fundingLockId).amount := by
  have accounted := hb.valid.home.accounted a
  have hne : (w.home.accounts a).state ≠ .none := by rcases hs with hs | hs <;> simp [hs]
  have bound := accounted.locked hne
  have backs := hb.backs a fun hz => hne (accounted.undeployed hz)
  rw [backs.amount]
  refine backs.undrawn (accounted.phase.unactivated hs) ?_
  rcases (hb.valid.home.locked (w.home.accounts a).terms.fundingLockId).known with hk | hk | hk
  · exact absurd hk bound.locked
  · exact hk
  · exact absurd ((backs.refunded hk).symm.trans hr) (by simp)

/-- What is kept for an active loan is its debt. -/
theorem Booked.debt (hb : Booked D w) (hs : (w.home.accounts a).state = .active) :
    w.home.hub.loanBacking (w.home.accounts a).terms.loanId = (w.home.accounts a).outstandingPrincipal := by
  have accounted := hb.valid.home.accounted a
  have backs := hb.backs a fun hz => by simp [accounted.undeployed hz] at hs
  exact backs.drawn (accounted.phase.activated_of_active hs)

/-- The hub's ledger in every reachable state. -/
theorem hub_ledger (D : Deployment W) (canonicalUFT : Token) (collateralToken : Nat → Token)
    (calls : List (WorldCall W)) :
    let w := (initial D canonicalUFT collateralToken).run D calls
    let hub := w.home.hub
    ((hub.routeBacking.sum fun _ n => n) = hub.totalBridgeBacking ∧
      (hub.backingForChain.sum fun _ n => n) = hub.totalBridgeBacking ∧
      (hub.adapterBacking.sum fun _ n => n) = hub.totalBridgeBacking) ∧
    hub.totalBridgeBacking ≤ hub.canonicalUFT.balances D.homeBridgeHub ∧
    (∀ h, hub.routeBacking h +
        (hub.burnDisposition.sum fun _ d => if d.backingRoutePolicyHash = h then d.amount else 0) =
      hub.locks.sum fun _ r => if r.state = .locked ∧ r.routePolicyHash = h then r.amount else 0) ∧
    (∀ h, (hub.loanBacking.sum fun l n => if (hub.locks (hub.loanLock l)).routePolicyHash = h then n else 0) ≤
      hub.routeBacking h +
        hub.burnDisposition.sum fun _ d => if d.loanId = 0 then (if d.backingRoutePolicyHash = h then d.amount else 0) else 0) ∧
    (∀ a, (w.home.accounts a).state = .active →
      hub.loanBacking (w.home.accounts a).terms.loanId = (w.home.accounts a).outstandingPrincipal) ∧
    (∀ a, ((w.home.accounts a).state = .activating ∨ (w.home.accounts a).state = .recoveryPending) →
      (w.home.accounts a).fundingRefunded = false →
      hub.loanBacking (w.home.accounts a).terms.loanId = (hub.locks (w.home.accounts a).terms.fundingLockId).amount) ∧
    (∀ σ, σ ≠ D.home.localChainId → (D.satellite σ).canonicalBackingRoutePolicyHash ≠ 0 →
      let r := (D.satellite σ).canonicalBackingRoutePolicyHash
      (∀ x, (hub.locks x).state = .locked → (hub.locks x).routePolicyHash = r →
        (w.satellite σ).endpoint.coordinator.executionResult (hub.locks x).messageId = 0 →
        hub.Covers D r (hub.locks x).amount) ∧
      (∀ b, ((w.satellite σ).wrapped.burnRecords b).state = .burned →
        w.home.endpoint.coordinator.executionResult ((w.satellite σ).wrapped.burnRecords b).messageId = 0 →
        hub.Covers D r ((w.satellite σ).wrapped.burnRecords b).amount) ∧
      (∀ l, hub.cancellationRefund ((w.satellite σ).settlement.records l).cancellationId = 0 →
        hub.Covers D r ((w.satellite σ).settlement.records l).cancelledAmount)) := by
  intro w hub
  have hb : Booked D w := (Booked.initial D canonicalUFT collateralToken).run calls
  have counted := hb.ledger.counted
  have htotal := counted.total
  have hchain := counted.chain.total
  have hadapter := counted.adapter.total
  rw [htotal, totalOver_true] at hchain hadapter
  rw [totalOver_true] at htotal
  refine ⟨⟨htotal, hchain, hadapter⟩, hb.ledger.backed, hb.ledger.held, fun h => ?_, fun _ => hb.debt, fun _ => hb.whole,
    fun σ hσ hcan => ?_⟩
  · exact (Nat.le_add_right _ _).trans (hb.ledger.attributed h)
  -- Everything that is on its way is part of what the route's backing is the sum of.
  have hc : w.home.hub.routeBacking _ = _ := hb.conserved σ hσ hcan
  refine ⟨fun x hs hr hx => hb.covers ?_, fun b hs hx => hb.covers ?_, fun l hu => hb.covers ?_⟩
  · have hle := w.home.hub.locks.weight_le_sum (Satellite.unminted_vanishes D σ (w.satellite σ)) x
    rw [show (w.satellite σ).unminted D σ x (w.home.hub.locks x) = _ from if_pos ⟨hs, hr, hx⟩] at hle
    exact hle.trans (by omega)
  · have hle := (w.satellite σ).wrapped.burnRecords.weight_le_sum w.home.unreleased_vanishes b
    rw [show w.home.unreleased b ((w.satellite σ).wrapped.burnRecords b) = _ from if_pos ⟨hs, hx⟩] at hle
    omega
  · have hle := (w.satellite σ).settlement.records.weight_le_sum w.home.unrefunded_vanishes l
    rw [show w.home.unrefunded l ((w.satellite σ).settlement.records l) = _ from if_pos hu] at hle
    omega

theorem hub_ledger_loanCreated :
    (sampleWorld.run oneSatellite loanCreated).home.hub.Covers oneSatellite (.lit 51) 100 :=
  ((hub_ledger oneSatellite sampleUFT sampleCollateral loanCreated).2.2.2.2.2.2 2 (by decide) (by decide)).1 (.lit 73)
    (by decide +kernel) (by decide +kernel) (by decide +kernel)

def exitPayload : Payload Term := WrappedUftBurnedPayload.encode ⟨.lit 81, .lit 51, 12, 11, 21, 31, 100⟩

def principalExited : List (WorldCall Term) :=
  loanDisbursed ++
    [.satellite 2 (openEnv 16) (.burnForBridge 31 (.lit 81) (.lit 51) (.lit 56) 31 100 false 1000),
      .home (openEnv 17) (.executeMessage
        ((WrappedUFT.burnRequest oneSatellite 2
          ⟨.lit 81, 0, 0, .lit 51, 100, .lit 56, .wrappedUftBurned, 31, 1000, .lit 81⟩ exitPayload).envelope
          (oneSatellite.satellite 2).endpoint.toCoordinatorConfig (oneSatelliteRoutes (.lit 56)) 16 1)
        exitPayload none)]

/-- The loan is still attributed to a route that has no backing left. -/
theorem loanBacking_exceeds_routeBacking :
    let hub := (sampleWorld.run oneSatellite principalExited).home.hub
    hub.routeBacking (.lit 51) = 0 ∧ hub.loanBacking (.lit 71) = 100 ∧
      hub.routeBacking (.lit 51) <
        hub.loanBacking.sum fun l n => if (hub.locks (hub.loanLock l)).routePolicyHash = .lit 51 then n else 0 := by
  intro hub
  have hle := hub.loanBacking.weight_le_sum (hub.lentOn_vanishes (.lit 51)) (.lit 71)
  exact ⟨by decide +kernel, by decide +kernel, lt_of_lt_of_le (by decide +kernel) hle⟩

end World

end Unified.CrossChain
