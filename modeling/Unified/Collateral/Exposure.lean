import Unified.Collateral.Steps

/-! The accounting of collateral: the manager's exposures, the records of the vaults and what the vaults hold agree in
    every state in which somebody else can get control. -/

namespace Unified.Collateral

open Mapping

variable {W : Type} [Evm W]

/-! ### Locked quantities -/

/-- What the locked items that `p` picks have left, where `p` sees the loan and the item. -/
def lockedIn (p : W → CollateralItem W → Bool) (items : Mapping (W × W) (CollateralItem W)) : Nat :=
  items.sum fun k item => if item.status = .locked ∧ p k.1 item = true then item.quantity else 0

def ofAsset (loanId assetId : W) (l : W) (item : CollateralItem W) : Bool := l = loanId ∧ item.assetId = assetId

def ofKey (loanId : W) (key : AssetKey) (l : W) (item : CollateralItem W) : Bool := l = loanId ∧ item.key = key

section

variable {p : W → CollateralItem W → Bool} {items items' : Mapping (W × W) (CollateralItem W)} {l cid : W}
  {item : CollateralItem W} {quantity : Nat} {target : CollateralStatus}

theorem locked_vanishes (p : W → CollateralItem W → Bool) : Mapping.Vanishes fun (k : W × W) (item : CollateralItem W) =>
    if item.status = .locked ∧ p k.1 item = true then item.quantity else 0 := by
  intro k
  exact if_neg fun h => nomatch h.1

/-- A deposit adds its quantity where it counts. -/
theorem lockedIn_store (hnew : (items (l, cid)).status ≠ .locked) (hlocked : item.status = .locked) :
    lockedIn p (items.set (l, cid) item) = lockedIn p items + if p l item = true then item.quantity else 0 := by
  have h := items.sum_set (locked_vanishes p) (l, cid) item
  have hold : ¬ ((items (l, cid)).status = .locked ∧ p l (items (l, cid)) = true) := fun h => hnew h.1
  simp only [if_neg hold, hlocked, true_and] at h
  exact h

/-- A disposal takes its quantity away where the item counts. -/
theorem lockedIn_disposed (hlocked : (items (l, cid)).status = .locked) (hle : quantity ≤ (items (l, cid)).quantity)
    (htarget : target ≠ .locked)
    (hp : p l (Custody.disposed (items (l, cid)) quantity target) = p l (items (l, cid))) :
    lockedIn p (items.set (l, cid) (Custody.disposed (items (l, cid)) quantity target)) +
      (if p l (items (l, cid)) = true then quantity else 0) = lockedIn p items := by
  have h := items.sum_set (locked_vanishes p) (l, cid) (Custody.disposed (items (l, cid)) quantity target)
  unfold lockedIn
  simp only [hlocked, true_and, hp] at h
  by_cases hcounts : p l (items (l, cid)) = true
  · simp only [hcounts, and_true, if_true, Custody.disposed] at h ⊢
    by_cases hzero : (items (l, cid)).quantity - quantity = 0
    · simp only [hzero, if_true, if_neg htarget] at h ⊢
      omega
    · simp only [if_neg hzero, hlocked, if_true] at h ⊢
      omega
  · simp only [hcounts, and_false, if_false, Bool.false_eq_true] at h ⊢
    omega

/-- Only the items of the loan that `p` asks for matter. -/
theorem lockedIn_congr (h : ∀ l' cid, p l' (items (l', cid)) = true ∨ p l' (items' (l', cid)) = true →
    items' (l', cid) = items (l', cid)) : lockedIn p items' = lockedIn p items := by
  refine sum_congr (locked_vanishes p) (locked_vanishes p) fun k => ?_
  obtain ⟨l', cid⟩ := k
  by_cases hp : p l' (items (l', cid)) = true ∨ p l' (items' (l', cid)) = true
  · rw [h l' cid hp]
  · rw [not_or] at hp
    simp only [hp.1, hp.2, and_false, if_false, Bool.false_eq_true]

theorem lockedIn_ofKey_congr {key : AssetKey} (h : ∀ cid, items' (l, cid) = items (l, cid)) :
    lockedIn (ofKey l key) items' = lockedIn (ofKey l key) items := by
  refine lockedIn_congr fun l' cid hp => ?_
  simp only [ofKey, decide_eq_true_eq] at hp
  rcases hp with ⟨rfl, -⟩ | ⟨rfl, -⟩ <;> exact h cid

end

namespace World

variable {d : Deployment W} {ctx : Context} {s t u : World W}

/-- The manager, the vaults and the assets agree. -/
structure CustodyInv (d : Deployment W) (w : World W) : Prop where
  exposure : ∀ l a, w.custody.loanExposure (l, a) = w.custody.assetBalance (l, a)
  recorded : ∀ l a, w.custody.assetBalance (l, a) = lockedIn (ofAsset l a) w.custody.items
  borrowers : ∀ b a, w.custody.borrowerExposure (b, a) =
    w.custody.loanExposure.totalOver fun k => (w.registry k.1).borrower = b ∧ k.2 = a
  registered : ∀ l a, w.custody.loanExposure (l, a) ≠ 0 → (w.registry l).registered = true
  backed : ∀ l key, lockedIn (ofKey l key) w.custody.items ≤ w.balance key (d.vault l)
  spent : ∀ k, (w.custody.items k).status ≠ .locked → (w.custody.items k).quantity = 0
  quantities : ∀ k, w.disposed k + (w.custody.items k).quantity = w.deposited k
  /-- There is one of each non-fungible token. -/
  single : ∀ key, key.kind = .erc721 → (w.assets key).totalSupply ≤ 1
  debt : w.custody.totalUftBackedDebt = w.custody.uftBackedDebt.totalOver fun _ => True
  ceiling : w.custody.totalUftBackedDebt ≤ w.custody.uftBackedDebtCeiling
  released : ∀ l cid, (w.custody.items (l, cid)).status = .released → (w.registry l).registered = true ∧
    (w.registry l).terminal = true ∧ (w.loans l).outstandingPrincipal = 0

/-- What a call leaves alone that is made while some vaults are in the middle of a call. -/
structure Undisturbed (d : Deployment W) (s t : World W) : Prop where
  evolves : Evolves s t
  entered : ∀ l, s.custody.entered l = true → t.custody.entered l = true
  items : ∀ l, s.custody.entered l = true → ∀ cid, t.custody.items (l, cid) = s.custody.items (l, cid)
  vaults : ∀ l, s.custody.entered l = true → ∀ key, s.balance key (d.vault l) ≤ t.balance key (d.vault l)

theorem Undisturbed.refl (s : World W) : Undisturbed d s s :=
  ⟨.refl s, fun _ h => h, fun _ _ _ => rfl, fun _ _ _ => le_rfl⟩

theorem Undisturbed.trans (h : Undisturbed d s t) (h' : Undisturbed d t u) : Undisturbed d s u where
  evolves := h.evolves.trans h'.evolves
  entered l hl := h'.entered l (h.entered l hl)
  items l hl cid := (h'.items l (h.entered l hl) cid).trans (h.items l hl cid)
  vaults l hl key := (h.vaults l hl key).trans (h'.vaults l (h.entered l hl) key)

theorem Outside.undisturbed (h : Outside d s t) : Undisturbed d s t where
  evolves := h.evolves
  entered l hl := by rw [h.custody]; exact hl
  items l _ cid := by rw [h.custody]
  vaults l _ key := h.vaults l key

/-- Where a loan has exposure its borrower is fixed. -/
theorem CustodyInv.totalOver_evolves (h : CustodyInv d s) (he : Evolves s t) (b : Address) (a : W) :
    (s.custody.loanExposure.totalOver fun k => (t.registry k.1).borrower = b ∧ k.2 = a) =
      s.custody.loanExposure.totalOver fun k => (s.registry k.1).borrower = b ∧ k.2 = a := by
  refine sum_congr (totalOver_vanishes _) (totalOver_vanishes _) fun k => ?_
  by_cases hzero : s.custody.loanExposure k = 0
  · simp only [hzero, ite_self]
  · simp only [he.borrower k.1 (h.registered k.1 k.2 hzero)]

theorem CustodyInv.outside (h : CustodyInv d s) (ho : Outside d s t) : CustodyInv d t where
  exposure := by rw [ho.custody]; exact h.exposure
  recorded := by rw [ho.custody]; exact h.recorded
  borrowers b a := by rw [ho.custody, h.totalOver_evolves ho.evolves, h.borrowers]
  registered l a := by
    rw [ho.custody]
    exact fun hne => ho.evolves.registered l (h.registered l a hne)
  backed l key := by
    rw [ho.custody]
    exact (h.backed l key).trans (ho.vaults l key)
  spent := by rw [ho.custody]; exact h.spent
  quantities k := by rw [ho.custody, ho.deposited, ho.disposed]; exact h.quantities k
  single key hkey := by rw [ho.supply]; exact h.single key hkey
  debt := by rw [ho.custody]; exact h.debt
  ceiling := by rw [ho.custody]; exact h.ceiling
  released l cid := by
    rw [ho.custody]
    intro hrel
    obtain ⟨hreg, hterm, hzero⟩ := h.released l cid hrel
    exact ⟨ho.evolves.registered l hreg, ho.evolves.terminal l hreg hterm,
      Nat.le_zero.mp (hzero ▸ ho.evolves.outstanding l hreg)⟩

/-- The calls that are made before and after the assets move keep the invariant and disturb no vault that is entered. -/
abbrev InnerKeep (d : Deployment W) (before after : World W → World W) : Prop :=
  CallTree.Keeps (CustodyInv d) (Undisturbed d) before ∧ CallTree.Keeps (CustodyInv d) (Undisturbed d) after

/-- What a nested list of calls guarantees; nothing happens where control is not handed over. -/
theorem keeps_hand (kind : CollateralKind) {inner : World W → World W}
    (h : CallTree.Keeps (CustodyInv d) (Undisturbed d) inner) :
    CallTree.Keeps (CustodyInv d) (Undisturbed d) (hand kind inner) := by
  intro w hw
  unfold hand
  split
  · exact ⟨hw, .refl w⟩
  · exact h w hw

theorem CustodyInv.configured {c : Custody W} (h : CustodyInv d s) (hc : Configured s.custody c) :
    CustodyInv d { s with custody := c } where
  exposure l a := by rw [hc.loanExposure, hc.assetBalance, h.exposure]
  recorded l a := by rw [hc.assetBalance, hc.items, h.recorded]
  borrowers b a := by rw [hc.borrowerExposure, hc.loanExposure, h.borrowers]
  registered l a hne := h.registered l a (by rwa [hc.loanExposure] at hne)
  backed l key := by rw [hc.items]; exact h.backed l key
  spent := by rw [hc.items]; exact h.spent
  quantities k := by rw [hc.items]; exact h.quantities k
  single := h.single
  debt := (hc.debts h.debt h.ceiling).1
  ceiling := (hc.debts h.debt h.ceiling).2
  released l cid := by rw [hc.items]; exact h.released l cid

/-- The guards of the vaults are of no concern to the accounts. -/
theorem CustodyInv.guards {entered : Mapping W Bool} (h : CustodyInv d s) :
    CustodyInv d { s with custody := { s.custody with entered := entered } } :=
  ⟨h.exposure, h.recorded, h.borrowers, h.registered, h.backed, h.spent, h.quantities, h.single, h.debt, h.ceiling,
    h.released⟩

/-! ### Deposits -/

section

variable {kind : CollateralKind} {loanId collateralId assetId : W} {tokenId amount quantity : Nat}
  {before after : World W → World W} {w w' : World W} {item : CollateralItem W} {recipient : Address}
  {target : CollateralStatus}

/-- The course of a deposit: `v` is the world in which the owner is asked for the asset, and `u` the one in which the
    deposit is recorded. -/
structure Deposit (d : Deployment W) (ctx : Context) (kind : CollateralKind) (item : CollateralItem W) (loanId : W)
    (before after : World W → World W) (s v u t : World W) : Prop where
  valid : ∃ configuration, s.custody.validateDeposit (s.assets (settlementKey d.uft)).totalSupply ctx.caller
    (s.registry loanId) loanId item.collateralId item.assetId kind item.quantity = .ok configuration
  fresh : (s.custody.items (loanId, item.collateralId)).status = .none
  open_ : s.custody.entered loanId = false
  named : loanId ≠ 0 ∨ s.custody.vaults loanId = true
  start : ∃ c, Configured s.custody c ∧ { s with custody := { c with entered := c.entered.set loanId true } } = v
  moved : ∃ m, (hand kind before v).move item.key ctx.caller (d.vault loanId) item.quantity = .ok m ∧
    hand kind after m = u
  received : Received kind (s.balance item.key (d.vault loanId)) (u.balance item.key (d.vault loanId)) item.quantity
  finish : { u with
    custody := (u.custody.store loanId item).register ctx.caller loanId item.collateralId item.assetId item.quantity
    deposited := u.deposited.modify (loanId, item.collateralId) (· + item.quantity) } = t

theorem lock_course (h : lock d ctx kind loanId collateralId assetId tokenId amount before after s = .ok t) :
    ∃ item v u, item.collateralId = collateralId ∧ item.assetId = assetId ∧ item.quantity = amount ∧
      item.kind = kind ∧ item.status = .locked ∧ Deposit d ctx kind item loanId before after s v u t := by
  simp only [lock, block_eq_ok] at h
  obtain ⟨configuration, hvalid, c₁, hopen, c₂, hbegin, m, hmove, hreceived, rfl⟩ := h
  obtain ⟨hconfigured, hnamed⟩ := openVault_configured hopen
  simp only [Custody.beginDeposit, block_eq_ok] at hbegin
  obtain ⟨hfree, -, hnone, rfl⟩ := hbegin
  rw [hconfigured.items] at hnone
  rw [hconfigured.entered] at hfree
  exact ⟨⟨collateralId, assetId, kind, _, tokenId, amount, ctx.caller, ctx.timestamp, .locked⟩, _, _, rfl, rfl, rfl, rfl,
    rfl, ⟨⟨configuration, hvalid⟩, hnone, hfree, hnamed, ⟨c₁, hconfigured, rfl⟩, ⟨m, hmove, rfl⟩, hreceived, rfl⟩⟩

namespace Deposit

variable {v u t : World W}

theorem validateDeposit_ok {c : Custody W} {supply : Nat} {caller : Address} {loan : LoanRecord}
    {configuration : AssetConfiguration}
    (h : c.validateDeposit supply caller loan loanId collateralId assetId kind amount = .ok configuration) :
    loan.registered = true ∧ loan.borrower = caller ∧ collateralId ≠ 0 ∧ c.collateralLoan collateralId = 0 ∧
      amount ≠ 0 := by
  simp only [Custody.validateDeposit, block_eq_ok] at h
  obtain ⟨⟨hreg, -, hborrower, hid, hnew, hamount, -⟩, -⟩ := h
  exact ⟨hreg, hborrower, hid, hnew, hamount⟩

variable (h : Deposit d ctx kind item loanId before after s v u t)

include h

theorem items : v.custody.items = s.custody.items := by
  obtain ⟨c, hc, rfl⟩ := h.start
  exact hc.items

theorem entered : v.custody.entered = s.custody.entered.set loanId true := by
  obtain ⟨c, hc, rfl⟩ := h.start
  exact congrArg (fun m => m.set loanId true) hc.entered

theorem balances (key : AssetKey) (a : Address) : v.balance key a = s.balance key a := by
  obtain ⟨c, -, rfl⟩ := h.start
  rfl

theorem other {l : W} (hl : s.custody.entered l = true) : l ≠ loanId := by
  rintro rfl
  rw [h.open_] at hl
  cases hl

theorem start_inv (hs : CustodyInv d s) : CustodyInv d v := by
  obtain ⟨c, hc, rfl⟩ := h.start
  exact (hs.configured hc).guards

theorem start_undisturbed : Undisturbed d s v := by
  refine ⟨?_, fun l hl => ?_, fun l _ cid => by rw [h.items], fun l _ key => (h.balances key _).ge⟩
  · obtain ⟨c, -, rfl⟩ := h.start
    exact .of_eq rfl rfl
  · rw [h.entered, set_of_ne _ _ (h.other hl)]
    exact hl

/-- Between the two ends of a deposit all is in order, and its own vault stays as it was. -/
theorem middle (hcaller : d.own ctx.caller = false) (inner : InnerKeep d before after) (hs : CustodyInv d s) :
    CustodyInv d u ∧ Undisturbed d v u := by
  obtain ⟨m, hm, hu⟩ := h.moved
  obtain ⟨hinv₁, hrel₁⟩ := keeps_hand kind inner.1 v (h.start_inv hs)
  have hout := (move_paid hm).outside (vault_ne_of_external hcaller)
  obtain ⟨hinv₂, hrel₂⟩ := keeps_hand kind inner.2 m (hinv₁.outside hout)
  rw [hu] at hinv₂ hrel₂
  exact ⟨hinv₂, hrel₁.trans (hout.undisturbed.trans hrel₂)⟩

/-- The vault holds the deposit on top of what it had to hold. -/
theorem covered (hcaller : d.own ctx.caller = false) (inner : InnerKeep d before after) (hs : CustodyInv d s) (hkind : item.kind = kind)
    (hsingle : kind = .erc721 → item.quantity = 1) :
    lockedIn (ofKey loanId item.key) u.custody.items + item.quantity ≤ u.balance item.key (d.vault loanId) := by
  have hv : v.custody.entered loanId = true := by rw [h.entered, set_self]
  obtain ⟨-, hrel⟩ := h.middle hcaller inner hs
  have hitems : lockedIn (ofKey loanId item.key) u.custody.items = lockedIn (ofKey loanId item.key) s.custody.items := by
    rw [lockedIn_ofKey_congr (hrel.items loanId hv), h.items]
  have hheld := hs.backed loanId item.key
  have hreceived := h.received
  unfold Received at hreceived
  split at hreceived
  · -- The owner had the token, so that the vault had nothing of it when the deposit was made.
    obtain ⟨m, hm, -⟩ := h.moved
    obtain ⟨hinv₁, hrel₁⟩ := keeps_hand .erc721 inner.1 v (h.start_inv hs)
    obtain ⟨-, -, hle, -⟩ := move_eq_ok.mp hm
    have hone := hinv₁.single item.key hkind
    have htwo := Token.two_balances ((hand .erc721 before v).assets item.key)
      (vault_ne_of_external hcaller loanId).symm
    have hbacked := hinv₁.backed loanId item.key
    unfold balance at hbacked
    rw [lockedIn_ofKey_congr (hrel₁.items loanId hv), h.items] at hbacked
    have hquantity := hsingle rfl
    omega
  · -- The native currency comes with the call itself.
    obtain ⟨m, hm, hu⟩ := h.moved
    obtain ⟨-, -, hle, rfl⟩ := move_eq_ok.mp hm
    have hbalance : u.balance item.key (d.vault loanId) = v.balance item.key (d.vault loanId) + item.quantity := by
      rw [← hu]
      unfold balance
      simp only [hand, if_true, set_self]
      exact Token.move_dst _ (vault_ne_of_external hcaller loanId).symm
    have hstart := h.balances item.key (d.vault loanId)
    omega
  · omega

/-- A deposit keeps the invariant, and disturbs no other vault. -/
theorem keeps (hcaller : d.own ctx.caller = false) (inner : InnerKeep d before after) (hs : CustodyInv d s) (hkind : item.kind = kind)
    (hlocked : item.status = .locked) (hsingle : kind = .erc721 → item.quantity = 1) :
    CustodyInv d t ∧ Undisturbed d s t := by
  obtain ⟨hu, hrel⟩ := h.middle hcaller inner hs
  have hcovered := h.covered hcaller inner hs hkind hsingle
  have hv : v.custody.entered loanId = true := by rw [h.entered, set_self]
  have hsu := h.start_undisturbed.trans hrel
  obtain ⟨configuration, hvalid⟩ := h.valid
  obtain ⟨hreg, hborrower, -, -, -⟩ := validateDeposit_ok hvalid
  have hborrower' : (u.registry loanId).borrower = ctx.caller := (hsu.evolves.borrower loanId hreg).trans hborrower
  have hnone : (u.custody.items (loanId, item.collateralId)).status ≠ .locked := by
    rw [hrel.items loanId hv, h.items, h.fresh]
    exact nofun
  rw [← h.finish]
  refine ⟨?_, ?_⟩
  · refine ⟨fun l a => ?_, fun l a => ?_, fun b a => ?_, fun l a hne => ?_, fun l key => ?_, fun k hk => ?_, fun k => ?_,
      hu.single, hu.debt, hu.ceiling, fun l cid hrel' => ?_⟩
    · simp only [Custody.register, Custody.store, modify_add_apply, hu.exposure]
    · simp only [Custody.register, Custody.store, modify_add_apply, hu.recorded, lockedIn_store hnone hlocked,
        ofAsset, decide_eq_true_eq, Prod.mk.injEq]
    · simp only [Custody.register, Custody.store, modify_add_apply, totalOver_add, hu.borrowers,
        hborrower', Prod.mk.injEq]
    · by_cases heq : (loanId, item.assetId) = (l, a)
      · obtain ⟨rfl, rfl⟩ := Prod.mk.inj heq
        exact hsu.evolves.registered loanId hreg
      · simp only [Custody.register, Custody.store, modify_add_apply, if_neg heq, Nat.add_zero] at hne
        exact hu.registered l a hne
    · simp only [Custody.register, Custody.store, lockedIn_store hnone hlocked, ofKey, decide_eq_true_eq]
      by_cases hcounts : loanId = l ∧ item.key = key
      · obtain ⟨rfl, rfl⟩ := hcounts
        rw [if_pos ⟨rfl, rfl⟩]
        exact hcovered
      · rw [if_neg hcounts, Nat.add_zero]
        exact hu.backed l key
    · simp only [Custody.register, Custody.store, set_apply] at hk ⊢
      split at hk
      · exact (hk hlocked).elim
      · next hne => rw [if_neg hne]; exact hu.spent k hk
    · have hquantities := hu.quantities k
      simp only [Custody.register, Custody.store, set_apply, modify_add_apply]
      by_cases heq : k = (loanId, item.collateralId)
      · subst heq
        have hzero := hu.spent _ hnone
        simp only [if_true]
        omega
      · simp only [if_neg heq, if_neg (Ne.symm heq), Nat.add_zero]
        exact hquantities
    · simp only [Custody.register, Custody.store, set_apply] at hrel'
      split at hrel'
      · rw [hlocked] at hrel'
        cases hrel'
      · exact hu.released l cid hrel'
  · refine ⟨hsu.evolves.trans (.of_eq rfl rfl), fun l hl => ?_, fun l hl cid => ?_, fun l hl key => hsu.vaults l hl key⟩
    · simp only [Custody.register, Custody.store]
      rw [set_of_ne _ _ (h.other hl)]
      exact hsu.entered l hl
    · simp only [Custody.register, Custody.store]
      rw [set_of_ne _ _ fun heq => h.other hl (Prod.mk.inj heq).1]
      exact hsu.items l hl cid

end Deposit

/-! ### Disposals -/

/-- The course of a disposal: `v` is the world in which the item is delivered, `r` the one in which the asset leaves the
    vault, `m` the one right after that, and `u` the one after the recipient had control. -/
structure Disposal (d : Deployment W) (loanId collateralId : W) (recipient : Address) (quantity : Nat)
    (target : CollateralStatus) (before after : World W → World W) (s v r m u t : World W) : Prop where
  open_ : s.custody.entered loanId = false
  locked : (s.custody.items (loanId, collateralId)).status = .locked
  positive : quantity ≠ 0
  le : quantity ≤ (s.custody.items (loanId, collateralId)).quantity
  target_ne : target ≠ .locked
  le_loan : quantity ≤ s.custody.loanExposure (loanId, (s.custody.items (loanId, collateralId)).assetId)
  le_borrower : quantity ≤ s.custody.borrowerExposure
    ((s.registry loanId).borrower, (s.custody.items (loanId, collateralId)).assetId)
  start : { s with
    custody := { s.custody with
      loanExposure := s.custody.loanExposure.modify (loanId, (s.custody.items (loanId, collateralId)).assetId)
        (· - quantity)
      borrowerExposure := s.custody.borrowerExposure.modify
        ((s.registry loanId).borrower, (s.custody.items (loanId, collateralId)).assetId) (· - quantity)
      items := s.custody.items.set (loanId, collateralId)
        (Custody.disposed (s.custody.items (loanId, collateralId)) quantity target)
      assetBalance := s.custody.assetBalance.modify (loanId, (s.custody.items (loanId, collateralId)).assetId)
        (· - quantity)
      entered := s.custody.entered.set loanId true }
    disposed := s.disposed.modify (loanId, collateralId) (· + quantity) } = v
  asked : hand (s.custody.items (loanId, collateralId)).kind before v = r
  moved : r.move (s.custody.items (loanId, collateralId)).key (d.vault loanId) recipient quantity = .ok m
  handed : after m = u
  finish : { u with custody := u.custody.leave loanId } = t

theorem dispose_course (h : dispose d ctx loanId collateralId recipient quantity target before after s = .ok t) :
    ∃ v r m u, Disposal d loanId collateralId recipient quantity target before after s v r m u t := by
  simp only [dispose, Custody.collateral, Custody.decreaseExposure, Custody.beginDisposal, deliver, block_eq_ok] at h
  obtain ⟨_, ⟨-, rfl⟩, _, ⟨⟨hpos, hloan, hborrower⟩, rfl⟩, _, ⟨hopen, ⟨hlocked, -, -, hle, htarget, -⟩, -, rfl⟩, u,
    ⟨-, -, m, hmove, -, hu⟩, rfl⟩ := h
  refine ⟨_, _, m, u, hopen, hlocked, hpos, hle, ?_, hloan, hborrower, rfl, rfl, hmove, hu, rfl⟩
  rcases htarget with rfl | rfl | rfl <;> simp

namespace Disposal

variable {v r m u : World W} {recipient : Address} {target : CollateralStatus}
  (h : Disposal d loanId collateralId recipient quantity target before after s v r m u t)

include h

/-- Exposures and records are lowered together, before control is handed over. -/
theorem start_inv (hs : CustodyInv d s) (hreleased : target = .released →
    (s.registry loanId).terminal = true ∧ (s.loans loanId).outstandingPrincipal = 0) : CustodyInv d v := by
  have hreg : (s.registry loanId).registered = true :=
    hs.registered loanId (s.custody.items (loanId, collateralId)).assetId fun hzero => h.positive <|
      Nat.le_zero.mp (hzero ▸ h.le_loan)
  have hbalance : quantity ≤ s.custody.assetBalance (loanId, (s.custody.items (loanId, collateralId)).assetId) := by
    rw [← hs.exposure]
    exact h.le_loan
  rw [← h.start]
  refine ⟨fun l a => ?_, fun l a => ?_, fun b a => ?_, fun l a hne => ?_, fun l key => ?_, fun k hk => ?_, fun k => ?_,
    hs.single, hs.debt, hs.ceiling, fun l cid hrel => ?_⟩
  · simp only [modify_apply, hs.exposure]
  · have hsum := lockedIn_disposed (p := ofAsset l a) h.locked h.le h.target_ne rfl
    have hold := hs.recorded l a
    have hnew := s.custody.assetBalance.modify_sub_apply (l, a) hbalance
    simp only [ofAsset, decide_eq_true_eq, Prod.mk.injEq] at hsum hnew ⊢
    omega
  · have hsum := totalOver_sub (p := fun k => (s.registry k.1).borrower = b ∧ k.2 = a) h.le_loan
    have hold := hs.borrowers b a
    have hnew := s.custody.borrowerExposure.modify_sub_apply (b, a) h.le_borrower
    simp only [Prod.mk.injEq] at hnew ⊢
    dsimp only at hsum
    omega
  · refine hs.registered l a fun hzero => hne ?_
    simp only [modify_apply, hzero, Nat.zero_sub, ite_self]
  · have hsum := lockedIn_disposed (p := ofKey l key) h.locked h.le h.target_ne rfl
    have hold := hs.backed l key
    change _ ≤ s.balance key (d.vault l)
    dsimp only
    omega
  · simp only [set_apply] at hk ⊢
    split at hk
    · next heq =>
      rw [if_pos heq]
      by_contra hne
      simp only [Custody.disposed] at hk hne
      rw [if_neg hne] at hk
      exact hk h.locked
    · next hne => rw [if_neg hne]; exact hs.spent k hk
  · have hquantities := hs.quantities k
    simp only [set_apply, modify_add_apply]
    by_cases heq : k = (loanId, collateralId)
    · subst heq
      have hle := h.le
      simp only [if_true, Custody.disposed]
      omega
    · simp only [if_neg heq, if_neg (Ne.symm heq), Nat.add_zero]
      exact hquantities
  · simp only [set_apply] at hrel
    split at hrel
    · next heq =>
      obtain ⟨rfl, rfl⟩ := Prod.mk.inj heq
      simp only [Custody.disposed] at hrel
      split at hrel
      · exact ⟨hreg, hreleased hrel⟩
      · rw [h.locked] at hrel
        cases hrel
    · exact hs.released l cid hrel

/-- The vault has the disposed quantity on top of what it has to keep. -/
theorem spare (hs : CustodyInv d s) (key : AssetKey) : lockedIn (ofKey loanId key) v.custody.items +
    (if (s.custody.items (loanId, collateralId)).key = key then quantity else 0) ≤ v.balance key (d.vault loanId) := by
  have hsum := lockedIn_disposed (p := ofKey loanId key) h.locked h.le h.target_ne rfl
  have hold := hs.backed loanId key
  have hbalance : v.balance key (d.vault loanId) = s.balance key (d.vault loanId) := by rw [← h.start]; rfl
  rw [hbalance, ← h.start]
  simp only [ofKey, decide_eq_true_eq, true_and] at hsum ⊢
  omega

/-- The delivery takes the disposed quantity from the vault and nothing else. -/
theorem moved_inv (hs : CustodyInv d s) (hr : CustodyInv d r) (hrel : Undisturbed d v r) : CustodyInv d m := by
  have hv : v.custody.entered loanId = true := by rw [← h.start]; exact set_self ..
  have hpaid := move_paid h.moved
  have hcustody : m.custody = r.custody := by rw [hpaid.rest]
  refine ⟨?_, ?_, ?_, ?_, fun l key => ?_, ?_, ?_, fun key hkey => ?_, ?_, ?_, ?_⟩
  case refine_5 =>
    rw [hcustody]
    by_cases hl : l = loanId
    · subst hl
      have hspare := h.spare hs key
      have hkept := hrel.vaults l hv key
      rw [lockedIn_ofKey_congr (hrel.items l hv)]
      obtain ⟨-, -, hle, rfl⟩ := move_eq_ok.mp h.moved
      unfold balance at *
      by_cases hkey : (s.custody.items (l, collateralId)).key = key
      · subst hkey
        rw [if_pos rfl] at hspare
        rw [set_self]
        by_cases hself : d.vault l = recipient
        · subst hself
          rw [Token.move_self]
          omega
        · rw [Token.move_src _ hself]
          omega
      · rw [set_of_ne _ _ (Ne.symm hkey)]
        omega
    · exact (hr.backed l key).trans (hpaid.kept key _ fun heq => hl (d.vault_injective heq))
  case refine_8 => rw [hpaid.supply]; exact hr.single key hkey
  all_goals rw [hpaid.rest]
  · exact hr.exposure
  · exact hr.recorded
  · exact hr.borrowers
  · exact hr.registered
  · exact hr.spent
  · exact hr.quantities
  · exact hr.debt
  · exact hr.ceiling
  · exact hr.released

/-- A disposal keeps the invariant, and disturbs no other vault. -/
theorem keeps (inner : InnerKeep d before after) (hs : CustodyInv d s)
    (hreleased : target = .released →
      (s.registry loanId).terminal = true ∧ (s.loans loanId).outstandingPrincipal = 0) :
    CustodyInv d t ∧ Undisturbed d s t := by
  have hne : ∀ l, s.custody.entered l = true → l ≠ loanId := by
    rintro l hl rfl
    rw [h.open_] at hl
    cases hl
  obtain ⟨hr, hvr⟩ := keeps_hand _ inner.1 v (h.start_inv hs hreleased)
  rw [h.asked] at hr hvr
  have hm := h.moved_inv hs hr hvr
  have hpaid := move_paid h.moved
  obtain ⟨hu, hmu⟩ := inner.2 m hm
  rw [h.handed] at hu hmu
  have hcustody : m.custody = r.custody := by rw [hpaid.rest]
  have hstart : ∀ l, s.custody.entered l = true → v.custody.entered l = true := fun l hl => by
    rw [← h.start]
    change s.custody.entered.set loanId true l = true
    rw [set_of_ne _ _ (hne l hl), hl]
  have hentered : ∀ l, s.custody.entered l = true → m.custody.entered l = true := fun l hl => by
    rw [hcustody]
    exact hvr.entered l (hstart l hl)
  rw [← h.finish]
  refine ⟨hu.guards, ?_, fun l hl => ?_, fun l hl cid => ?_, fun l hl key => ?_⟩
  · have hsv : Evolves s v := by rw [← h.start]; exact .of_eq rfl rfl
    exact hsv.trans (hvr.evolves.trans (hpaid.evolves.trans (hmu.evolves.trans (.of_eq rfl rfl))))
  · simp only [Custody.leave]
    rw [set_of_ne _ _ (hne l hl)]
    exact hmu.entered l (hentered l hl)
  · change u.custody.items (l, cid) = _
    rw [hmu.items l (hentered l hl), hcustody, hvr.items l (hstart l hl), ← h.start]
    exact set_of_ne _ _ fun heq => hne l hl (Prod.mk.inj heq).1
  · have hsv : s.balance key (d.vault l) = v.balance key (d.vault l) := by rw [← h.start]; rfl
    rw [hsv]
    exact (hvr.vaults l (hstart l hl) key).trans ((hpaid.kept key _ fun heq => hne l hl (d.vault_injective heq)).trans
      (hmu.vaults l (hentered l hl) key))

end Disposal

end

/-- Every call keeps the invariant, if the calls that are made from inside it do. -/
theorem perform_keeps {call : Context × Op W} {before after : World W → World W} (inner : InnerKeep d before after) (h : perform d call before after s = .ok t)
    (hs : CustodyInv d s) : CustodyInv d t ∧ Undisturbed d s t := by
  cases perform_course h with
  | outside h => exact ⟨hs.outside h, h.undisturbed⟩
  | configured _ hc ht =>
    subst ht
    refine ⟨hs.configured hc, .of_eq rfl rfl, fun l hl => ?_, fun l _ cid => by rw [hc.items], fun _ _ _ => le_rfl⟩
    rw [hc.entered]
    exact hl
  | locked _ _ _ _ _ _ hcaller _ hsingle h =>
    obtain ⟨item, v, u, -, -, hamount, hkind, hlocked, hdeposit⟩ := lock_course h
    exact hdeposit.keeps hcaller inner hs hkind hlocked fun hk => hamount.trans (hsingle hk)
  | disposed _ _ _ _ _ _ _ hv h ht hreleased =>
    obtain ⟨_, _, _, _, hdisposal⟩ := dispose_course h
    obtain ⟨hu, hvu⟩ := hdisposal.keeps inner (hs.outside hv) hreleased
    exact ⟨hu.outside ht, hv.undisturbed.trans (hvu.trans ht.undisturbed)⟩

theorem exec_custody (c : Call W) (h : exec d c s = .ok t) (hs : CustodyInv d s) :
    CustodyInv d t ∧ Undisturbed d s t :=
  CallTree.exec_keeps (fun _ => True) (CustodyInv d) (Undisturbed d) (fun _ _ _ _ => ⟨fun _ _ => trivial, fun _ _ => trivial⟩)
    Undisturbed.refl (fun _ _ _ => Undisturbed.trans)
    (fun _ _ _ _ _ _ hbefore hafter h hs => perform_keeps ⟨hbefore, hafter⟩ h hs) c trivial s t h hs

end World

end Unified.Collateral
