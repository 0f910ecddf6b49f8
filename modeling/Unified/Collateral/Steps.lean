import Unified.Collateral.World

/-! What the parts of a call change: the assets that it moves, the loans that it touches, and everything that it leaves
    alone. -/

namespace Unified.Collateral.World

open Loan

variable {W : Type} [Evm W] {d : Deployment W} {ctx : Context} {s t u w w' : World W} {src : Address}

/-- Assets have been moved out of the accounts of `src` only, and nothing else has changed. -/
structure Paid (src : Address) (s t : World W) : Prop where
  rest : t = { s with assets := t.assets }
  supply : ∀ key, (t.assets key).totalSupply = (s.assets key).totalSupply
  kept : ∀ key a, a ≠ src → s.balance key a ≤ t.balance key a

section

variable {key : AssetKey} {src dst token : Address} {amount : Nat}

theorem Paid.refl (src : Address) (s : World W) : Paid src s s := ⟨rfl, fun _ => rfl, fun _ _ _ => le_rfl⟩

theorem move_eq_ok : w.move key src dst amount = .ok w' ↔ src ≠ 0 ∧ dst ≠ 0 ∧
    ∃ h : amount ≤ (w.assets key).balances src,
      { w with assets := w.assets.set key ((w.assets key).move src dst amount h) } = w' := by
  simp only [move, bind_eq_ok, pure_eq_ok, Token.transfer_eq_ok]
  constructor
  · rintro ⟨_, ⟨hsrc, hdst, h, rfl⟩, rfl⟩
    exact ⟨hsrc, hdst, h, rfl⟩
  · rintro ⟨hsrc, hdst, h, rfl⟩
    exact ⟨_, ⟨hsrc, hdst, h, rfl⟩, rfl⟩

/-- Moving one asset takes from its source only. -/
theorem paid_set (h : amount ≤ (w.assets key).balances src) :
    Paid src w { w with assets := w.assets.set key ((w.assets key).move src dst amount h) } where
  rest := rfl
  supply key' := by
    by_cases hkey : key' = key
    · subst hkey
      rw [Mapping.set_self]
      rfl
    · rw [Mapping.set_of_ne _ _ hkey]
  kept key' a ha := by
    unfold balance
    by_cases hkey : key' = key
    · subst hkey
      rw [Mapping.set_self]
      exact Token.le_move h ha
    · rw [Mapping.set_of_ne _ _ hkey]

theorem move_paid (h : w.move key src dst amount = .ok w') : Paid src w w' := by
  obtain ⟨-, -, hle, rfl⟩ := move_eq_ok.mp h
  exact paid_set hle

theorem moveExact_paid (h : w.moveExact token src dst amount = .ok w') : Paid src w w' := by
  simp only [moveExact, block_eq_ok, Token.transferExact_eq_ok] at h
  obtain ⟨_, ⟨-, -, -, hle, rfl⟩, rfl⟩ := h
  exact paid_set hle

theorem payOut_paid (h : payOut d token dst amount w = .ok w') : Paid d.engine w w' := by
  unfold payOut at h
  split at h
  · rw [pure_eq_ok] at h
    subst h
    exact Paid.refl _ _
  · exact moveExact_paid h

end

/-- Registered loans keep their parties, end once, and owe less and less. -/
structure Evolves (s t : World W) : Prop where
  registered : ∀ l, (s.registry l).registered = true → (t.registry l).registered = true
  borrower : ∀ l, (s.registry l).registered = true → (t.registry l).borrower = (s.registry l).borrower
  terminal : ∀ l, (s.registry l).registered = true → (s.registry l).terminal = true → (t.registry l).terminal = true
  outstanding : ∀ l, (s.registry l).registered = true →
    (t.loans l).outstandingPrincipal ≤ (s.loans l).outstandingPrincipal
  lender : ∀ l, (s.registry l).registered = true → (t.loans l).lender = (s.loans l).lender
  settlementToken : ∀ l, (s.registry l).registered = true → (t.loans l).settlementToken = (s.loans l).settlementToken

theorem Evolves.of_eq (hregistry : t.registry = s.registry) (hloans : t.loans = s.loans) : Evolves s t := by
  constructor <;> intro l hl <;> simp_all

theorem Evolves.refl (s : World W) : Evolves s s := .of_eq rfl rfl

theorem Evolves.trans (h : Evolves s t) (h' : Evolves t u) : Evolves s u where
  registered l hl := h'.registered l (h.registered l hl)
  borrower l hl := (h'.borrower l (h.registered l hl)).trans (h.borrower l hl)
  terminal l hl hterm := h'.terminal l (h.registered l hl) (h.terminal l hl hterm)
  outstanding l hl := (h'.outstanding l (h.registered l hl)).trans (h.outstanding l hl)
  lender l hl := (h'.lender l (h.registered l hl)).trans (h.lender l hl)
  settlementToken l hl := (h'.settlementToken l (h.registered l hl)).trans (h.settlementToken l hl)

theorem Paid.evolves (h : Paid src s t) : Evolves s t := by
  rw [h.rest]
  exact .of_eq rfl rfl

/-- Nothing is recorded about collateral, and nothing is taken from the vaults. -/
structure Outside (d : Deployment W) (s t : World W) : Prop where
  custody : t.custody = s.custody
  deposited : t.deposited = s.deposited
  disposed : t.disposed = s.disposed
  evolves : Evolves s t
  supply : ∀ key, (t.assets key).totalSupply = (s.assets key).totalSupply
  vaults : ∀ l key, s.balance key (d.vault l) ≤ t.balance key (d.vault l)

theorem Outside.refl (d : Deployment W) (s : World W) : Outside d s s :=
  ⟨rfl, rfl, rfl, .refl s, fun _ => rfl, fun _ _ => le_rfl⟩

theorem Outside.trans (h : Outside d s t) (h' : Outside d t u) : Outside d s u where
  custody := h'.custody.trans h.custody
  deposited := h'.deposited.trans h.deposited
  disposed := h'.disposed.trans h.disposed
  evolves := h.evolves.trans h'.evolves
  supply key := (h'.supply key).trans (h.supply key)
  vaults l key := (h.vaults l key).trans (h'.vaults l key)

theorem Paid.outside (h : Paid src s t) (hsrc : ∀ l, d.vault l ≠ src) : Outside d s t where
  custody := by rw [h.rest]
  deposited := by rw [h.rest]
  disposed := by rw [h.rest]
  evolves := h.evolves
  supply := h.supply
  vaults l key := h.kept key _ (hsrc l)

/-- The engine's own records are of no concern to the vaults. -/
theorem outside_of_auctions (auctions : Auctions W) : Outside d s { s with auctions := auctions } where
  custody := rfl
  deposited := rfl
  disposed := rfl
  evolves := .of_eq rfl rfl
  supply _ := rfl
  vaults _ _ := le_rfl

theorem vault_ne_of_external {a : Address} (h : d.own a = false) (l : W) : d.vault l ≠ a := by
  rintro rfl
  rw [d.own_vault] at h
  cases h

/-! ### The calls that leave the collateral alone -/

section

variable {caller lender settlementToken token : Address} {now amount : Nat}
  {loanId paymentId journalRef liquidationId : W} {terms : LoanTerms W} {request : PlanRequest W}
  {observation : OracleObservation W} {body : World W → Except Revert (World W)}

def repaid (w : World W) (caller : Address) (now : Nat) (loanId paymentId : W) (amount : Nat) (journalRef : W)
    (h : amount ≤ (w.assets (settlementKey (w.loans loanId).settlementToken)).balances caller) : World W :=
  { w with
    loans := w.loans.set loanId ((w.loans loanId).settlePayment now paymentId amount journalRef)
    assets := w.assets.set (settlementKey (w.loans loanId).settlementToken)
      ((w.assets (settlementKey (w.loans loanId).settlementToken)).move caller (w.loans loanId).lender amount h)
    registry := w.registry.modify loanId fun record =>
      { record with terminal := record.terminal || decide ((w.loans loanId).outstandingPrincipal - amount = 0) } }

theorem repayLoan_eq_ok : repayLoan caller now loanId paymentId amount journalRef w = .ok w' ↔
    (w.registry loanId).registered = true ∧ (w.loans loanId).state.lifecycle = .active ∧
      (paymentId ≠ 0 ∧ journalRef ≠ 0 ∧ amount ≠ 0) ∧ (w.loans loanId).processedPayments paymentId = false ∧
      amount ≤ (w.loans loanId).outstandingPrincipal ∧ caller ≠ 0 ∧ (w.loans loanId).lender ≠ 0 ∧
      caller ≠ (w.loans loanId).lender ∧
      ∃ h, repaid w caller now loanId paymentId amount journalRef h = w' := by
  simp only [repayLoan, block_eq_ok, mapError_eq_ok, CoreLoanAccount.repay_eq_ok]
  constructor
  · rintro ⟨hreg, _, ⟨hactive, hids, hnew, hle, hcaller, hlender, hne, h, rfl⟩, rfl⟩
    refine ⟨hreg, hactive, hids, hnew, hle, hcaller, hlender, hne, h, ?_⟩
    simp only [repaid, CoreLoanAccount.settlePayment_outstanding]
  · rintro ⟨hreg, hactive, hids, hnew, hle, hcaller, hlender, hne, h, rfl⟩
    refine ⟨hreg, _, ⟨hactive, hids, hnew, hle, hcaller, hlender, hne, h, rfl⟩, ?_⟩
    simp only [repaid, CoreLoanAccount.settlePayment_outstanding]

theorem repayLoan_outside (hcaller : ∀ l, d.vault l ≠ caller)
    (h : repayLoan caller now loanId paymentId amount journalRef w = .ok w') : Outside d w w' := by
  obtain ⟨-, -, -, -, -, -, -, -, hle, rfl⟩ := repayLoan_eq_ok.mp h
  refine ⟨rfl, rfl, rfl, ?_, (paid_set hle).supply, fun l key => (paid_set hle).kept key _ (hcaller l)⟩
  constructor <;> intro l hl <;> simp only [repaid, Mapping.modify_apply, Mapping.set_apply] <;>
    by_cases heq : l = loanId <;> simp_all

/-- Only an id that is not registered is originated. -/
theorem originate_outside (h : originate d ctx terms lender settlementToken journalRef w = .ok w') : Outside d w w' := by
  simp only [originate, block_eq_ok] at h
  obtain ⟨-, hnew, account, -, activated, -, rfl⟩ := h
  have hne : ∀ l, (w.registry l).registered = true → l ≠ terms.loanId := by
    rintro l hl rfl
    rw [hl] at hnew
    cases hnew
  refine ⟨rfl, rfl, rfl, ?_, fun _ => rfl, fun _ _ => le_rfl⟩
  constructor <;> intro l hl <;> simp only [Mapping.set_of_ne _ _ (hne l hl)]
  · exact hl
  · exact id
  · exact le_rfl

theorem markTerminal_outside (h : markTerminal ctx loanId w = .ok w') : Outside d w w' := by
  simp only [markTerminal, block_eq_ok] at h
  obtain ⟨-, -, -, rfl⟩ := h
  refine ⟨rfl, rfl, rfl, ?_, fun _ => rfl, fun _ _ => le_rfl⟩
  constructor <;> intro l hl <;> simp only [Mapping.modify_apply] <;> by_cases heq : l = loanId <;> simp_all

theorem startLiquidation_outside (h : startLiquidation d ctx request observation w = .ok w') : Outside d w w' := by
  simp only [startLiquidation, block_eq_ok] at h
  obtain ⟨-, -, _, -, -, -, _, -, -, -, -, rfl⟩ := h
  exact outside_of_auctions _

/-- A guarded call changes what its body changes, apart from the guard. -/
theorem guarded_eq_ok : guarded body w = .ok w' ↔
    w.auctions.entered = false ∧ ∃ u, body { w with auctions := { w.auctions with entered := true } } = .ok u ∧
      { u with auctions := { u.auctions with entered := false } } = w' := by
  simp only [guarded, block_eq_ok]

theorem guarded_outside (hbody : ∀ v v', body v = .ok v' → Outside d v v') (h : guarded body w = .ok w') :
    Outside d w w' := by
  obtain ⟨-, u, hu, rfl⟩ := guarded_eq_ok.mp h
  exact (outside_of_auctions _).trans ((hbody _ _ hu).trans (outside_of_auctions _))

theorem creditBid_outside {current : Bid} : Outside d w (creditBid token current w) := by
  unfold creditBid
  split
  · exact .refl d w
  · exact outside_of_auctions _

theorem endPlan_outside {plan : Plan W} {status : PlanStatus} : Outside d w (endPlan plan status w) :=
  creditBid_outside.trans (outside_of_auctions _)

theorem bid_outside (hcaller : ∀ l, d.vault l ≠ ctx.caller) (h : bid d ctx liquidationId amount w = .ok w') :
    Outside d w w' := by
  refine guarded_outside (fun v v' hv => ?_) h
  simp only [block_eq_ok] at hv
  obtain ⟨-, -, -, u, hu, rfl⟩ := hv
  exact ((moveExact_paid hu).outside hcaller).trans (creditBid_outside.trans (outside_of_auctions _))

theorem cancelInvalidated_outside (h : cancelInvalidated ctx liquidationId w = .ok w') : Outside d w w' := by
  refine guarded_outside (fun v v' hv => ?_) h
  simp only [block_eq_ok] at hv
  obtain ⟨-, -, -, rfl⟩ := hv
  exact endPlan_outside

theorem expire_outside (h : expire ctx liquidationId w = .ok w') : Outside d w w' := by
  refine guarded_outside (fun v v' hv => ?_) h
  simp only [block_eq_ok] at hv
  obtain ⟨-, -, rfl⟩ := hv
  exact endPlan_outside

theorem withdrawRefund_outside (h : withdrawRefund d ctx token w = .ok w') : Outside d w w' := by
  refine guarded_outside (fun v v' hv => ?_) h
  simp only [block_eq_ok] at hv
  exact (outside_of_auctions _).trans ((moveExact_paid hv.2).outside d.vault_ne_engine)

theorem payOut_outside {dst : Address} (h : payOut d token dst amount w = .ok w') : Outside d w w' :=
  (payOut_paid h).outside d.vault_ne_engine

theorem payClaim_outside {result : Settlement W} (h : payClaim d now loanId result w = .ok w') : Outside d w w' := by
  unfold payClaim at h
  split at h
  · rw [pure_eq_ok] at h
    subst h
    exact .refl d _
  · exact repayLoan_outside d.vault_ne_engine h

end

/-! ### What a call does -/

/-- A change of the manager's configuration, of the debt that UFT backs, or of the vaults that exist. -/
structure Configured (c c' : Custody W) : Prop where
  items : c'.items = c.items
  entered : c'.entered = c.entered
  collateralLoan : c'.collateralLoan = c.collateralLoan
  loanExposure : c'.loanExposure = c.loanExposure
  borrowerExposure : c'.borrowerExposure = c.borrowerExposure
  assetBalance : c'.assetBalance = c.assetBalance
  vaults : ∀ l, c'.vaults l = true → l ≠ 0 ∨ c.vaults l = true
  debts : c.totalUftBackedDebt = c.uftBackedDebt.totalOver (fun _ => True) →
    c.totalUftBackedDebt ≤ c.uftBackedDebtCeiling →
    c'.totalUftBackedDebt = c'.uftBackedDebt.totalOver (fun _ => True) ∧
      c'.totalUftBackedDebt ≤ c'.uftBackedDebtCeiling

section

variable {c c' : Custody W} {loanId : W} {loan : LoanRecord}

theorem openVault_configured (h : c.openVault loanId = .ok c') : Configured c c' ∧
    (loanId ≠ 0 ∨ c.vaults loanId = true) := by
  unfold Custody.openVault at h
  split at h
  · next hopen =>
    rw [pure_eq_ok] at h
    subst h
    exact ⟨⟨rfl, rfl, rfl, rfl, rfl, rfl, fun _ hl => .inr hl, fun hd hc => ⟨hd, hc⟩⟩, .inr hopen⟩
  · simp only [block_eq_ok] at h
    obtain ⟨hne, rfl⟩ := h
    refine ⟨⟨rfl, rfl, rfl, rfl, rfl, rfl, fun l hl => ?_, fun hd hc => ⟨hd, hc⟩⟩, .inl hne⟩
    by_cases heq : l = loanId
    · exact .inl (heq ▸ hne)
    · exact .inr (by rwa [Mapping.set_of_ne _ _ heq] at hl)

theorem bindUFTBackedDebt_configured {debtValue : Nat} (h : c.bindUFTBackedDebt loan loanId debtValue = .ok c') :
    Configured c c' := by
  simp only [Custody.bindUFTBackedDebt, block_eq_ok] at h
  obtain ⟨⟨-, -, hzero, hle⟩, rfl⟩ := h
  refine ⟨rfl, rfl, rfl, rfl, rfl, rfl, fun _ hl => .inr hl, fun hd _ => ⟨?_, hle⟩⟩
  have hsum := Mapping.totalOver_add (p := fun _ => True) (m := c.uftBackedDebt) (k := loanId) (n := debtValue)
  rw [Mapping.modify, hzero, Nat.zero_add, if_pos trivial, ← hd] at hsum
  exact hsum.symm

theorem closeUFTBackedDebt_configured {uftAssetId : W} {outstandingPrincipal : Nat}
    (h : c.closeUFTBackedDebt uftAssetId loan outstandingPrincipal loanId = .ok c') : Configured c c' := by
  simp only [Custody.closeUFTBackedDebt, block_eq_ok] at h
  obtain ⟨-, -, -, rfl⟩ := h
  refine ⟨rfl, rfl, rfl, rfl, rfl, rfl, fun _ hl => .inr hl, fun hd hc => ?_⟩
  have hsum := Mapping.totalOver_sub (p := fun _ => True) (m := c.uftBackedDebt) (k := loanId) le_rfl
  rw [Mapping.modify, Nat.sub_self, if_pos trivial, ← hd] at hsum
  dsimp only
  omega

end

end Unified.Collateral.World

namespace Unified.Collateral

variable {W : Type} [Evm W]

def Op.lockedId : Op W → Option W
  | .lockERC20 _ collateralId _ _ => some collateralId
  | .lockNative _ collateralId _ _ => some collateralId
  | .lockERC721 _ collateralId _ _ => some collateralId
  | .lockERC1155 _ collateralId _ _ _ => some collateralId
  | _ => none

namespace World

variable {d : Deployment W} {s t u : World W} {before after : World W → World W}

/-- What an accepted call has done: nothing to the collateral, a configuration, a deposit, or a disposal with payments
    before and after it. -/
inductive Course (d : Deployment W) (call : Context × Op W) (before after : World W → World W) (s t : World W) : Prop where
  | outside (h : Outside d s t)
  | configured (c : Custody W) (h : Configured s.custody c) (ht : { s with custody := c } = t)
  | locked (kind : CollateralKind) (loanId collateralId assetId : W) (tokenId amount : Nat)
    (hcaller : d.own call.1.caller = false) (hid : call.2.lockedId = some collateralId)
    (hsingle : kind = .erc721 → amount = 1)
    (h : lock d call.1 kind loanId collateralId assetId tokenId amount before after s = .ok t)
  | disposed (loanId collateralId : W) (recipient : Address) (quantity : Nat) (target : CollateralStatus) (v u : World W)
    (hv : Outside d s v) (h : dispose d call.1 loanId collateralId recipient quantity target before after v = .ok u)
    (ht : Outside d u t) (hreleased : target = .released →
      (v.registry loanId).terminal = true ∧ (v.loans loanId).outstandingPrincipal = 0)

section

variable {ctx : Context} {op : Op W} {liquidationId : W}

/-- A settlement delivers the collateral and then pays out. -/
theorem settle_course {plan : Plan W} {buyer executor : Address} {grossProceeds : Nat}
    (h : settle d ctx plan buyer executor grossProceeds before after s = .ok t) : ∃ u,
    dispose d ctx plan.loanId plan.collateralId buyer plan.quantity .liquidated before after s = .ok u ∧
      Outside d u t := by
  simp only [settle, executeSettlementTransfers, liquidateCollateral, block_eq_ok] at h
  obtain ⟨w₅, ⟨w₁, ⟨-, -, h₁⟩, w₂, h₂, w₃, h₃, w₄, h₄, h₅⟩, -, -, rfl⟩ := h
  exact ⟨w₁, h₁, (payOut_outside h₂).trans ((payOut_outside h₃).trans ((payClaim_outside h₄).trans
    ((payOut_outside h₅).trans (outside_of_auctions _))))⟩

/-- A guarded body that settles a plan, with payments before and after it. -/
theorem guarded_course {body : World W → Except Revert (World W)} (h : guarded body s = .ok t)
    (hbody : ∀ v v', body v = .ok v' → ∃ plan buyer executor gross w w', Outside d v w ∧
      settle d ctx plan buyer executor gross before after w = .ok w' ∧ Outside d w' v') :
    Course d (ctx, op) before after s t := by
  obtain ⟨-, u, hu, rfl⟩ := guarded_eq_ok.mp h
  obtain ⟨plan, buyer, executor, gross, w, w', hw, hsettle, hw'⟩ := hbody _ _ hu
  obtain ⟨v, hdispose, hv⟩ := settle_course hsettle
  exact .disposed _ _ _ _ .liquidated w v ((outside_of_auctions _).trans hw) hdispose
    (hv.trans (hw'.trans (outside_of_auctions _))) (by simp)

theorem execute_course {kind : SaleKind} {price : Plan W → Nat} {maximumPrice : Nat}
    (hcaller : ∀ l, d.vault l ≠ ctx.caller)
    (h : execute d ctx kind price liquidationId maximumPrice before after s = .ok t) :
    Course d (ctx, op) before after s t := by
  refine guarded_course h fun v v' hv => ?_
  simp only [block_eq_ok] at hv
  obtain ⟨-, -, -, u, hu, hv⟩ := hv
  exact ⟨_, _, _, _, u, v', (moveExact_paid hu).outside hcaller, hv, .refl d v'⟩

theorem settleEnglish_course (h : settleEnglish d ctx liquidationId before after s = .ok t) :
    Course d (ctx, op) before after s t := by
  refine guarded_course h fun v v' hv => ?_
  simp only [block_eq_ok] at hv
  obtain ⟨-, -, -, -, hv⟩ := hv
  exact ⟨_, _, _, _, v, v', .refl d v, hv, .refl d v'⟩

theorem configure_course {change : Custody W → Except Revert (Custody W)} (h : configure change s = .ok t)
    (hchange : ∀ c, change s.custody = .ok c → Configured s.custody c) : Course d (ctx, op) before after s t := by
  simp only [configure, bind_eq_ok, pure_eq_ok] at h
  obtain ⟨c, hc, ht⟩ := h
  exact .configured c (hchange c hc) ht

/-- Every accepted call is one of the four. -/
theorem perform_course (h : perform d (ctx, op) before after s = .ok t) : Course d (ctx, op) before after s t := by
  simp only [perform, block_eq_ok] at h
  obtain ⟨hcaller, h⟩ := h
  have hvault := vault_ne_of_external (W := W) hcaller
  cases op with
  | transfer => exact .outside ((move_paid h).outside hvault)
  | originate => exact .outside (originate_outside h)
  | repay => exact .outside (repayLoan_outside hvault h)
  | markTerminal => exact .outside (markTerminal_outside h)
  | configureAsset =>
    rw [body] at h
    refine configure_course h fun c hc => ?_
    simp only [Custody.configureAsset, block_eq_ok] at hc
    obtain ⟨-, -, -, -, rfl⟩ := hc
    exact ⟨rfl, rfl, rfl, rfl, rfl, rfl, fun _ hl => .inr hl, fun hd hc => ⟨hd, hc⟩⟩
  | configureLiquidationEngine =>
    rw [body] at h
    refine configure_course h fun c hc => ?_
    simp only [Custody.configureLiquidationEngine, block_eq_ok] at hc
    obtain ⟨-, -, rfl⟩ := hc
    exact ⟨rfl, rfl, rfl, rfl, rfl, rfl, fun _ hl => .inr hl, fun hd hc => ⟨hd, hc⟩⟩
  | configureUFTDebtCeiling =>
    rw [body] at h
    refine configure_course h fun c hc => ?_
    simp only [Custody.configureUFTDebtCeiling, block_eq_ok] at hc
    obtain ⟨-, ⟨-, hle, -⟩, rfl⟩ := hc
    exact ⟨rfl, rfl, rfl, rfl, rfl, rfl, fun _ hl => .inr hl, fun hd _ => ⟨hd, hle⟩⟩
  | bindUFTBackedDebt =>
    rw [body] at h
    refine configure_course h fun c hc => ?_
    simp only [block_eq_ok] at hc
    exact bindUFTBackedDebt_configured hc.2
  | closeUFTBackedDebt =>
    rw [body] at h
    exact configure_course h fun c hc => closeUFTBackedDebt_configured hc
  | createVault =>
    rw [body] at h
    refine configure_course h fun c hc => ?_
    simp only [Custody.createVault, block_eq_ok] at hc
    exact (openVault_configured hc.2).1
  | lockERC20 => exact .locked .erc20 _ _ _ _ _ hcaller rfl (by simp) h
  | lockNative => exact .locked .native _ _ _ _ _ hcaller rfl (by simp) h
  | lockERC721 => exact .locked .erc721 _ _ _ _ _ hcaller rfl (fun _ => rfl) h
  | lockERC1155 => exact .locked .erc1155 _ _ _ _ _ hcaller rfl (by simp) h
  | releaseCollateral =>
    simp only [body, releaseCollateral, block_eq_ok] at h
    obtain ⟨⟨-, -, -, hterminal, hzero, -⟩, h⟩ := h
    exact .disposed _ _ _ _ .released s t (.refl d s) h (.refl d t) fun _ => ⟨hterminal, hzero⟩
  | liquidateCollateral =>
    simp only [body, liquidateCollateral, block_eq_ok] at h
    exact .disposed _ _ _ _ .liquidated s t (.refl d s) h.2.2 (.refl d t) (by simp)
  | startLiquidation => exact .outside (startLiquidation_outside h)
  | executeDirect => exact execute_course hvault h
  | executeDutch =>
    rw [body, executeDutch] at h
    exact execute_course hvault h
  | bid => exact .outside (bid_outside hvault h)
  | settleEnglish => exact settleEnglish_course h
  | cancelInvalidated => exact .outside (cancelInvalidated_outside h)
  | expire => exact .outside (expire_outside h)
  | withdrawRefund => exact .outside (withdrawRefund_outside h)

end

end World

end Unified.Collateral
