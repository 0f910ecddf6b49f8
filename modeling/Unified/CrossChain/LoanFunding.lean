import Unified.CrossChain.Provenance

/-! The funding of a cross-chain loan over all runs of all chains: it is returned to the lender or
    disbursed to the borrower, never both, and an account only becomes active on a disbursement that
    was paid out of the settlement vault. -/

namespace Unified.CrossChain

variable {W : Type}

/-- What no later call takes back of the routers and the loan accounts. -/
structure Home.Persists [Evm W] (h t : Home W) : Prop where
  factories : ∀ σ l, (h.factories σ).loanAccount l ≠ 0 → (t.factories σ).loanAccount l = (h.factories σ).loanAccount l
  accounts : ∀ a, (h.accounts a).terms.loanId ≠ 0 → (h.accounts a).Kept (t.accounts a)

namespace Home.Persists

variable [Evm W] {h t u : Home W}

theorem refl (h : Home W) : h.Persists h := ⟨fun _ _ _ => rfl, fun _ _ => .refl _⟩

theorem trans (ht : h.Persists t) (hu : t.Persists u) : h.Persists u where
  factories σ l hl := by
    have same := ht.factories σ l hl
    exact (hu.factories σ l (same.trans_ne hl)).trans same
  accounts a ha := by
    have kept := ht.accounts a ha
    exact kept.trans (hu.accounts a (by rwa [kept.terms]))

theorem of_kept {sent : Option (MessageEnvelope W)} (hk : h.Kept t sent) : h.Persists t := ⟨hk.factories, hk.accounts⟩

end Home.Persists

namespace World

variable [CollisionFree W] {D : Deployment W} {w w' : World W} {σ : Nat} {l : W}

theorem Valid.persists (hv : Valid D w) (hstep : Step D w w') : w.home.Persists w'.home := by
  cases hstep with
  | home _ _ step =>
    obtain ⟨-, sent, hk⟩ := hv.home.step step
    exact .of_kept hk
  | satellite => exact .refl _

theorem Valid.run_persists (hv : Valid D w) (calls : List (WorldCall W)) : w.home.Persists (w.run D calls).home :=
  runCalls_relation (Valid D) (fun w w' => w.home.Persists w'.home) (fun _ => .refl _) (fun _ _ _ => .trans)
    (fun _ _ _ h hv => hv.step (exec_step h)) (fun _ _ _ h hv => hv.persists (exec_step h)) hv calls

/-- The account that a router deployed for a loan, with what its chain knows about it. -/
theorem Valid.deployed (hv : Valid D w) (hl : (w.home.factories σ).loanAccount l ≠ 0) :
    (w.home.accounts ((w.home.factories σ).loanAccount l)).terms.loanId = l ∧ l ≠ 0 ∧
      (w.home.accounts ((w.home.factories σ).loanAccount l)).satellite = σ :=
  ⟨hv.home.registered.loan σ l hl, hv.home.registered.isLoan σ l hl, hv.home.registered.satellite σ l hl⟩

/-- A disbursed loan was funded by the lock of its home account, whose mint was executed. -/
theorem Valid.fundingLock (hv : Valid D w) (hl : (w.home.factories σ).loanAccount l ≠ 0)
    (hf : FundedBy D w σ l ((w.satellite σ).settlement.records l).fundingLockId) :
    w.home.endpoint.recovery.sourceCompensation (w.home.hub.locks
      (w.home.accounts ((w.home.factories σ).loanAccount l)).terms.fundingLockId).messageId = 0 := by
  obtain ⟨hloan, hne, -⟩ := hv.deployed hl
  have bound := (hv.home.accounted _).bound (hloan.trans_ne hne)
  obtain ⟨-, hlock⟩ := (hv.home.locked _).loan hf.recorded (hf.loan.trans_ne hne)
  rw [hf.loan] at hlock
  have same := bound.lock
  rw [hloan, hlock] at same
  rw [← same]
  exact hf.uncompensated

/-- Funding that was returned was not disbursed. -/
theorem Valid.undisbursed (hv : Valid D w) (hσ : σ ≠ D.home.localChainId)
    (hl : (w.home.factories σ).loanAccount l ≠ 0)
    (hr : (w.home.accounts ((w.home.factories σ).loanAccount l)).fundingRefunded = true) :
    ((w.satellite σ).settlement.records l).disbursedAmount = 0 := by
  obtain ⟨hloan, -, hsat⟩ := hv.deployed hl
  have settled := (hv.satellite σ).settled l
  by_contra hd
  rcases (hv.home.accounted _).refunded hr with hc | ⟨c, hreport, hc⟩
  · -- The lock was compensated, but its mint funded the loan.
    exact hc (hv.fundingLock hl (hv.funding hσ (settled.funded (.inr (.inl hd)))))
  · -- The vault burned the escrow, so it had not disbursed it.
    rw [hsat] at hreport
    obtain ⟨hid, -, hcancelled, -⟩ := hv.refund hσ hreport
    rw [hc, hloan] at hcancelled
    exact hid (hcancelled.symm.trans (settled.disbursed hd).2)

/-- An account that was ever active was paid out exactly once and in full. -/
theorem Valid.disbursedOnce (hv : Valid D w) (hσ : σ ≠ D.home.localChainId)
    (hl : (w.home.factories σ).loanAccount l ≠ 0)
    (ha : (w.home.accounts ((w.home.factories σ).loanAccount l)).activated = true) :
    (w.satellite σ).settlement.disbursements.filter (·.loanId = l) =
      [⟨l, (w.home.accounts ((w.home.factories σ).loanAccount l)).terms.borrower,
        (w.home.accounts ((w.home.factories σ).loanAccount l)).terms.principalAmount⟩] := by
  obtain ⟨hloan, -, hsat⟩ := hv.deployed hl
  obtain ⟨p, hreport, hp, hborrower, hamount⟩ := (hv.home.accounted _).activated ha
  rw [hsat] at hreport
  obtain ⟨-, hd, hborrower', hamount'⟩ := hv.disbursement hσ hreport
  rw [hp, hloan] at hd hborrower' hamount'
  rw [((hv.satellite σ).settled l).log, if_neg hd, ← hborrower', ← hamount', hborrower, hamount]

/-- A call logs no disbursement, or pays the one that it logs. -/
theorem exec_disburses {call : WorldCall W} (hcall : exec D call w = .ok w') (σ : Nat) :
    (w'.satellite σ).settlement.disbursements = (w.satellite σ).settlement.disbursements ∨
      ∃ d, Satellite.Disburses D σ d (w.satellite σ) (w'.satellite σ) := by
  cases exec_step hcall with
  | home => exact .inl rfl
  | @satellite τ _ _ _ _ _ step =>
    dsimp only
    rw [Function.update_apply]
    split
    · next heq =>
      subst heq
      exact step.disburses
    · exact .inl rfl

/-- Along every run the account of a loan keeps its terms and its outcome, a loan that is over stays over, and no two
    loans share an account. -/
theorem loan_account_lifecycle (D : Deployment W) (canonicalUFT : Token) (collateralToken : Nat → Token)
    (calls later : List (WorldCall W)) :
    let w := (initial D canonicalUFT collateralToken).run D calls
    let t := (w.run D later).home
    (∀ σ l, (w.home.factories σ).loanAccount l ≠ 0 →
      let a := (w.home.factories σ).loanAccount l
      (t.factories σ).loanAccount l = a ∧ (w.home.accounts a).Phase ∧ (w.home.accounts a).Kept (t.accounts a)) ∧
    ∀ σ l σ' l', (w.home.factories σ).loanAccount l ≠ 0 →
      (w.home.factories σ').loanAccount l' = (w.home.factories σ).loanAccount l → σ' = σ ∧ l' = l := by
  intro w t
  have hv : Valid D w := (Valid.initial D canonicalUFT collateralToken).run calls
  refine ⟨fun σ l hl => ?_, fun σ l σ' l' hl same => ?_⟩
  · obtain ⟨hloan, hne, -⟩ := hv.deployed hl
    have persists := hv.run_persists later
    exact ⟨persists.factories σ l hl, (hv.home.accounted _).phase, persists.accounts _ (hloan.trans_ne hne)⟩
  · obtain ⟨hloan, -, hsat⟩ := hv.deployed hl
    obtain ⟨hloan', -, hsat'⟩ := hv.deployed (same.trans_ne hl)
    rw [same] at hloan' hsat'
    exact ⟨hsat'.symm.trans hsat, hloan'.symm.trans hloan⟩

/-- The funding of a loan, over every run and every continuation of it: an account is only active after a call of the run
    that moved the principal from the settlement vault to the borrower, the one disbursement of the loan. -/
theorem loan_funding_exclusive (D : Deployment W) (canonicalUFT : Token) (collateralToken : Nat → Token)
    (calls later : List (WorldCall W)) (σ : Nat) (l : W) (hσ : σ ≠ D.home.localChainId) :
    let w := (initial D canonicalUFT collateralToken).run D calls
    let w' := w.run D later
    let a := (w.home.factories σ).loanAccount l
    a ≠ 0 →
      ((w.home.accounts a).fundingRefunded = true →
        (w.satellite σ).settlement.disbursements.filter (·.loanId = l) = [] ∧
          (((w.satellite σ).settlement.records l).loanId ≠ 0 →
            ((w.satellite σ).settlement.records l).disbursedAmount ≠ ((w.satellite σ).settlement.records l).principalAmount)) ∧
      ((w.home.accounts a).fundingRefunded = true →
        (w'.home.accounts a).fundingRefunded = true ∧ (w'.home.accounts a).outstandingPrincipal = 0) ∧
      ((w.home.accounts a).state = .active →
        (w'.satellite σ).settlement.disbursements.filter (·.loanId = l) =
          [⟨l, (w.home.accounts a).terms.borrower, (w.home.accounts a).terms.principalAmount⟩] ∧
        ∃ before call after, calls = before ++ call :: after ∧
          let u := (initial D canonicalUFT collateralToken).run D before
          let u' := u.run D [call]
          (u'.satellite σ).settlement.disbursements = (u.satellite σ).settlement.disbursements ++
            [⟨l, (w.home.accounts a).terms.borrower, (w.home.accounts a).terms.principalAmount⟩] ∧
          (u.satellite σ).wrapped.token.Paid (u'.satellite σ).wrapped.token (D.satellite σ).satelliteSettlementVault
            (w.home.accounts a).terms.borrower (w.home.accounts a).terms.principalAmount) := by
  intro w w' a ha
  have hv : Valid D w := (Valid.initial D canonicalUFT collateralToken).run calls
  have hv' : Valid D w' := hv.run later
  obtain ⟨hloan, hne, -⟩ := hv.deployed ha
  have persists := hv.run_persists later
  have kept := persists.accounts a (hloan.trans_ne hne)
  have same : (w'.home.factories σ).loanAccount l = a := persists.factories σ l ha
  refine ⟨fun hr => ?_, fun hr => ?_, fun hactive => ?_⟩
  · have settled := (hv.satellite σ).settled l
    have hd := hv.undisbursed hσ ha hr
    refine ⟨by rw [settled.log, if_pos hd], fun hknown => ?_⟩
    rw [hd]
    exact (settled.provisioned hknown).principal.symm
  · have hr' := kept.refunded hr
    exact ⟨hr', ((hv'.home.accounted a).phase.undrawn hr').1⟩
  · have hactivated := (hv.home.accounted a).phase.activated_of_active hactive
    have hactivated' := kept.activated hactivated
    rw [← same] at hactivated'
    have paid := hv'.disbursedOnce hσ (same.trans_ne ha) hactivated'
    rw [same, kept.terms] at paid
    refine ⟨paid, ?_⟩
    have hlogged := hv.disbursedOnce hσ ha hactivated
    have hmem := List.mem_of_mem_filter (hlogged ▸ List.mem_singleton_self _)
    exact exists_logging_call (fun w : World W => (w.satellite σ).settlement.disbursements)
      (fun d w w' => Satellite.Disburses D σ d (w.satellite σ) (w'.satellite σ))
      (fun _ _ _ h => (exec_disburses h σ).imp_right fun ⟨d, hd⟩ => ⟨d, hd.1, hd⟩) hmem List.not_mem_nil

theorem loan_funding_exclusive_samples :
    ((sampleWorld.run oneSatellite loanReturned).satellite 2).settlement.disbursements.filter (·.loanId = .lit 71) = [] ∧
    (((sampleWorld.run oneSatellite loanDisbursed).run oneSatellite [.home (openEnv 20) .reconcileSurplus]).satellite
      2).settlement.disbursements.filter (·.loanId = .lit 71) = [⟨.lit 71, 31, 100⟩] ∧
    ∃ before call after, loanDisbursed = before ++ call :: after ∧
      let u := sampleWorld.run oneSatellite before
      let u' := u.run oneSatellite [call]
      (u'.satellite 2).wrapped.token.balances 31 = (u.satellite 2).wrapped.token.balances 31 + 100 := by
  have returned := loan_funding_exclusive oneSatellite sampleUFT sampleCollateral loanReturned [] 2 (.lit 71) (by decide)
  have disbursed := loan_funding_exclusive oneSatellite sampleUFT sampleCollateral loanDisbursed
    [.home (openEnv 20) .reconcileSurplus] 2 (.lit 71) (by decide)
  have hterms : let w := sampleWorld.run oneSatellite loanDisbursed
      (w.home.accounts ((w.home.factories 2).loanAccount (.lit 71))).terms.borrower = 31 ∧
      (w.home.accounts ((w.home.factories 2).loanAccount (.lit 71))).terms.principalAmount = 100 := by decide +kernel
  obtain ⟨hlog, before, call, after, hcalls, -, paid⟩ := (disbursed (by decide +kernel)).2.2 (by decide +kernel)
  refine ⟨((returned (by decide +kernel)).1 (by decide +kernel)).1, hlog.trans (by decide +kernel), before, call, after,
    hcalls, ?_⟩
  have hpaid := paid.recipient
  rwa [hterms.1, hterms.2] at hpaid

end World

end Unified.CrossChain
