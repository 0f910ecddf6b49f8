import Unified.CrossChain.Provenance

/-! The collateral of cross-chain loans over all runs of all chains: it leaves its vault once, to its
    borrower, and only after the loan was over on the home chain. Nothing else leaves the vault. -/

namespace Unified.CrossChain.World

variable {W : Type} [CollisionFree W] {D : Deployment W} {w : World W} {σ : Nat}

/-- The loan of a released collateral is over. -/
theorem Valid.released (hv : Valid D w) (hσ : σ ≠ D.home.localChainId) {l : W}
    (hr : ((w.satellite σ).collateral.records l).state = .released) :
    (w.home.factories σ).loanAccount l = ((w.satellite σ).collateral.records l).homeLoanAccount ∧
      (w.home.accounts ((w.satellite σ).collateral.records l).homeLoanAccount).Finished := by
  obtain ⟨hloan, hne, hsat, hfinished⟩ := hv.release hσ (((hv.satellite σ).secured l).released hr)
  have bound := (hv.home.accounted _).bound (hloan.trans_ne hne)
  refine ⟨?_, hfinished⟩
  rw [← bound.factory, hloan, hsat]

theorem run_one_releases (w : World W) (call : WorldCall W) (σ : Nat) :
    let s := w.satellite σ
    let t := (w.run D [call]).satellite σ
    (t.collateral.releases = s.collateral.releases ∧ Satellite.vaultBalance D σ s ≤ Satellite.vaultBalance D σ t) ∨
      ∃ l, Satellite.Releases D σ l s t := by
  have hrun : w.run D [call] = commit (exec D) w call := rfl
  rw [hrun]
  cases hcall : exec D call w with
  | error => exact .inl (by rw [commit_of_error hcall]; exact ⟨rfl, Nat.le_refl _⟩)
  | ok w' =>
    rw [commit_of_ok hcall]
    cases exec_step hcall with
    | home => exact .inl ⟨rfl, Nat.le_refl _⟩
    | @satellite τ _ _ _ _ _ step =>
      dsimp only
      rw [Function.update_apply]
      split
      · next heq =>
        subst heq
        exact step.releases
      · exact .inl ⟨rfl, Nat.le_refl _⟩

/-- The collateral vault of a satellite in every reachable state, and what any further call takes out of it: nothing, or
    one locked collateral, whose amount its borrower gets. -/
theorem collateral_safe (D : Deployment W) (canonicalUFT : Token) (collateralToken : Nat → Token)
    (calls : List (WorldCall W)) (σ : Nat) (hσ : σ ≠ D.home.localChainId) :
    let w := (initial D canonicalUFT collateralToken).run D calls
    let vault := (w.satellite σ).collateral
    (∀ l, (vault.records l).state = .released →
      let account := w.home.accounts (vault.records l).homeLoanAccount
      (w.home.factories σ).loanAccount l = (vault.records l).homeLoanAccount ∧
        (account.state = .closing ∨ account.state = .closed) ∧
        (account.fundingRefunded = true ∨ (account.activated = true ∧ account.outstandingPrincipal = 0))) ∧
    (∀ l, vault.releases.filter (·.loanId = l) =
      if (vault.records l).state = .released then [⟨l, (vault.records l).borrower, (vault.records l).amount⟩] else []) ∧
    (∀ call, let vault' := ((w.run D [call]).satellite σ).collateral
      (vault'.releases = vault.releases ∧ vault.collateralToken.balances (D.satellite σ).satelliteCollateralVault ≤
        vault'.collateralToken.balances (D.satellite σ).satelliteCollateralVault) ∨
      ∃ l, (vault.records l).state = .locked ∧ (vault'.records l).state = .released ∧
        vault'.releases = vault.releases ++ [⟨l, (vault.records l).borrower, (vault.records l).amount⟩] ∧
        vault.collateralToken.Paid vault'.collateralToken (D.satellite σ).satelliteCollateralVault
          (vault.records l).borrower (vault.records l).amount) ∧
    (∀ l l', (vault.records l).loanId ≠ 0 → (vault.records l').loanId ≠ 0 →
      (vault.records l).collateralId = (vault.records l').collateralId → l = l') ∧
    (vault.records.sum fun _ r => if r.state = .locked then r.amount else 0) ≤
      vault.collateralToken.balances (D.satellite σ).satelliteCollateralVault := by
  intro w vault
  have hv : Valid D w := (Valid.initial D canonicalUFT collateralToken).run calls
  have secured := (hv.satellite σ).secured
  refine ⟨fun l hr => ?_, fun l => (secured l).log, fun call => ?_, fun l l' hl hl' same => ?_,
    (hv.satellite σ).covered⟩
  · obtain ⟨hfactory, hfinished⟩ := hv.released hσ hr
    exact ⟨hfactory, hfinished.state, hfinished.reason.imp_right fun h => ⟨h, hfinished.undrawn⟩⟩
  · refine (run_one_releases w call σ).imp_right fun ⟨l, h⟩ => ⟨l, h.locked, ?_, h.log, h.paid⟩
    rw [h.released]
  · rw [← ((secured l).known hl).2, ← ((secured l').known hl').2, same]

/-- The release of the returned loan's collateral. -/
def collateralRelease : WorldCall Term :=
  .satellite 2 (openEnv 62) (.executeMessage
    (sampleInstruction (.lit 55) .homeCollateralReleaseAuthorized (sampleLeg (.lit 74) 25 40) 61)
    (sampleLeg (.lit 74) 25 40) true none)

def collateralReturned : List (WorldCall Term) := loanReturned ++ [collateralRelease]

theorem collateral_safe_collateralReturned :
    let w := sampleWorld.run oneSatellite collateralReturned
    let vault := ((sampleWorld.run oneSatellite loanReturned).satellite 2).collateral
    ((w.satellite 2).collateral.records (.lit 71)).state = .released ∧
      ((w.home.accounts 500).state = .closing ∨ (w.home.accounts 500).state = .closed) ∧
      (w.satellite 2).collateral.releases.filter (·.loanId = .lit 71) = [⟨.lit 71, 31, 40⟩] ∧
      ∃ l, (vault.records l).state = .locked ∧ vault.collateralToken.Paid (w.satellite 2).collateral.collateralToken
        (oneSatellite.satellite 2).satelliteCollateralVault (vault.records l).borrower (vault.records l).amount := by
  intro w vault
  have hw : w = (sampleWorld.run oneSatellite loanReturned).run oneSatellite [collateralRelease] :=
    runCalls_append sampleWorld loanReturned [collateralRelease]
  have safe := collateral_safe oneSatellite sampleUFT sampleCollateral collateralReturned 2 (by decide)
  refine ⟨by decide +kernel, (safe.1 (.lit 71) (by decide +kernel)).2.1, safe.2.1 (.lit 71), ?_⟩
  obtain ⟨-, -, taken, -⟩ := collateral_safe oneSatellite sampleUFT sampleCollateral loanReturned 2 (by decide)
  obtain ⟨l, locked, -, -, paid⟩ := (taken collateralRelease).resolve_left fun h => absurd h.1 (by decide +kernel)
  exact ⟨l, locked, hw ▸ paid⟩

end Unified.CrossChain.World
