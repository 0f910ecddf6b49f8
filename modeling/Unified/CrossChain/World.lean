import Unified.CrossChain.HomeInvariant
import Unified.CrossChain.Network
import Unified.CrossChain.SatelliteInvariant

/-! The home chain and all satellite chains together. Calls interleave in any order, by any callers, at
    times that never go back on any one chain; a certificate is accepted only for an event that the
    coordinator it names has logged. -/

namespace Unified.CrossChain

variable {W : Type}

section

variable [CollisionFree W] {D : Deployment W} {env : Env W} {evidence : Nat → Address → W → Prop}

omit [CollisionFree W] in
theorem Home.Asks.sealed [Evm W] {D : Deployment W} {c : Coordinator W} {a : Address} {acc acc' : LoanAccount W}
    {sent : Option (MessageEnvelope W)} (asks : Home.Asks D c a acc acc' sent) : ∀ e ∈ sent, e.Sealed := by
  cases asks with
  | nothing => simp
  | disbursement _ out | release _ out => exact out.sealed

theorem Satellite.Step.keeps {σ : Nat} {s t : Satellite W}
    (hE : ∀ chain a x, env.attested chain a x = true → evidence chain a x) (h : Satellite.Step D σ env s t)
    (hs : s.endpoint.Sound (D.satellite σ).endpoint evidence none none) :
    Endpoint.Keeps (D.satellite σ).endpoint evidence none none s.endpoint t.endpoint := by
  cases h with
  | foreign step => exact step.keeps hE hs
  | burn ok | repay ok => exact .recordSends hs ok.out.sealed
  | lockCollateral _ _ _ _ _ out => exact .recordSends hs out.sealed
  | mint ok _ hresult => exact .delivered hE hs ok.deliverable (by simp) hresult
  | escrow ok _ _ _ _ _ out hresult =>
    exact .delivered hE hs ok.deliverable out.sealed hresult
  | disburse ok _ _ _ _ _ _ _ _ _ out hresult | cancel ok _ _ _ _ _ _ _ _ _ _ _ _ _ _ out hresult
  | release ok _ _ _ _ _ _ _ _ _ out hresult =>
    exact .delivered hE hs ok out.sealed hresult
  | compensate ok _ _ _ _ hresult | recompensate ok hresult => exact .compensated hE hs ok (by simp) hresult
  | _ => exact .refl hs

theorem Home.Step.keeps {h t : Home W} (hE : ∀ chain a x, env.attested chain a x = true → evidence chain a x)
    (hstep : Home.Step D env h t) (hs : h.endpoint.Sound D.home evidence none none) :
    Endpoint.Keeps D.home evidence none none h.endpoint t.endpoint := by
  cases hstep with
  | foreign step => exact step.keeps hE hs
  | lock _ _ out | create _ _ _ _ _ _ out => exact .recordSends hs out.sealed
  | repayDirectly _ _ _ _ _ _ asks => exact .recordSends hs asks.sealed
  | requestCancellation _ _ _ _ consumed out =>
    obtain ⟨signatures, hc⟩ := consumed
    exact .recordSends (hs.consumeLoanCancellationAuthorization hc).1 out.sealed
  | reportMint ok _ _ asks hresult | reportCollateral ok _ _ _ asks hresult =>
    exact .delivered hE hs ok.deliverable asks.sealed hresult
  | reportDisbursement ok _ _ _ _ _ hresult | reportRelease ok _ _ hresult =>
    exact .delivered hE hs ok.deliverable (by simp) hresult
  | refund ok _ _ _ _ _ _ _ _ _ _ _ asks hresult | repay ok _ _ _ _ _ _ _ _ _ _ _ _ _ asks hresult =>
    exact .delivered hE hs ok asks.sealed hresult
  | exit ok _ _ _ hresult => exact .delivered hE hs ok (by simp) hresult
  | compensate ok _ _ _ hresult => exact .compensated hE hs ok (by simp) hresult
  | compensateLoan ok _ _ _ _ _ _ asks _ hresult =>
    exact .compensated hE hs ok asks.sealed hresult
  | _ => exact .refl hs

end

/-! ### The machine -/

/-- All chains, and the time of each chain's last call. -/
structure World (W : Type) [Evm W] where
  home : Home W
  satellite : Nat → Satellite W
  clock : Nat → Nat

inductive WorldCall (W : Type) where
  | home (env : Env W) (call : HomeCall W)
  | satellite (chain : Nat) (env : Env W) (call : SatelliteCall W)

section

variable [Evm W]

/-- The coordinators and recovery controllers of all chains. -/
def Deployment.network (D : Deployment W) : NetworkConfig W where
  endpoint chain := if chain = D.home.localChainId then D.home else (D.satellite chain).endpoint
  localChainId chain := by
    split
    next h => exact h.symm
    next => exact D.localChainId chain

namespace World

def initial (D : Deployment W) (canonicalUFT : Token) (collateralToken : Nat → Token) : World W where
  home := .initial D canonicalUFT
  satellite σ := .initial D σ (collateralToken σ)
  clock _ := 0

def net (D : Deployment W) (w : World W) : Network W := fun chain =>
  if chain = D.home.localChainId then w.home.endpoint else (w.satellite chain).endpoint

/-- What a call sees: the registered routes, and no certificate for an event that never happened. -/
def surroundings (D : Deployment W) (w : World W) (env : Env W) : Env W := (env.under D).observing D.network (w.net D)

def exec (D : Deployment W) : WorldCall W → World W → Except (Revert W) (World W)
  | .home env call, w => do
    require (w.clock D.home.localChainId ≤ env.now) .notCallable
    let home ← w.home.call D (w.surroundings D env) call
    pure { w with home := home, clock := Function.update w.clock D.home.localChainId env.now }
  | .satellite σ env call, w => do
    require (σ ≠ D.home.localChainId ∧ w.clock σ ≤ env.now) .notCallable
    let s ← (w.satellite σ).call D σ (w.surroundings D env) call
    pure { w with satellite := Function.update w.satellite σ s, clock := Function.update w.clock σ env.now }

def run (D : Deployment W) (w : World W) (calls : List (WorldCall W)) : World W := runCalls (exec D) w calls

inductive Step (D : Deployment W) (w : World W) : World W → Prop
  | home {env : Env W} {h : Home W} (agrees : (w.surroundings D env).Agrees D)
      (later : w.clock D.home.localChainId ≤ env.now) (step : Home.Step D (w.surroundings D env) w.home h) :
      Step D w { w with home := h, clock := Function.update w.clock D.home.localChainId env.now }
  | satellite {σ : Nat} {env : Env W} {s : Satellite W} (agrees : (w.surroundings D env).Agrees D)
      (remote : σ ≠ D.home.localChainId) (later : w.clock σ ≤ env.now)
      (step : Satellite.Step D σ (w.surroundings D env) (w.satellite σ) s) :
      Step D w { w with satellite := Function.update w.satellite σ s, clock := Function.update w.clock σ env.now }

variable {D : Deployment W} {w w' : World W}

theorem surroundings_agrees (env : Env W) : (w.surroundings D env).Agrees D := fun _ => rfl

@[simp] theorem net_home : w.net D D.home.localChainId = w.home.endpoint := if_pos rfl

theorem net_satellite {σ : Nat} (hσ : σ ≠ D.home.localChainId) : w.net D σ = (w.satellite σ).endpoint := if_neg hσ

theorem net_withHome (h : Home W) (clock : Nat → Nat) :
    net D { w with home := h, clock := clock } = Function.update (w.net D) D.home.localChainId h.endpoint := by
  funext chain
  simp only [net, Function.update_apply]
  split <;> rfl

theorem net_withSatellite {σ : Nat} (hσ : σ ≠ D.home.localChainId) (s : Satellite W) (clock : Nat → Nat) :
    net D { w with satellite := Function.update w.satellite σ s, clock := clock } =
      Function.update (w.net D) σ s.endpoint := by
  funext chain
  simp only [net, Function.update_apply]
  by_cases hc : chain = σ
  · subst hc
    simp [hσ]
  · simp [hc]

end World

end

namespace World

variable [CollisionFree W] {D : Deployment W} {w w' : World W}

omit [CollisionFree W] in
theorem exec_step [Evm W] {D : Deployment W} {w w' : World W} {call : WorldCall W} (h : exec D call w = .ok w') :
    Step D w w' := by
  cases call with
  | home env =>
    simp only [exec, block_eq_ok] at h
    obtain ⟨later, home, hcall, rfl⟩ := h
    exact .home (surroundings_agrees env) later (Home.call_step (surroundings_agrees env) hcall)
  | satellite _ env =>
    simp only [exec, block_eq_ok] at h
    obtain ⟨⟨remote, later⟩, s, hcall, rfl⟩ := h
    exact .satellite (surroundings_agrees env) remote later (Satellite.call_step (surroundings_agrees env) hcall)

/-- The invariant of all chains together: every endpoint is sound for the events that are really logged,
    and every chain's own invariant holds. -/
structure Valid (D : Deployment W) (w : World W) : Prop where
  net : (w.net D).Sound D.network
  home : Home.Local D w.home
  satellite : ∀ σ, Satellite.Local D σ (w.satellite σ)

theorem Valid.initial (D : Deployment W) (canonicalUFT : Token) (collateralToken : Nat → Token) :
    Valid D (initial D canonicalUFT collateralToken) where
  net chain := by
    by_cases h : chain = D.home.localChainId
    · subst h
      rw [net_home]
      exact .initial _ _ _
    · rw [net_satellite h]
      exact .initial _ _ _
  home := .initial D canonicalUFT
  satellite σ := .initial D σ (collateralToken σ)

theorem Valid.step (hv : Valid D w) (hstep : Step D w w') : Valid D w' := by
  cases hstep with
  | home _ _ step =>
    refine ⟨?_, (hv.home.step step).1, hv.satellite⟩
    rw [net_withHome]
    refine hv.net.update ?_
    have hs := hv.net D.home.localChainId
    simp only [Deployment.network, net_home, if_true] at hs ⊢
    exact step.keeps Network.emitted_of_observing hs
  | @satellite σ _ _ _ remote _ step =>
    refine ⟨?_, hv.home, fun σ' => ?_⟩
    · rw [net_withSatellite remote]
      refine hv.net.update ?_
      have hs := hv.net σ
      rw [net_satellite remote] at hs ⊢
      simp only [Deployment.network, if_neg remote] at hs ⊢
      exact step.keeps Network.emitted_of_observing hs
    · by_cases h : σ' = σ
      · subst h
        simp only [Function.update_self]
        exact ((hv.satellite σ').step step).1
      · simp only [Function.update_of_ne h]
        exact hv.satellite σ'

theorem Valid.run (hv : Valid D w) (calls : List (WorldCall W)) : Valid D (w.run D calls) :=
  runCalls_invariant (Valid D) (fun _ _ _ h hv => hv.step (exec_step h)) hv calls

end World

/-! ### A deployment with one satellite -/

/-- The canonical route, the reports, the repayments, the disbursements, the releases and the burns. -/
def oneSatelliteRoutes : Term → RouteConfig Term
  | .lit 51 => { (default : RouteConfig Term) with
      sourceChainId := 1, sourceCoordinator := 101, sourceComponent := 11
      destinationChainId := 2, destinationCoordinator := 102, destinationComponent := 21
      allowedActionsBitmap := actionBit .canonicalUftLocked, adapterId := .lit 9
      absoluteCap := 1000, chainCap := 1000, adapterCap := 1000 }
  | .lit 52 => { (default : RouteConfig Term) with
      sourceChainId := 2, sourceCoordinator := 102, sourceComponent := 22
      destinationChainId := 1, destinationCoordinator := 101, destinationComponent := 1002
      allowedActionsBitmap := actionBit .wrappedUftMinted + actionBit .satelliteCollateralLocked +
        actionBit .satelliteDisbursementSettled + actionBit .satelliteCollateralReleased + actionBit .sourceCompensated }
  | .lit 53 => { (default : RouteConfig Term) with
      sourceChainId := 2, sourceCoordinator := 102, sourceComponent := 21
      destinationChainId := 1, destinationCoordinator := 101, destinationComponent := 1002
      allowedActionsBitmap := actionBit .satelliteRepaymentBurned }
  | .lit 54 => { (default : RouteConfig Term) with
      sourceChainId := 1, sourceCoordinator := 101, sourceComponent := 1002
      destinationChainId := 2, destinationCoordinator := 102, destinationComponent := 24
      allowedActionsBitmap := actionBit .homeDisbursementAuthorized + actionBit .cancellationRequested }
  | .lit 55 => { (default : RouteConfig Term) with
      sourceChainId := 1, sourceCoordinator := 101, sourceComponent := 1002
      destinationChainId := 2, destinationCoordinator := 102, destinationComponent := 23
      allowedActionsBitmap := actionBit .homeCollateralReleaseAuthorized }
  | .lit 56 => { (default : RouteConfig Term) with
      sourceChainId := 2, sourceCoordinator := 102, sourceComponent := 21
      destinationChainId := 1, destinationCoordinator := 101, destinationComponent := 11
      allowedActionsBitmap := actionBit .wrappedUftBurned }
  | _ => default

theorem oneSatelliteRoutes_cases {P : RouteConfig Term → Prop} (h : P default)
    (h51 : P (oneSatelliteRoutes (.lit 51))) (h52 : P (oneSatelliteRoutes (.lit 52)))
    (h53 : P (oneSatelliteRoutes (.lit 53))) (h54 : P (oneSatelliteRoutes (.lit 54)))
    (h55 : P (oneSatelliteRoutes (.lit 55))) (h56 : P (oneSatelliteRoutes (.lit 56))) (t : Term) :
    P (oneSatelliteRoutes t) := by
  unfold oneSatelliteRoutes
  split
  · exact h51
  · exact h52
  · exact h53
  · exact h54
  · exact h55
  · exact h56
  · exact h

theorem oneSatelliteRoutes_crossing (h : Term) (a : CrossChainActionType) :
    (oneSatelliteRoutes h).allows a = true → (oneSatelliteRoutes h).sourceChainId ≠ (oneSatelliteRoutes h).destinationChainId :=
  oneSatelliteRoutes_cases (P := fun c => c.allows a = true → c.sourceChainId ≠ c.destinationChainId)
    (by cases a <;> decide) (fun _ => by decide) (fun _ => by decide) (fun _ => by decide) (fun _ => by decide)
    (fun _ => by decide) (fun _ => by decide) h

theorem oneSatelliteRoutes_toRouter (h : Term) (σ : Nat) (a : CrossChainActionType)
    (hc : (oneSatelliteRoutes h).destinationChainId = 1) (hd : (oneSatelliteRoutes h).destinationComponent = 1000 + σ) :
    (oneSatelliteRoutes h).allows a = true → (oneSatelliteRoutes h).sourceChainId = σ ∧
      (((oneSatelliteRoutes h).sourceComponent = 22 ∧ isLoanReport a = true) ∨
        ((oneSatelliteRoutes h).sourceComponent = 21 ∧ a = .satelliteRepaymentBurned)) := by
  revert hc hd
  refine oneSatelliteRoutes_cases (P := fun c => c.destinationChainId = 1 → c.destinationComponent = 1000 + σ →
    c.allows a = true → c.sourceChainId = σ ∧ ((c.sourceComponent = 22 ∧ isLoanReport a = true) ∨
      (c.sourceComponent = 21 ∧ a = .satelliteRepaymentBurned))) ?_ ?_ ?_ ?_ ?_ ?_ ?_ h
  · exact fun hc => absurd hc (by decide)
  · exact fun hc => absurd hc (by decide)
  · intro _ hd
    obtain rfl : σ = 2 := by change 1002 = 1000 + σ at hd; omega
    cases a <;> decide
  · intro _ hd
    obtain rfl : σ = 2 := by change 1002 = 1000 + σ at hd; omega
    cases a <;> decide
  · exact fun hc => absurd hc (by decide)
  · exact fun hc => absurd hc (by decide)
  · intro _ hd
    change 11 = 1000 + σ at hd
    omega

theorem oneSatelliteRoutes_toVault (h : Term) (σ vault : Nat) (hv : vault = 23 ∨ vault = 24)
    (hc : (oneSatelliteRoutes h).destinationChainId = σ) (hd : (oneSatelliteRoutes h).destinationComponent = vault) :
    (oneSatelliteRoutes h).sourceChainId = 1 ∧ (oneSatelliteRoutes h).sourceComponent = 1000 + σ := by
  revert hc hd
  refine oneSatelliteRoutes_cases (P := fun c => c.destinationChainId = σ → c.destinationComponent = vault →
    c.sourceChainId = 1 ∧ c.sourceComponent = 1000 + σ) ?_ ?_ ?_ ?_ ?_ ?_ ?_ h <;> rintro rfl rfl
  all_goals first | (exact ⟨rfl, rfl⟩) | (exact absurd hv (by decide))

theorem router_offset (a σ : Nat) : (if 1000 ≤ a then some (a - 1000) else none) = some σ ↔ a = 1000 + σ := by
  split
  · rw [Option.some.injEq]
    omega
  · simp only [reduceCtorEq, false_iff]
    omega

/-- A home chain 1 and a satellite chain 2; the other chains have no canonical route. -/
def oneSatellite : Deployment Term where
  home := ⟨⟨.lit 7, 1, 101⟩, 201, threeSigners, 1⟩
  homeBridgeHub := 11
  canonicalUFT := 12
  satellite σ :=
    { endpoint := ⟨⟨.lit 7, σ, 100 + σ⟩, 200 + σ, threeSigners, σ⟩
      wrappedUFT := 21, satelliteComponent := 22, satelliteCollateralVault := 23, satelliteSettlementVault := 24
      collateralToken := 25, homeLoanRouter := 1000 + σ
      canonicalBackingRoutePolicyHash := if σ = 2 then .lit 51 else 0
      reportRoutePolicyHash := .lit 52, backingRoutePolicyHash := .lit 51, repaymentRoutePolicyHash := .lit 53
      policy := ⟨.lit 51, .lit 53, .lit 54, .lit 55, .lit 60⟩ }
  routes := oneSatelliteRoutes
  routerOf a := if 1000 ≤ a then some (a - 1000) else none
  localChainId _ := rfl
  crossing := oneSatelliteRoutes_crossing
  routerOf_eq := router_offset
  hub_ne_router σ := by
    change (11 : Nat) ≠ 1000 + σ
    omega
  component_ne_wrapped _ := by simp
  canonicalRoute σ h := by
    by_cases hσ : σ = 2
    · subst hσ
      exact ⟨rfl, rfl, rfl, rfl⟩
    · exact absurd (if_neg hσ) h
  repaymentRoute _ := rfl
  toRouter := oneSatelliteRoutes_toRouter
  toSettlementVault h σ := oneSatelliteRoutes_toVault h σ 24 (.inr rfl)
  toCollateralVault h σ := oneSatelliteRoutes_toVault h σ 23 (.inl rfl)

/-- Surroundings in which nothing is disabled and every certificate that can be accepted is. -/
def openEnv (now : Nat) : Env Term :=
  ⟨now, ⟨fun h => ⟨h, default, 0, false, .active⟩, fun _ _ => ⟨0, 0, .active⟩, fun _ => false⟩, fun _ _ _ => true⟩

/-- The lender 32 has 100 UFT on the home chain. -/
def sampleUFT : Token := (default : Token).credit 32 100

/-- The borrower 31 has 40 of the collateral token on every satellite. -/
def sampleCollateral (_ : Nat) : Token := (default : Token).credit 31 40

abbrev sampleWorld : World Term := .initial oneSatellite sampleUFT sampleCollateral

def sampleTerms : CrossChainLoanTerms Term := ⟨.lit 71, .lit 72, .lit 73, .lit 74, 31, 32, 100, 40, .lit 60⟩

def sampleProvisioning : SatelliteLoanProvisioning Term :=
  ⟨.lit 71, .lit 73, 500, 1002, 31, 32, 21, 25, .lit 74, 100, 40, .lit 53, .lit 60⟩

def sampleMint : MessageEnvelope Term :=
  (Hub.mintRequest oneSatellite ⟨.lit 73, .lit 71, 500, 32, 24, 100, .lit 51, 50⟩).envelope
    oneSatellite.home.toCoordinatorConfig (oneSatelliteRoutes (.lit 51)) 10 1

/-- A payload about the sample loan, from either side. -/
def sampleLeg (operationId : Term) (token : Address) (amount : Nat) : Payload Term :=
  LoanLegPayload.encode ⟨.lit 71, operationId, 500, 31, 32, token, amount, .lit 60⟩

/-- The loan component's `n`th report, sent at `now`. -/
def sampleLoanReport (a : CrossChainActionType) (payload : Payload Term) (now n : Nat) : MessageEnvelope Term :=
  (Satellite.reportRequest oneSatellite 2 (openEnv now) (.lit 71) a payload).envelope
    (oneSatellite.satellite 2).endpoint.toCoordinatorConfig (oneSatelliteRoutes (.lit 52)) now n

/-- The router's first message on a route, sent at `now`. -/
def sampleInstruction (route : Term) (a : CrossChainActionType) (payload : Payload Term) (now : Nat) :
    MessageEnvelope Term :=
  (Home.routerRequest oneSatellite 2 route (.lit 71) a payload (now + Satellite.TWO_DAYS) 0).envelope
    oneSatellite.home.toCoordinatorConfig (oneSatelliteRoutes route) now 1

/-- A loan is created, and its collateral locked and reported. -/
def loanCreated : List (WorldCall Term) :=
  [.home (openEnv 10) (.createLoan 2 32 sampleTerms 50 500 fun _ => ⟨100000, 1000, 1000, 1000, 1000, 10000, 10000, 0⟩),
    .satellite 2 (openEnv 11) (.provisionLoan sampleProvisioning),
    .satellite 2 (openEnv 12) (.lockCollateral 31 (.lit 71)),
    .home (openEnv 13) (.executeMessage (sampleLoanReport .satelliteCollateralLocked (sampleLeg (.lit 74) 25 40) 12 1)
      (sampleLeg (.lit 74) 25 40) none)]

/-- Its funding is minted and disbursed, and the account learns of both. -/
def loanDisbursed : List (WorldCall Term) :=
  loanCreated ++
    [.satellite 2 (openEnv 13) (.executeMessage sampleMint
        (Hub.mintPayload oneSatellite (.lit 73) (.lit 71) (.lit 51) 24 100).encode true none),
      .home (openEnv 14) (.executeMessage (sampleLoanReport .wrappedUftMinted (sampleLeg (.lit 73) 21 100) 13 2)
        (sampleLeg (.lit 73) 21 100) none),
      .satellite 2 (openEnv 15) (.executeMessage
        (sampleInstruction (.lit 54) .homeDisbursementAuthorized (sampleLeg (.lit 73) 21 100) 14)
        (sampleLeg (.lit 73) 21 100) true none),
      .home (openEnv 16) (.executeMessage (sampleLoanReport .satelliteDisbursementSettled (sampleLeg (.lit 73) 21 100) 15 3)
        (sampleLeg (.lit 73) 21 100) none)]

def sampleRecovery : RecoveryRequest Term where
  messageId := sampleMint.messageId
  envelopeHash := envelopeHash sampleMint
  routePolicyHash := .lit 51
  assetAmountCommitment := assetAmountCommitment sampleMint
  sourceStateCommitment := .lit 1
  destinationStateCommitment := .lit 1
  compensationPayloadHash := payloadHash [.bytes32 (.lit 73)]
  messageExpiresAt := 50
  recoveryNonce := 1
  reasonCode := .lit 1
  action := .tombstoneThenCompensate
  authorizerSetHash := authorizerSetHash threeSigners
  authorizerSetVersion := AUTHORIZER_SET_VERSION

/-- Its funding expires and goes back to the lender. -/
def loanReturned : List (WorldCall Term) :=
  loanCreated ++
    [.satellite 2 (openEnv 60) (.recordDestinationTombstone sampleMint sampleRecovery
        [tinySignature 1 27, tinySignature 2 27]),
      .home (openEnv 61) (.compensateSource sampleMint sampleRecovery [tinySignature 1 27, tinySignature 2 27]
        (tombstoneEventHash 102 sampleMint.messageId (envelopeHash sampleMint) 1 (.lit 1)) [.bytes32 (.lit 73)] none)]

end Unified.CrossChain
