import Unified.CrossChain.Recovery

/-! The contracts of one deployment: a home chain with the bridge hub and the loan routers, and the
    satellite chains with their wrapped token, loan component and vaults. -/

namespace Unified.CrossChain

/-- The route hashes and the policy hash of a bound loan policy. -/
structure LoanPolicy (W : Type) where
  (mintRouteHash repaymentRouteHash disbursementRouteHash collateralReleaseRouteHash policyHash : W)

/-- The contracts of one satellite chain, and the home loan router that serves it. -/
structure SatelliteConfig (W : Type) where
  endpoint : EndpointConfig W
  (wrappedUFT satelliteComponent satelliteCollateralVault satelliteSettlementVault collateralToken : Address)
  homeLoanRouter : Address
  /-- Of the wrapped token; the zero word where it was not configured. -/
  canonicalBackingRoutePolicyHash : W
  reportRoutePolicyHash : W
  /-- Of the loan component. -/
  backingRoutePolicyHash : W
  repaymentRoutePolicyHash : W
  policy : LoanPolicy W

def isLoanReport (a : CrossChainActionType) : Bool :=
  a == .wrappedUftMinted || a == .satelliteCollateralLocked || a == .satelliteDisbursementSettled ||
    a == .satelliteCollateralReleased || a == .sourceCompensated

/-- A configured deployment. Satellites are named by their chain id. Route configurations never change;
    only the components that a route's registration names use it, so a loan router and a vault are
    reached by their own counterparts only. -/
structure Deployment (W : Type) [Evm W] where
  home : EndpointConfig W
  (homeBridgeHub canonicalUFT : Address)
  satellite : Nat → SatelliteConfig W
  routes : W → RouteConfig W
  /-- The satellite that a loan router on the home chain serves. -/
  routerOf : Address → Option Nat
  localChainId : ∀ σ, (satellite σ).endpoint.localChainId = σ
  crossing : ∀ h a, (routes h).allows a = true → (routes h).sourceChainId ≠ (routes h).destinationChainId
  routerOf_eq : ∀ a σ, routerOf a = some σ ↔ a = (satellite σ).homeLoanRouter
  hub_ne_router : ∀ σ, homeBridgeHub ≠ (satellite σ).homeLoanRouter
  component_ne_wrapped : ∀ σ, (satellite σ).satelliteComponent ≠ (satellite σ).wrappedUFT
  canonicalRoute : ∀ σ, (satellite σ).canonicalBackingRoutePolicyHash ≠ 0 →
    (routes (satellite σ).canonicalBackingRoutePolicyHash).sourceChainId = home.localChainId ∧
      (routes (satellite σ).canonicalBackingRoutePolicyHash).sourceComponent = homeBridgeHub ∧
      (routes (satellite σ).canonicalBackingRoutePolicyHash).destinationChainId = σ ∧
      (routes (satellite σ).canonicalBackingRoutePolicyHash).destinationComponent = (satellite σ).wrappedUFT
  repaymentRoute : ∀ σ, (routes (satellite σ).repaymentRoutePolicyHash).destinationChainId = home.localChainId
  toRouter : ∀ h σ a, (routes h).destinationChainId = home.localChainId →
    (routes h).destinationComponent = (satellite σ).homeLoanRouter → (routes h).allows a = true →
    (routes h).sourceChainId = σ ∧
      (((routes h).sourceComponent = (satellite σ).satelliteComponent ∧ isLoanReport a = true) ∨
        ((routes h).sourceComponent = (satellite σ).wrappedUFT ∧ a = .satelliteRepaymentBurned))
  toSettlementVault : ∀ h σ, (routes h).destinationChainId = σ →
    (routes h).destinationComponent = (satellite σ).satelliteSettlementVault →
    (routes h).sourceChainId = home.localChainId ∧ (routes h).sourceComponent = (satellite σ).homeLoanRouter
  toCollateralVault : ∀ h σ, (routes h).destinationChainId = σ →
    (routes h).destinationComponent = (satellite σ).satelliteCollateralVault →
    (routes h).sourceChainId = home.localChainId ∧ (routes h).sourceComponent = (satellite σ).homeLoanRouter

variable {W : Type} [Evm W]

def Env.under (env : Env W) (D : Deployment W) : Env W :=
  { env with
    registry := { env.registry with routes := fun h => { env.registry.routes h with config := D.routes h } } }

end Unified.CrossChain
