import Unified.CrossChain.Types
import Mathlib.Tactic.MkIffOfInductiveProp

/-! Route and chain registries: the append-only policies a message is checked against. -/

namespace Unified.CrossChain

structure RouteConfig (W : Type) where
  (sourceChainVersion destinationChainVersion sourceChainId : Nat)
  (sourceCoordinator sourceComponent : Address)
  sourceComponentCodeHash : W
  destinationChainId : Nat
  (destinationCoordinator destinationComponent : Address)
  destinationComponentCodeHash : W
  actionFamily : W
  allowedActionsBitmap : Nat
  (adapterId adapterCodeHash adapterSetPolicyHash sourceFinalityPolicyHash destinationFinalityPolicyHash : W)
  sourceSignerSetHash : W
  destinationSignerSetHash : W
  (absoluteCap chainCap adapterCap activatedAt : Nat)
  deriving DecidableEq, Inhabited

structure RouteVersion (W : Type) where
  routePolicyHash : W
  config : RouteConfig W
  deprecatedAt : Nat
  paused : Bool
  status : RegistryStatus
  deriving DecidableEq, Inhabited

structure ChainVersion where
  (activatedAt deprecatedAt : Nat)
  status : RegistryStatus
  deriving DecidableEq, Inhabited

namespace ChainVersion

def isActiveVersion (record : ChainVersion) (now : Nat) : Bool :=
  record.status == .active && record.activatedAt ≤ now

def wasActiveAt (record : ChainVersion) (timestamp : Nat) : Bool :=
  record.status != .none && record.activatedAt ≤ timestamp &&
    (record.deprecatedAt == 0 || timestamp < record.deprecatedAt)

end ChainVersion

/-- The registries' storage at one call: routes by policy hash, chain versions, and the emergency
    controller's answer for each adapter. -/
structure RouteRegistry (W : Type) where
  routes : W → RouteVersion W
  chains : Nat → Nat → ChainVersion
  adapterDisabled : W → Bool

def actionBit (a : CrossChainActionType) : Nat := 1 <<< a.ordinal

def RouteConfig.allows {W : Type} (config : RouteConfig W) (a : CrossChainActionType) : Bool :=
  a != .unspecified && config.allowedActionsBitmap &&& actionBit a != 0

namespace RouteRegistry

variable {W : Type} {h : W} {r : RouteRegistry W}

def route (r : RouteRegistry W) (h : W) : Except (Revert W) (RouteVersion W) := do
  require ((r.routes h).status ≠ .none) (.unknownRoute h)
  pure (r.routes h)

theorem route_eq_ok {v : RouteVersion W} : r.route h = .ok v ↔ (r.routes h).status ≠ .none ∧ r.routes h = v := by
  rw [route, require_bind_eq_ok, pure_eq_ok]

def isActionAllowed (r : RouteRegistry W) (h : W) (a : CrossChainActionType) : Bool :=
  (r.routes h).status != .none && (r.routes h).config.allows a

theorem isActionAllowed_eq {a : CrossChainActionType} (known : (r.routes h).status ≠ .none) :
    r.isActionAllowed h a = (r.routes h).config.allows a := by
  simp [isActionAllowed, known]

def isAvailableForNewMessage (r : RouteRegistry W) (now : Nat) (h : W) : Bool :=
  let v := r.routes h
  v.status == .active && !v.paused && v.config.activatedAt ≤ now &&
    (r.chains v.config.sourceChainId v.config.sourceChainVersion).isActiveVersion now &&
    (r.chains v.config.destinationChainId v.config.destinationChainVersion).isActiveVersion now &&
    !r.adapterDisabled v.config.adapterId

def isExecutable (r : RouteRegistry W) (h : W) (messageCreatedAt : Nat) (allowPausedExit : Bool) : Bool :=
  let v := r.routes h
  v.status != .none && v.config.activatedAt ≤ messageCreatedAt &&
    (v.deprecatedAt == 0 || messageCreatedAt < v.deprecatedAt) &&
    (r.chains v.config.sourceChainId v.config.sourceChainVersion).wasActiveAt messageCreatedAt &&
    (r.chains v.config.destinationChainId v.config.destinationChainVersion).wasActiveAt messageCreatedAt &&
    (allowPausedExit || (!v.paused && !r.adapterDisabled v.config.adapterId))

theorem activatedAt_le {t : Nat} {allowPausedExit : Bool} (hx : r.isExecutable h t allowPausedExit = true) :
    (r.routes h).config.activatedAt ≤ t := by
  simp only [isExecutable, Bool.and_eq_true, decide_eq_true_eq] at hx
  exact hx.1.1.1.1.2

end RouteRegistry

/-- What a call sees of its surroundings: the block time, the registries, and for which events (chain,
    coordinator, event hash) the finality verifier accepts the certificate that comes with the call. -/
structure Env (W : Type) where
  now : Nat
  registry : RouteRegistry W
  attested : Nat → Address → W → Bool

section

variable {W : Type} [Evm W]

/-- The envelope names the endpoints, the policies and the lane of the route. -/
@[mk_iff] structure RouteIdentity (protocolId : W) (c : RouteConfig W) (e : MessageEnvelope W) : Prop where
  sourceChainId : e.sourceChainId = c.sourceChainId
  sourceCoordinator : e.sourceCoordinator = c.sourceCoordinator
  sourceComponent : e.sourceComponent = c.sourceComponent
  destinationChainId : e.destinationChainId = c.destinationChainId
  destinationCoordinator : e.destinationCoordinator = c.destinationCoordinator
  destinationComponent : e.destinationComponent = c.destinationComponent
  adapterSetPolicyHash : e.adapterSetPolicyHash = c.adapterSetPolicyHash
  sourceFinalityPolicyHash : e.sourceFinalityPolicyHash = c.sourceFinalityPolicyHash
  destinationFinalityPolicyHash : e.destinationFinalityPolicyHash = c.destinationFinalityPolicyHash
  lane : e.laneId = laneId protocolId e.sourceChainId e.sourceComponent e.destinationChainId
    e.destinationComponent e.aggregateId c.actionFamily

instance (protocolId : W) (c : RouteConfig W) (e : MessageEnvelope W) : Decidable (RouteIdentity protocolId c e) :=
  decidable_of_iff' _ (routeIdentity_iff protocolId c e)

end

end Unified.CrossChain
