import Mathlib
import Unified.CrossChain.Hub

/-! The exposure policies of the bridge: their registration, their activation on a route, and what the
    active ones let a lock reach. -/

namespace Unified.CrossChain

open Mapping

variable {W : Type}

def MAX_ROUTE_EXPOSURE_BPS : Nat := 500

def MAX_AGGREGATE_EXPOSURE_BPS : Nat := 1500

/-- One day, in seconds. -/
def MINIMUM_RISK_INCREASE_DELAY : Nat := 86400

/-- A registered policy: what a lock is checked against, with its evidence and its own delay. -/
structure ExposurePolicy (W : Type) extends ExposureConfig where
  circulatingSupplyEvidenceHash : W
  activationDelay : Nat

instance [Evm W] : Inhabited (ExposurePolicy W) := ⟨⟨⟨0, 0, 0, 0, 0, 0, 0, 0⟩, 0, 0⟩⟩

namespace ExposureConfig

def routePercentageCap (config : ExposureConfig) : Nat :=
  config.circulatingSupplyReference * config.routePercentageCeilingBps / BPS

def aggregatePercentageCap (config : ExposureConfig) : Nat :=
  config.circulatingSupplyReference * config.aggregatePercentageCeilingBps / BPS

def isEffectiveIncrease (prior next : ExposureConfig) : Bool :=
  prior.routeAbsoluteCap < next.routeAbsoluteCap || prior.chainAbsoluteCap < next.chainAbsoluteCap ||
    prior.adapterAbsoluteCap < next.adapterAbsoluteCap || prior.aggregateAbsoluteCap < next.aggregateAbsoluteCap ||
    prior.routePercentageCap < next.routePercentageCap || prior.aggregatePercentageCap < next.aggregatePercentageCap

def routeLimit (config : ExposureConfig) : Nat := min config.routeAbsoluteCap config.routePercentageCap

def aggregateLimit (config : ExposureConfig) : Nat := min config.aggregateAbsoluteCap config.aggregatePercentageCap

theorem isEffectiveIncrease_of_routeLimit {prior next : ExposureConfig} (h : prior.routeLimit < next.routeLimit) :
    isEffectiveIncrease prior next = true := by
  simp only [routeLimit, lt_min_iff, min_lt_iff] at h
  simp only [isEffectiveIncrease, Bool.or_eq_true, decide_eq_true_eq]
  omega

theorem isEffectiveIncrease_of_aggregateLimit {prior next : ExposureConfig}
    (h : prior.aggregateLimit < next.aggregateLimit) : isEffectiveIncrease prior next = true := by
  simp only [aggregateLimit, lt_min_iff, min_lt_iff] at h
  simp only [isEffectiveIncrease, Bool.or_eq_true, decide_eq_true_eq]
  omega

end ExposureConfig

inductive PolicyRevert where
  | unauthorized | invalidExposurePolicy | lockRejected | blockTime
  deriving DecidableEq, Repr

inductive PolicyEvent (W : Type) where
  | registered (policyHash : W) (timestamp : Nat)
  | activated (routePolicyHash policyHash : W)
  deriving DecidableEq

/-- The contract's storage, its log, and the time of its last block. -/
structure BridgeExposurePolicy (W : Type) [Evm W] where
  policies : Mapping W (ExposurePolicy W)
  activePolicyForRoute : Mapping W W
  (policyRegisteredAt routePolicyVersion : Mapping W Nat)
  policyPreviouslyActivated : Mapping (W × W) Bool
  events : List (PolicyEvent W)
  clock : Nat

structure PolicyContext where
  (timestamp totalSupply : Nat)
  riskCouncil : Bool

inductive PolicyCall (W : Type) where
  | registerPolicy (config : ExposurePolicy W)
  | activateForRoute (routePolicyHash policyHash : W)
  | validateLock (routePolicyHash : W) (routeExposure chainExposure adapterExposure aggregateExposure : Nat)

section

variable [Evm W]

def ExposurePolicy.hash (config : ExposurePolicy W) : W :=
  keccak256 "UNIFIED_BRIDGE_EXPOSURE_POLICY_V1" [.uint config.circulatingSupplyReference,
    .bytes32 config.circulatingSupplyEvidenceHash, .uint config.routeAbsoluteCap, .uint config.chainAbsoluteCap,
    .uint config.adapterAbsoluteCap, .uint config.aggregateAbsoluteCap, .uint config.routePercentageCeilingBps,
    .uint config.aggregatePercentageCeilingBps, .uint config.activationDelay, .uint config.activeFrom]

def requiresDelayedActivation (prior next : ExposurePolicy W) : Bool :=
  next.circulatingSupplyReference != prior.circulatingSupplyReference ||
    next.circulatingSupplyEvidenceHash != prior.circulatingSupplyEvidenceHash ||
    prior.isEffectiveIncrease next.toExposureConfig

/-- The conditions of `registerPolicy`; `activeFrom` arrives as a 64-bit number. -/
def ExposurePolicy.Admissible (config : ExposurePolicy W) (ctx : PolicyContext) : Prop :=
  config.circulatingSupplyReference ≠ 0 ∧ config.circulatingSupplyReference ≤ ctx.totalSupply ∧
  config.circulatingSupplyEvidenceHash ≠ 0 ∧ config.routeAbsoluteCap ≠ 0 ∧ config.chainAbsoluteCap ≠ 0 ∧
  config.adapterAbsoluteCap ≠ 0 ∧ config.aggregateAbsoluteCap ≠ 0 ∧
  config.routePercentageCeilingBps ≠ 0 ∧ config.routePercentageCeilingBps ≤ MAX_ROUTE_EXPOSURE_BPS ∧
  config.aggregatePercentageCeilingBps ≠ 0 ∧ config.aggregatePercentageCeilingBps ≤ MAX_AGGREGATE_EXPOSURE_BPS ∧
  config.activeFrom < 2 ^ 64 ∧ ctx.timestamp ≤ config.activeFrom ∧
  ctx.timestamp + config.activationDelay ≤ config.activeFrom

instance (config : ExposurePolicy W) (ctx : PolicyContext) : Decidable (config.Admissible ctx) := by
  unfold ExposurePolicy.Admissible
  infer_instance

namespace BridgeExposurePolicy

def initial : BridgeExposurePolicy W := ⟨.empty, .empty, .empty, .empty, .empty, [], 0⟩

def exposure (s : BridgeExposurePolicy W) (route : W) : ExposureConfig :=
  (s.policies (s.activePolicyForRoute route)).toExposureConfig

def registerPolicy (ctx : PolicyContext) (config : ExposurePolicy W) (s : BridgeExposurePolicy W) :
    Except PolicyRevert (BridgeExposurePolicy W) := do
  require (ctx.riskCouncil = true) .unauthorized
  require (config.Admissible ctx) .invalidExposurePolicy
  require ((s.policies config.hash).circulatingSupplyReference = 0) .invalidExposurePolicy
  pure { s with
    policies := s.policies.set config.hash config
    policyRegisteredAt := s.policyRegisteredAt.set config.hash (ctx.timestamp % 2 ^ 64)
    events := s.events ++ [.registered config.hash ctx.timestamp] }

def activateForRoute (ctx : PolicyContext) (route policyHash : W) (s : BridgeExposurePolicy W) :
    Except PolicyRevert (BridgeExposurePolicy W) := do
  require (ctx.riskCouncil = true) .unauthorized
  let config := s.policies policyHash
  require (route ≠ 0 ∧ config.circulatingSupplyReference ≠ 0 ∧ config.activeFrom ≤ ctx.timestamp ∧
    s.policyPreviouslyActivated (route, policyHash) = false) .invalidExposurePolicy
  let priorPolicyHash := s.activePolicyForRoute route
  require (¬ (priorPolicyHash ≠ 0 ∧ requiresDelayedActivation (s.policies priorPolicyHash) config = true ∧
    config.activeFrom < s.policyRegisteredAt policyHash + MINIMUM_RISK_INCREASE_DELAY)) .invalidExposurePolicy
  pure { s with
    activePolicyForRoute := s.activePolicyForRoute.set route policyHash
    policyPreviouslyActivated := s.policyPreviouslyActivated.set (route, policyHash) true
    routePolicyVersion := s.routePolicyVersion.modify route (· + 1)
    events := s.events ++ [.activated route policyHash] }

def call (ctx : PolicyContext) : PolicyCall W → BridgeExposurePolicy W → Except PolicyRevert (BridgeExposurePolicy W)
  | .registerPolicy config, s => s.registerPolicy ctx config
  | .activateForRoute route policyHash, s => s.activateForRoute ctx route policyHash
  | .validateLock route routeExposure chainExposure adapterExposure aggregateExposure, s =>
    match validateLock (W := W) ctx.timestamp (s.exposure route) routeExposure chainExposure adapterExposure
      aggregateExposure with
    | .ok () => .ok s
    | .error _ => .error .lockRejected

/-- One call in a block that is not older than the last one. -/
def exec (c : PolicyContext × PolicyCall W) (s : BridgeExposurePolicy W) :
    Except PolicyRevert (BridgeExposurePolicy W) := do
  require (s.clock ≤ c.1.timestamp) .blockTime
  let s ← s.call c.1 c.2
  pure { s with clock := c.1.timestamp }

def run (calls : List (PolicyContext × PolicyCall W)) : BridgeExposurePolicy W := runCalls exec initial calls

/-! ### What locks may reach -/

/-- The aggregate exposures that a lock on some route with an active policy may reach. -/
def aggregateExposures (s : BridgeExposurePolicy W) (now : Nat) : Set Nat :=
  {aggregate | ∃ route, s.activePolicyForRoute route ≠ 0 ∧ ∃ routeExposure chainExposure adapterExposure,
    validateLock (W := W) now (s.exposure route) routeExposure chainExposure adapterExposure aggregate = .ok ()}

def routeExposures (s : BridgeExposurePolicy W) (now : Nat) (route : W) : Set Nat :=
  {routeExposure | ∃ chainExposure adapterExposure aggregate,
    validateLock (W := W) now (s.exposure route) routeExposure chainExposure adapterExposure aggregate = .ok ()}

def aggregateLimit (s : BridgeExposurePolicy W) (route : W) : Nat :=
  if s.activePolicyForRoute route = 0 then 0 else (s.exposure route).aggregateLimit

def admissibleAggregate (s : BridgeExposurePolicy W) : Nat := s.activePolicyForRoute.keys.sup s.aggregateLimit

def activations (s : BridgeExposurePolicy W) : List (W × W) :=
  s.events.filterMap fun
    | .activated route policyHash => some (route, policyHash)
    | .registered _ _ => none

/-- The policy was registered at least the minimum delay before `now`. -/
def Matured (s : BridgeExposurePolicy W) (policyHash : W) (now : Nat) : Prop :=
  ∃ timestamp, .registered policyHash timestamp ∈ s.events ∧ timestamp + MINIMUM_RISK_INCREASE_DELAY ≤ now

variable {s t : BridgeExposurePolicy W} {ctx : PolicyContext} {now : Nat} {route route' p : W}

omit [Evm W] in
theorem validateLock_eq_ok {config : ExposureConfig} {r c a g : Nat} :
    validateLock (W := W) now config r c a g = .ok () ↔
      (config.circulatingSupplyReference ≠ 0 ∧ config.activeFrom ≤ now) ∧ r ≤ config.routeLimit ∧
        c ≤ config.chainAbsoluteCap ∧ a ≤ config.adapterAbsoluteCap ∧ g ≤ config.aggregateLimit := by
  simp only [validateLock, requireWithin, require_bind_eq_ok, require_eq_ok, ExposureConfig.routeLimit,
    ExposureConfig.aggregateLimit, le_min_iff, ExposureConfig.routePercentageCap, ExposureConfig.aggregatePercentageCap]
  tauto

def recordRegistered (s : BridgeExposurePolicy W) (now : Nat) (config : ExposurePolicy W) : BridgeExposurePolicy W :=
  { s with
    policies := s.policies.set config.hash config
    policyRegisteredAt := s.policyRegisteredAt.set config.hash now
    events := s.events ++ [.registered config.hash now] }

variable {config : ExposurePolicy W} {c : PolicyCall W}

theorem registerPolicy_eq_ok (h : s.registerPolicy ctx config = .ok t) :
    config.Admissible ctx ∧ (s.policies config.hash).circulatingSupplyReference = 0 ∧
      t = s.recordRegistered ctx.timestamp config := by
  simp only [registerPolicy, require_bind_eq_ok, pure_eq_ok] at h
  obtain ⟨-, admissible, unused, rfl⟩ := h
  obtain ⟨-, -, -, -, -, -, -, -, -, -, -, width, later, -⟩ := id admissible
  refine ⟨admissible, unused, ?_⟩
  rw [recordRegistered, Nat.mod_eq_of_lt (later.trans_lt width)]

structure Activatable (s : BridgeExposurePolicy W) (now : Nat) (route p : W) : Prop where
  registered : (s.policies p).circulatingSupplyReference ≠ 0
  active : (s.policies p).activeFrom ≤ now
  unused : s.policyPreviouslyActivated (route, p) = false
  delayed : s.activePolicyForRoute route ≠ 0 → (s.exposure route).isEffectiveIncrease (s.policies p).toExposureConfig = true →
    s.policyRegisteredAt p + MINIMUM_RISK_INCREASE_DELAY ≤ now

def recordActivated (s : BridgeExposurePolicy W) (route p : W) : BridgeExposurePolicy W :=
  { s with
    activePolicyForRoute := s.activePolicyForRoute.set route p
    policyPreviouslyActivated := s.policyPreviouslyActivated.set (route, p) true
    routePolicyVersion := s.routePolicyVersion.modify route (· + 1)
    events := s.events ++ [.activated route p] }

theorem activateForRoute_eq_ok (h : s.activateForRoute ctx route p = .ok t) :
    s.Activatable ctx.timestamp route p ∧ t = s.recordActivated route p := by
  simp only [activateForRoute, require_bind_eq_ok, pure_eq_ok] at h
  obtain ⟨-, ⟨-, registered, active, unused⟩, delay, rfl⟩ := h
  refine ⟨⟨registered, active, unused, fun prior increase => ?_⟩, rfl⟩
  have delayed : requiresDelayedActivation (s.policies (s.activePolicyForRoute route)) (s.policies p) = true := by
    rw [requiresDelayedActivation, Bool.or_eq_true]
    exact .inr increase
  by_contra early
  exact delay ⟨prior, delayed, by omega⟩

inductive Step (s : BridgeExposurePolicy W) (now : Nat) : PolicyCall W → BridgeExposurePolicy W → Prop
  | register {config : ExposurePolicy W} (positive : config.circulatingSupplyReference ≠ 0)
      (unused : (s.policies config.hash).circulatingSupplyReference = 0) :
      Step s now (.registerPolicy config) { s.recordRegistered now config with clock := now }
  | activate {route p : W} (ok : s.Activatable now route p) :
      Step s now (.activateForRoute route p) { s.recordActivated route p with clock := now }
  | validate {route : W} {r c a g : Nat} : Step s now (.validateLock route r c a g) { s with clock := now }

theorem exec_step {c : PolicyContext × PolicyCall W} (h : exec c s = .ok t) :
    s.clock ≤ c.1.timestamp ∧ Step s c.1.timestamp c.2 t := by
  obtain ⟨ctx, c⟩ := c
  simp only [exec, bind_eq_ok, require_eq_ok, pure_eq_ok] at h
  obtain ⟨-, later, s', hcall, rfl⟩ := h
  refine ⟨later, ?_⟩
  cases c with
  | registerPolicy =>
    obtain ⟨admissible, unused, rfl⟩ := registerPolicy_eq_ok hcall
    exact .register admissible.1 unused
  | activateForRoute =>
    obtain ⟨ok, rfl⟩ := activateForRoute_eq_ok hcall
    exact .activate ok
  | validateLock =>
    simp only [call] at hcall
    split at hcall
    · cases hcall
      exact .validate
    · cases hcall

theorem Step.clock (h : Step s now c t) : t.clock = now := by cases h <;> rfl

/-- Active policies are registered and in force, and a policy is activated once on a route. -/
structure Consistent (s : BridgeExposurePolicy W) : Prop where
  unset : (s.policies 0).circulatingSupplyReference = 0
  inForce : ∀ route, s.activePolicyForRoute route ≠ 0 →
    (s.exposure route).circulatingSupplyReference ≠ 0 ∧ (s.exposure route).activeFrom ≤ s.clock
  registered : ∀ p, (s.policies p).circulatingSupplyReference ≠ 0 → .registered p (s.policyRegisteredAt p) ∈ s.events
  used : ∀ x ∈ s.activations, s.policyPreviouslyActivated x = true
  once : s.activations.Nodup

theorem Consistent.initial : Consistent (initial : BridgeExposurePolicy W) where
  unset := rfl
  inForce _ h := absurd rfl h
  registered _ h := absurd rfl h
  used _ h := by cases h
  once := .nil

theorem Consistent.matured (h : Consistent s) (ok : s.Activatable now route p) (prior : s.activePolicyForRoute route ≠ 0)
    (increase : (s.exposure route).isEffectiveIncrease (s.policies p).toExposureConfig = true) : s.Matured p now :=
  ⟨_, h.registered p ok.registered, ok.delayed prior increase⟩

theorem exposure_activated :
    (s.recordActivated route p).exposure route' = if route' = route then (s.policies p).toExposureConfig else s.exposure route' := by
  unfold exposure recordActivated
  dsimp only
  rw [set_apply]
  split <;> rfl

/-- A registration is not seen by the active policies: none of them has its hash. -/
theorem Consistent.exposure_registered (h : Consistent s)
    (unused : (s.policies config.hash).circulatingSupplyReference = 0) (active : s.activePolicyForRoute route ≠ 0) :
    (s.recordRegistered now config).exposure route = s.exposure route := by
  have known := (h.inForce route active).1
  unfold exposure at known ⊢
  unfold recordRegistered
  dsimp only
  rw [set_of_ne]
  intro heq
  rw [heq] at known
  exact known unused

theorem Consistent.mem_aggregateExposures (h : Consistent s) (later : s.clock ≤ now) {g : Nat} :
    g ∈ s.aggregateExposures now ↔ ∃ route, s.activePolicyForRoute route ≠ 0 ∧ g ≤ (s.exposure route).aggregateLimit := by
  constructor
  · rintro ⟨route, active, r, c, a, ok⟩
    exact ⟨route, active, (validateLock_eq_ok.mp ok).2.2.2.2⟩
  · rintro ⟨route, active, le⟩
    obtain ⟨known, inForce⟩ := h.inForce route active
    exact ⟨route, active, 0, 0, 0, validateLock_eq_ok.mpr
      ⟨⟨known, inForce.trans later⟩, Nat.zero_le _, Nat.zero_le _, Nat.zero_le _, le⟩⟩

theorem le_admissibleAggregate (active : s.activePolicyForRoute route ≠ 0) :
    (s.exposure route).aggregateLimit ≤ s.admissibleAggregate := by
  have hmem : route ∈ s.activePolicyForRoute.keys := by
    by_contra hnot
    exact active (s.activePolicyForRoute.get_of_notMem route hnot)
  have hle := Finset.le_sup (f := s.aggregateLimit) hmem
  rwa [aggregateLimit, if_neg active] at hle

theorem exists_admissibleAggregate (active : s.activePolicyForRoute route ≠ 0) :
    ∃ route', s.activePolicyForRoute route' ≠ 0 ∧ s.admissibleAggregate ≤ (s.exposure route').aggregateLimit := by
  by_contra none
  push Not at none
  have pos := (Nat.zero_le _).trans_lt (none route active)
  refine absurd ((Finset.sup_lt_iff pos).mpr fun route' _ => ?_) (lt_irrefl s.admissibleAggregate)
  unfold aggregateLimit
  split
  · exact pos
  · next hne => exact none route' hne

theorem Consistent.isGreatest_aggregate (h : Consistent s) (later : s.clock ≤ now)
    (active : s.activePolicyForRoute route ≠ 0) : IsGreatest (s.aggregateExposures now) s.admissibleAggregate := by
  refine ⟨(h.mem_aggregateExposures later).mpr (exists_admissibleAggregate active), fun g hg => ?_⟩
  obtain ⟨route', active', le⟩ := (h.mem_aggregateExposures later).mp hg
  exact le.trans (le_admissibleAggregate active')

theorem Consistent.isGreatest_route (h : Consistent s) (later : s.clock ≤ now)
    (active : s.activePolicyForRoute route ≠ 0) :
    IsGreatest (s.routeExposures now route) (s.exposure route).routeLimit := by
  obtain ⟨known, inForce⟩ := h.inForce route active
  refine ⟨⟨0, 0, 0, validateLock_eq_ok.mpr
    ⟨⟨known, inForce.trans later⟩, le_rfl, Nat.zero_le _, Nat.zero_le _, Nat.zero_le _⟩⟩, ?_⟩
  rintro r ⟨c, a, g, ok⟩
  exact (validateLock_eq_ok.mp ok).2.1

/-! ### Growth -/

/-- The admissible aggregate grows through an activation only if the policy's own limit is above it. -/
theorem aggregate_activated (known : p ≠ 0)
    (grows : s.admissibleAggregate < (s.recordActivated route p).admissibleAggregate) :
    s.admissibleAggregate < (s.policies p).aggregateLimit := by
  have active : (s.recordActivated route p).activePolicyForRoute route ≠ 0 := by
    rw [recordActivated, set_self]
    exact known
  obtain ⟨route', active', le⟩ := exists_admissibleAggregate active
  rw [exposure_activated] at le
  by_cases heq : route' = route
  · rw [if_pos heq] at le
    exact grows.trans_le le
  · rw [if_neg heq] at le
    rw [recordActivated, set_of_ne _ _ heq] at active'
    have := le_admissibleAggregate active'
    omega

theorem aggregateLimit_le_activated (known : p ≠ 0) :
    (s.policies p).aggregateLimit ≤ (s.recordActivated route p).admissibleAggregate := by
  have active : (s.recordActivated route p).activePolicyForRoute route ≠ 0 := by
    rw [recordActivated, set_self]
    exact known
  have le := le_admissibleAggregate active
  rwa [exposure_activated, if_pos rfl] at le

theorem Consistent.registered_ne_zero (h : Consistent s) (known : (s.policies p).circulatingSupplyReference ≠ 0) :
    p ≠ 0 := by
  rintro rfl
  exact known h.unset

/-- Registering a policy moves no limit. -/
theorem Consistent.aggregate_registered (h : Consistent s) (now : Nat)
    (unused : (s.policies config.hash).circulatingSupplyReference = 0) :
    (s.recordRegistered now config).admissibleAggregate = s.admissibleAggregate := by
  refine Finset.sup_congr rfl fun route _ => ?_
  unfold aggregateLimit
  change (if s.activePolicyForRoute route = 0 then _ else _) = _
  split
  · rfl
  · next active => rw [h.exposure_registered unused active]

/-- A route keeps having an active policy. -/
theorem Consistent.active_step (h : Consistent s) (hstep : Step s now c t) (active : s.activePolicyForRoute route ≠ 0) :
    t.activePolicyForRoute route ≠ 0 := by
  cases hstep with
  | register | validate => exact active
  | @activate route' p ok =>
    change s.activePolicyForRoute.set route' p route ≠ 0
    rw [set_apply]
    split
    · exact h.registered_ne_zero ok.registered
    · exact active

/-- When the admissible aggregate grows too early, exactly. -/
theorem Consistent.aggregate_step (h : Consistent s) (hstep : Step s now c t) :
    (s.admissibleAggregate < t.admissibleAggregate → ∃ route p, c = .activateForRoute route p ∧ s.Matured p now) ↔
      ∀ route p, c = .activateForRoute route p → s.activePolicyForRoute route ≠ 0 ∨ s.Matured p now ∨
        (s.policies p).aggregateLimit ≤ s.admissibleAggregate := by
  cases hstep with
  | register _ unused =>
    refine iff_of_true (fun grows => ?_) fun _ _ h => by cases h
    exact absurd (h.aggregate_registered now unused) grows.ne'
  | @activate route p ok =>
    have known := h.registered_ne_zero ok.registered
    constructor
    · rintro early _ _ ⟨⟩
      by_cases hle : (s.policies p).aggregateLimit ≤ s.admissibleAggregate
      · exact .inr (.inr hle)
      · obtain ⟨_, _, ⟨⟩, matured⟩ := early ((not_le.mp hle).trans_le (aggregateLimit_le_activated known))
        exact .inr (.inl matured)
    · intro cases grows
      have above := aggregate_activated known grows
      refine ⟨route, p, rfl, ?_⟩
      rcases cases route p rfl with prior | matured | within
      · have increase := (le_admissibleAggregate prior).trans_lt above
        exact h.matured ok prior (ExposureConfig.isEffectiveIncrease_of_aggregateLimit increase)
      · exact matured
      · exact absurd within (not_le.mpr above)
  | validate => exact iff_of_true (fun grows => absurd rfl grows.ne) fun _ _ h => by cases h

/-- A route's limit grows only through a policy that was registered long enough ago. -/
theorem Consistent.route_step (h : Consistent s) (hstep : Step s now c t) (active : s.activePolicyForRoute route ≠ 0)
    (grows : (s.exposure route).routeLimit < (t.exposure route).routeLimit) :
    ∃ p, c = .activateForRoute route p ∧ s.Matured p now := by
  cases hstep with
  | register _ unused =>
    change _ < ((s.recordRegistered now _).exposure route).routeLimit at grows
    rw [h.exposure_registered unused active] at grows
    exact absurd rfl grows.ne
  | @activate route' p ok =>
    change _ < ((s.recordActivated route' p).exposure route).routeLimit at grows
    rw [exposure_activated] at grows
    by_cases heq : route = route'
    · subst heq
      rw [if_pos rfl] at grows
      exact ⟨p, rfl, h.matured ok active (ExposureConfig.isEffectiveIncrease_of_routeLimit grows)⟩
    · rw [if_neg heq] at grows
      exact absurd rfl grows.ne
  | validate => exact absurd rfl grows.ne

end BridgeExposurePolicy

end

namespace BridgeExposurePolicy

variable [CollisionFree W] {s t : BridgeExposurePolicy W} {now : Nat} {route p : W} {config : ExposurePolicy W}

theorem hash_ne_zero (config : ExposurePolicy W) : config.hash ≠ 0 := CollisionFree.keccak256_ne_zero _ _

theorem Consistent.registered_step (h : Consistent s) (later : s.clock ≤ now)
    (unused : (s.policies config.hash).circulatingSupplyReference = 0) :
    Consistent { s.recordRegistered now config with clock := now } where
  unset := by
    change (s.policies.set config.hash config 0).circulatingSupplyReference = 0
    rw [set_of_ne _ _ (hash_ne_zero config).symm]
    exact h.unset
  inForce route active := by
    change ((s.recordRegistered now config).exposure route).circulatingSupplyReference ≠ 0 ∧
      ((s.recordRegistered now config).exposure route).activeFrom ≤ now
    rw [h.exposure_registered unused active]
    obtain ⟨known, inForce⟩ := h.inForce route active
    exact ⟨known, inForce.trans later⟩
  registered p known := by
    simp only [recordRegistered, set_apply, List.mem_append, List.mem_singleton] at known ⊢
    split at known
    · next heq => exact .inr (by rw [if_pos heq, heq])
    · next hne => exact .inl (by rw [if_neg hne]; exact h.registered p known)
  used x hx := by
    refine h.used x ?_
    simpa [activations, recordRegistered] using hx
  once := by
    have once := h.once
    simpa [activations, recordRegistered] using once

theorem activations_activated : (s.recordActivated route p).activations = s.activations ++ [(route, p)] := by
  simp [activations, recordActivated]

theorem Consistent.activated_step (h : Consistent s) (later : s.clock ≤ now) (ok : s.Activatable now route p) :
    Consistent { s.recordActivated route p with clock := now } where
  unset := h.unset
  inForce route' active := by
    change ((s.recordActivated route p).exposure route').circulatingSupplyReference ≠ 0 ∧
      ((s.recordActivated route p).exposure route').activeFrom ≤ now
    rw [exposure_activated]
    split
    · exact ⟨ok.registered, ok.active⟩
    · next hne =>
      rw [recordActivated, set_of_ne _ _ hne] at active
      obtain ⟨known, inForce⟩ := h.inForce route' active
      exact ⟨known, inForce.trans later⟩
  registered p' known := List.mem_append_left _ (h.registered p' known)
  used x hx := by
    change x ∈ (s.recordActivated route p).activations at hx
    rw [activations_activated, List.mem_append, List.mem_singleton] at hx
    change s.policyPreviouslyActivated.set (route, p) true x = true
    rw [set_apply]
    split
    · rfl
    · next hne => exact h.used x (hx.resolve_right hne)
  once := by
    change (s.recordActivated route p).activations.Nodup
    rw [activations_activated]
    refine h.once.append (List.nodup_singleton _) (List.disjoint_singleton.mpr fun hmem => ?_)
    have used := h.used _ hmem
    rw [ok.unused] at used
    cases used

theorem Consistent.step {c : PolicyCall W} (h : Consistent s) (later : s.clock ≤ now) (hstep : Step s now c t) :
    Consistent t := by
  cases hstep with
  | register _ unused => exact h.registered_step later unused
  | activate ok => exact h.activated_step later ok
  | validate =>
    refine ⟨h.unset, fun route active => ?_, h.registered, h.used, h.once⟩
    obtain ⟨known, inForce⟩ := h.inForce route active
    exact ⟨known, inForce.trans later⟩

theorem run_consistent (calls : List (PolicyContext × PolicyCall W)) : Consistent (run calls) := by
  refine runCalls_invariant Consistent (fun c s t hexec hs => ?_) .initial calls
  obtain ⟨later, hstep⟩ := exec_step hexec
  exact hs.step later hstep

/-- Once some route has an active policy, the aggregate exposure that locks may reach grows before the minimum delay
    exactly through a first activation on a further route, of a younger policy with a larger limit; a route's own never
    does, and a policy is activated once on a route. -/
theorem exposure_increase_delayed (calls : List (PolicyContext × PolicyCall W)) {c : PolicyContext × PolicyCall W}
    (hexec : exec c (run calls) = .ok t) (first : ∃ route, (run calls).activePolicyForRoute route ≠ 0) :
    IsGreatest ((run calls).aggregateExposures c.1.timestamp) (run calls).admissibleAggregate ∧
    IsGreatest (t.aggregateExposures c.1.timestamp) t.admissibleAggregate ∧
    (((run calls).admissibleAggregate < t.admissibleAggregate →
        ∃ route p, c.2 = .activateForRoute route p ∧ (run calls).Matured p c.1.timestamp) ↔
      ∀ route p, c.2 = .activateForRoute route p → (run calls).activePolicyForRoute route ≠ 0 ∨
        (run calls).Matured p c.1.timestamp ∨
        ((run calls).policies p).aggregateLimit ≤ (run calls).admissibleAggregate) ∧
    (∀ route, (run calls).activePolicyForRoute route ≠ 0 →
      IsGreatest ((run calls).routeExposures c.1.timestamp route) ((run calls).exposure route).routeLimit ∧
      IsGreatest (t.routeExposures c.1.timestamp route) (t.exposure route).routeLimit ∧
      (((run calls).exposure route).routeLimit < (t.exposure route).routeLimit →
        ∃ p, c.2 = .activateForRoute route p ∧ (run calls).Matured p c.1.timestamp)) ∧
    t.activations.Nodup := by
  have hs := run_consistent calls
  obtain ⟨later, hstep⟩ := exec_step hexec
  have ht := hs.step later hstep
  have hclock := hstep.clock
  obtain ⟨some, first⟩ := first
  have stays : ∀ route, (run calls).activePolicyForRoute route ≠ 0 → t.activePolicyForRoute route ≠ 0 :=
    fun route active => hs.active_step hstep active
  refine ⟨hs.isGreatest_aggregate later first, ht.isGreatest_aggregate hclock.le (stays _ first),
    hs.aggregate_step hstep, fun route active => ⟨hs.isGreatest_route later active,
      ht.isGreatest_route hclock.le (stays route active), hs.route_step hstep active⟩, ht.once⟩

def council (timestamp : Nat) : PolicyContext := ⟨timestamp, 1000000, true⟩

def samplePolicy (aggregateAbsoluteCap activeFrom : Nat) : ExposurePolicy Term :=
  ⟨⟨1000000, 1000, 1000, 1000, aggregateAbsoluteCap, 500, 1500, activeFrom⟩, .lit 9, 0⟩

/-- A policy on one route, and a larger one registered ten seconds later. -/
def twoPolicies (activeFrom : Nat) : List (PolicyContext × PolicyCall Term) :=
  [(council 10, .registerPolicy (samplePolicy 100 10)),
    (council 10, .activateForRoute (.lit 1) (samplePolicy 100 10).hash),
    (council 20, .registerPolicy (samplePolicy 1000 activeFrom))]

/-- A day later the larger policy may replace the one that is active. -/
theorem exposure_increase_delayed_twoPolicies : ∃ t,
    exec (council 86420, .activateForRoute (.lit 1) (samplePolicy 1000 86420).hash) (run (twoPolicies 86420)) = .ok t ∧
    (run (twoPolicies 86420)).activePolicyForRoute (.lit 1) ≠ 0 ∧
    (run (twoPolicies 86420)).admissibleAggregate < t.admissibleAggregate ∧
    IsGreatest (t.aggregateExposures 86420) t.admissibleAggregate := by
  have active : (run (twoPolicies 86420)).activePolicyForRoute (.lit 1) ≠ 0 := by decide +kernel
  obtain ⟨t, hexec, grows⟩ : ∃ t,
      exec (council 86420, .activateForRoute (.lit 1) (samplePolicy 1000 86420).hash) (run (twoPolicies 86420)) = .ok t ∧
      (run (twoPolicies 86420)).admissibleAggregate < t.admissibleAggregate := ⟨_, rfl, by decide +kernel⟩
  exact ⟨t, hexec, active, grows, (exposure_increase_delayed (twoPolicies 86420) hexec ⟨_, active⟩).2.1⟩

/-- A policy registered in the same second may be activated on a second route, and raises the
    aggregate that locks may reach. -/
theorem aggregate_grows_on_second_route : ∃ t,
    exec (council 20, .activateForRoute (.lit 2) (samplePolicy 1000 20).hash) (run (twoPolicies 20)) = .ok t ∧
    (run (twoPolicies 20)).activePolicyForRoute (.lit 1) ≠ 0 ∧
    .registered (samplePolicy 1000 20).hash 20 ∈ (run (twoPolicies 20)).events ∧
    (run (twoPolicies 20)).admissibleAggregate = 100 ∧ t.admissibleAggregate = 1000 :=
  ⟨_, rfl, by decide +kernel, by decide +kernel, by decide +kernel, by decide +kernel⟩

end BridgeExposurePolicy

end Unified.CrossChain
