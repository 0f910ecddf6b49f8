import Unified.CrossChain.LaneSafety
import Unified.CrossChain.Quorum

/-! Endpoints on many chains. A certificate is accepted only for an event that the coordinator it
    names has logged; everything else about certificates is up to the caller. -/

namespace Unified.CrossChain

variable {W : Type}

structure NetworkConfig (W : Type) where
  endpoint : Nat → EndpointConfig W
  localChainId : ∀ chain, (endpoint chain).localChainId = chain

abbrev Network (W : Type) [Evm W] := Nat → Endpoint W

structure NetworkCall (W : Type) where
  chain : Nat
  env : Env W
  call : Call W

section

variable [Evm W]

/-- The coordinator that is named logged an event with this hash. -/
def emitted (cfg : NetworkConfig W) (net : Network W) (chain : Nat) (coordinator : Address) (h : W) : Bool :=
  (cfg.endpoint chain).address == coordinator &&
    (net chain).coordinator.events.any fun ev => ev.hash coordinator == h

/-- The verifier's verdict on the caller's certificates, less those for events that never happened. -/
def Env.observing (env : Env W) (cfg : NetworkConfig W) (net : Network W) : Env W :=
  { env with attested := fun chain a h => env.attested chain a h && emitted cfg net chain a h }

namespace Network

def initial : Network W := fun _ => .initial 0

def exec (cfg : NetworkConfig W) (call : NetworkCall W) (net : Network W) : Except (Revert W) (Network W) := do
  let endpoint ← Endpoint.exec (cfg.endpoint call.chain) (call.env.observing cfg net) call.call (net call.chain)
  pure (Function.update net call.chain endpoint)

def run (cfg : NetworkConfig W) (calls : List (NetworkCall W)) : Network W := runCalls (exec cfg) initial calls

end Network

end

variable [CollisionFree W] {cfg : NetworkConfig W} {net net' : Network W} {a : Address} {ev : Event W} {h : W}
  {e : MessageEnvelope W} {chain : Nat}

/-! ### Reading an attested hash back -/

theorem Event.tombstoned_of_hash {a' : Address} {m reason : W} {n : Nat}
    (heq : ev.hash a = tombstoneEventHash a' m h n reason) :
    ∃ e, ev = .messageTombstoned e n reason ∧ e.messageId = m ∧ envelopeHash e = h := by
  cases ev with
  | messageSent | messageExecuted => exact absurd (CollisionFree.keccak256_inj heq).1 (by decide)
  | messageTombstoned e =>
    have hdata := (CollisionFree.keccak256_inj heq).2
    simp only [List.cons.injEq, Datum.address.injEq, Datum.bytes32.injEq, Datum.uint.injEq, and_true] at hdata
    obtain ⟨-, hm, hh, rfl, rfl⟩ := hdata
    exact ⟨e, rfl, hm, hh⟩

theorem Event.executed_of_hash {r : W} (heq : ev.hash a = acknowledgementEventHash e r) :
    ∃ e', ev = .messageExecuted e' r ∧ e'.messageId = e.messageId := by
  cases ev with
  | messageSent | messageTombstoned => exact absurd (CollisionFree.keccak256_inj heq).1 (by decide)
  | messageExecuted e' =>
    have hdata := (CollisionFree.keccak256_inj heq).2
    simp only [List.cons.injEq, Datum.address.injEq, Datum.bytes32.injEq, and_true] at hdata
    obtain ⟨-, hm, rfl⟩ := hdata
    exact ⟨e', rfl, hm⟩

theorem Event.sent_of_hash (heq : ev.hash a = sourceMessageEventHash e) :
    ∃ e', ev = .messageSent e' ∧ e'.messageId = e.messageId := by
  cases ev with
  | messageSent e' =>
    have hdata := (CollisionFree.keccak256_inj heq).2
    simp only [List.cons.injEq, Datum.bytes32.injEq] at hdata
    exact ⟨e', rfl, hdata.2.1⟩
  | messageExecuted | messageTombstoned => exact absurd (CollisionFree.keccak256_inj heq).1 (by decide)

theorem emitted_eq_true :
    emitted cfg net chain a h = true ↔
      (cfg.endpoint chain).address = a ∧ ∃ ev ∈ (net chain).coordinator.events, ev.hash a = h := by
  simp [emitted, List.any_eq_true]

theorem emitted_mono (hg : ∀ chain, (net chain).coordinator.Grows (net' chain).coordinator)
    (he : emitted cfg net chain a h = true) : emitted cfg net' chain a h = true := by
  rw [emitted_eq_true] at he ⊢
  obtain ⟨ha, ev, hev, hh⟩ := he
  exact ⟨ha, ev, (hg chain).events.subset hev, hh⟩

namespace Network

/-- Every endpoint is sound for the events that are really logged. -/
def Sound (cfg : NetworkConfig W) (net : Network W) : Prop :=
  ∀ chain, (net chain).Sound (cfg.endpoint chain) (fun i a h => emitted cfg net i a h = true) none none

variable {e : MessageEnvelope W} {chain : Nat}

/-- One endpoint moves, on events that were logged. -/
theorem Sound.update (hs : Sound cfg net) {t : Endpoint W}
    (hk : Endpoint.Keeps (cfg.endpoint chain) (fun i a h => emitted cfg net i a h = true) none none (net chain) t) :
    Sound cfg (Function.update net chain t) := by
  obtain ⟨hkept, hgrows⟩ := hk
  have hall : ∀ i, (net i).coordinator.Grows (Function.update net chain t i).coordinator := by
    intro i
    by_cases heq : i = chain
    · subst heq
      rwa [Function.update_self]
    · rw [Function.update_of_ne heq]
      exact .refl _
  have hmono : ∀ i a x, emitted cfg net i a x = true → emitted cfg (Function.update net chain t) i a x = true :=
    fun _ _ _ he => emitted_mono hall he
  intro i
  by_cases heq : i = chain
  · subst heq
    rw [Function.update_self]
    exact hkept.mono hmono
  · rw [Function.update_of_ne heq]
    exact (hs i).mono hmono

omit [CollisionFree W] in
theorem emitted_of_observing [Evm W] {cfg : NetworkConfig W} {net : Network W} {env : Env W} (chain : Nat) (a : Address)
    (x : W) (hx : (env.observing cfg net).attested chain a x = true) : emitted cfg net chain a x = true :=
  (Bool.and_eq_true_iff.mp hx).2

theorem exec_sound {call : NetworkCall W} (h : exec cfg call net = .ok net') (hs : Sound cfg net) :
    Sound cfg net' := by
  simp only [exec, bind_eq_ok, pure_eq_ok] at h
  obtain ⟨endpoint, hexec, rfl⟩ := h
  exact hs.update (Endpoint.exec_keeps emitted_of_observing call.call hexec (hs call.chain))

theorem run_sound (cfg : NetworkConfig W) (calls : List (NetworkCall W)) : Sound cfg (run cfg calls) :=
  runCalls_invariant (Sound cfg) (fun _ _ _ h hs => exec_sound h hs) (fun _ => .initial _ _ 0) calls

theorem Sound.tombstoned (hs : Sound cfg net) (hid : e.Sealed)
    (hc : (net chain).recovery.sourceCompensation e.messageId ≠ 0) :
    (net e.destinationChainId).coordinator.tombstoneHash e.messageId ≠ 0 := by
  obtain ⟨e', hid', hm, n, reason, hev⟩ := (hs chain).compensated e.messageId hid.ne_zero hc
  obtain rfl := hid'.eq hid hm
  obtain ⟨-, ev, hmem, hhash⟩ := emitted_eq_true.mp hev
  obtain ⟨e'', rfl, hm'', -⟩ := Event.tombstoned_of_hash hhash
  obtain ⟨-, ht⟩ := (hs e'.destinationChainId).ordered.tombstonedLog e'' n reason hmem
  rw [← hm'', ht]
  exact tombstoneEventHash_ne_zero _ _ _ _ _

/-- An executed message arrived where it was sent to, and its source really sent it. -/
theorem Sound.sent (hs : Sound cfg net) {r : W} (hx : .messageExecuted e r ∈ (net chain).coordinator.events) :
    e.destinationChainId = chain ∧ .messageSent e ∈ (net e.sourceChainId).coordinator.events := by
  obtain ⟨hchain, -, hev⟩ := (hs chain).delivered e r hx
  obtain ⟨-, ev, hmem, hhash⟩ := emitted_eq_true.mp hev
  obtain ⟨e', rfl, hm⟩ := Event.sent_of_hash hhash
  have hid := ((hs chain).ordered.executedLog e r hx).1
  obtain rfl := ((hs e.sourceChainId).ordered.sentLog e' hmem).1.eq hid hm
  exact ⟨hchain.trans (cfg.localChainId chain), hmem⟩

theorem Sound.executed (hs : Sound cfg net) (hid : e.Sealed)
    (ha : (net chain).coordinator.acknowledgementCommitment e.messageId ≠ 0) :
    (net e.destinationChainId).coordinator.executionResult e.messageId ≠ 0 := by
  obtain ⟨e', hid', hm, r, hev⟩ := (hs chain).acknowledged e.messageId ha
  obtain rfl := hid'.eq hid hm
  obtain ⟨-, ev, hmem, hhash⟩ := emitted_eq_true.mp hev
  obtain ⟨e'', rfl, hm''⟩ := Event.executed_of_hash hhash
  obtain ⟨-, hr, hx⟩ := (hs e'.destinationChainId).ordered.executedLog e'' r hmem
  rw [← hm'', hx]
  exact hr

/-- Of every message that a chain sent, execution at the destination excludes compensation at the
    source, acknowledgement excludes compensation, and the source component compensates at most once. -/
theorem no_double_outcome (cfg : NetworkConfig W) (calls : List (NetworkCall W)) (source : Nat)
    (e : MessageEnvelope W) :
    .messageSent e ∈ (run cfg calls source).coordinator.events →
      ¬ ((run cfg calls e.destinationChainId).coordinator.executionResult e.messageId ≠ 0 ∧
        (run cfg calls source).recovery.sourceCompensation e.messageId ≠ 0) ∧
      ¬ ((run cfg calls source).coordinator.acknowledgementCommitment e.messageId ≠ 0 ∧
        (run cfg calls source).recovery.sourceCompensation e.messageId ≠ 0) ∧
      (run cfg calls source).recovery.compensated.count e.messageId ≤ 1 := by
  intro hsent
  have hs := run_sound cfg calls
  have hid : e.Sealed := ((hs source).ordered.sentLog e hsent).1
  have apart : ¬ ((run cfg calls e.destinationChainId).coordinator.executionResult e.messageId ≠ 0 ∧
      (run cfg calls source).recovery.sourceCompensation e.messageId ≠ 0) := by
    rintro ⟨hx, hc⟩
    exact hs.tombstoned hid hc ((hs e.destinationChainId).ordered.exclusive e.messageId hx)
  refine ⟨apart, fun ⟨ha, hc⟩ => apart ⟨hs.executed hid ha, hc⟩, ?_⟩
  rw [(hs source).once.counted]
  split <;> omega

/-- What a chain executed was sent to it under the same envelope and executed once; what a source holds as acknowledged
    was executed where it was sent to. -/
theorem deliveries_authentic (cfg : NetworkConfig W) (calls : List (NetworkCall W)) (chain : Nat) (e : MessageEnvelope W) :
    let net := run cfg calls
    (∀ r, .messageExecuted e r ∈ (net chain).coordinator.events →
      e.destinationChainId = chain ∧ .messageSent e ∈ (net e.sourceChainId).coordinator.events ∧
        (net chain).coordinator.executions e.messageId = 1) ∧
    (.messageSent e ∈ (net chain).coordinator.events →
      (net chain).coordinator.acknowledgementCommitment e.messageId ≠ 0 →
        ∃ r, .messageExecuted e r ∈ (net e.destinationChainId).coordinator.events) := by
  intro net
  have hs : Sound cfg net := run_sound cfg calls
  refine ⟨fun r hx => ?_, fun hsent ha => ?_⟩
  · obtain ⟨-, hr, hresult⟩ := (hs chain).ordered.executedLog e r hx
    obtain ⟨hchain, hsent⟩ := hs.sent hx
    refine ⟨hchain, hsent, ?_⟩
    rw [(hs chain).ordered.executedOnce, if_neg (hresult.trans_ne hr)]
  · have hid := ((hs chain).ordered.sentLog e hsent).1
    have hdestination := (hs e.destinationChainId).ordered
    obtain ⟨e', r, hx, hm⟩ := hdestination.exists_executed (hs.executed hid ha)
    rw [(hdestination.executedLog e' r hx).1.eq hid hm] at hx
    exact ⟨r, hx⟩

end Network

/-! ### A message that is delivered -/

def twoChains : NetworkConfig Term where
  endpoint chain := ⟨⟨.lit 7, chain, 100 + chain⟩, 200 + chain, threeSigners, chain⟩
  localChainId _ := rfl

def sampleRoute : RouteConfig Term :=
  { (default : RouteConfig Term) with
    sourceChainId := 1, sourceCoordinator := 101, sourceComponent := 11
    destinationChainId := 2, destinationCoordinator := 102, destinationComponent := 12
    actionFamily := .lit 9, allowedActionsBitmap := actionBit .canonicalUftLocked }

def sampleRegistry : RouteRegistry Term where
  routes h := if h = .lit 5 then ⟨.lit 5, sampleRoute, 0, false, .active⟩ else default
  chains _ _ := ⟨0, 0, .active⟩
  adapterDisabled _ := false

def sampleEnvelope : MessageEnvelope Term :=
  let unsigned : MessageEnvelope Term :=
    { (default : MessageEnvelope Term) with
      schemaVersion := 1, protocolId := .lit 7
      sourceChainId := 1, sourceCoordinator := 101, sourceComponent := 11
      destinationChainId := 2, destinationCoordinator := 102, destinationComponent := 12
      laneId := laneId (.lit 7) 1 11 2 12 (.lit 4) (.lit 9), sourceNonce := 1, aggregateId := .lit 4
      actionType := .canonicalUftLocked, payloadHash := payloadHash [.uint 1], createdAt := 10, expiresAt := 20
      routePolicyHash := .lit 5 }
  { unsigned with messageId := messageId unsigned }

def sampleSend : NetworkCall Term := ⟨1, ⟨10, sampleRegistry, fun _ _ _ => true⟩, .sendMessage 11 sampleEnvelope [.uint 1]⟩

/-- The message is sent, executed at its destination, and acknowledged at its source. -/
def sampleDelivery : List (NetworkCall Term) :=
  let env : Env Term := ⟨10, sampleRegistry, fun _ _ _ => true⟩
  [sampleSend, ⟨2, env, .executeMessage sampleEnvelope [.uint 1] [] (some (.lit 1))⟩,
    ⟨1, env, .recordAcknowledgement sampleEnvelope (.lit 1)⟩]

theorem no_double_outcome_sampleDelivery :
    (Network.run twoChains sampleDelivery 2).coordinator.executionResult sampleEnvelope.messageId ≠ 0 ∧
      (Network.run twoChains sampleDelivery 1).coordinator.acknowledgementCommitment sampleEnvelope.messageId ≠ 0 ∧
      (Network.run twoChains sampleDelivery 1).recovery.sourceCompensation sampleEnvelope.messageId = 0 ∧
      (Network.run twoChains sampleDelivery 1).recovery.compensated.count sampleEnvelope.messageId ≤ 1 := by
  obtain ⟨hone, -, hcount⟩ := Network.no_double_outcome twoChains sampleDelivery 1 sampleEnvelope (by decide +kernel)
  have hexecuted : (Network.run twoChains sampleDelivery 2).coordinator.executionResult sampleEnvelope.messageId ≠ 0 := by
    decide +kernel
  exact ⟨hexecuted, by decide +kernel, not_not.mp fun hc => hone ⟨hexecuted, hc⟩, hcount⟩

end Unified.CrossChain
