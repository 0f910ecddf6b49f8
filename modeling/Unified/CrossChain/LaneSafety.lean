import Unified.CrossChain.Endpoint

/-! The destination side over whole runs: every sequence of calls to an endpoint, by any callers, with
    any arguments, block times, registry contents and certificate verdicts, and with components that
    call back into it. -/

namespace Unified.CrossChain

variable {W : Type}

namespace Coordinator

/-- Every nonce up to a lane's counter is bound to a message of its own that is terminal in exactly
    one way, no nonce above it is bound, and no component returned twice for one message. -/
structure LaneSafe [Evm W] (c : Coordinator W) : Prop where
  bound : ∀ lane k, 1 ≤ k → k ≤ c.nextInboundNonce lane → c.boundAt lane k ≠ 0
  unbound : ∀ lane k, c.nextInboundNonce lane < k → c.boundAt lane k = 0
  single : ∀ lane lane' k k', c.boundAt lane k ≠ 0 → c.boundAt lane k = c.boundAt lane' k' → lane = lane' ∧ k = k'
  terminal : ∀ lane k, c.boundAt lane k ≠ 0 →
    Xor (c.executionResult (c.boundAt lane k) ≠ 0) (c.tombstoneHash (c.boundAt lane k) ≠ 0)
  once : ∀ m, c.executions m ≤ 1

/-- The records of every terminal message of `c`, and its binding, are the same in `c'`. -/
def Frozen [Evm W] (c c' : Coordinator W) : Prop :=
  ∀ m, c.Terminal m → c'.executionResult m = c.executionResult m ∧ c'.tombstoneHash m = c.tombstoneHash m ∧
    ∀ lane k, c.boundAt lane k = m → c'.boundAt lane k = m

variable [CollisionFree W] {cfg : CoordinatorConfig W} {c c' : Coordinator W}

theorem Ordered.laneSafe (h : Ordered cfg none c) : c.LaneSafe where
  bound := h.bound
  unbound _ _ hk := h.boundAt_eq_zero hk
  single lane lane' k k' hne heq := by
    obtain ⟨e, hid, hm, rfl, rfl⟩ := h.named lane k hne
    obtain ⟨e', hid', hm', rfl, rfl⟩ := h.named lane' k' (heq ▸ hne)
    have := hid.eq hid' (by rw [hm, hm', heq])
    exact ⟨by rw [this], by rw [this]⟩
  terminal lane k hne := by
    have hk : k ≤ c.nextInboundNonce lane := by
      by_contra hlt
      exact hne (h.boundAt_eq_zero (by omega))
    rcases h.terminal lane k hk hne with hx | ht
    · exact .inl ⟨hx, fun ht => ht (h.exclusive _ hx)⟩
    · exact .inr ⟨ht, fun hx => ht (h.exclusive _ hx)⟩
  once m := by
    rw [h.executedOnce]
    split <;> omega

theorem Grows.frozen (h : Ordered cfg none c) (h' : Ordered cfg none c') (hg : c.Grows c') : c.Frozen c' := by
  intro m hm
  have hbinding : ∀ lane k, c.boundAt lane k = m → c'.boundAt lane k = m := by
    intro lane k hk
    have hne : m ≠ 0 := by
      obtain ⟨e, hid, rfl, -⟩ := h.delivered m hm
      exact hid.ne_zero
    rw [← hk] at hne ⊢
    exact hg.bindings _ hne
  rcases hm with hx | ht
  · have hx' := hg.results m hx
    refine ⟨hx', ?_, hbinding⟩
    rw [h.exclusive m hx, h'.exclusive m (hx' ▸ hx)]
  · have ht' := hg.tombstones m ht
    refine ⟨?_, ht', hbinding⟩
    have hx : c.executionResult m = 0 := by
      by_contra hne
      exact ht (h.exclusive m hne)
    have hx' : c'.executionResult m = 0 := by
      by_contra hne
      exact ht (ht' ▸ h'.exclusive m hne)
    rw [hx, hx']

end Coordinator

namespace Endpoint

section

variable [Evm W]

/-- Calls, each in its own surroundings, in order; one that reverts changes nothing. -/
def run (cfg : EndpointConfig W) (s : Endpoint W) (calls : List (Env W × Call W)) : Endpoint W :=
  runCalls (fun call => exec cfg call.1 call.2) s calls

theorem run_append (cfg : EndpointConfig W) (s : Endpoint W) (calls later : List (Env W × Call W)) :
    run cfg s (calls ++ later) = run cfg (run cfg s calls) later :=
  runCalls_append s calls later

end

variable [CollisionFree W] {cfg : EndpointConfig W} {env : Env W} {s t : Endpoint W}

/-- The invariant when certificates may be accepted for any event. -/
abbrev Consistent (cfg : EndpointConfig W) (s : Endpoint W) : Prop := Sound cfg (fun _ _ _ => True) none none s

theorem exec_consistent {call : Env W × Call W} (h : exec cfg call.1 call.2 s = .ok t) (hs : Consistent cfg s) :
    Keeps cfg (fun _ _ _ => True) none none s t :=
  exec_keeps (fun _ _ _ _ => trivial) call.2 h hs

theorem run_consistent (hs : Consistent cfg s) (calls : List (Env W × Call W)) : Consistent cfg (run cfg s calls) :=
  runCalls_invariant (Consistent cfg) (fun _ _ _ h hs => (exec_consistent h hs).1) hs calls

theorem run_grows (hs : Consistent cfg s) (calls : List (Env W × Call W)) :
    s.coordinator.Grows (run cfg s calls).coordinator :=
  runCalls_relation (Consistent cfg) (fun s t => s.coordinator.Grows t.coordinator)
    (fun _ => .refl _) (fun _ _ _ => .trans) (fun _ _ _ h hs => (exec_consistent h hs).1)
    (fun _ _ _ h hs => (exec_consistent h hs).2) hs calls

/-- An execution whose component reverts or returns the zero word does not go through, whatever the
    component called before; a replay returns the stored result and writes nothing. -/
theorem exec_executeMessage_failed {e : MessageEnvelope W} {payload : Payload W} {nested : List (Call W)}
    {outcome : Option W} (hout : outcome = none ∨ outcome = some 0)
    (h : exec cfg env (.executeMessage e payload nested outcome) s = .ok t) : t = s := by
  rw [exec] at h
  split at h
  · cases h
  · cases h
    rfl
  · obtain ⟨resultHash, ho, hr, -⟩ := finishExecution_inv h
    rcases hout with rfl | rfl
    · cases ho
    · cases ho
      exact absurd rfl hr

/-- Destination lanes of a coordinator. -/
theorem destination_lanes_safe (cfg : EndpointConfig W) (calls : List (Env W × Call W)) :
    (run cfg (initial 0) calls).coordinator.LaneSafe ∧
      (∀ later, (run cfg (initial 0) calls).coordinator.Frozen (run cfg (initial 0) (calls ++ later)).coordinator) ∧
      ∀ env e payload nested outcome, (outcome = none ∨ outcome = some 0) →
        run cfg (initial 0) (calls ++ [(env, .executeMessage e payload nested outcome)]) = run cfg (initial 0) calls := by
  have hs : Consistent cfg (run cfg (initial 0) calls) := run_consistent (.initial cfg _ 0) calls
  refine ⟨hs.ordered.laneSafe, fun later => ?_, fun env e payload nested outcome hout => ?_⟩
  · rw [run_append]
    exact (run_grows hs later).frozen hs.ordered (run_consistent hs later).ordered
  · rw [run_append, run, runCalls_cons, runCalls_nil, commit]
    split
    next t h => exact exec_executeMessage_failed hout h
    next => rfl

end Endpoint

end Unified.CrossChain
