import Unified.CrossChain.CoordinatorSpec

/-! The destination side of a coordinator: bindings of lanes to messages, terminal records and the
    execution log, also while a destination component is still running. -/

namespace Unified.CrossChain

open Mapping

variable {W : Type}

def Event.executes [DecidableEq W] (m : W) : Event W → Bool
  | .messageExecuted e _ => e.messageId == m
  | _ => false

section

variable [Evm W]

namespace Coordinator

/-- The message a lane's nonce is bound to; the zero word where it is not. -/
def boundAt (c : Coordinator W) (lane : W) (nonce : Nat) : W := c.inboundMessageAt (laneNonceKey lane nonce)

/-- How often the destination component of a message returned successfully. -/
def executions (c : Coordinator W) (m : W) : Nat := c.events.countP (Event.executes m)

def Terminal (c : Coordinator W) (m : W) : Prop := c.executionResult m ≠ 0 ∨ c.tombstoneHash m ≠ 0

/-- The destination invariant. `pending` is the message whose component is running, if there is one. -/
structure Ordered (cfg : CoordinatorConfig W) (pending : Option (MessageEnvelope W)) (c : Coordinator W) : Prop where
  entered : c.entered = pending.isSome
  bound : ∀ lane k, 1 ≤ k → k ≤ c.nextInboundNonce lane → c.boundAt lane k ≠ 0
  named : ∀ lane k, c.boundAt lane k ≠ 0 → ∃ e : MessageEnvelope W, e.Sealed ∧ e.messageId = c.boundAt lane k ∧
    e.laneId = lane ∧ e.sourceNonce = k
  above : ∀ lane k, c.nextInboundNonce lane < k → c.boundAt lane k ≠ 0 →
    ∃ e, pending = some e ∧ e.laneId = lane ∧ e.sourceNonce = k
  terminal : ∀ lane k, k ≤ c.nextInboundNonce lane → c.boundAt lane k ≠ 0 → c.Terminal (c.boundAt lane k)
  exclusive : ∀ m, c.executionResult m ≠ 0 → c.tombstoneHash m = 0
  delivered : ∀ m, c.Terminal m → ∃ e : MessageEnvelope W, e.Sealed ∧ e.messageId = m ∧
    c.boundAt e.laneId e.sourceNonce = m ∧ e.sourceNonce ≤ c.nextInboundNonce e.laneId
  running : ∀ e, pending = some e → e.Sealed ∧ c.executionResult e.messageId = 0 ∧
    c.tombstoneHash e.messageId = 0 ∧ c.boundAt e.laneId e.sourceNonce = e.messageId ∧
    e.sourceNonce = c.nextInboundNonce e.laneId + 1
  executedOnce : ∀ m, c.executions m = if c.executionResult m = 0 then 0 else 1
  executedLog : ∀ e r, .messageExecuted e r ∈ c.events → e.Sealed ∧ r ≠ 0 ∧ c.executionResult e.messageId = r
  tombstonedLog : ∀ e n reason, .messageTombstoned e n reason ∈ c.events →
    e.Sealed ∧ c.tombstoneHash e.messageId = tombstoneEventHash cfg.address e.messageId (envelopeHash e) n reason
  sentLog : ∀ e, .messageSent e ∈ c.events → e.Sealed ∧ c.messageStates e.messageId ≠ .none
  stored : ∀ m, m ≠ 0 → (c.envelopes m).messageId = m → (c.envelopes m).Sealed

/-- What no later call takes back. -/
structure Grows (c c' : Coordinator W) : Prop where
  results : ∀ m, c.executionResult m ≠ 0 → c'.executionResult m = c.executionResult m
  tombstones : ∀ m, c.tombstoneHash m ≠ 0 → c'.tombstoneHash m = c.tombstoneHash m
  bindings : ∀ k, c.inboundMessageAt k ≠ 0 → c'.inboundMessageAt k = c.inboundMessageAt k
  acknowledgements : ∀ m, c.acknowledgementCommitment m ≠ 0 →
    c'.acknowledgementCommitment m = c.acknowledgementCommitment m
  nonces : ∀ lane, c.nextInboundNonce lane ≤ c'.nextInboundNonce lane
  events : c.events <+: c'.events

theorem Grows.refl (c : Coordinator W) : Grows c c where
  results _ _ := rfl
  tombstones _ _ := rfl
  bindings _ _ := rfl
  acknowledgements _ _ := rfl
  nonces _ := Nat.le_refl _
  events := List.prefix_refl _

theorem Grows.trans {a b c : Coordinator W} (hab : Grows a b) (hbc : Grows b c) : Grows a c where
  results m h := by
    have hb := hab.results m h
    rw [hbc.results m (hb ▸ h), hb]
  tombstones m h := by
    have hb := hab.tombstones m h
    rw [hbc.tombstones m (hb ▸ h), hb]
  bindings k h := by
    have hb := hab.bindings k h
    rw [hbc.bindings k (hb ▸ h), hb]
  acknowledgements m h := by
    have hb := hab.acknowledgements m h
    rw [hbc.acknowledgements m (hb ▸ h), hb]
  nonces lane := (hab.nonces lane).trans (hbc.nonces lane)
  events := hab.events.trans hbc.events

theorem Ordered.initial (cfg : CoordinatorConfig W) (recoveryController : Address) :
    Ordered cfg none (initial recoveryController : Coordinator W) where
  entered := rfl
  bound lane k h1 h2 := absurd (h1.trans h2) (by simp [Coordinator.initial])
  named _ _ h := absurd rfl h
  above _ _ _ h := absurd rfl h
  terminal _ _ _ h := absurd rfl h
  exclusive _ _ := rfl
  delivered m h := by rcases h with h | h <;> exact absurd rfl h
  running _ h := by cases h
  executedOnce _ := (if_pos rfl).symm
  executedLog _ _ h := by cases h
  tombstonedLog _ _ _ h := by cases h
  sentLog _ h := by cases h
  stored m hm h := absurd h.symm hm

theorem executions_append (c : Coordinator W) {c' : Coordinator W} {ev : Event W} (h : c'.events = c.events ++ [ev])
    (m : W) : c'.executions m = c.executions m + if ev.executes m then 1 else 0 := by
  simp only [executions, h, List.countP_append, List.countP_cons, List.countP_nil, Nat.zero_add]

theorem boundAt_set (c c' : Coordinator W) {key m : W}
    (h : c'.inboundMessageAt = c.inboundMessageAt.set key m) (lane : W) (k : Nat) :
    c'.boundAt lane k = if laneNonceKey lane k = key then m else c.boundAt lane k := by
  rw [boundAt, h, set_apply, boundAt]

theorem mem_events_of_ne {c : Coordinator W} {ev ev' : Event W} (h : ev ∈ c.events ++ [ev']) (hne : ev ≠ ev') :
    ev ∈ c.events :=
  (List.mem_append.mp h).resolve_right fun hmem => hne (List.mem_singleton.mp hmem)

/-- A word written where there was none. -/
theorem set_of_zero {m : Mapping W W} {k k' v : W} (h : m k = 0) (hk : m k' ≠ 0) : m.set k v k' = m k' :=
  set_of_ne _ _ fun heq => hk (heq ▸ h)

theorem state_set {states : Mapping W MessageState} {m m' : W} {st : MessageState} (hst : st ≠ .none)
    (hm : states m' ≠ .none) : (states.set m st) m' ≠ .none := by
  rw [set_apply]
  split
  · exact hst
  · exact hm

end Coordinator

end

/-! ### Steps -/

section

variable [CollisionFree W]

namespace Coordinator

variable {cfg : CoordinatorConfig W} {env : Env W} {pending : Option (MessageEnvelope W)} {c : Coordinator W}
  {e : MessageEnvelope W} {payload : Payload W} {sender : Address} {resultHash reasonCode : W} {recoveryNonce : Nat}

theorem Grows.recordSent (c : Coordinator W) (e : MessageEnvelope W) : Grows c (c.recordSent e) :=
  { Grows.refl c with events := List.prefix_append _ _ }

theorem Ordered.recordSent (h : Ordered cfg pending c) (hid : e.Sealed) : Ordered cfg pending (c.recordSent e) :=
  { h with
    executedOnce := by
      intro m
      rw [executions_append c rfl]
      exact h.executedOnce m
    executedLog := fun e' r hmem => h.executedLog e' r (mem_events_of_ne hmem (by simp))
    tombstonedLog := fun e' n reason hmem => h.tombstonedLog e' n reason (mem_events_of_ne hmem (by simp))
    sentLog := by
      intro e' hmem
      rcases List.mem_append.mp hmem with hold | hnew
      · exact ⟨(h.sentLog e' hold).1, state_set (by simp) (h.sentLog e' hold).2⟩
      · cases List.mem_singleton.mp hnew
        refine ⟨hid, ?_⟩
        simp [Coordinator.recordSent]
    stored := by
      intro m hm
      simp only [Coordinator.recordSent, set_apply]
      split
      · exact fun _ => hid
      · exact h.stored m hm }

theorem Grows.recordAcknowledged (hack : c.acknowledgementCommitment e.messageId = 0) :
    Grows c (c.recordAcknowledged e resultHash) :=
  { Grows.refl c with acknowledgements := fun _ hm => set_of_zero hack hm }

theorem Ordered.recordAcknowledged (h : Ordered cfg pending c) :
    Ordered cfg pending (c.recordAcknowledged e resultHash) :=
  { h with sentLog := fun e' hmem => ⟨(h.sentLog e' hmem).1, state_set (by simp) (h.sentLog e' hmem).2⟩ }

theorem Ordered.exists_executed (h : Ordered cfg pending c) {m : W} (hm : c.executionResult m ≠ 0) :
    ∃ e r, .messageExecuted e r ∈ c.events ∧ e.messageId = m := by
  have hcount : 0 < c.events.countP (Event.executes m) := by
    have := h.executedOnce m
    rw [executions, if_neg hm] at this
    omega
  obtain ⟨ev, hmem, hev⟩ := List.countP_pos_iff.mp hcount
  cases ev with
  | messageExecuted e r => exact ⟨e, r, hmem, eq_of_beq hev⟩
  | messageSent | messageTombstoned => cases hev

/-- A nonce above the counter is free while nothing is pending. -/
theorem Ordered.boundAt_eq_zero (h : Ordered cfg none c) {lane : W} {k : Nat} (hk : c.nextInboundNonce lane < k) :
    c.boundAt lane k = 0 := by
  by_contra hne
  obtain ⟨e, hp, -⟩ := h.above lane k hk hne
  cases hp

/-- The pending component's own binding is the only one above a counter. -/
theorem Ordered.recordVerified (h : Ordered cfg none c) (hd : Deliverable cfg env e payload c) :
    Ordered cfg (some e) (c.recordVerified e) where
  entered := rfl
  bound lane k h1 h2 := by
    rw [boundAt_set c _ rfl]
    split
    · exact hd.selfId.ne_zero
    · exact h.bound lane k h1 h2
  named lane k := by
    rw [boundAt_set c _ rfl]
    split
    next hkey =>
      obtain ⟨rfl, rfl⟩ := laneNonceKey_inj hkey
      exact fun _ => ⟨e, hd.selfId, rfl, rfl, rfl⟩
    next => exact h.named lane k
  above lane k hk := by
    rw [boundAt_set c _ rfl]
    split
    next hkey =>
      obtain ⟨rfl, rfl⟩ := laneNonceKey_inj hkey
      exact fun _ => ⟨e, rfl, rfl, rfl⟩
    next =>
      intro hne
      exact absurd (h.boundAt_eq_zero hk) hne
  terminal lane k hk := by
    rw [boundAt_set c _ rfl]
    split
    next hkey =>
      obtain ⟨rfl, rfl⟩ := laneNonceKey_inj hkey
      have : c.nextInboundNonce e.laneId + 1 ≤ c.nextInboundNonce e.laneId := hd.nonce ▸ hk
      omega
    next => exact h.terminal lane k hk
  exclusive := h.exclusive
  delivered m hm := by
    obtain ⟨e', hid, hm', hb, hn⟩ := h.delivered m hm
    refine ⟨e', hid, hm', ?_, hn⟩
    rw [boundAt_set c _ rfl, if_neg, hb]
    intro hkey
    obtain ⟨hl, hk⟩ := laneNonceKey_inj hkey
    have := hd.nonce
    rw [hl, hk] at hn
    omega
  running e' he' := by
    cases he'
    refine ⟨hd.selfId, hd.unexecuted, hd.untombstoned, ?_, hd.nonce⟩
    rw [boundAt_set c _ rfl, if_pos rfl]
  executedOnce := h.executedOnce
  executedLog := h.executedLog
  tombstonedLog := h.tombstonedLog
  sentLog e' hmem := ⟨(h.sentLog e' hmem).1, state_set (by simp) (h.sentLog e' hmem).2⟩
  stored m hm := by
    simp only [Coordinator.recordVerified, set_apply]
    split
    · exact fun _ => hd.selfId
    · exact h.stored m hm

theorem Grows.recordVerified (h : Ordered cfg none c) (hd : Deliverable cfg env e payload c) :
    Grows c (c.recordVerified e) :=
  { Grows.refl c with
    bindings := fun _ hk => set_of_zero (h.boundAt_eq_zero (by have := hd.nonce; omega)) hk }

/-- The counter after a write at the next nonce of a lane. -/
theorem nonce_after (c' : Coordinator W) (hset : c'.nextInboundNonce = c.nextInboundNonce.set e.laneId e.sourceNonce)
    (hn : e.sourceNonce = c.nextInboundNonce e.laneId + 1) (lane : W) :
    c'.nextInboundNonce lane = c.nextInboundNonce lane + if lane = e.laneId then 1 else 0 := by
  rw [hset, set_apply]
  split
  next heq => rw [heq, hn]
  next => rfl

/-- The nonces a write at the next nonce of a lane adds. -/
theorem le_nonce_after (c' : Coordinator W)
    (hset : c'.nextInboundNonce = c.nextInboundNonce.set e.laneId e.sourceNonce)
    (hn : e.sourceNonce = c.nextInboundNonce e.laneId + 1) (lane : W) (k : Nat) :
    k ≤ c'.nextInboundNonce lane ↔ k ≤ c.nextInboundNonce lane ∨ (lane = e.laneId ∧ k = e.sourceNonce) := by
  rw [nonce_after c' hset hn]
  by_cases heq : lane = e.laneId
  · subst heq
    simp only [if_true, true_and]
    omega
  · simp [heq]

theorem terminal_recordExecuted (hr : resultHash ≠ 0) (m : W) :
    (c.recordExecuted e resultHash).Terminal m ↔ m = e.messageId ∨ c.Terminal m := by
  simp only [Terminal, Coordinator.recordExecuted, set_apply]
  by_cases heq : m = e.messageId <;> simp [heq, hr]

theorem terminal_recordTombstoned (m : W) :
    (c.recordTombstoned cfg e recoveryNonce reasonCode).Terminal m ↔ m = e.messageId ∨ c.Terminal m := by
  simp only [Terminal, Coordinator.recordTombstoned, set_apply]
  by_cases heq : m = e.messageId <;> simp [heq, tombstoneEventHash_ne_zero]

/-- The component returned: its message becomes terminal and the lane moves on. -/
theorem Ordered.recordExecuted (h : Ordered cfg (some e) c) (hr : resultHash ≠ 0) :
    Ordered cfg none (c.recordExecuted e resultHash) := by
  obtain ⟨hid, hx, ht, hb, hn⟩ := h.running e rfl
  have result : ∀ m, (c.recordExecuted e resultHash).executionResult m =
      if m = e.messageId then resultHash else c.executionResult m := fun m => set_apply ..
  have nonces := le_nonce_after (c.recordExecuted e resultHash) rfl hn
  have terminal := terminal_recordExecuted (c := c) (e := e) hr
  exact {
    entered := rfl
    bound := by
      intro lane k h1 h2
      rcases (nonces _ _).mp h2 with hle | ⟨rfl, rfl⟩
      · exact h.bound lane k h1 hle
      · change c.boundAt _ _ ≠ 0
        rw [hb]
        exact hid.ne_zero
    named := h.named
    above := by
      intro lane k hk hne
      have hlt : ¬ (k ≤ c.nextInboundNonce lane ∨ (lane = e.laneId ∧ k = e.sourceNonce)) := by
        rw [← nonces]
        omega
      rw [not_or] at hlt
      obtain ⟨e', he', rfl, rfl⟩ := h.above lane k (by omega) hne
      cases he'
      exact absurd ⟨rfl, rfl⟩ hlt.2
    terminal := by
      intro lane k hk hne
      refine (terminal _).mpr ?_
      rcases (nonces _ _).mp hk with hle | ⟨rfl, rfl⟩
      · exact .inr (h.terminal lane k hle hne)
      · exact .inl hb
    exclusive := by
      intro m
      rw [result]
      split
      next heq =>
        intro _
        rw [heq]
        exact ht
      next => exact h.exclusive m
    delivered := by
      intro m hm
      rcases (terminal m).mp hm with rfl | hold
      · exact ⟨e, hid, rfl, hb, (nonces _ _).mpr (.inr ⟨rfl, rfl⟩)⟩
      · obtain ⟨e', hid', hm', hb', hn'⟩ := h.delivered m hold
        exact ⟨e', hid', hm', hb', (nonces _ _).mpr (.inl hn')⟩
    running := by
      intro _ h'
      cases h'
    executedOnce := by
      intro m
      rw [executions_append c rfl, h.executedOnce, result]
      by_cases heq : m = e.messageId
      · simp [Event.executes, heq, hx, hr]
      · simp [Event.executes, heq, Ne.symm heq]
    executedLog := by
      intro e' r hmem
      rw [result]
      rcases List.mem_append.mp hmem with hold | hnew
      · obtain ⟨hid', hr', hx'⟩ := h.executedLog e' r hold
        refine ⟨hid', hr', ?_⟩
        rw [if_neg, hx']
        intro heq
        rw [heq, hx] at hx'
        exact hr' hx'.symm
      · cases List.mem_singleton.mp hnew
        exact ⟨hid, hr, if_pos rfl⟩
    tombstonedLog := fun e' n reason hmem => h.tombstonedLog e' n reason (mem_events_of_ne hmem (by simp))
    sentLog := by
      intro e' hmem
      obtain ⟨hid', hstate⟩ := h.sentLog e' (mem_events_of_ne hmem (by simp))
      exact ⟨hid', state_set (by simp) hstate⟩
    stored := h.stored }

theorem Grows.recordExecuted (h : Ordered cfg (some e) c) : Grows c (c.recordExecuted e resultHash) := by
  obtain ⟨-, hx, -, -, hn⟩ := h.running e rfl
  exact { Grows.refl c with
    results := fun _ hm => set_of_zero hx hm
    nonces := fun lane => by
      rw [nonce_after (c.recordExecuted e resultHash) rfl hn]
      exact Nat.le_add_right _ _
    events := List.prefix_append _ _ }

/-- A tombstone takes a free nonce, so it never meets the pending message. -/
theorem Ordered.recordTombstoned (h : Ordered cfg pending c) (hd : Tombstonable cfg env sender e reasonCode c) :
    Ordered cfg pending (c.recordTombstoned cfg e recoveryNonce reasonCode) := by
  have hid := hd.selfId
  have hn := hd.nonce
  have tombstone : ∀ m, (c.recordTombstoned cfg e recoveryNonce reasonCode).tombstoneHash m =
      if m = e.messageId then tombstoneEventHash cfg.address e.messageId (envelopeHash e) recoveryNonce reasonCode
      else c.tombstoneHash m := fun m => set_apply ..
  have binding := boundAt_set c (c.recordTombstoned cfg e recoveryNonce reasonCode) rfl
  have nonces := le_nonce_after (c.recordTombstoned cfg e recoveryNonce reasonCode) rfl hn
  have terminal (m : W) : (c.recordTombstoned cfg e recoveryNonce reasonCode).Terminal m ↔ _ :=
    terminal_recordTombstoned m
  -- the pending message holds a bound nonce, the tombstone takes a free one
  have apart : ∀ e', pending = some e' → laneNonceKey e'.laneId e'.sourceNonce ≠ laneNonceKey e.laneId e.sourceNonce := by
    intro e' hp hkey
    obtain ⟨hid', -, -, hb', -⟩ := h.running e' hp
    rw [boundAt, hkey, hd.unbound] at hb'
    exact hid'.ne_zero hb'.symm
  exact {
    entered := h.entered
    bound := by
      intro lane k h1 h2
      rw [binding]
      split
      · exact hid.ne_zero
      next hkey =>
        rcases (nonces _ _).mp h2 with hle | ⟨rfl, rfl⟩
        · exact h.bound lane k h1 hle
        · exact absurd rfl hkey
    named := by
      intro lane k
      rw [binding]
      split
      next hkey =>
        obtain ⟨rfl, rfl⟩ := laneNonceKey_inj hkey
        exact fun _ => ⟨e, hid, rfl, rfl, rfl⟩
      next => exact h.named lane k
    above := by
      intro lane k hk
      have hlt : ¬ (k ≤ c.nextInboundNonce lane ∨ (lane = e.laneId ∧ k = e.sourceNonce)) := by
        rw [← nonces]
        omega
      rw [not_or] at hlt
      rw [binding, if_neg fun hkey => hlt.2 (laneNonceKey_inj hkey)]
      exact h.above lane k (by omega)
    terminal := by
      intro lane k hk
      rw [binding, terminal]
      split
      · exact fun _ => .inl rfl
      next hkey =>
        intro hne
        rcases (nonces _ _).mp hk with hle | ⟨rfl, rfl⟩
        · exact .inr (h.terminal lane k hle hne)
        · exact absurd rfl hkey
    exclusive := by
      intro m hm
      rw [tombstone, if_neg, h.exclusive m hm]
      rintro rfl
      exact hm hd.unexecuted
    delivered := by
      intro m hm
      rcases (terminal m).mp hm with rfl | hold
      · refine ⟨e, hid, rfl, ?_, (nonces _ _).mpr (.inr ⟨rfl, rfl⟩)⟩
        rw [binding, if_pos rfl]
      · obtain ⟨e', hid', hm', hb', hn'⟩ := h.delivered m hold
        refine ⟨e', hid', hm', ?_, (nonces _ _).mpr (.inl hn')⟩
        rw [binding, if_neg, hb']
        intro hkey
        obtain ⟨hl, hk⟩ := laneNonceKey_inj hkey
        rw [hl, hk] at hn'
        omega
    running := by
      intro e' hp
      obtain ⟨hid', hx', ht', hb', hn'⟩ := h.running e' hp
      have hkey := apart e' hp
      refine ⟨hid', hx', ?_, ?_, ?_⟩
      · rw [tombstone, if_neg, ht']
        intro heq
        exact hkey (by rw [hid'.eq hid heq])
      · rw [binding, if_neg hkey, hb']
      · rw [nonce_after (c.recordTombstoned cfg e recoveryNonce reasonCode) rfl hn, if_neg]
        · exact hn'
        · intro hl
          refine hkey ?_
          rw [hl, hn', hn, hl]
    executedOnce := by
      intro m
      rw [executions_append c rfl]
      exact h.executedOnce m
    executedLog := fun e' r hmem => h.executedLog e' r (mem_events_of_ne hmem (by simp))
    tombstonedLog := by
      intro e' n reason hmem
      rw [tombstone]
      rcases List.mem_append.mp hmem with hold | hnew
      · obtain ⟨hid', ht'⟩ := h.tombstonedLog e' n reason hold
        refine ⟨hid', ?_⟩
        rw [if_neg, ht']
        intro heq
        rw [heq, hd.untombstoned] at ht'
        exact tombstoneEventHash_ne_zero _ _ _ _ _ ht'.symm
      · cases List.mem_singleton.mp hnew
        exact ⟨hid, if_pos rfl⟩
    sentLog := by
      intro e' hmem
      obtain ⟨hid', hstate⟩ := h.sentLog e' (mem_events_of_ne hmem (by simp))
      exact ⟨hid', state_set (by simp) hstate⟩
    stored := by
      intro m hm
      simp only [Coordinator.recordTombstoned, set_apply]
      split
      · exact fun _ => hid
      · exact h.stored m hm }

theorem Grows.recordTombstoned (hd : Tombstonable cfg env sender e reasonCode c) :
    Grows c (c.recordTombstoned cfg e recoveryNonce reasonCode) :=
  { Grows.refl c with
    tombstones := fun _ hm => set_of_zero hd.untombstoned hm
    bindings := fun _ hk => set_of_zero hd.unbound hk
    nonces := fun lane => by
      rw [nonce_after (c.recordTombstoned cfg e recoveryNonce reasonCode) rfl hd.nonce]
      exact Nat.le_add_right _ _
    events := List.prefix_append _ _ }

end Coordinator

end

end Unified.CrossChain
