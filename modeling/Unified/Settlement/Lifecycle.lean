import Unified.Settlement.File

/-! Every step of a file keeps it well formed. -/

namespace Unified.Settlement.File

variable [Encoding] {p : String} {f g : File} {plan next : Plan} {claim : Claim}

section

omit [Encoding]

theorem Ok.of_plan (h : Ok p f) (hplan : f.plan = some plan) (hclaim : f.claim = some claim) : Planned p f plan claim := by
  obtain ⟨claim', hclaim', planned⟩ := h.planned plan hplan
  rw [Option.mem_def, hclaim] at hclaim'
  cases hclaim'
  exact planned

theorem Ok.of_now (h : Ok p f) (now : f.Holds plan claim) : Planned p f plan claim := h.of_plan now.planned now.claimed

theorem Planned.claim_state {state : State} (h : Planned p f plan claim) (hstate : plan.state = state) :
    claim.state = state.canonical := by
  rw [stateFromCanonical_eq_some.mp h.sameState, hstate]

theorem Ok.unplanned (h : Ok p f) (free : f.claim = none) : f.plan = none := by
  cases hplan : f.plan with
  | none => rfl
  | some plan =>
    obtain ⟨claim, hclaim, -⟩ := h.planned plan hplan
    rw [Option.mem_def, free] at hclaim
    cases hclaim

theorem Consistent.unconfirmed (h : Consistent f plan) (state : plan.state ≠ .confirmed ∧ plan.state ≠ .incident) :
    f.confirmation = none := by
  rw [← Option.not_isSome_iff_eq_none, h.confirmed]
  tauto

theorem Consistent.unquarantined (h : Consistent f plan) (state : plan.state ≠ .quarantined) : f.pending = none := by
  rwa [← Option.not_isSome_iff_eq_none, h.pending]

theorem Consistent.unconsumed (h : Consistent f plan) (state : plan.state ≠ .incident) : f.consumed = none := by
  rw [Option.eq_none_iff_forall_not_mem]
  exact fun k hk => state (h.consumed k hk).1

theorem Consistent.unreversed (h : Consistent f plan) (state : plan.state ≠ .failed) : f.reversed = false := by
  rw [← Bool.not_eq_true]
  exact fun hreversed => state (h.reversed hreversed)

theorem Consistent.idle (submitted : Submitted next) (reversed : f.reversed = true → next.state = .failed)
    (confirmation : f.confirmation = none) (pending : f.pending = none) (consumed : f.consumed = none)
    (state : next.state = .prepared ∨ next.state = .submitted ∨ next.state = .failed) : Consistent f next where
  submitted := submitted
  reversed := reversed
  confirmed := by
    rw [confirmation]
    rcases state with state | state | state <;> simp [state]
  confirms k hk := by rw [confirmation] at hk; cases hk
  pending := by
    rw [pending]
    rcases state with state | state | state <;> simp [state]
  quarantines q hq := by rw [pending] at hq; cases hq
  consumed k hk := by rw [consumed] at hk; cases hk

theorem Consistent.quarantine {q : PendingReversalSnapshot} (submitted : Submitted next) (reversed : f.reversed = false)
    (confirmation : f.confirmation = none) (pending : f.pending = some q) (quarantines : Quarantines next q)
    (consumed : f.consumed = none) (state : next.state = .quarantined) : Consistent f next where
  submitted := submitted
  reversed h := by rw [reversed] at h; cases h
  confirmed := by simp [confirmation, state]
  confirms k hk := by rw [confirmation] at hk; cases hk
  pending := by simp [pending, state]
  quarantines q' hq' := by rw [pending] at hq'; cases hq'; exact quarantines
  consumed k hk := by rw [consumed] at hk; cases hk

theorem Consistent.confirmation {k : AccountingProjection} (submitted : Submitted next) (reversed : f.reversed = false)
    (confirmation : f.confirmation = some k) (confirms : Confirms next k) (pending : f.pending = none)
    (consumed : ∀ q ∈ f.consumed, next.state = .incident ∧ ValidConsumedPendingReversal q next k)
    (state : next.state = .confirmed ∨ next.state = .incident) : Consistent f next where
  submitted := submitted
  reversed h := by rw [reversed] at h; cases h
  confirmed := by simp [confirmation, state]
  confirms k' hk' := by rw [confirmation] at hk'; cases hk'; exact confirms
  pending := by
    rw [pending]
    rcases state with state | state <;> simp [state]
  quarantines q hq := by rw [pending] at hq; cases hq
  consumed q hq := ⟨(consumed q hq).1, k, confirmation, (consumed q hq).2⟩

/-! ### Moving the plan -/

/-- A plan and its claim move together, and the store's record with them. -/
theorem Ok.move {target : CanonicalState} (h : Ok p f) (now : f.Holds plan claim)
    (written : g.written = f.written) (tombstone : g.reversed = g.tombstone.isSome)
    (validTombstone : ∀ t ∈ g.tombstone, t.paymentID = p ∧ t.paymentID ≠ "")
    (identity : next.paymentID = plan.paymentID ∧ next.allocationID = plan.allocationID ∧
      next.instructionDigest = plan.instructionDigest ∧ next.paymentVersion = plan.paymentVersion)
    (htarget : stateFromCanonical target = some next.state) (version : next.version = bump plan.version)
    (consistent : Consistent g next) : Ok p (g.moved next { claim with state := target }) := by
  have planned := h.of_now now
  have hwritten : g.written = some claim.written := by rw [written, h.written, now.claimed, Option.map_some]
  obtain ⟨payment, allocation, digest, paymentVersion⟩ := identity
  obtain ⟨hpayment, hallocation, hdigest, hversion, -⟩ := planned.valid
  refine ⟨?_, ?_, tombstone, validTombstone, ?_, ?_, ?_⟩
  · rw [moved, Option.map_some, hwritten]
    exact congrArg some (Claim.written_withState planned.claimed.1 target).symm
  · intro claim' hclaim'
    exact h.validClaim claim' (written ▸ hclaim')
  · intro hnone
    cases hnone
  · rintro _ ⟨⟩
    exact ⟨_, rfl, {
      toConsistent := { consistent with }
      key := payment.trans planned.key
      claimed := ⟨planned.claimed.1, planned.claimed.2.1.trans payment.symm,
        planned.claimed.2.2.1.trans allocation.symm, planned.claimed.2.2.2.trans digest.symm⟩
      sameState := htarget
      record := rfl
      valid := ⟨payment.trans_ne hpayment, allocation.trans_ne hallocation, digest.trans_ne hdigest,
        paymentVersion.trans_gt hversion, version.trans_gt now.room⟩ }⟩
  · intro _ _ _
    rfl

/-- A step that keeps the claims, the tombstone and the terms of the plan. -/
theorem Ok.advance {target : CanonicalState} (h : Ok p f) (now : f.Holds plan claim) (written : g.written = f.written)
    (tombstone : g.tombstone = f.tombstone) (reversed : g.reversed = f.reversed) (terms : next.toTerms = plan.toTerms)
    (digest : next.instructionDigest = plan.instructionDigest) (htarget : stateFromCanonical target = some next.state)
    (version : next.version = bump plan.version) (consistent : Consistent g next) :
    Ok p (g.moved next { claim with state := target }) := by
  refine h.move now written ?_ ?_ ⟨congrArg Terms.paymentID terms, congrArg Terms.allocationID terms, digest,
    congrArg Terms.paymentVersion terms⟩ htarget version consistent
  · rw [reversed, tombstone, h.tombstone]
  · rw [tombstone]
    exact h.validTombstone

end

theorem Step.ok {call : Call} (step : Step p call f g) (h : Ok p f) : Ok p g := by
  cases step with
  | claimed key free _ valid mode =>
    have hmode : ∀ claim : Claim, claim.mode = .syntheticProjection → claim.written = claim := by
      intro claim hclaim
      rw [Claim.written, if_neg (by simp [hclaim])]
    refine { h with written := ?_, validClaim := ?_, planned := ?_, canonical := ?_ }
    · rw [Option.map_some, hmode _ mode]
    · rintro _ ⟨⟩
      exact ⟨key, valid⟩
    · intro plan hplan
      rw [Option.mem_def, h.unplanned free] at hplan
      cases hplan
    · rintro _ ⟨⟩ hcanonical
      rw [mode] at hcanonical
      cases hcanonical
  | @prepared f _ _ key _ unplanned unreversed valid _ _ durable =>
    obtain ⟨hconfirmation, -, hpending, hconsumed, -⟩ := h.blank unplanned
    refine ⟨rfl, ?_, h.tombstone, h.validTombstone, by rintro ⟨⟩, ?_, fun _ _ _ => rfl⟩
    · rintro _ ⟨⟩
      exact ⟨key, durable⟩
    · rintro _ ⟨⟩
      refine ⟨_, rfl, {
        toConsistent := .idle (.inl rfl) ?_ hconfirmation hpending hconsumed (.inl rfl)
        key := key
        claimed := ⟨rfl, rfl, rfl, rfl⟩
        sameState := rfl
        record := rfl
        valid := ⟨durable.2.1, durable.2.2.1, durable.2.2.2.1, valid.2.2.2.2.2.2.1, Nat.one_pos⟩ }⟩
      intro hreversed
      rw [show _ = f.reversed from rfl, unreversed] at hreversed
      cases hreversed
  | submitted _ now state valid place =>
    have planned := h.of_now now
    refine h.advance now rfl rfl rfl rfl rfl rfl rfl (.idle ?_ ?_ ?_ ?_ ?_ (.inr (.inl rfl)))
    · exact .inr ⟨place.1, place.2, valid.2.2.2.2.2.2.2.1, valid.2.2.2.2.2.2.2.2.2⟩
    · intro hreversed
      rw [planned.unreversed (by simp [state])] at hreversed
      cases hreversed
    · exact planned.unconfirmed (by simp [state])
    · exact planned.unquarantined (by simp [state])
    · exact planned.unconsumed (by simp [state])
  | confirmed _ now state event =>
    have planned := h.of_now now
    refine h.advance now rfl rfl rfl rfl rfl rfl rfl (.confirmation planned.submitted ?_ rfl ?_ ?_ ?_ (.inl rfl))
    · exact planned.unreversed (by simp [state])
    · exact ⟨_, _, rfl, event.1, event.2.2⟩
    · exact planned.unquarantined (by simp [state])
    · intro q hq
      rw [planned.unconsumed (by simp [state])] at hq
      cases hq
  | contradicted _ now state event hpending submitted =>
    have planned := h.of_now now
    refine h.advance now rfl rfl rfl rfl rfl rfl rfl (.confirmation planned.submitted ?_ rfl ?_ rfl ?_ (.inr rfl))
    · exact planned.unreversed (by simp [state])
    · exact ⟨_, _, rfl, event.1, event.2.2⟩
    · rintro _ ⟨⟩
      exact ⟨rfl, (planned.quarantines _ hpending).1, submitted, rfl, event.1.2.2.2.2.2.1, rfl,
        event.1.2.2.2.2.2.2.2.2.2.1, rfl, rfl, rfl, rfl, rfl, rfl, rfl⟩
  | failed _ now state | reorgFailed _ now state =>
    have planned := h.of_now now
    refine h.advance now rfl rfl rfl rfl rfl rfl rfl (.idle planned.submitted (fun _ => rfl) ?_ ?_ ?_ (.inr (.inr rfl)))
    · exact planned.unconfirmed (by simp [state])
    · exact planned.unquarantined (by simp [state])
    · exact planned.unconsumed (by simp [state])
  | retried _ now state unreversed =>
    have planned := h.of_now now
    refine h.advance now rfl rfl rfl rfl rfl rfl rfl (.idle (.inl rfl) ?_ ?_ ?_ ?_ (.inl rfl))
    · intro hreversed
      rw [unreversed] at hreversed
      cases hreversed
    · exact planned.unconfirmed (by simp [state])
    · exact planned.unquarantined (by simp [state])
    · exact planned.unconsumed (by simp [state])
  | @reorgQuarantined _ _ _ _ _ _ now state =>
    have planned := h.of_now now
    obtain ⟨q, hq⟩ := Option.isSome_iff_exists.mp (planned.pending.mpr state)
    refine h.advance now rfl rfl rfl rfl rfl rfl rfl (.quarantine planned.submitted ?_ ?_ hq ?_ ?_ rfl)
    · exact planned.unreversed (by simp [state])
    · exact planned.unconfirmed (by simp [state])
    · exact planned.quarantines q hq
    · exact planned.unconsumed (by simp [state])
  | @reorgIncident _ _ _ plan _ k _ now _ state hconfirmation =>
    have planned := h.of_now now
    have notFailed : plan.state ≠ .failed := by rcases state with state | state <;> simp [state]
    have notQuarantined : plan.state ≠ .quarantined := by rcases state with state | state <;> simp [state]
    refine h.advance now rfl rfl rfl rfl rfl rfl rfl (.confirmation planned.submitted (planned.unreversed notFailed)
      hconfirmation (planned.confirms k hconfirmation) (planned.unquarantined notQuarantined) ?_ (.inr rfl))
    intro q hq
    obtain ⟨-, k', hk', valid⟩ := planned.consumed q hq
    rw [Option.mem_def, hconfirmation] at hk'
    cases hk'
    exact ⟨rfl, valid⟩
  | tombstoned key unplanned valid payment =>
    refine { h with tombstone := rfl, validTombstone := ?_, planned := ?_ }
    · rintro _ ⟨⟩
      exact ⟨payment, by rw [payment, ← key]; exact valid.2.2.1⟩
    · intro plan hplan
      rw [Option.mem_def, unplanned] at hplan
      cases hplan
  | @quarantined _ _ _ plan _ _ now state unreversed valid =>
    have planned := h.of_now now
    have notConfirmed : plan.state ≠ .confirmed ∧ plan.state ≠ .incident := by
      rcases state with state | state | state <;> simp [state]
    refine h.advance now rfl rfl rfl rfl rfl rfl rfl (.quarantine planned.submitted unreversed
      (planned.unconfirmed notConfirmed) rfl ?_ (planned.unconsumed notConfirmed.2) rfl)
    refine ⟨valid, rfl, rfl, rfl, fun origin => ⟨origin, rfl, rfl, rfl, ?_⟩⟩
    have origin : plan.state = .submitted := origin
    simp only [pendingSnapshot, origin, if_true]
    exact ⟨rfl, rfl, rfl, rfl⟩
  | @reversalIncident _ _ _ _ _ _ now state =>
    have planned := h.of_now now
    obtain ⟨k, hk⟩ := Option.isSome_iff_exists.mp (planned.confirmed.mpr (.inl state))
    refine h.advance now rfl rfl rfl rfl rfl rfl rfl (.confirmation planned.submitted ?_ hk
      (planned.confirms k hk) ?_ ?_ (.inr rfl))
    · exact planned.unreversed (by simp [state])
    · exact planned.unquarantined (by simp [state])
    · intro q hq
      rw [planned.unconsumed (by simp [state])] at hq
      cases hq
  | resolved key now state _ _ payment =>
    have planned := h.of_now now
    refine h.move now rfl rfl ?_ ⟨rfl, rfl, rfl, rfl⟩ rfl rfl
      (.idle planned.submitted (fun _ => rfl) ?_ rfl ?_ (.inr (.inr rfl)))
    · rintro _ ⟨⟩
      exact ⟨payment, by rw [payment, ← planned.key]; exact planned.valid.1⟩
    · exact planned.unconfirmed (by simp [state])
    · exact planned.unconsumed (by simp [state])

end Unified.Settlement.File
