import Unified.Settlement.Lifecycle

/-! What an accepted call does: it changes nothing, or it takes one step on the file of one payment and
    leaves the other files alone. -/

namespace Unified.Settlement

open Indexer (Time SettlementReorg)

variable {c c' : Coordinator} {plan next : Plan}

structure Coordinator.Inv [Encoding] (c : Coordinator) : Prop where
  files : ∀ p, File.Ok p (c.file p)
  claims : ∀ {a p}, c.modes.byAllocation.lookup a = some p ↔ ∃ claim ∈ c.modes.byPayment.lookup p, claim.allocationID = a
  plans : ∀ {a p}, c.byAllocation.lookup a = some p ↔ ∃ plan ∈ c.plans.lookup p, plan.allocationID = a
  resolutions : c.store.resolutions = c.resolutions
  resolved : ∀ {q stored}, c.resolutions.lookup q = some stored → stored.resolution.pending.quarantineID = q ∧
    ValidStoredReversalResolution stored ∧ (c.file stored.resolution.pending.paymentID).reversed = true ∧
      (c.file stored.resolution.pending.paymentID).plan.isSome

/-! ### Writing a plan -/

namespace Coordinator

def Wrote (c c' : Coordinator) (next : Plan) (claim : Claim) : Prop :=
  c'.file next.paymentID = (c.file next.paymentID).moved next claim ∧
    (∀ q, q ≠ next.paymentID → c'.file q = c.file q) ∧ c'.modes.byAllocation = c.modes.byAllocation ∧
    c'.byAllocation = c.byAllocation ∧ c'.resolutions = c.resolutions ∧ c'.store.resolutions = c.store.resolutions

variable {claim : Claim} {evidenceHash : String} {occurredAt : Time} {record : StoredCoordinator} {modes : Registry}
  {e : ErrorKind}

theorem durableRecord_eq_ok (h : c.durableRecord plan claim = .ok record)
    (unreversed : (c.file plan.paymentID).reversed = false) :
    ClaimMatchesPlan claim plan ∧ stateFromCanonical claim.state = some plan.state ∧
      record = (c.file plan.paymentID).stored plan claim := by
  simp only [durableRecord, durableRecordWith, block_eq_ok] at h
  obtain ⟨⟨hclaim, hstate⟩, rfl⟩ := h
  refine ⟨hclaim, hstate, ?_⟩
  rw [File.stored, unreversed]
  rfl

theorem compareAndSwapDurable_eq_ok {store : MemoryStore} {state : State} {version : Nat}
    (unreversed : (c.file plan.paymentID).reversed = false)
    (h : c.compareAndSwapDurable state version plan claim evidenceHash occurredAt = .ok store) :
    ClaimMatchesPlan claim plan ∧ stateFromCanonical claim.state = some plan.state ∧ 0 < plan.version ∧
      store = { c.store with
        records := c.store.records.insert plan.paymentID ((c.file plan.paymentID).stored plan claim) } := by
  simp only [compareAndSwapDurable, bind_eq_ok] at h
  obtain ⟨record, hrecord, hswap⟩ := h
  obtain ⟨hclaim, hstate, rfl⟩ := durableRecord_eq_ok hrecord unreversed
  simp only [MemoryStore.compareAndSwap, block_eq_ok] at hswap
  obtain ⟨⟨valid, -⟩, -, rfl⟩ := hswap
  exact ⟨hclaim, hstate, valid.2.2.2.2, rfl⟩

theorem Wrote.of_publish
    (claims : ∀ q, modes.byPayment.lookup q = if q = next.paymentID then some claim else c.modes.byPayment.lookup q)
    (written : modes.claims = c.modes.claims) (reversed : modes.reversed = c.modes.reversed)
    (allocations : modes.byAllocation = c.modes.byAllocation) :
    c.Wrote (c.publish next modes { c.store with
      records := c.store.records.insert next.paymentID ((c.file next.paymentID).stored next claim) }) next claim := by
  refine ⟨?_, ?_, allocations, rfl, rfl, rfl⟩
  · simp only [file, publish, claims, written, reversed, Table.lookup_insert_apply, if_true]
    rfl
  · intro q hq
    simp only [file, publish, claims, written, reversed, Table.lookup_insert_apply, if_neg hq]

theorem transition_eq_ok {expected target : CanonicalState}
    (h : c.transition plan next expected target evidenceHash occurredAt e = .ok c')
    (payment : next.paymentID = plan.paymentID) (unreversed : (c.file plan.paymentID).reversed = false) :
    ∃ claim, (c.file plan.paymentID).claim = some claim ∧ claim.state = expected ∧ 0 < next.version ∧
      c.Wrote c' next { claim with state := target } := by
  simp only [transition, block_eq_ok, joinError_eq_ok, Registry.transitionWithCommit, orRevert_eq_ok] at h
  obtain ⟨-, ⟨-, claim, hclaim, ⟨-, -, -, hstate, -⟩, store, hswap, rfl⟩, rfl⟩ := h
  obtain ⟨-, -, hversion, rfl⟩ := compareAndSwapDurable_eq_ok (payment ▸ unreversed) hswap
  refine ⟨claim, hclaim, hstate, hversion, .of_publish ?_ rfl rfl rfl⟩
  intro q
  rw [Table.lookup_insert_apply, payment]

theorem rewrite_eq_ok (h : c.rewrite plan next claim evidenceHash occurredAt e = .ok c')
    (payment : next.paymentID = plan.paymentID) (unreversed : (c.file plan.paymentID).reversed = false)
    (hclaim : (c.file plan.paymentID).claim = some claim) : 0 < next.version ∧ c.Wrote c' next claim := by
  simp only [rewrite, bind_eq_ok, joinError_eq_ok, pure_eq_ok] at h
  obtain ⟨store, hswap, rfl⟩ := h
  obtain ⟨-, -, hversion, rfl⟩ := compareAndSwapDurable_eq_ok (payment ▸ unreversed) hswap
  refine ⟨hversion, .of_publish ?_ rfl rfl rfl⟩
  intro q
  split
  · next hq => rw [hq, payment]; exact hclaim
  · rfl

theorem named_eq_ok {paymentID allocationID digest : String} (h : c.named paymentID allocationID digest e = .ok plan) :
    (c.file paymentID).plan = some plan ∧ plan.allocationID = allocationID ∧ plan.instructionDigest = digest := by
  simp only [named, block_eq_ok, orRevert_eq_ok] at h
  obtain ⟨plan', hplan, hids, rfl⟩ := h
  exact ⟨hplan, hids⟩

/-! ### Steps -/

section

variable [Encoding] {call : Call} {p : String} {claim : Claim}

/-- One step on the file of payment `p`; the indexes change by the claim, the plan or the resolution it adds. -/
structure Stepped (call : Call) (p : String) (c c' : Coordinator) : Prop where
  step : File.Step p call (c.file p) (c'.file p)
  others : ∀ q, q ≠ p → c'.file q = c.file q
  claims : ∀ {a q}, c'.modes.byAllocation.lookup a = some q ↔ c.modes.byAllocation.lookup a = some q ∨
    q = p ∧ (c.file p).claim = none ∧ ∃ claim ∈ (c'.file p).claim, claim.allocationID = a
  plans : ∀ {a q}, c'.byAllocation.lookup a = some q ↔ c.byAllocation.lookup a = some q ∨
    q = p ∧ (c.file p).plan = none ∧ ∃ plan ∈ (c'.file p).plan, plan.allocationID = a
  resolutions : c'.resolutions = c.resolutions ∧ c'.store.resolutions = c.store.resolutions ∨
    ∃ stored, c'.resolutions = c.resolutions.insert stored.resolution.pending.quarantineID stored ∧
      c'.store.resolutions = c.store.resolutions.insert stored.resolution.pending.quarantineID stored ∧
      ValidStoredReversalResolution stored ∧ stored.resolution.pending.paymentID = p ∧ (c'.file p).reversed = true ∧
      (c'.file p).plan.isSome

/-- What is set in memory for payment `p` before the store is asked. -/
structure Staged (p : String) (c c₁ : Coordinator) : Prop where
  others : ∀ q, q ≠ p → c₁.file q = c.file q
  claims : c₁.modes.byAllocation = c.modes.byAllocation
  plans : c₁.byAllocation = c.byAllocation
  resolutions : c₁.resolutions = c.resolutions
  stored : c₁.store.resolutions = c.store.resolutions

omit [Encoding] in
theorem Staged.refl (p : String) (c : Coordinator) : Staged p c c := ⟨fun _ _ => rfl, rfl, rfl, rfl, rfl⟩

theorem Stepped.of_same (step : File.Step p call (c.file p) (c'.file p)) (others : ∀ q, q ≠ p → c'.file q = c.file q)
    (hclaims : c'.modes.byAllocation = c.modes.byAllocation) (hplans : c'.byAllocation = c.byAllocation)
    (hclaim : (c.file p).claim = none → (c'.file p).claim = none)
    (hplan : (c.file p).plan = none → (c'.file p).plan = none)
    (resolutions : c'.resolutions = c.resolutions ∧ c'.store.resolutions = c.store.resolutions ∨
      ∃ stored, c'.resolutions = c.resolutions.insert stored.resolution.pending.quarantineID stored ∧
        c'.store.resolutions = c.store.resolutions.insert stored.resolution.pending.quarantineID stored ∧
        ValidStoredReversalResolution stored ∧ stored.resolution.pending.paymentID = p ∧ (c'.file p).reversed = true ∧
        (c'.file p).plan.isSome) : Stepped call p c c' where
  step := step
  others := others
  claims {a q} := by
    rw [hclaims]
    refine (or_iff_left ?_).symm
    rintro ⟨-, free, claim, hnew, -⟩
    rw [hclaim free] at hnew
    cases hnew
  plans {a q} := by
    rw [hplans]
    refine (or_iff_left ?_).symm
    rintro ⟨-, free, plan, hnew, -⟩
    rw [hplan free] at hnew
    cases hnew
  resolutions := resolutions

variable {evidenceHash : String} {result : Plan} {c₁ : Coordinator} {e : ErrorKind} {f : File}

/-- A written plan is a step when the file has a plan before. -/
theorem Stepped.of_wrote (staged : Staged p c c₁) (wrote : c₁.Wrote c' next claim) (payment : next.paymentID = p)
    (hplan : (c.file p).plan.isSome) (hclaim : (c.file p).claim.isSome)
    (step : File.Step p call (c.file p) ((c₁.file p).moved next claim)) : Stepped call p c c' := by
  subst payment
  obtain ⟨hfile, hothers, hclaims, hplans, hresolutions, hstored⟩ := wrote
  refine .of_same (hfile ▸ step) (fun q hq => (hothers q hq).trans (staged.others q hq)) (hclaims.trans staged.claims)
    (hplans.trans staged.plans) ?_ ?_ (.inl ⟨hresolutions.trans staged.resolutions, hstored.trans staged.stored⟩)
  · intro free
    rw [free] at hclaim
    cases hclaim
  · intro free
    rw [free] at hplan
    cases hplan

theorem Stepped.of_transition {expected target : CanonicalState} (staged : Staged p c c₁) (hfile : c₁.file p = f)
    (h : c₁.transition plan next expected target evidenceHash occurredAt e = .ok c') (key : plan.paymentID = p)
    (payment : next.paymentID = plan.paymentID) (hplan : (c.file p).plan = some plan)
    (hclaim : (c.file p).claim = some claim) (claims : f.claim = (c.file p).claim) (unreversed : f.reversed = false)
    (step : 0 < next.version → File.Step p call (c.file p) (f.moved next { claim with state := target })) :
    Stepped call p c c' := by
  subst key hfile
  obtain ⟨claim', hclaim', -, room, wrote⟩ := transition_eq_ok h payment unreversed
  obtain rfl : claim' = claim := Option.some.inj (hclaim'.symm.trans (claims.trans hclaim))
  exact .of_wrote staged wrote payment (hplan ▸ rfl) (hclaim ▸ rfl) (step room)

theorem Stepped.of_rewrite (staged : Staged p c c₁) (hfile : c₁.file p = f)
    (h : c₁.rewrite plan next claim evidenceHash occurredAt e = .ok c') (key : plan.paymentID = p)
    (payment : next.paymentID = plan.paymentID) (hplan : (c.file p).plan = some plan)
    (hclaim : (c.file p).claim = some claim) (claims : f.claim = (c.file p).claim) (unreversed : f.reversed = false)
    (step : 0 < next.version → File.Step p call (c.file p) (f.moved next claim)) : Stepped call p c c' := by
  subst key hfile
  obtain ⟨room, wrote⟩ := rewrite_eq_ok h payment unreversed (claims.trans hclaim)
  exact .of_wrote staged wrote payment (hplan ▸ rfl) (hclaim ▸ rfl) (step room)

omit [Encoding] in
theorem map_fst_eq_ok {ε α β : Type} {x : Except ε (α × β)} {a : α} (h : x.map Prod.fst = .ok a) :
    ∃ b, x = .ok (a, b) := by
  cases x with
  | error => cases h
  | ok y =>
    cases h
    exact ⟨y.2, rfl⟩

variable (inv : c.Inv)

include inv

theorem Inv.now {plan : Plan} (hplan : (c.file p).plan = some plan) :
    plan.paymentID = p ∧ ∃ claim, (c.file p).claim = some claim ∧ File.Planned p (c.file p) plan claim := by
  obtain ⟨claim, hclaim, planned⟩ := (inv.files p).planned plan hplan
  exact ⟨planned.key, claim, hclaim, planned⟩

theorem submit_stepped {r : SubmissionRequest} (h : c.submit r = .ok (c', result)) :
    c' = c ∨ Stepped (.submit r) r.paymentID c c' := by
  simp only [submit, block_eq_ok] at h
  obtain ⟨valid, plan, hnamed, h⟩ := h
  obtain ⟨hplan, -, -⟩ := named_eq_ok hnamed
  obtain ⟨key, claim, hclaim, planned⟩ := inv.now hplan
  split at h
  · exact .inl (congrArg Prod.fst (pure_eq_ok.mp h)).symm
  · simp only [block_eq_ok, Prod.mk.injEq] at h
    obtain ⟨⟨state, -, -, hchain, hgateway, -⟩, c₂, htransition, rfl, -⟩ := h
    exact .inr (.of_transition (.refl _ _) rfl htransition key rfl hplan hclaim rfl
      (planned.unreversed (by simp [state])) fun room =>
        .submitted rfl ⟨hplan, hclaim, room⟩ state valid ⟨hchain, hgateway⟩)

theorem fail_stepped {r : FailureRequest} (h : c.fail r = .ok (c', result)) :
    c' = c ∨ Stepped (.fail r) r.paymentID c c' := by
  simp only [fail, block_eq_ok, orRevert_eq_ok] at h
  obtain ⟨failure, hproof, -, plan, hnamed, h⟩ := h
  obtain ⟨hplan, -, -⟩ := named_eq_ok hnamed
  obtain ⟨key, claim, hclaim, planned⟩ := inv.now hplan
  split at h
  · exact .inl (congrArg Prod.fst (pure_eq_ok.mp h)).symm
  · simp only [block_eq_ok, orRevert_eq_ok, Prod.mk.injEq] at h
    obtain ⟨⟨-, state, htransaction, -⟩, -, -, -, c₂, htransition, rfl, -⟩ := h
    exact .inr (.of_transition (.refl _ _) rfl htransition key rfl hplan hclaim rfl
      (planned.unreversed (by simp [state])) fun room =>
        .failed rfl ⟨hplan, hclaim, room⟩ state hproof htransaction)

theorem retry_stepped {r : RetryRequest} (h : c.retry r = .ok (c', result)) : Stepped (.retry r) r.paymentID c c' := by
  simp only [retry, block_eq_ok, Prod.mk.injEq] at h
  obtain ⟨-, plan, hnamed, ⟨state, -, hreversed⟩, c₂, htransition, rfl, -⟩ := h
  obtain ⟨hplan, -, -⟩ := named_eq_ok hnamed
  obtain ⟨key, claim, hclaim, -⟩ := inv.now hplan
  have unreversed : (c.file r.paymentID).reversed = false := decide_eq_false (key ▸ hreversed)
  exact .of_transition (.refl _ _) rfl htransition key rfl hplan hclaim rfl unreversed fun room =>
    .retried rfl ⟨hplan, hclaim, room⟩ state unreversed

/-! ### Confirmations -/

section

variable (c plan) (event : Indexer.CanonicalSettlement) (proof : Indexer.FinalityProof)

omit [Encoding] inv

theorem file_withConfirmation (q : String) : (c.withConfirmation plan event proof none).file q =
    if q = plan.paymentID then { c.file q with confirmation := some (confirmationOf plan event proof false) }
    else c.file q := by
  simp only [file, withConfirmation, Table.lookup_insert_apply]
  split <;> rfl

theorem file_withConfirmation_some (quarantine : PendingReversalSnapshot) (q : String) :
    (c.withConfirmation plan event proof (some quarantine)).file q =
      if q = plan.paymentID then { c.file q with
        confirmation := some (confirmationOf plan event proof true)
        pending := none
        consumed := some (consumedOf quarantine event proof) }
      else c.file q := by
  simp only [file, withConfirmation, Table.lookup_insert_apply, Table.lookup_erase_apply]
  split <;> rfl

theorem staged_withConfirmation (pending : Option PendingReversalSnapshot) :
    Staged plan.paymentID c (c.withConfirmation plan event proof pending) := by
  cases pending with
  | none => exact ⟨fun q hq => (file_withConfirmation c plan event proof q).trans (if_neg hq), rfl, rfl, rfl, rfl⟩
  | some quarantine =>
    exact ⟨fun q hq => (file_withConfirmation_some c plan event proof quarantine q).trans (if_neg hq), rfl, rfl, rfl, rfl⟩

end

theorem confirm_stepped {r : ConfirmationRequest} {result : AccountingProjection} (h : c.confirm r = .ok (c', result)) :
    c' = c ∨ Stepped (.confirm r) r.paymentID c c' := by
  simp only [confirm, block_eq_ok] at h
  obtain ⟨-, plan, hnamed, h⟩ := h
  obtain ⟨hplan, -, -⟩ := named_eq_ok hnamed
  obtain ⟨key, claim, hclaim, planned⟩ := inv.now hplan
  rw [← key] at hplan hclaim planned ⊢
  split at h
  · simp only [block_eq_ok, Prod.mk.injEq] at h
    exact .inl h.2.1.symm
  · simp only [block_eq_ok, orRevert_eq_ok] at h
    obtain ⟨⟨-, hevent, hquarantined⟩, claim', hclaim', ⟨-, -, hstate⟩, h⟩ := h
    obtain rfl : claim' = claim := Option.some.inj (hclaim'.symm.trans hclaim)
    split at h
    · next hsubmitted =>
      rw [hsubmitted] at hstate
      have state : plan.state = .submitted := (Option.some.inj hstate).symm
      simp only [bind_eq_ok, pure_eq_ok, Prod.mk.injEq] at h
      obtain ⟨c₂, htransition, rfl, -⟩ := h
      exact .inr (.of_transition (staged_withConfirmation ..) ((file_withConfirmation ..).trans (if_pos rfl)) htransition
        rfl rfl hplan hclaim rfl (planned.unreversed (by simp [state])) fun room =>
          .confirmed key.symm ⟨hplan, hclaim, room⟩ state hevent)
    · next hquarantine =>
      rw [hquarantine] at hstate
      have state : plan.state = .quarantined := (Option.some.inj hstate).symm
      simp only [bind_eq_ok, orRevert_eq_ok, pure_eq_ok, Prod.mk.injEq] at h
      obtain ⟨quarantine, hpending, c₂, htransition, rfl, -⟩ := h
      obtain ⟨quarantine', hpending', submitted⟩ := hquarantined state
      obtain rfl : quarantine' = quarantine := Option.some.inj (hpending'.symm.trans hpending)
      exact .inr (.of_transition (staged_withConfirmation ..) ((file_withConfirmation_some ..).trans (if_pos rfl))
        htransition rfl rfl hplan hclaim rfl (planned.unreversed (by simp [state])) fun room =>
          .contradicted key.symm ⟨hplan, hclaim, room⟩ state hevent hpending submitted)
    · cases h

/-! ### Reorganisations -/

section

variable (c plan) (e : SettlementReorg)

omit [Encoding] inv

theorem file_record (q : String) :
    { c with reorgs := c.reorgs ++ [reorgEvidenceOf plan e] }.file q =
      if q = plan.paymentID then { c.file q with reorgs := (c.file q).reorgs ++ [reorgEvidenceOf plan e] }
      else c.file q := by
  simp only [file, List.filter_append]
  split
  · next hq => simp [hq, reorgEvidenceOf]
  · next hq => simp [reorgEvidenceOf, Ne.symm hq]

theorem staged_record : Staged plan.paymentID c { c with reorgs := c.reorgs ++ [reorgEvidenceOf plan e] } :=
  ⟨fun q hq => (file_record c plan e q).trans (if_neg hq), rfl, rfl, rfl, rfl⟩

end

section

variable {v : Nat} {e : SettlementReorg} {plan : Plan} (key : e.paymentID = plan.paymentID)
  (planned : File.Planned plan.paymentID (c.file plan.paymentID) plan claim)
  (hplan : (c.file plan.paymentID).plan = some plan) (hclaim : (c.file plan.paymentID).claim = some claim)
  (concerns : File.Concerns plan e)

omit inv
include key planned hplan hclaim concerns

/-- A plan that is submitted or in quarantine when the reorganisation is recorded. -/
theorem reorgSubmitted_stepped (hstate : plan.state = .submitted ∨ plan.state = .quarantined)
    (h : { c with reorgs := c.reorgs ++ [reorgEvidenceOf plan e] }.reorgSubmitted plan claim e = .ok c') :
    Stepped (.recordReorg v e) plan.paymentID c c' := by
  simp only [reorgSubmitted, block_eq_ok] at h
  obtain ⟨fails, h⟩ := h
  have hfile := (file_record c plan e plan.paymentID).trans (if_pos rfl)
  rcases hstate with state | state
  · have hsubmitted : claim.state = .submitted := planned.claim_state state
    have hplan' : { plan with state := .submitted } = plan := by rw [← state]
    rw [if_neg (by simp [hsubmitted]), hplan'] at h
    exact .of_transition (staged_record ..) hfile h rfl rfl hplan hclaim rfl (planned.unreversed (by simp [state]))
      fun room => .reorgFailed key ⟨hplan, hclaim, room⟩ state concerns fails
  · have hquarantined : claim.state = .quarantined := planned.claim_state state
    have hplan' : { plan with state := .quarantined } = plan := by rw [← state]
    have hclaim' : { claim with state := .quarantined } = claim := by rw [← hquarantined]
    rw [if_pos hquarantined, hplan'] at h
    refine .of_rewrite (staged_record ..) hfile h rfl rfl hplan hclaim rfl (planned.unreversed (by simp [state]))
      fun room => ?_
    have step := File.Step.reorgQuarantined (v := v) key ⟨hplan, hclaim, room⟩ state concerns fails
    rwa [hclaim'] at step

theorem reorgConfirmed_stepped (hstate : plan.state = .confirmed ∨ plan.state = .incident)
    (h : { c with reorgs := c.reorgs ++ [reorgEvidenceOf plan e] }.reorgConfirmed plan claim e = .ok c') :
    Stepped (.recordReorg v e) plan.paymentID c c' := by
  simp only [reorgConfirmed, block_eq_ok, orRevert_eq_ok] at h
  obtain ⟨k, hk, contradicts, h⟩ := h
  have hfile := (file_record c plan e plan.paymentID).trans (if_pos rfl)
  have unreversed := planned.unreversed (by rcases hstate with state | state <;> simp [state])
  rcases id hstate with state | state
  · have hconfirmed : claim.state = .confirmed := planned.claim_state state
    have hplan' : { plan with state := .confirmed } = plan := by rw [← state]
    rw [if_pos hconfirmed, hplan'] at h
    exact .of_transition (staged_record ..) hfile h rfl rfl hplan hclaim rfl unreversed
      fun room => .reorgIncident key ⟨hplan, hclaim, room⟩ concerns hstate hk contradicts
  · have hincident : claim.state = .incident := planned.claim_state state
    have hplan' : { plan with state := .incident } = plan := by rw [← state]
    have hclaim' : { claim with state := .incident } = claim := by rw [← hincident]
    rw [if_neg (by simp [hincident]), hplan'] at h
    simp only [block_eq_ok] at h
    refine .of_rewrite (staged_record ..) hfile h.2 rfl rfl hplan hclaim rfl unreversed fun room => ?_
    have step := File.Step.reorgIncident (v := v) key ⟨hplan, hclaim, room⟩ concerns hstate hk contradicts
    rwa [hclaim'] at step

end

theorem recordReorg_stepped {v : Nat} {e : SettlementReorg} {result : ReorgEvidence}
    (h : c.recordReorg v e = .ok (c', result)) : c' = c ∨ Stepped (.recordReorg v e) e.paymentID c c' := by
  simp only [recordReorg, block_eq_ok] at h
  obtain ⟨⟨-, present⟩, plan, hnamed, hpolicy, h⟩ := h
  obtain ⟨hplan, hallocation, hdigest⟩ := named_eq_ok hnamed
  obtain ⟨key, claim, hclaim, planned⟩ := inv.now hplan
  have concerns : File.Concerns plan e := ⟨present, hallocation.symm, hdigest.symm, hpolicy⟩
  rw [← key] at hplan hclaim planned ⊢
  split at h
  · simp only [block_eq_ok, Prod.mk.injEq] at h
    exact .inl h.2.1.symm
  · simp only [block_eq_ok, orRevert_eq_ok] at h
    obtain ⟨-, claim', hclaim', h⟩ := h
    obtain rfl : claim' = claim := Option.some.inj (hclaim'.symm.trans hclaim)
    split at h
    case h_5 => cases h
    all_goals
      simp only [bind_eq_ok, pure_eq_ok, Prod.mk.injEq] at h
      obtain ⟨c₂, h, rfl, -⟩ := h
    · exact .inr (reorgSubmitted_stepped key.symm planned hplan hclaim concerns (.inl ‹_›) h)
    · exact .inr (reorgSubmitted_stepped key.symm planned hplan hclaim concerns (.inr ‹_›) h)
    · exact .inr (reorgConfirmed_stepped key.symm planned hplan hclaim concerns (.inl ‹_›) h)
    · exact .inr (reorgConfirmed_stepped key.symm planned hplan hclaim concerns (.inr ‹_›) h)

/-! ### Claims -/

theorem Inv.unwritten (free : c.modes.byPayment.lookup p = none) : c.modes.claims.lookup p = none := by
  have hwritten := (inv.files p).written
  rwa [show (c.file p).claim = none from free, Option.map_none] at hwritten

section

omit [Encoding] inv

theorem file_prepared (c : Coordinator) (plan : Plan) (claim : Claim) (record : StoredCoordinator)
    (index : Table String String) (payment : claim.paymentID = plan.paymentID) (q : String) :
    { c.publish plan (c.modes.register claim)
        { c.store with records := c.store.records.insert plan.paymentID record } with byAllocation := index }.file q =
      if q = plan.paymentID then
        { c.file q with plan := some plan, claim := some claim, written := some claim, record := some record }
      else c.file q := by
  simp only [file, publish, Registry.register, payment, Table.lookup_insert_apply]
  split <;> rfl

theorem lookup_insert_free {t : Table String String} {a p : String} (free : t.lookup a = none) {b q : String} :
    (t.insert a p).lookup b = some q ↔ t.lookup b = some q ∨ q = p ∧ a = b := by
  rw [Table.lookup_insert_apply]
  split
  · next hb =>
    subst hb
    simp [free, eq_comm]
  · next hb => simp [Ne.symm hb]

end

theorem claimMode_stepped {paymentID allocationID digest : String} {version : Nat} {claimedAt : Time}
    {modes : Registry} {result : Claim × Bool}
    (h : c.modes.claimMode paymentID allocationID .syntheticProjection digest version evidenceHash claimedAt =
      .ok (modes, result)) : { c with modes := modes } = c ∨
      Stepped (.claimMode paymentID allocationID digest version evidenceHash claimedAt) paymentID c
        { c with modes := modes } := by
  obtain rfl | ⟨free, hreversed, howner, claim, rfl, rfl, rfl, rfl, rfl, rfl, mode, valid, rfl⟩ :=
    Registry.claimMode_eq_ok inv.unwritten h
  · exact .inl rfl
  -- an owner of the allocation would be the payment itself, which has no claim
  have unowned : c.modes.byAllocation.lookup claim.allocationID = none := by
    rw [Option.eq_none_iff_forall_ne_some]
    intro owner hlookup
    obtain ⟨claim', hclaim, -⟩ := inv.claims.mp hlookup
    rw [howner owner hlookup, free] at hclaim
    cases hclaim
  have hfile (q : String) : { c with modes := c.modes.register claim }.file q =
      if q = claim.paymentID then { c.file q with claim := some claim, written := some claim } else c.file q := by
    simp only [file, Registry.register, Table.lookup_insert_apply]
    split <;> rfl
  have hself := (hfile claim.paymentID).trans (if_pos rfl)
  have unplanned := (inv.files claim.paymentID).unplanned free
  refine .inr ⟨?_, ?_, ?_, ?_, .inl ⟨rfl, rfl⟩⟩
  · exact hself ▸ .claimed rfl free (decide_eq_false hreversed) valid mode
  · exact fun q hq => (hfile q).trans (if_neg hq)
  · intro a q
    rw [hself, Registry.register, lookup_insert_free unowned]
    simp [show (c.file claim.paymentID).claim = none from free]
  · intro a q
    rw [hself]
    simp [unplanned]

theorem prepare_stepped {r : PrepareRequest} (h : c.prepare r = .ok (c', result)) :
    c' = c ∨ Stepped (.prepare r) r.paymentID c c' := by
  simp only [prepare, block_eq_ok, orRevert_eq_ok] at h
  obtain ⟨⟨valid, allocation⟩, digest, hdigest, h⟩ := h
  split at h
  · simp only [block_eq_ok, Prod.mk.injEq] at h
    exact .inl h.2.2.2.1.symm
  · next unplanned =>
    simp only [block_eq_ok, joinError_eq_ok, Prod.exists, Prod.mk.injEq] at h
    obtain ⟨howner, modes, claim, store, hclaimed, -, hc', -⟩ := h
    obtain ⟨free, hreversed, unowned, rfl, durable, hcommit, rfl⟩ :=
      Registry.claimModeWithCommit_eq_ok inv.unwritten hclaimed
    have unreversed : (c.file r.paymentID).reversed = false := decide_eq_false hreversed
    obtain ⟨-, -, -, -, unrecorded⟩ := (inv.files r.paymentID).blank unplanned
    have unplannedAllocation : c.byAllocation.lookup r.allocationID = none := by
      rw [Option.eq_none_iff_forall_ne_some]
      intro owner hlookup
      obtain ⟨plan, hplan, -⟩ := inv.plans.mp hlookup
      rw [howner owner hlookup, unplanned] at hplan
      cases hplan
    simp only [createDurable, bind_eq_ok] at hcommit
    obtain ⟨record, hrecord, hcreate⟩ := hcommit
    obtain ⟨-, -, rfl⟩ := durableRecord_eq_ok hrecord unreversed
    obtain rfl := MemoryStore.create_eq_ok (by exact unrecorded) hcreate
    have hfile := hc' ▸ file_prepared c (planOf r digest) (File.preparedClaim r digest)
      ((c.file r.paymentID).stored (planOf r digest) (File.preparedClaim r digest))
      (c.byAllocation.insert r.allocationID r.paymentID) rfl
    have hself := (hfile r.paymentID).trans (if_pos rfl)
    have hmodes : c'.modes.byAllocation = c.modes.byAllocation.insert r.allocationID r.paymentID := hc' ▸ rfl
    have hindex : c'.byAllocation = c.byAllocation.insert r.allocationID r.paymentID := hc' ▸ rfl
    refine .inr ⟨?_, fun q hq => (hfile q).trans (if_neg hq), ?_, ?_, .inl (hc' ▸ ⟨rfl, rfl⟩)⟩
    · exact hself ▸ .prepared rfl free unplanned unreversed valid allocation hdigest durable
    · intro a q
      rw [hmodes, hself, lookup_insert_free unowned]
      simp [show (c.file r.paymentID).claim = none from free, File.preparedClaim]
    · intro a q
      rw [hindex, hself, lookup_insert_free unplannedAllocation]
      simp [show (c.file r.paymentID).plan = none from unplanned, planOf]

end

end Coordinator

end Unified.Settlement
