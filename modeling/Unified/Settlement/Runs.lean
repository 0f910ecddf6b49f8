import Unified.Indexer.Replay
import Unified.Settlement.Steps

/-! Reversals as steps, and the invariant of every run: an accepted call keeps it. -/

namespace Unified.Settlement

open Indexer (Time)

namespace Coordinator

variable {c c' : Coordinator} {plan next : Plan} {claim : Claim} {p : String} {record : StoredCoordinator}

/-! ### Reversals -/

theorem durableRecordWith_eq_ok {tombstoned : Bool} {pending : Option PendingReversalSnapshot}
    (h : c.durableRecordWith plan claim tombstoned pending = .ok record) :
    record = { c.file plan.paymentID with reversed := tombstoned, pending := pending }.stored plan claim := by
  simp only [durableRecordWith, block_eq_ok] at h
  exact h.2.symm

/-- A tombstone is written once, and a second one is the same. -/
theorem createTombstone_eq_ok {s s' : MemoryStore} {t : StoredTombstone} (h : s.createTombstone t = .ok s') :
    s'.records = s.records ∧ s'.resolutions = s.resolutions ∧
      ∀ q, s'.tombstones.lookup q = if q = t.paymentID then some t else s.tombstones.lookup q := by
  simp only [MemoryStore.createTombstone, block_eq_ok] at h
  obtain ⟨-, h⟩ := h
  split at h
  · next existing hexisting =>
    simp only [block_eq_ok] at h
    obtain ⟨rfl, rfl⟩ := h
    refine ⟨rfl, rfl, fun q => ?_⟩
    split
    · next hq => rw [hq, hexisting]
    · rfl
  · cases h
    exact ⟨rfl, rfl, fun q => Table.lookup_insert_apply ..⟩

/-- The parts of a coordinator that the handling of a reversal of payment `p` replaces. -/
structure Handled (p : String) (c c' : Coordinator) (next : Plan) (claim : Claim) (record : StoredCoordinator) :
    Prop where
  plans : c'.plans = c.plans.insert p next
  claims : c'.modes.byPayment = c.modes.byPayment.insert p claim
  written : c'.modes.claims = c.modes.claims
  reversed : ∀ q, q ≠ p → (q ∈ c'.modes.reversed ↔ q ∈ c.modes.reversed)
  confirmations : c'.confirmations = c.confirmations
  reorgs : c'.reorgs = c.reorgs
  consumed : c'.consumed = c.consumed
  pending : ∀ q, q ≠ p → c'.pending.lookup q = c.pending.lookup q
  records : c'.store.records = c.store.records.insert p record
  tombstones : ∀ q, q ≠ p → c'.store.tombstones.lookup q = c.store.tombstones.lookup q
  claimIndex : c'.modes.byAllocation = c.modes.byAllocation
  planIndex : c'.byAllocation = c.byAllocation

theorem Handled.file (h : Handled p c c' next claim record) {f : File} (hf : f = { c.file p with
      reversed := (c'.file p).reversed, pending := (c'.file p).pending, tombstone := (c'.file p).tombstone })
    (hrecord : record = f.stored next claim) : c'.file p = f.moved next claim := by
  have hself : c'.file p = { f with plan := some next, claim := some claim, record := some record } := by
    subst hf
    simp only [Coordinator.file, h.plans, h.claims, h.written, h.confirmations, h.reorgs, h.consumed, h.records,
      Table.lookup_insert_apply, if_true]
  rw [hself, hrecord]
  rfl

theorem Handled.others (h : Handled p c c' next claim record) (q : String) (hq : q ≠ p) : c'.file q = c.file q := by
  simp only [Coordinator.file, h.plans, h.claims, h.written, h.confirmations, h.reorgs, h.consumed, h.records,
    Table.lookup_insert_apply, hq, if_false, h.reversed q hq, h.pending q hq, h.tombstones q hq]

/-- What an accepted reversal finds: a plan in quarantine that has this reversal already, no plan at all, a plan that it
    puts in quarantine, or a confirmed plan that it contradicts for the first time or again. -/
inductive Disposed (r : CanonicalReversalRecord) (commit : Except Errors Unit) (c : Coordinator) :
    Coordinator → Option Claim → ReversalDisposition → Prop
  | replayed {plan : Plan} {pending : PendingReversalSnapshot} {claim : Claim}
      (hplan : c.plans.lookup r.paymentID = some plan) (state : plan.state = .quarantined)
      (hpending : c.pending.lookup r.paymentID = some pending) (hclaim : c.modes.lookup r.paymentID = some claim)
      (hmatches : ClaimMatchesPlan claim plan) (same : SamePendingReversal pending r) :
      Disposed r commit c c (some claim) .quarantined
  | posted {store : MemoryStore} {claim : Option Claim} {disposition : ReversalDisposition} (hcommit : commit = .ok ())
      (hstore : c.store.createTombstone (unclaimedTombstone r) = .ok store)
      (unclaimed : ∀ claim ∈ c.modes.lookup r.paymentID, claim.mode = .syntheticProjection)
      (unplanned : (c.file r.paymentID).plan = none) (posts : disposition = .unclaimed ∨ disposition = .synthetic) :
      Disposed r commit c
        { c with modes := { c.modes with reversed := insert r.paymentID c.modes.reversed }, store := store } claim disposition
  | quarantined {claim : Claim} {c₁ : Coordinator} (hclaim : c.modes.lookup r.paymentID = some claim)
      (hquarantine : c.quarantine r claim = .ok c₁) :
      Disposed r commit c { c₁ with
        modes := { c.modes with byPayment := c.modes.byPayment.insert r.paymentID { claim with state := .quarantined } } }
        (some { claim with state := .quarantined }) .quarantined
  | contradicted {claim : Claim} {c₁ : Coordinator} (hclaim : c.modes.lookup r.paymentID = some claim)
      (hincident : c.reversalIncident r claim = .ok c₁) :
      Disposed r commit c { c₁ with
        modes := { c.modes with byPayment := c.modes.byPayment.insert r.paymentID { claim with state := .incident } } }
        (some { claim with state := .incident }) .incident
  | repeated {claim : Claim} (hclaim : c.modes.lookup r.paymentID = some claim) (mode : claim.mode = .canonicalGateway)
      (state : claim.state = .incident) :
      Disposed r commit c c (some claim) .incident

section

variable [Encoding] {r : CanonicalReversalRecord} {commit : Except Errors Unit} {call : Call}

theorem tombstoned_stepped {store : MemoryStore} (valid : ValidReversalRecord r)
    (unplanned : (c.file r.paymentID).plan = none) (h : c.store.createTombstone (unclaimedTombstone r) = .ok store) :
    Stepped (.handleProviderReversal r commit) r.paymentID c
      { c with modes := { c.modes with reversed := insert r.paymentID c.modes.reversed }, store := store } := by
  obtain ⟨hrecords, hresolutions, htombstones⟩ := createTombstone_eq_ok h
  have hfile : ∀ q, { c with
      modes := { c.modes with reversed := insert r.paymentID c.modes.reversed }, store := store }.file q =
      if q = r.paymentID then { c.file q with reversed := true, tombstone := some (unclaimedTombstone r) }
      else c.file q := by
    intro q
    simp only [file, hrecords, htombstones, Finset.mem_insert, unclaimedTombstone]
    split
    · next hq => simp [hq]
    · next hq => simp [hq]
  have hself := (hfile r.paymentID).trans (if_pos rfl)
  exact .of_same (hself ▸ .tombstoned rfl unplanned valid rfl) (fun q hq => (hfile q).trans (if_neg hq)) rfl rfl id id
    (.inl ⟨rfl, hresolutions⟩)

theorem Handled.stepped {record : StoredCoordinator} {claim' : Claim} (handled : Handled p c c' next claim' record)
    (hplan : (c.file p).plan = some plan) (hclaim : (c.file p).claim = some claim)
    (step : File.Step p call (c.file p) (c'.file p))
    (resolutions : c'.resolutions = c.resolutions ∧ c'.store.resolutions = c.store.resolutions ∨
      ∃ stored, c'.resolutions = c.resolutions.insert stored.resolution.pending.quarantineID stored ∧
        c'.store.resolutions = c.store.resolutions.insert stored.resolution.pending.quarantineID stored ∧
        ValidStoredReversalResolution stored ∧ stored.resolution.pending.paymentID = p ∧ (c'.file p).reversed = true ∧
        (c'.file p).plan.isSome) :
    Stepped call p c c' := by
  refine .of_same step handled.others handled.claimIndex handled.planIndex ?_ ?_ resolutions
  · intro free
    rw [hclaim] at free
    cases free
  · intro free
    rw [hplan] at free
    cases free

variable (inv : c.Inv) {c₁ : Coordinator} {disposition : ReversalDisposition}

include inv

theorem quarantine_stepped (hclaim : (c.file r.paymentID).claim = some claim) (h : c.quarantine r claim = .ok c₁)
    (hc' : c' = { c₁ with
      modes := { c.modes with byPayment := c.modes.byPayment.insert r.paymentID { claim with state := .quarantined } } }) :
    Stepped (.handleProviderReversal r commit) r.paymentID c c' := by
  simp only [quarantine, block_eq_ok, orRevert_eq_ok] at h
  obtain ⟨plan, hplan, ⟨hstate, -⟩, record, hrecord, store, hstore, rfl⟩ := h
  obtain ⟨key, claim', hclaim', planned⟩ := inv.now hplan
  obtain rfl : claim' = claim := Option.some.inj (hclaim'.symm.trans hclaim)
  simp only [MemoryStore.quarantinePendingReversal, block_eq_ok] at hstore
  obtain ⟨⟨⟨-, -, -, -, room⟩, valid, -⟩, ⟨current, hcurrent, -, -, -, -, -, hreversed, -⟩, -, rfl⟩ := hstore
  have hrecord := durableRecordWith_eq_ok hrecord
  have hkey : record.paymentID = r.paymentID := by rw [hrecord]; exact key
  obtain rfl : (c.file r.paymentID).stored plan claim' = current :=
    Option.some.inj (planned.record.symm.trans (hkey ▸ hcurrent))
  have unreversed : (c.file r.paymentID).reversed = false := hreversed
  have handled : Handled r.paymentID c c' (plan.advanceFor .quarantined "PROVIDER_REVERSAL_PENDING")
      { claim' with state := .quarantined } record := by
    subst hc'
    exact ⟨congrArg (c.plans.insert · _) key, rfl, rfl, fun _ _ => .rfl, rfl, rfl, rfl,
      fun q hq => (Table.lookup_insert_apply ..).trans (if_neg hq), congrArg (c.store.records.insert · _) hkey,
      fun _ _ => rfl, rfl, rfl⟩
  have hfile : c'.file r.paymentID = { c.file r.paymentID with
      pending := some (pendingSnapshot r plan plan.state) }.moved
        (plan.advanceFor .quarantined "PROVIDER_REVERSAL_PENDING") { claim' with state := .quarantined } := by
    refine handled.file ?_ ?_
    · subst hc'
      simp only [file, publish, Table.lookup_insert_apply, if_true]
      rfl
    · rw [hrecord, ← unreversed, ← key]
      rfl
  have room : 0 < bump plan.version := by rw [hrecord] at room; exact room
  refine handled.stepped hplan hclaim (hfile ▸ .quarantined rfl ⟨hplan, hclaim, room⟩ hstate unreversed valid) (.inl ?_)
  subst hc'
  exact ⟨rfl, rfl⟩

theorem reversalIncident_stepped (hclaim : (c.file r.paymentID).claim = some claim)
    (h : c.reversalIncident r claim = .ok c₁) (hc' : c' = { c₁ with
      modes := { c.modes with byPayment := c.modes.byPayment.insert r.paymentID { claim with state := .incident } } }) :
    Stepped (.handleProviderReversal r commit) r.paymentID c c' := by
  simp only [reversalIncident, block_eq_ok, orRevert_eq_ok] at h
  obtain ⟨plan, hplan, ⟨hstate, -⟩, record, hrecord, store, hstore, rfl⟩ := h
  obtain ⟨key, claim', hclaim', planned⟩ := inv.now hplan
  obtain rfl : claim' = claim := Option.some.inj (hclaim'.symm.trans hclaim)
  simp only [MemoryStore.compareAndSwap, block_eq_ok] at hstore
  obtain ⟨⟨⟨-, -, -, -, room⟩, -⟩, -, rfl⟩ := hstore
  have hrecord := durableRecordWith_eq_ok hrecord
  have hkey : record.paymentID = r.paymentID := by rw [hrecord]; exact key
  have unreversed : (c.file r.paymentID).reversed = false := planned.unreversed (by simp [hstate])
  have unquarantined : (c.file r.paymentID).pending = none := planned.unquarantined (by simp [hstate])
  have handled : Handled r.paymentID c c' (plan.advanceFor .incident "PROVIDER_REVERSAL_AFTER_CONFIRMATION")
      { claim' with state := .incident } record := by
    subst hc'
    exact ⟨congrArg (c.plans.insert · _) key, rfl, rfl, fun _ _ => .rfl, rfl, rfl, rfl, fun _ _ => rfl,
      congrArg (c.store.records.insert · _) hkey, fun _ _ => rfl, rfl, rfl⟩
  have hfile : c'.file r.paymentID = (c.file r.paymentID).moved
      (plan.advanceFor .incident "PROVIDER_REVERSAL_AFTER_CONFIRMATION") { claim' with state := .incident } := by
    refine handled.file ?_ ?_
    · subst hc'
      rfl
    · rw [hrecord, ← unreversed, ← unquarantined, ← key]
      rfl
  have room : 0 < bump plan.version := by rw [hrecord] at room; exact room
  refine handled.stepped hplan hclaim (hfile ▸ .reversalIncident rfl ⟨hplan, hclaim, room⟩ hstate) (.inl ?_)
  subst hc'
  exact ⟨rfl, rfl⟩

theorem Inv.unplanned (hclaim : (c.file p).claim = some claim) (mode : claim.mode = .syntheticProjection) :
    (c.file p).plan = none := by
  rw [Option.eq_none_iff_forall_ne_some]
  intro plan hplan
  have planned := (inv.files p).of_plan hplan hclaim
  rw [planned.claimed.1] at mode
  cases mode

theorem handleProviderReversal_disposed {result : Option Claim}
    (h : c.handleProviderReversal r commit = .ok (c', result, disposition)) :
    ValidReversalRecord r ∧ Disposed r commit c c' result disposition := by
  simp only [handleProviderReversal, block_eq_ok] at h
  obtain ⟨valid, h⟩ := h
  refine ⟨valid, ?_⟩
  split at h
  · next plan hplan =>
    simp only [quarantinedReplay, block_eq_ok, orRevert_eq_ok, Prod.mk.injEq] at h
    obtain ⟨_, ⟨pending, hpending, claim, hclaim, ⟨hmatches, same⟩, rfl⟩, rfl, rfl, rfl⟩ := h
    obtain ⟨hplan, state⟩ := Option.filter_eq_some_iff.mp hplan
    exact .replayed hplan (of_decide_eq_true state) hpending hclaim hmatches same
  next hplan =>
  simp only [block_eq_ok, joinError_eq_ok, Prod.exists, Prod.mk.injEq, Registry.handleReversalWithCommit] at h
  obtain ⟨modes, c₁, claim, d, ⟨-, h⟩, rfl, rfl, rfl⟩ := h
  split at h
  · next free =>
    simp only [bind_eq_ok, joinError_eq_ok, pure_eq_ok, Prod.mk.injEq, commitReversal] at h
    obtain ⟨_, ⟨⟨⟩, hcommit, store, hstore, rfl⟩, rfl, rfl, rfl, rfl⟩ := h
    exact .posted hcommit hstore (by simp [Registry.lookup, free]) ((inv.files r.paymentID).unplanned free) (.inl rfl)
  next claim hclaim =>
  split at h
  · next mode =>
    simp only [bind_eq_ok, joinError_eq_ok, pure_eq_ok, Prod.mk.injEq, commitReversal] at h
    obtain ⟨_, ⟨⟨⟩, hcommit, store, hstore, rfl⟩, rfl, rfl, rfl, rfl⟩ := h
    exact .posted hcommit hstore (by simp [Registry.lookup, hclaim, mode]) (inv.unplanned hclaim mode) (.inr rfl)
  next mode =>
  -- the claim is canonical, so there is a plan in the same state
  have mode : claim.mode = .canonicalGateway := by
    cases hmode : claim.mode
    · exact absurd hmode mode
    · rfl
  obtain ⟨plan, hplan'⟩ := Option.isSome_iff_exists.mp ((inv.files r.paymentID).canonical claim hclaim mode)
  have planned := (inv.files r.paymentID).of_plan hplan' hclaim
  split at h
  case h_1 | h_2 | h_3 =>
    simp only [bind_eq_ok, joinError_eq_ok, pure_eq_ok, Prod.mk.injEq, commitReversal] at h
    obtain ⟨c₂, hquarantine, rfl, rfl, rfl, rfl⟩ := h
    exact .quarantined hclaim hquarantine
  case h_4 =>
    simp only [bind_eq_ok, joinError_eq_ok, pure_eq_ok, Prod.mk.injEq, commitReversal] at h
    obtain ⟨c₂, hincident, rfl, rfl, rfl, rfl⟩ := h
    exact .contradicted hclaim hincident
  case h_5 hstate =>
    simp only [pure_eq_ok, Prod.mk.injEq] at h
    obtain ⟨rfl, rfl, rfl, rfl⟩ := h
    exact .repeated hclaim mode hstate
  case h_6 hstate =>
    have state : plan.state = .quarantined := by
      have hsame := planned.sameState
      rw [hstate] at hsame
      exact (Option.some.inj hsame).symm
    have hnone := Option.filter_eq_none_iff.mp hplan plan hplan'
    simp [state] at hnone
  case h_7 hstate =>
    have hsame := planned.sameState
    rw [hstate] at hsame
    cases hsame

theorem Disposed.stepped {result : Option Claim} (valid : ValidReversalRecord r)
    (h : Disposed r commit c c' result disposition) :
    c' = c ∨ Stepped (.handleProviderReversal r commit) r.paymentID c c' := by
  cases h with
  | replayed | repeated => exact .inl rfl
  | posted _ hstore _ unplanned => exact .inr (tombstoned_stepped valid unplanned hstore)
  | quarantined hclaim hquarantine => exact .inr (quarantine_stepped inv hclaim hquarantine rfl)
  | contradicted hclaim hincident => exact .inr (reversalIncident_stepped inv hclaim hincident rfl)

theorem resolveProviderReversal_stepped {localFallback : Except Errors (List String)}
    {result : CanonicalReversalResolution} (h : c.resolveProviderReversal r localFallback = .ok (c', result)) :
    c' = c ∨ Stepped (.resolveProviderReversal r localFallback) r.paymentID c c' := by
  simp only [resolveProviderReversal, block_eq_ok] at h
  obtain ⟨valid, h⟩ := h
  split at h
  · simp only [block_eq_ok, Prod.mk.injEq] at h
    exact .inl h.2.1.symm
  · next unresolved =>
    simp only [block_eq_ok, orRevert_eq_ok, joinError_eq_ok, Prod.exists, Prod.mk.injEq,
      Registry.resolveQuarantinedReversal] at h
    obtain ⟨plan, hplan, pending, hpending, ⟨hstate, -, -, same, -⟩, claim, hclaim, -, evidence, hproof, record, hrecord,
      modes, store, journalIDs, ⟨existing, hexisting, -, _, _, hstore, rfl, rfl, rfl⟩, hc', -⟩ := h
    obtain ⟨key, claim', hclaim', planned⟩ := inv.now hplan
    obtain rfl : claim' = claim := Option.some.inj (hclaim'.symm.trans hclaim)
    have claimKey : claim'.paymentID = r.paymentID := planned.claimed.2.1.trans key
    obtain rfl : claim' = existing := Option.some.inj (hclaim'.symm.trans (claimKey ▸ hexisting))
    -- the store has the same resolutions, so it does not answer from an old one
    have hquarantine : (resolutionOf pending r evidence).pending.quarantineID = r.quarantineID :=
      congrArg CallbackFields.quarantineID same
    have unresolved : c.store.resolutions.lookup (resolutionOf pending r evidence).pending.quarantineID = none := by
      rw [inv.resolutions, hquarantine, unresolved]
    simp only [MemoryStore.resolvePendingReversal, block_eq_ok, unresolved, Prod.mk.injEq] at hstore
    obtain ⟨⟨-, ⟨-, -, -, -, room⟩, -, -, -, -, hresolution⟩, -, -, -, journals, -, hjournals, rfl, rfl⟩ := hstore
    have hrecord := durableRecordWith_eq_ok hrecord
    have hkey : record.paymentID = r.paymentID := by rw [hrecord]; exact key
    have room : 0 < bump plan.version := by rw [hrecord] at room; exact room
    have handled : Handled r.paymentID c c' (plan.advanceFor .failed "PROVIDER_REVERSAL_RESOLVED")
        { claim' with state := .failed } record := by
      subst hc'
      refine ⟨congrArg (c.plans.insert · _) key, congrArg (c.modes.byPayment.insert · _) claimKey, rfl, ?_, rfl, rfl, rfl,
        ?_, congrArg (c.store.records.insert · _) hkey, ?_, rfl, rfl⟩
      · intro q hq
        simp [publish, claimKey, hq]
      · exact fun q hq => (Table.lookup_erase_apply ..).trans (if_neg hq)
      · exact fun q hq => (Table.lookup_insert_apply ..).trans (if_neg (hkey ▸ hq))
    have hfile : c'.file r.paymentID = { c.file r.paymentID with
        pending := none
        reversed := true
        tombstone := some (MemoryStore.tombstoneOf record (resolutionOf pending r evidence)) }.moved
          (plan.advanceFor .failed "PROVIDER_REVERSAL_RESOLVED") { claim' with state := .failed } := by
      refine handled.file ?_ ?_
      · subst hc'
        simp [file, publish, Table.lookup_insert_apply, claimKey, hkey]
      · rw [hrecord, ← key]
        rfl
    refine .inr (handled.stepped hplan hclaim
      (hfile ▸ .resolved rfl ⟨hplan, hclaim, room⟩ hstate hpending hproof hkey) (.inr
        ⟨⟨resolutionOf pending r evidence, journals⟩, ?_, ?_, ⟨hresolution, hjournals⟩, ?_, ?_, ?_⟩))
    · subst hc'
      exact congrArg (c.resolutions.insert · _) hquarantine.symm
    · subst hc'
      rfl
    · exact (planned.quarantines pending hpending).2.1.trans key
    · rw [hfile]
      rfl
    · rw [hfile]
      rfl

omit inv in
theorem stepped_of_fst {α : Type} {x : Except Errors (Coordinator × α)}
    (hs : ∀ {result}, x = .ok (c', result) → c' = c ∨ Stepped call p c c') (h : x.map Prod.fst = .ok c') :
    c' = c ∨ ∃ p, Stepped call p c c' := by
  obtain ⟨result, h⟩ := map_fst_eq_ok h
  exact (hs h).imp_right fun step => ⟨p, step⟩

theorem exec_stepped (h : call.exec c = .ok c') : c' = c ∨ ∃ p, Stepped call p c c' := by
  cases call with
  | claimMode =>
    simp only [Call.exec, bind_eq_ok, Prod.exists, pure_eq_ok] at h
    obtain ⟨modes, claim, replayed, h, rfl⟩ := h
    exact (claimMode_stepped inv h).imp_right fun step => ⟨_, step⟩
  | prepare => exact stepped_of_fst (prepare_stepped inv) h
  | submit => exact stepped_of_fst (submit_stepped inv) h
  | confirm => exact stepped_of_fst (confirm_stepped inv) h
  | fail => exact stepped_of_fst (fail_stepped inv) h
  | retry => exact stepped_of_fst (fun h => .inr (retry_stepped inv h)) h
  | recordReorg => exact stepped_of_fst (recordReorg_stepped inv) h
  | handleProviderReversal r =>
    refine stepped_of_fst (p := r.paymentID) (fun h => ?_) h
    obtain ⟨valid, disposed⟩ := handleProviderReversal_disposed inv h
    exact disposed.stepped inv valid
  | resolveProviderReversal => exact stepped_of_fst (resolveProviderReversal_stepped inv) h

end

end Coordinator

namespace File

variable [Encoding] {p : String} {call : Call} {f g : File}

theorem Step.keeps_claim (step : Step p call f g) {claim : Claim} (hclaim : f.claim = some claim) :
    ∃ claim', g.claim = some claim' ∧ claim'.durable = claim.durable := by
  cases step with
  | claimed _ free | prepared _ free =>
    rw [free] at hclaim
    cases hclaim
  | tombstoned => exact ⟨claim, hclaim, rfl⟩
  | submitted _ now | confirmed _ now | contradicted _ now | failed _ now | retried _ now | reorgFailed _ now
  | reorgQuarantined _ now | reorgIncident _ now | quarantined _ now | reversalIncident _ now | resolved _ now =>
    obtain rfl := Option.some.inj (now.claimed.symm.trans hclaim)
    exact ⟨_, rfl, rfl⟩

/-- A plan keeps the terms it was prepared with. -/
theorem Step.keeps_plan (step : Step p call f g) {plan : Plan} (hplan : f.plan = some plan) :
    ∃ plan', g.plan = some plan' ∧ plan'.toTerms = plan.toTerms ∧ plan'.instructionDigest = plan.instructionDigest := by
  cases step with
  | claimed | tombstoned => exact ⟨plan, hplan, rfl, rfl⟩
  | prepared _ _ unplanned =>
    rw [unplanned] at hplan
    cases hplan
  | submitted _ now | confirmed _ now | contradicted _ now | failed _ now | retried _ now | reorgFailed _ now
  | reorgQuarantined _ now | reorgIncident _ now | quarantined _ now | reversalIncident _ now | resolved _ now =>
    obtain rfl := Option.some.inj (now.planned.symm.trans hplan)
    exact ⟨_, rfl, rfl, rfl⟩

/-- A confirmation stays as it was recorded. -/
theorem Step.keeps_confirmation (step : Step p call f g) (ok : Ok p f) {k : AccountingProjection}
    (hk : f.confirmation = some k) : g.confirmation = some k := by
  have unconfirmed {plan : Plan} {claim : Claim} (now : f.Holds plan claim)
      (state : plan.state ≠ .confirmed ∧ plan.state ≠ .incident) : False := by
    cases hk.symm.trans ((ok.of_now now).unconfirmed state)
  cases step with
  | confirmed _ now state | contradicted _ now state => exact (unconfirmed now (by simp [state])).elim
  | _ => exact hk

theorem Step.keeps_reversed (step : Step p call f g) (h : f.reversed = true) : g.reversed = true := by
  cases step <;> first | exact h | rfl

end File

/-! ### Runs -/

/-- The entries of an index after a step that may add the first entry of `p` and keeps the key of an old one. -/
theorem index_step {α : Type} {key : α → String} {before after : String → Option α} {p q a : String}
    (others : ∀ q, q ≠ p → after q = before q)
    (kept : ∀ x, before p = some x → ∃ y, after p = some y ∧ key y = key x) :
    ((∃ x ∈ before q, key x = a) ∨ q = p ∧ before p = none ∧ ∃ x ∈ after p, key x = a) ↔ ∃ x ∈ after q, key x = a := by
  by_cases hq : q = p
  · subst hq
    cases hbefore : before q with
    | none => simp
    | some x =>
      obtain ⟨y, hafter, hkey⟩ := kept x hbefore
      simp [hafter, hkey]
  · simp [hq, others q hq]

namespace Coordinator

variable [Encoding] {c c' : Coordinator} {call : Call} {p : String}

theorem Stepped.inv (h : Stepped call p c c') (inv : c.Inv) : c'.Inv where
  files q := by
    by_cases hq : q = p
    · exact hq ▸ h.step.ok (inv.files p)
    · rw [h.others q hq]
      exact inv.files q
  claims {a q} := by
    rw [h.claims, inv.claims]
    refine index_step (fun q hq => congrArg File.claim (h.others q hq)) ?_
    intro claim hclaim
    obtain ⟨claim', hclaim', same⟩ := h.step.keeps_claim hclaim
    exact ⟨claim', hclaim', (Claim.mk.inj same).2.2.1⟩
  plans {a q} := by
    rw [h.plans, inv.plans]
    refine index_step (fun q hq => congrArg File.plan (h.others q hq)) ?_
    intro plan hplan
    obtain ⟨plan', hplan', terms, -⟩ := h.step.keeps_plan hplan
    exact ⟨plan', hplan', congrArg Terms.allocationID terms⟩
  resolutions := by
    obtain ⟨hmemory, hstore⟩ | ⟨stored, hmemory, hstore, -⟩ := h.resolutions
    · rw [hmemory, hstore, inv.resolutions]
    · rw [hmemory, hstore, inv.resolutions]
  resolved {q stored} hlookup := by
    -- a tombstone stays, so what was resolved before is still resolved
    have old (hlookup : c.resolutions.lookup q = some stored) : stored.resolution.pending.quarantineID = q ∧
        ValidStoredReversalResolution stored ∧ (c'.file stored.resolution.pending.paymentID).reversed = true ∧
          (c'.file stored.resolution.pending.paymentID).plan.isSome := by
      obtain ⟨hq, valid, hreversed, hplan⟩ := inv.resolved hlookup
      refine ⟨hq, valid, ?_⟩
      by_cases hp : stored.resolution.pending.paymentID = p
      · rw [hp] at hreversed hplan ⊢
        obtain ⟨plan, hplan⟩ := Option.isSome_iff_exists.mp hplan
        obtain ⟨plan', hplan', -⟩ := h.step.keeps_plan hplan
        exact ⟨h.step.keeps_reversed hreversed, hplan' ▸ rfl⟩
      · rw [h.others _ hp]
        exact ⟨hreversed, hplan⟩
    obtain ⟨hmemory, -⟩ | ⟨added, hmemory, -, valid, payment, hreversed, hplan⟩ := h.resolutions
    · exact old (hmemory ▸ hlookup)
    · rw [hmemory, Table.lookup_insert_apply] at hlookup
      split at hlookup
      · next hq =>
        cases hlookup
        exact ⟨hq.symm, valid, payment ▸ hreversed, payment ▸ hplan⟩
      · exact old hlookup

theorem inv_empty : empty.Inv where
  files p := by
    refine ⟨rfl, ?_, rfl, ?_, fun _ => ⟨rfl, rfl, rfl, rfl, rfl⟩, ?_, ?_⟩ <;> rintro _ ⟨⟩
  claims := by simp [empty, Registry.empty]
  plans := by simp [empty]
  resolutions := rfl
  resolved h := by cases h

theorem Inv.exec (inv : c.Inv) (h : call.exec c = .ok c') : c'.Inv := by
  obtain rfl | ⟨p, step⟩ := exec_stepped inv h
  · exact inv
  · exact step.inv inv

theorem Disposed.inv {r : CanonicalReversalRecord} {commit : Except Errors Unit} {claim : Option Claim}
    {disposition : ReversalDisposition} (h : Disposed r commit c c' claim disposition) (inv : c.Inv)
    (valid : ValidReversalRecord r) : c'.Inv := by
  rcases h.stepped inv valid with rfl | step
  · exact inv
  · exact step.inv inv

theorem Inv.unconfirmed (inv : c.Inv) (h : (c.file p).reversed = true) : (c.file p).confirmation = none := by
  cases hplan : (c.file p).plan with
  | none => exact ((inv.files p).blank hplan).1
  | some plan =>
    obtain ⟨claim, -, planned⟩ := (inv.files p).planned plan hplan
    exact planned.unconfirmed (by simp [planned.reversed h])

def after (calls : List Call) : Coordinator := runCalls Call.exec empty calls

theorem inv_after (calls : List Call) : (after calls).Inv :=
  runCalls_invariant Inv (fun _ _ _ h inv => inv.exec h) inv_empty calls

/-- No payment is both confirmed and reversed, what is confirmed or reversed stays so, and a plan keeps its terms. -/
theorem settlement_outcome_final (calls later : List Call) (p : String) :
    let f := (after calls).file p
    let g := (after (calls ++ later)).file p
    (f.reversed = true → f.confirmation = none ∧ g.reversed = true ∧ g.confirmation = none) ∧
      (∀ k, f.confirmation = some k → g.confirmation = some k ∧ g.reversed = false) ∧
      ∀ plan, f.plan = some plan → ∃ plan', g.plan = some plan' ∧ plan'.toTerms = plan.toTerms ∧
        plan'.instructionDigest = plan.instructionDigest := by
  intro f g
  have inv := inv_after (calls ++ later)
  have keeps (P : File → Prop) (hstep : ∀ call f g, File.Ok p f → File.Step p call f g → P f → P g) : P f → P g := by
    simp only [g, after, runCalls_append]
    refine runCalls_relation Inv (fun c c' => P (c.file p) → P (c'.file p)) (fun _ => id) (fun _ _ _ h h' => h' ∘ h)
      (fun _ _ _ h inv => inv.exec h) (fun call c c' h inv => ?_) (inv_after calls) later
    obtain rfl | ⟨q, step⟩ := exec_stepped inv h
    · exact id
    · by_cases hq : p = q
      · subst hq
        exact hstep call _ _ (inv.files p) step.step
      · rw [step.others p hq]
        exact id
  refine ⟨fun h => ?_, fun k hk => ?_, fun plan hplan => ?_⟩
  · have hg := keeps (·.reversed = true) (fun _ _ _ _ step => step.keeps_reversed) h
    exact ⟨(inv_after calls).unconfirmed h, hg, inv.unconfirmed hg⟩
  · have hg := keeps (·.confirmation = some k) (fun _ _ _ ok step => step.keeps_confirmation ok) hk
    refine ⟨hg, Bool.eq_false_iff.mpr fun h => ?_⟩
    cases hg.symm.trans (inv.unconfirmed h)
  · refine keeps (fun f => ∃ plan', f.plan = some plan' ∧ plan'.toTerms = plan.toTerms ∧
      plan'.instructionDigest = plan.instructionDigest) ?_ ⟨plan, hplan, rfl, rfl⟩
    rintro call f g - step ⟨_, hplan', hterms, hdigest⟩
    obtain ⟨plan', h, hterms', hdigest'⟩ := step.keeps_plan hplan'
    exact ⟨plan', h, hterms'.trans hterms, hdigest'.trans hdigest⟩

/-- Nothing that was accepted is held in memory only, and as every plan has its claim, reading one changes nothing. -/
theorem coordinator_durable (calls : List Call) (p : String) :
    let c := after calls
    let f := c.file p
    f.record = (do f.stored (← f.plan) (← f.claim)) ∧ f.written = f.claim.map Claim.written ∧
      f.tombstone.isSome = f.reversed ∧ c.store.resolutions = c.resolutions ∧
      c.plan p = (c, f.plan.map fun plan => (plan, some plan.state)) := by
  intro c f
  have ok : File.Ok p f := (inv_after calls).files p
  rw [Coordinator.plan, show c.plans.lookup p = f.plan from rfl]
  cases hplan : f.plan with
  | none => exact ⟨(ok.blank hplan).2.2.2.2, ok.written, ok.tombstone.symm, (inv_after calls).resolutions, rfl⟩
  | some plan =>
    obtain ⟨claim, hclaim, planned⟩ := ok.planned plan hplan
    have hmatch : (c.modes.lookup p).filter (ClaimMatchesPlan · plan) = some claim :=
      Option.filter_eq_some_iff.mpr ⟨hclaim, decide_eq_true planned.claimed⟩
    refine ⟨?_, ok.written, ok.tombstone.symm, (inv_after calls).resolutions, ?_⟩
    · rw [planned.record, Option.mem_def.mp hclaim]
      rfl
    · simp [hmatch, planned.sameState]

end Coordinator

/-- A polynomial in place of both hashes, and an encoding that forgets its value. -/
@[reducible] def polyEncoding : Encoding where
  toCrypto := Indexer.polyCrypto
  sha256 := Indexer.polyCrypto.keccak
  length_sha256 := Indexer.polyCrypto.length_keccak
  marshal _ := []

end Unified.Settlement
