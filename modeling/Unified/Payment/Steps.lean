import Unified.Payment.World

/-! What one call of a run can do: to the reversals that the coordinator reports, and to the orchestrator that
    ingests a callback. -/

namespace Unified.Settlement

open Indexer (Time)

variable {c c' : Coordinator}

namespace Coordinator

/-! ### Reversals that the coordinator reports -/

variable {r : CanonicalReversalRecord} {claim : Claim}

theorem quarantine_eq_ok (h : c.quarantine r claim = .ok c') :
    ∃ plan, c.plans.lookup r.paymentID = some plan ∧ plan.state ≠ .quarantined ∧ ClaimMatchesPlan claim plan ∧
      ValidPendingSnapshot (pendingSnapshot r plan plan.state) ∧
      c'.pending = c.pending.insert r.paymentID (pendingSnapshot r plan plan.state) ∧ c'.consumed = c.consumed ∧
      c'.resolutions = c.resolutions := by
  simp only [quarantine, block_eq_ok, orRevert_eq_ok] at h
  obtain ⟨plan, hplan, ⟨state, hclaim⟩, record, -, store, hstore, rfl⟩ := h
  simp only [MemoryStore.quarantinePendingReversal, block_eq_ok] at hstore
  refine ⟨plan, hplan, ?_, hclaim, hstore.1.2.1, rfl, rfl, rfl⟩
  rcases state with state | state | state <;> simp [state]

theorem reversalIncident_eq_ok (h : c.reversalIncident r claim = .ok c') :
    claim.mode = .canonicalGateway ∧ c'.pending = c.pending ∧ c'.consumed = c.consumed ∧ c'.resolutions = c.resolutions := by
  simp only [reversalIncident, block_eq_ok, orRevert_eq_ok] at h
  obtain ⟨plan, -, ⟨-, hclaim⟩, record, -, store, -, rfl⟩ := h
  exact ⟨hclaim.1, rfl, rfl, rfl⟩

variable [Encoding] {p : String} {q : PendingReversalSnapshot} {k : ConsumedPendingReversalSnapshot}

/-- A pending or consumed reversal is kept under the payment it is of. -/
theorem Inv.pending_key (inv : c.Inv) (h : c.pending.lookup p = some q) : q.paymentID = p ∧ ValidPendingSnapshot q := by
  cases hplan : (c.file p).plan with
  | none =>
    obtain ⟨-, -, hpending, -⟩ := (inv.files p).blank hplan
    rw [show (c.file p).pending = some q from h] at hpending
    cases hpending
  | some =>
    obtain ⟨key, claim, -, planned⟩ := inv.now hplan
    obtain ⟨valid, payment, -⟩ := planned.quarantines q h
    exact ⟨payment.trans key, valid⟩

theorem Inv.consumed_key (inv : c.Inv) (h : c.consumed.lookup p = some k) :
    k.pending.paymentID = p ∧ ∃ plan, (c.file p).plan = some plan ∧ plan.state = .incident ∧
      ∃ confirmation ∈ (c.file p).confirmation, ValidConsumedPendingReversal k plan confirmation ∧
        File.Confirms plan confirmation := by
  cases hplan : (c.file p).plan with
  | none =>
    obtain ⟨-, -, -, hconsumed, -⟩ := (inv.files p).blank hplan
    rw [show (c.file p).consumed = some k from h] at hconsumed
    cases hconsumed
  | some plan =>
    obtain ⟨key, claim, -, planned⟩ := inv.now hplan
    obtain ⟨state, confirmation, hconfirmation, valid⟩ := planned.consumed k h
    exact ⟨valid.2.1.2.1.trans key, plan, rfl, state, confirmation, hconfirmation, valid, planned.confirms _ hconfirmation⟩

theorem Inv.pending_or_consumed (inv : c.Inv) (hq : c.pending.lookup p = some q) (hk : c.consumed.lookup p = some k) :
    False := by
  obtain ⟨-, plan, hplan, state, -⟩ := inv.consumed_key hk
  obtain ⟨-, claim, -, planned⟩ := inv.now hplan
  have := planned.unquarantined (by simp [state])
  rw [show (c.file p).pending = some q from hq] at this
  cases this

omit [Encoding] in
/-- Only a reversal that puts a plan in quarantine changes what is reported. -/
theorem Disposed.unreported {commit : Except Errors Unit} {claim : Option Claim} {disposition : ReversalDisposition}
    (h : Disposed r commit c c' claim disposition) (hdisposition : disposition ≠ .quarantined) :
    c'.pending = c.pending ∧ c'.consumed = c.consumed ∧ c'.resolutions = c.resolutions := by
  cases h with
  | replayed | quarantined => exact absurd rfl hdisposition
  | posted | repeated => exact ⟨rfl, rfl, rfl⟩
  | contradicted _ hincident => exact (reversalIncident_eq_ok hincident).2

/-- An accepted resolution finds the reversal resolved already, or it resolves a pending one. -/
theorem resolveProviderReversal_reports {localFallback : Except Errors (List String)}
    {result : CanonicalReversalResolution} (h : c.resolveProviderReversal r localFallback = .ok (c', result)) :
    r.quarantineID ∈ c.resolutions ∨ ∃ q stored, stored.resolution.pending = q ∧
      c.pending.lookup r.paymentID = some q ∧ SamePendingReversal q r ∧ c'.pending = c.pending.erase r.paymentID ∧
      c'.consumed = c.consumed ∧ c'.resolutions = c.resolutions.insert r.quarantineID stored := by
  simp only [resolveProviderReversal, block_eq_ok] at h
  obtain ⟨-, h⟩ := h
  split at h
  · next hstored => exact .inl (Finmap.mem_of_lookup_eq_some hstored)
  · simp only [block_eq_ok, orRevert_eq_ok, joinError_eq_ok, Prod.exists, Prod.mk.injEq] at h
    obtain ⟨plan, -, q, hq, ⟨-, -, -, same, -⟩, claim, -, -, evidence, -, record, -, modes, store, journalIDs, -, rfl, -⟩ := h
    exact .inr ⟨q, _, rfl, hq, same, rfl, rfl, rfl⟩

end Coordinator

section

variable [Encoding] {p : String} {call : Call} {f g : File}

/-- Only a resolution reverses a payment that has a plan. -/
theorem File.Step.unreversed (step : File.Step p call f g) (ok : File.Ok p f)
    (hcall : ∀ r localFallback, call ≠ .resolveProviderReversal r localFallback) (hreversed : g.reversed = true) :
    g.plan = none := by
  have absent {plan : Plan} {claim : Claim} (now : f.Holds plan claim) (state : plan.state ≠ .failed)
      (h : f.reversed = true) : False := by
    rw [(ok.of_now now).unreversed state] at h
    cases h
  cases step with
  | tombstoned _ unplanned => exact unplanned
  | resolved => exact absurd rfl (hcall _ _)
  | claimed _ _ unreversed | prepared _ _ _ unreversed | retried _ _ _ unreversed | quarantined _ _ _ unreversed =>
    have hreversed : f.reversed = true := hreversed
    rw [unreversed] at hreversed
    cases hreversed
  | submitted _ now state | confirmed _ now state | contradicted _ now state | failed _ now state
  | reorgFailed _ now state | reorgQuarantined _ now state | reversalIncident _ now state =>
    exact (absent now (by simp [state]) hreversed).elim
  | reorgIncident _ now _ state =>
    exact (absent now (by rcases state with state | state <;> simp [state]) hreversed).elim

/-- Away from the provider reversals only a confirmation out of quarantine changes what is reported. -/
theorem File.Step.reports (step : File.Step p call f g) (hhandle : ∀ r commit, call ≠ .handleProviderReversal r commit)
    (hresolve : ∀ r localFallback, call ≠ .resolveProviderReversal r localFallback) :
    g.pending = f.pending ∧ g.consumed = f.consumed ∨
      ∃ k : ConsumedPendingReversalSnapshot, f.pending = some k.pending ∧ g.pending = none ∧ g.consumed = some k := by
  cases step with
  | @contradicted _ r _ _ q _ _ _ _ hpending =>
    exact .inr ⟨consumedOf q r.projection.settlement r.projection.proof, hpending, rfl, rfl⟩
  | tombstoned | quarantined | reversalIncident => exact absurd rfl (hhandle _ _)
  | resolved => exact absurd rfl (hresolve _ _)
  | claimed | prepared | submitted | confirmed | failed | retried | reorgFailed | reorgQuarantined | reorgIncident =>
    exact .inl ⟨rfl, rfl⟩

theorem Coordinator.exec_reports (inv : c.Inv) (h : call.exec c = .ok c')
    (hhandle : ∀ r commit, call ≠ .handleProviderReversal r commit)
    (hresolve : ∀ r localFallback, call ≠ .resolveProviderReversal r localFallback) :
    (c'.pending = c.pending ∧ c'.consumed = c.consumed ∨
      ∃ k : ConsumedPendingReversalSnapshot, c.pending.lookup k.pending.paymentID = some k.pending ∧
        c'.pending = c.pending.erase k.pending.paymentID ∧ c'.consumed = c.consumed.insert k.pending.paymentID k) ∧
      c'.resolutions = c.resolutions := by
  rcases exec_stepped inv h with rfl | ⟨p, stepped⟩
  · exact ⟨.inl ⟨rfl, rfl⟩, rfl⟩
  have others : ∀ q, q ≠ p → c'.pending.lookup q = c.pending.lookup q ∧ c'.consumed.lookup q = c.consumed.lookup q :=
    fun q hq => ⟨congrArg File.pending (stepped.others q hq), congrArg File.consumed (stepped.others q hq)⟩
  have resolutions : c'.resolutions = c.resolutions := by
    rcases stepped.resolutions with ⟨same, -⟩ | ⟨stored, -, -, -, -, hreversed, hplan⟩
    · exact same
    · rw [stepped.step.unreversed (inv.files p) hresolve hreversed] at hplan
      cases hplan
  refine ⟨?_, resolutions⟩
  rcases stepped.step.reports hhandle hresolve with ⟨hpending, hconsumed⟩ | ⟨k, hq, hpending, hconsumed⟩
  · refine .inl ⟨Finmap.ext_lookup fun q => ?_, Finmap.ext_lookup fun q => ?_⟩
    · by_cases hq : q = p
      · exact hq ▸ hpending
      · exact (others q hq).1
    · by_cases hq : q = p
      · exact hq ▸ hconsumed
      · exact (others q hq).2
  · obtain ⟨rfl, -⟩ := inv.pending_key hq
    refine .inr ⟨k, hq, Finmap.ext_lookup fun q => ?_, Finmap.ext_lookup fun q => ?_⟩
    · rw [Table.lookup_erase_apply]
      split
      · next hq => exact hq ▸ hpending
      · next hq => exact (others q hq).1
    · rw [Table.lookup_insert_apply]
      split
      · next hq => exact hq ▸ hconsumed
      · next hq => exact (others q hq).2

end

end Unified.Settlement

namespace Unified.Payment

open Indexer (Crypto Time)
open Settlement (CanonicalReversalRecord Claim Coordinator Encoding Errors PaymentStatus ReversalDisposition
  ValidReversalRecord)

/-! ### Consumed reversals -/

namespace Orchestrator

variable {o o' : Orchestrator} {ks : List CanonicalReversalConsumption} {k : CanonicalReversalConsumption}

/-- Only the events change where consumed reversals are applied to a payment, and only those of these reversals. -/
theorem applyCanonicalConsumptions_eq_ok {paymentID : String} (h : o.applyCanonicalConsumptions paymentID = .ok o') :
    o' = { o with events := o'.events } ∧
      (∀ current ∈ o.payments.lookup paymentID, ∀ k ∈ o.consumedFor paymentID, ConsumptionMatches current k) ∧
      (∀ key, key ∈ o.events → key ∈ o'.events) ∧
      ∀ key event, o'.events.lookup key = some event → o.events.lookup key = some event ∨
        ∃ current ∈ o.payments.lookup paymentID, ∃ k ∈ o.consumedFor paymentID,
          key = eventKey k.providerID k.providerEventID ∧ event = consumedEvent current k := by
  rw [applyCanonicalConsumptions] at h
  split at h
  · next unknown =>
    cases h
    refine ⟨rfl, ?_, fun _ => id, fun _ _ => .inl⟩
    intro current hcurrent
    rw [Option.mem_def, unknown] at hcurrent
    cases hcurrent
  · next current hcurrent =>
    simp only [block_eq_ok] at h
    obtain ⟨hmatches, rfl⟩ := h
    refine ⟨rfl, ?_, fun key hkey => Table.mem_insertMany.mpr (.inl hkey), ?_⟩
    · intro current' hcurrent'
      rw [Option.mem_def, hcurrent] at hcurrent'
      cases hcurrent'
      exact hmatches
    · intro key event hevent
      refine (Table.lookup_insertMany_cases hevent).imp_right fun hmem => ?_
      obtain ⟨k, hk, heq⟩ := List.mem_map.mp hmem
      cases heq
      exact ⟨current, hcurrent, k, hk, rfl, rfl⟩

theorem refreshOne_eq_none : o.refreshOne k = (o', none) ↔ (ValidCanonicalConsumption k ∧ k.providerID ∈ o.providers) ∧
    (o.consumedReversals.lookup k.quarantineID = some k ∧ o.applyCanonicalConsumptions k.paymentID = .ok o' ∨
      o.consumedReversals.lookup k.quarantineID = none ∧
        (o.consume k).applyCanonicalConsumptions k.paymentID = .ok o') := by
  rw [refreshOne]
  split
  · next h => simp [h]
  next h =>
  rw [and_iff_right (not_not.mp h)]
  cases hlookup : o.consumedReversals.lookup k.quarantineID with
  | none =>
    simp only [reduceCtorEq, false_and, true_and, false_or]
    cases (o.consume k).applyCanonicalConsumptions k.paymentID <;> simp
  | some =>
    simp only [Option.some.injEq, reduceCtorEq, false_and, or_false]
    split
    · next hne => simp [hne]
    · next heq =>
      rw [and_iff_right (not_not.mp heq)]
      cases o.applyCanonicalConsumptions k.paymentID <;> simp

/-- What taking over a consumed reversal and applying it to its payment keep, a refresh keeps. -/
theorem refresh_invariant (inv : Orchestrator → Prop)
    (consume : ∀ o, ∀ k ∈ ks, ValidCanonicalConsumption k → o.consumedReversals.lookup k.quarantineID = none → inv o →
      inv (o.consume k))
    (apply : ∀ o o' paymentID, o.applyCanonicalConsumptions paymentID = .ok o' → inv o → inv o') (h : inv o) :
    inv (o.refresh ks).1 := by
  induction ks generalizing o with
  | nil => exact h
  | cons k _ ih =>
    have hone : inv (o.refreshOne k).1 := by
      rw [refreshOne]
      split
      · exact h
      next valid =>
      have valid : ValidCanonicalConsumption k := (not_not.mp valid).1
      split
      · split
        · exact h
        · split
          · next happly => exact apply _ _ _ happly h
          · exact h
      · next fresh =>
        have hconsume := consume o k List.mem_cons_self valid fresh h
        split
        · next happly => exact apply _ _ _ happly hconsume
        · exact hconsume
    rw [refresh]
    split
    · next o' hrefresh =>
      rw [hrefresh] at hone
      exact ih (fun o k hk => consume o k (List.mem_cons_of_mem _ hk)) hone
    · next o' e hrefresh =>
      rw [hrefresh] at hone
      exact hone

/-- A refresh that passes has taken over every consumed reversal. -/
theorem refresh_taken (h : (o.refresh ks).2 = none) (hk : k ∈ ks) :
    (o.refresh ks).1.consumedReversals.lookup k.quarantineID = some k := by
  induction ks generalizing o with
  | nil => cases hk
  | cons k' _ ih =>
    rw [refresh] at h ⊢
    split at h
    · next o' hone =>
      rcases List.mem_cons.mp hk with rfl | hk
      · -- later rounds take over other reversals only
        refine refresh_invariant (fun o => o.consumedReversals.lookup k.quarantineID = some k) ?_ ?_ ?_
        · intro o k' _ _ fresh hk
          refine (Table.lookup_insert_apply ..).trans ((if_neg ?_).trans hk)
          intro heq
          rw [← heq, hk] at fresh
          cases fresh
        · intro o o' p happly hk
          rw [(applyCanonicalConsumptions_eq_ok happly).1]
          exact hk
        · obtain ⟨-, ⟨taken, happly⟩ | ⟨-, happly⟩⟩ := refreshOne_eq_none.mp hone
          · rw [(applyCanonicalConsumptions_eq_ok happly).1]
            exact taken
          · rw [(applyCanonicalConsumptions_eq_ok happly).1]
            exact Finmap.lookup_insert _
      · exact ih h hk
    · cases h

end Orchestrator

/-! ### Callbacks -/

section

variable [Codec] {callback : Callback}

/-- A callback that is admitted and new. -/
structure Orchestrator.Admissible (o : Orchestrator) (d : Orchestrator.Delivery) (provider : Provider)
    (callback : Callback) : Prop where
  envelope : d.providerID ≠ "" ∧ d.providerEventID ≠ "" ∧ d.raw.length ≠ 0 ∧ d.raw.length ≤ MAX_CALLBACK_BYTES
  configured : o.providers.lookup d.providerID = some provider
  authenticated : provider.active = true ∧ Crypto.verify provider.publicKey (signingMessage d.raw) d.signature = true
  decoded : decodeCallback d.raw = some callback
  sender : callback.providerID = d.providerID
  named : callback.providerEventID = d.providerEventID
  asset : callback.assetID = provider.assetID
  unexpired : d.receivedAt ≤ callback.expiresAt

/-- What a callback that is applied has passed beside that. -/
structure Orchestrator.Applicable (o : Orchestrator) (d : Orchestrator.Delivery) (provider : Provider)
    (callback : Callback) (current : Intent) : Prop extends Orchestrator.Admissible o d provider callback where
  unseen : o.events.lookup (eventKey d.providerID d.providerEventID) = none
  known : o.payments.lookup callback.paymentID = some current
  bound : Orchestrator.Bound current provider callback d
  reversible : callback.status = .reversed → provider.supportsReversal = true
  unreversed : ¬ (callback.status = .reversed ∧ current.status = .reversed)
  ordered : callback.status = current.status ∨ allowedTransition current.status callback.status = true

namespace Orchestrator

variable {o : Orchestrator} {d : Delivery}

theorem accept_eq_ok {admitted : Admitted} : o.accept d = .ok admitted ↔ ∃ provider callback,
    o.Admissible d provider callback ∧
      ((∃ event, o.events.lookup (eventKey d.providerID d.providerEventID) = some event ∧
          event.rawHash = hashBytes d.raw ∧ admitted = .replay event) ∨
        ∃ current, o.Applicable d provider callback current ∧ admitted = .apply callback current) := by
  simp only [accept, block_eq_ok, orRevert_eq_ok, Option.filter_eq_some_iff, decide_eq_true_eq]
  constructor
  · rintro ⟨envelope, provider, ⟨configured, authenticated⟩, callback, decoded, ⟨hprovider, hevent, asset, unexpired⟩, h⟩
    have admissible : o.Admissible d provider callback :=
      ⟨envelope, configured, authenticated, decoded, hprovider, hevent, asset, unexpired⟩
    refine ⟨provider, callback, admissible, ?_⟩
    split at h
    · next event hseen =>
      simp only [block_eq_ok] at h
      exact .inl ⟨event, hseen, h.1, h.2.symm⟩
    · next unseen =>
      simp only [block_eq_ok, orRevert_eq_ok] at h
      obtain ⟨current, known, bound, reversible, unreversed, ordered, rfl⟩ := h
      exact .inr ⟨current, ⟨admissible, unseen, known, bound, reversible, unreversed, ordered⟩, rfl⟩
  · rintro ⟨provider, callback, admissible, h⟩
    refine ⟨admissible.envelope, provider, ⟨admissible.configured, admissible.authenticated⟩, callback,
      admissible.decoded, ⟨admissible.sender, admissible.named, admissible.asset, admissible.unexpired⟩, ?_⟩
    rcases h with ⟨event, hseen, hraw, rfl⟩ | ⟨current, applicable, rfl⟩
    · simp only [hseen, block_eq_ok, hraw, and_self]
    · simp only [applicable.unseen, block_eq_ok, orRevert_eq_ok]
      exact ⟨current, applicable.known, applicable.bound, applicable.reversible, applicable.unreversed,
        applicable.ordered, rfl⟩

theorem accept_apply {callback : Callback} {current : Intent} (h : o.accept d = .ok (.apply callback current)) :
    ∃ provider, o.Applicable d provider callback current := by
  obtain ⟨provider, callback', -, ⟨event, -, -, heq⟩ | ⟨current', applicable, heq⟩⟩ := accept_eq_ok.mp h
  · cases heq
  · cases heq
    exact ⟨provider, applicable⟩

end Orchestrator

namespace Orchestrator

variable {o o' : Orchestrator} {i : Intent}

omit [Codec] in
theorem restorePayment_eq_ok (h : o.restorePayment i = .ok o') :
    o' = o ∧ o.payments.lookup i.paymentID = some i ∨ i.paymentID ∉ o.payments ∧
    applyCanonicalConsumptions { o with payments := o.payments.insert i.paymentID i } i.paymentID = .ok o' := by
  simp only [restorePayment, block_eq_ok] at h
  obtain ⟨-, provider, -, h⟩ := h
  split at h
  · next hknown =>
    simp only [block_eq_ok] at h
    exact .inl ⟨h.2.symm, h.1 ▸ hknown⟩
  · next unknown => exact .inr ⟨Finmap.lookup_eq_none.mp unknown, h⟩

theorem createIntent_eq_ok {r : IntentRequest} {now : Time} (h : o.createIntent r now = .ok (o', i)) :
    ValidIntentRequest r now ∧ (∃ provider, o.providers.lookup r.providerID = some provider ∧ provider.rail = r.rail ∧
      provider.assetID = r.assetID) ∧ (o' = o ∨ r.paymentID ∉ o.payments ∧
        o' = { o with
          payments := o.payments.insert r.paymentID (created r now)
          intentKeys := o'.intentKeys
          intentHashes := o'.intentHashes }) := by
  simp only [createIntent, block_eq_ok, orRevert_eq_ok, Option.filter_eq_some_iff, decide_eq_true_eq] at h
  obtain ⟨valid, provider, ⟨hprovider, -, hrail, hasset⟩, h⟩ := h
  refine ⟨valid, ⟨provider, hprovider, hrail, hasset⟩, ?_⟩
  split at h
  · simp only [block_eq_ok, orRevert_eq_ok, Prod.mk.injEq] at h
    obtain ⟨-, existing, -, rfl, -⟩ := h
    exact .inl rfl
  · simp only [block_eq_ok, Prod.mk.injEq] at h
    obtain ⟨free, rfl, -⟩ := h
    exact .inr ⟨free, rfl⟩

end Orchestrator

omit [Codec] in
/-- A reversal that is accepted is accepted with any commit that succeeds where the first one does. -/
theorem handleReversalWithCommit_mono {σ : Type} {registry : Settlement.Registry} {paymentID : String} {current : σ}
    {f g : Option Claim → ReversalDisposition → Except Errors σ}
    (hfg : ∀ claim disposition s, f claim disposition = .ok s → g claim disposition = .ok s)
    {result : Settlement.Registry × σ × Option Claim × ReversalDisposition}
    (h : registry.handleReversalWithCommit paymentID current f = .ok result) :
    registry.handleReversalWithCommit paymentID current g = .ok result := by
  simp only [Settlement.Registry.handleReversalWithCommit, block_eq_ok] at h ⊢
  refine ⟨h.1, ?_⟩
  replace h := h.2
  have hcommit {claim : Option Claim} {disposition : ReversalDisposition} {k : σ → _}
      (h : (Settlement.joinError .resolutionFailed (f claim disposition) >>= k) = Except.ok result) :
      (Settlement.joinError .resolutionFailed (g claim disposition) >>= k) = Except.ok result := by
    obtain ⟨s, hs, hk⟩ := bind_eq_ok.mp h
    exact bind_eq_ok.mpr ⟨s, Settlement.joinError_eq_ok.mpr (hfg _ _ _ (Settlement.joinError_eq_ok.mp hs)), hk⟩
  split at h
  · exact hcommit h
  · split at h
    · next hmode => exact (if_pos hmode).trans (hcommit h)
    · next hmode =>
      rw [if_neg hmode]
      split at h
      case h_5 | h_6 | h_7 => exact h
      all_goals exact hcommit h

omit [Codec] in
theorem handleProviderReversal_eq_ok {c : Coordinator} {r : CanonicalReversalRecord} {commit stored : Except Errors Unit}
    {result : Coordinator × Option Claim × ReversalDisposition}
    (h : handleProviderReversal c r commit stored = .ok result) : c.handleProviderReversal r commit = .ok result := by
  simp only [handleProviderReversal, Coordinator.handleProviderReversal, block_eq_ok] at h ⊢
  refine ⟨h.1, ?_⟩
  replace h := h.2
  generalize (c.plans.lookup r.paymentID).filter (·.state = .quarantined) = found at h ⊢
  cases found with
  | some => exact h
  | none =>
    obtain ⟨written, hwritten, hk⟩ := bind_eq_ok.mp h
    refine bind_eq_ok.mpr ⟨written, Settlement.joinError_eq_ok.mpr
      (handleReversalWithCommit_mono ?_ (Settlement.joinError_eq_ok.mp hwritten)), hk⟩
    intro claim disposition s hs
    simp only [bind_eq_ok, pure_eq_ok] at hs
    obtain ⟨s, hs, -, -, rfl⟩ := hs
    exact hs

/-! ### What becomes of a callback -/

namespace World

/-- The ways of a callback that is taken in, with the answer it gets. -/
inductive Received (w : World) (d : Orchestrator.Delivery) (now : Time) (faults : Faults) : World → Answer → Prop
  | rejected {r : Orchestrator.Rejection} (h : w.orchestrator.accept d = .error r) :
      Received w d now faults
        { w with orchestrator := w.orchestrator.quarantine d r.paymentID r.evidenceHash r.reasonCode } (.error r.err)
  | replayed {event : StoredEvent} (h : w.orchestrator.accept d = .ok (.replay event)) :
      Received w d now faults w ⟨some { event.result with replayed := true }, event.err⟩
  | unchanged {callback : Callback} {current : Intent} (h : w.orchestrator.accept d = .ok (.apply callback current))
      (unreversed : callback.status ≠ .reversed) (same : callback.status = current.status) :
      Received w d now faults { w with orchestrator := (w.orchestrator.answerEvent d current [] .applied none).1 }
        (w.orchestrator.answerEvent d current [] .applied none).2
  | refused {callback : Callback} {current : Intent} (h : w.orchestrator.accept d = .ok (.apply callback current))
      (unreversed : callback.status ≠ .reversed) (moves : callback.status ≠ current.status)
      (accounts : AccountingTransition callback.status)
      (unposted : w.poster.attempt (transitionOf current callback d.receivedAt) now faults.accounting = none) :
      Received w d now faults w (.error .accounting)
  | advanced {callback : Callback} {current : Intent} {journalIDs : List String} {poster : Poster}
      (h : w.orchestrator.accept d = .ok (.apply callback current)) (unreversed : callback.status ≠ .reversed)
      (moves : callback.status ≠ current.status)
      (posted : AccountingTransition callback.status ∧
          w.poster.attempt (transitionOf current callback d.receivedAt) now faults.accounting = some (journalIDs, poster) ∨
        ¬ AccountingTransition callback.status ∧ journalIDs = [] ∧ poster = w.poster) :
      Received w d now faults
        { w with
          orchestrator := (w.orchestrator.applyCallback d callback current journalIDs .applied).1, poster := poster }
        (w.orchestrator.applyCallback d callback current journalIDs .applied).2
  | failed {callback : Callback} {current : Intent} {posted : Option (List String × Poster)} {e : Errors}
      (h : w.orchestrator.accept d = .ok (.apply callback current)) (reversed : callback.status = .reversed)
      (hposted : w.poster.attempt (transitionOf current callback d.receivedAt) now faults.accounting = posted)
      (herror : handleProviderReversal w.coordinator (w.orchestrator.reversalRecord d callback)
        (orRevert (posted.map fun _ => ()) [.accounting]) faults.store = .error e) :
      Received w d now faults
        { w with
          poster := if ReversalCommits w.coordinator (w.orchestrator.reversalRecord d callback) then
            (posted.map Prod.snd).getD w.poster else w.poster }
        (.error (.canonicalPersistence e))
  | quarantined {callback : Callback} {current : Intent} {commit : Except Errors Unit} {c : Coordinator}
      {claim : Option Claim} (h : w.orchestrator.accept d = .ok (.apply callback current))
      (reversed : callback.status = .reversed) (valid : ValidReversalRecord (w.orchestrator.reversalRecord d callback))
      (disposed : Coordinator.Disposed (w.orchestrator.reversalRecord d callback) commit w.coordinator c claim .quarantined) :
      Received w d now faults ⟨(w.orchestrator.quarantineReversal d callback current claim).1, c, w.poster⟩
        (w.orchestrator.quarantineReversal d callback current claim).2
  | incident {callback : Callback} {current : Intent} {commit : Except Errors Unit} {c : Coordinator}
      {claim : Option Claim} (h : w.orchestrator.accept d = .ok (.apply callback current))
      (reversed : callback.status = .reversed) (valid : ValidReversalRecord (w.orchestrator.reversalRecord d callback))
      (disposed : Coordinator.Disposed (w.orchestrator.reversalRecord d callback) commit w.coordinator c claim .incident) :
      Received w d now faults ⟨(w.orchestrator.incidentReversal d callback current claim).1, c, w.poster⟩
        (w.orchestrator.incidentReversal d callback current claim).2
  | reversed {callback : Callback} {current : Intent} {journalIDs : List String} {poster : Poster} {c : Coordinator}
      {claim : Option Claim} {posts : ReversalDisposition} {disposition : Disposition}
      (h : w.orchestrator.accept d = .ok (.apply callback current)) (reversed : callback.status = .reversed)
      (valid : ValidReversalRecord (w.orchestrator.reversalRecord d callback))
      (posted : w.poster.attempt (transitionOf current callback d.receivedAt) now faults.accounting =
        some (journalIDs, poster))
      (disposed : Coordinator.Disposed (w.orchestrator.reversalRecord d callback) (.ok ()) w.coordinator c claim posts)
      (hdisposition : posts = .unclaimed ∧ disposition = .unclaimed ∨ posts = .synthetic ∧ disposition = .synthetic) :
      Received w d now faults ⟨(w.orchestrator.applyCallback d callback current journalIDs disposition).1, c, poster⟩
        (w.orchestrator.applyCallback d callback current journalIDs disposition).2

variable {w : World} {d : Orchestrator.Delivery} {now : Time} {faults : Faults} {callback : Callback} {current : Intent}
  {c c' : Coordinator} {claim : Option Claim} {disposition : ReversalDisposition}

theorem ingestAdvance_received (h : w.orchestrator.accept d = .ok (.apply callback current))
    (unreversed : callback.status ≠ .reversed) :
    Received w d now faults (w.ingestAdvance d callback current now faults).1
      (w.ingestAdvance d callback current now faults).2 := by
  rw [ingestAdvance]
  split
  · next same => exact .unchanged h unreversed same
  next moves =>
  split
  · next accounts =>
    split
    · next unposted => exact .refused h unreversed moves accounts unposted
    · next journalIDs poster posted => exact .advanced h unreversed moves (.inl ⟨accounts, posted⟩)
  · next free => exact .advanced h unreversed moves (.inr ⟨free, rfl, rfl⟩)

omit [Codec] in
theorem uncommitted {r : CanonicalReversalRecord} {commit : Except Errors Unit}
    (h : Coordinator.Disposed r commit c c' claim disposition)
    (stands : disposition = .quarantined ∨ disposition = .incident) : ¬ ReversalCommits c r := by
  rintro ⟨-, unquarantined, synthetic⟩
  have canonical {claim : Claim} (hclaim : c.modes.lookup r.paymentID = some claim)
      (mode : claim.mode = .canonicalGateway) : False := by
    have := synthetic claim hclaim
    rw [mode] at this
    cases this
  cases h with
  | replayed hplan state =>
    have := Option.filter_eq_none_iff.mp unquarantined _ hplan
    simp [state] at this
  | posted _ _ _ _ posts => rcases posts with rfl | rfl <;> simp at stands
  | quarantined hclaim hquarantine =>
    obtain ⟨plan, -, -, hmatches, -⟩ := Coordinator.quarantine_eq_ok hquarantine
    exact canonical hclaim hmatches.1
  | contradicted hclaim hincident => exact canonical hclaim (Coordinator.reversalIncident_eq_ok hincident).1
  | repeated hclaim mode => exact canonical hclaim mode

omit [Codec] in
theorem committed {r : CanonicalReversalRecord} {posted : Option (List String × Poster)} (valid : ValidReversalRecord r)
    (h : Coordinator.Disposed r (orRevert (posted.map fun _ => ()) [.accounting]) c c' claim disposition)
    (posts : disposition = .unclaimed ∨ disposition = .synthetic) :
    ReversalCommits c r ∧ ∃ journalIDs poster, posted = some (journalIDs, poster) := by
  cases h with
  | posted hcommit _ unclaimed unplanned =>
    refine ⟨⟨valid, ?_, unclaimed⟩, ?_⟩
    · rw [show c.plans.lookup r.paymentID = none from unplanned, Option.filter_none]
    · cases posted with
      | none => cases hcommit
      | some posted => exact ⟨posted.1, posted.2, rfl⟩
  | replayed | quarantined | contradicted | repeated => rcases posts with h | h <;> cases h

theorem ingestReversal_received (inv : w.coordinator.Inv) (h : w.orchestrator.accept d = .ok (.apply callback current))
    (reversed : callback.status = .reversed) :
    Received w d now faults (w.ingestReversal d callback current now faults).1
      (w.ingestReversal d callback current now faults).2 := by
  simp only [ingestReversal]
  generalize hposted : w.poster.attempt (transitionOf current callback d.receivedAt) now faults.accounting = posted
  split
  · next e herror => exact .failed h reversed hposted herror
  all_goals
    obtain ⟨valid, disposed⟩ :=
      Coordinator.handleProviderReversal_disposed inv (handleProviderReversal_eq_ok ‹_ = Except.ok _›)
  · rw [if_neg (uncommitted disposed (.inl rfl))]
    exact .quarantined h reversed valid disposed
  · rw [if_neg (uncommitted disposed (.inr rfl))]
    exact .incident h reversed valid disposed
  · obtain ⟨commits, journalIDs, poster, rfl⟩ := committed valid disposed (.inl rfl)
    rw [if_pos commits]
    exact .reversed h reversed valid hposted disposed (.inl ⟨rfl, rfl⟩)
  · obtain ⟨commits, journalIDs, poster, rfl⟩ := committed valid disposed (.inr rfl)
    rw [if_pos commits]
    exact .reversed h reversed valid hposted disposed (.inr ⟨rfl, rfl⟩)

theorem ingestReceived_received (inv : w.coordinator.Inv) (d : Orchestrator.Delivery) (now : Time) (faults : Faults) :
    Received w d now faults (w.ingestReceived d now faults).1 (w.ingestReceived d now faults).2 := by
  rw [ingestReceived]
  split
  · next r h => exact .rejected h
  · next event h => exact .replayed h
  · next callback current h =>
    split
    · next reversed => exact ingestReversal_received inv h reversed
    · next unreversed => exact ingestAdvance_received h unreversed

/-- The world once the consumed reversals are taken over, and what stops that. -/
abbrev refreshed (w : World) : World :=
  { w with orchestrator := (w.orchestrator.refresh (consumedProviderReversals w.coordinator)).1 }

abbrev blocked (w : World) : Option PaymentError :=
  (w.orchestrator.refresh (consumedProviderReversals w.coordinator)).2

abbrev receiving (w : World) (d : Orchestrator.Delivery) : World :=
  { w with orchestrator := w.refreshed.orchestrator.receive d }

/-- A callback without a time, one that the refresh blocks, or one that is taken in. -/
theorem ingestCallback_cases (w : World) (d : Orchestrator.Delivery) (now : Time) (faults : Faults) :
    (w.ingestCallback d now faults = (w, .error .invalidCallback) ∧ d.receivedAt.IsZero) ∨
    (∃ e, w.blocked = some e ∧ w.ingestCallback d now faults = (w.refreshed, .error e)) ∨
    (w.blocked = none ∧ w.ingestCallback d now faults = (w.receiving d).ingestReceived d now faults) := by
  rw [ingestCallback]
  split
  · next untimed => exact .inl ⟨rfl, untimed⟩
  · refine .inr ?_
    split
    · next o e hrefresh => exact .inl ⟨e, congrArg Prod.snd hrefresh, by rw [refreshed, hrefresh]⟩
    · next o hrefresh => exact .inr ⟨congrArg Prod.snd hrefresh, by rw [receiving, refreshed, hrefresh]⟩

/-! ### What becomes of a resolution -/

/-- The ways of a resolution after the refresh. -/
inductive Resolves (w : World) (r : CanonicalReversalResolutionRequest) (now : Time) (accountingFails : Bool) :
    World → Except PaymentError Resolved → Prop
  | refused {e : PaymentError} : Resolves w r now accountingFails w (.error e)
  | replayed {replay : CanonicalReversalResolutionRecord} {o : Orchestrator} {resolved : Resolved}
      (h : resolvedProviderReversal w.coordinator r = .ok (some replay))
      (hreplay : w.orchestrator.replayResolution r replay = .ok (o, resolved)) :
      Resolves w r now accountingFails { w with orchestrator := o } (.ok resolved)
  | failed {pending : PendingCanonicalReversal} {current : Intent} {poster : Poster} {e : PaymentError}
      (h : w.orchestrator.pendingFor r = .ok (pending, current))
      (posted : poster = w.poster ∨ FallbackRuns w.coordinator (Orchestrator.resolutionOf r pending) ∧
        ∃ journalIDs, w.poster.attempt (Orchestrator.resolvedTransition current pending r.resolvedAt) now accountingFails =
          some (journalIDs, poster)) :
      Resolves w r now accountingFails { w with poster := poster } (.error e)
  | resolved {pending : PendingCanonicalReversal} {current : Intent} {poster : Poster} {c : Coordinator}
      {canonical : Coordinator.CanonicalReversalResolution} {fallback : Except Errors (List String)}
      {result : CallbackResult} {resolution : QuarantineResolution}
      (unresolved : resolvedProviderReversal w.coordinator r = .ok none)
      (h : w.orchestrator.pendingFor r = .ok (pending, current))
      (hok : w.coordinator.resolveProviderReversal (Orchestrator.resolutionOf r pending) fallback = .ok (c, canonical))
      (posted : poster = w.poster ∨ FallbackRuns w.coordinator (Orchestrator.resolutionOf r pending) ∧
        ∃ journalIDs, w.poster.attempt (Orchestrator.resolvedTransition current pending r.resolvedAt) now accountingFails =
          some (journalIDs, poster))
      (hresult : result.payment = Orchestrator.reversedAt current current.providerReference r.resolvedAt ∧
        result.disposition = .reversed) :
      Resolves w r now accountingFails
        ⟨w.orchestrator.resolve r.quarantineID pending.eventKey pending.rawHash result resolution, c, poster⟩
        (.ok (result, resolution))

variable {r : CanonicalReversalResolutionRequest} {o : Orchestrator}

omit [Codec] in
theorem resolvedProviderReversal_eq_ok [Encoding] {replay : Option CanonicalReversalResolutionRecord}
    (h : resolvedProviderReversal c r = .ok replay) :
    c.resolutions.lookup r.quarantineID = none ∧ replay = none ∨
      ∃ stored, c.resolutions.lookup r.quarantineID = some stored ∧ RequestMatches stored r ∧
        replay = some (resolutionRecord stored) := by
  simp only [resolvedProviderReversal, block_eq_ok] at h
  obtain ⟨-, h⟩ := h
  split at h
  · next unresolved =>
    cases h
    exact .inl ⟨unresolved, rfl⟩
  · next stored hstored =>
    simp only [block_eq_ok] at h
    exact .inr ⟨stored, hstored, h.1, h.2.symm⟩

omit [Codec] in
theorem replayResolution_eq_ok {o' : Orchestrator} {replay : CanonicalReversalResolutionRecord} {resolved : Resolved}
    (h : o.replayResolution r replay = .ok (o', resolved)) :
    ∃ current next result resolution, o.payments.lookup r.paymentID = some current ∧
      Orchestrator.replayedPayment current replay = .ok next ∧
      result = ⟨replay.providerID, replay.providerEventID, replay.rawHash, next, replay.journalIDs, true, .reversed⟩ ∧
      o' = o.resolve r.quarantineID (eventKey replay.providerID replay.providerEventID) replay.rawHash result resolution := by
  simp only [Orchestrator.replayResolution, block_eq_ok, orRevert_eq_ok, Prod.mk.injEq] at h
  obtain ⟨current, hcurrent, -, next, hnext, rfl, -⟩ := h
  exact ⟨current, next, _, _, hcurrent, hnext, rfl, rfl⟩

theorem resolvePending_resolves {accountingFails : Bool}
    (unresolved : resolvedProviderReversal w.coordinator r = .ok none) :
    Resolves w r now accountingFails (w.resolvePending r now accountingFails).1
      (w.resolvePending r now accountingFails).2 := by
  rw [resolvePending]
  split
  · exact .refused
  next pending current h =>
  simp only
  generalize hposted : w.poster.attempt (Orchestrator.resolvedTransition current pending r.resolvedAt) now
    accountingFails = posted
  have hposter : ((if FallbackRuns w.coordinator (Orchestrator.resolutionOf r pending) then
      (posted.map Prod.snd).getD w.poster else w.poster) = w.poster) ∨
      FallbackRuns w.coordinator (Orchestrator.resolutionOf r pending) ∧ ∃ journalIDs, posted = some (journalIDs,
        if FallbackRuns w.coordinator (Orchestrator.resolutionOf r pending) then
          (posted.map Prod.snd).getD w.poster else w.poster) := by
    split
    · next runs =>
      cases posted with
      | none => exact .inl rfl
      | some posted => exact .inr ⟨runs, posted.1, rfl⟩
    · exact .inl rfl
  subst hposted
  split
  · exact .failed h hposter
  · next c canonical hok => exact .resolved unresolved h hok hposter ⟨rfl, rfl⟩

/-- A request that is not complete, one that the refresh blocks, or one that is looked at. -/
theorem resolveCanonicalReversal_cases (w : World) (r : CanonicalReversalResolutionRequest) (now : Time)
    (accountingFails : Bool) :
    ((w.resolveCanonicalReversal r now accountingFails).1 = w ∧ ¬ r.Present) ∨
    (∃ e, w.blocked = some e ∧ w.resolveCanonicalReversal r now accountingFails = (w.refreshed, .error e)) ∨
    (w.blocked = none ∧ Resolves w.refreshed r now accountingFails (w.resolveCanonicalReversal r now accountingFails).1
      (w.resolveCanonicalReversal r now accountingFails).2) := by
  rw [resolveCanonicalReversal]
  split
  · next absent => exact .inl ⟨rfl, absent⟩
  · refine .inr ?_
    split
    · next o e hrefresh => exact .inl ⟨e, congrArg Prod.snd hrefresh, by rw [refreshed, hrefresh]⟩
    · next o hrefresh =>
      refine .inr ⟨congrArg Prod.snd hrefresh, ?_⟩
      rw [refreshed, hrefresh]
      split
      · exact .refused
      · next replay h =>
        split
        · exact .refused
        · next o' resolved hreplay => exact .replayed h hreplay
      · next h => exact resolvePending_resolves h

/-! ### What a call does -/

/-- The ways of a call of a run. -/
inductive Stepped (w : World) : Call → World → Prop
  | same {call : Call} : Stepped w call w
  | refreshed {call : Call} : Stepped w call w.refreshed
  | created {call : Call} {r : IntentRequest} {now : Time} {o : Orchestrator}
      (valid : Orchestrator.ValidIntentRequest r now) (unknown : r.paymentID ∉ w.orchestrator.payments)
      (h : o = { w.orchestrator with
        payments := w.orchestrator.payments.insert r.paymentID (Orchestrator.created r now)
        intentKeys := o.intentKeys
        intentHashes := o.intentHashes }) : Stepped w call { w with orchestrator := o }
  | restored {call : Call} {i : Intent} {o : Orchestrator} (h : w.orchestrator.restorePayment i = .ok o) :
      Stepped w call { w with orchestrator := o }
  | received {call : Call} {d : Orchestrator.Delivery} {now : Time} {faults : Faults} {w' : World} {answer : Answer}
      (h : Received (w.receiving d) d now faults w' answer) : Stepped w call w'
  | resolves {call : Call} {r : CanonicalReversalResolutionRequest} {now : Time} {accountingFails : Bool} {w' : World}
      {result : Except PaymentError Resolved} (h : Resolves w.refreshed r now accountingFails w' result) :
      Stepped w call w'
  | settled {call : Call} {r : QuarantineResolution} {o : Orchestrator}
      (h : w.orchestrator.resolveQuarantine r = .ok o) : Stepped w call { w with orchestrator := o }
  | coordinated {call : Call} {c : Coordinator} {run : Settlement.Call} (h : run.exec w.coordinator = .ok c)
      (hhandle : ∀ r commit, run ≠ .handleProviderReversal r commit)
      (hresolve : ∀ r localFallback, run ≠ .resolveProviderReversal r localFallback) :
      Stepped w call { w with coordinator := c }
  | rebuilt {providers : List Provider} {intents : List Intent} {w' : World}
      (h : w.rebuild providers intents = .ok w') : Stepped w (.rebuild providers intents) w'

theorem stepped (inv : w.coordinator.Inv) (call : Call) : Stepped w call (w.step call) := by
  cases call with
  | createIntent r now =>
    rw [step]
    cases hok : w.orchestrator.createIntent r now with
    | error => exact .same
    | ok result =>
      obtain ⟨o, i⟩ := result
      obtain ⟨valid, -, rfl | ⟨unknown, heq⟩⟩ := Orchestrator.createIntent_eq_ok hok
      · exact .same
      · exact .created valid unknown heq
  | restorePayment i =>
    rw [step]
    cases hok : w.orchestrator.restorePayment i with
    | error => exact .same
    | ok => exact .restored hok
  | ingestCallback d now faults =>
    rw [step]
    rcases w.ingestCallback_cases d now faults with ⟨heq, -⟩ | ⟨e, -, heq⟩ | ⟨-, heq⟩ <;> rw [heq]
    · exact .same
    · exact .refreshed
    · exact .received (ingestReceived_received (w := w.receiving d) inv d now faults)
  | resolveCanonicalReversal r now accountingFails =>
    rw [step]
    rcases w.resolveCanonicalReversal_cases r now accountingFails with ⟨heq, -⟩ | ⟨e, -, heq⟩ | ⟨-, hresolves⟩
    · rw [heq]
      exact .same
    · rw [heq]
      exact .refreshed
    · exact .resolves hresolves
  | resolveQuarantine r =>
    rw [step]
    cases hok : w.orchestrator.resolveQuarantine r with
    | error => exact .same
    | ok => exact .settled hok
  | coordinate call =>
    rw [step]
    have hcommit (hhandle : ∀ r commit, call ≠ .handleProviderReversal r commit)
        (hresolve : ∀ r localFallback, call ≠ .resolveProviderReversal r localFallback) :
        Stepped w (.coordinate call) { w with coordinator := commit Settlement.Call.exec w.coordinator call } := by
      unfold commit
      split
      · next hok => exact .coordinated hok hhandle hresolve
      · exact .same
    cases call with
    | handleProviderReversal | resolveProviderReversal => exact .same
    | claimMode | prepare | submit | confirm | fail | retry | recordReorg =>
      exact hcommit (fun _ _ heq => by cases heq) (fun _ _ heq => by cases heq)
  | rebuild =>
    rw [step]
    split
    · next hok => exact .rebuilt hok
    · exact .same

end World

end

end Unified.Payment
