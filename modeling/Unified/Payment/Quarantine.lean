import Unified.Payment.Steps

/-! Quarantine records over restarts: they are numbered by the length of a list that a restart rebuilds from what
    the coordinator reports, so the numbers are unique as long as a restart brings every record back. -/

namespace Unified.Payment

open Table Finmap

open Indexer (Octets Time)
open Settlement (CanonicalReversalRecord Claim ConsumedPendingReversalSnapshot Coordinator Encoding Errors
  PendingReversalSnapshot)

def quarantineOf (q : PendingReversalSnapshot) : Quarantine :=
  quarantineRecord q.quarantineID q.providerID q.providerEventID q.paymentID q.rawHash q.callbackEvidenceHash
    .canonicalSettlementSubmitted q.receivedAt

def pendingEntry (q : PendingReversalSnapshot) : PendingCanonicalReversal := Orchestrator.restoredPending (pendingRecord q)

/-- The records carry the numbers from one up to their count. -/
def Numbered (records : List Quarantine) : Prop :=
  (records.map (·.quarantineID)).Perm ((List.range records.length).map fun i => quarantineID (i + 1))

section

variable {records : List Quarantine} {x y : Quarantine}

theorem Numbered.nodup (h : Numbered records) : (records.map (·.quarantineID)).Nodup :=
  h.nodup_iff.mpr (List.nodup_range.map fun _ _ heq => Nat.succ.inj (quarantineID_inj heq))

theorem Numbered.unique (h : Numbered records) (hx : x ∈ records) (hy : y ∈ records)
    (same : x.quarantineID = y.quarantineID) : x = y :=
  List.inj_on_of_nodup_map h.nodup hx hy same

theorem Numbered.fresh (h : Numbered records) (hx : x ∈ records) :
    x.quarantineID ≠ quarantineID (records.length + 1) := by
  intro heq
  have hmem := h.mem_iff.mp (List.mem_map_of_mem hx)
  obtain ⟨i, hi, hid⟩ := List.mem_map.mp hmem
  have := quarantineID_inj (hid.trans heq)
  rw [List.mem_range] at hi
  omega

theorem Numbered.append (h : Numbered records) (hx : x.quarantineID = quarantineID (records.length + 1)) :
    Numbered (records ++ [x]) := by
  rw [Numbered, List.length_append, List.length_singleton, List.range_succ, List.map_append, List.map_append]
  refine List.Perm.append h ?_
  rw [List.map_singleton, List.map_singleton, hx]

theorem Numbered.of_perm {records' : List Quarantine} (h : Numbered records) (hperm : records'.Perm records) :
    Numbered records' := by
  rw [Numbered, hperm.length_eq]
  exact (hperm.map _).trans h

end

variable {c : Coordinator}

theorem mem_pendingProviderReversals {r : CanonicalReversalRecord} :
    r ∈ pendingProviderReversals c ↔ ∃ p q, c.pending.lookup p = some q ∧ r = pendingRecord q := by
  simp only [pendingProviderReversals, List.mem_map, mem_values]
  constructor
  · rintro ⟨q, ⟨p, hq⟩, rfl⟩
    exact ⟨p, q, hq, rfl⟩
  · rintro ⟨p, q, hq, rfl⟩
    exact ⟨q, ⟨p, hq⟩, rfl⟩

theorem mem_consumedProviderReversals {k : CanonicalReversalConsumption} :
    k ∈ consumedProviderReversals c ↔ ∃ p s, c.consumed.lookup p = some s ∧ k = consumption s := by
  simp only [consumedProviderReversals, (List.perm_insertionSort _ _).mem_iff, List.mem_map, mem_values]
  constructor
  · rintro ⟨s, ⟨p, hs⟩, rfl⟩
    exact ⟨p, s, hs, rfl⟩
  · rintro ⟨p, s, hs, rfl⟩
    exact ⟨s, ⟨p, hs⟩, rfl⟩

/-! ### The invariant -/

section

variable [Encoding]

/-- Every reversal that the coordinator reports has its record, and a pending one its entry; nothing is resolved under
    the number of a pending one. -/
structure Recorded (o : Orchestrator) (c : Coordinator) : Prop where
  inv : c.Inv
  numbered : Numbered o.quarantines
  pending : ∀ {p q}, c.pending.lookup p = some q →
    quarantineOf q ∈ o.quarantines ∧ o.pendingReversals.lookup q.quarantineID = some (pendingEntry q)
  consumed : ∀ {p k}, c.consumed.lookup p = some k → quarantineOf k.pending ∈ o.quarantines
  held : ∀ {id entry}, o.pendingReversals.lookup id = some entry → ∃ q, entry = pendingEntry q ∧ q.quarantineID = id ∧
    (c.pending.lookup q.paymentID = some q ∨ ∃ k, c.consumed.lookup q.paymentID = some k ∧ k.pending = q)
  resolutions : ∀ {id}, id ∈ o.quarantineResolutions →
    id ∉ o.pendingReversals ∧ ∃ record ∈ o.quarantines, record.quarantineID = id
  settled : ∀ {id}, id ∈ c.resolutions → (∃ record ∈ o.quarantines, record.quarantineID = id) ∧
    ∀ {p q}, c.pending.lookup p = some q → q.quarantineID ≠ id

namespace Recorded

variable {o o' : Orchestrator} {c c' : Coordinator} {k : ConsumedPendingReversalSnapshot} {p p' : String}
  {q : PendingReversalSnapshot} {resolution : QuarantineResolution}

theorem of_same (h : Recorded o c) (quarantines : o'.quarantines = o.quarantines)
    (pendingReversals : o'.pendingReversals = o.pendingReversals)
    (quarantineResolutions : o'.quarantineResolutions = o.quarantineResolutions) : Recorded o' c where
  inv := h.inv
  numbered := quarantines ▸ h.numbered
  pending hq := by
    rw [quarantines, pendingReversals]
    exact h.pending hq
  consumed hk := by
    rw [quarantines]
    exact h.consumed hk
  held hentry := h.held (pendingReversals ▸ hentry)
  resolutions hid := by
    rw [quarantines, pendingReversals]
    exact h.resolutions (quarantineResolutions ▸ hid)
  settled hid := by
    rw [quarantines]
    exact h.settled hid

theorem pending_ne_consumed (h : Recorded o c) (hq : c.pending.lookup p = some q) (hk : c.consumed.lookup p' = some k) :
    q.quarantineID ≠ k.pending.quarantineID := by
  intro same
  have heq := h.numbered.unique (h.pending hq).1 (h.consumed hk) same
  have hpayment : q.paymentID = k.pending.paymentID := congrArg Quarantine.paymentID heq
  obtain ⟨rfl, -⟩ := h.inv.pending_key hq
  obtain ⟨rfl, -⟩ := h.inv.consumed_key hk
  exact h.inv.pending_or_consumed hq (hpayment ▸ hk)

theorem append (h : Recorded o c) {record : Quarantine}
    (hrecord : record.quarantineID = quarantineID (o.quarantines.length + 1)) :
    Recorded { o with quarantines := o.quarantines ++ [record] } c where
  inv := h.inv
  numbered := h.numbered.append hrecord
  pending hq := ⟨List.mem_append_left _ (h.pending hq).1, (h.pending hq).2⟩
  consumed hk := List.mem_append_left _ (h.consumed hk)
  held := h.held
  resolutions hid := by
    obtain ⟨hfree, record, hmem, heq⟩ := h.resolutions hid
    exact ⟨hfree, record, List.mem_append_left _ hmem, heq⟩
  settled hid := by
    obtain ⟨⟨record, hmem, heq⟩, hne⟩ := h.settled hid
    exact ⟨⟨record, List.mem_append_left _ hmem, heq⟩, hne⟩

theorem consume (h : Recorded o c) (hk : c.consumed.lookup p = some k) : Recorded (o.consume (consumption k)) c := by
  have hrecord := h.consumed hk
  have hquarantines : (o.consume (consumption k)).quarantines = o.quarantines :=
    if_pos ⟨quarantineOf k.pending, hrecord, rfl⟩
  refine ⟨h.inv, hquarantines ▸ h.numbered, ?_, ?_, ?_, ?_, ?_⟩
  · intro p q hq
    refine ⟨hquarantines ▸ (h.pending hq).1, ?_⟩
    refine (lookup_erase_apply ..).trans ((if_neg ?_).trans (h.pending hq).2)
    exact h.pending_ne_consumed hq hk
  · intro p k hk
    exact hquarantines ▸ h.consumed hk
  · intro id entry hentry
    exact h.held (lookup_of_erase hentry).2
  · intro id hid
    rw [hquarantines]
    rcases mem_insert.mp hid with rfl | hid
    · exact ⟨notMem_erase_self, _, hrecord, rfl⟩
    · obtain ⟨hfree, hmem⟩ := h.resolutions hid
      exact ⟨fun hmem' => hfree (mem_erase.mp hmem').2, hmem⟩
  · intro id hid
    rw [hquarantines]
    exact h.settled hid

theorem refresh (h : Recorded o c) : Recorded (o.refresh (consumedProviderReversals c)).1 c := by
  refine Orchestrator.refresh_invariant (fun o => Recorded o c) ?_ ?_ h
  · intro o k hk _ _ h
    obtain ⟨p, s, hs, rfl⟩ := mem_consumedProviderReversals.mp hk
    exact h.consume hs
  · intro o o' p happly h
    rw [(Orchestrator.applyCanonicalConsumptions_eq_ok happly).1]
    exact h.of_same rfl rfl rfl

/-- The coordinator reports the same, or a pending reversal as consumed. -/
theorem coordinated (h : Recorded o c) (inv : c'.Inv)
    (reports : c'.pending = c.pending ∧ c'.consumed = c.consumed ∨
      ∃ k : ConsumedPendingReversalSnapshot, c.pending.lookup k.pending.paymentID = some k.pending ∧
        c'.pending = c.pending.erase k.pending.paymentID ∧ c'.consumed = c.consumed.insert k.pending.paymentID k)
    (resolutions : c'.resolutions = c.resolutions) : Recorded o c' := by
  rcases reports with ⟨pending, consumed⟩ | ⟨k, hk, pending, consumed⟩
  · exact { h with
      inv := inv
      pending := fun hq => h.pending (pending ▸ hq)
      consumed := fun hk => h.consumed (consumed ▸ hk)
      held := fun hentry => by
        rw [pending, consumed]
        exact h.held hentry
      settled := fun hid => by
        rw [pending]
        exact h.settled (resolutions ▸ hid) }
  · have still {p : String} {q : PendingReversalSnapshot} (hq : c'.pending.lookup p = some q) :
        c.pending.lookup p = some q := (lookup_of_erase (pending ▸ hq)).2
    refine ⟨inv, h.numbered, fun hq => h.pending (still hq), ?_, ?_, h.resolutions, fun hid =>
      ⟨(h.settled (resolutions ▸ hid)).1, fun hq => (h.settled (resolutions ▸ hid)).2 (still hq)⟩⟩
    · intro p k' hk'
      rw [consumed, lookup_insert_apply] at hk'
      split at hk'
      · cases hk'
        exact (h.pending hk).1
      · exact h.consumed hk'
    · intro id entry hentry
      obtain ⟨q, rfl, rfl, hreported⟩ := h.held hentry
      refine ⟨q, rfl, rfl, ?_⟩
      rw [pending, consumed, lookup_erase_apply, lookup_insert_apply]
      by_cases hp : q.paymentID = k.pending.paymentID
      · rw [if_pos hp, if_pos hp]
        refine .inr ⟨k, rfl, ?_⟩
        rcases hreported with hq | ⟨k', hk', rfl⟩
        · rw [hp] at hq
          exact Option.some.inj (hk.symm.trans hq)
        · exact (h.inv.pending_or_consumed hk (hp ▸ hk')).elim
      · rw [if_neg hp, if_neg hp]
        exact hreported

/-- A reversal becomes pending under the next number. -/
theorem pend (h : Recorded o c) (inv : c'.Inv) (hid : q.quarantineID = quarantineID (o.quarantines.length + 1))
    (free : c.pending.lookup q.paymentID = none) (pending : c'.pending = c.pending.insert q.paymentID q)
    (consumed : c'.consumed = c.consumed) (resolutions : c'.resolutions = c.resolutions)
    (quarantines : o'.quarantines = o.quarantines ++ [quarantineOf q])
    (pendingReversals : o'.pendingReversals = o.pendingReversals.insert q.quarantineID (pendingEntry q))
    (quarantineResolutions : o'.quarantineResolutions = o.quarantineResolutions) : Recorded o' c' := by
  have fresh {record : Quarantine} (hmem : record ∈ o.quarantines) : record.quarantineID ≠ q.quarantineID :=
    hid ▸ h.numbered.fresh hmem
  have old {record : Quarantine} (hmem : record ∈ o.quarantines) : record ∈ o'.quarantines :=
    quarantines ▸ List.mem_append_left _ hmem
  refine ⟨inv, ?_, ?_, ?_, ?_, ?_, ?_⟩
  · rw [quarantines]
    exact h.numbered.append hid
  · intro p q' hq'
    rw [pending, lookup_insert_apply] at hq'
    rw [pendingReversals, lookup_insert_apply]
    split at hq'
    · cases hq'
      exact ⟨quarantines ▸ List.mem_append_right _ List.mem_cons_self, if_pos rfl⟩
    · obtain ⟨hmem, hentry⟩ := h.pending hq'
      exact ⟨old hmem, (if_neg (fresh hmem)).trans hentry⟩
  · intro p k hk
    exact old (h.consumed (consumed ▸ hk))
  · intro id entry hentry
    rw [pendingReversals, lookup_insert_apply] at hentry
    rw [pending, consumed]
    split at hentry
    · next hid =>
      cases hentry
      exact ⟨q, rfl, hid.symm, .inl (lookup_insert _)⟩
    · obtain ⟨q', rfl, rfl, hreported⟩ := h.held hentry
      refine ⟨q', rfl, rfl, hreported.imp_left fun hq' => ?_⟩
      rw [lookup_insert_apply, if_neg, hq']
      intro hp
      rw [hp, free] at hq'
      cases hq'
  · intro id hmem
    obtain ⟨hfree, record, hrecord, rfl⟩ := h.resolutions (quarantineResolutions ▸ hmem)
    refine ⟨?_, record, old hrecord, rfl⟩
    rw [pendingReversals, mem_insert]
    exact not_or.mpr ⟨fresh hrecord, hfree⟩
  · intro id hmem
    obtain ⟨⟨record, hrecord, rfl⟩, hne⟩ := h.settled (resolutions ▸ hmem)
    refine ⟨⟨record, old hrecord, rfl⟩, fun {p q'} hq' => ?_⟩
    rw [pending, lookup_insert_apply] at hq'
    split at hq'
    · cases hq'
      exact (fresh hrecord).symm
    · exact hne hq'

theorem pending_unique (h : Recorded o c) {q' : PendingReversalSnapshot} (hq : c.pending.lookup p = some q)
    (hq' : c.pending.lookup p' = some q') (same : q'.quarantineID = q.quarantineID) : p' = p := by
  have heq := h.numbered.unique (h.pending hq').1 (h.pending hq).1 same
  rw [← (h.inv.pending_key hq).1, ← (h.inv.pending_key hq').1]
  exact congrArg Quarantine.paymentID heq

theorem resolve (h : Recorded o c) (inv : c'.Inv) {stored : Settlement.StoredReversalResolution}
    (hq : c.pending.lookup p = some q) (pending : c'.pending = c.pending.erase p) (consumed : c'.consumed = c.consumed)
    (resolutions : c'.resolutions = c.resolutions.insert q.quarantineID stored)
    (quarantines : o'.quarantines = o.quarantines)
    (pendingReversals : o'.pendingReversals = o.pendingReversals.erase q.quarantineID)
    (quarantineResolutions : o'.quarantineResolutions = o.quarantineResolutions.insert q.quarantineID resolution) :
    Recorded o' c' := by
  have still {p' : String} {q' : PendingReversalSnapshot} (hq' : c'.pending.lookup p' = some q') :
      c.pending.lookup p' = some q' ∧ q'.quarantineID ≠ q.quarantineID := by
    obtain ⟨hp, hq'⟩ := lookup_of_erase (pending ▸ hq')
    exact ⟨hq', fun same => hp (h.pending_unique hq hq' same)⟩
  refine ⟨inv, quarantines ▸ h.numbered, ?_, ?_, ?_, ?_, ?_⟩
  · intro p' q' hq'
    obtain ⟨hq', hne⟩ := still hq'
    rw [quarantines, pendingReversals, lookup_erase_apply, if_neg hne]
    exact h.pending hq'
  · intro p' k hk
    rw [quarantines]
    exact h.consumed (consumed ▸ hk)
  · intro id entry hentry
    obtain ⟨hid, hentry⟩ := lookup_of_erase (pendingReversals ▸ hentry)
    obtain ⟨q', rfl, rfl, hreported⟩ := h.held hentry
    rw [pending, consumed]
    refine ⟨q', rfl, rfl, hreported.imp_left fun hq' => ?_⟩
    rw [lookup_erase_apply, if_neg, hq']
    intro hp
    rw [hp, hq] at hq'
    cases hq'
    exact hid rfl
  · intro id hid
    rw [quarantines, pendingReversals]
    rw [quarantineResolutions, mem_insert] at hid
    rcases hid with rfl | hid
    · exact ⟨notMem_erase_self, _, (h.pending hq).1, rfl⟩
    · obtain ⟨hfree, hrecord⟩ := h.resolutions hid
      exact ⟨fun hmem => hfree (mem_erase.mp hmem).2, hrecord⟩
  · intro id hid
    rw [quarantines]
    rw [resolutions, mem_insert] at hid
    rcases hid with rfl | hid
    · exact ⟨⟨_, (h.pending hq).1, rfl⟩, fun hq' => (still hq').2⟩
    · exact ⟨(h.settled hid).1, fun hq' => (h.settled hid).2 (still hq').1⟩

/-- A reversal that the coordinator has resolved is answered from its resolution. -/
theorem replay (h : Recorded o c) {id : String} (hid : id ∈ c.resolutions)
    (quarantines : o'.quarantines = o.quarantines)
    (pendingReversals : o'.pendingReversals = o.pendingReversals.erase id)
    (quarantineResolutions : o'.quarantineResolutions = o.quarantineResolutions.insert id resolution) :
    Recorded o' c := by
  refine ⟨h.inv, quarantines ▸ h.numbered, ?_, ?_, ?_, ?_, ?_⟩
  · intro p q hq
    rw [quarantines, pendingReversals, lookup_erase_apply, if_neg ((h.settled hid).2 hq)]
    exact h.pending hq
  · intro p k hk
    exact quarantines ▸ h.consumed hk
  · intro id' entry hentry
    exact h.held (lookup_of_erase (pendingReversals ▸ hentry)).2
  · intro id' hid'
    rw [quarantines, pendingReversals]
    rw [quarantineResolutions, mem_insert] at hid'
    rcases hid' with rfl | hid'
    · exact ⟨notMem_erase_self, (h.settled hid).1⟩
    · obtain ⟨hfree, hrecord⟩ := h.resolutions hid'
      exact ⟨fun hmem => hfree (mem_erase.mp hmem).2, hrecord⟩
  · intro id' hid'
    exact quarantines ▸ h.settled hid'

theorem resolveQuarantine (h : Recorded o c) {r : QuarantineResolution} (hok : o.resolveQuarantine r = .ok o') :
    Recorded o' c := by
  simp only [Orchestrator.resolveQuarantine, block_eq_ok] at hok
  obtain ⟨-, ⟨hfree, -⟩, ⟨record, hrecord, hid, -⟩, rfl⟩ := hok
  refine ⟨h.inv, h.numbered, h.pending, h.consumed, h.held, ?_, h.settled⟩
  intro id hmem
  rcases mem_insert.mp hmem with rfl | hmem
  · exact ⟨hfree, record, hrecord, hid⟩
  · exact h.resolutions hmem

end Recorded

/-! ### Restarts -/

section

omit [Encoding]

/-- What is restored of the pending reversals in `before`. -/
structure Restoring (before : List CanonicalReversalRecord) (o : Orchestrator) : Prop where
  quarantines : o.quarantines = before.map fun r => quarantineRecord r.quarantineID r.providerID r.providerEventID
    r.paymentID r.rawHash r.callbackEvidenceHash .canonicalSettlementSubmitted r.receivedAt
  entries : ∀ id entry, o.pendingReversals.lookup id = some entry ↔
    ∃ r ∈ before, r.quarantineID = id ∧ entry = Orchestrator.restoredPending r
  nodup : (before.map (·.quarantineID)).Nodup
  resolutions : o.quarantineResolutions = ∅
  consumed : o.consumedReversals = ∅
  payments : o.payments = ∅ ∧ o.events = ∅ ∧ o.rawCallbacks = []

variable {o : Orchestrator}

theorem Restoring.next {before : List CanonicalReversalRecord} {o' : Orchestrator} {r : CanonicalReversalRecord}
    (h : Restoring before o) (hok : o.restorePending r = .ok o') : Restoring (before ++ [r]) o' := by
  simp only [Orchestrator.restorePending, block_eq_ok] at hok
  obtain ⟨-, -, hfree, rfl⟩ := hok
  refine ⟨?_, ?_, ?_, h.resolutions, h.consumed, h.payments⟩
  · rw [List.map_append, ← h.quarantines]
    rfl
  · intro id entry
    rw [lookup_insert_apply]
    simp only [List.mem_append, List.mem_singleton, or_and_right, exists_or, exists_eq_left]
    split
    · next hid =>
      subst hid
      rw [or_iff_right]
      · simp [eq_comm]
      · intro hold
        exact hfree (mem_of_lookup_eq_some ((h.entries _ _).mpr hold))
    · next hid =>
      rw [h.entries, or_iff_left]
      exact fun hnew => hid hnew.1.symm
  · rw [List.map_append, List.map_singleton]
    refine h.nodup.append (List.nodup_singleton _) (List.disjoint_singleton.mpr ?_)
    intro hmem
    obtain ⟨r', hr', hid⟩ := List.mem_map.mp hmem
    exact hfree (mem_of_lookup_eq_some ((h.entries _ _).mpr ⟨r', hr', hid, rfl⟩))

/-- A new orchestrator has the pending reversals restored and the consumed ones taken over. -/
theorem new_eq_ok {providers : List Provider} {c : Coordinator} (h : Orchestrator.new providers c = .ok o) :
    ∃ restored, Restoring (pendingProviderReversals c) restored ∧
      (restored.refresh (consumedProviderReversals c)).2 = none ∧
      o = (restored.refresh (consumedProviderReversals c)).1 := by
  simp only [Orchestrator.new, block_eq_ok] at h
  obtain ⟨-, configured, -, restored, hrestored, h⟩ := h
  refine ⟨restored, ?_, ?_⟩
  · refine foldlM_trail Restoring (fun before r _ o o' hok h => h.next hok) hrestored ?_
    exact ⟨rfl, by simp [Orchestrator.fresh], List.nodup_nil, rfl, rfl, rfl, rfl, rfl⟩
  · split at h
    · next o' hrefresh =>
      cases h
      exact ⟨congrArg Prod.snd hrefresh, congrArg Prod.fst hrefresh.symm⟩
    · cases h

end

/-- A new orchestrator while the consumed reversals are taken over. -/
structure Rebuilt (c : Coordinator) (o : Orchestrator) : Prop where
  nodup : (o.quarantines.map (·.quarantineID)).Nodup
  records : ∀ record ∈ o.quarantines, (∃ p q, c.pending.lookup p = some q ∧ record = quarantineOf q) ∨
    ∃ p k, c.consumed.lookup p = some k ∧ record = quarantineOf k.pending
  pending : ∀ {p q}, c.pending.lookup p = some q →
    quarantineOf q ∈ o.quarantines ∧ o.pendingReversals.lookup q.quarantineID = some (pendingEntry q)
  held : ∀ {id entry}, o.pendingReversals.lookup id = some entry →
    ∃ p q, c.pending.lookup p = some q ∧ q.quarantineID = id ∧ entry = pendingEntry q
  resolutions : ∀ {id}, id ∈ o.quarantineResolutions →
    id ∉ o.pendingReversals ∧ ∃ record ∈ o.quarantines, record.quarantineID = id
  taken : ∀ {id}, id ∈ o.consumedReversals → ∃ record ∈ o.quarantines, record.quarantineID = id

section

variable {o o' : Orchestrator} {c : Coordinator}

omit [Encoding]

theorem Rebuilt.of_restoring (h : Restoring (pendingProviderReversals c) o) : Rebuilt c o where
  nodup := by
    rw [h.quarantines, List.map_map]
    exact h.nodup
  records record hmem := by
    rw [h.quarantines] at hmem
    obtain ⟨r, hr, rfl⟩ := List.mem_map.mp hmem
    obtain ⟨p, q, hq, rfl⟩ := mem_pendingProviderReversals.mp hr
    exact .inl ⟨p, q, hq, rfl⟩
  pending {p q} hq := by
    have hmem : pendingRecord q ∈ pendingProviderReversals c := mem_pendingProviderReversals.mpr ⟨p, q, hq, rfl⟩
    refine ⟨?_, (h.entries _ _).mpr ⟨_, hmem, rfl, rfl⟩⟩
    rw [h.quarantines]
    exact List.mem_map.mpr ⟨_, hmem, rfl⟩
  held hentry := by
    obtain ⟨r, hr, rfl, rfl⟩ := (h.entries _ _).mp hentry
    obtain ⟨p, q, hq, rfl⟩ := mem_pendingProviderReversals.mp hr
    exact ⟨p, q, hq, rfl, rfl⟩
  resolutions hid := by
    rw [h.resolutions] at hid
    exact absurd hid notMem_empty
  taken hid := by
    rw [h.consumed] at hid
    exact absurd hid notMem_empty

theorem Rebuilt.of_same (h : Rebuilt c o) (quarantines : o'.quarantines = o.quarantines)
    (pendingReversals : o'.pendingReversals = o.pendingReversals)
    (quarantineResolutions : o'.quarantineResolutions = o.quarantineResolutions)
    (consumedReversals : o'.consumedReversals = o.consumedReversals) : Rebuilt c o' := by
  refine ⟨quarantines ▸ h.nodup, quarantines ▸ h.records, fun hq => ?_, fun hentry => h.held (pendingReversals ▸ hentry),
    fun hid => ?_, fun hid => ?_⟩
  · rw [quarantines, pendingReversals]
    exact h.pending hq
  · rw [quarantines, pendingReversals]
    exact h.resolutions (quarantineResolutions ▸ hid)
  · rw [quarantines]
    exact h.taken (consumedReversals ▸ hid)

theorem Rebuilt.consume {p : String} {k : ConsumedPendingReversalSnapshot} (h : Rebuilt c o)
    (distinct : ∀ {p q}, c.pending.lookup p = some q → q.quarantineID ≠ k.pending.quarantineID)
    (hk : c.consumed.lookup p = some k) : Rebuilt c (o.consume (consumption k)) := by
  have hquarantines : (o.consume (consumption k)).quarantines =
      if ∃ q ∈ o.quarantines, q.quarantineID = k.pending.quarantineID then o.quarantines
      else o.quarantines ++ [quarantineOf k.pending] := rfl
  have old {record : Quarantine} (hmem : record ∈ o.quarantines) :
      record ∈ (o.consume (consumption k)).quarantines := by
    rw [hquarantines]
    split
    · exact hmem
    · exact List.mem_append_left _ hmem
  have there : ∃ record ∈ (o.consume (consumption k)).quarantines, record.quarantineID = k.pending.quarantineID := by
    rw [hquarantines]
    split
    · next hexists => exact hexists
    · exact ⟨_, List.mem_append_right _ List.mem_cons_self, rfl⟩
  refine ⟨?_, ?_, ?_, ?_, ?_, ?_⟩
  · rw [hquarantines]
    split
    · exact h.nodup
    · next habsent =>
      rw [List.map_append]
      refine h.nodup.append (List.nodup_singleton _) (List.disjoint_singleton.mpr fun hmem => ?_)
      obtain ⟨record, hrecord, hid⟩ := List.mem_map.mp hmem
      exact habsent ⟨record, hrecord, hid⟩
  · intro record hmem
    rw [hquarantines] at hmem
    split at hmem
    · exact h.records record hmem
    · rcases List.mem_append.mp hmem with hmem | hmem
      · exact h.records record hmem
      · rw [List.mem_singleton] at hmem
        exact .inr ⟨p, k, hk, hmem⟩
  · intro p q hq
    refine ⟨old (h.pending hq).1, (lookup_erase_apply ..).trans ((if_neg (distinct hq)).trans (h.pending hq).2)⟩
  · intro id entry hentry
    exact h.held (lookup_of_erase hentry).2
  · intro id hid
    rcases mem_insert.mp hid with rfl | hid
    · exact ⟨notMem_erase_self, there⟩
    · obtain ⟨hfree, record, hmem, rfl⟩ := h.resolutions hid
      exact ⟨fun hmem' => hfree (mem_erase.mp hmem').2, record, old hmem, rfl⟩
  · intro id hid
    rcases mem_insert.mp hid with rfl | hid
    · exact there
    · obtain ⟨record, hmem, rfl⟩ := h.taken hid
      exact ⟨record, old hmem, rfl⟩

end

/-- Every record that the orchestrator holds is of a reversal that the coordinator reports. -/
def RecordsReported (w : World) : Prop :=
  ∀ record ∈ w.orchestrator.quarantines,
    (∃ r ∈ pendingProviderReversals w.coordinator, r.quarantineID = record.quarantineID) ∨
      ∃ k ∈ consumedProviderReversals w.coordinator, k.quarantineID = record.quarantineID

section

variable {o o' : Orchestrator} {c : Coordinator} {providers : List Provider} {intents : List Intent}

theorem Recorded.rebuilt (h : Recorded o c) (hnew : Orchestrator.new providers c = .ok o') : Rebuilt c o' := by
  obtain ⟨restored, hrestored, -, rfl⟩ := new_eq_ok hnew
  refine Orchestrator.refresh_invariant (Rebuilt c) ?_ ?_ (.of_restoring hrestored)
  · intro o k hk _ _ hrebuilt
    obtain ⟨p, s, hs, rfl⟩ := mem_consumedProviderReversals.mp hk
    exact hrebuilt.consume (fun hq => h.pending_ne_consumed hq hs) hs
  · intro o o' p happly hrebuilt
    rw [(Orchestrator.applyCanonicalConsumptions_eq_ok happly).1]
    exact hrebuilt.of_same rfl rfl rfl rfl

/-- A restart that brings every record back. -/
theorem Recorded.new (h : Recorded o c) (hnew : Orchestrator.new providers c = .ok o') {w : World}
    (hw : w.orchestrator = o ∧ w.coordinator = c) (reported : RecordsReported w) :
    Recorded o' c ∧ (∀ record, record ∈ o'.quarantines ↔ record ∈ o.quarantines) := by
  obtain ⟨rfl, rfl⟩ := hw
  have rebuilt := h.rebuilt hnew
  have old {record : Quarantine} (hmem : record ∈ o'.quarantines) : record ∈ w.orchestrator.quarantines := by
    rcases rebuilt.records record hmem with ⟨p, q, hq, rfl⟩ | ⟨p, k, hk, rfl⟩
    · exact (h.pending hq).1
    · exact h.consumed hk
  have back {record : Quarantine} (hmem : record ∈ w.orchestrator.quarantines) : record ∈ o'.quarantines := by
    rcases reported record hmem with ⟨r, hr, hid⟩ | ⟨k, hk, hid⟩
    · obtain ⟨p, q, hq, rfl⟩ := mem_pendingProviderReversals.mp hr
      rw [← h.numbered.unique (h.pending hq).1 hmem hid]
      exact (rebuilt.pending hq).1
    · obtain ⟨restored, -, hrefresh, rfl⟩ := new_eq_ok hnew
      have htaken := Orchestrator.refresh_taken hrefresh hk
      obtain ⟨record', hmem', hid'⟩ := rebuilt.taken (mem_of_lookup_eq_some htaken)
      rw [← h.numbered.unique (old hmem') hmem (hid'.trans hid)]
      exact hmem'
  refine ⟨⟨h.inv, ?_, rebuilt.pending, fun hk => back (h.consumed hk), ?_, rebuilt.resolutions, ?_⟩,
    fun record => ⟨old, back⟩⟩
  · refine h.numbered.of_perm ((List.perm_ext_iff_of_nodup ?_ ?_).mpr fun record => ⟨old, back⟩)
    · exact rebuilt.nodup.of_map _
    · exact h.numbered.nodup.of_map _
  · intro id entry hentry
    obtain ⟨p, q, hq, rfl, rfl⟩ := rebuilt.held hentry
    obtain ⟨rfl, -⟩ := h.inv.pending_key hq
    exact ⟨q, rfl, rfl, .inl hq⟩
  · intro id hid
    obtain ⟨⟨record, hmem, heq⟩, hne⟩ := h.settled hid
    exact ⟨⟨record, back hmem, heq⟩, hne⟩

/-- What a call leaves of the quarantine: every record, and no entry replaced by another one under its number. -/
structure Carries (o o' : Orchestrator) : Prop where
  records : ∀ record ∈ o.quarantines, record ∈ o'.quarantines
  entries : ∀ {id entry}, o'.pendingReversals.lookup id = some entry →
    o.pendingReversals.lookup id = some entry ∨ ∀ record ∈ o.quarantines, record.quarantineID ≠ id

section

omit [Encoding]

variable {o₁ o₂ o₃ : Orchestrator}

theorem Carries.of_same (quarantines : o₂.quarantines = o₁.quarantines)
    (pendingReversals : o₂.pendingReversals = o₁.pendingReversals) : Carries o₁ o₂ where
  records _ hmem := quarantines ▸ hmem
  entries hentry := .inl (pendingReversals ▸ hentry)

theorem Carries.of_erase {id : String} (quarantines : o₂.quarantines = o₁.quarantines)
    (pendingReversals : o₂.pendingReversals = o₁.pendingReversals.erase id) : Carries o₁ o₂ where
  records _ hmem := quarantines ▸ hmem
  entries hentry := .inl (lookup_of_erase (pendingReversals ▸ hentry)).2

theorem Carries.trans (h : Carries o₁ o₂) (h' : Carries o₂ o₃) : Carries o₁ o₃ where
  records record hmem := h'.records record (h.records record hmem)
  entries hentry := by
    rcases h'.entries hentry with hentry | hfresh
    · exact h.entries hentry
    · exact .inr fun record hmem => hfresh record (h.records record hmem)

theorem Carries.refresh (o : Orchestrator) (ks : List CanonicalReversalConsumption) : Carries o (o.refresh ks).1 := by
  refine Orchestrator.refresh_invariant (Carries o) ?_ ?_ (.of_same rfl rfl)
  · intro o' k _ _ _ h
    refine h.trans ⟨fun record hmem => ?_, fun hentry => .inl (lookup_of_erase hentry).2⟩
    change record ∈ ite _ _ _
    split
    · exact hmem
    · exact List.mem_append_left _ hmem
  · intro o' o'' p happly h
    rw [(Orchestrator.applyCanonicalConsumptions_eq_ok happly).1]
    exact h.trans (.of_same rfl rfl)

end

/-! ### Calls -/

/-- A restart is made only when every record will come back. -/
def KeepsRecords (w : World) : World.Call → Prop
  | .rebuild _ _ => RecordsReported w
  | _ => True

end

end

section

variable [Codec] {w w' : World} {d : Orchestrator.Delivery} {now : Time} {faults : Faults} {answer : Answer}
  {c : Coordinator} {o o' : Orchestrator} {providers : List Provider} {call : World.Call}
  {calls later : List World.Call}

theorem Recorded.quarantineReversal {c' : Coordinator} {provider : Provider} {callback : Callback} {current : Intent}
    {commit : Except Errors Unit} {claim : Option Claim} (h : Recorded o c) (inv : c'.Inv)
    (applicable : o.Applicable d provider callback current) (reversed : callback.status = .reversed)
    (disposed : Coordinator.Disposed (o.reversalRecord d callback) commit c c' claim .quarantined) :
    Recorded (o.quarantineReversal d callback current claim).1 c' ∧
      Carries o (o.quarantineReversal d callback current claim).1 ∧
      ∃ q : PendingReversalSnapshot, q.providerID = d.providerID ∧ q.providerEventID = d.providerEventID ∧
        q.rawHash = hashBytes d.raw ∧ c.pending.lookup q.paymentID = none ∧ c'.pending = c.pending.insert q.paymentID q ∧
        c'.consumed = c.consumed ∧ c'.resolutions = c.resolutions := by
  cases disposed with
  | replayed _ _ hpending _ _ same =>
    -- the pending reversal has a record, so its number is not the next one
    exact absurd (congrArg Settlement.CallbackFields.quarantineID same) (h.numbered.fresh (h.pending hpending).1)
  | posted _ _ _ _ posts => rcases posts with h | h <;> cases h
  | @quarantined claim c₁ _ hquarantine =>
    obtain ⟨plan, hplan, state, hmatches, -, pending, consumed, resolutions⟩ :=
      Coordinator.quarantine_eq_ok hquarantine
    obtain ⟨key, claim', -, planned⟩ := h.inv.now hplan
    have key : plan.paymentID = callback.paymentID := key
    have hcallback : callback = Orchestrator.restoredCallback
        (pendingRecord (Settlement.pendingSnapshot (o.reversalRecord d callback) plan plan.state)) := by
      cases callback
      simp only at reversed key
      subst reversed
      simp only [Orchestrator.restoredCallback, pendingRecord, Settlement.pendingSnapshot, Orchestrator.reversalRecord, key]
    have hrecord : quarantineOf (Settlement.pendingSnapshot (o.reversalRecord d callback) plan plan.state) =
        quarantineRecord (quarantineID (o.quarantines.length + 1)) d.providerID d.providerEventID callback.paymentID
          (hashBytes d.raw) callback.evidenceHash .canonicalSettlementSubmitted d.receivedAt := by
      rw [quarantineOf, ← applicable.sender, ← applicable.named, ← key]
      rfl
    have hentry : pendingEntry (Settlement.pendingSnapshot (o.reversalRecord d callback) plan plan.state) =
        Orchestrator.pendingOf (o.reversalRecord d callback) callback (some { claim with state := .quarantined }) := by
      obtain ⟨-, hpayment, hallocation, hdigest⟩ := hmatches
      rw [pendingEntry, Orchestrator.restoredPending, ← hcallback]
      simp only [Orchestrator.pendingOf, Option.map_some, Option.getD_some, hpayment, hallocation, hdigest]
      rfl
    have hpending : c₁.pending = c.pending.insert
        (Settlement.pendingSnapshot (o.reversalRecord d callback) plan plan.state).paymentID
        (Settlement.pendingSnapshot (o.reversalRecord d callback) plan plan.state) := by
      rw [pending]
      exact congrArg (c.pending.insert · _) key.symm
    have free : c.pending.lookup (Settlement.pendingSnapshot (o.reversalRecord d callback) plan plan.state).paymentID =
        none := (congrArg c.pending.lookup key).trans (planned.unquarantined state)
    refine ⟨?_, ?_, _, applicable.sender, applicable.named, rfl, free, hpending, consumed, resolutions⟩
    · refine h.pend inv rfl free hpending consumed resolutions ?_ ?_ rfl
      · rw [hrecord]
        rfl
      · rw [hentry]
        rfl
    · refine ⟨fun record hmem => List.mem_append_left _ hmem, fun {id entry} hlookup => ?_⟩
      rw [show (o.quarantineReversal d callback current (some { claim with state := .quarantined })).1.pendingReversals =
        o.pendingReversals.insert (quarantineID (o.quarantines.length + 1)) _ from rfl,
        lookup_insert_apply] at hlookup
      split at hlookup
      · next hid => exact .inr fun record hmem => hid ▸ h.numbered.fresh hmem
      · exact .inl hlookup

theorem Recorded.received (h : Recorded w.orchestrator w.coordinator) (hreceived : World.Received w d now faults w' answer) :
    Recorded w'.orchestrator w'.coordinator ∧ Carries w.orchestrator w'.orchestrator := by
  cases hreceived with
  | rejected => exact ⟨h.append rfl, fun _ hmem => List.mem_append_left _ hmem, .inl⟩
  | replayed | refused | failed => exact ⟨h, .of_same rfl rfl⟩
  | unchanged | advanced => exact ⟨h.of_same rfl rfl rfl, .of_same rfl rfl⟩
  | quarantined haccept reversed valid disposed =>
    obtain ⟨provider, applicable⟩ := Orchestrator.accept_apply haccept
    obtain ⟨hrecorded, hcarries, -⟩ := h.quarantineReversal (disposed.inv h.inv valid) applicable reversed disposed
    exact ⟨hrecorded, hcarries⟩
  | incident _ _ valid disposed =>
    refine ⟨?_, .of_same rfl rfl⟩
    obtain ⟨pending, consumed, resolutions⟩ := disposed.unreported (by simp)
    exact (h.coordinated (disposed.inv h.inv valid) (.inl ⟨pending, consumed⟩) resolutions).of_same rfl rfl rfl
  | reversed _ _ valid _ disposed hdisposition =>
    refine ⟨?_, .of_same rfl rfl⟩
    obtain ⟨pending, consumed, resolutions⟩ :=
      disposed.unreported (by rcases hdisposition with ⟨rfl, -⟩ | ⟨rfl, -⟩ <;> simp)
    exact (h.coordinated (disposed.inv h.inv valid) (.inl ⟨pending, consumed⟩) resolutions).of_same rfl rfl rfl

theorem Recorded.resolves {r : CanonicalReversalResolutionRequest} {accountingFails : Bool}
    {result : Except PaymentError Resolved} (h : Recorded w.orchestrator w.coordinator)
    (hresolves : World.Resolves w r now accountingFails w' result) :
    Recorded w'.orchestrator w'.coordinator ∧ Carries w.orchestrator w'.orchestrator := by
  cases hresolves with
  | refused | failed => exact ⟨h, .of_same rfl rfl⟩
  | replayed hresolved hreplay =>
    obtain ⟨-, ⟨⟩⟩ | ⟨stored, hstored, -, -⟩ := World.resolvedProviderReversal_eq_ok hresolved
    obtain ⟨current, next, result, resolution, -, -, -, rfl⟩ := World.replayResolution_eq_ok hreplay
    exact ⟨h.replay (mem_of_lookup_eq_some hstored) rfl rfl rfl, .of_erase rfl rfl⟩
  | @resolved _ _ _ c _ _ _ resolution unresolved _ hok =>
    obtain ⟨hnone, -⟩ | ⟨stored, -, -, ⟨⟩⟩ := World.resolvedProviderReversal_eq_ok unresolved
    have inv : c.Inv := by
      rcases Coordinator.resolveProviderReversal_stepped h.inv hok with rfl | stepped
      · exact h.inv
      · exact stepped.inv h.inv
    rcases Coordinator.resolveProviderReversal_reports hok with hmem | ⟨q, stored, -, hq, same, hpend, hconsumed, hresolutions⟩
    · exact absurd hmem (lookup_eq_none.mp hnone)
    · have hid : r.quarantineID = q.quarantineID := (congrArg Settlement.CallbackFields.quarantineID same).symm
      have hsettled := hresolutions.trans (congrArg (w.coordinator.resolutions.insert · stored) hid)
      refine ⟨h.resolve inv hq hpend hconsumed hsettled rfl ?_
        (congrArg (w.orchestrator.quarantineResolutions.insert · resolution) hid), .of_erase rfl rfl⟩
      exact congrArg w.orchestrator.pendingReversals.erase hid

theorem Recorded.restorePayment {i : Intent} (h : Recorded o c) (hok : o.restorePayment i = .ok o') :
    Recorded o' c ∧ Carries o o' := by
  rcases Orchestrator.restorePayment_eq_ok hok with ⟨rfl, -⟩ | ⟨-, happly⟩
  · exact ⟨h, .of_same rfl rfl⟩
  · rw [(Orchestrator.applyCanonicalConsumptions_eq_ok happly).1]
    exact ⟨h.of_same rfl rfl rfl, .of_same rfl rfl⟩

theorem Recorded.rebuild (h : Recorded w.orchestrator w.coordinator) (reported : RecordsReported w)
    {intents : List Intent} (hok : w.rebuild providers intents = .ok w') :
    Recorded w'.orchestrator w'.coordinator ∧ Carries w.orchestrator w'.orchestrator := by
  simp only [World.rebuild, bind_eq_ok, pure_eq_ok] at hok
  obtain ⟨o, hnew, o', hrestore, rfl⟩ := hok
  obtain ⟨hrecorded, hrecords⟩ := h.new hnew ⟨rfl, rfl⟩ reported
  have hcarries : Carries w.orchestrator o := by
    refine ⟨fun record => (hrecords record).mpr, fun {id entry} hentry => .inl ?_⟩
    obtain ⟨p, q, hq, rfl, rfl⟩ := (h.rebuilt hnew).held hentry
    exact (h.pending hq).2
  refine foldlM_invariant (fun o => Recorded o w.coordinator ∧ Carries w.orchestrator o) ?_ hrestore ⟨hrecorded, hcarries⟩
  rintro i - o o' hok ⟨h, hcarries⟩
  obtain ⟨hrecorded, hcarries'⟩ := h.restorePayment hok
  exact ⟨hrecorded, hcarries.trans hcarries'⟩

theorem Recorded.step (h : Recorded w.orchestrator w.coordinator) (kept : KeepsRecords w call) :
    Recorded (w.step call).orchestrator (w.step call).coordinator ∧ Carries w.orchestrator (w.step call).orchestrator := by
  have hstep := w.stepped h.inv call
  generalize w.step call = w' at hstep ⊢
  cases hstep with
  | same => exact ⟨h, .of_same rfl rfl⟩
  | refreshed => exact ⟨h.refresh, .refresh _ _⟩
  | created _ _ heq =>
    rw [heq]
    exact ⟨h.of_same rfl rfl rfl, .of_same rfl rfl⟩
  | restored hok => exact h.restorePayment hok
  | @received _ d _ _ _ _ hreceived =>
    obtain ⟨hrecorded, hcarries⟩ := Recorded.received (w := w.receiving d) (h.refresh.of_same rfl rfl rfl) hreceived
    have hkept : Carries w.refreshed.orchestrator (w.receiving d).orchestrator := .of_same rfl rfl
    exact ⟨hrecorded, ((Carries.refresh _ _).trans hkept).trans hcarries⟩
  | resolves hresolves =>
    obtain ⟨hrecorded, hcarries⟩ := Recorded.resolves (w := w.refreshed) h.refresh hresolves
    exact ⟨hrecorded, (Carries.refresh _ _).trans hcarries⟩
  | settled hok =>
    refine ⟨h.resolveQuarantine hok, ?_⟩
    simp only [Orchestrator.resolveQuarantine, block_eq_ok] at hok
    obtain ⟨-, -, -, rfl⟩ := hok
    exact .of_same rfl rfl
  | coordinated hok hhandle hresolve =>
    obtain ⟨reports, resolutions⟩ := Coordinator.exec_reports h.inv hok hhandle hresolve
    exact ⟨h.coordinated (h.inv.exec hok) reports resolutions, .of_same rfl rfl⟩
  | rebuilt hok => exact h.rebuild kept hok

/-! ### Runs -/

/-- Every restart of a run is made only when every record will come back. -/
def KeepsAll (w : World) (calls : List World.Call) : Prop :=
  ∀ before call after, calls = before ++ call :: after → KeepsRecords (w.run before) call

theorem KeepsAll.concat (h : KeepsAll w calls) (hcall : KeepsRecords (w.run calls) call) : KeepsAll w (calls ++ [call]) := by
  intro before call' after heq
  rcases after.eq_nil_or_concat with rfl | ⟨after, last, rfl⟩
  · obtain ⟨rfl, hlast⟩ := List.append_inj' heq rfl
    cases hlast
    exact hcall
  · have hinit : calls ++ [call] = (before ++ call' :: after) ++ [last] := by
      rw [heq]
      simp
    exact h before call' after (List.append_inj' hinit rfl).1

theorem KeepsAll.left (h : KeepsAll w (calls ++ later)) : KeepsAll w calls := by
  rintro before call after rfl
  exact h before call (after ++ later) (by simp)

theorem run_append (w : World) (calls later : List World.Call) : w.run (calls ++ later) = (w.run calls).run later :=
  List.foldl_append

theorem KeepsAll.right (h : KeepsAll w (calls ++ later)) : KeepsAll (w.run calls) later := by
  rintro before call after rfl
  rw [← run_append]
  exact h (calls ++ before) call after (by simp)

theorem Recorded.run (h : Recorded w.orchestrator w.coordinator) (kept : KeepsAll w calls) :
    Recorded (w.run calls).orchestrator (w.run calls).coordinator ∧
      ∀ record ∈ w.orchestrator.quarantines, record ∈ (w.run calls).orchestrator.quarantines := by
  induction calls generalizing w with
  | nil => exact ⟨h, fun _ hmem => hmem⟩
  | cons call calls ih =>
    obtain ⟨hstep, hcarries⟩ := h.step (kept [] call calls rfl)
    obtain ⟨hrun, hrecords⟩ := ih hstep (@KeepsAll.right _ w [call] calls kept)
    exact ⟨hrun, fun record hmem => hrecords record (hcarries.records record hmem)⟩

theorem Recorded.start (h : Orchestrator.new providers .empty = .ok o) : Recorded o .empty := by
  obtain ⟨restored, hrestored, -, heq⟩ := new_eq_ok h
  obtain rfl : o = restored := heq
  have hquarantines : o.quarantines = [] := hrestored.quarantines
  refine ⟨Coordinator.inv_empty, ?_, ?_, ?_, ?_, ?_, ?_⟩
  · rw [hquarantines]
    exact List.Perm.refl []
  · intro p q hq
    cases hq
  · intro p k hk
    cases hk
  · intro id entry hentry
    obtain ⟨r, hr, -⟩ := (hrestored.entries id entry).mp hentry
    cases hr
  · intro id hid
    rw [hrestored.resolutions] at hid
    exact absurd hid notMem_empty
  · intro id hid
    exact absurd hid notMem_empty

/-- The request names the pending reversal and comes after it. -/
def Names (r : CanonicalReversalResolutionRequest) (q : PendingReversalSnapshot) : Prop :=
  r.Present ∧ r.quarantineID = q.quarantineID ∧ r.paymentID = q.paymentID ∧ r.allocationID = q.allocationID ∧
    r.instructionDigest = q.instructionDigest ∧ q.receivedAt ≤ r.resolvedAt

/-- A request that names the reversal of a final payment comes to the coordinator as a request for this reversal. -/
def Resolvable (w : World) (q : PendingReversalSnapshot) : Prop :=
  ∀ r, Names r q → ∀ current ∈ w.orchestrator.payments.lookup q.paymentID, current.status = .final →
    resolvedProviderReversal w.coordinator r = .ok none ∧
      w.orchestrator.pendingFor r = .ok (pendingEntry q, current) ∧
      Settlement.SamePendingReversal q (Orchestrator.resolutionOf r (pendingEntry q))

theorem Recorded.resolvable (h : Recorded w.orchestrator w.coordinator) {p : String} {q : PendingReversalSnapshot}
    (hq : w.coordinator.pending.lookup p = some q) : Resolvable w q := by
  rintro r ⟨present, hid, hpayment, hallocation, hdigest, htime⟩ current hcurrent final
  have hentry := (h.pending hq).2
  have unresolved : q.quarantineID ∉ w.orchestrator.quarantineResolutions := fun hmem =>
    (h.resolutions hmem).1 (mem_of_lookup_eq_some hentry)
  have unsettled : w.coordinator.resolutions.lookup q.quarantineID = none :=
    lookup_eq_none.mpr fun hmem => (h.settled hmem).2 hq rfl
  refine ⟨?_, ?_, ?_⟩
  · simp only [resolvedProviderReversal, block_eq_ok]
    refine ⟨present, ?_⟩
    rw [hid, unsettled]
    rfl
  · simp only [Orchestrator.pendingFor, block_eq_ok, orRevert_eq_ok, Prod.mk.injEq, Option.filter_eq_some_iff,
    decide_eq_true_eq]
    exact ⟨hid ▸ unresolved, pendingEntry q, hid ▸ hentry, ⟨hpayment.symm, hallocation.symm, hdigest.symm, htime⟩,
      current, ⟨hpayment ▸ hcurrent, final⟩, rfl, rfl⟩
  · show q.toCallbackFields = _
    simp only [Orchestrator.resolutionOf, hid, hpayment]
    rfl

theorem Recorded.entry_kept (h : Recorded o c) (hcarries : Carries o o') {id : String}
    {entry entry' : PendingCanonicalReversal} (hentry : o.pendingReversals.lookup id = some entry)
    (hentry' : o'.pendingReversals.lookup id = some entry') : entry = entry' := by
  rcases hcarries.entries hentry' with hsame | hfresh
  · exact Option.some.inj (hentry.symm.trans hsame)
  · exfalso
    obtain ⟨q, -, rfl, hq | ⟨k, hk, rfl⟩⟩ := h.held hentry
    · exact hfresh _ (h.pending hq).1 rfl
    · exact hfresh _ (h.consumed hk) rfl

/-- In every run whose restarts bring every record back, a quarantine number stands for one record, no pending reversal
    takes the place of another, and every pending reversal can be resolved. -/
theorem quarantineIDs_unique {providers : List Provider} {o : Orchestrator} {poster : Poster}
    (hnew : Orchestrator.new providers .empty = .ok o) {calls : List World.Call}
    (kept : KeepsAll ⟨o, .empty, poster⟩ calls) :
    (∀ before after before' after', calls = before ++ after → calls = before' ++ after' →
      ∀ x ∈ (World.run ⟨o, .empty, poster⟩ before).orchestrator.quarantines,
        ∀ y ∈ (World.run ⟨o, .empty, poster⟩ before').orchestrator.quarantines, x.quarantineID = y.quarantineID → x = y) ∧
    (∀ before call after, calls = before ++ call :: after → ∀ id entry entry',
      (World.run ⟨o, .empty, poster⟩ before).orchestrator.pendingReversals.lookup id = some entry →
        (World.run ⟨o, .empty, poster⟩ (before ++ [call])).orchestrator.pendingReversals.lookup id = some entry' →
          entry = entry') ∧
    ∀ before after, calls = before ++ after → ∀ p q,
      (World.run ⟨o, .empty, poster⟩ before).coordinator.pending.lookup p = some q →
        Resolvable (World.run ⟨o, .empty, poster⟩ before) q := by
  have hstart : Recorded o .empty := .start hnew
  refine ⟨?_, ?_, ?_⟩
  · intro before after before' after' hbefore hbefore' x hx y hy hid
    -- both records are still there at the end of the run
    have hx : x ∈ (World.run ⟨o, .empty, poster⟩ calls).orchestrator.quarantines := by
      subst hbefore
      rw [run_append]
      exact ((hstart.run kept.left).1.run kept.right).2 x hx
    have hy : y ∈ (World.run ⟨o, .empty, poster⟩ calls).orchestrator.quarantines := by
      subst hbefore'
      rw [run_append]
      exact ((hstart.run kept.left).1.run kept.right).2 y hy
    exact (hstart.run kept).1.numbered.unique hx hy hid
  · rintro before call after rfl id entry entry' hentry hentry'
    have hrun := (hstart.run kept.left).1
    rw [run_append] at hentry'
    exact hrun.entry_kept (hrun.step (kept before call after rfl)).2 hentry hentry'
  · rintro before after rfl p q hq
    exact (hstart.run kept.left).1.resolvable hq

end

theorem toyWorld_new : Orchestrator.new [toyProvider] .empty = .ok toyWorld.orchestrator := by decide +kernel

def emptyCallback (providerEventID : String) : World.Call := .ingestCallback ⟨"bank", providerEventID, [], [], 5⟩ 5 .none

def toyRequest : IntentRequest :=
  ⟨toyHash, "entity", "key", "correlation", "payer", "loan", "bank", .bank, "repayment", "USD", "100", 1000, 1⟩

def toyDelivery (providerEventID : String) (status : Settlement.PaymentStatus) (receivedAt : Time) : World.Call :=
  .ingestCallback ⟨"bank", providerEventID, toyMarshal (toyCallback providerEventID status).json, [], receivedAt⟩ receivedAt
    .none

def toyTerms : Settlement.Terms where
  paymentID := toyHash
  allocationID := ""
  loanID := toyHash
  providerID := "bank"
  providerReference := "reference"
  paymentVersion := 4
  sourceAssetID := toyHash
  targetAssetID := hexText (List.replicate 32 2)
  targetToken := hexText (List.replicate 20 1)
  denomination := "USD"
  sourceUnits := "100"
  targetUnits := "100"
  reconciliationID := toyHash
  providerIDHash := toyHash
  providerReferenceHash := toyHash
  reconciliationCommitment := toyHash
  originalJournalSetHash := toyHash
  finalityPolicyHash := toyHash
  conversionPolicyHash := toyHash
  policySetHash := toyHash
  eligibilityEvidenceHash := toyHash
  journalRef := toyHash
  originalJournalIDs := ["provisional", "final"]
  expectedStateNonce := 1
  chainID := 1
  gatewayAddress := hexText (List.replicate 20 1)
  finalizerAddress := hexText (List.replicate 20 1)
  attesterAddress := hexText (List.replicate 20 1)
  reversalDeadline := Indexer.UNIX_EPOCH + 2000000000
  correlationID := "correlation"

/-- A plan for the whole payment. -/
def toyPrepare : Settlement.PrepareRequest :=
  let r : Settlement.PrepareRequest :=
    ⟨toyTerms, .final, 2, 2, "0", 0, "100", Indexer.UNIX_EPOCH + 1000000000, Indexer.UNIX_EPOCH + 2000000000⟩
  { r with allocationID := @Settlement.calculateAllocationID toyEncoding r }

/-- The provider reverses a payment that is final and planned. -/
def toyReversal : List World.Call :=
  [.createIntent toyRequest 5, toyDelivery "processing" .processing 20, toyDelivery "provisional" .provisional 30,
    toyDelivery "final" .final 40, .coordinate (.prepare toyPrepare), toyDelivery "reversed" .reversed 50]

/-- After the reversal the orchestrator is restarted, and gets a callback that it cannot read. -/
def toyRestart : List World.Call := toyReversal ++ [.rebuild [toyProvider] []] ++ [emptyCallback "unreadable"]

theorem toyRestart_run : RecordsReported (@World.run toyCodec toyWorld toyReversal) ∧
    (@World.run toyCodec toyWorld toyRestart).orchestrator.quarantines.length = 2 := by
  unfold RecordsReported
  decide +kernel

theorem toyRestart_kept : @KeepsAll toyCodec toyWorld toyRestart := by
  let := toyCodec
  have hrecords : ∀ call ∈ toyReversal, ∀ w, KeepsRecords w call := by simp [toyReversal, toyDelivery, KeepsRecords]
  have hreversal : KeepsAll toyWorld toyReversal :=
    fun before call after heq => hrecords call (by simp [heq]) _
  exact (hreversal.concat (show KeepsRecords _ (.rebuild [toyProvider] []) from toyRestart_run.1)).concat trivial

/-- The restored reversal and the callback after the restart. -/
theorem quarantineIDs_unique_afterRestart :
    (@World.run toyCodec toyWorld toyRestart).orchestrator.quarantines.length = 2 ∧
      ∀ x ∈ (@World.run toyCodec toyWorld toyReversal).orchestrator.quarantines,
        ∀ y ∈ (@World.run toyCodec toyWorld toyRestart).orchestrator.quarantines, x.quarantineID = y.quarantineID → x = y := by
  refine ⟨toyRestart_run.2, ?_⟩
  have hnew := toyWorld_new
  have kept := toyRestart_kept
  -- the world is replaced by a variable, so that nothing is evaluated
  rw [show toyWorld = ⟨toyWorld.orchestrator, .empty, toyWorld.poster⟩ from rfl] at kept ⊢
  generalize toyWorld.orchestrator = o at hnew kept ⊢
  exact (@quarantineIDs_unique toyCodec _ o _ hnew toyRestart kept).1 toyReversal _ toyRestart [] (List.append_assoc ..)
    (List.append_nil _).symm

/-! ### A restart that loses a record -/

/-- Two callbacks with a restart between them are put in quarantine under the same number. -/
theorem restart_repeats_quarantineID :
    ∃ x ∈ (@World.run toyCodec toyWorld [emptyCallback "first"]).orchestrator.quarantines,
      ∃ y ∈ (@World.run toyCodec toyWorld
        [emptyCallback "first", .rebuild [toyProvider] [], emptyCallback "second"]).orchestrator.quarantines,
      x.quarantineID = y.quarantineID ∧ x.providerEventID ≠ y.providerEventID := by
  decide +kernel

end Unified.Payment
