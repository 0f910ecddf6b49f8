import Unified.Indexer.Replay

/-! The settlements of a projection are those of the stored events, one for each payment, and the receipts of an
    indexer are those of the stored blocks, one for each transaction. -/

namespace Unified.Indexer

variable {c : Config} {ds : List Delivery} {d : Delivery} {s : State} {e : Event} {depth n : Nat} {k : String}

/-! ### Projected settlements -/

/-- An event of a list of events, each with its height, that projects to this settlement of the payment. -/
def Settles (events : List (Event × Nat)) (paymentID : String) (settlement : CanonicalSettlement) : Prop :=
  ∃ x ∈ events, x.1.type = .canonicalSettlementExecuted ∧ x.1.paymentID = paymentID ∧ settlement = settlementOf x.1 x.2

/-- One event adds its own settlement and keeps the others. -/
theorem apply_settles {p p' : Projection} (h : apply p e n = .ok p') {settlement : CanonicalSettlement} :
    p'.canonicalSettlements.lookup k = some settlement ↔
      p.canonicalSettlements.lookup k = some settlement ∨ Settles [(e, n)] k settlement := by
  by_cases htype : e.type = .canonicalSettlementExecuted
  · simp only [apply, htype, block_eq_ok] at h
    obtain ⟨-, -, -, hfree, -, rfl⟩ := h
    simp only [Settles, List.mem_singleton, exists_eq_left, htype, true_and]
    rw [Table.lookup_insert_apply]
    split
    · next hk =>
      subst hk
      rw [Finmap.lookup_eq_none.mpr hfree]
      simp [eq_comm]
    · next hk => simp [Ne.symm hk]
  · have hsame : p'.canonicalSettlements = p.canonicalSettlements := by
      cases hother : e.type with
      | tenderPublished =>
        simp only [apply, hother, block_eq_ok] at h
        rw [← h.2]
      | offerSelected =>
        simp only [apply, hother, block_eq_ok] at h
        obtain ⟨tender, -, -, rfl⟩ := h
        rfl
      | loanActivated =>
        simp only [apply, hother, block_eq_ok] at h
        rw [← h.2.2]
      | principalRepaid =>
        simp only [apply, hother, block_eq_ok] at h
        obtain ⟨loan, -, amount, -, outstanding, -, -, -, rfl⟩ := h
        rfl
      | loanClosed =>
        simp only [apply, hother, block_eq_ok] at h
        obtain ⟨loan, -, -, rfl⟩ := h
        rfl
      | canonicalSettlementExecuted => exact absurd hother htype
      | other => simp [apply, hother] at h
    simp [hsame, Settles, htype]

theorem settles_append {xs ys : List (Event × Nat)} {settlement : CanonicalSettlement} :
    Settles (xs ++ ys) k settlement ↔ Settles xs k settlement ∨ Settles ys k settlement := by
  simp only [Settles, List.mem_append, or_and_right, exists_or]

theorem applyEvents_settles {es : List Event} {p p' : Projection} (h : es.foldlM (fun p e => apply p e n) p = .ok p')
    {settlement : CanonicalSettlement} :
    p'.canonicalSettlements.lookup k = some settlement ↔
      p.canonicalSettlements.lookup k = some settlement ∨ Settles (es.map fun e => (e, n)) k settlement := by
  induction es generalizing p with
  | nil =>
    rw [List.foldlM_nil, pure_eq_ok] at h
    simp [h, Settles]
  | cons _ _ ih =>
    rw [List.foldlM_cons, bind_eq_ok] at h
    obtain ⟨mid, hstep, h⟩ := h
    rw [ih h, apply_settles hstep, or_assoc, ← settles_append]
    rfl

def heightedEvents (ds : List Delivery) : List (Event × Nat) :=
  ds.flatMap fun d => d.block.events.map fun e => (e, d.block.number)

theorem applyBlocks_settles {acc acc' : Projection × Time}
    (h : ds.foldlM (fun acc d => applyBlock d.block.number d.block acc) acc = .ok acc') {settlement : CanonicalSettlement} :
    acc'.1.canonicalSettlements.lookup k = some settlement ↔
      acc.1.canonicalSettlements.lookup k = some settlement ∨ Settles (heightedEvents ds) k settlement := by
  induction ds generalizing acc with
  | nil =>
    rw [List.foldlM_nil, pure_eq_ok] at h
    simp [h, heightedEvents, Settles]
  | cons d ds ih =>
    rw [List.foldlM_cons, bind_eq_ok] at h
    obtain ⟨mid, hblock, h⟩ := h
    simp only [applyBlock, block_eq_ok] at hblock
    obtain ⟨-, p, hevents, rfl⟩ := hblock
    have hcons : heightedEvents (d :: ds) = d.block.events.map (fun e => (e, d.block.number)) ++ heightedEvents ds :=
      List.flatMap_cons
    rw [ih h, hcons, settles_append, ← or_assoc]
    exact or_congr_left (applyEvents_settles hevents)

/-- The settlement of an event with the finality that its height has under a head. -/
def settledAt (head depth : Nat) (e : Event) (height : Nat) : CanonicalSettlement :=
  { settlementOf e height with finality := finalityAt (finalHeight head depth) height }

theorem project_settlements {p : Projection} (h : project depth ds = .ok p) {settlement : CanonicalSettlement} :
    p.canonicalSettlements.lookup k = some settlement ↔
      ∃ d ∈ ds, ∃ e ∈ d.block.events, e.type = .canonicalSettlementExecuted ∧ e.paymentID = k ∧
        settlement = settledAt p.head depth e d.block.number := by
  rw [project, bind_eq_ok] at h
  obtain ⟨acc, hacc, hp⟩ := h
  rw [pure_eq_ok] at hp
  subst hp
  have hsettles : ∀ found, acc.1.canonicalSettlements.lookup k = some found ↔ Settles (heightedEvents ds) k found := by
    intro found
    have := @applyBlocks_settles ds k _ _ hacc found
    simpa [Projection.empty] using this
  change (acc.1.canonicalSettlements.map _).lookup k = _ ↔ _
  rw [Table.lookup_map, Option.map_eq_some_iff]
  constructor
  · rintro ⟨found, hfound, rfl⟩
    obtain ⟨x, hx, htype, hpayment, rfl⟩ := (hsettles found).mp hfound
    obtain ⟨d, hd, hx⟩ := List.mem_flatMap.mp hx
    obtain ⟨e, he, rfl⟩ := List.mem_map.mp hx
    exact ⟨d, hd, e, he, htype, hpayment, rfl⟩
  · rintro ⟨d, hd, e, he, htype, hpayment, rfl⟩
    refine ⟨settlementOf e d.block.number, (hsettles _).mpr ⟨(e, d.block.number), ?_, htype, hpayment, rfl⟩, rfl⟩
    exact List.mem_flatMap.mpr ⟨d, hd, List.mem_map_of_mem he⟩

/-! ### Receipts of settlements -/

/-- A stored receipt is filed under its transaction and belongs to a stored block. -/
theorem Stored.receipt_block (h : Stored c ds s) {r : VerifiedReceipt} (hr : s.receipts.lookup k = some r) :
    r.transactionHash = k ∧ ∃ d ∈ ds, r ∈ d.receipts ∧ s.blocks.lookup r.blockNumber = some d.block ∧
      d.block.hash = r.blockHash := by
  have hlookup : (chainMaps s.settlementReorgs ds).receipts.lookup k = some r := by rwa [← h.maps]
  rw [chainMaps, Table.lookup_ofList h.chain.transactions] at hlookup
  obtain ⟨d, hd, hentry⟩ := List.mem_flatMap.mp hlookup
  obtain ⟨r', hr', heq⟩ := List.mem_map.mp hentry
  cases heq
  have hok := h.chain.receipts d hd r hr'
  obtain ⟨i, hi⟩ := List.mem_iff_getElem?.mp hd
  have hnumber := h.chain.numbers hi
  refine ⟨rfl, d, hd, hr', h.lookup_block.mpr ⟨?_, d, ?_, rfl⟩, hok.blockHash.symm⟩
  · rw [hok.blockNumber, hnumber]
    exact Nat.succ_pos i
  · rw [hok.blockNumber, hnumber]
    exact hi

section

variable [Crypto]

theorem Delivered.receipt_of_event {a : AuthenticatedBlock} {entries : List ReceiptEntry} (h : Delivered c a entries d)
    (he : e ∈ d.block.events) : ∃ r ∈ d.receipts, r.status = .succeeded ∧ e.txHash = r.transactionHash := by
  rw [h.events, eventsFrom] at he
  obtain ⟨⟨⟨record, log⟩, position⟩, hx, he⟩ := List.mem_flatMap.mp he
  obtain ⟨-, hstatus, htransaction⟩ := mem_logEvents he
  have hlog : (record, log) ∈ allLogs entries := List.fst_mem_of_mem_zipIdx hx
  obtain ⟨entry, hentry, hlog⟩ := List.mem_flatMap.mp hlog
  obtain ⟨x, -, heq⟩ := List.mem_map.mp hlog
  cases heq
  refine ⟨entry.1, ?_, hstatus, htransaction⟩
  rw [h.receipts]
  exact List.mem_map_of_mem hentry

/-- The transaction of a projected settlement has a receipt, and it succeeded. -/
theorem StoresDeliveries.settlement_receipt {calls : List AuthenticatedBlock} (h : StoresDeliveries calls c s)
    {settlement : CanonicalSettlement} (hk : s.snapshot.canonicalSettlements.lookup k = some settlement) :
    ∃ r, s.receipts.lookup settlement.transactionHash = some r ∧ r.status = .succeeded := by
  obtain ⟨stored, ds, -, hdelivered, hstored⟩ := h
  obtain ⟨d, hd, e, he, -, -, rfl⟩ := (project_settlements hstored.projected).mp hk
  obtain ⟨i, hlt, rfl⟩ := List.getElem_of_mem hd
  obtain ⟨entries, hblock⟩ := hdelivered.get (by rwa [hdelivered.length_eq]) hlt
  obtain ⟨r, hr, hstatus, htransaction⟩ := hblock.receipt_of_event he
  refine ⟨r, ?_, hstatus⟩
  change s.receipts.lookup e.txHash = some r
  rw [htransaction]
  exact hstored.lookup_receipt hd hr

/-- A proof of failure is given out for a reverted receipt of a stored block that is deep enough. -/
theorem verifyTransactionFailure_eq_ok {expected : ExpectedTransaction} {failure : TransactionFailureEvidence}
    (h : verifyTransactionFailure s expected = .ok failure) :
    ∃ r b, s.receipts.lookup expected.transactionHash = some r ∧ r.status = .reverted ∧
      s.blocks.lookup r.blockNumber = some b ∧ b.hash = r.blockHash ∧
      r.blockNumber + s.config.finalityDepth ≤ s.snapshot.head ∧ failure.transactionHash = r.transactionHash ∧
      failure.status = .reverted ∧ failure.blockNumber = r.blockNumber ∧ failure.blockHash = r.blockHash := by
  simp only [verifyTransactionFailure, block_eq_ok, orRevert_eq_ok] at h
  obtain ⟨-, r, hr, hstatus, ⟨hblock, hbelow, hdepth, -⟩, rfl⟩ := h
  obtain ⟨b, hb, hhash⟩ := Option.map_eq_some_iff.mp hblock
  exact ⟨r, b, hr, hstatus, hb, hhash, by omega, rfl, hstatus, rfl, rfl⟩

end

end Unified.Indexer
