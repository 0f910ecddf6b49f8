import Unified.Indexer.Ingest

/-! The stored blocks as one list: what makes a list of deliveries a chain, the maps and the projection
    that a chain determines, and that taking a block leaves the indexer with those of a new chain. -/

namespace Unified.Indexer

open Table

/-- A block with the receipts that were verified for it. -/
structure Delivery where
  block : Block
  receipts : List VerifiedReceipt
  deriving DecidableEq

def blockEntries (ds : List Delivery) : List (Nat × Block) := ds.map fun d => (d.block.number, d.block)

def Delivery.eventEntries (d : Delivery) : List (String × Nat) := d.block.events.map fun e => (e.id, d.block.number)

def Delivery.receiptEntries (d : Delivery) : List (String × VerifiedReceipt) :=
  d.receipts.map fun r => (r.transactionHash, r)

/-- The maps of an indexer that stores exactly these deliveries. -/
def chainMaps (settlementReorgs : Table String SettlementReorg) (ds : List Delivery) : ChainMaps where
  blocks := .ofList (blockEntries ds)
  eventBlocks := .ofList (ds.flatMap Delivery.eventEntries)
  receipts := .ofList (ds.flatMap Delivery.receiptEntries)
  settlementReorgs := settlementReorgs

/-- The projection of the blocks in their order. -/
def project (depth : Nat) (ds : List Delivery) : Except IndexerError Projection := do
  let acc ← ds.foldlM (fun acc d => applyBlock d.block.number d.block acc) (.empty, 0)
  pure (settleFinality depth acc.1)

structure EventOk (c : Config) (block : Block) (e : Event) : Prop where
  id : e.id ≠ ""
  txHash : e.txHash ≠ ""
  belongs : Belongs c block e

structure ReceiptOk (block : Block) (r : VerifiedReceipt) : Prop where
  blockNumber : r.blockNumber = block.number
  blockHash : r.blockHash = block.hash
  transactionHash : canonicalHash r.transactionHash = true
  receiptPayloadHash : canonicalHash r.receiptPayloadHash = true
  receiptsRoot : canonicalHash r.receiptsRoot = true
  inclusionProofHash : canonicalHash r.inclusionProofHash = true

/-- Deliveries of different heights, events and transactions. -/
structure Distinct (ds : List Delivery) : Prop where
  heights : ((blockEntries ds).map Prod.fst).Nodup
  eventIDs : ((ds.flatMap Delivery.eventEntries).map Prod.fst).Nodup
  transactions : ((ds.flatMap Delivery.receiptEntries).map Prod.fst).Nodup
  receipts : ∀ d ∈ ds, ∀ r ∈ d.receipts, r.blockNumber = d.block.number

/-- Deliveries that can be stored together. -/
structure Chain (c : Config) (ds : List Delivery) : Prop where
  numbers : ∀ {i : Nat} {d : Delivery}, ds[i]? = some d → d.block.number = i + 1
  present : ∀ d ∈ ds, d.block.hash ≠ "" ∧ ¬ d.block.observedAt.IsZero
  linked : ds.IsChain fun lower upper => upper.block.parentHash = lower.block.hash
  ordered : ds.Pairwise fun lower upper => lower.block.observedAt ≤ upper.block.observedAt
  events : ∀ d ∈ ds, ∀ e ∈ d.block.events, EventOk c d.block e
  receipts : ∀ d ∈ ds, ∀ r ∈ d.receipts, ReceiptOk d.block r
  eventIDs : ((ds.flatMap Delivery.eventEntries).map Prod.fst).Nodup
  transactions : ((ds.flatMap Delivery.receiptEntries).map Prod.fst).Nodup
  indexes : ∀ d ∈ ds, (d.receipts.map (·.transactionIndex)).Nodup

/-- The indexer stores the chain `ds` and nothing else. -/
structure Stored (c : Config) (ds : List Delivery) (s : State) : Prop where
  chain : Chain c ds
  config : s.config = c
  maps : s.toChainMaps = chainMaps s.settlementReorgs ds
  projected : project c.finalityDepth ds = .ok s.snapshot.toProjection
  reorgs : s.snapshot.settlementReorgs = s.settlementReorgs

/-! ### Chains -/

variable {c : Config} {ds lo hi : List Delivery} {d : Delivery} {s t : State} {b block : Block} {n depth : Nat}
  {reorgs : Table String SettlementReorg} {acc : Projection × Time} {p : Projection}
  {receipts receipts' : Table String VerifiedReceipt} {eventBlocks eventBlocks' : Table String Nat}

theorem Chain.nil : Chain c [] where
  numbers h := by simp at h
  present := by simp
  linked := .nil
  ordered := .nil
  events := by simp
  receipts := by simp
  eventIDs := .nil
  transactions := .nil
  indexes := by simp

theorem Chain.left (h : Chain c (lo ++ hi)) : Chain c lo where
  numbers {i d} hi := h.numbers ((List.getElem?_append_left (List.getElem?_eq_some_iff.mp hi).1).trans hi)
  present d hd := h.present d (List.mem_append_left _ hd)
  linked := h.linked.left_of_append
  ordered := (List.pairwise_append.mp h.ordered).1
  events d hd := h.events d (List.mem_append_left _ hd)
  receipts d hd := h.receipts d (List.mem_append_left _ hd)
  eventIDs := by
    have := h.eventIDs
    rw [List.flatMap_append, List.map_append] at this
    exact this.of_append_left
  transactions := by
    have := h.transactions
    rw [List.flatMap_append, List.map_append] at this
    exact this.of_append_left
  indexes d hd := h.indexes d (List.mem_append_left _ hd)

theorem Chain.take (h : Chain c ds) (n : Nat) : Chain c (ds.take n) := by
  rw [← List.take_append_drop n ds] at h
  exact h.left

/-- What a delivery has to meet to go on top of a chain. -/
structure Extends (c : Config) (lo : List Delivery) (d : Delivery) : Prop where
  number : d.block.number = lo.length + 1
  present : d.block.hash ≠ "" ∧ ¬ d.block.observedAt.IsZero
  linked : ∀ top ∈ lo.getLast?, d.block.parentHash = top.block.hash
  ordered : ∀ x ∈ lo, x.block.observedAt ≤ d.block.observedAt
  events : ∀ e ∈ d.block.events, EventOk c d.block e
  eventIDs : (d.block.events.map (·.id)).Nodup
  newEvents : ∀ e ∈ d.block.events, e.id ∉ (lo.flatMap Delivery.eventEntries).map Prod.fst
  receipts : ∀ r ∈ d.receipts, ReceiptOk d.block r
  transactions : (d.receipts.map (·.transactionHash)).Nodup
  newTransactions : ∀ r ∈ d.receipts, r.transactionHash ∉ (lo.flatMap Delivery.receiptEntries).map Prod.fst
  indexes : (d.receipts.map (·.transactionIndex)).Nodup

/-- Appending keeps keys distinct when the new keys are distinct and new. -/
theorem nodup_flatMap_concat {V X : Type} {f : Delivery → List (String × V)} {xs : List X} {key : X → String}
    (hf : (f d).map Prod.fst = xs.map key) : (((lo ++ [d]).flatMap f).map Prod.fst).Nodup ↔
      ((lo.flatMap f).map Prod.fst).Nodup ∧ (xs.map key).Nodup ∧ ∀ x ∈ xs, key x ∉ (lo.flatMap f).map Prod.fst := by
  rw [List.flatMap_append, List.flatMap_singleton, List.map_append, hf, List.nodup_append']
  simp only [List.disjoint_right, List.forall_mem_map]

theorem Delivery.map_fst_eventEntries (d : Delivery) : d.eventEntries.map Prod.fst = d.block.events.map (·.id) :=
  List.map_map

theorem Chain.concat_iff : Chain c (lo ++ [d]) ↔ Chain c lo ∧ Extends c lo d := by
  constructor
  · intro h
    have hd : d ∈ lo ++ [d] := by simp
    obtain ⟨-, ids, newIDs⟩ := (nodup_flatMap_concat d.map_fst_eventEntries).mp h.eventIDs
    obtain ⟨-, txs, newTxs⟩ := (nodup_flatMap_concat (List.map_map (l := d.receipts))).mp h.transactions
    obtain ⟨-, -, link⟩ := List.isChain_append.mp h.linked
    obtain ⟨-, -, order⟩ := List.pairwise_append.mp h.ordered
    exact ⟨h.left, ⟨h.numbers List.getElem?_concat_length, h.present d hd, fun top htop => link top htop d rfl,
      fun x hx => order x hx d (List.mem_singleton_self d), h.events d hd, ids, newIDs, h.receipts d hd, txs, newTxs,
      h.indexes d hd⟩⟩
  · rintro ⟨h, hd⟩
    have each : ∀ {p : Delivery → Prop}, (∀ x ∈ lo, p x) → p d → ∀ x ∈ lo ++ [d], p x := by
      intro p hlo hp x hx
      rcases List.mem_append.mp hx with hx | hx
      · exact hlo x hx
      · exact List.mem_singleton.mp hx ▸ hp
    refine ⟨fun {i x} hi => ?_, each h.present hd.present, List.isChain_append.mpr ⟨h.linked, .singleton d, ?_⟩,
      List.pairwise_append.mpr ⟨h.ordered, List.pairwise_singleton _ d, ?_⟩, each h.events hd.events,
      each h.receipts hd.receipts,
      (nodup_flatMap_concat d.map_fst_eventEntries).mpr ⟨h.eventIDs, hd.eventIDs, hd.newEvents⟩,
      (nodup_flatMap_concat (List.map_map (l := d.receipts))).mpr ⟨h.transactions, hd.transactions, hd.newTransactions⟩,
      each h.indexes hd.indexes⟩
    · rcases Nat.lt_or_ge i lo.length with hlt | hge
      · rw [List.getElem?_append_left hlt] at hi
        exact h.numbers hi
      · rw [List.getElem?_append_right hge, List.getElem?_singleton] at hi
        split at hi
        · cases hi
          rw [hd.number]
          omega
        · cases hi
    · rintro top htop _ ⟨⟩
      exact hd.linked top htop
    · rintro x hx _ hy
      rw [List.mem_singleton.mp hy]
      exact hd.ordered x hx

theorem Chain.map_number (h : Chain c ds) : ds.map (·.block.number) = List.range' 1 ds.length := by
  apply List.ext_getElem
  · rw [List.length_map, List.length_range']
  · intro i hi hi'
    rw [List.length_map] at hi
    rw [List.getElem_map, List.getElem_range', h.numbers (List.getElem?_eq_getElem hi)]
    omega

theorem Chain.distinct (h : Chain c ds) : Distinct ds where
  heights := by
    have : (blockEntries ds).map Prod.fst = ds.map (·.block.number) := List.map_map
    rw [this, h.map_number]
    exact List.nodup_range'
  eventIDs := h.eventIDs
  transactions := h.transactions
  receipts d hd r hr := (h.receipts d hd r hr).blockNumber

theorem Chain.lookup_block (h : Chain c ds) :
    (chainMaps reorgs ds).blocks.lookup n = some b ↔ 0 < n ∧ ∃ d, ds[n - 1]? = some d ∧ d.block = b := by
  rw [chainMaps, lookup_ofList h.distinct.heights, blockEntries, List.mem_map]
  constructor
  · rintro ⟨d, hd, heq⟩
    obtain ⟨rfl, rfl⟩ := Prod.mk.inj heq
    obtain ⟨i, hi⟩ := List.mem_iff_getElem?.mp hd
    rw [h.numbers hi]
    exact ⟨Nat.succ_pos i, d, hi, rfl⟩
  · rintro ⟨hn, d, hd, rfl⟩
    have hnumber := h.numbers hd
    exact ⟨d, List.mem_of_getElem? hd, by rw [hnumber, Nat.sub_add_cancel hn]⟩

theorem Chain.mem_blocks (h : Chain c ds) : n ∈ (chainMaps reorgs ds).blocks ↔ 1 ≤ n ∧ n ≤ ds.length := by
  rw [Finmap.mem_iff]
  constructor
  · rintro ⟨b, hb⟩
    obtain ⟨hn, d, hd, -⟩ := h.lookup_block.mp hb
    have := (List.getElem?_eq_some_iff.mp hd).1
    omega
  · rintro ⟨hn, hle⟩
    have hlt : n - 1 < ds.length := by omega
    exact ⟨ds[n - 1].block, h.lookup_block.mpr ⟨hn, ds[n - 1], List.getElem?_eq_getElem hlt, rfl⟩⟩

/-! ### Removing blocks -/

theorem Distinct.remove (h : Distinct (lo ++ d :: hi)) : Distinct (lo ++ hi) where
  heights := h.heights.sublist
    (((List.Sublist.append_left (List.sublist_cons_self d hi) lo).map _).map _)
  eventIDs := h.eventIDs.sublist
    (((List.Sublist.append_left (List.sublist_cons_self d hi) lo).flatMap _).map _)
  transactions := h.transactions.sublist
    (((List.Sublist.append_left (List.sublist_cons_self d hi) lo).flatMap _).map _)
  receipts x hx := h.receipts x ((List.Sublist.append_left (List.sublist_cons_self d hi) lo).subset hx)

theorem Distinct.filter_receipts (h : Distinct (lo ++ d :: hi)) :
    ((lo ++ d :: hi).flatMap Delivery.receiptEntries).filter (fun e => e.2.blockNumber ≠ d.block.number) =
      (lo ++ hi).flatMap Delivery.receiptEntries := by
  have other : ∀ x ∈ lo ++ hi, x.block.number ≠ d.block.number := by
    have hh := h.heights
    rw [blockEntries, List.map_append, List.map_cons, List.map_append, List.map_cons, List.nodup_middle,
      ← List.map_append, ← List.map_append] at hh
    intro x hx heq
    exact (List.nodup_cons.mp hh).1 (List.mem_map.mpr ⟨_, List.mem_map_of_mem hx, heq⟩)
  have keep : ∀ xs : List Delivery, (∀ x ∈ xs, x ∈ lo ++ hi) →
      (xs.flatMap Delivery.receiptEntries).filter (fun e => e.2.blockNumber ≠ d.block.number) =
        xs.flatMap Delivery.receiptEntries := by
    intro xs hxs
    refine List.filter_eq_self.mpr fun e he => ?_
    obtain ⟨x, hx, he⟩ := List.mem_flatMap.mp he
    obtain ⟨r, hr, rfl⟩ := List.mem_map.mp he
    have hxmem := hxs x hx
    rw [decide_eq_true_eq, h.receipts x (by simp at hxmem ⊢; tauto) r hr]
    exact other x hxmem
  have drop : (d.receiptEntries).filter (fun e => e.2.blockNumber ≠ d.block.number) = [] := by
    refine List.filter_eq_nil_iff.mpr fun e he => ?_
    obtain ⟨r, hr, rfl⟩ := List.mem_map.mp he
    simp [h.receipts d (by simp) r hr]
  rw [List.flatMap_append, List.flatMap_cons, List.filter_append, List.filter_append, drop, List.nil_append,
    keep lo fun x hx => List.mem_append_left _ hx, keep hi fun x hx => List.mem_append_right _ hx,
    ← List.flatMap_append]

section

variable [Crypto]

/-- The evidence that removing some deliveries leaves. -/
def orphaned (s : State) (block : Block) (removed : List Delivery) : List (String × SettlementReorg) :=
  removed.flatMap fun d => orphans s block d.block d.block.number

/-- One round of the removal loop takes one delivery out of the maps. -/
theorem removeHeight_chainMaps (h : Distinct (lo ++ d :: hi)) (s : State) (block : Block)
    (reorgs : Table String SettlementReorg) :
    removeHeight s block (chainMaps reorgs (lo ++ d :: hi)) d.block.number =
      chainMaps (reorgs.insertMany (orphans s block d.block d.block.number)) (lo ++ hi) := by
  have hblocks : blockEntries (lo ++ d :: hi) = blockEntries lo ++ (d.block.number, d.block) :: blockEntries hi := by
    simp [blockEntries]
  have hevents : (lo ++ d :: hi).flatMap Delivery.eventEntries =
      lo.flatMap Delivery.eventEntries ++ d.eventEntries ++ hi.flatMap Delivery.eventEntries := by simp
  have hkeys : d.block.events.map (·.id) = d.eventEntries.map Prod.fst := by simp [Delivery.eventEntries]
  have hlookup : (chainMaps reorgs (lo ++ d :: hi)).blocks.lookup d.block.number = some d.block := by
    rw [chainMaps, lookup_ofList h.heights, hblocks]
    simp
  rw [removeHeight, hlookup]
  simp only [chainMaps, ChainMaps.mk.injEq]
  refine ⟨?_, ?_, ?_, trivial⟩
  · have hh := h.heights
    rw [hblocks] at hh ⊢
    rw [erase_ofList hh, blockEntries, blockEntries, blockEntries, List.map_append]
  · have hh := h.eventIDs
    rw [hevents] at hh ⊢
    rw [hkeys, eraseMany_ofList hh, List.flatMap_append]
  · rw [filter_ofList h.transactions, h.filter_receipts]

theorem foldl_removeHeight (h : Distinct (lo ++ hi)) (s : State) (block : Block)
    (reorgs : Table String SettlementReorg) :
    (hi.map (·.block.number)).foldl (removeHeight s block) (chainMaps reorgs (lo ++ hi)) =
      chainMaps (reorgs.insertMany (orphaned s block hi)) lo := by
  induction hi generalizing reorgs with
  | nil => simp [orphaned, insertMany]
  | cons _ _ ih =>
    rw [List.map_cons, List.foldl_cons, removeHeight_chainMaps h, ih h.remove, orphaned, orphaned, List.flatMap_cons,
      insertMany_append]

end

/-! ### Projections -/

theorem project_left (h : project depth (lo ++ hi) = .ok p) : ∃ q, project depth lo = .ok q := by
  rw [project, List.foldlM_append, bind_assoc, bind_eq_ok] at h
  obtain ⟨acc, hacc, -⟩ := h
  exact ⟨settleFinality depth acc.1, by rw [project, hacc]; rfl⟩

theorem project_head (h : project depth (lo ++ [d]) = .ok p) :
    p.head = d.block.number ∧ p.headHash = d.block.hash ∧ p.headObservedAt = d.block.observedAt ∧
      p.headHeaderSignatureHash = d.block.headerSignatureHash := by
  rw [project, bind_eq_ok] at h
  obtain ⟨acc, hacc, hp⟩ := h
  simp only [List.foldlM_append, List.foldlM_cons, List.foldlM_nil, bind_eq_ok, applyBlock, block_eq_ok] at hacc
  obtain ⟨before, -, _, ⟨-, p', -, rfl⟩, rfl⟩ := hacc
  rw [pure_eq_ok] at hp
  subst hp
  exact ⟨rfl, rfl, rfl, rfl⟩

/-- The loop over the sorted heights of the map walks the chain. -/
theorem rebuild_chainMaps (h : Chain c ds) (depth : Nat) (reorgs : Table String SettlementReorg) :
    rebuild depth (chainMaps reorgs ds) = (project depth ds).map fun p => { p with settlementReorgs := reorgs } := by
  have hheights : (chainMaps reorgs ds).blocks.ascending = ds.map (·.block.number) := by
    rw [h.map_number]
    exact ascending_eq fun n => h.mem_blocks
  have walk : ∀ (xs : List Delivery) (acc : Projection × Time), (∀ d ∈ xs, d ∈ ds) →
      (xs.map (·.block.number)).foldlM
        (fun acc height => applyBlock height (((chainMaps reorgs ds).blocks.lookup height).getD default) acc) acc =
      xs.foldlM (fun acc d => applyBlock d.block.number d.block acc) acc := by
    intro xs
    induction xs with
    | nil => intro acc _; rfl
    | cons d _ ih =>
      intro acc hxs
      have hd : (chainMaps reorgs ds).blocks.lookup d.block.number = some d.block := by
        rw [chainMaps, lookup_ofList h.distinct.heights]
        exact List.mem_map_of_mem (hxs d List.mem_cons_self)
      rw [List.map_cons, List.foldlM_cons, List.foldlM_cons, hd, Option.getD_some]
      congr 1
      funext acc'
      exact ih acc' fun x hx => hxs x (List.mem_cons_of_mem _ hx)
  rw [rebuild, hheights, walk ds _ fun _ h => h, project]
  cases ds.foldlM (fun acc d => applyBlock d.block.number d.block acc) (Projection.empty, (0 : Time)) <;> rfl

/-! ### Taking a block -/

theorem recordReceipt_eq_ok {r : VerifiedReceipt}
    (fresh : ∀ k v, receipts.lookup k = some v → v.blockNumber = block.number → v.transactionIndex ≠ r.transactionIndex) :
    recordReceipt block receipts r = .ok receipts' ↔
      ReceiptOk block r ∧ r.transactionHash ∉ receipts ∧ receipts' = receipts.insert r.transactionHash r := by
  simp only [recordReceipt, block_eq_ok]
  constructor
  · rintro ⟨⟨h1, h2, h3, h4, h5, h6⟩, hprior, rfl⟩
    refine ⟨⟨h1, h2, h3, h4, h5, h6⟩, fun hmem => ?_, rfl⟩
    obtain ⟨prior, hp⟩ := Finmap.mem_iff.mp hmem
    have hsame := hprior prior hp
    exact fresh _ _ hp (hsame.1.trans h1) hsame.2
  · rintro ⟨h, hmem, rfl⟩
    refine ⟨⟨h.1, h.2, h.3, h.4, h.5, h.6⟩, fun prior hp => ?_, rfl⟩
    exact absurd (Finmap.mem_of_lookup_eq_some hp) hmem

/-- The receipts of a block are written when each is sound and its transaction is new. -/
theorem recordReceipts_eq_ok {rs : List VerifiedReceipt} (indexes : (rs.map (·.transactionIndex)).Nodup)
    (fresh : ∀ k v, receipts.lookup k = some v → v.blockNumber = block.number →
      v.transactionIndex ∉ rs.map (·.transactionIndex)) :
    rs.foldlM (recordReceipt block) receipts = .ok receipts' ↔
      (∀ r ∈ rs, ReceiptOk block r) ∧ (rs.map (·.transactionHash)).Nodup ∧
        (∀ r ∈ rs, r.transactionHash ∉ receipts) ∧
        receipts' = receipts.insertMany (rs.map fun r => (r.transactionHash, r)) := by
  refine foldlM_insert_eq_ok
    (fun receipts rs => (rs.map (·.transactionIndex)).Nodup ∧ ∀ k v, receipts.lookup k = some v →
      v.blockNumber = block.number → v.transactionIndex ∉ rs.map (·.transactionIndex)) ?_ ?_ ⟨indexes, fresh⟩
  · rintro receipts r rs ⟨-, fresh⟩ receipts'
    apply recordReceipt_eq_ok
    intro k v hk hn heq
    exact fresh k v hk hn (by rw [heq]; exact List.mem_cons_self)
  · rintro receipts r rs ⟨indexes, fresh⟩
    rw [List.map_cons, List.nodup_cons] at indexes
    refine ⟨indexes.2, fun k v hk hn => ?_⟩
    rw [lookup_insert_apply] at hk
    split at hk
    · cases hk
      exact indexes.1
    · exact fun hmem => fresh k v hk hn (List.mem_cons_of_mem _ hmem)

theorem recordEvent_eq_ok {e : Event} :
    recordEvent c block eventBlocks e = .ok eventBlocks' ↔
      EventOk c block e ∧ e.id ∉ eventBlocks ∧ eventBlocks' = eventBlocks.insert e.id block.number := by
  simp only [recordEvent, block_eq_ok]
  cases hlookup : eventBlocks.lookup e.id with
  | some =>
    have hmem : e.id ∈ eventBlocks := Finmap.mem_of_lookup_eq_some hlookup
    simp [hmem]
  | none =>
    have hmem : e.id ∉ eventBlocks := Finmap.lookup_eq_none.mp hlookup
    simp only [pure_eq_ok, hmem, not_false_eq_true, true_and]
    constructor
    · rintro ⟨⟨h1, h2⟩, h3, rfl⟩
      exact ⟨⟨h1, h2, h3⟩, rfl⟩
    · rintro ⟨h, rfl⟩
      exact ⟨⟨h.1, h.2⟩, h.3, rfl⟩

/-- The events of a block are written when each is sound and its id is new. -/
theorem recordEvents_eq_ok {es : List Event} :
    es.foldlM (recordEvent c block) eventBlocks = .ok eventBlocks' ↔
      (∀ e ∈ es, EventOk c block e) ∧ (es.map (·.id)).Nodup ∧ (∀ e ∈ es, e.id ∉ eventBlocks) ∧
        eventBlocks' = eventBlocks.insertMany (es.map fun e => (e.id, block.number)) :=
  foldlM_insert_eq_ok (f := recordEvent c block) (p := EventOk c block) (k := Event.id) (v := fun _ => block.number)
    (fun _ _ => True) (fun _ => recordEvent_eq_ok) (fun _ => trivial) trivial

theorem publish_chainMaps (h : Chain c ds) (hs : s.config = c) :
    publish s (chainMaps reorgs ds) = .ok t ↔ ∃ p, project c.finalityDepth ds = .ok p ∧
      t = { chainMaps reorgs ds with config := c, snapshot := { p with settlementReorgs := reorgs } } := by
  rw [publish, bind_eq_ok, hs, rebuild_chainMaps h]
  cases project c.finalityDepth ds with
  | error => simp [Except.map]
  | ok p =>
    constructor
    · rintro ⟨snapshot, hsnapshot, ht⟩
      cases hsnapshot
      exact ⟨p, rfl, (pure_eq_ok.mp ht).symm⟩
    · rintro ⟨q, hq, rfl⟩
      cases hq
      exact ⟨_, rfl, rfl⟩

theorem Stored.of_publish (h : Chain c ds) (hs : s.config = c) (ht : publish s (chainMaps reorgs ds) = .ok t) :
    Stored c ds t ∧ t.settlementReorgs = reorgs := by
  obtain ⟨p, hp, rfl⟩ := (publish_chainMaps h hs).mp ht
  exact ⟨⟨h, rfl, rfl, hp, rfl⟩, rfl⟩

theorem Stored.lookup_block (h : Stored c ds s) :
    s.blocks.lookup n = some b ↔ 0 < n ∧ ∃ d, ds[n - 1]? = some d ∧ d.block = b := by
  have hb := @Chain.lookup_block c ds b n s.settlementReorgs h.chain
  rwa [← h.maps] at hb

theorem Stored.nil : Stored c [] (State.fresh c) where
  chain := .nil
  config := rfl
  maps := rfl
  projected := by
    have empty : ∀ {V : Type} (f : V → V), map f (∅ : Table String V) = ∅ := fun f =>
      Finmap.ext_lookup fun k => by rw [lookup_map, Finmap.lookup_empty, Option.map_none]
    simp only [project, List.foldlM_nil, pure_bind, settleFinality, State.fresh, Projection.empty, empty]
    rfl
  reorgs := rfl

theorem Stored.head (h : Stored c ds s) : s.snapshot.head = ds.length := by
  obtain rfl | ⟨lo, d, rfl⟩ := List.eq_nil_or_concat ds
  · have hp := h.projected
    rw [← Except.ok.inj (Stored.nil.projected.symm.trans hp)]
    rfl
  · rw [List.concat_eq_append] at h ⊢
    rw [(project_head h.projected).1, List.length_append, List.length_singleton]
    exact h.chain.numbers List.getElem?_concat_length

theorem Stored.headObservedAt (h : Stored c ds s) (hd : d ∈ ds) : d.block.observedAt ≤ s.snapshot.headObservedAt := by
  obtain rfl | ⟨lo, top, rfl⟩ := List.eq_nil_or_concat ds
  · cases hd
  · rw [List.concat_eq_append] at h hd
    rw [(project_head h.projected).2.2.1]
    rcases List.mem_append.mp hd with hd | hd
    · exact (List.pairwise_append.mp h.chain.ordered).2.2 d hd top (by simp)
    · rw [List.mem_singleton.mp hd]

theorem Stored.headObservedAt_isZero (h : Stored c ds s) : s.snapshot.headObservedAt.IsZero ↔ ds = [] := by
  obtain rfl | ⟨lo, top, rfl⟩ := List.eq_nil_or_concat ds
  · rw [← Except.ok.inj (Stored.nil.projected.symm.trans h.projected)]
    exact iff_of_true rfl rfl
  · rw [List.concat_eq_append] at h ⊢
    rw [(project_head h.projected).2.2.1]
    exact iff_of_false (h.chain.present top (by simp)).2 (by simp)

theorem Stored.lookup_eq (h : Stored c ds s) (hn : 0 < n) : s.blocks.lookup n = (ds[n - 1]?).map (·.block) := by
  refine Option.ext fun b => ?_
  rw [h.lookup_block, Option.map_eq_some_iff]
  exact and_iff_right hn

theorem Stored.parent_iff (h : Stored c ds s) (hn : 0 < block.number) :
    (1 < block.number → (s.blocks.lookup (block.number - 1)).map Block.hash = some block.parentHash) ↔
      block.number ≤ ds.length + 1 ∧
        ∀ top ∈ (ds.take (block.number - 1)).getLast?, block.parentHash = top.block.hash := by
  rcases Nat.lt_or_ge 1 block.number with hgt | hle
  · have hindex : block.number - 1 - 1 < ds.length ↔ block.number ≤ ds.length + 1 := by omega
    rw [imp_iff_right hgt, h.lookup_eq (by omega), Option.map_map, List.getLast?_take, if_neg (by omega), ← hindex]
    by_cases hlt : block.number - 1 - 1 < ds.length
    · simp [hlt, eq_comm]
    · simp [hlt]
  · have hone : block.number = 1 := by omega
    simp [hone]

section

variable [Crypto] {block : Block}

/-- The removal loop leaves the maps of the blocks below the new one. -/
theorem Stored.removeFrom_eq (h : Stored c ds s) (hn : 0 < block.number) (hle : block.number ≤ ds.length + 1) :
    removeFrom s block =
      chainMaps (s.settlementReorgs.insertMany (orphaned s block (ds.drop (block.number - 1))))
        (ds.take (block.number - 1)) := by
  have hheights : List.range' block.number (s.snapshot.head + 1 - block.number) =
      (ds.drop (block.number - 1)).map (·.block.number) := by
    rw [List.map_drop, h.chain.map_number, List.drop_range', h.head]
    congr 1 <;> omega
  have hdistinct := h.chain.distinct
  rw [← List.take_append_drop (block.number - 1) ds] at hdistinct
  have hloop := foldl_removeHeight hdistinct s block s.settlementReorgs
  rw [List.take_append_drop] at hloop
  rw [removeFrom, hheights, ← hloop, ← h.maps]

/-- A block is taken when it extends the blocks below it and is not observed before the head. -/
theorem Stored.adoptBlock_eq_ok (h : Stored c ds s) {rs : List VerifiedReceipt}
    (indexes : (rs.map (·.transactionIndex)).Nodup) (hn : 0 < block.number) (hhash : block.hash ≠ "")
    (htime : ¬ block.observedAt.IsZero) :
    adoptBlock s block rs = .ok t ↔
      block.number ≤ ds.length + 1 ∧ (s.snapshot.headObservedAt.IsZero ∨ s.snapshot.headObservedAt ≤ block.observedAt) ∧
      Extends c (ds.take (block.number - 1)) ⟨block, rs⟩ ∧
      publish s (chainMaps (s.settlementReorgs.insertMany (orphaned s block (ds.drop (block.number - 1))))
        (ds.take (block.number - 1) ++ [⟨block, rs⟩])) = .ok t := by
  have hmaps : ∀ reorgs, chainMaps reorgs (ds.take (block.number - 1) ++ [⟨block, rs⟩]) =
      let maps := chainMaps reorgs (ds.take (block.number - 1))
      { maps with
        blocks := maps.blocks.insert block.number block
        eventBlocks := insertMany maps.eventBlocks (block.events.map fun e => (e.id, block.number))
        receipts := insertMany maps.receipts (rs.map fun r => (r.transactionHash, r)) } := by
    intro reorgs
    simp only [chainMaps, blockEntries, List.map_append, List.flatMap_append, ofList_append,
      List.flatMap_singleton]
    rfl
  simp only [adoptBlock, block_eq_ok, h.parent_iff hn, and_assoc]
  refine and_congr_right fun hle => ?_
  have hlength : (ds.take (block.number - 1)).length = block.number - 1 := by
    rw [List.length_take]
    omega
  rw [h.removeFrom_eq hn hle]
  generalize s.settlementReorgs.insertMany (orphaned s block (ds.drop (block.number - 1))) = reorgs
  have fresh : ∀ k v, (chainMaps reorgs (ds.take (block.number - 1))).receipts.lookup k = some v →
      v.blockNumber = block.number → v.transactionIndex ∉ rs.map (·.transactionIndex) := by
    intro k v hk hv
    rw [chainMaps, lookup_ofList (h.chain.take _).transactions] at hk
    obtain ⟨x, hx, hxr⟩ := List.mem_flatMap.mp hk
    obtain ⟨r, hr, heq⟩ := List.mem_map.mp hxr
    obtain ⟨i, hi⟩ := List.mem_iff_getElem?.mp hx
    cases heq
    have hnumber := (h.chain.take _).numbers hi
    have hlt := (List.getElem?_eq_some_iff.mp hi).1
    rw [((h.chain.take _).receipts x hx v hr).blockNumber] at hv
    omega
  simp only [recordReceipts_eq_ok indexes fresh, recordEvents_eq_ok]
  have hnew : ∀ k, k ∉ (chainMaps reorgs (ds.take (block.number - 1))).receipts ↔
      k ∉ ((ds.take (block.number - 1)).flatMap Delivery.receiptEntries).map Prod.fst := fun k =>
    not_congr mem_ofList
  have hnewID : ∀ k, k ∉ (chainMaps reorgs (ds.take (block.number - 1))).eventBlocks ↔
      k ∉ ((ds.take (block.number - 1)).flatMap Delivery.eventEntries).map Prod.fst := fun k =>
    not_congr mem_ofList
  simp only [hnew, hnewID, hmaps]
  constructor
  · rintro ⟨hlink, hobserved, receipts, ⟨rok, rnodup, rnew, rfl⟩, eventBlocks, ⟨eok, enodup, enew, rfl⟩, hpublish⟩
    refine ⟨hobserved, ⟨?_, ⟨hhash, htime⟩, hlink, fun x hx => ?_, h.config ▸ eok, enodup, enew, rok, rnodup, rnew, indexes⟩,
      hpublish⟩
    · change block.number = _
      omega
    · have hmem := List.mem_of_mem_take hx
      rcases hobserved with hzero | hle'
      · rw [h.headObservedAt_isZero.mp hzero] at hmem
        cases hmem
      · exact (h.headObservedAt hmem).trans hle'
  · rintro ⟨hobserved, he, hpublish⟩
    exact ⟨he.linked, hobserved, _, ⟨he.receipts, he.transactions, he.newTransactions, rfl⟩, _,
      ⟨h.config.symm ▸ he.events, he.eventIDs, he.newEvents, rfl⟩, hpublish⟩

end

end Unified.Indexer
