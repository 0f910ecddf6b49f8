import Unified.Indexer.Enrichment
import Unified.Indexer.Gateway
import Unified.Indexer.ReceiptEvidence

/-! Whole runs of the indexer: after any calls it stores one chain, and a new indexer that is given only
    the stored blocks in their order ends with the same maps and the same projection. -/

namespace Unified.Indexer

variable {c : Config} {ds lo : List Delivery} {d d' : Delivery} {s t : State}

/-! ### What is stored -/

/-- The stored blocks are one chain from height 1 to the head, and the event index is theirs. -/
structure Canonical (s : State) : Prop where
  heights : ∀ n, n ∈ s.blocks ↔ 1 ≤ n ∧ n ≤ s.snapshot.head
  numbers : ∀ {n b}, s.blocks.lookup n = some b → b.number = n
  linked : ∀ {n b b'}, s.blocks.lookup n = some b → s.blocks.lookup (n + 1) = some b' → b'.parentHash = b.hash
  ordered : ∀ {m n b b'}, m ≤ n → s.blocks.lookup m = some b → s.blocks.lookup n = some b' → b.observedAt ≤ b'.observedAt
  events : ∀ {id n}, s.eventBlocks.lookup id = some n ↔ ∃ b, s.blocks.lookup n = some b ∧ ∃ e ∈ b.events, e.id = id

/-- Two indexers with the same blocks, indexes and projection; the evidence of removed settlements may differ. -/
structure Replayed (s t : State) : Prop where
  blocks : s.blocks = t.blocks
  eventBlocks : s.eventBlocks = t.eventBlocks
  receipts : s.receipts = t.receipts
  projection : s.snapshot.toProjection = t.snapshot.toProjection

theorem Stored.canonical (h : Stored c ds s) : Canonical s where
  heights n := by
    rw [h.head]
    have := @Chain.mem_blocks c ds n s.settlementReorgs h.chain
    rwa [← h.maps] at this
  numbers {n b} hb := by
    obtain ⟨hn, d, hd, rfl⟩ := h.lookup_block.mp hb
    rw [h.chain.numbers hd]
    omega
  linked {n b b'} hb hb' := by
    obtain ⟨hn, d, hd, rfl⟩ := h.lookup_block.mp hb
    obtain ⟨-, d', hd', rfl⟩ := h.lookup_block.mp hb'
    obtain ⟨hlt, rfl⟩ := List.getElem?_eq_some_iff.mp hd
    obtain ⟨hlt', rfl⟩ := List.getElem?_eq_some_iff.mp hd'
    have := List.isChain_iff_getElem.mp h.chain.linked (n - 1) (by omega)
    simpa only [Nat.sub_add_cancel hn, Nat.add_sub_cancel] using this
  ordered {m n b b'} hmn hb hb' := by
    obtain ⟨hm, d, hd, rfl⟩ := h.lookup_block.mp hb
    obtain ⟨hn, d', hd', rfl⟩ := h.lookup_block.mp hb'
    obtain ⟨hlt, rfl⟩ := List.getElem?_eq_some_iff.mp hd
    obtain ⟨hlt', rfl⟩ := List.getElem?_eq_some_iff.mp hd'
    rcases Nat.eq_or_lt_of_le hmn with rfl | hlt''
    · exact le_rfl
    · exact List.pairwise_iff_getElem.mp h.chain.ordered _ _ hlt hlt' (by omega)
  events {id n} := by
    have hlookup : (chainMaps s.settlementReorgs ds).eventBlocks.lookup id = some n ↔
        ∃ d ∈ ds, d.block.number = n ∧ ∃ e ∈ d.block.events, e.id = id := by
      rw [chainMaps, Table.lookup_ofList h.chain.eventIDs, List.mem_flatMap]
      constructor
      · rintro ⟨d, hd, hmem⟩
        obtain ⟨e, he, heq⟩ := List.mem_map.mp hmem
        obtain ⟨rfl, rfl⟩ := Prod.mk.inj heq
        exact ⟨d, hd, rfl, e, he, rfl⟩
      · rintro ⟨d, hd, rfl, e, he, rfl⟩
        exact ⟨d, hd, List.mem_map_of_mem he⟩
    rw [← h.maps] at hlookup
    rw [hlookup]
    constructor
    · rintro ⟨d, hd, rfl, he⟩
      obtain ⟨i, hi⟩ := List.mem_iff_getElem?.mp hd
      refine ⟨d.block, h.lookup_block.mpr ⟨?_, d, ?_, rfl⟩, he⟩ <;> rw [h.chain.numbers hi]
      · omega
      · exact hi
    · rintro ⟨b, hb, he⟩
      obtain ⟨hn, d, hd, rfl⟩ := h.lookup_block.mp hb
      exact ⟨d, List.mem_of_getElem? hd, by rw [h.chain.numbers hd]; omega, he⟩

/-- A chain determines everything but the evidence of removed settlements. -/
theorem Stored.replayed (h : Stored c ds s) (h' : Stored c ds t) : Replayed s t where
  blocks := by
    have hs := congrArg ChainMaps.blocks h.maps
    have ht := congrArg ChainMaps.blocks h'.maps
    exact hs.trans ht.symm
  eventBlocks := by
    have hs := congrArg ChainMaps.eventBlocks h.maps
    have ht := congrArg ChainMaps.eventBlocks h'.maps
    exact hs.trans ht.symm
  receipts := by
    have hs := congrArg ChainMaps.receipts h.maps
    have ht := congrArg ChainMaps.receipts h'.maps
    exact hs.trans ht.symm
  projection := Except.ok.inj (h.projected.symm.trans h'.projected)

/-! ### One block -/

section

variable [Crypto] {p : Projection} {e : Event} {chainID : Nat} {gateway : String}

/-- A new or competing block replaces the stored blocks from its height on. -/
theorem Stored.adopt (h : Stored c ds s) {block : Block} {rs : List VerifiedReceipt}
    (indexes : (rs.map (·.transactionIndex)).Nodup) (hn : block.number ≠ 0) (hhash : block.hash ≠ "")
    (htime : ¬ block.observedAt.IsZero) (hok : adoptBlock s block rs = .ok t) :
    Stored c (ds.take (block.number - 1) ++ [⟨block, rs⟩]) t ∧
      t.settlementReorgs = s.settlementReorgs.insertMany (orphaned s block (ds.drop (block.number - 1))) := by
  obtain ⟨-, -, hextends, hpublish⟩ := (h.adoptBlock_eq_ok indexes (Nat.pos_of_ne_zero hn) hhash htime).mp hok
  exact Stored.of_publish (Chain.concat_iff.mpr ⟨h.chain.take _, hextends⟩) h.config hpublish

/-- The top of a chain is taken on top of the rest of the chain. -/
theorem Stored.ingest_top (h : Stored c lo s) (hchain : Chain c (lo ++ [d]))
    (hproject : project c.finalityDepth (lo ++ [d]) = .ok p) :
    ∃ t, ingestBlock s d.block d.receipts = .ok t ∧ Stored c (lo ++ [d]) t := by
  obtain ⟨-, hextends⟩ := Chain.concat_iff.mp hchain
  have hnumber := hextends.number
  have hnone : s.blocks.lookup d.block.number = none := by
    rw [h.lookup_eq (by omega), List.getElem?_eq_none (by omega), Option.map_none]
  have htake : lo.take (d.block.number - 1) = lo := List.take_of_length_le (by omega)
  have hdrop : lo.drop (d.block.number - 1) = [] := List.drop_of_length_le (by omega)
  have hobserved : s.snapshot.headObservedAt.IsZero ∨ s.snapshot.headObservedAt ≤ d.block.observedAt := by
    by_cases hlo : lo = []
    · exact .inl (h.headObservedAt_isZero.mpr hlo)
    · obtain ⟨rest, top, rfl⟩ := List.eq_nil_or_concat lo |>.resolve_left hlo
      rw [List.concat_eq_append] at h hextends
      rw [(project_head h.projected).2.2.1]
      exact .inr (hextends.ordered top (by simp))
  obtain ⟨t, ht⟩ : ∃ t, publish s (chainMaps s.settlementReorgs (lo ++ [d])) = .ok t :=
    ⟨_, (publish_chainMaps hchain h.config).mpr ⟨p, hproject, rfl⟩⟩
  refine ⟨t, ?_, (Stored.of_publish hchain h.config ht).1⟩
  simp only [ingestBlock, block_eq_ok]
  refine ⟨⟨by omega, hextends.present⟩, ?_⟩
  rw [hnone, Option.filter_none]
  refine (h.adoptBlock_eq_ok hextends.indexes (by omega) hextends.present.1 hextends.present.2).mpr
    ⟨by omega, hobserved, ?_, ?_⟩
  · rw [htake]
    exact hextends
  · rw [htake, hdrop]
    exact ht

/-- A new indexer that is fed a chain in its order stores the chain. -/
theorem Stored.replay {X : Type} {f : State → X → Except IndexerError State} {xs : List X}
    (feeds : List.Forall₂ (fun x d => ∀ s : State, s.config = c → f s x = ingestBlock s d.block d.receipts) xs ds)
    (hchain : Chain c ds) (hproject : project c.finalityDepth ds = .ok p) :
    ∃ t, xs.foldlM f (State.fresh c) = .ok t ∧ Stored c ds t := by
  induction ds using List.reverseRecOn generalizing xs p with
  | nil =>
    rw [List.forall₂_nil_right_iff] at feeds
    subst feeds
    exact ⟨_, rfl, Stored.nil⟩
  | append_singleton lo d ih =>
    have hlo := List.forall₂_take_append xs lo [d] feeds
    have hd := List.forall₂_drop_append xs lo [d] feeds
    obtain ⟨q, hq⟩ := project_left hproject
    obtain ⟨s, hs, hstored⟩ := ih hlo hchain.left hq
    obtain ⟨t, ht, hstored'⟩ := hstored.ingest_top hchain hproject
    refine ⟨t, ?_, hstored'⟩
    rw [← List.take_append_drop lo.length xs, List.foldlM_append, hs]
    rw [List.forall₂_cons_right_iff] at hd
    obtain ⟨x, rest, hx, hrest, hdrop⟩ := hd
    rw [List.forall₂_nil_right_iff] at hrest
    subst hrest
    rw [hdrop]
    change ([x].foldlM f s) = _
    rw [List.foldlM_cons, hx s hstored.config, ht]
    rfl

/-- The indexer stores a chain of blocks without receipts. -/
def StoresBlocks (c : Config) (s : State) : Prop := ∃ ds, Stored c ds s ∧ ∀ d ∈ ds, d.receipts = []

theorem StoresBlocks.ingest (h : StoresBlocks c s) (block : Block) (hok : ingest s block = .ok t) : StoresBlocks c t := by
  obtain ⟨ds, hstored, hreceipts⟩ := h
  simp only [Indexer.ingest, ingestBlock, block_eq_ok] at hok
  obtain ⟨hauthority, ⟨hn, hhash, htime⟩, hok⟩ := hok
  split at hok
  · rw [if_pos hauthority, pure_eq_ok] at hok
    exact hok ▸ ⟨ds, hstored, hreceipts⟩
  · have indexes : (([] : List VerifiedReceipt).map (·.transactionIndex)).Nodup := List.nodup_nil
    refine ⟨_, (hstored.adopt indexes hn hhash htime hok).1, fun d hd => ?_⟩
    rcases List.mem_append.mp hd with hd | hd
    · exact hreceipts d (List.mem_of_mem_take hd)
    · rw [List.mem_singleton.mp hd]

theorem StoresBlocks.replay (h : StoresBlocks c s) (hauthority : c.headerAuthority = []) :
    Canonical s ∧ ∃ (stored : List Block) (t : State), (∀ i, stored[i]? = s.blocks.lookup (i + 1)) ∧
      stored.foldlM Indexer.ingest (State.fresh c) = .ok t ∧ Replayed s t := by
  obtain ⟨ds, hstored, hreceipts⟩ := h
  have feeds : List.Forall₂ (fun block d => ∀ s : State, s.config = c →
      Indexer.ingest s block = ingestBlock s d.block d.receipts) (ds.map (·.block)) ds := by
    rw [List.forall₂_map_left_iff, List.forall₂_same]
    intro d hd s hs
    rw [Indexer.ingest, require, if_pos (by rw [hs, hauthority]), hreceipts d hd]
    rfl
  obtain ⟨t, ht, hstored'⟩ := Stored.replay feeds hstored.chain hstored.projected
  refine ⟨hstored.canonical, ds.map (·.block), t, fun i => ?_, ht, hstored.replayed hstored'⟩
  rw [List.getElem?_map, hstored.lookup_eq (Nat.succ_pos i)]
  rfl

/-! ### Deliveries of authenticated blocks -/

/-- The delivery that an accepted block of evidence with these entries is. -/
structure Delivered (c : Config) (a : AuthenticatedBlock) (entries : List ReceiptEntry) (d : Delivery) : Prop where
  ok : ∃ verified, verifyAuthenticatedBlock c.chainID c.gateway c.headerAuthority a = .ok verified ∧
    EvidenceOk c.chainID c.gateway c.headerAuthority a verified entries ∧ d = ⟨blockOf a verified, verified.receipts⟩

/-- A settlement event is of a log at its position and of a transaction that succeeded. -/
theorem mem_logEvents {position : Nat} {record : VerifiedReceipt} {log : ReceiptLog}
    (h : e ∈ logEvents chainID gateway record log position) :
    e.logIndex = position ∧ record.status = .succeeded ∧ e.txHash = record.transactionHash := by
  rw [logEvents] at h
  split at h
  · next hsettlement =>
    split at h
    · next event hdecode =>
      rw [List.mem_singleton.mp h]
      simp only [decodeCanonicalSettlementLog, block_eq_ok] at hdecode
      obtain ⟨-, -, -, -, -, -, -, -, -, -, -, -, -, -, -, -, -, -, -, -, -, -, rfl⟩ := hdecode
      exact ⟨rfl, hsettlement.1, rfl⟩
    · cases h
  · cases h

/-- The events of a block stand in the order of their log indexes. -/
theorem eventsFrom_sorted (chainID : Nat) (gateway : String) (start : Nat) (entries : List ReceiptEntry) :
    (eventsFrom chainID gateway start entries).Pairwise fun a b => a.logIndex < b.logIndex := by
  rw [eventsFrom, List.pairwise_flatMap]
  constructor
  · intro x _
    rw [logEvents]
    split
    · split
      · exact List.pairwise_singleton _ _
      · exact .nil
    · exact .nil
  · rw [List.pairwise_iff_getElem]
    intro i j hi hj hij a ha b hb
    rw [List.getElem_zipIdx] at ha hb
    rw [(mem_logEvents ha).1, (mem_logEvents hb).1]
    dsimp only
    omega

section

variable {a a' : AuthenticatedBlock} {entries entries' : List ReceiptEntry}

theorem Delivered.receipts (h : Delivered c a entries d) : d.receipts = entries.map Prod.fst := by
  obtain ⟨verified, -, hok, rfl⟩ := h.ok
  exact hok.receipts

theorem Delivered.events (h : Delivered c a entries d) :
    d.block.events = eventsFrom c.chainID c.gateway 0 entries := by
  obtain ⟨verified, -, hok, rfl⟩ := h.ok
  exact hok.events

theorem Delivered.present (h : Delivered c a entries d) :
    d.block.number ≠ 0 ∧ d.block.hash ≠ "" ∧ ¬ d.block.observedAt.IsZero := by
  obtain ⟨verified, -, hok, rfl⟩ := h.ok
  have hfields := parseEVMHeader_eq_ok hok.header.parsed
  refine ⟨Nat.pos_iff_ne_zero.mp hfields.number.1, ?_, hok.header.observed⟩
  change verified.header.hash ≠ ""
  rw [hfields.hash]
  exact hexText_ne_empty _

/-- The receipt records of a delivery are those of its block, at their positions. -/
theorem Delivered.record (h : Delivered c a entries d) {i : Nat} {entry : ReceiptEntry} (hi : entries[i]? = some entry) :
    ReceiptOk d.block entry.1 ∧ entry.1.transactionIndex = i := by
  obtain ⟨verified, -, hok, rfl⟩ := h.ok
  obtain ⟨proof, -, hproof⟩ := hok.proof hi
  have hroot := (parseEVMHeader_eq_ok hok.header.parsed).receiptsRoot
  refine ⟨?_, by rw [hproof.record]; exact hproof.index⟩
  rw [hproof.record]
  exact ⟨rfl, rfl, canonicalHash_keccakText _, canonicalHash_keccakText _, hroot, canonicalHash_keccakText _⟩

theorem Delivered.receiptOk (h : Delivered c a entries d) : ∀ r ∈ d.receipts, ReceiptOk d.block r := by
  intro r hr
  rw [h.receipts] at hr
  obtain ⟨entry, hentry, rfl⟩ := List.mem_map.mp hr
  obtain ⟨i, hi⟩ := List.mem_iff_getElem?.mp hentry
  exact (h.record hi).1

theorem Delivered.indexes (h : Delivered c a entries d) : (d.receipts.map (·.transactionIndex)).Nodup := by
  have hrange : d.receipts.map (·.transactionIndex) = List.range entries.length := by
    rw [h.receipts, List.map_map]
    apply List.ext_getElem
    · simp
    · intro i hi hi'
      rw [List.length_range] at hi'
      rw [List.getElem_map, List.getElem_range]
      exact (h.record (List.getElem?_eq_getElem hi')).2
  rw [hrange]
  exact List.nodup_range

/-! ### Two deliveries of one header -/

/-- No two receipts of the blocks have the same hash. -/
def NoReceiptCollision (calls : List AuthenticatedBlock) : Prop :=
  ∀ a ∈ calls, ∀ a' ∈ calls, ∀ p ∈ a.receipts, ∀ p' ∈ a'.receipts,
    keccak p.receiptRLP = keccak p'.receiptRLP → p.receiptRLP = p'.receiptRLP

omit [Crypto] in
/-- Lists that agree where both have an element: one begins the other. -/
theorem prefix_or_prefix {α : Type} {xs ys : List α}
    (h : ∀ {i : Nat} {x y}, xs[i]? = some x → ys[i]? = some y → x = y) : xs <+: ys ∨ ys <+: xs := by
  have take : ∀ {us vs : List α}, (∀ {i : Nat} {x y}, us[i]? = some x → vs[i]? = some y → x = y) → us.length ≤ vs.length →
      us <+: vs := by
    intro us vs hagree hle
    rw [List.prefix_iff_eq_take]
    apply List.ext_getElem
    · rw [List.length_take]
      omega
    · intro i hi hi'
      rw [List.getElem_take]
      exact hagree (List.getElem?_eq_getElem hi) (List.getElem?_eq_getElem (by omega))
  rcases Nat.le_total xs.length ys.length with hle | hle
  · exact .inl (take h hle)
  · exact .inr (take (fun hx hy => (h hy hx).symm) hle)

/-- Deliveries whose records agree on their common positions have the same entries there. -/
theorem Delivered.entries_agree {calls : List AuthenticatedBlock} (free : NoReceiptCollision calls) (ha : a ∈ calls)
    (ha' : a' ∈ calls) (h : Delivered c a entries d) (h' : Delivered c a' entries' d')
    (agree : ∀ r ∈ d.receipts, ∀ r' ∈ d'.receipts, r.transactionIndex = r'.transactionIndex → r = r') :
    entries <+: entries' ∨ entries' <+: entries := by
  refine prefix_or_prefix fun {i x y} hx hy => ?_
  obtain ⟨verified, -, hok, rfl⟩ := id h.ok
  obtain ⟨verified', -, hok', rfl⟩ := id h'.ok
  have hrecord : x.1 = y.1 := by
    refine agree x.1 ?_ y.1 ?_ ((h.record hx).2.trans (h'.record hy).2.symm)
    · rw [h.receipts]
      exact List.mem_map_of_mem (List.mem_of_getElem? hx)
    · rw [h'.receipts]
      exact List.mem_map_of_mem (List.mem_of_getElem? hy)
  obtain ⟨p, hp, hproof⟩ := hok.proof hx
  obtain ⟨p', hp', hproof'⟩ := hok'.proof hy
  -- equal payload hashes are hashes of the same receipt, which decodes to the same logs
  have hpayload : keccakText p.receiptRLP = keccakText p'.receiptRLP := by
    have := congrArg VerifiedReceipt.receiptPayloadHash hrecord
    rwa [hproof.record, hproof'.record] at this
  have hrlp := free a ha a' ha' p (List.mem_of_getElem? hp) p' (List.mem_of_getElem? hp') (hexText_inj hpayload)
  have hdecoded := hproof.decoded
  dsimp only at hdecoded
  rw [hrlp, hproof'.decoded] at hdecoded
  exact Prod.ext hrecord (Prod.mk.inj (Option.some.inj hdecoded)).2.symm

theorem Delivered.completes (h : Delivered c a entries d) (h' : Delivered c a' entries' d') (hstart : entries <+: entries')
    (hblock : d'.block = { d.block with events := d'.block.events }) : d.Completes d' where
  block := hblock
  receipts := by
    rw [h.receipts, h'.receipts]
    exact hstart.map _
  events := by
    obtain ⟨more, rfl⟩ := hstart
    rw [h.events, h'.events, eventsFrom_append]
    exact List.prefix_append _ _
  sorted := by
    rw [h'.events]
    exact eventsFrom_sorted _ _ _ _
  receiptOk := h'.receiptOk
  indexes := h'.indexes

/-- A delivery whose entries begin those of another has no receipt and no event of its own. -/
theorem Delivered.known (h : Delivered c a entries d) (h' : Delivered c a' entries' d') (hstart : entries <+: entries') :
    (∀ r ∈ d.receipts, r ∈ d'.receipts) ∧ ∀ e ∈ d.block.events, e ∈ d'.block.events := by
  obtain ⟨more, rfl⟩ := hstart
  rw [h.receipts, h'.receipts, h.events, h'.events, List.map_append, eventsFrom_append]
  exact ⟨fun r hr => List.mem_append_left _ hr, fun e he => List.mem_append_left _ he⟩

end

/-! ### Authenticated runs -/

omit [Crypto] in
theorem append_cons_of_getElem? {α : Type} {xs : List α} {i : Nat} {x : α} (h : xs[i]? = some x) :
    ∃ lo hi, xs = lo ++ x :: hi ∧ lo.length = i := by
  obtain ⟨hlt, rfl⟩ := List.getElem?_eq_some_iff.mp h
  refine ⟨xs.take i, xs.drop (i + 1), ?_, List.length_take_of_le hlt.le⟩
  rw [← List.drop_eq_getElem_cons hlt, List.take_append_drop]

omit [Crypto] in
theorem forall₂_append_cons {α β : Type} {R : α → β → Prop} {xs : List α} {lo hi : List β} {y : β}
    (h : List.Forall₂ R xs (lo ++ y :: hi)) :
    ∃ before x after, xs = before ++ x :: after ∧ List.Forall₂ R before lo ∧ R x y ∧ List.Forall₂ R after hi := by
  have hlo := List.forall₂_take_append xs lo _ h
  have hhi := List.forall₂_drop_append xs lo _ h
  obtain ⟨x, after, hx, hafter, heq⟩ := List.forall₂_cons_right_iff.mp hhi
  exact ⟨xs.take lo.length, x, after, by rw [← heq, List.take_append_drop], hlo, hx, hafter⟩

/-- The indexer stores the chain of some of the delivered blocks. -/
def StoresDeliveries (calls : List AuthenticatedBlock) (c : Config) (s : State) : Prop :=
  ∃ (stored : List AuthenticatedBlock) (ds : List Delivery), (∀ a ∈ stored, a ∈ calls) ∧
    List.Forall₂ (fun a d => ∃ entries, Delivered c a entries d) stored ds ∧ Stored c ds s

variable {calls : List AuthenticatedBlock} {a : AuthenticatedBlock} {entries : List ReceiptEntry}

/-- A second delivery of a stored block, if it is accepted, completes the block or brings nothing new. -/
theorem Delivered.redelivered (free : NoReceiptCollision calls) {lo hi : List Delivery} {a a' : AuthenticatedBlock}
    {entries' : List ReceiptEntry} (ha : a ∈ calls) (ha' : a' ∈ calls) (h : Delivered c a entries d)
    (h' : Delivered c a' entries' d') (hstored : Stored c (lo ++ d :: hi) s)
    (hnumber : d'.block.number = d.block.number) (hhash : d'.block.hash = d.block.hash)
    (hok : enrichAuthenticatedBlock s d.block d'.block d'.receipts = .ok t) :
    (entries <+: entries' ∧ Stored c (lo ++ d' :: hi) t ∧ t.settlementReorgs = s.settlementReorgs) ∨
      (entries' <+: entries ∧ t = s) := by
  have hchecks := hok
  simp only [enrichAuthenticatedBlock, block_eq_ok] at hchecks
  obtain ⟨⟨hparent, htime, hsignature⟩, -, acc, hacc, -⟩ := hchecks
  have hblock : d'.block = { d.block with events := d'.block.events } := by
    cases hd : d'.block
    simp only [hd] at hnumber hhash hparent htime hsignature
    simp [hnumber, hhash, hparent, htime, hsignature]
  have agree : ∀ r ∈ d.receipts, ∀ r' ∈ d'.receipts, r.transactionIndex = r'.transactionIndex → r = r' := by
    intro r hr r' hr' hindex
    have hrok := hstored.chain.receipts d (by simp) r hr
    exact enrichReceipts_agree hacc hr' (hstored.lookup_receipt (by simp) hr) ⟨hrok.blockNumber, hrok.blockHash⟩ hindex
  rcases h.entries_agree free ha ha' h' agree with hstart | hstart
  · exact .inl ⟨hstart, hstored.enrich (h.completes h' hstart hblock) hok⟩
  · obtain ⟨hreceipts, hevents⟩ := h'.known h hstart
    exact .inr ⟨hstart, hstored.enrich_known hreceipts hevents hok⟩

/-- What an accepted call did: it completed a stored block, or it took a block that was not stored. -/
theorem Stored.ingestAuthenticated_eq_ok (h : Stored c ds s) (hok : ingestAuthenticated s a = .ok t) :
    ∃ entries d', Delivered c a entries d' ∧
      ((∃ lo d hi, ds = lo ++ d :: hi ∧ lo.length = d'.block.number - 1 ∧ d'.block.number = d.block.number ∧
          d'.block.hash = d.block.hash ∧ enrichAuthenticatedBlock s d.block d'.block d'.receipts = .ok t) ∨
        ((∀ d ∈ ds, d.block.number = d'.block.number → d.block.hash ≠ d'.block.hash) ∧
          adoptBlock s d'.block d'.receipts = .ok t)) := by
  simp only [ingestAuthenticated, ingestBlock, block_eq_ok, h.config] at hok
  obtain ⟨⟨-, -, hauthority⟩, verified, hverified, ⟨hn, -, -⟩, hok⟩ := hok
  obtain ⟨entries, hentries⟩ := verifyAuthenticatedBlock_eq_ok hverified
  refine ⟨entries, ⟨blockOf a verified, verified.receipts⟩, ⟨verified, hverified, hentries, rfl⟩, ?_⟩
  have hne : c.headerAuthority ≠ [] := by
    intro hnil
    rw [hnil] at hauthority
    cases hauthority
  split at hok
  · rename_i existing hexisting
    rw [if_neg hne] at hok
    obtain ⟨hlookup, hsame⟩ := Option.filter_eq_some_iff.mp hexisting
    obtain ⟨hpos, d, hd, rfl⟩ := h.lookup_block.mp hlookup
    obtain ⟨lo, hi, rfl, hlength⟩ := append_cons_of_getElem? hd
    have hnumber := h.chain.numbers hd
    exact .inl ⟨lo, d, hi, rfl, hlength, by dsimp only; omega, (of_decide_eq_true hsame).symm, hok⟩
  · rename_i hnone
    refine .inr ⟨fun d hd hnumber hhash => ?_, hok⟩
    obtain ⟨i, hi⟩ := List.mem_iff_getElem?.mp hd
    have hi' := h.chain.numbers hi
    have hlookup : s.blocks.lookup (blockOf a verified).number = some d.block := by
      refine h.lookup_block.mpr ⟨Nat.pos_of_ne_zero hn, d, ?_, rfl⟩
      rwa [← hnumber, hi', Nat.add_sub_cancel]
    rw [hlookup, Option.filter_some, if_pos (decide_eq_true hhash)] at hnone
    cases hnone

theorem StoresDeliveries.ingest (free : NoReceiptCollision calls) (h : StoresDeliveries calls c s) (ha : a ∈ calls)
    (hok : ingestAuthenticated s a = .ok t) : StoresDeliveries calls c t := by
  obtain ⟨stored, ds, hmem, hdelivered, hstored⟩ := h
  obtain ⟨entries, d', hnew, ⟨lo, d, hi, rfl, hlength, hnumber, hhash, hok⟩ | ⟨-, hok⟩⟩ := hstored.ingestAuthenticated_eq_ok hok
  · -- the block is stored: its delivery is completed, or nothing changes
    obtain ⟨before, b, after, rfl, hbefore, ⟨oldEntries, hold⟩, hafter⟩ := forall₂_append_cons hdelivered
    have hb : b ∈ calls := hmem b (by simp)
    rcases hold.redelivered free hb ha hnew hstored hnumber hhash hok with ⟨-, hcompleted, -⟩ | ⟨-, rfl⟩
    · refine ⟨before ++ a :: after, _, fun x hx => ?_, List.rel_append hbefore (.cons ⟨entries, hnew⟩ hafter), hcompleted⟩
      rcases List.mem_append.mp hx with hx | hx
      · exact hmem x (by simp [hx])
      · rcases List.mem_cons.mp hx with rfl | hx
        · exact ha
        · exact hmem x (by simp [hx])
    · exact ⟨_, _, hmem, hdelivered, hstored⟩
  · obtain ⟨hn, hhash, htime⟩ := hnew.present
    refine ⟨stored.take (d'.block.number - 1) ++ [a], _, fun x hx => ?_,
      List.rel_append (List.forall₂_take _ hdelivered) (.cons ⟨entries, hnew⟩ .nil),
      (hstored.adopt hnew.indexes hn hhash htime hok).1⟩
    rcases List.mem_append.mp hx with hx | hx
    · exact hmem x (List.mem_of_mem_take hx)
    · rw [List.mem_singleton.mp hx]
      exact ha

def Config.IsGateway (c : Config) : Prop :=
  c.chainID ≠ 0 ∧ c.gateway ≠ "" ∧ c.headerAuthority.length = PUBLIC_KEY_SIZE

theorem Delivered.ingestAuthenticated_eq (hc : c.IsGateway) (h : Delivered c a entries d) (hs : s.config = c) :
    ingestAuthenticated s a = ingestBlock s d.block d.receipts := by
  obtain ⟨verified, hverified, -, rfl⟩ := h.ok
  obtain ⟨hchain, hgateway, hauthority⟩ := hc
  rw [ingestAuthenticated, hs, require, if_pos ⟨hchain, hgateway, hauthority⟩, hverified]
  rfl

/-- The stored blocks with their receipts are those of these deliveries, one for each height. -/
def StoresAll (c : Config) (s : State) (stored : List AuthenticatedBlock) : Prop :=
  stored.length = s.snapshot.head ∧ ∀ {i : Nat} {a : AuthenticatedBlock}, stored[i]? = some a →
    ∃ verified, verifyAuthenticatedBlock c.chainID c.gateway c.headerAuthority a = .ok verified ∧
      s.blocks.lookup (i + 1) = some (blockOf a verified) ∧
      ∀ r ∈ verified.receipts, s.receipts.lookup r.transactionHash = some r

theorem StoresDeliveries.replay (h : StoresDeliveries calls c s) (hc : c.IsGateway) :
    Canonical s ∧ ∃ (stored : List AuthenticatedBlock) (t : State), (∀ a ∈ stored, a ∈ calls) ∧ StoresAll c s stored ∧
      stored.foldlM ingestAuthenticated (State.fresh c) = .ok t ∧ Replayed s t := by
  obtain ⟨stored, ds, hmem, hdelivered, hstored⟩ := h
  have feeds : List.Forall₂ (fun a d => ∀ s : State, s.config = c →
      ingestAuthenticated s a = ingestBlock s d.block d.receipts) stored ds := by
    exact hdelivered.imp fun a d ⟨entries, hd⟩ s hs => hd.ingestAuthenticated_eq hc hs
  obtain ⟨t, ht, hstored'⟩ := Stored.replay feeds hstored.chain hstored.projected
  refine ⟨hstored.canonical, stored, t, hmem, ⟨hdelivered.length_eq.trans hstored.head.symm, ?_⟩, ht,
    hstored.replayed hstored'⟩
  intro i a ha
  obtain ⟨hlt, rfl⟩ := List.getElem?_eq_some_iff.mp ha
  have hlt' : i < ds.length := by rwa [← hdelivered.length_eq]
  obtain ⟨entries, verified, hverified, hentries, hd⟩ := hdelivered.get hlt hlt'
  rw [List.get_eq_getElem] at hverified hd
  rw [List.get_eq_getElem] at hd
  refine ⟨verified, hverified, ?_, fun r hr => hstored.lookup_receipt (List.getElem_mem hlt') (by rw [hd]; exact hr)⟩
  rw [hstored.lookup_eq (Nat.succ_pos i), Nat.succ_sub_one, List.getElem?_eq_getElem hlt', Option.map_some]
  exact congrArg (fun d => some d.block) hd

theorem newGateway_eq_ok {depth : Nat} {authority : Octets} (h : newGateway chainID gateway depth authority = .ok s) :
    ∃ c : Config, s = State.fresh c ∧ c.IsGateway ∧ c.chainID = chainID ∧ c.gateway = gateway ∧
      c.headerAuthority = authority := by
  simp only [newGateway, block_eq_ok] at h
  obtain ⟨⟨hchain, hgateway, -, hauthority⟩, policy, -, rfl⟩ := h
  refine ⟨_, rfl, ⟨hchain, ?_, hauthority⟩, rfl, rfl, rfl⟩
  rintro rfl
  simp [canonicalAddress, decodeHexText] at hgateway

/-- After any calls, accepted or rejected, the indexer stores one chain, and a new indexer that is given the stored
    blocks alone, complete and in the order of their heights, has the same indexes and the same projection. -/
theorem reorganisation_equals_replay :
    (∀ (depth : Nat) (calls : List Block),
      let s := runCalls (fun block s => Indexer.ingest s block) (State.fresh (.unauthenticated depth)) calls
      Canonical s ∧ ∃ (stored : List Block) (t : State), (∀ i, stored[i]? = s.blocks.lookup (i + 1)) ∧
        stored.foldlM Indexer.ingest (State.fresh (.unauthenticated depth)) = .ok t ∧ Replayed s t) ∧
    (∀ (chainID : Nat) (gateway : String) (depth : Nat) (authority : Octets) (s₀ : State),
      newGateway chainID gateway depth authority = .ok s₀ → ∀ calls, NoReceiptCollision calls →
      let s := runCalls (fun a s => ingestAuthenticated s a) s₀ calls
      Canonical s ∧ ∃ (stored : List AuthenticatedBlock) (t : State), (∀ a ∈ stored, a ∈ calls) ∧
        StoresAll s₀.config s stored ∧ stored.foldlM ingestAuthenticated s₀ = .ok t ∧ Replayed s t) ∧
    (∀ (s : State) (block : Block) (e : IndexerError), Indexer.ingest s block = .error e →
      commit (fun block s => Indexer.ingest s block) s block = s) ∧
    (∀ (s : State) (a : AuthenticatedBlock) (e : IndexerError), ingestAuthenticated s a = .error e →
      commit (fun a s => ingestAuthenticated s a) s a = s) := by
  refine ⟨fun depth calls => ?_, fun chainID gateway depth authority s₀ h₀ calls free => ?_,
    fun s block e h => commit_of_error h, fun s a e h => commit_of_error h⟩
  · have hrun : StoresBlocks (.unauthenticated depth)
        (runCalls (fun block s => Indexer.ingest s block) (State.fresh (.unauthenticated depth)) calls) :=
      runCalls_invariant _ (fun block s t hok hs => hs.ingest block hok) ⟨[], Stored.nil, by simp⟩ calls
    exact hrun.replay rfl
  · obtain ⟨c, rfl, hc, -⟩ := newGateway_eq_ok h₀
    have hrun : StoresDeliveries calls c (runCalls (fun a s => ingestAuthenticated s a) (State.fresh c) calls) :=
      runCalls_invariant_of_mem _ (fun a ha s t hok hs => hs.ingest free ha hok) ⟨[], [], by simp, .nil, Stored.nil⟩
    exact hrun.replay hc

end

/-! ### A run with a completed block and a competing one -/

def polyGateway : String := hexText (List.replicate 20 5)

/-- The first block without its receipt, a second one, the first with its receipt, and another second one. -/
def polyCalls : List AuthenticatedBlock :=
  let first := polyHeader (List.replicate 32 0) [[9]] [toyReceipt.encode] 1 1
  let second := fun timestamp => polyHeader (polyHash first) [[8]] [toyReceipt.encode] 2 timestamp
  [polyBlock first toyTime [], polyBlock (second 1) toyTime [],
    polyBlock first toyTime [polyProof [[9]] [toyReceipt.encode] 0], polyBlock (second 2) toyTime []]

def polyIndexer : State :=
  State.fresh ⟨1, polyGateway, 2, polyKey, @keccakText polyCrypto polyKey,
    ((@computeFinalityPolicyHash polyCrypto 1 polyGateway 2 polyKey).toOption).getD ""⟩

theorem polyIndexer_replayed :
    (runCalls (fun a s => @ingestAuthenticated polyCrypto s a) polyIndexer polyCalls).snapshot.head = 2 ∧
      ∃ (stored : List AuthenticatedBlock) (t : State), stored.foldlM (@ingestAuthenticated polyCrypto) polyIndexer = .ok t ∧
        Replayed (runCalls (fun a s => @ingestAuthenticated polyCrypto s a) polyIndexer polyCalls) t := by
  have h₀ : @newGateway polyCrypto 1 polyGateway 2 polyKey = .ok polyIndexer := by decide +kernel
  have free : @NoReceiptCollision polyCrypto polyCalls := by
    unfold NoReceiptCollision
    decide +kernel
  obtain ⟨-, stored, t, -, -, ht, hreplayed⟩ :=
    (@reorganisation_equals_replay polyCrypto).2.1 1 polyGateway 2 polyKey polyIndexer h₀ polyCalls free
  exact ⟨by decide +kernel, stored, t, ht, hreplayed⟩

end Unified.Indexer
