import Unified.Indexer.Chain

/-! A second delivery of a stored block: when it brings further receipts and events, they join those that
    are stored; when it brings nothing new, nothing changes. -/

namespace Unified.Indexer

open Table

variable {c : Config} {ds lo hi : List Delivery} {d d' : Delivery} {s t : State} {existing : Block}

/-! ### Receipts -/

section

variable {acc acc' : Table String VerifiedReceipt × Bool} {r v : VerifiedReceipt} {rs : List VerifiedReceipt}
  {k : String}

/-- The three ways in which a receipt is accepted. -/
theorem enrichReceipt_eq_ok (h : enrichReceipt existing acc r = .ok acc') :
    OfBlock existing r ∧
      ((acc.1.Any (fun prior => OfBlock existing prior ∧ prior.transactionIndex = r.transactionIndex) ∧ acc' = acc ∧
          ∀ k v, acc.1.lookup k = some v → OfBlock existing v → v.transactionIndex = r.transactionIndex → v = r) ∨
        (¬ acc.1.Any (fun prior => OfBlock existing prior ∧ prior.transactionIndex = r.transactionIndex) ∧
          (acc.1.lookup r.transactionHash = some r ∧ acc' = acc ∨
            r.transactionHash ∉ acc.1 ∧ acc' = (acc.1.insert r.transactionHash r, true)))) := by
  simp only [enrichReceipt, block_eq_ok] at h
  obtain ⟨hblock, h⟩ := h
  refine ⟨hblock, ?_⟩
  split at h
  · rename_i hknown
    simp only [block_eq_ok] at h
    obtain ⟨hsame, rfl⟩ := h
    refine .inl ⟨hknown, rfl, fun k v hk hv hindex => ?_⟩
    by_contra hne
    exact hsame (any_iff.mpr ⟨k, v, hk, hv, hindex, hne⟩)
  · rename_i hnew
    refine .inr ⟨hnew, ?_⟩
    cases hlookup : acc.1.lookup r.transactionHash with
    | some =>
      rw [hlookup] at h
      simp only [block_eq_ok] at h
      obtain ⟨rfl, rfl⟩ := h
      exact .inl ⟨rfl, rfl⟩
    | none =>
      rw [hlookup] at h
      exact .inr ⟨Finmap.lookup_eq_none.mp hlookup, (pure_eq_ok.mp h).symm⟩

theorem enrichReceipt_new (fresh : ∀ k v, acc.1.lookup k = some v → OfBlock existing v →
      v.transactionIndex ≠ r.transactionIndex) (h : enrichReceipt existing acc r = .ok acc') :
    r.transactionHash ∉ acc.1 ∧ acc' = (acc.1.insert r.transactionHash r, true) := by
  obtain ⟨hblock, ⟨hknown, -⟩ | ⟨-, ⟨hlookup, -⟩ | hnew⟩⟩ := enrichReceipt_eq_ok h
  · obtain ⟨k, v, hk, hv, hindex⟩ := any_iff.mp hknown
    exact absurd hindex (fresh k v hk hv)
  · exact absurd rfl (fresh _ _ hlookup hblock)
  · exact hnew

theorem enrichReceipt_lookup (h : enrichReceipt existing acc r = .ok acc') (hk : acc.1.lookup k = some v) :
    acc'.1.lookup k = some v := by
  obtain ⟨-, ⟨-, rfl, -⟩ | ⟨-, ⟨-, rfl⟩ | ⟨hnew, rfl⟩⟩⟩ := enrichReceipt_eq_ok h
  · exact hk
  · exact hk
  · have hne : k ≠ r.transactionHash := fun heq => hnew (heq ▸ Finmap.mem_of_lookup_eq_some hk)
    rw [Finmap.lookup_insert_of_ne _ hne]
    exact hk

/-- Accepted receipts agree with the stored ones on their indexes. -/
theorem enrichReceipts_agree (h : rs.foldlM (enrichReceipt existing) acc = .ok acc') (hr : r ∈ rs)
    (hk : acc.1.lookup k = some v) (hv : OfBlock existing v) (hindex : v.transactionIndex = r.transactionIndex) :
    v = r := by
  induction rs generalizing acc with
  | nil => cases hr
  | cons _ _ ih =>
    rw [List.foldlM_cons, bind_eq_ok] at h
    obtain ⟨mid, hx, h⟩ := h
    rcases List.mem_cons.mp hr with rfl | hr
    · obtain ⟨-, ⟨-, -, hsame⟩ | ⟨hnew, -⟩⟩ := enrichReceipt_eq_ok hx
      · exact hsame k v hk hv hindex
      · exact absurd (any_iff.mpr ⟨k, v, hk, hv, hindex⟩) hnew
    · exact ih h hr (enrichReceipt_lookup hx hk)

theorem enrichReceipts_known (h : rs.foldlM (enrichReceipt existing) acc = .ok acc')
    (known : ∀ r ∈ rs, ∃ k, acc.1.lookup k = some r) : acc' = acc := by
  induction rs generalizing acc with
  | nil => exact (pure_eq_ok.mp h).symm
  | cons x _ ih =>
    rw [List.foldlM_cons, bind_eq_ok] at h
    obtain ⟨mid, hx, h⟩ := h
    obtain ⟨k, hk⟩ := known x List.mem_cons_self
    have hmid : mid = acc := by
      obtain ⟨hblock, ⟨-, heq, -⟩ | ⟨hnew, -⟩⟩ := enrichReceipt_eq_ok hx
      · exact heq
      · exact absurd (any_iff.mpr ⟨k, x, hk, hblock, rfl⟩) hnew
    subst hmid
    exact ih h fun r hr => known r (List.mem_cons_of_mem _ hr)

theorem enrichReceipts_new (indexes : (rs.map (·.transactionIndex)).Nodup)
    (fresh : ∀ k v, acc.1.lookup k = some v → OfBlock existing v → v.transactionIndex ∉ rs.map (·.transactionIndex))
    (h : rs.foldlM (enrichReceipt existing) acc = .ok acc') :
    (rs.map (·.transactionHash)).Nodup ∧ (∀ r ∈ rs, r.transactionHash ∉ acc.1) ∧
      acc'.1 = acc.1.insertMany (rs.map fun r => (r.transactionHash, r)) ∧ (rs ≠ [] → acc'.2 = true) ∧
      (acc.2 = true → acc'.2 = true) := by
  induction rs generalizing acc with
  | nil =>
    rw [List.foldlM_nil, pure_eq_ok] at h
    subst h
    exact ⟨.nil, by simp, rfl, fun hne => absurd rfl hne, id⟩
  | cons x rs ih =>
    rw [List.foldlM_cons, bind_eq_ok] at h
    obtain ⟨mid, hx, h⟩ := h
    rw [List.map_cons, List.nodup_cons] at indexes
    obtain ⟨hnew, rfl⟩ := enrichReceipt_new
      (fun k v hk hv heq => fresh k v hk hv (by rw [heq]; exact List.mem_cons_self)) hx
    have fresh' : ∀ k v, (acc.1.insert x.transactionHash x).lookup k = some v → OfBlock existing v →
        v.transactionIndex ∉ rs.map (·.transactionIndex) := by
      intro k v hk hv
      rw [lookup_insert_apply] at hk
      split at hk
      · cases hk
        exact indexes.1
      · exact fun hmem => fresh k v hk hv (List.mem_cons_of_mem _ hmem)
    obtain ⟨hnodup, hnews, hmany, -, hflag⟩ := ih indexes.2 fresh' h
    simp only [Finmap.mem_insert, not_or] at hnews
    refine ⟨?_, by simpa using ⟨hnew, fun y hy => (hnews y hy).2⟩, hmany, fun _ => hflag rfl, fun _ => hflag rfl⟩
    rw [List.map_cons, List.nodup_cons]
    refine ⟨fun hmem => ?_, hnodup⟩
    obtain ⟨y, hy, heq⟩ := List.mem_map.mp hmem
    exact (hnews y hy).1 heq

end

/-! ### Events -/

section

variable {acc acc' : Merge} {e : Event} {es : List Event}

theorem enrichEvents_known (h : es.foldlM (enrichEvent c existing) acc = .ok acc') (known : ∀ e ∈ es, e ∈ acc.events) :
    acc' = acc := by
  induction es generalizing acc with
  | nil => exact (pure_eq_ok.mp h).symm
  | cons x es ih =>
    rw [List.foldlM_cons, bind_eq_ok] at h
    obtain ⟨mid, hx, h⟩ := h
    have hmid : mid = acc := by
      simp only [enrichEvent, block_eq_ok] at hx
      obtain ⟨-, hx⟩ := hx
      split at hx
      · simp only [block_eq_ok] at hx
        exact hx.2.symm
      · rename_i hnone
        have := List.find?_eq_none.mp hnone x (known x List.mem_cons_self)
        simp at this
    subst hmid
    exact ih h fun e he => known e (List.mem_cons_of_mem _ he)

theorem enrichEvent_new (fresh : ∀ prior ∈ acc.events, prior.logIndex ≠ e.logIndex)
    (h : enrichEvent c existing acc e = .ok acc') :
    (e.id ≠ "" ∧ e.txHash ≠ "" ∧ BelongsTo c existing e) ∧ e.id ∉ acc.eventBlocks ∧
      acc' = ⟨acc.events ++ [e], acc.eventBlocks.insert e.id existing.number, true⟩ := by
  simp only [enrichEvent, block_eq_ok] at h
  obtain ⟨hok, h⟩ := h
  refine ⟨hok, ?_⟩
  split at h
  · rename_i prior hprior
    simp only [block_eq_ok] at h
    exact absurd (congrArg (fun x : Event => x.logIndex) h.1) (fresh prior (List.mem_of_find?_eq_some hprior))
  · simp only [block_eq_ok] at h
    obtain ⟨-, h⟩ := h
    split at h
    · cases h
    · rename_i hlookup
      exact ⟨Finmap.lookup_eq_none.mp hlookup, (pure_eq_ok.mp h).symm⟩

theorem enrichEvents_new (sorted : (acc.events ++ es).Pairwise fun a b => a.logIndex < b.logIndex)
    (h : es.foldlM (enrichEvent c existing) acc = .ok acc') :
    (∀ e ∈ es, e.id ≠ "" ∧ e.txHash ≠ "" ∧ BelongsTo c existing e) ∧ (es.map (·.id)).Nodup ∧
      (∀ e ∈ es, e.id ∉ acc.eventBlocks) ∧ acc'.events = acc.events ++ es ∧
      acc'.eventBlocks = acc.eventBlocks.insertMany (es.map fun e => (e.id, existing.number)) ∧
      (es ≠ [] → acc'.changed = true) ∧ (acc.changed = true → acc'.changed = true) := by
  induction es generalizing acc with
  | nil =>
    rw [List.foldlM_nil, pure_eq_ok] at h
    subst h
    exact ⟨by simp, .nil, by simp, by simp, rfl, fun hne => absurd rfl hne, id⟩
  | cons x _ ih =>
    rw [List.foldlM_cons, bind_eq_ok] at h
    obtain ⟨mid, hx, h⟩ := h
    have hless := (List.pairwise_append.mp sorted).2.2
    obtain ⟨hok, hnew, rfl⟩ := enrichEvent_new
      (fun prior hprior heq => absurd (hless prior hprior x List.mem_cons_self) (by omega)) hx
    obtain ⟨hoks, hnodup, hnews, hevents, hmany, -, hflag⟩ := ih (by simpa using sorted) h
    simp only [Finmap.mem_insert, not_or] at hnews
    refine ⟨by simpa using ⟨hok, hoks⟩, ?_, by simpa using ⟨hnew, fun y hy => (hnews y hy).2⟩, by simpa using hevents, hmany,
      fun _ => hflag rfl, fun _ => hflag rfl⟩
    rw [List.map_cons, List.nodup_cons]
    refine ⟨fun hmem => ?_, hnodup⟩
    obtain ⟨y, hy, heq⟩ := List.mem_map.mp hmem
    exact (hnews y hy).1 heq

end

/-! ### The completed block -/

/-- `d'` is a delivery of the block of `d` with at least the receipts and events of `d`. -/
structure Delivery.Completes (d d' : Delivery) : Prop where
  block : d'.block = { d.block with events := d'.block.events }
  receipts : d.receipts <+: d'.receipts
  events : d.block.events <+: d'.block.events
  sorted : d'.block.events.Pairwise fun a b => a.logIndex < b.logIndex
  receiptOk : ∀ r ∈ d'.receipts, ReceiptOk d'.block r
  indexes : (d'.receipts.map (·.transactionIndex)).Nodup

theorem BelongsTo.belongs {e : Event} (h : BelongsTo c existing e) : Belongs c existing e := fun htype =>
  let ⟨h1, h2, h3, h4, h5, h6⟩ := h htype
  ⟨h1, h2, h3, fun _ => h4, fun _ => ⟨h5, h6⟩⟩

theorem sortEvents_eq {es : List Event} (h : es.Pairwise fun a b => a.logIndex < b.logIndex) : sortEvents es = es :=
  List.Pairwise.insertionSort_eq (h.imp fun hlt => Nat.le_of_lt hlt)

/-- Entries that join a stretch of entries stand at its end. -/
theorem insertMany_stretch {V : Type} {xs zs ys : List (String × V)} (more : List (String × V))
    (h : ((xs ++ zs ++ ys).map Prod.fst).Nodup) (hmore : (more.map Prod.fst).Nodup)
    (hnew : ∀ e ∈ more, e.1 ∉ ofList (xs ++ zs ++ ys)) :
    (ofList (xs ++ zs ++ ys)).insertMany more = .ofList (xs ++ (zs ++ more) ++ ys) ∧
      ((xs ++ (zs ++ more) ++ ys).map Prod.fst).Nodup := by
  have hperm : (xs ++ zs ++ ys ++ more).Perm (xs ++ (zs ++ more) ++ ys) := by
    rw [List.append_assoc (xs ++ zs), ← List.append_assoc xs zs more, List.append_assoc (xs ++ zs) more]
    exact List.Perm.append_left _ List.perm_append_comm
  have hnodup : ((xs ++ zs ++ ys ++ more).map Prod.fst).Nodup := by
    rw [List.map_append]
    refine h.append hmore ?_
    intro k hk hk'
    obtain ⟨e, he, rfl⟩ := List.mem_map.mp hk'
    exact hnew e he (mem_ofList.mpr hk)
  exact ⟨by rw [← ofList_append, ofList_perm hnodup hperm], (hperm.map Prod.fst).nodup_iff.mp hnodup⟩

/-- Replacing a delivery by a completed one keeps a chain. -/
theorem Chain.complete (h : Chain c (lo ++ d :: hi)) (hd : d.Completes d') (events : ∀ e ∈ d'.block.events, EventOk c d'.block e)
    (eventIDs : (((lo ++ d' :: hi).flatMap Delivery.eventEntries).map Prod.fst).Nodup)
    (transactions : (((lo ++ d' :: hi).flatMap Delivery.receiptEntries).map Prod.fst).Nodup) :
    Chain c (lo ++ d' :: hi) := by
  have hnumber : d'.block.number = d.block.number := by rw [hd.block]
  have hhash : d'.block.hash = d.block.hash := by rw [hd.block]
  have hparent : d'.block.parentHash = d.block.parentHash := by rw [hd.block]
  have htime : d'.block.observedAt = d.block.observedAt := by rw [hd.block]
  have each : ∀ {p : Delivery → Prop}, (∀ x ∈ lo ++ d :: hi, p x) → p d' → ∀ x ∈ lo ++ d' :: hi, p x := by
    intro p hall hp x hx
    rcases List.mem_append.mp hx with hx | hx
    · exact hall x (List.mem_append_left _ hx)
    · rcases List.mem_cons.mp hx with rfl | hx
      · exact hp
      · exact hall x (List.mem_append_right _ (List.mem_cons_of_mem _ hx))
  have hmem : d ∈ lo ++ d :: hi := by simp
  constructor
  case numbers =>
    intro i x hx
    by_cases hi : i = lo.length
    · subst hi
      simp only [List.getElem?_append_right le_rfl, Nat.sub_self, List.getElem?_cons_zero, Option.some.injEq] at hx
      rw [← hx, hnumber]
      exact h.numbers (by simp)
    · refine h.numbers (i := i) ?_
      rcases Nat.lt_or_gt_of_ne hi with hlt | hgt
      · rw [List.getElem?_append_left hlt] at hx ⊢
        exact hx
      · rw [List.getElem?_append_right hgt.le] at hx ⊢
        obtain ⟨k, hk⟩ := Nat.exists_eq_succ_of_ne_zero (Nat.sub_ne_zero_of_lt hgt)
        rw [hk] at hx ⊢
        exact hx
  case present =>
    exact each h.present (by rw [hhash, htime]; exact h.present d hmem)
  case linked =>
    have hlinked := h.linked
    rw [List.isChain_append, List.isChain_cons] at hlinked ⊢
    obtain ⟨hlo, ⟨hnext, hhi⟩, hjoin⟩ := hlinked
    refine ⟨hlo, ⟨fun y hy => by rw [hhash]; exact hnext y hy, hhi⟩, ?_⟩
    rintro top htop _ ⟨⟩
    rw [hparent]
    exact hjoin top htop d rfl
  case ordered =>
    have hordered := h.ordered
    rw [List.pairwise_append, List.pairwise_cons] at hordered ⊢
    obtain ⟨hlo, ⟨hnext, hhi⟩, hjoin⟩ := hordered
    refine ⟨hlo, ⟨fun y hy => by rw [htime]; exact hnext y hy, hhi⟩, fun x hx y hy => ?_⟩
    rcases List.mem_cons.mp hy with rfl | hy
    · rw [htime]
      exact hjoin x hx d List.mem_cons_self
    · exact hjoin x hx y (List.mem_cons_of_mem _ hy)
  case events => exact each h.events events
  case receipts => exact each h.receipts hd.receiptOk
  case eventIDs => exact eventIDs
  case transactions => exact transactions
  case indexes => exact each h.indexes hd.indexes

/-- The stored receipts of a block are those of its delivery. -/
theorem Stored.ofBlock (h : Stored c (lo ++ d :: hi) s) {k : String} {v : VerifiedReceipt}
    (hk : s.receipts.lookup k = some v) (hv : OfBlock d.block v) : v ∈ d.receipts := by
  have hlookup : (chainMaps s.settlementReorgs (lo ++ d :: hi)).receipts.lookup k = some v := by rwa [← h.maps]
  rw [chainMaps, lookup_ofList h.chain.transactions] at hlookup
  obtain ⟨x, hx, hxr⟩ := List.mem_flatMap.mp hlookup
  obtain ⟨r, hr, heq⟩ := List.mem_map.mp hxr
  cases heq
  have hnumber : x.block.number = d.block.number := by
    rw [← (h.chain.receipts x hx v hr).blockNumber]
    exact hv.1
  -- heights are distinct, so it is the delivery of this block
  have hheights := h.chain.distinct.heights
  rw [blockEntries, List.map_map] at hheights
  obtain rfl := List.inj_on_of_nodup_map hheights hx (by simp) hnumber
  exact hr

theorem Stored.lookup_receipt (h : Stored c ds s) {r : VerifiedReceipt} (hd : d ∈ ds) (hr : r ∈ d.receipts) :
    s.receipts.lookup r.transactionHash = some r := by
  have : (chainMaps s.settlementReorgs ds).receipts.lookup r.transactionHash = some r := by
    rw [chainMaps, lookup_ofList h.chain.transactions]
    exact List.mem_flatMap.mpr ⟨d, hd, List.mem_map_of_mem hr⟩
  rwa [← h.maps] at this

theorem Stored.enrich_known (h : Stored c (lo ++ d :: hi) s) {incoming : Block} {rs : List VerifiedReceipt}
    (receipts : ∀ r ∈ rs, r ∈ d.receipts) (events : ∀ e ∈ incoming.events, e ∈ d.block.events)
    (hok : enrichAuthenticatedBlock s d.block incoming rs = .ok t) : t = s := by
  simp only [enrichAuthenticatedBlock, block_eq_ok] at hok
  obtain ⟨-, -, acc, hacc, merge, hmerge, hok⟩ := hok
  have hreceipts := enrichReceipts_known hacc fun r hr => ⟨_, h.lookup_receipt (by simp) (receipts r hr)⟩
  subst hreceipts
  have hevents := enrichEvents_known hmerge events
  subst hevents
  rw [if_neg (by simp)] at hok
  exact (pure_eq_ok.mp hok).symm

theorem chainMaps_complete (reorgs : Table String SettlementReorg) (h : Chain c (lo ++ d :: hi)) (hd : d.Completes d') {moreEvents : List Event}
    {moreReceipts : List VerifiedReceipt} (hevents : d.block.events ++ moreEvents = d'.block.events)
    (hreceipts : d.receipts ++ moreReceipts = d'.receipts)
    (eok : ∀ e ∈ moreEvents, e.id ≠ "" ∧ e.txHash ≠ "" ∧ BelongsTo c d.block e) (enodup : (moreEvents.map (·.id)).Nodup)
    (enew : ∀ e ∈ moreEvents, e.id ∉ (chainMaps reorgs (lo ++ d :: hi)).eventBlocks)
    (rnodup : (moreReceipts.map (·.transactionHash)).Nodup)
    (rnew : ∀ r ∈ moreReceipts, r.transactionHash ∉ (chainMaps reorgs (lo ++ d :: hi)).receipts) :
    Chain c (lo ++ d' :: hi) ∧ chainMaps reorgs (lo ++ d' :: hi) =
      let maps := chainMaps reorgs (lo ++ d :: hi)
      { maps with
        blocks := maps.blocks.insert d.block.number d'.block
        eventBlocks := insertMany maps.eventBlocks (moreEvents.map fun e => (e.id, d.block.number))
        receipts := insertMany maps.receipts (moreReceipts.map fun r => (r.transactionHash, r)) } := by
  have hnumber : d'.block.number = d.block.number := by rw [hd.block]
  have heventEntries : d'.eventEntries = d.eventEntries ++ moreEvents.map fun e => (e.id, d.block.number) := by
    rw [Delivery.eventEntries, ← hevents, List.map_append, hnumber]
    rfl
  have hreceiptEntries : d'.receiptEntries = d.receiptEntries ++ moreReceipts.map fun r => (r.transactionHash, r) := by
    rw [Delivery.receiptEntries, ← hreceipts, List.map_append]
    rfl
  have split : ∀ {V : Type} (f : Delivery → List (String × V)) (x : Delivery),
      (lo ++ x :: hi).flatMap f = lo.flatMap f ++ f x ++ hi.flatMap f := by
    intro V f x
    rw [List.flatMap_append, List.flatMap_cons, List.append_assoc]
  obtain ⟨hmapEvents, hnodupEvents⟩ := insertMany_stretch (moreEvents.map fun e => (e.id, d.block.number))
    (by rw [← split]; exact h.eventIDs) (by rw [List.map_map]; exact enodup)
    (by rw [← split]; simpa [chainMaps] using enew)
  obtain ⟨hmapReceipts, hnodupReceipts⟩ := insertMany_stretch (moreReceipts.map fun r => (r.transactionHash, r))
    (by rw [← split]; exact h.transactions) (by rw [List.map_map]; exact rnodup)
    (by rw [← split]; simpa [chainMaps] using rnew)
  rw [← heventEntries, ← split, ← split] at hmapEvents
  rw [← heventEntries, ← split] at hnodupEvents
  rw [← hreceiptEntries, ← split, ← split] at hmapReceipts
  rw [← hreceiptEntries, ← split] at hnodupReceipts
  have hok : ∀ e ∈ d'.block.events, EventOk c d'.block e := by
    intro e he
    rw [← hevents, List.mem_append] at he
    rw [hd.block]
    rcases he with he | he
    · obtain ⟨h1, h2, h3⟩ := h.events d (by simp) e he
      exact ⟨h1, h2, h3⟩
    · obtain ⟨h1, h2, h3⟩ := eok e he
      exact ⟨h1, h2, h3.belongs⟩
  refine ⟨h.complete hd hok hnodupEvents hnodupReceipts, ?_⟩
  have hheights := h.distinct.heights
  have hblocks : ∀ x, blockEntries (lo ++ x :: hi) = blockEntries lo ++ (x.block.number, x.block) :: blockEntries hi := by
    intro x
    simp [blockEntries]
  rw [hblocks] at hheights
  simp only [chainMaps, ChainMaps.mk.injEq, and_true]
  refine ⟨?_, hmapEvents.symm, hmapReceipts.symm⟩
  rw [hblocks, hblocks, insert_ofList hheights, hnumber]

/-- A second delivery with more receipts and events takes the place of the stored one. -/
theorem Stored.enrich (h : Stored c (lo ++ d :: hi) s) (hd : d.Completes d')
    (hok : enrichAuthenticatedBlock s d.block d'.block d'.receipts = .ok t) :
    Stored c (lo ++ d' :: hi) t ∧ t.settlementReorgs = s.settlementReorgs := by
  obtain ⟨moreReceipts, hmoreReceipts⟩ := hd.receipts
  obtain ⟨moreEvents, hmoreEvents⟩ := hd.events
  have hindexes := hd.indexes
  rw [← hmoreReceipts, List.map_append, List.nodup_append'] at hindexes
  have hsorted := hd.sorted
  rw [← hmoreEvents] at hsorted
  simp only [enrichAuthenticatedBlock, block_eq_ok] at hok
  obtain ⟨-, -, acc, hacc, merge, hmerge, hok⟩ := hok
  -- the stored receipts first, then the new ones
  rw [← hmoreReceipts, List.foldlM_append, bind_eq_ok] at hacc
  obtain ⟨acc₀, hacc₀, hacc⟩ := hacc
  have hstored := enrichReceipts_known hacc₀ fun r hr => ⟨_, h.lookup_receipt (by simp) hr⟩
  subst hstored
  have hfresh : ∀ k v, s.receipts.lookup k = some v → OfBlock d.block v →
      v.transactionIndex ∉ moreReceipts.map (·.transactionIndex) := fun k v hk hv =>
    List.disjoint_left.mp hindexes.2.2 (List.mem_map_of_mem (h.ofBlock hk hv))
  obtain ⟨rnodup, rnew, hreceipts, hchanged, -⟩ := enrichReceipts_new hindexes.2.1 hfresh hacc
  -- the stored events first, then the new ones
  rw [← hmoreEvents, List.foldlM_append, bind_eq_ok] at hmerge
  obtain ⟨merge₀, hmerge₀, hmerge⟩ := hmerge
  have hstoredEvents := enrichEvents_known hmerge₀ fun e he => he
  subst hstoredEvents
  obtain ⟨eok, enodup, enew, hevents, heventBlocks, hchangedEvents, hchangedFlag⟩ := enrichEvents_new hsorted hmerge
  dsimp only at rnew hreceipts hevents heventBlocks enew hchangedFlag
  split at hok
  · have hmaps := h.maps
    obtain ⟨hchain, hnew⟩ := chainMaps_complete s.settlementReorgs h.chain hd hmoreEvents hmoreReceipts
      (h.config ▸ eok) enodup (by rw [← hmaps]; exact enew) rnodup (by rw [← hmaps]; exact rnew)
    refine Stored.of_publish hchain h.config ?_
    rw [hnew, ← hmaps, ← hok, hreceipts, heventBlocks, hevents, sortEvents_eq hsorted, hmoreEvents, ← hd.block]
  · rename_i hunchanged
    have hnoReceipts : moreReceipts = [] := by_contra fun hne => hunchanged (hchangedFlag (hchanged hne))
    have hnoEvents : moreEvents = [] := by_contra fun hne => hunchanged (hchangedEvents hne)
    subst hnoReceipts hnoEvents
    rw [List.append_nil] at hmoreReceipts hmoreEvents
    have hsame : d' = d := by
      have hblock : d'.block = d.block := by rw [hd.block, ← hmoreEvents]
      obtain ⟨b, rs⟩ := d
      obtain ⟨b', rs'⟩ := d'
      dsimp only at hblock hmoreReceipts
      rw [hblock, hmoreReceipts]
    rw [hsame, ← pure_eq_ok.mp hok]
    exact ⟨h, rfl⟩

end Unified.Indexer
