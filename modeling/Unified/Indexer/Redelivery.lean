import Unified.Indexer.Replay

/-! Late receipts: when the headers of one chain are delivered again and again with more of their receipts,
    the order of the deliveries leaves no trace, and a delivery that comes once more changes nothing. -/

namespace Unified.Indexer

variable {c : Config} {ds lo hi : List Delivery} {d d' : Delivery} {s t : State} {a b : AuthenticatedBlock}

/-! ### Deliveries of one header -/

structure SameHeader (a b : AuthenticatedBlock) : Prop where
  headerRLP : a.headerRLP = b.headerRLP
  observedAt : a.observedAt = b.observedAt
  signature : a.signature = b.signature

theorem SameHeader.refl (a : AuthenticatedBlock) : SameHeader a a := ⟨rfl, rfl, rfl⟩

theorem SameHeader.symm (h : SameHeader a b) : SameHeader b a :=
  ⟨h.headerRLP.symm, h.observedAt.symm, h.signature.symm⟩

theorem SameHeader.trans {e : AuthenticatedBlock} (h : SameHeader a b) (h' : SameHeader b e) : SameHeader a e :=
  ⟨h.headerRLP.trans h'.headerRLP, h.observedAt.trans h'.observedAt, h.signature.trans h'.signature⟩

/-- A delivery of a block with no more receipts than the block has. -/
structure PartOf (a full : AuthenticatedBlock) : Prop extends SameHeader a full where
  receipts : a.receipts.length ≤ full.receipts.length

section

variable [Crypto]

def Numbered (full : List AuthenticatedBlock) : Prop :=
  ∀ (i : Nat) (f : AuthenticatedBlock), full[i]? = some f → ∃ header, parseEVMHeader f.headerRLP = .ok header ∧
    header.number = i + 1

/-- Every call delivers a part of one of the blocks, and every block is delivered in full. -/
structure DeliveryOrder (full calls : List AuthenticatedBlock) : Prop where
  parts : ∀ a ∈ calls, ∃ f ∈ full, PartOf a f
  complete : ∀ f ∈ full, f ∈ calls

variable {a b : AuthenticatedBlock} {entries entries' : List ReceiptEntry} {authority : Octets} {chainID : Nat}
  {gateway : String} {existing : Block}

theorem Delivered.length (h : Delivered c a entries d) : entries.length = a.receipts.length := by
  obtain ⟨verified, -, hok, -⟩ := h.ok
  have := hok.proofs.length_eq
  rw [List.length_zipIdx] at this
  exact this.symm

theorem Delivered.header (h : Delivered c a entries d) :
    ∃ header, parseEVMHeader a.headerRLP = .ok header ∧ d = ⟨⟨header.number, header.hash, header.parentHash, a.observedAt,
      eventsFrom c.chainID c.gateway 0 entries, keccakText a.signature⟩, entries.map Prod.fst⟩ := by
  obtain ⟨verified, -, hok, rfl⟩ := h.ok
  refine ⟨verified.header, hok.header.parsed, ?_⟩
  rw [blockOf, hok.events, hok.receipts]

/-- Deliveries of one header differ at most in their receipts and events. -/
theorem Delivered.block_eq (h : Delivered c a entries d) (h' : Delivered c b entries' d') (hsame : SameHeader a b) :
    d'.block = { d.block with events := d'.block.events } := by
  obtain ⟨header, hheader, rfl⟩ := h.header
  obtain ⟨header', hheader', rfl⟩ := h'.header
  rw [hsame.headerRLP, hheader'] at hheader
  cases hheader
  rw [hsame.observedAt, hsame.signature]

theorem Delivered.place_eq (h : Delivered c a entries d) (h' : Delivered c b entries' d') (hsame : SameHeader a b) :
    d'.block.number = d.block.number ∧ d'.block.hash = d.block.hash := by
  rw [h.block_eq h' hsame]
  exact ⟨rfl, rfl⟩

theorem Delivered.unique (h : Delivered c a entries d) (h' : Delivered c b entries d') (hsame : SameHeader a b) : d = d' := by
  have hblock := h.block_eq h' hsame
  have hevents := h.events.trans h'.events.symm
  have hreceipts := h.receipts.trans h'.receipts.symm
  rw [← hevents] at hblock
  cases d
  cases d'
  exact congrArg₂ Delivery.mk hblock.symm hreceipts

theorem ProofOk.unique {header : EvmHeader} {signatureHash : String} {proof : ReceiptInclusionProof × Nat}
    {x y : ReceiptEntry} (hx : ProofOk header signatureHash proof x) (hy : ProofOk header signatureHash proof y) : x = y := by
  have hdecoded := hx.decoded.symm.trans hy.decoded
  simp only [Option.some.injEq, Prod.mk.injEq] at hdecoded
  refine Prod.ext ?_ hdecoded.2
  rw [hx.record, hy.record, hdecoded.1]

theorem Delivered.entries_start (h : Delivered c a entries d) (h' : Delivered c b entries' d') (hsame : SameHeader a b)
    (hstart : a.receipts <+: b.receipts) : entries <+: entries' := by
  have hlength : entries.length ≤ entries'.length := by
    rw [h.length, h'.length]
    exact hstart.length_le
  obtain ⟨verified, -, hok, -⟩ := h.ok
  obtain ⟨verified', -, hok', -⟩ := h'.ok
  have hheader : verified.header = verified'.header := by
    have := hok.header.parsed
    rw [hsame.headerRLP, hok'.header.parsed] at this
    exact (Except.ok.inj this).symm
  have agree : ∀ {i : Nat} {x y}, entries[i]? = some x → entries'[i]? = some y → x = y := by
    intro i x y hx hy
    obtain ⟨p, hp, hproof⟩ := hok.proof hx
    obtain ⟨p', hp', hproof'⟩ := hok'.proof hy
    obtain ⟨more, hmore⟩ := hstart
    rw [← hmore, List.getElem?_append_left (List.getElem?_eq_some_iff.mp hp).1, hp] at hp'
    cases hp'
    rw [hheader, hsame.signature] at hproof
    exact hproof.unique hproof'
  rcases prefix_or_prefix agree with hle | hle
  · exact hle
  · rw [hle.eq_of_length_le hlength]

/-- What is accepted of a block is accepted of every stretch of its receipts from the first one on. -/
theorem verifyAuthenticatedBlock_shorter {verified : Verified}
    (h : verifyAuthenticatedBlock chainID gateway authority b = .ok verified) (hsame : SameHeader a b)
    (hstart : a.receipts <+: b.receipts) :
    ∃ verified', verifyAuthenticatedBlock chainID gateway authority a = .ok verified' := by
  simp only [verifyAuthenticatedBlock, block_eq_ok] at h
  obtain ⟨⟨hkey, hsignature, hobserved, hnano, hheaderRLP, hheaderLength, hsize⟩, header, hheader, htime, hdigest, hpositions,
    collected, hcollected, -⟩ := h
  obtain ⟨more, hmore⟩ := hstart
  have hpositions' : ∀ entry ∈ a.receipts.zipIdx, entry.1.transactionIndex = entry.2 := by
    intro entry hentry
    refine hpositions entry ?_
    rw [← hmore, List.zipIdx_append]
    exact List.mem_append_left _ hentry
  rw [sortProofs_eq hpositions, ← hmore, List.zipIdx_append, List.foldlM_append, bind_eq_ok] at hcollected
  obtain ⟨collected', hcollected', -⟩ := hcollected
  have hsize' : validAuthenticatedBlockSize a = true := by
    have := of_decide_eq_true hsize
    rw [← hmore, ← hsame.headerRLP, ← hsame.signature] at this
    simp only [List.length_append, List.map_append, List.sum_append] at this
    refine decide_eq_true ⟨?_, ?_, ?_⟩ <;> omega
  refine ⟨⟨header, collected'.receipts, collected'.events⟩, ?_⟩
  simp only [verifyAuthenticatedBlock, block_eq_ok, hsame.headerRLP, hsame.observedAt, hsame.signature]
  refine ⟨⟨hkey, hsignature, hobserved, hnano, hheaderRLP, hheaderLength, hsize'⟩, header, hheader, htime, hdigest,
    hpositions', collected', ?_, rfl⟩
  rw [sortProofs_eq hpositions']
  exact hcollected'

/-! ### A delivery that comes again -/

omit [Crypto] in
theorem enrichReceipts_again {receipts : Table String VerifiedReceipt} {changed : Bool} {rs : List VerifiedReceipt}
    (ofBlock : ∀ r ∈ rs, OfBlock existing r) (known : ∀ r ∈ rs, ∃ k, receipts.lookup k = some r)
    (same : ∀ k v, receipts.lookup k = some v → OfBlock existing v → ∀ r ∈ rs, v.transactionIndex = r.transactionIndex →
      v = r) :
    rs.foldlM (enrichReceipt existing) (receipts, changed) = .ok (receipts, changed) := by
  induction rs with
  | nil => rfl
  | cons r rs ih =>
    have hr : r ∈ r :: rs := List.mem_cons_self
    obtain ⟨k, hk⟩ := known r hr
    have hstep : enrichReceipt existing (receipts, changed) r = .ok (receipts, changed) := by
      rw [enrichReceipt, require, if_pos (ofBlock r hr)]
      change (if _ then _ else _) = _
      rw [if_pos (Table.any_iff.mpr ⟨k, r, hk, ofBlock r hr, rfl⟩)]
      simp only [block_eq_ok, and_true]
      intro hother
      obtain ⟨k', v, hv, hof, hindex, hne⟩ := Table.any_iff.mp hother
      exact hne (same k' v hv hof r hr hindex)
    rw [List.foldlM_cons, hstep]
    exact ih (fun x hx => ofBlock x (List.mem_cons_of_mem _ hx)) (fun x hx => known x (List.mem_cons_of_mem _ hx))
      fun k v hv hof x hx => same k v hv hof x (List.mem_cons_of_mem _ hx)

omit [Crypto] in
theorem enrichEvents_again {acc : Merge} {es : List Event} (ids : (acc.events.map (·.id)).Nodup)
    (known : ∀ e ∈ es, e ∈ acc.events ∧ e.id ≠ "" ∧ e.txHash ≠ "" ∧ BelongsTo c existing e) :
    es.foldlM (enrichEvent c existing) acc = .ok acc := by
  induction es with
  | nil => rfl
  | cons e _ ih =>
    obtain ⟨hmem, hok⟩ := known e List.mem_cons_self
    have hstep : enrichEvent c existing acc e = .ok acc := by
      obtain ⟨prior, hprior⟩ : ∃ prior, acc.events.find? (·.id = e.id) = some prior := by
        rw [← Option.isSome_iff_exists, List.find?_isSome]
        exact ⟨e, hmem, decide_eq_true rfl⟩
      have hid := List.find?_some hprior
      have heq : prior = e :=
        List.inj_on_of_nodup_map ids (List.mem_of_find?_eq_some hprior) hmem (of_decide_eq_true hid)
      simp only [enrichEvent, block_eq_ok]
      refine ⟨hok, ?_⟩
      rw [hprior]
      simp only [block_eq_ok, and_true]
      exact heq
    rw [List.foldlM_cons, hstep]
    exact ih fun x hx => known x (List.mem_cons_of_mem _ hx)

def Config.Policed (c : Config) : Prop := c.IsGateway ∧ c.finalityPolicyHash ≠ ""

omit [Crypto] in
theorem Belongs.belongsTo (hc : c.Policed) {e : Event} (h : Belongs c existing e) :
    BelongsTo c existing e := fun htype =>
  let ⟨h1, h2, h3, h4, h5⟩ := h htype
  ⟨h1, h2, h3, h4 hc.2, h5 hc.1.1⟩

omit [Crypto] in
theorem Stored.enrich_again (hc : c.Policed) (h : Stored c (lo ++ d :: hi) s)
    (hblock : d'.block = { d.block with events := d'.block.events }) (receipts : ∀ r ∈ d'.receipts, r ∈ d.receipts)
    (events : ∀ e ∈ d'.block.events, e ∈ d.block.events) :
    enrichAuthenticatedBlock s d.block d'.block d'.receipts = .ok s := by
  have hd : d ∈ lo ++ d :: hi := by simp
  have same : ∀ k v, s.receipts.lookup k = some v → OfBlock d.block v → ∀ r ∈ d.receipts,
      v.transactionIndex = r.transactionIndex → v = r := fun k v hv hof r hr hindex =>
    List.inj_on_of_nodup_map (h.chain.indexes d hd) (h.ofBlock hv hof) hr hindex
  have hids : (d.block.events.map (·.id)).Nodup := by
    have := h.chain.eventIDs
    rw [List.flatMap_append, List.flatMap_cons, List.map_append, List.map_append, List.nodup_append', List.nodup_append'] at this
    rw [← Delivery.map_fst_eventEntries]
    exact this.2.1.1
  have hreceipts : d'.receipts.foldlM (enrichReceipt d.block) (s.receipts, false) = .ok (s.receipts, false) := by
    refine enrichReceipts_again (fun r hr => ?_) (fun r hr => ⟨_, h.lookup_receipt hd (receipts r hr)⟩)
      fun k v hv hof r hr => same k v hv hof r (receipts r hr)
    have hok := h.chain.receipts d hd r (receipts r hr)
    exact ⟨hok.blockNumber, hok.blockHash⟩
  let unchanged : Merge := ⟨d.block.events, s.eventBlocks, false⟩
  have hevents : d'.block.events.foldlM (enrichEvent c d.block) unchanged = .ok unchanged := by
    refine enrichEvents_again hids fun e he => ?_
    have hok := h.chain.events d hd e (events e he)
    exact ⟨events e he, hok.id, hok.txHash, hok.belongs.belongsTo hc⟩
  simp only [enrichAuthenticatedBlock, block_eq_ok]
  refine ⟨?_, ?_, (s.receipts, false), hreceipts, unchanged, ?_, ?_⟩
  · rw [hblock]
    exact ⟨rfl, rfl, rfl⟩
  · intro hany
    obtain ⟨k, v, hv, hof, hany⟩ := Table.any_iff.mp hany
    obtain ⟨k', v', hv', hof', hindex, hne⟩ := Table.any_iff.mp hany
    exact hne (same k' v' hv' hof' v (h.ofBlock hv hof) hindex)
  · rw [h.config]
    exact hevents
  · rw [if_neg (by simp)]
    rfl

theorem Stored.ingest_again (hc : c.Policed) (h : Stored c ds s) (hd : d ∈ ds) (hfull : Delivered c b entries d)
    (hsame : SameHeader a b) (hstart : a.receipts <+: b.receipts) : ingestAuthenticated s a = .ok s := by
  obtain ⟨verified, hverified, -, -⟩ := hfull.ok
  obtain ⟨verified', hverified'⟩ := verifyAuthenticatedBlock_shorter hverified hsame hstart
  obtain ⟨entries', hentries'⟩ := verifyAuthenticatedBlock_eq_ok hverified'
  have hagain : Delivered c a entries' ⟨blockOf a verified', verified'.receipts⟩ := ⟨verified', hverified', hentries', rfl⟩
  obtain ⟨hreceipts, hevents⟩ := hagain.known hfull (hagain.entries_start hfull hsame hstart)
  have hblock := hfull.block_eq hagain hsame.symm
  obtain ⟨hnumber, hhash⟩ := hfull.place_eq hagain hsame.symm
  dsimp only at hnumber hhash
  have hlookup : s.blocks.lookup (blockOf a verified').number = some d.block := by
    obtain ⟨i, hi⟩ := List.mem_iff_getElem?.mp hd
    have hi' := h.chain.numbers hi
    exact h.lookup_block.mpr ⟨by omega, d, by rwa [hnumber, hi', Nat.add_sub_cancel], rfl⟩
  have hne : c.headerAuthority ≠ [] := by
    intro hnil
    have := hc.1.2.2
    rw [hnil] at this
    cases this
  obtain ⟨lo, hi, rfl⟩ := List.mem_iff_append.mp hd
  simp only [ingestAuthenticated, ingestBlock, block_eq_ok, h.config]
  refine ⟨hc.1, verified', hverified', hagain.present, ?_⟩
  rw [hlookup, Option.filter_some, if_pos (decide_eq_true hhash.symm)]
  dsimp only
  rw [if_neg hne]
  exact h.enrich_again hc hblock hreceipts hevents

/-! ### Orders of deliveries -/

/-- A delivered block with its entries. -/
structure Holding (c : Config) where
  block : AuthenticatedBlock
  entries : List ReceiptEntry
  delivery : Delivery
  delivered : Delivered c block entries delivery

/-- After the calls `done` the indexer holds for each height the fullest delivery so far. -/
structure Collects (full calls done : List AuthenticatedBlock) (held : List (Holding c)) (s : State) : Prop where
  stored : Stored c (held.map (·.delivery)) s
  reorgs : s.settlementReorgs = ∅
  called : ∀ x ∈ held, x.block ∈ calls
  parts : ∀ (i : Nat) x, held[i]? = some x → ∃ f, full[i]? = some f ∧ PartOf x.block f
  carried : ∀ b ∈ done, ∃ (i : Nat) (x y : Holding c), held[i]? = some x ∧ y.block = b ∧ SameHeader b x.block ∧
    y.entries <+: x.entries

variable {full calls done : List AuthenticatedBlock} {held : List (Holding c)}

variable {f : AuthenticatedBlock} {i : Nat} {x y : Holding c}

/-- A delivery has the height of the block it is a part of. -/
theorem Numbered.number (hfull : Numbered full) (hf : full[i]? = some f) (h : Delivered c a entries d)
    (hsame : SameHeader a f) : d.block.number = i + 1 := by
  obtain ⟨header, hheader, rfl⟩ := h.header
  obtain ⟨header', hheader', hnumber⟩ := hfull i f hf
  rw [hsame.headerRLP, hheader'] at hheader
  cases hheader
  exact hnumber

theorem Collects.same (h : Collects full calls done held s) (hf : full[i]? = some f) (hpart : PartOf a f)
    (hx : held[i]? = some x) : SameHeader a x.block := by
  obtain ⟨f', hf', hpart'⟩ := h.parts i x hx
  rw [hf] at hf'
  cases hf'
  exact hpart.toSameHeader.trans hpart'.toSameHeader.symm

/-- A delivery with more receipts takes the place of the one that is held. -/
theorem Collects.replace (h : Collects full calls done held s) (hf : full[i]? = some f) (hx : held[i]? = some x)
    (hcalled : y.block ∈ calls) (hpart : PartOf y.block f) (hstart : x.entries <+: y.entries)
    (hstored : Stored c ((held.set i y).map (·.delivery)) t) (hreorgs : t.settlementReorgs = s.settlementReorgs) :
    Collects full calls (done ++ [y.block]) (held.set i y) t := by
  have hlt := (List.getElem?_eq_some_iff.mp hx).1
  refine ⟨hstored, hreorgs.trans h.reorgs, fun z hz => ?_, fun j z hz => ?_, fun b hb => ?_⟩
  · rcases List.mem_or_eq_of_mem_set hz with hz | rfl
    · exact h.called z hz
    · exact hcalled
  · rw [List.getElem?_set] at hz
    split at hz
    · rename_i heq
      subst heq
      cases hz
      exact ⟨f, hf, hpart⟩
    · exact h.parts j z hz
  · rcases List.mem_append.mp hb with hb | hb
    · obtain ⟨j, z, w, hz, hw, hsame, hle⟩ := h.carried b hb
      by_cases hij : i = j
      · subst hij
        rw [hx] at hz
        cases hz
        exact ⟨i, y, w, by rw [List.getElem?_set_self hlt], hw, hsame.trans (h.same hf hpart hx).symm, hle.trans hstart⟩
      · exact ⟨j, z, w, by rw [List.getElem?_set_ne hij]; exact hz, hw, hsame, hle⟩
    · rw [List.mem_singleton.mp hb]
      exact ⟨i, y, y, by rw [List.getElem?_set_self hlt], rfl, .refl _, List.prefix_rfl⟩

theorem Collects.concat (h : Collects full calls done held s) (hf : full[held.length]? = some f)
    (hcalled : y.block ∈ calls) (hpart : PartOf y.block f) (hstored : Stored c ((held ++ [y]).map (·.delivery)) t)
    (hreorgs : t.settlementReorgs = s.settlementReorgs) : Collects full calls (done ++ [y.block]) (held ++ [y]) t := by
  refine ⟨hstored, hreorgs.trans h.reorgs, fun z hz => ?_, fun j z hz => ?_, fun b hb => ?_⟩
  · rcases List.mem_append.mp hz with hz | hz
    · exact h.called z hz
    · rw [List.mem_singleton.mp hz]
      exact hcalled
  · rcases Nat.lt_trichotomy j held.length with hlt | rfl | hgt
    · rw [List.getElem?_append_left hlt] at hz
      exact h.parts j z hz
    · rw [List.getElem?_concat_length] at hz
      cases hz
      exact ⟨f, hf, hpart⟩
    · rw [List.getElem?_eq_none (by simpa using hgt)] at hz
      cases hz
  · rcases List.mem_append.mp hb with hb | hb
    · obtain ⟨j, z, w, hz, hw, hsame, hle⟩ := h.carried b hb
      refine ⟨j, z, w, ?_, hw, hsame, hle⟩
      rw [List.getElem?_append_left (List.getElem?_eq_some_iff.mp hz).1]
      exact hz
    · rw [List.mem_singleton.mp hb]
      exact ⟨held.length, y, y, by rw [List.getElem?_concat_length], rfl, .refl _, List.prefix_rfl⟩

/-- An accepted delivery completes what is held of its block, adds nothing, or brings the next header. -/
theorem Collects.ingest (hfull : Numbered full) (free : NoReceiptCollision calls)
    (h : Collects full calls done held s) (ha : a ∈ calls) (hpart : ∃ f ∈ full, PartOf a f)
    (hok : ingestAuthenticated s a = .ok t) : ∃ held' : List (Holding c), Collects full calls (done ++ [a]) held' t := by
  obtain ⟨f, hmem, hpart⟩ := hpart
  obtain ⟨i, hf⟩ := List.mem_iff_getElem?.mp hmem
  obtain ⟨entries, d', hnew, hcases⟩ := h.stored.ingestAuthenticated_eq_ok hok
  have hnumber := hfull.number hf hnew hpart.toSameHeader
  let y : Holding c := ⟨a, entries, d', hnew⟩
  rcases hcases with ⟨lo, d, hi, hds, hlength, hnumber', hhash, hok⟩ | ⟨hnot, hok⟩
  · obtain ⟨x, hx, rfl⟩ : ∃ x, held[i]? = some x ∧ x.delivery = d := by
      have hd : (held.map (·.delivery))[i]? = some d := by
        rw [hds, List.getElem?_append_right (by omega)]
        simp [hlength, hnumber]
      rwa [List.getElem?_map, Option.map_eq_some_iff] at hd
    have hstored := h.stored
    rw [hds] at hstored
    rcases x.delivered.redelivered free (h.called x (List.mem_of_getElem? hx)) ha hnew hstored hnumber' hhash hok with
      ⟨hstart, hcompleted, hreorgs⟩ | ⟨hstart, rfl⟩
    · have hset : (held.set i y).map (·.delivery) = lo ++ d' :: hi := by
        rw [List.map_set, hds, List.set_append_right _ _ (by omega)]
        simp [hlength, hnumber, y]
      exact ⟨_, h.replace hf hx ha hpart hstart (hset ▸ hcompleted) hreorgs⟩
    · refine ⟨held, h.stored, h.reorgs, h.called, h.parts, fun b hb => ?_⟩
      rcases List.mem_append.mp hb with hb | hb
      · exact h.carried b hb
      · rw [List.mem_singleton.mp hb]
        exact ⟨i, x, y, hx, rfl, h.same hf hpart hx, hstart⟩
  · obtain ⟨hn, hhash, htime⟩ := hnew.present
    have hle : held.length ≤ i := by
      -- a held block of this height would have the same hash
      by_contra hlt
      obtain ⟨x, hx⟩ : ∃ x, held[i]? = some x := ⟨_, List.getElem?_eq_getElem (Nat.not_le.mp hlt)⟩
      obtain ⟨hsameNumber, hsameHash⟩ := hnew.place_eq x.delivered (h.same hf hpart hx)
      exact hnot _ (List.mem_map_of_mem (List.mem_of_getElem? hx)) hsameNumber hsameHash
    obtain ⟨hheight, -⟩ := (h.stored.adoptBlock_eq_ok hnew.indexes (Nat.pos_of_ne_zero hn) hhash htime).mp hok
    rw [List.length_map] at hheight
    obtain rfl : i = held.length := by omega
    obtain ⟨hstored, hreorgs⟩ := h.stored.adopt hnew.indexes hn hhash htime hok
    have hsub : d'.block.number - 1 = (held.map (·.delivery)).length := by
      rw [List.length_map]
      omega
    rw [hsub, List.take_length] at hstored
    rw [hsub, List.drop_length] at hreorgs
    have hconcat : (held ++ [y]).map (·.delivery) = held.map (·.delivery) ++ [d'] := by simp [y]
    exact ⟨held ++ [y], h.concat (y := y) hf ha hpart (hconcat ▸ hstored) hreorgs⟩

/-- Once every block was delivered in full, it is held in full. -/
theorem Collects.complete (hfull : Numbered full) (h : Collects full calls done held s) (hdone : ∀ f ∈ full, f ∈ done) :
    List.Forall₂ (fun f d => ∃ entries, Delivered c f entries d) full (held.map (·.delivery)) := by
  have holds : ∀ {i : Nat} {f : AuthenticatedBlock}, full[i]? = some f →
      ∃ x, held[i]? = some x ∧ Delivered c f x.entries x.delivery := by
    intro i f hf
    obtain ⟨j, x, y, hx, rfl, hsame, hstart⟩ := h.carried f (hdone f (List.mem_of_getElem? hf))
    obtain ⟨f', hf', hpart⟩ := h.parts j x hx
    have hi := hfull.number hf y.delivered (.refl _)
    have hj := hfull.number hf' y.delivered (hsame.trans hpart.toSameHeader)
    obtain rfl : i = j := by omega
    rw [hf] at hf'
    cases hf'
    have hlength : x.entries.length ≤ y.entries.length := by
      rw [x.delivered.length, y.delivered.length]
      exact hpart.receipts
    have hentries := hstart.eq_of_length_le hlength
    have hdelivered := y.delivered
    rw [hentries] at hdelivered
    have hsameDelivery := hdelivered.unique x.delivered hsame
    exact ⟨x, hx, hsameDelivery ▸ hdelivered⟩
  rw [List.forall₂_iff_get]
  have hlength : full.length = (held.map (·.delivery)).length := by
    rw [List.length_map]
    apply Nat.le_antisymm
    · by_contra hlt
      obtain ⟨x, hx, -⟩ := holds (List.getElem?_eq_getElem (Nat.not_le.mp hlt))
      rw [List.getElem?_eq_none le_rfl] at hx
      cases hx
    · by_contra hlt
      obtain ⟨f, hf, -⟩ := h.parts _ _ (List.getElem?_eq_getElem (Nat.not_le.mp hlt))
      rw [List.getElem?_eq_none le_rfl] at hf
      cases hf
  refine ⟨hlength, fun i hi hi' => ?_⟩
  obtain ⟨x, hx, hdelivered⟩ := holds (List.getElem?_eq_getElem hi)
  obtain ⟨hlt, rfl⟩ := List.getElem?_eq_some_iff.mp hx
  simp only [List.get_eq_getElem, List.getElem_map]
  exact ⟨_, hdelivered⟩

/-- After any accepted order the indexer stores the blocks in full. -/
theorem DeliveryOrder.stored (hfull : Numbered full) (horder : DeliveryOrder full calls) (free : NoReceiptCollision calls)
    (hrun : calls.foldlM ingestAuthenticated (State.fresh c) = .ok s) :
    ∃ ds, Stored c ds s ∧ s.settlementReorgs = ∅ ∧
      List.Forall₂ (fun f d => ∃ entries, Delivered c f entries d) full ds := by
  have start : Collects full calls [] ([] : List (Holding c)) (State.fresh c) :=
    ⟨Stored.nil, rfl, by simp, by simp, by simp⟩
  obtain ⟨held, hheld⟩ := foldlM_trail (fun done s => ∃ held : List (Holding c), Collects full calls done held s)
    (fun done a ha s t hok ⟨held, hheld⟩ => hheld.ingest hfull free ha (horder.parts a ha) hok) hrun ⟨[], start⟩
  exact ⟨_, hheld.stored, hheld.reorgs, hheld.complete hfull horder.complete⟩

omit [Crypto] in
/-- A chain and the evidence of removed settlements determine the state. -/
theorem Stored.eq_of_reorgs (h : Stored c ds s) (h' : Stored c ds t) (hreorgs : s.settlementReorgs = t.settlementReorgs) :
    s = t := by
  have hmaps : s.toChainMaps = t.toChainMaps := by rw [h.maps, h'.maps, hreorgs]
  have hprojection : s.snapshot.toProjection = t.snapshot.toProjection :=
    Except.ok.inj (h.projected.symm.trans h'.projected)
  have hsnapshot : s.snapshot.settlementReorgs = t.snapshot.settlementReorgs := by rw [h.reorgs, h'.reorgs, hreorgs]
  have hconfig := h.config.trans h'.config.symm
  obtain ⟨maps, config, projection, reorgs⟩ := s
  obtain ⟨maps', config', projection', reorgs'⟩ := t
  simp_all

theorem newGateway_policed {depth : Nat} (h : newGateway chainID gateway depth authority = .ok s) :
    ∃ c : Config, s = State.fresh c ∧ c.Policed := by
  obtain ⟨c, rfl, hc, -⟩ := newGateway_eq_ok h
  refine ⟨c, rfl, hc, ?_⟩
  simp only [newGateway, computeFinalityPolicyHash, block_eq_ok, orRevert_eq_ok] at h
  obtain ⟨-, _, ⟨_, -, -, rfl⟩, hstate⟩ := h
  obtain rfl := congrArg State.config hstate
  exact ne_empty_of_canonicalHash (canonicalHash_keccakText _)

/-- Two accepted orders of deliveries of the same blocks end in the state of delivering every block once and in full,
    and a part of a block delivered once more changes nothing. -/
theorem late_receipts_leave_no_trace {chainID depth : Nat} {gateway : String} {authority : Octets} {s₀ s s' : State}
    (h₀ : newGateway chainID gateway depth authority = .ok s₀) {full calls calls' : List AuthenticatedBlock}
    (hfull : Numbered full) (horder : DeliveryOrder full calls) (horder' : DeliveryOrder full calls')
    (free : NoReceiptCollision (calls ++ calls')) (hrun : calls.foldlM ingestAuthenticated s₀ = .ok s)
    (hrun' : calls'.foldlM ingestAuthenticated s₀ = .ok s') :
    s = s' ∧ full.foldlM ingestAuthenticated s₀ = .ok s ∧
      ∀ f ∈ full, ∀ a, SameHeader a f → a.receipts <+: f.receipts → ingestAuthenticated s a = .ok s := by
  obtain ⟨c, rfl, hc⟩ := newGateway_policed h₀
  have sub : ∀ {more : List AuthenticatedBlock}, (∀ a ∈ more, a ∈ calls ++ calls') → NoReceiptCollision more :=
    fun hmore a ha a' ha' => free a (hmore a ha) a' (hmore a' ha')
  have once : ∀ {ds : List Delivery} {s t : State}, Stored c ds s → Stored c ds t → s.settlementReorgs = ∅ →
      t.settlementReorgs = ∅ → s = t := fun hs ht hreorgs hreorgs' => hs.eq_of_reorgs ht (hreorgs.trans hreorgs'.symm)
  -- the deliveries of the blocks are determined by the blocks
  have unique : ∀ {ds ds' : List Delivery}, List.Forall₂ (fun f d => ∃ entries, Delivered c f entries d) full ds →
      List.Forall₂ (fun f d => ∃ entries, Delivered c f entries d) full ds' → ds = ds' := by
    intro ds ds' hds hds'
    refine List.right_unique_forall₂' ?_ hds hds'
    rintro f d d' ⟨entries, verified, hverified, -, rfl⟩ ⟨entries', verified', hverified', -, rfl⟩
    rw [hverified] at hverified'
    cases hverified'
    rfl
  obtain ⟨ds, hstored, hreorgs, hdelivered⟩ := horder.stored hfull (sub fun a ha => List.mem_append_left _ ha) hrun
  obtain ⟨ds', hstored', hreorgs', hdelivered'⟩ := horder'.stored hfull (sub fun a ha => List.mem_append_right _ ha) hrun'
  obtain rfl := unique hdelivered hdelivered'
  refine ⟨once hstored hstored' hreorgs hreorgs', ?_, fun f hf a hsame hstart => ?_⟩
  · have feeds : List.Forall₂ (fun a d => ∀ s : State, s.config = c →
        ingestAuthenticated s a = ingestBlock s d.block d.receipts) full ds :=
      hdelivered.imp fun a d ⟨entries, hd⟩ s hs => hd.ingestAuthenticated_eq hc.1 hs
    obtain ⟨t, ht, -⟩ := Stored.replay feeds hstored.chain hstored.projected
    have hself : DeliveryOrder full full := ⟨fun a ha => ⟨a, ha, .refl a, le_rfl⟩, fun f hf => hf⟩
    obtain ⟨ds'', hstored'', hreorgs'', hdelivered''⟩ :=
      hself.stored hfull (sub fun a ha => List.mem_append_left _ (horder.complete a ha)) ht
    obtain rfl := unique hdelivered hdelivered''
    rw [ht, once hstored'' hstored hreorgs'' hreorgs]
  · obtain ⟨d, hd, entries, hentries⟩ : ∃ d ∈ ds, ∃ entries, Delivered c f entries d := by
      obtain ⟨i, hi⟩ := List.mem_iff_getElem?.mp hf
      obtain ⟨hlt, rfl⟩ := List.getElem?_eq_some_iff.mp hi
      have hlt' : i < ds.length := by rwa [← hdelivered.length_eq]
      exact ⟨ds.get ⟨i, hlt'⟩, List.get_mem _ _, hdelivered.get hlt hlt'⟩
    exact hstored.ingest_again hc hd hentries hsame hstart

end

/-! ### Two orders of two blocks -/

def lateFirst : Octets := polyHeader (List.replicate 32 0) [[9]] [toyReceipt.encode] 1 1

def lateSecond : Octets := polyHeader (polyHash lateFirst) [[8]] [toyReceipt.encode] 2 1

/-- A block with its receipt and the header on top of it. -/
def lateBlocks : List AuthenticatedBlock :=
  [polyBlock lateFirst toyTime [polyProof [[9]] [toyReceipt.encode] 0], polyBlock lateSecond toyTime []]

/-- The header of the first block alone, then both blocks in the reverse order. -/
def lateCalls : List AuthenticatedBlock := polyBlock lateFirst toyTime [] :: lateBlocks.reverse

theorem late_receipts_leave_no_trace_reversed :
    ∃ s, lateCalls.foldlM (@ingestAuthenticated polyCrypto) polyIndexer = .ok s ∧
      lateBlocks.foldlM (@ingestAuthenticated polyCrypto) polyIndexer = .ok s ∧
      @ingestAuthenticated polyCrypto s (polyBlock lateFirst toyTime []) = .ok s := by
  have h₀ : @newGateway polyCrypto 1 polyGateway 2 polyKey = .ok polyIndexer := by decide +kernel
  have hfull : @Numbered polyCrypto lateBlocks := by
    intro i f hf
    rcases i with _ | _ | i
    · simp only [lateBlocks, List.getElem?_cons_zero, Option.some.injEq] at hf
      subst hf
      exact exists_of_toOption (by decide +kernel)
    · simp only [lateBlocks, List.getElem?_cons_succ, List.getElem?_cons_zero, Option.some.injEq] at hf
      subst hf
      exact exists_of_toOption (by decide +kernel)
    · simp [lateBlocks] at hf
  have hself : DeliveryOrder lateBlocks lateBlocks := ⟨fun a ha => ⟨a, ha, .refl a, le_rfl⟩, fun f hf => hf⟩
  have horder : DeliveryOrder lateBlocks lateCalls := by
    constructor
    · intro a ha
      rcases List.mem_cons.mp ha with rfl | ha
      · exact ⟨_, List.mem_cons_self, ⟨rfl, rfl, rfl⟩, Nat.zero_le _⟩
      · exact ⟨a, List.mem_reverse.mp ha, .refl a, le_rfl⟩
    · intro f hf
      exact List.mem_cons_of_mem _ (List.mem_reverse.mpr hf)
  have free : @NoReceiptCollision polyCrypto (lateCalls ++ lateBlocks) := by
    unfold NoReceiptCollision
    decide +kernel
  obtain ⟨s, hs⟩ := exists_of_isOk
    (show (lateCalls.foldlM (@ingestAuthenticated polyCrypto) polyIndexer).isOk = true by decide +kernel)
  obtain ⟨t, ht⟩ := exists_of_isOk
    (show (lateBlocks.foldlM (@ingestAuthenticated polyCrypto) polyIndexer).isOk = true by decide +kernel)
  obtain ⟨-, honce, hagain⟩ := @late_receipts_leave_no_trace polyCrypto _ _ _ _ _ _ _ h₀ _ _ _ hfull horder hself free hs ht
  exact ⟨s, hs, honce, hagain _ List.mem_cons_self _ ⟨rfl, rfl, rfl⟩ (List.nil_prefix)⟩

end Unified.Indexer
