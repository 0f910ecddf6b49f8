import Unified.Indexer.RlpExact

/-! Inclusion proofs both ways: an accepted proof is the only one for its key, and every entry of a trie has one. The
    hash of an accepted proof determines the proof. -/

namespace Unified.Indexer

variable [Crypto] {root reference value value' : Octets} {key : List Nibble} {proof proof' : List Octets} {t : Trie}

/-- Byte strings of the two lists that have the same hash are the same. -/
def Distinguishes (xs ys : List Octets) : Prop := ∀ x ∈ xs, ∀ y ∈ ys, keccak x = keccak y → x = y

theorem matches_unique {x y : Octets} (free : keccak x = keccak y → x = y)
    (hx : matchesTrieReference reference x = true) (hy : matchesTrieReference reference y = true) : x = y := by
  rw [matchesTrieReference] at hx hy
  split at hx
  · next hlength =>
    rw [if_pos hlength] at hy
    exact free ((of_decide_eq_true hx).symm.trans (of_decide_eq_true hy))
  · next hlength =>
    rw [if_neg hlength] at hy
    exact (of_decide_eq_true hx).2.2.symm.trans (of_decide_eq_true hy).2.2

theorem walkTrie_unique (free : Distinguishes proof proof') (h : walkTrie value reference key proof = true)
    (h' : walkTrie value' reference key proof' = true) : value = value' ∧ proof = proof' := by
  induction proof generalizing reference key proof' with
  | nil => cases h
  | cons x proof ih =>
    obtain _ | ⟨y, proof'⟩ := proof'
    · cases h'
    obtain ⟨hmatch, h⟩ := walkTrie_cons.mp h
    obtain ⟨hmatch', h'⟩ := walkTrie_cons.mp h'
    obtain rfl := matches_unique (free x List.mem_cons_self y List.mem_cons_self) hmatch hmatch'
    -- both walks take the one hop of the node
    rcases h with ⟨hends, rfl⟩ | ⟨child, rest, hgoes, h⟩
    · rcases h' with ⟨hends', rfl⟩ | ⟨child', rest', hgoes', -⟩
      · cases hends.symm.trans hends'
        exact ⟨rfl, rfl⟩
      · cases hends.symm.trans hgoes'
    · rcases h' with ⟨hends', -⟩ | ⟨child', rest', hgoes', h'⟩
      · cases hgoes.symm.trans hends'
      · cases hgoes.symm.trans hgoes'
        obtain ⟨rfl, rfl⟩ := ih (fun a ha b hb => free a (List.mem_cons_of_mem _ ha) b (List.mem_cons_of_mem _ hb)) h h'
        exact ⟨rfl, rfl⟩

theorem verifyTrieInclusion_iff {key : Octets} : verifyTrieInclusion root key value proof = true ↔
    root.length = 32 ∧ validProofSize proof = true ∧ walkTrie value root (bytesToNibbles key) proof = true := by
  rw [verifyTrieInclusion, Bool.and_eq_true, Bool.and_eq_true, decide_eq_true_eq, and_assoc]

theorem verifyTrieInclusion_unique {key : Octets} (free : Distinguishes proof proof')
    (h : verifyTrieInclusion root key value proof = true) (h' : verifyTrieInclusion root key value' proof' = true) :
    value = value' ∧ proof = proof' :=
  walkTrie_unique free (verifyTrieInclusion_iff.mp h).2.2 (verifyTrieInclusion_iff.mp h').2.2

/-! ### Nodes are decoded -/

section

omit [Crypto]

theorem length_le_of_mem {x : RlpItem} {items : List RlpItem} (h : x ∈ items) :
    (rlpEncode x).length ≤ (rlpEncodeAll items).length := by
  induction items with
  | nil => cases h
  | cons _ _ ih =>
    rw [rlpEncodeAll, List.length_append]
    rcases List.mem_cons.mp h with rfl | h
    · exact Nat.le_add_right _ _
    · exact (ih h).trans (Nat.le_add_left _ _)

theorem Encloses.length_le {x y : RlpItem} {k : Nat} (h : Encloses x k y) :
    k + (rlpEncode y).length ≤ (rlpEncode x).length := by
  induction h with
  | self => omega
  | @inside items _ _ _ hx _ ih =>
    have hheader : 0 < (rlpHeader 0xc0 (rlpEncodeAll items).length).length := by
      rw [rlpHeader]
      split <;> simp
    have hpart := length_le_of_mem hx
    rw [rlpEncode, List.length_append]
    omega

theorem length_le_rlpEncodeAll (items : List RlpItem) : items.length ≤ (rlpEncodeAll items).length := by
  induction items with
  | nil => exact le_rfl
  | cons x items ih =>
    have := List.length_pos_iff.mpr (rlpEncode_ne_nil x)
    rw [rlpEncodeAll, List.length_append, List.length_cons]
    omega

/-- A short item has no room for many lists around each other, or for long ones. -/
theorem withinLimits_of_length {levels : Nat} {x : RlpItem} (hlength : (rlpEncode x).length ≤ levels)
    (hlevels : levels ≤ MAX_RLP_LIST_ITEMS) : WithinLimits levels x := by
  intro k y h
  have hle := h.length_le
  have hpos := List.length_pos_iff.mpr (rlpEncode_ne_nil y)
  refine ⟨by omega, ?_⟩
  rintro items rfl
  have hitems := length_le_rlpEncodeAll items
  rw [rlpEncode, List.length_append] at hle
  omega

end

theorem withinLimits_item (t : Trie) : WithinLimits (MAX_RLP_DEPTH + 1) (t.item keccak) := by
  have reference (x : RlpItem) : WithinLimits MAX_RLP_DEPTH (trieReferenceOf keccak x) := by
    rw [trieReferenceOf]
    split
    · exact withinLimits_of_length (by rw [MAX_RLP_DEPTH]; omega) (by decide)
    · exact withinLimits_bytes
  have bytes (b : Octets) : WithinLimits MAX_RLP_DEPTH (.bytes b) := withinLimits_bytes
  cases t with
  | empty => exact withinLimits_bytes
  | leaf | extension =>
    refine withinLimits_list.mpr ⟨by simp [MAX_RLP_LIST_ITEMS], ?_⟩
    simp [bytes, reference]
  | branch =>
    refine withinLimits_list.mpr ⟨by simp [MAX_RLP_LIST_ITEMS], fun x hx => ?_⟩
    rcases List.mem_append.mp hx with hx | hx
    · obtain ⟨n, -, rfl⟩ := List.mem_map.mp hx
      exact reference _
    · rw [List.mem_singleton.mp hx]
      exact bytes _

theorem decodeWhole_item (hsize : (rlpEncode (t.item keccak)).length ≤ MAX_PROOF_NODE_BYTES) :
    ∃ v, decodeWhole (rlpEncode (t.item keccak)) = some v ∧ v.Reads (t.item keccak) := by
  have hlength : (rlpEncode (t.item keccak) ++ []).length ≤ MAX_INT := by
    rw [List.append_nil]
    exact hsize.trans (by decide)
  obtain ⟨⟨v, n⟩, hv⟩ := Option.isSome_iff_exists.mp
    ((decodeRLPDepth_exact _ _ _ hlength).mpr (withinLimits_item t))
  obtain ⟨rfl, hreads⟩ := Decodes.determined (decodeRLPDepth_decodes _) hlength hv
  rw [List.append_nil] at hv
  exact ⟨v, by rw [decodeWhole, decodeRLP, hv]; simp, hreads⟩

/-! ### Completeness -/

theorem referenceTo_of_lookup (h : t.lookup key = some value) :
    ∃ child, referenceTo t = some child ∧ matchesTrieReference child (rlpEncode (t.item keccak)) = true := by
  have href : referenceTo t = some (if (rlpEncode (t.item keccak)).length < 32 then rlpEncode (t.item keccak) else
      keccak (rlpEncode (t.item keccak))) := by
    cases t with
    | empty => cases h
    | leaf | extension | branch => rfl
  refine ⟨_, href, ?_⟩
  rw [matchesTrieReference]
  split
  · next hshort =>
    rw [if_neg (by omega)]
    exact decide_eq_true ⟨List.length_pos_iff.mpr (rlpEncode_ne_nil _), hshort, rfl⟩
  · rw [if_pos (length_keccak _)]
    exact decide_eq_true rfl

theorem walkTrie_complete (hlookup : t.lookup key = some value)
    (hsize : ∀ node ∈ proofNodes t key, node.length ≤ MAX_PROOF_NODE_BYTES)
    (hmatch : matchesTrieReference reference (rlpEncode (t.item keccak)) = true) :
    walkTrie value reference key (proofNodes t key) = true := by
  have node {t : Trie} {reference : Octets} {key : List Nibble} {proof : List Octets}
      (hsize : (rlpEncode (t.item keccak)).length ≤ MAX_PROOF_NODE_BYTES)
      (hmatch : matchesTrieReference reference (rlpEncode (t.item keccak)) = true)
      (h : trieHop t key = some (.ends value) ∧ proof = [] ∨
        ∃ child rest, trieHop t key = some (.goes child rest) ∧ walkTrie value child rest proof = true) :
      walkTrie value reference key (rlpEncode (t.item keccak) :: proof) = true := by
    obtain ⟨v, hv, hreads⟩ := decodeWhole_item hsize
    rw [walkTrie_cons, hop_item hv hreads]
    exact ⟨hmatch, h⟩
  induction t generalizing key reference with
  | empty => cases hlookup
  | leaf path =>
    rw [Trie.lookup, Option.ite_none_right_eq_some] at hlookup
    obtain ⟨rfl, hvalue⟩ := hlookup
    cases hvalue
    exact node (hsize _ List.mem_cons_self) hmatch (.inl ⟨if_pos ⟨List.prefix_rfl, List.drop_length⟩, rfl⟩)
  | extension path u ih =>
    rw [Trie.lookup, Option.ite_none_right_eq_some] at hlookup
    obtain ⟨hstart, hlookup⟩ := hlookup
    obtain ⟨child, href, hchild⟩ := referenceTo_of_lookup hlookup
    refine node (hsize _ List.mem_cons_self) hmatch (.inr ⟨child, _, (if_pos hstart).trans (by rw [href]; rfl), ?_⟩)
    exact ih hlookup (fun x hx => hsize x (List.mem_cons_of_mem _ hx)) hchild
  | branch children v ih =>
    obtain _ | ⟨n, key⟩ := key
    · rw [Trie.lookup, Option.ite_none_left_eq_some] at hlookup
      cases hlookup.2
      exact node (hsize _ List.mem_cons_self) hmatch (.inl ⟨rfl, rfl⟩)
    · obtain ⟨child, href, hchild⟩ := referenceTo_of_lookup (t := children n) hlookup
      refine node (hsize _ List.mem_cons_self) hmatch (.inr ⟨child, key, congrArg (Option.map (Hop.goes · key)) href, ?_⟩)
      exact ih n hlookup (fun x hx => hsize x (List.mem_cons_of_mem _ hx)) hchild

/-- A finite map from byte strings to byte strings that are not empty, as its entries. -/
structure TrieMap where
  entries : List (Octets × Octets)
  distinct : (entries.map Prod.fst).Nodup
  nonempty : ∀ e ∈ entries, e.2 ≠ []

def TrieMap.trie (m : TrieMap) : Trie :=
  .build (m.entries.map fun e => (bytesToNibbles e.1).length).sum (m.entries.map fun e => (bytesToNibbles e.1, e.2))

omit [Crypto] in
theorem TrieMap.lookup_trie (m : TrieMap) {key value : Octets} :
    m.trie.lookup (bytesToNibbles key) = some value ↔ (key, value) ∈ m.entries := by
  rw [trie, Trie.lookup_build]
  · rw [List.mem_map]
    constructor
    · rintro ⟨e, he, heq⟩
      obtain ⟨hkey, rfl⟩ := Prod.mk.inj heq
      rw [← bytesToNibbles_inj hkey]
      exact he
    · exact fun he => ⟨_, he, rfl⟩
  · have hkeys : (m.entries.map fun e => (bytesToNibbles e.1, e.2)).map Prod.fst =
        (m.entries.map Prod.fst).map bytesToNibbles := by
      rw [List.map_map, List.map_map]
      rfl
    rw [hkeys]
    exact m.distinct.map fun _ _ => bytesToNibbles_inj
  · intro e hmem
    obtain ⟨e, he, rfl⟩ := List.mem_map.mp hmem
    exact List.single_le_sum (fun _ _ => Nat.zero_le _) _ (List.mem_map.mpr ⟨e, he, rfl⟩)
  · intro e hmem
    obtain ⟨e, he, rfl⟩ := List.mem_map.mp hmem
    exact m.nonempty e he

/-- Under the root of a map, accepted proofs show entries of the map, and every entry has one: the nodes on its path, if
    they keep the limits. Under any root, a key has one value and one proof. -/
theorem trieInclusion_exact (m : TrieMap) (root key value : Octets) (proof : List Octets) :
    (NoCollision proof m.trie → value ≠ [] → verifyTrieInclusion (m.trie.root keccak) key value proof = true →
      (key, value) ∈ m.entries) ∧
    (∀ value' proof', Distinguishes proof proof' → verifyTrieInclusion root key value proof = true →
      verifyTrieInclusion root key value' proof' = true → value = value' ∧ proof = proof') ∧
    ((key, value) ∈ m.entries → validProofSize (proofNodes m.trie (bytesToNibbles key)) = true →
      verifyTrieInclusion (m.trie.root keccak) key value (proofNodes m.trie (bytesToNibbles key)) = true) := by
  refine ⟨fun free hne h => ?_, fun value' proof' free h h' => verifyTrieInclusion_unique free h h', fun hmem hsize => ?_⟩
  · exact m.lookup_trie.mp (verifyTrieInclusion_sound hne free h)
  · obtain ⟨-, -, hnodes, -⟩ := of_decide_eq_true hsize
    refine verifyTrieInclusion_iff.mpr ⟨length_keccak _, hsize, walkTrie_complete (m.lookup_trie.mpr hmem)
      (fun node hn => (hnodes node hn).2) ?_⟩
    rw [matchesTrieReference]
    exact (if_pos (length_keccak _)).trans (decide_eq_true rfl)

/-! ### The hash of a proof -/

def inclusionInput (header : EvmHeader) (proof : ReceiptInclusionProof) : Octets :=
  let input := appendLengthPrefixed (octets "UNIFIED_EVM_TRANSACTION_RECEIPT_INCLUSION_V1\x00") (octets header.hash)
  let input := appendLengthPrefixed (input ++ toBigEndian 8 proof.transactionIndex) proof.transactionRLP
  let input := appendLengthPrefixed (proof.transactionProofNodes.foldl appendLengthPrefixed input) proof.receiptRLP
  proof.receiptProofNodes.foldl appendLengthPrefixed input

section

omit [Crypto]

theorem appendLengthPrefixed_start (target value : Octets) : target <+: appendLengthPrefixed target value :=
  ⟨toBigEndian 8 value.length ++ value, (List.append_assoc ..).symm⟩

theorem foldl_appendLengthPrefixed_start (target : Octets) (nodes : List Octets) :
    target <+: nodes.foldl appendLengthPrefixed target := by
  induction nodes generalizing target with
  | nil => exact List.prefix_rfl
  | cons node _ ih => exact (appendLengthPrefixed_start target node).trans (ih _)

/-- The position stands at a fixed place of the input. -/
theorem inclusionInput_start (header : EvmHeader) (p : ReceiptInclusionProof) :
    appendLengthPrefixed (octets "UNIFIED_EVM_TRANSACTION_RECEIPT_INCLUSION_V1\x00") (octets header.hash) ++
      toBigEndian 8 p.transactionIndex <+: inclusionInput header p :=
  (appendLengthPrefixed_start ..).trans <| (foldl_appendLengthPrefixed_start ..).trans <|
    (appendLengthPrefixed_start ..).trans (foldl_appendLengthPrefixed_start ..)

theorem inclusionInput_index {header : EvmHeader} {p p' : ReceiptInclusionProof} (hp : p.transactionIndex < 256 ^ 8)
    (hp' : p'.transactionIndex < 256 ^ 8) (h : inclusionInput header p = inclusionInput header p') :
    p.transactionIndex = p'.transactionIndex := by
  have hstart := inclusionInput_start header p
  rw [h] at hstart
  have hlength : ∀ n, (toBigEndian 8 n).length = 8 := length_toBigEndian 8
  have heq := (List.prefix_of_prefix_length_le hstart (inclusionInput_start header p') (by simp [hlength])).eq_of_length
    (by simp [hlength])
  exact toBigEndian_inj hp hp' (List.append_cancel_left heq)

end

theorem EvidenceOk.accepted {chainID : Nat} {gateway : String} {authority : Octets} {block : AuthenticatedBlock}
    {verified : Verified} {entries : List ReceiptEntry} (h : EvidenceOk chainID gateway authority block verified entries)
    {p : ReceiptInclusionProof} (hp : p ∈ block.receipts) :
    ∃ i entry, i < 256 ^ 8 ∧ ProofOk verified.header (keccakText block.signature) (p, i) entry := by
  obtain ⟨i, hi, rfl⟩ := List.getElem_of_mem hp
  have hlength := h.proofs.length_eq
  rw [List.length_zipIdx] at hlength
  obtain ⟨proof, hproof, ok⟩ := h.proof (List.getElem?_eq_getElem (by omega : i < entries.length))
  rw [List.getElem?_eq_getElem hi] at hproof
  cases hproof
  exact ⟨i, _, hi.trans_le (h.size.trans (by decide)), ok⟩

/-- Two proofs that were accepted under the same header, and whose hashes are the same, are the same proof. -/
theorem inclusionProofHash_commits {chainID chainID' : Nat} {gateway gateway' : String} {authority authority' : Octets}
    {block block' : AuthenticatedBlock} {verified verified' : Verified} {p p' : ReceiptInclusionProof}
    (h : verifyAuthenticatedBlock chainID gateway authority block = .ok verified)
    (h' : verifyAuthenticatedBlock chainID' gateway' authority' block' = .ok verified')
    (same : block'.headerRLP = block.headerRLP) (hp : p ∈ block.receipts) (hp' : p' ∈ block'.receipts)
    (inputs : Distinguishes [inclusionInput verified.header p] [inclusionInput verified.header p'])
    (transactions : Distinguishes p.transactionProofNodes p'.transactionProofNodes)
    (receipts : Distinguishes p.receiptProofNodes p'.receiptProofNodes)
    (hash : receiptInclusionProofHash verified.header p = receiptInclusionProofHash verified.header p') :
    p.transactionIndex = p'.transactionIndex ∧ p.transactionRLP = p'.transactionRLP ∧ p.receiptRLP = p'.receiptRLP ∧
      p.transactionProofNodes = p'.transactionProofNodes ∧ p.receiptProofNodes = p'.receiptProofNodes := by
  obtain ⟨entries, hok⟩ := verifyAuthenticatedBlock_eq_ok h
  obtain ⟨entries', hok'⟩ := verifyAuthenticatedBlock_eq_ok h'
  obtain ⟨i, entry, hi, ok⟩ := hok.accepted hp
  obtain ⟨i', entry', hi', ok'⟩ := hok'.accepted hp'
  have hheader : verified'.header = verified.header :=
    Except.ok.inj (hok'.header.parsed.symm.trans (same ▸ hok.header.parsed))
  rw [hheader] at ok'
  have hinput := inputs _ List.mem_cons_self _ List.mem_cons_self (hexText_inj hash)
  have hindex := inclusionInput_index (ok.index.trans_lt hi) (ok'.index.trans_lt hi') hinput
  -- one position has one transaction and one receipt, each with one proof
  have htransaction := ok'.transaction
  have hreceipt := ok'.receipt
  rw [← hindex] at htransaction hreceipt
  obtain ⟨hrlp, hnodes⟩ := verifyTrieInclusion_unique transactions ok.transaction htransaction
  obtain ⟨hrlp', hnodes'⟩ := verifyTrieInclusion_unique receipts ok.receipt hreceipt
  exact ⟨hindex, hrlp, hrlp', hnodes, hnodes'⟩

omit [Crypto] in
theorem inclusionProofHash_commits_toyEvidence : toyEvidence.receipts.length = 2 ∧ ∃ verified,
    @verifyAuthenticatedBlock polyCrypto 1 toyExpected.address polyKey toyEvidence = .ok verified ∧
    ∀ p ∈ toyEvidence.receipts, ∀ p' ∈ toyEvidence.receipts,
      @receiptInclusionProofHash polyCrypto verified.header p = @receiptInclusionProofHash polyCrypto verified.header p' →
      p.transactionProofNodes = p'.transactionProofNodes ∧ p.receiptProofNodes = p'.receiptProofNodes := by
  obtain ⟨verified, h, hinputs⟩ := exists_of_toOption (b := true) (f := fun v : Verified =>
      decide (∀ p ∈ toyEvidence.receipts, ∀ p' ∈ toyEvidence.receipts, polyHash (inclusionInput v.header p) =
        polyHash (inclusionInput v.header p') → inclusionInput v.header p = inclusionInput v.header p'))
    (show (@verifyAuthenticatedBlock polyCrypto 1 toyExpected.address polyKey toyEvidence).toOption.map _ = _ by
      decide +kernel)
  have hnodes : ∀ p ∈ toyEvidence.receipts, ∀ p' ∈ toyEvidence.receipts,
      @Distinguishes polyCrypto p.transactionProofNodes p'.transactionProofNodes ∧
        @Distinguishes polyCrypto p.receiptProofNodes p'.receiptProofNodes := by
    unfold Distinguishes
    decide +kernel
  refine ⟨rfl, verified, h, fun p hp p' hp' hash => ?_⟩
  have inputs : @Distinguishes polyCrypto [inclusionInput verified.header p] [inclusionInput verified.header p'] := by
    intro x hx y hy
    rw [List.mem_singleton.mp hx, List.mem_singleton.mp hy]
    exact of_decide_eq_true hinputs p hp p' hp'
  obtain ⟨transactions, receipts⟩ := hnodes p hp p' hp'
  exact (@inclusionProofHash_commits polyCrypto _ _ _ _ _ _ _ _ _ _ _ _ h h rfl hp hp' inputs transactions receipts
    hash).2.2.2

end Unified.Indexer
