import Unified.Indexer.Evidence

/-! What an accepted block of evidence contains: for each proof in its order a receipt record and the logs
    that the receipt decodes to, and the settlement events among all logs of the block. -/

namespace Unified.Indexer

variable [Crypto] {chainID : Nat} {gateway signatureHash : String} {header : EvmHeader} {acc acc' : Collected}
  {record : VerifiedReceipt} {authority : Octets} {block : AuthenticatedBlock} {verified : Verified}

abbrev ReceiptEntry := VerifiedReceipt × List ReceiptLog

/-- The proof of one transaction and its receipt is accepted and gives `entry`. -/
structure ProofOk (header : EvmHeader) (signatureHash : String) (proof : ReceiptInclusionProof × Nat)
    (entry : ReceiptEntry) : Prop where
  index : proof.1.transactionIndex = proof.2
  transactionRLP : proof.1.transactionRLP ≠ []
  receiptRLP : proof.1.receiptRLP ≠ [] ∧ proof.1.receiptRLP.length ≤ MAX_RECEIPT_BYTES
  transaction : verifyTrieInclusion ((decodeHexText header.transactionsRoot 32).getD []) (rlpEncodeUint proof.1.transactionIndex)
    proof.1.transactionRLP proof.1.transactionProofNodes = true
  receipt : verifyTrieInclusion ((decodeHexText header.receiptsRoot 32).getD []) (rlpEncodeUint proof.1.transactionIndex)
    proof.1.receiptRLP proof.1.receiptProofNodes = true
  decoded : decodeReceipt proof.1.receiptRLP = some (entry.1.status, entry.2)
  record : entry.1 = receiptRecord header signatureHash proof.1 entry.1.status

/-- A log that is a settlement of the gateway. -/
def IsSettlementLog (gateway : String) (record : VerifiedReceipt) (log : ReceiptLog) : Prop :=
  record.status = .succeeded ∧ log.address = gateway ∧ log.topics.head? = some canonicalSettlementTopic

instance (gateway : String) (record : VerifiedReceipt) (log : ReceiptLog) :
    Decidable (IsSettlementLog gateway record log) :=
  inferInstanceAs (Decidable (_ ∧ _ ∧ _))

def rawLogOf (chainID : Nat) (record : VerifiedReceipt) (log : ReceiptLog) (position : Nat) : RawLog :=
  ⟨chainID, log.address, log.topics, log.data, record.transactionHash, position, record.blockNumber, record.blockHash⟩

def logEvents (chainID : Nat) (gateway : String) (record : VerifiedReceipt) (log : ReceiptLog) (position : Nat) :
    List Event :=
  if IsSettlementLog gateway record log then
    match decodeCanonicalSettlementLog (rawLogOf chainID record log position) record.transactionIndex record.receiptsRoot
        record.inclusionProofHash true with
    | .ok event => [{ event with receiptHeaderSignatureHash := record.headerSignatureHash }]
    | .error _ => []
  else []

def allLogs (entries : List ReceiptEntry) : List (VerifiedReceipt × ReceiptLog) :=
  entries.flatMap fun entry => entry.2.map fun log => (entry.1, log)

/-- The settlement events of the receipts: each log counts, from position `start` on. -/
def eventsFrom (chainID : Nat) (gateway : String) (start : Nat) (entries : List ReceiptEntry) : List Event :=
  ((allLogs entries).zipIdx start).flatMap fun x => logEvents chainID gateway x.1.1 x.1.2 x.2

theorem eventsFrom_append (start : Nat) (xs ys : List ReceiptEntry) :
    eventsFrom chainID gateway start (xs ++ ys) =
      eventsFrom chainID gateway start xs ++ eventsFrom chainID gateway (start + (allLogs xs).length) ys := by
  rw [eventsFrom, allLogs, List.flatMap_append, List.zipIdx_append, List.flatMap_append]
  rfl

/-! ### The loop over the receipts -/

theorem collectLog_eq_ok {log : ReceiptLog} (h : collectLog chainID gateway record acc log = .ok acc') :
    acc' = ⟨acc.receipts, acc.events ++ logEvents chainID gateway record log acc.globalLogIndex, acc.globalLogIndex + 1⟩ := by
  simp only [collectLog, block_eq_ok] at h
  obtain ⟨-, -, h⟩ := h
  split at h
  · rename_i hsettlement
    simp only [bind_eq_ok, orRevert_eq_ok, pure_eq_ok] at h
    obtain ⟨event, hevent, rfl⟩ := h
    have hdecode : decodeCanonicalSettlementLog (rawLogOf chainID record log acc.globalLogIndex) record.transactionIndex
        record.receiptsRoot record.inclusionProofHash true = .ok event := by
      rw [rawLogOf]
      revert hevent
      cases decodeCanonicalSettlementLog _ _ _ _ _ <;> simp [Except.toOption]
    rw [logEvents, if_pos (show IsSettlementLog gateway record log from hsettlement), hdecode]
  · rename_i hsettlement
    rw [pure_eq_ok] at h
    rw [logEvents, if_neg (show ¬ IsSettlementLog gateway record log from hsettlement), List.append_nil, ← h]

theorem collectLogs_eq_ok {logs : List ReceiptLog} (h : logs.foldlM (collectLog chainID gateway record) acc = .ok acc') :
    acc' = ⟨acc.receipts, acc.events ++ eventsFrom chainID gateway acc.globalLogIndex [(record, logs)],
      acc.globalLogIndex + logs.length⟩ := by
  induction logs generalizing acc with
  | nil =>
    rw [List.foldlM_nil, pure_eq_ok] at h
    rw [← h]
    simp [eventsFrom, allLogs]
  | cons _ _ ih =>
    rw [List.foldlM_cons, bind_eq_ok] at h
    obtain ⟨mid, hlog, hlogs⟩ := h
    rw [ih hlogs, collectLog_eq_ok hlog]
    simp only [Collected.mk.injEq, List.length_cons, true_and]
    refine ⟨?_, by omega⟩
    rw [List.append_assoc]
    simp [eventsFrom, allLogs]

theorem collectReceipt_eq_ok {proof : ReceiptInclusionProof × Nat}
    (h : collectReceipt chainID gateway header signatureHash acc proof = .ok acc') :
    ∃ entry, ProofOk header signatureHash proof entry ∧
      acc' = ⟨acc.receipts ++ [entry.1], acc.events ++ eventsFrom chainID gateway acc.globalLogIndex [entry],
        acc.globalLogIndex + entry.2.length⟩ := by
  obtain ⟨proof, position⟩ := proof
  simp only [collectReceipt, block_eq_ok, orRevert_eq_ok] at h
  obtain ⟨⟨hindex, htx, -, hrx, hrxle, -⟩, ⟨hincluded, hincluded'⟩, ⟨status, logs⟩, hdecode, hlogs⟩ := h
  refine ⟨(receiptRecord header signatureHash proof status, logs), ?_, collectLogs_eq_ok hlogs⟩
  exact ⟨hindex, List.length_pos_iff.mp (Nat.pos_of_ne_zero htx), ⟨List.length_pos_iff.mp (Nat.pos_of_ne_zero hrx), hrxle⟩,
    hincluded, hincluded', hdecode, rfl⟩

theorem collectReceipts_eq_ok {proofs : List (ReceiptInclusionProof × Nat)}
    (h : proofs.foldlM (collectReceipt chainID gateway header signatureHash) acc = .ok acc') :
    ∃ entries, List.Forall₂ (ProofOk header signatureHash) proofs entries ∧
      acc'.receipts = acc.receipts ++ entries.map Prod.fst ∧
      acc'.events = acc.events ++ eventsFrom chainID gateway acc.globalLogIndex entries := by
  induction proofs generalizing acc with
  | nil =>
    rw [List.foldlM_nil, pure_eq_ok] at h
    subst h
    exact ⟨[], .nil, by simp, by simp [eventsFrom, allLogs]⟩
  | cons _ _ ih =>
    rw [List.foldlM_cons, bind_eq_ok] at h
    obtain ⟨mid, hproof, hproofs⟩ := h
    obtain ⟨entry, hentry, rfl⟩ := collectReceipt_eq_ok hproof
    obtain ⟨entries, hentries, hreceipts, hevents⟩ := ih hproofs
    refine ⟨entry :: entries, .cons hentry hentries, ?_, ?_⟩
    · rw [hreceipts, List.append_assoc]
      rfl
    · have hlength : (allLogs [entry]).length = entry.2.length := by simp [allLogs]
      have hsplit := @eventsFrom_append _ chainID gateway acc.globalLogIndex [entry] entries
      rw [hlength] at hsplit
      rw [hevents, List.append_assoc]
      exact congrArg _ hsplit.symm

/-! ### Blocks -/

structure HeaderFields (encoded : Octets) (header : EvmHeader) : Prop where
  number : 0 < header.number ∧ header.number < 2 ^ 64
  hash : header.hash = keccakText encoded
  parentHash : canonicalHash header.parentHash = true
  receiptsRoot : canonicalHash header.receiptsRoot = true

theorem parseEVMHeader_eq_ok {encoded : Octets} (h : parseEVMHeader encoded = .ok header) :
    HeaderFields encoded header := by
  simp only [parseEVMHeader, block_eq_ok, orRevert_eq_ok, Option.filter_eq_some_iff] at h
  obtain ⟨-, list, -, -, parent, -, transactionsRoot, -, receiptsRoot, -, number, -, -, -, hlength, n, ⟨hn, hne⟩, -, -, rfl⟩ := h
  refine ⟨?_, rfl, canonicalHash_hexText hlength.1, canonicalHash_hexText hlength.2.2⟩
  rw [rlpUint64] at hn
  split at hn
  · cases hn
  · rename_i hguard
    rw [not_or] at hguard
    cases hn
    refine ⟨Nat.pos_of_ne_zero (of_decide_eq_true hne), ?_⟩
    calc ofBigEndian number < 256 ^ number.length := ofBigEndian_lt number
      _ ≤ 256 ^ 8 := Nat.pow_le_pow_right (by decide) (by omega)

omit [Crypto] in
/-- Proofs that carry their own positions are sorted. -/
theorem sortProofs_eq {proofs : List ReceiptInclusionProof}
    (h : ∀ entry ∈ proofs.zipIdx, entry.1.transactionIndex = entry.2) : sortProofs proofs = proofs := by
  apply List.Pairwise.insertionSort_eq
  rw [List.pairwise_iff_getElem]
  intro i j hi hj hij
  have hget : ∀ k (hk : k < proofs.length), proofs[k].transactionIndex = k := fun k hk =>
    h (proofs[k], k) (List.mk_mem_zipIdx_iff_getElem?.mpr (List.getElem?_eq_getElem hk))
  rw [hget i hi, hget j hj]
  omega

/-- A header that the authority signed with the time at which it was observed. -/
structure SignedHeader (chainID : Nat) (authority headerRLP : Octets) (observedAt : Time) (signature : Octets)
    (header : EvmHeader) : Prop where
  parsed : parseEVMHeader headerRLP = .ok header
  observed : ¬ observedAt.IsZero
  signed : ∃ digest, authenticatedHeaderSigningDigest chainID headerRLP observedAt = .ok digest ∧
    Crypto.verify authority digest signature = true

/-- An accepted block: a signed header and one entry for each proof. -/
structure EvidenceOk (chainID : Nat) (gateway : String) (authority : Octets) (block : AuthenticatedBlock)
    (verified : Verified) (entries : List ReceiptEntry) : Prop where
  size : block.receipts.length ≤ MAX_RECEIPTS_PER_BLOCK
  header : SignedHeader chainID authority block.headerRLP block.observedAt block.signature verified.header
  proofs : List.Forall₂ (ProofOk verified.header (keccakText block.signature)) block.receipts.zipIdx entries
  receipts : verified.receipts = entries.map Prod.fst
  events : verified.events = eventsFrom chainID gateway 0 entries

theorem verifyAuthenticatedBlock_eq_ok (h : verifyAuthenticatedBlock chainID gateway authority block = .ok verified) :
    ∃ entries, EvidenceOk chainID gateway authority block verified entries := by
  simp only [verifyAuthenticatedBlock, block_eq_ok] at h
  obtain ⟨⟨-, -, hobserved, -, -, -, hsize⟩, header, hheader, -, hdigest, hpositions, collected, hcollected, rfl⟩ := h
  rw [sortProofs_eq hpositions] at hcollected
  obtain ⟨entries, hentries, hreceipts, hevents⟩ := collectReceipts_eq_ok hcollected
  obtain ⟨digest, hdigest, hverify⟩ := (Option.any_eq_true _ _).mp hdigest
  have hsigned : authenticatedHeaderSigningDigest chainID block.headerRLP block.observedAt = .ok digest := by
    revert hdigest
    cases authenticatedHeaderSigningDigest chainID block.headerRLP block.observedAt <;> simp [Except.toOption]
  exact ⟨entries, (of_decide_eq_true hsize).1, ⟨hheader, hobserved, digest, hsigned, hverify⟩, hentries, hreceipts, hevents⟩

theorem EvidenceOk.proof {entries : List ReceiptEntry} (h : EvidenceOk chainID gateway authority block verified entries)
    {i : Nat} {entry : ReceiptEntry} (hi : entries[i]? = some entry) :
    ∃ proof, block.receipts[i]? = some proof ∧
      ProofOk verified.header (keccakText block.signature) (proof, i) entry := by
  obtain ⟨hlt, rfl⟩ := List.getElem?_eq_some_iff.mp hi
  have hlength := h.proofs.length_eq
  rw [List.length_zipIdx] at hlength
  have hproof := h.proofs.get (i := i) (by rw [List.length_zipIdx]; omega) hlt
  rw [List.get_eq_getElem, List.get_eq_getElem, List.getElem_zipIdx, Nat.zero_add] at hproof
  exact ⟨_, List.getElem?_eq_getElem (by omega), hproof⟩

end Unified.Indexer
