import Unified.Indexer.EvidenceSpec

/-! What accepted receipt evidence shows of the block behind the signed header: the transaction, its
    receipt and the position of the log among all logs of the block, and the headers on top of it. -/

namespace Unified.Indexer

/-! ### Receipts of a block -/

structure EvmLog where
  address : Octets
  topics : List Octets
  data : Octets

/-- A receipt; a typed one begins with the byte of its type. -/
structure EvmReceipt where
  kind : Option UInt8
  kind_range : ∀ k ∈ kind, 0 < k ∧ k < 0x80
  succeeded : Bool
  cumulativeGasUsed : Nat
  bloom : Octets
  logs : List EvmLog

def EvmLog.item (log : EvmLog) : RlpItem :=
  .list [.bytes log.address, .list (log.topics.map .bytes), .bytes log.data]

def EvmReceipt.item (receipt : EvmReceipt) : RlpItem :=
  .list [.bytes (if receipt.succeeded then [1] else []), .bytes (minimalBigEndian receipt.cumulativeGasUsed),
    .bytes receipt.bloom, .list (receipt.logs.map EvmLog.item)]

def EvmReceipt.encode (receipt : EvmReceipt) : Octets := receipt.kind.toList ++ rlpEncode receipt.item

def EvmLog.text (log : EvmLog) : ReceiptLog := ⟨hexText log.address, log.topics.map hexText, log.data⟩

def EvmReceipt.status (receipt : EvmReceipt) : TransactionReceiptStatus :=
  if receipt.succeeded then .succeeded else .reverted

theorem mapM_reads {α β : Type} {item : α → RlpItem} {decode : RlpValue → Option β} {result : α → β}
    (each : ∀ {v a b}, v.Reads (item a) → decode v = some b → b = result a) {values : List RlpValue} {xs : List α}
    {ys : List β} (hreads : List.Forall₂ RlpValue.Reads values (xs.map item)) (h : values.mapM decode = some ys) :
    ys = xs.map result := by
  induction xs generalizing values ys with
  | nil =>
    rw [List.map_nil, List.forall₂_nil_right_iff] at hreads
    subst hreads
    simpa using h.symm
  | cons _ _ ih =>
    rw [List.map_cons, List.forall₂_cons_right_iff] at hreads
    obtain ⟨v, values, hv, hvalues, rfl⟩ := hreads
    simp only [List.mapM_cons, Option.bind_eq_bind, Option.bind_eq_some_iff] at h
    obtain ⟨y, hy, ys', hys, heq⟩ := h
    rw [← Option.some.inj heq, each hv hy, ih hvalues hys, List.map_cons]

variable {v : RlpValue}

theorem decodeTopic_reads {topic : Octets} {text : String} (hv : v.Reads (.bytes topic)) (h : decodeTopic v = some text) :
    text = hexText topic := by
  rw [RlpValue.Reads.string_iff.mp hv, decodeTopic, Option.map_eq_some_iff] at h
  obtain ⟨payload, hpayload, rfl⟩ := h
  rw [Option.some.inj (Option.filter_eq_some_iff.mp hpayload).1]

theorem decodeReceiptLog_reads {log : EvmLog} {decoded : ReceiptLog} (hv : v.Reads log.item)
    (h : decodeReceiptLog v = some decoded) : decoded = log.text := by
  obtain ⟨values, hvalues, rfl⟩ := RlpValue.Reads.list_iff.mp hv
  obtain _ | ⟨ha, _ | ⟨ht, _ | ⟨hd, _ | _⟩⟩⟩ := hvalues
  obtain ⟨topics, htopics, rfl⟩ := RlpValue.Reads.list_iff.mp ht
  rw [RlpValue.Reads.string_iff.mp ha, RlpValue.Reads.string_iff.mp hd] at h
  simp only [decodeReceiptLog, RlpValue.payload?, RlpValue.items?, Option.bind_eq_bind, Option.bind_eq_some_iff,
    Option.filter_eq_some_iff, Option.some.injEq] at h
  obtain ⟨address, ⟨rfl, -⟩, values, ⟨rfl, -⟩, data, ⟨rfl, -⟩, texts, htexts, rfl⟩ := h
  rw [mapM_reads decodeTopic_reads htopics htexts, EvmLog.text]

theorem receiptPayload_encode (receipt : EvmReceipt) (hlen : receipt.encode.length < 256 ^ 8) :
    receiptPayload receipt.encode = rlpEncode receipt.item := by
  have hlen' : (rlpEncode receipt.item).length < 256 ^ 8 := by
    rw [EvmReceipt.encode, List.length_append] at hlen
    omega
  rw [EvmReceipt.encode]
  cases hkind : receipt.kind with
  | none =>
    obtain ⟨b, rest, hb, hhigh⟩ := head_rlpEncode_list hlen'
    rw [EvmReceipt.item, hb, Option.toList_none, List.nil_append, receiptPayload, if_neg]
    rintro ⟨-, hlt⟩
    have : b.toNat < 0x80 := hlt
    omega
  | some k =>
    rw [Option.toList_some, List.singleton_append, receiptPayload, if_pos (receipt.kind_range k hkind)]

variable {status : TransactionReceiptStatus} {expected : ExpectedReceiptLog} {acc acc' : LogSearch}
  {logs : List ReceiptLog} {atTarget : Bool}

theorem decodeReceipt_encode {receipt : EvmReceipt} (hlen : receipt.encode.length < 256 ^ 8)
    (h : decodeReceipt receipt.encode = some (status, logs)) :
    status = receipt.status ∧ logs = receipt.logs.map EvmLog.text := by
  have hlen' : (rlpEncode receipt.item).length < 256 ^ 8 := by
    rw [EvmReceipt.encode, List.length_append] at hlen
    omega
  rw [decodeReceipt, receiptPayload_encode receipt hlen] at h
  split at h
  · rename_i raw statusField cumulativeGasUsed bloom logsField hdecode
    have hreads := decodeWhole_rlpEncode hlen' hdecode
    obtain ⟨values, hvalues, hv⟩ := RlpValue.Reads.list_iff.mp hreads
    cases hv
    obtain _ | ⟨hs, _ | ⟨hg, _ | ⟨hb, _ | ⟨hl, _ | _⟩⟩⟩⟩ := hvalues
    obtain ⟨values, hvalues, rfl⟩ := RlpValue.Reads.list_iff.mp hl
    rw [RlpValue.Reads.string_iff.mp hs] at h
    simp only [RlpValue.payload?, RlpValue.items?, Option.bind_eq_bind, Option.bind_eq_some_iff, Option.filter_eq_some_iff,
      Option.some.injEq] at h
    obtain ⟨field, rfl, -, -, -, -, status', hstatus, values', ⟨rfl, -⟩, logs', hlogs, heq⟩ := h
    obtain ⟨rfl, rfl⟩ := Prod.mk.inj heq
    refine ⟨?_, mapM_reads decodeReceiptLog_reads hvalues hlogs⟩
    rw [EvmReceipt.status]
    cases hsucceeded : receipt.succeeded <;> rw [hsucceeded] at hstatus <;> exact (Option.some.inj hstatus).symm
  · cases h

theorem EvmReceipt.encode_ne_nil (receipt : EvmReceipt) : receipt.encode ≠ [] :=
  List.append_ne_nil_of_right_ne_nil _ (rlpEncode_ne_nil receipt.item)

/-! ### The block behind the header -/

theorem rlpEncodeUint_eq (i : Nat) : rlpEncodeUint i = rlpEncode (.bytes (minimalBigEndian i)) := by
  rw [rlpEncodeUint]
  split
  · rename_i hzero
    rw [hzero]
    rfl
  · rename_i hpos
    have hlen := length_minimalBigEndian_le i
    have hbyte : (minimalBigEndian i).length = 1 ∧ (minimalBigEndian i).head?.any (· < 0x80) = true ↔
        IsRlpByte (minimalBigEndian i) := by
      constructor
      · rintro ⟨hone, hsmall⟩
        obtain ⟨x, hx⟩ := List.length_eq_one_iff.mp hone
        rw [hx] at hsmall ⊢
        exact ⟨x, rfl, by simpa using hsmall⟩
      · rintro ⟨x, hx, hsmall⟩
        rw [hx]
        exact ⟨rfl, by simpa using hsmall⟩
    rw [rlpEncode]
    dsimp only
    split
    · rename_i hsmall
      rw [if_pos (hbyte.mp hsmall)]
    · rename_i hsmall
      rw [if_neg (fun h => hsmall (hbyte.mpr h)), rlpHeader, if_pos (by omega)]
      rfl

section

variable [Crypto] {i : Nat}

/-- The roots of a header are those of a list of transactions and a list of receipts. -/
structure HeaderOf (header : EvmHeader) (transactions : List Octets) (receipts : List EvmReceipt) : Prop where
  transactionsRoot : header.transactionsRoot = hexText ((listTrie transactions).root keccak)
  receiptsRoot : header.receiptsRoot = hexText ((listTrie (receipts.map EvmReceipt.encode)).root keccak)
  transactions_length : transactions.length ≤ 256 ^ 8
  receipts_length : receipts.length ≤ 256 ^ 8
  transactions_ne : ∀ transaction ∈ transactions, transaction ≠ []

/-- No node of a block's proofs collides with a node of its tries. -/
def BlockNoCollision (block : AuthenticatedBlock) (transactions : List Octets) (receipts : List EvmReceipt) : Prop :=
  ∀ proof ∈ block.receipts, NoCollision proof.transactionProofNodes (listTrie transactions) ∧
    NoCollision proof.receiptProofNodes (listTrie (receipts.map EvmReceipt.encode))

/-- An accepted proof at a position shows the value of the list at that position. -/
theorem getElem?_of_verifyTrieInclusion {values : List Octets} (hlen : values.length ≤ 256 ^ 8)
    (hne : ∀ v ∈ values, v ≠ []) (hi : i < 256 ^ 8) {root : String} {expected : Octets} {proof : List Octets}
    (hroot : root = hexText ((listTrie values).root keccak)) (free : NoCollision proof (listTrie values))
    (hexpected : expected ≠ [])
    (h : verifyTrieInclusion ((decodeHexText root 32).getD []) (rlpEncodeUint i) expected proof = true) :
    values[i]? = some expected := by
  have hdecode : decodeHexText (hexText ((listTrie values).root keccak)) 32 = some ((listTrie values).root keccak) :=
    decodeHexText_eq_some.mpr ⟨rfl, length_keccak _⟩
  rw [hroot, hdecode, Option.getD_some, rlpEncodeUint_eq i] at h
  exact (lookup_listTrie hlen hne hi).mp (verifyTrieInclusion_sound hexpected free h)

variable {header : EvmHeader} {transactions : List Octets} {receipts : List EvmReceipt} {entry : ReceiptEntry}
  {authority : Octets} {block : AuthenticatedBlock} {chainID : Nat} {entries : List ReceiptEntry} {gateway : String}
  {verified : Verified}

/-- An accepted proof shows the transaction and the receipt at its position. -/
theorem ProofOk.of_header {signatureHash : String} {proof : ReceiptInclusionProof}
    (h : ProofOk header signatureHash (proof, i) entry) (hheader : HeaderOf header transactions receipts)
    (hi : i < 256 ^ 8) (free : NoCollision proof.transactionProofNodes (listTrie transactions) ∧
      NoCollision proof.receiptProofNodes (listTrie (receipts.map EvmReceipt.encode))) :
    (∃ transaction, transactions[i]? = some transaction ∧ entry.1.transactionHash = keccakText transaction) ∧
      ∃ receipt, receipts[i]? = some receipt ∧ entry.1.status = receipt.status ∧
        entry.2 = receipt.logs.map EvmLog.text := by
  have htx := h.transaction
  have hrx := h.receipt
  rw [h.index] at htx hrx
  have hreceipts : ∀ v ∈ receipts.map EvmReceipt.encode, v ≠ [] := by
    rintro v hv
    obtain ⟨receipt, -, rfl⟩ := List.mem_map.mp hv
    exact receipt.encode_ne_nil
  have htransaction := getElem?_of_verifyTrieInclusion hheader.transactions_length hheader.transactions_ne hi
    hheader.transactionsRoot free.1 h.transactionRLP htx
  have hreceipt := getElem?_of_verifyTrieInclusion (by rw [List.length_map]; exact hheader.receipts_length) hreceipts hi
    hheader.receiptsRoot free.2 h.receiptRLP.1 hrx
  refine ⟨⟨_, htransaction, by rw [h.record]; rfl⟩, ?_⟩
  rw [List.getElem?_map, Option.map_eq_some_iff] at hreceipt
  obtain ⟨receipt, hreceipt, hencode⟩ := hreceipt
  have hdecoded := h.decoded
  have hlen := h.receiptRLP.2
  rw [← hencode] at hdecoded hlen
  exact ⟨receipt, hreceipt, decodeReceipt_encode (Nat.lt_of_le_of_lt hlen (by decide)) hdecoded⟩

/-- The entries of an accepted block are those of the first transactions of the block behind the header. -/
theorem EvidenceOk.of_header (h : EvidenceOk chainID gateway authority block verified entries)
    (hheader : HeaderOf verified.header transactions receipts) (free : BlockNoCollision block transactions receipts)
    (hi : entries[i]? = some entry) :
    (∃ transaction, transactions[i]? = some transaction ∧ entry.1.transactionHash = keccakText transaction) ∧
      ∃ receipt, receipts[i]? = some receipt ∧ entry.1.status = receipt.status ∧
        entry.2 = receipt.logs.map EvmLog.text := by
  obtain ⟨proof, hproof, hok⟩ := h.proof hi
  have hlt := (List.getElem?_eq_some_iff.mp hproof).1
  have hsize := h.size
  have : i < 256 ^ 8 := by
    have : MAX_RECEIPTS_PER_BLOCK < 256 ^ 8 := by decide
    omega
  exact hok.of_header hheader this (free proof (List.mem_of_getElem? hproof))

theorem EvidenceOk.logs_before (h : EvidenceOk chainID gateway authority block verified entries)
    (hheader : HeaderOf verified.header transactions receipts) (free : BlockNoCollision block transactions receipts)
    {k : Nat} (hk : k ≤ entries.length) :
    ((entries.take k).flatMap Prod.snd).length = ((receipts.take k).flatMap (·.logs)).length := by
  have hlogs : (entries.take k).map Prod.snd = (receipts.take k).map fun receipt => receipt.logs.map EvmLog.text := by
    apply List.ext_getElem?
    intro i
    rw [List.getElem?_map, List.getElem?_map, List.getElem?_take, List.getElem?_take]
    split
    · rename_i hi
      have hentry := List.getElem?_eq_getElem (l := entries) (i := i) (by omega)
      obtain ⟨-, receipt, hreceipt, -, hlogs⟩ := h.of_header hheader free hentry
      rw [hentry, hreceipt, Option.map_some, Option.map_some, hlogs]
    · rfl
  rw [List.flatMap_def, hlogs]
  simp [List.length_flatten, List.length_flatMap, Function.comp_def]

end

/-! ### The search for the log -/

theorem matchLog_eq_ok {log : ReceiptLog} (h : matchLog expected atTarget status acc log = .ok acc') :
    acc'.globalLogIndex = acc.globalLogIndex + 1 ∧ (acc'.matched = acc.matched ∨
      atTarget = true ∧ status = .succeeded ∧ acc.globalLogIndex = expected.logIndex ∧
        acc'.matched = some ⟨log.address, log.topics, log.data, acc.globalLogIndex⟩) := by
  rw [matchLog] at h
  split at h
  · rename_i hmatch
    simp only [block_eq_ok] at h
    obtain ⟨-, rfl⟩ := h
    exact ⟨rfl, .inr ⟨hmatch.1, hmatch.2.2.1, hmatch.2.1, rfl⟩⟩
  · rw [pure_eq_ok] at h
    subst h
    exact ⟨rfl, .inl rfl⟩

/-- A match in the logs of one receipt, the first of which is at `start` in the block. -/
abbrev Matched (expected : ExpectedReceiptLog) (start : Nat) (logs : List ReceiptLog) (matched : Option VerifiedReceiptLog) :
    Prop :=
  ∃ (j : Nat) (log : ReceiptLog), logs[j]? = some log ∧ start + j = expected.logIndex ∧
    matched = some ⟨log.address, log.topics, log.data, start + j⟩

theorem matchLogs_eq_ok (h : logs.foldlM (matchLog expected atTarget status) acc = .ok acc') :
    acc'.globalLogIndex = acc.globalLogIndex + logs.length ∧ (acc'.matched = acc.matched ∨
      atTarget = true ∧ status = .succeeded ∧ Matched expected acc.globalLogIndex logs acc'.matched) := by
  induction logs generalizing acc with
  | nil =>
    rw [List.foldlM_nil, pure_eq_ok] at h
    subst h
    exact ⟨rfl, .inl rfl⟩
  | cons log _ ih =>
    rw [List.foldlM_cons, bind_eq_ok] at h
    obtain ⟨mid, hlog, hlogs⟩ := h
    obtain ⟨hindex, hmid⟩ := matchLog_eq_ok hlog
    obtain ⟨hindex', hmatched⟩ := ih hlogs
    refine ⟨by rw [hindex', hindex, List.length_cons]; omega, ?_⟩
    rcases hmatched with heq | ⟨hat, hstatus, j, x, hx, hj, hm⟩
    · rcases hmid with heq' | ⟨hat, hstatus, hj, hm⟩
      · exact .inl (heq.trans heq')
      · exact .inr ⟨hat, hstatus, 0, log, rfl, hj, heq.trans hm⟩
    · refine .inr ⟨hat, hstatus, j + 1, x, hx, by omega, ?_⟩
      rw [hm, hindex]
      congr 2
      omega

/-- The search matches only in the target's logs, at the position where they stand in the block. -/
theorem searchReceipts_eq_ok {targetIndex : Nat} {proofs : List (ReceiptInclusionProof × Nat)}
    {entries : List ReceiptEntry}
    (hentries : List.Forall₂ (fun proof entry => decodeReceipt proof.1.receiptRLP = some (entry.1.status, entry.2))
      proofs entries) (h : proofs.foldlM (searchReceipt expected targetIndex) acc = .ok acc') :
    acc'.matched = acc.matched ∨ ∃ k proof entry, proofs[k]? = some proof ∧ proof.2 = targetIndex ∧
      entries[k]? = some entry ∧ entry.1.status = .succeeded ∧
      Matched expected (acc.globalLogIndex + ((entries.take k).flatMap Prod.snd).length) entry.2 acc'.matched := by
  induction hentries generalizing acc with
  | nil =>
    rw [List.foldlM_nil, pure_eq_ok] at h
    exact .inl (by rw [h])
  | @cons proof entry _ _ hproof _ ih =>
    rw [List.foldlM_cons, bind_eq_ok] at h
    obtain ⟨mid, hmid, h⟩ := h
    simp only [searchReceipt, bind_eq_ok, orRevert_eq_ok, hproof] at hmid
    obtain ⟨⟨status, logs⟩, heq, hlogs⟩ := hmid
    cases heq
    obtain ⟨hindex, hmatched⟩ := matchLogs_eq_ok hlogs
    rcases ih h with heq | ⟨k, p, e, hp, htarget, he, hstatus, hm⟩
    · rcases hmatched with heq' | ⟨hat, hstatus, hm⟩
      · exact .inl (heq.trans heq')
      · refine .inr ⟨0, proof, entry, rfl, of_decide_eq_true hat, rfl, hstatus, ?_⟩
        rw [heq]
        exact hm
    · refine .inr ⟨k + 1, p, e, hp, htarget, he, hstatus, ?_⟩
      rw [List.take_succ_cons, List.flatMap_cons, List.length_append, ← Nat.add_assoc, ← hindex]
      exact hm

/-- Where the elements of one part stand among the elements of all parts. -/
theorem getElem?_flatMap {α β : Type} {f : α → List β} {xs : List α} {k j : Nat} {x : α} {y : β} (hx : xs[k]? = some x)
    (hy : (f x)[j]? = some y) : (xs.flatMap f)[((xs.take k).flatMap f).length + j]? = some y := by
  induction xs generalizing k with
  | nil => cases hx
  | cons _ _ ih =>
    obtain _ | k := k
    · cases hx
      have hlt := (List.getElem?_eq_some_iff.mp hy).1
      rw [List.take_zero, List.flatMap_nil, List.length_nil, Nat.zero_add, List.flatMap_cons,
        List.getElem?_append_left hlt]
      exact hy
    · rw [List.take_succ_cons, List.flatMap_cons, List.flatMap_cons, List.length_append, Nat.add_assoc,
        List.getElem?_append_right (Nat.le_add_right _ _), Nat.add_sub_cancel_left]
      exact ih hx

section

variable [Crypto] {chainID : Nat} {coordinator : String} {authority : Octets}

/-- A header directly above another. -/
def Follows (previous next : EvmHeader) : Prop := next.number = previous.number + 1 ∧ next.parentHash = previous.hash

theorem confirmHeader_eq_ok {previous next : EvmHeader × Time} {signed : AuthenticatedHeader}
    (hprevious : previous.1.number < 2 ^ 64) (h : confirmHeader chainID coordinator authority previous signed = .ok next) :
    SignedHeader chainID authority signed.headerRLP signed.observedAt signed.signature next.1 ∧
      Follows previous.1 next.1 := by
  simp only [confirmHeader, block_eq_ok, orRevert_eq_ok] at h
  obtain ⟨-, verified, hverified, ⟨hnumber, hparent⟩, rfl⟩ := h
  have hok : verifyAuthenticatedBlock chainID coordinator authority
      ⟨signed.headerRLP, signed.observedAt, signed.signature, []⟩ = .ok verified := by
    revert hverified
    cases verifyAuthenticatedBlock _ _ _ _ <;> simp [Except.toOption]
  obtain ⟨entries, hentries⟩ := verifyAuthenticatedBlock_eq_ok hok
  refine ⟨hentries.header, ?_, hparent⟩
  -- the number of a parsed header is not zero, so the addition did not wrap around
  have hpos := (parseEVMHeader_eq_ok hentries.header.parsed).number.1
  dsimp only at hnumber ⊢
  omega

/-- The headers on top of a block, each signed and directly above the previous one. -/
theorem confirmHeaders_eq_ok {start last : EvmHeader × Time} {signed : List AuthenticatedHeader}
    (hstart : start.1.number < 2 ^ 64) (h : signed.foldlM (confirmHeader chainID coordinator authority) start = .ok last) :
    ∃ headers, List.Forall₂ (fun s header => SignedHeader chainID authority s.headerRLP s.observedAt s.signature header)
        signed headers ∧ (start.1 :: headers).IsChain Follows ∧ (start.1 :: headers).getLast? = some last.1 ∧
      last.1.number = start.1.number + signed.length := by
  induction signed generalizing start with
  | nil =>
    rw [List.foldlM_nil, pure_eq_ok] at h
    subst h
    exact ⟨[], .nil, .singleton _, rfl, rfl⟩
  | cons _ _ ih =>
    rw [List.foldlM_cons, bind_eq_ok] at h
    obtain ⟨next, hnext, h⟩ := h
    obtain ⟨hsigned, hfollows⟩ := confirmHeader_eq_ok hstart hnext
    obtain ⟨headers, hheaders, hchain, hlast, hnumber⟩ := ih (parseEVMHeader_eq_ok hsigned.parsed).number.2 h
    refine ⟨next.1 :: headers, .cons hsigned hheaders, .cons_cons hfollows hchain, ?_, ?_⟩
    · rw [List.getLast?_cons_cons]
      exact hlast
    · rw [hnumber, hfollows.1, List.length_cons]
      omega

/-! ### The evidence -/

section

variable {block : AuthenticatedBlock} {confirmationHeaders : List AuthenticatedHeader} {targetIndex requiredDepth : Nat}
  {expectedLog : ExpectedReceiptLog} {evidence : VerifiedReceiptEvidence}

/-- The search found a log of the target's receipt. -/
theorem EvidenceOk.found {verified : Verified} {entries : List ReceiptEntry}
    (h : EvidenceOk chainID coordinator authority block verified entries) {entry : ReceiptEntry} {search : LogSearch}
    {log : VerifiedReceiptLog} (hentry : entries[targetIndex]? = some entry)
    (hsearch : block.receipts.zipIdx.foldlM (searchReceipt expectedLog targetIndex) ⟨none, 0⟩ = .ok search)
    (hlog : search.matched = some log) :
    entry.1.status = .succeeded ∧
      Matched expectedLog ((entries.take targetIndex).flatMap Prod.snd).length entry.2 (some log) := by
  have hdecoded : List.Forall₂ (fun proof entry => decodeReceipt proof.1.receiptRLP = some (entry.1.status, entry.2))
      block.receipts.zipIdx entries := h.proofs.imp fun _ _ hok => hok.decoded
  rcases searchReceipts_eq_ok hdecoded hsearch with hnone | ⟨k, proof, e, hproof, htarget, he, hstatus, hmatched⟩
  · rw [hlog] at hnone
    cases hnone
  · rw [List.getElem?_zipIdx, Option.map_eq_some_iff] at hproof
    obtain ⟨p, -, rfl⟩ := hproof
    rw [Nat.zero_add] at htarget
    subst htarget
    obtain rfl : e = entry := Option.some.inj (he.symm.trans hentry)
    rw [hlog, Nat.zero_add] at hmatched
    exact ⟨hstatus, hmatched⟩

/-- Accepted evidence under the roots of a block is about the target transaction: its hash, its successful receipt, and
    a log of it at its position among all logs of the block, with `requiredDepth` signed headers on top. -/
theorem receiptEvidence_sound {header : EvmHeader} {transactions : List Octets} {receipts : List EvmReceipt}
    (h : verifyAuthenticatedReceiptEvidence chainID coordinator authority block confirmationHeaders targetIndex
      requiredDepth expectedLog = .ok evidence)
    (parsed : parseEVMHeader block.headerRLP = .ok header) (roots : HeaderOf header transactions receipts)
    (free : BlockNoCollision block transactions receipts) :
    (∃ transaction receipt, transactions[targetIndex]? = some transaction ∧
      evidence.transactionHash = keccakText transaction ∧ receipts[targetIndex]? = some receipt ∧
      receipt.succeeded = true ∧ ∃ j log, receipt.logs[j]? = some log ∧
        evidence.log = ⟨hexText log.address, log.topics.map hexText, log.data, expectedLog.logIndex⟩ ∧
        expectedLog.logIndex = ((receipts.take targetIndex).flatMap (·.logs)).length + j ∧
        (receipts.flatMap (·.logs))[evidence.log.logIndex]? = some log) ∧
    SignedHeader chainID authority block.headerRLP block.observedAt block.signature header ∧
    evidence.blockNumber = header.number ∧ evidence.blockHash = header.hash ∧
    (∃ headers last, headers.length = requiredDepth ∧
      List.Forall₂ (fun s header => SignedHeader chainID authority s.headerRLP s.observedAt s.signature header)
        confirmationHeaders headers ∧
      (header :: headers).IsChain Follows ∧ (header :: headers).getLast? = some last ∧
      evidence.finalityHeadHash = last.hash ∧ evidence.finalityHeadNumber = last.number) ∧
    evidence.finalityHeadNumber = evidence.blockNumber + requiredDepth := by
  simp only [verifyAuthenticatedReceiptEvidence, block_eq_ok, orRevert_eq_ok] at h
  obtain ⟨⟨-, hdepth, -⟩, -, verified, hverified, target, htarget, search, hsearch, log, hlog, last, hlast, rfl⟩ := h
  obtain ⟨entries, hentries⟩ := verifyAuthenticatedBlock_eq_ok hverified
  obtain rfl : verified.header = header := Except.ok.inj (hentries.header.parsed.symm.trans parsed)
  -- the target's entry and the header of its record
  rw [hentries.receipts, List.getElem?_map, Option.map_eq_some_iff] at htarget
  obtain ⟨entry, hentry, rfl⟩ := htarget
  obtain ⟨⟨transaction, htransaction, htxhash⟩, receipt, hreceipt, hstatus, hlogs⟩ := hentries.of_header roots free hentry
  obtain ⟨proof, -, hproof⟩ := hentries.proof hentry
  have hblockNumber : entry.1.blockNumber = verified.header.number := by rw [hproof.record]; rfl
  have hblockHash : entry.1.blockHash = verified.header.hash := by rw [hproof.record]; rfl
  have hrange := (parseEVMHeader_eq_ok parsed).number
  obtain ⟨headers, hsigned, hchain, hgetLast, hlastNumber⟩ := confirmHeaders_eq_ok hrange.2 hlast
  obtain ⟨hsucceeded, j, receiptLog, hreceiptLog, hj, hmatched⟩ := hentries.found hentry hsearch hlog
  rw [hentries.logs_before roots free (List.getElem?_eq_some_iff.mp hentry).1.le] at hj hmatched
  rw [hlogs, List.getElem?_map, Option.map_eq_some_iff] at hreceiptLog
  obtain ⟨evmLog, hevmLog, rfl⟩ := hreceiptLog
  have hevidence : log = ⟨hexText evmLog.address, evmLog.topics.map hexText, evmLog.data, expectedLog.logIndex⟩ := by
    rw [Option.some.inj hmatched, hj]
    rfl
  have hsuccess : receipt.succeeded = true := by
    rw [hstatus, EvmReceipt.status] at hsucceeded
    revert hsucceeded
    cases receipt.succeeded <;> simp
  refine ⟨⟨transaction, receipt, htransaction, htxhash, hreceipt, hsuccess, j, evmLog, hevmLog, hevidence, hj.symm, ?_⟩,
    hentries.header, hblockNumber, hblockHash,
    ⟨headers, last.1, hsigned.length_eq.symm.trans hdepth, hsigned, hchain, hgetLast, rfl, rfl⟩, ?_⟩
  · dsimp only
    rw [hevidence, ← hj]
    exact getElem?_flatMap hreceipt hevmLog
  · dsimp only
    rw [hlastNumber, hdepth, hblockNumber]

end

end

/-! ### A block with two transactions -/

/-- A hash that reads its whole input and signatures that all pass. -/
@[reducible] def polyCrypto : Crypto where
  keccak := polyHash
  length_keccak _ := length_toBigEndian _ _
  verify _ _ _ := true

/-- The header of a block with these transactions and encoded receipts. -/
def polyHeader (parent : Octets) (transactions receipts : List Octets) (number timestamp : UInt8) : Octets :=
  let root := fun values => RlpItem.bytes ((listTrie values).root polyHash)
  let none := RlpItem.bytes []
  rlpEncode (.list [.bytes parent, none, none, none, root transactions, root receipts, none, none, .bytes [number], none,
    none, .bytes [timestamp]])

def polyProof (transactions receipts : List Octets) (i : Nat) : ReceiptInclusionProof :=
  ⟨i, transactions.getD i [], @proofNodes polyCrypto (listTrie transactions) (indexPath i), receipts.getD i [],
    @proofNodes polyCrypto (listTrie receipts) (indexPath i)⟩

def polyBlock (headerRLP : Octets) (observedAt : Time) (receipts : List ReceiptInclusionProof) : AuthenticatedBlock :=
  ⟨headerRLP, observedAt, List.replicate 64 0, receipts⟩

def polyKey : Octets := List.replicate 32 0

def toyReceipt : EvmReceipt where
  kind := some 2
  kind_range := by simp
  succeeded := true
  cumulativeGasUsed := 21000
  bloom := List.replicate 256 0
  logs := [⟨List.replicate 20 1, [List.replicate 32 2], [3, 4]⟩, ⟨List.replicate 20 1, [List.replicate 32 2], [5]⟩]

def toyTime : Time := UNIX_EPOCH + 5000000000

def toyTransactions : List Octets := [[9], [8]]

def toyReceipts : List EvmReceipt := [toyReceipt, { toyReceipt with cumulativeGasUsed := 42000 }]

def toyHeader : Octets := polyHeader (List.replicate 32 0) toyTransactions (toyReceipts.map EvmReceipt.encode) 1 1

def toyEvidence : AuthenticatedBlock :=
  polyBlock toyHeader toyTime ([0, 1].map (polyProof toyTransactions (toyReceipts.map EvmReceipt.encode)))

def toyConfirmation : AuthenticatedHeader := ⟨polyHeader (polyHash toyHeader) [] [] 2 1, toyTime, List.replicate 64 0⟩

/-- The second log of the second transaction. -/
def toyExpected : ExpectedReceiptLog := ⟨hexText (List.replicate 20 1), [hexText (List.replicate 32 2)], [5], 3⟩

theorem toyEvidence_sound : ∃ evidence, @verifyAuthenticatedReceiptEvidence polyCrypto 1 toyExpected.address polyKey
      toyEvidence [toyConfirmation] 1 1 toyExpected = .ok evidence ∧
    evidence.transactionHash = @keccakText polyCrypto [8] ∧ evidence.finalityHeadNumber = 2 := by
  obtain ⟨evidence, h⟩ := exists_of_isOk (show (@verifyAuthenticatedReceiptEvidence polyCrypto 1 toyExpected.address
    polyKey toyEvidence [toyConfirmation] 1 1 toyExpected).isOk = true by decide +kernel)
  obtain ⟨header, hparsed, hheader⟩ := exists_of_toOption
    (f := fun header : EvmHeader => (header.number, header.transactionsRoot, header.receiptsRoot))
    (b := (1, hexText ((listTrie toyTransactions).root polyHash),
      hexText ((listTrie (toyReceipts.map EvmReceipt.encode)).root polyHash)))
    (show (@parseEVMHeader polyCrypto toyHeader).toOption.map _ = _ by decide +kernel)
  simp only [Prod.mk.injEq] at hheader
  obtain ⟨hone, htransactions, hreceipts⟩ := hheader
  have roots : @HeaderOf polyCrypto header toyTransactions toyReceipts :=
    @HeaderOf.mk polyCrypto _ _ _ htransactions hreceipts (by decide) (by decide) (by decide)
  have free : @BlockNoCollision polyCrypto toyEvidence toyTransactions toyReceipts := by
    have hnodes : ∀ proof ∈ toyEvidence.receipts,
        (∀ node ∈ proof.transactionProofNodes, ∀ u ∈ (listTrie toyTransactions).nodes,
          polyHash node = polyHash (rlpEncode (u.item polyHash)) → node = rlpEncode (u.item polyHash)) ∧
        ∀ node ∈ proof.receiptProofNodes, ∀ u ∈ (listTrie (toyReceipts.map EvmReceipt.encode)).nodes,
          polyHash node = polyHash (rlpEncode (u.item polyHash)) → node = rlpEncode (u.item polyHash) := by
      decide +kernel
    exact fun proof hproof => ⟨@noCollision_of_nodes polyCrypto _ _ (hnodes proof hproof).1,
      @noCollision_of_nodes polyCrypto _ _ (hnodes proof hproof).2⟩
  obtain ⟨⟨transaction, -, htransaction, hhash, -⟩, -, hnumber, -, -, hhead⟩ :=
    @receiptEvidence_sound polyCrypto _ _ _ _ _ _ _ _ _ _ _ _ h hparsed roots free
  refine ⟨evidence, h, ?_, hhead.trans (by rw [hnumber, hone])⟩
  rw [hhash, ← Option.some.inj htransaction]

end Unified.Indexer
