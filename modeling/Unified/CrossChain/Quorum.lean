import Unified.CrossChain.Signatures

/-! Agreement of the two recovery quorums: what the off-chain authorizer accepts, what the on-chain
    controller accepts, and what either acceptance proves. -/

namespace Unified.CrossChain

theorem hasBit_eq_testBit (bitmap index : Nat) : hasBit bitmap index = bitmap.testBit index := by
  rw [hasBit, Nat.one_shiftLeft, Nat.and_two_pow]
  cases bitmap.testBit index <;> simp

theorem hasBit_or (bitmap index i : Nat) :
    hasBit (bitmap ||| 1 <<< index) i = true ↔ hasBit bitmap i = true ∨ i = index := by
  simp only [hasBit_eq_testBit, Nat.testBit_or, Nat.one_shiftLeft, Nat.testBit_two_pow, Bool.or_eq_true,
    decide_eq_true_eq]
  exact or_congr_right eq_comm

theorem two_le_validSigners {bitmap : Nat} :
    2 ≤ validSigners bitmap ↔ ∃ i j, i < j ∧ j < 3 ∧ hasBit bitmap i = true ∧ hasBit bitmap j = true := by
  constructor
  · intro h
    simp only [validSigners, List.range_succ, List.range_zero, List.nil_append, List.cons_append,
      List.countP_cons, List.countP_nil] at h
    by_cases h0 : hasBit bitmap 0 = true
    · by_cases h1 : hasBit bitmap 1 = true
      · exact ⟨0, 1, by omega, by omega, h0, h1⟩
      · by_cases h2 : hasBit bitmap 2 = true
        · exact ⟨0, 2, by omega, by omega, h0, h2⟩
        · simp [h0, h1, h2] at h
    · by_cases h1 : hasBit bitmap 1 = true
      · by_cases h2 : hasBit bitmap 2 = true
        · exact ⟨1, 2, by omega, by omega, h1, h2⟩
        · simp [h0, h1, h2] at h
      · by_cases h2 : hasBit bitmap 2 = true <;> simp [h0, h1, h2] at h
  · rintro ⟨i, j, hij, hj, hi, hj'⟩
    simp only [validSigners, List.range_succ, List.range_zero, List.nil_append, List.cons_append,
      List.countP_cons, List.countP_nil]
    interval_cases j
    · omega
    · obtain rfl : i = 0 := by omega
      simp [hi, hj']
    · obtain rfl | rfl : i = 0 ∨ i = 1 := by omega
      · simp [hi, hj']
      · simp [hi, hj']

/-! ### The on-chain loop -/

section

variable {W : Type} [Evm W] {signers : RecoverySigners} {digest : W} {a b : Address} {i bitmap : Nat}
  {signatures : List Bytes}

def SignerAt (signers : RecoverySigners) (recovered : Address) (index : Nat) : Prop :=
  signers.addresses.findIdx? (· == recovered) = some index

theorem SignerAt.getElem? (h : SignerAt signers a i) : signers.addresses[i]? = some a := by
  obtain ⟨hi, ha, -⟩ := List.findIdx?_eq_some_iff_getElem.mp h
  rw [List.getElem?_eq_getElem hi, eq_of_beq ha]

theorem SignerAt.mem (h : SignerAt signers a i) : a ∈ signers.addresses :=
  List.mem_of_getElem? h.getElem?

theorem SignerAt.inj (ha : SignerAt signers a i) (hb : SignerAt signers b i) : a = b := by
  have h := ha.getElem?
  rw [hb.getElem?] at h
  exact (Option.some.inj h).symm

theorem exists_signerAt (h : a ∈ signers.addresses) : ∃ i < 3, SignerAt signers a i := by
  cases hidx : signers.addresses.findIdx? (· == a) with
  | none =>
    have := List.findIdx?_eq_none_iff.mp hidx a h
    simp at this
  | some i =>
    obtain ⟨hi, -⟩ := List.findIdx?_eq_some_iff_getElem.mp hidx
    exact ⟨i, signers.three ▸ hi, hidx⟩

theorem hasBit_markSigner (bitmap : Nat) (recovered : Address) (i : Nat) :
    hasBit (markSigner signers bitmap recovered) i = true ↔
      hasBit bitmap i = true ∨ SignerAt signers recovered i := by
  unfold markSigner SignerAt
  cases signers.addresses.findIdx? (· == recovered) with
  | none => simp
  | some =>
    rw [hasBit_or, Option.some.injEq, eq_comm (a := i)]

theorem hasBit_markSigners {result : Nat} (h : markSigners signers digest signatures bitmap = .ok result) (i : Nat) :
    hasBit result i = true ↔ hasBit bitmap i = true ∨
      ∃ sig ∈ signatures, ∃ a, recover digest sig = .ok a ∧ SignerAt signers a i := by
  induction signatures generalizing bitmap with
  | nil =>
    cases pure_eq_ok.mp h
    simp
  | cons sig _ ih =>
    obtain ⟨a, ha, hrest⟩ := bind_eq_ok.mp h
    rw [ih hrest, hasBit_markSigner, or_assoc]
    refine or_congr_right ?_
    constructor
    · rintro (hi | ⟨sig', hmem, b, hb, hi⟩)
      · exact ⟨sig, List.mem_cons_self, a, ha, hi⟩
      · exact ⟨sig', List.mem_cons_of_mem _ hmem, b, hb, hi⟩
    · rintro ⟨sig', hmem, b, hb, hi⟩
      rcases List.mem_cons.mp hmem with rfl | hmem
      · cases ha.symm.trans hb
        exact .inl hi
      · exact .inr ⟨sig', hmem, b, hb, hi⟩

/-- The loop ends exactly when every signature is recoverable. -/
theorem markSigners_isOk (signers : RecoverySigners) (digest : W) (signatures : List Bytes) (bitmap : Nat) :
    (∃ result, markSigners signers digest signatures bitmap = .ok result) ↔
      ∀ sig ∈ signatures, ∃ a, recover digest sig = .ok a := by
  induction signatures generalizing bitmap with
  | nil => simp [markSigners, pure_eq_ok]
  | cons _ _ ih =>
    simp only [markSigners, bind_eq_ok, List.forall_mem_cons]
    constructor
    · rintro ⟨result, a, ha, hrest⟩
      exact ⟨⟨a, ha⟩, (ih _).mp ⟨result, hrest⟩⟩
    · rintro ⟨⟨a, ha⟩, hall⟩
      obtain ⟨result, hrest⟩ := (ih (markSigner signers bitmap a)).mpr hall
      exact ⟨result, a, ha, hrest⟩

/-- An accepted on-chain authorization carries a quorum. -/
theorem quorum_of_authorizationBitmap (h : authorizationBitmap signers digest signatures = .ok bitmap) :
    Quorum signers.addresses digest signatures := by
  simp only [authorizationBitmap, block_eq_ok] at h
  obtain ⟨-, result, hmark, hvalid, -⟩ := h
  obtain ⟨i, j, hij, -, hi, hj⟩ := two_le_validSigners.mp hvalid
  have start : ∀ k, ¬ hasBit 0 k = true := by simp [hasBit]
  obtain ⟨sig, hsig, a, ha, hai⟩ := ((hasBit_markSigners hmark i).mp hi).resolve_left (start i)
  obtain ⟨sig', hsig', b, hb, hbj⟩ := ((hasBit_markSigners hmark j).mp hj).resolve_left (start j)
  refine ⟨a, hai.mem, b, hbj.mem, ?_, ⟨sig, hsig, signedBy_of_recover ha⟩, sig', hsig', signedBy_of_recover hb⟩
  rintro rfl
  have := Option.some.inj (hai.symm.trans hbj)
  omega

/-- Two or three recoverable signatures, two of them by distinct configured signers, are accepted. -/
theorem authorizationBitmap_isOk (hmin : 2 ≤ signatures.length) (hmax : signatures.length ≤ 3)
    (hall : ∀ sig ∈ signatures, ∃ a, recover digest sig = .ok a) (hab : a ≠ b) (ha : a ∈ signers.addresses)
    (hb : b ∈ signers.addresses) (sa : ∃ sig ∈ signatures, recover digest sig = .ok a)
    (sb : ∃ sig ∈ signatures, recover digest sig = .ok b) :
    ∃ bitmap, authorizationBitmap signers digest signatures = .ok bitmap := by
  obtain ⟨result, hmark⟩ := (markSigners_isOk signers digest signatures 0).mpr hall
  have marked : ∀ {c : Address} {k : Nat}, (∃ sig ∈ signatures, recover digest sig = .ok c) →
      SignerAt signers c k → hasBit result k = true := by
    rintro c k ⟨sig, hsig, hc⟩ hk
    exact (hasBit_markSigners hmark k).mpr (.inr ⟨sig, hsig, c, hc, hk⟩)
  obtain ⟨i, hi, hai⟩ := exists_signerAt ha
  obtain ⟨j, hj, hbj⟩ := exists_signerAt hb
  have hne : i ≠ j := by
    rintro rfl
    exact hab (hai.inj hbj)
  have hvalid : 2 ≤ validSigners result := by
    rw [two_le_validSigners]
    rcases Nat.lt_or_gt_of_ne hne with hlt | hlt
    · exact ⟨i, j, hlt, hj, marked sa hai, marked sb hbj⟩
    · exact ⟨j, i, hlt, hi, marked sb hbj, marked sa hai⟩
  refine ⟨result, ?_⟩
  simp only [authorizationBitmap, block_eq_ok]
  exact ⟨⟨hmin, hmax⟩, result, hmark, hvalid, rfl⟩

end

/-! ### The off-chain loop -/

section

variable {W : Type} [Evm W] {policy : Secp256k1Policy} {digest : W} {a : Address} {approvals : List Approval}
  {approval : Approval}

theorem mem_of_lookup {signers : List (String × Address)} {id : String} (h : signers.lookup id = some a) :
    (id, a) ∈ signers := by
  induction signers with
  | nil => cases h
  | cons _ _ ih =>
    rw [List.lookup_cons] at h
    split at h
    next hid =>
      rw [eq_of_beq hid, ← Option.some.inj h]
      exact List.mem_cons_self
    next => exact List.mem_cons_of_mem _ (ih h)

/-- What one accepted approval says: a policy signer produced it. -/
def Approves (policy : Secp256k1Policy) (digest : W) (approval : Approval) (a : Address) : Prop :=
  (approval.signerId, a) ∈ policy.signers ∧ verifyEthereumSignature digest approval.signature = some a

/-- The loop accepts a list only if every approval is by its named signer, no signer is named twice
    (nor was seen before), and it counts every approval. -/
theorem approvalLoop_eq_some {seen : List String} {valid result : Nat}
    (h : approvalLoop policy digest seen valid approvals = some result) :
    (∀ approval ∈ approvals, ∃ a, Approves policy digest approval a) ∧
      (approvals.map Approval.signerId).Nodup ∧ (∀ approval ∈ approvals, approval.signerId ∉ seen) ∧
      result = valid + approvals.length := by
  induction approvals generalizing seen valid with
  | nil =>
    cases h
    simp
  | cons approval rest ih =>
    unfold approvalLoop at h
    split at h
    · cases h
    next expected hlookup =>
      split at h
      · cases h
      next hseen =>
        split at h
        · cases h
        next hsig =>
          obtain ⟨hall, hnodup, hfresh, hcount⟩ := ih h
          have happroves : Approves policy digest approval expected :=
            ⟨mem_of_lookup hlookup, not_not.mp hsig⟩
          have hnew : approval.signerId ∉ rest.map Approval.signerId := by
            intro hmem
            obtain ⟨other, hother, heq⟩ := List.mem_map.mp hmem
            exact hfresh other hother (heq ▸ List.mem_cons_self)
          refine ⟨List.forall_mem_cons.mpr ⟨⟨expected, happroves⟩, hall⟩, ?_, ?_, ?_⟩
          · rw [List.map_cons]
            exact List.nodup_cons.mpr ⟨hnew, hnodup⟩
          · exact List.forall_mem_cons.mpr
              ⟨hseen, fun other hother hmem => hfresh other hother (List.mem_cons_of_mem _ hmem)⟩
          · rw [hcount, List.length_cons]
            omega

/-- Two approvals by distinct signer ids are by distinct addresses. -/
theorem Approves.address_ne {other : Approval} {b : Address} (ha : Approves policy digest approval a)
    (hb : Approves policy digest other b) (hne : approval.signerId ≠ other.signerId) : a ≠ b := by
  rintro rfl
  have := List.inj_on_of_nodup_map policy.distinctAddresses ha.1 hb.1 rfl
  exact hne (congrArg Prod.fst this)

theorem Approves.mem (ha : Approves policy digest approval a) : a ∈ policy.signers.map Prod.snd :=
  List.mem_map.mpr ⟨_, ha.1, rfl⟩

theorem Approves.ne_zero (ha : Approves policy digest approval a) : a ≠ 0 := by
  rintro rfl
  exact policy.nonzero ha.mem

/-- An accepted approval list: two or three approvals, each by its own named signer, among them two by
    distinct addresses. -/
theorem verifyApprovals_eq_true (h : verifyApprovals policy digest approvals = true) :
    2 ≤ approvals.length ∧ approvals.length ≤ 3 ∧
      (∀ approval ∈ approvals, ∃ a, Approves policy digest approval a) ∧
      ∃ first ∈ approvals, ∃ second ∈ approvals, ∃ a b, a ≠ b ∧ Approves policy digest first a ∧
        Approves policy digest second b := by
  unfold verifyApprovals at h
  rw [Bool.and_eq_true, decide_eq_true_eq] at h
  obtain ⟨hmin, hloop⟩ := h
  split at hloop
  next valid hvalid =>
    obtain ⟨hall, hnodup, -, -⟩ := approvalLoop_eq_some hvalid
    have hsubset : approvals.map Approval.signerId ⊆ policy.signers.map Prod.fst := by
      intro id hid
      obtain ⟨approval, hmem, rfl⟩ := List.mem_map.mp hid
      obtain ⟨a, ha⟩ := hall approval hmem
      exact List.mem_map.mpr ⟨_, ha.1, rfl⟩
    have hmax : approvals.length ≤ 3 := by
      have := (hnodup.subperm hsubset).length_le
      rwa [List.length_map, List.length_map, policy.three] at this
    refine ⟨hmin, hmax, hall, ?_⟩
    -- the first two approvals name different signers
    obtain ⟨first, second, rest, rfl⟩ : ∃ first second rest, approvals = first :: second :: rest := by
      rcases approvals with _ | ⟨first, _ | ⟨second, rest⟩⟩
      · simp at hmin
      · simp at hmin
      · exact ⟨first, second, rest, rfl⟩
    have hne : first.signerId ≠ second.signerId := by
      simp only [List.map_cons, List.nodup_cons, List.mem_cons, not_or] at hnodup
      exact hnodup.1.1
    have hfirst : first ∈ first :: second :: rest := List.mem_cons_self
    have hsecond : second ∈ first :: second :: rest := List.mem_cons_of_mem _ List.mem_cons_self
    obtain ⟨a, ha⟩ := hall first hfirst
    obtain ⟨b, hb⟩ := hall second hsecond
    exact ⟨first, hfirst, second, hsecond, a, b, ha.address_ne hb hne, ha, hb⟩
  · cases hloop

theorem quorum_of_verifyApprovals (h : verifyApprovals policy digest approvals = true) :
    Quorum (policy.signers.map Prod.snd) digest (approvals.map Approval.signature) := by
  obtain ⟨-, -, -, first, hfirst, second, hsecond, a, b, hne, ha, hb⟩ := verifyApprovals_eq_true h
  exact ⟨a, ha.mem, b, hb.mem, hne,
    ⟨_, List.mem_map_of_mem hfirst, signedBy_of_verifyEthereumSignature ha.2⟩,
    _, List.mem_map_of_mem hsecond, signedBy_of_verifyEthereumSignature hb.2⟩

/-- A list the off-chain authorizer accepts is accepted on chain, for the same signers, exactly when
    every final byte is 27 or 28; and whatever either side accepts carries a quorum. -/
theorem recovery_quorum_agreement (policy : Secp256k1Policy) (signers : RecoverySigners)
    (same : ∀ a, a ∈ signers.addresses ↔ a ∈ policy.signers.map Prod.snd) (digest : W) :
    (∀ approvals, verifyApprovals policy digest approvals = true →
      ((∃ bitmap, authorizationBitmap signers digest (approvals.map Approval.signature) = .ok bitmap) ↔
        ∀ approval ∈ approvals, EthereumV approval.signature)) ∧
    (∀ approvals, verifyApprovals policy digest approvals = true →
      Quorum signers.addresses digest (approvals.map Approval.signature)) ∧
    ∀ signatures bitmap, authorizationBitmap signers digest signatures = .ok bitmap →
      Quorum signers.addresses digest signatures := by
  refine ⟨fun approvals h => ⟨?_, fun hv => ?_⟩, fun approvals h => ?_, fun signatures bitmap h =>
    quorum_of_authorizationBitmap h⟩
  · rintro ⟨bitmap, hok⟩ approval hmem
    simp only [authorizationBitmap, block_eq_ok] at hok
    obtain ⟨-, result, hmark, -, -⟩ := hok
    obtain ⟨a, ha⟩ := (markSigners_isOk signers digest _ 0).mp ⟨result, hmark⟩ _ (List.mem_map_of_mem hmem)
    exact (recover_eq_ok.mp ha).2.2.1
  · obtain ⟨hmin, hmax, hall, first, hfirst, second, hsecond, a, b, hne, ha, hb⟩ := verifyApprovals_eq_true h
    have onChain : ∀ {approval : Approval} {c : Address}, approval ∈ approvals →
        Approves policy digest approval c → recover digest approval.signature = .ok c :=
      fun hmem hc => recover_of_verifyEthereumSignature hc.2 hc.ne_zero (hv _ hmem)
    refine authorizationBitmap_isOk (by rwa [List.length_map]) (by rwa [List.length_map]) ?_ hne
      ((same a).mpr ha.mem) ((same b).mpr hb.mem) ⟨_, List.mem_map_of_mem hfirst, onChain hfirst ha⟩
      ⟨_, List.mem_map_of_mem hsecond, onChain hsecond hb⟩
    intro sig hsig
    obtain ⟨approval, hmem, rfl⟩ := List.mem_map.mp hsig
    obtain ⟨c, hc⟩ := hall approval hmem
    exact ⟨c, onChain hmem hc⟩
  · obtain ⟨a, ha, b, hb, hne, sa, sb⟩ := quorum_of_verifyApprovals h
    exact ⟨a, (same a).mpr ha, b, (same b).mpr hb, hne, sa, sb⟩

end

def tinySignature (r v : UInt8) : Bytes := List.replicate 31 0 ++ r :: List.replicate 31 0 ++ [1, v]

def threeSigners : RecoverySigners := ⟨[1, 2, 3], rfl, by decide, by decide⟩

def threeSignerPolicy : Secp256k1Policy :=
  ⟨[("alpha", 1), ("beta", 2), ("gamma", 3)], rfl, by decide, by decide, by decide⟩

def tinyApprovals (v : UInt8) : List Approval :=
  [⟨"alpha", tinySignature 1 v⟩, ⟨"beta", tinySignature 2 v⟩]

theorem threeSigners_same (a : Address) :
    a ∈ threeSigners.addresses ↔ a ∈ threeSignerPolicy.signers.map Prod.snd := Iff.rfl

/-- With final bytes 27 both sides accept. -/
theorem recovery_quorum_agreement_threeSigners :
    ∃ bitmap, authorizationBitmap threeSigners (0 : Term) ((tinyApprovals 27).map Approval.signature) = .ok bitmap :=
  ((recovery_quorum_agreement threeSignerPolicy threeSigners threeSigners_same (0 : Term)).1 (tinyApprovals 27)
    (by decide +kernel)).mpr (by unfold EthereumV; decide +kernel)

/-- With final bytes 0, which the off-chain check reads as the first parity, only the off-chain
    authorizer accepts. -/
theorem recovery_quorum_parity_bytes :
    (∀ a, a ∈ threeSigners.addresses ↔ a ∈ threeSignerPolicy.signers.map Prod.snd) ∧
      verifyApprovals threeSignerPolicy (0 : Term) (tinyApprovals 0) = true ∧
      ¬ ∃ bitmap, authorizationBitmap threeSigners (0 : Term) ((tinyApprovals 0).map Approval.signature) = .ok bitmap := by
  refine ⟨threeSigners_same, by decide +kernel, ?_⟩
  rintro ⟨bitmap, hok⟩
  have hrejected : authorizationBitmap threeSigners (0 : Term) ((tinyApprovals 0).map Approval.signature) =
      .error .invalidSignature := by decide +kernel
  rw [hrejected] at hok
  cases hok

end Unified.CrossChain
