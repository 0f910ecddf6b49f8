import Unified.CrossChain.MessageCodec
import Mathlib.Tactic.NormNum

/-! One message identity: the four programs hash the same bytes, and the bytes determine the fields. -/

namespace Unified.CrossChain.Wire

open Coordination

theorem Coordination.uint64Word_eq (n : UInt64) : uint64Word n = uintWord n.toNat := by
  have hn : n.toNat < 256 ^ 8 := n.toNat_lt
  exact (toBigEndian_pad hn 24).symm

/-- Thirty-two bytes are the word of the number they spell. -/
theorem bytes32_eq {b : Octets} (h : b.length = 32) : uintWord (BitVec.ofNat 256 (ofBigEndian b)).toNat = b := by
  have hlt : ofBigEndian b < 2 ^ 256 := by
    have := ofBigEndian_lt b
    rw [h] at this
    norm_num at this ⊢
    exact this
  rw [BitVec.toNat_ofNat, Nat.mod_eq_of_lt hlt, uintWord, show WORD_BYTES = b.length from h.symm,
    toBigEndian_ofBigEndian]

theorem Typescript.fillWord_eq (index remaining : Nat) (filled : Octets) :
    Typescript.fillWord index remaining filled = toBigEndian index remaining ++ filled := by
  induction index generalizing remaining filled with
  | zero => rfl
  | succ _ ih =>
    have hbyte : UInt8.ofNat (remaining % 256) = UInt8.ofNat remaining := by
      rw [← UInt8.toNat_inj, UInt8.toNat_ofNat', UInt8.toNat_ofNat']
      omega
    rw [Typescript.fillWord, ih, toBigEndian, List.append_assoc, hbyte]
    rfl

theorem Typescript.uintWord_eq {n : Nat} (hn : n < 2 ^ 256) : Typescript.uintWord n = .ok (Unified.uintWord n) := by
  rw [Typescript.uintWord, require_bind_eq_ok]
  refine ⟨⟨by omega, by exact_mod_cast hn⟩, ?_⟩
  rw [Typescript.fillWord_eq, List.append_nil]
  rfl

theorem Python.uintWord_eq {n : Nat} (hn : n < 2 ^ 256) : Python.uintWord n = .ok (Unified.uintWord n) := by
  rw [Python.uintWord, require_bind_eq_ok]
  exact ⟨⟨by omega, by exact_mod_cast hn⟩, rfl⟩

theorem Coordination.uint256_eq_ok {value name : String} {w : Octets} (h : uint256 value name = .ok w) :
    ∃ n : Nat, 0 < n ∧ n < 2 ^ 256 ∧ value = Nat.repr n ∧ w = uintWord n := by
  simp only [uint256, bind_eq_ok, orRevert_eq_ok, require_eq_ok, pure_eq_ok] at h
  obtain ⟨number, -, -, ⟨pos, lt, rfl⟩, rfl⟩ := h
  obtain ⟨n, rfl⟩ := Int.eq_ofNat_of_zero_le pos.le
  exact ⟨n, by exact_mod_cast pos, by exact_mod_cast lt, rfl, rfl⟩

theorem dropWhile_of_forall {α : Type} {p : α → Bool} {l : List α} (h : ∀ x ∈ l, p x = false) : l.dropWhile p = l := by
  cases l with
  | nil => rfl
  | cons x => rw [List.dropWhile_cons_of_neg (by simp [h x List.mem_cons_self])]

/-- A canonical decimal is read as its number. -/
theorem Typescript.bigInt_repr (n : Nat) : Typescript.bigInt (Nat.repr n) = .ok (n : Int) := by
  have hspace : ∀ c ∈ Nat.toDigits 10 n, Typescript.isStrWhiteSpace c = false := by
    intro c hc
    obtain ⟨d, hd, rfl⟩ := mem_toDigits hc
    have : ∀ d < 10, Typescript.isStrWhiteSpace (Nat.digitChar d) = false := by decide
    exact this d hd
  have hspace' : ∀ c ∈ (Nat.toDigits 10 n).reverse, Typescript.isStrWhiteSpace c = false := fun c hc =>
    hspace c (List.mem_reverse.mp hc)
  have hread := parseRadix_toDigits n
  have hne : Nat.toDigits 10 n ≠ [] := Nat.toDigits_ne_nil
  simp only [Typescript.bigInt, Nat.toList_repr, dropWhile_of_forall hspace, dropWhile_of_forall hspace',
    List.reverse_reverse]
  -- a prefix or a sign would put one of its letters among the digits
  have letters : ∀ c ∈ ['x', 'X', 'o', 'O', 'b', 'B', '-', '+'], c ∉ Nat.toDigits 10 n := by
    intro c hc
    simp only [List.mem_cons, List.not_mem_nil, or_false] at hc
    rcases hc with rfl | rfl | rfl | rfl | rfl | rfl | rfl | rfl <;> exact notMem_toDigits rfl
  split
  case h_1 heq => exact absurd heq hne
  case h_10 => rw [hread]; rfl
  all_goals
    rename_i heq
    simp [heq] at letters

/-! ### One envelope in several shapes -/

structure WellTyped (e : MessageEnvelope (BitVec 256)) : Prop where
  schemaVersion : e.schemaVersion < 2 ^ 32
  sourceChainId : e.sourceChainId < 2 ^ 256
  sourceCoordinator : e.sourceCoordinator < 2 ^ 160
  sourceComponent : e.sourceComponent < 2 ^ 160
  destinationChainId : e.destinationChainId < 2 ^ 256
  destinationCoordinator : e.destinationCoordinator < 2 ^ 160
  destinationComponent : e.destinationComponent < 2 ^ 160
  sourceNonce : e.sourceNonce < 2 ^ 64
  createdAt : e.createdAt < 2 ^ 64
  expiresAt : e.expiresAt < 2 ^ 64

def AtSeconds (t : Option Timestamp) (n : Nat) : Prop := ∃ s : Int64, t = some ⟨s, 0⟩ ∧ s.toInt = n

/-- The protobuf envelope and the contracts' struct hold the same values. -/
structure Represents (p : ProtoEnvelope) (e : MessageEnvelope (BitVec 256)) : Prop where
  schemaVersion : p.schemaVersion.toNat = e.schemaVersion
  messageId : p.messageId = uintWord e.messageId.toNat
  protocolId : p.protocolId = uintWord e.protocolId.toNat
  sourceChainId : p.sourceChainId = Nat.repr e.sourceChainId
  sourceCoordinator : p.sourceCoordinator = toBigEndian 20 e.sourceCoordinator
  sourceComponent : p.sourceComponent = toBigEndian 20 e.sourceComponent
  destinationChainId : p.destinationChainId = Nat.repr e.destinationChainId
  destinationCoordinator : p.destinationCoordinator = toBigEndian 20 e.destinationCoordinator
  destinationComponent : p.destinationComponent = toBigEndian 20 e.destinationComponent
  laneId : p.laneId = uintWord e.laneId.toNat
  sourceNonce : p.sourceNonce.toNat = e.sourceNonce
  aggregateId : p.aggregateId = uintWord e.aggregateId.toNat
  actionType : p.actionType.toInt = e.actionType.ordinal
  payloadHash : p.payloadHash = uintWord e.payloadHash.toNat
  createdAt : AtSeconds p.createdAt e.createdAt
  expiresAt : AtSeconds p.expiresAt e.expiresAt
  routePolicyHash : p.routePolicyHash = uintWord e.routePolicyHash.toNat
  adapterSetPolicyHash : p.adapterSetPolicyHash = uintWord e.adapterSetPolicyHash.toNat
  sourceFinalityPolicyHash : p.sourceFinalityPolicyHash = uintWord e.sourceFinalityPolicyHash.toNat
  destinationFinalityPolicyHash : p.destinationFinalityPolicyHash = uintWord e.destinationFinalityPolicyHash.toNat
  correlationId : p.correlationId = uintWord e.correlationId.toNat
  causationMessageId : p.causationMessageId = uintWord e.causationMessageId.toNat
  supersededMessageId : p.supersededMessageId = uintWord e.supersededMessageId.toNat

def digestInput (e : MessageEnvelope (BitVec 256)) : Python.MessageDigestInput where
  schemaVersion := e.schemaVersion
  protocolId := uintWord e.protocolId.toNat
  sourceChainId := e.sourceChainId
  sourceCoordinator := toBigEndian 20 e.sourceCoordinator
  sourceComponent := toBigEndian 20 e.sourceComponent
  destinationChainId := e.destinationChainId
  destinationCoordinator := toBigEndian 20 e.destinationCoordinator
  destinationComponent := toBigEndian 20 e.destinationComponent
  laneId := uintWord e.laneId.toNat
  sourceNonce := e.sourceNonce
  aggregateId := uintWord e.aggregateId.toNat
  actionType := e.actionType.ordinal
  payloadHash := uintWord e.payloadHash.toNat
  createdAtSeconds := e.createdAt
  expiresAtSeconds := e.expiresAt
  routePolicyHash := uintWord e.routePolicyHash.toNat
  adapterSetPolicyHash := uintWord e.adapterSetPolicyHash.toNat
  sourceFinalityPolicyHash := uintWord e.sourceFinalityPolicyHash.toNat
  destinationFinalityPolicyHash := uintWord e.destinationFinalityPolicyHash.toNat
  correlationId := uintWord e.correlationId.toNat
  causationMessageId := uintWord e.causationMessageId.toNat
  supersededMessageId := uintWord e.supersededMessageId.toNat

/-- `abi.encode` of the domain and the 22 fields. -/
def canonicalPreimage (e : MessageEnvelope (BitVec 256)) : Octets := abiEncodeTagged MESSAGE_DOMAIN (messageFields e)

variable {p p' : ProtoEnvelope} {e e' : MessageEnvelope (BitVec 256)} {keccak : Octets → Octets}

theorem ordinal_lt (a : CrossChainActionType) : a.ordinal < 2 ^ 64 := by cases a <;> decide

theorem address_word {a : Nat} (h : a < 2 ^ 160) : List.replicate 12 0 ++ toBigEndian 20 a = uintWord a := by
  have hlt : a < 256 ^ 20 := by
    norm_num at h ⊢
    exact h
  exact (toBigEndian_pad hlt 12).symm

theorem Solidity.messagePreimage_eq (e : MessageEnvelope (BitVec 256)) :
    Solidity.messagePreimage e = canonicalPreimage e := by
  have htail : uintWord 25 ++ uintWord Solidity.MESSAGE_DOMAIN_WORD.toNat = dynamicTail MESSAGE_DOMAIN.toUTF8.toList := by
    decide +kernel
  have hword : Datum.word (.uint 25) ++ Datum.word (.bytes32 Solidity.MESSAGE_DOMAIN_WORD) =
    dynamicTail MESSAGE_DOMAIN.toUTF8.toList := htail
  simp only [Solidity.messagePreimage, canonicalPreimage, abiEncodeStatic_eq, abiEncodeTagged_eq, ← hword, messageFields,
    List.map_cons, List.map_nil, List.flatten_cons, List.flatten_nil, List.append_nil, List.append_assoc]
  rfl

/-! ### The digest codecs -/

/-- Parts that all succeed succeed together. -/
theorem mapM_id_ok {ε α : Type} {xs : List (Except ε α)} {ys : List α} (h : List.Forall₂ (fun x y => x = .ok y) xs ys) :
    xs.mapM id = .ok ys := by
  induction h with
  | nil => rfl
  | cons hx _ ih => rw [List.mapM_cons, ih, hx]; rfl

theorem mapM_zipIdx_ok {ε α : Type} {f : α × Nat → Except ε α} {xs : List α} (h : ∀ x ∈ xs, ∀ i, f (x, i) = .ok x) (n : Nat) :
    (xs.zipIdx n).mapM f = .ok xs := by
  induction xs generalizing n with
  | nil => rfl
  | cons x _ ih =>
    rw [List.zipIdx_cons, List.mapM_cons, h x List.mem_cons_self, ih fun y hy => h y (List.mem_cons_of_mem _ hy)]
    rfl

/-- The words of the fields, in order. -/
theorem words_length (e : MessageEnvelope (BitVec 256)) : ∀ w ∈ (messageFields e).map Datum.word, w.length = 32 := by
  intro w hw
  obtain ⟨d, -, rfl⟩ := List.mem_map.mp hw
  exact d.length_word

theorem canonicalPreimage_eq (e : MessageEnvelope (BitVec 256)) :
    canonicalPreimage e = uintWord ((((messageFields e).map Datum.word).length + 1) * 32) ++
      ((messageFields e).map Datum.word).flatten ++ dynamicTail MESSAGE_DOMAIN.toUTF8.toList := by
  rw [canonicalPreimage, abiEncodeTagged_eq, List.length_map]
  rfl

theorem offset_lt (e : MessageEnvelope (BitVec 256)) :
    (((messageFields e).map Datum.word).length + 1) * 32 < 2 ^ 256 := by
  change 23 * 32 < 2 ^ 256
  norm_num

/-- A codec that takes numbers, byte strings and addresses to their words takes the fields to theirs. -/
theorem fieldWords_ok {ε : Type} {uint : Int → Except ε Octets} {bytes : Octets → Nat → String → Except ε Octets}
    {address : Octets → String → Except ε Octets} (huint : ∀ n : Nat, n < 2 ^ 256 → uint n = .ok (uintWord n))
    (hbytes : ∀ (w : BitVec 256) (field : String), bytes (uintWord w.toNat) 32 field = .ok (uintWord w.toNat))
    (haddress : ∀ (a : Nat) (field : String), a < 2 ^ 160 → address (toBigEndian 20 a) field = .ok (uintWord a))
    (h : WellTyped e) :
    [uint e.schemaVersion, bytes (uintWord e.protocolId.toNat) 32 "protocol_id", uint e.sourceChainId,
      address (toBigEndian 20 e.sourceCoordinator) "source_coordinator",
      address (toBigEndian 20 e.sourceComponent) "source_component", uint e.destinationChainId,
      address (toBigEndian 20 e.destinationCoordinator) "destination_coordinator",
      address (toBigEndian 20 e.destinationComponent) "destination_component",
      bytes (uintWord e.laneId.toNat) 32 "lane_id", uint e.sourceNonce,
      bytes (uintWord e.aggregateId.toNat) 32 "aggregate_id", uint e.actionType.ordinal,
      bytes (uintWord e.payloadHash.toNat) 32 "payload_hash", uint e.createdAt, uint e.expiresAt,
      bytes (uintWord e.routePolicyHash.toNat) 32 "route_policy_hash",
      bytes (uintWord e.adapterSetPolicyHash.toNat) 32 "adapter_set_policy_hash",
      bytes (uintWord e.sourceFinalityPolicyHash.toNat) 32 "source_finality_policy_hash",
      bytes (uintWord e.destinationFinalityPolicyHash.toNat) 32 "destination_finality_policy_hash",
      bytes (uintWord e.correlationId.toNat) 32 "correlation_id",
      bytes (uintWord e.causationMessageId.toNat) 32 "causation_message_id",
      bytes (uintWord e.supersededMessageId.toNat) 32 "superseded_message_id"].mapM id =
    .ok ((messageFields e).map Datum.word) := by
  apply mapM_id_ok
  have hnonce := huint e.sourceNonce (h.sourceNonce.trans (by decide))
  have haction := huint e.actionType.ordinal ((ordinal_lt e.actionType).trans (by decide))
  exact .cons (huint _ (h.schemaVersion.trans (by decide))) <| .cons (hbytes _ _) <|
    .cons (huint _ h.sourceChainId) <| .cons (haddress _ _ h.sourceCoordinator) <|
    .cons (haddress _ _ h.sourceComponent) <| .cons (huint _ h.destinationChainId) <|
    .cons (haddress _ _ h.destinationCoordinator) <| .cons (haddress _ _ h.destinationComponent) <|
    .cons (hbytes _ _) <| .cons hnonce <| .cons (hbytes _ _) <| .cons haction <| .cons (hbytes _ _) <|
    .cons (huint _ (h.createdAt.trans (by decide))) <| .cons (huint _ (h.expiresAt.trans (by decide))) <|
    .cons (hbytes _ _) <| .cons (hbytes _ _) <| .cons (hbytes _ _) <| .cons (hbytes _ _) <| .cons (hbytes _ _) <|
    .cons (hbytes _ _) <| .cons (hbytes _ _) .nil

namespace Python

theorem exactBytes_ok {b : Octets} {n : Nat} (h : b.length = n) (field : String) : exactBytes b n field = .ok b :=
  require_bind_eq_ok.mpr ⟨h, rfl⟩

theorem addressWord_ok {a : Nat} (h : a < 2 ^ 160) (field : String) :
    addressWord (toBigEndian 20 a) field = .ok (Unified.uintWord a) := by
  rw [addressWord, exactBytes_ok (length_toBigEndian 20 a), ← address_word h]
  rfl

theorem abiEncodeDynamicDomain_ok (e : MessageEnvelope (BitVec 256)) :
    abiEncodeDynamicDomain MESSAGE_DOMAIN ((messageFields e).map Datum.word) = .ok (canonicalPreimage e) := by
  simp only [abiEncodeDynamicDomain, bind_eq_ok, pure_eq_ok]
  exact ⟨_, mapM_zipIdx_ok (fun w hw i => exactBytes_ok (words_length e w hw) _) 0, _, uintWord_eq (offset_lt e), _,
    (by decide +kernel : dynamicStringTail MESSAGE_DOMAIN = .ok (dynamicTail MESSAGE_DOMAIN.toUTF8.toList)),
    (canonicalPreimage_eq e).symm⟩

theorem messagePreimage_digestInput (h : WellTyped e) : messagePreimage (digestInput e) = .ok (canonicalPreimage e) := by
  simp only [messagePreimage, bind_eq_ok]
  exact ⟨_, fieldWords_ok (fun _ hn => uintWord_eq hn) (fun w field => exactBytes_ok (length_uintWord w.toNat) field)
    (fun _ field ha => addressWord_ok ha field) h, abiEncodeDynamicDomain_ok e⟩

end Python

namespace Typescript

theorem exactBytes_ok {b : Octets} {n : Nat} (h : b.length = n) (field : String) : exactBytes b n field = .ok b :=
  require_bind_eq_ok.mpr ⟨h, rfl⟩

theorem addressWord_ok {a : Nat} (h : a < 2 ^ 160) (field : String) :
    addressWord (toBigEndian 20 a) field = .ok (Unified.uintWord a) := by
  rw [addressWord, exactBytes_ok (length_toBigEndian 20 a), ← address_word h]
  rfl

theorem abiEncodeDynamicDomain_ok (e : MessageEnvelope (BitVec 256)) :
    abiEncodeDynamicDomain MESSAGE_DOMAIN ((messageFields e).map Datum.word) = .ok (canonicalPreimage e) := by
  simp only [abiEncodeDynamicDomain, bind_eq_ok, pure_eq_ok]
  exact ⟨_, uintWord_eq (offset_lt e), _, mapM_zipIdx_ok (fun w hw i => exactBytes_ok (words_length e w hw) _) 0, _,
    (by decide +kernel : dynamicStringTail MESSAGE_DOMAIN = .ok (dynamicTail MESSAGE_DOMAIN.toUTF8.toList)),
    (canonicalPreimage_eq e).symm⟩

theorem messagePreimage_ok (hr : Represents p e) (h : WellTyped e) : messagePreimage p = .ok (canonicalPreimage e) := by
  obtain ⟨created, hcreated, hc⟩ := hr.createdAt
  obtain ⟨expires, hexpires, hx⟩ := hr.expiresAt
  simp only [messagePreimage, hcreated, hexpires, bind_eq_ok, orRevert_eq_ok]
  refine ⟨_, rfl, _, rfl, e.sourceChainId, hr.sourceChainId ▸ bigInt_repr _, e.destinationChainId,
    hr.destinationChainId ▸ bigInt_repr _, _, ?_, abiEncodeDynamicDomain_ok e⟩
  rw [hr.schemaVersion, hr.protocolId, hr.sourceCoordinator, hr.sourceComponent, hr.destinationCoordinator,
    hr.destinationComponent, hr.laneId, hr.sourceNonce, hr.aggregateId, hr.actionType, hr.payloadHash, hc, hx,
    hr.routePolicyHash, hr.adapterSetPolicyHash, hr.sourceFinalityPolicyHash, hr.destinationFinalityPolicyHash,
    hr.correlationId, hr.causationMessageId, hr.supersededMessageId]
  exact fieldWords_ok (fun _ hn => uintWord_eq hn) (fun w field => exactBytes_ok (length_uintWord w.toNat) field)
    (fun _ field ha => addressWord_ok ha field) h

end Typescript

/-! ### The coordinator service -/

namespace Coordination

structure Accepted (keccak : Octets → Octets) (p : ProtoEnvelope) : Prop where
  messageId : p.messageId.length = 32
  protocolId : p.protocolId.length = 32
  laneId : p.laneId.length = 32
  aggregateId : p.aggregateId.length = 32
  payloadHash : p.payloadHash.length = 32
  routePolicyHash : p.routePolicyHash.length = 32
  adapterSetPolicyHash : p.adapterSetPolicyHash.length = 32
  sourceFinalityPolicyHash : p.sourceFinalityPolicyHash.length = 32
  destinationFinalityPolicyHash : p.destinationFinalityPolicyHash.length = 32
  correlationId : p.correlationId.length = 32
  causationMessageId : p.causationMessageId.length = 32
  supersededMessageId : p.supersededMessageId.length = 32
  sourceCoordinator : p.sourceCoordinator.length = 20
  sourceComponent : p.sourceComponent.length = 20
  destinationCoordinator : p.destinationCoordinator.length = 20
  destinationComponent : p.destinationComponent.length = 20
  sourceChainId : ∃ w, uint256 p.sourceChainId "source_chain_id" = .ok w
  destinationChainId : ∃ w, uint256 p.destinationChainId "destination_chain_id" = .ok w
  times : ValidTimes p.createdAt p.expiresAt
  encodes : encodeTypedActionABI p = .ok p.typedActionPayload
  payload : keccak p.typedActionPayload = p.payloadHash

theorem discard_eq_ok {ε α : Type} {x : Except ε α} {u : Unit} : (discard x : Except ε Unit) = .ok u ↔ ∃ a, x = .ok a := by
  cases x <;> simp [discard, Functor.mapConst, Except.map]

theorem accepted_of_validateEnvelope (h : validateEnvelope keccak p true = .ok ()) : Accepted keccak p := by
  simp only [validateEnvelope, exactLength, if_true, block_eq_ok, discard_eq_ok] at h
  obtain ⟨-, h0, h1, h2, h3, h4, h5, h6, h7, h8, h9, h10, h11, h12, h13, h14, h15, source, destination, times,
    encoded, hencoded, rfl, hash⟩ := h
  exact ⟨h0, h1, h2, h3, h4, h5, h6, h7, h8, h9, h10, h11, h12, h13, h14, h15, source, destination, times, hencoded, hash⟩

theorem toUInt64_eq {s : Int64} {n : Nat} (h : s.toInt = n) : s.toUInt64.toNat = n := by
  have hint : s.toBitVec.toInt = n := h
  have hlt := s.toBitVec.isLt
  have hnat : s.toBitVec.toNat = n := by
    rw [BitVec.toInt_eq_toNat_cond] at hint
    split at hint <;> omega
  exact hnat

theorem seconds_eq {t : Option Timestamp} {n : Nat} (h : AtSeconds t n) : (seconds t).toNat = n := by
  obtain ⟨s, rfl, hs⟩ := h
  exact toUInt64_eq hs

/-- A valid action has an ordinal of the contracts' enum. -/
theorem exists_action {a : Octets} (h : encodeTypedActionABI p = .ok a) :
    ∃ action : CrossChainActionType, p.actionType.toInt = action.ordinal := by
  unfold encodeTypedActionABI at h
  split at h
  case h_1 heq => exact ⟨.canonicalUftLocked, heq⟩
  case h_2 heq => exact ⟨.wrappedUftMinted, heq⟩
  case h_3 heq => exact ⟨.wrappedUftBurned, heq⟩
  case h_4 heq => exact ⟨.canonicalUftReleased, heq⟩
  case h_5 heq => exact ⟨.satelliteCollateralLocked, heq⟩
  case h_6 heq => exact ⟨.homeDisbursementAuthorized, heq⟩
  case h_7 heq => exact ⟨.satelliteDisbursementSettled, heq⟩
  case h_8 heq => exact ⟨.satelliteRepaymentBurned, heq⟩
  case h_9 heq => exact ⟨.homeCollateralReleaseAuthorized, heq⟩
  case h_10 heq => exact ⟨.satelliteCollateralReleased, heq⟩
  case h_11 heq => exact ⟨.cancellationRequested, heq⟩
  case h_12 heq => exact ⟨.sourceCompensated, heq⟩
  case h_13 heq => exact ⟨.satelliteUftPermanentBurned, heq⟩
  case h_14 => cases h

theorem exists_address {b : Octets} (h : b.length = 20) : ∃ a < 2 ^ 160, b = toBigEndian 20 a := by
  have hlt := ofBigEndian_lt b
  have hself := toBigEndian_ofBigEndian b
  rw [h] at hlt hself
  refine ⟨ofBigEndian b, ?_, hself.symm⟩
  norm_num at hlt ⊢
  exact hlt

theorem exists_bytes32 {b : Octets} (h : b.length = 32) : ∃ w : BitVec 256, b = uintWord w.toNat :=
  ⟨_, (bytes32_eq h).symm⟩

theorem exists_times (h : ValidTimes p.createdAt p.expiresAt) :
    ∃ created expires : Nat, created < 2 ^ 64 ∧ expires < 2 ^ 64 ∧ AtSeconds p.createdAt created ∧
      AtSeconds p.expiresAt expires := by
  unfold ValidTimes at h
  split at h
  · next created expires hc hx =>
    obtain ⟨hcn, hxn, pos, later⟩ := h
    obtain ⟨c, hcs⟩ := Int.eq_ofNat_of_zero_le pos
    obtain ⟨x, hxs⟩ := Int.eq_ofNat_of_zero_le (pos.trans later.le)
    have hclt := created.seconds.toInt_lt
    have hxlt := expires.seconds.toInt_lt
    refine ⟨c, x, by omega, by omega, ⟨created.seconds, ?_, hcs⟩, ⟨expires.seconds, ?_, hxs⟩⟩
    · rw [hc, ← hcn]
    · rw [hx, ← hxn]
  · exact h.elim

/-- An accepted envelope is one of the contracts' structs. -/
theorem Accepted.represents (h : Accepted keccak p) : ∃ e, Represents p e ∧ WellTyped e := by
  obtain ⟨sourceWord, hsource⟩ := h.sourceChainId
  obtain ⟨destinationWord, hdestination⟩ := h.destinationChainId
  obtain ⟨sourceChain, -, sourceLt, sourceEq, -⟩ := uint256_eq_ok hsource
  obtain ⟨destinationChain, -, destinationLt, destinationEq, -⟩ := uint256_eq_ok hdestination
  obtain ⟨created, expires, createdLt, expiresLt, hcreated, hexpires⟩ := exists_times h.times
  obtain ⟨action, haction⟩ := exists_action h.encodes
  obtain ⟨sourceCoordinator, lt1, eq1⟩ := exists_address h.sourceCoordinator
  obtain ⟨sourceComponent, lt2, eq2⟩ := exists_address h.sourceComponent
  obtain ⟨destinationCoordinator, lt3, eq3⟩ := exists_address h.destinationCoordinator
  obtain ⟨destinationComponent, lt4, eq4⟩ := exists_address h.destinationComponent
  obtain ⟨w0, e0⟩ := exists_bytes32 h.messageId
  obtain ⟨w1, e1⟩ := exists_bytes32 h.protocolId
  obtain ⟨w2, e2⟩ := exists_bytes32 h.laneId
  obtain ⟨w3, e3⟩ := exists_bytes32 h.aggregateId
  obtain ⟨w4, e4⟩ := exists_bytes32 h.payloadHash
  obtain ⟨w5, e5⟩ := exists_bytes32 h.routePolicyHash
  obtain ⟨w6, e6⟩ := exists_bytes32 h.adapterSetPolicyHash
  obtain ⟨w7, e7⟩ := exists_bytes32 h.sourceFinalityPolicyHash
  obtain ⟨w8, e8⟩ := exists_bytes32 h.destinationFinalityPolicyHash
  obtain ⟨w9, e9⟩ := exists_bytes32 h.correlationId
  obtain ⟨w10, e10⟩ := exists_bytes32 h.causationMessageId
  obtain ⟨w11, e11⟩ := exists_bytes32 h.supersededMessageId
  exact ⟨⟨_, w0, w1, sourceChain, sourceCoordinator, sourceComponent, destinationChain, destinationCoordinator,
      destinationComponent, w2, _, w3, action, w4, created, expires, w5, w6, w7, w8, w9, w10, w11⟩,
    ⟨rfl, e0, e1, sourceEq, eq1, eq2, destinationEq, eq3, eq4, e2, rfl, e3, haction, e4, hcreated, hexpires, e5, e6, e7,
      e8, e9, e10, e11⟩,
    ⟨p.schemaVersion.toNat_lt, sourceLt, lt1, lt2, destinationLt, lt3, lt4, p.sourceNonce.toNat_lt, createdLt, expiresLt⟩⟩

theorem tagTail_domain : tagTail MESSAGE_DOMAIN.toUTF8.toList = dynamicTail MESSAGE_DOMAIN.toUTF8.toList := by
  decide +kernel

theorem addressWord_eq {a : Nat} (h : a < 2 ^ 160) : addressWord (toBigEndian 20 a) = uintWord a := by
  rw [addressWord, length_toBigEndian, Nat.sub_self, List.replicate_zero, List.append_nil,
    List.take_of_length_le (length_toBigEndian 20 _).le, address_word h]

theorem messagePreimage_eq {b : Octets} (hr : Represents p e) (h : WellTyped e)
    (hb : messagePreimage keccak p = .ok b) : b = canonicalPreimage e := by
  unfold messagePreimage at hb
  obtain ⟨u, hvalid, hb⟩ := bind_eq_ok.mp hb
  obtain ⟨sourceWord, hsource, hb⟩ := bind_eq_ok.mp hb
  obtain ⟨destinationWord, hdestination, hb⟩ := bind_eq_ok.mp hb
  have hb := pure_eq_ok.mp hb
  obtain ⟨sourceChain, _, _, sourceEq, hsourceWord⟩ := uint256_eq_ok hsource
  obtain ⟨destinationChain, _, _, destinationEq, hdestinationWord⟩ := uint256_eq_ok hdestination
  have hsourceChain : sourceChain = e.sourceChainId := repr_inj (sourceEq.symm.trans hr.sourceChainId)
  have hdestinationChain : destinationChain = e.destinationChainId :=
    repr_inj (destinationEq.symm.trans hr.destinationChainId)
  have haction : p.actionType.toInt64.toUInt64.toNat = e.actionType.ordinal :=
    toUInt64_eq ((Int32.toInt_toInt64 _).trans hr.actionType)
  have hversion : p.schemaVersion.toUInt64.toNat = e.schemaVersion := by
    rw [UInt32.toNat_toUInt64, hr.schemaVersion]
  have hoffset : uint64Word (23 * 32) = uintWord ((22 + 1) * WORD_BYTES) := by decide +kernel
  rw [← hb, hsourceWord, hdestinationWord, hsourceChain, hdestinationChain]
  simp only [tagTail_domain, hoffset, uint64Word_eq, hversion, hr.protocolId, hr.sourceCoordinator, hr.sourceComponent,
    hr.destinationCoordinator, hr.destinationComponent, hr.laneId, hr.sourceNonce, hr.aggregateId, haction,
    hr.payloadHash, seconds_eq hr.createdAt, seconds_eq hr.expiresAt, hr.routePolicyHash, hr.adapterSetPolicyHash,
    hr.sourceFinalityPolicyHash, hr.destinationFinalityPolicyHash, hr.correlationId, hr.causationMessageId,
    hr.supersededMessageId, addressWord_eq h.sourceCoordinator, addressWord_eq h.sourceComponent,
    addressWord_eq h.destinationCoordinator, addressWord_eq h.destinationComponent]
  simp only [canonicalPreimage, abiEncodeTagged_eq, messageFields, List.map_cons, List.map_nil, List.flatten_cons,
    List.flatten_nil, List.append_nil, List.append_assoc, List.length_cons, List.length_nil, Datum.word, Nat.zero_add,
    Nat.reduceAdd]

end Coordination

/-! ### Injectivity -/

theorem canonicalPreimage_inj (h : WellTyped e) (h' : WellTyped e') (heq : canonicalPreimage e = canonicalPreimage e') :
    e = { e' with messageId := e.messageId } := by
  have hwords := abiEncodeTagged_inj heq
  have bits : ∀ {w w' : BitVec 256}, uintWord w.toNat = uintWord w'.toNat → w = w' := fun hw =>
    BitVec.eq_of_toNat_eq (uintWord_inj (BitVec.isLt _) (BitVec.isLt _) hw)
  have narrow : ∀ {k n m : Nat}, n < 2 ^ k → m < 2 ^ k → k ≤ 256 → uintWord n = uintWord m → n = m :=
    fun hn hm hk hw => uintWord_inj (hn.trans_le (Nat.pow_le_pow_right (by decide) hk))
      (hm.trans_le (Nat.pow_le_pow_right (by decide) hk)) hw
  simp only [messageFields, List.map_cons, List.map_nil, List.cons.injEq, Datum.word, and_true] at hwords
  obtain ⟨h1, h2, h3, h4, h5, h6, h7, h8, h9, h10, h11, h12, h13, h14, h15, h16, h17, h18, h19, h20, h21, h22⟩ := hwords
  have a1 := narrow h.schemaVersion h'.schemaVersion (by decide) h1
  have a3 := uintWord_inj h.sourceChainId h'.sourceChainId h3
  have a4 := narrow h.sourceCoordinator h'.sourceCoordinator (by decide) h4
  have a5 := narrow h.sourceComponent h'.sourceComponent (by decide) h5
  have a6 := uintWord_inj h.destinationChainId h'.destinationChainId h6
  have a7 := narrow h.destinationCoordinator h'.destinationCoordinator (by decide) h7
  have a8 := narrow h.destinationComponent h'.destinationComponent (by decide) h8
  have a10 := narrow h.sourceNonce h'.sourceNonce (by decide) h10
  have a12 := CrossChainActionType.ordinal_inj (narrow (ordinal_lt _) (ordinal_lt _) (by decide) h12)
  have a14 := narrow h.createdAt h'.createdAt (by decide) h14
  have a15 := narrow h.expiresAt h'.expiresAt (by decide) h15
  obtain ⟨⟩ := e
  obtain ⟨⟩ := e'
  simp only at a1 a3 a4 a5 a6 a7 a8 a10 a12 a14 a15 h2 h9 h11 h13 h16 h17 h18 h19 h20 h21 h22
  simp only [MessageEnvelope.mk.injEq, true_and]
  exact ⟨a1, bits h2, a3, a4, a5, a6, a7, a8, bits h9, a10, bits h11, a12, bits h13, a14, a15, bits h16, bits h17,
    bits h18, bits h19, bits h20, bits h21, bits h22⟩

theorem AtSeconds.unique {t t' : Option Timestamp} {n : Nat} (h : AtSeconds t n) (h' : AtSeconds t' n) : t = t' := by
  obtain ⟨s, rfl, hs⟩ := h
  obtain ⟨s', rfl, hs'⟩ := h'
  rw [Int64.toInt_inj.mp (hs.trans hs'.symm)]

/-- Protobuf envelopes of one struct agree on everything but the id and the payload. -/
theorem Represents.unique {m : BitVec 256} (h : Represents p e) (h' : Represents p' e')
    (heq : e = { e' with messageId := m }) :
    p = { p' with
      messageId := p.messageId
      typedActionPayload := p.typedActionPayload
      typedAction := p.typedAction } := by
  subst heq
  have h1 := UInt32.toNat_inj.mp (h.schemaVersion.trans h'.schemaVersion.symm)
  have h2 := UInt64.toNat_inj.mp (h.sourceNonce.trans h'.sourceNonce.symm)
  have h3 := Int32.toInt_inj.mp (h.actionType.trans h'.actionType.symm)
  have h4 := h.createdAt.unique h'.createdAt
  have h5 := h.expiresAt.unique h'.expiresAt
  obtain ⟨⟩ := p
  obtain ⟨⟩ := p'
  simp only [ProtoEnvelope.mk.injEq, true_and]
  exact ⟨h1, h.protocolId.trans h'.protocolId.symm, h.sourceChainId.trans h'.sourceChainId.symm,
    h.sourceCoordinator.trans h'.sourceCoordinator.symm, h.sourceComponent.trans h'.sourceComponent.symm,
    h.destinationChainId.trans h'.destinationChainId.symm,
    h.destinationCoordinator.trans h'.destinationCoordinator.symm,
    h.destinationComponent.trans h'.destinationComponent.symm, h.laneId.trans h'.laneId.symm, h2,
    h.aggregateId.trans h'.aggregateId.symm, h3, h.payloadHash.trans h'.payloadHash.symm, h4, h5,
    h.routePolicyHash.trans h'.routePolicyHash.symm, h.adapterSetPolicyHash.trans h'.adapterSetPolicyHash.symm,
    h.sourceFinalityPolicyHash.trans h'.sourceFinalityPolicyHash.symm,
    h.destinationFinalityPolicyHash.trans h'.destinationFinalityPolicyHash.symm,
    h.correlationId.trans h'.correlationId.symm, h.causationMessageId.trans h'.causationMessageId.symm,
    h.supersededMessageId.trans h'.supersededMessageId.symm, trivial⟩

/-! ### One identity -/

theorem Coordination.accepted_of_ok (h : ValidateEnvelope keccak p = .ok ()) :
    Accepted keccak p ∧ ∃ b, messagePreimage keccak p = .ok b ∧ p.messageId = keccak b := by
  unfold ValidateEnvelope at h
  obtain ⟨u, hvalid, h⟩ := bind_eq_ok.mp h
  obtain ⟨expected, hexpected, h⟩ := bind_eq_ok.mp h
  unfold computeMessageID at hexpected
  obtain ⟨b, hb, hk⟩ := bind_eq_ok.mp hexpected
  exact ⟨accepted_of_validateEnvelope hvalid, b, hb, (require_eq_ok.mp h).trans (pure_eq_ok.mp hk).symm⟩

/-- For every envelope that the service accepts, the four programs hash the same bytes, the ABI
    encoding of the domain and the 22 fields, and these bytes determine the fields. -/
theorem one_message_identity (keccak : Octets → Octets) {p : ProtoEnvelope}
    (h : ValidateEnvelope keccak p = .ok ()) :
    ∃ e, Represents p e ∧ WellTyped e ∧
      messagePreimage keccak p = .ok (canonicalPreimage e) ∧
      Solidity.messagePreimage e = canonicalPreimage e ∧
      Python.messagePreimage (digestInput e) = .ok (canonicalPreimage e) ∧
      Typescript.messagePreimage p = .ok (canonicalPreimage e) ∧
      p.messageId = keccak (canonicalPreimage e) ∧
      (∀ e', WellTyped e' → Solidity.messagePreimage e' = Solidity.messagePreimage e →
        e' = { e with messageId := e'.messageId }) ∧
      ∀ p', ValidateEnvelope keccak p' = .ok () →
        messagePreimage keccak p' = messagePreimage keccak p →
        p' = { p with
          messageId := p'.messageId
          typedActionPayload := p'.typedActionPayload
          typedAction := p'.typedAction } := by
  obtain ⟨accepted, b, hb, hid⟩ := accepted_of_ok h
  obtain ⟨e, hr, ht⟩ := accepted.represents
  have hcanonical := messagePreimage_eq hr ht hb
  rw [hcanonical] at hb hid
  refine ⟨e, hr, ht, hb, Solidity.messagePreimage_eq e, Python.messagePreimage_digestInput ht,
    Typescript.messagePreimage_ok hr ht, hid, fun e' ht' heq => ?_, fun p' h' heq => ?_⟩
  · rw [Solidity.messagePreimage_eq, Solidity.messagePreimage_eq] at heq
    exact canonicalPreimage_inj ht' ht heq
  · obtain ⟨accepted', b', hb', -⟩ := accepted_of_ok h'
    obtain ⟨e', hr', ht'⟩ := accepted'.represents
    have hcanonical' := messagePreimage_eq hr' ht' hb'
    rw [hcanonical'] at hb'
    have hsame := Except.ok.inj (hb'.symm.trans (heq.trans hb))
    exact hr'.unique hr (canonicalPreimage_inj ht' ht hsame)

def samplePayload : Octets :=
  List.replicate 32 1 ++ (List.replicate 12 0 ++ List.replicate 20 2) ++ (List.replicate 12 0 ++ List.replicate 20 3) ++
    uintWord 100 ++ List.replicate 32 4

/-- A release report between two chains, which has no id yet. -/
def sampleDraft : ProtoEnvelope where
  schemaVersion := 1
  messageId := []
  protocolId := List.replicate 32 1
  sourceChainId := "31337"
  sourceCoordinator := List.replicate 20 2
  sourceComponent := List.replicate 20 3
  destinationChainId := "31338"
  destinationCoordinator := List.replicate 20 4
  destinationComponent := List.replicate 20 5
  laneId := List.replicate 32 6
  sourceNonce := 1
  aggregateId := List.replicate 32 7
  actionType := 4
  typedActionPayload := samplePayload
  payloadHash := polyHash samplePayload
  createdAt := some ⟨10, 0⟩
  expiresAt := some ⟨20, 0⟩
  routePolicyHash := List.replicate 32 10
  adapterSetPolicyHash := List.replicate 32 11
  sourceFinalityPolicyHash := List.replicate 32 12
  destinationFinalityPolicyHash := List.replicate 32 13
  correlationId := List.replicate 32 14
  causationMessageId := List.replicate 32 0
  supersededMessageId := List.replicate 32 0
  typedAction := .canonicalUftReleased
    ⟨List.replicate 32 1, List.replicate 20 2, List.replicate 20 3, "100", List.replicate 32 4⟩

def sampleEnvelope : ProtoEnvelope :=
  { sampleDraft with messageId := (computeMessageID polyHash sampleDraft).toOption.getD [] }

theorem one_message_identity_sampleEnvelope :
    ∃ e, Represents sampleEnvelope e ∧ Typescript.messagePreimage sampleEnvelope = .ok (Solidity.messagePreimage e) ∧
      sampleEnvelope.messageId = polyHash (Solidity.messagePreimage e) := by
  obtain ⟨e, hr, -, -, hs, -, ht, hid, -⟩ := one_message_identity polyHash (p := sampleEnvelope) (by decide +kernel)
  exact ⟨e, hr, hs ▸ ht, hs ▸ hid⟩

end Unified.CrossChain.Wire
