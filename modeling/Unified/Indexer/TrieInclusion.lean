import Mathlib
import Unified.Lib.Trie
import Unified.Indexer.Types

/-! Inclusion proofs: the decoder of nested byte strings, the walk from a root along the nodes of a
    proof, and that an accepted proof shows what the trie behind the root holds. -/

namespace Unified.Indexer

/-! ### Decoding -/

/-- A decoded value with the bytes it was read from. -/
inductive RlpValue where
  | string (raw payload : Octets)
  | list (raw : Octets) (items : List RlpValue)

def MAX_RLP_DEPTH : Nat := 64

def MAX_RLP_LIST_ITEMS : Nat := 2 ^ 16

def MAX_INT : Nat := 2 ^ 63 - 1

def decodeRLPLength (input : Octets) (lengthOfLength : Nat) : Option Nat :=
  if lengthOfLength = 0 ∨ 8 < lengthOfLength ∨ input.length < 1 + lengthOfLength ∨ input[1]? = some 0 then none
  else some (ofBigEndian ((input.drop 1).take lengthOfLength)) |>.filter (· ≤ MAX_INT)

/-- The loop of `decodeRLPList`; `fuel` is the number of items that may still follow. -/
def decodeItems (decode : Octets → Option (RlpValue × Nat)) : Nat → Octets → Option (List RlpValue)
  | _, [] => some []
  | 0, _ :: _ => none
  | fuel + 1, input => do
    let (item, consumed) ← decode input
    if consumed = 0 ∨ input.length < consumed then none
    else
      let items ← decodeItems decode fuel (input.drop consumed)
      some (item :: items)

def decodeRLPList (decode : Octets → Option (RlpValue × Nat)) (input : Octets) (offset length : Nat) :
    Option (RlpValue × Nat) :=
  if input.length < offset ∨ input.length - offset < length then none
  else do
    let items ← decodeItems decode MAX_RLP_LIST_ITEMS ((input.drop offset).take length)
    some (.list (input.take (offset + length)) items, offset + length)

/-- `fuel` is one more than the depth that is left. -/
def decodeRLPDepth : Nat → Octets → Option (RlpValue × Nat)
  | 0, _ => none
  | _ + 1, [] => none
  | fuel + 1, first :: rest =>
    let input := first :: rest
    let first := first.toNat
    if first ≤ 0x7f then some (.string (input.take 1) (input.take 1), 1)
    else if first ≤ 0xb7 then
      let length := first - 0x80
      if input.length < 1 + length ∨ (length = 1 ∧ input[1]?.any (· < 0x80)) then none
      else some (.string (input.take (1 + length)) ((input.drop 1).take length), 1 + length)
    else if first ≤ 0xbf then do
      let lengthOfLength := first - 0xb7
      let length ← decodeRLPLength input lengthOfLength
      let offset := 1 + lengthOfLength
      if length < 56 ∨ input.length < offset ∨ input.length - offset < length then none
      else some (.string (input.take (offset + length)) ((input.drop offset).take length), offset + length)
    else if first ≤ 0xf7 then decodeRLPList (decodeRLPDepth fuel) input 1 (first - 0xc0)
    else do
      let lengthOfLength := first - 0xf7
      let length ← decodeRLPLength input lengthOfLength
      let offset := 1 + lengthOfLength
      if length < 56 ∨ input.length < offset ∨ input.length - offset < length then none
      else decodeRLPList (decodeRLPDepth fuel) input offset length

def decodeRLP (input : Octets) : Option (RlpValue × Nat) := decodeRLPDepth (MAX_RLP_DEPTH + 1) input

/-- A decoding that consumes its whole input. -/
def decodeWhole (input : Octets) : Option RlpValue :=
  ((decodeRLP input).filter (·.2 = input.length)).map Prod.fst

/-- A decoded value stands for an item, and every part of it was read from that part's encoding. -/
inductive RlpValue.Reads : RlpValue → RlpItem → Prop
  | string {raw payload : Octets} : raw = rlpEncode (.bytes payload) → Reads (.string raw payload) (.bytes payload)
  | list {raw : Octets} {values : List RlpValue} {items : List RlpItem} : List.Forall₂ Reads values items →
    raw = rlpEncode (.list items) → Reads (.list raw values) (.list items)

variable {input data rest : Octets} {v : RlpValue} {decode : Octets → Option (RlpValue × Nat)} {length offset : Nat}
  {first : UInt8}

theorem RlpValue.Reads.string_iff : v.Reads (.bytes data) ↔ v = .string (rlpEncode (.bytes data)) data := by
  constructor
  · rintro ⟨hraw⟩
    rw [hraw]
  · rintro rfl
    exact .string rfl

theorem RlpValue.Reads.list_iff {items : List RlpItem} :
    v.Reads (.list items) ↔ ∃ values, List.Forall₂ Reads values items ∧ v = .list (rlpEncode (.list items)) values := by
  constructor
  · intro h
    cases h with
    | list hvalues hraw => exact ⟨_, hvalues, by rw [hraw]⟩
  · rintro ⟨values, hvalues, rfl⟩
    exact .list hvalues rfl

/-! ### What is decoded was encoded -/

/-- What a decoder returns for some input is an item that the input begins with. -/
def Decodes (decode : Octets → Option (RlpValue × Nat)) : Prop :=
  ∀ {input : Octets} {v : RlpValue} {n : Nat}, decode input = some (v, n) →
    n ≤ input.length ∧ ∃ item, v.Reads item ∧ input.take n = rlpEncode item

theorem Decodes.items (h : Decodes decode) {fuel : Nat} {values : List RlpValue}
    (hv : decodeItems decode fuel input = some values) :
    ∃ items, List.Forall₂ RlpValue.Reads values items ∧ input = rlpEncodeAll items := by
  induction fuel, input using decodeItems.induct generalizing values with
  | case1 =>
    simp only [decodeItems, Option.some.injEq] at hv
    subst hv
    exact ⟨[], .nil, rfl⟩
  | case2 => simp [decodeItems] at hv
  | case3 _ _ hne ih =>
    rw [decodeItems] at hv
    · simp only [Option.bind_eq_bind, Option.bind_eq_some_iff] at hv
      obtain ⟨⟨v, n⟩, hdecode, hv⟩ := hv
      dsimp only at hv
      split at hv
      · cases hv
      · obtain ⟨vs, hvs, hvalues⟩ := Option.bind_eq_some_iff.mp hv
        cases hvalues
        obtain ⟨-, item, hitem, htake⟩ := h hdecode
        obtain ⟨items, hitems, hdrop⟩ := ih n hvs
        refine ⟨item :: items, .cons hitem hitems, ?_⟩
        rw [rlpEncodeAll, ← htake, ← hdrop, List.take_append_drop]
    · exact hne

/-- A payload after its header. -/
theorem take_frame (h : offset + length ≤ input.length) :
    input.take (offset + length) = input.take offset ++ (input.drop offset).take length ∧
      ((input.drop offset).take length).length = length := by
  refine ⟨List.take_add, ?_⟩
  rw [List.length_take, List.length_drop]
  omega

theorem decodeRLPLength_eq_some {lengthOfLength : Nat} (h : decodeRLPLength input lengthOfLength = some length) :
    length ≤ MAX_INT ∧ (input.drop 1).take lengthOfLength = minimalBigEndian length ∧
      (minimalBigEndian length).length = lengthOfLength ∧ 1 + lengthOfLength ≤ input.length := by
  rw [decodeRLPLength] at h
  split at h
  · cases h
  · rename_i hguard
    rw [not_or, not_or, not_or] at hguard
    obtain ⟨hpos, hle, hlen, hfirst⟩ := hguard
    obtain ⟨hlength, hmax⟩ := Option.filter_eq_some_iff.mp h
    have hdigits : ((input.drop 1).take lengthOfLength).length = lengthOfLength := by
      rw [List.length_take, List.length_drop]
      omega
    have hhead : ((input.drop 1).take lengthOfLength).head? ≠ some 0 := by
      rw [List.head?_take, if_neg hpos, List.head?_drop]
      exact hfirst
    have hminimal := minimalBigEndian_ofBigEndian (by omega) hhead
    rw [Option.some.inj hlength] at hminimal
    exact ⟨of_decide_eq_true hmax, hminimal.symm, by rw [hminimal, hdigits], by omega⟩

/-- The header that the decoder read is the header of the payload's length. -/
theorem long_header (base : Nat) (hbase : base + 55 < first.toNat) (hlow : 56 ≤ length)
    (h : decodeRLPLength (first :: rest) (first.toNat - (base + 55)) = some length) :
    (first :: rest).take (1 + (first.toNat - (base + 55))) = rlpHeader base length := by
  obtain ⟨-, hdigits, hlength, -⟩ := decodeRLPLength_eq_some h
  rw [rlpHeader, if_neg (by omega), hlength, Nat.add_comm 1, List.take_succ_cons, ← hdigits, List.drop_one, List.tail_cons]
  congr 1
  rw [← UInt8.toNat_inj, UInt8.toNat_ofNat']
  have := first.toNat_lt
  omega

theorem short_header {base : Nat} (hbase : base ≤ first.toNat) (hlow : first.toNat - base < 56) :
    (first :: rest).take 1 = rlpHeader base (first.toNat - base) := by
  rw [rlpHeader, if_pos hlow, List.take_succ_cons, List.take_zero]
  congr 1
  rw [← UInt8.toNat_inj, UInt8.toNat_ofNat']
  have := first.toNat_lt
  omega

/-- A list is decoded from the encoding of its items. -/
theorem Decodes.list (hdecode : Decodes decode) {n : Nat} (h : decodeRLPList decode input offset length = some (v, n))
    (header : input.take offset = rlpHeader 0xc0 length) :
    n ≤ input.length ∧ ∃ item, v.Reads item ∧ input.take n = rlpEncode item := by
  rw [decodeRLPList] at h
  split at h
  · cases h
  · rename_i hguard
    have hle : offset + length ≤ input.length := by omega
    obtain ⟨values, hvalues, heq⟩ := Option.bind_eq_some_iff.mp h
    obtain ⟨rfl, rfl⟩ := Prod.mk.inj (Option.some.inj heq)
    obtain ⟨items, hitems, hpayload⟩ := hdecode.items hvalues
    obtain ⟨htake, hlength⟩ := take_frame hle
    have hencode : input.take (offset + length) = rlpEncode (.list items) := by
      rw [htake, header, rlpEncode, ← hpayload, hlength]
    exact ⟨hle, .list items, .list hitems hencode, hencode⟩

theorem decodes_string (hle : offset + length ≤ input.length) (header : input.take offset = rlpHeader 0x80 length)
    (hbyte : ¬ IsRlpByte ((input.drop offset).take length)) :
    ∃ item, (RlpValue.string (input.take (offset + length)) ((input.drop offset).take length)).Reads item ∧
      input.take (offset + length) = rlpEncode item := by
  obtain ⟨htake, hlength⟩ := take_frame hle
  have hencode : input.take (offset + length) = rlpEncode (.bytes ((input.drop offset).take length)) := by
    rw [htake, header, rlpEncode, if_neg hbyte, hlength]
  exact ⟨_, .string hencode, hencode⟩

theorem not_isRlpByte_of_length (h : data.length ≠ 1) : ¬ IsRlpByte data := by
  rintro ⟨x, rfl, -⟩
  exact h rfl

theorem decodeRLPDepth_decodes (fuel : Nat) : Decodes (decodeRLPDepth fuel) := by
  induction fuel with
  | zero =>
    intro input v n h
    cases h
  | succ fuel ih =>
    intro input v n h
    obtain _ | ⟨first, rest⟩ := input
    · cases h
    · have hfirst := first.toNat_lt
      simp only [decodeRLPDepth] at h
      split at h
      · -- a byte that stands for itself
        rename_i hsmall
        obtain ⟨rfl, rfl⟩ := Prod.mk.inj (Option.some.inj h)
        have hencode : (first :: rest).take 1 = rlpEncode (.bytes ((first :: rest).take 1)) := by
          have hbyte : IsRlpByte [first] := ⟨first, rfl, by rw [UInt8.lt_iff_toNat_lt]; exact Nat.lt_succ_of_le hsmall⟩
          rw [List.take_succ_cons, List.take_zero, rlpEncode, if_pos hbyte]
        exact ⟨by simp, _, .string hencode, hencode⟩
      split at h
      · -- a short string
        split at h
        · cases h
        · rename_i hguard
          obtain ⟨rfl, rfl⟩ := Prod.mk.inj (Option.some.inj h)
          rw [not_or] at hguard
          have hle : 1 + (first.toNat - 0x80) ≤ (first :: rest).length := by omega
          refine ⟨hle, decodes_string hle (short_header (by omega) (by omega)) ?_⟩
          rintro ⟨x, hx, hlt⟩
          have hlen := (take_frame hle).2
          rw [hx, List.length_singleton] at hlen
          refine hguard.2 ⟨hlen.symm, ?_⟩
          rw [← hlen, List.drop_one, List.tail_cons] at hx
          obtain _ | ⟨y, rest⟩ := rest
          · cases hx
          · cases hx
            simpa using hlt
      split at h
      · -- a long string
        obtain ⟨length, hlength, h⟩ := Option.bind_eq_some_iff.mp h
        split at h
        · cases h
        · rename_i hguard
          obtain ⟨rfl, rfl⟩ := Prod.mk.inj (Option.some.inj h)
          have hle : 1 + (first.toNat - 0xb7) + length ≤ (first :: rest).length := by omega
          refine ⟨hle, decodes_string hle (long_header 0x80 (by omega) (by omega) hlength) ?_⟩
          exact not_isRlpByte_of_length (by rw [(take_frame hle).2]; omega)
      split at h
      · -- a short list
        exact ih.list h (short_header (by omega) (by omega))
      · -- a long list
        obtain ⟨length, hlength, h⟩ := Option.bind_eq_some_iff.mp h
        split at h
        · cases h
        · exact ih.list h (long_header 0xc0 (by omega) (by omega) hlength)

theorem decodeWhole_rlpEncode {item : RlpItem} (hlen : (rlpEncode item).length < 256 ^ 8)
    (h : decodeWhole (rlpEncode item) = some v) : v.Reads item := by
  obtain ⟨⟨v', n⟩, hfilter, rfl⟩ := Option.map_eq_some_iff.mp h
  obtain ⟨hdecode, hn⟩ := Option.filter_eq_some_iff.mp hfilter
  obtain ⟨-, item', hreads, htake⟩ := decodeRLPDepth_decodes _ hdecode
  have hn : n = (rlpEncode item).length := of_decide_eq_true hn
  rw [hn, List.take_length] at htake
  rwa [rlpEncode_inj htake hlen]

def MAX_PROOF_NODE_BYTES : Nat := 2 ^ 20

def MAX_PROOF_NODES : Nat := 64

def MAX_PROOF_BYTES : Nat := 8 * 2 ^ 20

def validProofSize (proof : List Octets) : Bool :=
  proof.length ≠ 0 ∧ proof.length ≤ MAX_PROOF_NODES ∧ (∀ node ∈ proof, node.length ≠ 0 ∧ node.length ≤ MAX_PROOF_NODE_BYTES) ∧
    (proof.map List.length).sum ≤ MAX_PROOF_BYTES

/-- The path of a node, and whether it ends there. -/
def decodeCompactPath (encoded : Octets) : Option (List Nibble × Bool) :=
  match bytesToNibbles encoded with
  | [] => none
  | flag :: path =>
    if 3 < flag then none
    else if flag.val % 2 = 1 then some (path, 2 ≤ flag)
    else
      match path with
      | 0 :: path => some (path, 2 ≤ flag)
      | _ => none

def trieReference : RlpValue → Option Octets
  | .list raw _ => if 32 ≤ raw.length then none else some raw
  | .string _ payload => if payload.length = 32 then some payload else none

section

variable [Crypto]

def matchesTrieReference (reference encodedNode : Octets) : Bool :=
  if reference.length = 32 then reference = keccak encodedNode
  else 0 < reference.length ∧ reference.length < 32 ∧ reference = encodedNode

/-- The loop of `verifyTrieInclusion` at the rest of the key and of the proof. -/
def walkTrie (expected : Octets) : Octets → List Nibble → List Octets → Bool
  | _, _, [] => false
  | reference, key, encodedNode :: proof =>
    matchesTrieReference reference encodedNode &&
      match decodeWhole encodedNode with
      | some (.list _ node) =>
        if node.length = 17 then
          match key with
          | [] =>
            match (node[16]? : Option RlpValue) with
            | some (.string _ payload) => proof.isEmpty && decide (payload = expected)
            | _ => false
          | n :: key =>
            match (node[n.val]? : Option RlpValue).bind trieReference with
            | some child => walkTrie expected child key proof
            | none => false
        else
          match node with
          | [.string _ pathField, value] =>
            match decodeCompactPath pathField with
            | some (path, leaf) =>
              decide (path <+: key) &&
                if leaf then
                  match value with
                  | .string _ payload => decide (key.drop path.length = []) && proof.isEmpty && decide (payload = expected)
                  | .list _ _ => false
                else
                  match trieReference value with
                  | some child => walkTrie expected child (key.drop path.length) proof
                  | none => false
            | none => false
          | _ => false
      | _ => false

def verifyTrieInclusion (root key expected : Octets) (proof : List Octets) : Bool :=
  root.length = 32 && validProofSize proof && walkTrie expected root (bytesToNibbles key) proof

end

/-! ### Soundness of the walk -/

theorem decodeCompactPath_hexPrefix (path : List Nibble) (leaf : Bool) :
    decodeCompactPath (hexPrefix path leaf) = some (path, leaf) := by
  rw [decodeCompactPath, hexPrefix]
  by_cases hodd : path.length % 2 = 1
  · rw [if_pos hodd, bytesToNibbles_packNibbles (by rw [List.length_cons]; omega)]
    cases leaf <;> simp
  · rw [if_neg hodd, bytesToNibbles_packNibbles (by rw [List.length_cons, List.length_cons]; omega)]
    cases leaf <;> simp

section

variable [Crypto] {encodedNode reference expected value : Octets} {t : Trie} {key : List Nibble} {proof : List Octets}

/-- Bytes by which a parent refers to a node: its encoding when it is short, else its hash. -/
def RefersTo (reference : Octets) (t : Trie) : Prop :=
  reference = keccak (rlpEncode (t.item keccak)) ∨ reference = rlpEncode (t.item keccak) ∧ reference.length < 32

/-- No node of a proof collides with a node of the trie. -/
def NoCollision (proof : List Octets) (t : Trie) : Prop :=
  ∀ node ∈ proof, ∀ u, t.Contains u → keccak node = keccak (rlpEncode (u.item keccak)) → node = rlpEncode (u.item keccak)

/-- The encodings of the nodes on the path of a key, from the root on. -/
def proofNodes : Trie → List Nibble → List Octets
  | .empty, _ => []
  | .leaf path value, _ => [rlpEncode ((Trie.leaf path value).item keccak)]
  | .extension path child, key =>
    rlpEncode ((Trie.extension path child).item keccak) :: proofNodes child (key.drop path.length)
  | .branch children value, [] => [rlpEncode ((Trie.branch children value).item keccak)]
  | .branch children value, n :: key => rlpEncode ((Trie.branch children value).item keccak) :: proofNodes (children n) key

theorem noCollision_of_nodes (h : ∀ node ∈ proof, ∀ u ∈ t.nodes, keccak node = keccak (rlpEncode (u.item keccak)) →
    node = rlpEncode (u.item keccak)) : NoCollision proof t :=
  fun node hnode u hu => h node hnode u hu.mem_nodes

theorem RefersTo.eq_of_matches (h : RefersTo reference t)
    (free : keccak encodedNode = keccak (rlpEncode (t.item keccak)) → encodedNode = rlpEncode (t.item keccak))
    (hm : matchesTrieReference reference encodedNode = true) : encodedNode = rlpEncode (t.item keccak) := by
  rw [matchesTrieReference] at hm
  split at hm
  · rename_i hlen
    have hm := of_decide_eq_true hm
    rcases h with h | ⟨-, hshort⟩
    · exact free (hm.symm.trans h)
    · omega
  · rename_i hlen
    obtain ⟨-, -, hm⟩ := of_decide_eq_true hm
    rcases h with h | ⟨h, -⟩
    · exact absurd (by rw [h, length_keccak]) hlen
    · exact hm.symm.trans h

/-- Where a node leads with the rest of a key: to the end, or to a child with what is left. -/
inductive Hop where
  | ends (payload : Octets)
  | goes (child : Octets) (key : List Nibble)

/-- The hop that a round of the loop takes at a node. -/
def hop (encodedNode : Octets) (key : List Nibble) : Option Hop :=
  match decodeWhole encodedNode with
  | some (.list _ node) =>
    if node.length = 17 then
      match key with
      | [] =>
        match (node[16]? : Option RlpValue) with
        | some (.string _ payload) => some (.ends payload)
        | _ => none
      | n :: key => ((node[n.val]? : Option RlpValue).bind trieReference).map (.goes · key)
    else
      match node with
      | [.string _ pathField, value] =>
        match decodeCompactPath pathField with
        | some (path, leaf) =>
          if path <+: key then
            if leaf then
              match value with
              | .string _ payload => if key.drop path.length = [] then some (.ends payload) else none
              | .list _ _ => none
            else (trieReference value).map (.goes · (key.drop path.length))
          else none
        | none => none
      | _ => none
  | _ => none

theorem walkTrie_cons :
    walkTrie expected reference key (encodedNode :: proof) = true ↔ matchesTrieReference reference encodedNode = true ∧
      (hop encodedNode key = some (.ends expected) ∧ proof = [] ∨
        ∃ child rest, hop encodedNode key = some (.goes child rest) ∧ walkTrie expected child rest proof = true) := by
  rw [walkTrie, Bool.and_eq_true, hop]
  refine and_congr_right fun _ => ?_
  split
  · split
    · split
      · split <;> simp [and_comm]
      · next n rest => cases (_ : Option RlpValue).bind trieReference <;> simp
    · split
      · next value _ _ =>
        split
        · next path leaf _ =>
          by_cases hpath : path <+: key
          · cases leaf
            · cases trieReference value <;> simp [hpath]
            · cases value <;> simp [hpath, and_comm, and_left_comm]
          · simp [hpath]
        · simp
      · simp
  · simp

/-- By what a parent refers to a node. -/
def referenceTo : Trie → Option Octets
  | .empty => none
  | t => some (if (rlpEncode (t.item keccak)).length < 32 then rlpEncode (t.item keccak) else
      keccak (rlpEncode (t.item keccak)))

/-- The hop at a node of a trie. -/
def trieHop : Trie → List Nibble → Option Hop
  | .empty, _ => none
  | .leaf path value, key => if path <+: key ∧ key.drop path.length = [] then some (.ends value) else none
  | .extension path child, key => if path <+: key then (referenceTo child).map (.goes · (key.drop path.length)) else none
  | .branch _ value, [] => some (.ends value)
  | .branch children _, n :: key => (referenceTo (children n)).map (.goes · key)

theorem trieReference_list {items : List RlpItem} (h : v.Reads (trieReferenceOf keccak (.list items))) :
    trieReference v = some (if (rlpEncode (.list items)).length < 32 then rlpEncode (.list items) else
      keccak (rlpEncode (.list items))) := by
  rw [trieReferenceOf] at h
  split at h
  · next hshort =>
    obtain ⟨values, -, rfl⟩ := RlpValue.Reads.list_iff.mp h
    rw [trieReference, if_neg (by omega), if_pos hshort]
  · next hlong => rw [RlpValue.Reads.string_iff.mp h, trieReference, if_pos (length_keccak _), if_neg hlong]

theorem trieReference_reads (h : v.Reads (trieReferenceOf keccak (t.item keccak))) :
    trieReference v = referenceTo t := by
  cases t with
  | empty =>
    rw [Trie.item, trieReferenceOf, if_pos (by decide)] at h
    rw [RlpValue.Reads.string_iff.mp h]
    rfl
  | leaf | extension | branch => exact trieReference_list h

theorem NoCollision.child {node : Octets} {u : Trie} (h : NoCollision (node :: proof) t)
    (hu : ∀ w, u.Contains w → t.Contains w) : NoCollision proof u :=
  fun x hx w hw => h x (List.mem_cons_of_mem _ hx) w (hu w hw)

theorem reads_branch {node : List RlpValue} {children : Nibble → Trie} (h : List.Forall₂ RlpValue.Reads node
      ((List.finRange 16).map (fun n => trieReferenceOf keccak ((children n).item keccak)) ++ [.bytes value])) :
    node.length = 17 ∧
      (∀ n : Nibble, ∃ v, node[n.val]? = some v ∧ v.Reads (trieReferenceOf keccak ((children n).item keccak))) ∧
      ∃ raw, node[16]? = some (.string raw value) := by
  have hlen : node.length = 17 := by
    rw [h.length_eq]
    simp
  have get : ∀ i (hi : i < 17), ∃ v item, node[i]? = some v ∧
      ((List.finRange 16).map (fun n => trieReferenceOf keccak ((children n).item keccak)) ++ [.bytes value])[i]? =
        some item ∧ v.Reads item := by
    intro i hi
    have hi' : i < ((List.finRange 16).map (fun n => trieReferenceOf keccak ((children n).item keccak)) ++
        [RlpItem.bytes value]).length := by
      simpa using hi
    exact ⟨_, _, List.getElem?_eq_getElem (by omega), List.getElem?_eq_getElem hi', h.get (by omega) hi'⟩
  refine ⟨hlen, fun n => ?_, ?_⟩
  · obtain ⟨v, item, hv, hitem, hreads⟩ := get n.val (by omega)
    have hn : (List.finRange 16)[n.val]? = some n := by
      rw [List.getElem?_eq_getElem (by simp), List.getElem_finRange]
      rfl
    rw [List.getElem?_append_left (by simp), List.getElem?_map, hn, Option.map_some] at hitem
    cases hitem
    exact ⟨v, hv, hreads⟩
  · obtain ⟨v, item, hv, hitem, hreads⟩ := get 16 (by omega)
    rw [List.getElem?_append_right (by simp)] at hitem
    simp at hitem
    subst hitem
    exact ⟨_, by rw [hv, RlpValue.Reads.string_iff.mp hreads]⟩

/-- A decoded node of a trie leads where the trie's node leads. -/
theorem hop_item (hdecode : decodeWhole (rlpEncode (t.item keccak)) = some v) (hreads : v.Reads (t.item keccak)) :
    hop (rlpEncode (t.item keccak)) key = trieHop t key := by
  rw [hop, hdecode]
  cases t with
  | empty =>
    rw [RlpValue.Reads.string_iff.mp hreads]
    rfl
  | leaf =>
    obtain ⟨values, hvalues, rfl⟩ := RlpValue.Reads.list_iff.mp hreads
    obtain _ | ⟨hp, _ | ⟨hv, _ | _⟩⟩ := hvalues
    rw [RlpValue.Reads.string_iff.mp hp, RlpValue.Reads.string_iff.mp hv]
    simp only [List.length_cons, List.length_nil, decodeCompactPath_hexPrefix, trieHop]
    simp [ite_and]
  | extension =>
    obtain ⟨values, hvalues, rfl⟩ := RlpValue.Reads.list_iff.mp hreads
    obtain _ | ⟨hp, _ | ⟨hv, _ | _⟩⟩ := hvalues
    rw [RlpValue.Reads.string_iff.mp hp]
    simp only [List.length_cons, List.length_nil, decodeCompactPath_hexPrefix, trieHop, trieReference_reads hv]
    simp
  | branch =>
    obtain ⟨values, hvalues, rfl⟩ := RlpValue.Reads.list_iff.mp hreads
    obtain ⟨hlength, hchildren, raw, hvalue⟩ := reads_branch hvalues
    dsimp only
    rw [if_pos hlength]
    obtain _ | ⟨n, key⟩ := key
    · rw [hvalue]
      rfl
    · obtain ⟨v, hget, hv⟩ := hchildren n
      dsimp only
      rw [hget, Option.bind_some, trieReference_reads hv]
      rfl

theorem trieHop_ends (hne : value ≠ []) (h : trieHop t key = some (.ends value)) : t.lookup key = some value := by
  cases t with
  | empty => cases h
  | leaf =>
    simp only [trieHop, Option.ite_none_right_eq_some, Option.some.injEq, Hop.ends.injEq] at h
    obtain ⟨⟨hstart, hend⟩, rfl⟩ := h
    have hkey := List.prefix_iff_eq_append.mp hstart
    rw [hend, List.append_nil] at hkey
    rw [Trie.lookup, if_pos hkey.symm]
  | extension => simp [trieHop] at h
  | branch =>
    obtain _ | ⟨n, key⟩ := key
    · cases h
      rw [Trie.lookup, if_neg hne]
    · simp [trieHop] at h

theorem trieHop_goes {rest : List Nibble} {child : Octets} (h : trieHop t key = some (.goes child rest)) :
    ∃ u, referenceTo u = some child ∧ t.lookup key = u.lookup rest ∧ ∀ w, u.Contains w → t.Contains w := by
  cases t with
  | empty => cases h
  | leaf => simp [trieHop] at h
  | extension path u =>
    simp only [trieHop, Option.ite_none_right_eq_some, Option.map_eq_some_iff, Hop.goes.injEq] at h
    obtain ⟨hstart, _, href, rfl, rfl⟩ := h
    exact ⟨u, href, by rw [Trie.lookup, if_pos hstart], fun w => .extension⟩
  | branch children =>
    obtain _ | ⟨n, key⟩ := key
    · cases h
    · simp only [trieHop, Option.map_eq_some_iff, Hop.goes.injEq] at h
      obtain ⟨_, href, rfl, rfl⟩ := h
      exact ⟨children n, href, rfl, fun w => .branch n⟩

theorem refersTo_of_referenceTo (h : referenceTo t = some reference) : RefersTo reference t := by
  have h : reference = if (rlpEncode (t.item keccak)).length < 32 then rlpEncode (t.item keccak) else
      keccak (rlpEncode (t.item keccak)) := by
    cases t with
    | empty => cases h
    | leaf | extension | branch => exact (Option.some.inj h).symm
  split at h
  · next hshort => exact .inr ⟨h, h ▸ hshort⟩
  · exact .inl h

theorem walkTrie_sound (hne : expected ≠ []) (href : RefersTo reference t) (free : NoCollision proof t)
    (hsize : ∀ node ∈ proof, node.length < 256 ^ 8) (h : walkTrie expected reference key proof = true) :
    t.lookup key = some expected := by
  induction proof generalizing reference key t with
  | nil => cases h
  | cons encodedNode proof ih =>
    obtain ⟨hmatch, h⟩ := walkTrie_cons.mp h
    obtain rfl := href.eq_of_matches (free encodedNode List.mem_cons_self t (.self t)) hmatch
    cases hv : decodeWhole (rlpEncode (t.item keccak)) with
    | none => simp [hop, hv] at h
    | some v =>
      -- the node is the encoding of the trie's own node
      rw [hop_item hv (decodeWhole_rlpEncode (hsize _ List.mem_cons_self) hv)] at h
      rcases h with ⟨hends, -⟩ | ⟨child, rest, hgoes, h⟩
      · exact trieHop_ends hne hends
      · obtain ⟨u, hchild, hlookup, hcontains⟩ := trieHop_goes hgoes
        rw [hlookup]
        exact ih (refersTo_of_referenceTo hchild) (free.child hcontains)
          (fun node hn => hsize node (List.mem_cons_of_mem _ hn)) h

/-- An accepted proof under the root of a trie shows the value that the trie holds. -/
theorem verifyTrieInclusion_sound {key : Octets} (hne : expected ≠ []) (free : NoCollision proof t)
    (h : verifyTrieInclusion (t.root keccak) key expected proof = true) :
    t.lookup (bytesToNibbles key) = some expected := by
  rw [verifyTrieInclusion, Bool.and_eq_true, Bool.and_eq_true] at h
  obtain ⟨⟨-, hsize⟩, hwalk⟩ := h
  obtain ⟨-, -, hsize, -⟩ := of_decide_eq_true hsize
  refine walkTrie_sound hne (.inl rfl) free (fun node hn => ?_) hwalk
  exact Nat.lt_of_le_of_lt (hsize node hn).2 (by decide)

end

end Unified.Indexer
