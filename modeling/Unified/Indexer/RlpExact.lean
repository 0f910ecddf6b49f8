import Unified.Indexer.ReceiptEvidence

/-! The decoder of nested byte strings is exact: it accepts the canonical encodings within its limits, with whatever
    follows them, and nothing else. -/

namespace Unified.Indexer

/-- `y` is an item of `t` that is enclosed in `k` of its lists. -/
inductive Encloses : RlpItem → Nat → RlpItem → Prop
  | self (t : RlpItem) : Encloses t 0 t
  | inside {items : List RlpItem} {x y : RlpItem} {k : Nat} : x ∈ items → Encloses x k y → Encloses (.list items) (k + 1) y

/-- Every item is enclosed in fewer than `levels` lists, and every list is short enough. -/
def WithinLimits (levels : Nat) (t : RlpItem) : Prop :=
  ∀ k y, Encloses t k y → k < levels ∧ ∀ items, y = .list items → items.length ≤ MAX_RLP_LIST_ITEMS

variable {levels n : Nat} {data rest : Octets} {items : List RlpItem} {item : RlpItem} {v : RlpValue}
  {decode : Octets → Option (RlpValue × Nat)}

theorem withinLimits_bytes : WithinLimits (levels + 1) (.bytes data) := by
  intro k y h
  cases h
  exact ⟨Nat.succ_pos _, fun _ h => by cases h⟩

theorem withinLimits_list :
    WithinLimits (levels + 1) (.list items) ↔ items.length ≤ MAX_RLP_LIST_ITEMS ∧ ∀ x ∈ items, WithinLimits levels x := by
  constructor
  · intro h
    refine ⟨(h 0 _ (.self _)).2 items rfl, fun x hx k y hy => ?_⟩
    obtain ⟨hk, hitems⟩ := h _ _ (.inside hx hy)
    exact ⟨Nat.lt_of_succ_lt_succ hk, hitems⟩
  · rintro ⟨hlength, hitems⟩ k y h
    cases h with
    | self =>
      refine ⟨Nat.succ_pos _, ?_⟩
      rintro _ ⟨⟩
      exact hlength
    | inside hx hy =>
      obtain ⟨hk, hy⟩ := hitems _ hx _ _ hy
      exact ⟨Nat.succ_lt_succ hk, hy⟩

/-! ### Decoding an encoding -/

theorem head?_minimalBigEndian (n : Nat) : (minimalBigEndian n).head? ≠ some 0 := by
  intro h
  obtain ⟨tail, htail⟩ := List.head?_eq_some_iff.mp h
  have hpos : 0 < ((toBigEndian 8 n).dropWhile fun x => decide (x = 0)).length := by
    change 0 < (minimalBigEndian n).length
    rw [htail]
    exact Nat.succ_pos _
  have hfirst := List.dropWhile_get_zero_not _ _ hpos
  have hget : ((toBigEndian 8 n).dropWhile fun x => decide (x = 0)).head? = some 0 := h
  rw [List.head?_eq_getElem?, List.getElem?_eq_getElem hpos] at hget
  exact hfirst (by simpa using Option.some.inj hget)

theorem toNat_ofNat_of_lt (h : n < 256) : (UInt8.ofNat n).toNat = n := by
  rw [UInt8.toNat_ofNat', Nat.mod_eq_of_lt h]

theorem length_minimalBigEndian_pos (hpos : 0 < n) (hn : n ≤ MAX_INT) : 0 < (minimalBigEndian n).length :=
  List.length_pos_iff.mpr (minimalBigEndian_ne_nil hpos (Nat.lt_of_le_of_lt hn (by decide)))

theorem decodeRLPLength_minimalBigEndian (hpos : 0 < n) (hn : n ≤ MAX_INT) (first : UInt8) :
    decodeRLPLength (first :: (minimalBigEndian n ++ rest)) (minimalBigEndian n).length = some n := by
  have hlt : n < 256 ^ 8 := Nat.lt_of_le_of_lt hn (by decide)
  have hne := minimalBigEndian_ne_nil hpos hlt
  have hle := length_minimalBigEndian_le n
  have hlength := length_minimalBigEndian_pos hpos hn
  have hdigit : (first :: (minimalBigEndian n ++ rest))[1]? ≠ some 0 := by
    rw [List.getElem?_cons_succ, ← List.head?_eq_getElem?, List.head?_append_of_ne_nil _ hne]
    exact head?_minimalBigEndian n
  rw [decodeRLPLength, if_neg]
  · rw [List.drop_one, List.tail_cons, List.take_left, ofBigEndian_minimalBigEndian hlt]
    exact Option.filter_some_pos (decide_eq_true hn)
  · rw [List.length_cons, List.length_append, not_or, not_or, not_or]
    exact ⟨by omega, by omega, by omega, hdigit⟩

/-- A list is decoded after its header. -/
theorem decodeRLPDepth_list (hdata : data.length ≤ MAX_INT) :
    decodeRLPDepth (levels + 1) (rlpHeader 0xc0 data.length ++ (data ++ rest)) =
      decodeRLPList (decodeRLPDepth levels) (rlpHeader 0xc0 data.length ++ (data ++ rest))
        (rlpHeader 0xc0 data.length).length data.length := by
  by_cases hshort : data.length < 56
  · have hfirst := toNat_ofNat_of_lt (n := 0xc0 + data.length) (by omega)
    rw [rlpHeader, if_pos hshort, List.singleton_append]
    simp only [decodeRLPDepth, hfirst]
    rw [if_neg (by omega), if_neg (by omega), if_neg (by omega), if_pos (by omega), Nat.add_sub_cancel_left]
    rfl
  · have hle := length_minimalBigEndian_le data.length
    have hpos := length_minimalBigEndian_pos (by omega) hdata
    have hfirst := toNat_ofNat_of_lt (n := 0xc0 + 55 + (minimalBigEndian data.length).length) (by omega)
    rw [rlpHeader, if_neg hshort, List.cons_append]
    simp only [decodeRLPDepth, hfirst, Nat.add_sub_cancel_left,
      decodeRLPLength_minimalBigEndian (by omega : 0 < data.length) hdata]
    rw [if_neg (by omega), if_neg (by omega), if_neg (by omega), if_neg (by omega)]
    refine (if_neg ?_).trans ?_
    · simp only [List.length_cons, List.length_append]
      omega
    · rw [List.length_cons, Nat.add_comm 1]

theorem decodeRLPDepth_bytes (hdata : data.length ≤ MAX_INT) :
    (decodeRLPDepth (levels + 1) (rlpEncode (.bytes data) ++ rest)).isSome = true := by
  rw [rlpEncode]
  split
  · rename_i hbyte
    obtain ⟨x, rfl, hx⟩ := hbyte
    have hx : x.toNat < 0x80 := hx
    rw [List.singleton_append]
    simp only [decodeRLPDepth]
    rw [if_pos (by omega)]
    rfl
  rename_i hbyte
  rw [List.append_assoc]
  by_cases hshort : data.length < 56
  · have hfirst := toNat_ofNat_of_lt (n := 0x80 + data.length) (by omega)
    rw [rlpHeader, if_pos hshort, List.singleton_append]
    simp only [decodeRLPDepth, hfirst, Nat.add_sub_cancel_left]
    rw [if_neg (by omega), if_pos (by omega), if_neg]
    · rfl
    · rintro (hlength | ⟨hone, hsmall⟩)
      · simp only [List.length_cons, List.length_append] at hlength
        omega
      · obtain ⟨x, rfl⟩ := List.length_eq_one_iff.mp hone
        exact hbyte ⟨x, rfl, by simpa using hsmall⟩
  · have hle := length_minimalBigEndian_le data.length
    have hpos := length_minimalBigEndian_pos (by omega) hdata
    have hfirst := toNat_ofNat_of_lt (n := 0x80 + 55 + (minimalBigEndian data.length).length) (by omega)
    rw [rlpHeader, if_neg hshort, List.cons_append]
    simp only [decodeRLPDepth, hfirst, Nat.add_sub_cancel_left,
      decodeRLPLength_minimalBigEndian (by omega : 0 < data.length) hdata]
    rw [if_neg (by omega), if_neg (by omega), if_pos (by omega)]
    refine congrArg Option.isSome ((if_neg ?_).trans rfl)
    simp only [List.length_cons, List.length_append]
    omega

theorem length_le_rlpEncode (data : Octets) : data.length ≤ (rlpEncode (.bytes data)).length := by
  rw [rlpEncode]
  split
  · exact le_rfl
  · rw [List.length_append]
    omega

/-- A decoder of encodings reads the whole of the encoding that it is given, and nothing more. -/
theorem Decodes.determined (h : Decodes decode) (hlength : (rlpEncode item ++ rest).length ≤ MAX_INT)
    (hv : decode (rlpEncode item ++ rest) = some (v, n)) : n = (rlpEncode item).length ∧ v.Reads item := by
  obtain ⟨hn, item', hreads, htake⟩ := h hv
  have hlt : (rlpEncode item ++ rest).length < 256 ^ 8 := Nat.lt_of_le_of_lt hlength (by decide)
  have hlt' : (rlpEncode item').length < 256 ^ 8 := by
    rw [← htake, List.length_take]
    omega
  rw [List.length_append] at hlt
  obtain ⟨rfl, -⟩ := rlpEncode_append_inj item' item (x := (rlpEncode item ++ rest).drop n) hlt' (by omega)
    (by rw [← htake, List.take_append_drop])
  refine ⟨?_, hreads⟩
  rw [← htake, List.length_take, Nat.min_eq_left hn]

/-- A decoder accepts the encoding of an item, with whatever follows it, if and only if `p` holds of the item. -/
def Exact (decode : Octets → Option (RlpValue × Nat)) (p : RlpItem → Prop) : Prop :=
  ∀ item rest, (rlpEncode item ++ rest).length ≤ MAX_INT → ((decode (rlpEncode item ++ rest)).isSome = true ↔ p item)

theorem Exact.all {p : RlpItem → Prop} (h : Exact decode p) (hdecode : Decodes decode)
    (hlength : (rlpEncodeAll items).length ≤ MAX_INT) :
    (decodeItems decode n (rlpEncodeAll items)).isSome = true ↔ items.length ≤ n ∧ ∀ x ∈ items, p x := by
  induction items generalizing n with
  | nil => simp [rlpEncodeAll, decodeItems]
  | cons x items ih =>
    rw [rlpEncodeAll] at hlength ⊢
    have hpos := List.length_pos_iff.mpr (rlpEncode_ne_nil x)
    have hitems : (rlpEncodeAll items).length ≤ MAX_INT := by
      rw [List.length_append] at hlength
      omega
    have hx := h x _ hlength
    obtain _ | n := n
    · obtain ⟨b, bs, hb⟩ := List.exists_cons_of_ne_nil (rlpEncode_ne_nil x)
      rw [hb, List.cons_append, decodeItems]
      simp
    rw [decodeItems]
    · cases hv : decode (rlpEncode x ++ rlpEncodeAll items) with
      | none =>
        rw [hv] at hx
        simp only [Option.bind_eq_bind, Option.bind_none, Option.isSome_none, Bool.false_eq_true, false_iff]
        exact fun hall => absurd (hx.mpr (hall.2 x List.mem_cons_self)) (by simp)
      | some r =>
        obtain ⟨v, k⟩ := r
        obtain ⟨rfl, -⟩ := hdecode.determined hlength hv
        rw [hv] at hx
        have hguard : ¬ ((rlpEncode x).length = 0 ∨ (rlpEncode x ++ rlpEncodeAll items).length < (rlpEncode x).length) := by
          rw [List.length_append]
          omega
        have hrest := ih (n := n) hitems
        simp only [Option.bind_eq_bind, Option.bind_some, if_neg hguard, List.drop_left]
        rw [Option.isSome_bind, List.length_cons, Nat.add_le_add_iff_right, List.forall_mem_cons,
          and_left_comm, ← hrest]
        cases decodeItems decode n (rlpEncodeAll items) <;> simp [hx.mp rfl]
    · intro heq
      exact absurd (List.append_eq_nil_iff.mp heq).1 (rlpEncode_ne_nil x)

theorem decodeRLPDepth_exact (levels : Nat) : Exact (decodeRLPDepth levels) (WithinLimits levels) := by
  induction levels with
  | zero =>
    intro item rest _
    exact iff_of_false (by simp [decodeRLPDepth]) fun h => absurd (h 0 item (.self item)).1 (by simp)
  | succ levels ih =>
    intro item rest hlength
    cases item with
    | bytes data =>
      refine iff_of_true (decodeRLPDepth_bytes ?_) withinLimits_bytes
      have := length_le_rlpEncode data
      rw [List.length_append] at hlength
      omega
    | list items =>
      rw [rlpEncode, List.append_assoc] at hlength ⊢
      have hitems : (rlpEncodeAll items).length ≤ MAX_INT := by
        rw [List.length_append, List.length_append] at hlength
        omega
      rw [decodeRLPDepth_list hitems, decodeRLPList, if_neg, List.drop_left, List.take_left, withinLimits_list,
        ← Exact.all ih (decodeRLPDepth_decodes levels) hitems]
      · cases decodeItems (decodeRLPDepth levels) MAX_RLP_LIST_ITEMS (rlpEncodeAll items) <;> simp
      · simp only [List.length_append]
        omega

/-! ### Values -/

mutual

/-- A decoded value without the bytes it was read from. -/
def RlpValue.item : RlpValue → RlpItem
  | .string _ payload => .bytes payload
  | .list _ values => .list (itemsOf values)

def itemsOf : List RlpValue → List RlpItem
  | [] => []
  | v :: values => v.item :: itemsOf values

end

def RlpValue.raw : RlpValue → Octets
  | .string raw _ | .list raw _ => raw

mutual

theorem RlpValue.Reads.item_eq (v : RlpValue) {item : RlpItem} (h : v.Reads item) : v.item = item := by
  cases h with
  | string => rfl
  | list hvalues => rw [RlpValue.item, itemsOf_eq _ hvalues]

theorem itemsOf_eq (values : List RlpValue) {items : List RlpItem} (h : List.Forall₂ RlpValue.Reads values items) :
    itemsOf values = items := by
  cases h with
  | nil => rfl
  | cons hv hvalues => rw [itemsOf, RlpValue.Reads.item_eq _ hv, itemsOf_eq _ hvalues]

end

theorem RlpValue.Reads.raw_eq (h : v.Reads item) : v.raw = rlpEncode item := by
  cases h with
  | string hraw | list _ hraw => exact hraw

theorem rlpUint64_eq_some {payload : Octets} {x : Nat} :
    rlpUint64 payload = some x ↔ x < 2 ^ 64 ∧ payload = minimalBigEndian x := by
  rw [rlpUint64]
  constructor
  · intro h
    split at h
    · cases h
    · rename_i hguard
      rw [not_or] at hguard
      cases h
      have hlt := ofBigEndian_lt payload
      have hle : (256 : Nat) ^ payload.length ≤ 256 ^ 8 := Nat.pow_le_pow_right (by decide) (by omega)
      exact ⟨Nat.lt_of_lt_of_le hlt hle, (minimalBigEndian_ofBigEndian (by omega) hguard.2).symm⟩
  · rintro ⟨hx, rfl⟩
    rw [if_neg, ofBigEndian_minimalBigEndian hx]
    exact not_or.mpr ⟨Nat.not_lt.mpr (length_minimalBigEndian_le x), head?_minimalBigEndian x⟩

theorem decodeRLP_rlpEncodeUint (x : Nat) : decodeRLP (rlpEncodeUint x) =
    some (.string (rlpEncodeUint x) (minimalBigEndian x), (rlpEncodeUint x).length) := by
  have hle := length_rlpEncode_index x
  have hlength : (rlpEncode (.bytes (minimalBigEndian x)) ++ []).length ≤ MAX_INT := by
    rw [List.append_nil]
    exact hle.trans (by decide)
  obtain ⟨⟨v, n⟩, hv⟩ := Option.isSome_iff_exists.mp ((decodeRLPDepth_exact (MAX_RLP_DEPTH + 1) _ _ hlength).mpr
    withinLimits_bytes)
  obtain ⟨rfl, hreads⟩ := Decodes.determined (decodeRLPDepth_decodes _) hlength hv
  rw [List.append_nil, RlpValue.Reads.string_iff.mp hreads, ← rlpEncodeUint_eq] at hv
  exact hv

/-- A slice is no longer than the largest number of its length's type. -/
abbrev Slice := { b : Octets // b.length ≤ MAX_INT }

/-- Decoding accepts the canonical encodings within the limits and returns what they encode; numbers and their payloads
    determine each other. -/
theorem decodeRLP_exact (b : Slice) (n : Nat) :
    ((∃ v, decodeRLP b.1 = some (v, n)) ↔
      n ≤ b.1.length ∧ ∃ item, WithinLimits (MAX_RLP_DEPTH + 1) item ∧ b.1.take n = rlpEncode item) ∧
    (∀ v, decodeRLP b.1 = some (v, n) → v.raw = b.1.take n ∧ rlpEncode v.item = v.raw ∧ 1 ≤ n ∧
      ∀ m ≤ b.1.length, ∀ item, b.1.take m = rlpEncode item → m = n) ∧
    (∀ x < 2 ^ 64, ∃ payload, rlpUint64 payload = some x ∧
      decodeRLP (rlpEncodeUint x) = some (.string (rlpEncodeUint x) payload, (rlpEncodeUint x).length)) ∧
    ∀ payload x, rlpUint64 payload = some x → x < 2 ^ 64 ∧
      decodeRLP (rlpEncodeUint x) = some (.string (rlpEncodeUint x) payload, (rlpEncodeUint x).length) := by
  obtain ⟨b, hb⟩ := b
  dsimp only
  have split (m : Nat) {item : RlpItem} (h : b.take m = rlpEncode item) : rlpEncode item ++ b.drop m = b := by
    rw [← h, List.take_append_drop]
  refine ⟨⟨?_, ?_⟩, ?_, ?_, ?_⟩
  · rintro ⟨v, hv⟩
    obtain ⟨hn, item, -, htake⟩ := decodeRLPDepth_decodes _ hv
    have hb' : (rlpEncode item ++ b.drop n).length ≤ MAX_INT := by rwa [split n htake]
    refine ⟨hn, item, (decodeRLPDepth_exact _ _ _ hb').mp ?_, htake⟩
    rw [split n htake]
    exact Option.isSome_of_mem hv
  · rintro ⟨hn, item, hlimits, htake⟩
    have hb' : (rlpEncode item ++ b.drop n).length ≤ MAX_INT := by rwa [split n htake]
    obtain ⟨⟨v, k⟩, hv⟩ := Option.isSome_iff_exists.mp ((decodeRLPDepth_exact _ _ _ hb').mpr hlimits)
    obtain ⟨rfl, -⟩ := Decodes.determined (decodeRLPDepth_decodes _) hb' hv
    rw [split n htake, ← htake, List.length_take, Nat.min_eq_left hn] at hv
    exact ⟨v, hv⟩
  · intro v hv
    obtain ⟨hn, item, hreads, htake⟩ := decodeRLPDepth_decodes _ hv
    have hlength : (rlpEncode item).length = n := by rw [← htake, List.length_take, Nat.min_eq_left hn]
    refine ⟨hreads.raw_eq.trans htake.symm, by rw [RlpValue.Reads.item_eq v hreads, hreads.raw_eq], ?_, ?_⟩
    · rw [← hlength]
      exact List.length_pos_iff.mpr (rlpEncode_ne_nil item)
    · intro m hm item' htake'
      have hlength' : (rlpEncode item').length = m := by rw [← htake', List.length_take, Nat.min_eq_left hm]
      have hmax : MAX_INT < 256 ^ 8 := by decide
      obtain ⟨rfl, -⟩ := rlpEncode_append_inj item' item (by omega) (by omega) ((split m htake').trans (split n htake).symm)
      exact hlength'.symm.trans hlength
  · exact fun x hx => ⟨_, rlpUint64_eq_some.mpr ⟨hx, rfl⟩, decodeRLP_rlpEncodeUint x⟩
  · intro payload x h
    obtain ⟨hx, rfl⟩ := rlpUint64_eq_some.mp h
    exact ⟨hx, decodeRLP_rlpEncodeUint x⟩

end Unified.Indexer
