import Mathlib.Data.List.DropRight
import Unified.Lib.Bytes

/-! Recursive length prefix encoding: nested lists of byte strings, each written after its own length,
    so that no encoding begins another. -/

namespace Unified

/-- The bytes of a number below `256 ^ 8` without leading zeros. -/
def minimalBigEndian (n : Nat) : List UInt8 := (toBigEndian 8 n).dropWhile (· = 0)

theorem ofBigEndian_cons_zero (b : List UInt8) : ofBigEndian (0 :: b) = ofBigEndian b := rfl

theorem ofBigEndian_dropWhile (b : List UInt8) : ofBigEndian (b.dropWhile (· = 0)) = ofBigEndian b := by
  induction b with
  | nil => rfl
  | cons x _ ih =>
    by_cases hx : x = 0
    · rw [List.dropWhile_cons_of_pos (by simpa using hx), ih, hx, ofBigEndian_cons_zero]
    · rw [List.dropWhile_cons_of_neg (by simpa using hx)]

theorem ofBigEndian_minimalBigEndian {n : Nat} (hn : n < 256 ^ 8) : ofBigEndian (minimalBigEndian n) = n := by
  rw [minimalBigEndian, ofBigEndian_dropWhile, ofBigEndian_toBigEndian, Nat.mod_eq_of_lt hn]

theorem minimalBigEndian_inj {n m : Nat} (hn : n < 256 ^ 8) (hm : m < 256 ^ 8)
    (h : minimalBigEndian n = minimalBigEndian m) : n = m := by
  rw [← ofBigEndian_minimalBigEndian hn, h, ofBigEndian_minimalBigEndian hm]

theorem length_minimalBigEndian_le (n : Nat) : (minimalBigEndian n).length ≤ 8 := by
  have := (List.dropWhile_sublist (l := toBigEndian 8 n) fun x => decide (x = 0)).length_le
  rwa [length_toBigEndian] at this

theorem minimalBigEndian_ne_nil {n : Nat} (hpos : 0 < n) (hn : n < 256 ^ 8) : minimalBigEndian n ≠ [] := by
  intro h
  have := ofBigEndian_minimalBigEndian hn
  rw [h] at this
  change 0 = n at this
  omega

/-- Bytes that do not begin with zero are the bytes of the number they stand for. -/
theorem minimalBigEndian_ofBigEndian {b : List UInt8} (hlen : b.length ≤ 8) (hb : b.head? ≠ some 0) :
    minimalBigEndian (ofBigEndian b) = b := by
  have hpad : toBigEndian 8 (ofBigEndian b) = List.replicate (8 - b.length) 0 ++ b := by
    rw [← Nat.sub_add_cancel hlen, toBigEndian_pad (ofBigEndian_lt b), toBigEndian_ofBigEndian, Nat.add_sub_cancel]
  have hdrop : ∀ k, (List.replicate k (0 : UInt8) ++ b).dropWhile (· = 0) = b := by
    intro k
    induction k with
    | zero =>
      obtain _ | ⟨x, b⟩ := b
      · rfl
      · exact List.dropWhile_cons_of_neg (by simpa using hb)
    | succ _ ih => rw [List.replicate_succ, List.cons_append, List.dropWhile_cons_of_pos (by simp), ih]
  rw [minimalBigEndian, hpad, hdrop]

inductive RlpItem where
  | bytes (data : List UInt8)
  | list (items : List RlpItem)

/-- The length of a payload, in one byte or after the length of its own bytes. -/
def rlpHeader (base n : Nat) : List UInt8 :=
  if n < 56 then [UInt8.ofNat (base + n)]
  else UInt8.ofNat (base + 55 + (minimalBigEndian n).length) :: minimalBigEndian n

/-- A byte that is its own encoding. -/
def IsRlpByte (data : List UInt8) : Prop := ∃ x, data = [x] ∧ x < 0x80

instance (data : List UInt8) : Decidable (IsRlpByte data) :=
  match data with
  | [x] => decidable_of_iff (x < 0x80) (by simp [IsRlpByte])
  | [] => .isFalse (by simp [IsRlpByte])
  | _ :: _ :: _ => .isFalse (by simp [IsRlpByte])

mutual

def rlpEncode : RlpItem → List UInt8
  | .bytes data => if IsRlpByte data then data else rlpHeader 0x80 data.length ++ data
  | .list items => rlpHeader 0xc0 (rlpEncodeAll items).length ++ rlpEncodeAll items

def rlpEncodeAll : List RlpItem → List UInt8
  | [] => []
  | item :: items => rlpEncode item ++ rlpEncodeAll items

end

/-! ### Unique reading -/

section

variable {base n m : Nat} {x y data : List UInt8} {items : List RlpItem}

/-- The first byte of a header tells its base. -/
theorem head_rlpHeader (base : Nat) (hbase : base + 63 < 256) (hn : n < 256 ^ 8) :
    ∃ b rest, rlpHeader base n = b :: rest ∧ base ≤ b.toNat ∧ b.toNat ≤ base + 63 := by
  rw [rlpHeader]
  split
  · refine ⟨_, _, rfl, ?_⟩
    rw [UInt8.toNat_ofNat', Nat.mod_eq_of_lt (by omega)]
    omega
  · have := length_minimalBigEndian_le n
    refine ⟨_, _, rfl, ?_⟩
    rw [UInt8.toNat_ofNat', Nat.mod_eq_of_lt (by omega)]
    omega

theorem ofNat_inj_of_lt (hn : n < 256) (hm : m < 256) (h : UInt8.ofNat n = UInt8.ofNat m) : n = m := by
  have := congrArg UInt8.toNat h
  rwa [UInt8.toNat_ofNat', UInt8.toNat_ofNat', Nat.mod_eq_of_lt hn, Nat.mod_eq_of_lt hm] at this

theorem rlpHeader_append_inj (hbase : base + 63 < 256) (hn : n < 256 ^ 8) (hm : m < 256 ^ 8)
    (h : rlpHeader base n ++ x = rlpHeader base m ++ y) : n = m ∧ x = y := by
  have hnlen := length_minimalBigEndian_le n
  have hmlen := length_minimalBigEndian_le m
  rw [rlpHeader, rlpHeader] at h
  split at h <;> split at h <;> rw [List.cons_append, List.cons_append] at h <;>
    obtain ⟨hfirst, hrest⟩ := List.cons.inj h
  · have := ofNat_inj_of_lt (by omega) (by omega) hfirst
    exact ⟨by omega, hrest⟩
  · have := ofNat_inj_of_lt (by omega) (by omega) hfirst
    have := List.length_pos_iff.mpr (minimalBigEndian_ne_nil (n := m) (by omega) hm)
    omega
  · have := ofNat_inj_of_lt (by omega) (by omega) hfirst
    have := List.length_pos_iff.mpr (minimalBigEndian_ne_nil (n := n) (by omega) hn)
    omega
  · have := ofNat_inj_of_lt (by omega) (by omega) hfirst
    obtain ⟨hlength, hxy⟩ := List.append_inj hrest (by omega)
    exact ⟨minimalBigEndian_inj hn hm hlength, hxy⟩

/-- A header, a payload of the announced length and what follows can be told apart. -/
theorem rlpFrame_append_inj {p q : List UInt8} (hbase : base + 63 < 256) (hp : p.length < 256 ^ 8)
    (hq : q.length < 256 ^ 8) (h : rlpHeader base p.length ++ p ++ x = rlpHeader base q.length ++ q ++ y) :
    p = q ∧ x = y := by
  rw [List.append_assoc, List.append_assoc] at h
  obtain ⟨hlength, hpayload⟩ := rlpHeader_append_inj hbase hp hq h
  exact List.append_inj hpayload hlength

theorem head_rlpEncode_bytes (h : (rlpEncode (.bytes data)).length < 256 ^ 8) :
    ∃ b rest, rlpEncode (.bytes data) = b :: rest ∧ b.toNat < 0xc0 ∧ (¬ IsRlpByte data → 0x80 ≤ b.toNat) := by
  rw [rlpEncode] at h ⊢
  split
  · rename_i hbyte
    obtain ⟨b, rfl, hb⟩ := hbyte
    have : b.toNat < 0x80 := hb
    exact ⟨b, [], rfl, by omega, fun hne => absurd ⟨b, rfl, hb⟩ hne⟩
  · rename_i hbyte
    rw [if_neg hbyte, List.length_append] at h
    obtain ⟨b, rest, heq, hlow, hhigh⟩ := head_rlpHeader 0x80 (n := data.length) (by decide) (by omega)
    exact ⟨b, rest ++ data, by rw [heq]; rfl, by omega, fun _ => hlow⟩

theorem head_rlpEncode_list (h : (rlpEncode (.list items)).length < 256 ^ 8) :
    ∃ b rest, rlpEncode (.list items) = b :: rest ∧ 0xc0 ≤ b.toNat := by
  rw [rlpEncode] at h ⊢
  rw [List.length_append] at h
  obtain ⟨b, rest, heq, hlow, -⟩ := head_rlpHeader 0xc0 (n := (rlpEncodeAll items).length) (by decide) (by omega)
  exact ⟨b, _, by rw [heq]; rfl, hlow⟩

theorem rlpEncode_ne_nil (item : RlpItem) : rlpEncode item ≠ [] := by
  have header : ∀ base n, rlpHeader base n ≠ [] := by
    intro base n
    rw [rlpHeader]
    split <;> exact List.cons_ne_nil _ _
  cases item with
  | bytes data =>
    rw [rlpEncode]
    split
    · rename_i hbyte
      obtain ⟨b, rfl, -⟩ := hbyte
      exact List.cons_ne_nil _ _
    · exact List.append_ne_nil_of_left_ne_nil (header _ _) _
  | list => exact List.append_ne_nil_of_left_ne_nil (header _ _) _

theorem rlpEncode_bytes_append_inj {data' : List UInt8} (h : (rlpEncode (.bytes data)).length < 256 ^ 8)
    (h' : (rlpEncode (.bytes data')).length < 256 ^ 8)
    (heq : rlpEncode (.bytes data) ++ x = rlpEncode (.bytes data') ++ y) : data = data' ∧ x = y := by
  -- a single small byte is below every header
  have apart : ∀ {d d' u v : List UInt8}, IsRlpByte d → ¬ IsRlpByte d' → (rlpEncode (.bytes d')).length < 256 ^ 8 →
      rlpEncode (.bytes d) ++ u ≠ rlpEncode (.bytes d') ++ v := by
    intro d d' u v hd hd' hlen heq
    obtain ⟨b, rest, hb, -, hhigh⟩ := head_rlpEncode_bytes hlen
    have hhigh := hhigh hd'
    rw [hb, rlpEncode, if_pos hd] at heq
    obtain ⟨c, rfl, hc⟩ := hd
    have : c.toNat < 0x80 := hc
    rw [(List.cons.inj heq).1] at this
    omega
  by_cases hdata : IsRlpByte data <;> by_cases hdata' : IsRlpByte data'
  · rw [rlpEncode, rlpEncode, if_pos hdata, if_pos hdata'] at heq
    obtain ⟨b, rfl, -⟩ := hdata
    obtain ⟨b', rfl, -⟩ := hdata'
    exact List.append_inj heq rfl
  · exact absurd heq (apart hdata hdata' h')
  · exact absurd heq.symm (apart hdata' hdata h)
  · rw [rlpEncode, if_neg hdata] at h heq
    rw [rlpEncode, if_neg hdata'] at h' heq
    rw [List.length_append] at h h'
    exact rlpFrame_append_inj (by decide) (by omega) (by omega) heq

theorem length_rlpEncodeAll_lt (h : (rlpEncode (.list items)).length < 256 ^ 8) :
    (rlpEncodeAll items).length < 256 ^ 8 := by
  rw [rlpEncode, List.length_append] at h
  omega

end

mutual

/-- No encoding begins another. -/
theorem rlpEncode_append_inj : ∀ (a b : RlpItem) {x y : List UInt8}, (rlpEncode a).length < 256 ^ 8 →
    (rlpEncode b).length < 256 ^ 8 → rlpEncode a ++ x = rlpEncode b ++ y → a = b ∧ x = y
  | .bytes data, .bytes data', _, _, ha, hb, h => by
    obtain ⟨rfl, hxy⟩ := rlpEncode_bytes_append_inj ha hb h
    exact ⟨rfl, hxy⟩
  | .bytes data, .list items, _, _, ha, hb, h => by
    obtain ⟨b, rest, hfirst, hlow, -⟩ := head_rlpEncode_bytes ha
    obtain ⟨b', rest', hfirst', hhigh⟩ := head_rlpEncode_list hb
    rw [hfirst, hfirst'] at h
    rw [(List.cons.inj h).1] at hlow
    omega
  | .list items, .bytes data, _, _, ha, hb, h => by
    obtain ⟨b, rest, hfirst, hlow, -⟩ := head_rlpEncode_bytes hb
    obtain ⟨b', rest', hfirst', hhigh⟩ := head_rlpEncode_list ha
    rw [hfirst, hfirst'] at h
    rw [(List.cons.inj h).1] at hhigh
    omega
  | .list items, .list items', _, _, ha, hb, h => by
    have hp := length_rlpEncodeAll_lt ha
    have hq := length_rlpEncodeAll_lt hb
    rw [rlpEncode, rlpEncode] at h
    obtain ⟨hpayload, hxy⟩ := rlpFrame_append_inj (by decide) hp hq h
    rw [rlpEncodeAll_inj items items' hp hq hpayload]
    exact ⟨rfl, hxy⟩

theorem rlpEncodeAll_inj : ∀ (as bs : List RlpItem), (rlpEncodeAll as).length < 256 ^ 8 →
    (rlpEncodeAll bs).length < 256 ^ 8 → rlpEncodeAll as = rlpEncodeAll bs → as = bs
  | [], [], _, _, _ => rfl
  | [], b :: bs, _, _, h => by
    rw [rlpEncodeAll, rlpEncodeAll] at h
    exact absurd (List.append_eq_nil_iff.mp h.symm).1 (rlpEncode_ne_nil b)
  | a :: as, [], _, _, h => by
    rw [rlpEncodeAll, rlpEncodeAll] at h
    exact absurd (List.append_eq_nil_iff.mp h).1 (rlpEncode_ne_nil a)
  | a :: as, b :: bs, ha, hb, h => by
    rw [rlpEncodeAll, List.length_append] at ha
    rw [rlpEncodeAll, List.length_append] at hb
    rw [rlpEncodeAll, rlpEncodeAll] at h
    obtain ⟨rfl, htail⟩ := rlpEncode_append_inj a b (by omega) (by omega) h
    rw [rlpEncodeAll_inj as bs (by omega) (by omega) htail]

end

theorem rlpEncode_inj {a b : RlpItem} (h : rlpEncode a = rlpEncode b) (hlen : (rlpEncode a).length < 256 ^ 8) : a = b :=
  (rlpEncode_append_inj (x := []) (y := []) a b hlen (h ▸ hlen) (by rw [h])).1

end Unified
