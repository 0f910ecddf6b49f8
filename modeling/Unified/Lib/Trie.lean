import Mathlib.Data.List.FinRange
import Unified.Lib.Rlp

/-! Merkle-Patricia tries: nodes over paths of nibbles, what a path leads to, the encoding of a node in
    which a long child stands as its hash, and the trie of a set of entries. -/

namespace Unified

abbrev Nibble := Fin 16

instance neZero_sixteen : NeZero 16 := ⟨by decide⟩

/-- Entries of a trie: paths and values. -/
abbrev TrieEntries := List (List Nibble × List UInt8)

def bytesToNibbles (b : List UInt8) : List Nibble := b.flatMap fun x => [Fin.ofNat 16 (x.toNat / 16), Fin.ofNat 16 x.toNat]

/-- Two nibbles to a byte; a last single nibble is dropped. -/
def packNibbles : List Nibble → List UInt8
  | high :: low :: rest => UInt8.ofNat (16 * high.val + low.val) :: packNibbles rest
  | _ => []

/-- A path with a flag for a leaf and, in front, the nibble that makes its length even. -/
def hexPrefix (path : List Nibble) (leaf : Bool) : List UInt8 :=
  let flag : Nibble := if leaf then 2 else 0
  if path.length % 2 = 1 then packNibbles ((flag + 1) :: path) else packNibbles (flag :: 0 :: path)

theorem bytesToNibbles_cons (x : UInt8) (b : List UInt8) :
    bytesToNibbles (x :: b) = Fin.ofNat 16 (x.toNat / 16) :: Fin.ofNat 16 x.toNat :: bytesToNibbles b := rfl

theorem bytesToNibbles_packNibbles {path : List Nibble} (h : path.length % 2 = 0) :
    bytesToNibbles (packNibbles path) = path := by
  induction path using packNibbles.induct with
  | case1 high low rest ih =>
    have hrest : rest.length % 2 = 0 := by
      rw [List.length_cons, List.length_cons] at h
      omega
    have hhigh := high.isLt
    have hlow := low.isLt
    have hbyte : (UInt8.ofNat (16 * high.val + low.val)).toNat = 16 * high.val + low.val := by
      rw [UInt8.toNat_ofNat', Nat.mod_eq_of_lt (by omega)]
    rw [packNibbles, bytesToNibbles_cons, ih hrest, hbyte]
    congr 2
    · apply Fin.ext
      rw [Fin.val_ofNat]
      omega
    · apply Fin.ext
      rw [Fin.val_ofNat]
      omega
  | case2 path hpath =>
    obtain _ | ⟨a, _ | ⟨b, rest⟩⟩ := path
    · rfl
    · simp at h
    · exact absurd rfl (hpath a b rest)

theorem bytesToNibbles_inj {b b' : List UInt8} (h : bytesToNibbles b = bytesToNibbles b') : b = b' := by
  induction b generalizing b' with
  | nil =>
    obtain _ | ⟨x', b'⟩ := b'
    · rfl
    · cases h
  | cons x _ ih =>
    obtain _ | ⟨x', b'⟩ := b'
    · cases h
    · rw [bytesToNibbles_cons, bytesToNibbles_cons] at h
      obtain ⟨hhigh, h⟩ := List.cons.inj h
      obtain ⟨hlow, hrest⟩ := List.cons.inj h
      have hx := x.toNat_lt
      have hx' := x'.toNat_lt
      have hhigh := congrArg Fin.val hhigh
      have hlow := congrArg Fin.val hlow
      rw [Fin.val_ofNat, Fin.val_ofNat] at hhigh hlow
      rw [ih hrest, UInt8.toNat_inj.mp (by omega : x.toNat = x'.toNat)]

theorem length_bytesToNibbles (b : List UInt8) : (bytesToNibbles b).length = 2 * b.length := by
  induction b with
  | nil => rfl
  | cons _ _ ih =>
    rw [bytesToNibbles_cons, List.length_cons, List.length_cons, ih, List.length_cons]
    omega

inductive Trie where
  | empty
  | leaf (path : List Nibble) (value : List UInt8)
  | extension (path : List Nibble) (child : Trie)
  | branch (children : Nibble → Trie) (value : List UInt8)

/-- The value that a path leads to; a branch without a value holds the empty string. -/
def Trie.lookup : Trie → List Nibble → Option (List UInt8)
  | .empty, _ => none
  | .leaf path value, key => if key = path then some value else none
  | .extension path child, key => if path <+: key then child.lookup (key.drop path.length) else none
  | .branch _ value, [] => if value = [] then none else some value
  | .branch children _, n :: key => (children n).lookup key

/-- A node and every node below it. -/
inductive Trie.Contains : Trie → Trie → Prop
  | self (t : Trie) : Contains t t
  | extension {path : List Nibble} {child t : Trie} : Contains child t → Contains (.extension path child) t
  | branch {children : Nibble → Trie} {value : List UInt8} {t : Trie} (n : Nibble) :
    Contains (children n) t → Contains (.branch children value) t

/-- All nodes of a trie. -/
def Trie.nodes : Trie → List Trie
  | .empty => [.empty]
  | .leaf path value => [.leaf path value]
  | .extension path child => .extension path child :: child.nodes
  | .branch children value => .branch children value :: (List.finRange 16).flatMap fun n => (children n).nodes

theorem Trie.Contains.mem_nodes {t u : Trie} (h : t.Contains u) : u ∈ t.nodes := by
  induction h with
  | self t => cases t <;> exact List.mem_cons_self
  | extension _ ih => exact List.mem_cons_of_mem _ ih
  | branch n _ ih => exact List.mem_cons_of_mem _ (List.mem_flatMap.mpr ⟨n, List.mem_finRange n, ih⟩)

section

variable (hash : List UInt8 → List UInt8)

/-- A node inside its parent: as it is when it is short, else as its hash. -/
def trieReferenceOf (item : RlpItem) : RlpItem :=
  if (rlpEncode item).length < 32 then item else .bytes (hash (rlpEncode item))

def Trie.item : Trie → RlpItem
  | .empty => .bytes []
  | .leaf path value => .list [.bytes (hexPrefix path true), .bytes value]
  | .extension path child => .list [.bytes (hexPrefix path false), trieReferenceOf hash child.item]
  | .branch children value =>
    .list ((List.finRange 16).map (fun n => trieReferenceOf hash (children n).item) ++ [.bytes value])

def Trie.root (t : Trie) : List UInt8 := hash (rlpEncode (t.item hash))

end

/-! ### The trie of a set of entries -/

def sharedPrefix : List Nibble → List Nibble → List Nibble
  | a :: as, b :: bs => if a = b then a :: sharedPrefix as bs else []
  | _, _ => []

/-- The longest path that begins every path of the list. -/
def commonPrefix : List (List Nibble) → List Nibble
  | [] => []
  | [path] => path
  | path :: paths => sharedPrefix path (commonPrefix paths)

def entriesBelow (n : Nibble) (entries : TrieEntries) : TrieEntries :=
  entries.filterMap fun e =>
    match e.1 with
    | [] => none
    | m :: path => if m = n then some (path, e.2) else none

def valueHere (entries : TrieEntries) : List UInt8 := ((entries.find? (·.1 = [])).map Prod.snd).getD []

/-- One entry is a leaf; a shared beginning is an extension; else the entries branch. `fuel` bounds the
    length of the paths. -/
def Trie.build : Nat → TrieEntries → Trie
  | _, [] => .empty
  | _, [(path, value)] => .leaf path value
  | 0, _ :: _ :: _ => .empty
  | fuel + 1, entries =>
    match commonPrefix (entries.map Prod.fst) with
    | [] => .branch (fun n => build fuel (entriesBelow n entries)) (valueHere entries)
    | n :: path => .extension (n :: path) (build fuel (entries.map fun e => (e.1.drop (path.length + 1), e.2)))

theorem sharedPrefix_le (a b : List Nibble) : sharedPrefix a b <+: a ∧ sharedPrefix a b <+: b := by
  induction a, b using sharedPrefix.induct with
  | case1 _ _ _ ih =>
    rw [sharedPrefix, if_pos rfl]
    exact ⟨List.cons_prefix_cons.mpr ⟨rfl, ih.1⟩, List.cons_prefix_cons.mpr ⟨rfl, ih.2⟩⟩
  | case2 _ _ _ _ hne =>
    rw [sharedPrefix, if_neg hne]
    exact ⟨List.nil_prefix, List.nil_prefix⟩
  | case3 _ _ h =>
    rw [sharedPrefix]
    · exact ⟨List.nil_prefix, List.nil_prefix⟩
    · exact h

theorem commonPrefix_prefix {paths : List (List Nibble)} {path : List Nibble} (h : path ∈ paths) :
    commonPrefix paths <+: path := by
  induction paths using commonPrefix.induct with
  | case1 => cases h
  | case2 =>
    obtain rfl := List.mem_singleton.mp h
    exact List.prefix_rfl
  | case3 _ _ hne ih =>
    rw [commonPrefix]
    · rcases List.mem_cons.mp h with rfl | hmem
      · exact (sharedPrefix_le _ _).1
      · exact (sharedPrefix_le _ _).2.trans (ih hmem)
    · exact hne

section

variable {entries : TrieEntries} {n : Nibble} {path key : List Nibble} {value : List UInt8}

theorem mem_entriesBelow : (path, value) ∈ entriesBelow n entries ↔ (n :: path, value) ∈ entries := by
  rw [entriesBelow, List.mem_filterMap]
  constructor
  · rintro ⟨⟨k, v⟩, hmem, he⟩
    obtain _ | ⟨m, k⟩ := k
    · cases he
    · dsimp only at he
      split at he
      · rename_i hm
        cases he
        exact hm ▸ hmem
      · cases he
  · intro hmem
    exact ⟨_, hmem, if_pos rfl⟩

theorem nodup_entriesBelow (h : (entries.map Prod.fst).Nodup) : ((entriesBelow n entries).map Prod.fst).Nodup := by
  induction entries with
  | nil => exact .nil
  | cons e entries ih =>
    rw [List.map_cons, List.nodup_cons] at h
    rw [entriesBelow, List.filterMap_cons]
    split
    · exact ih h.2
    · rename_i e' he
      rw [List.map_cons, List.nodup_cons]
      refine ⟨fun hmem => h.1 ?_, ih h.2⟩
      -- an entry below with the same path would be an entry with the same path
      obtain ⟨⟨p, v⟩, hbelow, hp⟩ := List.mem_map.mp hmem
      obtain ⟨k, w⟩ := e
      obtain _ | ⟨m, k⟩ := k
      · cases he
      · dsimp only at he
        split at he
        · rename_i hm
          cases he
          subst hm
          cases hp
          exact List.mem_map.mpr ⟨_, mem_entriesBelow.mp hbelow, rfl⟩
        · cases he

theorem valueHere_eq (h : (entries.map Prod.fst).Nodup) (hvalue : value ≠ []) :
    valueHere entries = value ↔ ([], value) ∈ entries := by
  induction entries with
  | nil =>
    rw [valueHere]
    exact iff_of_false (fun he => hvalue he.symm) (by simp)
  | cons e entries ih =>
    rw [List.map_cons, List.nodup_cons] at h
    obtain ⟨k, w⟩ := e
    by_cases hk : k = []
    · subst hk
      have hother : ([], value) ∉ entries := fun hmem => h.1 (List.mem_map.mpr ⟨_, hmem, rfl⟩)
      rw [valueHere, List.find?_cons_of_pos (by simp), Option.map_some, Option.getD_some, List.mem_cons,
        or_iff_left hother]
      simp [eq_comm]
    · have hskip : valueHere ((k, w) :: entries) = valueHere entries := by
        rw [valueHere, List.find?_cons_of_neg (by simpa using hk), valueHere]
      have hne : ([], value) ≠ (k, w) := fun he => hk (Prod.mk.inj he).1.symm
      rw [hskip, ih h.2, List.mem_cons, or_iff_right hne]

/-- Paths that begin alike stay distinct without their common beginning. -/
theorem nodup_map_drop (path : List Nibble) (h : (entries.map Prod.fst).Nodup) (hpath : ∀ e ∈ entries, path <+: e.1) :
    ((entries.map fun e => (e.1.drop path.length, e.2)).map Prod.fst).Nodup := by
  have hmap : (entries.map fun e => (e.1.drop path.length, e.2)).map Prod.fst =
      (entries.map Prod.fst).map (List.drop path.length) := by
    rw [List.map_map, List.map_map]
    rfl
  rw [hmap]
  refine List.Nodup.map_on ?_ h
  intro a ha b hb hab
  obtain ⟨e, he, rfl⟩ := List.mem_map.mp ha
  obtain ⟨e', he', rfl⟩ := List.mem_map.mp hb
  rw [← List.prefix_iff_eq_append.mp (hpath e he), hab, List.prefix_iff_eq_append.mp (hpath e' he')]

theorem mem_map_drop (path : List Nibble) (hpath : ∀ e ∈ entries, path <+: e.1) :
    (key, value) ∈ entries.map (fun e => (e.1.drop path.length, e.2)) ↔ (path ++ key, value) ∈ entries := by
  rw [List.mem_map]
  constructor
  · rintro ⟨e, he, heq⟩
    obtain ⟨hkey, rfl⟩ := Prod.mk.inj heq
    rw [← hkey, List.prefix_iff_eq_append.mp (hpath e he)]
    exact he
  · intro hmem
    exact ⟨_, hmem, by rw [List.drop_left]⟩

end

/-- A path leads to the value of its entry, and other paths lead nowhere. -/
theorem Trie.lookup_build {fuel : Nat} {entries : TrieEntries} {key : List Nibble} {value : List UInt8}
    (distinct : (entries.map Prod.fst).Nodup) (bounded : ∀ e ∈ entries, e.1.length ≤ fuel)
    (nonempty : ∀ e ∈ entries, e.2 ≠ []) :
    (build fuel entries).lookup key = some value ↔ (key, value) ∈ entries := by
  induction fuel, entries using Trie.build.induct generalizing key value with
  | case1 => simp [build, lookup]
  | case2 =>
    rw [build, lookup, List.mem_singleton, Prod.mk.injEq]
    split
    · simp [*, eq_comm]
    · simp [*]
  | case3 e e' =>
    have h1 : e.1 = [] := List.length_eq_zero_iff.mp (Nat.le_zero.mp (bounded e (by simp)))
    have h2 : e'.1 = [] := List.length_eq_zero_iff.mp (Nat.le_zero.mp (bounded e' (by simp)))
    simp [h1, h2] at distinct
  | case4 fuel entries hne hne' hcommon ih =>
    rw [build]
    · rw [hcommon]
      obtain _ | ⟨n, key⟩ := key
      · rw [lookup]
        by_cases hv : value = []
        · subst hv
          refine iff_of_false ?_ fun hmem => nonempty _ hmem rfl
          split
          · exact Option.some_ne_none _ ∘ Eq.symm
          · rename_i hvalue
            exact fun h => hvalue (Option.some.inj h)
        · rw [← valueHere_eq distinct hv]
          split
          · rename_i hnone
            simp [hnone, eq_comm, hv]
          · exact Option.some_inj
      · rw [lookup, ih n (nodup_entriesBelow distinct), mem_entriesBelow]
        · rintro ⟨p, v⟩ hmem
          have := bounded _ (mem_entriesBelow.mp hmem)
          rw [List.length_cons] at this
          exact Nat.le_of_succ_le_succ this
        · rintro ⟨p, v⟩ hmem
          exact nonempty (n :: p, v) (mem_entriesBelow.mp hmem)
    · exact hne
    · exact hne'
  | case5 fuel entries hne hne' n path hcommon ih =>
    have hpath : ∀ e ∈ entries, n :: path <+: e.1 := by
      intro e he
      rw [← hcommon]
      exact commonPrefix_prefix (List.mem_map_of_mem he)
    rw [build]
    · rw [hcommon]
      dsimp only
      rw [lookup]
      have hchild : ∀ rest, (build fuel (entries.map fun e => (e.1.drop (path.length + 1), e.2))).lookup rest =
          some value ↔ ((n :: path) ++ rest, value) ∈ entries := by
        intro rest
        rw [ih (nodup_map_drop (n :: path) distinct hpath)]
        · exact mem_map_drop (n :: path) hpath
        · intro e hmem
          obtain ⟨e, he, rfl⟩ := List.mem_map.mp hmem
          have := bounded e he
          rw [List.length_drop]
          omega
        · intro e hmem
          obtain ⟨e, he, rfl⟩ := List.mem_map.mp hmem
          exact nonempty e he
      split
      · rename_i hp
        rw [List.length_cons, hchild, ← List.length_cons, List.prefix_iff_eq_append.mp hp]
      · rename_i hp
        exact iff_of_false (Option.some_ne_none _ ∘ Eq.symm) fun hmem => hp (hpath _ hmem)
    · exact hne
    · exact hne'

/-- The path of a position: the nibbles of its encoding. -/
def indexPath (i : Nat) : List Nibble := bytesToNibbles (rlpEncode (.bytes (minimalBigEndian i)))

def listTrie (values : List (List UInt8)) : Trie :=
  .build 18 (values.zipIdx.map fun v => (indexPath v.2, v.1))

theorem length_rlpEncode_index (i : Nat) : (rlpEncode (.bytes (minimalBigEndian i))).length ≤ 9 := by
  have hlen := length_minimalBigEndian_le i
  rw [rlpEncode]
  split
  · omega
  · rw [rlpHeader, if_pos (by omega), List.length_append, List.length_singleton]
    omega

theorem indexPath_inj {i j : Nat} (hi : i < 256 ^ 8) (hj : j < 256 ^ 8) (h : indexPath i = indexPath j) : i = j := by
  have hbytes := bytesToNibbles_inj h
  have hlen := length_rlpEncode_index i
  have := RlpItem.bytes.inj (rlpEncode_inj hbytes (by omega))
  exact minimalBigEndian_inj hi hj this

theorem lookup_listTrie {values : List (List UInt8)} (hlen : values.length ≤ 256 ^ 8) (hne : ∀ v ∈ values, v ≠ [])
    {i : Nat} (hi : i < 256 ^ 8) {v : List UInt8} :
    (listTrie values).lookup (indexPath i) = some v ↔ values[i]? = some v := by
  have bound : ∀ e ∈ values.zipIdx, e.2 < 256 ^ 8 := by
    intro e he
    have := List.snd_lt_of_mem_zipIdx he
    omega
  rw [listTrie, Trie.lookup_build]
  · rw [List.mem_map]
    constructor
    · rintro ⟨e, he, heq⟩
      obtain ⟨hpath, rfl⟩ := Prod.mk.inj heq
      rw [← indexPath_inj (bound e he) hi hpath]
      exact List.mk_mem_zipIdx_iff_getElem?.mp he
    · intro hv
      exact ⟨(v, i), List.mk_mem_zipIdx_iff_getElem?.mpr hv, rfl⟩
  · rw [List.map_map]
    have hindexes : (values.zipIdx.map Prod.snd).Nodup := by
      rw [List.zipIdx_map_snd]
      exact List.nodup_range'
    have : (Prod.fst ∘ fun v : List UInt8 × Nat => (indexPath v.2, v.1)) = indexPath ∘ Prod.snd := rfl
    rw [this, ← List.map_map]
    refine List.Nodup.map_on ?_ hindexes
    intro a ha b hb hab
    obtain ⟨e, he, rfl⟩ := List.mem_map.mp ha
    obtain ⟨e', he', rfl⟩ := List.mem_map.mp hb
    exact indexPath_inj (bound e he) (bound e' he') hab
  · intro e he
    obtain ⟨e, -, rfl⟩ := List.mem_map.mp he
    rw [indexPath, length_bytesToNibbles]
    have := length_rlpEncode_index e.2
    omega
  · intro e hmem
    obtain ⟨e, he, rfl⟩ := List.mem_map.mp hmem
    exact hne _ (List.fst_mem_of_mem_zipIdx he)

end Unified
