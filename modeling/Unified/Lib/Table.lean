import Mathlib
import Unified.Lib.Checked

/-! Finite maps of one value type, built up from and taken apart into lists of entries. -/

namespace Unified

/-- A map in which only finitely many keys have a value. -/
abbrev Table (K V : Type) := Finmap fun _ : K => V

namespace Table

variable {K V W : Type} [DecidableEq K]

theorem lookup_insert_apply (t : Table K V) (k k' : K) (v : V) :
    (t.insert k v).lookup k' = if k' = k then some v else t.lookup k' := by
  by_cases h : k' = k
  · subst h
    rw [if_pos rfl, Finmap.lookup_insert]
  · rw [if_neg h, Finmap.lookup_insert_of_ne _ h]

theorem lookup_erase_apply (t : Table K V) (k k' : K) :
    (t.erase k).lookup k' = if k' = k then none else t.lookup k' := by
  by_cases h : k' = k
  · subst h
    rw [if_pos rfl, Finmap.lookup_erase]
  · rw [if_neg h, Finmap.lookup_erase_ne h]

theorem lookup_of_erase {t : Table K V} {k k' : K} {v : V} (h : (t.erase k).lookup k' = some v) :
    k' ≠ k ∧ t.lookup k' = some v := by
  rw [lookup_erase_apply] at h
  split at h
  · cases h
  · next hne => exact ⟨hne, h⟩

/-- The map with the same keys that `f` reads as given, where `f` has no value off them. -/
def pick (t : Table K V) (f : K → Option W) : Table K W :=
  Finmap.keysLookupEquiv.symm
    ⟨(t.keys.filter fun k => (f k).isSome, fun k => if k ∈ t then f k else none), by
      intro k
      by_cases h : k ∈ t <;> simp [h, Finmap.mem_keys]⟩

theorem lookup_pick (t : Table K V) (f : K → Option W) (k : K) :
    (t.pick f).lookup k = if k ∈ t then f k else none :=
  Finmap.keysLookupEquiv_symm_apply_lookup _ k

def filter (p : V → Bool) (t : Table K V) : Table K V := t.pick fun k => (t.lookup k).filter p

theorem lookup_filter (p : V → Bool) (t : Table K V) (k : K) :
    (t.filter p).lookup k = (t.lookup k).filter p := by
  rw [filter, lookup_pick]
  split
  · rfl
  · next h => rw [Finmap.lookup_eq_none.mpr h, Option.filter_none]

def map (f : V → W) (t : Table K V) : Table K W := t.pick fun k => (t.lookup k).map f

theorem lookup_map (f : V → W) (t : Table K V) (k : K) : (t.map f).lookup k = (t.lookup k).map f := by
  rw [map, lookup_pick]
  split
  · rfl
  · next h => rw [Finmap.lookup_eq_none.mpr h, Option.map_none]

/-- Whether some value of the map has a property. -/
def Any (t : Table K V) (p : V → Prop) : Prop := ∃ k ∈ t.keys, ∃ v, t.lookup k = some v ∧ p v

variable {entries : List (K × V)} {t : Table K V} {xs ys : List (K × V)} {k : K} {v : V}

theorem any_iff {p : V → Prop} : t.Any p ↔ ∃ k v, t.lookup k = some v ∧ p v := by
  constructor
  · rintro ⟨k, -, v, h⟩
    exact ⟨k, v, h⟩
  · rintro ⟨k, v, hk, hv⟩
    exact ⟨k, Finmap.mem_keys.mpr (Finmap.mem_of_lookup_eq_some hk), v, hk, hv⟩

instance (t : Table K V) (p : V → Prop) [DecidablePred p] : Decidable (t.Any p) :=
  have (k : K) : Decidable (∃ v, t.lookup k = some v ∧ p v) :=
    match h : t.lookup k with
    | none => .isFalse (by simp)
    | some v => decidable_of_iff (p v) (by simp)
  inferInstanceAs (Decidable (∃ k ∈ t.keys, ∃ v, t.lookup k = some v ∧ p v))

/-! ### Lists of entries -/

/-- The entries written one after the other. -/
def insertMany (t : Table K V) (entries : List (K × V)) : Table K V :=
  entries.foldl (fun t e => t.insert e.1 e.2) t

/-- The keys removed one after the other. -/
def eraseMany (t : Table K V) (keys : List K) : Table K V := keys.foldl (fun t k => t.erase k) t

def ofList (entries : List (K × V)) : Table K V := insertMany ∅ entries

theorem insertMany_append (t : Table K V) (xs ys : List (K × V)) :
    t.insertMany (xs ++ ys) = (t.insertMany xs).insertMany ys :=
  List.foldl_append

theorem ofList_append (xs ys : List (K × V)) : ofList (xs ++ ys) = (ofList xs).insertMany ys :=
  insertMany_append _ _ _

theorem lookup_insertMany_of_notMem (h : k ∉ entries.map Prod.fst) : (t.insertMany entries).lookup k = t.lookup k := by
  induction entries generalizing t with
  | nil => rfl
  | cons e entries ih =>
    rw [List.map_cons, List.mem_cons, not_or] at h
    change (insertMany (t.insert e.1 e.2) entries).lookup k = _
    rw [ih h.2, Finmap.lookup_insert_of_ne _ h.1]

theorem lookup_insertMany_of_mem (distinct : (entries.map Prod.fst).Nodup) (h : (k, v) ∈ entries) :
    (t.insertMany entries).lookup k = some v := by
  induction entries generalizing t with
  | nil => cases h
  | cons e entries ih =>
    rw [List.map_cons, List.nodup_cons] at distinct
    change (insertMany (t.insert e.1 e.2) entries).lookup k = some v
    rcases List.mem_cons.mp h with rfl | h
    · rw [lookup_insertMany_of_notMem distinct.1, Finmap.lookup_insert]
    · exact ih distinct.2 h

/-- What is read after many insertions was there before or is one of the entries. -/
theorem lookup_insertMany_cases (h : (t.insertMany entries).lookup k = some v) :
    t.lookup k = some v ∨ (k, v) ∈ entries := by
  induction entries generalizing t with
  | nil => exact .inl h
  | cons _ _ ih =>
    rcases ih h with h | h
    · rw [lookup_insert_apply] at h
      split at h
      · next hk =>
        cases h
        exact .inr (hk ▸ List.mem_cons_self)
      · exact .inl h
    · exact .inr (List.mem_cons_of_mem _ h)

theorem lookup_insertMany (distinct : (entries.map Prod.fst).Nodup) : (t.insertMany entries).lookup k = some v ↔
      (k, v) ∈ entries ∨ k ∉ entries.map Prod.fst ∧ t.lookup k = some v := by
  by_cases hk : k ∈ entries.map Prod.fst
  · obtain ⟨⟨k', u⟩, hu, rfl⟩ := List.mem_map.mp hk
    rw [lookup_insertMany_of_mem distinct hu]
    constructor
    · intro h
      cases h
      exact .inl hu
    · rintro (h | h)
      · exact congrArg some (congrArg Prod.snd (List.inj_on_of_nodup_map distinct hu h rfl))
      · exact absurd hk h.1
  · rw [lookup_insertMany_of_notMem hk]
    constructor
    · exact fun h => .inr ⟨hk, h⟩
    · rintro (h | h)
      · exact absurd (List.mem_map_of_mem h) hk
      · exact h.2

/-- Reading a list of entries with distinct keys. -/
theorem lookup_ofList (distinct : (entries.map Prod.fst).Nodup) :
    (ofList entries).lookup k = some v ↔ (k, v) ∈ entries := by
  rw [ofList, lookup_insertMany distinct, Finmap.lookup_empty]
  simp

theorem mem_insertMany :
    k ∈ t.insertMany entries ↔ k ∈ t ∨ k ∈ entries.map Prod.fst := by
  induction entries generalizing t with
  | nil => simp [insertMany]
  | cons e entries ih =>
    change k ∈ insertMany (t.insert e.1 e.2) entries ↔ _
    rw [ih, Finmap.mem_insert, List.map_cons, List.mem_cons]
    tauto

theorem mem_ofList : k ∈ ofList entries ↔ k ∈ entries.map Prod.fst := by
  rw [ofList, mem_insertMany, or_iff_right Finmap.notMem_empty]

theorem ofList_eq (hx : (xs.map Prod.fst).Nodup) (hy : (ys.map Prod.fst).Nodup) (same : ∀ e, e ∈ xs ↔ e ∈ ys) :
    ofList xs = ofList ys := by
  refine Finmap.ext_lookup fun k => Option.ext fun v => ?_
  rw [lookup_ofList hx, lookup_ofList hy, same]

theorem ofList_perm (hx : (xs.map Prod.fst).Nodup) (h : xs.Perm ys) : ofList xs = ofList ys :=
  ofList_eq hx ((h.map Prod.fst).nodup_iff.mp hx) fun _ => h.mem_iff

/-- Writing the key of one entry replaces that entry. -/
theorem insert_ofList {v v' : V} (h : ((xs ++ (k, v) :: ys).map Prod.fst).Nodup) :
    (ofList (xs ++ (k, v) :: ys)).insert k v' = ofList (xs ++ (k, v') :: ys) := by
  have h' : ((xs ++ (k, v') :: ys).map Prod.fst).Nodup := by simpa using h
  refine Finmap.ext_lookup fun j => Option.ext fun u => ?_
  rw [lookup_insert_apply, lookup_ofList h']
  by_cases hj : j = k
  · subst hj
    rw [if_pos rfl]
    constructor
    · rintro ⟨⟩
      simp
    · intro hu
      have hv : (j, v') ∈ xs ++ (j, v') :: ys := by simp
      exact congrArg some (congrArg Prod.snd (List.inj_on_of_nodup_map h' hv hu rfl))
  · rw [if_neg hj, lookup_ofList h]
    simp [hj]

/-- Removing the key of one entry removes that entry. -/
theorem erase_ofList (h : ((xs ++ (k, v) :: ys).map Prod.fst).Nodup) :
    (ofList (xs ++ (k, v) :: ys)).erase k = ofList (xs ++ ys) := by
  have hsub : (xs ++ ys).Sublist (xs ++ (k, v) :: ys) := List.Sublist.append_left (List.sublist_cons_self _ _) _
  have hk : k ∉ (xs ++ ys).map Prod.fst := by
    rw [List.map_append, List.map_cons, List.nodup_middle, ← List.map_append] at h
    exact (List.nodup_cons.mp h).1
  refine Finmap.ext_lookup fun j => Option.ext fun u => ?_
  rw [lookup_erase_apply, lookup_ofList (h.sublist (hsub.map _))]
  by_cases hj : j = k
  · subst hj
    rw [if_pos rfl]
    exact iff_of_false (by simp) fun hu => hk (List.mem_map_of_mem hu)
  · rw [if_neg hj, lookup_ofList h]
    simp [hj]

/-- Removing the keys of a stretch of entries removes the stretch. -/
theorem eraseMany_ofList {xs zs ys : List (K × V)} (h : ((xs ++ zs ++ ys).map Prod.fst).Nodup) :
    (ofList (xs ++ zs ++ ys)).eraseMany (zs.map Prod.fst) = ofList (xs ++ ys) := by
  induction zs with
  | nil => simp [eraseMany]
  | cons z zs ih =>
    obtain ⟨k, v⟩ := z
    rw [List.append_assoc, List.cons_append] at h ⊢
    have hsub : (xs ++ (zs ++ ys)).Sublist (xs ++ (k, v) :: (zs ++ ys)) :=
      List.Sublist.append_left (List.sublist_cons_self _ _) _
    change eraseMany ((ofList (xs ++ (k, v) :: (zs ++ ys))).erase k) (zs.map Prod.fst) = _
    rw [erase_ofList h, ← List.append_assoc, ih]
    rw [List.append_assoc]
    exact h.sublist (hsub.map _)

theorem filter_ofList (distinct : (entries.map Prod.fst).Nodup) (p : V → Bool) :
    (ofList entries).filter p = ofList (entries.filter fun e => p e.2) := by
  refine Finmap.ext_lookup fun k => Option.ext fun v => ?_
  rw [lookup_filter, lookup_ofList (distinct.sublist (List.filter_sublist.map _)), List.mem_filter,
    Option.filter_eq_some_iff, lookup_ofList distinct]

/-- A loop that writes one new key after the other, or fails: it succeeds when every element may be written, and
    then writes them all. What a round needs of the map, `inv`, may depend on the elements still to come. -/
theorem foldlM_insert_eq_ok {X ε : Type} {f : Table K V → X → Except ε (Table K V)} {p : X → Prop} {k : X → K}
    {v : X → V} (inv : Table K V → List X → Prop)
    (step : ∀ {t x xs}, inv t (x :: xs) → ∀ {t'}, f t x = .ok t' ↔
      p x ∧ k x ∉ t ∧ t' = t.insert (k x) (v x))
    (keeps : ∀ {t x xs}, inv t (x :: xs) → inv (t.insert (k x) (v x)) xs) {xs : List X} {t t' : Table K V}
    (h : inv t xs) :
    xs.foldlM f t = .ok t' ↔ (∀ x ∈ xs, p x) ∧ (xs.map k).Nodup ∧ (∀ x ∈ xs, k x ∉ t) ∧
      t' = t.insertMany (xs.map fun x => (k x, v x)) := by
  induction xs generalizing t with
  | nil =>
    rw [List.foldlM_nil, pure_eq_ok]
    simp [insertMany, eq_comm]
  | cons x _ ih =>
    rw [List.foldlM_cons, bind_eq_ok]
    simp only [step h]
    constructor
    · rintro ⟨_, ⟨hx, hnew, rfl⟩, htail⟩
      obtain ⟨hok, hnodup, hnews, rfl⟩ := (ih (keeps h)).mp htail
      simp only [Finmap.mem_insert, not_or] at hnews
      refine ⟨by simpa using ⟨hx, hok⟩, ?_, by simpa using ⟨hnew, fun y hy => (hnews y hy).2⟩, rfl⟩
      rw [List.map_cons, List.nodup_cons]
      refine ⟨fun hmem => ?_, hnodup⟩
      obtain ⟨y, hy, heq⟩ := List.mem_map.mp hmem
      exact (hnews y hy).1 heq
    · rintro ⟨hok, hnodup, hnews, rfl⟩
      rw [List.map_cons, List.nodup_cons] at hnodup
      refine ⟨_, ⟨hok x List.mem_cons_self, hnews x List.mem_cons_self, rfl⟩, (ih (keeps h)).mpr
        ⟨fun y hy => hok y (List.mem_cons_of_mem _ hy), hnodup.2, fun y hy => ?_, rfl⟩⟩
      rw [Finmap.mem_insert, not_or]
      exact ⟨fun heq => hnodup.1 (heq ▸ List.mem_map_of_mem hy), hnews y (List.mem_cons_of_mem _ hy)⟩

def ascending (t : Table ℕ V) : List ℕ := (List.range (t.keys.sup id + 1)).filter (· ∈ t)

theorem ascending_eq {t : Table ℕ V} {n : ℕ} (h : ∀ k, k ∈ t ↔ 1 ≤ k ∧ k ≤ n) :
    t.ascending = List.range' 1 n := by
  have hsup : t.keys.sup id = n := by
    apply le_antisymm
    · exact Finset.sup_le fun k hk => ((h k).mp (Finmap.mem_keys.mp hk)).2
    · rcases Nat.eq_zero_or_pos n with rfl | hn
      · exact Nat.zero_le _
      · exact Finset.le_sup (f := id) (Finmap.mem_keys.mpr ((h n).mpr ⟨hn, le_refl n⟩))
  rw [ascending, hsup, List.range_eq_range', List.range'_succ, List.filter_cons_of_neg (by simp [h]),
    List.filter_eq_self.mpr]
  intro k hk
  rw [List.mem_range'_1] at hk
  rw [decide_eq_true_eq, h]
  omega

theorem insertionSort_perm {a b : List String} (h : a.Perm b) : a.insertionSort (· ≤ ·) = b.insertionSort (· ≤ ·) :=
  List.Perm.eq_of_pairwise' (List.pairwise_insertionSort _ _) (List.pairwise_insertionSort _ _)
    ((List.perm_insertionSort _ _).trans (h.trans (List.perm_insertionSort _ _).symm))

/-- The keys in increasing order; unlike `Finset.sort` it evaluates on closed tables. -/
def sortedKeys (t : Table String V) : List String :=
  Quotient.liftOn t.keys.val (fun keys => keys.insertionSort (· ≤ ·)) fun _ _ h => insertionSort_perm h

theorem mem_sortedKeys {t : Table String V} {k : String} : k ∈ t.sortedKeys ↔ k ∈ t := by
  rw [← Finmap.mem_keys, sortedKeys, ← Finset.mem_val]
  induction t.keys.val using Quotient.inductionOn with
  | _ keys => exact (List.perm_insertionSort _ keys).mem_iff

def values (t : Table String V) : List V := t.sortedKeys.filterMap t.lookup

theorem mem_values {t : Table String V} : v ∈ t.values ↔ ∃ k, t.lookup k = some v := by
  rw [values, List.mem_filterMap]
  constructor
  · rintro ⟨k, -, h⟩
    exact ⟨k, h⟩
  · rintro ⟨k, h⟩
    exact ⟨k, mem_sortedKeys.mpr (Finmap.mem_of_lookup_eq_some h), h⟩

end Table

end Unified
