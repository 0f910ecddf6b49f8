import Unified.Ledger.Post
import Unified.Settlement.Runs

/-! Whole histories of the ledger: its books balance for every asset, nothing that is posted is changed, and
    a batch is the same as its journals one by one. -/

namespace Unified.Ledger

open Indexer (Time)
open Settlement (Encoding polyEncoding)

variable {j : Journal} {hash : String} {now : Time} {s t u : Ledger} {p : PostedJournal}

/-- Everything that `s` records is recorded in `t`. -/
structure Extends (s t : Ledger) : Prop where
  byID : ∀ {id p}, s.byID.lookup id = some p → t.byID.lookup id = some p
  idempotency : ∀ {scope id}, s.idempotency.lookup scope = some id → t.idempotency.lookup scope = some id
  reversals : ∀ {target id}, s.reversals.lookup target = some id → t.reversals.lookup target = some id

theorem Extends.refl (s : Ledger) : Extends s s := ⟨id, id, id⟩

theorem Extends.trans (h : Extends s t) (h' : Extends t u) : Extends s u :=
  ⟨fun hp => h'.byID (h.byID hp), fun hid => h'.idempotency (h.idempotency hid), fun hid => h'.reversals (h.reversals hid)⟩

theorem Extends.notMem_idempotency (h : Extends s t) {scope : String} (hout : scope ∉ t.idempotency) :
    scope ∉ s.idempotency := by
  intro hmem
  obtain ⟨_, hid⟩ := Finmap.mem_iff.mp hmem
  exact hout (Finmap.mem_of_lookup_eq_some (h.idempotency hid))

theorem Extends.notMem_reversals (h : Extends s t) {target : String} (hout : target ∉ t.reversals) :
    target ∉ s.reversals := by
  intro hmem
  obtain ⟨_, hid⟩ := Finmap.mem_iff.mp hmem
  exact hout (Finmap.mem_of_lookup_eq_some (h.reversals hid))

theorem lookup_insert_of_notMem {V : Type} {table : Table String V} {k k' : String} {v v' : V} (hk : k ∉ table)
    (h : table.lookup k' = some v') : (table.insert k v).lookup k' = some v' := by
  have hne : k' ≠ k := fun heq => hk (heq ▸ Finmap.mem_of_lookup_eq_some h)
  rwa [Finmap.lookup_insert_of_ne _ hne]

theorem Posted.extends (h : Posted j hash now s p t) : Extends s t := by
  cases h with
  | replay => exact .refl s
  | fresh hscope hid htarget =>
    refine ⟨lookup_insert_of_notMem hid, lookup_insert_of_notMem hscope, fun {target id} h => ?_⟩
    rw [record]
    dsimp only
    split
    · exact h
    · exact lookup_insert_of_notMem (htarget ‹_›).2 h

/-- What every ledger keeps about its three maps. -/
structure Sound (s : Ledger) : Prop where
  valid : ∀ {id p}, s.byID.lookup id = some p → p.id = id ∧ p.toJournal.Valid
  stored : ∀ {scope id}, s.idempotency.lookup scope = some id → id ∈ s.byID
  reversals : ∀ {target id}, s.reversals.lookup target = some id ↔
    target ≠ "" ∧ ∃ p, s.byID.lookup id = some p ∧ p.reversalOf = target
  targets : ∀ {target id}, s.reversals.lookup target = some id → target ∈ s.byID

theorem sound_empty : Sound empty where
  valid h := by cases h
  stored h := by cases h
  reversals {target id} := by
    constructor
    · intro h
      cases h
    · rintro ⟨-, p, h, -⟩
      cases h
  targets h := by cases h

theorem Posted.sound (hs : Sound s) (hj : j.Valid) (h : Posted j hash now s p t) : Sound t := by
  cases h with
  | replay => exact hs
  | fresh hscope hid htarget =>
    -- the reversals of the new ledger: the one of the new journal besides those it had
    have hreversals : ∀ target id, (s.record j ⟨j, hash, now⟩).reversals.lookup target = some id ↔
        (target = j.reversalOf ∧ j.reversalOf ≠ "" ∧ id = j.id) ∨ s.reversals.lookup target = some id := by
      intro target id
      rw [record]
      dsimp only
      split
      · rename_i hnone
        simp [hnone]
      · rename_i hne
        rw [Table.lookup_insert_apply]
        split
        · rename_i heq
          subst heq
          rw [Finmap.lookup_eq_none.mpr (htarget hne).2]
          simp [hne, eq_comm]
        · rename_i hother
          simp [hother]
    refine ⟨fun {id p} hp => ?_, fun {scope id} hscoped => ?_, fun {target id} => ?_, fun {target id} htargets => ?_⟩
    · rw [record, Table.lookup_insert_apply] at hp
      split at hp
      · rename_i heq
        cases hp
        exact ⟨heq.symm, hj⟩
      · exact hs.valid hp
    · rw [record, Table.lookup_insert_apply] at hscoped
      rw [record, Finmap.mem_insert]
      split at hscoped
      · cases hscoped
        exact .inl rfl
      · exact .inr (hs.stored hscoped)
    · rw [hreversals, hs.reversals]
      constructor
      · rintro (⟨rfl, hne, rfl⟩ | ⟨hne, p, hp, hof⟩)
        · exact ⟨hne, _, Finmap.lookup_insert _, rfl⟩
        · exact ⟨hne, p, lookup_insert_of_notMem hid hp, hof⟩
      · rintro ⟨hne, p, hp, rfl⟩
        rw [record, Table.lookup_insert_apply] at hp
        split at hp
        · rename_i heq
          cases hp
          exact .inl ⟨rfl, hne, heq⟩
        · exact .inr ⟨hne, p, hp, rfl⟩
    · rw [record, Finmap.mem_insert]
      rcases (hreversals target id).mp htargets with ⟨rfl, hne, -⟩ | hold
      · exact .inr (htarget hne).1
      · exact .inr (hs.targets hold)

/-- The units of all posted journals on one side of one asset. -/
def units (side : Side) (assetID : String) (s : Ledger) : Int :=
  ∑ id ∈ s.byID.keys, ((s.byID.lookup id).map fun p => p.units side assetID).getD 0

theorem Sound.balanced (h : Sound s) (assetID : String) : s.units .debit assetID = s.units .credit assetID := by
  refine Finset.sum_congr rfl fun id _ => ?_
  cases hp : s.byID.lookup id with
  | none => rfl
  | some => exact (h.valid hp).2.balanced assetID

/-- The ledger without the times of posting. -/
def timeless (s : Ledger) : Ledger := { s with byID := s.byID.map fun p => { p with postedAt := 0 } }

theorem lookup_timeless (s : Ledger) (id : String) :
    s.timeless.byID.lookup id = (s.byID.lookup id).map fun p => { p with postedAt := 0 } :=
  Table.lookup_map _ _ _

theorem mem_timeless {id : String} : id ∈ s.timeless.byID ↔ id ∈ s.byID := by
  simp only [← Finmap.lookup_isSome, lookup_timeless, Option.isSome_map]

theorem timeless_record (s : Ledger) (j : Journal) (p : PostedJournal) :
    (s.record j p).timeless = s.timeless.record j { p with postedAt := 0 } := by
  simp only [timeless, record, Ledger.mk.injEq, and_true]
  apply Finmap.ext_lookup
  intro id
  rw [Table.lookup_map, Table.lookup_insert_apply, Table.lookup_insert_apply, Table.lookup_map]
  split <;> rfl

/-- A posting at another time, to a ledger that differs in the times only. -/
theorem Posted.retimed {s' : Ledger} (h : Posted j hash now s p t) (hs : s.timeless = s'.timeless) (now' : Time) :
    ∃ p' t', Posted j hash now' s' p' t' ∧ t.timeless = t'.timeless := by
  have hscopes : s.idempotency = s'.idempotency := (Ledger.mk.inj hs).2.1
  have hreversals : s.reversals = s'.reversals := (Ledger.mk.inj hs).2.2
  have hmem : ∀ {id}, id ∈ s.byID ↔ id ∈ s'.byID := fun {id} => by rw [← mem_timeless, hs, mem_timeless]
  cases h with
  | replay hscope hstored hcontent =>
    rename_i id
    have hlookup := congrArg (fun s : Ledger => s.byID.lookup id) hs
    simp only [lookup_timeless, hstored, Option.map_some] at hlookup
    obtain ⟨existing, hexisting, heq⟩ := Option.map_eq_some_iff.mp hlookup.symm
    refine ⟨existing, s', .replay (hscopes ▸ hscope) hexisting ?_, hs⟩
    rw [← hcontent]
    exact (PostedJournal.mk.inj heq).2.1
  | fresh hscope hid htarget =>
    refine ⟨_, _, .fresh (hscopes ▸ hscope) (mt hmem.mpr hid) fun hne => ?_, ?_⟩
    · exact ⟨hmem.mp (htarget hne).1, hreversals ▸ (htarget hne).2⟩
    · rw [timeless_record, timeless_record, hs]

/-! ### Accepted calls -/

theorem mapM_eq_ok {α β ε : Type} {f : α → Except ε β} {xs : List α} {ys : List β} (h : xs.mapM f = .ok ys) :
    List.Forall₂ (fun x y => f x = .ok y) xs ys := by
  induction xs generalizing ys with
  | nil =>
    rw [List.mapM_nil, pure_eq_ok] at h
    subst h
    exact .nil
  | cons _ _ ih =>
    simp only [List.mapM_cons, bind_eq_ok, pure_eq_ok] at h
    obtain ⟨y, hy, ys, hys, rfl⟩ := h
    exact .cons hy (ih hys)

section

variable [Encoding]

/-- Accepted postings one after the other, with their answers. -/
inductive Postings (s : Ledger) : List (Journal × PostedJournal) → Ledger → Prop
  | nil : Postings s [] s
  | concat {xs : List (Journal × PostedJournal)} {u t : Ledger} {j : Journal} {p : PostedJournal} {hash : String} {now : Time}
      (before : Postings s xs u) (valid : validateAndHash j = .ok hash) (posted : Posted j hash now u p t) :
      Postings s (xs ++ [(j, p)]) t

theorem Postings.of_post (h : post j now s = .ok (p, t)) : Postings s [(j, p)] t := by
  obtain ⟨hash, hvalid, hposted⟩ := post_eq_ok.mp h
  exact .concat .nil hvalid hposted

variable {xs : List (Journal × PostedJournal)} {js : List Journal}

/-- The loop of a batch is a sequence of postings. -/
theorem Postings.of_batch {hashes : List String} {acc acc' : List PostedJournal × Ledger}
    (before : Postings s xs acc.2) (hanswers : xs.map Prod.snd = acc.1)
    (valid : List.Forall₂ (fun j hash => validateAndHash j = .ok hash) js hashes)
    (h : (js.zip hashes).foldlM (postNext now) acc = .ok acc') :
    ∃ ys, Postings s (xs ++ ys) acc'.2 ∧ ys.map Prod.fst = js ∧ (xs ++ ys).map Prod.snd = acc'.1 := by
  induction valid generalizing acc xs with
  | nil =>
    rw [List.zip_nil_left, List.foldlM_nil, pure_eq_ok] at h
    subst h
    exact ⟨[], by simpa using before, rfl, by simpa using hanswers⟩
  | @cons j _ _ _ hj _ ih =>
    rw [List.zip_cons_cons, List.foldlM_cons, bind_eq_ok] at h
    obtain ⟨mid, hmid, h⟩ := h
    obtain ⟨p, u, hposted, rfl⟩ := postNext_eq_ok.mp hmid
    obtain ⟨ys, hys, hjournals, hall⟩ := ih (.concat before hj hposted) (by simp [hanswers]) h
    rw [List.append_assoc] at hys hall
    exact ⟨(j, p) :: ys, hys, by rw [List.map_cons, hjournals], hall⟩

theorem postBatch_eq_ok {ps : List PostedJournal} :
    postBatch js now s = .ok (ps, t) ↔ js ≠ [] ∧ ∃ hashes, js.mapM validateAndHash = .ok hashes ∧
      (js.zip hashes).foldlM (postNext now) ([], s) = .ok (ps, t) := by
  simp only [postBatch, block_eq_ok]

theorem Call.answer_postings {c : Call} {ps : List PostedJournal} (h : c.answer s = .ok (ps, t)) :
    ∃ xs, Postings s xs t ∧ xs.map Prod.fst = c.journals s ∧ xs.map Prod.snd = ps := by
  cases c with
  | post j =>
    simp only [Call.answer, bind_eq_ok, Prod.exists, pure_eq_ok, Prod.mk.injEq] at h
    obtain ⟨p, u, hpost, rfl, rfl⟩ := h
    exact ⟨[(j, p)], .of_post hpost, rfl, rfl⟩
  | postBatch =>
    obtain ⟨-, hashes, hvalid, hloop⟩ := postBatch_eq_ok.mp h
    obtain ⟨xs, hxs, hjournals, hanswers⟩ := Postings.of_batch .nil rfl (mapM_eq_ok hvalid) hloop
    exact ⟨xs, hxs, hjournals, hanswers⟩
  | reverse r =>
    simp only [Call.answer, Ledger.reverse, bind_eq_ok, Prod.exists, orRevert_eq_ok, pure_eq_ok, Prod.mk.injEq] at h
    obtain ⟨p, u, ⟨original, horiginal, hpost⟩, rfl, rfl⟩ := h
    exact ⟨[(r.journal original, p)], .of_post hpost, by simp [Call.journals, horiginal], rfl⟩

theorem exec_eq_ok {c : Call} : exec c s = .ok t ↔ ∃ ps, c.answer s = .ok (ps, t) := by
  simp only [exec, bind_eq_ok, Prod.exists, pure_eq_ok]
  constructor
  · rintro ⟨ps, u, hanswer, rfl⟩
    exact ⟨ps, hanswer⟩
  · rintro ⟨ps, hanswer⟩
    exact ⟨ps, t, hanswer, rfl⟩

theorem Postings.extends (h : Postings s xs t) : Extends s t := by
  induction h with
  | nil => exact .refl s
  | concat _ _ posted ih => exact ih.trans posted.extends

theorem extends_runCalls (s : Ledger) (calls : List Call) : Extends s (runCalls exec s calls) := by
  refine runCalls_relation (fun _ => True) Extends .refl (fun _ _ _ => .trans) (fun _ _ _ _ _ => trivial)
    (fun c s t h _ => ?_) trivial calls
  obtain ⟨ps, hanswer⟩ := exec_eq_ok.mp h
  obtain ⟨xs, hxs, -⟩ := Call.answer_postings hanswer
  exact hxs.extends

theorem Postings.sound (h : Postings s xs t) (hs : Sound s) : Sound t := by
  induction h with
  | nil => exact hs
  | concat _ valid posted ih => exact posted.sound ih (validateAndHash_eq_ok valid).1

theorem sound_exec {c : Call} (h : exec c s = .ok t) (hs : Sound s) : Sound t := by
  obtain ⟨ps, hanswer⟩ := exec_eq_ok.mp h
  obtain ⟨xs, hxs, -⟩ := Call.answer_postings hanswer
  exact hxs.sound hs

theorem sound_runCalls (calls : List Call) : Sound (runCalls exec empty calls) :=
  runCalls_invariant Sound (fun _ _ _ h hs => sound_exec h hs) sound_empty calls

/-- The journal is answered with `p`. -/
def Accepted (j : Journal) (p : PostedJournal) (s : Ledger) : Prop :=
  ∃ hash id, validateAndHash j = .ok hash ∧ s.idempotency.lookup j.scope = some id ∧ s.byID.lookup id = some p ∧
    p.contentHash = hash

theorem Accepted.post (h : Accepted j p s) (now : Time) : Ledger.post j now s = .ok (p, s) := by
  obtain ⟨hash, id, hvalid, hscope, hstored, hcontent⟩ := h
  exact post_eq_ok.mpr ⟨hash, hvalid, .replay hscope hstored hcontent⟩

theorem Accepted.stored (h : Accepted j p s) (hs : Sound s) : s.byID.lookup p.id = some p := by
  obtain ⟨hash, id, -, -, hstored, -⟩ := h
  rwa [(hs.valid hstored).1]

theorem Accepted.extends (h : Accepted j p s) (hst : Extends s t) : Accepted j p t := by
  obtain ⟨hash, id, hvalid, hscope, hstored, hcontent⟩ := h
  exact ⟨hash, id, hvalid, hst.idempotency hscope, hst.byID hstored, hcontent⟩

theorem Posted.accepted (hvalid : validateAndHash j = .ok hash) (h : Posted j hash now s p t) : Accepted j p t := by
  cases h with
  | replay hscope hstored hcontent => exact ⟨hash, _, hvalid, hscope, hstored, hcontent⟩
  | fresh => exact ⟨hash, j.id, hvalid, Finmap.lookup_insert _, Finmap.lookup_insert _, rfl⟩

theorem Postings.accepted (h : Postings s xs t) : ∀ x ∈ xs, Accepted x.1 x.2 t := by
  induction h with
  | nil => simp
  | concat _ valid posted ih =>
    intro x hx
    rcases List.mem_append.mp hx with hx | hx
    · exact (ih x hx).extends posted.extends
    · rw [List.mem_singleton.mp hx]
      exact posted.accepted valid

/-- Journals posted one by one, each at its own time. -/
def postEach (xs : List (Journal × Time)) (s : Ledger) : Except LedgerError (List PostedJournal × Ledger) :=
  xs.foldlM (fun acc x => do
    let (posted, t) ← post x.1 x.2 acc.2
    pure (acc.1 ++ [posted], t)) ([], s)

/-- The loop of a batch and the single postings go the same way. -/
theorem postEach_of_batch {hashes : List String} {times : List Time} {acc acc' other : List PostedJournal × Ledger}
    (hs : acc.2.timeless = other.2.timeless)
    (valid : List.Forall₂ (fun j hash => validateAndHash j = .ok hash) js hashes) (hlength : times.length = js.length)
    (h : (js.zip hashes).foldlM (postNext now) acc = .ok acc') :
    ∃ other', (js.zip times).foldlM (fun acc x => do
        let (posted, t) ← post x.1 x.2 acc.2
        pure (acc.1 ++ [posted], t)) other = .ok other' ∧ acc'.2.timeless = other'.2.timeless ∧
      (acc = other → (∀ x ∈ times, x = now) → acc' = other') := by
  induction valid generalizing acc other times with
  | nil =>
    rw [List.zip_nil_left, List.foldlM_nil, pure_eq_ok] at h
    subst h
    exact ⟨other, by simp [pure, Except.pure], hs, fun heq _ => heq⟩
  | @cons _ hash _ _ hj _ ih =>
    obtain _ | ⟨time, times⟩ := times
    · cases hlength
    rw [List.zip_cons_cons, List.foldlM_cons, bind_eq_ok] at h
    obtain ⟨mid, hmid, h⟩ := h
    obtain ⟨p, u, hposted, rfl⟩ := postNext_eq_ok.mp hmid
    obtain ⟨p', u', hposted', hu⟩ := hposted.retimed hs time
    obtain ⟨other', hother, hend, hsame⟩ :=
      @ih times (acc.1 ++ [p], u) (other.1 ++ [p'], u') hu (by simpa using hlength) h
    refine ⟨other', ?_, hend, fun heq htimes => hsame ?_ fun x hx => htimes x (List.mem_cons_of_mem _ hx)⟩
    · rw [List.zip_cons_cons, List.foldlM_cons, bind_eq_ok]
      refine ⟨_, ?_, hother⟩
      simp only [bind_eq_ok, Prod.exists, pure_eq_ok, Prod.mk.injEq]
      exact ⟨p', u', post_eq_ok.mpr ⟨hash, hj, hposted'⟩, rfl, rfl⟩
    · subst heq
      rw [htimes time List.mem_cons_self] at hposted'
      have := (postValidated_eq_ok.mpr hposted).symm.trans (postValidated_eq_ok.mpr hposted')
      obtain ⟨rfl, rfl⟩ := Prod.mk.inj (Except.ok.inj this)
      rfl

/-! ### The ledger -/

/-- After any calls the books balance for every asset, nothing posted is ever changed, and no journal has two reversals;
    a rejected batch changes nothing, an accepted one does what its journals do one by one, up to the times of posting;
    and an accepted journal is stored, and answered with the stored one ever after. -/
theorem ledger_integrity (calls : List Call) :
    let s := runCalls exec empty calls
    (∀ assetID, s.units .debit assetID = s.units .credit assetID) ∧
    (∀ (more : List Call) (id : String) (p : PostedJournal), s.byID.lookup id = some p →
      (runCalls exec s more).byID.lookup id = some p) ∧
    (∀ (id id' : String) (p p' : PostedJournal), s.byID.lookup id = some p → s.byID.lookup id' = some p' →
      p.reversalOf ≠ "" → p.reversalOf = p'.reversalOf → id = id' ∧ p = p') ∧
    (∀ (js : List Journal) (now : Time) (e : LedgerError), postBatch js now s = .error e →
      commit exec s (.postBatch js now) = s) ∧
    (∀ (js : List Journal) (now : Time) (ps : List PostedJournal) (t : Ledger), postBatch js now s = .ok (ps, t) →
      postEach (js.map fun j => (j, now)) s = .ok (ps, t) ∧
      ∀ times : List Time, times.length = js.length → ∃ ps' t', postEach (js.zip times) s = .ok (ps', t') ∧
        t.timeless = t'.timeless) ∧
    (∀ (c : Call) (ps : List PostedJournal) (t : Ledger), c.answer s = .ok (ps, t) → ps.length = (c.journals s).length ∧
      ∀ x ∈ (c.journals s).zip ps, ∀ (more : List Call) (now : Time),
        let u := runCalls exec t more
        u.byID.lookup x.2.id = some x.2 ∧ post x.1 now u = .ok (x.2, u)) := by
  intro s
  have hsound : Sound s := sound_runCalls calls
  refine ⟨hsound.balanced, fun more id p hp => (extends_runCalls s more).byID hp, ?_, fun js now e h => ?_, ?_, ?_⟩
  · intro id id' p p' hp hp' hne hof
    have hrev := hsound.reversals.mpr ⟨hne, p, hp, rfl⟩
    have hrev' := hsound.reversals.mpr ⟨hof ▸ hne, p', hp', rfl⟩
    rw [hof, hrev'] at hrev
    cases hrev
    rw [hp] at hp'
    cases hp'
    exact ⟨rfl, rfl⟩
  · have herror : exec (.postBatch js now) s = .error e := by
      rw [exec, Call.answer, h]
      rfl
    exact commit_of_error herror
  · intro js now ps t h
    obtain ⟨-, hashes, hvalid, hloop⟩ := postBatch_eq_ok.mp h
    refine ⟨?_, fun times hlength => ?_⟩
    · obtain ⟨other, hother, -, hsame⟩ := @postEach_of_batch now _ js hashes (List.replicate js.length now) ([], s) _ ([], s)
        rfl (mapM_eq_ok hvalid) (List.length_replicate ..) hloop
      have hzip : js.zip (List.replicate js.length now) = js.map fun j => (j, now) := by
        apply List.ext_getElem
        · simp
        · simp
      rw [hzip] at hother
      rw [postEach, hother, hsame rfl fun x hx => (List.mem_replicate.mp hx).2]
    · obtain ⟨⟨ps', t'⟩, hother, htimeless, -⟩ :=
        @postEach_of_batch now _ js hashes times ([], s) _ ([], s) rfl (mapM_eq_ok hvalid) hlength hloop
      exact ⟨ps', t', hother, htimeless⟩
  · intro c ps t h
    obtain ⟨xs, hxs, hjournals, hanswers⟩ := Call.answer_postings h
    refine ⟨by rw [← hjournals, ← hanswers, List.length_map, List.length_map], fun x hx more now => ?_⟩
    have hmem : x ∈ xs := by
      rwa [← hjournals, ← hanswers, ← List.unzip_fst, ← List.unzip_snd, List.zip_unzip] at hx
    have haccepted := (hxs.accepted x hmem).extends (extends_runCalls t more)
    have hafter : Sound (runCalls exec t more) :=
      runCalls_invariant Sound (fun _ _ _ h hs => sound_exec h hs) (hxs.sound hsound) more
    exact ⟨haccepted.stored hafter, haccepted.post now⟩

end

/-! ### Transfers -/

/-- One hundred units of an asset from one account to another. -/
def transferEntries : List Entry :=
  [⟨"1100", .debit, "usd", "100", "", "", ""⟩, ⟨"9120", .credit, "usd", "100", "", "", ""⟩]

def transferJournal (id legalEntityID reversalOf : String) (entries : List Entry) : Journal where
  id := id
  legalEntityID := legalEntityID
  bookID := "book"
  sourceSystem := "source"
  entryType := "TRANSFER"
  sourceEventID := "event"
  loanID := ""
  idempotencyKey := id
  correlationID := "correlation"
  effectiveAt := 1
  entries := entries
  evidenceHash := "evidence"
  reversalOf := reversalOf
  reason := ""

/-- A transfer, a batch that repeats it and reverses it, and one that is rejected because it reverses it again. -/
def transferCalls : List Call :=
  let x := transferJournal "x" "entity" "" transferEntries
  [.post x 1, .postBatch [x, transferJournal "y" "entity" "x" (transferEntries.map Entry.reversed)] 2,
    .postBatch [transferJournal "w" "entity" "" transferEntries, transferJournal "z" "entity" "x" transferEntries] 3]

theorem ledger_integrity_transferCalls :
    let s := runCalls (@exec polyEncoding) empty transferCalls
    s.byID.keys = {"x", "y"} ∧ s.units .debit "usd" = s.units .credit "usd" ∧
    ∃ p, s.byID.lookup "x" = some p ∧ ∀ more, (runCalls (@exec polyEncoding) s more).byID.lookup "x" = some p := by
  intro s
  have hkeys : s.byID.keys = {"x", "y"} := by decide +kernel
  obtain ⟨hbalanced, hkept, -⟩ := @ledger_integrity polyEncoding transferCalls
  obtain ⟨p, hp⟩ := Finmap.mem_iff.mp (Finmap.mem_keys.mp (hkeys ▸ Finset.mem_insert_self "x" {"y"}))
  exact ⟨hkeys, hbalanced "usd", p, hp, fun more => hkept more "x" p hp⟩

end Unified.Ledger
