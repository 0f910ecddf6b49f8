import Unified.Ledger.Integrity

/-! Reversals: a journal that `Reverse` posts cancels its original in every account, while a journal that is
    posted with the id of another one as its target is only recorded as its reversal, so callers that post reversals
    themselves have to see to it that they cancel. -/

namespace Unified.Ledger

open Indexer (Time)
open Settlement (Encoding polyEncoding)

/-- An account of one asset, for one party and loan. -/
structure Position where
  (accountCode assetID partyID loanID : String)
  deriving DecidableEq

def Entry.position (e : Entry) : Position := ⟨e.accountCode, e.assetID, e.partyID, e.loanID⟩

def Entry.signed (e : Entry) : Int :=
  match e.side with
  | .debit => e.amount
  | .credit => -e.amount
  | .other _ => 0

def Journal.net (j : Journal) (position : Position) : Int :=
  (j.entries.map fun e => if e.position = position then e.signed else 0).sum

/-- Two journals of one book that cancel each other in every position. -/
structure Neutral (x y : Journal) : Prop where
  legalEntityID : x.legalEntityID = y.legalEntityID
  bookID : x.bookID = y.bookID
  net : ∀ position, x.net position + y.net position = 0

/-- Every recorded reversal cancels the journal it reverses. -/
def ReversalsNeutral (s : Ledger) : Prop :=
  ∀ (target id : String) (x y : PostedJournal), s.reversals.lookup target = some id → s.byID.lookup target = some x →
    s.byID.lookup id = some y → Neutral x.toJournal y.toJournal

theorem Entry.Valid.signed_reversed {e : Entry} (h : e.Valid) : e.reversed.signed = -e.signed := by
  rcases h.side with hside | hside
  · simp [Entry.reversed, Entry.signed, Entry.amount, hside]
  · simp [Entry.reversed, Entry.signed, Entry.amount, hside]

theorem sum_reversed {entries : List Entry} (h : ∀ e ∈ entries, e.Valid) (position : Position) :
    ((entries.map Entry.reversed).map fun e => if e.position = position then e.signed else 0).sum =
      -(entries.map fun e => if e.position = position then e.signed else 0).sum := by
  induction entries with
  | nil => rfl
  | cons e _ ih =>
    have he := (h e List.mem_cons_self).signed_reversed
    have hposition : e.reversed.position = e.position := rfl
    simp only [List.map_cons, List.sum_cons, hposition, he, ih fun x hx => h x (List.mem_cons_of_mem _ hx)]
    split <;> omega

/-- What `Reverse` posts cancels the original. -/
theorem Reversal.journal_neutral (r : Reversal) {original : PostedJournal} (h : original.toJournal.Valid) :
    Neutral original.toJournal (r.journal original) where
  legalEntityID := rfl
  bookID := rfl
  net position := by
    have := sum_reversed h.entries position
    rw [Journal.net, Journal.net, Reversal.journal, this]
    omega

/-! ### The doors -/

/-- The calls that post the caller's own journals. -/
def Call.Direct : Call → Prop
  | .post _ _ => True
  | .postBatch _ _ => True
  | .reverse _ _ => False

/-- What a journal of a direct call would reverse: a journal of the ledger, or one that comes before it in the call. -/
def Target (s : Ledger) (earlier : List Journal) (id : String) (x : Journal) : Prop :=
  (∃ p, s.byID.lookup id = some p ∧ x = p.toJournal) ∨ id ∉ s.byID ∧ x ∈ earlier ∧ x.id = id

/-- Every journal of a call that would be the first reversal of another one, and is not a repetition, cancels it. -/
def Cancelling (s : Ledger) (js : List Journal) : Prop :=
  ∀ earlier j later, js = earlier ++ j :: later → j.reversalOf ≠ "" → j.scope ∉ s.idempotency →
    j.reversalOf ∉ s.reversals → ∀ x, Target s earlier j.reversalOf x → Neutral x j

section

variable [Encoding] {s t : Ledger} {c : Call} {ps : List PostedJournal}

/-- Where a newly recorded journal comes from. -/
theorem Postings.recorded {xs : List (Journal × PostedJournal)} (h : Postings s xs t) {id : String} {p : PostedJournal}
    (hp : t.byID.lookup id = some p) (hnew : s.byID.lookup id ≠ some p) : ∃ earlier later u,
      xs = earlier ++ (p.toJournal, p) :: later ∧ p.id = id ∧ Postings s earlier u ∧ Extends u t ∧
      p.scope ∉ u.idempotency ∧ (p.reversalOf ≠ "" → p.reversalOf ∈ u.byID ∧ p.reversalOf ∉ u.reversals) := by
  induction h with
  | nil => exact absurd hp hnew
  | @concat xs u t j q hash now before valid posted ih =>
    have hlater (hold : u.byID.lookup id = some p) := ih hold
    have hextends := posted.extends
    cases posted with
    | replay =>
      obtain ⟨earlier, later, v, rfl, hid, hbefore, hext, hfresh⟩ := hlater hp
      exact ⟨earlier, later ++ [(j, q)], v, by simp, hid, hbefore, hext, hfresh⟩
    | fresh hscope hid htarget =>
      rw [record, Table.lookup_insert_apply] at hp
      split at hp
      · rename_i heq
        cases hp
        exact ⟨xs, [], u, rfl, heq.symm, before, hextends, hscope, htarget⟩
      · obtain ⟨earlier, later, v, rfl, hid, hbefore, hext, hfresh⟩ := hlater hp
        exact ⟨earlier, later ++ [(j, ⟨j, hash, now⟩)], v, by simp, hid, hbefore, hext.trans hextends, hfresh⟩

/-- A reversal that a direct call records cancels its target if the call is cancelling. -/
theorem Cancelling.neutral (h : Cancelling s (c.journals s)) (hanswer : c.answer s = .ok (ps, t)) {id : String}
    {x y : PostedJournal} (hne : y.reversalOf ≠ "") (hy : t.byID.lookup id = some y) (hnew : s.byID.lookup id ≠ some y)
    (hx : t.byID.lookup y.reversalOf = some x) : Neutral x.toJournal y.toJournal := by
  obtain ⟨xs, hxs, hjournals, -⟩ := Call.answer_postings hanswer
  obtain ⟨earlier, later, u, rfl, -, hbefore, hafter, hscope, htarget⟩ := hxs.recorded hy hnew
  obtain ⟨htarget, hfirst⟩ := htarget hne
  have hearlier := hbefore.extends
  rw [List.map_append, List.map_cons] at hjournals
  refine h _ _ _ hjournals.symm hne (hearlier.notMem_idempotency hscope) (hearlier.notMem_reversals hfirst) _ ?_
  -- the target was there when the reversal was recorded
  obtain ⟨x', hx'⟩ := Finmap.mem_iff.mp htarget
  cases hx.symm.trans (hafter.byID hx')
  by_cases hold : s.byID.lookup y.reversalOf = some x
  · exact .inl ⟨x, hold, rfl⟩
  · obtain ⟨_, _, _, rfl, hid, -⟩ := hbefore.recorded hx' hold
    refine .inr ⟨fun hmem => hold ?_, by simp, hid⟩
    obtain ⟨z, hz⟩ := Finmap.mem_iff.mp hmem
    rwa [← hx', hearlier.byID hz]

theorem reverse_neutral (hs : Sound s) {r : Reversal} {now : Time} (h : (Call.reverse r now).answer s = .ok (ps, t))
    {id : String} {x y : PostedJournal} (hy : t.byID.lookup id = some y) (hnew : s.byID.lookup id ≠ some y)
    (hx : t.byID.lookup y.reversalOf = some x) : Neutral x.toJournal y.toJournal := by
  simp only [Call.answer, Ledger.reverse, bind_eq_ok, Prod.exists, orRevert_eq_ok, pure_eq_ok, Prod.mk.injEq] at h
  obtain ⟨p, u, ⟨original, horiginal, hpost⟩, -, rfl⟩ := h
  obtain ⟨hid, hvalid⟩ := hs.valid horiginal
  obtain ⟨hash, -, hposted⟩ := post_eq_ok.mp hpost
  have hkept := hposted.extends.byID horiginal
  cases hposted with
  | replay => exact absurd hy hnew
  | fresh =>
    rw [record, Table.lookup_insert_apply] at hy
    split at hy
    · cases hy
      have hsame : x = original := by
        rw [← hid] at hkept
        exact Option.some.inj (hx.symm.trans hkept)
      rw [hsame]
      exact r.journal_neutral hvalid
    · exact absurd hy hnew

theorem reversalsNeutral_of_cancelling {calls : List Call}
    (cancelling : ∀ before c after, calls = before ++ c :: after → c.Direct →
      Cancelling (runCalls exec empty before) (c.journals (runCalls exec empty before))) :
    ReversalsNeutral (runCalls exec empty calls) := by
  induction calls using List.reverseRecOn with
  | nil =>
    intro target id x y htarget
    cases htarget
  | append_singleton before c ih =>
    have hbefore := ih fun b d a heq => cancelling b d (a ++ [c]) (by rw [heq]; simp)
    have hsound := sound_runCalls before
    rw [runCalls_append]
    change ReversalsNeutral (commit exec _ c)
    cases hexec : exec c (runCalls exec empty before) with
    | error => rwa [commit_of_error hexec]
    | ok t =>
      rw [commit_of_ok hexec]
      intro target id x y htarget hx hy
      obtain ⟨ps, hanswer⟩ := exec_eq_ok.mp hexec
      obtain ⟨hne, y', hy', rfl⟩ := (sound_exec hexec hsound).reversals.mp htarget
      cases hy.symm.trans hy'
      -- a reversal is there already, or the call records it
      by_cases hold : (runCalls exec empty before).byID.lookup id = some y
      · -- the reversal is an old one, and so is its target
        have hrecorded := hsound.reversals.mpr ⟨hne, y, hold, rfl⟩
        obtain ⟨x', hx'⟩ := Finmap.mem_iff.mp (hsound.targets hrecorded)
        obtain ⟨xs, hxs, -⟩ := Call.answer_postings hanswer
        cases hx.symm.trans (hxs.extends.byID hx')
        exact hbefore _ _ x y hrecorded hx' hold
      · cases c with
        | reverse => exact reverse_neutral hsound hanswer hy hold hx
        | post | postBatch =>
          exact (cancelling before _ [] rfl trivial).neutral hanswer hne hy hold hx

/-- In a run whose direct postings are cancelling every recorded reversal is neutral, whatever `Reverse` is called with;
    and a journal that would be the first reversal of another one and does not cancel it spoils the ledger when it is
    posted. -/
theorem reversalsNeutral_runs (calls : List Call) :
    ((∀ before c after, calls = before ++ c :: after → c.Direct →
        Cancelling (runCalls exec empty before) (c.journals (runCalls exec empty before))) →
      ReversalsNeutral (runCalls exec empty calls)) ∧
    ∀ (j : Journal) (hash : String) (x : PostedJournal) (now : Time), validateAndHash j = .ok hash → j.reversalOf ≠ "" →
      j.scope ∉ (runCalls exec empty calls).idempotency → j.id ∉ (runCalls exec empty calls).byID →
      (runCalls exec empty calls).byID.lookup j.reversalOf = some x → j.reversalOf ∉ (runCalls exec empty calls).reversals →
      ¬ Neutral x.toJournal j → ¬ ReversalsNeutral (runCalls exec empty (calls ++ [.post j now])) := by
  refine ⟨reversalsNeutral_of_cancelling, fun j hash x now valid hne hscope hid hx hfirst hodd h => hodd ?_⟩
  have hposted : Posted j hash now _ _ _ :=
    .fresh hscope hid fun _ => ⟨Finmap.mem_of_lookup_eq_some hx, hfirst⟩
  have hexec : exec (.post j now) (runCalls exec empty calls) = .ok _ :=
    exec_eq_ok.mpr ⟨_, by rw [Call.answer, post_eq_ok.mpr ⟨hash, valid, hposted⟩]; rfl⟩
  rw [runCalls_append] at h
  change ReversalsNeutral (commit exec _ _) at h
  rw [commit_of_ok hexec] at h
  refine h j.reversalOf j.id x ⟨j, hash, now⟩ ?_ (hposted.extends.byID hx) (Finmap.lookup_insert _)
  rw [record, if_neg hne]
  exact Finmap.lookup_insert _

end

/-! ### Direct postings that reverse a transfer, and that do not -/

/-- The second journal takes the first one back. -/
def reversedTransfer : List Call :=
  [.post (transferJournal "x" "entity" "" transferEntries) 1,
    .post (transferJournal "y" "entity" "x" (transferEntries.map Entry.reversed)) 2]

theorem Cancelling.of_one {s : Ledger} {j : Journal}
    (h : j.reversalOf ≠ "" → ∀ p, s.byID.lookup j.reversalOf = some p → Neutral p.toJournal j) : Cancelling s [j] := by
  intro earlier k later hjournals hne _ _ x htarget
  obtain ⟨rfl, hlater⟩ | ⟨_, rfl, hlater⟩ := List.append_eq_cons_iff.mp hjournals.symm
  · cases hlater
    obtain ⟨p, hp, rfl⟩ := htarget.resolve_right fun hearlier => List.not_mem_nil hearlier.2.1
    exact h hne p hp
  · simp at hlater

theorem reversalsNeutral_reversedTransfer :
    (runCalls (@exec polyEncoding) empty reversedTransfer).reversals.lookup "x" = some "y" ∧
    ReversalsNeutral (runCalls (@exec polyEncoding) empty reversedTransfer) := by
  refine ⟨by decide +kernel, (@reversalsNeutral_runs polyEncoding reversedTransfer).1 fun before c after hcalls _ => ?_⟩
  obtain _ | ⟨c₁, _ | ⟨c₂, before⟩⟩ := before
  · cases hcalls
    exact .of_one fun hne => absurd rfl hne
  · cases hcalls
    refine .of_one fun _ p hp => ?_
    have hstored : ((runCalls (@exec polyEncoding) empty [.post (transferJournal "x" "entity" "" transferEntries) 1]).byID.lookup
        "x").map (·.toJournal) = some (transferJournal "x" "entity" "" transferEntries) := by decide +kernel
    obtain ⟨q, hq, hjournal⟩ := Option.map_eq_some_iff.mp hstored
    cases hp.symm.trans hq
    have hvalid := ((@sound_runCalls polyEncoding _).valid hp).2
    rw [hjournal] at hvalid ⊢
    refine ⟨rfl, rfl, fun position => ?_⟩
    have hsum := sum_reversed hvalid.entries position
    dsimp only [Journal.net, transferJournal] at hsum ⊢
    omega
  · simp [reversedTransfer] at hcalls

/-- The second journal repeats the first one in the books of another entity and names it as its target. -/
def repeatedTransfer : List Call :=
  [.post (transferJournal "x" "entity" "" transferEntries) 1, .post (transferJournal "y" "other" "x" transferEntries) 2]

theorem repeatedTransfer_not_neutral : ¬ ReversalsNeutral (runCalls (@exec polyEncoding) empty repeatedTransfer) := by
  intro h
  have hrun : (runCalls (@exec polyEncoding) empty repeatedTransfer).reversals.lookup "x" = some "y" ∧
      ((runCalls (@exec polyEncoding) empty repeatedTransfer).byID.lookup "x").map (·.toJournal) =
        some (transferJournal "x" "entity" "" transferEntries) ∧
      ((runCalls (@exec polyEncoding) empty repeatedTransfer).byID.lookup "y").map (·.toJournal) =
        some (transferJournal "y" "other" "x" transferEntries) := by decide +kernel
  obtain ⟨hreversal, hx, hy⟩ := hrun
  obtain ⟨x, hx, hxj⟩ := Option.map_eq_some_iff.mp hx
  obtain ⟨y, hy, hyj⟩ := Option.map_eq_some_iff.mp hy
  have hneutral := h "x" "y" x y hreversal hx hy
  rw [hxj, hyj] at hneutral
  have hnet := hneutral.net ⟨"1100", "usd", "", ""⟩
  revert hnet
  decide +kernel

end Unified.Ledger
