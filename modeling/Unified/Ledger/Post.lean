import Unified.Ledger.Types

/-! Posting: single journals, batches that are committed as a whole, and reversals. Every new journal is
    recorded under its id, under its idempotency scope and, if it reverses another one, under that one's id. -/

namespace Unified

open Indexer (Time)
open Settlement (Encoding)

structure Ledger where
  byID : Table String Ledger.PostedJournal
  (idempotency reversals : Table String String)
  deriving DecidableEq

namespace Ledger

/-- `New`. -/
def empty : Ledger := ⟨∅, ∅, ∅⟩

def Journal.scope (j : Journal) : String := j.legalEntityID ++ "\x00" ++ j.sourceSystem ++ "\x00" ++ j.idempotencyKey

def record (s : Ledger) (j : Journal) (posted : PostedJournal) : Ledger where
  byID := s.byID.insert j.id posted
  idempotency := s.idempotency.insert j.scope j.id
  reversals := if j.reversalOf = "" then s.reversals else s.reversals.insert j.reversalOf j.id

/-- The answer of a posting with the ledger it leaves. -/
abbrev Posting := Except LedgerError (PostedJournal × Ledger)

def postValidated (j : Journal) (hash : String) (postedAt : Time) (s : Ledger) : Posting :=
  match s.idempotency.lookup j.scope with
  | some existingID => do
    let existing ← orRevert ((s.byID.lookup existingID).filter (·.contentHash = hash)) .idempotencyConflict
    pure (existing, s)
  | none => do
    require (j.id ∉ s.byID) (.invalidJournal "duplicate journal id")
    require (j.reversalOf ≠ "" → j.reversalOf ∈ s.byID) (.unknownJournal j.reversalOf)
    match (s.reversals.lookup j.reversalOf).filter fun _ => j.reversalOf ≠ "" with
    | some reversalID => .error (.alreadyReversed reversalID)
    | none =>
      let posted : PostedJournal := ⟨j, hash, postedAt⟩
      pure (posted, s.record j posted)

section

variable [Encoding]

/-- `Post`; the clock reads `now`. -/
def post (j : Journal) (now : Time) (s : Ledger) : Posting := do
  let hash ← validateAndHash j
  postValidated j hash now s

/-- One round of the loop of `PostBatch`: the answers so far and the copies of the maps. -/
def postNext (now : Time) (acc : List PostedJournal × Ledger) (x : Journal × String) :
    Except LedgerError (List PostedJournal × Ledger) := do
  let (posted, s) ← postValidated x.1 x.2 now acc.2
  pure (acc.1 ++ [posted], s)

/-- `PostBatch`: all journals are checked before the first one is posted. -/
def postBatch (js : List Journal) (now : Time) (s : Ledger) : Except LedgerError (List PostedJournal × Ledger) := do
  require (js ≠ []) (.invalidJournal "empty batch")
  let hashes ← js.mapM validateAndHash
  (js.zip hashes).foldlM (postNext now) ([], s)

def Entry.reversed (e : Entry) : Entry := { e with side := if e.side = .debit then .credit else .debit }

structure Reversal where
  (originalID reversalID idempotencyKey sourceEventID reason : String)
  effectiveAt : Time

def Reversal.journal (r : Reversal) (original : PostedJournal) : Journal where
  id := r.reversalID
  legalEntityID := original.legalEntityID
  bookID := original.bookID
  sourceSystem := original.sourceSystem
  entryType := "REVERSAL"
  sourceEventID := r.sourceEventID
  loanID := original.loanID
  idempotencyKey := r.idempotencyKey
  correlationID := original.correlationID
  effectiveAt := r.effectiveAt
  entries := original.entries.map Entry.reversed
  evidenceHash := original.evidenceHash
  reversalOf := original.id
  reason := r.reason

def reverse (r : Reversal) (now : Time) (s : Ledger) : Posting := do
  let original ← orRevert (s.byID.lookup r.originalID) (.unknownJournal r.originalID)
  post (r.journal original) now s

inductive Call where
  | post (j : Journal) (now : Time)
  | postBatch (js : List Journal) (now : Time)
  | reverse (r : Reversal) (now : Time)

def Call.answer (s : Ledger) : Call → Except LedgerError (List PostedJournal × Ledger)
  | .post j now => do
    let (posted, t) ← Ledger.post j now s
    pure ([posted], t)
  | .postBatch js now => Ledger.postBatch js now s
  | .reverse r now => do
    let (posted, t) ← Ledger.reverse r now s
    pure ([posted], t)

def Call.journals (s : Ledger) : Call → List Journal
  | .post j _ => [j]
  | .postBatch js _ => js
  | .reverse r _ => ((s.byID.lookup r.originalID).map r.journal).toList

def exec (c : Call) (s : Ledger) : Except LedgerError Ledger := do
  let (_, t) ← c.answer s
  pure t

/-- A posting replays a journal with the same hash, or records a new one. -/
inductive Posted (j : Journal) (hash : String) (now : Time) (s : Ledger) : PostedJournal → Ledger → Prop
  | replay {existing : PostedJournal} {id : String} (scope : s.idempotency.lookup j.scope = some id)
      (stored : s.byID.lookup id = some existing) (content : existing.contentHash = hash) : Posted j hash now s existing s
  | fresh (scope : j.scope ∉ s.idempotency) (id : j.id ∉ s.byID)
      (target : j.reversalOf ≠ "" → j.reversalOf ∈ s.byID ∧ j.reversalOf ∉ s.reversals) :
      Posted j hash now s ⟨j, hash, now⟩ (s.record j ⟨j, hash, now⟩)

variable {j : Journal} {hash : String} {now : Time} {s t : Ledger} {p : PostedJournal}

omit [Encoding] in
theorem postValidated_eq_ok : postValidated j hash now s = .ok (p, t) ↔ Posted j hash now s p t := by
  constructor
  · intro h
    rw [postValidated] at h
    split at h
    · rename_i id hscope
      simp only [bind_eq_ok, orRevert_eq_ok, Option.filter_eq_some_iff, pure_eq_ok, Prod.mk.injEq] at h
      obtain ⟨existing, ⟨hstored, hcontent⟩, rfl, rfl⟩ := h
      exact .replay hscope hstored (of_decide_eq_true hcontent)
    · rename_i hscope
      simp only [block_eq_ok] at h
      obtain ⟨hid, htarget, h⟩ := h
      split at h
      · cases h
      · rename_i hnone
        simp only [pure_eq_ok, Prod.mk.injEq] at h
        obtain ⟨rfl, rfl⟩ := h
        refine .fresh (Finmap.lookup_eq_none.mp hscope) hid fun hne => ⟨htarget hne, ?_⟩
        intro hmem
        obtain ⟨id, hlookup⟩ := Finmap.mem_iff.mp hmem
        simp [hlookup, hne] at hnone
  · rintro (⟨hscope, hstored, hcontent⟩ | ⟨hscope, hid, htarget⟩)
    · simp only [postValidated, hscope, bind_eq_ok, orRevert_eq_ok, Option.filter_eq_some_iff, pure_eq_ok]
      exact ⟨p, ⟨hstored, decide_eq_true hcontent⟩, rfl⟩
    · have hnone : (s.reversals.lookup j.reversalOf).filter (fun _ => j.reversalOf ≠ "") = none := by
        by_cases hne : j.reversalOf = ""
        · simp [hne]
        · rw [Finmap.lookup_eq_none.mpr (htarget hne).2, Option.filter_none]
      simp only [postValidated, Finmap.lookup_eq_none.mpr hscope, block_eq_ok, hnone]
      exact ⟨hid, fun hne => (htarget hne).1, trivial⟩

theorem post_eq_ok : post j now s = .ok (p, t) ↔ ∃ hash, validateAndHash j = .ok hash ∧ Posted j hash now s p t := by
  simp only [post, bind_eq_ok, postValidated_eq_ok]

omit [Encoding] in
theorem postNext_eq_ok {acc acc' : List PostedJournal × Ledger} {x : Journal × String} :
    postNext now acc x = .ok acc' ↔ ∃ p t, Posted x.1 x.2 now acc.2 p t ∧ acc' = (acc.1 ++ [p], t) := by
  simp only [postNext, bind_eq_ok, Prod.exists, postValidated_eq_ok, pure_eq_ok]
  exact exists₂_congr fun p t => and_congr_right fun _ => eq_comm

end

end Ledger

end Unified
