import Unified.Settlement.Types

/-! The foundation ledger: journals of debit and credit entries, and the checks every journal passes before
    it is posted. -/

namespace Unified.Ledger

open Indexer (Octets Time)
open Settlement (Encoding JsonValue)

/-- A side is a text of which two values are known. -/
inductive Side where
  | debit | credit
  | other (text : String)
  deriving DecidableEq, Repr

structure Entry where
  accountCode : String
  side : Side
  (assetID units partyID loanID trancheID : String)
  deriving DecidableEq, Repr

structure Journal where
  (id legalEntityID bookID sourceSystem entryType sourceEventID loanID idempotencyKey correlationID : String)
  effectiveAt : Time
  entries : List Entry
  (evidenceHash reversalOf reason : String)
  deriving DecidableEq, Repr

structure PostedJournal extends Journal where
  contentHash : String
  postedAt : Time
  deriving DecidableEq, Repr

inductive LedgerError where
  | invalidJournal (detail : String)
  | unbalancedJournal (assetID : String)
  | idempotencyConflict
  | alreadyReversed (reversalID : String)
  | unknownJournal (id : String)
  deriving DecidableEq, Repr

def Side.text : Side → String
  | .debit => "DEBIT"
  | .credit => "CREDIT"
  | .other text => text

/-- A field that `omitempty` leaves out. -/
def optional (name value : String) : List (String × JsonValue) := if value = "" then [] else [(name, .text value)]

def Entry.json (e : Entry) : JsonValue :=
  .object ([("account_code", .text e.accountCode), ("side", .text e.side.text), ("asset_id", .text e.assetID),
    ("units", .text e.units)] ++ optional "party_id" e.partyID ++ optional "loan_id" e.loanID ++
    optional "tranche_id" e.trancheID)

def Journal.json (j : Journal) : JsonValue :=
  .object ([("id", .text j.id), ("legal_entity_id", .text j.legalEntityID), ("book_id", .text j.bookID),
    ("source_system", .text j.sourceSystem), ("entry_type", .text j.entryType),
    ("source_event_id", .text j.sourceEventID)] ++ optional "loan_id" j.loanID ++
    [("idempotency_key", .text j.idempotencyKey), ("correlation_id", .text j.correlationID),
      ("effective_at", .time j.effectiveAt), ("entries", .array (j.entries.map Entry.json)),
      ("evidence_hash", .text j.evidenceHash)] ++
    optional "reversal_of" j.reversalOf ++ optional "reason" j.reason)

/-- A time in the years 0 to 9999, the only ones that `json.Marshal` writes. -/
def Encodable (t : Time) : Prop := -31622400000000000 ≤ t ∧ t < 315537897600000000000

instance (t : Time) : Decidable (Encodable t) := inferInstanceAs (Decidable (_ ∧ _))

/-- `hex.EncodeToString(sha256(json))`. -/
def contentHash [Encoding] (j : Journal) : String :=
  String.ofList (hexEncode (Encoding.sha256 (Encoding.marshal j.json)))

abbrev Totals := Table String Int

def Totals.add (totals : Totals) (assetID : String) (units : Int) : Totals :=
  totals.insert assetID ((totals.lookup assetID).getD 0 + units)

/-- One round of the loop over the entries: the debits and the credits so far. -/
def tally (acc : Totals × Totals) (x : Entry × Nat) : Except LedgerError (Totals × Totals) := do
  let (entry, index) := x
  require (entry.accountCode ≠ "" ∧ entry.assetID ≠ "")
    (.invalidJournal s!"entry {index} has an empty account or asset")
  let units ← orRevert ((setString entry.units).filter (0 < ·))
    (.invalidJournal s!"entry {index} units must be a positive integer")
  match entry.side with
  | .debit => pure (acc.1.add entry.assetID units, acc.2)
  | .credit => pure (acc.1, acc.2.add entry.assetID units)
  | .other _ => .error (.invalidJournal s!"entry {index} has an invalid side")

/-- `validateAndHash`. Of several unbalanced assets the error names the first one among the entries; in the
    source the order of a map decides. -/
def validateAndHash [Encoding] (j : Journal) : Except LedgerError String := do
  require (j.id ≠ "" ∧ j.legalEntityID ≠ "" ∧ j.bookID ≠ "" ∧ j.sourceSystem ≠ "" ∧ j.entryType ≠ "" ∧
    j.sourceEventID ≠ "" ∧ j.idempotencyKey ≠ "" ∧ j.correlationID ≠ "" ∧ j.evidenceHash ≠ "" ∧ ¬ j.effectiveAt.IsZero)
    (.invalidJournal "required identity field is empty")
  require (j.reversalOf ≠ j.id) (.invalidJournal "journal cannot reverse itself")
  require (2 ≤ j.entries.length) (.invalidJournal "at least two entries are required")
  let (debits, credits) ← j.entries.zipIdx.foldlM tally (∅, ∅)
  match j.entries.find? fun entry => debits.lookup entry.assetID ≠ credits.lookup entry.assetID with
  | some entry => .error (.unbalancedJournal entry.assetID)
  | none => do
    require (Encodable j.effectiveAt) (.invalidJournal "year outside of range [0,9999]")
    pure (contentHash j)

/-! ### What a valid journal is -/

def Entry.amount (e : Entry) : Int := (setString e.units).getD 0

/-- The units of an entry on one side of one asset. -/
def Entry.on (side : Side) (assetID : String) (e : Entry) : Int :=
  if e.side = side ∧ e.assetID = assetID then e.amount else 0

def Journal.units (side : Side) (assetID : String) (j : Journal) : Int := (j.entries.map (Entry.on side assetID)).sum

structure Entry.Valid (e : Entry) : Prop where
  accountCode : e.accountCode ≠ ""
  assetID : e.assetID ≠ ""
  units : ∃ n, setString e.units = some n ∧ 0 < n
  side : e.side = .debit ∨ e.side = .credit

/-- What the checks leave of a journal. -/
structure Journal.Valid (j : Journal) : Prop where
  id : j.id ≠ ""
  reversalOf : j.reversalOf ≠ j.id
  entries : ∀ e ∈ j.entries, e.Valid
  balanced : ∀ assetID, j.units .debit assetID = j.units .credit assetID

theorem Totals.lookup_add (totals : Totals) (assetID other : String) (units : Int) :
    ((totals.add assetID units).lookup other).getD 0 = (totals.lookup other).getD 0 + if assetID = other then units else 0 := by
  rw [Totals.add, Table.lookup_insert_apply]
  by_cases h : other = assetID
  · subst h
    simp
  · simp [h, Ne.symm h]

theorem tally_eq_ok {acc acc' : Totals × Totals} {x : Entry × Nat} (h : tally acc x = .ok acc') :
    x.1.Valid ∧ ∀ assetID,
      (acc'.1.lookup assetID).getD 0 = (acc.1.lookup assetID).getD 0 + x.1.on .debit assetID ∧
      (acc'.2.lookup assetID).getD 0 = (acc.2.lookup assetID).getD 0 + x.1.on .credit assetID := by
  obtain ⟨entry, index⟩ := x
  simp only [tally, block_eq_ok, orRevert_eq_ok, Option.filter_eq_some_iff] at h
  obtain ⟨⟨haccount, hasset⟩, units, ⟨hunits, hpos⟩, h⟩ := h
  have hpositive : 0 < units := of_decide_eq_true hpos
  have hamount : entry.amount = units := by rw [Entry.amount, hunits, Option.getD_some]
  cases hside : entry.side with
  | debit =>
    simp only [hside, pure_eq_ok] at h
    subst h
    refine ⟨⟨haccount, hasset, ⟨units, hunits, hpositive⟩, .inl hside⟩, fun assetID => ?_⟩
    simp [Totals.lookup_add, Entry.on, hside, hamount]
  | credit =>
    simp only [hside, pure_eq_ok] at h
    subst h
    refine ⟨⟨haccount, hasset, ⟨units, hunits, hpositive⟩, .inr hside⟩, fun assetID => ?_⟩
    simp [Totals.lookup_add, Entry.on, hside, hamount]
  | other =>
    simp only [hside] at h
    cases h

theorem tallies_eq_ok {acc acc' : Totals × Totals} {xs : List (Entry × Nat)} (h : xs.foldlM tally acc = .ok acc') :
    (∀ x ∈ xs, x.1.Valid) ∧ ∀ assetID,
      (acc'.1.lookup assetID).getD 0 = (acc.1.lookup assetID).getD 0 + (xs.map fun x => x.1.on .debit assetID).sum ∧
      (acc'.2.lookup assetID).getD 0 = (acc.2.lookup assetID).getD 0 + (xs.map fun x => x.1.on .credit assetID).sum := by
  induction xs generalizing acc with
  | nil =>
    rw [List.foldlM_nil, pure_eq_ok] at h
    subst h
    simp
  | cons _ _ ih =>
    rw [List.foldlM_cons, bind_eq_ok] at h
    obtain ⟨mid, hx, hxs⟩ := h
    obtain ⟨hvalid, hstep⟩ := tally_eq_ok hx
    obtain ⟨hvalids, hrest⟩ := ih hxs
    refine ⟨?_, fun assetID => ?_⟩
    · intro y hy
      rcases List.mem_cons.mp hy with rfl | hy
      · exact hvalid
      · exact hvalids y hy
    · obtain ⟨hdebit, hcredit⟩ := hstep assetID
      obtain ⟨hdebits, hcredits⟩ := hrest assetID
      rw [hdebits, hcredits, hdebit, hcredit, List.map_cons, List.map_cons, List.sum_cons, List.sum_cons]
      exact ⟨Int.add_assoc _ _ _, Int.add_assoc _ _ _⟩

theorem Journal.units_of_notMem {j : Journal} {side : Side} {assetID : String}
    (h : ∀ e ∈ j.entries, e.assetID ≠ assetID) : j.units side assetID = 0 := by
  rw [Journal.units]
  apply List.sum_eq_zero
  intro n hn
  obtain ⟨e, he, rfl⟩ := List.mem_map.mp hn
  exact if_neg fun hon => h e he hon.2

theorem validateAndHash_eq_ok [Encoding] {j : Journal} {hash : String} (h : validateAndHash j = .ok hash) :
    j.Valid ∧ hash = contentHash j := by
  simp only [validateAndHash, block_eq_ok, Prod.exists] at h
  obtain ⟨⟨hid, -⟩, hself, -, debits, credits, htally, h⟩ := h
  obtain ⟨hvalid, htotals⟩ := tallies_eq_ok htally
  split at h
  · cases h
  · rename_i hnone
    simp only [block_eq_ok] at h
    obtain ⟨-, rfl⟩ := h
    have hzip : ∀ side assetID, (j.entries.zipIdx.map fun x => x.1.on side assetID).sum = j.units side assetID := by
      intro side assetID
      have hfst : j.entries = j.entries.zipIdx.map Prod.fst := (List.zipIdx_map_fst 0 j.entries).symm
      rw [Journal.units]
      conv_rhs => rw [hfst]
      rw [List.map_map]
      rfl
    refine ⟨⟨hid, hself, fun e he => ?_, fun assetID => ?_⟩, rfl⟩
    · rw [← List.zipIdx_map_fst 0 j.entries] at he
      obtain ⟨x, hx, rfl⟩ := List.mem_map.mp he
      exact hvalid x hx
    · by_cases hasset : ∃ e ∈ j.entries, e.assetID = assetID
      · obtain ⟨e, he, rfl⟩ := hasset
        have hsame := List.find?_eq_none.mp hnone e he
        simp only [ne_eq, decide_not, Bool.not_eq_eq_eq_not, Bool.not_true, Bool.not_eq_false, decide_eq_true_eq] at hsame
        obtain ⟨hdebit, hcredit⟩ := htotals e.assetID
        dsimp only at hdebit hcredit
        rw [hzip, Finmap.lookup_empty, Option.getD_none, Int.zero_add] at hdebit hcredit
        rw [← hdebit, ← hcredit, hsame]
      · have hnot : ∀ e ∈ j.entries, e.assetID ≠ assetID := fun e he heq => hasset ⟨e, he, heq⟩
        rw [Journal.units_of_notMem hnot, Journal.units_of_notMem hnot]

end Unified.Ledger
