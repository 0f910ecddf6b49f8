import Unified.Payment.World

/-! The reconciliation of a provider's statement with the payments and their journals at a cut-off. A run that is made
    again is the same run as long as its payments have got no further journal, also after the cut-off. -/

namespace Unified.Payment

open Indexer (Time)
open Ledger (Extends)
open Settlement (Encoding JsonValue)

/-- A kind is a text of which two values are known. -/
inductive StatementKind where
  | settled | reversed
  | other (text : String)

def StatementKind.text : StatementKind → String
  | .settled => "SETTLED"
  | .reversed => "REVERSED"
  | .other text => text

structure StatementEntry where
  (entryID providerID providerReference paymentID assetID units : String)
  kind : StatementKind
  occurredAt : Time

inductive ReconciliationStatus where
  | matched | exception
  deriving DecidableEq

def ReconciliationStatus.text : ReconciliationStatus → String
  | .matched => "MATCHED"
  | .exception => "EXCEPTION"

structure ReconciliationRun where
  (runID providerID assetID : String)
  asOf : Time
  (providerSnapshotHash ledgerSnapshotHash : String)
  (expectedUnits observedUnits differenceUnits : Int)
  unmatchedItems : Nat
  status : ReconciliationStatus
  owner : String
  (resolutionDeadline createdAt : Time)

structure ReconciliationException where
  (exceptionID runID providerID assetID : String)
  differenceUnits : Int
  unmatchedItems : Nat
  (reasonCode owner : String)
  (detectedAt resolutionDeadline : Time)

structure Reconciler where
  runs : Table String ReconciliationRun
  runHashes : Table String String
  exceptions : Table String ReconciliationException

inductive ReconciliationError where
  | invalidReconciliation | reconciliationConflict
  deriving DecidableEq

/-- The arguments of `Run` beside the payments and the statement. -/
structure RunRequest where
  (runID providerID assetID : String)
  asOf : Time
  owner : String
  resolutionDeadline : Time

def StatementEntry.json (s : StatementEntry) : JsonValue :=
  .object [("EntryID", .text s.entryID), ("ProviderID", .text s.providerID),
    ("ProviderReference", .text s.providerReference), ("PaymentID", .text s.paymentID), ("AssetID", .text s.assetID),
    ("Units", .text s.units), ("Kind", .text s.kind.text), ("OccurredAt", .time s.occurredAt)]

def ReconciliationRun.json (r : ReconciliationRun) : JsonValue :=
  .object [("RunID", .text r.runID), ("ProviderID", .text r.providerID), ("AssetID", .text r.assetID),
    ("AsOf", .time r.asOf), ("ProviderSnapshotHash", .text r.providerSnapshotHash),
    ("LedgerSnapshotHash", .text r.ledgerSnapshotHash), ("ExpectedUnits", .text (toString r.expectedUnits)),
    ("ObservedUnits", .text (toString r.observedUnits)), ("DifferenceUnits", .text (toString r.differenceUnits)),
    ("UnmatchedItems", .number r.unmatchedItems), ("Status", .text r.status.text),
    ("Owner", .text r.owner), ("ResolutionDeadline", .time r.resolutionDeadline), ("CreatedAt", .time r.createdAt)]

def hashJSON [Encoding] (value : JsonValue) : String := hashBytes (Encoding.marshal value)

def reconciliationKey (paymentID providerReference : String) : String := paymentID ++ "\x00" ++ providerReference

def positiveUnits (value : String) : Option Nat := (canonicalDecimal value).filter (0 < ·)

/-! ### The loops of `Run` -/

/-- What the loop over the payments has collected. -/
structure Expected where
  units : Int
  byPayment : Table String Int
  seen : List String
  evidence : List String
  deriving DecidableEq

/-- The payment is final at the cut-off, and not reversed. -/
def Intent.FinalAt (asOf : Time) (i : Intent) : Prop :=
  ¬ i.finalizedAt.IsZero ∧ i.finalizedAt ≤ asOf ∧ (i.reversedAt.IsZero ∨ asOf < i.reversedAt)

instance (asOf : Time) (i : Intent) : Decidable (i.FinalAt asOf) := by unfold Intent.FinalAt; infer_instance

/-- The journals of a payment that are posted. -/
def JournalRecord.journalIDs (r : JournalRecord) : List String :=
  (r.provisionalJournalID :: r.finalJournalID :: r.reversalJournalIDs).filter (· ≠ "")

def Poster.journalText (p : Poster) (id : String) : Except ReconciliationError String := do
  let journal ← orRevert (p.book.byID.lookup id) .invalidReconciliation
  pure (journal.id ++ ":" ++ journal.contentHash)

/-- The journals of a payment, whenever they were posted. -/
def Poster.evidence (p : Poster) (asOf : Time) (i : Intent) : Except ReconciliationError (List String) :=
  match p.records.lookup i.paymentID with
  | none => do
    require (i.provisionalAt.IsZero ∨ asOf < i.provisionalAt) .invalidReconciliation
    pure []
  | some record => record.journalIDs.mapM p.journalText

def Poster.collect (p : Poster) (r : RunRequest) (x : Expected) (i : Intent) : Except ReconciliationError Expected :=
  if i.providerID ≠ r.providerID ∨ i.assetID ≠ r.assetID ∨ r.asOf < i.createdAt then pure x else do
    require (i.paymentID ≠ "" ∧ i.paymentID ∉ x.seen) .invalidReconciliation
    let units ← orRevert (positiveUnits i.units) .invalidReconciliation
    require (i.FinalAt r.asOf → i.providerReference ≠ "") .invalidReconciliation
    let evidence ← p.evidence r.asOf i
    let x := { x with seen := i.paymentID :: x.seen, evidence := x.evidence ++ evidence }
    if i.FinalAt r.asOf then
      pure { x with
        units := x.units + units
        byPayment := x.byPayment.insert (reconciliationKey i.paymentID i.providerReference) units }
    else pure x

/-- What the loop over the statement has collected. -/
structure Observed where
  units : Int
  byPayment : Table String Int
  seen : List String

def addUnits (target : Table String Int) (key : String) (units : Int) : Table String Int :=
  target.insert key ((target.lookup key).getD 0 + units)

def observe (r : RunRequest) (x : Observed) (s : StatementEntry) : Except ReconciliationError Observed := do
  require (s.entryID ≠ "" ∧ s.providerID = r.providerID ∧ s.assetID = r.assetID ∧ s.providerReference ≠ "" ∧
    s.paymentID ≠ "" ∧ ¬ s.occurredAt.IsZero ∧ s.occurredAt ≤ r.asOf ∧ s.entryID ∉ x.seen) .invalidReconciliation
  let units ← orRevert (positiveUnits s.units) .invalidReconciliation
  let units : Int ← match s.kind with
    | .settled => pure (units : Int)
    | .reversed => pure (-units : Int)
    | .other _ => .error .invalidReconciliation
  pure ⟨x.units + units, addUnits x.byPayment (reconciliationKey s.paymentID s.providerReference) units,
    s.entryID :: x.seen⟩

/-- `mismatchCount`, a `uint32`. -/
def mismatchCount (expected observed : Table String Int) : Nat :=
  ((expected.keys ∪ observed.keys).filter fun key =>
    (expected.lookup key).getD 0 ≠ (observed.lookup key).getD 0).card % 2 ^ 32

def sorted (evidence : List String) : List String := evidence.insertionSort (· ≤ ·)

def runOf [Encoding] (r : RunRequest) (statement : List StatementEntry) (x : Expected) (y : Observed) :
    ReconciliationRun where
  runID := r.runID
  providerID := r.providerID
  assetID := r.assetID
  asOf := r.asOf
  providerSnapshotHash := hashJSON (.array ((statement.insertionSort (·.entryID ≤ ·.entryID)).map (·.json)))
  ledgerSnapshotHash := hashJSON (.array ((sorted x.evidence).map .text))
  expectedUnits := x.units
  observedUnits := y.units
  differenceUnits := y.units - x.units
  unmatchedItems := mismatchCount x.byPayment y.byPayment
  status :=
    if y.units - x.units = 0 ∧ mismatchCount x.byPayment y.byPayment = 0 then .matched else .exception
  owner := r.owner
  resolutionDeadline := r.resolutionDeadline
  createdAt := r.asOf

namespace Reconciler

def record [Encoding] (c : Reconciler) (run : ReconciliationRun) : Reconciler where
  runs := c.runs.insert run.runID run
  runHashes := c.runHashes.insert run.runID (hashJSON run.json)
  exceptions :=
    if run.status = .matched then c.exceptions else c.exceptions.insert (run.runID ++ ":difference")
      ⟨run.runID ++ ":difference", run.runID, run.providerID, run.assetID, run.differenceUnits, run.unmatchedItems,
        "PROVIDER_LEDGER_MISMATCH", run.owner, run.asOf, run.resolutionDeadline⟩

/-- `Run` over what the poster holds now. -/
def run [Encoding] (c : Reconciler) (p : Poster) (r : RunRequest) (payments : List Intent)
    (statement : List StatementEntry) : Except ReconciliationError (Reconciler × ReconciliationRun) := do
  require (r.runID ≠ "" ∧ r.providerID ≠ "" ∧ r.assetID ≠ "" ∧ ¬ r.asOf.IsZero ∧ r.owner ≠ "" ∧
    r.asOf < r.resolutionDeadline) .invalidReconciliation
  let x ← payments.foldlM (p.collect r) ⟨0, ∅, [], []⟩
  let y ← statement.foldlM (observe r) ⟨0, ∅, []⟩
  require (0 ≤ y.units) .invalidReconciliation
  let run := runOf r statement x y
  match c.runs.lookup r.runID with
  | some existing => do
    require (c.runHashes.lookup r.runID = some (hashJSON run.json)) .reconciliationConflict
    pure (c, existing)
  | none => pure (c.record run, run)

end Reconciler

/-! ### Later payments -/

/-- The payment after events that all come after the cut-off. -/
structure Intent.Advances (asOf : Time) (i i' : Intent) : Prop where
  same : i'.paymentID = i.paymentID ∧ i'.providerID = i.providerID ∧ i'.assetID = i.assetID ∧ i'.units = i.units ∧
    i'.createdAt = i.createdAt
  provisional : i'.provisionalAt = i.provisionalAt ∨ i.provisionalAt.IsZero ∧ asOf < i'.provisionalAt
  finalized : i'.finalizedAt = i.finalizedAt ∨ i.finalizedAt.IsZero ∧ asOf < i'.finalizedAt
  reversed : i'.reversedAt = i.reversedAt ∨ i.reversedAt.IsZero ∧ asOf < i'.reversedAt
  reference : ¬ i.finalizedAt.IsZero → i'.providerReference = i.providerReference

/-- The payments that were there at the cut-off have advanced; those that came after it are of no account. -/
def Later (asOf : Time) (payments payments' : List Intent) : Prop :=
  List.Forall₂ (Intent.Advances asOf) (payments.filter (·.createdAt ≤ asOf)) (payments'.filter (·.createdAt ≤ asOf))

/-- A payment of the run: of its provider and asset, and created by the cut-off. -/
def RunRequest.Covers (r : RunRequest) (i : Intent) : Prop :=
  i.providerID = r.providerID ∧ i.assetID = r.assetID ∧ i.createdAt ≤ r.asOf

/-! ### Later journals -/

/-- The journals that are recorded for a payment. -/
def Poster.journalsOf (p : Poster) (paymentID : String) : List String := (p.record paymentID).journalIDs

/-- Payments only get further journals, and journals stay in the book. -/
structure Poster.Grows (p p' : Poster) : Prop where
  book : Extends p.book p'.book
  records : ∀ id ∈ p.records, id ∈ p'.records
  journals : ∀ id, p'.journalsOf id = p.journalsOf id ∨ (p.journalsOf id).length < (p'.journalsOf id).length

theorem Poster.Grows.refl (p : Poster) : p.Grows p := ⟨.refl _, fun _ => id, fun _ => .inl rfl⟩

theorem Poster.Grows.trans {p p' p'' : Poster} (h : p.Grows p') (h' : p'.Grows p'') : p.Grows p'' where
  book := h.book.trans h'.book
  records id hid := h'.records id (h.records id hid)
  journals id := by
    rcases h.journals id with heq | hlt
    · exact heq ▸ h'.journals id
    · rcases h'.journals id with heq' | hlt'
      · exact .inr (heq' ▸ hlt)
      · exact .inr (hlt.trans hlt')

theorem filter_longer (xs ys zs : List String) : (xs ++ ys ++ zs).filter (· ≠ "") = (xs ++ zs).filter (· ≠ "") ∨
    ((xs ++ zs).filter (· ≠ "")).length < ((xs ++ ys ++ zs).filter (· ≠ "")).length := by
  simp only [List.filter_append, List.length_append]
  cases hys : ys.filter (· ≠ "") with
  | nil => exact .inl (by rw [List.append_nil])
  | cons => exact .inr (by rw [List.length_cons]; omega)

/-- A transition adds to the journals of its payment. -/
theorem recorded_longer {p : Poster} {t : Transition} {record : JournalRecord} {js : List Ledger.Journal}
    (h : p.journals t record = .ok js) (ids : List String) :
    (Poster.recorded record t ids).journalIDs = record.journalIDs ∨
      record.journalIDs.length < (Poster.recorded record t ids).journalIDs.length := by
  obtain ⟨provisional, final, reversals⟩ := record
  unfold Poster.journals at h
  split at h
  · next hto =>
    simp only [block_eq_ok] at h
    obtain ⟨⟨-, rfl⟩, -⟩ := h
    simpa [JournalRecord.journalIDs, Poster.recorded, hto] using
      filter_longer [] [journalID t.payment.paymentID "provisional"] (final :: reversals)
  · next hto =>
    simp only [block_eq_ok] at h
    obtain ⟨⟨-, -, rfl⟩, -⟩ := h
    simpa [JournalRecord.journalIDs, Poster.recorded, hto, List.filter_cons] using
      filter_longer [provisional] [journalID t.payment.paymentID "final"] reversals
  · next hto =>
    simp only [block_eq_ok] at h
    obtain ⟨⟨rfl, -⟩, -⟩ := h
    simpa [JournalRecord.journalIDs, Poster.recorded, hto] using filter_longer [provisional, final] ids []
  · cases h

section

variable [Encoding] {p p' : Poster}

/-- `Apply` as a step of the poster. -/
def Poster.exec (x : Transition × Time) (p : Poster) : Except PosterError Poster := do
  let (_, p) ← p.apply x.1 x.2
  pure p

theorem Poster.apply_grows {t : Transition} {now : Time} {ids : List String} (h : p.apply t now = .ok (ids, p')) :
    p.Grows p' := by
  simp only [Poster.apply, block_eq_ok] at h
  obtain ⟨-, h⟩ := h
  split at h
  · simp only [block_eq_ok, Prod.mk.injEq] at h
    obtain ⟨-, -, rfl⟩ := h
    exact .refl p
  · simp only [block_eq_ok, Prod.exists, Prod.mk.injEq] at h
    obtain ⟨js, hjournals, posted, book, hposted, -, rfl⟩ := h
    have hbatch : Ledger.Call.answer p.book (.postBatch js now) = .ok (posted, book) := mapError_eq_ok.mp hposted
    obtain ⟨xs, hxs, -⟩ := Ledger.Call.answer_postings hbatch
    refine ⟨hxs.extends, fun id hid => Finmap.mem_insert.mpr (.inr hid), fun id => ?_⟩
    unfold Poster.journalsOf Poster.record
    dsimp only
    rw [Table.lookup_insert_apply]
    split
    · next hid =>
      subst hid
      exact recorded_longer hjournals _
    · exact .inl rfl

theorem Poster.runCalls_grows (p : Poster) (transitions : List (Transition × Time)) :
    p.Grows (runCalls Poster.exec p transitions) := by
  refine runCalls_relation (fun _ => True) Poster.Grows .refl (fun _ _ _ => .trans) (fun _ _ _ _ _ => trivial)
    (fun x p p' h _ => ?_) trivial transitions
  simp only [Poster.exec, bind_eq_ok, Prod.exists, pure_eq_ok] at h
  obtain ⟨ids, _, happly, rfl⟩ := h
  exact Poster.apply_grows happly

end

theorem mapM_length {α β ε : Type} {f : α → Except ε β} {xs : List α} {ys : List β} (h : xs.mapM f = .ok ys) :
    ys.length = xs.length :=
  (Ledger.mapM_eq_ok h).length_eq.symm

theorem Poster.evidence_eq_ok {p : Poster} {asOf : Time} {i : Intent} {evidence : List String} :
    p.evidence asOf i = .ok evidence ↔
      (i.paymentID ∉ p.records → i.provisionalAt.IsZero ∨ asOf < i.provisionalAt) ∧
      (p.journalsOf i.paymentID).mapM p.journalText = .ok evidence := by
  unfold Poster.evidence Poster.journalsOf Poster.record
  cases hrecord : p.records.lookup i.paymentID with
  | none =>
    have hout : i.paymentID ∉ p.records := Finmap.lookup_eq_none.mp hrecord
    have hnone : (JournalRecord.mk "" "" []).journalIDs = [] := rfl
    simp only [block_eq_ok, hout, not_false_eq_true, forall_const, Option.getD_none, hnone, List.mapM_nil, pure_eq_ok]
  | some record =>
    have hin : i.paymentID ∈ p.records := Finmap.mem_of_lookup_eq_some hrecord
    simp only [hin, not_true_eq_false, false_implies, true_and, Option.getD_some]

/-- Journals that are still recorded are still found. -/
theorem Poster.Grows.mapM_journalText {p p' : Poster} (h : p.Grows p') {ids evidence : List String}
    (hids : ids.mapM p.journalText = .ok evidence) : ids.mapM p'.journalText = .ok evidence := by
  induction ids generalizing evidence with
  | nil => exact hids
  | cons id ids ih =>
    simp only [List.mapM_cons, bind_eq_ok, pure_eq_ok, Poster.journalText, orRevert_eq_ok] at hids ⊢
    obtain ⟨_, ⟨journal, hjournal, rfl⟩, rest, hrest, rfl⟩ := hids
    exact ⟨_, ⟨journal, h.book.byID hjournal, rfl⟩, rest, ih hrest, rfl⟩

section

variable {p p' : Poster} {r : RunRequest} {payments payments' : List Intent} {statement : List StatementEntry}
  {x x' y y' : Expected}

theorem collect_filter (p : Poster) (x : Expected) (payments : List Intent) :
    payments.foldlM (p.collect r) x = (payments.filter (·.createdAt ≤ r.asOf)).foldlM (p.collect r) x := by
  induction payments generalizing x with
  | nil => rfl
  | cons i rest ih =>
    by_cases hi : i.createdAt ≤ r.asOf
    · rw [List.filter_cons_of_pos (by simpa using hi), List.foldlM_cons, List.foldlM_cons]
      exact bind_congr fun y => ih y
    · have hskip : p.collect r x i = pure x := if_pos (.inr (.inr (not_le.mp hi)))
      rw [List.filter_cons_of_neg (by simpa using hi), List.foldlM_cons, hskip, ← ih]
      rfl

theorem Intent.Advances.covers {i i' : Intent} (h : i.Advances r.asOf i') : r.Covers i' ↔ r.Covers i := by
  obtain ⟨-, hprovider, hasset, -, hcreated⟩ := h.same
  rw [RunRequest.Covers, RunRequest.Covers, hprovider, hasset, hcreated]

theorem Intent.Advances.finalAt {asOf : Time} {i i' : Intent} (h : i.Advances asOf i') :
    i'.FinalAt asOf ↔ i.FinalAt asOf := by
  unfold FinalAt
  rcases h.finalized with hf | ⟨hzero, hf⟩
  · rw [hf]
    refine and_congr_right fun _ => and_congr_right fun _ => ?_
    rcases h.reversed with hr | ⟨hzero, hr⟩
    · rw [hr]
    · exact iff_of_true (.inr hr) (.inl hzero)
  · exact iff_of_false (fun h => absurd h.2.1 (not_le.mpr hf)) fun h => h.1 hzero

/-- The amounts of two loops agree. -/
def Expected.Same (x x' : Expected) : Prop := x'.units = x.units ∧ x'.byPayment = x.byPayment ∧ x'.seen = x.seen

theorem collect_skip {i : Intent} (h : ¬ r.Covers i) : p.collect r x i = pure x := by
  refine if_pos ?_
  unfold RunRequest.Covers at h
  rw [not_and_or, not_and_or, not_le] at h
  exact h

/-- What a payment of the run adds. -/
theorem collect_eq_ok {i : Intent} (h : r.Covers i) : p.collect r x i = .ok y ↔
    (i.paymentID ≠ "" ∧ i.paymentID ∉ x.seen) ∧ ∃ units, positiveUnits i.units = some units ∧
      (i.FinalAt r.asOf → i.providerReference ≠ "") ∧ ∃ evidence, p.evidence r.asOf i = .ok evidence ∧
      y = ⟨if i.FinalAt r.asOf then x.units + units else x.units,
        if i.FinalAt r.asOf then x.byPayment.insert (reconciliationKey i.paymentID i.providerReference) units
        else x.byPayment, i.paymentID :: x.seen, x.evidence ++ evidence⟩ := by
  obtain ⟨hprovider, hasset, hcreated⟩ := h
  have hkeep : ¬ (i.providerID ≠ r.providerID ∨ i.assetID ≠ r.assetID ∨ r.asOf < i.createdAt) := by
    simp [hprovider, hasset, hcreated]
  simp only [Poster.collect, if_neg hkeep, block_eq_ok, orRevert_eq_ok]
  refine and_congr_right fun _ => exists_congr fun units => and_congr_right fun _ => and_congr_right fun _ =>
    exists_congr fun evidence => and_congr_right fun _ => ?_
  split <;> rw [pure_eq_ok, eq_comm]

/-- One payment at the two runs: the amounts are the same, the evidence is not shorter, and it is as long only if the
    payment has got no further journal. -/
theorem collect_same {i i' : Intent} (grows : p.Grows p') (advances : i.Advances r.asOf i') (same : x.Same x')
    (h : p.collect r x i = .ok y) (h' : p'.collect r x' i' = .ok y') :
    y.Same y' ∧ y.evidence.length + x'.evidence.length ≤ y'.evidence.length + x.evidence.length ∧
      (y'.evidence.length + x.evidence.length = y.evidence.length + x'.evidence.length → r.Covers i →
        p'.journalsOf i.paymentID = p.journalsOf i.paymentID) := by
  by_cases hcovers : r.Covers i
  · -- both runs take the payment, with the same units, and its journals are what can differ
    obtain ⟨hid, -, -, hunits, -⟩ := advances.same
    obtain ⟨hsum, htable, hseen⟩ := same
    obtain ⟨-, units, hpositive, -, evidence, hevidence, rfl⟩ := (collect_eq_ok hcovers).mp h
    obtain ⟨-, units', hpositive', -, evidence', hevidence', rfl⟩ := (collect_eq_ok (advances.covers.mpr hcovers)).mp h'
    rw [hunits] at hpositive'
    cases hpositive.symm.trans hpositive'
    have hlength := mapM_length (Poster.evidence_eq_ok.mp hevidence).2
    have hlength' := mapM_length (Poster.evidence_eq_ok.mp hevidence').2
    rw [hid] at hlength'
    refine ⟨⟨?_, ?_, ?_⟩, ?_, fun heq _ => ?_⟩
    · simp only [advances.finalAt, hsum]
    · by_cases hfinal : i.FinalAt r.asOf
      · simp only [advances.finalAt, hfinal, if_true, hid, advances.reference hfinal.1, htable]
      · simp only [advances.finalAt, hfinal, if_false, htable]
    · simp only [hid, hseen]
    · simp only [List.length_append]
      rcases grows.journals i.paymentID with hsame | hlonger
      · rw [hsame] at hlength'
        omega
      · omega
    · simp only [List.length_append] at heq
      exact (grows.journals i.paymentID).resolve_right (by omega)
  · rw [collect_skip hcovers, pure_eq_ok] at h
    rw [collect_skip (mt advances.covers.mp hcovers), pure_eq_ok] at h'
    subst h h'
    exact ⟨same, by omega, fun _ hin => absurd hin hcovers⟩

theorem collect_later (grows : p.Grows p') (later : Later r.asOf payments payments') (same : x.Same x')
    (h : payments.foldlM (p.collect r) x = .ok y) (h' : payments'.foldlM (p'.collect r) x' = .ok y') :
    y.Same y' ∧ y.evidence.length + x'.evidence.length ≤ y'.evidence.length + x.evidence.length ∧
      (y'.evidence.length + x.evidence.length = y.evidence.length + x'.evidence.length →
        ∀ i ∈ payments, r.Covers i → p'.journalsOf i.paymentID = p.journalsOf i.paymentID) := by
  have hall : ∀ i ∈ payments, r.Covers i → i ∈ payments.filter (·.createdAt ≤ r.asOf) := fun i hi hcovers =>
    List.mem_filter.mpr ⟨hi, decide_eq_true hcovers.2.2⟩
  rw [collect_filter] at h h'
  suffices hlist : y.Same y' ∧ y.evidence.length + x'.evidence.length ≤ y'.evidence.length + x.evidence.length ∧
      (y'.evidence.length + x.evidence.length = y.evidence.length + x'.evidence.length →
        ∀ i ∈ payments.filter (·.createdAt ≤ r.asOf), r.Covers i → p'.journalsOf i.paymentID = p.journalsOf i.paymentID) by
    exact ⟨hlist.1, hlist.2.1, fun heq i hi hcovers => hlist.2.2 heq i (hall i hi hcovers) hcovers⟩
  unfold Later at later
  generalize payments.filter (·.createdAt ≤ r.asOf) = l at later h
  generalize payments'.filter (·.createdAt ≤ r.asOf) = l' at later h'
  induction later generalizing x x' with
  | nil =>
    rw [List.foldlM_nil, pure_eq_ok] at h h'
    subst h h'
    exact ⟨same, by omega, by simp⟩
  | cons advances _ ih =>
    simp only [List.foldlM_cons, bind_eq_ok] at h h'
    obtain ⟨z, hz, h⟩ := h
    obtain ⟨z', hz', h'⟩ := h'
    obtain ⟨hfirst, hle, hnone⟩ := collect_same grows advances same hz hz'
    obtain ⟨hsame, hle', hnone'⟩ := ih hfirst h h'
    refine ⟨hsame, by omega, fun heq => List.forall_mem_cons.mpr ⟨hnone (by omega), hnone' (by omega)⟩⟩

/-- A payment without further journals is collected as before. -/
theorem collect_kept {i i' : Intent} (grows : p.Grows p') (advances : i.Advances r.asOf i')
    (unchanged : r.Covers i → p'.journalsOf i.paymentID = p.journalsOf i.paymentID) (h : p.collect r x i = .ok y) :
    p'.collect r x i' = .ok y := by
  by_cases hcovers : r.Covers i
  · obtain ⟨hid, -, -, hunits, -⟩ := advances.same
    obtain ⟨hnew, units, hpositive, hreference, evidence, hevidence, rfl⟩ := (collect_eq_ok hcovers).mp h
    obtain ⟨hopen, htexts⟩ := Poster.evidence_eq_ok.mp hevidence
    have hsame : i'.FinalAt r.asOf → i'.providerReference = i.providerReference := fun hfinal =>
      advances.reference (advances.finalAt.mp hfinal).1
    refine (collect_eq_ok (advances.covers.mpr hcovers)).mpr ⟨hid ▸ hnew, units, hunits ▸ hpositive, fun hfinal => ?_,
      evidence, Poster.evidence_eq_ok.mpr ⟨fun hout => ?_, ?_⟩, ?_⟩
    · rw [hsame hfinal]
      exact hreference (advances.finalAt.mp hfinal)
    · -- a payment without a record became provisional after the cut-off, if at all
      rw [hid] at hout
      rcases advances.provisional with heq | ⟨-, hafter⟩
      · exact heq ▸ hopen fun hin => hout (grows.records _ hin)
      · exact .inr hafter
    · rw [hid, unchanged hcovers]
      exact grows.mapM_journalText htexts
    · by_cases hfinal : i.FinalAt r.asOf
      · simp only [advances.finalAt, hfinal, if_true, hid, advances.reference hfinal.1]
      · simp only [advances.finalAt, hfinal, if_false, hid]
  · rw [collect_skip hcovers] at h
    rw [collect_skip (mt advances.covers.mp hcovers), h]

theorem collect_again (grows : p.Grows p') (later : Later r.asOf payments payments')
    (unchanged : ∀ i ∈ payments, r.Covers i → p'.journalsOf i.paymentID = p.journalsOf i.paymentID)
    (h : payments.foldlM (p.collect r) x = .ok y) : payments'.foldlM (p'.collect r) x = .ok y := by
  have hkept : ∀ i ∈ payments.filter (·.createdAt ≤ r.asOf), r.Covers i →
      p'.journalsOf i.paymentID = p.journalsOf i.paymentID := fun i hi => unchanged i (List.mem_of_mem_filter hi)
  rw [collect_filter] at h ⊢
  unfold Later at later
  generalize payments.filter (·.createdAt ≤ r.asOf) = l at later h hkept
  generalize payments'.filter (·.createdAt ≤ r.asOf) = l' at later
  induction later generalizing x with
  | nil => exact h
  | cons advances _ ih =>
    simp only [List.foldlM_cons, bind_eq_ok] at h ⊢
    obtain ⟨z, hz, h⟩ := h
    obtain ⟨hfirst, hrest⟩ := List.forall_mem_cons.mp hkept
    exact ⟨z, collect_kept grows advances hfirst hz, ih h hrest⟩

/-! ### A run made again -/

/-- Two values that have the same hash are the same. -/
def Distinct [Encoding] (a b : JsonValue) : Prop := hashJSON a = hashJSON b → a = b

variable [Encoding]

/-- No two of the values that the two runs hash have the same hash. -/
def NoCollision (p p' : Poster) (r : RunRequest) (payments payments' : List Intent) (statement : List StatementEntry) :
    Prop :=
  ∀ x x' y, payments.foldlM (p.collect r) ⟨0, ∅, [], []⟩ = .ok x →
    payments'.foldlM (p'.collect r) ⟨0, ∅, [], []⟩ = .ok x' → statement.foldlM (observe r) ⟨0, ∅, []⟩ = .ok y →
    Distinct (.array ((sorted x.evidence).map .text)) (.array ((sorted x'.evidence).map .text)) ∧
      Distinct (runOf r statement x y).json (runOf r statement x' y).json

/-- Runs with the same hash have the same evidence. -/
theorem evidence_of_hash {z : Observed}
    (distinct : Distinct (.array ((sorted x.evidence).map .text)) (.array ((sorted x'.evidence).map .text)) ∧
      Distinct (runOf r statement x z).json (runOf r statement x' z).json)
    (h : hashJSON (runOf r statement x z).json = hashJSON (runOf r statement x' z).json) :
    sorted x'.evidence = sorted x.evidence := by
  have hrun := distinct.2 h
  simp only [ReconciliationRun.json, runOf, JsonValue.object.injEq, List.cons.injEq, Prod.mk.injEq,
    JsonValue.text.injEq, true_and] at hrun
  have hledger := distinct.1 hrun.1
  rw [JsonValue.array.injEq] at hledger
  exact (List.map_injective_iff.mpr (fun _ _ h => JsonValue.text.inj h) hledger).symm

theorem Reconciler.run_eq_ok {c c' : Reconciler} {run : ReconciliationRun} (h : c.run p r payments statement = .ok (c', run)) :
    ∃ x y, payments.foldlM (p.collect r) ⟨0, ∅, [], []⟩ = .ok x ∧ statement.foldlM (observe r) ⟨0, ∅, []⟩ = .ok y ∧
      c'.runs.lookup r.runID = some run ∧ c'.runHashes.lookup r.runID = some (hashJSON (runOf r statement x y).json) := by
  simp only [Reconciler.run, block_eq_ok] at h
  obtain ⟨-, x, hx, y, hy, -, h⟩ := h
  refine ⟨x, y, hx, hy, ?_⟩
  split at h
  · next existing hexisting =>
    simp only [block_eq_ok, Prod.mk.injEq] at h
    obtain ⟨hhash, rfl, rfl⟩ := h
    exact ⟨hexisting, hhash⟩
  · simp only [pure_eq_ok, Prod.mk.injEq] at h
    obtain ⟨rfl, rfl⟩ := h
    exact ⟨Finmap.lookup_insert _, Finmap.lookup_insert _⟩

/-- A run made again after any transitions of the poster, with payments whose events come after its cut-off, returns the
    stored run if and only if the poster has recorded no further journal for the payments of the run. -/
theorem rerun_iff {c c' : Reconciler} {run : ReconciliationRun} (first : c.run p r payments statement = .ok (c', run))
    (later : Later r.asOf payments payments') (transitions : List (Transition × Time))
    (distinct : NoCollision p (runCalls Poster.exec p transitions) r payments payments' statement) :
    (∃ c'', c'.run (runCalls Poster.exec p transitions) r payments' statement = .ok (c'', run)) ↔
      ∀ i ∈ payments, r.Covers i →
        (runCalls Poster.exec p transitions).journalsOf i.paymentID = p.journalsOf i.paymentID := by
  obtain ⟨x, y, hx, hy, hrun, hhash⟩ := Reconciler.run_eq_ok first
  have grows := p.runCalls_grows transitions
  generalize runCalls Poster.exec p transitions = p' at distinct grows ⊢
  constructor
  · rintro ⟨c'', h⟩
    simp only [Reconciler.run, block_eq_ok, hy, hrun, Except.ok.injEq, exists_eq_left', Prod.mk.injEq] at h
    obtain ⟨-, x', hx', -, hsame, -⟩ := h
    -- the sorted evidence is the same, so it is as long, and every further journal would have made it longer
    have heq := evidence_of_hash (distinct x x' y hx hx' hy) (Option.some.inj (hhash.symm.trans hsame))
    have hlength := congrArg List.length heq
    simp only [sorted, List.length_insertionSort] at hlength
    obtain ⟨-, -, hnone⟩ := collect_later grows later ⟨rfl, rfl, rfl⟩ hx hx'
    exact hnone (by simpa using hlength)
  · intro unchanged
    have hx' := collect_again grows later unchanged hx
    simp only [Reconciler.run, block_eq_ok, hx, hy, Except.ok.injEq, exists_eq_left'] at first
    refine ⟨c', ?_⟩
    simp only [Reconciler.run, block_eq_ok, hx', hy, hrun, Except.ok.injEq, exists_eq_left', and_true]
    exact ⟨first.1, first.2.1, hhash⟩

end

/-! ### A payment that becomes final after the cut-off -/

def evidenceMarshal : JsonValue → Indexer.Octets
  | .array items => toyMarshal (.object (items.map (Prod.mk "")))
  | value => toyMarshal value

/-- The small encoding with lists. -/
@[reducible] def evidenceEncoding : Encoding := { toyEncoding with marshal := evidenceMarshal }

def openPayment : Intent :=
  ⟨⟨"payment", "entity", "key", "correlation", "payer", "loan", "bank", .bank, "repayment", "USD", "100", 1000, 1⟩,
    "reference", .provisional, 2, 5, 10, 10, 0, 0⟩

def finalPayment : Intent := { openPayment with status := .final, version := 3, updatedAt := 30, finalizedAt := 30 }

def provisionalPosting : Transition := ⟨openPayment, .processing, .provisional, "provisional", 10, 10, "evidence"⟩

def finalPosting : Transition := ⟨finalPayment, .provisional, .final, "final", 30, 30, "evidence"⟩

/-- The poster of an empty ledger after the provisional posting. -/
def provisionalPoster [Encoding] : Poster := runCalls Poster.exec toyWorld.poster [(provisionalPosting, 10)]

def dailyRun : RunRequest := ⟨"run", "bank", "USD", 20, "owner", 100⟩

def dailyStatement : List StatementEntry := [⟨"entry", "bank", "reference", "payment", "USD", "100", .settled, 15⟩]

/-- The payment is provisional at the cut-off, and its final journal comes after it: the run conflicts with itself. -/
theorem rerun_conflicts :
    let := evidenceEncoding
    Later dailyRun.asOf [openPayment] [finalPayment] ∧
      (provisionalPoster.apply finalPosting 30).toOption.isSome = true ∧
      (Reconciler.run ⟨∅, ∅, ∅⟩ provisionalPoster dailyRun [openPayment] dailyStatement).map (fun first =>
        (first.1.run (runCalls Poster.exec provisionalPoster [(finalPosting, 30)]) dailyRun [finalPayment]
          dailyStatement).map fun _ => ()) = .ok (.error .reconciliationConflict) :=
  ⟨.cons ⟨by decide, by decide, by decide, by decide, by decide⟩ .nil, by decide +kernel, by decide +kernel⟩

/-- A payment created after the cut-off. -/
def latePayment : Intent := { openPayment with paymentID := "late", createdAt := 25, updatedAt := 30, provisionalAt := 30 }

def latePosting : Transition := ⟨latePayment, .processing, .provisional, "late", 30, 30, "evidence"⟩

/-- The run is the same after the journal of a payment that is not its own. -/
theorem rerun_after_creation :
    let := evidenceEncoding
    (provisionalPoster.apply latePosting 30).toOption.isSome = true ∧
    ∃ c run, Reconciler.run ⟨∅, ∅, ∅⟩ provisionalPoster dailyRun [openPayment] dailyStatement = .ok (c, run) ∧
      ∃ c', c.run (runCalls Poster.exec provisionalPoster [(latePosting, 30)]) dailyRun [openPayment, latePayment]
        dailyStatement = .ok (c', run) := by
  intro _
  have later : Later dailyRun.asOf [openPayment] [openPayment, latePayment] :=
    .cons ⟨by decide, by decide, by decide, by decide, by decide⟩ .nil
  have hcollect : [openPayment, latePayment].foldlM
      ((runCalls Poster.exec provisionalPoster [(latePosting, 30)]).collect dailyRun) ⟨0, ∅, [], []⟩ =
      [openPayment].foldlM (provisionalPoster.collect dailyRun) ⟨0, ∅, [], []⟩ := by decide +kernel
  have distinct : NoCollision provisionalPoster (runCalls Poster.exec provisionalPoster [(latePosting, 30)]) dailyRun
      [openPayment] [openPayment, latePayment] dailyStatement := by
    intro x x' y hx hx' _
    cases hx.symm.trans (hcollect.symm.trans hx')
    exact ⟨fun _ => rfl, fun _ => rfl⟩
  have hjournals : (runCalls Poster.exec provisionalPoster [(latePosting, 30)]).journalsOf "payment" =
      provisionalPoster.journalsOf "payment" := by decide +kernel
  obtain ⟨⟨c, run⟩, first⟩ := exists_of_isOk
    (x := Reconciler.run ⟨∅, ∅, ∅⟩ provisionalPoster dailyRun [openPayment] dailyStatement) (by decide +kernel)
  refine ⟨by decide +kernel, c, run, first, (rerun_iff first later [(latePosting, 30)] distinct).mpr fun i hi _ => ?_⟩
  rw [List.mem_singleton.mp hi]
  exact hjournals

end Unified.Payment
