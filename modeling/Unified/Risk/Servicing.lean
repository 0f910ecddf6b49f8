import Mathlib
import Unified.Lib.Checked
import Unified.Lib.Evm
import Unified.Lib.Mapping

/-! The servicing of loans: what is due and what is paid, grace, cure, acceleration and default. An unpaid loan can be
    brought to default after its cure period, unless a cure was recorded: nothing but a payment leaves that state. -/

namespace Unified.Risk

inductive ServicingStatus where
  | none | current | grace | delinquent | cured | accelerated | defaulted | repaid
  deriving DecidableEq, Repr, Inhabited

structure Record where
  (amountDue amountPaid dueTime graceEndsAt cureEndsAt stateNonce : Nat)
  status : ServicingStatus
  deriving DecidableEq, Inhabited

inductive ServicingError where
  | unauthorized | invalidServicingRecord
  | invalidServicingTransition (status : ServicingStatus)
  | overflow
  deriving DecidableEq, Repr

inductive Role where
  | servicer | paymentFinalizer | riskCouncil
  deriving DecidableEq, Repr

structure Context where
  timestamp : Nat
  hasRole : Role → Bool

/-- The records, and the time of the last block. -/
structure ServicingEngine (W : Type) where
  clock : Nat
  records : Mapping W Record

namespace Record

/-- `_transition`; the nonce is a `uint64`. -/
def transition (r : Record) (target : ServicingStatus) : Except ServicingError Record := do
  require (r.stateNonce + 1 < 2 ^ 64) .overflow
  pure { r with status := target, stateNonce := r.stateNonce + 1 }

/-- The status that `evaluate` finds. -/
def target (r : Record) (now : Nat) : ServicingStatus :=
  if r.amountPaid = r.amountDue then .repaid
  else if r.status = .cured then .cured
  else if r.graceEndsAt < now then .delinquent
  else if r.dueTime < now then .grace
  else .current

def evaluate (r : Record) (now : Nat) : Except ServicingError Record :=
  if r.status = .repaid ∨ r.status = .defaulted ∨ r.status = .accelerated then pure r
  else if r.target now ≠ r.status then r.transition (r.target now)
  else pure r

def applyFinalPayment (r : Record) (amount : Nat) : Except ServicingError Record := do
  require (amount ≠ 0 ∧ r.amountPaid + amount ≤ r.amountDue ∧ r.status ≠ .defaulted ∧ r.status ≠ .repaid)
    .invalidServicingRecord
  let r := { r with amountPaid := r.amountPaid + amount }
  if r.amountPaid = r.amountDue then r.transition .repaid else pure r

def accelerate (r : Record) : Except ServicingError Record := do
  require (r.status = .delinquent) (.invalidServicingTransition r.status)
  r.transition .accelerated

def recordCure (r : Record) (now : Nat) : Except ServicingError Record := do
  require ((r.status = .grace ∨ r.status = .delinquent) ∧ now ≤ r.cureEndsAt) (.invalidServicingTransition r.status)
  r.transition .cured

def confirmDefault (r : Record) (now : Nat) : Except ServicingError Record := do
  require ((r.status = .delinquent ∨ r.status = .accelerated) ∧ r.cureEndsAt < now) (.invalidServicingTransition r.status)
  r.transition .defaulted

end Record

inductive Servicing (W : Type) where
  | configure (loanId : W) (amountDue dueTime graceEndsAt cureEndsAt : Nat)
  | applyFinalPayment (loanId paymentId : W) (amount : Nat)
  | evaluate (loanId : W)
  | accelerate (loanId reasonCode : W)
  | recordCure (loanId evidenceHash : W)
  | confirmDefault (loanId evidenceHash : W)

namespace ServicingEngine

variable {W : Type} [Evm W]

def deployed : ServicingEngine W := ⟨0, .empty⟩

/-- A change of the record of a loan that is configured. -/
def update (s : ServicingEngine W) (loanId : W) (f : Record → Except ServicingError Record) :
    Except ServicingError (ServicingEngine W) := do
  require ((s.records loanId).status ≠ .none) .invalidServicingRecord
  let record ← f (s.records loanId)
  pure { s with records := s.records.set loanId record }

def configure (s : ServicingEngine W) (now : Nat) (loanId : W) (amountDue dueTime graceEndsAt cureEndsAt : Nat) :
    Except ServicingError (ServicingEngine W) := do
  require (loanId ≠ 0 ∧ amountDue ≠ 0 ∧ now < dueTime ∧ dueTime ≤ graceEndsAt ∧ graceEndsAt ≤ cureEndsAt ∧
    (s.records loanId).status = .none) .invalidServicingRecord
  pure { s with records := s.records.set loanId ⟨amountDue, 0, dueTime, graceEndsAt, cureEndsAt, 1, .current⟩ }

def liquidationEligible (s : ServicingEngine W) (loanId : W) : Bool := (s.records loanId).status = .defaulted

/-- A call at the time of its block, which is not before that of the last one. -/
def exec (call : Context × Servicing W) (s : ServicingEngine W) : Except ServicingError (ServicingEngine W) := do
  let (context, call) := call
  require (s.clock ≤ context.timestamp) .invalidServicingRecord
  let s := { s with clock := context.timestamp }
  match call with
  | .configure loanId amountDue dueTime graceEndsAt cureEndsAt => do
    require (context.hasRole .servicer = true) .unauthorized
    s.configure context.timestamp loanId amountDue dueTime graceEndsAt cureEndsAt
  | .applyFinalPayment loanId paymentId amount => do
    require (context.hasRole .paymentFinalizer = true) .unauthorized
    require (paymentId ≠ 0) .invalidServicingRecord
    s.update loanId fun r => r.applyFinalPayment amount
  | .evaluate loanId => s.update loanId fun r => r.evaluate context.timestamp
  | .accelerate loanId reasonCode => do
    require (context.hasRole .servicer = true) .unauthorized
    s.update loanId fun r => do
      require (reasonCode ≠ 0) (.invalidServicingTransition r.status)
      r.accelerate
  | .recordCure loanId evidenceHash => do
    require (context.hasRole .riskCouncil = true) .unauthorized
    s.update loanId fun r => do
      require (evidenceHash ≠ 0) (.invalidServicingTransition r.status)
      r.recordCure context.timestamp
  | .confirmDefault loanId evidenceHash => do
    require (context.hasRole .riskCouncil = true) .unauthorized
    s.update loanId fun r => do
      require (evidenceHash ≠ 0) (.invalidServicingTransition r.status)
      r.confirmDefault context.timestamp

def after (calls : List (Context × Servicing W)) : ServicingEngine W := runCalls exec deployed calls

end ServicingEngine

/-! ### What a call does to a record -/

inductive Record.Step (now : Nat) : Record → Record → Prop
  | configured {amountDue dueTime graceEndsAt cureEndsAt : Nat} {r : Record} (fresh : r.status = .none)
      (due : amountDue ≠ 0) (future : now < dueTime) (grace : dueTime ≤ graceEndsAt) (cure : graceEndsAt ≤ cureEndsAt) :
      Step now r ⟨amountDue, 0, dueTime, graceEndsAt, cureEndsAt, 1, .current⟩
  | paid {r : Record} {amount : Nat} (known : r.status ≠ .none) (unsettled : r.status ≠ .defaulted ∧ r.status ≠ .repaid)
      (part : r.amountPaid + amount < r.amountDue) : Step now r { r with amountPaid := r.amountPaid + amount }
  | settled {r : Record} {amount : Nat} (known : r.status ≠ .none) (unsettled : r.status ≠ .defaulted ∧ r.status ≠ .repaid)
      (full : r.amountPaid + amount = r.amountDue) :
      Step now r { r with amountPaid := r.amountPaid + amount, status := .repaid, stateNonce := r.stateNonce + 1 }
  | evaluated {r : Record} (known : r.status ≠ .none)
      (unsettled : r.status ≠ .repaid ∧ r.status ≠ .defaulted ∧ r.status ≠ .accelerated) (moves : r.target now ≠ r.status) :
      Step now r { r with status := r.target now, stateNonce := r.stateNonce + 1 }
  | accelerated {r : Record} (delinquent : r.status = .delinquent) :
      Step now r { r with status := .accelerated, stateNonce := r.stateNonce + 1 }
  | cured {r : Record} (late : r.status = .grace ∨ r.status = .delinquent) (inTime : now ≤ r.cureEndsAt) :
      Step now r { r with status := .cured, stateNonce := r.stateNonce + 1 }
  | defaulted {r : Record} (late : r.status = .delinquent ∨ r.status = .accelerated) (lapsed : r.cureEndsAt < now) :
      Step now r { r with status := .defaulted, stateNonce := r.stateNonce + 1 }

section

variable {W : Type} [Evm W] {s t : ServicingEngine W} {call : Context × Servicing W}

theorem Record.transition_eq_ok {r r' : Record} {target : ServicingStatus} : r.transition target = .ok r' ↔
    r.stateNonce + 1 < 2 ^ 64 ∧ { r with status := target, stateNonce := r.stateNonce + 1 } = r' := by
  simp only [Record.transition, block_eq_ok]

theorem ServicingEngine.update_eq_ok {loanId : W} {f : Record → Except ServicingError Record} :
    s.update loanId f = .ok t ↔ (s.records loanId).status ≠ .none ∧ ∃ r, f (s.records loanId) = .ok r ∧
      { s with records := s.records.set loanId r } = t := by
  simp only [ServicingEngine.update, block_eq_ok]

/-- A call that is accepted is not made before the last one, and it steps the record of a loan or leaves it as it is. -/
theorem ServicingEngine.exec_stepped (h : exec call s = .ok t) : s.clock ≤ t.clock ∧
    ∀ loanId, t.records loanId = s.records loanId ∨ (s.records loanId).Step t.clock (t.records loanId) := by
  obtain ⟨context, call⟩ := call
  simp only [exec, block_eq_ok] at h
  obtain ⟨time, h⟩ := h
  have stepped {loanId : W} {record : Record}
      (hstep : record = s.records loanId ∨ (s.records loanId).Step context.timestamp record) (loanId' : W) :
      s.records.set loanId record loanId' = s.records loanId' ∨
        (s.records loanId').Step context.timestamp (s.records.set loanId record loanId') := by
    rw [Mapping.set_apply]
    split
    · next same => exact same ▸ hstep
    · exact .inl rfl
  cases call with
  | configure =>
    simp only [configure, block_eq_ok] at h
    obtain ⟨-, ⟨-, due, future, grace, cure, fresh⟩, rfl⟩ := h
    exact ⟨time, stepped (.inr (.configured fresh due future grace cure))⟩
  | applyFinalPayment =>
    simp only [block_eq_ok, update_eq_ok, Record.applyFinalPayment] at h
    obtain ⟨-, -, known, record, ⟨⟨-, within, unsettled⟩, h⟩, rfl⟩ := h
    refine ⟨time, stepped (.inr ?_)⟩
    split at h
    · next full =>
      obtain ⟨-, rfl⟩ := Record.transition_eq_ok.mp h
      exact .settled known unsettled full
    · next part =>
      obtain rfl := pure_eq_ok.mp h
      exact .paid known unsettled (lt_of_le_of_ne within part)
  | evaluate =>
    simp only [update_eq_ok, Record.evaluate] at h
    obtain ⟨known, record, h, rfl⟩ := h
    refine ⟨time, stepped ?_⟩
    split at h
    · exact .inl (pure_eq_ok.mp h).symm
    · next unsettled =>
      simp only [not_or] at unsettled
      split at h
      · next moves =>
        obtain ⟨-, rfl⟩ := Record.transition_eq_ok.mp h
        exact .inr (.evaluated known unsettled moves)
      · exact .inl (pure_eq_ok.mp h).symm
  | accelerate =>
    simp only [block_eq_ok, update_eq_ok, Record.accelerate, Record.transition_eq_ok] at h
    obtain ⟨-, -, record, ⟨-, delinquent, -, rfl⟩, rfl⟩ := h
    exact ⟨time, stepped (.inr (.accelerated delinquent))⟩
  | recordCure =>
    simp only [block_eq_ok, update_eq_ok, Record.recordCure, Record.transition_eq_ok] at h
    obtain ⟨-, -, record, ⟨-, ⟨late, inTime⟩, -, rfl⟩, rfl⟩ := h
    exact ⟨time, stepped (.inr (.cured late inTime))⟩
  | confirmDefault =>
    simp only [block_eq_ok, update_eq_ok, Record.confirmDefault, Record.transition_eq_ok] at h
    obtain ⟨-, -, record, ⟨-, ⟨late, lapsed⟩, -, rfl⟩, rfl⟩ := h
    exact ⟨time, stepped (.inr (.defaulted late lapsed))⟩

end

/-! ### What holds of a record -/

/-- How often a record can have changed its status before it came to this one. -/
def ServicingStatus.rank : ServicingStatus → Nat
  | .none => 0
  | .current => 1
  | .grace => 2
  | .delinquent => 3
  | .cured | .accelerated => 4
  | .defaulted | .repaid => 5

structure Record.Ok (now : Nat) (r : Record) : Prop where
  deadlines : r.status ≠ .none → r.dueTime ≤ r.graceEndsAt ∧ r.graceEndsAt ≤ r.cureEndsAt
  paid : r.status ≠ .none → (r.amountPaid ≤ r.amountDue ∧ (r.status = .repaid ↔ r.amountPaid = r.amountDue))
  overdue : r.status = .grace → r.dueTime < now
  late : r.status = .delinquent ∨ r.status = .accelerated → r.graceEndsAt < now
  lapsed : r.status = .defaulted → r.cureEndsAt < now
  nonce : r.stateNonce ≤ r.status.rank

theorem Record.Ok.mono {now later : Nat} {r : Record} (h : r.Ok now) (hle : now ≤ later) : r.Ok later where
  deadlines := h.deadlines
  paid := h.paid
  overdue hs := (h.overdue hs).trans_le hle
  late hs := (h.late hs).trans_le hle
  lapsed hs := (h.lapsed hs).trans_le hle
  nonce := h.nonce

variable {r r' : Record} {now : Nat}

theorem Record.Ok.target {r : Record} (h : r.Ok now) (known : r.status ≠ .none)
    (unsettled : r.status ≠ .repaid ∧ r.status ≠ .defaulted ∧ r.status ≠ .accelerated)
    (moves : r.target now ≠ r.status) :
    r.amountPaid ≠ r.amountDue ∧ r.status.rank < (r.target now).rank ∧ (r.target now = .grace ∧ r.dueTime < now ∨
      r.target now = .delinquent ∧ r.graceEndsAt < now) := by
  obtain ⟨due, grace⟩ := h.deadlines known
  have unpaid : r.amountPaid ≠ r.amountDue := fun full => unsettled.1 ((h.paid known).2.mpr full)
  have hoverdue := h.overdue
  have hlate := h.late
  refine ⟨unpaid, ?_⟩
  rw [Record.target, if_neg unpaid] at moves ⊢
  cases hstatus : r.status with
  | none => exact absurd hstatus known
  | cured => simp [hstatus] at moves
  | accelerated | defaulted | repaid => simp [hstatus] at unsettled
  | current =>
    simp only [hstatus, reduceCtorEq, if_false] at moves ⊢
    split at moves
    · next lapsed => simp [lapsed, ServicingStatus.rank]
    · next running =>
      split at moves
      · next overdue => simp [running, overdue, ServicingStatus.rank]
      · exact absurd rfl moves
  | grace =>
    have overdue := hoverdue hstatus
    simp only [hstatus, reduceCtorEq, if_false] at moves ⊢
    split at moves
    · next lapsed => simp [lapsed, ServicingStatus.rank]
    · exact absurd rfl moves
  | delinquent =>
    have late := hlate (.inl hstatus)
    simp [hstatus, late] at moves

theorem Record.Step.ok (step : r.Step now r') (h : r.Ok now) : r'.Ok now := by
  have hnonce := h.nonce
  cases step with
  | configured _ due _ grace cure =>
    exact ⟨fun _ => ⟨grace, cure⟩, fun _ => ⟨Nat.zero_le _, by simp [due.symm]⟩, by simp, by simp, by simp, le_refl 1⟩
  | paid _ unsettled part =>
    refine ⟨h.deadlines, fun _ => ⟨part.le, ?_⟩, h.overdue, h.late, h.lapsed, hnonce⟩
    simp only [unsettled.2, part.ne]
  | settled known _ full =>
    refine ⟨fun _ => h.deadlines known, fun _ => ⟨full.le, by simp [full]⟩, by simp, by simp, by simp, ?_⟩
    have : r.status.rank < 5 := by cases hs : r.status <;> simp_all [ServicingStatus.rank]
    exact Nat.succ_le_of_lt (hnonce.trans_lt this)
  | evaluated known unsettled moves =>
    obtain ⟨unpaid, hrank, htarget⟩ := h.target known unsettled moves
    have hpaid := (h.paid known).1
    refine ⟨fun _ => h.deadlines known, fun _ => ⟨hpaid, ?_⟩, ?_, ?_, ?_, Nat.succ_le_of_lt (hnonce.trans_lt hrank)⟩
    · rcases htarget with ⟨heq, -⟩ | ⟨heq, -⟩ <;> simp [heq, unpaid]
    · rcases htarget with ⟨heq, overdue⟩ | ⟨heq, -⟩
      · exact fun _ => overdue
      · simp [heq]
    · rcases htarget with ⟨heq, -⟩ | ⟨heq, late⟩
      · simp [heq]
      · exact fun _ => late
    · rcases htarget with ⟨heq, -⟩ | ⟨heq, -⟩ <;> simp [heq]
  | accelerated delinquent =>
    have hpaid := h.paid (by simp [delinquent])
    refine ⟨fun _ => h.deadlines (by simp [delinquent]), fun _ => ⟨hpaid.1, ?_⟩, by simp, fun _ => h.late (.inl delinquent),
      by simp, ?_⟩
    · simpa [delinquent] using hpaid.2
    · rw [delinquent] at hnonce
      exact Nat.succ_le_succ hnonce
  | cured late =>
    have known : r.status ≠ .none := by rcases late with hs | hs <;> simp [hs]
    have hpaid := h.paid known
    refine ⟨fun _ => h.deadlines known, fun _ => ⟨hpaid.1, ?_⟩, by simp, by simp, by simp, ?_⟩
    · rcases late with hs | hs <;> simpa [hs] using hpaid.2
    · have : r.status.rank ≤ 3 := by rcases late with hs | hs <;> simp [hs, ServicingStatus.rank]
      exact Nat.succ_le_succ (hnonce.trans this)
  | defaulted late lapsed =>
    have known : r.status ≠ .none := by rcases late with hs | hs <;> simp [hs]
    have hpaid := h.paid known
    refine ⟨fun _ => h.deadlines known, fun _ => ⟨hpaid.1, ?_⟩, by simp, by simp, fun _ => lapsed, ?_⟩
    · rcases late with hs | hs <;> simpa [hs] using hpaid.2
    · have : r.status.rank ≤ 4 := by rcases late with hs | hs <;> simp [hs, ServicingStatus.rank]
      exact Nat.succ_le_succ (hnonce.trans this)

theorem Record.Step.final (step : r.Step now r') : r.status ≠ .defaulted ∧ r.status ≠ .repaid := by
  cases step with
  | configured fresh => simp [fresh]
  | paid _ unsettled | settled _ unsettled => exact unsettled
  | evaluated _ unsettled => exact ⟨unsettled.2.1, unsettled.1⟩
  | accelerated delinquent => simp [delinquent]
  | cured late | defaulted late => rcases late with hs | hs <;> simp [hs]

/-- A default is confirmed out of a delinquency or an acceleration. -/
theorem Record.Step.defaults (step : r.Step now r') (hdefault : r'.status = .defaulted) :
    (r.status = .delinquent ∨ r.status = .accelerated) ∧ r.cureEndsAt < now := by
  cases step with
  | defaulted late lapsed => exact ⟨late, lapsed⟩
  | paid _ unsettled => exact absurd hdefault unsettled.1
  | evaluated =>
    simp only [Record.target] at hdefault
    split at hdefault
    · cases hdefault
    · split at hdefault
      · cases hdefault
      · split at hdefault
        · cases hdefault
        · split at hdefault <;> cases hdefault
  | configured | settled | accelerated | cured => cases hdefault

theorem Record.Step.nonce (step : r.Step now r') (h : r.Ok now) :
    r'.stateNonce = r.stateNonce + if r'.status = r.status then 0 else 1 := by
  cases step with
  | configured fresh =>
    have hnonce := h.nonce
    rw [fresh] at hnonce
    simp [fresh, Nat.le_zero.mp hnonce]
  | paid => simp
  | settled _ unsettled => simp [unsettled.2.symm]
  | evaluated _ _ moves => simp [moves]
  | accelerated delinquent => simp [delinquent]
  | cured late | defaulted late => rcases late with hs | hs <;> simp [hs]

/-- A recorded cure stands until the loan is paid. -/
theorem Record.Step.cured_stays (step : r.Step now r') (hcured : r.status = .cured ∨ r.status = .repaid) :
    r'.status = .cured ∨ r'.status = .repaid := by
  have cured : r.status = .cured := hcured.resolve_right step.final.2
  cases step with
  | configured fresh => simp [cured] at fresh
  | paid => exact hcured
  | settled => exact .inr rfl
  | evaluated _ _ moves =>
    by_cases full : r.amountPaid = r.amountDue
    · exact .inr (if_pos full)
    · simp [Record.target, full, cured] at moves
  | accelerated delinquent => simp [cured] at delinquent
  | cured late | defaulted late => simp [cured] at late

/-! ### Runs -/

namespace ServicingEngine

variable {W : Type} [Evm W] {s t : ServicingEngine W} {loanId : W}

theorem ok_after (calls : List (Context × Servicing W)) (loanId : W) :
    ((after calls).records loanId).Ok (after calls).clock := by
  refine runCalls_invariant (fun s : ServicingEngine W => ∀ loanId, (s.records loanId).Ok s.clock) ?_ ?_ calls loanId
  · intro call s t h hs loanId
    obtain ⟨htime, hstepped⟩ := exec_stepped h
    have hs := (hs loanId).mono htime
    rcases hstepped loanId with hsame | hstep
    · exact hsame ▸ hs
    · exact hstep.ok hs
  · intro loanId
    exact ⟨fun known => absurd rfl known, fun known => absurd rfl known, nofun, nofun, nofun, le_refl 0⟩

def Unpaid : Servicing W → Prop
  | .applyFinalPayment _ _ _ => False
  | _ => True

/-- Some calls without a payment lead to a default. -/
def Liquidatable (s : ServicingEngine W) (loanId : W) : Prop :=
  ∃ later : List (Context × Servicing W), (∀ call ∈ later, Unpaid call.2) ∧
    (runCalls exec s later).liquidationEligible loanId = true

theorem not_liquidatable_of_cured (hcured : (s.records loanId).status = .cured) : ¬ s.Liquidatable loanId := by
  rintro ⟨later, -, heligible⟩
  have hstays : ((runCalls exec s later).records loanId).status = .cured ∨
      ((runCalls exec s later).records loanId).status = .repaid := by
    refine runCalls_invariant (fun s : ServicingEngine W =>
      (s.records loanId).status = .cured ∨ (s.records loanId).status = .repaid) ?_ (.inl hcured) later
    intro call s t h hs
    rcases (exec_stepped h).2 loanId with hsame | hstep
    · exact hsame ▸ hs
    · exact hstep.cured_stays hs
  have heligible : ((runCalls exec s later).records loanId).status = .defaulted := of_decide_eq_true heligible
  rw [heligible] at hstays
  rcases hstays with hs | hs <;> cases hs

/-- Anybody and every role, at the time of the last block. -/
def everyone (s : ServicingEngine W) : Context := ⟨s.clock, fun _ => true⟩

theorem exec_evaluate {r : Record} (known : (s.records loanId).status ≠ .none)
    (h : (s.records loanId).evaluate s.clock = .ok r) :
    exec (s.everyone, .evaluate loanId) s = .ok { s with records := s.records.set loanId r } := by
  simp only [exec, block_eq_ok]
  exact ⟨le_refl s.clock, update_eq_ok.mpr ⟨known, r, h, rfl⟩⟩

theorem exec_confirmDefault {evidenceHash : W} (evidence : evidenceHash ≠ 0)
    (late : (s.records loanId).status = .delinquent ∨ (s.records loanId).status = .accelerated)
    (lapsed : (s.records loanId).cureEndsAt < s.clock) (room : (s.records loanId).stateNonce + 1 < 2 ^ 64) :
    ∃ t, exec (s.everyone, .confirmDefault loanId evidenceHash) s = .ok t ∧ t.liquidationEligible loanId = true := by
  refine ⟨{ s with records := s.records.set loanId { s.records loanId with
    status := .defaulted, stateNonce := (s.records loanId).stateNonce + 1 } }, ?_, by simp [liquidationEligible]⟩
  simp only [exec, block_eq_ok, update_eq_ok, Record.confirmDefault, Record.transition_eq_ok]
  refine ⟨le_refl s.clock, rfl, ?_, _, ⟨evidence, ⟨late, lapsed⟩, room, rfl⟩, rfl⟩
  rcases late with hs | hs <;> simp [hs]

/-- After its cure period an unpaid loan without a recorded cure can be brought to default at once. -/
theorem liquidatable_of_uncured {evidenceHash : W} (evidence : evidenceHash ≠ 0) (h : (s.records loanId).Ok s.clock)
    (known : (s.records loanId).status ≠ .none)
    (unpaid : (s.records loanId).amountPaid < (s.records loanId).amountDue)
    (lapsed : (s.records loanId).cureEndsAt < s.clock) (uncured : (s.records loanId).status ≠ .cured) :
    s.Liquidatable loanId := by
  have room {n : Nat} (hn : n ≤ 5) : n + 1 < 2 ^ 64 := by omega
  have hrank : (s.records loanId).status.rank ≤ 5 := by
    cases (s.records loanId).status <;> simp [ServicingStatus.rank]
  have graceOver : (s.records loanId).graceEndsAt < s.clock := (h.deadlines known).2.trans_lt lapsed
  have confirm (late : (s.records loanId).status = .delinquent ∨ (s.records loanId).status = .accelerated) :
      s.Liquidatable loanId := by
    obtain ⟨t, hok, heligible⟩ := exec_confirmDefault evidence late lapsed (room (h.nonce.trans hrank))
    refine ⟨[(s.everyone, .confirmDefault loanId evidenceHash)], by simp [Unpaid], ?_⟩
    rw [runCalls_cons, commit_of_ok hok]
    exact heligible
  have evaluateFirst (early : (s.records loanId).status = .current ∨ (s.records loanId).status = .grace) :
      s.Liquidatable loanId := by
    have htarget : (s.records loanId).target s.clock = .delinquent := by
      simp [Record.target, unpaid.ne, uncured, graceOver]
    have unsettled : ¬ ((s.records loanId).status = .repaid ∨ (s.records loanId).status = .defaulted ∨
        (s.records loanId).status = .accelerated) ∧ .delinquent ≠ (s.records loanId).status := by
      rcases early with hs | hs <;> simp [hs]
    have hevaluate : (s.records loanId).evaluate s.clock = .ok { s.records loanId with
        status := .delinquent, stateNonce := (s.records loanId).stateNonce + 1 } := by
      rw [Record.evaluate, htarget, if_neg unsettled.1, if_pos unsettled.2]
      exact Record.transition_eq_ok.mpr ⟨room (h.nonce.trans hrank), rfl⟩
    have hnonce : (s.records loanId).stateNonce ≤ 2 := by
      refine h.nonce.trans ?_
      rcases early with hs | hs <;> simp [hs, ServicingStatus.rank]
    have hexec := exec_evaluate known hevaluate
    generalize hs' : ({ s with records := s.records.set loanId { s.records loanId with
      status := .delinquent, stateNonce := (s.records loanId).stateNonce + 1 } } : ServicingEngine W) = s' at hexec
    have hrecord : s'.records loanId = { s.records loanId with
      status := .delinquent, stateNonce := (s.records loanId).stateNonce + 1 } := by simp [← hs']
    have hclock : s'.clock = s.clock := by rw [← hs']
    have hlate : (s'.records loanId).status = .delinquent ∨ (s'.records loanId).status = .accelerated := by
      rw [hrecord]
      exact .inl rfl
    have hover : (s'.records loanId).cureEndsAt < s'.clock := by
      rw [hrecord, hclock]
      exact lapsed
    have hroom : (s'.records loanId).stateNonce + 1 < 2 ^ 64 := by
      rw [hrecord]
      exact room (n := (s.records loanId).stateNonce + 1) (by omega)
    obtain ⟨t, hok, heligible⟩ := exec_confirmDefault evidence hlate hover hroom
    refine ⟨[(s.everyone, .evaluate loanId), (s'.everyone, .confirmDefault loanId evidenceHash)], by simp [Unpaid], ?_⟩
    rw [runCalls_cons, commit_of_ok hexec, runCalls_cons, commit_of_ok hok]
    exact heligible
  cases hstatus : (s.records loanId).status with
  | none => exact absurd hstatus known
  | current => exact evaluateFirst (.inl hstatus)
  | grace => exact evaluateFirst (.inr hstatus)
  | delinquent => exact confirm (.inl hstatus)
  | cured => exact absurd hstatus uncured
  | accelerated => exact confirm (.inr hstatus)
  | defaulted => exact ⟨[], by simp, by simp [liquidationEligible, hstatus]⟩
  | repaid => exact absurd ((h.paid known).2.mp hstatus) unpaid.ne

/-- After any calls, an unpaid loan past its cure period can be brought to default exactly when no cure stands recorded;
    a default comes only out of a delinquent or accelerated unpaid loan past its cure period, a loan is repaid exactly
    when all is paid, both stay, and the nonce counts the changes of the status. -/
theorem unpaid_liquidatable_iff {evidenceHash : W} (evidence : evidenceHash ≠ 0) (calls : List (Context × Servicing W))
    (loanId : W) :
    (((after calls).records loanId).status ≠ .none →
      ((after calls).records loanId).amountPaid < ((after calls).records loanId).amountDue →
      ((after calls).records loanId).cureEndsAt < (after calls).clock →
        ((after calls).Liquidatable loanId ↔ ((after calls).records loanId).status ≠ .cured)) ∧
    (((after calls).records loanId).status ≠ .none → (((after calls).records loanId).status = .repaid ↔
      ((after calls).records loanId).amountPaid = ((after calls).records loanId).amountDue)) ∧
    ∀ call t, exec call (after calls) = .ok t →
      (t.liquidationEligible loanId = true → (after calls).liquidationEligible loanId = true ∨
        (((after calls).records loanId).status = .delinquent ∨ ((after calls).records loanId).status = .accelerated) ∧
          ((after calls).records loanId).cureEndsAt < t.clock ∧
          ((after calls).records loanId).amountPaid < ((after calls).records loanId).amountDue) ∧
      (((after calls).records loanId).status = .defaulted ∨ ((after calls).records loanId).status = .repaid →
        t.records loanId = (after calls).records loanId) ∧
      (t.records loanId).stateNonce = ((after calls).records loanId).stateNonce +
        if (t.records loanId).status = ((after calls).records loanId).status then 0 else 1 := by
  have hok := ok_after calls loanId
  refine ⟨fun known unpaid lapsed => ⟨?_, ?_⟩, fun known => (hok.paid known).2, ?_⟩
  · exact fun hliquidatable hcured => not_liquidatable_of_cured hcured hliquidatable
  · exact liquidatable_of_uncured evidence hok known unpaid lapsed
  · intro call t hexec
    obtain ⟨htime, hstepped⟩ := exec_stepped hexec
    rcases hstepped loanId with hsame | hstep
    · refine ⟨fun heligible => .inl ?_, fun _ => hsame, by simp [hsame]⟩
      simpa [liquidationEligible, hsame] using heligible
    · refine ⟨fun heligible => .inr ?_, fun hfinal => ?_, hstep.nonce (hok.mono htime)⟩
      · obtain ⟨late, lapsed⟩ := hstep.defaults (of_decide_eq_true heligible)
        have known : ((after calls).records loanId).status ≠ .none := by rcases late with hs | hs <;> simp [hs]
        obtain ⟨hle, hrepaid⟩ := hok.paid known
        refine ⟨late, lapsed, lt_of_le_of_ne hle fun full => ?_⟩
        rcases late with hs | hs <;> simp [hs, full] at hrepaid
      · rcases hfinal with hs | hs
        · exact absurd hs hstep.final.1
        · exact absurd hs hstep.final.2

/-- A loan of 100 that is due at 10, cured at 12, and not paid. -/
def curedLoan : List (Context × Servicing Term) :=
  [(⟨1, fun _ => true⟩, .configure (.lit 1) 100 10 15 20), (⟨11, fun _ => true⟩, .evaluate (.lit 1)),
    (⟨12, fun _ => true⟩, .recordCure (.lit 1) (.lit 7)), (⟨21, fun _ => true⟩, .evaluate (.lit 1))]

def uncuredLoan : List (Context × Servicing Term) :=
  [(⟨1, fun _ => true⟩, .configure (.lit 1) 100 10 15 20), (⟨21, fun _ => true⟩, .evaluate (.lit 1))]

theorem uncuredLoan_liquidatable : (after uncuredLoan).Liquidatable (.lit 1) :=
  ((unpaid_liquidatable_iff (show Term.lit 7 ≠ 0 by decide) uncuredLoan (.lit 1)).1 (by decide) (by decide)
    (by decide)).mpr (by decide)

/-- It is past its cure period and unpaid, and nothing brings it to default any more. -/
theorem curedLoan_escapes : ((after curedLoan).records (.lit 1)).amountPaid < ((after curedLoan).records (.lit 1)).amountDue ∧
    ((after curedLoan).records (.lit 1)).cureEndsAt < (after curedLoan).clock ∧
      ¬ (after curedLoan).Liquidatable (.lit 1) :=
  ⟨by decide, by decide, not_liquidatable_of_cured (by decide)⟩

/-! ### Payments -/

def paymentOf (loanId : W) : Servicing W → List (W × Nat)
  | .applyFinalPayment loanId' paymentId amount => if loanId' = loanId then [(paymentId, amount)] else []
  | _ => []

/-- The payments of a loan that are accepted in a run. -/
def payments (loanId : W) : ServicingEngine W → List (Context × Servicing W) → List (W × Nat)
  | _, [] => []
  | s, call :: calls =>
    match exec call s with
    | .ok t => paymentOf loanId call.2 ++ payments loanId t calls
    | .error _ => payments loanId s calls

/-- The amounts of the payments, without those whose id came before or is in `seen`. -/
def distinctAmount (seen : List W) : List (W × Nat) → Nat
  | [] => 0
  | (paymentId, amount) :: rest =>
    if paymentId ∈ seen then distinctAmount seen rest else amount + distinctAmount (paymentId :: seen) rest

theorem distinctAmount_le (seen : List W) (l : List (W × Nat)) : distinctAmount seen l ≤ (l.map (·.2)).sum := by
  induction l generalizing seen with
  | nil => exact le_refl 0
  | cons p rest ih =>
    have hseen := ih seen
    have hnew := ih (p.1 :: seen)
    simp only [distinctAmount, List.map_cons, List.sum_cons]
    split <;> omega

/-- Nothing is left out if and only if no id comes twice. -/
theorem distinctAmount_eq_iff {l : List (W × Nat)} (positive : ∀ p ∈ l, p.2 ≠ 0) (seen : List W) :
    distinctAmount seen l = (l.map (·.2)).sum ↔ (l.map (·.1)).Nodup ∧ ∀ p ∈ l, p.1 ∉ seen := by
  induction l generalizing seen with
  | nil => simp [distinctAmount]
  | cons p rest ih =>
    rw [List.forall_mem_cons] at positive
    simp only [distinctAmount, List.map_cons, List.sum_cons, List.nodup_cons, List.forall_mem_cons]
    split
    · next hmem =>
      have hle := distinctAmount_le seen rest
      exact iff_of_false (by omega) fun h => h.2.1 hmem
    · next hmem =>
      rw [Nat.add_left_cancel_iff, ih positive.2]
      simp only [List.mem_cons, not_or, List.mem_map, not_exists, not_and]
      constructor
      · exact fun ⟨hnodup, h⟩ => ⟨⟨fun q hq => (h q hq).1, hnodup⟩, hmem, fun q hq => (h q hq).2⟩
      · exact fun ⟨⟨hfresh, hnodup⟩, _, h⟩ => ⟨hnodup, fun q hq => ⟨hfresh q hq, h q hq⟩⟩

/-- A loan that is not configured has nothing paid. -/
def Unstarted (s : ServicingEngine W) (loanId : W) : Prop :=
  (s.records loanId).status = .none → (s.records loanId).amountPaid = 0

theorem exec_unstarted {call : Context × Servicing W} (h : exec call s = .ok t) (hs : s.Unstarted loanId) :
    t.Unstarted loanId := by
  rcases (exec_stepped h).2 loanId with hsame | hstep
  · rwa [Unstarted, hsame]
  · intro hnone
    generalize t.records loanId = r at hstep hnone
    cases hstep with
    | paid known => exact absurd hnone known
    | evaluated =>
      simp only [Record.target] at hnone
      split_ifs at hnone
    | _ => cases hnone

/-- A call changes what is paid by its payment, and by nothing else. -/
theorem exec_amountPaid {call : Context × Servicing W} (h : exec call s = .ok t) (hs : s.Unstarted loanId) :
    (t.records loanId).amountPaid = (s.records loanId).amountPaid + ((paymentOf loanId call.2).map (·.2)).sum ∧
      ∀ p ∈ paymentOf loanId call.2, p.2 ≠ 0 := by
  obtain ⟨context, call⟩ := call
  simp only [exec, block_eq_ok] at h
  obtain ⟨-, h⟩ := h
  have same {loanId' : W} {record : Record}
      (paid : loanId = loanId' → record.amountPaid = (s.records loanId').amountPaid) :
      (s.records.set loanId' record loanId).amountPaid = (s.records loanId).amountPaid := by
    rw [Mapping.set_apply]
    split
    · next heq => rw [paid heq, heq]
    · rfl
  cases call with
  | configure =>
    simp only [configure, block_eq_ok] at h
    obtain ⟨-, ⟨-, -, -, -, -, fresh⟩, rfl⟩ := h
    exact ⟨same fun heq => (heq ▸ hs (heq ▸ fresh)).symm, by simp [paymentOf]⟩
  | applyFinalPayment loanId' paymentId amount =>
    simp only [block_eq_ok, update_eq_ok, Record.applyFinalPayment] at h
    obtain ⟨-, -, -, record, ⟨⟨positive, -⟩, h⟩, rfl⟩ := h
    have paid : record.amountPaid = (s.records loanId').amountPaid + amount := by
      split at h
      · rw [← (Record.transition_eq_ok.mp h).2]
      · rw [← pure_eq_ok.mp h]
    by_cases heq : loanId' = loanId
    · subst heq
      simpa [paymentOf, paid] using positive
    · simp [paymentOf, heq, Mapping.set_of_ne _ _ (Ne.symm heq)]
  | evaluate =>
    simp only [update_eq_ok, Record.evaluate] at h
    obtain ⟨-, record, h, rfl⟩ := h
    refine ⟨same fun _ => ?_, by simp [paymentOf]⟩
    split_ifs at h
    · rw [← pure_eq_ok.mp h]
    · rw [← (Record.transition_eq_ok.mp h).2]
    · rw [← pure_eq_ok.mp h]
  | accelerate | recordCure | confirmDefault =>
    simp only [block_eq_ok, update_eq_ok, Record.accelerate, Record.recordCure, Record.confirmDefault,
      Record.transition_eq_ok] at h
    obtain ⟨-, -, record, ⟨-, -, -, rfl⟩, rfl⟩ := h
    exact ⟨same fun _ => rfl, by simp [paymentOf]⟩

/-- What is paid after a run is what all its payments amount to. -/
theorem run_amountPaid (hs : s.Unstarted loanId) (calls : List (Context × Servicing W)) :
    ((runCalls exec s calls).records loanId).amountPaid =
      (s.records loanId).amountPaid + ((payments loanId s calls).map (·.2)).sum ∧
      ∀ p ∈ payments loanId s calls, p.2 ≠ 0 := by
  induction calls generalizing s with
  | nil => exact ⟨rfl, by simp [payments]⟩
  | cons call calls ih =>
    rw [runCalls_cons, payments]
    cases h : exec call s with
    | error =>
      rw [commit_of_error h]
      exact ih hs
    | ok t =>
      obtain ⟨hpaid, hpositive⟩ := exec_amountPaid h hs
      obtain ⟨hrun, hrest⟩ := ih (exec_unstarted h hs)
      rw [commit_of_ok h, hrun, hpaid, List.map_append, List.sum_append, Nat.add_assoc]
      exact ⟨rfl, fun p hp => (List.mem_append.mp hp).elim (hpositive p) (hrest p)⟩

/-- After any calls a loan is paid by the amounts of its distinct payments if and only if no payment was accepted twice;
    every payment that is accepted adds to it, also one whose id was accepted before. -/
theorem amountPaid_distinct_iff (calls : List (Context × Servicing W)) (loanId : W) :
    (((after calls).records loanId).amountPaid = distinctAmount [] (payments loanId deployed calls) ↔
      ((payments loanId deployed calls).map (·.1)).Nodup) ∧
    ∀ context paymentId amount t, exec (context, .applyFinalPayment loanId paymentId amount) (after calls) = .ok t →
      (t.records loanId).amountPaid = ((after calls).records loanId).amountPaid + amount ∧ amount ≠ 0 := by
  have hdeployed : (deployed : ServicingEngine W).Unstarted loanId := fun _ => rfl
  obtain ⟨hpaid, hpositive⟩ := run_amountPaid hdeployed calls
  have hzero : ((deployed : ServicingEngine W).records loanId).amountPaid = 0 := rfl
  refine ⟨?_, fun context paymentId amount t h => ?_⟩
  · rw [after, hpaid, hzero, Nat.zero_add, eq_comm, distinctAmount_eq_iff hpositive]
    exact and_iff_left fun _ _ => List.not_mem_nil
  · have hs : (after calls).Unstarted loanId :=
      runCalls_invariant (Unstarted · loanId) (fun _ _ _ => exec_unstarted) hdeployed calls
    simpa [paymentOf] using exec_amountPaid h hs

/-- A loan of 100 with one payment of 50 that is reported twice. -/
def twicePaid : List (Context × Servicing Term) :=
  [(⟨1, fun _ => true⟩, .configure (.lit 1) 100 10 15 20), (⟨2, fun _ => true⟩, .applyFinalPayment (.lit 1) (.lit 7) 50),
    (⟨3, fun _ => true⟩, .applyFinalPayment (.lit 1) (.lit 7) 50)]

theorem twicePaid_repaid : distinctAmount [] (payments (.lit 1) deployed twicePaid) = 50 ∧
    ((after twicePaid).records (.lit 1)).amountPaid = 100 ∧ ((after twicePaid).records (.lit 1)).status = .repaid := by
  decide

end ServicingEngine

end Unified.Risk
