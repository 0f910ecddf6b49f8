import Mathlib
import Unified.Lib.Numerals
import Unified.Lib.ProRata

/-! Simple interest on the actual number of days of a year of 365, every product of amounts rounded down, as the contract
    and the risk engine compute it. What is accrued piece by piece comes short of what is accrued at once by less than one
    unit a piece. -/

namespace Unified.Risk
open Finset

/-- Why a calculation reverts; the last three are the panics of checked arithmetic, and `invalidCalculation` is the one
    error of the risk engine. -/
inductive CalculationError where
  | invalidInterestTerms | staleBenchmark | invalidSchedule | invalidCalculation | overflow | underflow | divisionByZero
  deriving DecidableEq, Repr

/-- A result that must fit into an unsigned integer of `width` bits. -/
def fits (width n : Nat) : Except CalculationError Nat := do
  require (n < 2 ^ width) .overflow
  pure n

@[irreducible] def ray : Nat := 10 ^ 27

structure InterestTerms where
  (annualRateRay spreadRay floorRateRay capRateRay maximumBenchmarkAge : Nat)

/-- The terms of a fixed loan at the given rate, with the bounds of a variable one. -/
def InterestTerms.atRate (terms : InterestTerms) (rate : Nat) : InterestTerms :=
  { terms with annualRateRay := rate, spreadRay := 0, maximumBenchmarkAge := 0 }

namespace InterestEngine

def yearSeconds : Nat := 365 * 24 * 60 * 60

def maxAnnualRateRay : Nat := 10 * 10 ^ 27

def boundedRate (benchmarkRateRay : Nat) (terms : InterestTerms) : Except CalculationError Nat := do
  require (terms.capRateRay ≠ 0 ∧ terms.floorRateRay ≤ terms.capRateRay ∧ terms.capRateRay ≤ maxAnnualRateRay)
    .invalidInterestTerms
  let annualRateRay ← fits 256 (benchmarkRateRay + terms.spreadRay)
  let annualRateRay := if annualRateRay < terms.floorRateRay then terms.floorRateRay else annualRateRay
  pure (if annualRateRay > terms.capRateRay then terms.capRateRay else annualRateRay)

/-- `_accrue` -/
def accrue (principal annualRateRay elapsed : Nat) : Except CalculationError Nat := do
  let annualInterest ← checkedMulDiv .divisionByZero .overflow principal annualRateRay ray
  checkedMulDiv .divisionByZero .overflow annualInterest elapsed yearSeconds

def accrueFixed (principal start stop : Nat) (terms : InterestTerms) : Except CalculationError Nat := do
  require (principal ≠ 0 ∧ start ≤ stop ∧ terms.annualRateRay ≤ maxAnnualRateRay ∧ terms.spreadRay = 0 ∧
    terms.maximumBenchmarkAge = 0 ∧ terms.capRateRay ≠ 0 ∧ terms.floorRateRay ≤ terms.annualRateRay ∧
    terms.annualRateRay ≤ terms.capRateRay) .invalidInterestTerms
  accrue principal terms.annualRateRay (stop - start)

/-- The interest and the rate applied. -/
def accrueVariable (principal start stop benchmarkRateRay benchmarkObservedAt : Nat) (terms : InterestTerms) :
    Except CalculationError (Nat × Nat) := do
  require (principal ≠ 0 ∧ start ≤ stop ∧ terms.annualRateRay = 0) .invalidInterestTerms
  require (terms.maximumBenchmarkAge ≠ 0 ∧ benchmarkObservedAt ≤ stop ∧
    stop ≤ benchmarkObservedAt + terms.maximumBenchmarkAge) .staleBenchmark
  let appliedRateRay ← boundedRate benchmarkRateRay terms
  let interest ← accrue principal appliedRateRay (stop - start)
  pure (interest, appliedRateRay)

def accrueFixedTotal (fixedTotalInterest accrualStart accrualEnd start stop : Nat) : Except CalculationError Nat := do
  require (accrualStart < accrualEnd ∧ accrualStart ≤ start ∧ start ≤ stop ∧ stop ≤ accrualEnd) .invalidInterestTerms
  checkedMulDiv .divisionByZero .overflow fixedTotalInterest (stop - start) (accrualEnd - accrualStart)

end InterestEngine

/-! ### The risk engine -/

namespace Calculation

open InterestEngine (yearSeconds maxAnnualRateRay)

/-- The terms as decimal texts. -/
structure InterestTerms where
  (annualRateRay spreadRay floorRateRay capRateRay : String)
  maximumBenchmarkAge : Nat

def InterestTerms.atRate (terms : InterestTerms) (rate : String) : InterestTerms :=
  { terms with annualRateRay := rate, spreadRay := "0", maximumBenchmarkAge := 0 }

def nonNegativeInteger (value : String) : Except CalculationError Nat := orRevert (canonicalDecimal value) .invalidCalculation

def positiveInteger (value : String) : Except CalculationError Nat := do
  let integer ← nonNegativeInteger value
  require (0 < integer) .invalidCalculation
  pure integer

def accrue (principal annualRateRay elapsed : Nat) : Nat :=
  mulDiv (mulDiv principal annualRateRay ray) elapsed yearSeconds

def boundedRate (benchmarkRateRay : String) (terms : InterestTerms) : Except CalculationError Nat := do
  let benchmark ← nonNegativeInteger benchmarkRateRay
  let spread ← nonNegativeInteger terms.spreadRay
  let floor ← nonNegativeInteger terms.floorRateRay
  let capRate ← positiveInteger terms.capRateRay
  require (floor ≤ capRate ∧ capRate ≤ maxAnnualRateRay) .invalidCalculation
  let rate := if benchmark + spread < floor then floor else benchmark + spread
  pure (if rate > capRate then capRate else rate)

def accrueFixed (principal : String) (start stop : Nat) (terms : InterestTerms) : Except CalculationError String := do
  let principalUnits ← positiveInteger principal
  require (start ≤ stop) .invalidCalculation
  let rate ← nonNegativeInteger terms.annualRateRay
  let floor ← nonNegativeInteger terms.floorRateRay
  let capRate ← positiveInteger terms.capRateRay
  require (rate ≤ maxAnnualRateRay ∧ terms.spreadRay = "0" ∧ terms.maximumBenchmarkAge = 0 ∧ floor ≤ rate ∧
    rate ≤ capRate) .invalidCalculation
  pure (Nat.repr (accrue principalUnits rate (stop - start)))

/-- The interest and the rate applied. -/
def accrueVariable (principal : String) (start stop : Nat) (benchmarkRateRay : String) (benchmarkObservedAt : Nat)
    (terms : InterestTerms) : Except CalculationError (String × String) := do
  let principalUnits ← positiveInteger principal
  require (start ≤ stop ∧ terms.annualRateRay = "0" ∧ terms.maximumBenchmarkAge ≠ 0 ∧ benchmarkObservedAt ≤ stop ∧
    stop - benchmarkObservedAt ≤ terms.maximumBenchmarkAge) .invalidCalculation
  let rate ← boundedRate benchmarkRateRay terms
  pure (Nat.repr (accrue principalUnits rate (stop - start)), Nat.repr rate)

variable {principal principal' benchmark benchmark' text text' : String} {units units' start stop elapsed elapsed' : Nat}
  {rate rate' interest : Nat} {terms : InterestTerms}

theorem accrue_le (more : units ≤ units') (higher : rate ≤ rate') (longer : elapsed ≤ elapsed') :
    accrue units rate elapsed ≤ accrue units' rate' elapsed' := by
  unfold accrue mulDiv
  gcongr

theorem positiveInteger_eq_ok (h : positiveInteger principal = .ok units) : nonNegativeInteger principal = .ok units := by
  simp only [positiveInteger, block_eq_ok] at h
  obtain ⟨_, h, -, rfl⟩ := h
  exact h

theorem accrueFixed_eq_ok (h : accrueFixed principal start stop terms = .ok (Nat.repr interest)) :
    ∃ units rate, nonNegativeInteger principal = .ok units ∧ nonNegativeInteger terms.annualRateRay = .ok rate ∧
      start ≤ stop ∧ accrue units rate (stop - start) = interest := by
  simp only [accrueFixed, block_eq_ok] at h
  obtain ⟨units, hunits, hle, rate, hrate, -, -, -, -, -, htext⟩ := h
  exact ⟨units, rate, positiveInteger_eq_ok hunits, hrate, hle, repr_inj htext⟩

theorem boundedRate_eq_ok (h : boundedRate benchmark terms = .ok rate) :
    ∃ units spread floor cap, nonNegativeInteger benchmark = .ok units ∧ nonNegativeInteger terms.spreadRay = .ok spread ∧
      nonNegativeInteger terms.floorRateRay = .ok floor ∧ nonNegativeInteger terms.capRateRay = .ok cap ∧ floor ≤ cap ∧
      rate = min (max (units + spread) floor) cap := by
  simp only [boundedRate, block_eq_ok] at h
  obtain ⟨units, hunits, spread, hspread, floor, hfloor, cap, hcap, ⟨hle, -⟩, rfl⟩ := h
  refine ⟨units, spread, floor, cap, hunits, hspread, hfloor, positiveInteger_eq_ok hcap, hle, ?_⟩
  split <;> split <;> omega

theorem accrueVariable_eq_ok {observed : Nat}
    (h : accrueVariable principal start stop benchmark observed terms = .ok (Nat.repr interest, text)) :
    ∃ units rate, nonNegativeInteger principal = .ok units ∧ boundedRate benchmark terms = .ok rate ∧
      accrue units rate (stop - start) = interest := by
  simp only [accrueVariable, block_eq_ok, Prod.mk.injEq] at h
  obtain ⟨units, hunits, -, rate, hrate, htext, -⟩ := h
  exact ⟨units, rate, positiveInteger_eq_ok hunits, hrate, repr_inj htext⟩

end Calculation

theorem fits_eq_ok {width n m : Nat} : fits width n = .ok m ↔ n < 2 ^ width ∧ n = m := by
  simp only [fits, block_eq_ok]

namespace InterestEngine

variable {principal rate elapsed interest : Nat} {terms : InterestTerms}

/-- Where nothing overflows, the contract accrues what the risk engine does. -/
theorem accrue_eq (h : accrue principal rate elapsed = .ok interest) :
    Calculation.accrue principal rate elapsed = interest := by
  simp only [accrue, block_eq_ok, checkedMulDiv_eq_ok] at h
  obtain ⟨_, ⟨-, rfl⟩, -, h⟩ := h
  exact h

theorem accrueFixed_eq_ok {start stop : Nat} (h : accrueFixed principal start stop terms = .ok interest) :
    start ≤ stop ∧ Calculation.accrue principal terms.annualRateRay (stop - start) = interest := by
  simp only [accrueFixed, block_eq_ok] at h
  exact ⟨h.1.2.1, accrue_eq h.2⟩

/-- The applied rate is the sum of benchmark and spread, kept between floor and cap. -/
theorem boundedRate_eq_ok {benchmark : Nat} (h : boundedRate benchmark terms = .ok rate) :
    terms.floorRateRay ≤ terms.capRateRay ∧
      rate = min (max (benchmark + terms.spreadRay) terms.floorRateRay) terms.capRateRay := by
  simp only [boundedRate, block_eq_ok, fits_eq_ok] at h
  obtain ⟨⟨-, hle, -⟩, _, ⟨-, rfl⟩, rfl⟩ := h
  refine ⟨hle, ?_⟩
  split <;> split <;> omega

theorem accrueVariable_eq_ok {start stop benchmark observed : Nat}
    (h : accrueVariable principal start stop benchmark observed terms = .ok (interest, rate)) :
    boundedRate benchmark terms = .ok rate ∧ Calculation.accrue principal rate (stop - start) = interest := by
  simp only [accrueVariable, block_eq_ok, Prod.mk.injEq] at h
  obtain ⟨-, -, _, hrate, _, haccrue, rfl, rfl⟩ := h
  exact ⟨hrate, accrue_eq haccrue⟩

theorem accrueFixedTotal_eq_ok {total first last start stop : Nat}
    (h : accrueFixedTotal total first last start stop = .ok interest) :
    start ≤ stop ∧ first < last ∧ mulDiv total (stop - start) (last - first) = interest := by
  simp only [accrueFixedTotal, block_eq_ok, checkedMulDiv_eq_ok] at h
  obtain ⟨⟨hwindow, -, hle, -⟩, -, heq⟩ := h
  exact ⟨hle, hwindow, heq⟩

end InterestEngine

/-! ### Accrual in pieces -/

/-- Accruing piece by piece comes to at most what accruing at once does, and to more than that less one unit a piece;
    `accrues` are the calls that return, with their interest. -/
def Additive (accrues : Nat → Nat → Nat → Prop) : Prop :=
  ∀ (k : Nat) (t part : Nat → Nat) (whole : Nat), 0 < k → (∀ i < k, accrues (t i) (t (i + 1)) (part i)) →
    accrues (t 0) (t k) whole → ∑ i ∈ range k, part i ≤ whole ∧ whole < ∑ i ∈ range k, part i + k

theorem additive_of_floor {accrues : Nat → Nat → Nat → Prop} (scale : Nat) {d : Nat} (pos : 0 < d)
    (h : ∀ {start stop interest}, accrues start stop interest → start ≤ stop ∧ mulDiv scale (stop - start) d = interest) :
    Additive accrues := by
  intro k t part whole hk hparts hwhole
  have hsteps := sum_steps fun i hi => (h (hparts i hi)).1
  have hsum : ∑ i ∈ range k, part i = ∑ i ∈ range k, scale * (t (i + 1) - t i) / d :=
    sum_congr rfl fun i hi => (h (hparts i (mem_range.mp hi))).2.symm
  have hall : whole = (∑ i ∈ range k, scale * (t (i + 1) - t i)) / d := by
    rw [← (h hwhole).2, mulDiv, ← mul_sum, ← hsteps, Nat.add_sub_cancel_left]
  have hround := div_sum_lt (fun i => scale * (t (i + 1) - t i)) pos (nonempty_range_iff.mpr hk.ne')
  rw [card_range] at hround
  rw [hsum, hall]
  exact ⟨sum_div_le _ _ d, hround⟩

namespace Calculation

theorem accrueFixed_additive (principal : String) (terms : InterestTerms) :
    Additive fun start stop interest => accrueFixed principal start stop terms = .ok (Nat.repr interest) := by
  intro k t part whole hk hparts hwhole
  obtain ⟨units, rate, hunits, hrate, -⟩ := accrueFixed_eq_ok hwhole
  -- all calls read the same principal and rate as the call for the whole
  have hfloor : Additive fun start stop interest => accrueFixed principal start stop terms = .ok (Nat.repr interest) := by
    refine additive_of_floor (mulDiv units rate ray) (d := InterestEngine.yearSeconds) (by decide) fun h => ?_
    obtain ⟨_, _, hunits', hrate', hle, heq⟩ := accrueFixed_eq_ok h
    cases hunits.symm.trans hunits'
    cases hrate.symm.trans hrate'
    exact ⟨hle, heq⟩
  exact hfloor k t part whole hk hparts hwhole

/-- A variable rate stays between its bounds. -/
theorem accrueVariable_between {observed : Nat} {text : String}
    (h : accrueVariable principal start stop benchmark observed terms = .ok (Nat.repr interest, text)) {bound : Nat} :
    (accrueFixed principal start stop (terms.atRate terms.floorRateRay) = .ok (Nat.repr bound) → bound ≤ interest) ∧
      (accrueFixed principal start stop (terms.atRate terms.capRateRay) = .ok (Nat.repr bound) → interest ≤ bound) := by
  obtain ⟨units, rate, hunits, hrate, rfl⟩ := accrueVariable_eq_ok h
  obtain ⟨_, _, floor, cap, -, -, hfloor, hcap, hle, rfl⟩ := boundedRate_eq_ok hrate
  constructor <;> intro hfixed <;> obtain ⟨units', rate', hunits', hrate', -, rfl⟩ := accrueFixed_eq_ok hfixed <;>
    cases hunits.symm.trans hunits'
  · cases hfloor.symm.trans hrate'
    exact accrue_le le_rfl (by omega) le_rfl
  · cases hcap.symm.trans hrate'
    exact accrue_le le_rfl (min_le_right _ _) le_rfl

/-- More principal, a higher benchmark and more time never lower the interest. -/
theorem accrueVariable_mono {units' start' stop' points points' observed observed' interest' : Nat} {text text' : String}
    (h : accrueVariable principal start stop benchmark observed terms = .ok (Nat.repr interest, text))
    (h' : accrueVariable principal' start' stop' benchmark' observed' terms = .ok (Nat.repr interest', text'))
    (hunits : nonNegativeInteger principal = .ok units) (hunits' : nonNegativeInteger principal' = .ok units')
    (hpoints : nonNegativeInteger benchmark = .ok points) (hpoints' : nonNegativeInteger benchmark' = .ok points')
    (more : units ≤ units') (higher : points ≤ points') (longer : stop - start ≤ stop' - start') : interest ≤ interest' := by
  obtain ⟨_, _, hprincipal, hrate, rfl⟩ := accrueVariable_eq_ok h
  obtain ⟨_, _, hprincipal', hrate', rfl⟩ := accrueVariable_eq_ok h'
  obtain ⟨_, _, _, _, hbenchmark, hspread, hfloor, hcap, -, rfl⟩ := boundedRate_eq_ok hrate
  obtain ⟨_, _, _, _, hbenchmark', hspread', hfloor', hcap', -, rfl⟩ := boundedRate_eq_ok hrate'
  -- both calls read the same numbers
  cases hunits.symm.trans hprincipal
  cases hunits'.symm.trans hprincipal'
  cases hpoints.symm.trans hbenchmark
  cases hpoints'.symm.trans hbenchmark'
  cases hspread.symm.trans hspread'
  cases hfloor.symm.trans hfloor'
  cases hcap.symm.trans hcap'
  exact accrue_le more (by gcongr) longer

end Calculation

namespace InterestEngine

theorem accrueFixed_additive (principal : Nat) (terms : InterestTerms) :
    Additive fun start stop interest => accrueFixed principal start stop terms = .ok interest :=
  additive_of_floor (mulDiv principal terms.annualRateRay ray) (d := yearSeconds) (by decide) fun h => accrueFixed_eq_ok h

theorem accrueFixedTotal_additive (total first last : Nat) :
    Additive fun start stop interest => accrueFixedTotal total first last start stop = .ok interest := by
  by_cases hwindow : first < last
  · refine additive_of_floor total (Nat.sub_pos_of_lt hwindow) fun h => ?_
    obtain ⟨hle, -, heq⟩ := accrueFixedTotal_eq_ok h
    exact ⟨hle, heq⟩
  · intro k t part whole hk hparts hwhole
    exact absurd (accrueFixedTotal_eq_ok hwhole).2.1 hwindow

/-- The whole window gives the whole interest. -/
theorem accrueFixedTotal_whole {total first last : Nat} (hfits : total < 2 ^ 256) (hwindow : first < last) :
    accrueFixedTotal total first last first last = .ok total := by
  have hcancel : mulDiv total (last - first) (last - first) = total := Nat.mul_div_cancel _ (Nat.sub_pos_of_lt hwindow)
  simp only [accrueFixedTotal, block_eq_ok, checkedMulDiv_eq_ok, MulDivFits, hcancel, and_true]
  exact ⟨⟨hwindow, le_rfl, hwindow.le, le_rfl⟩, Nat.sub_ne_zero_of_lt hwindow, hfits⟩

theorem accrueVariable_between {start stop benchmark observed : Nat}
    (h : accrueVariable principal start stop benchmark observed terms = .ok (interest, rate)) {bound : Nat} :
    (accrueFixed principal start stop (terms.atRate terms.floorRateRay) = .ok bound → bound ≤ interest) ∧
      (accrueFixed principal start stop (terms.atRate terms.capRateRay) = .ok bound → interest ≤ bound) := by
  obtain ⟨hrate, rfl⟩ := accrueVariable_eq_ok h
  obtain ⟨hle, rfl⟩ := boundedRate_eq_ok hrate
  constructor <;> intro hbound <;> obtain ⟨-, rfl⟩ := accrueFixed_eq_ok hbound
  · exact Calculation.accrue_le le_rfl (by simp only [InterestTerms.atRate]; omega) le_rfl
  · exact Calculation.accrue_le le_rfl (min_le_right _ _) le_rfl

theorem accrueVariable_mono {principal' start stop start' stop' benchmark benchmark' observed observed' interest' rate' : Nat}
    (h : accrueVariable principal start stop benchmark observed terms = .ok (interest, rate))
    (h' : accrueVariable principal' start' stop' benchmark' observed' terms = .ok (interest', rate'))
    (more : principal ≤ principal') (higher : benchmark ≤ benchmark') (longer : stop - start ≤ stop' - start') :
    interest ≤ interest' := by
  obtain ⟨hrate, rfl⟩ := accrueVariable_eq_ok h
  obtain ⟨hrate', rfl⟩ := accrueVariable_eq_ok h'
  obtain ⟨-, rfl⟩ := boundedRate_eq_ok hrate
  obtain ⟨-, rfl⟩ := boundedRate_eq_ok hrate'
  exact Calculation.accrue_le more (by gcongr) longer

/-- Interest does not depend on how often it is accrued, up to rounding, and a variable rate stays between its
    bounds. -/
theorem accrual_bounds :
    (∀ principal terms, Additive fun start stop interest => accrueFixed principal start stop terms = .ok interest) ∧
    (∀ total first last, Additive fun start stop interest =>
      accrueFixedTotal total first last start stop = .ok interest) ∧
    (∀ total first last, total < 2 ^ 256 → first < last → accrueFixedTotal total first last first last = .ok total) ∧
    (∀ principal start stop benchmark observed terms interest rate,
      accrueVariable principal start stop benchmark observed terms = .ok (interest, rate) →
        (∀ low, accrueFixed principal start stop (terms.atRate terms.floorRateRay) = .ok low → low ≤ interest) ∧
        ∀ high, accrueFixed principal start stop (terms.atRate terms.capRateRay) = .ok high → interest ≤ high) ∧
    (∀ principal principal' start start' stop stop' benchmark benchmark' observed observed' terms interest interest'
        rate rate',
      accrueVariable principal start stop benchmark observed terms = .ok (interest, rate) →
      accrueVariable principal' start' stop' benchmark' observed' terms = .ok (interest', rate') →
      principal ≤ principal' → benchmark ≤ benchmark' → stop - start ≤ stop' - start' → interest ≤ interest') ∧
    (∀ principal terms, Additive fun start stop interest =>
      Calculation.accrueFixed principal start stop terms = .ok (Nat.repr interest)) ∧
    (∀ principal start stop benchmark observed terms interest rate,
      Calculation.accrueVariable principal start stop benchmark observed terms = .ok (Nat.repr interest, rate) →
        (∀ low, Calculation.accrueFixed principal start stop (terms.atRate terms.floorRateRay) = .ok (Nat.repr low) →
          low ≤ interest) ∧
        ∀ high, Calculation.accrueFixed principal start stop (terms.atRate terms.capRateRay) = .ok (Nat.repr high) →
          interest ≤ high) ∧
    ∀ principal principal' units units' start start' stop stop' benchmark benchmark' points points' observed observed' terms
        interest interest' rate rate',
      Calculation.accrueVariable principal start stop benchmark observed terms = .ok (Nat.repr interest, rate) →
      Calculation.accrueVariable principal' start' stop' benchmark' observed' terms = .ok (Nat.repr interest', rate') →
      Calculation.nonNegativeInteger principal = .ok units → Calculation.nonNegativeInteger principal' = .ok units' →
      Calculation.nonNegativeInteger benchmark = .ok points → Calculation.nonNegativeInteger benchmark' = .ok points' →
      units ≤ units' → points ≤ points' → stop - start ≤ stop' - start' → interest ≤ interest' := by
  refine ⟨accrueFixed_additive, accrueFixedTotal_additive, fun _ _ _ => accrueFixedTotal_whole, ?_, ?_,
    Calculation.accrueFixed_additive, ?_, ?_⟩
  · intro principal start stop benchmark observed terms interest rate h
    exact ⟨fun _ => (accrueVariable_between h).1, fun _ => (accrueVariable_between h).2⟩
  · intro _ _ _ _ _ _ _ _ _ _ _ _ _ _ _ h h' more higher longer
    exact accrueVariable_mono h h' more higher longer
  · intro principal start stop benchmark observed terms interest rate h
    exact ⟨fun _ => (Calculation.accrueVariable_between h).1, fun _ => (Calculation.accrueVariable_between h).2⟩
  · intro _ _ _ _ _ _ _ _ _ _ _ _ _ _ _ _ _ _ _ h h' hunits hunits' hpoints hpoints' more higher longer
    exact Calculation.accrueVariable_mono h h' hunits hunits' hpoints hpoints' more higher longer

end InterestEngine

end Unified.Risk
