import Unified.Lib.Checked

/-! What the calls of a run add up to. -/

namespace Unified

variable {ε S C : Type} (exec : C → S → Except ε S)

/-- The sum of what each call of a run counts for, where a call that reverts counts for nothing. -/
def runTotal (gain : C → S → S → Nat) : S → List C → Nat
  | _, [] => 0
  | s, c :: calls =>
    (match exec c s with
      | .ok t => gain c s t
      | .error _ => 0) + runTotal gain (commit exec s c) calls

/-- A quantity that every call moves by its gain and its loss is moved by the totals of a run. -/
theorem runTotal_balance (gain loss : C → S → S → Nat) (inv : S → Prop) (hinv : ∀ c s t, exec c s = .ok t → inv s → inv t) (value : S → Nat)
    (hstep : ∀ c s t, exec c s = .ok t → inv s → value t + loss c s t = value s + gain c s t) {s : S} (hs : inv s)
    (calls : List C) :
    value (runCalls exec s calls) + runTotal exec loss s calls = value s + runTotal exec gain s calls := by
  induction calls generalizing s with
  | nil => rfl
  | cons c _ ih =>
    rw [runCalls_cons, runTotal, runTotal]
    cases h : exec c s with
    | error =>
      have rest := ih hs
      rw [commit_of_error h]
      dsimp only
      omega
    | ok t =>
      have one := hstep c s t h hs
      have rest := ih (hinv c s t h hs)
      rw [commit_of_ok h]
      dsimp only
      omega

theorem runTotal_zero (s : S) (calls : List C) : runTotal exec (fun _ _ _ => 0) s calls = 0 := by
  induction calls generalizing s with
  | nil => rfl
  | cons c _ ih =>
    rw [runTotal, ih]
    cases exec c s <;> rfl

end Unified
