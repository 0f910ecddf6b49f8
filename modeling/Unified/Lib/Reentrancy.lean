import Unified.Lib.Checked

/-! Calls that hand over control on their way. An operation that moves something can run code of others before and after
    the move; what that code does is a list of further calls, which are made in the state of the unfinished operation. -/

namespace Unified

/-- An operation with the calls that are made from inside it. -/
inductive CallTree (O : Type) where
  | call (op : O) (before after : List (CallTree O))

namespace CallTree

variable {ε S O : Type}

section

variable (perform : O → (S → S) → (S → S) → S → Except ε S)

mutual

/-- The operation with its inner calls. -/
def exec : CallTree O → S → Except ε S
  | .call op before after, s => perform op (execAll before) (execAll after) s

/-- Calls one after the other; one that reverts changes nothing. -/
def execAll : List (CallTree O) → S → S
  | [], s => s
  | c :: calls, s => execAll calls (match exec c s with
    | .ok t => t
    | .error _ => s)

end

end

/-! ### The operations of a tree -/

mutual

def ops : CallTree O → List O
  | .call op before after => op :: (opsAll before ++ opsAll after)

def opsAll : List (CallTree O) → List O
  | [] => []
  | c :: calls => ops c ++ opsAll calls

end

mutual

/-- No operation clashes with one that is made from inside it. -/
def Apart (clash : O → O → Prop) : CallTree O → Prop
  | .call op before after => (∀ o ∈ opsAll before ++ opsAll after, ¬ clash op o) ∧ ApartAll clash before ∧
    ApartAll clash after

def ApartAll (clash : O → O → Prop) : List (CallTree O) → Prop
  | [] => True
  | c :: calls => Apart clash c ∧ ApartAll clash calls

end

theorem mem_opsAll {calls : List (CallTree O)} {o : O} : o ∈ opsAll calls ↔ ∃ c ∈ calls, o ∈ ops c := by
  induction calls with
  | nil => simp [opsAll]
  | cons _ _ ih => simp [opsAll, ih]

theorem apartAll_iff {clash : O → O → Prop} {calls : List (CallTree O)} :
    ApartAll clash calls ↔ ∀ c ∈ calls, Apart clash c := by
  induction calls with
  | nil => simp [ApartAll]
  | cons _ _ ih => simp [ApartAll, ih]

variable {perform : O → (S → S) → (S → S) → S → Except ε S}

/-- What code that runs inside a call keeps and relates. -/
def Keeps (inv : S → Prop) (rel : S → S → Prop) (inner : S → S) : Prop := ∀ s, inv s → inv (inner s) ∧ rel s (inner s)

section

variable (good : CallTree O → Prop) (inv : S → Prop) (rel : S → S → Prop)

mutual

/-- If every operation keeps an invariant and a relation, provided that its inner calls do, then every tree of calls does. -/
theorem exec_keeps
    (inner : ∀ op before after, good (.call op before after) → (∀ c ∈ before, good c) ∧ ∀ c ∈ after, good c)
    (hrefl : ∀ s, rel s s) (htrans : ∀ s t u, rel s t → rel t u → rel s u)
    (step : ∀ op before after s t, good (.call op before after) → Keeps inv rel (execAll perform before) →
      Keeps inv rel (execAll perform after) →
      perform op (execAll perform before) (execAll perform after) s = .ok t → inv s → inv t ∧ rel s t)
    (c : CallTree O) (hgood : good c) (s t : S) (h : exec perform c s = .ok t) (hs : inv s) : inv t ∧ rel s t := by
  match c with
  | .call op before after =>
    rw [exec] at h
    obtain ⟨hbefore, hafter⟩ := inner op before after hgood
    exact step op before after s t hgood
      (execAll_keeps inner hrefl htrans step before hbefore)
      (execAll_keeps inner hrefl htrans step after hafter) h hs

theorem execAll_keeps
    (inner : ∀ op before after, good (.call op before after) → (∀ c ∈ before, good c) ∧ ∀ c ∈ after, good c)
    (hrefl : ∀ s, rel s s) (htrans : ∀ s t u, rel s t → rel t u → rel s u)
    (step : ∀ op before after s t, good (.call op before after) → Keeps inv rel (execAll perform before) →
      Keeps inv rel (execAll perform after) →
      perform op (execAll perform before) (execAll perform after) s = .ok t → inv s → inv t ∧ rel s t)
    (calls : List (CallTree O)) (hgood : ∀ c ∈ calls, good c) : Keeps inv rel (execAll perform calls) := by
  match calls with
  | [] =>
    intro s hs
    rw [execAll]
    exact ⟨hs, hrefl s⟩
  | c :: calls =>
    intro s hs
    rw [execAll]
    have hrest := execAll_keeps inner hrefl htrans step calls fun c' hc' => hgood c' (List.mem_cons_of_mem _ hc')
    cases h : exec perform c s with
    | error => exact hrest s hs
    | ok t =>
      obtain ⟨ht, hst⟩ := exec_keeps inner hrefl htrans step c (hgood c List.mem_cons_self) s t h hs
      obtain ⟨hu, htu⟩ := hrest t ht
      exact ⟨hu, htrans _ _ _ hst htu⟩

end

end

end CallTree

end Unified
