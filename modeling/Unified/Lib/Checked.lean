import Mathlib.Init

/-! Straight-line programs of checks that either revert or go on, and the reading back of a run that
    did not revert. -/

namespace Unified

section

variable {ε α β : Type} {c : Prop} {e : ε} {b : β} {x : Except ε α} {a : α}

/-- One guard of a function body. -/
def require (c : Prop) [Decidable c] (e : ε) : Except ε Unit := if c then .ok () else .error e

theorem require_eq_ok [Decidable c] {u : Unit} : require c e = .ok u ↔ c := by
  unfold require
  split <;> simp_all

theorem bind_eq_ok {f : α → Except ε β} : (x >>= f) = .ok b ↔ ∃ a, x = .ok a ∧ f a = .ok b := by
  cases x <;> simp [bind, Except.bind]

theorem require_bind_eq_ok [Decidable c] {f : Unit → Except ε β} : (require c e >>= f) = .ok b ↔ c ∧ f () = .ok b := by
  rw [bind_eq_ok]
  constructor
  · rintro ⟨u, hu, hf⟩
    exact ⟨require_eq_ok.mp hu, hf⟩
  · rintro ⟨hc, hf⟩
    exact ⟨(), require_eq_ok.mpr hc, hf⟩

theorem pure_eq_ok {b : α} : (pure a : Except ε α) = .ok b ↔ a = b := by
  simp [pure, Except.pure]

/-- How a body that did not revert is read back: its steps, its guards and its result. -/
theorem block_eq_ok :
    (∀ {ε α β : Type} (x : Except ε α) (f : α → Except ε β) b, (x >>= f) = .ok b ↔ ∃ a, x = .ok a ∧ f a = .ok b) ∧
    (∀ {ε : Type} (c : Prop) [Decidable c] (e : ε) (u : Unit), require c e = .ok u ↔ c) ∧
    (∀ {ε α : Type} (a b : α), (pure a : Except ε α) = .ok b ↔ a = b) ∧ ∀ p : Prop, (∃ _ : Unit, p) ↔ p :=
  ⟨fun _ _ _ => bind_eq_ok, fun _ _ _ _ => require_eq_ok, fun _ _ => pure_eq_ok, fun _ => exists_const _⟩

theorem mapError_eq_ok {ε' : Type} {f : ε → ε'} : x.mapError f = .ok a ↔ x = .ok a := by
  cases x with
  | error => constructor <;> intro h <;> cases h
  | ok => constructor <;> intro h <;> cases h <;> rfl

theorem exists_of_isOk (h : x.isOk = true) : ∃ a, x = .ok a := by
  cases x with
  | error => cases h
  | ok a => exact ⟨a, rfl⟩

theorem exists_of_toOption {f : α → β} (h : x.toOption.map f = some b) : ∃ a, x = .ok a ∧ f a = b := by
  cases x with
  | error => cases h
  | ok a => exact ⟨a, rfl, Option.some.inj h⟩

/-- The value of an optional read, or a revert where there is none. -/
def orRevert (x : Option α) (e : ε) : Except ε α :=
  match x with
  | some a => .ok a
  | none => .error e

theorem orRevert_eq_ok {x : Option α} : orRevert x e = .ok a ↔ x = some a := by
  cases x <;> simp [orRevert]

end

section

variable {ε σ α : Type} {f : σ → α → Except ε σ} {s t : σ} {xs : List α}

/-- What every round that does not revert keeps holds at the end of the loop. -/
theorem foldlM_invariant (inv : σ → Prop) (step : ∀ x ∈ xs, ∀ s t, f s x = .ok t → inv s → inv t)
    (h : xs.foldlM f s = .ok t) (hs : inv s) : inv t := by
  induction xs generalizing s with
  | nil =>
    cases h
    exact hs
  | cons x _ ih =>
    rw [List.foldlM_cons, bind_eq_ok] at h
    obtain ⟨u, hu, h⟩ := h
    exact ih (fun y hy => step y (List.mem_cons_of_mem _ hy)) h (step x List.mem_cons_self s u hu hs)

/-- An invariant that also speaks of the rounds so far. -/
theorem foldlM_trail (inv : List α → σ → Prop)
    (step : ∀ before, ∀ x ∈ xs, ∀ s t, f s x = .ok t → inv before s → inv (before ++ [x]) t)
    (h : xs.foldlM f s = .ok t) (hs : inv [] s) : inv xs t := by
  suffices walk : ∀ after before, (∀ x ∈ after, x ∈ xs) → ∀ s, inv before s → after.foldlM f s = .ok t →
      inv (before ++ after) t from walk xs [] (fun _ hx => hx) s hs h
  intro after
  induction after with
  | nil =>
    intro before _ s hs h
    cases h
    rwa [List.append_nil]
  | cons x _ ih =>
    intro before hmem s hs h
    rw [List.foldlM_cons, bind_eq_ok] at h
    obtain ⟨u, hu, h⟩ := h
    have := ih (before ++ [x]) (fun y hy => hmem y (List.mem_cons_of_mem _ hy)) u
      (step before x (hmem x List.mem_cons_self) s u hu hs) h
    rwa [List.append_assoc] at this

end

section

variable {ε S C : Type} (exec : C → S → Except ε S)

/-- A call that reverts changes nothing. -/
def commit (s : S) (c : C) : S :=
  match exec c s with
  | .ok t => t
  | .error _ => s

def runCalls (s : S) (calls : List C) : S := calls.foldl (commit exec) s

variable {exec} {c : C} {s : S}

theorem commit_of_ok {t : S} (h : exec c s = .ok t) : commit exec s c = t := by
  simp only [commit, h]

theorem commit_of_error {e : ε} (h : exec c s = .error e) : commit exec s c = s := by
  simp only [commit, h]

@[simp] theorem runCalls_nil (s : S) : runCalls exec s [] = s := rfl

@[simp] theorem runCalls_cons (s : S) (c : C) (calls : List C) :
    runCalls exec s (c :: calls) = runCalls exec (commit exec s c) calls := rfl

theorem runCalls_append (s : S) (calls later : List C) :
    runCalls exec s (calls ++ later) = runCalls exec (runCalls exec s calls) later :=
  List.foldl_append

/-- What every call of a run preserves when it does not revert holds after the run. -/
theorem runCalls_invariant_of_mem (inv : S → Prop) {calls : List C}
    (hstep : ∀ c ∈ calls, ∀ s t, exec c s = .ok t → inv s → inv t) (hs : inv s) : inv (runCalls exec s calls) := by
  induction calls generalizing s with
  | nil => exact hs
  | cons c _ ih =>
    refine ih (fun c' hc' => hstep c' (List.mem_cons_of_mem _ hc')) ?_
    unfold commit
    split
    · next t h => exact hstep c List.mem_cons_self s t h hs
    · exact hs

/-- What every call that does not revert preserves holds along every run. -/
theorem runCalls_invariant (inv : S → Prop) (hstep : ∀ c s t, exec c s = .ok t → inv s → inv t) (hs : inv s)
    (calls : List C) : inv (runCalls exec s calls) :=
  runCalls_invariant_of_mem inv (fun c _ => hstep c) hs

theorem runCalls_relation (inv : S → Prop) (rel : S → S → Prop) (hrefl : ∀ s, rel s s)
    (htrans : ∀ s t u, rel s t → rel t u → rel s u) (hinv : ∀ c s t, exec c s = .ok t → inv s → inv t)
    (hstep : ∀ c s t, exec c s = .ok t → inv s → rel s t) (hs : inv s) (calls : List C) :
    rel s (runCalls exec s calls) := by
  induction calls generalizing s with
  | nil => exact hrefl s
  | cons c _ ih =>
    rw [runCalls_cons]
    unfold commit
    split
    · next t h => exact htrans s t _ (hstep c s t h hs) (ih (hinv c s t h hs))
    · exact ih hs

/-- Every new entry of a log that each call extends by at most one was written by one call of the run. -/
theorem exists_logging_call {E : Type} (log : S → List E) (written : E → S → S → Prop)
    (hstep : ∀ c s t, exec c s = .ok t → log t = log s ∨ ∃ e, log t = log s ++ [e] ∧ written e s t) {calls : List C}
    {e : E} (he : e ∈ log (runCalls exec s calls)) (hnew : e ∉ log s) : ∃ before c after, calls = before ++ c :: after ∧
      written e (runCalls exec s before) (commit exec (runCalls exec s before) c) := by
  induction calls generalizing s with
  | nil => exact absurd he hnew
  | cons c calls ih =>
    by_cases hnext : e ∈ log (commit exec s c)
    · refine ⟨[], c, calls, rfl, ?_⟩
      rw [runCalls_nil]
      cases hcall : exec c s with
      | error => exact absurd (commit_of_error hcall ▸ hnext) hnew
      | ok t =>
        rw [commit_of_ok hcall] at hnext ⊢
        rcases hstep c s t hcall with hsame | ⟨e', hlog, hwritten⟩
        · exact absurd (hsame ▸ hnext) hnew
        · rw [hlog, List.mem_append, List.mem_singleton] at hnext
          exact hnext.resolve_left hnew ▸ hwritten
    · obtain ⟨before, c', after, rfl, hwritten⟩ := ih he hnext
      exact ⟨c :: before, c', after, rfl, hwritten⟩

end

end Unified
