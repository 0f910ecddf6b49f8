import Mathlib
import Unified.Lib.Checked
import Unified.Lib.Evm
import Unified.Lib.Mapping

/-! Standard fungible tokens, and transfers that are checked against the balances before and after. -/

namespace Unified

/-- The balances of a token always add up to its supply. -/
structure Token where
  balances : Mapping Address Nat
  totalSupply : Nat
  conserved : balances.sum (fun _ b => b) = totalSupply

namespace Token

instance : Inhabited Token := ⟨⟨.empty, 0, rfl⟩⟩

private theorem balance_vanishes : Mapping.Vanishes (fun (_ : Address) (b : Nat) => b) := fun _ => rfl

theorem balance_le_supply (t : Token) (a : Address) : t.balances a ≤ t.totalSupply := by
  rw [← t.conserved]
  exact t.balances.weight_le_sum balance_vanishes a

theorem two_balances (t : Token) {a b : Address} (hne : a ≠ b) : t.balances a + t.balances b ≤ t.totalSupply := by
  have ha := t.balances.sum_set balance_vanishes a 0
  have hb := (t.balances.set a 0).weight_le_sum balance_vanishes b
  rw [Mapping.set_of_ne _ _ hne.symm] at hb
  have hc := t.conserved
  omega

theorem sum_credit (t : Token) (dst : Address) (amount : Nat) :
    (t.balances.modify dst (· + amount)).sum (fun _ b => b) = t.totalSupply + amount := by
  have h := t.balances.sum_set balance_vanishes dst (t.balances dst + amount)
  have hc := t.conserved
  rw [Mapping.modify]
  omega

def credit (t : Token) (dst : Address) (amount : Nat) : Token where
  balances := t.balances.modify dst (· + amount)
  totalSupply := t.totalSupply + amount
  conserved := t.sum_credit dst amount

theorem sum_debit (t : Token) (src : Address) (amount : Nat) (h : amount ≤ t.balances src) :
    (t.balances.modify src (· - amount)).sum (fun _ b => b) = t.totalSupply - amount := by
  have hs := t.balances.sum_set balance_vanishes src (t.balances src - amount)
  have hc := t.conserved
  have hle := t.balance_le_supply src
  rw [Mapping.modify]
  omega

def debit (t : Token) (src : Address) (amount : Nat) (h : amount ≤ t.balances src) : Token where
  balances := t.balances.modify src (· - amount)
  totalSupply := t.totalSupply - amount
  conserved := t.sum_debit src amount h

theorem sum_move (t : Token) (src dst : Address) (amount : Nat) (h : amount ≤ t.balances src) :
    ((t.debit src amount h).credit dst amount).balances.sum (fun _ b => b) = t.totalSupply := by
  have hle := t.balance_le_supply src
  rw [((t.debit src amount h).credit dst amount).conserved]
  change t.totalSupply - amount + amount = t.totalSupply
  omega

def move (t : Token) (src dst : Address) (amount : Nat) (h : amount ≤ t.balances src) : Token where
  balances := ((t.debit src amount h).credit dst amount).balances
  totalSupply := t.totalSupply
  conserved := t.sum_move src dst amount h

section

variable {ε : Type} {e mismatch : ε} {src dst a : Address} {amount : Nat} {t t' : Token}

def transfer (e : ε) (src dst : Address) (amount : Nat) (t : Token) : Except ε Token := do
  require (src ≠ 0 ∧ dst ≠ 0) e
  if h : amount ≤ t.balances src then pure (t.move src dst amount h) else throw e

/-- A transfer whose caller compares both balances before and after it, in checked arithmetic. -/
def transferExact (e mismatch : ε) (src dst : Address) (amount : Nat) (t : Token) : Except ε Token := do
  let after ← t.transfer e src dst amount
  require (after.balances src + amount = t.balances src ∧ after.balances dst = t.balances dst + amount) mismatch
  pure after

def mint (e : ε) (dst : Address) (amount : Nat) (t : Token) : Except ε Token := do
  require (dst ≠ 0) e
  pure (t.credit dst amount)

def burn (e : ε) (src : Address) (amount : Nat) (t : Token) : Except ε Token := do
  require (src ≠ 0) e
  if h : amount ≤ t.balances src then pure (t.debit src amount h) else throw e

theorem move_balances (h : amount ≤ t.balances src) :
    (t.move src dst amount h).balances = (t.balances.modify src (· - amount)).modify dst (· + amount) := rfl

theorem move_dst (h : amount ≤ t.balances src) (hne : src ≠ dst) :
    (t.move src dst amount h).balances dst = t.balances dst + amount := by
  rw [move_balances, Mapping.modify_self, Mapping.modify_of_ne _ _ hne.symm]

theorem move_src (h : amount ≤ t.balances src) (hne : src ≠ dst) :
    (t.move src dst amount h).balances src = t.balances src - amount := by
  rw [move_balances, Mapping.modify_of_ne _ _ hne, Mapping.modify_self]

theorem move_of_ne (h : amount ≤ t.balances src) (hs : a ≠ src) (hd : a ≠ dst) :
    (t.move src dst amount h).balances a = t.balances a := by
  rw [move_balances, Mapping.modify_of_ne _ _ hd, Mapping.modify_of_ne _ _ hs]

theorem move_self (h : amount ≤ t.balances src) : (t.move src src amount h).balances src = t.balances src := by
  rw [move_balances, Mapping.modify_self, Mapping.modify_self]
  omega

/-- A transfer of a positive amount to another account arrives in full. -/
theorem move_exact_dst (h : amount ≤ t.balances src) (hself : src = dst → amount = 0) :
    (t.move src dst amount h).balances dst = t.balances dst + amount := by
  by_cases heq : src = dst
  · subst heq
    rw [move_self, hself rfl, Nat.add_zero]
  · exact move_dst h heq

theorem move_exact_src (h : amount ≤ t.balances src) (hself : src = dst → amount = 0) :
    (t.move src dst amount h).balances src + amount = t.balances src := by
  by_cases heq : src = dst
  · subst heq
    rw [move_self, hself rfl, Nat.add_zero]
  · rw [move_src h heq]
    omega

/-- An amount has gone from one account to another, and to no other. -/
structure Paid (t t' : Token) (src dst : Address) (amount : Nat) : Prop where
  source : t'.balances src + amount = t.balances src
  recipient : t'.balances dst = t.balances dst + amount
  others : ∀ a, a ≠ src → a ≠ dst → t'.balances a = t.balances a

theorem paid_move (h : amount ≤ t.balances src) (hself : src = dst → amount = 0) :
    t.Paid (t.move src dst amount h) src dst amount :=
  ⟨move_exact_src h hself, move_exact_dst h hself, fun _ hs hd => move_of_ne h hs hd⟩

theorem le_move (h : amount ≤ t.balances src) (hs : a ≠ src) : t.balances a ≤ (t.move src dst amount h).balances a := by
  by_cases hd : a = dst
  · subst hd
    rw [move_dst h hs.symm]
    exact Nat.le_add_right _ _
  · rw [move_of_ne h hs hd]

theorem debit_of_ne (h : amount ≤ t.balances src) (hs : a ≠ src) : (t.debit src amount h).balances a = t.balances a :=
  Mapping.modify_of_ne t.balances (· - amount) hs

theorem transfer_eq_ok : t.transfer e src dst amount = .ok t' ↔
    src ≠ 0 ∧ dst ≠ 0 ∧ ∃ h : amount ≤ t.balances src, t' = t.move src dst amount h := by
  simp only [transfer, block_eq_ok, and_assoc]
  refine and_congr_right fun _ => and_congr_right fun _ => ?_
  split
  next h =>
    rw [pure_eq_ok]
    exact ⟨fun heq => ⟨h, heq.symm⟩, fun ⟨_, heq⟩ => heq.symm⟩
  next h => simp [throw, throwThe, MonadExceptOf.throw, h]

theorem transferExact_eq_ok : t.transferExact e mismatch src dst amount = .ok t' ↔
    src ≠ 0 ∧ dst ≠ 0 ∧ (src = dst → amount = 0) ∧ ∃ h : amount ≤ t.balances src, t' = t.move src dst amount h := by
  simp only [transferExact, block_eq_ok, transfer_eq_ok]
  constructor
  · rintro ⟨_, ⟨h0, h1, hle, rfl⟩, ⟨hs, -⟩, rfl⟩
    refine ⟨h0, h1, ?_, hle, rfl⟩
    rintro rfl
    rw [move_self hle] at hs
    omega
  · rintro ⟨h0, h1, hself, hle, rfl⟩
    exact ⟨_, ⟨h0, h1, hle, rfl⟩, ⟨move_exact_src hle hself, move_exact_dst hle hself⟩, rfl⟩

theorem mint_eq_ok : t.mint e dst amount = .ok t' ↔ dst ≠ 0 ∧ t' = t.credit dst amount := by
  simp only [mint, block_eq_ok]
  exact and_congr_right fun _ => eq_comm

theorem burn_eq_ok : t.burn e src amount = .ok t' ↔
    src ≠ 0 ∧ ∃ h : amount ≤ t.balances src, t' = t.debit src amount h := by
  simp only [burn, block_eq_ok]
  refine and_congr_right fun _ => ?_
  split
  next h =>
    rw [pure_eq_ok]
    exact ⟨fun heq => ⟨h, heq.symm⟩, fun ⟨_, heq⟩ => heq.symm⟩
  next h => simp [throw, throwThe, MonadExceptOf.throw, h]

end

end Token

end Unified
